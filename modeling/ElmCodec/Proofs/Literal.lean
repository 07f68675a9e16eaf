import ElmCodec.Elm.Literal
import Mathlib.Data.List.Basic

/-!
# String literals

A string literal stands for its content.  `content` reads it up to the closing quote.  The grammar
of what may stand there is said apart from that (`Denotes`): plain characters, letters after a
backslash, and character codes in braces.  Nothing in it is a quote by itself, so that a literal
ends at the first quote that is not escaped, whatever comes after it (`Denotes.content_eq`), and
nothing in it is a control character (`Denotes.le_of_mem`).

The literal of a text belongs to the grammar and stands for the text, whatever quotes,
backslashes and control characters the text has (`denotes_flatMap_escape`).
-/

namespace ElmCodec.Elm

/-! ## Reading -/

/-- How far an escape sequence is read. -/
inductive Escape where
  /-- No escape sequence is open. -/
  | none
  /-- After a backslash. -/
  | backslash
  /-- After a backslash and the letter of a character code. -/
  | letter
  /-- Inside the braces of a character code. -/
  | code (n : Nat)

/-- The character that a letter after a backslash stands for. -/
def unescape : Char → Option Char
  | '\\' => some '\\'
  | '"' => some '"'
  | 'n' => some '\n'
  | 'r' => some '\r'
  | 't' => some '\t'
  | _ => none

/-- The value of a digit to the base sixteen. -/
def hexValue (c : Char) : Option Nat :=
  if '0' ≤ c ∧ c ≤ '9' then some (c.toNat - '0'.toNat)
  else if 'A' ≤ c ∧ c ≤ 'F' then some (c.toNat - 'A'.toNat + 10)
  else if 'a' ≤ c ∧ c ≤ 'f' then some (c.toNat - 'a'.toNat + 10)
  else none

/-- A result with a character before its content. -/
def withChar (c : Char) (r : Option (List Char × List Char)) : Option (List Char × List Char) :=
  r.map fun (content, rest) => (c :: content, rest)

/-- The content of a string literal up to its closing quote, and what comes after it. -/
def content (state : Escape) : List Char → Option (List Char × List Char)
  | [] => none
  | c :: rest =>
    match state with
    | .none =>
      if c = '"' then some ([], rest)
      else if c = '\\' then content .backslash rest
      else if c.toNat < 0x20 then none
      else withChar c (content .none rest)
    | .backslash =>
      if c = 'u' then content .letter rest
      else (unescape c).bind fun c' => withChar c' (content .none rest)
    | .letter => if c = '\x7b' then content (.code 0) rest else none
    | .code n =>
      if c = '\x7d' then withChar (Char.ofNat n) (content .none rest)
      else (hexValue c).bind fun d => content (.code (16 * n + d)) rest

theorem withChar_eq_some {c : Char} {r : Option (List Char × List Char)} {s rest : List Char} :
    withChar c r = some (s, rest) ↔ ∃ s', s = c :: s' ∧ r = some (s', rest) := by
  cases r with
  | none => simp [withChar]
  | some x =>
    obtain ⟨s', rest'⟩ := x
    constructor
    · intro h
      cases h
      exact ⟨s', rfl, rfl⟩
    · rintro ⟨s', rfl, h⟩
      cases h
      rfl

/-- What comes after a string literal is left as it is. -/
theorem content_eq_some {state : Escape} {cs s rest : List Char}
    (h : content state cs = some (s, rest)) :
    ∃ body, cs = body ++ rest ∧ body ≠ [] ∧
      ∀ rest', content state (body ++ rest') = some (s, rest') := by
  induction cs generalizing state s with
  | nil => cases h
  | cons c cs ih =>
    have hchar : ∀ {c'}, withChar c' (content .none cs) = some (s, rest) →
        ∃ body, cs = body ++ rest ∧
          ∀ rest', withChar c' (content .none (body ++ rest')) = some (s, rest') := by
      intro c' hchar
      obtain ⟨s', hs, hread⟩ := withChar_eq_some.mp hchar
      obtain ⟨body, hcs, -, hbody⟩ := ih hread
      exact ⟨body, hcs, fun rest' => withChar_eq_some.mpr ⟨s', hs, hbody rest'⟩⟩
    unfold content at h
    cases state with
    | none =>
      dsimp only at h
      split at h
      next hc =>
        cases h
        exact ⟨[c], rfl, by simp, fun rest' => by simp [content, hc]⟩
      next hc =>
        split at h
        next hslash =>
          obtain ⟨body, rfl, -, hbody⟩ := ih h
          exact ⟨c :: body, rfl, by simp, fun rest' => by simp [content, hslash, hbody]⟩
        next hslash =>
          split at h
          next => cases h
          next hcontrol =>
            obtain ⟨body, rfl, hbody⟩ := hchar h
            exact ⟨c :: body, rfl, by simp, fun rest' => by
              simp [content, hc, hslash, hcontrol, hbody]⟩
    | backslash =>
      dsimp only at h
      split at h
      next hc =>
        obtain ⟨body, rfl, -, hbody⟩ := ih h
        exact ⟨c :: body, rfl, by simp, fun rest' => by simp [content, hc, hbody]⟩
      next hc =>
        obtain ⟨c', hc', h⟩ := Option.bind_eq_some_iff.mp h
        obtain ⟨body, rfl, hbody⟩ := hchar h
        exact ⟨c :: body, rfl, by simp, fun rest' => by simp [content, hc, hc', hbody]⟩
    | letter =>
      dsimp only at h
      split at h
      next hc =>
        obtain ⟨body, rfl, -, hbody⟩ := ih h
        exact ⟨c :: body, rfl, by simp, fun rest' => by simp [content, hc, hbody]⟩
      next => cases h
    | code n =>
      dsimp only at h
      split at h
      next hc =>
        obtain ⟨body, rfl, hbody⟩ := hchar h
        exact ⟨c :: body, rfl, by simp, fun rest' => by simp [content, hc, hbody]⟩
      next hc =>
        obtain ⟨d, hd, h⟩ := Option.bind_eq_some_iff.mp h
        obtain ⟨body, rfl, -, hbody⟩ := ih h
        exact ⟨c :: body, rfl, by simp, fun rest' => by simp [content, hc, hd, hbody]⟩

/-- Reads a string literal from the start of a text, and returns what comes after it. -/
def readLiteral? : List Char → Option (List Char × List Char)
  | '"' :: cs => content .none cs
  | _ => none

/-! ## The grammar -/

/-- The number that digits to the base sixteen are, after a number read before them. -/
def hexNumberAfter (n : Nat) (digits : List Char) : Option Nat :=
  digits.foldlM (fun n c => (hexValue c).map (16 * n + ·)) n

/-- What stands between the quotes of a string literal, and the text that it stands for. -/
inductive Denotes : List Char → List Char → Prop where
  | nil : Denotes [] []
  | plain (c : Char) {cs s : List Char} : c ≠ '"' → c ≠ '\\' → 0x20 ≤ c.toNat → Denotes cs s →
      Denotes (c :: cs) (c :: s)
  | letter (c : Char) {d : Char} {cs s : List Char} : unescape c = some d → Denotes cs s →
      Denotes ('\\' :: c :: cs) (d :: s)
  | code (digits : List Char) {n : Nat} {cs s : List Char} : digits ≠ [] →
      hexNumberAfter 0 digits = some n → n.isValidChar → Denotes cs s →
      Denotes ('\\' :: 'u' :: '\x7b' :: digits ++ '\x7d' :: cs) (Char.ofNat n :: s)

theorem hexNumberAfter_cons {n k : Nat} {c : Char} {digits : List Char} :
    hexNumberAfter n (c :: digits) = some k ↔
      ∃ d, hexValue c = some d ∧ hexNumberAfter (16 * n + d) digits = some k := by
  simp [hexNumberAfter, List.foldlM_cons, Option.bind_eq_some_iff]

/-- A digit to the base sixteen is no control character and no closing brace. -/
theorem hexValue_bounds {c : Char} {d : Nat} (h : hexValue c = some d) :
    0x20 ≤ c.toNat ∧ c ≠ '\x7d' := by
  have hbounds : 0x30 ≤ c.toNat ∧ c.toNat ≤ 0x66 := by
    rw [hexValue] at h
    split at h
    next hc =>
      have hlow : 0x30 ≤ c.toNat := hc.1
      have hhigh : c.toNat ≤ 0x39 := hc.2
      omega
    split at h
    next hc =>
      have hlow : 0x41 ≤ c.toNat := hc.1
      have hhigh : c.toNat ≤ 0x46 := hc.2
      omega
    split at h
    next hc =>
      have hlow : 0x61 ≤ c.toNat := hc.1
      have hhigh : c.toNat ≤ 0x66 := hc.2
      omega
    next => cases h
  refine ⟨by omega, ?_⟩
  rintro rfl
  simp at hbounds

theorem hexValue_of_mem {n k : Nat} {digits : List Char}
    (h : hexNumberAfter n digits = some k) : ∀ c ∈ digits, ∃ d, hexValue c = some d := by
  induction digits generalizing n with
  | nil => simp
  | cons c digits ih =>
    obtain ⟨d, hd, hrest⟩ := hexNumberAfter_cons.mp h
    exact List.forall_mem_cons.mpr ⟨⟨d, hd⟩, ih hrest⟩

/-- The letters after backslashes, which are no control characters. -/
theorem unescape_bounds {c d : Char} (h : unescape c = some d) : 0x20 ≤ c.toNat ∧ c ≠ 'u' := by
  unfold unescape at h
  split at h
  case h_6 => cases h
  all_goals decide

/-- What belongs to the grammar has no control characters. -/
theorem Denotes.le_of_mem {body s : List Char} (h : Denotes body s) :
    ∀ c ∈ body, 0x20 ≤ c.toNat := by
  have hslash : 0x20 ≤ '\\'.toNat := by decide
  induction h with
  | nil => simp
  | plain c _ _ hc _ ih => exact List.forall_mem_cons.mpr ⟨hc, ih⟩
  | letter c hc _ ih =>
    exact List.forall_mem_cons.mpr
      ⟨hslash, List.forall_mem_cons.mpr ⟨(unescape_bounds hc).1, ih⟩⟩
  | code digits _ hn _ _ ih =>
    have hdigits : ∀ c ∈ digits, 0x20 ≤ c.toNat := by
      intro c hc
      obtain ⟨d, hd⟩ := hexValue_of_mem hn c hc
      exact (hexValue_bounds hd).1
    have hmarks : 0x20 ≤ 'u'.toNat ∧ 0x20 ≤ '\x7b'.toNat ∧ 0x20 ≤ '\x7d'.toNat := by decide
    simp only [List.cons_append, List.forall_mem_cons, List.forall_mem_append]
    exact ⟨hslash, hmarks.1, hmarks.2.1, hdigits, hmarks.2.2, ih⟩

/-! ## Literals end at their closing quotes -/

/-- The digits of a character code are read as a number. -/
theorem content_code {n k : Nat} {digits : List Char} (h : hexNumberAfter n digits = some k)
    (rest : List Char) :
    content (.code n) (digits ++ '\x7d' :: rest) =
      withChar (Char.ofNat k) (content .none rest) := by
  induction digits generalizing n with
  | nil => cases h; simp [content]
  | cons c digits ih =>
    obtain ⟨d, hd, hrest⟩ := hexNumberAfter_cons.mp h
    rw [List.cons_append, content, if_neg (hexValue_bounds hd).2, hd]
    exact ih hrest

/-- What belongs to the grammar is read up to the quote after it. -/
theorem Denotes.content_eq {body s : List Char} (h : Denotes body s) (rest : List Char) :
    content .none (body ++ '"' :: rest) = some (s, rest) := by
  induction h with
  | nil => simp [content]
  | plain c hquote hslash hcontrol _ ih =>
    have hplain : ¬ c.toNat < 0x20 := by omega
    simp [content, hquote, hslash, hplain, ih, withChar]
  | letter c hc _ ih => simp [content, (unescape_bounds hc).2, hc, ih, withChar]
  | code digits _ hn _ _ ih => simp [content, content_code hn, ih, withChar]

/-! ## The literal of a text -/

theorem controlCode_eq : ∀ n < 0x20,
    hexNumberAfter 0 ((Text.hexPadded 4 n).map Char.toUpper) = some n := by
  decide +kernel

theorem controlCode_ne_nil (n : Nat) : (Text.hexPadded 4 n).map Char.toUpper ≠ [] := by
  simp [Text.hexPadded, Nat.toDigits_ne_nil]

theorem Denotes.escape {cs s : List Char} (h : Denotes cs s) (c : Char) :
    Denotes (escape c ++ cs) (c :: s) := by
  by_cases hslash : c = '\\'
  · subst hslash; exact .letter '\\' rfl h
  by_cases hquote : c = '"'
  · subst hquote; exact .letter '"' rfl h
  by_cases hline : c = '\n'
  · subst hline; exact .letter 'n' rfl h
  by_cases hreturn : c = '\r'
  · subst hreturn; exact .letter 'r' rfl h
  by_cases htab : c = '\t'
  · subst htab; exact .letter 't' rfl h
  by_cases hcontrol : c.toNat < 0x20
  · have hcode := Denotes.code _ (controlCode_ne_nil c.toNat) (controlCode_eq c.toNat hcontrol)
      c.valid h
    rw [Char.ofNat_toNat] at hcode
    simpa [Elm.escape, hslash, hquote, hline, hreturn, htab, hcontrol] using hcode
  · have hplain : Elm.escape c = [c] := by
      simp [Elm.escape, hslash, hquote, hline, hreturn, htab, hcontrol]
    rw [hplain]
    exact .plain c hquote hslash (by omega) h

theorem denotes_flatMap_escape (s : List Char) : Denotes (s.flatMap escape) s := by
  induction s with
  | nil => exact .nil
  | cons c s ih => exact ih.escape c

theorem content_literal (s rest : List Char) :
    content .none (s.flatMap escape ++ '"' :: rest) = some (s, rest) :=
  (denotes_flatMap_escape s).content_eq rest

theorem literal_toList (s : String) :
    (literal s).toList = '"' :: s.toList.flatMap escape ++ ['"'] := by
  rw [literal, String.toList_ofList]

/-- A literal has no control characters. -/
theorem le_of_mem_literal {key : String} {c : Char} (h : c ∈ (literal key).toList) :
    0x20 ≤ c.toNat := by
  have hquote : 0x20 ≤ '"'.toNat := by decide
  rw [literal_toList, List.mem_append, List.mem_cons, List.mem_singleton] at h
  rcases h with (rfl | hc) | rfl
  · exact hquote
  · exact (denotes_flatMap_escape key.toList).le_of_mem c hc
  · exact hquote

/-- The literal of a text is read back and ends where it was written to end, whatever comes after
it.  There is no other way to read it by the grammar, and it has no control characters. -/
theorem literal_reads_back (s : String) (rest : List Char) :
    readLiteral? ((literal s).toList ++ rest) = some (s.toList, rest) ∧
    (∃ body, (literal s).toList = '"' :: body ++ ['"'] ∧ Denotes body s.toList) ∧
    (∀ body s' rest', (literal s).toList ++ rest = '"' :: body ++ '"' :: rest' →
      Denotes body s' → s' = s.toList ∧ rest' = rest) ∧
    ∀ c ∈ (literal s).toList, 0x20 ≤ c.toNat := by
  have hread := content_literal s.toList rest
  refine ⟨?_, ⟨_, literal_toList s, denotes_flatMap_escape s.toList⟩, ?_,
    fun c hc => le_of_mem_literal hc⟩
  · rw [literal_toList]
    simpa [readLiteral?] using hread
  · intro body s' rest' htext hdenotes
    have hsame : s.toList.flatMap escape ++ '"' :: rest = body ++ '"' :: rest' := by
      simpa [literal_toList] using htext
    rw [hsame, hdenotes.content_eq rest'] at hread
    simpa using hread

end ElmCodec.Elm
