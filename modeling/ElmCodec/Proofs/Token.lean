import ElmCodec.Proofs.Literal

/-!
# Tokens of Elm text

Elm text is read in two stages, and this module is the first.  A text is a sequence of
words, string literals, marks and operators, with blanks between them.  A word is a name,
with the name of its module before a dot.

A word ends where no name character follows, and an operator where no operator character
follows.  `Spells` says this of a text and its tokens.  It asks nothing of the characters
inside a word, since a module may be written with any names.  If all words consist of name
characters then there is one way to read the text, which `lex` finds (`lex_eq`).

A string literal stands for its content, which `content` reads up to the closing quote.
-/

namespace ElmCodec.Elm

/-! ## Tokens -/

/-- A token of Elm text. -/
inductive Token where
  /-- A name, perhaps with the name of its module. -/
  | word (s : String)
  /-- A string literal, by its content. -/
  | text (s : String)
  /-- A bracket or a comma. -/
  | mark (c : Char)
  /-- An operator, or another sequence of operator characters. -/
  | operator (s : String)
deriving DecidableEq

/-- Whether a character only divides tokens. -/
def isBlank (c : Char) : Bool := c == ' ' || c == '\n'

/-- Whether a character is a token by itself. -/
def isMark (c : Char) : Bool := ['(', ')', '[', ']', '\x7b', '\x7d', ','].contains c

/-- Whether a character belongs to names. -/
def isNameChar (c : Char) : Bool := c.isAlphanum || c == '_' || c == '.' || 0x80 ≤ c.toNat

/-- Whether a character belongs to operators. -/
def isOperatorChar (c : Char) : Bool :=
  ['=', ':', '|', '<', '>', '-', '+', '*', '/', '&', '^', '!'].contains c

theorem stop_of_isBlank {c : Char} (h : isBlank c = true) :
    isNameChar c = false ∧ isOperatorChar c = false := by
  have hstop : [' ', '\n'].all (fun d => !isNameChar d && !isOperatorChar d) = true := rfl
  simpa using List.all_eq_true.mp hstop c (by simpa [isBlank] using h)

theorem stop_of_isMark {c : Char} (h : isMark c = true) :
    isNameChar c = false ∧ isOperatorChar c = false := by
  have hstop : ['(', ')', '[', ']', '\x7b', '\x7d', ','].all
      (fun d => !isNameChar d && !isOperatorChar d) = true := rfl
  simpa using List.all_eq_true.mp hstop c (by simpa [isMark] using h)

/-- A text is written with some tokens.  A word may consist of any characters. -/
inductive Spells : List Token → List Char → Prop where
  | nil : Spells [] []
  | blank (c : Char) {ts : List Token} {cs : List Char} :
      isBlank c = true → Spells ts cs → Spells ts (c :: cs)
  | mark (c : Char) {ts : List Token} {cs : List Char} :
      isMark c = true → Spells ts cs → Spells (.mark c :: ts) (c :: cs)
  | text {s : String} {ts : List Token} {cs rest : List Char} :
      content .none cs = some (s.toList, rest) → Spells ts rest →
      Spells (.text s :: ts) ('"' :: cs)
  | word (w : String) {ts : List Token} {cs : List Char} :
      (∀ c ∈ cs.head?, isNameChar c = false) → Spells ts cs →
      Spells (.word w :: ts) (w.toList ++ cs)
  | operator (o : String) {ts : List Token} {cs : List Char} :
      (∀ c ∈ cs.head?, isOperatorChar c = false) → Spells ts cs →
      Spells (.operator o :: ts) (o.toList ++ cs)

namespace Spells

variable {ts ts' : List Token} {cs cs' : List Char}

/-- Texts in a row, where neither a word nor an operator can go on. -/
theorem append (h : Spells ts cs)
    (hstop : ∀ c ∈ cs'.head?, isNameChar c = false ∧ isOperatorChar c = false)
    (h' : Spells ts' cs') : Spells (ts ++ ts') (cs ++ cs') := by
  -- What follows a token is the rest of the first text, or the second one.
  have hhead : ∀ {kind : Char → Bool} {cs : List Char}, (∀ c ∈ cs'.head?, kind c = false) →
      (∀ c ∈ cs.head?, kind c = false) → ∀ c ∈ (cs ++ cs').head?, kind c = false := by
    intro kind cs hnext hrest c hc
    cases cs with
    | nil => exact hnext c hc
    | cons d cs => exact hrest c hc
  induction h with
  | nil => exact h'
  | blank c hc _ ih => exact .blank c hc ih
  | mark c hc _ ih => exact .mark c hc ih
  | text hcontent _ ih =>
    obtain ⟨body, rfl, -, hbody⟩ := content_eq_some hcontent
    refine .text ?_ ih
    exact (congrArg _ (List.append_assoc ..)).trans (hbody _)
  | word w hnext _ ih =>
    rw [List.append_assoc]
    exact .word w (hhead (fun c hc => (hstop c hc).1) hnext) ih
  | operator o hnext _ ih =>
    rw [List.append_assoc]
    exact .operator o (hhead (fun c hc => (hstop c hc).2) hnext) ih

/-- Texts with a blank between them. -/
theorem append_blank (c : Char) (hc : isBlank c = true) (h : Spells ts cs) (h' : Spells ts' cs') :
    Spells (ts ++ ts') (cs ++ c :: cs') := by
  refine h.append (fun d hd => ?_) (.blank c hc h')
  cases hd
  exact stop_of_isBlank hc

/-- Texts with a mark between them. -/
theorem append_mark (c : Char) (hc : isMark c = true) (h : Spells ts cs) (h' : Spells ts' cs') :
    Spells (ts ++ .mark c :: ts') (cs ++ c :: cs') := by
  refine h.append (fun d hd => ?_) (.mark c hc h')
  cases hd
  exact stop_of_isMark hc

theorem word_self (w : String) : Spells [.word w] w.toList := by
  have h := Spells.word w (by simp) .nil
  rwa [List.append_nil] at h

theorem operator_self (o : String) : Spells [.operator o] o.toList := by
  have h := Spells.operator o (by simp) .nil
  rwa [List.append_nil] at h

theorem literal_self (s : String) : Spells [.text s] (literal s).toList := by
  rw [literal_toList]
  exact .text (content_literal s.toList []) .nil

/-- Blanks before a text do not matter. -/
theorem blanks (n : Nat) (h : Spells ts cs) : Spells ts (List.replicate n ' ' ++ cs) := by
  induction n with
  | zero => exact h
  | succ n ih => exact .blank ' ' rfl ih

end Spells

/-! ## The tokens of a text with proper words -/

/-- Whether a text consists of characters of a class, and at least one. -/
def isRun (kind : Char → Bool) (w : String) : Bool := w.toList ≠ [] && w.toList.all kind

/-- Whether a token can be told from its neighbours. -/
def Token.isProper : Token → Bool
  | .word w => isRun isNameChar w
  | .operator o => isRun isOperatorChar o
  | .text _ | .mark _ => true

/-- The tokens of a text, where at most so many characters are read. -/
def lexFrom : Nat → List Char → Option (List Token)
  | _, [] => some []
  | 0, _ :: _ => none
  | n + 1, c :: cs =>
    if isBlank c then lexFrom n cs
    else if isMark c then (lexFrom n cs).map (.mark c :: ·)
    else if c = '"' then
      (content .none cs).bind fun (s, rest) => (lexFrom n rest).map (.text (String.ofList s) :: ·)
    else if isNameChar c then
      (lexFrom n (cs.dropWhile isNameChar)).map
        (.word (String.ofList (c :: cs.takeWhile isNameChar)) :: ·)
    else if isOperatorChar c then
      (lexFrom n (cs.dropWhile isOperatorChar)).map
        (.operator (String.ofList (c :: cs.takeWhile isOperatorChar)) :: ·)
    else none

/-- The tokens of a text. -/
def lex (cs : List Char) : Option (List Token) := lexFrom cs.length cs

example : lex "f = E.list \"a\\n\"".toList =
    some [.word "f", .operator "=", .word "E.list", .text "a\n"] := by decide

/-- A run of characters of a class ends where the class does. -/
theorem isRun_span {kind : Char → Bool} {w : String} (h : isRun kind w = true)
    {cs : List Char} (hnext : ∀ c ∈ cs.head?, kind c = false) :
    ∃ c run, w.toList ++ cs = c :: (run ++ cs) ∧ kind c = true ∧
      w = String.ofList (c :: (run ++ cs).takeWhile kind) ∧
      (run ++ cs).dropWhile kind = cs := by
  simp only [isRun, ne_eq, Bool.and_eq_true, decide_eq_true_eq, List.all_eq_true] at h
  obtain ⟨hne, hclass⟩ := h
  obtain ⟨c, run, hw⟩ := List.exists_cons_of_ne_nil hne
  have hrun : ∀ d ∈ run, kind d = true := fun d hd => hclass d (by simp [hw, hd])
  have hstop : cs.takeWhile kind = [] ∧ cs.dropWhile kind = cs := by
    cases cs with
    | nil => exact ⟨rfl, rfl⟩
    | cons c cs => simp [hnext c rfl]
  refine ⟨c, run, by rw [hw]; rfl, hclass c (by simp [hw]), ?_, ?_⟩
  · rw [List.takeWhile_append_of_pos hrun, hstop.1, List.append_nil, ← hw, String.ofList_toList]
  · rw [List.dropWhile_append_of_pos hrun, hstop.2]

/-- A character that starts a word or an operator is neither a blank, a mark nor a quote. -/
theorem starts_token {c : Char} (h : isNameChar c = true ∨ isOperatorChar c = true) :
    ¬ isBlank c = true ∧ ¬ isMark c = true ∧ c ≠ '"' := by
  refine ⟨fun hblank => ?_, fun hmark => ?_, fun hquote => ?_⟩
  · simp [stop_of_isBlank hblank] at h
  · simp [stop_of_isMark hmark] at h
  · subst hquote
    revert h
    decide

theorem not_isNameChar_of_isOperatorChar {c : Char} (h : isOperatorChar c = true) :
    ¬ isNameChar c = true := by
  have hstop : ['=', ':', '|', '<', '>', '-', '+', '*', '/', '&', '^', '!'].all
      (fun d => !isNameChar d) = true := rfl
  simpa using List.all_eq_true.mp hstop c (by simpa [isOperatorChar] using h)

theorem not_isBlank_of_isMark {c : Char} (h : isMark c = true) : ¬ isBlank c = true := by
  have hstop : ['(', ')', '[', ']', '\x7b', '\x7d', ','].all (fun d => !isBlank d) = true := rfl
  simpa using List.all_eq_true.mp hstop c (by simpa [isMark] using h)

/-- The tokens of a text whose words consist of name characters are found. -/
theorem lex_eq {ts : List Token} {cs : List Char} (h : Spells ts cs)
    (hproper : ∀ t ∈ ts, t.isProper = true) : lex cs = some ts := by
  suffices ∀ n, cs.length ≤ n → lexFrom n cs = some ts from this _ (Nat.le_refl _)
  have htail : ∀ {t : Token} {ts : List Token}, (∀ t' ∈ t :: ts, t'.isProper = true) →
      ∀ t' ∈ ts, t'.isProper = true := fun h t' ht' => h t' (List.mem_cons_of_mem _ ht')
  induction h with
  | nil => intro n _; cases n <;> rfl
  | blank c hc _ ih =>
    rintro (_ | n) hn
    · cases hn
    · rw [lexFrom, if_pos hc]
      exact ih hproper n (Nat.le_of_succ_le_succ hn)
  | mark c hc _ ih =>
    rintro (_ | n) hn
    · cases hn
    · rw [lexFrom, if_neg (not_isBlank_of_isMark hc), if_pos hc,
        ih (htail hproper) n (Nat.le_of_succ_le_succ hn)]
      rfl
  | @text s ts cs rest hcontent _ ih =>
    rintro (_ | n) hn
    · cases hn
    · obtain ⟨body, rfl, -, -⟩ := content_eq_some hcontent
      have hrest : rest.length ≤ n := by
        simp only [List.length_cons, List.length_append] at hn
        omega
      rw [lexFrom, if_neg (by decide), if_neg (by decide), if_pos rfl, hcontent]
      simp only [Option.bind_some, ih (htail hproper) n hrest, String.ofList_toList]
      rfl
  | @word w ts cs hnext _ ih =>
    obtain ⟨c, run, hcs, hc, hw, hdrop⟩ := isRun_span (hproper _ List.mem_cons_self) hnext
    obtain ⟨hblank, hmark, hquote⟩ := starts_token (Or.inl hc)
    rw [hcs]
    rintro (_ | n) hn
    · cases hn
    · have hrest : cs.length ≤ n := by
        simp only [List.length_cons, List.length_append] at hn
        omega
      rw [lexFrom, if_neg hblank, if_neg hmark, if_neg hquote, if_pos hc, hdrop, ← hw,
        ih (htail hproper) n hrest]
      rfl
  | @operator o ts cs hnext _ ih =>
    obtain ⟨c, run, hcs, hc, ho, hdrop⟩ := isRun_span (hproper _ List.mem_cons_self) hnext
    obtain ⟨hblank, hmark, hquote⟩ := starts_token (Or.inr hc)
    rw [hcs]
    rintro (_ | n) hn
    · cases hn
    · have hrest : cs.length ≤ n := by
        simp only [List.length_cons, List.length_append] at hn
        omega
      rw [lexFrom, if_neg hblank, if_neg hmark, if_neg hquote,
        if_neg (not_isNameChar_of_isOperatorChar hc), if_pos hc, hdrop, ← ho,
        ih (htail hproper) n hrest]
      rfl

end ElmCodec.Elm
