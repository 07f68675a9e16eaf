import ElmCodec.Naming
import Mathlib.Data.List.Basic
import Mathlib.Data.List.Infix

/-!
# Names up to letter case

A declared name becomes an Elm name by joining its parts, respelling its abbreviations and
settling its first letter.  On ASCII names the first step drops the underscores, and all steps
change nothing else than letter case.  So an Elm name is the declared name without underscores
up to letter case (`fold_word`), under every naming policy.

What a step does beyond that is said by the parts of the name (`exists_pieces`) and by the
abbreviations that occur in it (`respell_eq_self`).
-/

namespace ElmCodec

/-! ## ASCII texts -/

namespace Text

/-- All characters of a text are ASCII. -/
def IsAscii (cs : List Char) : Prop := ∀ c ∈ cs, c.toNat < 0x80

/-- A text with small letters for the ASCII capitals. -/
def fold (cs : List Char) : List Char := cs.map Char.toLower

theorem forall_ascii {P : Char → Prop} (h : ∀ n < 0x80, P (Char.ofNat n)) {c : Char}
    (hc : c.toNat < 0x80) : P c := by
  have hP := h c.toNat hc
  rwa [Char.ofNat_toNat] at hP

theorem toLower_toLower {c : Char} (hc : c.toNat < 0x80) : c.toLower.toLower = c.toLower :=
  forall_ascii (P := fun c => c.toLower.toLower = c.toLower) (by decide) hc

theorem toLower_toUpper {c : Char} (hc : c.toNat < 0x80) : c.toUpper.toLower = c.toLower :=
  forall_ascii (P := fun c => c.toUpper.toLower = c.toLower) (by decide) hc

/-- A character whose small form is ASCII is so itself. -/
theorem lt_of_toLower {c : Char} (h : c.toLower.toNat < 0x80) : c.toNat < 0x80 := by
  unfold Char.toLower at h
  split at h
  next hc => exact Nat.lt_of_le_of_lt (UInt32.le_iff_toNat_le.mp hc.2) (by decide)
  next => exact h

theorem isAlphanum_of_isAlpha {c : Char} (h : c.isAlpha = true) : c.isAlphanum = true := by
  change (c.isAlpha || c.isDigit) = true
  rw [h, Bool.true_or]

theorem isAlpha_of_isLower {c : Char} (h : c.isLower = true) : c.isAlpha = true := by
  change (c.isUpper || c.isLower) = true
  rw [h, Bool.or_true]

theorem isAlphanum_iff {c : Char} :
    c.isAlphanum = true ↔ c.isUpper = true ∨ c.isLower = true ∨ c.isDigit = true := by
  change (c.isUpper || c.isLower || c.isDigit) = true ↔ _
  simp [or_assoc]

theorem lt_of_isAlphanum {c : Char} (h : c.isAlphanum = true) : c.toNat < 0x80 := by
  rcases isAlphanum_iff.mp h with h | h | h
  · have hle : 'A'.toNat ≤ c.toNat ∧ c.toNat ≤ 'Z'.toNat := of_decide_eq_true h
    exact Nat.lt_of_le_of_lt hle.2 (by decide)
  · have hle : c.toNat ≤ 'z'.toNat := of_decide_eq_true (Bool.and_eq_true_iff.mp h).2
    exact Nat.lt_of_le_of_lt hle (by decide)
  · have hle : c.toNat ≤ '9'.toNat := of_decide_eq_true (Bool.and_eq_true_iff.mp h).2
    exact Nat.lt_of_le_of_lt hle (by decide)

theorem isAlphanum_toLower {c : Char} (hc : c.toNat < 0x80) :
    c.toLower.isAlphanum = c.isAlphanum :=
  forall_ascii (P := fun c => c.toLower.isAlphanum = c.isAlphanum) (by decide) hc

theorem isLower_toLower {c : Char} (hc : c.toNat < 0x80) (h : c.isAlpha = true) :
    c.toLower.isLower = true :=
  forall_ascii (P := fun c => c.isAlpha = true → c.toLower.isLower = true) (by decide) hc h

theorem not_isLower_toUpper {c : Char} (hc : c.toNat < 0x80) : ¬ c.toUpper.isLower = true :=
  forall_ascii (P := fun c => ¬ c.toUpper.isLower = true) (by decide) hc

theorem forall_isUpper {P : Char → Prop}
    (h : ∀ n < 0x80, (Char.ofNat n).isUpper = true → P (Char.ofNat n)) {c : Char}
    (hc : c.isUpper = true) : P c := by
  have hascii := lt_of_isAlphanum (isAlphanum_iff.mpr (Or.inl hc))
  exact forall_ascii (P := fun c => c.isUpper = true → P c) h hascii hc

theorem toUpper_toLower_of_isUpper {c : Char} (h : c.isUpper = true) : c.toLower.toUpper = c :=
  forall_isUpper (P := fun c => c.toLower.toUpper = c) (by decide) h

theorem not_isUpper_toLower {c : Char} (hc : c.toNat < 0x80) : ¬ c.toLower.isUpper = true :=
  forall_ascii (P := fun c => ¬ c.toLower.isUpper = true) (by decide) hc

theorem toLower_eq_self {c : Char} (hc : c.toNat < 0x80) (h : ¬ c.isUpper = true) :
    c.toLower = c :=
  forall_ascii (P := fun c => ¬ c.isUpper = true → c.toLower = c) (by decide) hc h

theorem lowerChar_ascii {c : Char} (hc : c.toNat < 0x80) : lowerChar c = [c.toLower] := if_pos hc

theorem upperChar_ascii {c : Char} (hc : c.toNat < 0x80) : upperChar c = [c.toUpper] := if_pos hc

variable {cs ds : List Char}

theorem isAscii_cons {c : Char} : IsAscii (c :: cs) ↔ c.toNat < 0x80 ∧ IsAscii cs :=
  List.forall_mem_cons

theorem IsAscii.mono (h : IsAscii cs) (hsub : ds ⊆ cs) : IsAscii ds := fun c hc => h c (hsub hc)

theorem IsAscii.of_fold (h : IsAscii (fold cs)) : IsAscii cs :=
  fun _ hc => lt_of_toLower (h _ (List.mem_map_of_mem hc))

theorem IsAscii.fold (h : IsAscii cs) : IsAscii (fold cs) := by
  intro c hc
  obtain ⟨d, hd, rfl⟩ := List.mem_map.mp hc
  exact forall_ascii (P := fun d => d.toLower.toNat < 0x80) (by decide) (h d hd)

theorem fold_append (cs ds : List Char) : fold (cs ++ ds) = fold cs ++ fold ds := List.map_append

theorem lowerAfter_ascii (h : IsAscii cs) (before : List Char) :
    lowerAfter before cs = fold cs := by
  induction cs generalizing before with
  | nil => rfl
  | cons c cs ih =>
    obtain ⟨hc, hcs⟩ := isAscii_cons.mp h
    have hsigma : (c == 'Σ') = false := by
      refine beq_false_of_ne ?_
      rintro rfl
      exact absurd hc (by decide)
    rw [lowerAfter, ih hcs]
    simp only [hsigma, Bool.false_eq_true, if_false, lowerChar_ascii hc]
    rfl

theorem lower_ascii (h : IsAscii cs) : lower cs = fold cs := lowerAfter_ascii h []

theorem fold_fold (h : IsAscii cs) : fold (fold cs) = fold cs := by
  rw [fold, fold, List.map_map]
  exact List.map_congr_left fun c hc => toLower_toLower (h c hc)

theorem fold_lowerHead (h : IsAscii cs) : fold (lowerHead cs) = fold cs := by
  cases cs with
  | nil => rfl
  | cons c cs =>
    obtain ⟨hc, -⟩ := isAscii_cons.mp h
    rw [lowerHead, lowerChar_ascii hc, fold_append]
    exact congrArg (· :: fold cs) (toLower_toLower hc)

theorem lowerHead_eq_self (h : IsAscii cs) (hhead : ∀ c ∈ cs.head?, ¬ c.isUpper = true) :
    lowerHead cs = cs := by
  cases cs with
  | nil => rfl
  | cons c cs =>
    obtain ⟨hc, -⟩ := isAscii_cons.mp h
    rw [lowerHead, lowerChar_ascii hc, toLower_eq_self hc (hhead c rfl)]
    rfl

theorem not_isUpper_lowerHead (h : IsAscii cs) :
    ∀ c ∈ (lowerHead cs).head?, ¬ c.isUpper = true := by
  cases cs with
  | nil => simp [lowerHead]
  | cons c cs =>
    obtain ⟨hc, -⟩ := isAscii_cons.mp h
    rw [lowerHead, lowerChar_ascii hc]
    rintro _ ⟨⟩
    exact not_isUpper_toLower hc

theorem not_isLower_upperHead (h : IsAscii cs) :
    ∀ c ∈ (upperHead cs).head?, ¬ c.isLower = true := by
  cases cs with
  | nil => simp [upperHead]
  | cons c cs =>
    obtain ⟨hc, -⟩ := isAscii_cons.mp h
    rw [upperHead, upperChar_ascii hc]
    rintro _ ⟨⟩
    exact not_isLower_toUpper hc

/-- A first letter that is no small one comes back. -/
theorem upperHead_lowerHead (h : IsAscii cs) (hhead : ∀ c ∈ cs.head?, ¬ c.isLower = true) :
    upperHead (lowerHead cs) = cs := by
  cases cs with
  | nil => rfl
  | cons c cs =>
    obtain ⟨hc, -⟩ := isAscii_cons.mp h
    have hback : c.toLower.toNat < 0x80 ∧ (¬ c.isLower = true → c.toLower.toUpper = c) :=
      forall_ascii (P := fun c => c.toLower.toNat < 0x80 ∧
        (¬ c.isLower = true → c.toLower.toUpper = c)) (by decide) hc
    rw [lowerHead, lowerChar_ascii hc]
    show upperChar c.toLower ++ cs = c :: cs
    rw [upperChar_ascii hback.1, hback.2 (hhead c rfl)]
    rfl

theorem fold_upperHead (h : IsAscii cs) : fold (upperHead cs) = fold cs := by
  cases cs with
  | nil => rfl
  | cons c cs =>
    obtain ⟨hc, -⟩ := isAscii_cons.mp h
    rw [upperHead, upperChar_ascii hc, fold_append]
    exact congrArg (· :: fold cs) (toLower_toUpper hc)

/-- What is made of characters other than underscores, up to letter case, has no underscore. -/
theorem bar_not_mem_of_fold (h : fold ds = fold (cs.filter (· != '_'))) : '_' ∉ ds := by
  intro hmem
  have hbar : '_' ∈ fold (cs.filter (· != '_')) := h ▸ List.mem_map_of_mem hmem
  obtain ⟨c, hc, hlower⟩ := List.mem_map.mp hbar
  have hascii : c.toNat < 0x80 := lt_of_toLower (by rw [hlower]; decide)
  have heq : c = '_' :=
    forall_ascii (P := fun c => c.toLower = '_' → c = '_') (by decide) hascii hlower
  simp [heq] at hc

/-! ## Pieces -/

variable {sep : Char}

theorem pieces_eq_singleton (h : sep ∉ cs) : pieces sep cs = [cs] := by
  induction cs with
  | nil => rfl
  | cons c cs ih =>
    obtain ⟨hc, hcs⟩ := not_or.mp (mt List.mem_cons.mpr h)
    have hne : (c == sep) = false := by simpa using Ne.symm hc
    simp [pieces, hne, ih hcs]

theorem filter_ne_eq_self (h : sep ∉ cs) : cs.filter (· != sep) = cs :=
  List.filter_eq_self.mpr fun _ hc => bne_iff_ne.mpr fun heq => h (heq ▸ hc)

/-- The first piece, and what the others are pieces of. -/
theorem exists_pieces (sep : Char) (cs : List Char) :
    ∃ first others rest, pieces sep cs = first :: others ∧ cs = first ++ rest ∧ sep ∉ first ∧
      (∀ c ∈ rest.head?, c = sep) ∧ others.flatten = rest.filter (· != sep) := by
  induction cs with
  | nil => exact ⟨[], [], [], rfl, rfl, by simp, by simp, rfl⟩
  | cons c cs ih =>
    obtain ⟨first, others, rest, hpieces, hcs, hfirst, hhead, hothers⟩ := ih
    by_cases hc : c = sep
    · refine ⟨[], first :: others, c :: cs, by simp [pieces, hc, hpieces], rfl, by simp,
        by simp [hc], ?_⟩
      rw [List.flatten_cons, hothers, List.filter_cons_of_neg (by simp [hc]), hcs,
        List.filter_append, filter_ne_eq_self hfirst]
    · refine ⟨c :: first, others, rest, by simp [pieces, hc, hpieces], by rw [hcs]; rfl, ?_, hhead,
        hothers⟩
      simp [hfirst, Ne.symm hc]

theorem flatten_pieces (sep : Char) (cs : List Char) :
    (pieces sep cs).flatten = cs.filter (· != sep) := by
  obtain ⟨first, others, rest, hpieces, hcs, hfirst, -, hothers⟩ := exists_pieces sep cs
  rw [hpieces, List.flatten_cons, hothers, hcs, List.filter_append, filter_ne_eq_self hfirst]

theorem pieces_append_replicate (h : sep ∉ cs) (n : Nat) :
    pieces sep (cs ++ List.replicate n sep) = cs :: List.replicate n [] := by
  induction cs with
  | nil =>
    induction n with
    | zero => rfl
    | succ n ih => simpa [pieces, List.replicate_succ] using ih
  | cons c cs ih =>
    obtain ⟨hc, hcs⟩ := not_or.mp (mt List.mem_cons.mpr h)
    have hne : (c == sep) = false := by simpa using Ne.symm hc
    simp [pieces, hne, ih hcs]

end Text

/-! ## The steps -/

namespace Naming

open Text

variable {abbreviations : List (List Char)} {cs : List Char}

theorem fold_joinParts {parts : List (List Char)} (h : ∀ part ∈ parts, IsAscii part) :
    fold (joinParts parts) = fold parts.flatten := by
  cases parts with
  | nil => rfl
  | cons first rest =>
    have hrest : fold (rest.flatMap upperHead) = fold rest.flatten := by
      have hparts := (List.forall_mem_cons.mp h).2
      clear h
      induction rest with
      | nil => rfl
      | cons part rest ih =>
        obtain ⟨hpart, hrest⟩ := List.forall_mem_cons.mp hparts
        rw [List.flatMap_cons, List.flatten_cons, fold_append, fold_append, fold_upperHead hpart,
          ih hrest]
    rw [joinParts, List.flatten_cons, fold_append, fold_append, hrest]

theorem fold_joined (h : IsAscii cs) : fold (joined cs) = fold (cs.filter (· != '_')) := by
  rw [joined, fold_joinParts, List.flatten_filter_not_isEmpty, flatten_pieces]
  intro part hpart
  refine h.mono fun c hc => ?_
  have hmem : c ∈ (pieces '_' cs).flatten :=
    List.mem_flatten.mpr ⟨part, (List.mem_filter.mp hpart).1, hc⟩
  rw [flatten_pieces] at hmem
  exact (List.mem_filter.mp hmem).1

theorem isAscii_joined (h : IsAscii cs) : IsAscii (joined cs) := by
  refine IsAscii.of_fold ?_
  rw [fold_joined h]
  exact (h.mono fun c hc => (List.mem_filter.mp hc).1).fold

theorem joined_eq_self (h : '_' ∉ cs) : joined cs = cs := by
  rw [joined, pieces_eq_singleton h]
  cases cs with
  | nil => rfl
  | cons c cs => simp [joinParts]

/-- A joined name starts with the first character that is no underscore. -/
theorem head?_joined (cs : List Char) : (joined cs).head? = (cs.filter (· != '_')).head? := by
  rw [joined, ← flatten_pieces, ← List.flatten_filter_not_isEmpty]
  cases hparts : (pieces '_' cs).filter fun part => !part.isEmpty with
  | nil => rfl
  | cons first rest =>
    have hfirst : first ∈ (pieces '_' cs).filter fun part => !part.isEmpty := by simp [hparts]
    cases first with
    | nil => simp at hfirst
    | cons c first => rfl

theorem abbreviationAt_eq_some {a : List Char} (h : abbreviationAt abbreviations cs = some a) :
    a ∈ abbreviations ∧ a ≠ [] ∧ a <+: cs := by
  have hmatch := List.find?_some h
  simp only [Bool.and_eq_true, Bool.not_eq_true', List.isEmpty_eq_false_iff,
    List.isPrefixOf_iff_prefix] at hmatch
  exact ⟨List.mem_of_find?_eq_some h, hmatch⟩

theorem abbreviationAt_eq_none_iff :
    abbreviationAt abbreviations cs = none ↔ ∀ a ∈ abbreviations, a ≠ [] → ¬ a <+: cs := by
  rw [abbreviationAt, List.find?_eq_none]
  simp only [Bool.and_eq_true, Bool.not_eq_true', List.isEmpty_eq_false_iff,
    List.isPrefixOf_iff_prefix, not_and]

theorem respellFrom_of_none {c : Char} (h : abbreviationAt abbreviations (c :: cs) = none) :
    respellFrom abbreviations 0 (c :: cs) = c :: respellFrom abbreviations 0 cs := by
  rw [respellFrom, h]

theorem fold_respellFrom (abbreviations : List (List Char)) (h : IsAscii cs) (skip : Nat) :
    fold (respellFrom abbreviations skip cs) = fold (cs.drop skip) := by
  induction cs generalizing skip with
  | nil => rw [List.drop_nil]; rfl
  | cons c cs ih =>
    obtain ⟨hc, hcs⟩ := isAscii_cons.mp h
    cases skip with
    | succ skip => exact ih hcs skip
    | zero =>
      rw [respellFrom]
      cases habbr : abbreviationAt abbreviations (c :: cs) with
      | none => exact congrArg (c.toLower :: ·) (ih hcs 0)
      | some a =>
        obtain ⟨-, hne, hprefix⟩ := abbreviationAt_eq_some habbr
        cases a with
        | nil => exact absurd rfl hne
        | cons d tail =>
          -- The small letters and what is skipped make up the rest of the text.
          obtain ⟨rest, hrest⟩ := (List.cons_prefix_cons.mp hprefix).2
          have htail : IsAscii tail := hcs.mono fun e he => hrest ▸ List.mem_append_left rest he
          have hdrop : cs.drop tail.length = rest := by rw [← hrest, List.drop_left]
          change fold ([c] ++ lower tail ++ respellFrom abbreviations tail.length cs) = _
          rw [fold_append, fold_append, ih hcs, hdrop, lower_ascii htail, fold_fold htail,
            List.append_assoc, ← fold_append, hrest, ← fold_append]
          rfl

theorem fold_respell (abbreviations : List (List Char)) (h : IsAscii cs) :
    fold (respell abbreviations cs) = fold cs :=
  fold_respellFrom abbreviations h 0

/-- A name is the declared one without underscores, up to letter case. -/
theorem fold_word (n : Naming) (h : IsAscii cs) :
    fold (n.word cs) = fold (cs.filter (· != '_')) := by
  rw [word, fold_respell _ (isAscii_joined h), fold_joined h]

theorem isAscii_word (n : Naming) (h : IsAscii cs) : IsAscii (n.word cs) := by
  refine IsAscii.of_fold ?_
  rw [fold_word n h]
  exact (h.mono fun c hc => (List.mem_filter.mp hc).1).fold

theorem toList_valueName (n : Naming) (name : String) :
    (n.valueName name).toList = lowerHead (n.word name.toList) :=
  String.toList_ofList

/-- The name of a value is the declared one without underscores, up to letter case. -/
theorem fold_valueName (n : Naming) {name : String} (h : IsAscii name.toList) :
    fold (n.valueName name).toList = fold (name.toList.filter (· != '_')) := by
  rw [toList_valueName, fold_lowerHead (isAscii_word n h), fold_word n h]

/-- A text in which no abbreviation occurs is kept. -/
theorem respell_eq_self (h : ∀ a ∈ abbreviations, a ≠ [] → ¬ a <:+: cs) :
    respell abbreviations cs = cs := by
  induction cs with
  | nil => rfl
  | cons c cs ih =>
    have hnone : abbreviationAt abbreviations (c :: cs) = none :=
      abbreviationAt_eq_none_iff.mpr fun a ha hne hprefix => h a ha hne hprefix.isInfix
    have hrest := ih fun a ha hne hin => h a ha hne (hin.trans (List.suffix_cons c cs).isInfix)
    rw [respell, respellFrom_of_none hnone]
    exact congrArg (c :: ·) hrest

/-- Where no abbreviation occurs in any letter case, the word is the joined name. -/
theorem word_eq_joined {n : Naming} (h : ∀ a ∈ n.abbreviations, a ≠ "" →
      ¬ fold a.toList <:+: fold (joined cs)) : n.word cs = joined cs := by
  refine respell_eq_self fun a ha hne hin => ?_
  obtain ⟨b, hb, rfl⟩ := List.mem_map.mp ha
  exact h b hb (fun hempty => hne (by rw [hempty]; rfl)) (hin.map Char.toLower)

end Naming

end ElmCodec
