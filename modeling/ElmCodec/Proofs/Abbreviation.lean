import ElmCodec.Proofs.Naming

/-!
# Abbreviations in names

An abbreviation in capitals is two capitals with capitals and digits after them.  The standard
policy has no others.

Respelling leaves no such abbreviation, whatever stands around it (`not_infix_respell`).  What was
respelled has a small letter in second place and no capital after it.  So an abbreviation that is
left over begins at a character that was copied and ends before a small letter, and then it stood
there all along (`prefix_of_prefix_respell`) and would have been respelled.

Hence the names of values are a normal form (`isNormal_valueName`, `IsNormal.valueName_eq`).  The
name of a type is one with a capital at its start, and this letter is settled after the
abbreviations.  It makes an abbreviation of `iD` that was none before, so the type name of `iD` is
`ID` and that of `ID` is `Id`.  This happens at the start only and goes away the next time
(`toList_typeName_typeName`).
-/

namespace ElmCodec.Naming

open Text

/-! ## Abbreviations in capitals -/

/-- Whether a text is two capitals with capitals and digits after them. -/
def isCapitals : List Char → Bool
  | c :: d :: rest => c.isUpper && d.isUpper && rest.all fun e => e.isUpper || e.isDigit
  | _ => false

/-- All abbreviations of a policy are in capitals. -/
def InCapitals (n : Naming) : Prop := ∀ a ∈ n.abbreviations, isCapitals a.toList = true

theorem standard_inCapitals : standard.InCapitals := by
  show ∀ a ∈ standard.abbreviations, isCapitals a.toList = true
  decide

variable {a cs : List Char} {c : Char}

theorem exists_of_isCapitals (h : isCapitals a = true) :
    ∃ c d rest, a = c :: d :: rest ∧ c.isUpper = true ∧ d.isUpper = true ∧
      ∀ e ∈ rest, e.isUpper = true ∨ e.isDigit = true := by
  match a, h with
  | c :: d :: rest, h =>
    simp only [isCapitals, Bool.and_eq_true, List.all_eq_true, Bool.or_eq_true] at h
    exact ⟨c, d, rest, rfl, h.1.1, h.1.2, h.2⟩

theorem isUpper_or_isDigit (h : isCapitals a = true) :
    ∀ e ∈ a, e.isUpper = true ∨ e.isDigit = true := by
  obtain ⟨c, d, rest, rfl, hc, hd, hrest⟩ := exists_of_isCapitals h
  simp only [List.forall_mem_cons]
  exact ⟨Or.inl hc, Or.inl hd, hrest⟩

theorem isAscii_of_isCapitals (h : isCapitals a = true) : IsAscii a := by
  intro e he
  refine lt_of_isAlphanum (isAlphanum_iff.mpr ?_)
  exact (isUpper_or_isDigit h e he).imp_right Or.inr

theorem not_isLower_of_isCapitals (h : isCapitals a = true) : ∀ e ∈ a, ¬ e.isLower = true := by
  intro e he
  exact forall_ascii (P := fun e => e.isUpper = true ∨ e.isDigit = true → ¬ e.isLower = true)
    (by decide) (isAscii_of_isCapitals h e he) (isUpper_or_isDigit h e he)

/-! ## Respelling -/

variable {abbreviations : List (List Char)}

theorem head?_respell (abbreviations : List (List Char)) (cs : List Char) :
    (respell abbreviations cs).head? = cs.head? := by
  cases cs with
  | nil => rfl
  | cons c cs =>
    rw [respell, respellFrom]
    split
    · rfl
    · rfl

variable (hcapitals : ∀ a ∈ abbreviations, isCapitals a = true)

include hcapitals

/-- An abbreviation is respelled with a small letter in second place and no capital after it. -/
theorem respellFrom_of_some (h : abbreviationAt abbreviations (c :: cs) = some a) :
    ∃ d rest, d.isLower = true ∧ (∀ e ∈ d :: rest, ¬ e.isUpper = true) ∧
      respellFrom abbreviations 0 (c :: cs) =
        c :: (d :: rest ++ respellFrom abbreviations (a.length - 1) cs) := by
  obtain ⟨ha, -, -⟩ := abbreviationAt_eq_some h
  have hascii := isAscii_of_isCapitals (hcapitals a ha)
  obtain ⟨c', d, rest, rfl, -, hd, -⟩ := exists_of_isCapitals (hcapitals a ha)
  have htail : IsAscii (d :: rest) := (isAscii_cons.mp hascii).2
  refine ⟨d.toLower, fold rest, ?_, fun e he => ?_, ?_⟩
  · exact forall_isUpper (P := fun d => d.toLower.isLower = true) (by decide) hd
  · obtain ⟨g, hg, rfl⟩ := List.mem_map.mp (show e ∈ fold (d :: rest) from he)
    exact not_isUpper_toLower (htail g hg)
  · rw [respellFrom, h]
    show c :: lower (d :: rest) ++ _ = _
    rw [lower_ascii htail]
    rfl

/-- What stands at the start after respelling and has no small letter stood there before. -/
theorem prefix_of_prefix_respell {start : List Char} (hstart : ∀ e ∈ start, ¬ e.isLower = true)
    (h : start <+: respellFrom abbreviations 0 cs) : start <+: cs := by
  induction cs generalizing start with
  | nil => exact h
  | cons c cs ih =>
    cases start with
    | nil => exact List.nil_prefix
    | cons e start =>
      obtain ⟨-, hstart⟩ := List.forall_mem_cons.mp hstart
      cases habbr : abbreviationAt abbreviations (c :: cs) with
      | none =>
        rw [respellFrom_of_none habbr] at h
        obtain ⟨hc, hmore⟩ := List.cons_prefix_cons.mp h
        exact List.cons_prefix_cons.mpr ⟨hc, ih hstart hmore⟩
      | some a =>
        -- The small letter in second place leaves room for one character.
        obtain ⟨d, rest, hd, -, hrespell⟩ := respellFrom_of_some hcapitals habbr
        rw [hrespell] at h
        obtain ⟨hc, hmore⟩ := List.cons_prefix_cons.mp h
        cases start with
        | nil => simp [hc]
        | cons g start =>
          obtain ⟨rfl, -⟩ := List.cons_prefix_cons.mp hmore
          exact absurd hd (hstart g List.mem_cons_self)

omit hcapitals in
/-- An abbreviation begins at a capital. -/
theorem infix_of_infix_append {before after : List Char} (ha : isCapitals a = true)
    (hbefore : ∀ e ∈ before, ¬ e.isUpper = true) (h : a <:+: before ++ after) : a <:+: after := by
  induction before with
  | nil => exact h
  | cons e before ih =>
    obtain ⟨he, hbefore⟩ := List.forall_mem_cons.mp hbefore
    rcases List.infix_cons_iff.mp h with h | h
    · obtain ⟨c, d, rest, rfl, hc, -⟩ := exists_of_isCapitals ha
      obtain ⟨rfl, -⟩ := List.cons_prefix_cons.mp h
      exact absurd hc he
    · exact ih hbefore h

theorem not_prefix_respellFrom (ha : a ∈ abbreviations) :
    ¬ a <+: respellFrom abbreviations 0 (c :: cs) := by
  intro h
  have hsmall := not_isLower_of_isCapitals (hcapitals a ha)
  obtain ⟨e, g, more, rfl, -⟩ := exists_of_isCapitals (hcapitals a ha)
  cases habbr : abbreviationAt abbreviations (c :: cs) with
  | none =>
    exact abbreviationAt_eq_none_iff.mp habbr _ ha (List.cons_ne_nil _ _)
      (prefix_of_prefix_respell hcapitals hsmall h)
  | some b =>
    obtain ⟨d, rest, hd, -, hrespell⟩ := respellFrom_of_some hcapitals habbr
    rw [hrespell] at h
    obtain ⟨-, hmore⟩ := List.cons_prefix_cons.mp h
    obtain ⟨rfl, -⟩ := List.cons_prefix_cons.mp hmore
    exact hsmall g (by simp) hd

theorem not_infix_respellFrom (ha : a ∈ abbreviations) (skip : Nat) :
    ¬ a <:+: respellFrom abbreviations skip cs := by
  induction cs generalizing skip with
  | nil =>
    obtain ⟨c, d, rest, rfl, -⟩ := exists_of_isCapitals (hcapitals a ha)
    simp [respellFrom]
  | cons c cs ih =>
    cases skip with
    | succ skip => exact ih skip
    | zero =>
      intro h
      have hstart : ¬ a <+: respellFrom abbreviations 0 (c :: cs) :=
        not_prefix_respellFrom hcapitals ha
      cases habbr : abbreviationAt abbreviations (c :: cs) with
      | none =>
        rw [respellFrom_of_none habbr] at h hstart
        exact ih 0 ((List.infix_cons_iff.mp h).resolve_left hstart)
      | some b =>
        obtain ⟨d, rest, -, hrest, hrespell⟩ := respellFrom_of_some hcapitals habbr
        rw [hrespell] at h hstart
        have htail := (List.infix_cons_iff.mp h).resolve_left hstart
        exact ih _ (infix_of_infix_append (hcapitals a ha) hrest htail)

/-- No abbreviation is left. -/
theorem not_infix_respell (ha : a ∈ abbreviations) : ¬ a <:+: respell abbreviations cs :=
  not_infix_respellFrom hcapitals ha 0

/-- Respelling keeps exactly the texts without abbreviations. -/
theorem respell_eq_self_iff :
    respell abbreviations cs = cs ↔ ∀ a ∈ abbreviations, ¬ a <:+: cs := by
  constructor
  · intro h a ha
    rw [← h]
    exact not_infix_respell hcapitals ha
  · exact fun h => respell_eq_self fun a ha _ => h a ha

omit hcapitals

/-! ## Names of values -/

variable {n : Naming} {name : String}

/-- No abbreviation occurs in the name. -/
def IsSpelledOut (n : Naming) (name : String) : Prop :=
  ∀ a ∈ n.abbreviations, ¬ a.toList <:+: name.toList

/-- A name without underscores and abbreviations that does not start with a capital. -/
structure IsNormal (n : Naming) (name : String) : Prop where
  /-- It is not made of parts. -/
  joined : '_' ∉ name.toList
  /-- It has no abbreviation. -/
  spelledOut : n.IsSpelledOut name
  /-- It does not start with a capital. -/
  start : ∀ c ∈ name.toList.head?, ¬ c.isUpper = true

theorem InCapitals.map_toList (hn : n.InCapitals) :
    ∀ a ∈ n.abbreviations.map String.toList, isCapitals a = true :=
  List.forall_mem_map.mpr hn

theorem InCapitals.not_infix_word (hn : n.InCapitals) {a : String} (ha : a ∈ n.abbreviations) :
    ¬ a.toList <:+: n.word cs :=
  not_infix_respell hn.map_toList (List.mem_map_of_mem ha)

/-- A small first letter makes no abbreviation. -/
theorem not_infix_lowerHead (ha : isCapitals a = true) (hcs : IsAscii cs) (h : ¬ a <:+: cs) :
    ¬ a <:+: lowerHead cs := by
  cases cs with
  | nil => exact h
  | cons c cs =>
    obtain ⟨hc, -⟩ := isAscii_cons.mp hcs
    rw [lowerHead, lowerChar_ascii hc]
    intro hin
    have htail : a <:+: cs :=
      infix_of_infix_append ha (List.forall_mem_singleton.mpr (not_isUpper_toLower hc)) hin
    exact h (htail.trans (List.suffix_cons c cs).isInfix)

theorem isAscii_valueName (n : Naming) (h : IsAscii name.toList) :
    IsAscii (n.valueName name).toList := by
  refine IsAscii.of_fold ?_
  rw [fold_valueName n h]
  exact (h.mono fun c hc => (List.mem_filter.mp hc).1).fold

/-- The names of values are normal. -/
theorem isNormal_valueName (hn : n.InCapitals) (h : IsAscii name.toList) :
    n.IsNormal (n.valueName name) where
  joined := bar_not_mem_of_fold (fold_valueName n h)
  spelledOut := by
    intro a ha
    rw [toList_valueName]
    exact not_infix_lowerHead (hn a ha) (isAscii_word n h) (hn.not_infix_word ha)
  start := by
    rw [toList_valueName]
    exact not_isUpper_lowerHead (isAscii_word n h)

/-- Normal names are kept. -/
theorem IsNormal.valueName_eq (h : n.IsNormal name) (hascii : IsAscii name.toList) :
    n.valueName name = name := by
  have hword : n.word name.toList = name.toList := by
    rw [word, joined_eq_self h.joined]
    refine respell_eq_self fun a ha _ => ?_
    obtain ⟨b, hb, rfl⟩ := List.mem_map.mp ha
    exact h.spelledOut b hb
  refine String.toList_inj.mp ?_
  rw [toList_valueName, hword, lowerHead_eq_self hascii h.start]

/-- The names of values are a normal form of declared names, up to letter case and
underscores. -/
theorem value_names_are_normal (h : IsAscii name.toList) :
    standard.IsNormal (standard.valueName name) ∧
      fold (standard.valueName name).toList = fold (name.toList.filter (· != '_')) ∧
      standard.valueName (standard.valueName name) = standard.valueName name := by
  have hnormal := isNormal_valueName standard_inCapitals h
  exact ⟨hnormal, fold_valueName standard h, hnormal.valueName_eq (isAscii_valueName standard h)⟩

/-- Abbreviations that overlap, follow each other or come from two parts. -/
theorem server_value_name :
    IsAscii "_MSMTP_HTTPURLs_POP3_i_D__WWWW".toList ∧
      standard.valueName "_MSMTP_HTTPURLs_POP3_i_D__WWWW" = "msMTPHttpUrlsPop3IdWwwW" ∧
      standard.IsNormal "msMTPHttpUrlsPop3IdWwwW" ∧
      standard.valueName "msMTPHttpUrlsPop3IdWwwW" = "msMTPHttpUrlsPop3IdWwwW" := by
  have hascii : IsAscii "_MSMTP_HTTPURLs_POP3_i_D__WWWW".toList := by
    simp [IsAscii]
  have hname : standard.valueName "_MSMTP_HTTPURLs_POP3_i_D__WWWW" = "msMTPHttpUrlsPop3IdWwwW" := by
    decide
  obtain ⟨hnormal, -, hkept⟩ := value_names_are_normal hascii
  rw [hname] at hnormal hkept
  exact ⟨hascii, hname, hnormal, hkept⟩

/-! ## Names of types -/

theorem toList_typeName (n : Naming) (name : String) :
    (n.typeName name).toList = upperHead (n.valueName name).toList := by
  rw [typeName, toList_valueName, String.toList_ofList]

theorem fold_typeName (n : Naming) (h : IsAscii name.toList) :
    fold (n.typeName name).toList = fold (name.toList.filter (· != '_')) := by
  rw [toList_typeName, fold_upperHead (isAscii_valueName n h), fold_valueName n h]

theorem isAscii_typeName (n : Naming) (h : IsAscii name.toList) :
    IsAscii (n.typeName name).toList := by
  refine IsAscii.of_fold ?_
  rw [fold_typeName n h]
  exact (h.mono fun c hc => (List.mem_filter.mp hc).1).fold

/-- The name starts with an abbreviation of which the first letter alone is small. -/
def OpensAbbreviation (n : Naming) (name : String) : Prop :=
  ∃ a ∈ n.abbreviations, lowerHead a.toList <+: name.toList

/-- In the name of a type, an abbreviation stands at the start only. -/
theorem prefix_of_infix_typeName (hn : n.InCapitals) (h : IsAscii name.toList) {a : String}
    (ha : a ∈ n.abbreviations) (hin : a.toList <:+: (n.typeName name).toList) :
    a.toList <+: (n.typeName name).toList := by
  have hvalue := (isNormal_valueName hn h).spelledOut a ha
  have hascii := isAscii_valueName n h
  rw [toList_typeName] at hin ⊢
  cases hname : (n.valueName name).toList with
  | nil =>
    rw [hname] at hin hvalue
    exact absurd hin hvalue
  | cons c cs =>
    rw [hname] at hin hvalue hascii
    rw [upperHead, upperChar_ascii (isAscii_cons.mp hascii).1] at hin ⊢
    rcases List.infix_cons_iff.mp hin with hin | hin
    · exact hin
    · exact absurd (hin.trans (List.suffix_cons c cs).isInfix) hvalue

/-- An abbreviation stands at the start of the name of a type if it stands there in the name of a
value, but for the first letter. -/
theorem prefix_typeName_iff (hn : n.InCapitals) (h : IsAscii name.toList) {a : String}
    (ha : a ∈ n.abbreviations) :
    a.toList <+: (n.typeName name).toList ↔
      lowerHead a.toList <+: (n.valueName name).toList := by
  have hstart := (isNormal_valueName hn h).start
  have hascii := isAscii_valueName n h
  obtain ⟨c, d, rest, hletters, hc, -⟩ := exists_of_isCapitals (hn a ha)
  rw [toList_typeName, hletters]
  cases hname : (n.valueName name).toList with
  | nil => simp [upperHead, lowerHead]
  | cons e cs =>
    rw [hname] at hstart hascii
    have he := (isAscii_cons.mp hascii).1
    have hsmall := toLower_eq_self he (hstart e rfl)
    have hletter : c = e.toUpper ↔ c.toLower = e := by
      constructor
      · rintro rfl
        rw [toLower_toUpper he, hsmall]
      · rintro rfl
        exact (toUpper_toLower_of_isUpper hc).symm
    have hclower : lowerChar c = [c.toLower] :=
      forall_isUpper (P := fun c => lowerChar c = [c.toLower]) (by decide) hc
    rw [upperHead, upperChar_ascii he, lowerHead, hclower]
    simp only [List.singleton_append, List.cons_prefix_cons, hletter]

/-- A type name that is made of a type name is this one respelled. -/
theorem toList_typeName_typeName (n : Naming) (h : IsAscii name.toList) :
    (n.typeName (n.typeName name)).toList =
      respell (n.abbreviations.map String.toList) (n.typeName name).toList := by
  have hword : n.word (n.typeName name).toList =
      respell (n.abbreviations.map String.toList) (n.typeName name).toList := by
    rw [word, joined_eq_self (bar_not_mem_of_fold (fold_typeName n h))]
  have hstart := not_isLower_upperHead (isAscii_valueName n h)
  rw [← toList_typeName, ← head?_respell, ← hword] at hstart
  rw [toList_typeName, toList_valueName,
    upperHead_lowerHead (isAscii_word n (isAscii_typeName n h)) hstart, hword]

/-- A name that starts with no small letter has no abbreviation completed. -/
theorem not_opensAbbreviation (hn : n.InCapitals) (h : IsAscii name.toList)
    (hstart : ∀ c ∈ (name.toList.filter (· != '_')).head?, ¬ c.isLower = true) :
    ¬ n.OpensAbbreviation (n.valueName name) := by
  rintro ⟨a, ha, hprefix⟩
  rw [← prefix_typeName_iff hn h ha, toList_typeName, toList_valueName] at hprefix
  rw [← head?_joined, ← head?_respell (n.abbreviations.map String.toList), ← word] at hstart
  rw [upperHead_lowerHead (isAscii_word n h) hstart] at hprefix
  exact hn.not_infix_word ha hprefix.isInfix

theorem isSpelledOut_typeName_iff (hn : n.InCapitals) (h : IsAscii name.toList) :
    n.IsSpelledOut (n.typeName name) ↔ ¬ n.OpensAbbreviation (n.valueName name) := by
  constructor
  · rintro hnone ⟨a, ha, hprefix⟩
    exact hnone a ha ((prefix_typeName_iff hn h ha).mpr hprefix).isInfix
  · intro hopens a ha hin
    exact hopens ⟨a, ha, (prefix_typeName_iff hn h ha).mp (prefix_of_infix_typeName hn h ha hin)⟩

theorem typeName_typeName_eq_iff (hn : n.InCapitals) (h : IsAscii name.toList) :
    n.typeName (n.typeName name) = n.typeName name ↔ n.IsSpelledOut (n.typeName name) := by
  rw [← String.toList_inj, toList_typeName_typeName n h, respell_eq_self_iff hn.map_toList]
  exact List.forall_mem_map

/-- The second type name has no abbreviation. -/
theorem isSpelledOut_typeName_typeName (hn : n.InCapitals) (h : IsAscii name.toList) :
    n.IsSpelledOut (n.typeName (n.typeName name)) := by
  intro a ha
  rw [toList_typeName_typeName n h]
  exact not_infix_respell hn.map_toList (List.mem_map_of_mem ha)

/-- Type names are kept, and have no abbreviation, unless the capital at their start completes
one.  A name that starts with no small letter is safe.  A completed abbreviation stands at the
start, and the type name of this type name has none. -/
theorem type_names_normal_iff (h : IsAscii name.toList) :
    (standard.typeName (standard.typeName name) = standard.typeName name ↔
      ¬ standard.OpensAbbreviation (standard.valueName name)) ∧
    (standard.IsSpelledOut (standard.typeName name) ↔
      ¬ standard.OpensAbbreviation (standard.valueName name)) ∧
    ((∀ c ∈ (name.toList.filter (· != '_')).head?, ¬ c.isLower = true) →
      ¬ standard.OpensAbbreviation (standard.valueName name)) ∧
    (∀ a ∈ standard.abbreviations, a.toList <:+: (standard.typeName name).toList →
      a.toList <+: (standard.typeName name).toList) ∧
    standard.IsSpelledOut (standard.typeName (standard.typeName name)) ∧
    standard.typeName (standard.typeName (standard.typeName name)) =
      standard.typeName (standard.typeName name) := by
  have hn := standard_inCapitals
  have hspelled := isSpelledOut_typeName_iff hn h
  have hsecond := isSpelledOut_typeName_typeName hn h
  refine ⟨?_, hspelled, not_opensAbbreviation hn h, ?_, hsecond, ?_⟩
  · rw [typeName_typeName_eq_iff hn h, hspelled]
  · exact fun a ha hin => prefix_of_infix_typeName hn h ha hin
  · exact (typeName_typeName_eq_iff hn (isAscii_typeName standard h)).mpr hsecond

/-- The capital of a type name completes `XML`, which three parts spell, and the second type name
is without it. -/
theorem feed_type_name :
    IsAscii "x_m_l_HTTPFeed".toList ∧ standard.valueName "x_m_l_HTTPFeed" = "xMLHttpFeed" ∧
      standard.OpensAbbreviation "xMLHttpFeed" ∧
      standard.typeName "x_m_l_HTTPFeed" = "XMLHttpFeed" ∧
      standard.typeName "XMLHttpFeed" = "XmlHttpFeed" ∧
      standard.typeName "XmlHttpFeed" = "XmlHttpFeed" ∧
      ¬ standard.IsSpelledOut "XMLHttpFeed" ∧ standard.IsSpelledOut "XmlHttpFeed" := by
  have hascii : IsAscii "x_m_l_HTTPFeed".toList := by simp [IsAscii]
  have hvalue : standard.valueName "x_m_l_HTTPFeed" = "xMLHttpFeed" := by decide
  have hfirst : standard.typeName "x_m_l_HTTPFeed" = "XMLHttpFeed" := by decide
  have hsecond : standard.typeName "XMLHttpFeed" = "XmlHttpFeed" := by decide
  have hopens : standard.OpensAbbreviation "xMLHttpFeed" := ⟨"XML", by decide, by decide⟩
  obtain ⟨-, hspelled, -, -, hout, hkept⟩ := type_names_normal_iff hascii
  rw [hfirst, hsecond] at hout hkept
  rw [hfirst, hvalue] at hspelled
  exact ⟨hascii, hvalue, hopens, hfirst, hsecond, hkept, fun h => hspelled.mp h hopens, hout⟩

/-- The type name of `iD` is an abbreviation, and is not kept. -/
theorem typeName_completes_abbreviation :
    IsAscii "iD".toList ∧ "ID" ∈ standard.abbreviations ∧ standard.typeName "iD" = "ID" ∧
      standard.typeName (standard.typeName "iD") ≠ standard.typeName "iD" ∧
      ¬ standard.IsSpelledOut (standard.typeName "iD") := by
  have hname : standard.typeName "iD" = "ID" := by decide
  rw [hname]
  refine ⟨by simp [IsAscii], by decide, rfl, by decide, fun h => ?_⟩
  exact h "ID" (by decide) List.infix_rfl

end ElmCodec.Naming
