import ElmCodec.Proofs.Flat

/-!
# Equal annotations mean the same

An annotation that is equal to one with a counterpart in Elm has the same Elm type, on either side
(`Translates.same_left`, `Translates.same_right`).  Equal sequences are written in the same way, and
equal unions have as many members, each equal to a member of the other.  So if one of two equal
unions is flat and makes an annotation optional, the other one does too.
-/

namespace ElmCodec.Source

/-! ## Equal annotations, by their form -/

namespace Annot

variable {a b t u : Annot} {c : ClassRef} {as bs notes : List Annot}

theorem eq_of_cls_same (h : (Annot.cls c).same b = true) : b = .cls c := by
  cases b with
  | cls d => rw [eq_of_beq h]
  | _ => cases h

theorem eq_of_same_cls (h : a.same (.cls c) = true) : a = .cls c := by
  cases a with
  | cls d => rw [eq_of_beq h]
  | _ => cases h

theorem exists_of_annotated_same (h : (Annot.annotated t notes).same b = true) :
    ∃ u others, b = .annotated u others ∧ t.same u = true := by
  cases b with
  | annotated u others =>
    simp only [same, Bool.and_eq_true] at h
    exact ⟨u, others, rfl, h.1⟩
  | _ => cases h

theorem exists_of_same_annotated (h : a.same (.annotated t notes) = true) :
    ∃ u others, a = .annotated u others ∧ u.same t = true := by
  cases a with
  | annotated u others =>
    simp only [same, Bool.and_eq_true] at h
    exact ⟨u, others, rfl, h.1⟩
  | _ => cases h

theorem isUnion_of_same_left (ha : a.isUnion = true) (h : a.same b = true) : b.isUnion = true := by
  cases a with
  | union members | pipe members =>
    cases b with
    | union | pipe => rfl
    | _ => cases h
  | _ => cases ha

theorem isUnion_of_same_right (hb : b.isUnion = true) (h : a.same b = true) : a.isUnion = true := by
  cases b with
  | union members | pipe members =>
    cases a with
    | union | pipe => rfl
    | _ => cases h
  | _ => cases hb

theorem allAmong_iff : allAmong as bs = true ↔ ∀ a ∈ as, ∃ b ∈ bs, a.same b = true := by
  induction as with
  | nil => simp [allAmong]
  | cons a as ih => simp [allAmong, ih]

theorem anyMember_iff : anyMember as b = true ↔ ∃ a ∈ as, a.same b = true := by
  induction as with
  | nil => simp [anyMember]
  | cons a as ih => simp [anyMember, ih]

theorem members?_of_isUnion (ha : a.isUnion = true) : a.members? = some a.parts := by
  cases a with
  | union | pipe => rfl
  | _ => cases ha

/-- Unions are equal as sets. -/
theorem same_iff_of_isUnion (ha : a.isUnion = true) (hb : b.isUnion = true) :
    a.same b = true ↔ a.parts.length = b.parts.length ∧
      (∀ u ∈ a.parts, ∃ v ∈ b.parts, u.same v = true) ∧
      ∀ v ∈ b.parts, ∃ u ∈ a.parts, u.same v = true := by
  simp only [← allAmong_iff, ← anyMember_iff]
  cases a with
  | union | pipe => simp [same, members?_of_isUnion hb, parts, and_assoc]
  | _ => cases ha

/-- The parts of equal annotations are equal. -/
theorem exists_of_same_of_mem_parts (h : a.same b = true) (hu : u ∈ a.parts) :
    ∃ v ∈ b.parts, u.same v = true := by
  cases ha : a.isUnion with
  | true => exact ((same_iff_of_isUnion ha (isUnion_of_same_left ha h)).mp h).2.1 u hu
  | false =>
    have hb : b.isUnion = false := by
      rw [← Bool.not_eq_true]
      intro hb
      rw [isUnion_of_same_right hb h] at ha
      cases ha
    rw [parts_of_not_isUnion ha] at hu
    rw [parts_of_not_isUnion hb]
    exact ⟨b, List.mem_singleton_self b, List.mem_singleton.mp hu ▸ h⟩

theorem exists_of_sameAll_of_mem (h : sameAll as bs = true) (hb : b ∈ bs) :
    ∃ a ∈ as, a.same b = true := by
  induction as generalizing bs with
  | nil =>
    cases bs with
    | nil => cases hb
    | cons => cases h
  | cons a as ih =>
    cases bs with
    | nil => cases hb
    | cons b' bs =>
      simp only [sameAll, Bool.and_eq_true] at h
      rcases List.mem_cons.mp hb with rfl | hb
      · exact ⟨a, List.mem_cons_self, h.1⟩
      · obtain ⟨a', ha', hsame⟩ := ih h.2 hb
        exact ⟨a', List.mem_cons_of_mem a ha', hsame⟩

/-! ## Equal sequences -/

/-- A way to write the sequences of an element type, which equality respects. -/
structure IsSpelling (spell : Annot → Annot) : Prop where
  /-- It writes sequences. -/
  sequence : ∀ t, (spell t).SequenceOf t
  /-- Sequences are equal if their element types are. -/
  same_eq : ∀ t u, (spell t).same (spell u) = t.same u
  /-- What a sequence is equal to is written the same way. -/
  of_same_left : ∀ {t b}, (spell t).same b = true → ∃ u, b = spell u
  /-- What is equal to a sequence is written the same way. -/
  of_same_right : ∀ {t a}, a.same (spell t) = true → ∃ u, a = spell u

/-- After an element type there is nothing or dots. -/
def IsEnd (rest : List Annot) : Prop := rest = [] ∨ rest = [.ellipsis]

theorem IsEnd.sameAll_self {rest : List Annot} (h : IsEnd rest) : sameAll rest rest = true := by
  rcases h with rfl | rfl
  · rfl
  · rfl

theorem IsEnd.eq_of_sameAll_left {rest others : List Annot} (h : IsEnd rest)
    (hsame : sameAll rest others = true) : others = rest := by
  rcases h with rfl | rfl
  · cases others with
    | nil => rfl
    | cons => cases hsame
  · cases others with
    | nil => cases hsame
    | cons b others =>
      simp only [sameAll, Bool.and_eq_true] at hsame
      cases others with
      | nil => cases b with
        | ellipsis => rfl
        | _ => cases hsame.1
      | cons => cases hsame.2

theorem IsEnd.eq_of_sameAll_right {rest others : List Annot} (h : IsEnd rest)
    (hsame : sameAll others rest = true) : others = rest := by
  rcases h with rfl | rfl
  · cases others with
    | nil => rfl
    | cons => cases hsame
  · cases others with
    | nil => cases hsame
    | cons a others =>
      simp only [sameAll, Bool.and_eq_true] at hsame
      cases others with
      | nil => cases a with
        | ellipsis => rfl
        | _ => cases hsame.1
      | cons => cases hsame.2

/-- What is made of a list, and equal to nothing else, spells sequences with an end. -/
theorem isSpelling_of {make : List Annot → Annot} {rest : List Annot} (hrest : IsEnd rest)
    (hsame : ∀ as bs, (make as).same (make bs) = sameAll as bs)
    (hleft : ∀ {as b}, (make as).same b = true → ∃ bs, b = make bs)
    (hright : ∀ {bs a}, a.same (make bs) = true → ∃ as, a = make as)
    (hseq : ∀ t, (make (t :: rest)).SequenceOf t) : IsSpelling fun t => make (t :: rest) where
  sequence := hseq
  same_eq t u := by rw [hsame, sameAll, hrest.sameAll_self, Bool.and_true]
  of_same_left {t b} h := by
    obtain ⟨bs, rfl⟩ := hleft h
    rw [hsame] at h
    cases bs with
    | nil => cases h
    | cons u others =>
      simp only [sameAll, Bool.and_eq_true] at h
      exact ⟨u, by rw [hrest.eq_of_sameAll_left h.2]⟩
  of_same_right {t a} h := by
    obtain ⟨as, rfl⟩ := hright h
    rw [hsame] at h
    cases as with
    | nil => cases h
    | cons u others =>
      simp only [sameAll, Bool.and_eq_true] at h
      exact ⟨u, by rw [hrest.eq_of_sameAll_right h.2]⟩

theorem isSpelling_applied {rest : List Annot} (hrest : IsEnd rest)
    (hseq : ∀ t, (Annot.applied c (t :: rest)).SequenceOf t) :
    IsSpelling fun t => .applied c (t :: rest) := by
  -- The class of callables with arguments may be equal to a signature, but makes no sequences.
  have hc : c ≠ .library .callable := by
    rintro rfl
    cases hseq .ellipsis
  refine isSpelling_of hrest (fun as bs => by simp [same]) ?_ ?_ hseq
  · intro as b h
    cases b with
    | applied d bs =>
      simp only [same, Bool.and_eq_true, beq_iff_eq] at h
      exact ⟨bs, by rw [h.1]⟩
    | signature bs => simp [same, hc] at h
    | _ => cases h
  · intro bs a h
    cases a with
    | applied d as =>
      simp only [same, Bool.and_eq_true, beq_iff_eq] at h
      exact ⟨as, by rw [h.1]⟩
    | signature as => simp [same, hc] at h
    | _ => cases h

theorem isSpelling_special {f : Form} {rest : List Annot} (hrest : IsEnd rest)
    (hseq : ∀ t, (Annot.special f (t :: rest)).SequenceOf t) :
    IsSpelling fun t => .special f (t :: rest) := by
  refine isSpelling_of hrest (fun as bs => by simp [same]) ?_ ?_ hseq
  · intro as b h
    cases b with
    | special g bs =>
      simp only [same, Bool.and_eq_true, beq_iff_eq] at h
      exact ⟨bs, by rw [h.1]⟩
    | _ => cases h
  · intro bs a h
    cases a with
    | special g as =>
      simp only [same, Bool.and_eq_true, beq_iff_eq] at h
      exact ⟨as, by rw [h.1]⟩
    | _ => cases h

theorem SequenceOf.exists_spelling (h : a.SequenceOf t) :
    ∃ spell, IsSpelling spell ∧ a = spell t := by
  cases h with
  | list => exact ⟨_, isSpelling_applied (.inl rfl) fun _ => .list, rfl⟩
  | abstractSequence =>
    exact ⟨_, isSpelling_applied (.inl rfl) fun _ => .abstractSequence, rfl⟩
  | abstractMutable =>
    exact ⟨_, isSpelling_applied (.inl rfl) fun _ => .abstractMutable, rfl⟩
  | tuple => exact ⟨_, isSpelling_applied (.inr rfl) fun _ => .tuple, rfl⟩
  | listForm => exact ⟨_, isSpelling_special (.inl rfl) fun _ => .listForm, rfl⟩
  | sequenceForm => exact ⟨_, isSpelling_special (.inl rfl) fun _ => .sequenceForm, rfl⟩
  | mutableForm => exact ⟨_, isSpelling_special (.inl rfl) fun _ => .mutableForm, rfl⟩
  | tupleForm => exact ⟨_, isSpelling_special (.inr rfl) fun _ => .tupleForm, rfl⟩

theorem Flat.of_sequenceOf (ha : a.Flat) (h : a.SequenceOf t) : t.Flat := by
  cases h with
  | _ => exact ha.1

/-! ## Equal optional annotations -/

theorem eq_pair_of_mem {x y : Annot} (ht : t ∈ [x, y]) (hu : u ∈ [x, y]) (hne : t ≠ u) :
    [x, y] = [t, u] ∨ [x, y] = [u, t] := by
  simp only [List.mem_cons, List.not_mem_nil, or_false] at ht hu
  rcases ht with rfl | rfl
  · rcases hu with rfl | rfl
    · exact absurd rfl hne
    · exact Or.inl rfl
  · rcases hu with rfl | rfl
    · exact Or.inr rfl
    · exact absurd rfl hne

/-- A union of two members, of which one is empty and another is not, is optional. -/
theorem optionalOf_of_mem (ha : a.isUnion = true) (hlength : a.parts.length = 2)
    (ht : t ∈ a.parts) (hne : t ≠ noneType) (hnone : noneType ∈ a.parts) : a.OptionalOf t := by
  obtain ⟨x, y, hxy⟩ := List.length_eq_two.mp hlength
  refine optionalOf_of_parts ha hne ?_
  rw [hxy] at ht hnone ⊢
  exact eq_pair_of_mem ht hnone hne

/-- What a flat optional annotation is equal to is optional. -/
theorem OptionalOf.exists_of_same_left (ha : a.Flat) (h : a.OptionalOf t)
    (hsame : a.same b = true) : ∃ u, b.OptionalOf u ∧ t.same u = true := by
  obtain ⟨hunion, -, hnone⟩ := optionalOf_iff.mp h
  have hb : b.isUnion = true := isUnion_of_same_left hunion hsame
  obtain ⟨hlength, hamong, -⟩ := (same_iff_of_isUnion hunion hb).mp hsame
  obtain ⟨u, hu, htu⟩ := hamong t h.mem_parts
  obtain ⟨v, hv, hnv⟩ := hamong noneType hnone
  cases eq_of_cls_same hnv
  have hne : u ≠ noneType := by
    rintro rfl
    exact h.ne_noneType (eq_of_same_cls htu)
  exact ⟨u, optionalOf_of_mem hb (hlength ▸ ha.length_parts_of_optionalOf h) hu hne hv, htu⟩

/-- What is equal to a flat optional annotation is optional. -/
theorem OptionalOf.exists_of_same_right (hb : b.Flat) (h : b.OptionalOf t)
    (hsame : a.same b = true) : ∃ u, a.OptionalOf u ∧ u.same t = true := by
  obtain ⟨hunion, -, hnone⟩ := optionalOf_iff.mp h
  have ha : a.isUnion = true := isUnion_of_same_right hunion hsame
  obtain ⟨hlength, -, hamong⟩ := (same_iff_of_isUnion ha hunion).mp hsame
  obtain ⟨u, hu, hut⟩ := hamong t h.mem_parts
  obtain ⟨v, hv, hvn⟩ := hamong noneType hnone
  cases eq_of_same_cls hvn
  have hne : u ≠ noneType := by
    rintro rfl
    exact h.ne_noneType (eq_of_cls_same hut)
  exact ⟨u, optionalOf_of_mem ha (hlength.trans (hb.length_parts_of_optionalOf h)) hu hne hv, hut⟩

end Annot

/-! ## Equal annotations have one Elm type -/

section

open Annot

variable {p : Program} {node : ClassId → Elm.RecordId} {a b : Annot} {ty : Elm.Ty}

/-- What a flat annotation is equal to has its type. -/
theorem Translates.same_left (h : Translates p node a ty) (ha : a.Flat)
    (hsame : a.same b = true) : Translates p node b ty := by
  induction h generalizing b with
  | bool => cases eq_of_cls_same hsame; exact .bool
  | int => cases eq_of_cls_same hsame; exact .int
  | float => cases eq_of_cls_same hsame; exact .float
  | str => cases eq_of_cls_same hsame; exact .str
  | record hrec => cases eq_of_cls_same hsame; exact .record hrec
  | annotated _ ih =>
    obtain ⟨u, notes, rfl, hu⟩ := exists_of_annotated_same hsame
    exact .annotated (ih ha hu)
  | optional hopt _ ih =>
    obtain ⟨u, hu, htu⟩ := hopt.exists_of_same_left ha hsame
    exact .optional hu (ih (ha.parts _ hopt.mem_parts) htu)
  | sequence hseq _ ih =>
    have ht := ha.of_sequenceOf hseq
    obtain ⟨spell, hspell, rfl⟩ := hseq.exists_spelling
    obtain ⟨u, rfl⟩ := hspell.of_same_left hsame
    rw [hspell.same_eq] at hsame
    exact .sequence (hspell.sequence u) (ih ht hsame)

/-- What is equal to a flat annotation has its type. -/
theorem Translates.same_right (h : Translates p node b ty) (hb : b.Flat)
    (hsame : a.same b = true) : Translates p node a ty := by
  induction h generalizing a with
  | bool => cases eq_of_same_cls hsame; exact .bool
  | int => cases eq_of_same_cls hsame; exact .int
  | float => cases eq_of_same_cls hsame; exact .float
  | str => cases eq_of_same_cls hsame; exact .str
  | record hrec => cases eq_of_same_cls hsame; exact .record hrec
  | annotated _ ih =>
    obtain ⟨u, notes, rfl, hu⟩ := exists_of_same_annotated hsame
    exact .annotated (ih hb hu)
  | optional hopt _ ih =>
    obtain ⟨u, hu, hut⟩ := hopt.exists_of_same_right hb hsame
    exact .optional hu (ih (hb.parts _ hopt.mem_parts) hut)
  | sequence hseq _ ih =>
    have ht := hb.of_sequenceOf hseq
    obtain ⟨spell, hspell, rfl⟩ := hseq.exists_spelling
    obtain ⟨u, rfl⟩ := hspell.of_same_right hsame
    rw [hspell.same_eq] at hsame
    exact .sequence (hspell.sequence u) (ih ht hsame)

end

end ElmCodec.Source
