import ElmCodec.Proofs.Within
import ElmCodec.Source.Base

/-!
# Lineages of new classes

A merge of lists that succeeds has the members of all lists and no others (`mem_merge`).  So the
lineage of a new class has, besides the class itself, its bases and what is in their lineages
(`mem_lineageFrom`).  The bases are classes that the objects named as bases mention
(`ancestry_eq_ok`).
-/

namespace ElmCodec.Source

namespace Lineage

variable {α : Type} [BEq α] [LawfulBEq α] {lists : List (List α)} {l : List α} {h x : α}

theorem exists_of_mem_heads (hmem : h ∈ heads lists) : ∃ tail, h :: tail ∈ lists := by
  rw [heads, List.mem_eraseDups] at hmem
  obtain ⟨list, hlist, hhead⟩ := List.mem_filterMap.mp hmem
  cases list with
  | nil => cases hhead
  | cons a tail => cases hhead; exact ⟨tail, hlist⟩

/-- Taking a head away takes nothing else away. -/
theorem mem_dropHead (hmem : h ∈ heads lists) :
    (x = h ∨ ∃ list ∈ dropHead h lists, x ∈ list) ↔ ∃ list ∈ lists, x ∈ list := by
  constructor
  · rintro (rfl | ⟨list, hlist, hx⟩)
    · obtain ⟨tail, htail⟩ := exists_of_mem_heads hmem
      exact ⟨_, htail, List.mem_cons_self⟩
    · obtain ⟨before, hbefore, rfl⟩ := List.mem_map.mp (List.mem_filter.mp hlist).1
      refine ⟨before, hbefore, ?_⟩
      split at hx
      · exact List.mem_of_mem_tail hx
      · exact hx
  · rintro ⟨list, hlist, hx⟩
    have hdrop : ∀ rest, (if list.head? == some h then list.tail else list) = rest → rest ≠ [] →
        rest ∈ dropHead h lists := by
      intro rest hrest hne
      refine List.mem_filter.mpr ⟨List.mem_map.mpr ⟨list, hlist, hrest⟩, ?_⟩
      simpa using hne
    cases list with
    | nil => cases hx
    | cons a tail =>
      by_cases ha : a = h
      · rcases List.mem_cons.mp hx with rfl | hx
        · exact Or.inl ha
        · exact Or.inr ⟨tail, hdrop tail (by simp [ha]) (List.ne_nil_of_mem hx), hx⟩
      · exact Or.inr ⟨a :: tail, hdrop (a :: tail) (by simp [ha]) (List.cons_ne_nil a tail), hx⟩

/-- A merge has the members of all lists. -/
theorem mem_merge {fuel : Nat} (hmerge : merge fuel lists = .ok l) :
    x ∈ l ↔ ∃ list ∈ lists, x ∈ list := by
  induction fuel generalizing lists l with
  | zero =>
    cases lists with
    | nil => cases hmerge; simp
    | cons list lists => cases hmerge
  | succ fuel ih =>
    cases lists with
    | nil => cases hmerge; simp
    | cons list lists =>
      unfold merge at hmerge
      cases hnext : nextHead? (list :: lists) with
      | none => rw [hnext] at hmerge; cases hmerge
      | some h =>
        rw [hnext] at hmerge
        dsimp only at hmerge
        cases hrest : merge fuel (dropHead h (list :: lists)) with
        | error heads => rw [hrest] at hmerge; cases hmerge
        | ok rest =>
          rw [hrest] at hmerge
          cases hmerge
          rw [List.mem_cons, ih hrest, mem_dropHead (List.mem_of_find?_eq_some hnext)]

theorem mem_ofBases {c : α} {bases : List α} {lineageOf : α → List α}
    (hl : ofBases c bases lineageOf = .ok l) :
    ∃ tail, l = c :: tail ∧ ∀ x, x ∈ tail ↔ x ∈ bases ∨ ∃ b ∈ bases, x ∈ lineageOf b := by
  unfold ofBases at hl
  dsimp only at hl
  generalize hlists : (bases.map lineageOf ++ [bases]).filter (fun l => !l.isEmpty) = lists at hl
  cases hmerge : merge lists.flatten.length lists with
  | error heads => rw [hmerge] at hl; cases hl
  | ok tail =>
    rw [hmerge] at hl
    cases hl
    refine ⟨tail, rfl, fun x => ?_⟩
    rw [mem_merge hmerge, ← hlists]
    constructor
    · rintro ⟨list, hlist, hx⟩
      rcases List.mem_append.mp (List.mem_filter.mp hlist).1 with hlist | hlist
      · obtain ⟨b, hb, rfl⟩ := List.mem_map.mp hlist
        exact Or.inr ⟨b, hb, hx⟩
      · rw [List.mem_singleton.mp hlist] at hx
        exact Or.inl hx
    · have hkept : ∀ list, list ∈ bases.map lineageOf ++ [bases] → x ∈ list →
          ∃ list ∈ (bases.map lineageOf ++ [bases]).filter (fun l => !l.isEmpty), x ∈ list := by
        intro list hlist hx
        refine ⟨list, List.mem_filter.mpr ⟨hlist, ?_⟩, hx⟩
        simpa using List.ne_nil_of_mem hx
      rintro (hx | ⟨b, hb, hx⟩)
      · exact hkept bases (by simp) hx
      · exact hkept (lineageOf b) (List.mem_append_left _ (List.mem_map_of_mem hb)) hx

end Lineage

namespace Program

variable {p : Program} {n : Nat} {lineage : List ClassRef}

/-- The lineage of a new class has the class, its bases and the lineages of these. -/
theorem mem_lineageFrom {bases : List ClassRef} (h : p.lineageFrom bases = .ok lineage) :
    ∃ tail, lineage = .declared p.nextClass :: tail ∧
      ∀ c, c ∈ tail ↔ c ∈ bases ∨ ∃ b ∈ bases, c ∈ p.lineageOf b := by
  unfold lineageFrom at h
  split at h
  next => cases h
  next => cases h
  next hlineage =>
    cases h
    exact Lineage.mem_ofBases hlineage

/-- The ancestors of a standard class are standard classes. -/
theorem exists_of_mem_lineageOf {c : ClassRef} {b : ClassId} (h : .declared b ∈ p.lineageOf c) :
    ∃ id, c = .declared id := by
  unfold lineageOf at h
  split at h
  next id => exact ⟨id, rfl⟩
  next => simp at h
  next => simp [ClassRef.object] at h
  next => simp [ClassRef.object] at h
  next => simp [ClassRef.object] at h

/-! ## Bases -/

theorem origin?_within {f : Form} {c : ClassRef} (h : f.origin? = some c) : c.Within n := by
  cases f <;> cases h <;> trivial

theorem formBases_within {bases : List Annot} {listed : Bool} {a : Annot} {c : ClassRef}
    {resolved : List Base} (hc : c.Within n) (h : p.formBases bases listed a c = .ok resolved) :
    ∀ d, .cls d ∈ resolved → d.Within n := by
  have hown : ∀ d, Base.cls d ∈ (if bases.any fun b => b.same (.cls c) then [] else [Base.cls c]) →
      d.Within n := by
    intro d hd
    split at hd
    · cases hd
    · cases List.mem_singleton.mp hd
      exact hc
  unfold formBases at h
  obtain ⟨generic, -, h⟩ := bind_eq_ok.mp h
  split at h
  · cases h
    exact hown
  · cases h
    intro d hd
    rcases List.mem_append.mp hd with hd | hd
    · exact hown d hd
    · cases List.mem_singleton.mp hd
      trivial

theorem basesOf_within {bases : List Annot} {listed : Bool} {a : Annot} {resolved : List Base}
    (ha : a.Within n) (h : p.basesOf bases listed a = .ok resolved) :
    ∀ c, .cls c ∈ resolved → c.Within n := by
  have hone : ∀ {b : Base}, (∀ c, b = .cls c → c.Within n) → ∀ c, .cls c ∈ [b] → c.Within n :=
    fun hb c hc => hb c (List.mem_singleton.mp hc).symm
  unfold basesOf at h
  split at h
  case h_1 => cases h; exact hone fun c hc => by cases hc; exact ha
  case h_2 => cases h; exact hone fun c hc => by cases hc; exact ha.1
  case h_3 => cases h; exact hone fun c hc => by cases hc; trivial
  case h_4 => cases h; exact hone fun c hc => by cases hc; exact ha.1
  case h_5 | h_6 =>
    split at h
    next c hc => exact formBases_within (origin?_within hc) h
    next => cases h
  case h_7 | h_8 => cases h
  case h_9 => cases h; exact hone fun c hc => by cases hc; exact ha
  all_goals cases h; exact hone fun c hc => by cases hc

theorem foundBases_within {bases : List Annot} {listed : Bool} {found : List (List Base)}
    (hbases : ∀ a ∈ bases, a.Within n) (h : bases.mapM (p.basesOf bases listed) = .ok found) :
    ∀ c, .cls c ∈ found.flatten → c.Within n := by
  intro c hc
  obtain ⟨resolved, hresolved, hc⟩ := List.mem_flatten.mp hc
  obtain ⟨a, ha, hresolved⟩ := forall₂_mem_right (mapM_eq_ok.mp h) hresolved
  exact basesOf_within (hbases a ha) hresolved c hc

/-- A class that is made has the lineage of some bases that the named objects mention. -/
theorem ancestry_eq_ok {name : String} {bases : List Annot} {listed parameters : List Variable}
    (hbases : ∀ a ∈ bases, a.Within n)
    (h : p.ancestry name bases listed = .ok (lineage, parameters)) :
    ∃ classes : List ClassRef, (∀ c ∈ classes, c.Within n) ∧
      p.lineageFrom classes = .ok lineage := by
  obtain ⟨found, hfound, h⟩ := bind_eq_ok.mp h
  have hmentioned : ∀ c, .cls c ∈ found.flatten ++
      (if listed.isEmpty then [] else [Base.cls (.library .generic)]) → c.Within n := by
    intro c hc
    rcases List.mem_append.mp hc with hc | hc
    · exact foundBases_within hbases hfound c hc
    · split at hc
      · cases hc
      · cases List.mem_singleton.mp hc
        trivial
  dsimp only at h
  generalize found.flatten ++ (if listed.isEmpty then [] else [Base.cls (.library .generic)]) =
    resolved at h hmentioned
  obtain ⟨-, -, h⟩ := bind_eq_ok.mp h
  obtain ⟨-, -, h⟩ := bind_eq_ok.mp h
  obtain ⟨-, -, h⟩ := bind_eq_ok.mp h
  obtain ⟨order, horder, h⟩ := bind_eq_ok.mp h
  have hresult : order = lineage := by
    generalize List.findSome? _ resolved = newType at h
    cases newType with
    | some base => cases h
    | none =>
      dsimp only at h
      split at h
      · obtain ⟨_, -, h⟩ := bind_eq_ok.mp h
        cases h
        rfl
      · cases h
        rfl
  refine ⟨_, fun c hc => ?_, hresult ▸ horder⟩
  split at hc
  · cases List.mem_singleton.mp hc
    trivial
  · obtain ⟨base, hbase, hbc⟩ := List.mem_filterMap.mp hc
    cases base with
    | object _ => cases hbc
    | newType _ => cases hbc
    | cls d =>
      cases hbc
      exact hmentioned c hbase

end Program

end ElmCodec.Source
