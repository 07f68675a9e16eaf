import ElmCodec.Proofs.Bisimilar
import ElmCodec.Proofs.Results

/-!
# The comparison decides bisimilarity

The comparison of types never takes back a pair of records that it has met.  It is right
nevertheless.  If it finds a difference anywhere then the answer is no, and if it finds none
then the pairs that it has met are a bisimulation (`Compares.vouches`): each of them was
compared field by field, and what its fields lead to was met as well.

The function counts its steps by fuel, and answers no when the fuel is used up.  So that an
answer no means a difference, the comparison is also given by rules without fuel (`Compares`).
They have at most one outcome (`Compares.unique`).  For the types of a finite graph they have
an outcome, the one that the function computes (`recordsAgree_settles`).

Types refer to records by their places, so a graph is a schema in which all places that occur
are places of records.  A cycle leads through a record, since types are trees otherwise.
-/

namespace ElmCodec.Elm

variable {s t : Schema} {fuel : Nat} {met met' : Met}

/-! ## Rules -/

/-- What is compared. -/
inductive Query where
  | types (a b : Ty)
  | field (f g : Field)
  | fields (fs gs : List Field)

/-- Whether two types are of the same kind.  A list without an element type is of another kind
than a list with one. -/
def Ty.sameKind : Ty → Ty → Bool
  | .primitive _, .primitive _ | .list _, .list _ | .nullable _, .nullable _
  | .record _, .record _ | .incomplete _, .incomplete _ | .foreign .., .foreign .. => true
  | _, _ => false

/-- The same key and name, and missing keys are treated alike. -/
def Field.SameLabels (f g : Field) : Prop :=
  f.key = g.key ∧ f.name = g.name ∧ f.omittable = g.omittable

/-- A comparison ends, either with the pairs of records it has met or, if there is a difference,
with nothing. -/
inductive Compares (s t : Schema) : Query → Met → Option Met → Prop where
  | unlike {a b : Ty} {met : Met} : a.sameKind b = false → Compares s t (.types a b) met none
  | primitive (p q : Primitive) (met : Met) :
      Compares s t (.types (.primitive p) (.primitive q)) met (if p = q then some met else none)
  | incomplete (v w : Wrapper) (met : Met) :
      Compares s t (.types (.incomplete v) (.incomplete w)) met (if v = w then some met else none)
  | foreign (kind key name kind' key' name' : String) (met : Met) :
      Compares s t (.types (.foreign kind key name) (.foreign kind' key' name')) met
        (if kind = kind' ∧ key = key' ∧ name = name' then some met else none)
  | list {a b : Ty} {met : Met} {r : Option Met} : Compares s t (.types a b) met r →
      Compares s t (.types (.list a) (.list b)) met r
  | nullable {a b : Ty} {met : Met} {r : Option Met} : Compares s t (.types a b) met r →
      Compares s t (.types (.nullable a) (.nullable b)) met r
  | met {i j : RecordId} {met : Met} : (i, j) ∈ met →
      Compares s t (.types (.record i) (.record j)) met (some met)
  | unlikeRecord {i j : RecordId} {met : Met} {a b : Record} : (i, j) ∉ met →
      s[i]? = some a → t[j]? = some b → ¬ (a.name = b.name ∧ a.fields.length = b.fields.length) →
      Compares s t (.types (.record i) (.record j)) met none
  | record {i j : RecordId} {met : Met} {r : Option Met} {a b : Record} : (i, j) ∉ met →
      s[i]? = some a → t[j]? = some b → a.name = b.name → a.fields.length = b.fields.length →
      Compares s t (.fields a.fields b.fields) ((i, j) :: met) r →
      Compares s t (.types (.record i) (.record j)) met r
  | unlikeField {f g : Field} {met : Met} : ¬ f.SameLabels g → Compares s t (.field f g) met none
  | field {f g : Field} {met : Met} {r : Option Met} : f.SameLabels g →
      Compares s t (.types f.type g.type) met r → Compares s t (.field f g) met r
  | nil (met : Met) : Compares s t (.fields [] []) met (some met)
  | stop {f g : Field} {fs gs : List Field} {met : Met} : Compares s t (.field f g) met none →
      Compares s t (.fields (f :: fs) (g :: gs)) met none
  | cons {f g : Field} {fs gs : List Field} {met met' : Met} {r : Option Met} :
      Compares s t (.field f g) met (some met') → Compares s t (.fields fs gs) met' r →
      Compares s t (.fields (f :: fs) (g :: gs)) met r

/-- A comparison has at most one outcome. -/
theorem Compares.unique {q : Query} {r r' : Option Met} (h : Compares s t q met r)
    (h' : Compares s t q met r') : r = r' := by
  induction h generalizing r' with
  | unlike hkind =>
    cases h' with
    | unlike => rfl
    | _ => cases hkind
  | primitive | incomplete | foreign =>
    cases h' with
    | unlike hkind => cases hkind
    | _ => rfl
  | list _ ih =>
    cases h' with
    | unlike hkind => cases hkind
    | list h' => exact ih h'
  | nullable _ ih =>
    cases h' with
    | unlike hkind => cases hkind
    | nullable h' => exact ih h'
  | met hin =>
    cases h' with
    | unlike hkind => cases hkind
    | met => rfl
    | unlikeRecord hnew => exact absurd hin hnew
    | record hnew => exact absurd hin hnew
  | unlikeRecord hnew ha hb hdiffer =>
    cases h' with
    | unlike hkind => cases hkind
    | met hin => exact absurd hin hnew
    | unlikeRecord => rfl
    | record _ ha' hb' hname hlength =>
      cases ha.symm.trans ha'
      cases hb.symm.trans hb'
      exact absurd ⟨hname, hlength⟩ hdiffer
  | record hnew ha hb hname hlength _ ih =>
    cases h' with
    | unlike hkind => cases hkind
    | met hin => exact absurd hin hnew
    | unlikeRecord _ ha' hb' hdiffer =>
      cases ha.symm.trans ha'
      cases hb.symm.trans hb'
      exact absurd ⟨hname, hlength⟩ hdiffer
    | record _ ha' hb' _ _ h' =>
      cases ha.symm.trans ha'
      cases hb.symm.trans hb'
      exact ih h'
  | unlikeField hlabels =>
    cases h' with
    | unlikeField => rfl
    | field hsame => exact absurd hsame hlabels
  | field hsame _ ih =>
    cases h' with
    | unlikeField hlabels => exact absurd hsame hlabels
    | field _ h' => exact ih h'
  | nil => cases h'; rfl
  | stop _ ih =>
    cases h' with
    | stop => rfl
    | cons hfield => cases ih hfield
  | cons _ _ ih ihrest =>
    cases h' with
    | stop hfield => cases ih hfield
    | cons hfield hrest =>
      cases ih hfield
      exact ihrest hrest

/-! ## The pairs that are met are a bisimulation -/

section

variable {R S : RecordId → RecordId → Prop}

theorem Ty.Related.mono {a b : Ty} (h : a.Related R b) (hRS : ∀ i j, R i j → S i j) :
    a.Related S b := by
  induction h with
  | primitive p => exact .primitive p
  | list _ ih => exact .list ih
  | nullable _ ih => exact .nullable ih
  | record hR => exact .record (hRS _ _ hR)
  | incomplete w => exact .incomplete w
  | foreign kind key name => exact .foreign kind key name

theorem Field.Related.mono {f g : Field} (h : f.Related R g) (hRS : ∀ i j, R i j → S i j) :
    f.Related S g :=
  ⟨h.key, h.name, h.omittable, h.type.mono hRS⟩

theorem Record.Related.mono {a b : Record} (h : a.Related R b) (hRS : ∀ i j, R i j → S i j) :
    a.Related S b :=
  ⟨h.name, h.fields.imp fun _ _ hfield => hfield.mono hRS⟩

end

/-- What is compared is built in the same way from related records. -/
def Query.Related (R : RecordId → RecordId → Prop) : Query → Prop
  | .types a b => a.Related R b
  | .field f g => f.Related R g
  | .fields fs gs => List.Forall₂ (Field.Related R) fs gs

/-- The pairs of a list. -/
def Met.Has (met : Met) (i j : RecordId) : Prop := (i, j) ∈ met

/-- The pairs that were met in addition were compared, and lead to pairs that were met. -/
structure Vouches (s t : Schema) (met met' : Met) : Prop where
  old : ∀ i j, met.Has i j → met'.Has i j
  new : ∀ i j, met'.Has i j → ¬ met.Has i j →
    ∃ a b, s[i]? = some a ∧ t[j]? = some b ∧ a.Related met'.Has b

theorem Vouches.refl (s t : Schema) (met : Met) : Vouches s t met met :=
  ⟨fun _ _ h => h, fun _ _ h hnot => absurd h hnot⟩

theorem Vouches.trans {met₁ met₂ met₃ : Met} (h : Vouches s t met₁ met₂)
    (h' : Vouches s t met₂ met₃) : Vouches s t met₁ met₃ := by
  refine ⟨fun i j hij => h'.old i j (h.old i j hij), fun i j hij hnot => ?_⟩
  by_cases hmid : met₂.Has i j
  · obtain ⟨a, b, ha, hb, hab⟩ := h.new i j hmid hnot
    exact ⟨a, b, ha, hb, hab.mono h'.old⟩
  · exact h'.new i j hij hmid

/-- A comparison without a difference vouches for the pairs that it has met. -/
theorem Compares.vouches {q : Query} {r : Option Met} (h : Compares s t q met r)
    (hr : r = some met') : Vouches s t met met' ∧ q.Related met'.Has := by
  induction h generalizing met' with
  | unlike => cases hr
  | primitive p q met =>
    obtain ⟨rfl, hmet⟩ := Option.ite_none_right_eq_some.mp hr
    cases hmet
    exact ⟨.refl s t met, .primitive p⟩
  | incomplete v w met =>
    obtain ⟨rfl, hmet⟩ := Option.ite_none_right_eq_some.mp hr
    cases hmet
    exact ⟨.refl s t met, .incomplete v⟩
  | foreign kind key name kind' key' name' met =>
    obtain ⟨⟨rfl, rfl, rfl⟩, hmet⟩ := Option.ite_none_right_eq_some.mp hr
    cases hmet
    exact ⟨.refl s t met, .foreign kind key name⟩
  | list _ ih => exact ⟨(ih hr).1, .list (ih hr).2⟩
  | nullable _ ih => exact ⟨(ih hr).1, .nullable (ih hr).2⟩
  | met hin =>
    cases hr
    exact ⟨.refl s t _, .record hin⟩
  | unlikeRecord => cases hr
  | @record i j met r a b _ ha hb hname _ _ ih =>
    obtain ⟨hvouches, hfields⟩ := ih hr
    have hij : met'.Has i j := hvouches.old i j List.mem_cons_self
    refine ⟨⟨fun k l hkl => hvouches.old k l (List.mem_cons_of_mem _ hkl), fun k l hkl hnot => ?_⟩,
      .record hij⟩
    by_cases hpair : (k, l) = (i, j)
    · -- The pair itself was compared just now.
      cases hpair
      exact ⟨a, b, ha, hb, hname, hfields⟩
    · exact hvouches.new k l hkl fun hmem => (List.mem_cons.mp hmem).elim hpair hnot
  | unlikeField => cases hr
  | field hlabels _ ih =>
    obtain ⟨hvouches, htypes⟩ := ih hr
    exact ⟨hvouches, hlabels.1, hlabels.2.1, hlabels.2.2, htypes⟩
  | nil met =>
    cases hr
    exact ⟨.refl s t met, .nil⟩
  | stop => cases hr
  | cons _ _ ih ihrest =>
    obtain ⟨hfirst, hfield⟩ := ih rfl
    obtain ⟨hsecond, hfields⟩ := ihrest hr
    exact ⟨hfirst.trans hsecond, .cons (hfield.mono hsecond.old) hfields⟩

theorem Vouches.isBisimulation (h : Vouches s t [] met) : Schema.IsBisimulation s t met.Has :=
  fun i j hij => h.new i j hij List.not_mem_nil

/-! ## The function computes the outcome -/

/-- The records that a type leads to are records of a schema. -/
def Ty.IsIn (s : Schema) : Ty → Prop
  | .list t | .nullable t => t.IsIn s
  | .record id => id < s.length
  | .primitive _ | .incomplete _ | .foreign .. => True

/-- The records of a schema lead to records of it. -/
def Schema.IsGraph (s : Schema) : Prop := ∀ r ∈ s, ∀ f ∈ r.fields, f.type.IsIn s

/-- A result is an outcome of the comparison, with fuel for the pairs that are not met yet. -/
structure Settles (s t : Schema) (fuel : Nat) (q : Query) (met : Met) (r : Option Met) : Prop where
  compares : Compares s t q met r
  fuelled : ∀ met' ∈ r, Fuelled s t fuel met'

/-- A comparison of records that computes the outcome. -/
def SettlesRecords (s t : Schema) (fuel : Nat)
    (records : RecordId → RecordId → Met → Option Met) : Prop :=
  ∀ {i j met}, i < s.length → j < t.length → Fuelled s t fuel met →
    Settles s t fuel (.types (.record i) (.record j)) met (records i j met)

section

variable {records : RecordId → RecordId → Met → Option Met}

theorem Fuelled.ite (h : Fuelled s t fuel met) {p : Prop} [Decidable p] :
    ∀ met' ∈ if p then some met else none, Fuelled s t fuel met' := by
  intro met' hmet'
  obtain ⟨-, hsome⟩ := Option.ite_none_right_eq_some.mp hmet'
  cases hsome
  exact h

theorem Ty.agree_settles (hrecords : SettlesRecords s t fuel records) {a b : Ty} (ha : a.IsIn s)
    (hb : b.IsIn t) (hmet : Fuelled s t fuel met) :
    Settles s t fuel (.types a b) met (Ty.agree records a b met) := by
  have hunlike : ∀ {a b : Ty}, a.sameKind b = false →
      Settles s t fuel (.types a b) met none := fun h => ⟨.unlike h, by simp⟩
  induction a generalizing b with
  | primitive p =>
    cases b with
    | primitive q => exact ⟨.primitive p q met, hmet.ite⟩
    | _ => exact hunlike rfl
  | list a ih =>
    cases b with
    | list b =>
      have helem := ih (b := b) ha hb
      exact ⟨.list helem.compares, helem.fuelled⟩
    | _ => exact hunlike rfl
  | nullable a ih =>
    cases b with
    | nullable b =>
      have helem := ih (b := b) ha hb
      exact ⟨.nullable helem.compares, helem.fuelled⟩
    | _ => exact hunlike rfl
  | record i =>
    cases b with
    | record j => exact hrecords ha hb hmet
    | _ => exact hunlike rfl
  | incomplete v =>
    cases b with
    | incomplete w => exact ⟨.incomplete v w met, hmet.ite⟩
    | _ => exact hunlike rfl
  | foreign kind key name =>
    cases b with
    | foreign kind' key' name' => exact ⟨.foreign kind key name kind' key' name' met, hmet.ite⟩
    | _ => exact hunlike rfl

theorem Field.agree_settles (hrecords : SettlesRecords s t fuel records) {f g : Field}
    (hf : f.type.IsIn s) (hg : g.type.IsIn t) (hmet : Fuelled s t fuel met) :
    Settles s t fuel (.field f g) met (Field.agree records f g met) := by
  have htypes := Ty.agree_settles hrecords hf hg hmet
  unfold Field.agree
  split
  next hlabels => exact ⟨.field hlabels htypes.compares, htypes.fuelled⟩
  next hlabels => exact ⟨.unlikeField hlabels, by simp⟩

theorem fieldsAgree_settles (hrecords : SettlesRecords s t fuel records) {fs gs : List Field}
    (hfs : ∀ f ∈ fs, f.type.IsIn s) (hgs : ∀ g ∈ gs, g.type.IsIn t)
    (hlength : fs.length = gs.length) (hmet : Fuelled s t fuel met) :
    Settles s t fuel (.fields fs gs) met (fieldsAgree records fs gs met) := by
  induction fs generalizing gs met with
  | nil =>
    cases gs with
    | nil => exact ⟨.nil met, fun met' hmet' => by cases hmet'; exact hmet⟩
    | cons g gs => cases hlength
  | cons f fs ih =>
    cases gs with
    | nil => cases hlength
    | cons g gs =>
      have hfield := Field.agree_settles hrecords (hfs f List.mem_cons_self)
        (hgs g List.mem_cons_self) hmet
      rw [fieldsAgree]
      cases hagree : Field.agree records f g met with
      | none => exact ⟨.stop (hagree ▸ hfield.compares), by simp⟩
      | some met₁ =>
        have hrest := ih (fun f' hf' => hfs f' (List.mem_cons_of_mem f hf'))
          (fun g' hg' => hgs g' (List.mem_cons_of_mem g hg')) (Nat.succ.inj hlength)
          (hfield.fuelled met₁ hagree)
        exact ⟨.cons (hagree ▸ hfield.compares) hrest.compares, hrest.fuelled⟩

end

/-- The comparison of the records of two graphs computes the outcome. -/
theorem recordsAgree_settles (hs : s.IsGraph) (ht : t.IsGraph) (fuel : Nat) :
    SettlesRecords s t fuel (recordsAgree s t fuel) := by
  induction fuel with
  | zero =>
    intro i j met hi hj hmet
    by_cases hin : (i, j) ∈ met
    · rw [recordsAgree_of_mem hin]
      exact ⟨.met hin, fun met' hmet' => by cases hmet'; exact hmet⟩
    · -- A pair that is not met yet has fuel.
      exact absurd (hmet.pos hin hi hj) (Nat.lt_irrefl 0)
  | succ fuel ih =>
    intro i j met hi hj hmet
    by_cases hin : (i, j) ∈ met
    · rw [recordsAgree_of_mem hin]
      exact ⟨.met hin, fun met' hmet' => by cases hmet'; exact hmet⟩
    · have ha : s[i]? = some s[i] := List.getElem?_eq_getElem hi
      have hb : t[j]? = some t[j] := List.getElem?_eq_getElem hj
      by_cases hhead : s[i].name = t[j].name ∧ s[i].fields.length = t[j].fields.length
      · rw [recordsAgree_succ hin ha hb hhead.1 hhead.2]
        have hfields := fieldsAgree_settles ih (hs _ (List.getElem_mem hi))
          (ht _ (List.getElem_mem hj)) hhead.2 (hmet.cons hin hi hj)
        exact ⟨.record hin ha hb hhead.1 hhead.2 hfields.compares,
          fun met' hmet' => (hfields.fuelled met' hmet').mono⟩
      · have hnone : recordsAgree s t (fuel + 1) i j met = none := by
          rw [recordsAgree.eq_def]
          simp only
          rw [if_neg (mt List.contains_iff_mem.mp hin), ha, hb]
          exact if_neg hhead
        rw [hnone]
        exact ⟨.unlikeRecord hin ha hb hhead, by simp⟩

/-! ## Bisimilarity is an equivalence -/

/-- Fields that unfold to the same tree. -/
def Field.Bisimilar (s t : Schema) (f g : Field) : Prop :=
  ∃ R, Schema.IsBisimulation s t R ∧ f.Related R g

section

variable {u : Schema} {R S : RecordId → RecordId → Prop}

theorem Ty.IsIn.related {a : Ty} (h : a.IsIn s) :
    a.Related (fun i j => i = j ∧ i < s.length) a := by
  induction a with
  | primitive p => exact .primitive p
  | list a ih => exact .list (ih h)
  | nullable a ih => exact .nullable (ih h)
  | record i => exact .record ⟨rfl, h⟩
  | incomplete w => exact .incomplete w
  | foreign kind key name => exact .foreign kind key name

theorem Ty.Related.symm {a b : Ty} (h : a.Related R b) : b.Related (flip R) a := by
  induction h with
  | primitive p => exact .primitive p
  | list _ ih => exact .list ih
  | nullable _ ih => exact .nullable ih
  | record hR => exact .record hR
  | incomplete w => exact .incomplete w
  | foreign kind key name => exact .foreign kind key name

theorem Ty.Related.trans {a b c : Ty} (h : a.Related R b) (h' : b.Related S c) :
    a.Related (Relation.Comp R S) c := by
  induction h generalizing c with
  | primitive p => cases h'; exact .primitive p
  | list _ ih =>
    cases h' with
    | list h' => exact .list (ih h')
  | nullable _ ih =>
    cases h' with
    | nullable h' => exact .nullable (ih h')
  | @record i j hR =>
    cases h' with
    | record hS => exact .record ⟨j, hR, hS⟩
  | incomplete w => cases h'; exact .incomplete w
  | foreign kind key name => cases h'; exact .foreign kind key name

theorem Field.Related.symm {f g : Field} (h : f.Related R g) : g.Related (flip R) f :=
  ⟨h.key.symm, h.name.symm, h.omittable.symm, h.type.symm⟩

theorem Field.Related.trans {f g k : Field} (h : f.Related R g) (h' : g.Related S k) :
    f.Related (Relation.Comp R S) k :=
  ⟨h.key.trans h'.key, h.name.trans h'.name, h.omittable.trans h'.omittable, h.type.trans h'.type⟩

theorem Schema.IsGraph.isBisimulation (h : s.IsGraph) :
    Schema.IsBisimulation s s fun i j => i = j ∧ i < s.length := by
  rintro i j ⟨rfl, hi⟩
  have ha : s[i]? = some s[i] := List.getElem?_eq_getElem hi
  refine ⟨_, _, ha, ha, rfl, List.forall₂_same.mpr fun f hf => ?_⟩
  exact ⟨rfl, rfl, rfl, (h _ (List.getElem_mem hi) f hf).related⟩

theorem Schema.IsBisimulation.symm (h : Schema.IsBisimulation s t R) :
    Schema.IsBisimulation t s (flip R) := by
  intro j i hij
  obtain ⟨a, b, ha, hb, hab⟩ := h i j hij
  exact ⟨b, a, hb, ha, hab.name.symm, (hab.fields.imp fun _ _ hf => hf.symm).flip⟩

theorem Schema.IsBisimulation.trans (h : Schema.IsBisimulation s t R)
    (h' : Schema.IsBisimulation t u S) : Schema.IsBisimulation s u (Relation.Comp R S) := by
  rintro i k ⟨j, hij, hjk⟩
  obtain ⟨a, b, ha, hb, hab⟩ := h i j hij
  obtain ⟨b', c, hb', hc, hbc⟩ := h' j k hjk
  cases hb.symm.trans hb'
  refine ⟨a, c, ha, hc, hab.name.trans hbc.name, ?_⟩
  exact forall₂_trans (fun _ _ _ hf hg => hf.trans hg) hab.fields hbc.fields

end

/-! ## Nodes of graphs -/

/-- A type of a graph. -/
structure Node where
  schema : Schema
  type : Ty
  isGraph : schema.IsGraph
  isIn : type.IsIn schema

/-- A field of a graph. -/
structure FieldNode where
  schema : Schema
  field : Field
  isGraph : schema.IsGraph
  isIn : field.type.IsIn schema

namespace Node

/-- The comparison of two nodes ends with an answer. -/
def ComparesTo (a b : Node) (answer : Bool) : Prop :=
  ∃ r, Compares a.schema b.schema (.types a.type b.type) [] r ∧ answer = r.isSome

def sameContent (a b : Node) : Bool := Ty.sameContent a.schema b.schema a.type b.type

def Bisimilar (a b : Node) : Prop := Ty.Bisimilar a.schema b.schema a.type b.type

theorem compares (a b : Node) : Compares a.schema b.schema (.types a.type b.type) []
    (Ty.agree (recordsAgree a.schema b.schema (pairCount a.schema b.schema)) a.type b.type []) :=
  (Ty.agree_settles (recordsAgree_settles a.isGraph b.isGraph _) a.isIn b.isIn
    (fuelled_nil _ _)).compares

theorem comparesTo_iff {a b : Node} {answer : Bool} :
    a.ComparesTo b answer ↔ answer = a.sameContent b := by
  constructor
  · rintro ⟨r, hr, rfl⟩
    rw [hr.unique (compares a b)]
    rfl
  · intro h
    exact ⟨_, compares a b, h⟩

theorem sameContent_iff {a b : Node} : a.sameContent b = true ↔ a.Bisimilar b := by
  constructor
  · intro h
    obtain ⟨met, hmet⟩ := Option.isSome_iff_exists.mp h
    obtain ⟨hvouches, hrelated⟩ := (compares a b).vouches hmet
    exact ⟨met.Has, hvouches.isBisimulation, hrelated⟩
  · exact Ty.Bisimilar.sameContent

theorem bisimilar_equivalence : Equivalence Bisimilar where
  refl a := ⟨_, a.isGraph.isBisimulation, a.isIn.related⟩
  symm := fun ⟨_, hR, hab⟩ => ⟨_, hR.symm, hab.symm⟩
  trans := fun ⟨_, hR, hab⟩ ⟨_, hS, hbc⟩ => ⟨_, hR.trans hS, hab.trans hbc⟩

end Node

namespace FieldNode

/-- The comparison of two fields ends with an answer. -/
def ComparesTo (f g : FieldNode) (answer : Bool) : Prop :=
  ∃ r, Compares f.schema g.schema (.field f.field g.field) [] r ∧ answer = r.isSome

def sameContent (f g : FieldNode) : Bool := Field.sameContent f.schema g.schema f.field g.field

def Bisimilar (f g : FieldNode) : Prop := Field.Bisimilar f.schema g.schema f.field g.field

theorem compares (f g : FieldNode) : Compares f.schema g.schema (.field f.field g.field) []
    (Field.agree (recordsAgree f.schema g.schema (pairCount f.schema g.schema)) f.field g.field
      []) :=
  (Field.agree_settles (recordsAgree_settles f.isGraph g.isGraph _) f.isIn g.isIn
    (fuelled_nil _ _)).compares

theorem comparesTo_iff {f g : FieldNode} {answer : Bool} :
    f.ComparesTo g answer ↔ answer = f.sameContent g := by
  constructor
  · rintro ⟨r, hr, rfl⟩
    rw [hr.unique (compares f g)]
    rfl
  · intro h
    exact ⟨_, compares f g, h⟩

theorem sameContent_iff {f g : FieldNode} : f.sameContent g = true ↔ f.Bisimilar g := by
  constructor
  · intro h
    obtain ⟨met, hmet⟩ := Option.isSome_iff_exists.mp h
    obtain ⟨hvouches, hrelated⟩ := (compares f g).vouches hmet
    exact ⟨met.Has, hvouches.isBisimulation, hrelated⟩
  · rintro ⟨R, hR, hfg⟩
    obtain ⟨met, hagree, -⟩ := Field.agree_of_related
      (recordsAgree_accepts hR (pairCount f.schema g.schema)) hfg (fuelled_nil _ _)
    rw [sameContent, Field.sameContent, hagree]
    rfl

theorem bisimilar_equivalence : Equivalence Bisimilar where
  refl f := ⟨_, f.isGraph.isBisimulation, rfl, rfl, rfl, f.isIn.related⟩
  symm := fun ⟨_, hR, hfg⟩ => ⟨_, hR.symm, hfg.symm⟩
  trans := fun ⟨_, hR, hfg⟩ ⟨_, hS, hgk⟩ => ⟨_, hR.trans hS, hfg.trans hgk⟩

end FieldNode

/-- The comparison of types and that of fields end with one answer, which is whether the two are
bisimilar. -/
theorem comparison_decides_bisimilarity :
    ((∀ a b : Node, (∀ answer, a.ComparesTo b answer ↔ answer = a.sameContent b) ∧
        (a.sameContent b = true ↔ a.Bisimilar b)) ∧
      Equivalence fun a b : Node => a.sameContent b = true) ∧
    (∀ f g : FieldNode, (∀ answer, f.ComparesTo g answer ↔ answer = f.sameContent g) ∧
        (f.sameContent g = true ↔ f.Bisimilar g)) ∧
      Equivalence fun f g : FieldNode => f.sameContent g = true := by
  refine ⟨⟨fun a b => ⟨fun _ => Node.comparesTo_iff, Node.sameContent_iff⟩, ?_⟩,
    fun f g => ⟨fun _ => FieldNode.comparesTo_iff, FieldNode.sameContent_iff⟩, ?_⟩
  · simp only [Node.sameContent_iff]
    exact Node.bisimilar_equivalence
  · simp only [FieldNode.sameContent_iff]
    exact FieldNode.bisimilar_equivalence

-- A link that leads to itself is not told from two links that lead to each other.
example : Ty.sameContent [⟨"Link", [⟨"next", "next", .nullable (.record 0), false⟩]⟩]
    [⟨"Link", [⟨"next", "next", .nullable (.record 1), false⟩]⟩,
      ⟨"Link", [⟨"next", "next", .nullable (.record 0), false⟩]⟩]
    (.record 0) (.record 1) = true := by
  decide

end ElmCodec.Elm
