import ElmCodec.Proofs.Results
import ElmCodec.Proofs.Steps
import ElmCodec.Proofs.Table
import ElmCodec.Source.Definition

/-!
# What evaluation keeps

A type expression is evaluated to an annotation that is built from the objects bound to its
names, from what was made before, and from standard objects.  So a property that passes from the
parts of an annotation to the whole and back holds of all that evaluation makes, if it holds of
these (`Annot.Inherited`).  This takes one lemma for each function of evaluation.
-/

namespace ElmCodec.Source

/-! ## Properties of annotations -/

namespace Annot

/-- An object that is not built from others, and is no class. -/
def IsAtom : Annot → Prop
  | .form _ | .value _ | .ellipsis | .forward .. | .literal _ | .typeVar .. | .newType ..
  | .function .. | .routine .. | .member .. | .object .. | .module _ => True
  | _ => False

/-- A property that atoms and standard classes have, and that passes from the parts of an
annotation to the whole and back.  The members of a union are not all of its parts, since unions
are made flat.  The notes on a type are no parts of it. -/
class Inherited (P : Annot → Prop) : Prop where
  atom {a : Annot} : a.IsAtom → P a
  builtin (b : Builtin) : P (.cls (.builtin b))
  library (l : Library) : P (.cls (.library l))
  applied_iff {c : ClassRef} {args : List Annot} :
    P (.applied c args) ↔ P (.cls c) ∧ ∀ a ∈ args, P a
  signature_iff {args : List Annot} : P (.signature args) ↔ ∀ a ∈ args, P a
  special_iff {f : Form} {args : List Annot} : P (.special f args) ↔ ∀ a ∈ args, P a
  generic_iff {id : ClassId} {args : List Annot} :
    P (.generic id args) ↔ P (.cls (.declared id)) ∧ ∀ a ∈ args, P a
  params_iff {types : List Annot} : P (.params types) ↔ ∀ a ∈ types, P a
  tuple_iff {items : List Annot} : P (.tuple items) ↔ ∀ a ∈ items, P a
  annotated_iff {t : Annot} {notes : List Annot} : P (.annotated t notes) ↔ P t
  initVar_of {serial : Nat} {t : Annot} : P t → P (.initVar serial t)
  of_union {members : List Annot} : P (.union members) → ∀ a ∈ members, P a
  of_pipe {members : List Annot} : P (.pipe members) → ∀ a ∈ members, P a
  unionOf_of {members : List Annot} : (∀ a ∈ members, P a) → P (unionOf members)
  pipeOf_of {members : List Annot} : (∀ a ∈ members, P a) → P (pipeOf members)

/-- An inherited property that declared classes have too. -/
class Structural (P : Annot → Prop) : Prop extends Inherited P where
  cls (c : ClassRef) : P (.cls c)

instance : Structural fun _ => True where
  atom _ := trivial
  builtin _ := trivial
  library _ := trivial
  applied_iff := by simp
  signature_iff := by simp
  special_iff := by simp
  generic_iff := by simp
  params_iff := by simp
  tuple_iff := by simp
  annotated_iff := Iff.rfl
  initVar_of _ := trivial
  of_union _ _ _ := trivial
  of_pipe _ _ _ := trivial
  unionOf_of _ := trivial
  pipeOf_of _ := trivial
  cls _ := trivial

open Inherited

variable {P : Annot → Prop} [Inherited P] {a b c : Annot} {as bs : List Annot}

/-- Whether an object is there without a declaration, and is not built from others. -/
def isStandard : Annot → Bool
  | .cls (.declared _) | .applied .. | .signature _ | .special .. | .generic .. | .params _
  | .tuple _ | .union _ | .pipe _ | .annotated .. | .initVar .. => false
  | _ => true

theorem inherits_of_isStandard (h : a.isStandard = true) : P a := by
  cases a with
  | cls c => cases c with
    | builtin b => exact builtin b
    | library l => exact library l
    | declared => cases h
  | applied | signature | special | generic | params | tuple | union | pipe | annotated
  | initVar => cases h
  | _ => exact atom trivial

theorem forall_value (vs : List Value) : ∀ a ∈ vs.map .value, P a := by
  intro a ha
  obtain ⟨v, -, rfl⟩ := List.mem_map.mp ha
  exact atom trivial

/-- Results have a property if each step from an argument keeps it. -/
theorem forall_of_mapM {P : Annot → Prop} {f : Annot → Except EvalError Annot}
    (h : ∀ a ∈ as, P a) (hf : ∀ {a b}, P a → f a = .ok b → P b) (hbs : as.mapM f = .ok bs) :
    ∀ b ∈ bs, P b := by
  intro b hb
  obtain ⟨a, ha, hab⟩ := forall₂_mem_right (mapM_eq_ok.mp hbs) hb
  exact hf (h a ha) hab

/-- An argument is an object itself, the class of the empty value, or a reference. -/
theorem argument_cases {lenient : Bool} (h : a.argument lenient = .ok b) :
    b = a ∨ b = noneType ∨ ∃ s, b = .forward s lenient := by
  unfold Annot.argument at h
  split at h
  next =>
    cases h
    exact Or.inr (Or.inl rfl)
  next s =>
    obtain ⟨-, -, h⟩ := bind_eq_ok.mp h
    cases h
    exact Or.inr (Or.inr ⟨s, rfl⟩)
  next =>
    cases h
    exact Or.inl rfl

theorem asClass_cases (a : Annot) : a.asClass = a ∨ a.asClass = noneType := by
  unfold Annot.asClass
  split
  · exact Or.inr rfl
  · exact Or.inl rfl

/-- Two objects that do not belong to `typing` make a value or a union of their classes. -/
theorem joined?_cases (h : a.joined? b = some c) :
    (∃ v, c = .value v) ∨ c = pipeOf [a.asClass, b.asClass] := by
  unfold Annot.joined? at h
  split at h
  · cases h
  · obtain ⟨v, -, rfl⟩ := Option.map_eq_some_iff.mp h
    exact Or.inl ⟨v, rfl⟩
  · split at h
    · cases h
      exact Or.inr rfl
    · cases h

theorem inherits_argument {lenient : Bool} (h : P a) (hb : a.argument lenient = .ok b) : P b := by
  rcases argument_cases hb with rfl | rfl | ⟨s, rfl⟩
  · exact h
  · exact builtin .noneType
  · exact atom trivial

theorem inherits_asClass (h : P a) : P a.asClass := by
  rcases asClass_cases a with heq | heq
  · rwa [heq]
  · rw [heq]
    exact builtin .noneType

theorem inherits_joined? (ha : P a) (hb : P b) (hc : a.joined? b = some c) : P c := by
  rcases joined?_cases hc with ⟨v, rfl⟩ | rfl
  · exact atom trivial
  · exact pipeOf_of (by simpa using And.intro (inherits_asClass ha) (inherits_asClass hb))

theorem inherits_spread (h : ∀ a ∈ as, P a) : ∀ a ∈ spread as, P a := by
  fun_induction Annot.spread as with
  | case1 => simp
  | case2 items rest ih =>
    obtain ⟨-, hrest⟩ := List.forall_mem_cons.mp h
    exact List.forall_mem_append.mpr ⟨forall_value items, ih hrest⟩
  | case3 items rest ih =>
    obtain ⟨hitems, hrest⟩ := List.forall_mem_cons.mp h
    exact List.forall_mem_append.mpr ⟨tuple_iff.mp hitems, ih hrest⟩
  | case4 a rest _ _ ih =>
    obtain ⟨ha, hrest⟩ := List.forall_mem_cons.mp h
    exact List.forall_mem_cons.mpr ⟨ha, ih hrest⟩

/-- The annotations of a table have a property. -/
def Throughout {κ : Type} (P : Annot → Prop) (t : Table κ Annot) : Prop := ∀ entry ∈ t, P entry.2

theorem Throughout.find? {κ : Type} [BEq κ] [LawfulBEq κ] {P : Annot → Prop} {t : Table κ Annot}
    (h : Throughout P t) {key : κ} (ha : t.find? key = some a) : P a :=
  h _ (Table.mem_of_find? ha)

theorem Throughout.imp {κ : Type} {P Q : Annot → Prop} {t : Table κ Annot} (h : Throughout P t)
    (hPQ : ∀ a, P a → Q a) : Throughout Q t :=
  fun entry hentry => hPQ entry.2 (h entry hentry)

end Annot

/-- The objects between square brackets have a property. -/
def Index.Holds (P : Annot → Prop) (index : Index) : Prop := ∀ a ∈ index.items, P a

/-- What was made has a property. -/
def Memory.Holds (P : Annot → Prop) (m : Memory) : Prop := Annot.Throughout P m.made

/-- What the hints of a class find around a program has a property. -/
structure Surroundings.Holds (P : Annot → Prop) (s : Surroundings) : Prop where
  /-- What evaluation remembers has it. -/
  memory : s.memory.Holds P
  /-- What is given for references has it. -/
  given : Annot.Throughout P s.given

/-! ## Steps that keep a property -/

/-- A step of evaluation remembers annotations with a property if the ones before have it, and has
a good result if it has one. -/
def EvalM.Stays {α : Type} (P : Annot → Prop) (x : EvalM α) (good : α → Prop) : Prop :=
  ∀ m : Memory, m.Holds P → Secures (Memory.Holds P) x m fun a _ => good a

namespace EvalM.Stays

variable {α β : Type} {P : Annot → Prop} {x : EvalM α} {f : α → EvalM β} {A : α → Prop}
  {B : β → Prop}

theorem pure {a : α} (h : A a) : Stays P (Pure.pure a) A := fun _ hm => .pure hm h

theorem throw (why : EvalError) : Stays P (MonadExcept.throw why : EvalM α) A :=
  fun _ hm => .throw hm

theorem misuse (why : Misuse) : Stays P (EvalM.misuse why : EvalM α) A := throw _

theorem ofExcept {r : Except EvalError α} (h : ∀ a, r = .ok a → A a) :
    Stays P (EvalM.ofExcept r) A :=
  fun _ hm => .lift hm h

theorem bind (hx : Stays P x A) (hf : ∀ a, A a → Stays P (f a) B) : Stays P (x >>= f) B :=
  fun m hm => (hx m hm).bind fun a m' hm' ha => hf a ha m' hm'

theorem imp {A' : α → Prop} (hx : Stays P x A) (h : ∀ a, A a → A' a) : Stays P x A' :=
  fun m hm => (hx m hm).imp fun a _ _ ha => h a ha

theorem newSerial : Stays P EvalM.newSerial fun _ => True :=
  fun _ hm => .get_bind (.set_bind (.pure hm trivial))

/-- What is remembered is what was made, or something equal that was made before. -/
theorem remember_same {app : Application} {make : EvalM Annot} {A : Annot → Prop}
    (h : Stays P make fun a => P a ∧ A a)
    (hsame : ∀ earlier fresh, earlier.same fresh = true → P earlier → P fresh → A fresh →
      A earlier) :
    Stays P (EvalM.remember app make) fun a => P a ∧ A a := by
  intro m hm
  refine (h m hm).bind fun fresh m' hm' hfresh => ?_
  split
  · exact .pure hm' hfresh
  refine .get_bind ?_
  split
  next =>
    refine .modify_bind (.pure ?_ hfresh)
    intro entry hentry
    rcases List.mem_append.mp hentry with hold | hnew
    · exact hm' entry hold
    · rw [List.mem_singleton.mp hnew]
      exact hfresh.1
  next earlier hfind =>
    refine .pure hm' ?_
    obtain ⟨entry, hentry, rfl⟩ := Option.map_eq_some_iff.mp hfind
    split
    next heq =>
      have hearlier : P entry.2 := hm' entry (List.mem_of_find?_eq_some hentry)
      exact ⟨hearlier, hsame _ _ heq hearlier hfresh.1 hfresh.2⟩
    next => exact hfresh

theorem remember {app : Application} {make : EvalM Annot} (h : Stays P make P) :
    Stays P (EvalM.remember app make) P :=
  (remember_same (A := fun _ => True) (h.imp fun _ ha => ⟨ha, trivial⟩)
    fun _ _ _ _ _ _ => trivial).imp fun _ ha => ha.1

end EvalM.Stays

/-! ## Arguments and unions -/

namespace Program

open Annot (Inherited Throughout forall_value forall_of_mapM inherits_argument inherits_joined?
  inherits_spread)
open Annot.Inherited

variable {P : Annot → Prop} [Inherited P] {p : Program} {a b : Annot} {as : List Annot}
  {index : Index}

theorem checked_eq_ok {rule : Rule} {lenient : Bool} (hb : p.checked rule lenient a = .ok b) :
    a.argument lenient = .ok b := by
  obtain ⟨c, hc, hb⟩ := bind_eq_ok.mp hb
  obtain ⟨-, -, hb⟩ := bind_eq_ok.mp hb
  cases hb
  exact hc

theorem inherits_checked {rule : Rule} {lenient : Bool} (h : P a)
    (hb : p.checked rule lenient a = .ok b) : P b :=
  inherits_argument h (checked_eq_ok hb)

theorem inherits_checkedOne {rule : Rule} (h : index.Holds P)
    (hb : p.checkedOne rule index = .ok b) : P b := by
  cases index with
  | one a => exact inherits_checked (h a List.mem_cons_self) hb
  | many items => cases hb

theorem inherits_withNotes {notes : List Annot} (h : P a)
    (hb : p.withNotes a notes = .ok b) : P b := by
  unfold withNotes at hb
  split at hb
  case h_1 => cases hb; exact annotated_iff.mpr (annotated_iff.mp h)
  case h_8 => cases hb; exact annotated_iff.mpr h
  all_goals cases hb

theorem hashedUnion_eq_ok {members : List Annot} (hb : hashedUnion members = .ok b) :
    b = Annot.unionOf members := by
  unfold hashedUnion at hb
  split at hb
  · cases hb
  · cases hb
    rfl

/-- A union is made of its checked members, or is equal to one that is. -/
theorem union_stays_of {A : Annot → Prop} (p : Program) (h : index.Holds P)
    (hmade : ∀ members, List.Forall₂ (fun a b => a.argument false = .ok b) index.items members →
      (∀ b ∈ members, P b) → A (Annot.unionOf members))
    (hsame : ∀ earlier fresh, earlier.same fresh = true → P earlier → P fresh → A fresh →
      A earlier) :
    EvalM.Stays P (p.union index) fun a => P a ∧ A a := by
  refine .remember_same (.ofExcept fun b hb => ?_) hsame
  split at hb
  · cases hb
  obtain ⟨members, hmembers, hb⟩ := bind_eq_ok.mp hb
  cases hashedUnion_eq_ok hb
  have hinherits := forall_of_mapM h inherits_checked hmembers
  exact ⟨unionOf_of hinherits,
    hmade members ((mapM_eq_ok.mp hmembers).imp fun _ _ => checked_eq_ok) hinherits⟩

theorem union_stays (p : Program) (h : index.Holds P) : EvalM.Stays P (p.union index) P :=
  (p.union_stays_of (A := fun _ => True) h (fun _ _ _ => trivial)
    fun _ _ _ _ _ _ => trivial).imp fun _ ha => ha.1

theorem holds_pair {P : Annot → Prop} (ha : P a) (hb : P b) : (Index.many [a, b]).Holds P := by
  simpa [Index.Holds, Index.items] using And.intro ha hb

theorem optional_stays (p : Program) (h : index.Holds P) : EvalM.Stays P (p.optional index) P := by
  refine .remember (.bind (.ofExcept fun b hb => inherits_checkedOne h hb) fun b hb => ?_)
  exact p.union_stays (holds_pair hb (builtin .noneType))

theorem join_stays (p : Program) (ha : P a) (hb : P b) : EvalM.Stays P (p.join a b) P := by
  unfold join
  split
  · exact p.union_stays (holds_pair ha hb)
  · split
    next c hc => exact .pure (inherits_joined? ha hb hc)
    next => exact .misuse _

/-- Objects are joined from left to right, so one step is enough. -/
theorem joinAll_stays_of {P A : Annot → Prop} (p : Program) (hnothing : A (.value .nothing))
    (hjoin : ∀ a b, A a → A b → EvalM.Stays P (p.join a b) A) (h : ∀ a ∈ as, A a) :
    EvalM.Stays P (p.joinAll as) A := by
  cases as with
  | nil => exact .pure hnothing
  | cons a rest =>
    obtain ⟨ha, hrest⟩ := List.forall_mem_cons.mp h
    show EvalM.Stays P (rest.foldlM p.join a) _
    clear h
    induction rest generalizing a with
    | nil => exact .pure ha
    | cons b rest ih =>
      obtain ⟨hb, hrest⟩ := List.forall_mem_cons.mp hrest
      rw [List.foldlM_cons]
      exact .bind (hjoin a b ha hb) fun c hc => ih c hc hrest

theorem joinAll_stays (p : Program) (h : ∀ a ∈ as, P a) : EvalM.Stays P (p.joinAll as) P :=
  p.joinAll_stays_of (atom trivial) (fun _ _ ha hb => p.join_stays ha hb) h

/-! ## Type variables -/

theorem inherits_assign {P : Annot → Prop} {values : Assignment} {items : List Annot}
    (h : ∀ a ∈ items, P a) (hvalues : p.assign a items = .ok values) : Throughout P values := by
  unfold assign at hvalues
  dsimp only at hvalues
  split at hvalues
  · cases hvalues
  split at hvalues
  · cases hvalues
  cases hvalues
  intro entry hentry
  exact h entry.2 (List.of_mem_zip hentry).2

theorem inherits_assignConverted {values : Assignment} {items : List Annot}
    (h : ∀ a ∈ items, P a) (hvalues : p.assignConverted a items = .ok values) :
    Throughout P values := by
  unfold assignConverted at hvalues
  split at hvalues
  · cases hvalues
  obtain ⟨args, hargs, hvalues⟩ := bind_eq_ok.mp hvalues
  exact inherits_assign (forall_of_mapM h inherits_argument hargs) hvalues

theorem inherits_value {values : Assignment} (h : Throughout P values) (v : Variable) :
    P ((values.find? v).getD (.typeVar v.1 v.2)) := by
  cases hfind : values.find? v with
  | none => exact atom trivial
  | some b => exact h.find? hfind

theorem replaced_stays {values : Assignment} {again : Index → EvalM Annot}
    (h : Throughout P values) (ha : P a)
    (hagain : ∀ index : Index, index.Holds P → EvalM.Stays P (again index) P) :
    EvalM.Stays P (p.replaced values again a) P := by
  unfold replaced
  split
  next serial name =>
    exact .ofExcept fun b hb => inherits_checked (inherits_value h (serial, name)) hb
  next =>
    split
    · exact .pure ha
    · refine hagain _ fun b hb => ?_
      obtain ⟨v, -, rfl⟩ := List.mem_map.mp hb
      exact inherits_value h v

mutual

theorem reapply_stays (p : Program) : (a : Annot) → P a → (index : Index) →
    index.Holds P → EvalM.Stays P (p.reapply a index) P
  | .applied c args, ha, index, hi => by
    unfold reapply
    obtain ⟨hc, hargs⟩ := applied_iff.mp ha
    refine .bind (.ofExcept fun values hv => inherits_assign hi hv) fun values hv => ?_
    exact .bind (substituteAll_stays p args hargs values hv) fun bs hbs =>
      .pure (applied_iff.mpr ⟨hc, hbs⟩)
  | .signature args, ha, index, hi => by
    unfold reapply
    refine .bind (.ofExcept fun values hv => inherits_assign hi hv) fun values hv => ?_
    exact .bind (substituteAll_stays p args (signature_iff.mp ha) values hv) fun bs hbs =>
      .pure (signature_iff.mpr hbs)
  | .special f args, ha, index, hi => by
    unfold reapply
    refine .remember (.bind (.ofExcept fun values hv => inherits_assignConverted hi hv)
      fun values hv => ?_)
    refine .bind (substituteAll_stays p args (special_iff.mp ha) values hv) fun bs hbs => .pure ?_
    refine special_iff.mpr ?_
    split
    · exact inherits_spread hbs
    · exact hbs
  | .generic c args, ha, index, hi => by
    unfold reapply
    obtain ⟨hc, hargs⟩ := generic_iff.mp ha
    refine .remember (.bind (.ofExcept fun values hv => inherits_assignConverted hi hv)
      fun values hv => ?_)
    exact .bind (substituteAll_stays p args hargs values hv) fun bs hbs =>
      .pure (generic_iff.mpr ⟨hc, hbs⟩)
  | .union members, ha, index, hi => by
    unfold reapply
    refine .remember (.bind (.ofExcept fun values hv => inherits_assignConverted hi hv)
      fun values hv => ?_)
    exact .bind (substituteAll_stays p members (of_union ha) values hv) fun bs hbs =>
      p.union_stays hbs
  | .pipe members, ha, index, hi => by
    unfold reapply
    refine .bind (.ofExcept fun values hv => inherits_assign hi hv) fun values hv => ?_
    exact .bind (substituteAll_stays p members (of_pipe ha) values hv) fun bs hbs =>
      p.joinAll_stays hbs
  | .annotated t notes, ha, index, hi => by
    unfold reapply
    have ht : P t := annotated_iff.mp ha
    refine .remember (.bind (.ofExcept fun values hv => inherits_assignConverted hi hv)
      fun values hv => ?_)
    exact .bind (replaced_stays hv ht (reapply_stays p t ht)) fun u hu =>
      .ofExcept fun b hb => inherits_withNotes hu hb
  | .cls _, _, _, _ | .form _, _, _, _ | .value _, _, _, _ | .ellipsis, _, _, _
  | .forward .., _, _, _ | .params _, _, _, _ | .tuple _, _, _, _ | .initVar .., _, _, _
  | .literal _, _, _, _ | .typeVar .., _, _, _ | .newType .., _, _, _ | .function .., _, _, _
  | .routine .., _, _, _ | .member .., _, _, _ | .object .., _, _, _ | .module _, _, _, _ => .misuse _
termination_by structural a => a

theorem substituteAll_stays (p : Program) : (as : List Annot) → (∀ a ∈ as, P a) →
    (values : Assignment) → Throughout P values →
    EvalM.Stays P (p.substituteAll values as) fun bs => ∀ b ∈ bs, P b
  | [], _, _, _ => .pure (by simp)
  | a :: as, h, values, hv => by
    obtain ⟨ha, has⟩ := List.forall_mem_cons.mp h
    exact .bind (replaced_stays hv ha (reapply_stays p a ha)) fun _ hb =>
      .bind (substituteAll_stays p as has values hv) fun _ hbs =>
        .pure (List.forall_mem_cons.mpr ⟨hb, hbs⟩)
termination_by structural as => as

end

/-! ## Arguments in square brackets -/

theorem inherits_enumerationMember {c : ClassRef} (hb : p.enumerationMember c index = .ok b) :
    P b := by
  unfold enumerationMember at hb
  dsimp only at hb
  split at hb
  · split at hb
    · cases hb
      exact atom trivial
    · split at hb
      · cases hb
      · cases hb
  · split at hb
    · cases hb
    · cases hb

theorem applyGeneric_stays (p : Program) {id : ClassId} (hid : P (.cls (.declared id)))
    (h : index.Holds P) : EvalM.Stays P (p.applyGeneric id index) P := by
  refine .remember (.ofExcept fun b hb => ?_)
  obtain ⟨args, hargs, hb⟩ := bind_eq_ok.mp hb
  dsimp only at hb
  split at hb
  · cases hb
  split at hb
  · cases hb
  cases hb
  exact generic_iff.mpr ⟨hid, forall_of_mapM h inherits_argument hargs⟩

theorem inherits_applySignature (h : index.Holds P) (hb : p.applySignature index = .ok b) :
    P b := by
  have hresult : ∀ {a result : Annot}, (Index.many [a, result]).Holds P → P a ∧ P result := by
    intro a result h
    simpa [Index.Holds, Index.items] using h
  unfold applySignature at hb
  split at hb
  · cases hb
    obtain ⟨htypes, hlast⟩ := hresult h
    exact signature_iff.mpr
      (List.forall_mem_append.mpr ⟨params_iff.mp htypes, by simpa using hlast⟩)
  · cases hb
    obtain ⟨hitems, hlast⟩ := hresult h
    exact signature_iff.mpr
      (List.forall_mem_append.mpr ⟨tuple_iff.mp hitems, by simpa using hlast⟩)
  · cases hb
    exact signature_iff.mpr
      (List.forall_mem_append.mpr ⟨forall_value _, by simpa using (hresult h).2⟩)
  · cases hb
    exact signature_iff.mpr
      (List.forall_mem_append.mpr ⟨forall_value _, by simpa using (hresult h).2⟩)
  · cases hb
    exact signature_iff.mpr h
  · cases hb
  · cases hb

theorem applyClass_stays (p : Program) {c : ClassRef} (hc : P (.cls c)) (h : index.Holds P) :
    EvalM.Stays P (p.applyClass c index) P := by
  unfold applyClass
  split
  · exact .ofExcept fun b hb => inherits_enumerationMember hb
  split
  · exact .pure (applied_iff.mpr ⟨hc, h⟩)
  split
  · exact .misuse _
  · exact p.applyGeneric_stays hc h
  · exact .ofExcept fun b hb => inherits_applySignature h hb
  · exact .pure (applied_iff.mpr ⟨hc, h⟩)

theorem inherits_countedArguments {f : Form} {arity : Nat} {items args : List Annot}
    (h : ∀ a ∈ items, P a) (hargs : p.countedArguments f arity items = .ok args) :
    ∀ a ∈ args, P a := by
  obtain ⟨args', hargs', hargs⟩ := bind_eq_ok.mp hargs
  split at hargs
  · cases hargs
  cases hargs
  exact forall_of_mapM h inherits_checked hargs'

theorem inherits_tupleArguments {items args : List Annot} (h : ∀ a ∈ items, P a)
    (hargs : p.tupleArguments items = .ok args) : ∀ a ∈ args, P a := by
  unfold tupleArguments at hargs
  split at hargs
  · obtain ⟨args', hargs', hargs⟩ := bind_eq_ok.mp hargs
    cases hargs
    have hinit : ∀ a ∈ items.dropLast, P a := fun a ha => h a (List.dropLast_subset items ha)
    have hdots : P .ellipsis := atom trivial
    exact List.forall_mem_append.mpr
      ⟨forall_of_mapM hinit inherits_checked hargs', by simpa using hdots⟩
  · exact forall_of_mapM h inherits_checked hargs

theorem inherits_parameterItems (h : P a) : ∀ b ∈ parameterItems a, P b := by
  unfold parameterItems
  split
  · exact params_iff.mp h
  · exact tuple_iff.mp h
  · exact forall_value _
  · exact forall_value _
  · simpa using h

theorem applyCallable_stays (p : Program) (h : index.Holds P) :
    EvalM.Stays P (p.applyCallable index) P := by
  unfold applyCallable
  split
  next parameters result =>
    obtain ⟨hparameters, hresult⟩ : P parameters ∧ P result := by
      simpa [Index.Holds, Index.items] using h
    refine .remember (.ofExcept fun b hb => ?_)
    obtain ⟨result', hresult', hb⟩ := bind_eq_ok.mp hb
    obtain ⟨items, hitems, hb⟩ := bind_eq_ok.mp hb
    cases hb
    refine special_iff.mpr (List.forall_mem_append.mpr ⟨?_, ?_⟩)
    · exact forall_of_mapM (inherits_parameterItems hparameters) inherits_argument hitems
    · simpa using inherits_checked hresult hresult'
  next => exact .misuse _

theorem annotate_stays (p : Program) (h : index.Holds P) :
    EvalM.Stays P (p.annotate index) P := by
  refine .remember (.ofExcept fun b hb => ?_)
  split at hb
  next a note notes =>
    obtain ⟨c, hc, hb⟩ := bind_eq_ok.mp hb
    exact inherits_withNotes (inherits_checked (h a List.mem_cons_self) hc) hb
  next => cases hb

theorem applyForm_stays (p : Program) (f : Form) (h : index.Holds P) :
    EvalM.Stays P (p.applyForm f index) P := by
  have hmade : ∀ args : Except EvalError (List Annot), (∀ as, args = .ok as → ∀ a ∈ as, P a) →
      EvalM.Stays P (EvalM.remember ⟨.form f, index⟩
        (EvalM.ofExcept do return .special f (← args))) P := by
    intro args hargs
    refine .remember (.ofExcept fun b hb => ?_)
    obtain ⟨as, has, hb⟩ := bind_eq_ok.mp hb
    cases hb
    exact special_iff.mpr (hargs as has)
  unfold applyForm
  split
  · exact p.union_stays h
  · exact p.optional_stays h
  · exact p.applyCallable_stays h
  · exact p.annotate_stays h
  · exact hmade _ fun as has => inherits_tupleArguments h has
  · exact hmade _ fun as has => inherits_countedArguments h has
  · refine hmade _ fun as has => ?_
    obtain ⟨b, hb, has⟩ := bind_eq_ok.mp has
    cases has
    simpa using inherits_checkedOne h hb

theorem mem_of_itemAt? {items : List Annot} {i : Int} (h : itemAt? items i = some a) :
    a ∈ items := by
  unfold itemAt? at h
  dsimp only at h
  generalize (if i < 0 then i + items.length else i) = place at h
  split at h
  · cases h
  · exact List.mem_of_getElem? h

theorem inherits_sequenceItem {P : Annot → Prop} {kind : String} {items : List Annot}
    (h : ∀ a ∈ items, P a) (hb : p.sequenceItem kind items index = .ok b) : P b := by
  unfold sequenceItem at hb
  dsimp only at hb
  split at hb
  · split at hb
    · split at hb
      next a ha =>
        cases hb
        exact h _ (mem_of_itemAt? ha)
      next => cases hb
    · cases hb
  · cases hb

theorem subscript_stays (p : Program) (ha : P a) (h : index.Holds P) :
    EvalM.Stays P (p.subscript a index) P := by
  unfold subscript
  split
  · exact p.applyClass_stays ha h
  · exact p.applyForm_stays _ h
  case h_11 s =>
    refine .ofExcept fun b hb => inherits_sequenceItem (fun c hc => ?_) hb
    obtain ⟨_, -, rfl⟩ := List.mem_map.mp hc
    exact atom trivial
  case h_12 items => exact .ofExcept fun b hb => inherits_sequenceItem (forall_value items) hb
  case h_13 items => exact .ofExcept fun b hb => inherits_sequenceItem (forall_value items) hb
  case h_14 types => exact .ofExcept fun b hb => inherits_sequenceItem (params_iff.mp ha) hb
  case h_15 items => exact .ofExcept fun b hb => inherits_sequenceItem (tuple_iff.mp ha) hb
  case h_16 => exact .misuse _
  all_goals exact p.reapply_stays _ ha index h

end Program

theorem Index.holds_ofArgs {P : Annot → Prop} [Annot.Inherited P] {args : List Annot}
    (h : ∀ a ∈ args, P a) : (Index.ofArgs args).Holds P := by
  rw [Index.ofArgs.eq_def]
  split
  · exact Annot.forall_value _
  · exact Annot.Inherited.tuple_iff.mp (h _ List.mem_cons_self)
  · exact h
  · exact h

theorem Index.holds_one {P : Annot → Prop} [Annot.Inherited P] {a : Annot} (h : P a) :
    (Index.ofArgs [a]).Holds P :=
  Index.holds_ofArgs (by simpa using h)

/-! ## Type expressions -/

theorem boundTo_throughout {P : Annot → Prop} {bindings : Namespace} {name : String} {a : Annot}
    (h : Annot.Throughout P bindings) (ha : boundTo bindings name = .ok a) : P a := by
  unfold boundTo at ha
  split at ha
  next b hb =>
    cases ha
    exact h.find? hb
  next => cases ha

namespace TypeExpr

mutual

/-- The objects that are fixed in a type expression.  All others in it are bound to names or made
by evaluation. -/
def objects : TypeExpr → List Annot
  | .object a => [a]
  | .subscript base args => objects base ++ allObjects args
  | .params types | .union types | .either types => allObjects types
  | .optional type | .annotated type _ | .classVar type | .initVar type | .final type =>
    objects type
  | .name _ | .text _ | .literal _ | .value _ => []
termination_by structural e => e

/-- The objects that are fixed in some type expressions. -/
def allObjects : List TypeExpr → List Annot
  | [] => []
  | e :: rest => objects e ++ allObjects rest
termination_by structural es => es

end

variable {P : Annot → Prop} {bindings : Namespace}

open Annot.Inherited

mutual

theorem eval_stays [Annot.Inherited P] (p : Program) (h : Annot.Throughout P bindings) :
    (e : TypeExpr) → (∀ a ∈ e.objects, P a) → EvalM.Stays P (e.eval p bindings) P
  | .object a, he => .pure (he a List.mem_cons_self)
  | .name _, _ => .ofExcept fun _ ha => boundTo_throughout h ha
  | .text _, _ => .pure (atom trivial)
  | .subscript base args, he => by
    unfold eval
    obtain ⟨hbase, hargs⟩ := List.forall_mem_append.mp he
    exact .bind (eval_stays p h base hbase) fun a ha =>
      .bind (evalAll_stays p h args hargs) fun as has =>
        p.subscript_stays ha (Index.holds_ofArgs has)
  | .params types, he => by
    unfold eval
    exact .bind (evalAll_stays p h types he) fun as has => .pure (params_iff.mpr has)
  | .union types, he => by
    unfold eval
    exact .bind (evalAll_stays p h types he) fun as has => p.union_stays has
  | .optional type, he => by
    unfold eval
    exact .bind (eval_stays p h type he) fun a ha => p.optional_stays (Index.holds_one ha)
  | .either types, he => by
    unfold eval
    exact .bind (evalAll_stays p h types he) fun as has => p.joinAll_stays has
  | .annotated type notes, he => by
    unfold eval
    exact .bind (eval_stays p h type he) fun a ha =>
      p.annotate_stays (List.forall_mem_cons.mpr ⟨ha, Annot.forall_value notes⟩)
  | .classVar type, he => by
    unfold eval
    exact .bind (eval_stays p h type he) fun a ha =>
      p.applyForm_stays .classVar (Index.holds_one ha)
  | .initVar type, he => by
    unfold eval
    exact .bind (eval_stays p h type he) fun a ha =>
      .bind .newSerial fun _ _ => .pure (initVar_of ha)
  | .final type, he => by
    unfold eval
    exact .bind (eval_stays p h type he) fun a ha => p.applyForm_stays .final (Index.holds_one ha)
  | .literal _, _ => .pure (atom trivial)
  | .value _, _ => .pure (atom trivial)
termination_by structural e => e

theorem evalAll_stays [Annot.Inherited P] (p : Program) (h : Annot.Throughout P bindings) :
    (es : List TypeExpr) → (∀ a ∈ allObjects es, P a) →
    EvalM.Stays P (evalAll p bindings es) fun as => ∀ a ∈ as, P a
  | [], _ => .pure (by simp)
  | e :: es, he => by
    unfold evalAll
    obtain ⟨he, hes⟩ := List.forall_mem_append.mp he
    exact .bind (eval_stays p h e he) fun a ha =>
      .bind (evalAll_stays p h es hes) fun as has =>
        .pure (List.forall_mem_cons.mpr ⟨ha, has⟩)
termination_by structural es => es

end

end TypeExpr

end ElmCodec.Source
