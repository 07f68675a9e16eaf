import ElmCodec.Proofs.Loading
import ElmCodec.Source.Hint

/-!
# What references stand for

A reference finds objects in the scope of a class and makes others from these.  So a property that
evaluation inherits holds of its value if it holds of what the program offers
(`evalReference_stays`).  The
value is resolved in turn, and by induction on these steps the property holds of what a reference
comes to (`resolveReference_stays`).  With it all hints of a class have the property, as long as
the notes are on them (`gatherHints_stays`).
-/

namespace ElmCodec.Source

open Annot (Inherited Throughout changed)
open Annot.Inherited

variable {P : Annot → Prop} [Inherited P] {a b : Annot} {name : String}

/-! ## Scopes -/

/-- The objects of a scope have a property. -/
structure Scope.Holds (P : Annot → Prop) (s : Scope) : Prop where
  /-- Those that the module binds. -/
  bindings : Throughout P s.bindings
  /-- The attributes of the class. -/
  attributes : Throughout P s.attributes
  /-- Those that are given for references that are not read. -/
  given : Throughout P s.given

theorem inherits_constant? (h : Annot.constant? name = some a) : P a := by
  unfold Annot.constant? at h
  repeat' split at h
  all_goals cases h
  all_goals exact atom trivial

theorem inherits_builtin? (h : Annot.builtin? name = some a) : P a := by
  unfold Annot.builtin? at h
  split at h
  · cases h
    exact builtin _
  · cases h
    exact atom trivial
  · repeat' split at h
    all_goals cases h
    all_goals exact atom trivial

theorem Scope.Holds.lookup {s : Scope} (hs : s.Holds P) (h : s.lookup name = .ok a) : P a := by
  unfold Scope.lookup at h
  split at h
  next b hb =>
    cases h
    simp only [Scope.find?, Option.or_eq_some_iff] at hb
    rcases hb with hb | ⟨-, hb | ⟨-, hb | ⟨-, hb | ⟨-, hb⟩⟩⟩⟩
    · exact inherits_constant? hb
    · exact hs.bindings.find? hb
    · exact hs.attributes.find? hb
    · exact inherits_constant? hb
    · exact inherits_builtin? hb
  next => cases h

namespace Program

variable {p : Program} {s : Scope}

/-- The objects that references can find in a program have a property. -/
structure Offers (P : Annot → Prop) (p : Program) : Prop where
  /-- Those that modules bind. -/
  bound : ∀ m, Throughout P (p.namespaceAt m)
  /-- Those that are given for references that are not read. -/
  given : ∀ id, Throughout P (p.surroundingsOf id).given

theorem inherits_tupleOf {items : List Annot} (h : ∀ a ∈ items, P a) :
    P (Annot.tupleOf items) := by
  unfold Annot.tupleOf
  split
  · exact atom trivial
  · exact tuple_iff.mpr h

/-- The attributes that a class has by itself are atoms. -/
theorem inherits_attributesOf (p : Program) (id : ClassId) (d : ClassDecl) :
    Throughout P (p.attributesOf id d) := by
  intro entry hentry
  simp only [attributesOf, List.mem_append, List.mem_cons, List.not_mem_nil, or_false] at hentry
  rcases hentry with ((((rfl | rfl) | h) | h) | h) | h
  · exact atom trivial
  · exact atom trivial
  · split at h
    · cases List.mem_singleton.mp h
      exact atom trivial
    · cases h
  · split at h
    · cases List.mem_singleton.mp h
      refine inherits_tupleOf fun a ha => ?_
      obtain ⟨v, -, rfl⟩ := List.mem_map.mp ha
      exact atom trivial
    · cases h
  · split at h
    · obtain ⟨f, -, rfl⟩ := List.mem_map.mp h
      exact atom trivial
    · cases h
  · split at h
    · simp only [slotAttribute, List.mem_cons, List.not_mem_nil, or_false] at h
      rcases h with rfl | rfl
      · exact atom trivial
      · exact atom trivial
    · cases h

theorem inherits_attribute? (hp : p.Offers P)
    (h : p.attribute? a name = some b) : P b := by
  unfold attribute? at h
  split at h
  · exact inherits_moduleAttribute? hp.bound h
  · cases h
    exact atom trivial
  · cases h
    exact atom trivial
  · split at h
    next => cases h
    next d _ =>
      rcases Option.or_eq_some_iff.mp h with h | ⟨-, h⟩
      · obtain ⟨number, -, rfl⟩ := Option.map_eq_some_iff.mp h
        exact atom trivial
      · exact (p.inherits_attributesOf _ d).find? h
  · cases h

theorem inherits_attributeAt (hp : p.Offers P)
    (h : p.attributeAt a name = .ok b) : P b := by
  unfold attributeAt at h
  dsimp only at h
  split at h
  next => cases h; exact atom trivial
  next hvalue =>
    split at h
    · cases h
    · cases h
      exact inherits_attribute? hp hvalue
  all_goals cases h

theorem scopeOf_holds (hp : p.Offers P) (id : ClassId)
    (d : ClassDecl) : (p.scopeOf id d).Holds P := by
  refine ⟨?_, p.inherits_attributesOf id d, hp.given id⟩
  show Throughout P ((p.namespace? d.module).getD [])
  cases hmodule : p.namespace? d.module with
  | none => exact nofun
  | some bindings =>
    obtain ⟨m, -, rfl⟩ := Option.map_eq_some_iff.mp hmodule
    exact hp.bound m

/-! ## Values of references -/

mutual

theorem evalExpr_stays {P : Annot → Prop} [Inherited P]
    (hp : p.Offers P) (hs : s.Holds P) :
    (e : Reader.Expr) → EvalM.Stays P (p.evalExpr s e) P
  | .name n => .ofExcept fun _ ha => hs.lookup ha
  | .text t => .pure (atom trivial)
  | .number n => .pure (atom trivial)
  | .dots => .pure (atom trivial)
  | .attribute base n => by
    unfold evalExpr
    exact .bind (evalExpr_stays hp hs base) fun a _ =>
      .ofExcept fun _ hb => inherits_attributeAt hp hb
  | .items .round content => by
    unfold evalExpr
    exact .bind (evalExprs_stays hp hs content) fun as has => .pure (inherits_tupleOf has)
  | .items .square content => by
    unfold evalExpr
    exact .bind (evalExprs_stays hp hs content) fun as has => .pure (params_iff.mpr has)
  | .items .curly content => by
    unfold evalExpr
    exact .bind (evalExprs_stays hp hs content) fun as has => .pure (params_iff.mpr has)
  | .applied base bracket args => by
    unfold evalExpr
    exact .bind (evalExpr_stays hp hs base) fun a ha =>
      .bind (evalExprs_stays hp hs args) fun as has =>
        p.subscript_stays ha (Index.holds_ofArgs has)
  | .either left right => by
    unfold evalExpr
    exact .bind (evalExpr_stays hp hs left) fun a ha =>
      .bind (evalExpr_stays hp hs right) fun b hb => p.join_stays ha hb
  | .named n e => by
    unfold evalExpr
    exact evalExpr_stays hp hs e
  | .entry key e => by
    unfold evalExpr
    exact evalExpr_stays hp hs e
termination_by structural e => e

theorem evalExprs_stays {P : Annot → Prop} [Inherited P]
    (hp : p.Offers P) (hs : s.Holds P) :
    (es : List Reader.Expr) → EvalM.Stays P (p.evalExprs s es) fun as => ∀ a ∈ as, P a
  | [] => .pure (by simp)
  | e :: es => by
    unfold evalExprs
    exact .bind (evalExpr_stays hp hs e) fun a ha =>
      .bind (evalExprs_stays hp hs es) fun as has =>
        .pure (List.forall_mem_cons.mpr ⟨ha, has⟩)
termination_by structural es => es

end

theorem inherits_parts? {parts : List Annot} (ha : P a) (h : parts? a = some parts) :
    ∀ b ∈ parts, P b := by
  unfold parts? at h
  split at h
  · cases h
    exact params_iff.mp ha
  · cases h
    exact tuple_iff.mp ha
  · cases h
    exact Annot.forall_value _
  · cases h
    exact Annot.forall_value _
  · cases h
    intro b hb
    obtain ⟨c, -, rfl⟩ := List.mem_map.mp hb
    exact atom trivial
  · cases h

theorem inherits_firstPart {text : String} (ha : P a) (h : p.firstPart text a = .ok b) : P b := by
  unfold firstPart at h
  split at h
  next part rest hparts =>
    cases h
    exact inherits_parts? ha hparts b List.mem_cons_self
  next => cases h
  next => cases h

theorem evalReference_stays (hp : p.Offers P) (hs : s.Holds P) (text : String) :
    EvalM.Stays P (p.evalReference s text) P := by
  unfold evalReference
  split
  · exact .throw _
  · exact .throw _
  next a _ ha => exact .pure (hs.given.find? ha)
  next r _ =>
    refine .bind (evalExpr_stays hp hs r.expr) fun a ha => ?_
    split
    · exact .ofExcept fun b hb => inherits_firstPart ha hb
    · exact .pure ha

/-! ## Resolved annotations -/

theorem forall_changed {P : Annot → Prop} {before after : List Annot} (hbefore : ∀ a ∈ before, P a)
    (hafter : ∀ a ∈ after, P a) : ∀ a ∈ changed before after, P a := by
  unfold changed
  split
  · exact hbefore
  · exact hafter

theorem forall_reference {args : List Annot} (h : ∀ a ∈ args, P a) :
    ∀ a ∈ args.map Annot.reference, P a := by
  intro b hb
  obtain ⟨a, ha, rfl⟩ := List.mem_map.mp hb
  unfold Annot.reference
  split
  · exact atom trivial
  · exact h a ha

theorem inherits_signatureOf {before after : List Annot} (hbefore : ∀ a ∈ before, P a)
    (hafter : ∀ a ∈ after, P a) : P (signatureOf before after) := by
  unfold signatureOf
  split
  · exact signature_iff.mpr hbefore
  · exact applied_iff.mpr ⟨library .callable, hafter⟩

theorem unionAgain_stays (p : Program) {before after : List Annot} (hbefore : P (.union before))
    (hafter : ∀ a ∈ after, P a) : EvalM.Stays P (p.unionAgain before after) P := by
  unfold unionAgain
  split
  · exact .pure hbefore
  · exact p.union_stays hafter

theorem pipeAgain_stays (p : Program) {before after : List Annot} (hbefore : P (.pipe before))
    (hafter : ∀ a ∈ after, P a) : EvalM.Stays P (p.pipeAgain before after) P := by
  unfold pipeAgain
  split
  · exact .pure hbefore
  · exact p.joinAll_stays hafter

mutual

theorem resolveWith_stays {P : Annot → Prop} [Inherited P] (p : Program) {look : Resolver}
    (hlook : ∀ lenient text, EvalM.Stays P (look lenient text) P) :
    (a : Annot) → P a → EvalM.Stays P (p.resolveWith look a) P
  | .forward text lenient, _ => hlook lenient text
  | .applied c args, ha => by
    unfold resolveWith
    obtain ⟨hc, hargs⟩ := applied_iff.mp ha
    exact .bind (.ofExcept fun _ _ => trivial) fun _ _ =>
      .bind (resolveAll_stays p hlook args hargs) fun bs hbs =>
        .pure (applied_iff.mpr ⟨hc, forall_changed (forall_reference hargs) hbs⟩)
  | .signature args, ha => by
    unfold resolveWith
    have hargs := signature_iff.mp ha
    exact .bind (.ofExcept fun _ _ => trivial) fun _ _ =>
      .bind (resolveAll_stays p hlook args hargs) fun bs hbs =>
        .pure (inherits_signatureOf (forall_reference hargs) hbs)
  | .special f args, ha => by
    unfold resolveWith
    have hargs := special_iff.mp ha
    exact .bind (resolveAll_stays p hlook args hargs) fun bs hbs =>
      .pure (special_iff.mpr (forall_changed hargs hbs))
  | .generic c args, ha => by
    unfold resolveWith
    obtain ⟨hc, hargs⟩ := generic_iff.mp ha
    exact .bind (resolveAll_stays p hlook args hargs) fun bs hbs =>
      .pure (generic_iff.mpr ⟨hc, forall_changed hargs hbs⟩)
  | .union members, ha => by
    unfold resolveWith
    exact .bind (resolveAll_stays p hlook members (of_union ha)) fun bs hbs =>
      p.unionAgain_stays ha hbs
  | .pipe members, ha => by
    unfold resolveWith
    exact .bind (resolveAll_stays p hlook members (of_pipe ha)) fun bs hbs =>
      p.pipeAgain_stays ha hbs
  | .annotated t notes, ha => by
    unfold resolveWith
    refine .bind (resolveWith_stays p hlook t (annotated_iff.mp ha)) fun u hu => ?_
    split
    · exact .pure ha
    · exact .ofExcept fun b hb => inherits_withNotes hu hb
  | .cls _, ha | .form _, ha | .value _, ha | .ellipsis, ha | .params _, ha | .tuple _, ha
  | .initVar .., ha | .literal _, ha | .typeVar .., ha | .newType .., ha | .function .., ha
  | .routine .., ha | .member .., ha | .object .., ha | .module _, ha => .pure ha
termination_by structural a => a

theorem resolveAll_stays {P : Annot → Prop} [Inherited P] (p : Program) {look : Resolver}
    (hlook : ∀ lenient text, EvalM.Stays P (look lenient text) P) :
    (as : List Annot) → (∀ a ∈ as, P a) →
    EvalM.Stays P (p.resolveAll look as) fun bs => ∀ b ∈ bs, P b
  | [], _ => .pure (by simp)
  | a :: as, h => by
    obtain ⟨ha, has⟩ := List.forall_mem_cons.mp h
    have hstep := resolveWith_stays p hlook a ha
    have hrest := resolveAll_stays p hlook as has
    unfold resolveAll
    split
    next heq => cases heq
    next heq =>
      cases heq
      exact .bind (hlook false _) fun b hb => .bind hrest fun bs hbs =>
        .pure (List.forall_mem_cons.mpr ⟨hb, hbs⟩)
    next heq =>
      cases heq
      exact .bind hstep fun b hb => .bind hrest fun bs hbs =>
        .pure (List.forall_mem_cons.mpr ⟨hb, hbs⟩)
termination_by structural as => as

end

/-- What a reference comes to, by induction on the steps from references to their values. -/
theorem resolveReference_stays (hp : p.Offers P) (hs : s.Holds P)
    (steps : Nat) (resolving : List String) (lenient : Bool) (text : String) :
    EvalM.Stays P (p.resolveReference s steps resolving lenient text) P := by
  induction steps generalizing resolving lenient text with
  | zero =>
    unfold resolveReference
    split
    · exact .pure (atom trivial)
    · exact .pure (atom trivial)
  | succ steps ih =>
    unfold resolveReference
    split
    · exact .pure (atom trivial)
    · refine .bind (evalReference_stays hp hs text) fun a ha => ?_
      exact .bind (.ofExcept fun t ht => inherits_checked ha ht) fun t ht =>
        p.resolveWith_stays (ih _) t ht

theorem resolveAnnot_stays (hp : p.Offers P) (hs : s.Holds P)
    (ha : P a) : EvalM.Stays P (p.resolveAnnot s a) P := by
  have hlook := fun steps => resolveReference_stays hp hs steps []
  unfold resolveAnnot
  dsimp only
  split
  · exact .pure (builtin .noneType)
  · exact .bind (.ofExcept fun _ _ => trivial) fun _ _ => hlook _ true _
  · exact p.resolveWith_stays (hlook _) a ha

/-! ## Hints with notes -/

theorem addHints_stays (hp : p.Offers P) (hs : s.Holds P)
    {table : Table String Annot} (htable : Throughout P table) {fields : List FieldDecl}
    (hfields : ∀ f ∈ fields, P f.type) :
    EvalM.Stays P (p.addHints s table fields) (Throughout P) := by
  induction fields generalizing table with
  | nil => exact .pure htable
  | cons f fields ih =>
    obtain ⟨hf, hfields⟩ := List.forall_mem_cons.mp hfields
    unfold addHints
    refine .bind (resolveAnnot_stays hp hs hf) fun hint hhint =>
      ih (fun entry hentry => ?_) hfields
    rcases Table.mem_insert hentry with hentry | rfl
    · exact htable entry hentry
    · exact hhint

/-- The hints of some classes have a property if the annotations and the bindings have it. -/
theorem gatherHints_stays (hp : p.Offers P)
    (hannotated : ∀ {c d f}, p.classAt? c = some d → f ∈ d.annotations → P f.type)
    {table : Table String Annot} (htable : Throughout P table) (lineage : List ClassRef) :
    EvalM.Stays P (p.gatherHints table lineage) (Throughout P) := by
  induction lineage generalizing table with
  | nil => exact .pure htable
  | cons c lineage ih =>
    cases c with
    | declared id =>
      unfold gatherHints
      cases hd : p.classAt? id with
      | none =>
        have hs : ({} : Scope).Holds P := ⟨nofun, nofun, nofun⟩
        exact .bind (addHints_stays hp hs htable nofun) fun table htable => ih htable
      | some d =>
        exact .bind (addHints_stays hp (scopeOf_holds hp id d) htable fun f hf =>
          hannotated hd hf) fun table htable => ih htable
    | builtin _ | library _ => exact ih htable

end Program

end ElmCodec.Source
