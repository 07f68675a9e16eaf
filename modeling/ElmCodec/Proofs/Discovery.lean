import ElmCodec.Proofs.Resolution
import ElmCodec.Proofs.Tour
import Mathlib.Data.List.Nodup

/-!
# What a resolution discovers

A resolution comes to the classes that its root reaches in the order of the tour that starts
at the root, and it fails with the first failure of that tour (`discovery_eq_tour`).

So the nested records stand in the order in which the tour comes to their classes for the first
time, and the root is not among them, even if there is a way back to it.

A failure that is reported has a place.  It names a class that the root reaches, and the field
of that class if the hint of the field has no counterpart.  The classes on the way to that class
leave it as it is.
-/

namespace ElmCodec

open Source (Program ClassId Shape Annot FieldDecl Reason)
open Elm (RecordId)

namespace Source.Program

variable {p : Program} {style : Style} {root c : ClassId} {known : List ClassId}

theorem discovery_eq_tour (hroot : p.isRecordClass root = true) :
    p.discovery root =
      match p.firstFailure? root with
      | some (_, e) => .error e
      | none => .ok (p.preorder root) := by
  have hroom : p.Room p.classes.length [] := ⟨List.nodup_nil, by simp, by simp⟩
  have hstart : p.OnTour (List.range p.classes.length) [] :=
    ⟨fun d hd _ => List.mem_range.mpr (lt_of_isRecordClass hd), by simp⟩
  rw [discovery, walkClass_eq_tour _ _ hroot hroom hstart, follow_eq]
  simp only [List.nil_append, List.removeAll_nil]
  rfl

theorem preorder_eq (hroot : p.isRecordClass root = true) (h : p.discovery root = .ok known) :
    p.preorder root = known := by
  rw [discovery_eq_tour hroot] at h
  split at h
  · cases h
  · exact Except.ok.inj h

/-! ## The order of the nested records -/

theorem schema_resolutionOf (hc : c ∈ known) :
    (p.resolutionOf style known).schema[known.idxOf c]? = some (p.recordOf style known c) := by
  change (known.map _)[known.idxOf c]? = _
  rw [List.getElem?_map, List.getElem?_idxOf hc]
  rfl

theorem map_idxOf_self (h : known.Nodup) : known.map known.idxOf = List.range known.length := by
  refine List.ext_getElem (by simp) fun i hi hi' => ?_
  simp only [List.getElem_map, List.getElem_range]
  exact h.idxOf_getElem i _

/-- The nested types of a resolution are the records of the classes that a tour comes to, in the
order of the tour.  The record of a class stands at `node`. -/
structure NestsInPreorder (p : Program) (style : Style) (root : ClassId) (node : ClassId → RecordId)
    (r : Elm.Resolution) : Prop where
  /-- The record of a class says the same as the class. -/
  records : ∀ c, p.Reaches root c → ∃ record, r.schema[node c]? = some record ∧
    p.RecordFor style node c record
  /-- No two classes have the same record. -/
  injective : Set.InjOn node {c | p.Reaches root c}
  /-- The tour comes to the classes that the root reaches. -/
  visits : ∀ c, c ∈ p.preorder root ↔ p.Reaches root c
  visits_nodup : (p.preorder root).Nodup
  root_eq : r.root = .record (node root)
  nested_eq : r.nested = ((p.preorder root).filter (· ≠ root)).map fun c => .record (node c)

namespace NestsInPreorder

variable {node : ClassId → RecordId} {r : Elm.Resolution}

theorem mem_nested (h : p.NestsInPreorder style root node r) (t : Elm.Ty) :
    t ∈ r.nested ↔ ∃ c, p.Reaches root c ∧ c ≠ root ∧ t = .record (node c) := by
  rw [h.nested_eq, List.mem_map]
  constructor
  · rintro ⟨c, hc, rfl⟩
    obtain ⟨hin, hne⟩ := List.mem_filter.mp hc
    exact ⟨c, (h.visits c).mp hin, by simpa using hne, rfl⟩
  · rintro ⟨c, hc, hne, rfl⟩
    exact ⟨c, List.mem_filter.mpr ⟨(h.visits c).mpr hc, by simpa using hne⟩, rfl⟩

theorem nodup (h : p.NestsInPreorder style root node r) : r.nested.Nodup := by
  rw [h.nested_eq]
  refine List.Nodup.map_on (fun c hc d hd heq => ?_) (h.visits_nodup.filter _)
  have hreached : ∀ {c}, c ∈ (p.preorder root).filter (· ≠ root) → p.Reaches root c :=
    fun hc => (h.visits _).mp (List.mem_filter.mp hc).1
  exact h.injective (hreached hc) (hreached hd) (Elm.Ty.record.inj heq)

/-- The root is not nested in itself. -/
theorem root_not_nested (h : p.NestsInPreorder style root node r) : r.root ∉ r.nested := by
  intro hin
  obtain ⟨c, hc, hne, heq⟩ := (h.mem_nested _).mp hin
  rw [h.root_eq] at heq
  exact hne (h.injective .refl hc (Elm.Ty.record.inj heq)).symm

end NestsInPreorder

theorem nested_resolutionOf (p : Program) (style : Style) {others : List ClassId}
    (h : (root :: others).Nodup) : (p.resolutionOf style (root :: others)).nested =
      others.map fun c => .record ((root :: others).idxOf c) := by
  have hplaces : others.map (root :: others).idxOf = List.range' 1 others.length := by
    have hall := map_idxOf_self h
    rw [List.length_cons, List.range_eq_range', List.range'_succ, List.map_cons] at hall
    exact (List.cons.inj hall).2
  change (List.range' 1 others.length).map Elm.Ty.record = _
  rw [← hplaces, List.map_map]
  rfl

theorem resolutionOf_nestsInPreorder (style : Style) (hroot : p.isRecordClass root = true)
    (hwalk : p.discovery root = .ok known) :
    p.NestsInPreorder style root known.idxOf (p.resolutionOf style known) := by
  have hmem : ∀ c, c ∈ known ↔ p.Reaches root c := fun c => mem_discovery hroot hwalk
  have hnodup : known.Nodup := (discovery_explored hroot hwalk).nodup List.nodup_nil
  have hpreorder := preorder_eq hroot hwalk
  obtain ⟨others, rfl⟩ := discovery_eq_cons hroot hwalk
  have hothers : (root :: others).filter (· ≠ root) = others := by
    rw [List.filter_cons_of_neg (by simp), List.filter_eq_self]
    rintro c hc
    exact decide_eq_true (ne_of_mem_of_not_mem hc (List.nodup_cons.mp hnodup).1)
  refine ⟨fun c hc => ⟨_, schema_resolutionOf ((hmem c).mpr hc), ?_⟩, ?_, ?_, ?_, ?_, ?_⟩
  · exact recordOf_recordFor (convertible_of_mem_discovery hroot hwalk ((hmem c).mpr hc))
  · exact fun c hc d _ hplace => (List.idxOf_inj ((hmem c).mpr hc)).mp hplace
  · rwa [hpreorder]
  · rwa [hpreorder]
  · exact congrArg Elm.Ty.record List.idxOf_cons_self.symm
  · rw [hpreorder, hothers, nested_resolutionOf p style hnodup]

/-- The nested records of a resolution are those of the classes that its root reaches, other than
the root and each once, in the order of a tour. -/
theorem nested_in_preorder {a : Annot} {r : Elm.Resolution} (h : p.resolution style a = .ok r) :
    ∃ root node, a = .cls (.declared root) ∧ p.NestsInPreorder style root node r ∧
      (∀ t, t ∈ r.nested ↔ ∃ c, p.Reaches root c ∧ c ≠ root ∧ t = .record (node c)) ∧
      r.nested.Nodup ∧ r.root ∉ r.nested := by
  obtain ⟨root, known, rfl, hroot, hwalk, rfl⟩ := resolution_eq_ok.mp h
  have hnests := resolutionOf_nestsInPreorder style hroot hwalk
  exact ⟨root, _, rfl, hnests, hnests.mem_nested, hnests.nodup, hnests.root_not_nested⟩

/-- Orders: an order has lines with products, and a customer with a favourite product and former
orders, and it may replace an order. -/
def orders : Program :=
  .ofModule "orders"
    [.record "Product" [("title", .ofBuiltin .str)],
      .record "Line" [("product", .name "Product")],
      .record "Customer" [("favourite", .orNone (.name "Product")),
        ("former", .listOf (.text "Order"))],
      .record "Order" [("lines", .listOf (.name "Line")), ("customer", .name "Customer"),
        ("replaces", .text "Order")]]

/-- The products come before the customer, since the lines lead to them, and not again after it. -/
theorem orders_nested_in_preorder :
    ∃ r, orders.resolution {} (.cls (.declared 3)) = .ok r ∧
      orders.preorder 3 = [3, 1, 0, 2] ∧
      r.nested.map (Elm.Ty.name r.schema) = ["Line", "Product", "Customer"] ∧
      ∃ root node, Annot.cls (.declared 3) = .cls (.declared root) ∧
        orders.NestsInPreorder {} root node r ∧
        (∀ t, t ∈ r.nested ↔ ∃ c, orders.Reaches root c ∧ c ≠ root ∧ t = .record (node c)) ∧
        r.nested.Nodup ∧ r.root ∉ r.nested := by
  have hroot : orders.isRecordClass 3 = true := by decide +kernel
  have hwalk : orders.discovery 3 = .ok [3, 1, 0, 2] := by decide +kernel
  have h : orders.resolution {} (.cls (.declared 3)) =
      .ok (orders.resolutionOf {} [3, 1, 0, 2]) :=
    resolution_eq_ok.mpr ⟨3, _, rfl, hroot, hwalk, rfl⟩
  exact ⟨_, h, preorder_eq hroot hwalk, by decide +kernel, nested_in_preorder h⟩

/-! ## The place of the first failure -/

end Source.Program

/-- An annotation holds another one that has no counterpart, for a reason, under optionals,
sequences and notes only. -/
inductive Source.Lacks (p : Program) : Annot → Reason → Annot → Prop where
  | here {a : Annot} {reason : Reason} : p.shape a = .unsupported reason a → Lacks p a reason a
  | annotated {t b : Annot} {notes : List Annot} {reason : Reason} :
      Lacks p t reason b → Lacks p (.annotated t notes) reason b
  | optional {a t b : Annot} {reason : Reason} :
      a.OptionalOf t → Lacks p t reason b → Lacks p a reason b
  | sequence {a t b : Annot} {reason : Reason} :
      a.SequenceOf t → Lacks p t reason b → Lacks p a reason b

namespace Source.Program

theorem lacks_of_gap? {p : Program} {a b : Annot} {reason : Reason}
    (h : (p.shape a).gap? = some (reason, b)) : Lacks p a reason b := by
  induction a using shape_induction p with
  | annotated t notes ih => exact .annotated (ih h)
  | scalar k => rw [shape_scalarClass] at h; cases h
  | record id hrec => rw [shape_declared hrec] at h; cases h
  | optional a t hopt ih =>
    rw [shape_of_optionalOf hopt] at h
    exact .optional hopt (ih h)
  | sequence a t hseq ih =>
    rw [shape_of_sequenceOf hseq] at h
    exact .sequence hseq (ih h)
  | unsupported a reason' hshape =>
    rw [hshape] at h
    cases h
    exact .here hshape

/-- A problem that a class has by itself, with its place. -/
inductive ProblemAt (p : Program) (c : ClassId) : Located Problem → Prop where
  /-- Its hints do not resolve. -/
  | unresolved {why : EvalError} : p.hints c = .error why →
      ProblemAt p c ⟨.unresolved why, some (p.className (.declared c)), none⟩
  /-- An exported field has a hint without counterpart. -/
  | unsupported {f : FieldDecl} {hint b : Annot} {reason : Reason} :
      p.Exports c f → p.HintOf c f.name hint → Lacks p hint reason b →
      ProblemAt p c
        ⟨.unsupported reason (p.label b), some (p.className (.declared c)), some f.name⟩
  /-- Its hints resolve, and it has no exported field. -/
  | noField {hints : Table String Annot} : p.hints c = .ok hints → (∀ f, ¬ p.Exports c f) →
      ProblemAt p c ⟨.noField, some (p.className (.declared c)), none⟩

variable {p : Program} {style : Style} {root c : ClassId} {e : Located Problem}

theorem ProblemAt.record_eq (h : p.ProblemAt c e) :
    e.record = some (p.className (.declared c)) := by
  cases h <;> rfl

theorem problemAt_of_ofHints {why : EvalError} {kind : String} (hhints : p.hints c = .error why)
    (h : Failure.ofHints (some (p.className (.declared c))) kind why = .problem e) :
    p.ProblemAt c e := by
  cases why with
  | undefined | misuse => cases h; exact .unresolved hhints
  | _ => cases h

theorem FailsAt.problemAt (h : p.FailsAt c (.problem e)) : p.ProblemAt c e := by
  generalize he : Failure.problem e = failure at h
  cases h with
  | exported hes =>
    rcases exportedFields_eq_error hes with ⟨why, hhints, rfl⟩ | ⟨f, rfl⟩
    · exact problemAt_of_ofHints hhints he.symm
    · cases he
  | noField hes =>
    obtain ⟨hints, decls, hhints, hdecls, hexports⟩ := exportedFields_eq_ok.mp hes
    cases he
    refine .noField hhints fun f hf => ?_
    rw [exports_iff hdecls, List.forall₂_nil_right_iff.mp hexports] at hf
    cases hf
  | field hes hf hgap =>
    obtain ⟨hints, decls, hhints, hdecls, hexports⟩ := exportedFields_eq_ok.mp hes
    obtain ⟨f, hdecl, hexport⟩ := forall₂_mem_right hexports hf
    cases he
    rw [hexport.name]
    exact .unsupported ((exports_iff hdecls).mpr hdecl) ((hintOf_iff hhints).mpr hexport.hint)
      (lacks_of_gap? hgap)

/-- A problem that a resolution reports is the first failure of the tour from the root.  It is a
problem that a class has by itself, and it names this class. -/
theorem reported_problem_is_first (hroot : p.isRecordClass root = true)
    (h : p.resolution style (.cls (.declared root)) = .error (.problem e)) :
    ∃ c, p.firstFailure? root = some (c, .problem e) ∧ p.Reaches root c ∧
      p.ProblemAt c e ∧ e.record = some (p.className (.declared c)) := by
  rw [resolution_eq hroot, discovery_eq_tour hroot] at h
  cases hfirst : p.firstFailure? root with
  | none => rw [hfirst] at h; cases h
  | some failed =>
    obtain ⟨c, failure⟩ := failed
    rw [hfirst] at h
    cases h
    obtain ⟨x, hx, hfailure⟩ := List.exists_of_findSome?_eq_some hfirst
    cases x with
    | arrival => cases hfailure
    | failure =>
      cases hfailure
      obtain ⟨hreach, hfails⟩ := failure_mem_tour hx
      exact ⟨c, rfl, hreach, hfails.problemAt, hfails.problemAt.record_eq⟩

/-- A company: its staff are persons, who have the company and a badge, and a badge has
photographs.  Neither these nor the logo of the company have a counterpart. -/
def company : Program :=
  .ofModule "company"
    [⟨"Annotated", .synonym (.object (.form .annotated))⟩,
      .record "Badge" [("number", .ofBuiltin .int),
        ("photos", .text "list[Annotated[bytes, 'jpeg'] | None]")],
      .record "Person" [("employer", .text "Company"), ("badge", .name "Badge")],
      .record "Company" [("staff", .listOf (.name "Person")), ("logo", .ofBuiltin .bytes)]]

/-- The photographs on a badge are reported, and neither a person nor the company takes their
place. -/
theorem photos_are_first :
    ∃ e : Located Problem, e = ⟨.unsupported .builtin "bytes", some "Badge", some "photos"⟩ ∧
      company.isRecordClass 2 = true ∧
      company.resolution {} (.cls (.declared 2)) = .error (.problem e) ∧
      ∃ c, company.firstFailure? 2 = some (c, .problem e) ∧ company.Reaches 2 c ∧
        company.ProblemAt c e ∧ e.record = some (company.className (.declared c)) := by
  have hroot : company.isRecordClass 2 = true := by decide +kernel
  have hwalk : company.discovery 2 =
      .error (.problem ⟨.unsupported .builtin "bytes", some "Badge", some "photos"⟩) := by
    decide +kernel
  have h : company.resolution {} (.cls (.declared 2)) =
      .error (.problem ⟨.unsupported .builtin "bytes", some "Badge", some "photos"⟩) := by
    rw [resolution_eq hroot, hwalk]
    rfl
  exact ⟨_, rfl, hroot, h, reported_problem_is_first hroot h⟩

end Source.Program

end ElmCodec
