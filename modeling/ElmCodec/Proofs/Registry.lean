import ElmCodec.Proofs.Steps
import ElmCodec.Proofs.Table
import ElmCodec.Resolve.Registry

/-!
# Runs on a registry

A step of a walk takes a registry to a registry and a result.  What the log holds has
no influence on either, so `Runs` leaves it out.  There is one rule for each way to
build a step.

A registry *holds* a list of classes if the record of each class stands at the place
that the class has in the list.  Then looking up a class is looking up its place in the
list, registering a class adds it at the end, and a rollback to a place keeps the
classes before it.
-/

namespace ElmCodec

open Source (ClassId)

/-! ## Runs -/

/-- A step takes a registry to a result and a registry, whatever the log holds. -/
def ResolveM.Runs {α : Type} (x : ResolveM α) (r : Registry) (result : Except Failure α)
    (r' : Registry) : Prop :=
  ∀ events, ∃ events', x.run ⟨r, events⟩ = (result, ⟨r', events'⟩)

theorem ResolveM.run_registry_bind {α : Type} (f : Registry → ResolveM α) (s : Session) :
    (ResolveM.registry >>= f).run s = (f s.registry).run s :=
  rfl

namespace ResolveM.Runs

variable {α β : Type} {x : ResolveM α} {f : α → ResolveM β} {handle : Failure → ResolveM α}
  {r r' r'' : Registry} {a : α} {e : Failure}

theorem pure (a : α) (r : Registry) : Runs (Pure.pure a) r (.ok a) r :=
  fun events => ⟨events, rfl⟩

theorem throw (e : Failure) (r : Registry) :
    Runs (MonadExcept.throw e : ResolveM α) r (.error e) r :=
  fun events => ⟨events, rfl⟩

theorem ofExcept (result : Except Failure α) (r : Registry) :
    Runs (ResolveM.ofExcept result) r result r :=
  fun events => ⟨events, rfl⟩

theorem registry (r : Registry) : Runs ResolveM.registry r (.ok r) r :=
  fun events => ⟨events, rfl⟩

theorem update (change : Registry → Registry) (r : Registry) :
    Runs (ResolveM.update change) r (.ok ()) (change r) :=
  fun events => ⟨events, rfl⟩

theorem log (event : Event) (r : Registry) : Runs (ResolveM.log event) r (.ok ()) r :=
  fun events => ⟨events ++ [event], rfl⟩

theorem bind {result : Except Failure β} (hx : Runs x r (.ok a) r')
    (hf : Runs (f a) r' result r'') : Runs (x >>= f) r result r'' := by
  intro events
  obtain ⟨events', hx⟩ := hx events
  obtain ⟨events'', hf⟩ := hf events'
  exact ⟨events'', by rw [run_bind, hx]; exact hf⟩

theorem bind_error (hx : Runs x r (.error e) r') : Runs (x >>= f) r (.error e) r' := by
  intro events
  obtain ⟨events', hx⟩ := hx events
  exact ⟨events', by rw [run_bind, hx]⟩

theorem tryCatch (hx : Runs x r (.ok a) r') :
    Runs (MonadExcept.tryCatch x handle) r (.ok a) r' := by
  intro events
  obtain ⟨events', hx⟩ := hx events
  exact ⟨events', by rw [run_tryCatch, hx]⟩

theorem tryCatch_error {result : Except Failure α} (hx : Runs x r (.error e) r')
    (hhandle : Runs (handle e) r' result r'') :
    Runs (MonadExcept.tryCatch x handle) r result r'' := by
  intro events
  obtain ⟨events', hx⟩ := hx events
  obtain ⟨events'', hhandle⟩ := hhandle events'
  exact ⟨events'', by rw [run_tryCatch, hx]; exact hhandle⟩

theorem run_eq {s : Session} {result : Except Failure α} (h : Runs x s.registry result r') :
    (x.run s).1 = result ∧ (x.run s).2.registry = r' := by
  obtain ⟨events, hrun⟩ := h s.events
  exact ⟨congrArg Prod.fst hrun, congrArg (fun outcome => outcome.2.registry) hrun⟩

end ResolveM.Runs

/-! ## Places in a list -/

theorem Table.find?_zipIdx_of_mem {id : ClassId} {known : List ClassId} (hid : id ∈ known)
    (start : Nat) : Table.find? (known.zipIdx start) id = some (start + known.idxOf id) := by
  induction known generalizing start with
  | nil => cases hid
  | cons c known ih =>
    rw [List.zipIdx_cons, Table.find?, List.lookup_cons, List.idxOf_cons]
    by_cases h : c = id
    · simp [h]
    · have hne : (id == c) = false := beq_false_of_ne fun h' => h h'.symm
      have hne' : (c == id) = false := beq_false_of_ne h
      have hmem : id ∈ known := (List.mem_cons.mp hid).resolve_left fun h' => h h'.symm
      rw [hne, hne']
      simp only [cond_false]
      exact (ih hmem (start + 1)).trans (congrArg some (by omega))

theorem Table.keys_zipIdx (known : List ClassId) (start : Nat) :
    Table.keys (known.zipIdx start) = known :=
  List.zipIdx_map_fst start known

theorem Table.find?_zipIdx_of_not_mem {id : ClassId} {known : List ClassId} (hid : id ∉ known)
    (start : Nat) : Table.find? (known.zipIdx start) id = none := by
  rw [← Option.not_isSome_iff_eq_none, Table.isSome_find?_iff, Table.keys_zipIdx]
  exact hid

theorem nodup_snoc {id : ClassId} {known : List ClassId} (hknown : known.Nodup)
    (hid : id ∉ known) : (known ++ [id]).Nodup := by
  rw [List.nodup_append]
  refine ⟨hknown, by simp, fun c hc d hd hcd => ?_⟩
  rw [List.mem_singleton.mp hd] at hcd
  exact hid (hcd ▸ hc)

theorem filter_zipIdx (known : List ClassId) (start mark : Nat) :
    (known.zipIdx start).filter (fun entry => entry.2 < start + mark) =
      (known.take mark).zipIdx start := by
  induction known generalizing start mark with
  | nil => simp
  | cons c known ih =>
    cases mark with
    | zero =>
      rw [List.take_zero, List.zipIdx_nil, List.filter_eq_nil_iff]
      intro entry hentry
      have := List.le_snd_of_mem_zipIdx hentry
      simp only [decide_eq_true_eq]
      omega
    | succ mark =>
      rw [List.zipIdx_cons, List.take_succ_cons, List.zipIdx_cons,
        List.filter_cons_of_pos (by simp), ← ih (start + 1) mark]
      have : start + 1 + mark = start + (mark + 1) := by omega
      rw [this]

theorem filter_range_append (m n : Nat) :
    (List.range (m + n)).filter (fun place => place < m) = List.range m := by
  rw [List.range_add, List.filter_append]
  have hbefore : (List.range m).filter (fun place => place < m) = List.range m :=
    List.filter_eq_self.mpr fun place hplace => by simpa using hplace
  have hafter : ((List.range n).map (m + ·)).filter (fun place => place < m) = [] := by
    simp [List.filter_eq_nil_iff]
  rw [hbefore, hafter, List.append_nil]

/-! ## Registries that hold a list of classes -/

namespace Registry

/-- The record of each class of a list stands at the place of the class. -/
structure Holds (r : Registry) (known : List ClassId) : Prop where
  index : r.index = known.zipIdx
  length : r.records.length = known.length
  discovered : r.discovered = List.range known.length
  nodup : known.Nodup

variable {r : Registry} {known : List ClassId} {id : ClassId}

theorem holds_empty : ({} : Registry).Holds [] := ⟨rfl, rfl, rfl, List.nodup_nil⟩

theorem Holds.find?_of_mem (h : r.Holds known) (hid : id ∈ known) :
    r.find? id = some (known.idxOf id) := by
  rw [find?, h.index, Table.find?_zipIdx_of_mem hid, Nat.zero_add]

theorem Holds.find?_of_not_mem (h : r.Holds known) (hid : id ∉ known) : r.find? id = none := by
  rw [find?, h.index, Table.find?_zipIdx_of_not_mem hid]

theorem Holds.next_eq (h : r.Holds known) : r.next = known.length := h.length

theorem Holds.register (h : r.Holds known) (hid : id ∉ known) (name : String) :
    (r.register id name).Holds (known ++ [id]) where
  index := by
    change r.index.insert id r.next = _
    rw [h.index, Table.insert_of_not_mem (by rwa [Table.keys_zipIdx]), h.next_eq,
      List.zipIdx_append, List.zipIdx_singleton, Nat.zero_add]
  length := by
    change (r.records ++ [_]).length = _
    rw [List.length_append, h.length, List.length_append, List.length_singleton,
      List.length_singleton]
  discovered := by
    change r.discovered ++ [r.next] = _
    rw [h.discovered, h.next_eq, List.length_append, List.length_singleton, List.range_succ]
  nodup := nodup_snoc h.nodup hid

end Registry

end ElmCodec
