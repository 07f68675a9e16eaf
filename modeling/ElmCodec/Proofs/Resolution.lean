import ElmCodec.Proofs.Conversion
import Mathlib.Data.Set.Function

/-!
# Resolutions

A resolution starts with an empty registry.  The classes it discovers are those that the
root reaches, each once and the root first, and the resolution is a function of that list
(`resolution_eq`).

From this follow the two main results.  A resolution that succeeds maps the reached
classes one to one to records that say the same as the classes.  A resolution succeeds
exactly if all reached classes are convertible.
-/

namespace ElmCodec

open Source (Program ClassId FieldDecl Annot)
open Elm (RecordId)

namespace Source.Program

variable {p : Program} {style : Style} {root c d : ClassId} {known : List ClassId}

/-! ## Discovered classes -/

/-- What the resolution of a definition returns. -/
def resolution (p : Program) (style : Style) (a : Annot) : Except Failure Elm.Resolution :=
  ((p.resolve style a).run {}).1

/-- The classes that a resolution discovers, in order. -/
def discovery (p : Program) (root : ClassId) : Except Failure (List ClassId) :=
  p.walkClass p.classes.length root []

theorem discovery_explored (hroot : p.isRecordClass root = true)
    (h : p.discovery root = .ok known) : p.Explored (· = root) [] known :=
  walkClass_explored p.classes.length hroot h

/-- The discovered classes are those that the root reaches. -/
theorem mem_discovery (hroot : p.isRecordClass root = true) (h : p.discovery root = .ok known) :
    c ∈ known ↔ p.Reaches root c := by
  have hx := discovery_explored hroot h
  constructor
  · intro hc
    obtain hold | ⟨-, d, rfl, hreach⟩ := hx.settled c hc
    · cases hold
    · exact hreach
  · intro hreach
    induction hreach with
    | refl => exact hx.covers root rfl
    | tail _ hrefers ih =>
      obtain hold | ⟨hsettled, -⟩ := hx.settled _ ih
      · cases hold
      · exact hsettled.closed _ hrefers

theorem convertible_of_mem_discovery (hroot : p.isRecordClass root = true)
    (h : p.discovery root = .ok known) (hc : c ∈ known) : p.Convertible c := by
  obtain hold | ⟨hsettled, -⟩ := (discovery_explored hroot h).settled c hc
  · cases hold
  · exact hsettled.convertible

/-- The root is discovered first. -/
theorem discovery_eq_cons (hroot : p.isRecordClass root = true)
    (h : p.discovery root = .ok known) : ∃ others, known = root :: others := by
  have hpos : 0 < p.classes.length := Nat.zero_lt_of_lt (lt_of_isRecordClass hroot)
  obtain ⟨n, hn⟩ : ∃ n, p.classes.length = n + 1 := ⟨_, (Nat.succ_pred_eq_of_pos hpos).symm⟩
  unfold discovery at h
  rw [hn, walkClass_succ (by simp)] at h
  obtain ⟨others, hknown⟩ := walkNew_grows (walkClass_explored n) h
  exact ⟨others, hknown.symm⟩

/-- The discovery of a root fails only if some class that the root reaches does. -/
theorem exists_discovery (hroot : p.isRecordClass root = true)
    (h : ∀ c, p.Reaches root c → p.Convertible c) : ∃ known, p.discovery root = .ok known := by
  cases hwalk : p.discovery root with
  | ok known => exact ⟨known, rfl⟩
  | error e =>
    have hroom : p.Room p.classes.length [] := ⟨List.nodup_nil, by simp, by simp⟩
    obtain ⟨c, hreach, hfails⟩ := walkClass_fails p.classes.length hroot hroom hwalk
    exact absurd (h c hreach) hfails.not_convertible

/-! ## The resolution by its discovered classes -/

/-- The resolution with the records of some classes, of which the first is the root. -/
def resolutionOf (p : Program) (style : Style) (known : List ClassId) : Elm.Resolution where
  schema := known.map (p.recordOf style known)
  root := .record 0
  nested := (List.range' 1 (known.length - 1)).map .record

end Source.Program

theorem ResolveM.Runs.result {α : Type} {x : ResolveM α} {result : Except Failure α}
    {r' : Registry} (h : x.Runs {} result r') : (x.run {}).1 = result := by
  obtain ⟨events, hrun⟩ := h []
  rw [hrun]

namespace Source.Program

variable {p : Program} {style : Style} {root c d : ClassId} {known : List ClassId}

theorem ensureRecord_eq_ok {a : Annot} :
    p.ensureRecord a = .ok root ↔ a = .cls (.declared root) ∧ p.isRecordClass root = true := by
  constructor
  · intro h
    unfold ensureRecord at h
    split at h
    next id =>
      split at h
      next hrec => cases h; exact ⟨rfl, hrec⟩
      next => cases h
    next => cases h
  · rintro ⟨rfl, hroot⟩
    rw [ensureRecord, if_pos hroot]
    rfl

theorem convert_declared (hroot : p.isRecordClass root = true) :
    p.convert style (.cls (.declared root)) = p.convertClass style p.classes.length root := by
  rw [convert, shape_declared hroot]
  rfl

theorem convertRoot_runs (hroot : p.isRecordClass root = true) {r r' : Registry} {type : Elm.Ty}
    (h : (p.convertClass style p.classes.length root).Runs r (.ok type) r') :
    (p.convertRoot style (.cls (.declared root))).Runs r (.ok type)
      { r' with root := r'.find? root } := by
  unfold convertRoot
  rw [convert_declared hroot, shape_declared hroot]
  exact .bind h (.bind (.update _ r') (.pure _ _))

/-- The nested records are all but the first once the first one is the root. -/
theorem nested_eq {r : Registry} (hr : r.Holds known) (hroot : r.root = some 0) :
    r.nested = (List.range' 1 (known.length - 1)).map .record := by
  rw [Registry.nested, hr.discovered, hroot]
  cases known.length with
  | zero => rfl
  | succ n =>
    have hothers : (List.range' 1 n).filter (fun place => some 0 != some place) =
        List.range' 1 n := by
      rw [List.filter_eq_self]
      intro place hplace
      have := List.left_le_of_mem_range' hplace
      simp
      omega
    rw [List.range_eq_range', List.range'_succ, List.filter_cons_of_neg (by simp), Nat.zero_add,
      hothers, Nat.add_sub_cancel]

/-- The resolution of a record class. -/
theorem resolution_eq (hroot : p.isRecordClass root = true) :
    p.resolution style (.cls (.declared root)) = (p.discovery root).map (p.resolutionOf style) := by
  have hconvert := @convertClass_runs p style p.classes.length root [] {} hroot
    Registry.holds_empty
  rw [← discovery] at hconvert
  cases hwalk : p.discovery root with
  | error e =>
    rw [hwalk] at hconvert
    have hrun : (p.resolve style (.cls (.declared root))).Runs {} (.error e) {} := by
      unfold resolve
      rw [ensureRecord_eq_ok.mpr ⟨rfl, hroot⟩]
      rw [← convert_declared hroot] at hconvert
      exact .bind (.ofExcept _ _) (.bind_error (convertRoot_runs_of_error hconvert))
    exact hrun.result
  | ok known =>
    rw [hwalk] at hconvert
    obtain ⟨r, hbuilds, hconvert⟩ := hconvert
    obtain ⟨others, rfl⟩ := discovery_eq_cons hroot hwalk
    have hr := hbuilds.holds Registry.holds_empty (discovery_explored hroot hwalk)
    have hplace : (root :: others).idxOf root = 0 := List.idxOf_cons_self
    have hnested : ({ r with root := r.find? root } : Registry).nested =
        (p.resolutionOf style (root :: others)).nested :=
      nested_eq ⟨hr.index, hr.length, hr.discovered, hr.nodup⟩
        ((hr.find?_of_mem List.mem_cons_self).trans (congrArg some hplace))
    have hrun : (p.resolve style (.cls (.declared root))).Runs {}
        (.ok (p.resolutionOf style (root :: others))) { r with root := r.find? root } := by
      unfold resolve
      rw [ensureRecord_eq_ok.mpr ⟨rfl, hroot⟩]
      refine .bind (.ofExcept _ _) (.bind (convertRoot_runs hroot hconvert)
        (.bind (.registry _) ?_))
      have hresult : p.resolutionOf style (root :: others) = ⟨r.records,
          .record ((root :: others).idxOf root),
          ({ r with root := r.find? root } : Registry).nested⟩ := by
        rw [hnested, hbuilds.records, hplace]
        rfl
      rw [hresult]
      exact .bind (.log _ _) (.pure _ _)
    exact hrun.result

theorem resolution_eq_error {a : Annot} {e : Failure} (h : p.ensureRecord a = .error e) :
    p.resolution style a = .error e := by
  have hrun : (p.resolve style a).Runs {} (.error e) {} := by
    unfold resolve
    rw [h]
    exact .bind_error (.ofExcept _ _)
  exact hrun.result

theorem resolution_eq_ok {a : Annot} {r : Elm.Resolution} :
    p.resolution style a = .ok r ↔ ∃ root known, a = .cls (.declared root) ∧
      p.isRecordClass root = true ∧ p.discovery root = .ok known ∧
      r = p.resolutionOf style known := by
  constructor
  · intro h
    cases hensure : p.ensureRecord a with
    | error e => cases (resolution_eq_error hensure).symm.trans h
    | ok root =>
      obtain ⟨rfl, hroot⟩ := ensureRecord_eq_ok.mp hensure
      rw [resolution_eq hroot] at h
      cases hwalk : p.discovery root with
      | error e => rw [hwalk] at h; cases h
      | ok known => rw [hwalk] at h; cases h; exact ⟨root, known, rfl, hroot, hwalk, rfl⟩
  · rintro ⟨root, known, rfl, hroot, hwalk, rfl⟩
    rw [resolution_eq hroot, hwalk]
    rfl

/-! ## Records that say the same as classes -/

/-- A field that says the same as a declared one, where the record of a class stands at
`node`. -/
structure FieldFor (p : Program) (style : Style) (node : ClassId → RecordId)
    (hints : Table String Annot) (f : FieldDecl) (field : Elm.Field) : Prop where
  name : field.name = style.naming.valueName f.name
  key : field.key = (Wire.of f.name f.tag).key
  omittable : field.omittable = (Wire.of f.name f.tag).omittable
  type : ∃ hint, hints.find? f.name = some hint ∧ Translates p node hint field.type

/-- A record that says the same as a class, where the record of a class stands at `node`.
It has one field for each exported one of the class, in order. -/
structure RecordFor (p : Program) (style : Style) (node : ClassId → RecordId) (c : ClassId)
    (record : Elm.Record) : Prop where
  name : record.name = style.naming.recordName style.renames (p.className (.declared c))
  fields : ∃ hints decls, p.hints c = .ok hints ∧ p.fields? c = some decls ∧
    List.Forall₂ (p.FieldFor style node hints) (decls.filter fun f => isExported f.name)
      record.fields

theorem fieldOf_fieldFor {hints : Table String Annot} {f : FieldDecl} {e : ExportedField}
    (h : ExportOf hints f e) (hs : (p.shape e.hint).IsSupported) :
    p.FieldFor style known.idxOf hints f (p.fieldOf style known e) where
  name := congrArg style.naming.valueName h.name
  key := congrArg Wire.key h.wire
  omittable := congrArg Wire.omittable h.wire
  type := ⟨e.hint, h.hint, translates_iff.mpr ⟨hs, rfl⟩⟩

/-- The record of a convertible class says the same as the class. -/
theorem recordOf_recordFor (h : p.Convertible c) :
    p.RecordFor style known.idxOf c (p.recordOf style known c) := by
  obtain ⟨es, hes, -, hsupported⟩ := convertible_iff.mp h
  obtain ⟨hints, decls, hhints, hdecls, hexports⟩ := exportedFields_eq_ok.mp hes
  rw [recordOf_eq hes]
  refine ⟨rfl, hints, decls, hhints, hdecls, ?_⟩
  clear hes
  generalize decls.filter (fun f => isExported f.name) = exported at hexports ⊢
  induction hexports with
  | nil => exact .nil
  | cons hexport _ ih =>
    exact .cons (fieldOf_fieldFor hexport (hsupported _ List.mem_cons_self))
      (ih fun e he => hsupported e (List.mem_cons_of_mem _ he))

/-! ## The main results -/

theorem types_resolutionOf (h : known ≠ []) :
    (p.resolutionOf style known).types = (List.range known.length).map .record := by
  obtain ⟨c, others, rfl⟩ := List.exists_cons_of_ne_nil h
  rw [List.length_cons, List.range_eq_range', List.range'_succ]
  rfl

/-- A resolution represents the classes that a root reaches: they are mapped one to one to
records of the resolution that say the same. -/
def Represents (p : Program) (style : Style) (root : ClassId) (r : Elm.Resolution) : Prop :=
  ∃ node : ClassId → RecordId,
    r.root = .record (node root) ∧ Set.InjOn node {c | p.Reaches root c} ∧
    ∀ c, p.Reaches root c → .record (node c) ∈ r.types ∧
      ∃ record, r.schema[node c]? = some record ∧ p.RecordFor style node c record

/-- A resolution that succeeds represents the classes that its root reaches. -/
theorem resolution_represents {a : Annot} {r : Elm.Resolution} (h : p.resolution style a = .ok r) :
    ∃ root, a = .cls (.declared root) ∧ p.Represents style root r := by
  obtain ⟨root, known, rfl, hroot, hwalk, rfl⟩ := resolution_eq_ok.mp h
  have hmem : ∀ {c}, p.Reaches root c → c ∈ known := (mem_discovery hroot hwalk).mpr
  refine ⟨root, rfl, known.idxOf, ?_, ?_, fun c hc => ⟨?_, p.recordOf style known c, ?_, ?_⟩⟩
  · obtain ⟨others, rfl⟩ := discovery_eq_cons hroot hwalk
    exact congrArg Elm.Ty.record List.idxOf_cons_self.symm
  · intro c hc d hd hplace
    exact (List.idxOf_inj (hmem hc)).mp hplace
  · rw [types_resolutionOf (List.ne_nil_of_mem (hmem hc))]
    exact List.mem_map_of_mem (List.mem_range.mpr (List.idxOf_lt_length_of_mem (hmem hc)))
  · change (known.map _)[known.idxOf c]? = _
    rw [List.getElem?_map, List.getElem?_idxOf (hmem hc)]
    rfl
  · exact recordOf_recordFor (convertible_of_mem_discovery hroot hwalk (hmem hc))

/-- A club: a person, a member that is a person in a team, and a team with members, maybe a
captain, and rivals.  The member and the captain are known to each other by their names only. -/
def club : Program :=
  .ofModule "club"
    [⟨"Annotated", .synonym (.object (.form .annotated))⟩,
      .record "Person" [("full_name", .ofBuiltin .str)],
      .record "Member" [("team", .text "Team")] ["Person"],
      .record "Team" [("members", .listOf (.name "Member")),
        ("captain", .text "Annotated[Member, 'elected'] | None"),
        ("rivals", .subscript (.object (.form .list)) [.text "Team"]),
        ("_score", .ofBuiltin .complex)]]

/-- A member leads to the team. -/
theorem club_discovery : club.isRecordClass 1 = true ∧ club.discovery 1 = .ok [1, 2] := by
  decide +kernel

/-- The club seen from a member, under a name that is given. -/
theorem club_represents :
    club.resolution ⟨.standard, [("Member", "Player")]⟩ (.cls (.declared 1)) =
        .ok (club.resolutionOf ⟨.standard, [("Member", "Player")]⟩ [1, 2]) ∧
      ∃ root, Annot.cls (.declared 1) = .cls (.declared root) ∧
        club.Represents ⟨.standard, [("Member", "Player")]⟩ root
          (club.resolutionOf ⟨.standard, [("Member", "Player")]⟩ [1, 2]) := by
  have h : club.resolution ⟨.standard, [("Member", "Player")]⟩ (.cls (.declared 1)) =
      .ok (club.resolutionOf ⟨.standard, [("Member", "Player")]⟩ [1, 2]) :=
    resolution_eq_ok.mpr ⟨1, [1, 2], rfl, club_discovery.1, club_discovery.2, rfl⟩
  exact ⟨h, resolution_represents h⟩

/-- A resolution succeeds exactly if the root is a record class and all classes that it
reaches are convertible. -/
theorem exists_resolution_iff {a : Annot} :
    (∃ r, p.resolution style a = .ok r) ↔ ∃ root, a = .cls (.declared root) ∧
      p.isRecordClass root = true ∧ ∀ c, p.Reaches root c → p.Convertible c := by
  constructor
  · rintro ⟨r, h⟩
    obtain ⟨root, known, rfl, hroot, hwalk, rfl⟩ := resolution_eq_ok.mp h
    refine ⟨root, rfl, hroot, fun c hc => ?_⟩
    exact convertible_of_mem_discovery hroot hwalk ((mem_discovery hroot hwalk).mpr hc)
  · rintro ⟨root, rfl, hroot, hconvertible⟩
    obtain ⟨known, hwalk⟩ := exists_discovery hroot hconvertible
    exact ⟨_, resolution_eq_ok.mpr ⟨root, known, rfl, hroot, hwalk, rfl⟩⟩

end Source.Program

end ElmCodec
