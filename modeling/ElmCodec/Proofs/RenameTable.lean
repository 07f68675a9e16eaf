import ElmCodec.Naming
import ElmCodec.Proofs.Cut
import ElmCodec.Proofs.Table

/-!
# Rename tables

A text names a declared name before its first colon and gives it the name after this colon.
Further colons belong to the given name, and a text without a colon keeps the name
(`entry_eq`).

Texts may speak of one declared name several times.  The last of them wins, while the name keeps
the place where it was first (`find?_parse`, `keys_parse`).  A table that is written as texts is
read back as it was if no declared name has a colon (`parse_write`).
-/

namespace ElmCodec.Renames

/-- What stands before the first colon of a text, or all of it. -/
def source (text : String) : String := String.ofList (text.toList.takeWhile (· != ':'))

/-- What stands after the first colon of a text, or all of it if it has none. -/
def target (text : String) : String :=
  match text.toList.dropWhile (· != ':') with
  | [] => text
  | _ :: rest => String.ofList rest

/-- The text of an entry. -/
def write (entry : String × String) : String := entry.1 ++ ":" ++ entry.2

theorem entry_eq (text : String) : entry text = (source text, target text) := by
  have hsource : text.toList.dropWhile (· != ':') = [] → source text = text := by
    intro hnone
    have hall : text.toList.takeWhile (· != ':') = text.toList := by
      simpa [hnone] using List.takeWhile_append_dropWhile (p := (· != ':')) (l := text.toList)
    rw [source, hall, String.ofList_toList]
  rw [entry, Text.cut_eq, target]
  cases hrest : text.toList.dropWhile (· != ':') with
  | nil => simp [hsource hrest]
  | cons c rest => rfl

theorem entry_write {entry : String × String} (h : ':' ∉ entry.1.toList) :
    Renames.entry (write entry) = entry := by
  have hletters : (write entry).toList = entry.1.toList ++ ':' :: entry.2.toList := by
    simp [write]
  rw [Renames.entry, hletters, Text.cut_append_cons h]
  simp

/-- The name that the last text gives is found. -/
theorem find?_parse (texts : List String) (name : String) :
    (parse texts).find? name =
      (texts.reverse.find? fun text => source text == name).map target := by
  have hlookup : ∀ texts : List String, List.lookup name (texts.map entry) =
      (texts.find? fun text => source text == name).map target := by
    intro texts
    induction texts with
    | nil => rfl
    | cons text texts ih =>
      rw [List.map_cons, entry_eq, List.lookup_cons, List.find?_cons]
      by_cases hname : source text = name
      · simp [hname]
      · rw [beq_false_of_ne hname, beq_false_of_ne (Ne.symm hname)]
        exact ih
  rw [parse, Table.ofEntries, Table.find?_insertAll, ← List.map_reverse, hlookup]
  exact Option.or_none

theorem keys_parse (texts : List String) : (parse texts).keys = (texts.map source).eraseDups := by
  have hsources : (texts.map entry).map Prod.fst = texts.map source := by
    rw [List.map_map]
    exact List.map_congr_left fun text _ => congrArg Prod.fst (entry_eq text)
  rw [parse, Table.keys_ofEntries, hsources]

/-- A table that is written out is read back. -/
theorem parse_write {t : Renames} (hkeys : t.keys.Nodup) (h : ∀ key ∈ t.keys, ':' ∉ key.toList) :
    parse (t.map write) = t := by
  have hentries : (t.map write).map entry = t := by
    rw [List.map_map]
    refine (List.map_congr_left fun e he => ?_).trans (List.map_id t)
    exact entry_write (h e.1 (List.mem_map_of_mem he))
  rw [parse, hentries, Table.ofEntries_eq_self hkeys]

/-- Renames are a table in which the last text wins and names stay where they were first.  All
tables are made in this way, but for colons in declared names. -/
theorem last_rename_wins (n : Naming) (texts : List String) :
    (∀ name, n.recordName (parse texts) name =
      ((texts.reverse.find? fun text => source text == name).map target).getD (n.typeName name)) ∧
    (parse texts).keys = (texts.map source).eraseDups ∧ (parse texts).keys.Nodup ∧
    ∀ t : Renames, t.keys.Nodup → (∀ key ∈ t.keys, ':' ∉ key.toList) →
      parse (t.map write) = t := by
  refine ⟨fun name => ?_, keys_parse texts, ?_, fun t => parse_write⟩
  · rw [Naming.recordName, find?_parse]
  · exact Table.nodup_keys_insertAll (t := []) List.nodup_nil _

/-- Texts with repeated names, colons in given names, empty names on either side and no colon. -/
def officeTexts : List String :=
  ["User:Person", ":Nobody", "Order", "User:Human:Being", "Order:", "", "Desk:"]

/-- A table with colons in given names and an empty name on either side. -/
def officeTable : Renames := [("User", "Human:Being"), ("", ":"), ("Desk", "")]

theorem office_last_rename_wins :
    Naming.standard.recordName (parse officeTexts) "User" = "Human:Being" ∧
      Naming.standard.recordName (parse officeTexts) "" = "" ∧
      Naming.standard.recordName (parse officeTexts) "Order" = "" ∧
      Naming.standard.recordName (parse officeTexts) "room_ID" = "RoomId" ∧
      (parse officeTexts).keys = ["User", "", "Order", "Desk"] ∧
      officeTable.map write = ["User:Human:Being", "::", "Desk:"] ∧
      parse (officeTable.map write) = officeTable := by
  obtain ⟨hnames, hkeys, -, hwrite⟩ := last_rename_wins .standard officeTexts
  exact ⟨(hnames "User").trans (by decide), (hnames "").trans (by decide),
    (hnames "Order").trans (by decide), (hnames "room_ID").trans (by decide),
    hkeys.trans (by decide), by decide, hwrite officeTable (by decide) (by decide)⟩

end ElmCodec.Renames
