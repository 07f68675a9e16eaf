import ElmCodec.Table
import Mathlib.Data.List.Basic
import Mathlib.Data.List.Induction

/-!
# Entries of tables

What a table holds after an entry came in.  A new entry is found under its key, and all
other keys keep what they had.  The keys of a table are those under which something is
found.  A key that comes in again stays where it is.

So a table of entries has the last entry of each key (`find?_insertAll`), and its keys in the order
in which they came in first (`keys_ofEntries`).
-/

namespace ElmCodec.Table

variable {α β : Type} [BEq α]

theorem find?_cons (entry : α × β) (t : Table α β) (key : α) :
    find? (entry :: t) key = if key == entry.1 then some entry.2 else t.find? key := by
  rw [find?, List.lookup_cons]
  cases key == entry.1 <;> rfl

variable [LawfulBEq α] {t : Table α β}

/-- A new entry is found under its key, and leaves the others as they are. -/
theorem find?_insert (t : Table α β) (key : α) (value : β) (other : α) :
    (t.insert key value).find? other = if other == key then some value else t.find? other := by
  induction t with
  | nil => exact find?_cons (key, value) [] other
  | cons entry t ih =>
    rw [insert]
    by_cases hkey : entry.1 = key
    · subst hkey
      rw [if_pos (by simp), find?_cons, find?_cons]
      split <;> rfl
    · rw [if_neg (by simpa using hkey), find?_cons, find?_cons, ih]
      by_cases hother : other = entry.1
      · simp [hother, hkey]
      · simp [hother]

/-- Nothing is found under a key that was taken out, and the others stay. -/
theorem find?_erase (t : Table α β) (key other : α) :
    (t.erase key).find? other = if other == key then none else t.find? other := by
  induction t with
  | nil => simp [erase, find?]
  | cons entry t ih =>
    rw [erase] at ih ⊢
    by_cases hkey : entry.1 = key
    · rw [List.filter_cons_of_neg (by simp [hkey]), ih, find?_cons]
      split
      next => rfl
      next hother => rw [if_neg (by rwa [hkey])]
    · rw [List.filter_cons_of_pos (by simpa using hkey), find?_cons, find?_cons, ih]
      by_cases hother : other = entry.1
      · simp [hother, hkey]
      · simp [hother]

theorem isSome_find?_iff {key : α} : (t.find? key).isSome = true ↔ key ∈ t.keys := by
  induction t with
  | nil => simp [find?, keys]
  | cons entry t ih =>
    rw [find?_cons]
    by_cases hkey : key = entry.1
    · simp [hkey, keys]
    · rw [if_neg (by simpa using hkey), ih]
      simp [hkey, keys]

theorem mem_keys_insert {key other : α} {value : β} :
    other ∈ (t.insert key value).keys ↔ other = key ∨ other ∈ t.keys := by
  rw [← isSome_find?_iff, ← isSome_find?_iff, find?_insert]
  by_cases h : other = key
  · simp [h]
  · simp [h]

theorem insert_of_not_mem {key : α} (h : key ∉ t.keys) (value : β) :
    t.insert key value = t ++ [(key, value)] := by
  induction t with
  | nil => rfl
  | cons entry t ih =>
    obtain ⟨hentry, ht⟩ : key ≠ entry.1 ∧ key ∉ keys t := by simpa [keys] using h
    simp [insert, Ne.symm hentry, ih ht]

theorem keys_insert_of_mem {key : α} (h : key ∈ t.keys) (value : β) :
    (t.insert key value).keys = t.keys := by
  induction t with
  | nil => simp [keys] at h
  | cons entry t ih =>
    by_cases hentry : entry.1 = key
    · simp [insert, hentry, keys]
    · have ht : key ∈ keys t := by simpa [keys, Ne.symm hentry] using h
      simpa [insert, hentry, keys] using ih ht

theorem nodup_keys_insert (h : t.keys.Nodup) (key : α) (value : β) :
    (t.insert key value).keys.Nodup := by
  by_cases hkey : key ∈ t.keys
  · rwa [keys_insert_of_mem hkey]
  · rw [insert_of_not_mem hkey, keys, List.map_append, List.nodup_append]
    refine ⟨h, by simp, fun other hother new hnew heq => ?_⟩
    simp only [List.map_cons, List.map_nil, List.mem_singleton] at hnew
    exact hkey (hnew ▸ heq ▸ hother)

theorem mem_of_find? {t : Table α β} {key : α} {value : β} (h : t.find? key = some value) :
    (key, value) ∈ t := by
  induction t with
  | nil => cases h
  | cons entry t ih =>
    rw [find?_cons] at h
    split at h
    next heq =>
      cases h
      rw [eq_of_beq heq]
      exact List.mem_cons_self
    next => exact List.mem_cons_of_mem entry (ih h)

theorem mem_insert {entry : α × β} {key : α} {value : β} (h : entry ∈ t.insert key value) :
    entry ∈ t ∨ entry = (key, value) := by
  induction t with
  | nil => exact Or.inr (List.mem_singleton.mp h)
  | cons first t ih =>
    rw [insert] at h
    split at h
    next heq =>
      rcases List.mem_cons.mp h with rfl | h
      · exact Or.inr (by rw [eq_of_beq heq])
      · exact Or.inl (List.mem_cons_of_mem first h)
    next =>
      rcases List.mem_cons.mp h with rfl | h
      · exact Or.inl List.mem_cons_self
      · exact (ih h).imp_left (List.mem_cons_of_mem first)

theorem mem_insertAll {entry : α × β} {entries : List (α × β)} (h : entry ∈ t.insertAll entries) :
    entry ∈ t ∨ entry ∈ entries := by
  induction entries generalizing t with
  | nil => exact Or.inl h
  | cons first entries ih =>
    rcases ih h with h | h
    · rcases mem_insert h with h | rfl
      · exact Or.inl h
      · exact Or.inr List.mem_cons_self
    · exact Or.inr (List.mem_cons_of_mem first h)

/-! ## Tables of entries -/

theorem nodup_keys_insertAll (h : t.keys.Nodup) (entries : List (α × β)) :
    (t.insertAll entries).keys.Nodup := by
  induction entries generalizing t with
  | nil => exact h
  | cons entry entries ih => exact ih (nodup_keys_insert h entry.1 entry.2)

/-- The last entry of a key is found. -/
theorem find?_insertAll (t : Table α β) (entries : List (α × β)) (key : α) :
    (t.insertAll entries).find? key = (List.lookup key entries.reverse).or (t.find? key) := by
  induction entries generalizing t with
  | nil => rfl
  | cons entry entries ih =>
    have hentry : List.lookup key [entry] = if key == entry.1 then some entry.2 else none :=
      find?_cons entry [] key
    rw [List.reverse_cons, List.lookup_append, Option.or_assoc, hentry]
    show (insertAll (t.insert entry.1 entry.2) entries).find? key = _
    rw [ih, find?_insert]
    split
    · rfl
    · rfl

/-- The keys stand in the order in which they came in first. -/
theorem keys_ofEntries (entries : List (α × β)) :
    (ofEntries entries).keys = (entries.map Prod.fst).eraseDups := by
  induction entries using List.reverseRecOn with
  | nil => rfl
  | append_singleton entries entry ih =>
    have hstep : ofEntries (entries ++ [entry]) =
        (ofEntries entries).insert entry.1 entry.2 := by
      simp [ofEntries, insertAll]
    rw [hstep, List.map_append, List.map_singleton, List.eraseDups_append, ← ih]
    by_cases hkey : entry.1 ∈ (ofEntries entries).keys
    · have hold : entry.1 ∈ entries.map Prod.fst := List.mem_eraseDups.mp (ih ▸ hkey)
      rw [keys_insert_of_mem hkey]
      simp [List.removeAll, hold]
    · have hnew : entry.1 ∉ entries.map Prod.fst := fun h => hkey (ih ▸ List.mem_eraseDups.mpr h)
      rw [insert_of_not_mem hkey]
      simp [List.removeAll, hnew, keys, List.eraseDups_cons]

/-- Entries with different keys are a table as they are. -/
theorem ofEntries_eq_self (h : t.keys.Nodup) : ofEntries t = t := by
  have hinsert : ∀ (before after : Table α β), (before ++ after).keys.Nodup →
      before.insertAll after = before ++ after := by
    intro before after
    induction after generalizing before with
    | nil => simp [insertAll]
    | cons entry after ih =>
      intro hnodup
      have hkey : entry.1 ∉ before.keys := by
        intro hmem
        rw [keys, List.map_append, List.nodup_append] at hnodup
        exact hnodup.2.2 _ hmem _ (by simp) rfl
      show insertAll (before.insert entry.1 entry.2) after = _
      rw [insert_of_not_mem hkey, ih _ (by simpa using hnodup), List.append_assoc]
      rfl
  exact hinsert [] t h

end ElmCodec.Table
