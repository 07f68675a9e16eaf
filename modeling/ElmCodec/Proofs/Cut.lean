import ElmCodec.Text.Cut
import Mathlib.Data.List.Basic

/-!
# Cut texts

What it means to cut a text.  The first part has no separator, and the parts with the separator
between them are the text again (`cut_spec`).  This leaves one way to cut a text, so that a text
put together from two parts is cut into them (`cut_append_cons`).

The pieces of a text are those of a list that is split (`pieces_eq_splitOn`).  So texts without
separators are the pieces of what they are joined to (`pieces_joinWith`).
-/

namespace ElmCodec.Text

variable {sep : Char} {cs head tail : List Char}

/-- A text is cut at its first separator if it has one. -/
theorem cut_spec (sep : Char) (cs : List Char) :
    sep ∉ (cut sep cs).1 ∧
      ((cut sep cs).2 = none ∧ cs = (cut sep cs).1 ∨
        ∃ rest, (cut sep cs).2 = some rest ∧ cs = (cut sep cs).1 ++ sep :: rest) := by
  induction cs with
  | nil => simp [cut]
  | cons c cs ih =>
    by_cases hc : c = sep
    · simp [cut, hc]
    · obtain ⟨hhead, hcases⟩ := ih
      have hcut : cut sep (c :: cs) = (c :: (cut sep cs).1, (cut sep cs).2) := by
        simp [cut, hc]
      rw [hcut]
      refine ⟨?_, ?_⟩
      · simpa [Ne.symm hc] using hhead
      · rcases hcases with ⟨hnone, hcs⟩ | ⟨rest, hsome, hcs⟩
        · exact Or.inl ⟨hnone, congrArg (c :: ·) hcs⟩
        · exact Or.inr ⟨rest, hsome, congrArg (c :: ·) hcs⟩

theorem cut_of_not_mem (h : sep ∉ cs) : cut sep cs = (cs, none) := by
  obtain ⟨-, ⟨hnone, hcs⟩ | ⟨rest, -, hcs⟩⟩ := cut_spec sep cs
  · exact Prod.ext hcs.symm hnone
  · rw [hcs] at h
    simp at h

theorem cut_append_cons (h : sep ∉ head) : cut sep (head ++ sep :: tail) = (head, some tail) := by
  induction head with
  | nil => simp [cut]
  | cons c head ih =>
    obtain ⟨hc, hhead⟩ : sep ≠ c ∧ sep ∉ head := by simpa using h
    simp [cut, Ne.symm hc, ih hhead]

theorem cut_eq (sep : Char) (cs : List Char) :
    cut sep cs = (cs.takeWhile (· != sep), (cs.dropWhile (· != sep)).tail?) := by
  induction cs with
  | nil => rfl
  | cons c cs ih =>
    by_cases hc : c = sep
    · simp [cut, hc]
    · simp [cut, hc, ih]

theorem pieces_eq_splitOn (sep : Char) (cs : List Char) : pieces sep cs = cs.splitOn sep := by
  rw [List.splitOn_eq_splitOnP]
  induction cs with
  | nil => simp [pieces]
  | cons c cs ih =>
    rw [List.splitOnP_cons_eq_if_modifyHead, pieces, ih]
    split
    · rfl
    · cases hsplit : cs.splitOnP (· == sep) with
      | nil => exact absurd hsplit (List.splitOnP_ne_nil _ cs)
      | cons first others => rfl

theorem eq_of_pieces {first : List Char} {later : List (List Char)}
    (h : pieces sep cs = first :: later) : cs = first ++ later.flatMap (sep :: ·) := by
  induction cs generalizing first later with
  | nil =>
    cases h
    rfl
  | cons c cs ih =>
    obtain ⟨part, parts, hparts⟩ : ∃ part parts, pieces sep cs = part :: parts :=
      List.exists_cons_of_ne_nil (by simp [pieces_eq_splitOn])
    have hcs := ih hparts
    by_cases hc : c = sep
    · simp only [pieces, hc, beq_self_eq_true, if_true, hparts, List.cons.injEq] at h
      obtain ⟨rfl, rfl⟩ := h
      simp [hc, ← hcs]
    · simp only [pieces, beq_iff_eq, hc, if_false, hparts, List.cons.injEq] at h
      obtain ⟨rfl, rfl⟩ := h
      simp [← hcs]

theorem toList_joinWith_cons {word : String} (hword : word.toList = [sep]) (first : String)
    (later : List String) : (joinWith word (first :: later)).toList =
      first.toList ++ later.flatMap fun part => sep :: part.toList := by
  induction later generalizing first with
  | nil => simp [joinWith]
  | cons part later ih =>
    have hcons : joinWith word (first :: part :: later) =
        first ++ word ++ joinWith word (part :: later) := by
      simp [joinWith, String.append_assoc]
    rw [hcons, String.toList_append, ih]
    simp [hword]

/-- Texts without separators are the pieces of what they are joined to. -/
theorem pieces_joinWith {word : String} (hword : word.toList = [sep]) {parts : List String}
    (hne : parts ≠ []) (h : ∀ part ∈ parts, sep ∉ part.toList) :
    pieces sep (joinWith word parts).toList = parts.map String.toList := by
  rw [pieces_eq_splitOn, joinWith, String.toList_intercalate, hword]
  refine List.splitOn_intercalate sep ?_ (mt List.map_eq_nil_iff.mp hne)
  intro part hpart
  obtain ⟨s, hs, rfl⟩ := List.mem_map.mp hpart
  exact h s hs

end ElmCodec.Text
