import ElmCodec.Proofs.Naming
import Mathlib.Data.List.MinMax

/-!
# Leftmost and longest abbreviations

Respelling takes the first abbreviation of the policy that starts at a position.  If the policy
has the longest abbreviations first, this is the longest one that starts there: an earlier
abbreviation is at least as long, and of two that start at one position and have one length there
is only one (`IsLongestAt.unique`).  So respelling is the scan from left to right that takes the
longest abbreviation at each position and goes on after it (`respellLongest`), and the order of
abbreviations of one length does not matter.
-/

namespace ElmCodec.Naming

open Text

/-- The abbreviations of a policy are not empty, and the longest come first. -/
structure IsLongestFirst (n : Naming) : Prop where
  /-- No abbreviation is empty. -/
  nonempty : ∀ a ∈ n.abbreviations, a ≠ ""
  /-- No abbreviation is longer than an earlier one. -/
  sorted : n.abbreviations.Pairwise fun a b => b.length ≤ a.length

theorem standard_isLongestFirst : standard.IsLongestFirst where
  nonempty := by
    show ∀ a ∈ standard.abbreviations, a ≠ ""
    decide
  sorted := by
    show standard.abbreviations.Pairwise fun a b => b.length ≤ a.length
    decide

/-! ## The scan for the longest -/

/-- The longest abbreviation that the text starts with. -/
def longestAt? (abbreviations : List (List Char)) (text : List Char) : Option (List Char) :=
  (abbreviations.filter fun a => a.isPrefixOf text).argmax List.length

/-- The text with the longest abbreviation respelled wherever one starts.  Its first character
stays, the others become small, and the scan goes on after it. -/
def respellLongest (abbreviations : List (List Char)) : List Char → List Char
  | [] => []
  | c :: rest =>
    match longestAt? abbreviations (c :: rest) with
    | some (first :: more) =>
      first :: lower more ++ respellLongest abbreviations (rest.drop more.length)
    | _ => c :: respellLongest abbreviations rest
termination_by text => text.length
decreasing_by
  · simp only [List.length_drop, List.length_cons]
    omega
  · exact Nat.lt_succ_self rest.length

variable {abbreviations others : List (List Char)} {text a b : List Char}

/-- An abbreviation starts the text, and no longer one does. -/
def IsLongestAt (abbreviations : List (List Char)) (text a : List Char) : Prop :=
  a ∈ abbreviations ∧ a <+: text ∧ ∀ b ∈ abbreviations, b <+: text → b.length ≤ a.length

theorem IsLongestAt.unique (ha : IsLongestAt abbreviations text a)
    (hb : IsLongestAt abbreviations text b) : a = b := by
  obtain ⟨hamem, haprefix, halongest⟩ := ha
  obtain ⟨hbmem, hbprefix, hblongest⟩ := hb
  have hlength : a.length = b.length :=
    Nat.le_antisymm (hblongest a hamem haprefix) (halongest b hbmem hbprefix)
  rw [List.prefix_iff_eq_take.mp haprefix, List.prefix_iff_eq_take.mp hbprefix, hlength]

/-- Which abbreviation is the longest depends on which ones there are, and not on their order. -/
theorem IsLongestAt.congr (hmem : ∀ a, a ∈ others ↔ a ∈ abbreviations) :
    IsLongestAt others text a ↔ IsLongestAt abbreviations text a := by
  simp only [IsLongestAt, hmem]

theorem longestAt?_eq_some_iff :
    longestAt? abbreviations text = some a ↔ IsLongestAt abbreviations text a := by
  have hmem : ∀ b, (b ∈ abbreviations.filter fun b => b.isPrefixOf text) ↔
      b ∈ abbreviations ∧ b <+: text := by
    simp [List.mem_filter, List.isPrefixOf_iff_prefix]
  have hlongest : ∀ b, longestAt? abbreviations text = some b →
      IsLongestAt abbreviations text b := by
    intro b hb
    obtain ⟨hbmem, hbprefix⟩ := (hmem b).mp (List.argmax_mem hb)
    refine ⟨hbmem, hbprefix, fun e he heprefix => ?_⟩
    exact List.le_of_mem_argmax ((hmem e).mpr ⟨he, heprefix⟩) hb
  refine ⟨hlongest a, fun ha => ?_⟩
  cases hb : longestAt? abbreviations text with
  | none =>
    have hnone : (abbreviations.filter fun b => b.isPrefixOf text) = [] := List.argmax_eq_none.mp hb
    have hin := (hmem a).mpr ⟨ha.1, ha.2.1⟩
    rw [hnone] at hin
    cases hin
  | some b => rw [(hlongest b hb).unique ha]

/-! ## The first is the longest -/

section Sorted

variable (hnonempty : ∀ a ∈ abbreviations, a ≠ [])
  (hsorted : abbreviations.Pairwise fun a b => b.length ≤ a.length)

include hnonempty hsorted

theorem isLongestAt_of_abbreviationAt (h : abbreviationAt abbreviations text = some a) :
    IsLongestAt abbreviations text a := by
  obtain ⟨hmem, -, hprefix⟩ := abbreviationAt_eq_some h
  refine ⟨hmem, hprefix, fun b hb hbprefix => ?_⟩
  -- The abbreviations before the first that matches do not match, and those after it are no longer.
  obtain ⟨-, before, after, rfl, hbefore⟩ := List.find?_eq_some_iff_append.mp h
  rcases List.mem_append.mp hb with hin | hin
  · have hmatch : b.isPrefixOf text = true := List.isPrefixOf_iff_prefix.mpr hbprefix
    exact absurd (hbefore b hin) (by simp [hnonempty b hb, hmatch])
  · rcases List.mem_cons.mp hin with rfl | hin
    · exact Nat.le_refl _
    · exact List.rel_of_pairwise_cons (List.pairwise_append.mp hsorted).2.1 hin

theorem abbreviationAt_eq_some_iff :
    abbreviationAt abbreviations text = some a ↔ IsLongestAt abbreviations text a := by
  refine ⟨isLongestAt_of_abbreviationAt hnonempty hsorted, fun ha => ?_⟩
  cases hb : abbreviationAt abbreviations text with
  | none => exact absurd ha.2.1 (abbreviationAt_eq_none_iff.mp hb a ha.1 (hnonempty a ha.1))
  | some b => rw [(isLongestAt_of_abbreviationAt hnonempty hsorted hb).unique ha]

theorem abbreviationAt_eq_longestAt? :
    abbreviationAt abbreviations text = longestAt? abbreviations text := by
  ext a
  rw [abbreviationAt_eq_some_iff hnonempty hsorted, longestAt?_eq_some_iff]

/-- What is skipped by counting is what the scan goes on after. -/
theorem respellFrom_eq_respellLongest (skip : Nat) :
    respellFrom abbreviations skip text = respellLongest abbreviations (text.drop skip) := by
  induction text generalizing skip with
  | nil => rw [List.drop_nil, respellLongest, respellFrom]
  | cons c rest ih =>
    cases skip with
    | succ skip => exact ih skip
    | zero =>
      rw [List.drop_zero, respellFrom, respellLongest,
        ← abbreviationAt_eq_longestAt? hnonempty hsorted]
      cases habbr : abbreviationAt abbreviations (c :: rest) with
      | none => exact congrArg (c :: ·) (ih 0)
      | some a =>
        obtain ⟨-, hne, hprefix⟩ := abbreviationAt_eq_some habbr
        cases a with
        | nil => exact absurd rfl hne
        | cons first more =>
          obtain ⟨rfl, -⟩ := List.cons_prefix_cons.mp hprefix
          exact congrArg (first :: lower more ++ ·) (ih more.length)

end Sorted

/-! ## Policies with the longest first -/

variable {n m : Naming}

theorem IsLongestFirst.nonempty_toList (h : n.IsLongestFirst) :
    ∀ a ∈ n.abbreviations.map String.toList, a ≠ [] := by
  simpa using h.nonempty

theorem IsLongestFirst.sorted_toList (h : n.IsLongestFirst) :
    (n.abbreviations.map String.toList).Pairwise fun a b => b.length ≤ a.length := by
  simpa only [List.pairwise_map, String.length_toList] using h.sorted

/-- The lengths in order say whether the longest come first. -/
theorem IsLongestFirst.of_perm (h : n.IsLongestFirst)
    (hperm : m.abbreviations.Perm n.abbreviations)
    (hlengths : m.abbreviations.map String.length = n.abbreviations.map String.length) :
    m.IsLongestFirst where
  nonempty a ha := h.nonempty a (hperm.mem_iff.mp ha)
  sorted := by
    have hsorted : (n.abbreviations.map String.length).Pairwise fun a b => b ≤ a :=
      List.pairwise_map.mpr h.sorted
    rw [← hlengths] at hsorted
    exact List.pairwise_map.mp hsorted

theorem IsLongestFirst.respell_eq (h : n.IsLongestFirst) (text : List Char) :
    respell (n.abbreviations.map String.toList) text =
      respellLongest (n.abbreviations.map String.toList) text :=
  respellFrom_eq_respellLongest h.nonempty_toList h.sorted_toList 0

theorem longestAt?_congr (hmem : ∀ a, a ∈ others ↔ a ∈ abbreviations) :
    longestAt? others = longestAt? abbreviations := by
  funext text
  ext a
  rw [longestAt?_eq_some_iff, longestAt?_eq_some_iff, IsLongestAt.congr hmem]

theorem respellLongest_congr (hmem : ∀ a, a ∈ others ↔ a ∈ abbreviations) (text : List Char) :
    respellLongest others text = respellLongest abbreviations text := by
  fun_induction respellLongest abbreviations text with
  | case1 => rw [respellLongest]
  | case2 c rest first more hlongest ih =>
    rw [respellLongest, longestAt?_congr hmem, hlongest]
    exact congrArg (first :: lower more ++ ·) ih
  | case3 c rest hlongest ih =>
    rw [respellLongest, longestAt?_congr hmem]
    split
    next first more hsome => exact absurd hsome (hlongest first more)
    next => exact congrArg (c :: ·) ih

/-- Where the longest abbreviations come first, respelling goes from left to right and takes the
longest abbreviation at each position.  An order of the same abbreviations with the same lengths
in order makes the same names. -/
theorem respelling_is_leftmost_longest (h : n.IsLongestFirst) :
    (∀ text, respell (n.abbreviations.map String.toList) text =
      respellLongest (n.abbreviations.map String.toList) text) ∧
    ∀ m : Naming, m.abbreviations.Perm n.abbreviations →
      m.abbreviations.map String.length = n.abbreviations.map String.length →
      (∀ text, respell (m.abbreviations.map String.toList) text =
        respell (n.abbreviations.map String.toList) text) ∧
      m.valueName = n.valueName ∧ m.typeName = n.typeName := by
  refine ⟨h.respell_eq, fun m hperm hlengths => ?_⟩
  have hrespell : ∀ text, respell (m.abbreviations.map String.toList) text =
      respell (n.abbreviations.map String.toList) text := by
    intro text
    rw [(h.of_perm hperm hlengths).respell_eq, h.respell_eq]
    exact respellLongest_congr (fun a => (hperm.map String.toList).mem_iff) text
  have hword : m.word = n.word := funext fun name => hrespell (joined name)
  refine ⟨hrespell, ?_, ?_⟩
  · funext name
    rw [valueName, hword, valueName]
  · funext name
    rw [typeName, hword, typeName]

/-- A policy in which abbreviations start with each other, overlap and share their lengths. -/
def queries : Naming where
  abbreviations := ["HTTPS", "HTTP", "SSQL", "TPS", "SQL", "QL"]

/-- The longest abbreviation at the start takes the letter with which `SQL` would start, and then
`QL` is left.  Two pairs of abbreviations of one length change places. -/
theorem queries_respelled :
    queries.IsLongestFirst ∧
      respellLongest (queries.abbreviations.map String.toList) "HTTPSQLHTTPSSQL".toList =
        "HttpsQlHttpsSql".toList ∧
      Naming.valueName ⟨["HTTPS", "SSQL", "HTTP", "SQL", "TPS", "QL"]⟩ = queries.valueName ∧
      respellLongest (standard.abbreviations.map String.toList) "SMTPMS".toList =
        "SmtpMs".toList := by
  have hfirst : queries.IsLongestFirst := ⟨by decide, by decide⟩
  obtain ⟨hlongest, hreordered⟩ := respelling_is_leftmost_longest hfirst
  refine ⟨hfirst, ?_, ?_, ?_⟩
  · rw [← hlongest]
    decide
  · exact (hreordered ⟨["HTTPS", "SSQL", "HTTP", "SQL", "TPS", "QL"]⟩ (by decide) (by decide)).2.1
  · rw [← (respelling_is_leftmost_longest standard_isLongestFirst).1]
    decide

end ElmCodec.Naming
