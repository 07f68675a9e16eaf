import ElmCodec.Proofs.Abbreviation
import ElmCodec.Proofs.Cut
import ElmCodec.Proofs.FieldNames
import ElmCodec.Proofs.Loading
import Mathlib.Data.List.Chain
import Mathlib.Data.List.Nodup

/-!
# Conventional names

A conventional name is made of parts of small letters and digits, with single underscores between
them.  Each part but the first has two characters or more.

The capitals of a joined name are then the first letters of its later parts, and no two of them
stand side by side (`isChain_joined`).  So there is no abbreviation in capitals to respell, and the
parts can be separated again (`separated_valueName`).  Conventional names are told apart by
their value names for this reason.

A part of one letter would break this: `x_m_l` becomes `xML`, as `xML` itself does.
-/

namespace ElmCodec

open Source (Program ClassId FieldDecl)

namespace Naming

open Text

/-- Whether a text is a small letter with small letters and digits after it. -/
def isPart : List Char → Bool
  | [] => false
  | c :: cs => c.isLower && cs.all fun d => d.isLower || d.isDigit

/-- A name of parts with single underscores between them, of which all but the first have two
characters or more. -/
def IsConventional (name : String) : Prop :=
  ∃ first later, name = joinWith "_" (first :: later) ∧ isPart first.toList = true ∧
    ∀ part ∈ later, isPart part.toList = true ∧ 2 ≤ part.length

/-- Whether a name is conventional, by its pieces. -/
def isConventional (name : String) : Bool :=
  match pieces '_' name.toList with
  | [] => false
  | first :: later => isPart first && later.all fun part => isPart part && 2 ≤ part.length

/-- A text with an underscore and a small letter for each capital. -/
def separated (cs : List Char) : List Char :=
  cs.flatMap fun c => if c.isUpper then ['_', c.toLower] else [c]

/-! ## Parts -/

variable {cs : List Char} {c : Char}

theorem exists_of_isPart (h : isPart cs = true) :
    ∃ c ds, cs = c :: ds ∧ c.isLower = true ∧ ∀ d ∈ ds, d.isLower = true ∨ d.isDigit = true := by
  cases cs with
  | nil => cases h
  | cons c ds =>
    simp only [isPart, Bool.and_eq_true, List.all_eq_true, Bool.or_eq_true] at h
    exact ⟨c, ds, rfl, h.1, h.2⟩

theorem isLower_or_isDigit (h : isPart cs = true) :
    ∀ d ∈ cs, d.isLower = true ∨ d.isDigit = true := by
  obtain ⟨c, ds, rfl, hc, hds⟩ := exists_of_isPart h
  simp only [List.forall_mem_cons]
  exact ⟨Or.inl hc, hds⟩

theorem isAscii_of_isPart (h : isPart cs = true) : IsAscii cs := by
  intro d hd
  exact lt_of_isAlphanum (isAlphanum_iff.mpr (Or.inr (isLower_or_isDigit h d hd)))

theorem not_isUpper_of_isPart (h : isPart cs = true) : ∀ d ∈ cs, ¬ d.isUpper = true := by
  intro d hd
  exact forall_ascii (P := fun d => d.isLower = true ∨ d.isDigit = true → ¬ d.isUpper = true)
    (by decide) (isAscii_of_isPart h d hd) (isLower_or_isDigit h d hd)

theorem bar_not_mem_of_isPart (h : isPart cs = true) : '_' ∉ cs := by
  intro hmem
  have hbar := isLower_or_isDigit h '_' hmem
  exact absurd hbar (by decide)

/-- A part with a capital at its start. -/
theorem exists_upperHead_of_isPart (h : isPart cs = true) :
    ∃ c ds, cs = c :: ds ∧ upperHead cs = c.toUpper :: ds ∧ c.toUpper.isUpper = true ∧
      c.toUpper.toLower = c := by
  have hascii := isAscii_of_isPart h
  obtain ⟨c, ds, rfl, hc, -⟩ := exists_of_isPart h
  have hletter : c.toUpper.isUpper = true ∧ c.toUpper.toLower = c :=
    forall_ascii (P := fun c => c.isLower = true → c.toUpper.isUpper = true ∧ c.toUpper.toLower = c)
      (by decide) (isAscii_cons.mp hascii).1 hc
  refine ⟨c, ds, rfl, ?_, hletter⟩
  rw [upperHead, upperChar_ascii (isAscii_cons.mp hascii).1]
  rfl

/-! ## Separating parts -/

theorem separated_append (cs ds : List Char) :
    separated (cs ++ ds) = separated cs ++ separated ds :=
  List.flatMap_append

theorem separated_eq_self (h : ∀ c ∈ cs, ¬ c.isUpper = true) : separated cs = cs := by
  induction cs with
  | nil => rfl
  | cons c cs ih =>
    obtain ⟨hc, hcs⟩ := List.forall_mem_cons.mp h
    show (if c.isUpper then ['_', c.toLower] else [c]) ++ separated cs = c :: cs
    rw [if_neg hc, ih hcs]
    rfl

theorem separated_upperHead (h : isPart cs = true) : separated (upperHead cs) = '_' :: cs := by
  have hsmall := not_isUpper_of_isPart h
  obtain ⟨c, ds, rfl, hupper, hc, hback⟩ := exists_upperHead_of_isPart h
  have hds : separated ds = ds := separated_eq_self (List.forall_mem_cons.mp hsmall).2
  rw [hupper]
  show (if c.toUpper.isUpper then ['_', c.toUpper.toLower] else [c.toUpper]) ++ separated ds = _
  rw [if_pos hc, hback, hds]
  rfl

theorem separated_flatMap_upperHead {later : List String}
    (h : ∀ part ∈ later, isPart part.toList = true) :
    separated (later.flatMap fun part => upperHead part.toList) =
      later.flatMap fun part => '_' :: part.toList := by
  induction later with
  | nil => rfl
  | cons part later ih =>
    obtain ⟨hpart, hlater⟩ := List.forall_mem_cons.mp h
    rw [List.flatMap_cons, separated_append, separated_upperHead hpart, ih hlater,
      List.flatMap_cons]

/-! ## Capitals of joined names -/

/-- Two characters are not both capitals. -/
def Apart (c d : Char) : Prop := ¬ (c.isUpper = true ∧ d.isUpper = true)

theorem not_infix_of_isChain {a : List Char} (ha : isCapitals a = true) (h : cs.IsChain Apart) :
    ¬ a <:+: cs := by
  intro hin
  obtain ⟨c, d, rest, rfl, hc, hd, -⟩ := exists_of_isCapitals ha
  have hchain := List.IsChain.infix h hin
  exact (List.isChain_cons.mp hchain).1 d rfl ⟨hc, hd⟩

theorem isChain_append {before after : List Char} (hbefore : ∀ c ∈ before, ¬ c.isUpper = true)
    (hafter : after.IsChain Apart) : (before ++ after).IsChain Apart := by
  induction before with
  | nil => exact hafter
  | cons c before ih =>
    obtain ⟨hc, hbefore⟩ := List.forall_mem_cons.mp hbefore
    exact List.isChain_cons.mpr ⟨fun d _ hboth => hc hboth.1, ih hbefore⟩

/-- In parts of two characters or more, capitals at the start stand alone. -/
theorem isChain_flatMap_upperHead {later : List String}
    (h : ∀ part ∈ later, isPart part.toList = true ∧ 2 ≤ part.length) :
    (later.flatMap fun part => upperHead part.toList).IsChain Apart := by
  induction later with
  | nil => exact .nil
  | cons part later ih =>
    obtain ⟨⟨hpart, hlength⟩, hlater⟩ := List.forall_mem_cons.mp h
    have hsmall := not_isUpper_of_isPart hpart
    obtain ⟨c, ds, hletters, hupper, -⟩ := exists_upperHead_of_isPart hpart
    rw [← String.length_toList, hletters] at hlength
    rw [hletters] at hsmall
    obtain ⟨-, hds⟩ := List.forall_mem_cons.mp hsmall
    rw [List.flatMap_cons, hupper]
    refine List.isChain_cons.mpr ⟨fun d hd hboth => ?_, isChain_append hds (ih hlater)⟩
    cases ds with
    | nil => simp at hlength
    | cons e ds =>
      have hd : e = d := Option.some.inj hd
      exact hds d (hd ▸ List.mem_cons_self) hboth.2

/-! ## Conventional names -/

section Conventional

variable {n : Naming} {first : String} {later : List String} (hfirst : isPart first.toList = true)
  (hlater : ∀ part ∈ later, isPart part.toList = true ∧ 2 ≤ part.length)

include hfirst hlater

theorem isPart_of_mem : ∀ part ∈ first :: later, isPart part.toList = true :=
  List.forall_mem_cons.mpr ⟨hfirst, fun part hpart => (hlater part hpart).1⟩

theorem pieces_joinWith_parts : pieces '_' (joinWith "_" (first :: later)).toList =
    first.toList :: later.map String.toList :=
  pieces_joinWith rfl (List.cons_ne_nil _ _) fun part hpart =>
    bar_not_mem_of_isPart (isPart_of_mem hfirst hlater part hpart)

theorem joined_joinWith : joined (joinWith "_" (first :: later)).toList =
    first.toList ++ later.flatMap fun part => upperHead part.toList := by
  have hfilter : ((first :: later).map String.toList).filter (fun part => !part.isEmpty) =
      (first :: later).map String.toList := by
    refine List.filter_eq_self.mpr fun part hpart => ?_
    obtain ⟨text, htext, rfl⟩ := List.mem_map.mp hpart
    obtain ⟨c, ds, hletters, -⟩ := exists_of_isPart (isPart_of_mem hfirst hlater text htext)
    simp [hletters]
  rw [joined, pieces_joinWith_parts hfirst hlater, ← List.map_cons, hfilter, List.map_cons,
    joinParts, List.flatMap_map]

theorem isChain_joined : (joined (joinWith "_" (first :: later)).toList).IsChain Apart := by
  rw [joined_joinWith hfirst hlater]
  exact isChain_append (not_isUpper_of_isPart hfirst) (isChain_flatMap_upperHead hlater)

/-- A conventional name is joined and otherwise kept. -/
theorem toList_valueName_joinWith (hn : n.InCapitals) :
    (n.valueName (joinWith "_" (first :: later))).toList =
      joined (joinWith "_" (first :: later)).toList := by
  have hword : n.word (joinWith "_" (first :: later)).toList =
      joined (joinWith "_" (first :: later)).toList :=
    respell_eq_self fun a ha _ =>
      not_infix_of_isChain (hn.map_toList a ha) (isChain_joined hfirst hlater)
  rw [toList_valueName, hword, joined_joinWith hfirst hlater]
  have hascii := isAscii_of_isPart hfirst
  have hsmall := not_isUpper_of_isPart hfirst
  obtain ⟨c, ds, hletters, -⟩ := exists_of_isPart hfirst
  rw [hletters] at hascii hsmall ⊢
  have hc := (isAscii_cons.mp hascii).1
  show lowerChar c ++ _ = c :: _
  rw [lowerChar_ascii hc, toLower_eq_self hc (hsmall c List.mem_cons_self)]
  rfl

end Conventional

theorem isConventional_iff {name : String} :
    isConventional name = true ↔ IsConventional name := by
  constructor
  · intro h
    rw [isConventional] at h
    split at h
    next => cases h
    next first later hpieces =>
      simp only [Bool.and_eq_true, List.all_eq_true, decide_eq_true_eq] at h
      refine ⟨String.ofList first, later.map String.ofList, ?_, by simpa using h.1, ?_⟩
      · refine String.toList_inj.mp ?_
        rw [toList_joinWith_cons (show "_".toList = ['_'] from rfl), eq_of_pieces hpieces,
          List.flatMap_map]
        simp
      · intro part hpart
        obtain ⟨letters, hletters, rfl⟩ := List.mem_map.mp hpart
        simpa using h.2 letters hletters
  · rintro ⟨first, later, rfl, hfirst, hlater⟩
    rw [isConventional, pieces_joinWith_parts hfirst hlater]
    simpa [hfirst, String.length_toList] using hlater

instance : DecidablePred IsConventional :=
  fun name => decidable_of_iff (isConventional name = true) isConventional_iff

/-- The parts of a conventional name can be read off its value name. -/
theorem separated_valueName {n : Naming} {name : String} (hn : n.InCapitals)
    (h : IsConventional name) : separated (n.valueName name).toList = name.toList := by
  obtain ⟨first, later, rfl, hfirst, hlater⟩ := h
  rw [toList_valueName_joinWith hfirst hlater hn, joined_joinWith hfirst hlater, separated_append,
    separated_eq_self (not_isUpper_of_isPart hfirst),
    separated_flatMap_upperHead fun part hpart => (hlater part hpart).1,
    toList_joinWith_cons (show "_".toList = ['_'] from rfl)]

theorem eq_of_valueName_eq {n : Naming} {a b : String} (hn : n.InCapitals) (ha : IsConventional a)
    (hb : IsConventional b) (h : n.valueName a = n.valueName b) : a = b := by
  refine String.toList_inj.mp ?_
  rw [← separated_valueName hn ha, h, separated_valueName hn hb]

end Naming

/-! ## Fields with conventional names -/

open Naming (IsConventional standard)

/-- Conventional names have different value names.  In a program that loads made, fields that are
built for declarations with such names have different names, in every session. -/
theorem Source.Program.conventional_names_stay_apart :
    (∀ a b, IsConventional a → IsConventional b → a ≠ b →
      standard.valueName a ≠ standard.valueName b) ∧
    ∀ (p : Program) (renames : Renames) (id : ClassId) (s s' : Session) (fields : List Elm.Field),
      p.IsLoaded →
      (∀ decls, p.fields? id = some decls → ∀ f ∈ decls, isExported f.name = true →
        IsConventional f.name) →
      (p.buildFields ⟨standard, renames⟩ (p.convertRecord ⟨standard, renames⟩) id).run s =
        (.ok fields, s') →
      (fields.map Elm.Field.name).Nodup := by
  have hn := Naming.standard_inCapitals
  refine ⟨fun a b ha hb hne heq => hne (Naming.eq_of_valueName_eq hn ha hb heq), ?_⟩
  intro p renames id s s' fields hloaded hnames hbuild
  obtain ⟨decls, hdecls, hfields⟩ := buildFields_names hbuild
  have hnodup : ((decls.filter fun f => isExported f.name).map FieldDecl.name).Nodup :=
    (hloaded.isCoherent.hierarchy.nodup_fields hdecls).sublist
      (List.filter_sublist.map FieldDecl.name)
  have hmade : fields.map Elm.Field.name =
      ((decls.filter fun f => isExported f.name).map FieldDecl.name).map standard.valueName := by
    rw [List.map_map]
    exact forall₂_map_eq hfields fun f field hname => hname
  have hconventional : ∀ name ∈ (decls.filter fun f => isExported f.name).map FieldDecl.name,
      IsConventional name := by
    intro name hname
    obtain ⟨f, hf, rfl⟩ := List.mem_map.mp hname
    obtain ⟨hmem, hexported⟩ := List.mem_filter.mp hf
    exact hnames decls hdecls f hmem hexported
  rw [hmade]
  refine hnodup.map_on fun a ha b hb heq => ?_
  exact Naming.eq_of_valueName_eq hn (hconventional a ha) (hconventional b hb) heq

/-- An item with a private field, and an order that declares one of its fields again. -/
def orderLoads : List Load :=
  [.definitions "shop"
    [⟨"Item", .declare
        { isRecord := true, name := "Item"
          fields := [⟨"item_id", .object (.cls (.builtin .int)), none⟩,
            ⟨"itemid", .object (.cls (.builtin .int)), none⟩,
            ⟨"_cache_ID", .object (.cls (.builtin .str)), none⟩] }⟩,
      ⟨"Order", .declare
        { isRecord := true, name := "Order", bases := ["Item"]
          fields := [⟨"html_url", .object (.cls (.builtin .str)), none⟩,
            ⟨"item_id", .object (.cls (.builtin .str)), none⟩,
            ⟨"htmlurl", .object (.cls (.builtin .str)), none⟩,
            ⟨"line2_ms", .object (.cls (.builtin .int)), none⟩] }⟩]]

theorem orderLoads_byName : ∀ load ∈ orderLoads, load.ByName := by
  simp [orderLoads, Load.ByName, Source.Statement.ByName, Source.TypeExpr.ByName,
    Source.Annot.Within, Source.ClassRef.Within]

/-- The private field keeps its unconventional name out of the record. -/
theorem Source.Program.order_names_stay_apart :
    ∃ p fields s', (Workspace.after [] orderLoads).program = p ∧
      (p.fields? 1).map (List.map FieldDecl.name) =
        some ["item_id", "itemid", "_cache_ID", "html_url", "htmlurl", "line2_ms"] ∧
      (p.buildFields {} (p.convertRecord {}) 1).run {} = (.ok fields, s') ∧
      fields.map Elm.Field.name = ["itemId", "itemid", "htmlUrl", "htmlurl", "line2Ms"] ∧
      (fields.map Elm.Field.name).Nodup ∧
      standard.valueName "item_id" ≠ standard.valueName "itemid" := by
  have hdecls : ((Workspace.after [] orderLoads).program.fields? 1).map (List.map FieldDecl.name) =
      some ["item_id", "itemid", "_cache_ID", "html_url", "htmlurl", "line2_ms"] := by
    decide +kernel
  have hmade : (((Workspace.after [] orderLoads).program.buildFields {}
      ((Workspace.after [] orderLoads).program.convertRecord {}) 1).run {}).1.toOption.map
        (List.map Elm.Field.name) =
      some ["itemId", "itemid", "htmlUrl", "htmlurl", "line2Ms"] := by
    decide +kernel
  have hall : ∀ name ∈ ["item_id", "itemid", "_cache_ID", "html_url", "htmlurl", "line2_ms"],
      isExported name = true → IsConventional name := by decide
  obtain ⟨hnames, hnodup⟩ := conventional_names_stay_apart
  have hloaded : (Workspace.after [] orderLoads).program.IsLoaded :=
    ⟨[], orderLoads, orderLoads_byName, rfl⟩
  generalize hp : (Workspace.after [] orderLoads).program = p at hdecls hmade hloaded
  rcases hrun : (p.buildFields {} (p.convertRecord {}) 1).run {} with ⟨e | fields, s'⟩
  · rw [hrun] at hmade
    cases hmade
  · rw [hrun] at hmade
    refine ⟨p, fields, s', rfl, hdecls, hrun, Option.some.inj hmade, ?_, ?_⟩
    · refine hnodup p [] 1 {} s' fields hloaded (fun decls hfields f hf => ?_) hrun
      rw [hfields] at hdecls
      exact hall f.name (Option.some.inj hdecls ▸ List.mem_map_of_mem hf)
    · exact hnames "item_id" "itemid" (by decide) (by decide) (by decide)

end ElmCodec
