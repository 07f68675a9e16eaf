import ElmCodec.Proofs.Naming
import ElmCodec.Proofs.Typing
import ElmCodec.Proofs.Wire

/-!
# Names of fields

The fields of a record are named after the exported declarations of its class, one by one
(`buildFields_names`).  A declared name that is an ASCII identifier becomes a small letter with
letters and digits after it, under every naming policy.

The words that Elm keeps for itself have this form too, and nothing avoids them.  The standard
policy respells no part of such a word, and a name of several parts has a capital or a digit
inside.  So it makes a reserved word of the word itself, with a small or capital first letter
and underscores after it, and of no other name (`spellsReserved_of_mem`).
-/

namespace ElmCodec

open Source (Program ClassId FieldDecl)

/-! ## Legal names -/

namespace Elm

/-- Whether a name is an ASCII small letter with ASCII letters and digits after it. -/
def isFieldName (name : String) : Bool :=
  match name.toList with
  | [] => false
  | c :: cs => c.isLower && cs.all Char.isAlphanum

/-- The words that Elm keeps for itself. -/
def reservedWords : List String :=
  ["if", "then", "else", "case", "of", "let", "in", "type", "module", "where", "import", "exposing",
    "as", "port"]

/-- Whether a field of a record may have the name. -/
def isLegalFieldName (name : String) : Bool := isFieldName name && !reservedWords.contains name

/-- A name is a reserved word, with a small or capital first letter and any number of
underscores after it. -/
def SpellsReserved (name : String) : Prop :=
  ∃ start n, name.toList = start.toList ++ List.replicate n '_' ∧
    decapitalized start ∈ reservedWords

theorem toList_decapitalized {name : String} {c : Char} {cs : List Char}
    (h : name.toList = c :: cs) : (decapitalized name).toList = c.toLower :: cs := by
  rw [decapitalized, h]
  exact String.toList_ofList

theorem isLower_of_reserved {name : String} (h : name ∈ reservedWords) :
    ∀ c ∈ name.toList, c.isLower = true := by
  have hall : (reservedWords.all fun word => word.toList.all Char.isLower) = true := by decide
  exact List.all_eq_true.mp (List.all_eq_true.mp hall name h)

end Elm

/-- Whether a name is an identifier of ASCII characters. -/
def isIdentifier (name : String) : Bool :=
  match name.toList with
  | [] => false
  | c :: cs => (c.isAlpha || c == '_') && cs.all fun d => d.isAlphanum || d == '_'

/-! ## Names of values -/

namespace Naming

open Text Elm

variable {n : Naming} {name : String}

/-- An exported identifier is a letter with letters, digits and underscores after it. -/
theorem exists_of_isIdentifier (hname : isIdentifier name = true)
    (hexported : isExported name = true) :
    ∃ c cs, name.toList = c :: cs ∧ c.isAlpha = true ∧
      ∀ d ∈ cs, d.isAlphanum = true ∨ d = '_' := by
  unfold isIdentifier at hname
  unfold isExported at hexported
  cases hlist : name.toList with
  | nil => rw [hlist] at hname; cases hname
  | cons c cs =>
    rw [hlist] at hname hexported
    have hbar : c ≠ '_' := by simpa using hexported
    simp only [Bool.and_eq_true, Bool.or_eq_true, beq_iff_eq, List.all_eq_true] at hname
    exact ⟨c, cs, rfl, hname.1.resolve_right hbar, hname.2⟩

theorem isAscii_of_isIdentifier {c : Char} {cs : List Char} (hc : c.isAlpha = true)
    (hcs : ∀ d ∈ cs, d.isAlphanum = true ∨ d = '_') : IsAscii (c :: cs) := by
  refine isAscii_cons.mpr ⟨lt_of_isAlphanum (isAlphanum_of_isAlpha hc), fun d hd => ?_⟩
  rcases hcs d hd with h | rfl
  · exact lt_of_isAlphanum h
  · decide

theorem isFieldName_valueName (n : Naming) (hname : isIdentifier name = true)
    (hexported : isExported name = true) : isFieldName (n.valueName name) = true := by
  obtain ⟨c, cs, hlist, hc, hcs⟩ := exists_of_isIdentifier hname hexported
  have hascii := isAscii_of_isIdentifier hc hcs
  have hword := fold_word n hascii
  have hbar : c ≠ '_' := by rintro rfl; cases hc
  rw [List.filter_cons_of_pos (by simpa using hbar)] at hword
  unfold isFieldName
  rw [toList_valueName, hlist]
  cases hw : n.word (c :: cs) with
  | nil => rw [hw] at hword; cases hword
  | cons d ds =>
    rw [hw] at hword
    have hhead : d.toLower = c.toLower := (List.cons.inj hword).1
    have htail : fold ds = fold (cs.filter (· != '_')) := (List.cons.inj hword).2
    obtain ⟨hd, hds⟩ := isAscii_cons.mp (hw ▸ isAscii_word n hascii)
    rw [lowerHead, lowerChar_ascii hd, hhead]
    simp only [List.singleton_append, Bool.and_eq_true, List.all_eq_true]
    refine ⟨isLower_toLower (isAscii_cons.mp hascii).1 hc, fun e he => ?_⟩
    -- A later character is a letter or a digit, since its small form is that of one.
    have hsmall : e.toLower ∈ fold (cs.filter (· != '_')) := htail ▸ List.mem_map_of_mem he
    obtain ⟨g, hg, hge⟩ := List.mem_map.mp hsmall
    obtain ⟨hgcs, hgbar⟩ := List.mem_filter.mp hg
    have hgalnum : g.isAlphanum = true := (hcs g hgcs).resolve_right (by simpa using hgbar)
    rw [← isAlphanum_toLower (hds e he), ← hge, isAlphanum_toLower (lt_of_isAlphanum hgalnum)]
    exact hgalnum

theorem fold_of_reserved (h : name ∈ reservedWords) : fold name.toList = name.toList := by
  have hall : (reservedWords.all fun word => fold word.toList == word.toList) = true := by
    decide +kernel
  exact beq_iff_eq.mp (List.all_eq_true.mp hall name h)

/-- No abbreviation of the standard policy occurs in a reserved word. -/
theorem not_infix_of_reserved {a : String} (ha : a ∈ standard.abbreviations)
    (h : name ∈ reservedWords) : ¬ fold a.toList <:+: name.toList := by
  have hall : ∀ a ∈ standard.abbreviations, ∀ word ∈ reservedWords,
      ¬ fold a.toList <:+: word.toList := by decide +kernel
  exact hall a ha name h

/-- Under the standard policy, what becomes a reserved word has no abbreviation. -/
theorem standard_word_eq_joined {cs : List Char} (h : name ∈ reservedWords)
    (hfold : fold (joined cs) = name.toList) : standard.word cs = joined cs :=
  word_eq_joined fun _ ha _ hin => not_infix_of_reserved ha h (hfold ▸ hin)

/-- The parts of a name that does not start with an underscore.  If there is a second one, a
capital or a digit stands inside the joined name. -/
theorem joined_cases {c : Char} {cs : List Char} (hc : c ≠ '_') (h : IsAscii (c :: cs)) :
    (∃ k, c :: cs = joined (c :: cs) ++ List.replicate k '_') ∨
      ∃ d ∈ (joined (c :: cs)).tail, ¬ d.isLower = true := by
  obtain ⟨first, others, rest, hpieces, hcs, -, hhead, hothers⟩ := exists_pieces '_' (c :: cs)
  cases first with
  | nil =>
    rw [List.nil_append] at hcs
    rw [← hcs] at hhead
    exact absurd (hhead c rfl) hc
  | cons f first =>
    have hjoined : joined (c :: cs) =
        (f :: first) ++ (others.filter fun part => !part.isEmpty).flatMap upperHead := by
      rw [joined, hpieces, List.filter_cons_of_pos (by simp)]
      rfl
    cases hsecond : others.filter fun part => !part.isEmpty with
    | nil =>
      refine Or.inl ⟨rest.length, ?_⟩
      have hnone : rest.filter (· != '_') = [] := by
        rw [← hothers, ← List.flatten_filter_not_isEmpty, hsecond]
        rfl
      have hbars : rest = List.replicate rest.length '_' := by
        rw [List.eq_replicate_iff]
        refine ⟨rfl, fun d hd => ?_⟩
        simpa using List.filter_eq_nil_iff.mp hnone d hd
      rw [hjoined, hsecond, List.flatMap_nil, List.append_nil, ← hbars]
      exact hcs
    | cons part parts =>
      obtain ⟨hpart, hne⟩ := List.mem_filter.mp (hsecond ▸ List.mem_cons_self : part ∈ _)
      cases part with
      | nil => cases hne
      | cons d ds =>
        have hd : d.toNat < 0x80 := by
          have hmem : d ∈ rest.filter (· != '_') :=
            hothers ▸ List.mem_flatten.mpr ⟨_, hpart, List.mem_cons_self⟩
          refine h d ?_
          rw [hcs]
          exact List.mem_append_right _ (List.mem_filter.mp hmem).1
        refine Or.inr ⟨d.toUpper, ?_, not_isLower_toUpper hd⟩
        rw [hjoined, hsecond, List.flatMap_cons, upperHead, upperChar_ascii hd]
        simp

theorem spellsReserved_of_mem (hname : isIdentifier name = true)
    (hexported : isExported name = true) (hmem : standard.valueName name ∈ reservedWords) :
    SpellsReserved name := by
  obtain ⟨c, cs, hlist, hc, hcs⟩ := exists_of_isIdentifier hname hexported
  have hascii := isAscii_of_isIdentifier hc hcs
  have hbar : c ≠ '_' := by rintro rfl; cases hc
  have hfold : fold (joined (c :: cs)) = (standard.valueName name).toList := by
    rw [fold_joined hascii, ← fold_of_reserved hmem, fold_valueName _ (hlist ▸ hascii), hlist]
  have hvalue : (standard.valueName name).toList = lowerHead (joined (c :: cs)) := by
    rw [toList_valueName, hlist, standard_word_eq_joined hmem hfold]
  obtain ⟨d, ds, hjoined⟩ : ∃ d ds, joined (c :: cs) = d :: ds := by
    refine List.exists_cons_of_ne_nil fun hnil => ?_
    have hempty : standard.valueName name = "" := String.toList_inj.mp (by rw [← hfold, hnil]; rfl)
    rw [hempty] at hmem
    exact absurd hmem (by decide)
  have hd : d.toNat < 0x80 := (isAscii_cons.mp (hjoined ▸ isAscii_joined hascii)).1
  rw [hjoined, lowerHead, lowerChar_ascii hd, List.singleton_append] at hvalue
  rcases joined_cases hbar hascii with ⟨k, hk⟩ | ⟨e, he, hlower⟩
  · have hstart : (String.ofList (d :: ds)).toList = d :: ds := String.toList_ofList
    have hsame : decapitalized (String.ofList (d :: ds)) = standard.valueName name :=
      String.toList_inj.mp (by rw [toList_decapitalized hstart, hvalue])
    refine ⟨String.ofList (d :: ds), k, ?_, hsame ▸ hmem⟩
    rw [hstart, hlist, ← hjoined]
    exact hk
  · -- Reserved words have small letters only.
    rw [hjoined] at he
    refine absurd (isLower_of_reserved hmem e ?_) hlower
    rw [hvalue]
    exact List.mem_cons_of_mem _ he

theorem mem_of_spellsReserved (h : SpellsReserved name) :
    standard.valueName name ∈ reservedWords := by
  obtain ⟨start, k, hname, hmem⟩ := h
  obtain ⟨d, ds, hstart⟩ : ∃ d ds, start.toList = d :: ds := by
    refine List.exists_cons_of_ne_nil fun hnil => ?_
    have hempty : decapitalized start = "" := by rw [decapitalized, hnil]
    rw [hempty] at hmem
    exact absurd hmem (by decide)
  have hword := toList_decapitalized hstart
  have hlower : ∀ e ∈ d.toLower :: ds, e.isLower = true := hword ▸ isLower_of_reserved hmem
  obtain ⟨hhead, htail⟩ := List.forall_mem_cons.mp hlower
  have hd : d.toNat < 0x80 :=
    lt_of_toLower (lt_of_isAlphanum (isAlphanum_of_isAlpha (isAlpha_of_isLower hhead)))
  have hbar : '_' ∉ d :: ds := by
    intro hmem
    rcases List.mem_cons.mp hmem with rfl | hmem
    · exact absurd hhead (by decide)
    · exact absurd (htail '_' hmem) (by decide)
  have hjoined : joined name.toList = d :: ds := by
    rw [joined, hname, hstart, pieces_append_replicate hbar, List.filter_cons_of_pos (by simp),
      List.filter_eq_nil_iff.mpr (by simp)]
    exact List.append_nil _
  have hfold : fold (joined name.toList) = (decapitalized start).toList := by
    rw [hjoined, ← fold_of_reserved hmem, hword]
    exact congrArg (· :: fold ds) (toLower_toLower hd).symm
  have hsame : standard.valueName name = decapitalized start := by
    refine String.toList_inj.mp ?_
    rw [toList_valueName, standard_word_eq_joined hmem hfold, hjoined, lowerHead,
      lowerChar_ascii hd, hword, List.singleton_append]
  exact hsame ▸ hmem

end Naming

/-! ## Names of fields -/

namespace Source.Program

variable {p : Program} {style : Style} {record : ClassId → ResolveM Elm.Ty} {s s' : Session}

/-- The fields of a record are named after the exported declarations of its class. -/
theorem buildFields_names {id : ClassId} {fields : List Elm.Field}
    (h : (p.buildFields style record id).run s = (.ok fields, s')) :
    ∃ decls, p.fields? id = some decls ∧
      List.Forall₂ (fun f field => field.name = style.naming.valueName f.name)
        (decls.filter fun f => isExported f.name) fields := by
  obtain ⟨decls, hdecls, hmade⟩ := buildFields_made h
  exact ⟨decls, hdecls, hmade.imp fun f field hfield => hfield.name⟩

end Source.Program

/-- What a naming policy makes of an exported identifier. -/
structure Naming.Settles (n : Naming) (declared name : String) : Prop where
  /-- It has the form of a field name. -/
  isFieldName : Elm.isFieldName name = true
  /-- It is a reserved word only if it is declared as this word up to case and underscores. -/
  reserved : name ∈ Elm.reservedWords →
    String.ofList (Text.fold (declared.toList.filter (· != '_'))) = name
  /-- Under the standard policy it is legal exactly if it is not declared as a reserved word. -/
  legal_iff : n = .standard →
    (Elm.isLegalFieldName name = true ↔ ¬ Elm.SpellsReserved declared)

theorem Naming.settles_valueName (n : Naming) {name : String} (hname : isIdentifier name = true)
    (hexported : isExported name = true) : n.Settles name (n.valueName name) := by
  have hform := isFieldName_valueName n hname hexported
  refine ⟨hform, fun hmem => ?_, ?_⟩
  · obtain ⟨c, cs, hlist, hc, hcs⟩ := exists_of_isIdentifier hname hexported
    rw [← fold_valueName n (hlist ▸ isAscii_of_isIdentifier hc hcs), fold_of_reserved hmem,
      String.ofList_toList]
  · rintro rfl
    have hiff : Naming.standard.valueName name ∈ Elm.reservedWords ↔ Elm.SpellsReserved name :=
      ⟨spellsReserved_of_mem hname hexported, mem_of_spellsReserved⟩
    rw [Elm.isLegalFieldName, hform, ← hiff]
    simp

namespace Source.Program

/-- In every session, the fields that are built for a class have names of the form that Elm
wants, one for each exported declaration.  They are reserved words only if they are declared
as such, and under the standard policy exactly then. -/
theorem field_names_legal_iff {p : Program} {style : Style} {id : ClassId} {s s' : Session}
    {fields : List Elm.Field}
    (h : (p.buildFields style (p.convertRecord style) id).run s = (.ok fields, s')) :
    ∃ decls, p.fields? id = some decls ∧
      List.Forall₂ (fun f field => isIdentifier f.name = true →
          style.naming.Settles f.name field.name)
        (decls.filter fun f => isExported f.name) fields := by
  obtain ⟨decls, hdecls, hnames⟩ := buildFields_names h
  refine ⟨decls, hdecls, (forall₂_and_mem hnames).imp fun f field hf hname => ?_⟩
  obtain ⟨hvalue, hmem, -⟩ := hf
  rw [hvalue]
  exact style.naming.settles_valueName hname (List.mem_filter.mp hmem).2

/-- Declarations of fields of the given names. -/
def ticketFields (names : List String) : List FieldDecl :=
  names.map fun name => ⟨name, .cls (.builtin .str), none, .field⟩

/-- A ticket, with fields of the given names. -/
def ticket (names : List String) : Program where
  classes := [
    { name := "Ticket", module := "desk", kind := .record
      lineage := [.declared 0, .builtin .object]
      annotations := ticketFields names
      collected := ticketFields names }]
  modules := [{ name := "desk", bindings := [] }]
  loaded := [("desk", 0)]

/-- Parts and abbreviations keep a name apart from the words in it, and underscores at the end
do not. -/
theorem ticket_field_names :
    ∃ fields s', ((ticket ["TypeID", "else_if", "port2", "Of__"]).buildFields {}
        ((ticket ["TypeID", "else_if", "port2", "Of__"]).convertRecord {}) 0).run {} =
        (.ok fields, s') ∧
      fields.map (·.name) = ["typeId", "elseIf", "port2", "of"] ∧
      Naming.standard.Settles "else_if" "elseIf" ∧ Naming.standard.Settles "Of__" "of" ∧
      ¬ Elm.SpellsReserved "else_if" ∧ Elm.SpellsReserved "Of__" := by
  obtain ⟨fields, s', hrun, hnames⟩ : ∃ fields s',
      ((ticket ["TypeID", "else_if", "port2", "Of__"]).buildFields {}
        ((ticket ["TypeID", "else_if", "port2", "Of__"]).convertRecord {}) 0).run {} =
        (.ok fields, s') ∧ fields.map (·.name) = ["typeId", "elseIf", "port2", "of"] :=
    ⟨_, _, rfl, by decide +kernel⟩
  obtain ⟨decls, hdecls, hsettles⟩ := field_names_legal_iff hrun
  cases hdecls
  obtain _ | ⟨-, _ | ⟨helse, _ | ⟨-, _ | ⟨hof, _ | _⟩⟩⟩⟩ := hsettles
  simp only [List.map_cons, List.map_nil, List.cons.injEq, and_true] at hnames
  rw [hnames.2.1] at helse
  rw [hnames.2.2.2] at hof
  exact ⟨_, s', hrun, by simp [hnames], helse (by decide), hof (by decide),
    ((helse (by decide)).legal_iff rfl).mp (by decide),
    not_not.mp (mt ((hof (by decide)).legal_iff rfl).mpr (by decide))⟩

/-- The field `type` of a class keeps its name, which is a reserved word. -/
theorem ticket_field_reserved :
    ∃ fields s', ((ticket ["type"]).buildFields {} ((ticket ["type"]).convertRecord {}) 0).run {} =
        (.ok fields, s') ∧
      isIdentifier "type" = true ∧ fields.map (·.name) = ["type"] ∧ "type" ∈ Elm.reservedWords := by
  refine ⟨_, _, rfl, by decide, by decide +kernel, by decide⟩

end Source.Program

end ElmCodec
