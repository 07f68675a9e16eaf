import ElmCodec.Proofs.Cut
import ElmCodec.Tag

/-!
# Reading and writing tags

A text is a tag if it stands between the opening of tags and a closing quote, which is not the
quote of the opening (`body?_eq_some_iff`).  What stands there may be any text, also one with
quotes in it.  The name of a tag goes to the first comma, and the options are all that comes
after it.

A tag that was written is read back.  Options may be empty, so that no options and one empty
option are written alike, but no option of a name is lost or made up (`listsOption_joinWith`).
-/

namespace ElmCodec.Tag

open Text (cut pieces joinWith)

/-! ## The text of a tag -/

theorem body?_eq_some_iff {text body : List Char} :
    body? text = some body ↔ text = opening ++ body ++ ['"'] := by
  constructor
  · intro h
    obtain ⟨hcond, rfl⟩ : (opening.isPrefixOf text && opening.length < text.length &&
        text.getLast? == some '"') = true ∧ (text.drop opening.length).dropLast = body := by
      simpa [body?] using h
    simp only [Bool.and_eq_true, List.isPrefixOf_iff_prefix, decide_eq_true_eq,
      beq_iff_eq] at hcond
    obtain ⟨⟨⟨rest, rfl⟩, hlength⟩, hlast⟩ := hcond
    -- The last character is one of the rest, since the text is longer than the opening.
    have hrest : rest ≠ [] := by
      rintro rfl
      simp at hlength
    have hquote : rest.getLast? = some '"' := by
      rwa [List.getLast?_append_of_ne_nil _ hrest] at hlast
    rw [List.drop_left, List.append_assoc, List.dropLast_append_getLast? _ hquote]
  · rintro rfl
    simp [body?, List.append_assoc]

theorem body?_enclosed (value : String) :
    body? ("json:\"" ++ value ++ "\"").toList = some value.toList := by
  rw [body?_eq_some_iff, String.toList_append, String.toList_append]
  rfl

/-- What stands between the opening and the closing quote is cut at its first comma. -/
theorem parse_enclosed (value : String) :
    parse ("json:\"" ++ value ++ "\"") =
      ⟨String.ofList (cut ',' value.toList).1,
        String.ofList ((cut ',' value.toList).2.getD [])⟩ := by
  rw [parse, body?_enclosed]

/-- A text that is no tag has no name and no options. -/
theorem parse_of_not_enclosed {text : String} (h : ∀ value, text ≠ "json:\"" ++ value ++ "\"") :
    parse text = ⟨"", ""⟩ := by
  have hnone : body? text.toList = none := by
    refine Option.eq_none_iff_forall_ne_some.mpr fun body hbody => ?_
    refine h (String.ofList body) (String.toList_inj.mp ?_)
    rw [body?_eq_some_iff.mp hbody]
    simp [opening]
  rw [parse, hnone]

/-! ## Tags that were written -/

theorem write_eq (name : String) (options : List String) :
    write name options = "json:\"" ++ joinWith "," (name :: options) ++ "\"" := rfl

/-- A tag that was written is read back, if its name has no comma. -/
theorem parse_write {name : String} (hname : ',' ∉ name.toList) (options : List String) :
    parse (write name options) = ⟨name, joinWith "," options⟩ := by
  rw [write_eq, parse_enclosed]
  cases options with
  | nil => simp [joinWith, Text.cut_of_not_mem hname]
  | cons o options =>
    have hvalue : (joinWith "," (name :: o :: options)).toList =
        name.toList ++ ',' :: (joinWith "," (o :: options)).toList := by
      simp [joinWith, String.intercalate_cons_cons]
    simp [hvalue, Text.cut_append_cons hname]

/-- An option is listed among options exactly if it is one of them. -/
theorem listsOption_joinWith {name : String} (hname : name ≠ "") {options : List String}
    (hoptions : ∀ o ∈ options, ',' ∉ o.toList) :
    listsOption (joinWith "," options) name = true ↔ name ∈ options := by
  cases options with
  | nil => simp [listsOption, joinWith]
  | cons o os =>
    have hpieces : pieces ',' (joinWith "," (o :: os)).toList = (o :: os).map String.toList :=
      Text.pieces_joinWith rfl (List.cons_ne_nil o os) hoptions
    have hmem : name.toList ∈ (o :: os).map String.toList ↔ name ∈ o :: os :=
      List.mem_map_of_injective fun _ _ => String.toList_inj.mp
    simp only [listsOption, hpieces, Bool.and_eq_true, bne_iff_ne, List.contains_iff_mem, hmem]
    constructor
    · exact And.right
    · intro hin
      refine ⟨fun hempty => ?_, hin⟩
      -- Nothing but an empty option is written as nothing.
      rw [hempty] at hpieces
      have hall : ∀ x ∈ (o :: os).map String.toList, x = [] := by
        rw [← hpieces]
        simp [pieces]
      exact hname (String.toList_inj.mp (hall _ (hmem.mpr hin)))

/-- Reading takes exactly the texts between the opening of tags and a closing quote, and keeps all
that stands there: the name and, after a comma, the options.  What is written with a name without
commas is read back, and the options among those that were written are found again. -/
theorem parse_loses_nothing :
    (∀ text value, text = "json:\"" ++ value ++ "\"" →
      ',' ∉ (parse text).name.toList ∧
        (value = (parse text).name ∧ (parse text).options = "" ∨
          value = (parse text).name ++ "," ++ (parse text).options)) ∧
    (∀ text, (∀ value, text ≠ "json:\"" ++ value ++ "\"") → parse text = ⟨"", ""⟩) ∧
    (∀ name options, ',' ∉ name.toList →
      parse (write name options) = ⟨name, joinWith "," options⟩) ∧
    ∀ name options, name ≠ "" → (∀ o ∈ options, ',' ∉ o.toList) →
      (listsOption (joinWith "," options) name = true ↔ name ∈ options) := by
  refine ⟨?_, fun text => parse_of_not_enclosed, fun name options hname =>
    parse_write hname options, fun name options hname => listsOption_joinWith hname⟩
  rintro text value rfl
  rw [parse_enclosed]
  obtain ⟨hname, ⟨hnone, hvalue⟩ | ⟨rest, hsome, hvalue⟩⟩ := Text.cut_spec ',' value.toList
  · refine ⟨by simpa using hname, Or.inl ⟨?_, by simp [hnone]⟩⟩
    rw [← hvalue, String.ofList_toList]
  · refine ⟨by simpa using hname, Or.inr (String.toList_inj.mp ?_)⟩
    simpa [hsome] using hvalue

end ElmCodec.Tag
