import ElmCodec.Proofs.Written

/-!
# Declarations with proper names

A module is written with the names that its types and fields have.  If these are words
then all tokens of its declarations can be told apart, so that there is one way to read
the text.  The name of a decoder begins with the name of its type, with a small first
letter, and small letters are name characters as well (`isNameChar_lowerChar`).
-/

namespace ElmCodec.Elm

/-- A name that can be told from what stands beside it. -/
def IsWord (w : String) : Prop := isRun isNameChar w = true

theorem isWord_iff {w : String} :
    IsWord w ↔ w.toList ≠ [] ∧ ∀ c ∈ w.toList, isNameChar c = true := by
  simp [IsWord, isRun]

theorem IsWord.not_mem {w : String} {c : Char} (h : IsWord w) (hc : isNameChar c = false) :
    c ∉ w.toList := by
  intro hmem
  cases ((isWord_iff.mp h).2 c hmem).symm.trans hc

theorem IsWord.append {a b : String} (ha : IsWord a) (hb : b.toList.all isNameChar = true) :
    IsWord (a ++ b) := by
  rw [isWord_iff] at ha ⊢
  rw [String.toList_append]
  refine ⟨List.append_ne_nil_of_left_ne_nil ha.1 _, fun c hc => ?_⟩
  cases List.mem_append.mp hc with
  | inl hc => exact ha.2 c hc
  | inr hc => exact List.all_eq_true.mp hb c hc

theorem IsWord.prepend {a b : String} (ha : a.toList.all isNameChar = true) (hb : IsWord b) :
    IsWord (a ++ b) := by
  rw [isWord_iff] at hb ⊢
  rw [String.toList_append]
  refine ⟨List.append_ne_nil_of_right_ne_nil _ hb.1, fun c hc => ?_⟩
  cases List.mem_append.mp hc with
  | inl hc => exact List.all_eq_true.mp ha c hc
  | inr hc => exact hb.2 c hc

/-! ## Tokens -/

/-- All tokens of a list can be told apart. -/
def AllProper (ts : List Token) : Prop := ∀ t ∈ ts, t.isProper = true

/-- The name that stands innermost in a form. -/
def Form.leaf : Form → String
  | .named n => n
  | .list f | .nullable f => f.leaf

theorem AllProper.nil : AllProper [] := by simp [AllProper]

theorem AllProper.cons {t : Token} {ts : List Token} (ht : t.isProper = true)
    (hts : AllProper ts) : AllProper (t :: ts) := by
  intro t' ht'
  cases List.mem_cons.mp ht' with
  | inl heq => exact heq ▸ ht
  | inr ht' => exact hts t' ht'

theorem AllProper.word {w : String} {ts : List Token} (hw : IsWord w) (hts : AllProper ts) :
    AllProper (.word w :: ts) :=
  .cons hw hts

theorem AllProper.append {ts ts' : List Token} (h : AllProper ts) (h' : AllProper ts') :
    AllProper (ts ++ ts') := by
  intro t ht
  cases List.mem_append.mp ht with
  | inl ht => exact h t ht
  | inr ht => exact h' t ht

theorem AllProper.flatMap {β : Type} {bs : List β} {tokens : β → List Token}
    (h : ∀ b ∈ bs, AllProper (tokens b)) : AllProper (bs.flatMap tokens) := by
  intro t ht
  obtain ⟨b, hb, ht⟩ := List.mem_flatMap.mp ht
  exact h b hb t ht

theorem AllProper.parens {ts : List Token} (h : AllProper ts) : AllProper (parens ts) :=
  .cons rfl (h.append (.cons rfl .nil))

theorem AllProper.items {β : Type} {bs : List β} {tokens : β → List Token} {sep : Token}
    (hsep : sep.isProper = true) (h : ∀ b ∈ bs, AllProper (tokens b)) :
    AllProper (itemTokens tokens sep bs) := by
  cases bs with
  | nil => exact .nil
  | cons b bs =>
    refine (h b List.mem_cons_self).append (.flatMap fun b' hb' => ?_)
    exact .cons hsep (h b' (List.mem_cons_of_mem b hb'))

theorem Form.typeTokens_proper {f : Form} (h : IsWord f.leaf) (argument : Bool) :
    AllProper (f.typeTokens argument) := by
  have hwrap : ∀ {w : String} {ts : List Token}, IsWord w → AllProper ts → ∀ argument,
      AllProper (typeTokens.wrap argument (.word w :: ts)) := by
    intro w ts hw hts argument
    cases argument with
    | false => exact .word hw hts
    | true => exact .parens (.word hw hts)
  induction f generalizing argument with
  | named n =>
    rw [typeTokens]
    split
    next => exact .parens (.word h .nil)
    next => exact .word h .nil
  | list f ih => exact hwrap (w := "List") rfl (ih h true) argument
  | nullable f ih => exact hwrap (w := "Maybe") rfl (ih h true) argument

theorem Form.codecTokens_proper {f : Form} (h : IsWord f.leaf) {module_ : String}
    (hm : IsWord module_) : AllProper (f.codecTokens module_) := by
  induction f with
  | named n => exact .word h .nil
  | list f ih => exact .parens (.word (hm.append (b := ".list") rfl) (ih h))
  | nullable f ih => exact .parens (.word (hm.append (b := ".nullable") rfl) (ih h))

/-! ## Declarations -/

theorem Alias.tokens_proper {a : Alias} (hname : IsWord a.name)
    (hfields : ∀ f ∈ a.fields, IsWord f.1 ∧ IsWord f.2.leaf) : AllProper a.tokens := by
  refine .cons rfl (.cons rfl (.cons hname (.cons rfl (.cons rfl ?_))))
  refine (AllProper.items rfl fun f hf => ?_).append (.cons rfl .nil)
  obtain ⟨hfield, htype⟩ := hfields f hf
  exact .cons hfield (.cons rfl (Form.typeTokens_proper htype false))

/-- The short names of the JSON libraries are words. -/
structure Imports.AreWords (m : Imports) : Prop where
  decode : IsWord m.decode
  pipeline : IsWord m.pipeline
  encode : IsWord m.encode

theorem Decoder.tokens_proper {m : Imports} (hm : m.AreWords) {d : Decoder}
    (hname : IsWord d.name) (htype : IsWord d.type) (hconstructor : IsWord d.constructor)
    (hsteps : ∀ s ∈ d.steps, IsWord s.value.leaf) : AllProper (d.tokens m) := by
  refine .cons hname (.cons rfl (.cons (hm.decode.append rfl) (.cons htype (.cons hname
    (.cons rfl (.cons (hm.decode.append rfl) (.cons hconstructor (.flatMap fun s hs => ?_))))))))
  have hvalue := Form.codecTokens_proper (hsteps s hs) hm.decode
  refine .cons rfl (.cons (hm.pipeline.append ?_) (.cons rfl (hvalue.append ?_)))
  · cases s.optional <;> rfl
  · cases s.optional with
    | false => exact .nil
    | true => exact .cons rfl .nil

theorem Encoder.tokens_proper {m : Imports} (hm : m.AreWords) {e : Encoder}
    (hname : IsWord e.name) (htype : IsWord e.type) (hargument : IsWord e.argument)
    (hpairs : ∀ p ∈ e.pairs, (∀ h ∈ p.helper, IsWord h) ∧ IsWord p.value.leaf ∧ IsWord p.field) :
    AllProper (e.tokens m) := by
  refine .cons hname (.cons rfl (.cons htype (.cons rfl (.cons (hm.encode.append rfl)
    (.cons hname (.cons hargument (.cons rfl (.cons (hm.encode.append rfl) (.cons rfl
      ((AllProper.items rfl fun p hp => ?_).append (.cons rfl .nil)))))))))))
  obtain ⟨hhelper, hvalue, hfield⟩ := hpairs p hp
  have hfieldChars : p.field.toList.all isNameChar = true :=
    List.all_eq_true.mpr (isWord_iff.mp hfield).2
  refine .cons rfl (.cons rfl (.cons rfl ((AllProper.append ?_
    (Form.codecTokens_proper hvalue hm.encode)).append
      (.cons ((hargument.append rfl).append hfieldChars) (.cons rfl .nil)))))
  intro t ht
  obtain ⟨w, hw, rfl⟩ := List.mem_map.mp ht
  exact hhelper w (by simpa using hw)

theorem Helper.tokens_proper {m : Imports} (hm : m.AreWords) : AllProper ((maybe m).tokens m) := by
  have hvalue : IsWord (m.encode ++ ".Value") := hm.encode.append rfl
  have hnull : IsWord (m.encode ++ ".null") := hm.encode.append rfl
  simp only [AllProper, Helper.tokens, maybe, List.forall_mem_cons]
  exact ⟨rfl, rfl, rfl, rfl, rfl, hvalue, rfl, rfl, rfl, rfl, rfl, hvalue, rfl, rfl, rfl, rfl, rfl,
    rfl, rfl, hnull, by simp⟩

/-! ## Small letters -/

theorem isNameChar_toLower : ∀ n < 0x80, isNameChar (Char.ofNat n) = true →
    isNameChar (Char.ofNat n).toLower = true := by
  decide +kernel

/-- The tables of small letters lead to name characters. -/
theorem isNameChar_lowerTables :
    (∀ entry ∈ Text.lowerLong, ∀ n ∈ entry.2, isNameChar (Char.ofNat n) = true) ∧
    ∀ r ∈ Text.lowerRuns, (r.first = r.last ∧
        isNameChar (Char.ofNat (r.first + r.offset).toNat) = true) ∨
      0x80 ≤ r.first + r.offset ∧ r.last + r.offset < 0xD800 ∨
      0xE000 ≤ r.first + r.offset ∧ r.last + r.offset < 0x110000 := by
  decide +kernel

theorem isNameChar_ofNat {n : Nat} (h : 0x80 ≤ n ∧ n < 0xD800 ∨ 0xE000 ≤ n ∧ n < 0x110000) :
    isNameChar (Char.ofNat n) = true := by
  have hvalid : n.isValidChar := by
    unfold Nat.isValidChar
    omega
  have hn : (Char.ofNat n).toNat = n := by
    rw [Char.ofNat, dif_pos hvalid]
    rfl
  have hlarge : 0x80 ≤ (Char.ofNat n).toNat := by omega
  simp [isNameChar, hlarge]

theorem isNameChar_lowerChar {c : Char} (h : isNameChar c = true) :
    ∀ d ∈ Text.lowerChar c, isNameChar d = true := by
  intro d hd
  unfold Text.lowerChar at hd
  split at hd
  next hascii =>
    rw [List.mem_singleton.mp hd]
    have hlower := isNameChar_toLower c.toNat hascii
    rw [Char.ofNat_toNat] at hlower
    exact hlower h
  next =>
    unfold Text.caseImage at hd
    split at hd
    next codes hcodes =>
      obtain ⟨before, after, htable, -⟩ := List.lookup_eq_some_iff.mp hcodes
      obtain ⟨n, hn, rfl⟩ := List.mem_map.mp hd
      exact isNameChar_lowerTables.1 (c.toNat, codes) (by simp [htable]) n hn
    next =>
      split at hd
      next r hr =>
        have hcovers : r.first ≤ c.toNat ∧ c.toNat ≤ r.last := by
          have := List.find?_some hr
          simp only [Text.CaseRun.covers, Bool.and_eq_true, decide_eq_true_eq] at this
          exact this.1
        rw [List.mem_singleton.mp hd]
        obtain ⟨hsingle, hname⟩ | hrange | hrange :=
          isNameChar_lowerTables.2 r (List.mem_of_find?_eq_some hr)
        · have hc : c.toNat = r.first := by omega
          rw [hc]
          exact hname
        · exact isNameChar_ofNat (by omega)
        · exact isNameChar_ofNat (by omega)
      next => rw [List.mem_singleton.mp hd]; exact h

theorem isWord_decoderName {name : String} (h : IsWord name) :
    IsWord (String.ofList (Text.lowerHead name.toList) ++ "Decoder") := by
  refine .prepend ?_ rfl
  rw [String.toList_ofList, List.all_eq_true]
  rw [isWord_iff] at h
  cases hname : name.toList with
  | nil => exact absurd hname h.1
  | cons c cs =>
    intro d hd
    cases List.mem_append.mp hd with
    | inl hd => exact isNameChar_lowerChar (h.2 c (by simp [hname])) d hd
    | inr hd => exact h.2 d (by simp [hname, hd])

end ElmCodec.Elm
