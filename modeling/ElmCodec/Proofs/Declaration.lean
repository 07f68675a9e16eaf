import ElmCodec.Elm.Module
import ElmCodec.Proofs.Token

/-!
# Declarations of an Elm module

The second stage of reading Elm text.  The declarations of a module are type aliases,
decoders, encoders and the helper for missing values.  Each kind is a small syntax tree
with two functions: its tokens, and a reader of tokens.  The reader reads back the tree
(`readAlias_tokens`, `readDecoder_tokens`, `readEncoder_tokens`, `readHelper_tokens`).

Types, decoders and encoders have one syntax tree in common, the `Form`: a name, or the
lists or nullable values of a form.  A type is written with blanks and precedence, and a
codec with the functions of a module, always in parentheses.
-/

namespace ElmCodec.Elm

/-! ## Types and codecs -/

/-- A type, a decoder or an encoder as it is written. -/
inductive Form where
  /-- A name. -/
  | named (name : String)
  /-- The lists of a form. -/
  | list (elem : Form)
  /-- The values of a form or none. -/
  | nullable (elem : Form)
deriving DecidableEq

/-- Tokens in parentheses. -/
def parens (ts : List Token) : List Token := .mark '(' :: (ts ++ [.mark ')'])

/-- No token comes next that could be an argument. -/
def NoArgument (rest : List Token) : Prop :=
  ∀ t ∈ rest.head?, (∀ w, t ≠ .word w) ∧ t ≠ .mark '('

theorem NoArgument.nil : NoArgument [] := by
  intro t ht
  cases ht

theorem NoArgument.mark {c : Char} (hc : c ≠ '(') (rest : List Token) :
    NoArgument (.mark c :: rest) := by
  intro t ht
  cases ht
  exact ⟨fun w h => (by cases h), fun h => hc (Token.mark.inj h)⟩

theorem NoArgument.operator (o : String) (rest : List Token) :
    NoArgument (.operator o :: rest) := by
  intro t ht
  cases ht
  exact ⟨fun w h => (by cases h), fun h => (by cases h)⟩

namespace Form

/-- The tokens of a type, as an argument or by itself.  A name with blanks in it is put in
parentheses like a type of several words. -/
def typeTokens (argument : Bool) : Form → List Token
  | .named n => if argument && n.toList.contains ' ' then parens [.word n] else [.word n]
  | .list t => wrap (.word "List" :: t.typeTokens true)
  | .nullable t => wrap (.word "Maybe" :: t.typeTokens true)
where
  /-- Several words, in parentheses as an argument. -/
  wrap (ts : List Token) : List Token := if argument then parens ts else ts

/-- The type of a constructor. -/
def typeConstructor (w : String) : Option (Form → Form) :=
  if w = "List" then some .list else if w = "Maybe" then some .nullable else none

/-- Reads a type, as an argument or by itself. -/
def readType (argument : Bool) : List Token → Option (Form × List Token)
  | .word w :: rest =>
    match if argument then none else typeConstructor w, readType true rest with
    | some wrap, some (t, rest') => some (wrap t, rest')
    | _, _ => some (.named w, rest)
  | .mark '(' :: rest =>
    match readType false rest with
    | some (t, .mark ')' :: rest') => some (t, rest')
    | _ => none
  | _ => none

theorem readType_noArgument {rest : List Token} (h : NoArgument rest) :
    readType true rest = none := by
  unfold readType
  split
  next w rest => exact absurd rfl ((h _ rfl).1 w)
  next rest => exact absurd rfl (h _ rfl).2
  next => rfl

theorem readType_word {w : String} {rest : List Token} (h : NoArgument rest) (argument : Bool) :
    readType argument (.word w :: rest) = some (.named w, rest) := by
  unfold readType
  rw [readType_noArgument h]
  cases (if argument then none else typeConstructor w) <;> rfl

theorem readType_parens {f : Form} {ts rest : List Token}
    (h : readType false (ts ++ .mark ')' :: rest) = some (f, .mark ')' :: rest))
    (argument : Bool) : readType argument (parens ts ++ rest) = some (f, rest) := by
  have hparens : parens ts ++ rest = .mark '(' :: (ts ++ .mark ')' :: rest) := by simp [parens]
  rw [hparens, readType, h]
  rfl

/-- A type constructor with its argument. -/
theorem readType_apply {w : String} {wrap : Form → Form} (hw : typeConstructor w = some wrap)
    {f : Form} {ts rest : List Token} (h : readType true (ts ++ rest) = some (f, rest)) :
    readType false (.word w :: (ts ++ rest)) = some (wrap f, rest) := by
  rw [readType, if_neg (by decide), hw, h]

/-- A type is read back. -/
theorem readType_tokens (f : Form) : ∀ (argument : Bool) {rest : List Token}, NoArgument rest →
    readType argument (f.typeTokens argument ++ rest) = some (f, rest) := by
  -- In parentheses a type is read as it is by itself.
  have hwrap : ∀ {f : Form} {ts : List Token},
      (∀ {rest}, NoArgument rest → readType false (ts ++ rest) = some (f, rest)) →
      ∀ (argument : Bool) {rest}, NoArgument rest →
        readType argument (typeTokens.wrap argument ts ++ rest) = some (f, rest) := by
    intro f ts h argument rest hrest
    cases argument with
    | false => exact h hrest
    | true => exact readType_parens (h (.mark (by decide) rest)) true
  induction f with
  | named n =>
    intro argument rest hrest
    rw [typeTokens]
    split
    next => exact readType_parens (readType_word (.mark (by decide) rest) false) argument
    next => exact readType_word hrest argument
  | list t ih => exact hwrap fun hrest => readType_apply rfl (ih true hrest)
  | nullable t ih => exact hwrap fun hrest => readType_apply rfl (ih true hrest)

/-- The tokens of a codec, for the name of its module. -/
def codecTokens (module_ : String) : Form → List Token
  | .named n => [.word n]
  | .list f => parens (.word (module_ ++ ".list") :: f.codecTokens module_)
  | .nullable f => parens (.word (module_ ++ ".nullable") :: f.codecTokens module_)

/-- The function of a codec module. -/
def codecFunction (module_ w : String) : Option (Form → Form) :=
  if w = module_ ++ ".list" then some .list
  else if w = module_ ++ ".nullable" then some .nullable
  else none

/-- Reads a codec. -/
def readCodec (module_ : String) : List Token → Option (Form × List Token)
  | .word w :: rest => some (.named w, rest)
  | .mark '(' :: .word w :: rest =>
    match codecFunction module_ w, readCodec module_ rest with
    | some wrap, some (f, .mark ')' :: rest') => some (wrap f, rest')
    | _, _ => none
  | _ => none

theorem codecFunction_list (module_ : String) :
    codecFunction module_ (module_ ++ ".list") = some .list := if_pos rfl

theorem codecFunction_nullable (module_ : String) :
    codecFunction module_ (module_ ++ ".nullable") = some .nullable := by
  unfold codecFunction
  rw [if_neg (by simp), if_pos rfl]

/-- A function of a codec module with its argument. -/
theorem readCodec_apply {module_ w : String} {wrap : Form → Form}
    (hw : codecFunction module_ w = some wrap) {f : Form} {ts rest : List Token}
    (h : readCodec module_ (ts ++ .mark ')' :: rest) = some (f, .mark ')' :: rest)) :
    readCodec module_ (parens (.word w :: ts) ++ rest) = some (wrap f, rest) := by
  have hparens : parens (.word w :: ts) ++ rest =
      .mark '(' :: .word w :: (ts ++ .mark ')' :: rest) := by simp [parens]
  rw [hparens, readCodec, hw, h]
  rfl

/-- A codec is read back, whatever comes after it. -/
theorem readCodec_tokens (module_ : String) (f : Form) (rest : List Token) :
    readCodec module_ (f.codecTokens module_ ++ rest) = some (f, rest) := by
  induction f generalizing rest with
  | named n => rfl
  | list f ih => exact readCodec_apply (codecFunction_list module_) (ih _)
  | nullable f ih => exact readCodec_apply (codecFunction_nullable module_) (ih _)

end Form

/-! ## Sequences -/

section

variable {α : Type}

/-- The tokens of items with a separator between them. -/
def itemTokens (tokens : α → List Token) (sep : Token) : List α → List Token
  | [] => []
  | a :: rest => tokens a ++ rest.flatMap fun b => sep :: tokens b

/-- Reads at most so many items with a separator between them. -/
def readItemsFrom (read : List Token → Option (α × List Token)) (sep : Token) :
    Nat → List Token → Option (List α × List Token)
  | 0, _ => none
  | n + 1, ts =>
    match read ts with
    | none => none
    | some (a, []) => some ([a], [])
    | some (a, t :: rest) =>
      if t = sep then (readItemsFrom read sep n rest).map fun (as, rest') => (a :: as, rest')
      else some ([a], t :: rest)

/-- Reads items with a separator between them. -/
def readItems (read : List Token → Option (α × List Token)) (sep : Token) (ts : List Token) :
    Option (List α × List Token) :=
  readItemsFrom read sep (ts.length + 1) ts

theorem length_le_itemTokens (tokens : α → List Token) (sep : Token) (a : α) (as : List α) :
    as.length ≤ (itemTokens tokens sep (a :: as)).length := by
  have hsep : as.length ≤ (as.flatMap fun b => sep :: tokens b).length := by
    induction as with
    | nil => exact Nat.le_refl 0
    | cons b as ih =>
      simp only [List.length_cons, List.flatMap_cons, List.length_append]
      omega
  rw [itemTokens, List.length_append]
  omega

/-- Items are read back if each of them is. -/
theorem readItems_tokens {read : List Token → Option (α × List Token)} {tokens : α → List Token}
    {sep : Token} (hread : ∀ a {rest}, NoArgument rest → read (tokens a ++ rest) = some (a, rest))
    (hsep : ∀ rest, NoArgument (sep :: rest)) {rest : List Token} (hrest : NoArgument rest)
    (hend : rest.head? ≠ some sep) {as : List α} (hne : as ≠ []) :
    readItems read sep (itemTokens tokens sep as ++ rest) = some (as, rest) := by
  obtain ⟨a, as, rfl⟩ := List.exists_cons_of_ne_nil hne
  suffices ∀ n, as.length < n →
      readItemsFrom read sep n (itemTokens tokens sep (a :: as) ++ rest) = some (a :: as, rest) by
    have hlen := length_le_itemTokens tokens sep a as
    exact this _ (by rw [List.length_append]; omega)
  clear hne
  induction as generalizing a with
  | nil =>
    rintro (_ | n) hn
    · cases hn
    · simp only [itemTokens, List.flatMap_nil, List.append_nil, readItemsFrom, hread a hrest]
      cases rest with
      | nil => rfl
      | cons t rest => exact if_neg fun h => hend (congrArg some h)
  | cons b as ih =>
    rintro (_ | n) hn
    · cases hn
    · have hnext : itemTokens tokens sep (a :: b :: as) ++ rest =
          tokens a ++ sep :: (itemTokens tokens sep (b :: as) ++ rest) := by
        simp [itemTokens]
      rw [hnext, readItemsFrom, hread a (hsep _)]
      dsimp only
      rw [if_pos rfl, ih b n (Nat.lt_of_succ_lt_succ hn)]
      rfl

end

/-! ## Type aliases -/

/-- A type alias of a record. -/
structure Alias where
  /-- The name of the type. -/
  name : String
  /-- The fields in order, with their types. -/
  fields : List (String × Form)

/-- The tokens of a field with its type. -/
def fieldTokens (f : String × Form) : List Token :=
  .word f.1 :: .operator ":" :: f.2.typeTokens false

/-- Reads a field with its type. -/
def readField : List Token → Option ((String × Form) × List Token)
  | .word n :: .operator o :: rest =>
    if o = ":" then (Form.readType false rest).map fun (t, rest') => ((n, t), rest') else none
  | _ => none

/-- The tokens of a type alias. -/
def Alias.tokens (a : Alias) : List Token :=
  .word "type" :: .word "alias" :: .word a.name :: .operator "=" :: .mark '\x7b' ::
    (itemTokens fieldTokens (.mark ',') a.fields ++ [.mark '\x7d'])

/-- Reads a type alias. -/
def readAlias : List Token → Option Alias
  | .word w :: .word w' :: .word n :: .operator o :: .mark c :: rest =>
    if w = "type" ∧ w' = "alias" ∧ o = "=" ∧ c = '\x7b' then
      match readItems readField (.mark ',') rest with
      | some (fields, [.mark c']) => if c' = '\x7d' then some ⟨n, fields⟩ else none
      | _ => none
    else none
  | _ => none

theorem readField_tokens (f : String × Form) {rest : List Token} (h : NoArgument rest) :
    readField (fieldTokens f ++ rest) = some (f, rest) := by
  rw [fieldTokens, List.cons_append, List.cons_append, readField, if_pos rfl,
    Form.readType_tokens f.2 false h]
  rfl

/-- A type alias with a field is read back. -/
theorem readAlias_tokens (a : Alias) (h : a.fields ≠ []) : readAlias a.tokens = some a := by
  rw [Alias.tokens, readAlias, if_pos ⟨rfl, rfl, rfl, rfl⟩,
    readItems_tokens readField_tokens (.mark (by decide)) (.mark (by decide) _) (by decide) h]
  exact if_pos rfl

/-! ## Decoders -/

/-- A step of a decoder, which reads the value under a key. -/
structure Step where
  /-- The key. -/
  key : String
  /-- The decoder of the value. -/
  value : Form
  /-- Whether nothing is taken for a missing value. -/
  optional : Bool

/-- A decoder of a record. -/
structure Decoder where
  /-- The name of the decoder. -/
  name : String
  /-- The type of what it gives. -/
  type : String
  /-- The function that takes the values. -/
  constructor : String
  /-- The steps in order. -/
  steps : List Step

/-- The tokens of a step. -/
def Step.tokens (m : Imports) (s : Step) : List Token :=
  .word (m.pipeline ++ if s.optional then ".optional" else ".required") :: .text s.key ::
    (s.value.codecTokens m.decode ++ if s.optional then [.word "Nothing"] else [])

/-- Reads a step. -/
def readStep (m : Imports) : List Token → Option (Step × List Token)
  | .word w :: .text key :: rest =>
    match Form.readCodec m.decode rest with
    | none => none
    | some (value, rest') =>
      if w = m.pipeline ++ ".required" then some (⟨key, value, false⟩, rest')
      else if w = m.pipeline ++ ".optional" then
        match rest' with
        | .word n :: rest'' => if n = "Nothing" then some (⟨key, value, true⟩, rest'') else none
        | _ => none
      else none
  | _ => none

/-- The tokens of a decoder. -/
def Decoder.tokens (m : Imports) (d : Decoder) : List Token :=
  .word d.name :: .operator ":" :: .word (m.decode ++ ".Decoder") :: .word d.type ::
    .word d.name :: .operator "=" :: .word (m.decode ++ ".succeed") :: .word d.constructor ::
    d.steps.flatMap fun s => .operator "|>" :: s.tokens m

/-- Reads a decoder. -/
def readDecoder (m : Imports) : List Token → Option Decoder
  | .word n :: .operator o :: .word w :: .word type :: .word n' :: .operator o' :: .word w' ::
      .word constructor :: .operator o'' :: rest =>
    if n' = n ∧ o = ":" ∧ w = m.decode ++ ".Decoder" ∧ o' = "=" ∧ w' = m.decode ++ ".succeed" ∧
        o'' = "|>" then
      match readItems (readStep m) (.operator "|>") rest with
      | some (steps, []) => some ⟨n, type, constructor, steps⟩
      | _ => none
    else none
  | _ => none

theorem readStep_tokens (m : Imports) (s : Step) (rest : List Token) :
    readStep m (s.tokens m ++ rest) = some (s, rest) := by
  obtain ⟨key, value, optional⟩ := s
  cases optional with
  | false =>
    have htokens : Step.tokens m ⟨key, value, false⟩ ++ rest =
        .word (m.pipeline ++ ".required") :: .text key ::
          (value.codecTokens m.decode ++ rest) := by simp [Step.tokens]
    rw [htokens, readStep, Form.readCodec_tokens]
    exact if_pos rfl
  | true =>
    have htokens : Step.tokens m ⟨key, value, true⟩ ++ rest =
        .word (m.pipeline ++ ".optional") :: .text key ::
          (value.codecTokens m.decode ++ .word "Nothing" :: rest) := by simp [Step.tokens]
    rw [htokens, readStep, Form.readCodec_tokens]
    dsimp only
    rw [if_neg (by simp), if_pos rfl, if_pos rfl]

/-- A decoder with a step is read back. -/
theorem readDecoder_tokens (m : Imports) (d : Decoder) (h : d.steps ≠ []) :
    readDecoder m (d.tokens m) = some d := by
  have hsteps : (d.steps.flatMap fun s => .operator "|>" :: s.tokens m) =
      .operator "|>" :: (itemTokens (Step.tokens m) (.operator "|>") d.steps ++ []) := by
    obtain ⟨s, steps, hs⟩ := List.exists_cons_of_ne_nil h
    simp [hs, itemTokens]
  rw [Decoder.tokens, hsteps, readDecoder, if_pos ⟨rfl, rfl, rfl, rfl, rfl, rfl⟩,
    readItems_tokens (fun s _ _ => readStep_tokens m s _) (.operator _) .nil (by simp) h]

/-! ## Encoders -/

/-- A key of an encoder with the encoding of a field. -/
structure Pair where
  /-- The key. -/
  key : String
  /-- The helper that is applied to the encoder, if there is one. -/
  helper : Option String
  /-- The encoder of the value. -/
  value : Form
  /-- The field with the value. -/
  field : String

/-- An encoder of a record. -/
structure Encoder where
  /-- The name of the encoder. -/
  name : String
  /-- The type of what it takes. -/
  type : String
  /-- The name of its argument. -/
  argument : String
  /-- The keys in order. -/
  pairs : List Pair

/-- The field of an argument that a word stands for. -/
def fieldOf? (argument w : String) : Option String :=
  if (argument ++ ".").toList <+: w.toList then
    some (String.ofList (w.toList.drop (argument ++ ".").toList.length))
  else none

/-- The tokens of a key with the encoding of a field. -/
def Pair.tokens (m : Imports) (argument : String) (p : Pair) : List Token :=
  .mark '(' :: .text p.key :: .mark ',' ::
    (p.helper.toList.map .word ++ p.value.codecTokens m.encode ++
      [.word (argument ++ "." ++ p.field), .mark ')'])

/-- Reads a key with the encoding of a field. -/
def readPair (m : Imports) (argument : String) : List Token → Option (Pair × List Token)
  | .mark c :: .text key :: .mark c' :: rest =>
    if c = '(' ∧ c' = ',' then do
      let (first, rest) ← Form.readCodec m.encode rest
      let (second, rest) ← Form.readCodec m.encode rest
      match second, rest with
      | .named w, .mark ')' :: rest =>
        return (⟨key, none, first, ← fieldOf? argument w⟩, rest)
      | value, rest =>
        let (third, rest) ← Form.readCodec m.encode rest
        match first, third, rest with
        | .named helper, .named w, .mark ')' :: rest =>
          return (⟨key, some helper, value, ← fieldOf? argument w⟩, rest)
        | _, _, _ => none
    else none
  | _ => none

/-- The tokens of an encoder. -/
def Encoder.tokens (m : Imports) (e : Encoder) : List Token :=
  .word e.name :: .operator ":" :: .word e.type :: .operator "->" ::
    .word (m.encode ++ ".Value") :: .word e.name :: .word e.argument :: .operator "=" ::
    .word (m.encode ++ ".object") :: .mark '[' ::
    (itemTokens (Pair.tokens m e.argument) (.mark ',') e.pairs ++ [.mark ']'])

/-- Reads an encoder. -/
def readEncoder (m : Imports) : List Token → Option Encoder
  | .word n :: .operator o :: .word type :: .operator o' :: .word w :: .word n' ::
      .word argument :: .operator o'' :: .word w' :: .mark c :: rest =>
    if n' = n ∧ o = ":" ∧ o' = "->" ∧ w = m.encode ++ ".Value" ∧ o'' = "=" ∧
        w' = m.encode ++ ".object" ∧ c = '[' then
      match readItems (readPair m argument) (.mark ',') rest with
      | some (pairs, [.mark c']) => if c' = ']' then some ⟨n, type, argument, pairs⟩ else none
      | _ => none
    else none
  | _ => none

theorem fieldOf?_eq (argument field : String) :
    fieldOf? argument (argument ++ "." ++ field) = some field := by
  have hw : (argument ++ "." ++ field).toList = (argument ++ ".").toList ++ field.toList :=
    String.toList_append ..
  rw [fieldOf?, hw, if_pos (List.prefix_append _ _), List.drop_left, String.ofList_toList]

theorem readPair_tokens (m : Imports) (argument : String) (p : Pair) (rest : List Token) :
    readPair m argument (p.tokens m argument ++ rest) = some (p, rest) := by
  obtain ⟨key, helper, value, field⟩ := p
  have hword : ∀ w rest, Form.readCodec m.encode (.word w :: rest) = some (.named w, rest) :=
    fun w rest => rfl
  cases helper with
  | none =>
    have htokens : Pair.tokens m argument ⟨key, none, value, field⟩ ++ rest =
        .mark '(' :: .text key :: .mark ',' :: (value.codecTokens m.encode ++
          .word (argument ++ "." ++ field) :: .mark ')' :: rest) := by simp [Pair.tokens]
    rw [htokens, readPair, if_pos ⟨rfl, rfl⟩, Form.readCodec_tokens]
    simp only [Option.bind_eq_bind, Option.bind_some, hword, fieldOf?_eq]
    rfl
  | some helper =>
    have htokens : Pair.tokens m argument ⟨key, some helper, value, field⟩ ++ rest =
        .mark '(' :: .text key :: .mark ',' :: .word helper :: (value.codecTokens m.encode ++
          .word (argument ++ "." ++ field) :: .mark ')' :: rest) := by simp [Pair.tokens]
    rw [htokens, readPair, if_pos ⟨rfl, rfl⟩]
    simp only [Option.bind_eq_bind, Option.bind_some, hword, Form.readCodec_tokens, fieldOf?_eq]
    rfl

/-- An encoder with a key is read back. -/
theorem readEncoder_tokens (m : Imports) (e : Encoder) (h : e.pairs ≠ []) :
    readEncoder m (e.tokens m) = some e := by
  rw [Encoder.tokens, readEncoder, if_pos ⟨rfl, rfl, rfl, rfl, rfl, rfl, rfl⟩,
    readItems_tokens (fun p _ _ => readPair_tokens m e.argument p _) (.mark (by decide))
      (.mark (by decide) _) (by decide) h]
  exact if_pos rfl

/-! ## The helper for missing values -/

/-- A helper that applies a function to a value that is there, and else takes another one. -/
structure Helper where
  /-- The name of the helper. -/
  name : String
  /-- The name of its argument. -/
  argument : String
  /-- The function that is applied. -/
  applied : String
  /-- What is taken for a missing value. -/
  fallback : String

/-- The tokens of a helper. -/
def Helper.tokens (m : Imports) (h : Helper) : List Token :=
  [.word h.name, .operator ":", .mark '(', .word "a", .operator "->", .word (m.encode ++ ".Value"),
    .mark ')', .operator "->", .word "Maybe", .word "a", .operator "->",
    .word (m.encode ++ ".Value"), .word h.name, .word h.argument, .operator "=",
    .word "Maybe.map", .word h.applied, .operator ">>", .word "Maybe.withDefault",
    .word h.fallback]

/-- Reads a helper. -/
def readHelper (m : Imports) (ts : List Token) : Option Helper :=
  match ts with
  | .word name :: _ :: _ :: _ :: _ :: _ :: _ :: _ :: _ :: _ :: _ :: _ :: _ :: .word argument ::
      _ :: _ :: .word applied :: _ :: _ :: .word fallback :: [] =>
    let helper : Helper := ⟨name, argument, applied, fallback⟩
    if ts = helper.tokens m then some helper else none
  | _ => none

theorem readHelper_tokens (m : Imports) (h : Helper) : readHelper m (h.tokens m) = some h :=
  if_pos rfl

end ElmCodec.Elm
