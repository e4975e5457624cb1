import Mathlib.Tactic.SplitIfs
import TokenGrammar.Output
import TokenGrammar.Text.Pieces

set_option autoImplicit false

/-! The grammar of JSON texts, with the tree that a text denotes. It admits every way to write a
tree: blanks around values, names and separators, all escapes of strings, numbers with a fraction
or an exponent. The main statement is that a tree is denoted by its compact text. -/

namespace TokenGrammar.Json

def AreBlank (text : List Char) : Prop :=
  ∀ character ∈ text, character.isWhitespace = true

/-! ### Numbers -/

def AreDigits (text : List Char) : Prop :=
  text ≠ [] ∧ ∀ character ∈ text, character.isDigit = true

def IsWhole (digits : List Char) : Prop :=
  AreDigits digits ∧ (digits.head? = some '0' → digits = ['0'])

def IsFraction : List Char → Prop
  | [] => True
  | point :: digits => point = '.' ∧ AreDigits digits

def IsSigned : List Char → Prop
  | [] => False
  | sign :: digits => (sign = '+' ∨ sign = '-') ∧ AreDigits digits

def IsExponent : List Char → Prop
  | [] => True
  | mark :: power => (mark = 'e' ∨ mark = 'E') ∧ (AreDigits power ∨ IsSigned power)

instance (text : List Char) : Decidable (AreDigits text) :=
  inferInstanceAs (Decidable (_ ∧ _))

instance (digits : List Char) : Decidable (IsWhole digits) :=
  inferInstanceAs (Decidable (_ ∧ _))

instance : DecidablePred IsFraction
  | [] => isTrue trivial
  | point :: digits => inferInstanceAs (Decidable (point = '.' ∧ AreDigits digits))

instance : DecidablePred IsSigned
  | [] => isFalse id
  | sign :: digits => inferInstanceAs (Decidable ((sign = '+' ∨ sign = '-') ∧ AreDigits digits))

instance : DecidablePred IsExponent
  | [] => isTrue trivial
  | mark :: power => inferInstanceAs
      (Decidable ((mark = 'e' ∨ mark = 'E') ∧ (AreDigits power ∨ IsSigned power)))

/-- A number by its parts. A fraction begins with the point and an exponent with its mark. -/
structure Numeral where
  negative : Bool
  whole : List Char
  fraction : List Char
  exponent : List Char

namespace Numeral

def raw (numeral : Numeral) : List Char :=
  (if numeral.negative then ['-'] else []) ++
    (numeral.whole ++ (numeral.fraction ++ numeral.exponent))

def Fits (numeral : Numeral) : Prop :=
  IsWhole numeral.whole ∧ IsFraction numeral.fraction ∧ IsExponent numeral.exponent

instance (numeral : Numeral) : Decidable numeral.Fits :=
  inferInstanceAs (Decidable (_ ∧ _))

def tree (numeral : Numeral) : Json :=
  if numeral.fraction = [] ∧ numeral.exponent = [] then
    let magnitude : Int := Nat.ofDigitChars 10 numeral.whole 0
    .integer (if numeral.negative then -magnitude else magnitude)
  else .decimal numeral.raw

end Numeral

/-! ### Strings -/

def hexValue? (digit : Char) : Option Nat :=
  if digit.isDigit then some (digit.toNat - '0'.toNat)
  else if 'a' ≤ digit ∧ digit ≤ 'f' then some (digit.toNat - 'a'.toNat + 10)
  else if 'A' ≤ digit ∧ digit ≤ 'F' then some (digit.toNat - 'A'.toNat + 10)
  else none

def codeUnit? (digits : List Char) : Option Nat :=
  if digits.length = 4 then
    digits.foldlM (fun number digit => (hexValue? digit).map (fun value => 16 * number + value)) 0
  else none

def shortEscapes : List (Char × Char) :=
  [('"', '"'), ('\\', '\\'), ('/', '/'), ('b', '\x08'), ('f', '\x0c'), ('n', '\n'), ('r', '\r'),
    ('t', '\t')]

/-- A character above `U+FFFF` may be written as two code units, its high bits first. -/
inductive DenotesCharacter : List Char → Char → Prop
  | itself {character : Char} (visible : 0x20 ≤ character.toNat) (notQuote : character ≠ '"')
      (notBackslash : character ≠ '\\') : DenotesCharacter [character] character
  | short {letter character : Char} (listed : (letter, character) ∈ shortEscapes) :
      DenotesCharacter ['\\', letter] character
  | code {digits : List Char} {character : Char}
      (number : codeUnit? digits = some character.toNat) :
      DenotesCharacter ('\\' :: 'u' :: digits) character
  | pair {highDigits lowDigits : List Char} {high low : Nat} {character : Char}
      (highNumber : codeUnit? highDigits = some (0xD800 + high)) (highBound : high < 0x400)
      (lowNumber : codeUnit? lowDigits = some (0xDC00 + low)) (lowBound : low < 0x400)
      (number : character.toNat = 0x10000 + 0x400 * high + low) :
      DenotesCharacter ('\\' :: 'u' :: (highDigits ++ '\\' :: 'u' :: lowDigits)) character

inductive DenotesContent : List Char → List Char → Prop
  | nil : DenotesContent [] []
  | cons {text body content : List Char} {character : Char}
      (first : DenotesCharacter text character) (later : DenotesContent body content) :
      DenotesContent (text ++ body) (character :: content)

/-! ### Values -/

/-- The parts stand between brackets: divided by commas, or nothing but blanks if there are none. -/
def Lists (inner : List Char) (parts : List (List Char)) : Prop :=
  if parts = [] then AreBlank inner else inner = Text.joined [','] parts

structure WrittenField where
  before : List Char
  nameBody : List Char
  between : List Char
  valueText : List Char
  name : String
  value : Json

namespace WrittenField

def raw (field : WrittenField) : List Char :=
  field.before ++ '"' :: (field.nameBody ++ '"' :: (field.between ++ ':' :: field.valueText))

structure Named (field : WrittenField) : Prop where
  before : AreBlank field.before
  between : AreBlank field.between
  name : DenotesContent field.nameBody field.name.toList

end WrittenField

/-- The text is a way to write the tree; a text is well formed if there is such a tree. -/
inductive Denotes : List Char → Json → Prop
  | null : Denotes ['n', 'u', 'l', 'l'] .null
  | yes : Denotes ['t', 'r', 'u', 'e'] (.boolean true)
  | no : Denotes ['f', 'a', 'l', 's', 'e'] (.boolean false)
  | number {numeral : Numeral} (fits : numeral.Fits) : Denotes numeral.raw numeral.tree
  | text {body : List Char} {value : String} (content : DenotesContent body value.toList) :
      Denotes ('"' :: (body ++ ['"'])) (.text value)
  | array {inner : List Char} {items : List (List Char × Json)}
      (listed : Lists inner (items.map Prod.fst))
      (denoted : ∀ item ∈ items, Denotes item.1 item.2) :
      Denotes ('[' :: (inner ++ [']'])) (.array (items.map Prod.snd))
  | object {inner : List Char} {fields : List WrittenField}
      (listed : Lists inner (fields.map WrittenField.raw))
      (named : ∀ field ∈ fields, field.Named)
      (denoted : ∀ field ∈ fields, Denotes field.valueText field.value) :
      Denotes ('\x7b' :: (inner ++ ['\x7d']))
        (.object (fields.map (fun field => (field.name, field.value))))
  | padded {before text after : List Char} {tree : Json} (blankBefore : AreBlank before)
      (blankAfter : AreBlank after) (denoted : Denotes text tree) :
      Denotes (before ++ (text ++ after)) tree

/-! ### Compact texts -/

/-- A tree without numbers that are not written as integers. -/
inductive Integral : Json → Prop
  | null : Integral .null
  | boolean (value : Bool) : Integral (.boolean value)
  | integer (value : Int) : Integral (.integer value)
  | text (value : String) : Integral (.text value)
  | array {items : List Json} (inside : ∀ item ∈ items, Integral item) : Integral (.array items)
  | object {fields : List (String × Json)} (inside : ∀ field ∈ fields, Integral field.2) :
      Integral (.object fields)

private theorem head?_toDigits_ne_zero (number : Nat) (positive : 0 < number) :
    (Nat.toDigits 10 number).head? ≠ some '0' := by
  induction number using Nat.strongRecOn with
  | _ number inductionHypothesis =>
      by_cases small : number < 10
      · rw [Nat.toDigits_of_lt_base small]
        have digits : ∀ digit < 10, 0 < digit → [Nat.digitChar digit].head? ≠ some '0' := by decide
        exact digits number small positive
      · have smaller := inductionHypothesis (number / 10) (by omega) (by omega)
        have nonempty : (Nat.toDigits 10 (number / 10)).head?.isSome = true :=
          List.isSome_head?.mpr Nat.toDigits_ne_nil
        rw [Nat.toDigits_of_base_le (by decide) (by omega), List.head?_append,
          Option.or_of_isSome nonempty]
        exact smaller

private theorem isWhole_decimalDigits (number : Nat) : IsWhole (Text.decimalDigits number) := by
  unfold Text.decimalDigits
  refine ⟨⟨Nat.toDigits_ne_nil, ?_⟩, ?_⟩
  · intro character member
    exact Nat.isDigit_of_mem_toDigits (by decide) (by decide) member
  · intro zeroFirst
    by_cases positive : 0 < number
    · exact absurd zeroFirst (head?_toDigits_ne_zero number positive)
    · have zero : number = 0 := by omega
      rw [zero]
      rfl

theorem denotes_integerText (value : Int) : Denotes (integerText value) (.integer value) := by
  let numeral : Numeral :=
    { negative := decide (value < 0)
      whole := Text.decimalDigits value.natAbs
      fraction := []
      exponent := [] }
  have fits : numeral.Fits := ⟨isWhole_decimalDigits value.natAbs, trivial, trivial⟩
  have raw : numeral.raw = integerText value := by
    unfold Numeral.raw integerText
    by_cases negative : value < 0 <;> simp [numeral, negative]
  have tree : numeral.tree = .integer value := by
    have magnitude : Nat.ofDigitChars 10 (Text.decimalDigits value.natAbs) 0 = value.natAbs :=
      Nat.ofDigitChars_ten_toDigits
    unfold Numeral.tree
    rw [if_pos ⟨rfl, rfl⟩]
    simp only [numeral, magnitude, decide_eq_true_eq, integer.injEq]
    split <;> omega
  have denotes := Denotes.number fits
  rwa [raw, tree] at denotes

private theorem codeUnit?_controlEscape (number : Nat) (control : number < 0x20) :
    codeUnit? (List.replicate (4 - (Text.hexDigits number).length) '0' ++ Text.hexDigits number) =
      some number := by
  have every : ∀ number < 0x20,
      codeUnit? (List.replicate (4 - (Text.hexDigits number).length) '0' ++
        Text.hexDigits number) = some number := by decide
  exact every number control

private theorem denotesCharacter_stringCharacter (character : Char) :
    DenotesCharacter (stringCharacter character) character := by
  unfold stringCharacter
  split_ifs with quote backslash backspace formFeed lineFeed carriageReturn tab control
  · exact .short (by simp [quote, shortEscapes])
  · exact .short (by simp [backslash, shortEscapes])
  · exact .short (by simp [backspace, shortEscapes])
  · exact .short (by simp [formFeed, shortEscapes])
  · exact .short (by simp [lineFeed, shortEscapes])
  · exact .short (by simp [carriageReturn, shortEscapes])
  · exact .short (by simp [tab, shortEscapes])
  · exact .code (codeUnit?_controlEscape character.toNat control)
  · exact .itself (Nat.le_of_not_lt control) quote backslash

private theorem denotesContent_flatMap (content : List Char) :
    DenotesContent (content.flatMap stringCharacter) content := by
  induction content with
  | nil => exact .nil
  | cons character later inductionHypothesis =>
      exact .cons (denotesCharacter_stringCharacter character) inductionHypothesis

theorem compactItems_eq_joined (items : List Json) :
    compactItems items = Text.joined [','] (items.map compactText) := by
  induction items with
  | nil => rfl
  | cons item later inductionHypothesis =>
      cases later with
      | nil => rfl
      | cons next others => simp [compactItems, Text.joined, inductionHypothesis]

def compactField (field : String × Json) : List Char :=
  stringText field.1.toList ++ ':' :: compactText field.2

theorem compactFields_eq_joined (fields : List (String × Json)) :
    compactFields fields = Text.joined [','] (fields.map compactField) := by
  induction fields with
  | nil => rfl
  | cons field later inductionHypothesis =>
      cases later with
      | nil => rfl
      | cons next others =>
          simp [compactFields, compactField, Text.joined, inductionHypothesis]

theorem lists_joined (parts : List (List Char)) : Lists (Text.joined [','] parts) parts := by
  unfold Lists
  split
  · rename_i empty
    rw [empty]
    simp [Text.joined, AreBlank]
  · rfl

private theorem denotes_array (items : List Json)
    (denoted : ∀ item ∈ items, Denotes item.compactText item) :
    Denotes (compactText (.array items)) (.array items) := by
  let asWritten : Json → List Char × Json := fun item => (item.compactText, item)
  have raw : (items.map asWritten).map Prod.fst = items.map compactText := by
    rw [List.map_map]
    rfl
  have read : (items.map asWritten).map Prod.snd = items := by
    rw [List.map_map]
    exact List.map_id items
  have listed : Lists (compactItems items) ((items.map asWritten).map Prod.fst) := by
    rw [raw, compactItems_eq_joined]
    exact lists_joined (items.map compactText)
  have written := Denotes.array listed (by
    intro part member
    obtain ⟨item, inItems, rfl⟩ := List.mem_map.mp member
    exact denoted item inItems)
  rwa [read] at written

private theorem denotes_object (fields : List (String × Json))
    (denoted : ∀ field ∈ fields, Denotes field.2.compactText field.2) :
    Denotes (compactText (.object fields)) (.object fields) := by
  let asWritten : String × Json → WrittenField := fun field =>
    { before := []
      nameBody := field.1.toList.flatMap stringCharacter
      between := []
      valueText := field.2.compactText
      name := field.1
      value := field.2 }
  have raw : (fields.map asWritten).map WrittenField.raw = fields.map compactField := by
    rw [List.map_map]
    apply List.map_congr_left
    intro field _
    simp [asWritten, WrittenField.raw, compactField, stringText]
  have read : (fields.map asWritten).map (fun field => (field.name, field.value)) = fields := by
    rw [List.map_map]
    exact List.map_id fields
  have listed : Lists (compactFields fields) ((fields.map asWritten).map WrittenField.raw) := by
    rw [raw, compactFields_eq_joined]
    exact lists_joined (fields.map compactField)
  have named : ∀ part ∈ fields.map asWritten, part.Named := by
    intro part member
    obtain ⟨field, _, rfl⟩ := List.mem_map.mp member
    exact ⟨nofun, nofun, denotesContent_flatMap field.1.toList⟩
  have written := Denotes.object listed named (by
    intro part member
    obtain ⟨field, inFields, rfl⟩ := List.mem_map.mp member
    exact denoted field inFields)
  rwa [read] at written

/-- The compact text of a tree is one of the ways to write it. -/
theorem denotes_compactText {tree : Json} (integral : tree.Integral) :
    Denotes tree.compactText tree := by
  induction integral with
  | null => exact .null
  | boolean value =>
      cases value
      · exact .no
      · exact .yes
  | integer value => exact denotes_integerText value
  | text value => exact .text (denotesContent_flatMap value.toList)
  | array _ inductionHypothesis => exact denotes_array _ inductionHypothesis
  | object _ inductionHypothesis => exact denotes_object _ inductionHypothesis

end TokenGrammar.Json
