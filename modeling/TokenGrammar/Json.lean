import TokenGrammar.Text.Quoted

set_option autoImplicit false

/-! JSON texts: trees, and two ways of writing them. The compact one has no blanks outside strings;
the indented one puts every item and every field on a line of its own, two spaces deeper than what
holds it. -/

namespace TokenGrammar

inductive Json where
  | null
  | boolean (value : Bool)
  | integer (value : Int)
  | decimal (literal : List Char)
  | text (value : String)
  | array (items : List Json)
  | object (fields : List (String × Json))

namespace Json

/-! ### Leaves -/

def controlEscape (character : Char) : List Char :=
  let digits := Text.hexDigits character.toNat
  '\\' :: 'u' :: (List.replicate (4 - digits.length) '0' ++ digits)

/-- How one character is written inside a string: the quote, the backslash and the control
characters below the space are escaped, everything else is itself. -/
def stringCharacter (character : Char) : List Char :=
  if character = '"' then ['\\', '"']
  else if character = '\\' then ['\\', '\\']
  else if character = '\x08' then ['\\', 'b']
  else if character = '\x0c' then ['\\', 'f']
  else if character = '\n' then ['\\', 'n']
  else if character = '\r' then ['\\', 'r']
  else if character = '\t' then ['\\', 't']
  else if character.toNat < 0x20 then controlEscape character
  else [character]

def stringText (value : List Char) : List Char :=
  '"' :: (value.flatMap stringCharacter ++ ['"'])

def integerText (value : Int) : List Char :=
  if value < 0 then '-' :: Text.decimalDigits value.natAbs else Text.decimalDigits value.natAbs

def booleanText (value : Bool) : List Char :=
  if value then "true".toList else "false".toList

/-! ### Compact texts -/

mutual

def compactText : Json → List Char
  | null => "null".toList
  | boolean value => booleanText value
  | integer value => integerText value
  | decimal literal => literal
  | text value => stringText value.toList
  | array items => '[' :: (compactItems items ++ [']'])
  | object fields => '\x7b' :: (compactFields fields ++ ['\x7d'])

def compactItems : List Json → List Char
  | [] => []
  | [item] => compactText item
  | item :: later => compactText item ++ ',' :: compactItems later

def compactFields : List (String × Json) → List Char
  | [] => []
  | [(name, value)] => stringText name.toList ++ ':' :: compactText value
  | (name, value) :: later =>
      stringText name.toList ++ ':' :: (compactText value ++ ',' :: compactFields later)

end

/-! ### Indented texts -/

def lineBreak (depth : Nat) : List Char :=
  '\n' :: List.replicate (2 * depth) ' '

mutual

/-- The text with one line for each item and field; `depth` says how deep the text itself stands. An
empty array or object stays on one line. -/
def indentedText (depth : Nat) : Json → List Char
  | null => "null".toList
  | boolean value => booleanText value
  | integer value => integerText value
  | decimal literal => literal
  | text value => stringText value.toList
  | array [] => ['[', ']']
  | array (item :: later) =>
      '[' :: (lineBreak (depth + 1) ++ indentedText (depth + 1) item ++
        indentedItems depth later ++ lineBreak depth ++ [']'])
  | object [] => ['\x7b', '\x7d']
  | object ((name, value) :: later) =>
      '\x7b' :: (lineBreak (depth + 1) ++ stringText name.toList ++ ':' :: ' ' ::
        (indentedText (depth + 1) value ++ indentedFields depth later ++ lineBreak depth ++
          ['\x7d']))

def indentedItems (depth : Nat) : List Json → List Char
  | [] => []
  | item :: later =>
      ',' :: (lineBreak (depth + 1) ++ indentedText (depth + 1) item ++ indentedItems depth later)

def indentedFields (depth : Nat) : List (String × Json) → List Char
  | [] => []
  | (name, value) :: later =>
      ',' :: (lineBreak (depth + 1) ++ stringText name.toList ++ ':' :: ' ' ::
        (indentedText (depth + 1) value ++ indentedFields depth later))

end

end Json

end TokenGrammar
