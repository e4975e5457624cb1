import TokenGrammar.Decimal.Layout
import TokenGrammar.Json
import TokenGrammar.Value

set_option autoImplicit false

/-! Output formats: the compact notation for readers, and JSON. Both show token sequences and
values. -/

namespace TokenGrammar

/-! ### The compact notation -/

def Token.prettyText (token : Token) : List Char :=
  token.kind.name.toList ++ ':' :: '[' :: (token.text.toList ++ [']'])

def Token.pretty (token : Token) : String :=
  String.ofList token.prettyText

def padLeft (width : Nat) (text : List Char) : List Char :=
  List.replicate (width - text.length) ' ' ++ text

def padRight (width : Nat) (text : List Char) : List Char :=
  text ++ List.replicate (width - text.length) ' '

def Token.listingLine (token : Token) : List Char :=
  padLeft 4 (Text.decimalDigits token.span.start) ++ '.' :: '.' ::
    (padRight 4 (Text.decimalDigits token.span.stop) ++ ' ' :: (token.prettyText ++ ['\n']))

def listing (tokens : List Token) : List Char :=
  tokens.flatMap Token.listingLine

namespace Value

mutual

def prettyText : Value → List Char
  | null => "null".toList
  | boolean value => Json.booleanText value
  | integer value => Json.integerText value.toInt
  | float value => FloatLayout.plain.text value
  | text value => Text.quoted value.toList
  | token value => value.prettyText
  | list items => '[' :: (prettyTexts items ++ [']'])

def prettyTexts : List Value → List Char
  | [] => []
  | [item] => prettyText item
  | item :: later => prettyText item ++ ',' :: ' ' :: prettyTexts later

end

def pretty (value : Value) : String :=
  String.ofList value.prettyText

end Value

/-! ### JSON -/

/-- Numbers in JSON: whole numbers end in `.0`, first digits from 10^-5 to 10^15 are written without
an exponent, and a half between two shortest decimals goes to the even one. What is no number is
null. -/
def FloatLayout.json : FloatLayout :=
  { tie := .toEven
    isPositional := fun leading => decide (-5 ≤ leading) && decide (leading ≤ 15)
    wholeEnd := ".0".toList
    nan := "null".toList
    infinity := "null".toList
    negativeInfinity := "null".toList }

def Span.toJson (span : Span) : Json :=
  .object [("start", .integer span.start), ("end", .integer span.stop), ("file", .text span.file)]

def Token.toJson (token : Token) : Json :=
  .object [("kind", .text token.kind.label), ("text", .text token.text),
    ("span", token.span.toJson)]

namespace Value

mutual

def toJson : Value → Json
  | null => .null
  | boolean value => .boolean value
  | integer value => .integer value.toInt
  | float value => .decimal (FloatLayout.json.text value)
  | text value => .text value
  | token value => value.toJson
  | list items => .array (toJsons items)

def toJsons : List Value → List Json
  | [] => []
  | item :: later => toJson item :: toJsons later

end

def jsonText (value : Value) : List Char :=
  value.toJson.compactText

end Value

def tokensJsonText (tokens : List Token) : List Char :=
  (Json.array (tokens.map Token.toJson)).indentedText 0

/-! ### Formats by name -/

inductive OutputFormat where
  | pretty
  | json
  deriving DecidableEq

namespace OutputFormat

def preset : OutputFormat := pretty

def name : OutputFormat → String
  | pretty => "pretty"
  | json => "json"

def named? (name : String) : Option OutputFormat :=
  [pretty, json].find? (fun format => format.name == name)

def notFoundMessage (name : String) : String :=
  "Format '" ++ name ++ "' not found"

def renderValue : OutputFormat → Value → List Char
  | pretty, value => value.prettyText
  | json, value => value.jsonText

def renderTokens : OutputFormat → List Token → List Char
  | pretty, tokens => listing tokens
  | json, tokens => tokensJsonText tokens

end OutputFormat

end TokenGrammar
