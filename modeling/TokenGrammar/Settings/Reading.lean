import TokenGrammar.Output
import TokenGrammar.Settings.Entry

set_option autoImplicit false

/-! Reading settings: what an entry means where a text, a truth value, a number or a format is
wanted. Values of other kinds are accepted where their meaning is plain. -/

namespace TokenGrammar.Settings

inductive SettingsError where
  | missingFile (name : String)
  | malformedFile (name : String)
  | malformedPath (path : String)
  | misplaced (cause : PlaceError)
  | wrongType (found expected key : String) (origin : Option String)
  | malformed (explanation : String)
  deriving DecidableEq

def SettingsError.message : SettingsError → String
  | .missingFile name => "configuration file \"" ++ name ++ "\" not found"
  | .malformedFile name => "malformed configuration file " ++ name
  | .malformedPath path => "malformed key " ++ path
  | .misplaced cause => cause.message
  | .wrongType found expected key origin =>
      "invalid type: " ++ found ++ ", expected " ++ expected ++ " for key `" ++ key ++ "`" ++
        ((origin.map (fun file => " in " ++ file)).getD "")
  | .malformed explanation => explanation

namespace Entry

def quotedText (text : String) : String :=
  "string " ++ String.ofList (Text.quoted text.toList)

def shape : Entry → String
  | list _ _ => "sequence"
  | table _ _ => "map"
  | nothing => "unit value"
  | scalar _ _ => "value"

def refuse {α : Type} (entry : Entry) (key found expected : String) : Except SettingsError α :=
  .error (.wrongType found expected key entry.origin)

def readText (key : String) (entry : Entry) : Except SettingsError String :=
  match entry with
  | scalar _ (.text value) => .ok value
  | scalar _ (.integer value) => .ok (String.ofList (Json.integerText value))
  | scalar _ (.float value) => .ok (String.ofList (FloatLayout.plain.text value))
  | scalar _ (.boolean value) => .ok (String.ofList (Json.booleanText value))
  | other => other.refuse key other.shape "a string"

def affirmations : List String := ["true", "on", "yes"]

def denials : List String := ["false", "off", "no"]

/-- An entry as a truth value: a number is true unless it is zero, and some texts stand for one in
any case. -/
def readBoolean (key : String) (entry : Entry) : Except SettingsError Bool :=
  match entry with
  | scalar _ (.boolean value) => .ok value
  | scalar _ (.integer value) => .ok (value != 0)
  | scalar _ (.float value) => .ok (value != 0)
  | scalar origin (.text value) =>
      let lower := Text.lowerCaseString value
      if affirmations.contains lower || lower == "1" then .ok true
      else if denials.contains lower || lower == "0" then .ok false
      else (scalar origin (.text value)).refuse key (quotedText lower) "a boolean"
  | other => other.refuse key other.shape "a boolean"

def spelledNatural? (text : List Char) : Option Nat :=
  let digits :=
    match text with
    | '+' :: rest => rest
    | _ => text
  if digits.isEmpty || !digits.all Char.isDigit then none
  else
    let number := Toml.digitsValue 10 digits
    if number < Nat.pow 2 64 then some number else none

/-- An entry as a natural number: truth values count one and nothing, and a float is rounded with
halves away from zero. -/
def readNatural (key : String) (entry : Entry) : Except SettingsError Nat :=
  match entry with
  | scalar origin (.integer value) =>
      if 0 ≤ value then .ok value.toNat
      else
        (scalar origin (.integer value)).refuse key
          ("64-bit integer `" ++ String.ofList (Json.integerText value) ++ "`")
          "an unsigned 64 bit or less integer"
  | scalar _ (.boolean value) => .ok (if value then 1 else 0)
  | scalar _ (.float value) => .ok value.round.toUInt64.toNat
  | scalar origin (.text value) =>
      let lower := Text.lowerCaseString value
      if affirmations.contains lower then .ok 1
      else if denials.contains lower then .ok 0
      else
        match spelledNatural? value.toList with
        | some number => .ok number
        | none => (scalar origin (.text value)).refuse key (quotedText value) "an integer"
  | other => other.refuse key other.shape "an integer"

def formatNamed (name : String) : Except SettingsError OutputFormat :=
  match OutputFormat.named? (Text.lowerCaseString name) with
  | some format => .ok format
  | none => .error (.malformed ("enum OutputFormat does not have variant constructor " ++ name))

/-- An entry as a format: its name, or a table whose only key is its name. -/
def readFormat (entry : Entry) : Except SettingsError OutputFormat :=
  match entry with
  | scalar _ (.text name) => formatNamed name
  | table _ [(name, _)] => formatNamed name
  | _ => .error (.malformed ("value of enum OutputFormat should be represented by either string or " ++
      "table with exactly one key"))

/-! ### Sections -/

def scalarText : Scalar → String
  | .text value => quotedText value
  | .integer value => "integer `" ++ String.ofList (Json.integerText value) ++ "`"
  | .boolean value => "boolean `" ++ String.ofList (Json.booleanText value) ++ "`"
  | .float value =>
      let text := FloatLayout.plain.text value
      let whole := value.isFinite && !text.contains '.'
      "floating point `" ++ String.ofList (if whole then text ++ ".0".toList else text) ++ "`"

/-- The two fields of a section, if they are there, with the keys they go by in an explanation. A
list gives its items in order. `struct` is what a section is called in an explanation. -/
def sectionFields (name struct first second : String) (entry : Entry) :
    Except SettingsError ((String × Option Entry) × (String × Option Entry)) :=
  match entry with
  | table _ fields =>
      .ok ((name ++ "." ++ first, fields.lookup first), (name ++ "." ++ second, fields.lookup second))
  | list _ items => .ok ((name ++ "[0]", items[0]?), (name ++ "[1]", items[1]?))
  | scalar _ value =>
      .error (.malformed ("invalid type: " ++ scalarText value ++ ", expected struct " ++ struct))
  | nothing =>
      .error (.malformed ("invalid type: " ++ nothing.shape ++ ", expected struct " ++ struct))

def missingField (entry : Entry) (struct field : String) : SettingsError :=
  match entry with
  | list _ items =>
      .malformed ("invalid length " ++ toString items.length ++ ", expected struct " ++ struct ++
        " with 2 elements")
  | _ => .malformed ("missing field `" ++ field ++ "`")

def readPresent {α : Type} (read : String → Entry → Except SettingsError α)
    (field : String × Option Entry) : Except SettingsError (Option α) :=
  match field with
  | (key, some entry) => (read key entry).map some
  | (_, none) => .ok none

def comesBefore (name other : String) (fields : List (String × Entry)) : Bool :=
  (fields.map Prod.fst).find? (fun key => key == name || key == other) == some name

/-- Two readings, the second one first if they are made backwards. The first failure counts. -/
def readBoth {α β : Type} (backwards : Bool) (first : Except SettingsError α)
    (second : Except SettingsError β) : Except SettingsError (α × β) :=
  if backwards then do
    let right ← second
    let left ← first
    return (left, right)
  else do
    let left ← first
    let right ← second
    return (left, right)

/-- Reads a section of two fields, those of a table in the order in which they are gone through.
Fields that are there are read before one that is missing is complained about. -/
def readSection {α β : Type} (arrange : List (String × Entry) → List (String × Entry))
    (name struct first second : String) (readFirst : String → Entry → Except SettingsError α)
    (readSecond : String → Entry → Except SettingsError β) (entry : Entry) :
    Except SettingsError (α × β) := do
  let (firstField, secondField) ← entry.sectionFields name struct first second
  let values ← readBoth (comesBefore second first (arrange entry.asTable.2))
    (readPresent readFirst firstField) (readPresent readSecond secondField)
  match values with
  | (some left, some right) => return (left, right)
  | (none, _) => throw (entry.missingField struct first)
  | (_, none) => throw (entry.missingField struct second)

end Entry

end TokenGrammar.Settings
