import TokenGrammar.Toml.Number

set_option autoImplicit false

/-! Paths: where an entry stands. A path is written as a name, behind which names follow points and
numbers stand in brackets. A number means a place in a list, which need not be there yet but must be
one that a list can have. -/

namespace TokenGrammar.Settings

inductive Step where
  | field (name : String)
  | item (index : Int)
  deriving DecidableEq

namespace Step

def isNameCharacter (character : Char) : Bool :=
  character.isAlphanum || character == '_' || character == '-' || character == ' '

def name? (source : List Char) : Option (String × List Char) :=
  let name := source.takeWhile isNameCharacter
  if name.isEmpty then none else some (String.ofList name, source.dropWhile isNameCharacter)

def index? (source : List Char) : Option (Int × List Char) := do
  let unblanked := Toml.skipBlanks source
  let negative : Bool := unblanked.head? == some '-'
  let text := if negative then unblanked.drop 1 else unblanked
  let digits := text.takeWhile Char.isDigit
  if digits.isEmpty then none
  else
    let magnitude : Int := Toml.digitsValue 10 digits
    let number ← Toml.sized? (if negative then -magnitude else magnitude)
    match Toml.skipBlanks (text.dropWhile Char.isDigit) with
    | ']' :: rest => some (number, rest)
    | _ => none

def later? : Nat → List Char → Option (List Step)
  | _, [] => some []
  | count + 1, '.' :: text => do
      let (name, rest) ← name? text
      return field name :: (← later? count rest)
  | count + 1, '[' :: text => do
      let (index, rest) ← index? text
      return item index :: (← later? count rest)
  | _, _ => none

def path? (path : String) : Option (List Step) := do
  let (name, rest) ← name? path.toList
  return field name :: (← later? rest.length rest)

end Step

/-! ### Places in lists -/

inductive PlaceError where
  | beforeStart
  | noRoom
  deriving DecidableEq

def PlaceError.message : PlaceError → String
  | .beforeStart => "attempt to subtract with overflow"
  | .noRoom => "capacity overflow"

def roomLimit : Nat := Nat.pow 2 32

def placeOf (length : Nat) (index : Int) : Except PlaceError Nat :=
  if 0 ≤ index then
    if index.toNat < roomLimit then .ok index.toNat else .error .noRoom
  else if index.natAbs ≤ length then .ok (length - index.natAbs)
  else .error .beforeStart

end TokenGrammar.Settings
