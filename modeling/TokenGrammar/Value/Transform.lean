import TokenGrammar.Value

set_option autoImplicit false

/-! Transforms: total functions on values that a grammar node applies to everything it yields, and a
small library of them that can be called by name. -/

namespace TokenGrammar

abbrev Transform := Value → Value

/-- Reads a signed decimal number: at most one sign, then one or more ASCII digits, and a value that
fits in 64 bits. -/
def readInteger? (text : List Char) : Option Int64 :=
  let (negative, digits) : Bool × List Char :=
    match text with
    | '-' :: rest => (true, rest)
    | '+' :: rest => (false, rest)
    | _ => (false, text)
  if digits.isEmpty || !digits.all Char.isDigit then none
  else
    let magnitude := digits.foldl (fun total digit => total * 10 + (digit.toNat - '0'.toNat)) 0
    let number : Int := if negative then -(magnitude : Int) else magnitude
    if -Int.pow 2 63 ≤ number && number < Int.pow 2 63 then some (Int64.ofInt number) else none

namespace Transform

def toNull : Transform := fun _ => .null

def isNull : Transform := fun value => .boolean value.isNull

def count : Transform
  | .list items => .integer (Int64.ofNat items.length)
  | _ => .integer (-1)

def integer : Transform
  | .token token => ((readInteger? token.text.toList).map Value.integer).getD .null
  | _ => .null

def text : Transform
  | .token token => .text token.text
  | .text value => .text value
  | _ => .null

def kind : Transform
  | .token token => .text token.kind.name
  | _ => .null

def span : Transform
  | .token token =>
      .list [.integer (Int64.ofNat token.span.start), .integer (Int64.ofNat token.span.stop)]
  | _ => .null

def texts : Transform := fun value =>
  .text (String.join (value.tokens.map Token.text))

def flatten : Transform := fun value =>
  .list (value.tokens.map Value.token)

def first : Transform
  | .list (item :: _) => item
  | _ => .null

def reverse : Transform
  | .list items => .list items.reverse
  | value => value

def wrap : Transform := fun value => .list [value]

/-- The sum of the integers in a list, modulo 2^64; other items and other values count nothing. -/
def sum : Transform
  | .list items =>
      .integer (items.foldl (fun total item =>
        match item with
        | .integer number => total + number
        | _ => total) 0)
  | _ => .integer 0

def half : Transform
  | .integer number => .float (number.toFloat / 2.0)
  | value => value

def library : List (String × Transform) :=
  [("null", toNull), ("is_null", isNull), ("count", count), ("int", integer), ("text", text),
   ("kind", kind), ("span", span), ("texts", texts), ("flatten", flatten), ("first", first),
   ("reverse", reverse), ("wrap", wrap), ("sum", sum), ("half", half)]

def named? (name : String) : Option Transform :=
  library.lookup name

end Transform

end TokenGrammar
