import TokenGrammar.Decimal.Shortest

set_option autoImplicit false

/-! Texts of floating-point numbers. A layout says which exponents are written out in full, how
whole numbers end, and what stands for the numbers that are no decimals. -/

namespace TokenGrammar

inductive FloatClass where
  | nan
  | infinite (negative : Bool)
  | zero (negative : Bool)
  | nonzero (negative : Bool) (magnitude : Decimal.Binary)

def FloatClass.ofBits (bits : Nat) : FloatClass :=
  let negative := decide (bits / Nat.pow 2 63 % 2 = 1)
  let biased : Nat := bits / Nat.pow 2 52 % Nat.pow 2 11
  let fraction : Nat := bits % Nat.pow 2 52
  if biased = Nat.pow 2 11 - 1 then
    if fraction = 0 then .infinite negative else .nan
  else if biased = 0 then
    if fraction = 0 then .zero negative
    else .nonzero negative { mantissa := fraction, exponent := -1074, closerBelow := false }
  else
    .nonzero negative
      { mantissa := Nat.pow 2 52 + fraction
        exponent := (biased : Int) - 1075
        closerBelow := decide (fraction = 0) && decide (1 < biased) }

structure FloatLayout where
  tie : Decimal.Tie
  isPositional : Int → Bool
  wholeEnd : List Char
  nan : List Char
  infinity : List Char
  negativeInfinity : List Char

namespace FloatLayout

def positional (layout : FloatLayout) (decimal : Decimal) : List Char :=
  let digits := Nat.toDigits 10 decimal.digits
  if 0 ≤ decimal.exponent then
    digits ++ List.replicate decimal.exponent.toNat '0' ++ layout.wholeEnd
  else
    let places := (-decimal.exponent).toNat
    if places < digits.length then
      digits.take (digits.length - places) ++ '.' :: digits.drop (digits.length - places)
    else '0' :: '.' :: (List.replicate (places - digits.length) '0' ++ digits)

def scientific (decimal : Decimal) (leading : Int) : List Char :=
  let mark := if leading < 0 then ['e', '-'] else ['e', '+']
  let exponent := mark ++ Nat.toDigits 10 leading.natAbs
  match Nat.toDigits 10 decimal.digits with
  | [] => exponent
  | [digit] => digit :: exponent
  | digit :: later => digit :: '.' :: (later ++ exponent)

def magnitudeText (layout : FloatLayout) (magnitude : Decimal.Binary) : List Char :=
  let decimal := Decimal.shortest layout.tie magnitude
  let leading := decimal.exponent + (Nat.toDigits 10 decimal.digits).length - 1
  if layout.isPositional leading then layout.positional decimal else scientific decimal leading

def classText (layout : FloatLayout) : FloatClass → List Char
  | .nan => layout.nan
  | .infinite negative => if negative then layout.negativeInfinity else layout.infinity
  | .zero negative => (if negative then ['-'] else []) ++ '0' :: layout.wholeEnd
  | .nonzero negative magnitude =>
      (if negative then ['-'] else []) ++ layout.magnitudeText magnitude

def text (layout : FloatLayout) (number : Float) : List Char :=
  layout.classText (FloatClass.ofBits number.toBits.toNat)

/-- Numbers for readers: never an exponent, nothing after a whole number, and a half between two
shortest decimals goes up. -/
def plain : FloatLayout :=
  { tie := .up
    isPositional := fun _ => true
    wholeEnd := []
    nan := "NaN".toList
    infinity := "inf".toList
    negativeInfinity := "-inf".toList }

end FloatLayout

end TokenGrammar
