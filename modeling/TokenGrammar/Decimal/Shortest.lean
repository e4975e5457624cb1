set_option autoImplicit false

/-! Shortest decimals. Among the decimals that read back as a given binary number, the ones with the
fewest digits are considered, and of those the nearest to the number is taken. Everything is exact
arithmetic on natural numbers. -/

namespace TokenGrammar

structure Decimal where
  digits : Nat
  exponent : Int
  deriving DecidableEq

namespace Decimal

inductive Tie where
  | up
  | toEven
  deriving DecidableEq

/-- A positive binary number `mantissa * 2 ^ exponent`, with the distances to its neighbours: the
one below lies half as far away as the one above where `closerBelow` is set. -/
structure Binary where
  mantissa : Nat
  exponent : Int
  closerBelow : Bool
  deriving DecidableEq

namespace Binary

def scale (number : Binary) : Nat := Nat.pow 2 number.exponent.toNat

def numerator (number : Binary) : Nat := number.mantissa * number.scale

def denominator (number : Binary) : Nat := Nat.pow 2 (-number.exponent).toNat

def lowerEnd (number : Binary) : Nat :=
  4 * number.numerator - (if number.closerBelow then 1 else 2) * number.scale

def upperEnd (number : Binary) : Nat :=
  4 * number.numerator + 2 * number.scale

/-- The ends of the interval read back as the number exactly when its mantissa is even. -/
def readsBack (number : Binary) (decimal : Decimal) : Bool :=
  let below := Nat.pow 10 (-decimal.exponent).toNat
  let place := 4 * number.denominator * decimal.digits * Nat.pow 10 decimal.exponent.toNat
  let lower := number.lowerEnd * below
  let upper := number.upperEnd * below
  if number.mantissa % 2 = 0 then decide (lower ≤ place) && decide (place ≤ upper)
  else decide (lower < place) && decide (place < upper)

def leadingExponent (number : Binary) : Int :=
  let difference : Int :=
    ((Nat.toDigits 10 number.numerator).length : Int) -
      ((Nat.toDigits 10 number.denominator).length : Int)
  if number.denominator * Nat.pow 10 difference.toNat ≤
      number.numerator * Nat.pow 10 (-difference).toNat then
    difference
  else difference - 1

def neighbours (number : Binary) (unit : Int) : Decimal × Decimal × Ordering :=
  let top := number.numerator * Nat.pow 10 (-unit).toNat
  let bottom := number.denominator * Nat.pow 10 unit.toNat
  (⟨top / bottom, unit⟩, ⟨top / bottom + 1, unit⟩, compare (2 * (top % bottom)) bottom)

def nearestOnGrid? (tie : Tie) (number : Binary) (unit : Int) : Option Decimal :=
  let (below, above, place) := number.neighbours unit
  match number.readsBack below, number.readsBack above with
  | false, false => none
  | true, false => some below
  | false, true => some above
  | true, true =>
      match place with
      | .lt => some below
      | .gt => some above
      | .eq =>
          match tie with
          | .up => some above
          | .toEven => some (if below.digits % 2 = 0 then below else above)

end Binary

def withoutTrailingZeros : Nat → Decimal → Decimal
  | 0, decimal => decimal
  | steps + 1, decimal =>
      if decimal.digits ≠ 0 ∧ decimal.digits % 10 = 0 then
        withoutTrailingZeros steps ⟨decimal.digits / 10, decimal.exponent + 1⟩
      else decimal

/-- The shortest decimal that reads back as the number. Seventeen digits always suffice for a
double, so the last alternative is not reached by one. -/
def shortest (tie : Tie) (number : Binary) : Decimal :=
  let leading := number.leadingExponent
  let found := (List.range 17).findSome? (fun (count : Nat) =>
    number.nearestOnGrid? tie (leading - count))
  withoutTrailingZeros 20 (found.getD (number.neighbours (leading - 16)).1)

end Decimal

end TokenGrammar
