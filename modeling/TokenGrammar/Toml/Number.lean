import TokenGrammar.Toml.Quoted

set_option autoImplicit false

/-! TOML numbers, dates and times. Every reader takes as much of the text as its form allows; what
may follow is decided by the place where the value stands. -/

namespace TokenGrammar.Toml

/-! ### Digits -/

def digitRun (isDigit : Char → Bool) : List Char → List Char × List Char
  | [] => ([], [])
  | character :: rest =>
      if isDigit character then
        let (digits, after) := digitRun isDigit rest
        (character :: digits, after)
      else if character = '_' then
        match rest with
        | next :: later =>
            if isDigit next then
              let (digits, after) := digitRun isDigit later
              (next :: digits, after)
            else ([], character :: rest)
        | [] => ([], character :: rest)
      else ([], character :: rest)

def digits? (isDigit : Char → Bool) : List Char → Option (List Char × List Char)
  | character :: rest =>
      if isDigit character then
        let (digits, after) := digitRun isDigit rest
        some (character :: digits, after)
      else none
  | [] => none

def digitsValue (base : Nat) (digits : List Char) : Nat :=
  digits.foldl (fun total digit => total * base + (hexValue? digit).getD 0) 0

def sized? (number : Int) : Option Int :=
  if -Int.pow 2 63 ≤ number && number < Int.pow 2 63 then some number else none

def sign : List Char → Bool × List Char
  | '+' :: rest => (false, rest)
  | '-' :: rest => (true, rest)
  | source => (false, source)

def wholeDigits? : List Char → Option (List Char × List Char)
  | '0' :: rest => some (['0'], rest)
  | source => digits? Char.isDigit source

/-! ### Integers and floats -/

def integer? (source : List Char) : Option (Int × List Char) :=
  let based := fun (base : Nat) (isDigit : Char → Bool) (text : List Char) => do
    let (digits, rest) ← digits? isDigit text
    let number ← sized? (digitsValue base digits)
    return (number, rest)
  match source with
  | '0' :: 'x' :: text => based 16 (fun digit => (hexValue? digit).isSome) text
  | '0' :: 'o' :: text => based 8 (fun digit => '0' ≤ digit && digit ≤ '7') text
  | '0' :: 'b' :: text => based 2 (fun digit => digit == '0' || digit == '1') text
  | _ => do
      let (negative, text) := sign source
      let (digits, rest) ← wholeDigits? text
      let magnitude : Int := digitsValue 10 digits
      let number ← sized? (if negative then -magnitude else magnitude)
      return (number, rest)

def fraction? : List Char → Option (List Char × List Char)
  | '.' :: rest => digits? Char.isDigit rest
  | _ => none

def exponent? : List Char → Option (Int × List Char)
  | mark :: rest =>
      if mark = 'e' ∨ mark = 'E' then do
        let (negative, text) := sign rest
        let (digits, after) ← digits? Char.isDigit text
        let magnitude : Int := digitsValue 10 digits
        return (if negative then -magnitude else magnitude, after)
      else none
  | [] => none

/-- The float `digits * 10 ^ exponent`, rounded to nearest. Exponents far outside the range of
floats are cut down first; the result is the same. -/
def scaled (digits : Nat) (exponent : Int) : Float :=
  let length : Int := (Nat.toDigits 10 digits).length
  if digits = 0 then 0
  else if exponent + length < -400 then 0
  else if 400 < exponent + length then Float.ofBits 0x7FF0000000000000
  else if exponent < 0 then Float.ofScientific digits true exponent.natAbs
  else Float.ofScientific digits false exponent.toNat

/-- A float that is written as a number: it has a fraction, an exponent or both. One that is too
large is refused unless it is negative. -/
def numericFloat? (source : List Char) : Option (Float × List Char) := do
  let (negative, text) := sign source
  let (whole, afterWhole) ← wholeDigits? text
  let (fraction, afterFraction) := (fraction? afterWhole).getD ([], afterWhole)
  let (exponent, rest) := (exponent? afterFraction).getD (0, afterFraction)
  if rest.length = afterWhole.length then none
  else
    let magnitude := scaled (digitsValue 10 (whole ++ fraction)) (exponent - fraction.length)
    if negative then some (-magnitude, rest)
    else if magnitude.isInf then none
    else some (magnitude, rest)

def namedFloat? (source : List Char) : Option (Float × List Char) :=
  let (negative, text) := sign source
  match text with
  | 'i' :: 'n' :: 'f' :: rest =>
      let infinity := Float.ofBits 0x7FF0000000000000
      some (if negative then -infinity else infinity, rest)
  | 'n' :: 'a' :: 'n' :: rest => some (Float.ofBits 0x7FF8000000000000, rest)
  | _ => none

/-! ### Dates and times -/

def fixed? (width low high : Nat) (source : List Char) : Option (List Char × List Char) :=
  let digits := source.take width
  let number := digitsValue 10 digits
  if digits.length = width && digits.all Char.isDigit && low ≤ number && number ≤ high then
    some (digits, source.drop width)
  else none

def after? (wanted : Char) : List Char → Option (List Char)
  | character :: rest => if character = wanted then some rest else none
  | [] => none

def daysIn (year month : Nat) : Nat :=
  if month = 2 then
    if year % 4 = 0 && (year % 100 != 0 || year % 400 = 0) then 29 else 28
  else if month = 4 || month = 6 || month = 9 || month = 11 then 30
  else 31

def date? (source : List Char) : Option (List Char × List Char) := do
  let (year, afterYear) ← fixed? 4 0 9999 source
  let (month, afterMonth) ← fixed? 2 1 12 (← after? '-' afterYear)
  let last := daysIn (digitsValue 10 year) (digitsValue 10 month)
  let (day, rest) ← fixed? 2 1 last (← after? '-' afterMonth)
  return (year ++ '-' :: month ++ '-' :: day, rest)

def trimZeros (digits : List Char) : List Char :=
  (digits.reverse.dropWhile (fun digit => digit == '0')).reverse

/-- A time of day. Of a fraction of a second, nine digits count, and zeros at its end are not
spelled. -/
def time? (source : List Char) : Option (List Char × List Char) := do
  let (hour, afterHour) ← fixed? 2 0 23 source
  let (minute, afterMinute) ← fixed? 2 0 59 (← after? ':' afterHour)
  let (second, afterSecond) ← fixed? 2 0 60 (← after? ':' afterMinute)
  let (fraction, rest) : List Char × List Char :=
    match afterSecond with
    | '.' :: text =>
        let digits := text.takeWhile Char.isDigit
        if digits.isEmpty then ([], afterSecond)
        else
          let kept := trimZeros (digits.take 9)
          (if kept.isEmpty then [] else '.' :: kept, text.dropWhile Char.isDigit)
    | _ => ([], afterSecond)
  return (hour ++ ':' :: minute ++ ':' :: second ++ fraction, rest)

/-- The distance from universal time. No distance at all is spelled with a plus sign. -/
def offset? : List Char → Option (List Char × List Char)
  | mark :: rest =>
      if mark = 'Z' ∨ mark = 'z' then some (['Z'], rest)
      else if mark = '+' ∨ mark = '-' then do
        let (hour, afterHour) ← fixed? 2 0 23 rest
        let (minute, after) ← fixed? 2 0 59 (← after? ':' afterHour)
        let isNone := digitsValue 10 (hour ++ minute) = 0
        return ((if isNone then '+' else mark) :: hour ++ ':' :: minute, after)
      else none
  | [] => none

def timeAfterDate? : List Char → Option (List Char × List Char)
  | mark :: rest =>
      if mark = 'T' ∨ mark = 't' ∨ mark = ' ' then do
        let (time, afterTime) ← time? rest
        let (offset, after) := (offset? afterTime).getD ([], afterTime)
        return ('T' :: time ++ offset, after)
      else none
  | [] => none

def moment? (source : List Char) : Option (List Char × List Char) :=
  match date? source with
  | some (date, afterDate) =>
      let (time, rest) := (timeAfterDate? afterDate).getD ([], afterDate)
      some (date ++ time, rest)
  | none => time? source

def wholeMoment? (text : List Char) : Option (List Char) :=
  match moment? text with
  | some (spelling, []) => some spelling
  | _ => none

def number? (source : List Char) : Option (Item × List Char) :=
  match moment? source with
  | some (spelling, rest) => some (.moment (String.ofList spelling), rest)
  | none =>
      match numericFloat? source with
      | some (number, rest) => some (.float number, rest)
      | none =>
          match namedFloat? source with
          | some (number, rest) => some (.float number, rest)
          | none => (integer? source).map (fun (number, rest) => (.integer number, rest))

end TokenGrammar.Toml
