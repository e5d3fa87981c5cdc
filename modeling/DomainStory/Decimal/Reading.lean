import DomainStory.Text.Natural

/-!
# Reading a positive decimal

The decimals accepted as sizes on the command line: digits with an optional point, an optional
exponent and an optional sign. There has to be a digit before or after the point.
-/

namespace DomainStory.Decimal

def digitsValue (digits : List Char) : Nat :=
  digits.foldl (fun n c => n * 10 + Text.digitValue c) 0

/-- The exponent after its letter: a sign and at least one digit, and nothing else. -/
def exponent? (cs : List Char) : Option Int :=
  let (negative, digits) := match cs with
    | '-' :: rest => (true, rest)
    | '+' :: rest => (false, rest)
    | rest => (false, rest)
  (Text.natural? digits).map fun n => if negative then -(n : Int) else n

/-- The float of `significand · 10^power`. What lies far outside the range of floats becomes zero
or infinite. -/
def scaled (significand : Nat) (power : Int) : Float :=
  let place := power + (Text.naturalDigits significand).length
  if significand = 0 || place < -400 then 0.0
  else if 400 < place then 1.0 / 0.0
  else Float.ofScientific significand (power < 0) power.natAbs

def unsigned? (cs : List Char) : Option Float :=
  let whole := cs.takeWhile Char.isDigit
  let rest := cs.dropWhile Char.isDigit
  let (fraction, rest) := match rest with
    | '.' :: tail => (tail.takeWhile Char.isDigit, tail.dropWhile Char.isDigit)
    | tail => ([], tail)
  let digits := whole ++ fraction
  if digits.isEmpty then none
  else
    match rest with
    | [] => some (scaled (digitsValue digits) (-fraction.length))
    | c :: tail =>
      if c = 'e' || c = 'E' then
        (exponent? tail).map fun power => scaled (digitsValue digits) (power - fraction.length)
      else none

/-- The finite positive float that a text denotes. -/
def positive? (text : String) : Option Float :=
  let unsigned := match text.toList with
    | '+' :: rest => unsigned? rest
    | rest => unsigned? rest
  unsigned.filter fun x => x.isFinite && 0.0 < x

end DomainStory.Decimal
