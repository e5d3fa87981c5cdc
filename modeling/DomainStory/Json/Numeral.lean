import DomainStory.Json.Basic

/-!
# Numbers in JSON text

A numeral is read into a significand below 2^64 and a power of ten. Digits that no longer fit the
significand are dropped, those before the point raising the power. An integer in the range of 64
bits stays an integer; everything else becomes the float of the significand, scaled once by the
power of ten. A numeral too large for a float denotes no value.
-/

namespace DomainStory.Json

/-- The parts of a numeral as written, every part a list of digits. -/
structure Numeral where
  negative : Bool
  whole : List Nat
  fraction : Option (List Nat)
  /-- The sign of the exponent, true for a negative one, and its digits. -/
  exponent : Option (Bool × List Nat)

/-- Appends digits to a significand while it stays below 2^64. Returns the significand and the
number of digits left out, counting from the first that does not fit. -/
def absorb (significand : Nat) : List Nat → Nat × Nat
  | [] => (significand, 0)
  | d :: rest =>
    if significand * 10 + d < Nat.pow 2 64 then absorb (significand * 10 + d) rest
    else (significand, rest.length + 1)

def digitsValue (digits : List Nat) : Nat := digits.foldl (fun n d => n * 10 + d) 0

def powerOfTen (k : Nat) : Float := Float.ofScientific 1 false k

/-- Divides by a power of ten, at most by 10^308 at a time, until nothing is left. -/
def scaleDown (x : Float) (k : Nat) : Float :=
  if k ≤ 308 then x / powerOfTen k
  else if x == 0.0 then x
  else scaleDown (x / powerOfTen 308) (k - 308)
termination_by k

/-- The float of a significand times a power of ten, or nothing when that is out of range. -/
def scale (significand : Nat) (power : Int) : Option Float :=
  let x := Float.ofNat significand
  match power with
  | .ofNat k =>
    if k ≤ 308 then
      let y := x * powerOfTen k
      if y.isInf then none else some y
    else if significand = 0 then some x else none
  | .negSucc k => some (scaleDown x (k + 1))

def exponentLimit : Nat := Nat.pow 2 31 - 1

namespace Numeral

def magnitude? (numeral : Numeral) : Option Float :=
  let (whole, dropped) := absorb 0 numeral.whole
  let fraction := numeral.fraction.getD []
  let (significand, omitted) := absorb whole fraction
  -- digits dropped before the point raise the power, those kept after it lower it
  let power : Int := dropped - (fraction.length - omitted : Nat)
  match numeral.exponent with
  | none => scale significand power
  | some (down, digits) =>
    let exponent := digitsValue digits
    -- a numeral this far out is zero, or out of range
    if exponentLimit < exponent then
      if significand ≠ 0 && !down then none else some 0.0
    else scale significand (if down then power - exponent else power + exponent)

def value (numeral : Numeral) : Json :=
  let magnitude := digitsValue numeral.whole
  if numeral.fraction.isNone && numeral.exponent.isNone && !numeral.negative
      && magnitude < Nat.pow 2 64 then
    .int magnitude
  else if numeral.fraction.isNone && numeral.exponent.isNone && numeral.negative
      && 0 < magnitude && magnitude ≤ Nat.pow 2 63 then
    .int (-magnitude)
  else
    match numeral.magnitude? with
    | some x => .float (if numeral.negative then -x else x)
    | none => .unreadable

end Numeral

end DomainStory.Json
