/-!
# The shortest decimal of a float

Of the decimals that read back as a float, the one with the fewest digits, and among those the
nearest. A float stands for all reals that round to it, an interval around its own value. The
search runs over ever finer decimal grids. If any point of a grid lies in the interval, then so
does one of the two neighbours of the value on that grid, so only these are tried.
-/

namespace DomainStory.Decimal

/-- A positive binary number `significand · 2^exponent` with the interval of the reals nearest to
it, in quarters of its last place. -/
structure Binary where
  significand : Nat
  exponent : Int
  /-- Whether the gap below is half as wide as the gap above. -/
  narrowBelow : Bool

def Binary.ofFloat (x : Float) : Binary :=
  let bits := x.toBits.toNat
  let field : Nat := bits / Nat.pow 2 52 % Nat.pow 2 11
  let fraction : Nat := bits % Nat.pow 2 52
  if field = 0 then ⟨fraction, -1074, false⟩
  else ⟨fraction + Nat.pow 2 52, (field : Int) - 1075, fraction = 0 && 1 < field⟩

structure Value where
  digits : Nat
  exponent : Int
deriving DecidableEq

/-- `2^e` as numerator or denominator, whichever is whole. -/
def ratio (base : Nat) (e : Int) : Nat × Nat :=
  match e with
  | .ofNat k => (base.pow k, 1)
  | .negSucc k => (1, base.pow (k + 1))

/-- The point nearest to a binary number on the grid of multiples of `10^exponent`, if a neighbour
of the number on that grid rounds to it. Ties go to the even multiple. -/
def onGrid (b : Binary) (exponent : Int) : Option Value :=
  let (twos, twosBelow) := ratio 2 (b.exponent - 2)
  let (tens, tensBelow) := ratio 10 exponent
  -- a multiple d lies at d * unit, the number and its interval at quarters times scale
  let unit := tens * twosBelow
  let scale := twos * tensBelow
  let value := 4 * b.significand * scale
  let low := (4 * b.significand - (if b.narrowBelow then 1 else 2)) * scale
  let high := (4 * b.significand + 2) * scale
  let rounds (d : Nat) : Bool :=
    if b.significand % 2 = 0 then low ≤ d * unit && d * unit ≤ high
    else low < d * unit && d * unit < high
  let below := value / unit
  let above := below + 1
  let down := value - below * unit
  let up := above * unit - value
  let nearer := if down < up || (down = up && below % 2 = 0) then below else above
  let farther := if nearer = below then above else below
  if rounds nearer then some ⟨nearer, exponent⟩
  else if rounds farther then some ⟨farther, exponent⟩
  else none

def search (b : Binary) (exponent : Int) : (steps : Nat) → Value
  | 0 => ⟨0, 0⟩
  | steps + 1 =>
    match onGrid b exponent with
    | some d => d
    | none => search b (exponent - 1) steps

/-- The shortest decimal of a finite float other than zero, without its sign. The coarsest grid
that can hold it is a power of ten above the number. -/
def shortest (x : Float) : Value :=
  let b := Binary.ofFloat x
  -- 30103 / 100000 is the logarithm of two to the base of ten, rounded up
  let top : Int := (b.exponent + (b.significand.log2 : Int) + 1) * 30103 / 100000 + 2
  search b top 40

end DomainStory.Decimal
