import ByteGrid.Decimal.Nearest

/-!
The shortest decimal of a floating-point number: among the decimals that read back as the number,
those on the coarsest grid of powers of ten, and of these the nearest one. Where two are equally
near, it is up to the style of writing which one counts.
-/

namespace ByteGrid.Decimal

structure ScaledNat where
  coefficient : Nat
  exponent : Int
deriving Repr, DecidableEq

/-- The positive reals that round to one floating-point number, in units of `2 ^ exponent`: the
number itself is `value`, and the ends belong to the range if `closed` holds. -/
structure RoundingRange where
  low : Nat
  value : Nat
  high : Nat
  exponent : Int
  closed : Bool
deriving Repr

/-- The range that rounds to the positive finite number with these bits. Its half width is half the
gap to the neighbour; below a power of two the gap is half as wide. -/
def RoundingRange.ofBits (bits : Nat) : RoundingRange :=
  let field := bits / pow2 52
  let fraction := bits % pow2 52
  let significand := if field = 0 then fraction else pow2 52 + fraction
  let below := if fraction = 0 ∧ 1 < field then 1 else 2
  { low := 4 * significand - below
    value := 4 * significand
    high := 4 * significand + 2
    exponent := (max field 1 : Nat) - 1077
    closed := significand % 2 = 0 }

inductive Tie where
  | even
  | away
deriving Repr, DecidableEq

def Tie.choose (tie : Tie) (c : Nat) : Nat :=
  match tie with
  | .even => if c % 2 = 0 then c else c + 1
  | .away => c + 1

/-- The point of the grid of multiples of `10 ^ power` that reads back as the number: one of the two
multiples around it. If both do, the nearer one counts. -/
def RoundingRange.onGrid? (r : RoundingRange) (tie : Tie) (power : Int) : Option Nat :=
  let num := pow2 r.exponent.toNat * pow10 (-power).toNat
  let den := pow2 (-r.exponent).toNat * pow10 power.toNat
  let inside (c : Nat) : Bool :=
    if r.closed then r.low * num ≤ c * den && c * den ≤ r.high * num
    else r.low * num < c * den && c * den < r.high * num
  let c := r.value * num / den
  let up := 2 * (r.value * num % den)
  match inside c, inside (c + 1) with
  | true, true => some (if up < den then c else if up = den then tie.choose c else c + 1)
  | true, false => some c
  | false, true => some (c + 1)
  | false, false => none

def RoundingRange.search (r : RoundingRange) (tie : Tie) : Nat → Int → ScaledNat
  | 0, power => ⟨0, power⟩
  | fuel + 1, power =>
    match r.onGrid? tie power with
    | some c => ⟨c, power⟩
    | none => r.search tie fuel (power - 1)

/-- The shortest decimal of a positive finite number. The search starts at a grid wider than the
number, and seventeen digits always suffice. -/
def shortest (tie : Tie) (x : Float) : ScaledNat :=
  let r := RoundingRange.ofBits x.toBits.toNat
  let places := ((r.value.log2 : Int) + r.exponent) * 30103 / 100000 + 2
  r.search tie 24 places

end ByteGrid.Decimal
