import ByteGrid.Json.Error
import ByteGrid.Json.Value

/-!
Written numbers as values. Integers are taken as they stand. A floating-point number is computed from
the leading digits that fit a machine word, scaled by a power of ten in floating-point arithmetic, so
that its last place may differ from that of the nearest number.
-/

namespace ByteGrid.Json

open ByteGrid.Decimal ByteGrid.Text

/-- The value of the leading digits that fit a machine word, after digits worth `n`, and the digits
that do not. -/
def fitDigits (n : Nat) : List Char → Nat × List Char
  | [] => (n, [])
  | c :: cs =>
    let m := 10 * n + (c.toNat - '0'.toNat)
    if m < wordBound then fitDigits m cs else (n, c :: cs)

def floatPower (power : Nat) : Float :=
  nearestFloat false (pow10 power) 1

def maxPower : Nat := 308

def scaleFloat (x : Float) (power : Nat) : Float :=
  if power ≤ maxPower then x / floatPower power
  else if x == 0 then x
  else scaleFloat (x / floatPower maxPower) (power - maxPower)
termination_by power
decreasing_by simp only [maxPower] at *; omega

def scaledFloat? (significand : Nat) (power : Int) : Option Float :=
  let x := Float.ofNat significand
  if power < 0 then some (scaleFloat x power.natAbs)
  else if power ≤ maxPower then
    let y := x * floatPower power.natAbs
    if y.isInf then none else some y
  else if significand = 0 then some x
  else none

def floatOfNumeral? (n : Numeral) : Option Float :=
  let (whole, beyond) := fitDigits 0 n.whole
  let (significand, rest) := fitDigits whole n.fraction
  let shift : Int := (beyond.length : Int) - (n.fraction.length - rest.length : Nat)
  let power := n.power.getD 0
  let x :=
    -- a power that does not fit half a machine word is as good as infinite
    if power.natAbs < pow2 31 then scaledFloat? significand (shift + power)
    else if significand ≠ 0 ∧ 0 < power then none
    else some 0
  if n.negative then x.map (-·) else x

-- Negative zero is no integer.
def intOfNumeral? (n : Numeral) : Option Int :=
  if n.fraction.isEmpty ∧ n.power.isNone ∧ ¬(n.negative ∧ digitsValue n.whole = 0) then
    let m : Int := digitsValue n.whole
    some (if n.negative then -m else m)
  else none

end ByteGrid.Json
