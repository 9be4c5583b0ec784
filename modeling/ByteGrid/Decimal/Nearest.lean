namespace ByteGrid.Decimal

def pow2 (n : Nat) : Nat :=
  Nat.pow 2 n

def pow10 (n : Nat) : Nat :=
  Nat.pow 10 n

def roundEven (num den : Nat) : Nat :=
  let q := num / den
  let twice := 2 * (num % den)
  if twice < den then q
  else if den < twice then q + 1
  else if q % 2 = 0 then q else q + 1

def infinityBits : Nat := 0x7FF0000000000000

def scaleDown (num den : Nat) (shift : Int) : Nat × Nat :=
  (num * pow2 (-shift).toNat, den * pow2 shift.toNat)

/-- The bits of the number nearest to the positive fraction `num / den`. The unit `2 ^ shift` is
chosen such that the significand has 53 binary places, or fewer only where the exponent is the
lowest one; a significand that rounds up to the next power of two carries into the exponent. -/
def nearestBits (num den : Nat) : Nat :=
  let low := max ((num.log2 : Int) - den.log2 - 53) (-1074)
  let (n, d) := scaleDown num den low
  let shift := if n / d < pow2 53 then low else low + 1
  let (n, d) := scaleDown num den shift
  min ((shift + 1074).toNat * pow2 52 + roundEven n d) infinityBits

def nearestFloat (negative : Bool) (num den : Nat) : Float :=
  let bits := if num = 0 then 0 else nearestBits num den
  Float.ofBits (UInt64.ofNat (if negative then pow2 63 + bits else bits))

def floatOfDecimal (negative : Bool) (coefficient : Nat) (exponent : Int) : Float :=
  let places : Int := (Nat.toDigits 10 coefficient).length
  -- what is certainly out of range is not computed
  if coefficient = 0 ∨ places + exponent < -400 then nearestFloat negative 0 1
  else if 400 < places + exponent then nearestFloat negative (pow2 1100) 1
  else nearestFloat negative (coefficient * pow10 exponent.toNat) (pow10 (-exponent).toNat)

end ByteGrid.Decimal
