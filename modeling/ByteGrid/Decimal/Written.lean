import ByteGrid.Decimal.Nearest
import ByteGrid.Decimal.Shortest
import ByteGrid.Text.Basic

namespace ByteGrid.Decimal

open ByteGrid.Text

/-- A written number. No fraction digits mean no point; a power is written only if it is there. -/
structure Numeral where
  negative : Bool
  whole : List Char
  fraction : List Char
  power : Option Int
deriving Repr, DecidableEq

def powerText (plusSign : Bool) (power : Int) : List Char :=
  let sign := if power < 0 then ['-'] else if plusSign then ['+'] else []
  'e' :: (sign ++ Nat.toDigits 10 power.natAbs)

def Numeral.write (plusSign : Bool) (n : Numeral) : List Char :=
  (if n.negative then ['-'] else []) ++ n.whole ++
    (if n.fraction.isEmpty then [] else '.' :: n.fraction) ++
    (match n.power with
      | none => []
      | some p => powerText plusSign p)

def Numeral.ofInt (n : Int) : Numeral :=
  { negative := n < 0, whole := Nat.toDigits 10 n.natAbs, fraction := [], power := none }

/-- How a number is written. With `plain` the place of its first digit, as a power of ten, decides
between plain digits and an exponent; `pointZero` asks for `.0` after a whole number, and `plusSign`
for a sign before every exponent. -/
structure FloatStyle where
  tie : Tie
  plain : Int → Bool
  pointZero : Bool
  plusSign : Bool

def Numeral.plain (pointZero negative : Bool) (digits : List Char) (point : Int) : Numeral :=
  if point ≤ 0 then
    { negative, whole := ['0'], fraction := List.replicate (-point).toNat '0' ++ digits
      power := none }
  else if digits.length ≤ point.toNat then
    { negative, whole := digits ++ List.replicate (point.toNat - digits.length) '0'
      fraction := if pointZero then ['0'] else [], power := none }
  else
    { negative, whole := digits.take point.toNat, fraction := digits.drop point.toNat, power := none }

def FloatStyle.numeral (style : FloatStyle) (x : Float) : Numeral :=
  let negative : Bool := pow2 63 ≤ x.toBits.toNat
  if x == 0 then Numeral.plain style.pointZero negative ['0'] 1
  else
    let d := shortest style.tie x.abs
    let digits := Nat.toDigits 10 d.coefficient
    let point := d.exponent + digits.length
    if style.plain (point - 1) then Numeral.plain style.pointZero negative digits point
    else
      { negative, whole := digits.take 1, fraction := digits.drop 1, power := some (point - 1) }

def FloatStyle.write (style : FloatStyle) (x : Float) : String :=
  if x.isNaN then "NaN"
  else if x.isInf then (if x < 0 then "-inf" else "inf")
  else String.ofList ((style.numeral x).write style.plusSign)

def FloatStyle.message : FloatStyle :=
  { tie := .away, plain := fun _ => true, pointZero := false, plusSign := false }

def FloatStyle.report : FloatStyle :=
  { tie := .away, plain := fun p => -4 ≤ p && p < 16, pointZero := true, plusSign := false }

def FloatStyle.document : FloatStyle :=
  { tie := .even, plain := fun p => -5 ≤ p && p < 16, pointZero := true, plusSign := true }

def oneDecimal (x : Float) : String :=
  let r := RoundingRange.ofBits x.toBits.toNat
  let tenths := roundEven (10 * r.value * pow2 r.exponent.toNat) (pow2 (-r.exponent).toNat)
  decimal (tenths / 10) ++ "." ++ decimal (tenths % 10)

end ByteGrid.Decimal
