import ByteGrid.Decimal.Nearest
import ByteGrid.Text.Basic

namespace ByteGrid.Decimal

open ByteGrid.Text

def splitSign : List Char → Bool × List Char
  | '-' :: rest => (true, rest)
  | '+' :: rest => (false, rest)
  | cs => (false, cs)

def power? : List Char → Option Int
  | [] => some 0
  | c :: rest =>
    if c = 'e' ∨ c = 'E' then
      let (negative, digits) := splitSign rest
      if !digits.isEmpty && digits.all Char.isDigit then
        let n : Int := digitsValue digits
        some (if negative then -n else n)
      else none
    else none

def float? (cs : List Char) : Option Float :=
  let (negative, rest) := splitSign cs
  let word := String.ofList (rest.map Char.toLower)
  if word = "inf" ∨ word = "infinity" then some (if negative then -1 / 0 else 1 / 0)
  else if word = "nan" then some (0 / 0)
  else
    let whole := rest.takeWhile Char.isDigit
    let (fraction, rest) := match rest.dropWhile Char.isDigit with
      | '.' :: more => (more.takeWhile Char.isDigit, more.dropWhile Char.isDigit)
      | other => ([], other)
    if whole.isEmpty && fraction.isEmpty then none
    else
      (power? rest).map fun power =>
        floatOfDecimal negative (digitsValue (whole ++ fraction)) (power - fraction.length)

end ByteGrid.Decimal
