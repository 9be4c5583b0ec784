namespace ByteGrid.Text

def wordBound : Nat := 0x10000000000000000

def halfWordBound : Nat := 0x100000000

def signBound : Nat := 0x8000000000000000

def digitsValue (cs : List Char) : Nat :=
  cs.foldl (fun n c => 10 * n + (c.toNat - '0'.toNat)) 0

def number? (bound : Nat) (cs : List Char) : Option Nat :=
  let digits := match cs with
    | '+' :: rest => rest
    | _ => cs
  if !digits.isEmpty && digits.all Char.isDigit && digitsValue digits < bound then
    some (digitsValue digits)
  else none

def decimal (n : Nat) : String :=
  String.ofList (Nat.toDigits 10 n)

def signedDecimal (n : Int) : String :=
  if n < 0 then "-" ++ decimal n.natAbs else decimal n.natAbs

def hexadecimal (width n : Nat) : String :=
  String.ofList ((Nat.toDigits 16 n).leftpad width '0')

def isBlank (c : Char) : Bool :=
  let code := c.toNat
  (0x09 ≤ code && code ≤ 0x0D) || code == 0x20 || code == 0x85 || code == 0xA0 || code == 0x1680 ||
    (0x2000 ≤ code && code ≤ 0x200A) || code == 0x2028 || code == 0x2029 || code == 0x202F ||
    code == 0x205F || code == 0x3000

def trimStart (cs : List Char) : List Char :=
  cs.dropWhile isBlank

def trimEnd (cs : List Char) : List Char :=
  (cs.reverse.dropWhile isBlank).reverse

def trim (cs : List Char) : List Char :=
  trimEnd (trimStart cs)

def words (cs : List Char) : List (List Char) :=
  (cs.splitOnP isBlank).filter (!·.isEmpty)

def joinWords (ws : List (List Char)) : List Char :=
  [' '].intercalate ws

def squeeze (cs : List Char) : List Char :=
  joinWords (words cs)

/-- Lines end at line feeds. A carriage return just before one belongs to the line end, and the text after
the last line feed is a line if it is not empty. -/
def lines : List Char → List (List Char)
  | [] => []
  | c :: cs =>
    if c = '\n' then [] :: lines cs
    else if c = '\r' ∧ cs.head? = some '\n' then lines cs
    else
      match lines cs with
      | [] => [[c]]
      | l :: ls => (c :: l) :: ls

end ByteGrid.Text
