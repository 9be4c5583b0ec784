import ByteGrid.Decimal.Written

namespace ByteGrid.Json

open ByteGrid.Decimal

/-- A JSON value. A string that holds half of a surrogate pair stands for no text: it is `none`. -/
inductive Value where
  | null
  | bool (b : Bool)
  | number (n : Numeral)
  | string (text : Option String)
  | array (items : List Value)
  | object (members : List (Option String × Value))
deriving Inhabited

def Value.text (s : String) : Value :=
  .string (some s)

def Value.int (n : Int) : Value :=
  .number (.ofInt n)

def Value.nat (n : Nat) : Value :=
  .int n

def Value.float (x : Float) : Value :=
  if x.isFinite then .number (FloatStyle.document.numeral x) else .null

def Value.option (encode : α → Value) : Option α → Value
  | none => .null
  | some a => encode a

def Value.list (encode : α → Value) (xs : List α) : Value :=
  .array (xs.map encode)

def Value.record (members : List (String × Value)) : Value :=
  .object (members.map fun m => (some m.1, m.2))

def Value.replace (record : Value) (key : String) (v : Value) : Value :=
  match record with
  | .object members => .object (members.map fun m => if m.1 = some key then (m.1, v) else m)
  | other => other

end ByteGrid.Json
