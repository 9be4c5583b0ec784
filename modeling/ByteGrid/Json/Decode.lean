import ByteGrid.Json.Number
import ByteGrid.Json.Reader

/-!
What the values of a document mean. A record may be written as an object, where keys that are not
asked for do not matter and no key that is asked for stands twice, or as an array of its values in
the order of the keys, where the last ones may be left out if they have a default.
-/

namespace ByteGrid.Json

open ByteGrid.Text

def Value.text? : Value → Except Mismatch String
  | .string (some s) => .ok s
  | .string none => .error .brokenText
  | _ => .error (.wrongType "a string")

def Value.bool? : Value → Except Mismatch Bool
  | .bool b => .ok b
  | _ => .error (.wrongType "a boolean")

def Value.int? : Value → Except Mismatch Int
  | .number n =>
    match intOfNumeral? n with
    | some i => if -signBound ≤ i ∧ i < signBound then .ok i else .error .outOfRange
    | none => .error (.wrongType "an integer")
  | _ => .error (.wrongType "an integer")

def Value.nat? : Value → Except Mismatch Nat
  | .number n =>
    match intOfNumeral? n with
    | some i => if 0 ≤ i ∧ i < wordBound then .ok i.toNat else .error .outOfRange
    | none => .error (.wrongType "a natural number")
  | _ => .error (.wrongType "a natural number")

def Value.float? : Value → Except Mismatch Float
  | .number n =>
    match floatOfNumeral? n with
    | some x => .ok x
    | none => .error .outOfRange
  | _ => .error (.wrongType "a number")

def Value.option? (decode : Value → Except Mismatch α) : Value → Except Mismatch (Option α)
  | .null => .ok none
  | v => (decode v).map some

def Value.list? (decode : Value → Except Mismatch α) : Value → Except Mismatch (List α)
  | .array vs => vs.mapM decode
  | _ => .error (.wrongType "an array")

def member? : Option String × Value → Except Mismatch (String × Value)
  | (some k, v) => .ok (k, v)
  | (none, _) => .error .brokenText

def Value.members? : Value → Except Mismatch (List (String × Value))
  | .object ms => ms.mapM member?
  | _ => .error (.wrongType "an object")

inductive Record where
  | named (members : List (String × Value))
  | listed (values : List Value)

def Value.record? (width : Nat) : Value → Except Mismatch Record
  | .array vs => if vs.length ≤ width then .ok (.listed vs) else .error .tooLong
  | v => v.members?.map .named

def Record.find? (r : Record) (place : Nat) (keys : List String) : Except Mismatch (Option Value) :=
  match r with
  | .listed vs => .ok vs[place]?
  | .named ms =>
    match ms.filter fun m => keys.contains m.1 with
    | [] => .ok none
    | [m] => .ok (some m.2)
    | _ => .error (.repeated (keys.headD ""))

def Record.required (r : Record) (place : Nat) (key : String) (decode : Value → Except Mismatch α) :
    Except Mismatch α := do
  match ← r.find? place [key] with
  | some v => decode v
  | none => throw (.missing key)

def Record.optional (r : Record) (place : Nat) (keys : List String) (default : α)
    (decode : Value → Except Mismatch α) : Except Mismatch α := do
  match ← r.find? place keys with
  | some v => decode v
  | none => return default

mutual

/-- Accepts a value only if all its strings are texts, all its numbers are in the range of
floating-point numbers, and it is nested less than `depth` deep. -/
def Value.plain? (depth : Nat) : Value → Except Mismatch Unit
  | .null => .ok ()
  | .bool _ => .ok ()
  | .number n => if (floatOfNumeral? n).isSome then .ok () else .error .outOfRange
  | .string s => if s.isSome then .ok () else .error .brokenText
  | .array vs => if depth ≤ 1 then .error .tooDeep else plainItems? (depth - 1) vs
  | .object ms => if depth ≤ 1 then .error .tooDeep else plainMembers? (depth - 1) ms

def plainItems? (depth : Nat) : List Value → Except Mismatch Unit
  | [] => .ok ()
  | v :: vs => v.plain? depth *> plainItems? depth vs

def plainMembers? (depth : Nat) : List (Option String × Value) → Except Mismatch Unit
  | [] => .ok ()
  | (k, v) :: ms =>
    (if k.isSome then .ok () else .error .brokenText) *> v.plain? depth *> plainMembers? depth ms

end

def decodeText (decode : Value → Except Mismatch α) (text : String) : Except Error α :=
  match Value.read text with
  | .error e => .error e
  | .ok v =>
    match decode v with
    | .ok a => .ok a
    | .error m => .error (.after (.mismatch m) (text.toList.reverse.dropWhile isSpace).reverse)

end ByteGrid.Json
