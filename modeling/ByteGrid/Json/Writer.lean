import ByteGrid.Json.Value
import ByteGrid.Text.Basic

namespace ByteGrid.Json

open ByteGrid.Decimal ByteGrid.Text

def escapeChar (c : Char) : List Char :=
  match c with
  | '"' => ['\\', '"']
  | '\\' => ['\\', '\\']
  | '\x08' => ['\\', 'b']
  | '\t' => ['\\', 't']
  | '\n' => ['\\', 'n']
  | '\x0c' => ['\\', 'f']
  | '\r' => ['\\', 'r']
  | c =>
    if c.toNat < 0x20 then '\\' :: 'u' :: (hexadecimal 4 c.toNat).toList else [c]

def writeText (s : String) : List Char :=
  '"' :: (s.toList.flatMap escapeChar ++ ['"'])

/-- The blanks of a form: what begins a line at a depth, and what follows a colon. -/
structure Spacing where
  line : Nat → List Char
  colon : List Char

def Spacing.compact : Spacing :=
  { line := fun _ => [], colon := [] }

def Spacing.pretty : Spacing :=
  { line := fun depth => '\n' :: List.replicate (2 * depth) ' ', colon := [' '] }

def Spacing.key (sp : Spacing) (key : Option String) : List Char :=
  writeText (key.getD "") ++ ':' :: sp.colon

mutual

def Value.write (sp : Spacing) (depth : Nat) : Value → List Char
  | .null => "null".toList
  | .bool true => "true".toList
  | .bool false => "false".toList
  | .number n => n.write true
  | .string s => writeText (s.getD "")
  | .array [] => ['[', ']']
  | .array (v :: vs) =>
    '[' :: (sp.line (depth + 1) ++ v.write sp (depth + 1) ++ writeItems sp (depth + 1) vs ++
      sp.line depth ++ [']'])
  | .object [] => ['\x7b', '\x7d']
  | .object ((k, v) :: ms) =>
    '\x7b' :: (sp.line (depth + 1) ++ sp.key k ++ v.write sp (depth + 1) ++
      writeMembers sp (depth + 1) ms ++ sp.line depth ++ ['\x7d'])

def writeItems (sp : Spacing) (depth : Nat) : List Value → List Char
  | [] => []
  | v :: vs => ',' :: (sp.line depth ++ v.write sp depth ++ writeItems sp depth vs)

def writeMembers (sp : Spacing) (depth : Nat) : List (Option String × Value) → List Char
  | [] => []
  | (k, v) :: ms =>
    ',' :: (sp.line depth ++ sp.key k ++ v.write sp depth ++ writeMembers sp depth ms)

end

def Value.compact (v : Value) : String :=
  String.ofList (v.write .compact 0)

def Value.pretty (v : Value) : String :=
  String.ofList (v.write .pretty 0)

end ByteGrid.Json
