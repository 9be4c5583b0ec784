import ByteGrid.Field

namespace ByteGrid

open ByteGrid.Text

/-- A member as it is declared. An array length of one means no array. -/
structure Member where
  name : String
  typeName : String
  isPointer : Bool
  isFunctionPointer : Bool
  arrayLength : Nat
  bitWidth : Option Nat
deriving Repr, DecidableEq

def Member.new (name typeName : String) : Member :=
  { name, typeName, isPointer := false, isFunctionPointer := false, arrayLength := 1
    bitWidth := none }

def Member.functionPointer (name : String) : Member :=
  { Member.new name functionPointerTag with isPointer := true, isFunctionPointer := true }

def Member.print (m : Member) : String :=
  m.typeName ++ " " ++ (if m.isPointer then "*" else "") ++ m.name ++
    (if m.arrayLength = 1 then "" else "[" ++ decimal m.arrayLength ++ "]") ++
    (match m.bitWidth with
      | none => ""
      | some bits => " : " ++ decimal bits)

structure Declaration where
  name : String
  members : List Member
deriving Repr, DecidableEq

def addNew (ds : List Declaration) (d : Declaration) : List Declaration :=
  if ds.any (·.name == d.name) then ds else ds ++ [d]

end ByteGrid
