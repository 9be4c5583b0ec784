import ByteGrid.Text.Basic

namespace ByteGrid

open ByteGrid.Text

inductive FieldKind where
  | scalar
  | pointer
  | array
  | functionPointer
deriving Repr, DecidableEq

def functionPointerTag : String := "function_ptr"

def FieldKind.classify (typeName : String) (isPointer isArray : Bool) : FieldKind :=
  if typeName = functionPointerTag then .functionPointer
  else if isPointer then .pointer
  else if isArray then .array
  else .scalar

def FieldKind.tag : FieldKind → String
  | .scalar => "scalar"
  | .pointer => "pointer"
  | .array => "array"
  | .functionPointer => "function_pointer"

structure BitField where
  name : String
  bits : Nat
deriving Repr, DecidableEq

def BitField.label (b : BitField) : String :=
  b.name ++ ":" ++ decimal b.bits ++ "b"

/-- A placed member. Its kind follows from the type name and the flags, and all that set these keep
it up to date. -/
structure Field where
  name : String
  typeName : String
  kind : FieldKind
  offset : Nat
  size : Nat
  paddingBefore : Nat
  isPointer : Bool
  isArray : Bool
  count : Nat
  bitFields : List BitField
deriving Repr, DecidableEq

namespace Field

def new (name : String) (offset size : Nat) : Field :=
  { name, typeName := "", kind := .scalar, offset, size, paddingBefore := 0, isPointer := false
    isArray := false, count := 1, bitFields := [] }

def reclassify (f : Field) : Field :=
  { f with kind := .classify f.typeName f.isPointer f.isArray }

def withTypeName (f : Field) (typeName : String) : Field :=
  { f with typeName }.reclassify

def withPadding (f : Field) (paddingBefore : Nat) : Field :=
  { f with paddingBefore }

def withPointer (f : Field) (isPointer : Bool) : Field :=
  { f with isPointer }.reclassify

def withCount (f : Field) (count : Nat) : Field :=
  { f with count, isArray := 1 < count }.reclassify

def withArray (f : Field) (isArray : Bool) (count : Nat) : Field :=
  { f with isArray, count }.reclassify

def withBitFields (f : Field) (bitFields : List BitField) : Field :=
  { f with bitFields }

def stop (f : Field) : Nat :=
  f.offset + f.size

def paddingStart (f : Field) : Nat :=
  f.offset - f.paddingBefore

def message (f : Field) : String :=
  f.name ++ " @ " ++ decimal f.offset ++ " (" ++ decimal f.size ++ " bytes)"

end Field

end ByteGrid
