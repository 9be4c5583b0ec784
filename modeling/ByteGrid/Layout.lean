import ByteGrid.Field

namespace ByteGrid

open ByteGrid.Text

structure Layout where
  name : Option String
  totalSize : Nat
  maxAlign : Nat
  packValue : Option Nat
  fields : List Field
deriving Repr, DecidableEq

namespace Layout

def new (totalSize maxAlign : Nat) : Layout :=
  { name := none, totalSize, maxAlign, packValue := none, fields := [] }

def field? (l : Layout) (name : String) : Option Field :=
  l.fields.find? (·.name == name)

def rowWidth (l : Layout) : Nat :=
  l.packValue.getD l.maxAlign

-- The zero is named, here and in a row: it is another term where more of the library is imported.
def dataBytes (l : Layout) : Nat :=
  @List.sum Nat _ Zero.ofOfNat0 (l.fields.map Field.size)

def dataEnd (l : Layout) : Nat :=
  (l.fields.map Field.stop).foldl max 0

def tailPadding (l : Layout) : Nat :=
  l.totalSize - l.dataEnd

def isPacked (l : Layout) : Bool :=
  l.packValue.isSome

end Layout

/-- A layout that is put together field by field; `cursor` is the end of all fields so far. -/
structure LayoutBuilder where
  layout : Layout
  cursor : Nat

namespace LayoutBuilder

def new (totalSize maxAlign : Nat) : LayoutBuilder :=
  { layout := .new totalSize maxAlign, cursor := 0 }

def name (b : LayoutBuilder) (name : String) : LayoutBuilder :=
  { b with layout := { b.layout with name := some name } }

def pack (b : LayoutBuilder) (pack : Nat) : LayoutBuilder :=
  { b with layout := { b.layout with packValue := some pack } }

def field (b : LayoutBuilder) (f : Field) : LayoutBuilder :=
  let f := if f.paddingBefore = 0 ∧ b.cursor < f.offset then f.withPadding (f.offset - b.cursor) else f
  { layout := { b.layout with fields := b.layout.fields ++ [f] }
    cursor := max b.cursor f.stop }

def scalar (b : LayoutBuilder) (name : String) (offset size : Nat) : LayoutBuilder :=
  b.field (.new name offset size)

def pointer (b : LayoutBuilder) (name : String) (offset size : Nat) : LayoutBuilder :=
  b.field ((Field.new name offset size).withPointer true)

def array (b : LayoutBuilder) (name : String) (offset size count : Nat) : LayoutBuilder :=
  b.field ((Field.new name offset size).withCount count)

def bitRun (b : LayoutBuilder) (name : String) (offset size : Nat) (bits : List BitField) :
    LayoutBuilder :=
  b.field ((Field.new name offset size).withBitFields bits)

end LayoutBuilder

end ByteGrid
