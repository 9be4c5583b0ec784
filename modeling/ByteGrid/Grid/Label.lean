import ByteGrid.Field
import ByteGrid.Text.Lowercase

namespace ByteGrid

open ByteGrid.Text

inductive LabelPolicy where
  | fixed
  | adaptive
deriving Repr, DecidableEq

namespace LabelPolicy

def name : LabelPolicy → String
  | .fixed => "fixed"
  | .adaptive => "adaptive"

def ofName? (s : String) : Option LabelPolicy :=
  if s = "fixed" then some .fixed else if s = "adaptive" then some .adaptive else none

def read (s : String) : Except String LabelPolicy :=
  match ofName? (lowercase s) with
  | some p => .ok p
  | none => .error ("Unknown label policy: " ++ lowercase s)

def labelLines (p : LabelPolicy) (maxBitFields : Nat) : Nat :=
  match p with
  | .fixed => 1
  | .adaptive => max maxBitFields 1

def baseHeight : Float := 50

def lineHeight : Float := 14

def rowHeight (_ : LabelPolicy) (labelLines : Nat) : Float :=
  baseHeight + Float.ofNat (labelLines - 1) * lineHeight

end LabelPolicy

structure Label where
  text : String
  kind : FieldKind
  bitLabels : List String
deriving Repr, DecidableEq

def Field.label (f : Field) : String :=
  f.name ++
    (if f.kind = .functionPointer then "_fn" else if f.isPointer then "*" else "") ++
    (if f.isArray ∧ 1 < f.count then "[" ++ decimal f.count ++ "]" else "")

def Label.ofField (f : Field) : Label :=
  { text := f.label, kind := f.kind, bitLabels := f.bitFields.map BitField.label }

def Label.bitSummary (l : Label) : String :=
  " | ".intercalate l.bitLabels

end ByteGrid
