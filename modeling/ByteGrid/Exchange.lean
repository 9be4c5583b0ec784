import ByteGrid.Layout

/-!
Layouts as they are exchanged with other programs. All numbers of a document are signed machine
words; a layout comes out of it only if none of them is negative.
-/

namespace ByteGrid

open ByteGrid.Text

structure BitDocument where
  name : String
  bits : Int
deriving Repr, DecidableEq

structure FieldDocument where
  name : String
  typeName : String
  offset : Int
  size : Int
  paddingBefore : Int
  isPointer : Bool
  isArray : Bool
  count : Int
  bitFields : Option (List BitDocument)
deriving Repr, DecidableEq

structure LayoutDocument where
  structName : Option String
  totalSize : Int
  maxAlign : Int
  packValue : Option Int
  fields : List FieldDocument
deriving Repr, DecidableEq

structure NegativeValue where
  what : String
  value : Int
deriving Repr, DecidableEq

def NegativeValue.message (n : NegativeValue) : String :=
  "Negative value for " ++ n.what ++ ": " ++ signedDecimal n.value

def natural? (what : String) (n : Int) : Except NegativeValue Nat :=
  if 0 ≤ n then .ok n.toNat else .error ⟨what, n⟩

/-- The bit-field of a document. A width beyond half a machine word is refused like a negative
one. -/
def BitDocument.bitField? (b : BitDocument) : Except NegativeValue BitField :=
  if 0 ≤ b.bits ∧ b.bits < halfWordBound then .ok ⟨b.name, b.bits.toNat⟩
  else .error ⟨b.name ++ ".bits", b.bits⟩

def FieldDocument.field? (f : FieldDocument) : Except NegativeValue Field := do
  let offset ← natural? (f.name ++ ".offset") f.offset
  let size ← natural? (f.name ++ ".size") f.size
  let padding ← natural? (f.name ++ ".padding_before") f.paddingBefore
  let count ← natural? (f.name ++ ".count") f.count
  let bitFields ← (f.bitFields.getD []).mapM BitDocument.bitField?
  return ((((Field.new f.name offset size).withTypeName f.typeName).withPadding padding).withPointer
    f.isPointer |>.withArray f.isArray count).withBitFields bitFields

def LayoutDocument.layout? (d : LayoutDocument) : Except NegativeValue Layout := do
  let totalSize ← natural? "total_size" d.totalSize
  let maxAlign ← natural? "max_align" d.maxAlign
  let packValue ← d.packValue.mapM (natural? "pack_value")
  let fields ← d.fields.mapM FieldDocument.field?
  return { name := d.structName, totalSize, maxAlign, packValue, fields }

/-- A number as a signed machine word: the upper half of the range comes out negative. -/
def signedWord (n : Nat) : Int :=
  (n : Int).bmod wordBound

def BitDocument.ofBitField (b : BitField) : BitDocument :=
  ⟨b.name, b.bits⟩

def FieldDocument.ofField (f : Field) : FieldDocument :=
  { name := f.name
    typeName := f.typeName
    offset := signedWord f.offset
    size := signedWord f.size
    paddingBefore := signedWord f.paddingBefore
    isPointer := f.isPointer
    isArray := f.isArray
    count := signedWord f.count
    bitFields :=
      if f.bitFields.isEmpty then none else some (f.bitFields.map BitDocument.ofBitField) }

def LayoutDocument.ofLayout (l : Layout) : LayoutDocument :=
  { structName := l.name
    totalSize := signedWord l.totalSize
    maxAlign := signedWord l.maxAlign
    packValue := l.packValue.map signedWord
    fields := l.fields.map FieldDocument.ofField }

end ByteGrid
