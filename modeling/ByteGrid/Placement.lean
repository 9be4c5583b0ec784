import ByteGrid.Declaration
import ByteGrid.Layout
import ByteGrid.TypeTable

/-!
Placing members one after the other. Each member starts at the first offset that its alignment
allows, and bit-fields of one type share a storage unit as long as their widths fit.
-/

namespace ByteGrid

open ByteGrid.Text

structure Alignment where
  bytes : Nat
  pos : 0 < bytes
deriving DecidableEq

def Alignment.of (bytes : Nat) : Alignment :=
  ⟨max bytes 1, Nat.le_max_right bytes 1⟩

def Alignment.packed (natural : Nat) (pack : Option Nat) : Alignment :=
  match pack with
  | some p => if 0 < p then .of (min natural p) else .of natural
  | none => .of natural

def Alignment.padding (a : Alignment) (offset : Nat) : Nat :=
  (a.bytes - offset % a.bytes) % a.bytes

def Alignment.align (a : Alignment) (offset : Nat) : Nat :=
  offset + a.padding offset

inductive LayoutError where
  | unknownType (name : String)
  | noStruct
  | structNotFound (name : String)
  | emptyStruct (name : String)
  | objectTooLarge (name : String)
  | recursionLimit (name : String)
deriving Repr, DecidableEq

def LayoutError.message : LayoutError → String
  | .unknownType name => "Unknown type: " ++ name
  | .noStruct => "No valid struct found"
  | .structNotFound name => "Struct not found: " ++ name
  | .emptyStruct name => "Struct " ++ name ++ " has no fields"
  | .objectTooLarge name => name ++ " is larger than the largest object size"
  | .recursionLimit name => "Nested struct depth exceeded while laying out " ++ name

/-- The size of the largest object: offsets differ by a signed machine word. -/
def maxObjectSize : Nat := signBound - 1

structure BitUnit where
  typeName : String
  capacity : Nat
  used : Nat
deriving Repr, DecidableEq

/-- The members placed so far: their fields, the last one first, the offset after them, the largest
natural alignment, and the storage unit that is still open, which is then that of the last field. -/
structure Placement where
  fields : List Field
  offset : Nat
  maxAlign : Nat
  unit : Option BitUnit
deriving Repr, DecidableEq

namespace Placement

def start : Placement :=
  { fields := [], offset := 0, maxAlign := 1, unit := none }

def unitCapacity (size : Nat) : Nat :=
  min (8 * size) (wordBound - 1)

def joins (p : Placement) (m : Member) : Bool :=
  match p.unit, m.bitWidth with
  | some u, some bits => m.typeName == u.typeName && u.used + bits ≤ u.capacity
  | _, _ => false

def join (p : Placement) (m : Member) : Placement :=
  let bits := m.bitWidth.getD 0
  { p with
    fields :=
      match p.fields with
      | [] => []
      | f :: fs =>
        { f with name := f.name ++ ", " ++ m.name
                 bitFields := f.bitFields ++ [⟨m.name, bits⟩] } :: fs
    unit := p.unit.map fun u => { u with used := u.used + bits } }

def wordSum? (a b : Nat) : Option Nat :=
  if a + b < wordBound then some (a + b) else none

def wordTimes? (a b : Nat) : Option Nat :=
  if a * b < wordBound then some (a * b) else none

def stop? (name : String) (offset length : Nat) : Except LayoutError Nat :=
  match (wordSum? offset length).filter (· ≤ maxObjectSize) with
  | some stop => .ok stop
  | none => .error (.objectTooLarge name)

def size? (m : Member) (f : Footprint) : Except LayoutError Nat :=
  if m.bitWidth.isSome then .ok f.size
  else
    match wordTimes? f.size m.arrayLength with
    | some size => .ok size
    | none => .error (.objectTooLarge m.name)

structure Extent where
  padding : Nat
  offset : Nat
  size : Nat
  stop : Nat
deriving Repr, DecidableEq

def extent? (pack : Option Nat) (offset : Nat) (m : Member) (f : Footprint) :
    Except LayoutError Extent := do
  let padding := (Alignment.packed f.align pack).padding offset
  let start ← stop? m.name offset padding
  let size ← size? m f
  let stop ← stop? m.name start size
  return { padding, offset := start, size, stop }

def memberField (m : Member) (e : Extent) : Field :=
  let field := ((Field.new m.name e.offset e.size).withTypeName m.typeName).withPadding e.padding
  match m.bitWidth with
  | some bits => field.withBitFields [⟨m.name, bits⟩]
  | none => (field.withPointer m.isPointer).withArray (1 < m.arrayLength) m.arrayLength

def put (p : Placement) (m : Member) (f : Footprint) (e : Extent) : Placement :=
  { fields := memberField m e :: p.fields
    offset := e.stop
    maxAlign := max p.maxAlign f.align
    unit := m.bitWidth.map fun bits => ⟨m.typeName, unitCapacity f.size, bits⟩ }

/-- Places a member. A bit-field joins the open storage unit if it can; anything else needs the
footprint of its type, and must end within the largest object. -/
def add (footprint : Member → Except LayoutError Footprint) (pack : Option Nat) (p : Placement)
    (m : Member) : Except LayoutError Placement :=
  if p.joins m then .ok (p.join m)
  else do
    let f ← footprint m
    let e ← extent? pack p.offset m f
    return p.put m f e

def finish (pack : Option Nat) (name : String) (p : Placement) : Except LayoutError Layout := do
  let totalSize ← stop? name p.offset ((Alignment.packed p.maxAlign pack).padding p.offset)
  return { name := some name, totalSize, maxAlign := p.maxAlign, packValue := pack
           fields := p.fields.reverse }

end Placement

def Declaration.layout (footprint : Member → Except LayoutError Footprint) (pack : Option Nat)
    (d : Declaration) : Except LayoutError Layout :=
  if d.members.isEmpty then .error (.emptyStruct d.name)
  else do
    let p ← d.members.foldlM (Placement.add footprint pack) Placement.start
    p.finish pack d.name

end ByteGrid
