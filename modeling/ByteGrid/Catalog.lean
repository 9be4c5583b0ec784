import ByteGrid.Log
import ByteGrid.Placement

/-!
Laying out structs whose members may be of other declared structs. Named types come first, then
declarations, which are laid out in turn with their natural alignment.
-/

namespace ByteGrid

open ByteGrid.Text

structure Catalog where
  types : TypeTable
  declarations : List Declaration
deriving Repr, DecidableEq

namespace Catalog

def ofTypes (types : TypeTable) : Catalog :=
  { types, declarations := [] }

def add (c : Catalog) (d : Declaration) : Catalog :=
  { c with declarations := addNew c.declarations d }

def addAll (c : Catalog) (ds : List Declaration) : Catalog :=
  ds.foldl add c

def declaration? (c : Catalog) (name : String) : Option Declaration :=
  c.declarations.find? (·.name == name)

def typeFootprint (c : Catalog) (nested : Declaration → Except LayoutError Layout) (name : String) :
    Except LayoutError Footprint :=
  match c.types.get? name with
  | some f => .ok f
  | none =>
    match c.declaration? name with
    | some d => (nested d).map fun l => ⟨l.totalSize, l.maxAlign⟩
    | none => if name = functionPointerTag then .ok c.types.pointer else .error (.unknownType name)

def memberFootprint (c : Catalog) (nested : Declaration → Except LayoutError Layout) (m : Member) :
    Except LayoutError Footprint :=
  if m.bitWidth.isNone ∧ (m.isPointer ∨ m.isFunctionPointer) then .ok c.types.pointer
  else c.typeFootprint nested m.typeName

def maxNestingDepth : Nat := 16

/-- Lays out a struct with at most `levels` structs from the outermost to the innermost one. -/
def layoutWithin (c : Catalog) : Nat → Option Nat → Declaration → Except LayoutError Layout
  | 0, _, d => .error (.recursionLimit d.name)
  | levels + 1, pack, d => d.layout (c.memberFootprint (c.layoutWithin levels none)) pack

def layout (c : Catalog) (d : Declaration) (pack : Option Nat) : Except LayoutError Layout :=
  c.layoutWithin (maxNestingDepth + 1) (pack.filter (0 < ·)) d

def layoutOf (c : Catalog) (name : String) (pack : Option Nat) : Except LayoutError Layout :=
  match c.declaration? name with
  | some d => c.layout d pack
  | none => .error (.structNotFound name)

end Catalog

def Declaration.layoutEntry (d : Declaration) (l : Layout) : LogEntry :=
  ⟨.debug, "struct_visualizer::structure::engine",
    "Laid out " ++ d.name ++ ": " ++ decimal l.totalSize ++ " bytes, max align " ++
      decimal l.maxAlign ++ ", " ++ decimal l.fields.length ++ " fields"⟩

end ByteGrid
