import ByteGrid.Text.Basic

namespace ByteGrid

open ByteGrid.Text

structure Footprint where
  size : Nat
  align : Nat
deriving Repr, DecidableEq

def Footprint.message (f : Footprint) : String :=
  "size " ++ decimal f.size ++ " align " ++ decimal f.align

structure TypeTable where
  entries : List (String × Footprint)
  pointer : Footprint
deriving Repr, DecidableEq

def TypeTable.get? (t : TypeTable) (name : String) : Option Footprint :=
  (t.entries.find? (·.1 == name)).map (·.2)

def setEntry (name : String) (f : Footprint) : List (String × Footprint) → List (String × Footprint)
  | [] => [(name, f)]
  | e :: es => if e.1 = name then (name, f) :: es else e :: setEntry name f es

def TypeTable.insert (t : TypeTable) (name : String) (f : Footprint) : TypeTable :=
  { t with entries := setEntry name f t.entries }

def TypeTable.withPointer (t : TypeTable) (pointer : Footprint) : TypeTable :=
  { t with pointer }

def TypeTable.empty (pointer : Footprint) : TypeTable :=
  { entries := [], pointer }

def TypeTable.standard : TypeTable :=
  { entries :=
      [("char", ⟨1, 1⟩), ("signed char", ⟨1, 1⟩), ("unsigned char", ⟨1, 1⟩), ("boolean", ⟨1, 1⟩),
       ("bool", ⟨1, 1⟩), ("short", ⟨2, 2⟩), ("unsigned short", ⟨2, 2⟩), ("int", ⟨4, 4⟩),
       ("unsigned", ⟨4, 4⟩), ("unsigned int", ⟨4, 4⟩), ("long", ⟨8, 8⟩), ("unsigned long", ⟨8, 8⟩),
       ("long long", ⟨8, 8⟩), ("unsigned long long", ⟨8, 8⟩), ("float", ⟨4, 4⟩),
       ("double", ⟨8, 8⟩), ("size_t", ⟨4, 4⟩), ("time_t", ⟨4, 4⟩), ("uint8", ⟨1, 1⟩),
       ("uint16", ⟨2, 2⟩), ("uint32", ⟨4, 4⟩), ("uint64", ⟨8, 8⟩), ("int8_t", ⟨1, 1⟩),
       ("uint8_t", ⟨1, 1⟩), ("int16_t", ⟨2, 2⟩), ("uint16_t", ⟨2, 2⟩), ("int32_t", ⟨4, 4⟩),
       ("uint32_t", ⟨4, 4⟩), ("int64_t", ⟨8, 8⟩), ("uint64_t", ⟨8, 8⟩),
       ("Std_ReturnType", ⟨1, 1⟩)]
    pointer := ⟨4, 4⟩ }

end ByteGrid
