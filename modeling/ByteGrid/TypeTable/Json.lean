import ByteGrid.Json.Decode
import ByteGrid.TypeTable

namespace ByteGrid

open ByteGrid.Json

def Footprint.toJson (f : Footprint) : Value :=
  .record [("size", .nat f.size), ("align", .nat f.align)]

def Footprint.ofJson? (v : Value) : Except Mismatch Footprint := do
  let r ← v.record? 2
  let size ← r.required 0 "size" Value.nat?
  let align ← r.required 1 "align" Value.nat?
  return { size, align }

def entriesToJson (entries : List (String × Footprint)) : Value :=
  .record (entries.map fun e => (e.1, e.2.toJson))

def entriesOfJson? (v : Value) : Except Mismatch (List (String × Footprint)) := do
  let ms ← v.members?
  ms.foldlM (fun entries m => return setEntry m.1 (← Footprint.ofJson? m.2) entries) []

def TypeTable.ofRecord? (r : Record) : Except Mismatch TypeTable := do
  let entries ← r.optional 0 ["types"] TypeTable.standard.entries entriesOfJson?
  let pointer ← r.optional 1 ["pointer"] TypeTable.standard.pointer Footprint.ofJson?
  return { entries, pointer }

def TypeTable.ofJson? (v : Value) : Except Mismatch TypeTable := do
  TypeTable.ofRecord? (← v.record? 2)

def TypeTable.jsonMembers (t : TypeTable) : List (String × Value) :=
  [("types", entriesToJson t.entries), ("pointer", t.pointer.toJson)]

def TypeTable.read (text : String) : Except Json.Error TypeTable :=
  decodeText TypeTable.ofJson? text

end ByteGrid
