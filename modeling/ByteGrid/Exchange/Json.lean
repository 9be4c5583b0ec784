import ByteGrid.Exchange
import ByteGrid.Json.Decode
import ByteGrid.Json.Writer

namespace ByteGrid

open ByteGrid.Json

def BitDocument.toJson (b : BitDocument) : Value :=
  .record [("name", .text b.name), ("bits", .int b.bits)]

def FieldDocument.toJson (f : FieldDocument) : Value :=
  .record
    [("name", .text f.name), ("type", .text f.typeName), ("offset", .int f.offset),
     ("size", .int f.size), ("padding_before", .int f.paddingBefore),
     ("is_pointer", .bool f.isPointer), ("is_array", .bool f.isArray), ("count", .int f.count),
     ("bit_fields", .option (.list BitDocument.toJson) f.bitFields)]

def LayoutDocument.toJson (d : LayoutDocument) : Value :=
  .record
    ((d.structName.map fun name => ("struct_name", Value.text name)).toList ++
    [("total_size", .int d.totalSize), ("max_align", .int d.maxAlign),
     ("pack_value", .option .int d.packValue), ("fields", .list FieldDocument.toJson d.fields)])

def BitDocument.ofJson? (v : Value) : Except Mismatch BitDocument := do
  let r ← v.record? 2
  let name ← r.required 0 "name" Value.text?
  let bits ← r.required 1 "bits" Value.int?
  return { name, bits }

def FieldDocument.ofJson? (v : Value) : Except Mismatch FieldDocument := do
  let r ← v.record? 9
  let name ← r.required 0 "name" Value.text?
  let typeName ← r.optional 1 ["type"] "" Value.text?
  let offset ← r.required 2 "offset" Value.int?
  let size ← r.required 3 "size" Value.int?
  let paddingBefore ← r.optional 4 ["padding_before"] 0 Value.int?
  let isPointer ← r.optional 5 ["is_pointer"] false Value.bool?
  let isArray ← r.optional 6 ["is_array"] false Value.bool?
  let count ← r.optional 7 ["count"] 1 Value.int?
  let bitFields ← r.optional 8 ["bit_fields"] none (Value.option? (Value.list? BitDocument.ofJson?))
  return { name, typeName, offset, size, paddingBefore, isPointer, isArray, count, bitFields }

def LayoutDocument.ofJson? (v : Value) : Except Mismatch LayoutDocument := do
  let r ← v.record? 5
  let structName ← r.optional 0 ["struct_name"] none (Value.option? Value.text?)
  let totalSize ← r.required 1 "total_size" Value.int?
  let maxAlign ← r.required 2 "max_align" Value.int?
  let packValue ← r.optional 3 ["pack_value"] none (Value.option? Value.int?)
  let fields ← r.optional 4 ["fields"] [] (Value.list? FieldDocument.ofJson?)
  return { structName, totalSize, maxAlign, packValue, fields }

def LayoutDocument.compact (d : LayoutDocument) : String :=
  d.toJson.compact

def LayoutDocument.pretty (d : LayoutDocument) : String :=
  d.toJson.pretty

def LayoutDocument.read (text : String) : Except Json.Error LayoutDocument :=
  decodeText LayoutDocument.ofJson? text

end ByteGrid
