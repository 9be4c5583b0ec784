import ByteGrid.Decimal.Written
import ByteGrid.Grid.Label
import ByteGrid.Layout.Validity
import ByteGrid.Log

/-!
Layouts cut into rows of equal width. Rows and their segments count bytes; what is measured in units
of presentation follows from the scale, so that a grid at another scale has the same rows.
-/

namespace ByteGrid

open ByteGrid.Decimal ByteGrid.Text

structure Usage where
  totalSize : Nat
  dataBytes : Nat
  paddingBytes : Nat
  tailPadding : Nat
  efficiency : Float
  isLow : Bool
  rowCount : Nat
deriving Repr

def lowEfficiency : Float := 70

def roundTenth (x : Float) : Float :=
  (x * 10).round / 10

def efficiencyPercent (dataBytes totalSize : Nat) : Float :=
  if 0 < totalSize then
    roundTenth (Float.ofNat dataBytes / Float.ofNat totalSize * 100)
  else 0

def rowsFor (totalSize width : Nat) : Nat :=
  if width = 0 then 0 else (totalSize + width - 1) / width

def Layout.usage (l : Layout) : Usage :=
  let efficiency := efficiencyPercent l.dataBytes l.totalSize
  { totalSize := l.totalSize
    dataBytes := l.dataBytes
    paddingBytes := l.totalSize - l.dataBytes
    tailPadding := l.tailPadding
    efficiency
    isLow := efficiency < lowEfficiency
    rowCount := rowsFor l.totalSize l.rowWidth }

inductive Content where
  | padding
  | field (index : Nat)
deriving Repr, DecidableEq

def Content.tag : Content → String
  | .padding => "padding"
  | .field _ => "field"

def Content.field? : Content → Option Nat
  | .padding => none
  | .field i => some i

/-- Bytes of one row that belong together, from `start` up to and without `stop`. -/
structure Segment where
  content : Content
  start : Nat
  stop : Nat
deriving Repr, DecidableEq

def Segment.length (s : Segment) : Nat :=
  s.stop - s.start

structure Row where
  start : Nat
  stop : Nat
  labelLines : Nat
  segments : List Segment
deriving Repr, DecidableEq

def Row.width (r : Row) : Nat :=
  r.stop - r.start

def Row.coveredBytes (r : Row) : Nat :=
  @List.sum Nat _ Zero.ofOfNat0 (r.segments.map Segment.length)

def Row.paddingBytes (r : Row) : Nat :=
  @List.sum Nat _ Zero.ofOfNat0
    ((r.segments.filter (·.content = .padding)).map Segment.length)

structure Grid where
  name : Option String
  rows : List Row
  usage : Usage
  labels : List Label
  rowWidth : Nat
  scale : Float
  policy : LabelPolicy
  packValue : Option Nat
  maxAlign : Nat
deriving Repr

inductive RenderError where
  | invalidScale (scale : Float)
  | violation (v : Violation)
deriving Repr

def RenderError.message : RenderError → String
  | .invalidScale scale => "Invalid visual scale: " ++ FloatStyle.message.write scale
  | .violation v => "Layout contract violated: " ++ v.message

def isScale (x : Float) : Bool :=
  x.isFinite && 0 < x

namespace Grid

-- A row holds its segments, so the difference is never below zero.
def segmentX (g : Grid) (r : Row) (s : Segment) : Float :=
  Float.ofNat (s.start - r.start) * g.scale

def segmentWidth (g : Grid) (s : Segment) : Float :=
  Float.ofNat s.length * g.scale

def rowExtent (g : Grid) (r : Row) : Float :=
  Float.ofNat r.width * g.scale

def rowHeight (g : Grid) (r : Row) : Float :=
  g.policy.rowHeight r.labelLines

def label? (g : Grid) (s : Segment) : Option Label :=
  s.content.field?.bind (g.labels[·]?)

def rescale (g : Grid) (scale : Float) : Except RenderError Grid :=
  if isScale scale then .ok { g with scale } else .error (.invalidScale scale)

end Grid

structure GridStyle where
  policy : LabelPolicy
  tailPadding : Bool
deriving Repr, DecidableEq

def GridStyle.standard : GridStyle :=
  { policy := .adaptive, tailPadding := false }

def segmentIn? (content : Content) (start stop rowStart rowStop : Nat) : Option Segment :=
  let lo := max start rowStart
  let hi := min stop rowStop
  if lo < hi then some ⟨content, lo, hi⟩ else none

def Field.paddingIn? (rowStart rowStop : Nat) (f : Field) : Option Segment :=
  segmentIn? .padding f.paddingStart f.offset rowStart rowStop

def Field.bytesIn? (rowStart rowStop : Nat) (f : Field × Nat) : Option Segment :=
  segmentIn? (.field f.2) f.1.offset f.1.stop rowStart rowStop

def GridStyle.row (style : GridStyle) (l : Layout) (start stop : Nat) : Row :=
  let padding := l.fields.filterMap (Field.paddingIn? start stop)
  let tail :=
    if style.tailPadding then (segmentIn? .padding l.dataEnd l.totalSize start stop).toList else []
  let bytes := l.fields.zipIdx.filterMap (Field.bytesIn? start stop)
  let inRow := l.fields.filter fun f => (segmentIn? .padding f.offset f.stop start stop).isSome
  { start, stop
    labelLines := style.policy.labelLines ((inRow.map (·.bitFields.length)).foldl max 0)
    -- the sort is stable: of segments that start at one byte, padding comes first
    segments := (padding ++ tail ++ bytes).mergeSort fun a b => a.start ≤ b.start }

def GridStyle.rowsFrom (style : GridStyle) (l : Layout) (start : Nat) : List Row :=
  if _inside : start < l.totalSize ∧ 0 < l.rowWidth then
    style.row l start (min (start + l.rowWidth) l.totalSize) ::
      style.rowsFrom l (start + l.rowWidth)
  else []
termination_by l.totalSize - start
decreasing_by omega

def GridStyle.rows (style : GridStyle) (l : Layout) : List Row :=
  style.rowsFrom l 0

def GridStyle.render (style : GridStyle) (l : Layout) (scale : Float) : Except RenderError Grid :=
  if isScale scale then
    match l.validate with
    | .error v => .error (.violation v)
    | .ok () =>
      .ok
        { name := l.name
          rows := style.rows l
          usage := l.usage
          labels := l.fields.map Label.ofField
          rowWidth := l.rowWidth
          scale
          policy := style.policy
          packValue := l.packValue
          maxAlign := l.maxAlign }
  else .error (.invalidScale scale)

def shownName (name : Option String) : String :=
  name.getD "<anonymous>"

def Grid.entry (g : Grid) : LogEntry :=
  ⟨.debug, "struct_visualizer::render::grid",
    "Rendered " ++ decimal g.rows.length ++ " rows of " ++ decimal g.rowWidth ++ " bytes for " ++
      shownName g.name⟩

end ByteGrid
