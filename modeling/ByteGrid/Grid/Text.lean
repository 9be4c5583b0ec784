import ByteGrid.Grid
import ByteGrid.Text.Paint

namespace ByteGrid

open ByteGrid.Decimal ByteGrid.Text

def unitsPerCharacter : Float := 10

def columnOf (units : Float) : Nat :=
  (units / unitsPerCharacter).round.toUInt64.toNat

structure TextStyle where
  colors : Bool
  offsets : Bool
  column : Float → Nat

def TextStyle.standard (colors : Bool) : TextStyle :=
  { colors, offsets := true, column := columnOf }

/-- A segment with the number of columns of its cell, the separator on its left included. -/
structure Cell where
  segment : Segment
  width : Nat
deriving Repr, DecidableEq

/-- The cells of segments, from the column `cursor` on. Columns are natural numbers: there is one behind
every column, so `left + 1` does not wrap around as it would behind the last column of a word. -/
def Grid.cellsFrom (g : Grid) (column : Float → Nat) (r : Row) (cursor : Nat) :
    List Segment → List Cell
  | [] => []
  | s :: ss =>
    let x := g.segmentX r s
    let left := max (column x) cursor
    let right := max (column (x + g.segmentWidth s)) (left + 1)
    ⟨s, right - left⟩ :: g.cellsFrom column r right ss

def Grid.cells (g : Grid) (column : Float → Nat) (r : Row) : List Cell :=
  g.cellsFrom column r 0 r.segments

def Cell.inner (c : Cell) : Nat :=
  c.width - 1

def fit (text : String) (width : Nat) : String :=
  let shown := text.toList.take width
  String.ofList (shown ++ List.replicate (width - shown.length) ' ')

def paddingLabel : String := "PAD"

def Grid.bitLines (g : Grid) (r : Row) : Nat :=
  if (r.segments.filterMap g.label?).any (!·.bitLabels.isEmpty) then
    match g.policy with
    | .fixed => 1
    | .adaptive => r.labelLines
  else 0

def Grid.cellText (g : Grid) (c : Cell) (line : Nat) : String :=
  match g.label? c.segment with
  | none => if line = 0 ∧ paddingLabel.length ≤ c.inner then paddingLabel else ""
  | some label =>
    match line with
    | 0 => label.text
    | k + 1 =>
      if label.bitLabels.isEmpty then ""
      else
        match g.policy with
        | .fixed => label.bitSummary
        | .adaptive => label.bitLabels[k]?.getD ""

def Grid.cellInk (g : Grid) (s : Segment) : Ink :=
  match (g.label? s).map Label.kind with
  | none => .red
  | some .functionPointer => .magenta
  | some .pointer => .blue
  | some _ => .green

def borderOf (cells : List Cell) : String :=
  String.join (cells.map fun c => "+" ++ "".pushn '-' c.inner) ++ "+"

def Grid.textLine (g : Grid) (colors : Bool) (cells : List Cell) (line : Nat) : String :=
  String.join (cells.map fun c =>
    "|" ++ paint colors (g.cellInk c.segment) (fit (g.cellText c line) c.inner)) ++ "|"

def TextStyle.offsetText (style : TextStyle) (r : Row) : String :=
  if style.offsets then "0x" ++ hexadecimal 4 r.start ++ " " else ""

def TextStyle.rowLines (style : TextStyle) (g : Grid) (r : Row) : List String :=
  let cells := g.cells style.column r
  let offset := style.offsetText r
  let blank := "".pushn ' ' offset.length
  let border := blank ++ borderOf cells
  let text (line : Nat) : String :=
    (if line = 0 then offset else blank) ++ g.textLine style.colors cells line
  border :: ((List.range (1 + g.bitLines r)).map text ++ [border])

def TextStyle.header (style : TextStyle) (g : Grid) : List String :=
  let efficiency := "Eff: " ++ oneDecimal g.usage.efficiency ++ "%"
  (g.name.map (paint style.colors .boldCyan)).toList ++
    ["Size: " ++ decimal g.usage.totalSize ++ " B | Data: " ++ decimal g.usage.dataBytes ++
      " B | Pad: " ++ decimal g.usage.paddingBytes ++ " B | " ++
      paint style.colors (if g.usage.isLow then .boldRed else .green) efficiency,
     paint style.colors .dim
      (match g.packValue with
        | some pack => "Packed: " ++ decimal pack ++ " B"
        | none => "Natural (max align " ++ decimal g.maxAlign ++ " B)")]

def TextStyle.draw (style : TextStyle) (g : Grid) : String :=
  let empty := if g.rows.isEmpty then ["(empty struct)"] else []
  "\n".intercalate (style.header g ++ [""] ++ empty ++ g.rows.flatMap (style.rowLines g)) ++ "\n"

end ByteGrid
