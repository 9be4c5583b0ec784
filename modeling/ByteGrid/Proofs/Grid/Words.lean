import ByteGrid.Proofs.Exchange.Documents
import ByteGrid.Proofs.Fields
import ByteGrid.Proofs.Grid.Bytes
import Mathlib.Algebra.GroupWithZero.Nat
import Mathlib.Algebra.Order.Floor.Div
import Mathlib.Data.List.ReduceOption

/-!
Grids on machine words. While a layout is drawn, sums and differences are taken without a check, and a
sum that wraps around would keep the loop over the rows from its end. Here each of them is checked: for
a layout that is valid and no larger than an object, all of them are words, and the rows and the usage
come out as they do with numbers.
-/

namespace ByteGrid

open ByteGrid.Text Placement

def wordDifference? (a b : Nat) : Option Nat :=
  if b ≤ a then some (a - b) else none

def wordTotal? (ns : List Nat) : Option Nat :=
  ns.foldlM wordSum? 0

def wordRowsFor? (totalSize width : Nat) : Option Nat :=
  if width = 0 then some 0
  else if totalSize % width = 0 then some (totalSize / width)
  else wordSum? (totalSize / width) 1

def Field.wordStop? (f : Field) : Option Nat :=
  wordSum? f.offset f.size

def Layout.wordDataEnd? (l : Layout) : Option Nat := do
  let stops ← l.fields.mapM Field.wordStop?
  return stops.foldl max 0

def Layout.wordUsage? (l : Layout) : Option Usage := do
  let dataBytes ← wordTotal? (l.fields.map Field.size)
  let rowCount ← wordRowsFor? l.totalSize l.rowWidth
  let paddingBytes ← wordDifference? l.totalSize dataBytes
  let dataEnd ← l.wordDataEnd?
  let tailPadding ← wordDifference? l.totalSize dataEnd
  let efficiency := efficiencyPercent dataBytes l.totalSize
  return { totalSize := l.totalSize, dataBytes, paddingBytes, tailPadding, efficiency
           isLow := efficiency < lowEfficiency, rowCount }

def Field.wordPaddingIn? (rowStart rowStop : Nat) (f : Field) : Option (Option Segment) := do
  let start ← wordDifference? f.offset f.paddingBefore
  return segmentIn? .padding start f.offset rowStart rowStop

def Field.wordBytesIn? (rowStart rowStop : Nat) (f : Field × Nat) :
    Option (Option Segment × Nat) := do
  let stop ← f.1.wordStop?
  return (segmentIn? (.field f.2) f.1.offset stop rowStart rowStop, f.1.bitFields.length)

namespace GridStyle

def wordTailIn? (style : GridStyle) (l : Layout) (start stop : Nat) : Option (List Segment) :=
  if style.tailPadding then do
    let dataEnd ← l.wordDataEnd?
    return (segmentIn? .padding dataEnd l.totalSize start stop).toList
  else some []

def wordRow? (style : GridStyle) (l : Layout) (start stop : Nat) : Option Row := do
  let padding ← l.fields.mapM (Field.wordPaddingIn? start stop)
  let tail ← style.wordTailIn? l start stop
  let bytes ← l.fields.zipIdx.mapM (Field.wordBytesIn? start stop)
  let inRow := bytes.filter (·.1.isSome)
  return { start, stop
           labelLines := style.policy.labelLines ((inRow.map (·.2)).foldl max 0)
           segments := (padding.reduceOption ++ tail ++ bytes.filterMap (·.1)).mergeSort
             fun a b => a.start ≤ b.start }

def turn? (style : GridStyle) (l : Layout) (offset : Nat) : Option (Row × Nat) := do
  let stop ← wordSum? offset l.rowWidth
  let row ← style.wordRow? l offset (min stop l.totalSize)
  let next ← wordSum? offset l.rowWidth
  return (row, next)

inductive Loops (style : GridStyle) (l : Layout) : Nat → List Row → Prop
  | done {offset : Nat} : l.totalSize ≤ offset → Loops style l offset []
  | turn {offset next : Nat} {row : Row} {rows : List Row} : offset < l.totalSize →
      style.turn? l offset = some (row, next) → Loops style l next rows →
      Loops style l offset (row :: rows)

end GridStyle

/-- What is counted of a row once it is drawn: its bytes and those of its segments, where these start in
it, and the lines of its labels. -/
structure Row.Counted (l : Layout) (r : Row) : Prop where
  width : wordDifference? r.stop r.start = some r.width
  stop_le : r.stop ≤ l.totalSize
  segments : ∀ s ∈ r.segments, wordDifference? s.stop s.start = some s.length ∧
    wordDifference? s.start r.start = some (s.start - r.start)
  lines : wordDifference? r.labelLines 1 = some (r.labelLines - 1)
  lines_lt : (∀ f ∈ l.fields, f.bitFields.length < wordBound) → r.labelLines < wordBound

variable {l : Layout} {style : GridStyle} {f : Field} {gs : List Field} {ns : List Nat} {r : Row}
variable {a b totalSize before start stop offset : Nat} {rows : List Row}

theorem wordSum?_of_lt (h : a + b < wordBound) : wordSum? a b = some (a + b) :=
  if_pos h

theorem wordDifference?_of_le (h : b ≤ a) : wordDifference? a b = some (a - b) :=
  if_pos h

theorem mapM_eq_map {α β : Type} {f : α → Option β} {g : α → β} {as : List α}
    (h : ∀ a ∈ as, f a = some (g a)) : as.mapM f = some (as.map g) := by
  induction as with
  | nil => rfl
  | cons a as ih =>
    rw [List.mapM_cons, h a (.head _), ih fun x hx => h x (.tail _ hx)]
    rfl

theorem foldlM_wordSum? (h : a + ns.sum < wordBound) :
    ns.foldlM wordSum? a = some (a + ns.sum) := by
  induction ns generalizing a with
  | nil => rfl
  | cons n ns ih =>
    rw [List.sum_cons, ← Nat.add_assoc] at h ⊢
    rw [List.foldlM_cons, wordSum?_of_lt (Nat.lt_of_le_of_lt (Nat.le_add_right _ _) h)]
    exact ih h

theorem wordTotal?_of_lt (h : ns.sum < wordBound) : wordTotal? ns = some ns.sum := by
  rw [← Nat.zero_add ns.sum] at h ⊢
  exact foldlM_wordSum? h

theorem rowsFor_eq_ceilDiv {width : Nat} (hw : 0 < width) (totalSize : Nat) :
    rowsFor totalSize width = totalSize ⌈/⌉ width := by
  rw [rowsFor, if_neg (Nat.ne_of_gt hw), Nat.ceilDiv_eq_add_pred_div]

theorem rowsFor_eq_div {width : Nat} (hw : 0 < width) (totalSize : Nat) :
    rowsFor totalSize width = totalSize / width + if totalSize % width = 0 then 0 else 1 := by
  have hdiv := Nat.div_add_mod totalSize width
  have hmod := Nat.mod_lt totalSize hw
  rw [Nat.mul_comm] at hdiv
  rw [rowsFor, if_neg (Nat.ne_of_gt hw)]
  apply Nat.div_eq_of_lt_le
  · rw [Nat.add_mul]
    split <;> omega
  · rw [Nat.succ_mul, Nat.add_mul]
    split <;> omega

theorem wordRowsFor?_of_lt {width : Nat} (hw : 0 < width) (h : totalSize + 1 < wordBound) :
    wordRowsFor? totalSize width = some (rowsFor totalSize width) := by
  have hle := Nat.div_le_self totalSize width
  rw [wordRowsFor?, if_neg (Nat.ne_of_gt hw), rowsFor_eq_div hw]
  split
  · rfl
  · exact wordSum?_of_lt (by omega)

theorem Chained.sum_le (h : Chained totalSize before gs) (hle : before ≤ totalSize) :
    before + (gs.map Field.size).sum ≤ totalSize := by
  induction gs generalizing before with
  | nil => exact hle
  | cons g gs ih =>
    obtain ⟨-, hbefore, hstop, hrest⟩ := h
    have hstart := g.paddingStart_le
    have := ih hrest hstop
    rw [List.map_cons, List.sum_cons]
    unfold Field.stop at *
    omega

theorem Chained.dataBytes_le (h : Chained l.totalSize 0 l.fields) : l.dataBytes ≤ l.totalSize := by
  have hle := h.sum_le (Nat.zero_le _)
  rwa [Nat.zero_add] at hle

theorem Chained.wordStop? (h : Chained totalSize before gs) (hsize : totalSize ≤ maxObjectSize) :
    ∀ g ∈ gs, g.wordStop? = some g.stop := by
  intro g hg
  have hstop := (h.mem hg).2
  exact wordSum?_of_lt (Nat.lt_of_le_of_lt (Nat.le_trans hstop hsize) maxObjectSize_lt)

theorem bytesIn?_isSome (start stop : Nat) (f : Field × Nat) :
    (Field.bytesIn? start stop f).isSome =
      (segmentIn? .padding f.1.offset f.1.stop start stop).isSome := by
  simp only [Field.bytesIn?, segmentIn?]
  split
  · rfl
  · rfl

theorem inRow_lengths (start stop : Nat) (fs : List Field) :
    ((fs.zipIdx.map fun f => (Field.bytesIn? start stop f, f.1.bitFields.length)).filter
        (·.1.isSome)).map (·.2) =
      (fs.filter fun f => (segmentIn? .padding f.offset f.stop start stop).isSome).map
        (·.bitFields.length) := by
  conv_rhs => rw [← List.zipIdx_map_fst 0 fs]
  rw [List.filter_map, List.filter_map, List.map_map, List.map_map]
  simp only [Function.comp_def, bytesIn?_isSome]

section Drawn

variable (h : Chained l.totalSize 0 l.fields) (hsize : l.totalSize ≤ maxObjectSize)
include h hsize

theorem wordDataEnd?_eq : l.wordDataEnd? = some l.dataEnd := by
  rw [Layout.wordDataEnd?, mapM_eq_map (h.wordStop? hsize)]
  rfl

theorem wordUsage?_eq (hw : 0 < l.rowWidth) : l.wordUsage? = some l.usage := by
  have hmax : maxObjectSize + 1 < wordBound := by decide
  have htotal := h.dataBytes_le
  have hend := h.dataEnd_le_totalSize
  have hbytes : wordTotal? (l.fields.map Field.size) = some l.dataBytes :=
    wordTotal?_of_lt (show l.dataBytes < wordBound by omega)
  have hrows : wordRowsFor? l.totalSize l.rowWidth = some (rowsFor l.totalSize l.rowWidth) :=
    wordRowsFor?_of_lt hw (by omega)
  rw [Layout.wordUsage?, hbytes, hrows, wordDataEnd?_eq h hsize]
  simp only [bind, Option.bind, wordDifference?_of_le htotal, wordDifference?_of_le hend]
  rfl

theorem wordRow?_eq (style : GridStyle) (start stop : Nat) :
    style.wordRow? l start stop = some (style.row l start stop) := by
  have hpadding : l.fields.mapM (Field.wordPaddingIn? start stop) =
      some (l.fields.map (Field.paddingIn? start stop)) := by
    refine mapM_eq_map fun f hf => ?_
    rw [Field.wordPaddingIn?, wordDifference?_of_le (h.paddingBefore_le f hf)]
    rfl
  have htail : style.wordTailIn? l start stop = some (if style.tailPadding then
      (segmentIn? .padding l.dataEnd l.totalSize start stop).toList else []) := by
    unfold GridStyle.wordTailIn?
    split
    · rw [wordDataEnd?_eq h hsize]
      rfl
    · rfl
  have hbytes : l.fields.zipIdx.mapM (Field.wordBytesIn? start stop) =
      some (l.fields.zipIdx.map fun f => (Field.bytesIn? start stop f, f.1.bitFields.length)) := by
    refine mapM_eq_map fun f hf => ?_
    rw [Field.wordBytesIn?, h.wordStop? hsize f.1 (List.fst_mem_of_mem_zipIdx hf)]
    rfl
  rw [GridStyle.wordRow?, hpadding, htail, hbytes, GridStyle.row, ← inRow_lengths]
  simp only [bind, Option.bind, pure, List.reduceOption, List.filterMap_map, Function.comp_def, id_eq]

theorem turn?_eq (hwidth : l.rowWidth < wordBound) (hoffset : offset < l.totalSize)
    (hturns : offset = 0 ∨ l.rowWidth ≤ offset) (style : GridStyle) :
    style.turn? l offset =
      some (style.row l offset (min (offset + l.rowWidth) l.totalSize), offset + l.rowWidth) := by
  have hword : maxObjectSize + maxObjectSize < wordBound := by decide
  -- A width near the end of all words is added to zero only: the loop does not turn again after it.
  have hsum : wordSum? offset l.rowWidth = some (offset + l.rowWidth) :=
    wordSum?_of_lt (by omega)
  rw [GridStyle.turn?, hsum]
  simp only [bind, Option.bind, wordRow?_eq h hsize]
  rfl

theorem loops_rowsFrom (hw : 0 < l.rowWidth) (hwidth : l.rowWidth < wordBound)
    (hturns : offset = 0 ∨ l.rowWidth ≤ offset) (style : GridStyle) :
    style.Loops l offset (style.rowsFrom l offset) := by
  fun_induction GridStyle.rowsFrom style l offset with
  | case1 offset hinside ih =>
    exact .turn hinside.1 (turn?_eq h hsize hwidth hinside.1 hturns style)
      (ih (.inr (Nat.le_add_left _ _)))
  | case2 offset houtside => exact .done (Nat.not_lt.mp fun hlt => houtside ⟨hlt, hw⟩)

end Drawn

theorem GridStyle.Loops.unique {rows' : List Row} (hrows : style.Loops l offset rows)
    (hrows' : style.Loops l offset rows') : rows = rows' := by
  induction hrows generalizing rows' with
  | done hle =>
    cases hrows' with
    | done => rfl
    | turn hlt => exact absurd hlt (Nat.not_lt.mpr hle)
  | turn hlt hturn _ ih =>
    cases hrows' with
    | done hle => exact absurd hlt (Nat.not_lt.mpr hle)
    | turn _ hturn' hrest =>
      rw [hturn] at hturn'
      cases hturn'
      rw [ih hrest]

theorem one_le_labelLines (policy : LabelPolicy) (n : Nat) : 1 ≤ policy.labelLines n := by
  cases policy with
  | fixed => exact Nat.le_refl 1
  | adaptive => exact Nat.le_max_right n 1

theorem labelLines_lt (policy : LabelPolicy) {lengths : List Nat}
    (h : ∀ n ∈ lengths, n < wordBound) :
    policy.labelLines (lengths.foldl max 0) < wordBound := by
  have hword : 1 < wordBound := by decide
  have hmax : lengths.foldl max 0 ≤ wordBound - 1 :=
    (foldl_max_le lengths 0 _).mpr ⟨Nat.zero_le _, fun n hn => Nat.le_sub_one_of_lt (h n hn)⟩
  cases policy with
  | fixed => exact hword
  | adaptive => exact Nat.max_lt.mpr ⟨by omega, hword⟩

theorem row_counted (hw : 0 < l.rowWidth) (hr : r ∈ style.rows l) : r.Counted l := by
  have hspan := row_start_lt_stop hw hr
  have hsegments := segments_inside hw hr
  obtain ⟨i, -, rfl⟩ := (mem_rows style hw).mp hr
  refine ⟨wordDifference?_of_le (Nat.le_of_lt hspan), Nat.min_le_right _ _, fun s hs => ?_,
    wordDifference?_of_le (one_le_labelLines _ _), fun hlengths => labelLines_lt _ ?_⟩
  · obtain ⟨hstart, hlt, -⟩ := hsegments s hs
    exact ⟨wordDifference?_of_le (Nat.le_of_lt hlt), wordDifference?_of_le hstart⟩
  · rintro n hn
    obtain ⟨f, hf, rfl⟩ := List.mem_map.mp hn
    exact hlengths f (List.mem_of_mem_filter hf)

/-- A valid layout no larger than an object is drawn on words as it is with numbers. The loop over the
rows ends, after as many turns as there are rows; the usage holds exact differences; and what is counted
of a row is a word. Layouts that are computed or read from a document are no larger than an object. -/
theorem render_words (hl : l.validate = .ok ()) (hsize : l.totalSize ≤ maxObjectSize)
    (hwidth : l.rowWidth < wordBound) (style : GridStyle) :
    (∀ scale, isScale scale = true → ∃ g, style.render l scale = .ok g ∧
      (∀ rows, style.Loops l 0 rows ↔ rows = g.rows) ∧
      g.rows.length = l.totalSize ⌈/⌉ l.rowWidth ∧
      l.wordUsage? = some g.usage ∧
      (g.usage.paddingBytes : Int) = l.totalSize - l.dataBytes ∧
      (g.usage.tailPadding : Int) = l.totalSize - l.dataEnd ∧
      ∀ r ∈ g.rows, r.Counted l) ∧
    (∀ (c : Catalog) d pack l', c.layout d pack = .ok l' → l'.totalSize ≤ maxObjectSize) ∧
    ∀ (doc : LayoutDocument) l', doc.InWords → doc.layout? = .ok l' → l'.totalSize ≤ maxObjectSize := by
  obtain ⟨-, hw, hchain⟩ := validate_eq_ok.mp hl
  refine ⟨fun scale hs => ?_, fun c d pack l' => layout_totalSize_le, fun doc l' hdoc hl' => ?_⟩
  · obtain ⟨g, hg, hrows, husage, -⟩ := render_eq_ok hl style hs
    have hloop := loops_rowsFrom hchain hsize hw hwidth (.inl rfl) style
    refine ⟨g, hg, ?_⟩
    rw [hrows, husage]
    refine ⟨fun rows => ⟨fun h => h.unique hloop, ?_⟩, ?_, wordUsage?_eq hchain hsize hw, ?_, ?_,
      fun r => row_counted hw⟩
    · rintro rfl
      exact hloop
    · rw [rows_length style hw, ← rowsFor_eq_ceilDiv hw]
      rfl
    · exact Int.ofNat_sub hchain.dataBytes_le
    · exact Int.ofNat_sub hchain.dataEnd_le_totalSize
  · have hlt := (layout?_eq_ok hdoc hl').2.1.totalSize
    exact Nat.le_sub_one_of_lt hlt

/-- A layout as large as an object, in rows that leave one byte for the last of them: the offset after
both rows is near the end of all words. -/
def vastLayout : Layout :=
  { name := none, totalSize := maxObjectSize, maxAlign := 8, packValue := some (maxObjectSize - 1)
    fields := [.new "a" 0 1, { Field.new "b" 8 (maxObjectSize - 9) with paddingBefore := 7 }] }

theorem render_words_vast :
    (vastLayout.validate = .ok () ∧ vastLayout.totalSize ≤ maxObjectSize ∧
      vastLayout.rowWidth < wordBound ∧ isScale 80 = true) ∧
    ∃ g, GridStyle.standard.render vastLayout 80 = .ok g ∧ g.rows.length = 2 ∧
      GridStyle.standard.Loops vastLayout 0 g.rows ∧ vastLayout.wordUsage? = some g.usage ∧
      (g.usage.paddingBytes : Int) = 8 ∧ ∀ r ∈ g.rows, r.Counted vastLayout := by
  have hl : vastLayout.validate = .ok () := by decide
  have hsize : vastLayout.totalSize ≤ maxObjectSize := by decide
  have hwidth : vastLayout.rowWidth < wordBound := by decide
  have hs : isScale 80 = true := by decide +kernel
  obtain ⟨g, hg, hloop, hlength, husage, hpadding, -, hcounted⟩ :=
    (render_words hl hsize hwidth .standard).1 80 hs
  refine ⟨⟨hl, hsize, hwidth, hs⟩, g, hg, ?_, (hloop _).mpr rfl, husage, ?_, hcounted⟩
  · rw [hlength, Nat.ceilDiv_eq_add_pred_div]
    decide
  · rw [hpadding]
    decide

end ByteGrid
