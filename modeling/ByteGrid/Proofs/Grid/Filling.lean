import ByteGrid.CommandLine
import ByteGrid.Proofs.Fields
import ByteGrid.Proofs.Grid.Tiling

/-!
Rows without the bytes behind the last field. Such a row is full exactly if it ends before these
bytes start, so whether all rows but the last one are full depends on how long they are.
-/

namespace ByteGrid

open Placement

def Row.Filled (r : Row) : Prop :=
  r.coveredBytes = r.width ∧ r.segments.IsChain fun s t => s.stop = t.start

variable {l : Layout} {style : GridStyle} {ss : List Segment} {start stop : Nat} {r : Row}
variable {c : Catalog} {d : Declaration} {pack : Option Nat}

theorem Tiles.isChain (h : Tiles start stop ss) : ss.IsChain fun s t => s.stop = t.start := by
  induction ss generalizing start with
  | nil => exact .nil
  | cons s ss ih =>
    cases ss with
    | nil => exact .singleton s
    | cons t ts => exact .cons_cons h.2.1.symm (ih h.2)

theorem Tiles.sum_eq (h : Tiles start stop ss) (hlt : ∀ s ∈ ss, s.start < s.stop) :
    start + (ss.map Segment.length).sum = stop := by
  induction ss generalizing start with
  | nil => exact h
  | cons s ss ih =>
    obtain ⟨rfl, hrest⟩ := h
    obtain ⟨hs, hlt⟩ := List.forall_mem_cons.mp hlt
    rw [List.map_cons, List.sum_cons, Segment.length]
    have := ih hrest hlt
    omega

theorem stop_le_of_last (hw : 0 < l.rowWidth) {last : Row} (hr : r ∈ (style.rows l).dropLast)
    (hlast : (style.rows l).getLast? = some last) : r.stop ≤ last.start := by
  obtain ⟨i, hi⟩ := List.getElem?_of_mem hr
  rw [List.getElem?_dropLast] at hi
  rw [List.getLast?_eq_getElem?] at hlast
  split at hi
  · obtain ⟨hstart, hstop, -⟩ := row_spans hw hi
    obtain ⟨hstart', -⟩ := row_spans hw hlast
    have hmul := Nat.mul_le_mul_right l.rowWidth (show i + 1 ≤ (style.rows l).length - 1 by omega)
    rw [Nat.succ_mul] at hmul
    omega
  · cases hi

theorem last_stop (hw : 0 < l.rowWidth) {last : Row}
    (hlast : (style.rows l).getLast? = some last) : last.stop = l.totalSize := by
  have hne : style.rows l ≠ [] := List.ne_nil_of_mem (List.mem_of_getLast? hlast)
  rw [List.getLast?_eq_getElem?] at hlast
  obtain ⟨hstart, hstop, -⟩ := row_spans hw hlast
  have hend : ¬(style.rows l).length * l.rowWidth < l.totalSize := by
    intro hlt
    have hrow := (getElem?_rows style hw).mpr ⟨hlt, rfl⟩
    rw [List.getElem?_eq_none (Nat.le_refl _)] at hrow
    cases hrow
  obtain ⟨n, hn⟩ := Nat.exists_eq_add_one_of_ne_zero (List.length_eq_zero_iff.not.mpr hne)
  rw [hn, Nat.succ_mul] at hend
  rw [hn, Nat.add_sub_cancel] at hstart
  omega

theorem start_of_last (hw : 0 < l.rowWidth) {last : Row}
    (hlast : (style.rows l).getLast? = some last) :
    last.start = 0 ∨ ∃ r ∈ (style.rows l).dropLast, r.stop = last.start := by
  rw [List.getLast?_eq_getElem?] at hlast
  obtain ⟨hstart, -⟩ := row_spans hw hlast
  cases hn : (style.rows l).length - 1 with
  | zero =>
    rw [hn, Nat.zero_mul] at hstart
    exact .inl hstart
  | succ n =>
    have hlen : n < (style.rows l).length := by omega
    rw [hn] at hlast
    have hget := List.getElem?_eq_getElem hlen
    refine .inr ⟨_, List.mem_of_getElem? (i := n) ?_, (rows_contiguous hw hget hlast).1⟩
    rw [List.getElem?_dropLast, if_pos (by omega)]
    exact hget

theorem Layout.Seamless.tailPadding_le_width (h : l.Seamless) {last : Row}
    (hlast : (style.rows l).getLast? = some last) :
    l.tailPadding ≤ last.width ↔ last.start ≤ l.dataEnd := by
  obtain ⟨-, hw, -⟩ := validate_eq_ok.mp h.valid
  have hstop := last_stop hw hlast
  have hlt := row_start_lt_stop hw (List.mem_of_getLast? hlast)
  have hle := h.dataEnd_le_totalSize
  rw [Layout.tailPadding, Row.width]
  omega

namespace Layout.Seamless

variable (h : l.Seamless) (htail : style.tailPadding = false)
include h htail

theorem row_tiles (hr : r ∈ style.rows l) :
    Tiles r.start (max r.start (min r.stop l.dataEnd)) r.segments := by
  obtain ⟨-, hw, -⟩ := validate_eq_ok.mp h.valid
  have hinside := segments_inside hw hr
  have hordered := (segments_ordered h.valid hr).imp fun hst => hst.2
  have hshown : ∀ b, r.start ≤ b → b < r.stop →
      ((∃ t ∈ r.segments, t.Covers b) ↔ b < l.dataEnd) := by
    intro b hle hlt
    simpa only [htail, Bool.false_eq_true, false_or] using h.row_shows hr hle hlt
  apply tiles_of_covers (Nat.le_max_left _ _) ?_ hordered
  · intro b hle hlt
    exact (hshown b hle (by omega)).mpr (by omega)
  · intro t ht
    obtain ⟨hstart, hlt, hstop⟩ := hinside t ht
    -- the last byte of a segment is one that the row shows
    have hlast : t.Covers (t.stop - 1) := ⟨by omega, by omega⟩
    have hdata := (hshown (t.stop - 1) (by omega) (by omega)).mp ⟨t, ht, hlast⟩
    omega

theorem coveredBytes_eq (hr : r ∈ style.rows l) :
    r.coveredBytes = min r.stop l.dataEnd - r.start := by
  obtain ⟨-, hw, -⟩ := validate_eq_ok.mp h.valid
  have hlength := (h.row_tiles htail hr).sum_eq fun t ht => (segments_inside hw hr t ht).2.1
  change r.start + r.coveredBytes = _ at hlength
  omega

theorem filled_iff (hr : r ∈ style.rows l) : r.Filled ↔ r.stop ≤ l.dataEnd := by
  obtain ⟨-, hw, -⟩ := validate_eq_ok.mp h.valid
  have hlt := row_start_lt_stop hw hr
  have hcovered := h.coveredBytes_eq htail hr
  constructor
  · intro hfilled
    have hwidth := hfilled.1
    rw [Row.width] at hwidth
    omega
  · intro hle
    refine ⟨?_, (h.row_tiles htail hr).isChain⟩
    rw [Row.width]
    omega

theorem inner_filled_iff : (∀ r ∈ (style.rows l).dropLast, r.Filled) ↔
    ∀ r ∈ (style.rows l).getLast?, l.tailPadding ≤ r.width := by
  obtain ⟨-, hw, -⟩ := validate_eq_ok.mp h.valid
  constructor
  · intro hfilled last hlast
    apply (h.tailPadding_le_width hlast).mpr
    rcases start_of_last hw hlast with hstart | ⟨r, hr, hstop⟩
    · omega
    · rw [← hstop]
      exact (h.filled_iff htail (List.mem_of_mem_dropLast hr)).mp (hfilled r hr)
  · intro hlast r hr
    have hne : style.rows l ≠ [] := List.ne_nil_of_mem (List.mem_of_mem_dropLast hr)
    have hget := List.getLast?_eq_getLast_of_ne_nil hne
    have hdata := (h.tailPadding_le_width hget).mp (hlast _ hget)
    apply (h.filled_iff htail (List.mem_of_mem_dropLast hr)).mpr
    exact Nat.le_trans (stop_le_of_last hw hr hget) hdata

end Layout.Seamless

theorem effectiveAlign_dvd_rowWidth (h : c.layout d pack = .ok l)
    (hpack : ∀ p ∈ pack, p ≤ l.maxAlign ∨ l.maxAlign ∣ p) :
    effectiveAlign l.maxAlign pack ∣ l.rowWidth := by
  have hmax := maxAlign_pos h
  rw [Layout.rowWidth, layout_packValue h, ← effectiveAlign_filter]
  cases hp : pack.filter (0 < ·) with
  | none =>
    rw [effectiveAlign_none hmax]
    exact Nat.dvd_refl _
  | some p =>
    obtain ⟨hmem, hpos⟩ := Option.filter_eq_some_iff.mp hp
    rw [decide_eq_true_eq] at hpos
    rw [effectiveAlign_eq_min hmax hpos]
    change min l.maxAlign p ∣ p
    rcases hpack p hmem with hle | hdvd
    · rw [Nat.min_eq_right hle]
    · rwa [Nat.min_eq_left (Nat.le_of_dvd hpos hdvd)]

theorem row_start_le (h : c.layout d pack = .ok l)
    (hpack : ∀ p ∈ pack, p ≤ l.maxAlign ∨ l.maxAlign ∣ p) (hr : r ∈ style.rows l) :
    r.start ≤ l.dataEnd := by
  obtain ⟨-, hw, -⟩ := validate_eq_ok.mp (layout_seamless h).1.valid
  obtain ⟨i, hi, rfl⟩ := (mem_rows style hw).mp hr
  by_contra hlt
  -- a row starts at a multiple of the alignment, and the size is the least one from the end of the data on
  have hdvd := Nat.dvd_mul_left_of_dvd (effectiveAlign_dvd_rowWidth h hpack) i
  have hle := (layout_totalSize h).2 ⟨hdvd, Nat.le_of_not_le hlt⟩
  exact Nat.lt_irrefl _ (Nat.lt_of_lt_of_le hi hle)

/-- Drawn without the bytes behind the last field, the rows that end before these bytes are full, and
no others. So the rows before the last one are full unless the pack value lies above the alignment of
the struct, is no multiple of it, and leaves a last row that is shorter than these bytes. -/
theorem layout_inner_rows (h : c.layout d pack = .ok l) (policy : LabelPolicy) {scale : Float}
    (hs : isScale scale = true) :
    ∃ g, GridStyle.render ⟨policy, false⟩ l scale = .ok g ∧
      (∀ r ∈ g.rows, r.Filled ↔ r.stop ≤ l.dataEnd) ∧
      ((∀ r ∈ g.rows.dropLast, r.Filled) ↔ ∀ r ∈ g.rows.getLast?, l.tailPadding ≤ r.width) ∧
      ((∀ p ∈ pack, p ≤ l.maxAlign ∨ l.maxAlign ∣ p) → ∀ r ∈ g.rows.dropLast, r.Filled) := by
  obtain ⟨hl, -⟩ := layout_seamless h
  obtain ⟨-, hw, -⟩ := validate_eq_ok.mp hl.valid
  obtain ⟨g, hg, hrows, -⟩ := render_eq_ok hl.valid ⟨policy, false⟩ hs
  refine ⟨g, hg, ?_⟩
  rw [hrows]
  refine ⟨fun r hr => hl.filled_iff rfl hr, hl.inner_filled_iff rfl, fun hpack r hr => ?_⟩
  have hne : GridStyle.rows ⟨policy, false⟩ l ≠ [] :=
    List.ne_nil_of_mem (List.mem_of_mem_dropLast hr)
  have hlast := List.getLast?_eq_getLast_of_ne_nil hne
  apply (hl.filled_iff rfl (List.mem_of_mem_dropLast hr)).mpr
  calc r.stop ≤ _ := stop_le_of_last hw hr hlast
    _ ≤ l.dataEnd := row_start_le h hpack (List.mem_of_getLast? hlast)

theorem layout_inner_rows_sample :
    (sampleCatalog.layout sampleDeclaration (some 2) = .ok sampleLayout ∧ isScale 80 = true ∧
      ∀ p ∈ some 2, p ≤ sampleLayout.maxAlign ∨ sampleLayout.maxAlign ∣ p) ∧
    ∃ g, GridStyle.render ⟨.adaptive, false⟩ sampleLayout 80 = .ok g ∧
      ∀ r ∈ g.rows.dropLast, r.Filled := by
  have h : sampleCatalog.layout sampleDeclaration (some 2) = .ok sampleLayout := by decide
  have hs : isScale 80 = true := by decide +kernel
  have hpack : ∀ p ∈ some 2, p ≤ sampleLayout.maxAlign ∨ sampleLayout.maxAlign ∣ p := by
    rintro p ⟨⟩
    exact .inl (by decide)
  obtain ⟨g, hg, -, -, hinner⟩ := layout_inner_rows h .adaptive hs
  exact ⟨⟨h, hs, hpack⟩, g, hg, hinner hpack⟩

def wideDeclaration : Declaration :=
  ⟨"Wide", [.new "a" "int", .new "b" "int", .new "c" "int", .new "d" "char"]⟩

def wideLayout : Layout :=
  { name := some "Wide", totalSize := 16, maxAlign := 4, packValue := some 5
    fields :=
      [{ Field.new "a" 0 4 with typeName := "int" }, { Field.new "b" 4 4 with typeName := "int" },
       { Field.new "c" 8 4 with typeName := "int" }, { Field.new "d" 12 1 with typeName := "char" }] }

/-- Rows of five bytes in a struct of sixteen: the third row has two of the three bytes behind the last
field. -/
theorem inner_row_open : LayoutOptions.check ⟨some 5, []⟩ = .ok () ∧
    sampleCatalog.layout wideDeclaration (some 5) = .ok wideLayout ∧
    ∃ g, GridStyle.render ⟨.adaptive, false⟩ wideLayout 80 = .ok g ∧
      ∃ r ∈ g.rows.dropLast, r.coveredBytes = 3 ∧ r.width = 5 := by
  have h : sampleCatalog.layout wideDeclaration (some 5) = .ok wideLayout := by decide
  have hs : isScale 80 = true := by decide +kernel
  obtain ⟨hl, -⟩ := layout_seamless h
  obtain ⟨g, hg, hrows, -⟩ := render_eq_ok hl.valid ⟨.adaptive, false⟩ hs
  have hw : 0 < wideLayout.rowWidth := by decide
  let r := GridStyle.row ⟨.adaptive, false⟩ wideLayout 10 15
  have hrow : (GridStyle.rows ⟨.adaptive, false⟩ wideLayout)[2]? = some r :=
    (getElem?_rows _ hw).mpr ⟨by decide, rfl⟩
  refine ⟨rfl, h, g, hg, r, List.mem_of_getElem? (i := 2) ?_, ?_, rfl⟩
  · rw [hrows, List.getElem?_dropLast, rows_length _ hw, if_pos (by decide)]
    exact hrow
  · exact hl.coveredBytes_eq rfl (List.mem_of_getElem? hrow)

end ByteGrid
