import ByteGrid.Proofs.Grid.Boxes
import ByteGrid.Proofs.Grid.Bytes

/-!
The labels of bit-fields in a drawn grid. The lines of a row are counted over the fields that lie in it, and
written from the labels of the fields that its segments name. The two go together: each row that a storage
unit reaches has a line for each of its bit-fields, and the unit's cell shows the label there.
-/

namespace ByteGrid

open ByteGrid.Text

def Row.Shows (l : Layout) (r : Row) (f : Field) : Prop :=
  ∃ s ∈ r.segments, ∃ i, s.content = .field i ∧ l.fields[i]? = some f

/-- A text in a look: the code that turns the look on, the text with this code again behind each code in it
that turns looks off, and such a code at the end. -/
def Painted (code text painted : List Char) : Prop :=
  let off := "\x1b[0m".toList
  ∃ pieces : List (List Char), (∀ piece ∈ pieces, ¬off <:+: piece) ∧ text = off.intercalate pieces ∧
    painted = code ++ (off ++ code).intercalate pieces ++ off

def Grid.CellShows (g : Grid) (t : TextStyle) (c : Cell) (word : String) (drawn : List Char) : Prop :=
  let inside := word.toList.take (c.width - 1) ++ List.replicate (c.width - 1 - word.length) ' '
  if t.colors then Painted ("\x1b[".toList ++ (g.cellInk c.segment).code.toList ++ ['m']) inside drawn
  else drawn = inside

def Grid.LineShows (g : Grid) (t : TextStyle) (r : Row) (text : String) (shown : List String) : Prop :=
  ∃ (lead : List Char) (drawn : List (List Char)), lead.length = (t.offsetText r).length ∧
    text.toList = lead ++ (drawn.flatMap ('|' :: ·) ++ ['|']) ∧
    shown.length = r.segments.length ∧ drawn.length = r.segments.length ∧
    ∀ (j : Nat) (c : Cell) (word : String) (d : List Char), (g.cells t.column r)[j]? = some c →
      shown[j]? = some word → drawn[j]? = some d → g.CellShows t c word d

def Grid.Writes (g : Grid) (t : TextStyle) (r : Row) (texts : List String) (line j : Nat)
    (word : String) : Prop :=
  ∃ text shown, texts[line]? = some text ∧ g.LineShows t r text shown ∧ shown[j]? = some word

variable {l : Layout} {style : GridStyle} {f : Field} {s : Segment} {g : Grid} {r : Row} {t : TextStyle}
variable {c : Cell} {word : String} {start stop i j k line : Nat}

theorem mem_row_field : (∃ s ∈ (style.row l start stop).segments, s.content = .field i) ↔
    ∃ f, l.fields[i]? = some f ∧ max f.offset start < min f.stop stop := by
  simp only [mem_row_segments]
  constructor
  · rintro ⟨s, ⟨p, hp, hclip⟩, hc⟩
    obtain ⟨hlt, rfl⟩ := clip_eq_some.mp hclip
    rcases mem_pieces.mp hp with ⟨f, -, rfl⟩ | ⟨-, rfl⟩ | ⟨k, f, hf, rfl⟩
    · cases hc
    · cases hc
    · cases hc
      exact ⟨f, hf, hlt⟩
  · rintro ⟨f, hf, hlt⟩
    exact ⟨_, ⟨_, mem_pieces.mpr (.inr (.inr ⟨i, f, hf, rfl⟩)), clip_eq_some.mpr ⟨hlt, rfl⟩⟩, rfl⟩

theorem mem_row_field_iff (hf : l.fields[i]? = some f) :
    (∃ s ∈ (style.row l start stop).segments, s.content = .field i) ↔
      ∃ b, (f.offset ≤ b ∧ b < f.stop) ∧ start ≤ b ∧ b < stop := by
  rw [mem_row_field]
  constructor
  · rintro ⟨f', hf', hlt⟩
    obtain rfl : f = f' := Option.some.inj (hf.symm.trans hf')
    exact ⟨max f.offset start, by omega, by omega⟩
  · rintro ⟨b, hfield, hrow⟩
    exact ⟨f, hf, by omega⟩

theorem shows_iff : (style.row l start stop).Shows l f ↔
    f ∈ l.fields ∧ max f.offset start < min f.stop stop := by
  constructor
  · rintro ⟨s, hs, i, hc, hf⟩
    obtain ⟨f', hf', hlt⟩ := mem_row_field.mp ⟨s, hs, hc⟩
    obtain rfl : f = f' := Option.some.inj (hf.symm.trans hf')
    exact ⟨List.mem_of_getElem? hf, hlt⟩
  · rintro ⟨hmem, hlt⟩
    obtain ⟨i, hf⟩ := List.getElem?_of_mem hmem
    obtain ⟨s, hs, hc⟩ := mem_row_field.mpr ⟨f, hf, hlt⟩
    exact ⟨s, hs, i, hc, hf⟩

theorem row_labelLines (style : GridStyle) (l : Layout) (start stop : Nat) :
    ∃ counts : List Nat, (style.row l start stop).labelLines =
        style.policy.labelLines (counts.foldl max 0) ∧
      ∀ n, n ∈ counts ↔ ∃ f, (style.row l start stop).Shows l f ∧ n = f.bitFields.length := by
  refine ⟨_, rfl, fun n => ?_⟩
  have hin (f : Field) : (segmentIn? .padding f.offset f.stop start stop).isSome = true ↔
      max f.offset start < min f.stop stop := by
    simp only [segmentIn?]
    split <;> simp_all
  simp only [List.mem_map, List.mem_filter, hin, shows_iff, eq_comm]

theorem labelLines_isGreatest (hpolicy : style.policy = .adaptive) :
    IsGreatest {n | n = 1 ∨ ∃ f, (style.row l start stop).Shows l f ∧ n = f.bitFields.length}
      (style.row l start stop).labelLines := by
  obtain ⟨counts, hlines, hcounts⟩ := row_labelLines style l start stop
  obtain ⟨-, hmax⟩ := (foldl_max_le counts 0 _).mp (Nat.le_refl _)
  have hadaptive : (style.row l start stop).labelLines = max (counts.foldl max 0) 1 := by
    rw [hlines, hpolicy]
    rfl
  simp only [← hcounts]
  rw [hadaptive]
  constructor
  · rcases Nat.le_total (counts.foldl max 0) 1 with hle | hle
    · exact .inl (Nat.max_eq_right hle)
    · rw [Nat.max_eq_left hle]
      exact .inr ((foldl_max_mem counts 0).resolve_left (by omega))
  · rintro n (rfl | hn)
    · exact Nat.le_max_right _ _
    · exact Nat.le_trans (hmax n hn) (Nat.le_max_left _ _)

theorem label?_eq_some (hlabels : g.labels = l.fields.map Label.ofField) {label : Label} :
    g.label? s = some label ↔
      ∃ i f, s.content = .field i ∧ l.fields[i]? = some f ∧ Label.ofField f = label := by
  rw [Grid.label?, hlabels]
  cases s.content with
  | padding => simp [Content.field?]
  | field i => simp [Content.field?]

theorem any_bits (hlabels : g.labels = l.fields.map Label.ofField) :
    (r.segments.filterMap g.label?).any (!·.bitLabels.isEmpty) = true ↔
      ∃ f, r.Shows l f ∧ f.bitFields ≠ [] := by
  simp only [List.any_eq_true, List.mem_filterMap, label?_eq_some hlabels]
  constructor
  · rintro ⟨-, ⟨s, hs, i, f, hc, hf, rfl⟩, hbits⟩
    exact ⟨f, ⟨s, hs, i, hc, hf⟩, by simpa [Label.ofField] using hbits⟩
  · rintro ⟨f, ⟨s, hs, i, hc, hf⟩, hbits⟩
    exact ⟨_, ⟨s, hs, i, f, hc, hf, rfl⟩, by simpa [Label.ofField] using hbits⟩

theorem bitLines_eq_labelLines (hlabels : g.labels = l.fields.map Label.ofField)
    (hfixed : g.policy = .fixed → r.labelLines = 1) (hbits : ∃ f, r.Shows l f ∧ f.bitFields ≠ []) :
    g.bitLines r = r.labelLines := by
  rw [Grid.bitLines, if_pos ((any_bits hlabels).mpr hbits)]
  cases hpolicy : g.policy with
  | fixed => exact (hfixed hpolicy).symm
  | adaptive => rfl

theorem bitLines_eq_zero (hlabels : g.labels = l.fields.map Label.ofField)
    (hbits : ∀ f, r.Shows l f → f.bitFields = []) : g.bitLines r = 0 := by
  apply if_neg
  rw [any_bits hlabels]
  rintro ⟨f, hf, hne⟩
  exact hne (hbits f hf)

theorem name_prefix_label (f : Field) : f.name.toList <+: f.label.toList := by
  rw [Field.label, String.append_assoc, String.toList_append]
  exact List.prefix_append _ _

theorem cellText_name (hlabel : g.label? c.segment = some (.ofField f)) : g.cellText c 0 = f.label := by
  rw [Grid.cellText, hlabel]
  rfl

theorem cellText_adaptive (hlabel : g.label? c.segment = some (.ofField f))
    (hpolicy : g.policy = .adaptive) {b : BitField} (hb : f.bitFields[k]? = some b) :
    g.cellText c (k + 1) = b.label := by
  have hget : (Label.ofField f).bitLabels[k]? = some b.label := by
    rw [Label.ofField, List.getElem?_map, hb, Option.map_some]
  have hne : (Label.ofField f).bitLabels.isEmpty = false :=
    List.isEmpty_eq_false_iff.mpr (List.ne_nil_of_mem (List.mem_of_getElem? hget))
  simp [Grid.cellText, hlabel, hpolicy, hne, hget]

theorem cellText_fixed (hlabel : g.label? c.segment = some (.ofField f)) (hpolicy : g.policy = .fixed)
    (hbits : f.bitFields ≠ []) :
    g.cellText c (k + 1) = " | ".intercalate (f.bitFields.map BitField.label) := by
  have hne : (Label.ofField f).bitLabels.isEmpty = false := by simpa [Label.ofField] using hbits
  simp only [Grid.cellText, hlabel, hpolicy, hne]
  rfl

theorem intercalate_cons_head {α : Type} (sep : List α) (a : α) (piece : List α)
    (pieces : List (List α)) :
    sep.intercalate ((a :: piece) :: pieces) = a :: sep.intercalate (piece :: pieces) := by
  cases pieces with
  | nil => simp
  | cons piece' pieces =>
    rw [List.intercalate_cons_cons, List.intercalate_cons_cons]
    rfl

theorem prefix_intercalate {α : Type} (sep piece : List α) (pieces : List (List α)) :
    piece <+: sep.intercalate (piece :: pieces) := by
  cases pieces with
  | nil => simp
  | cons piece' pieces =>
    rw [List.intercalate_cons_cons, List.append_assoc]
    exact List.prefix_append _ _

theorem relight_pieces (code text : List Char) :
    ∃ piece pieces, (∀ p ∈ piece :: pieces, ¬"\x1b[0m".toList <:+: p) ∧
      text = "\x1b[0m".toList.intercalate (piece :: pieces) ∧
      relight code text = ("\x1b[0m".toList ++ code).intercalate (piece :: pieces) := by
  fun_induction relight code text with
  | case1 => exact ⟨[], [], by simp, rfl, rfl⟩
  | case2 cs ih =>
    obtain ⟨piece, pieces, hpieces, htext, hlit⟩ := ih
    refine ⟨[], piece :: pieces, List.forall_mem_cons.mpr ⟨by simp, hpieces⟩, ?_, ?_⟩
    · rw [List.intercalate_cons_cons, ← htext]
      rfl
    · rw [List.intercalate_cons_cons, ← hlit]
      rfl
  | case3 c cs hoff ih =>
    obtain ⟨piece, pieces, hpieces, htext, hlit⟩ := ih
    obtain ⟨hpiece, hlater⟩ := List.forall_mem_cons.mp hpieces
    refine ⟨c :: piece, pieces, List.forall_mem_cons.mpr ⟨fun hin => ?_, hlater⟩, ?_, ?_⟩
    · rcases List.infix_cons_iff.mp hin with hstart | hin
      · -- the code would stand at the start of the text
        obtain ⟨hc, hrest⟩ := List.cons_prefix_cons.mp hstart
        obtain ⟨after, hcs⟩ := hrest.trans (htext ▸ prefix_intercalate _ piece pieces)
        exact hoff after hc.symm hcs.symm
      · exact hpiece hin
    · rw [intercalate_cons_head, ← htext]
    · rw [intercalate_cons_head, ← hlit]

theorem cellShows_paint (g : Grid) (t : TextStyle) (c : Cell) (word : String) :
    g.CellShows t c word (paint t.colors (g.cellInk c.segment) (fit word c.inner)).toList := by
  rw [Grid.CellShows, ← Cell.inner, ← toList_fit]
  cases t.colors with
  | false => rfl
  | true =>
    obtain ⟨piece, pieces, hpieces, htext, hlit⟩ :=
      relight_pieces (g.cellInk c.segment).on (fit word c.inner).toList
    refine ⟨piece :: pieces, hpieces, htext, ?_⟩
    rw [paint, if_pos rfl, String.toList_ofList, hlit]
    rfl

theorem cells_segments (t : TextStyle) (g : Grid) (r : Row) :
    (g.cells t.column r).map Cell.segment = r.segments :=
  (cellsFrom_spec g t.column r 0 r.segments).1

theorem rowLines_shows (t : TextStyle) (g : Grid) (r : Row) :
    ∃ border texts, t.rowLines g r = border :: (texts ++ [border]) ∧
      texts.length = 1 + g.bitLines r ∧
      ∀ line ≤ g.bitLines r, ∃ text, texts[line]? = some text ∧
        g.LineShows t r text ((g.cells t.column r).map (g.cellText · line)) := by
  let cells := g.cells t.column r
  let blank := "".pushn ' ' (t.offsetText r).length
  let lead (line : Nat) : String := if line = 0 then t.offsetText r else blank
  have hlength : cells.length = r.segments.length := by
    rw [← cells_segments t g, List.length_map]
  refine ⟨blank ++ borderOf cells,
    (List.range (1 + g.bitLines r)).map fun line => lead line ++ g.textLine t.colors cells line,
    rfl, by simp, ?_⟩
  intro line hline
  refine ⟨lead line ++ g.textLine t.colors cells line, ?_, (lead line).toList,
    cells.map fun c =>
      (paint t.colors (g.cellInk c.segment) (fit (g.cellText c line) c.inner)).toList, ?_, ?_, ?_, ?_, ?_⟩
  · rw [List.getElem?_map, List.getElem?_range (by omega), Option.map_some]
  · rw [String.length_toList]
    by_cases hzero : line = 0
    · simp [lead, hzero]
    · simp [lead, hzero, blank]
  · rw [String.toList_append, toList_textLine, cellLine, List.flatMap_map]
  · rw [List.length_map, hlength]
  · rw [List.length_map, hlength]
  · intro j c word d hc hword hd
    rw [List.getElem?_map, hc] at hword hd
    cases hword
    cases hd
    exact cellShows_paint g t c _

theorem writes_of_line {texts : List String}
    (hlines : ∀ line ≤ g.bitLines r, ∃ text, texts[line]? = some text ∧
      g.LineShows t r text ((g.cells t.column r).map (g.cellText · line)))
    (hs : r.segments[j]? = some s) (hline : line ≤ g.bitLines r)
    (hword : ∀ c : Cell, c.segment = s → g.cellText c line = word) :
    g.Writes t r texts line j word := by
  rw [← cells_segments t, List.getElem?_map, Option.map_eq_some_iff] at hs
  obtain ⟨c, hc, hcs⟩ := hs
  obtain ⟨text, htext, hshown⟩ := hlines line hline
  exact ⟨text, _, htext, hshown, by rw [List.getElem?_map, hc, Option.map_some, hword c hcs]⟩

/-- All labels of the fields that a row shows stand in its box. The layout may be of any size: each row is
shown by itself here, and only the loop that goes from row to row needs offsets that are words, which
those of a layout no larger than an object are. -/
theorem bit_labels_shown {scale : Float} (hl : l.validate = .ok ()) (hs : isScale scale = true)
    (style : GridStyle) : ∃ g, style.render l scale = .ok g ∧ ∀ r ∈ g.rows,
      (∀ i f, l.fields[i]? = some f → ((∃ s ∈ r.segments, s.content = .field i) ↔
        ∃ b, (f.offset ≤ b ∧ b < f.stop) ∧ r.start ≤ b ∧ b < r.stop)) ∧
      (style.policy = .adaptive →
        IsGreatest {n | n = 1 ∨ ∃ f, r.Shows l f ∧ n = f.bitFields.length} r.labelLines) ∧
      (style.policy = .fixed → r.labelLines = 1) ∧
      ∀ t : TextStyle, (g.cells t.column r).map Cell.segment = r.segments ∧
        ∃ border texts, t.rowLines g r = border :: (texts ++ [border]) ∧
        ((∃ f, r.Shows l f ∧ f.bitFields ≠ []) → texts.length = 1 + r.labelLines) ∧
        ((∀ f, r.Shows l f → f.bitFields = []) → texts.length = 1) ∧
        ∀ j s i f, r.segments[j]? = some s → s.content = .field i → l.fields[i]? = some f →
          (f.name.toList <+: f.label.toList ∧ g.Writes t r texts 0 j f.label) ∧
          (style.policy = .adaptive → ∀ k b, f.bitFields[k]? = some b →
            g.Writes t r texts (k + 1) j (b.name ++ ":" ++ b.bits.repr ++ "b")) ∧
          (style.policy = .fixed → f.bitFields ≠ [] →
            g.Writes t r texts 1 j
              (" | ".intercalate (f.bitFields.map fun b => b.name ++ ":" ++ b.bits.repr ++ "b"))) := by
  obtain ⟨-, hw, -⟩ := validate_eq_ok.mp hl
  obtain ⟨g, hg, hrows, hlabels, hpolicy⟩ : ∃ g, style.render l scale = .ok g ∧ g.rows = style.rows l ∧
      g.labels = l.fields.map Label.ofField ∧ g.policy = style.policy := by
    rw [GridStyle.render, if_pos hs, hl]
    exact ⟨_, rfl, rfl, rfl, rfl⟩
  refine ⟨g, hg, fun r hr => ?_⟩
  rw [hrows] at hr
  obtain ⟨n, -, rfl⟩ := (mem_rows style hw).mp hr
  generalize n * l.rowWidth = start, min ((n + 1) * l.rowWidth) l.totalSize = stop
  have hadaptive (h : style.policy = .adaptive) :=
    @labelLines_isGreatest l style start stop h
  have hfixed (h : style.policy = .fixed) : (style.row l start stop).labelLines = 1 := by
    rw [GridStyle.row, h]
    rfl
  have hbitLines := @bitLines_eq_labelLines l g _ hlabels fun h => hfixed (hpolicy ▸ h)
  refine ⟨fun i f => mem_row_field_iff, hadaptive, hfixed, fun t => ?_⟩
  obtain ⟨border, texts, htexts, hlength, hlines⟩ := rowLines_shows t g (style.row l start stop)
  refine ⟨cells_segments t g _, border, texts, htexts, fun hbits => by rw [hlength, hbitLines hbits],
    fun hbits => by rw [hlength, bitLines_eq_zero hlabels hbits], ?_⟩
  intro j s i f hj hc hf
  have hlabel (c : Cell) (hcell : c.segment = s) : g.label? c.segment = some (.ofField f) :=
    (label?_eq_some hlabels).mpr ⟨i, f, by rw [hcell, hc], hf, rfl⟩
  have hshows : (style.row l start stop).Shows l f := ⟨s, List.mem_of_getElem? hj, i, hc, hf⟩
  refine ⟨⟨name_prefix_label f, ?_⟩, fun hp k b hb => ?_, fun hp hbits => ?_⟩
  · exact writes_of_line hlines hj (Nat.zero_le _) fun c hcell => cellText_name (hlabel c hcell)
  · -- the lines are counted over this field too, so its last label has one
    obtain ⟨hk, -⟩ := List.getElem?_eq_some_iff.mp hb
    have hmost := (hadaptive hp).2 (.inr ⟨f, hshows, rfl⟩)
    have hline : k + 1 ≤ g.bitLines (style.row l start stop) := by
      rw [hbitLines ⟨f, hshows, List.ne_nil_of_mem (List.mem_of_getElem? hb)⟩]
      omega
    exact writes_of_line hlines hj hline fun c hcell =>
      cellText_adaptive (hlabel c hcell) (hpolicy.trans hp) hb
  · have hline : 1 ≤ g.bitLines (style.row l start stop) := by
      rw [hbitLines ⟨f, hshows, hbits⟩, hfixed hp]
    exact writes_of_line hlines hj hline fun c hcell =>
      cellText_fixed (hlabel c hcell) (hpolicy.trans hp) hbits

def splitUnit : Field :=
  { Field.new "lo, hi" 0 4 with bitFields := [⟨"lo", 4⟩, ⟨"hi", 12⟩] }

def splitLayout : Layout :=
  { name := none, totalSize := 4, maxAlign := 4, packValue := some 2, fields := [splitUnit] }

theorem bit_labels_shown_split : (splitLayout.validate = .ok () ∧ isScale 80 = true) ∧
    ∃ g, GridStyle.standard.render splitLayout 80 = .ok g ∧ g.rows.length = 2 ∧
      ∀ r ∈ g.rows, ∀ t : TextStyle, ∃ border texts j, t.rowLines g r = border :: (texts ++ [border]) ∧
        texts.length = 3 ∧ g.Writes t r texts 1 j "lo:4b" ∧ g.Writes t r texts 2 j "hi:12b" := by
  have hl : splitLayout.validate = .ok () := by decide
  have hs : isScale 80 = true := by decide +kernel
  have hw : 0 < splitLayout.rowWidth := by decide
  obtain ⟨g, hg, hshown⟩ := bit_labels_shown hl hs .standard
  obtain ⟨g', hg', hrows, -⟩ := render_eq_ok hl .standard hs
  obtain rfl : g = g' := Except.ok.inj (hg.symm.trans hg')
  refine ⟨⟨hl, hs⟩, g, hg, ?_, fun r hr t => ?_⟩
  · rw [hrows, rows_length _ hw]
    decide
  · obtain ⟨hreached, hmost, -, htexts⟩ := hshown r hr
    obtain ⟨-, border, texts, hbox, hlength, -, hcells⟩ := htexts t
    obtain ⟨n, hn⟩ := List.getElem?_of_mem (hrows ▸ hr)
    obtain ⟨-, hstop, hlt⟩ := row_spans hw hn
    have hin : r.start < splitLayout.totalSize := by omega
    obtain ⟨s, hmem, hc⟩ :=
      (hreached 0 splitUnit rfl).mpr ⟨r.start, ⟨Nat.zero_le _, hin⟩, Nat.le_refl _, hlt⟩
    obtain ⟨j, hj⟩ := List.getElem?_of_mem hmem
    have hunit : r.Shows splitLayout splitUnit := ⟨s, hmem, 0, hc, rfl⟩
    have hlines : r.labelLines = 2 := by
      obtain ⟨hattained, hbound⟩ := hmost rfl
      have hle := hbound (.inr ⟨splitUnit, hunit, rfl⟩)
      rcases hattained with heq | ⟨f, ⟨-, -, i, -, hf⟩, heq⟩
      · exact absurd (Nat.le_trans hle (Nat.le_of_eq heq)) (by decide)
      · obtain rfl := List.mem_singleton.mp (List.mem_of_getElem? hf)
        exact heq
    obtain ⟨-, hlabels, -⟩ := hcells j s 0 splitUnit hj hc rfl
    refine ⟨border, texts, j, hbox, ?_, hlabels rfl 0 _ rfl, hlabels rfl 1 _ rfl⟩
    rw [hlength ⟨splitUnit, hunit, by decide⟩, hlines]

end ByteGrid
