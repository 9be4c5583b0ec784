import ByteGrid.Proofs.Grid.Bytes
import Mathlib.Algebra.BigOperators.Group.List.Lemmas
import Mathlib.Algebra.GroupWithZero.Nat

namespace ByteGrid

open Placement

def Tiles : Nat → Nat → List Segment → Prop
  | start, stop, [] => start = stop
  | start, stop, s :: ss => s.start = start ∧ Tiles s.stop stop ss

def Row.fieldBytes (r : Row) : Nat :=
  ((r.segments.filter (·.content ≠ .padding)).map Segment.length).sum

/-- A layout whose fields and paddings leave no byte out, up to the end of the last field. -/
structure Layout.Seamless (l : Layout) : Prop where
  valid : l.validate = .ok ()
  filled : ∀ b < l.dataEnd, ∃ f ∈ l.fields, f.paddingStart ≤ b ∧ b < f.stop
  spent : l.dataBytes + (l.fields.map Field.paddingBefore).sum = l.dataEnd

variable {l : Layout} {style : GridStyle} {s : Segment} {ss ps : List Segment} {start stop : Nat}

theorem tiles_of_covers (hle : start ≤ stop)
    (hinside : ∀ s ∈ ss, start ≤ s.start ∧ s.start < s.stop ∧ s.stop ≤ stop)
    (hordered : ss.Pairwise fun s t => s.stop ≤ t.start)
    (hcovers : ∀ b, start ≤ b → b < stop → ∃ s ∈ ss, s.Covers b) : Tiles start stop ss := by
  induction ss generalizing start with
  | nil =>
    rcases Nat.eq_or_lt_of_le hle with heq | hlt
    · exact heq
    · obtain ⟨s, hs, -⟩ := hcovers start (Nat.le_refl _) hlt
      cases hs
  | cons s ss ih =>
    obtain ⟨⟨hstart, hlt, hstop⟩, hrest⟩ := List.forall_mem_cons.mp hinside
    obtain ⟨hfirst, hlater⟩ := List.pairwise_cons.mp hordered
    constructor
    · obtain ⟨t, ht, htle, -⟩ := hcovers start (Nat.le_refl _) (by omega)
      rcases List.mem_cons.mp ht with rfl | ht
      · omega
      · have := hfirst t ht
        omega
    · refine ih hstop (fun t ht => ⟨hfirst t ht, (hrest t ht).2⟩) hlater fun b hle hb => ?_
      obtain ⟨t, ht, htb⟩ := hcovers b (by omega) hb
      rcases List.mem_cons.mp ht with rfl | ht
      · have := htb.2
        omega
      · exact ⟨t, ht, htb⟩

def Segment.lengthIn (rowStart rowStop : Nat) (s : Segment) : Nat :=
  min s.stop rowStop - max s.start rowStart

theorem sum_clip (rowStart rowStop : Nat) (p : Content → Bool) (ps : List Segment) :
    (((ps.filterMap (Segment.clip rowStart rowStop)).filter (p ·.content)).map Segment.length).sum =
      ((ps.filter (p ·.content)).map (Segment.lengthIn rowStart rowStop)).sum := by
  induction ps with
  | nil => rfl
  | cons s ps ih =>
    have hzero (h : ¬max s.start rowStart < min s.stop rowStop) :
        s.lengthIn rowStart rowStop = 0 := Nat.sub_eq_zero_of_le (Nat.le_of_not_lt h)
    by_cases hlt : max s.start rowStart < min s.stop rowStop
    · rw [List.filterMap_cons_some (clip_eq_some.mpr ⟨hlt, rfl⟩)]
      cases hp : p s.content with
      | true => simp [hp, ih, Segment.length, Segment.lengthIn]
      | false => simp [hp, ih]
    · have hnone : s.clip rowStart rowStop = none := if_neg hlt
      rw [List.filterMap_cons_none hnone, ih]
      cases hp : p s.content with
      | true => simp [hp, hzero hlt]
      | false => simp [hp]

theorem row_sum (rowStart rowStop : Nat) (p : Content → Bool) :
    (((style.row l rowStart rowStop).segments.filter (p ·.content)).map Segment.length).sum =
      (((style.pieces l).filter (p ·.content)).map (Segment.lengthIn rowStart rowStop)).sum := by
  rw [row_segments, ← sum_clip]
  exact (((List.mergeSort_perm _ _).filter _).map _).sum_eq

theorem rowsFrom_sum (hw : 0 < l.rowWidth) (hstop : ∀ s ∈ style.pieces l, s.stop ≤ l.totalSize)
    (p : Content → Bool) (start : Nat) :
    ((style.rowsFrom l start).map fun r =>
        ((r.segments.filter (p ·.content)).map Segment.length).sum).sum =
      (((style.pieces l).filter (p ·.content)).map fun s => s.stop - max s.start start).sum := by
  fun_induction GridStyle.rowsFrom style l start with
  | case1 start hinside ih =>
    rw [List.map_cons, List.sum_cons, ih, row_sum, ← List.sum_map_add]
    refine congrArg List.sum (List.map_congr_left fun s hs => ?_)
    have := hstop s (List.mem_of_mem_filter hs)
    rw [Segment.lengthIn]
    omega
  | case2 start hinside =>
    rw [List.map_nil, List.sum_nil, eq_comm]
    refine List.sum_eq_zero fun n hn => ?_
    obtain ⟨s, hs, rfl⟩ := List.mem_map.mp hn
    have := hstop s (List.mem_of_mem_filter hs)
    omega

theorem rows_sum (style : GridStyle) (hw : 0 < l.rowWidth)
    (hstop : ∀ s ∈ style.pieces l, s.stop ≤ l.totalSize) (p : Content → Bool) :
    ((style.rows l).map fun r =>
        ((r.segments.filter (p ·.content)).map Segment.length).sum).sum =
      (((style.pieces l).filter (p ·.content)).map Segment.length).sum := by
  rw [GridStyle.rows, rowsFrom_sum hw hstop]
  refine congrArg List.sum (List.map_congr_left fun s _ => ?_)
  rw [Nat.max_eq_left (Nat.zero_le _), Segment.length]

theorem pieces_fields :
    ((style.pieces l).filter (·.content ≠ .padding)).map Segment.length =
      l.fields.map Field.size := by
  have hfields : (l.fields.zipIdx.map fun f => f.1.stop - f.1.offset) = l.fields.map Field.size := by
    conv_rhs => rw [← List.zipIdx_map_fst 0 l.fields, List.map_map]
    refine List.map_congr_left fun f _ => ?_
    exact Nat.add_sub_cancel_left f.1.offset f.1.size
  rw [← hfields, GridStyle.pieces]
  cases style.tailPadding <;> simp [List.filter_map, Function.comp_def, Segment.length]

theorem pieces_padding (h : ∀ f ∈ l.fields, f.paddingBefore ≤ f.offset) :
    (((style.pieces l).filter (·.content = .padding)).map Segment.length).sum =
      (l.fields.map Field.paddingBefore).sum +
        if style.tailPadding then l.totalSize - l.dataEnd else 0 := by
  have hpads : (l.fields.map fun f => f.offset - f.paddingStart) =
      l.fields.map Field.paddingBefore := by
    refine List.map_congr_left fun f hf => ?_
    have := h f hf
    rw [Field.paddingStart]
    omega
  rw [← hpads, GridStyle.pieces]
  cases style.tailPadding <;> simp [List.filter_map, Function.comp_def, Segment.length]

theorem pieces_stop_le (h : l.validate = .ok ()) : ∀ s ∈ style.pieces l, s.stop ≤ l.totalSize := by
  obtain ⟨-, -, hchain⟩ := validate_eq_ok.mp h
  intro s hs
  rcases mem_pieces.mp hs with ⟨f, hf, rfl⟩ | ⟨-, rfl⟩ | ⟨i, f, hf, rfl⟩
  · exact Nat.le_trans f.offset_le (hchain.mem hf).2
  · exact Nat.le_refl _
  · exact (hchain.mem (List.mem_of_getElem? hf)).2

namespace Layout.Seamless

variable (h : l.Seamless)
include h

theorem dataEnd_le_totalSize : l.dataEnd ≤ l.totalSize := by
  obtain ⟨-, -, hchain⟩ := validate_eq_ok.mp h.valid
  exact hchain.dataEnd_le_totalSize

theorem covered (style : GridStyle) {b : Nat} (hb : b < l.totalSize) :
    (∃ s ∈ style.pieces l, s.Covers b) ↔ style.tailPadding = true ∨ b < l.dataEnd := by
  constructor
  · rintro ⟨s, hs, hsb⟩
    have hend := dataEnd_le.mp (Nat.le_refl l.dataEnd)
    rcases mem_pieces.mp hs with ⟨f, hf, rfl⟩ | ⟨htail, rfl⟩ | ⟨i, f, hf, rfl⟩
    · exact .inr (Nat.lt_of_lt_of_le hsb.2 (Nat.le_trans f.offset_le (hend f hf)))
    · exact .inl htail
    · exact .inr (Nat.lt_of_lt_of_le hsb.2 (hend f (List.mem_of_getElem? hf)))
  · intro hshown
    by_cases hdata : b < l.dataEnd
    · obtain ⟨f, hf, hle, hlt⟩ := h.filled b hdata
      by_cases hoffset : b < f.offset
      · exact ⟨_, mem_pieces.mpr (.inl ⟨f, hf, rfl⟩), hle, hoffset⟩
      · obtain ⟨i, hi⟩ := List.getElem?_of_mem hf
        exact ⟨_, mem_pieces.mpr (.inr (.inr ⟨i, f, hi, rfl⟩)), Nat.le_of_not_lt hoffset, hlt⟩
    · have htail := hshown.resolve_right hdata
      exact ⟨_, mem_pieces.mpr (.inr (.inl ⟨htail, rfl⟩)), Nat.le_of_not_lt hdata, hb⟩

theorem row_shows {r : Row} (hr : r ∈ style.rows l) {b : Nat} (hle : r.start ≤ b)
    (hlt : b < r.stop) :
    (∃ t ∈ r.segments, t.Covers b) ↔ style.tailPadding = true ∨ b < l.dataEnd := by
  obtain ⟨-, hw, -⟩ := validate_eq_ok.mp h.valid
  obtain ⟨i, -, rfl⟩ := (mem_rows style hw).mp hr
  rw [← h.covered style (Nat.lt_of_lt_of_le hlt (Nat.min_le_right _ _))]
  constructor
  · rintro ⟨t, ht, htb⟩
    obtain ⟨s, hs, hst⟩ := mem_row_segments.mp ht
    exact ⟨s, hs, ((clip_covers ⟨hle, hlt⟩ t.content).mp ⟨t, hst, rfl, htb⟩).2⟩
  · rintro ⟨s, hs, hsb⟩
    obtain ⟨t, ht, -, htb⟩ := (clip_covers ⟨hle, hlt⟩ s.content).mpr ⟨rfl, hsb⟩
    exact ⟨t, mem_row_segments.mpr ⟨s, hs, ht⟩, htb⟩

theorem rows_tile (htail : style.tailPadding = true) {r : Row} (hr : r ∈ style.rows l) :
    Tiles r.start r.stop r.segments := by
  obtain ⟨-, hw, -⟩ := validate_eq_ok.mp h.valid
  have hinside := segments_inside hw hr
  have hordered := (segments_ordered h.valid hr).imp fun hst => hst.2
  have hspan := Nat.le_of_lt (row_start_lt_stop hw hr)
  refine tiles_of_covers hspan hinside hordered fun b hle hlt => ?_
  exact (h.row_shows hr hle hlt).mpr (.inl htail)

theorem fieldBytes_rows : ((style.rows l).map Row.fieldBytes).sum = l.usage.dataBytes := by
  obtain ⟨-, hw, -⟩ := validate_eq_ok.mp h.valid
  have htotal := rows_sum style hw (pieces_stop_le h.valid) (· ≠ .padding)
  rw [pieces_fields] at htotal
  exact htotal

theorem usage_bytes : l.usage.dataBytes + l.usage.paddingBytes = l.totalSize := by
  have hspent := h.spent
  have hle := h.dataEnd_le_totalSize
  change l.dataBytes + (l.totalSize - l.dataBytes) = l.totalSize
  omega

theorem paddingBytes_rows (style : GridStyle) : ((style.rows l).map Row.paddingBytes).sum +
    (if style.tailPadding then 0 else l.usage.tailPadding) = l.usage.paddingBytes := by
  obtain ⟨-, hw, hchain⟩ := validate_eq_ok.mp h.valid
  have htotal := rows_sum style hw (pieces_stop_le h.valid) (· = .padding)
  rw [pieces_padding hchain.paddingBefore_le] at htotal
  have hspent := h.spent
  have hle := h.dataEnd_le_totalSize
  have hrows : ((style.rows l).map Row.paddingBytes).sum =
      (l.fields.map Field.paddingBefore).sum +
        if style.tailPadding then l.totalSize - l.dataEnd else 0 := htotal
  rw [hrows]
  change _ + (if style.tailPadding then 0 else l.totalSize - l.dataEnd) = l.totalSize - l.dataBytes
  cases style.tailPadding <;> simp <;> omega

theorem drawn_iff (htail : style.tailPadding = false) {b : Nat} :
    (∃ r ∈ style.rows l, ∃ s ∈ r.segments, s.Covers b) ↔ b < l.dataEnd := by
  obtain ⟨-, hw, -⟩ := validate_eq_ok.mp h.valid
  have hdrawn (hb : b < l.totalSize) :
      (∃ r ∈ style.rows l, ∃ s ∈ r.segments, s.Covers b) ↔ b < l.dataEnd := by
    have hcovered := h.covered style hb
    simp only [htail, Bool.false_eq_true, false_or] at hcovered
    rw [← hcovered]
    constructor
    · rintro ⟨r, hr, t, ht, htb⟩
      obtain ⟨s, hs, -, hsb⟩ := (rows_cover hw hb t.content).mp ⟨r, hr, t, ht, rfl, htb⟩
      exact ⟨s, hs, hsb⟩
    · rintro ⟨s, hs, hsb⟩
      obtain ⟨r, hr, t, ht, -, htb⟩ := (rows_cover hw hb s.content).mpr ⟨s, hs, rfl, hsb⟩
      exact ⟨r, hr, t, ht, htb⟩
  constructor
  · rintro ⟨r, hr, t, ht, htb⟩
    have hb : b < l.totalSize := by
      refine (row_of_byte_iff hw).mpr ⟨r, hr, ?_⟩
      have := segments_inside hw hr t ht
      have hle := htb.1
      have hlt := htb.2
      omega
    exact (hdrawn hb).mp ⟨r, hr, t, ht, htb⟩
  · intro hb
    exact (hdrawn (Nat.lt_of_lt_of_le hb h.dataEnd_le_totalSize)).mpr hb

end Layout.Seamless

section Placed

variable {pack : Option Nat} {us : List (Member × Footprint)} {gs : List Field} {stop : Nat}
variable {c : Catalog} {d : Declaration}

theorem Stacked.filled (h : Stacked pack us gs stop) :
    ∀ b < stop, ∃ g ∈ gs, g.paddingStart ≤ b ∧ b < g.stop := by
  induction h with
  | start => exact fun b hb => absurd hb (Nat.not_lt_zero b)
  | @put us gs before m f g _ _ he ih =>
    intro b hb
    rcases Nat.lt_or_ge b before with hlt | hge
    · obtain ⟨x, hx, hbx⟩ := ih b hlt
      exact ⟨x, .tail _ hx, hbx⟩
    · rw [← (paddingStart_eq he).1] at hge
      exact ⟨g, .head _, hge, hb⟩

theorem Stacked.spent (h : Stacked pack us gs stop) :
    (gs.map Field.size).sum + (gs.map Field.paddingBefore).sum = stop := by
  induction h with
  | start => rfl
  | @put us gs before m f g _ _ he ih =>
    obtain ⟨hstart, hle⟩ := paddingStart_eq he
    simp only [List.map_cons, List.sum_cons, Field.stop, Field.paddingStart] at *
    omega

theorem Stacked.last (h : Stacked pack us gs stop) (hus : us ≠ []) :
    ∃ g, gs.head? = some g ∧ g.stop = stop := by
  cases h with
  | start => exact absurd rfl hus
  | put _ _ _ => exact ⟨_, rfl, rfl⟩

theorem layout_seamless (h : c.layout d pack = .ok l) :
    l.Seamless ∧ ∃ f, l.fields.getLast? = some f ∧ f.stop = l.dataEnd := by
  obtain ⟨hmembers, -⟩ := layout_eq_ok h
  obtain ⟨p, us, hled, hl⟩ := layout_placed h
  have hstacked := hled.stacked
  have hvalid := validate_of_placed hled hl
  obtain ⟨-, heq⟩ := finish_eq_ok hl
  have hfields : l.fields = p.fields.reverse := by rw [heq]
  have hend : l.dataEnd = p.offset := hstacked.dataEnd_eq hfields
  refine ⟨⟨hvalid, fun b hb => ?_, ?_⟩, ?_⟩
  · obtain ⟨f, hf, hfb⟩ := hstacked.filled b (hend ▸ hb)
    exact ⟨f, by rwa [hfields, List.mem_reverse], hfb⟩
  · rw [hend, ← hstacked.spent, Layout.dataBytes, hfields]
    simp only [List.map_reverse, List.sum_reverse]
  · obtain ⟨m, hm⟩ := List.exists_mem_of_ne_nil d.members hmembers
    obtain ⟨u, hu, -⟩ := hled.covers m hm
    rw [hend, hfields, List.getLast?_reverse]
    exact hstacked.last (List.ne_nil_of_mem hu)

theorem layout_tiled (h : c.layout d pack = .ok l) (policy : LabelPolicy) {scale : Float}
    (hs : isScale scale = true) :
    (∃ g, GridStyle.render ⟨policy, true⟩ l scale = .ok g ∧
      (∀ r ∈ g.rows, Tiles r.start r.stop r.segments) ∧
      (g.rows.map Row.fieldBytes).sum = g.usage.dataBytes ∧
      (g.rows.map Row.paddingBytes).sum = g.usage.paddingBytes ∧
      g.usage.dataBytes + g.usage.paddingBytes = l.totalSize) ∧
    ∃ g, GridStyle.render ⟨policy, false⟩ l scale = .ok g ∧
      (∃ f, l.fields.getLast? = some f ∧
        ∀ b, (∃ r ∈ g.rows, ∃ s ∈ r.segments, s.Covers b) ↔ b < f.stop) ∧
      (g.rows.map Row.paddingBytes).sum + g.usage.tailPadding = g.usage.paddingBytes := by
  obtain ⟨hl, f, hf, hstop⟩ := layout_seamless h
  obtain ⟨g, hg, hrows, husage, -⟩ := render_eq_ok hl.valid ⟨policy, true⟩ hs
  obtain ⟨g', hg', hrows', husage', -⟩ := render_eq_ok hl.valid ⟨policy, false⟩ hs
  refine ⟨⟨g, hg, ?_⟩, g', hg', ?_⟩
  · rw [hrows, husage]
    refine ⟨fun r hr => hl.rows_tile rfl hr, hl.fieldBytes_rows, ?_, hl.usage_bytes⟩
    exact hl.paddingBytes_rows ⟨policy, true⟩
  · rw [hrows', husage']
    refine ⟨⟨f, hf, fun b => ?_⟩, hl.paddingBytes_rows ⟨policy, false⟩⟩
    rw [hstop]
    exact hl.drawn_iff rfl

theorem layout_tiled_sample :
    (sampleCatalog.layout sampleDeclaration (some 2) = .ok sampleLayout ∧ isScale 80 = true) ∧
    ∃ g, GridStyle.render ⟨.adaptive, true⟩ sampleLayout 80 = .ok g ∧
      (∀ r ∈ g.rows, Tiles r.start r.stop r.segments) ∧
      (g.rows.map Row.fieldBytes).sum = g.usage.dataBytes := by
  have h : sampleCatalog.layout sampleDeclaration (some 2) = .ok sampleLayout := by decide
  have hs : isScale 80 = true := by decide +kernel
  obtain ⟨⟨g, hg, htiles, hfields, -⟩, -⟩ := layout_tiled h .adaptive hs
  exact ⟨⟨h, hs⟩, g, hg, htiles, hfields⟩

end Placed

end ByteGrid
