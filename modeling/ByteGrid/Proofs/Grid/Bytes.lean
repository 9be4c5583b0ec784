import ByteGrid.Proofs.Grid.Segments
import ByteGrid.Proofs.Packing

namespace ByteGrid

variable {l : Layout} {style : GridStyle} {s : Segment} {b : Nat}

theorem mem_pieces : s ∈ style.pieces l ↔
    (∃ f ∈ l.fields, s = ⟨.padding, f.paddingStart, f.offset⟩) ∨
      (style.tailPadding = true ∧ s = ⟨.padding, l.dataEnd, l.totalSize⟩) ∨
      ∃ i f, l.fields[i]? = some f ∧ s = ⟨.field i, f.offset, f.stop⟩ := by
  have hfields : s ∈ l.fields.zipIdx.map (fun f => (⟨.field f.2, f.1.offset, f.1.stop⟩ : Segment)) ↔
      ∃ i f, l.fields[i]? = some f ∧ s = ⟨.field i, f.offset, f.stop⟩ := by
    rw [List.mem_map]
    constructor
    · rintro ⟨⟨f, i⟩, hf, rfl⟩
      exact ⟨i, f, List.mk_mem_zipIdx_iff_getElem?.mp hf, rfl⟩
    · rintro ⟨i, f, hf, rfl⟩
      exact ⟨(f, i), List.mk_mem_zipIdx_iff_getElem?.mpr hf, rfl⟩
  rw [GridStyle.pieces, List.mem_append, List.mem_append, hfields, or_assoc, List.mem_map,
    List.mem_ite_nil_right, List.mem_singleton]
  refine or_congr ?_ Iff.rfl
  constructor
  · rintro ⟨f, hf, rfl⟩
    exact ⟨f, hf, rfl⟩
  · rintro ⟨f, hf, rfl⟩
    exact ⟨f, hf, rfl⟩

theorem field_pieces (i : Nat) :
    (∃ s ∈ style.pieces l, s.content = .field i ∧ s.Covers b) ↔
      ∃ f, l.fields[i]? = some f ∧ f.offset ≤ b ∧ b < f.offset + f.size := by
  constructor
  · rintro ⟨s, hs, hc, hb⟩
    rcases mem_pieces.mp hs with ⟨f, -, rfl⟩ | ⟨-, rfl⟩ | ⟨j, f, hf, rfl⟩
    · cases hc
    · cases hc
    · cases hc
      exact ⟨f, hf, hb⟩
  · rintro ⟨f, hf, hb⟩
    exact ⟨_, mem_pieces.mpr (.inr (.inr ⟨i, f, hf, rfl⟩)), rfl, hb⟩

theorem padding_pieces (hb : b < l.totalSize) :
    (∃ s ∈ style.pieces l, s.content = .padding ∧ s.Covers b) ↔
      (∃ f ∈ l.fields, f.paddingStart ≤ b ∧ b < f.offset) ∨
        style.tailPadding = true ∧ ∀ f ∈ l.fields, f.stop ≤ b := by
  rw [← dataEnd_le]
  constructor
  · rintro ⟨s, hs, hc, hle, hlt⟩
    rcases mem_pieces.mp hs with ⟨f, hf, rfl⟩ | ⟨ht, rfl⟩ | ⟨j, f, hf, rfl⟩
    · exact .inl ⟨f, hf, hle, hlt⟩
    · exact .inr ⟨ht, hle⟩
    · cases hc
  · rintro (⟨f, hf, hfb⟩ | ⟨ht, hle⟩)
    · exact ⟨_, mem_pieces.mpr (.inl ⟨f, hf, rfl⟩), rfl, hfb⟩
    · exact ⟨_, mem_pieces.mpr (.inr (.inl ⟨ht, rfl⟩)), rfl, hle, hb⟩

theorem pairwise_pieces (h : Chained l.totalSize 0 l.fields) (style : GridStyle) :
    (style.pieces l).Pairwise Segment.Apart := by
  have hchain := h.pairwise
  have hpads : (l.fields.map fun f => (⟨.padding, f.paddingStart, f.offset⟩ : Segment)).Pairwise
      Segment.Apart := by
    rw [List.pairwise_map]
    apply hchain.imp
    intro f g hfg
    exact .inl (Nat.le_trans f.offset_le hfg)
  have hfields : (l.fields.zipIdx.map fun f =>
      (⟨.field f.2, f.1.offset, f.1.stop⟩ : Segment)).Pairwise Segment.Apart := by
    rw [List.pairwise_map]
    have hfst : (l.fields.zipIdx.map Prod.fst).Pairwise fun f g => f.stop ≤ g.paddingStart := by
      rwa [List.zipIdx_map_fst]
    apply (List.pairwise_map.mp hfst).imp
    intro f g hfg
    exact .inl (Nat.le_trans hfg g.1.paddingStart_le)
  have hend : ∀ f ∈ l.fields, f.stop ≤ l.dataEnd := dataEnd_le.mp (Nat.le_refl _)
  -- A padding and a field lie apart by the order of the two fields that they come from.
  have hcross : ∀ f ∈ l.fields, ∀ g ∈ l.fields, f.offset ≤ g.offset ∨ g.stop ≤ f.paddingStart := by
    intro f hf g hg
    obtain ⟨i, hi, rfl⟩ := List.getElem_of_mem hf
    obtain ⟨j, hj, rfl⟩ := List.getElem_of_mem hg
    rcases Nat.lt_trichotomy i j with hij | rfl | hij
    · have := List.pairwise_iff_getElem.mp hchain i j hi hj hij
      have := l.fields[i].offset_le
      have := l.fields[j].paddingStart_le
      omega
    · exact .inl (Nat.le_refl _)
    · exact .inr (List.pairwise_iff_getElem.mp hchain j i hj hi hij)
  rw [GridStyle.pieces, List.append_assoc, List.pairwise_append, List.pairwise_append]
  refine ⟨hpads, ⟨?_, hfields, ?_⟩, ?_⟩
  · cases style.tailPadding <;> simp
  · intro s hs t ht
    rw [List.mem_ite_nil_right, List.mem_singleton] at hs
    obtain ⟨-, rfl⟩ := hs
    obtain ⟨⟨f, i⟩, hf, rfl⟩ := List.mem_map.mp ht
    exact .inr (hend f (List.mem_of_getElem? (List.mk_mem_zipIdx_iff_getElem?.mp hf)))
  · intro s hs t ht
    obtain ⟨f, hf, rfl⟩ := List.mem_map.mp hs
    rcases List.mem_append.mp ht with ht | ht
    · rw [List.mem_ite_nil_right, List.mem_singleton] at ht
      obtain ⟨-, rfl⟩ := ht
      exact .inl (Nat.le_trans f.offset_le (hend f hf))
    · obtain ⟨⟨g, i⟩, hg, rfl⟩ := List.mem_map.mp ht
      exact hcross f hf g (List.mem_of_getElem? (List.mk_mem_zipIdx_iff_getElem?.mp hg))

theorem rows_cover (hw : 0 < l.rowWidth) (hb : b < l.totalSize) (c : Content) :
    (∃ r ∈ style.rows l, ∃ t ∈ r.segments, t.content = c ∧ t.Covers b) ↔
      ∃ s ∈ style.pieces l, s.content = c ∧ s.Covers b := by
  constructor
  · rintro ⟨r, hr, t, ht, hc, htb⟩
    obtain ⟨i, -, rfl⟩ := (mem_rows style hw).mp hr
    obtain ⟨s, hs, hst⟩ := mem_row_segments.mp ht
    obtain ⟨hstart, -, hstop⟩ := clip_inside hst
    have hin : i * l.rowWidth ≤ b ∧ b < min ((i + 1) * l.rowWidth) l.totalSize :=
      ⟨Nat.le_trans hstart htb.1, Nat.lt_of_lt_of_le htb.2 hstop⟩
    exact ⟨s, hs, (clip_covers hin c).mp ⟨t, hst, hc, htb⟩⟩
  · rintro ⟨s, hs, hsb⟩
    have hin := (row_of_byte hw hb).mpr (Eq.refl (b / l.rowWidth))
    obtain ⟨t, hst, ht⟩ := (clip_covers hin c).mpr hsb
    refine ⟨_, (mem_rows style hw).mpr ⟨b / l.rowWidth, ?_, rfl⟩, t, ?_, ht⟩
    · exact Nat.lt_of_le_of_lt hin.1 hb
    · exact mem_row_segments.mpr ⟨s, hs, hst⟩

theorem row_spans (hw : 0 < l.rowWidth) {i : Nat} {r : Row} (hr : (style.rows l)[i]? = some r) :
    r.start = i * l.rowWidth ∧ r.stop = min (r.start + l.rowWidth) l.totalSize ∧
      r.start < r.stop := by
  obtain ⟨hi, rfl⟩ := (getElem?_rows style hw).mp hr
  simp only [GridStyle.row, Nat.succ_mul, true_and]
  omega

theorem row_start_lt_stop {r : Row} (hw : 0 < l.rowWidth) (hr : r ∈ style.rows l) :
    r.start < r.stop := by
  obtain ⟨i, hi⟩ := List.getElem?_of_mem hr
  exact (row_spans hw hi).2.2

theorem rows_contiguous (hw : 0 < l.rowWidth) {i : Nat} {r r' : Row}
    (hr : (style.rows l)[i]? = some r) (hr' : (style.rows l)[i + 1]? = some r') :
    r.stop = r'.start ∧ r.width = l.rowWidth := by
  obtain ⟨hstart, hstop, -⟩ := row_spans hw hr
  obtain ⟨hstart', hstop', hlt'⟩ := row_spans hw hr'
  rw [Nat.succ_mul] at hstart'
  rw [Row.width]
  omega

theorem row_of_byte_iff (hw : 0 < l.rowWidth) :
    b < l.totalSize ↔ ∃ r ∈ style.rows l, r.start ≤ b ∧ b < r.stop := by
  constructor
  · intro hb
    have hin := (row_of_byte hw hb).mpr (Eq.refl (b / l.rowWidth))
    exact ⟨_, (mem_rows style hw).mpr ⟨_, Nat.lt_of_le_of_lt hin.1 hb, rfl⟩, hin⟩
  · rintro ⟨r, hr, -, hlt⟩
    obtain ⟨i, -, rfl⟩ := (mem_rows style hw).mp hr
    exact Nat.lt_of_lt_of_le hlt (Nat.min_le_right _ _)

theorem segments_inside {r : Row} (hw : 0 < l.rowWidth) (hr : r ∈ style.rows l) :
    ∀ s ∈ r.segments, r.start ≤ s.start ∧ s.start < s.stop ∧ s.stop ≤ r.stop := by
  intro s hs
  obtain ⟨i, -, rfl⟩ := (mem_rows style hw).mp hr
  obtain ⟨p, -, hp⟩ := mem_row_segments.mp hs
  exact clip_inside hp

theorem segments_ordered {r : Row} (hl : l.validate = .ok ()) (hr : r ∈ style.rows l) :
    r.segments.Pairwise fun s t => s.start < t.start ∧ s.stop ≤ t.start := by
  obtain ⟨-, hw, hchain⟩ := validate_eq_ok.mp hl
  have hinside := segments_inside hw hr
  obtain ⟨i, -, rfl⟩ := (mem_rows style hw).mp hr
  apply (pairwise_segments (pairwise_pieces hchain style)).imp_of_mem
  intro s t hs _ hst
  exact ⟨Nat.lt_of_lt_of_le (hinside s hs).2.1 hst, hst⟩

theorem render_exact (hl : l.validate = .ok ()) (style : GridStyle) :
    (∀ scale, isScale scale = true → ∃ g, style.render l scale = .ok g ∧ g.rows = style.rows l ∧
      g.usage = l.usage ∧ g.rowWidth = l.rowWidth) ∧
    (style.rows l).length = l.usage.rowCount ∧
    (∀ i r, (style.rows l)[i]? = some r → r.start = i * l.rowWidth ∧
      r.stop = min (r.start + l.rowWidth) l.totalSize ∧ r.start < r.stop) ∧
    (∀ i r r', (style.rows l)[i]? = some r → (style.rows l)[i + 1]? = some r' →
      r.stop = r'.start ∧ r.width = l.rowWidth) ∧
    (∀ b, b < l.totalSize ↔ ∃ r ∈ style.rows l, r.start ≤ b ∧ b < r.stop) ∧
    (∀ r ∈ style.rows l,
      (∀ s ∈ r.segments, r.start ≤ s.start ∧ s.start < s.stop ∧ s.stop ≤ r.stop) ∧
        r.segments.Pairwise fun s t => s.start < t.start ∧ s.stop ≤ t.start) ∧
    ∀ b < l.totalSize,
      (∀ i, (∃ r ∈ style.rows l, ∃ s ∈ r.segments, s.content = .field i ∧ s.Covers b) ↔
        ∃ f, l.fields[i]? = some f ∧ f.offset ≤ b ∧ b < f.offset + f.size) ∧
      ((∃ r ∈ style.rows l, ∃ s ∈ r.segments, s.content = .padding ∧ s.Covers b) ↔
        (∃ f ∈ l.fields, f.paddingStart ≤ b ∧ b < f.offset) ∨
          style.tailPadding = true ∧ ∀ f ∈ l.fields, f.stop ≤ b) := by
  obtain ⟨-, hw, -⟩ := validate_eq_ok.mp hl
  refine ⟨fun scale => render_eq_ok hl style, rows_length style hw, fun i r => row_spans hw,
    fun i r r' => rows_contiguous hw, fun b => row_of_byte_iff hw, ?_, ?_⟩
  · intro r hr
    exact ⟨segments_inside hw hr, segments_ordered hl hr⟩
  · intro b hb
    refine ⟨fun i => ?_, ?_⟩
    · rw [rows_cover hw hb, field_pieces]
    · rw [rows_cover hw hb, padding_pieces hb]

theorem render_exact_sample : sampleLayout.validate = .ok () ∧
    (GridStyle.rows ⟨.adaptive, true⟩ sampleLayout).length = sampleLayout.usage.rowCount ∧
    ∃ r ∈ GridStyle.rows ⟨.adaptive, true⟩ sampleLayout, ∃ s ∈ r.segments,
      s.content = .padding ∧ s.Covers 39 := by
  have hl : sampleLayout.validate = .ok () := by decide
  obtain ⟨-, hlength, -, -, -, -, hbytes⟩ := render_exact hl ⟨.adaptive, true⟩
  refine ⟨hl, hlength, (hbytes 39 (by decide)).2.mpr (.inr ⟨rfl, ?_⟩)⟩
  decide

end ByteGrid
