import ByteGrid.Proofs.Grid.Rows
import ByteGrid.Proofs.Validity

namespace ByteGrid

def Segment.Covers (s : Segment) (b : Nat) : Prop :=
  s.start ≤ b ∧ b < s.stop

def Segment.Apart (s t : Segment) : Prop :=
  s.stop ≤ t.start ∨ t.stop ≤ s.start

def Segment.clip (rowStart rowStop : Nat) (s : Segment) : Option Segment :=
  segmentIn? s.content s.start s.stop rowStart rowStop

/-- The paddings and the fields of a layout as segments of one row, with the bytes after the last
field if they are drawn. -/
def GridStyle.pieces (style : GridStyle) (l : Layout) : List Segment :=
  l.fields.map (fun f => ⟨.padding, f.paddingStart, f.offset⟩) ++
    (if style.tailPadding then [⟨.padding, l.dataEnd, l.totalSize⟩] else []) ++
    l.fields.zipIdx.map fun f => ⟨.field f.2, f.1.offset, f.1.stop⟩

variable {l : Layout} {style : GridStyle} {rowStart rowStop : Nat} {s t : Segment} {ps : List Segment}

theorem clip_eq_some : s.clip rowStart rowStop = some t ↔
    max s.start rowStart < min s.stop rowStop ∧
      t = ⟨s.content, max s.start rowStart, min s.stop rowStop⟩ := by
  unfold Segment.clip segmentIn?
  by_cases h : max s.start rowStart < min s.stop rowStop
  · rw [if_pos h, Option.some.injEq]
    exact ⟨fun he => ⟨h, he.symm⟩, fun he => he.2.symm⟩
  · rw [if_neg h]
    exact ⟨nofun, fun he => absurd he.1 h⟩

theorem row_segments (style : GridStyle) (l : Layout) (rowStart rowStop : Nat) :
    (style.row l rowStart rowStop).segments =
      ((style.pieces l).filterMap (Segment.clip rowStart rowStop)).mergeSort
        fun a b => a.start ≤ b.start := by
  have htail : (if style.tailPadding then
      [(⟨.padding, l.dataEnd, l.totalSize⟩ : Segment)] else []).filterMap
        (Segment.clip rowStart rowStop) =
      if style.tailPadding then
        (segmentIn? .padding l.dataEnd l.totalSize rowStart rowStop).toList else [] := by
    cases style.tailPadding with
    | false => rfl
    | true =>
      rw [if_pos rfl, if_pos rfl, List.filterMap_cons, List.filterMap_nil, Segment.clip]
      cases segmentIn? .padding l.dataEnd l.totalSize rowStart rowStop <;> rfl
  rw [GridStyle.pieces, List.filterMap_append, List.filterMap_append, List.filterMap_map,
    List.filterMap_map, htail]
  rfl

theorem mem_row_segments : t ∈ (style.row l rowStart rowStop).segments ↔
    ∃ s ∈ style.pieces l, s.clip rowStart rowStop = some t := by
  rw [row_segments, List.mem_mergeSort, List.mem_filterMap]

theorem clip_inside (h : s.clip rowStart rowStop = some t) :
    rowStart ≤ t.start ∧ t.start < t.stop ∧ t.stop ≤ rowStop := by
  obtain ⟨hlt, rfl⟩ := clip_eq_some.mp h
  exact ⟨Nat.le_max_right _ _, hlt, Nat.min_le_right _ _⟩

theorem clip_covers {b : Nat} (hb : rowStart ≤ b ∧ b < rowStop) (c : Content) :
    (∃ t, s.clip rowStart rowStop = some t ∧ t.content = c ∧ t.Covers b) ↔
      s.content = c ∧ s.Covers b := by
  simp only [clip_eq_some, Segment.Covers]
  constructor
  · rintro ⟨t, ⟨-, rfl⟩, hc, hle, hlt⟩
    dsimp only at hle hlt
    exact ⟨hc, by omega, by omega⟩
  · rintro ⟨hc, hle, hlt⟩
    refine ⟨_, ⟨by omega, rfl⟩, hc, ?_⟩
    dsimp only
    omega

theorem Segment.Apart.clip {s' t' : Segment} (h : s.Apart t)
    (hs : s.clip rowStart rowStop = some s') (ht : t.clip rowStart rowStop = some t') :
    s'.Apart t' := by
  obtain ⟨-, rfl⟩ := clip_eq_some.mp hs
  obtain ⟨-, rfl⟩ := clip_eq_some.mp ht
  unfold Segment.Apart at *
  simp only
  omega

theorem pairwise_segments (h : (style.pieces l).Pairwise Segment.Apart) :
    (style.row l rowStart rowStop).segments.Pairwise fun a b => a.stop ≤ b.start := by
  have hclip : ((style.pieces l).filterMap (Segment.clip rowStart rowStop)).Pairwise
      Segment.Apart := by
    rw [List.pairwise_filterMap]
    apply h.imp
    intro s t hst s' hs t' ht
    exact hst.clip hs ht
  have hapart : (style.row l rowStart rowStop).segments.Pairwise Segment.Apart := by
    rw [row_segments]
    exact ((List.mergeSort_perm _ _).pairwise_iff Or.symm).mpr hclip
  have hsorted : (style.row l rowStart rowStop).segments.Pairwise fun a b => a.start ≤ b.start := by
    rw [row_segments]
    have hs := @List.pairwise_mergeSort Segment (fun a b => decide (a.start ≤ b.start))
      (fun a b c hab hbc => by simp only [decide_eq_true_eq] at *; omega)
      (fun a b => by simp only [Bool.or_eq_true, decide_eq_true_eq]; omega)
      ((style.pieces l).filterMap (Segment.clip rowStart rowStop))
    exact hs.imp of_decide_eq_true
  refine (hapart.and hsorted).imp_of_mem ?_
  intro a b ha hb hab
  obtain ⟨s, -, hs⟩ := mem_row_segments.mp ha
  obtain ⟨t, -, ht⟩ := mem_row_segments.mp hb
  have := clip_inside hs
  have := clip_inside ht
  unfold Segment.Apart at hab
  omega

end ByteGrid
