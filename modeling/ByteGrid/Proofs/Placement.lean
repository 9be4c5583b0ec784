import ByteGrid.Except
import ByteGrid.Placement
import ByteGrid.Proofs.Rounding

namespace ByteGrid

open ByteGrid.Text

namespace Placement

def bytes (m : Member) (f : Footprint) : Nat :=
  if m.bitWidth.isSome then f.size else f.size * m.arrayLength

def extent (pack : Option Nat) (offset : Nat) (m : Member) (f : Footprint) : Extent :=
  let start := roundUp (effectiveAlign f.align pack) offset
  { padding := start - offset, offset := start, size := bytes m f, stop := start + bytes m f }

theorem maxObjectSize_lt : maxObjectSize < wordBound := by decide

theorem stop?_eq (name : String) (offset length : Nat) :
    stop? name offset length =
      if offset + length ≤ maxObjectSize then .ok (offset + length)
      else .error (.objectTooLarge name) := by
  by_cases h : offset + length ≤ maxObjectSize
  · have hw := Nat.lt_of_le_of_lt h maxObjectSize_lt
    simp [stop?, wordSum?, hw, h, Option.filter]
  · by_cases hw : offset + length < wordBound <;> simp [stop?, wordSum?, hw, h, Option.filter]

theorem size?_eq (m : Member) (f : Footprint) :
    size? m f =
      if m.bitWidth.isSome ∨ bytes m f < wordBound then .ok (bytes m f)
      else .error (.objectTooLarge m.name) := by
  by_cases hb : m.bitWidth.isSome
  · simp [size?, bytes, hb]
  · by_cases hw : f.size * m.arrayLength < wordBound <;> simp [size?, bytes, wordTimes?, hb, hw]

theorem offset_add_padding (pack : Option Nat) (offset : Nat) (m : Member) (f : Footprint) :
    offset + (extent pack offset m f).padding = (extent pack offset m f).offset :=
  Nat.add_sub_of_le (roundUp_isLeast (effectiveAlign_pos f.align pack) offset).1.2

theorem padding_eq (pack : Option Nat) (offset : Nat) (m : Member) (f : Footprint) :
    (Alignment.packed f.align pack).padding offset = (extent pack offset m f).padding := by
  have hs := offset_add_padding pack offset m f
  have ha : (Alignment.packed f.align pack).align offset = (extent pack offset m f).offset := by
    rw [Alignment.align_eq_roundUp, packed_bytes]
    rfl
  rw [Alignment.align] at ha
  omega

theorem extent?_eq (pack : Option Nat) (offset : Nat) (m : Member) (f : Footprint) :
    extent? pack offset m f =
      if (extent pack offset m f).stop ≤ maxObjectSize then .ok (extent pack offset m f)
      else .error (.objectTooLarge m.name) := by
  have hstop : (extent pack offset m f).stop = (extent pack offset m f).offset + bytes m f := rfl
  have hmax := maxObjectSize_lt
  simp only [extent?, stop?_eq, size?_eq, padding_eq pack offset m f,
    offset_add_padding pack offset m f]
  by_cases h₁ : (extent pack offset m f).offset ≤ maxObjectSize
  · by_cases h₂ : m.bitWidth.isSome ∨ bytes m f < wordBound
    · simp only [if_pos h₁, if_pos h₂, bind, Except.bind, ← hstop]
      by_cases h₃ : (extent pack offset m f).stop ≤ maxObjectSize
      · rw [if_pos h₃, if_pos h₃]
        rfl
      · rw [if_neg h₃, if_neg h₃]
    · simp only [if_pos h₁, if_neg h₂, bind, Except.bind]
      rw [if_neg (by omega)]
  · simp only [if_neg h₁, bind, Except.bind]
    rw [if_neg (by omega)]

theorem add_eq_ok {footprint : Member → Except LayoutError Footprint} {pack : Option Nat}
    {p q : Placement} {m : Member} (h : p.add footprint pack m = .ok q) :
    (p.joins m = true ∧ q = p.join m) ∨
      (p.joins m = false ∧ ∃ f, footprint m = .ok f ∧
        (extent pack p.offset m f).stop ≤ maxObjectSize ∧
        q = p.put m f (extent pack p.offset m f)) := by
  cases hj : p.joins m with
  | true =>
    rw [add, if_pos hj] at h
    exact .inl ⟨rfl, by cases h; rfl⟩
  | false =>
    rw [add, if_neg (by simp [hj])] at h
    obtain ⟨f, hf, h⟩ := bind_eq_ok h
    obtain ⟨e, he, h⟩ := bind_eq_ok h
    rw [extent?_eq] at he
    split at he
    · cases he
      cases h
      exact .inr ⟨rfl, f, hf, ‹_›, rfl⟩
    · cases he

theorem add_of_joins {footprint : Member → Except LayoutError Footprint} {pack : Option Nat}
    {p : Placement} {m : Member} (h : p.joins m = true) :
    p.add footprint pack m = .ok (p.join m) := by
  rw [add, if_pos h]

theorem add_of_extent {footprint : Member → Except LayoutError Footprint} {pack : Option Nat}
    {p : Placement} {m : Member} {f : Footprint} (h : p.joins m = false) (hf : footprint m = .ok f)
    (hstop : (extent pack p.offset m f).stop ≤ maxObjectSize) :
    p.add footprint pack m = .ok (p.put m f (extent pack p.offset m f)) := by
  rw [add, if_neg (by simp [h]), hf]
  simp only [bind, Except.bind, extent?_eq, if_pos hstop]
  rfl

theorem finish_eq (pack : Option Nat) (name : String) (p : Placement) :
    p.finish pack name =
      if roundUp (effectiveAlign p.maxAlign pack) p.offset ≤ maxObjectSize then
        .ok { name := some name
              totalSize := roundUp (effectiveAlign p.maxAlign pack) p.offset
              maxAlign := p.maxAlign, packValue := pack, fields := p.fields.reverse }
      else .error (.objectTooLarge name) := by
  have ht : p.offset + (Alignment.packed p.maxAlign pack).padding p.offset =
      roundUp (effectiveAlign p.maxAlign pack) p.offset := by
    change (Alignment.packed p.maxAlign pack).align p.offset = _
    rw [Alignment.align_eq_roundUp, packed_bytes]
  rw [finish, stop?_eq, ht]
  split
  · rfl
  · rfl

theorem finish_eq_ok {pack : Option Nat} {name : String} {p : Placement} {l : Layout}
    (h : p.finish pack name = .ok l) :
    roundUp (effectiveAlign p.maxAlign pack) p.offset ≤ maxObjectSize ∧
      l = { name := some name
            totalSize := roundUp (effectiveAlign p.maxAlign pack) p.offset
            maxAlign := p.maxAlign, packValue := pack, fields := p.fields.reverse } := by
  rw [finish_eq] at h
  split at h
  · cases h
    exact ⟨‹_›, rfl⟩
  · cases h

end Placement

end ByteGrid
