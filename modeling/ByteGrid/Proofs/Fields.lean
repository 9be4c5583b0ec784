import ByteGrid.Proofs.Exchange.Layouts
import ByteGrid.Proofs.Leads
import ByteGrid.Proofs.Machine

namespace ByteGrid

open ByteGrid.Text Placement

structure Member.InWords (m : Member) : Prop where
  arrayLength : m.arrayLength < wordBound
  bitWidth : ∀ b ∈ m.bitWidth, b < halfWordBound

structure Field.Placed (g : Field) : Prop extends g.Regular where
  stop : g.stop ≤ maxObjectSize
  paddingBefore : g.paddingBefore ≤ g.offset
  count : g.count < wordBound

variable {footprint : Member → Except LayoutError Footprint} {pack : Option Nat} {p : Placement}
variable {c : Catalog} {d : Declaration} {l : Layout} {m : Member} {f : Footprint} {g : Field}

theorem memberField_placed (hm : m.InWords) {offset : Nat}
    (hstop : (extent pack offset m f).stop ≤ maxObjectSize) :
    (memberField m (extent pack offset m f)).Placed := by
  have he := memberField_extent pack offset m f
  have hadd := offset_add_padding pack offset m f
  have hp := congrArg Extent.padding he
  have ho := congrArg Extent.offset he
  have hs := congrArg Extent.stop he
  simp only [Field.extent] at hp ho hs
  refine ⟨⟨?_, ?_⟩, by omega, by omega, ?_⟩
  · unfold memberField
    cases m.bitWidth <;> rfl
  · cases hb : m.bitWidth with
    | none => simp [memberField, hb, Field.new, Field.withPointer, Field.withArray,
        Field.withTypeName, Field.withPadding, Field.reclassify]
    | some bits =>
      simp only [memberField, hb, Field.withBitFields, List.mem_singleton]
      rintro b rfl
      exact hm.bitWidth bits hb
  · cases hb : m.bitWidth with
    | none =>
      simp only [memberField, hb]
      exact hm.arrayLength
    | some bits =>
      simp only [memberField, hb]
      exact (by decide : 1 < wordBound)

theorem Field.Placed.extend (h : g.Placed) (hm : m.InWords) : (g.extend m).Placed := by
  refine ⟨⟨h.kind, ?_⟩, h.stop, h.paddingBefore, h.count⟩
  intro b hb
  rcases List.mem_append.mp hb with hb | hb
  · exact h.bits b hb
  · rw [List.mem_singleton.mp hb]
    cases hw : m.bitWidth with
    | none => exact (by decide : 0 < halfWordBound)
    | some bits => exact hm.bitWidth bits hw

theorem foldlM_add_placed {ms : List Member} (hms : ∀ m ∈ ms, m.InWords)
    (h : ms.foldlM (Placement.add footprint pack) .start = .ok p) : ∀ g ∈ p.fields, g.Placed := by
  refine foldlM_ok (P := fun _ q => ∀ g ∈ q.fields, g.Placed) (by simp [Placement.start]) ?_ h
  rintro - m q q' hq hm hadd
  obtain ⟨-, rfl⟩ | ⟨-, f, -, hle, rfl⟩ := add_eq_ok hadd
  · cases hf : q.fields with
    | nil => simp [Placement.join, hf]
    | cons g gs =>
      rw [join_fields hf]
      rw [hf] at hq
      intro x hx
      rcases List.mem_cons.mp hx with rfl | hx
      · exact (hq g (.head _)).extend (hms m hm)
      · exact hq x (.tail _ hx)
  · intro x hx
    rcases List.mem_cons.mp hx with rfl | hx
    · exact memberField_placed (hms m hm) hle
    · exact hq x hx

theorem layout_fields_placed (hd : ∀ m ∈ d.members, m.InWords) (h : c.layout d pack = .ok l) :
    ∀ g ∈ l.fields, g.Placed := by
  obtain ⟨-, p, hp, hl⟩ := layout_eq_ok h
  obtain ⟨-, rfl⟩ := finish_eq_ok hl
  intro g hg
  exact foldlM_add_placed hd hp g (List.mem_reverse.mp hg)

theorem Field.Placed.le (h : g.Placed) :
    g.offset ≤ maxObjectSize ∧ g.size ≤ maxObjectSize ∧ g.paddingBefore ≤ maxObjectSize := by
  have hstop := h.stop
  have hpadding := h.paddingBefore
  unfold Field.stop at hstop
  omega

theorem layout_totalSize_le (h : c.layout d pack = .ok l) : l.totalSize ≤ maxObjectSize := by
  obtain ⟨-, p, hp, hl⟩ := layout_eq_ok h
  obtain ⟨hle, rfl⟩ := finish_eq_ok hl
  exact hle

theorem layout_packValue (h : c.layout d pack = .ok l) : l.packValue = pack.filter (0 < ·) := by
  obtain ⟨-, p, hp, hl⟩ := layout_eq_ok h
  obtain ⟨-, rfl⟩ := finish_eq_ok hl
  rfl

/-- What a layout needs so that a document can hold it: the numbers that no check bounds have to be
below the bound of signed machine words. -/
structure Layout.Exportable (l : Layout) : Prop where
  packValue : ∀ p ∈ l.packValue, p < signBound
  maxAlign : l.maxAlign < signBound
  count : ∀ g ∈ l.fields, g.count < signBound

theorem maxObjectSize_lt_sign : maxObjectSize < signBound := by decide

theorem portable_iff (hd : ∀ m ∈ d.members, m.InWords) (h : c.layout d pack = .ok l) :
    l.Portable ↔ l.Exportable := by
  have hmax := maxObjectSize_lt_sign
  refine ⟨fun hp => ⟨hp.packValue, hp.maxAlign, fun g hg => (hp.fields g hg).count⟩, fun he => ?_⟩
  have htotal := layout_totalSize_le h
  refine ⟨by omega, he.maxAlign, he.packValue, fun g hg => ?_⟩
  obtain ⟨hoffset, hsize, hpadding⟩ := (layout_fields_placed hd h g hg).le
  exact ⟨by omega, by omega, by omega, he.count g hg⟩

theorem layout_words (hc : c.types.InWords) (hpack : ∀ k ∈ pack, k < wordBound)
    (hd : ∀ m ∈ d.members, m.InWords) (h : c.layout d pack = .ok l) : l.InWords := by
  have hmax := maxObjectSize_lt
  have hlayout : l.totalSize < wordBound ∧ l.maxAlign < wordBound :=
    layout_inWords (fun m f => memberFootprint_inWords hc) h
  refine ⟨hlayout.1, hlayout.2, fun k hk => ?_, fun g hg => ?_⟩
  · rw [layout_packValue h] at hk
    exact hpack k (Option.filter_eq_some_iff.mp hk).1
  · have hplaced := layout_fields_placed hd h g hg
    obtain ⟨hoffset, hsize, hpadding⟩ := hplaced.le
    simp only [Field.InWords, List.forall_mem_cons]
    refine ⟨by omega, by omega, by omega, hplaced.count, by simp⟩

end ByteGrid
