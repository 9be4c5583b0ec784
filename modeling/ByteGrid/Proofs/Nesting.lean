import ByteGrid.Catalog
import ByteGrid.Except

namespace ByteGrid

variable {c : Catalog} {nested nested' : Declaration → Except LayoutError Layout}
variable {footprint footprint' : Member → Except LayoutError Footprint} {pack : Option Nat}
variable {d : Declaration} {l : Layout} {m : Member}

namespace Catalog

def footprint? (c : Catalog) (m : Member) : Except LayoutError Footprint :=
  c.memberFootprint (c.layout · none) m

theorem memberFootprint_congr {m m' : Member} (hm : m.bitWidth.isSome) (hm' : m'.bitWidth.isSome)
    (h : m.typeName = m'.typeName) : c.memberFootprint nested m = c.memberFootprint nested m' := by
  obtain ⟨b, hb⟩ := Option.isSome_iff_exists.mp hm
  obtain ⟨b', hb'⟩ := Option.isSome_iff_exists.mp hm'
  simp [memberFootprint, hb, hb', h]

theorem typeFootprint_mono {name : String} {f : Footprint}
    (hn : ∀ d l, nested d = .ok l → nested' d = .ok l)
    (h : c.typeFootprint nested name = .ok f) : c.typeFootprint nested' name = .ok f := by
  unfold typeFootprint at *
  cases ht : c.types.get? name with
  | some g => simpa only [ht] using h
  | none =>
    cases hd : c.declaration? name with
    | none => simpa only [ht, hd] using h
    | some d =>
      simp only [ht, hd] at h ⊢
      obtain ⟨l, hl, rfl⟩ := map_eq_ok h
      rw [hn d l hl]
      rfl

theorem memberFootprint_mono {f : Footprint} (hn : ∀ d l, nested d = .ok l → nested' d = .ok l)
    (h : c.memberFootprint nested m = .ok f) : c.memberFootprint nested' m = .ok f := by
  unfold memberFootprint at *
  split at h
  · rw [if_pos ‹_›]
    exact h
  · rw [if_neg ‹_›]
    exact typeFootprint_mono hn h

end Catalog

theorem add_mono {p q : Placement} (hf : ∀ m f, footprint m = .ok f → footprint' m = .ok f)
    (h : p.add footprint pack m = .ok q) : p.add footprint' pack m = .ok q := by
  unfold Placement.add at *
  split at h
  · rw [if_pos ‹_›]
    exact h
  · rw [if_neg ‹_›]
    obtain ⟨f, hm, h⟩ := bind_eq_ok h
    rw [hf m f hm]
    exact h

theorem foldlM_add_mono {ms : List Member} {p q : Placement}
    (hf : ∀ m f, footprint m = .ok f → footprint' m = .ok f)
    (h : ms.foldlM (Placement.add footprint pack) p = .ok q) :
    ms.foldlM (Placement.add footprint' pack) p = .ok q := by
  induction ms generalizing p with
  | nil => exact h
  | cons m ms ih =>
    rw [List.foldlM_cons] at h ⊢
    obtain ⟨p', hp, h⟩ := bind_eq_ok h
    rw [add_mono hf hp]
    exact ih h

theorem layout_eq_ok (h : d.layout footprint pack = .ok l) : d.members ≠ [] ∧
    ∃ p, d.members.foldlM (Placement.add footprint pack) .start = .ok p ∧
      p.finish pack d.name = .ok l := by
  unfold Declaration.layout at h
  split at h
  · cases h
  · rename_i hne
    exact ⟨by simpa using hne, bind_eq_ok h⟩

theorem layout_eq_finish {p : Placement} (hne : d.members ≠ [])
    (hp : d.members.foldlM (Placement.add footprint pack) .start = .ok p) :
    d.layout footprint pack = p.finish pack d.name := by
  rw [Declaration.layout, if_neg (by simpa using hne), hp]
  rfl

theorem layout_mono (hf : ∀ m f, footprint m = .ok f → footprint' m = .ok f)
    (h : d.layout footprint pack = .ok l) : d.layout footprint' pack = .ok l := by
  obtain ⟨hne, p, hp, hl⟩ := layout_eq_ok h
  rw [layout_eq_finish hne (foldlM_add_mono hf hp)]
  exact hl

namespace Catalog

theorem layoutWithin_mono {n k : Nat} (hnk : n ≤ k) (h : c.layoutWithin n pack d = .ok l) :
    c.layoutWithin k pack d = .ok l := by
  induction n generalizing k pack d l with
  | zero => cases h
  | succ n ih =>
    obtain ⟨k, rfl⟩ : ∃ k', k = k' + 1 := ⟨k - 1, by omega⟩
    exact layout_mono (fun m f => memberFootprint_mono fun d l => ih (by omega)) h

theorem footprint?_of_within {n : Nat} {f : Footprint} (hn : n ≤ maxNestingDepth + 1)
    (h : c.memberFootprint (c.layoutWithin n none) m = .ok f) : c.footprint? m = .ok f :=
  memberFootprint_mono (fun _ _ => layoutWithin_mono hn) h

end Catalog

theorem layout_run (h : c.layout d pack = .ok l) : ∃ p,
    d.members.foldlM (Placement.add c.footprint? (pack.filter (0 < ·))) .start = .ok p ∧
      p.finish (pack.filter (0 < ·)) d.name = .ok l :=
  (layout_eq_ok (layout_mono (fun _ _ => Catalog.footprint?_of_within (Nat.le_succ _)) h)).2

end ByteGrid
