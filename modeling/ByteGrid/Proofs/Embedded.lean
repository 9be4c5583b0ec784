import ByteGrid.Proofs.Elements

namespace ByteGrid

open Placement

structure Catalog.Embeds (c : Catalog) (m : Member) (b : Declaration) : Prop where
  bitWidth : m.bitWidth = none
  isPointer : m.isPointer = false
  isFunctionPointer : m.isFunctionPointer = false
  unnamed : c.types.get? m.typeName = none
  declared : c.declaration? m.typeName = some b

variable {c : Catalog} {d b : Declaration} {l : Layout} {m : Member} {f : Footprint} {g : Field}
variable {pack : Option Nat}

theorem effectiveAlign_eq_elim {n : Nat} (h : 0 < n) (pack : Option Nat) :
    effectiveAlign n pack = (pack.filter (0 < ·)).elim n (min n) := by
  rw [← effectiveAlign_filter]
  cases hp : pack.filter (0 < ·) with
  | none => exact effectiveAlign_none h
  | some k =>
    have hk := (Option.filter_eq_some_iff.mp hp).2
    exact effectiveAlign_eq_min h (of_decide_eq_true hk)

namespace Catalog.Embeds

theorem isByValue (h : c.Embeds m b) : m.IsByValue :=
  .inr ⟨h.isPointer, h.isFunctionPointer⟩

theorem footprint? (h : c.Embeds m b) (hf : c.footprint? m = .ok f) :
    ∃ inner, c.layoutOf m.typeName none = .ok inner ∧ 0 < inner.maxAlign ∧
      f = ⟨inner.totalSize, inner.maxAlign⟩ := by
  obtain ⟨inner, hinner, rfl⟩ := nested_of_footprint h.isByValue h.unnamed h.declared hf
  refine ⟨inner, ?_, maxAlign_pos hinner, rfl⟩
  rw [layoutOf, h.declared]
  exact hinner

theorem bytes_eq (h : c.Embeds m b) (f : Footprint) : bytes m f = f.size * m.arrayLength := by
  rw [bytes, if_neg (by simp [h.bitWidth])]

theorem fits (h : c.Embeds m b) (hg : g.Fits c.footprint? pack m) :
    ∃ inner, c.layoutOf m.typeName none = .ok inner ∧
      g.size = inner.totalSize * m.arrayLength ∧
      (pack.filter (0 < ·)).elim inner.maxAlign (min inner.maxAlign) ∣ g.offset := by
  obtain ⟨f, hf, hdvd, hsize⟩ := hg
  obtain ⟨inner, hinner, hpos, rfl⟩ := h.footprint? hf
  refine ⟨inner, hinner, hsize.trans (h.bytes_eq _), ?_⟩
  rwa [← effectiveAlign_eq_elim hpos]

end Catalog.Embeds

theorem layout_embedded (c : Catalog) :
    (∀ d pack l, c.layout d pack = .ok l → ∀ (i : Nat) (m : Member) (b : Declaration),
      d.members[i]? = some m → c.Embeds m b →
      ∃ g inner, l.homes[i]? = some g ∧ m.LiesIn g ∧ c.layoutOf m.typeName none = .ok inner ∧
        g.size = inner.totalSize * m.arrayLength ∧
        (pack.filter (0 < ·)).elim inner.maxAlign (min inner.maxAlign) ∣ g.offset) ∧
    ∀ (levels room : Nat) (pack : Option Nat) (d : Declaration) (l : Layout), levels ≤ room →
      c.layoutWithin levels pack d = .ok l → c.layoutWithin room pack d = .ok l := by
  refine ⟨fun d pack l h i m b hm hb => ?_, fun levels room pack d l => Catalog.layoutWithin_mono⟩
  have hhomes := layout_homes h
  obtain ⟨hi, rfl⟩ := List.getElem?_eq_some_iff.mp hm
  have hi' : i < l.homes.length := hhomes.length_eq ▸ hi
  obtain ⟨hlies, hfits⟩ := List.Forall₂.get hhomes hi hi'
  obtain ⟨inner, hinner, hsize, hdvd⟩ := hb.fits hfits
  exact ⟨l.homes[i], inner, List.getElem?_eq_getElem hi', hlies, hinner, hsize, hdvd⟩

def packedCrateLayout : Layout :=
  { name := some "Crate", totalSize := 70, maxAlign := 8, packValue := some 2
    fields :=
      [{ Field.new "id" 0 1 with typeName := "char" },
       { Field.new "shelves" 2 60 with
          typeName := "Shelf", paddingBefore := 1, kind := .array, isArray := true, count := 3 },
       { Field.new "weight" 62 8 with typeName := "double" }] }

theorem layout_embedded_crate :
    crateCatalog.layout crate (some 2) = .ok packedCrateLayout ∧
    (∃ g inner, packedCrateLayout.homes[1]? = some g ∧ g.offset = 2 ∧ g.size = 60 ∧
      crateCatalog.layoutOf "Shelf" none = .ok inner ∧ g.size = inner.totalSize * 3 ∧
      min inner.maxAlign 2 ∣ g.offset) ∧
    crateCatalog.layoutWithin 2 none crate = .error (.recursionLimit "Item") ∧
    crateCatalog.layoutWithin 3 none crate = .ok crateLayout ∧
    crateCatalog.layoutWithin 12 none crate = .ok crateLayout := by
  obtain ⟨hmembers, hroom⟩ := layout_embedded crateCatalog
  have hthree : crateCatalog.layoutWithin 3 none crate = .ok crateLayout := by decide
  have h : crateCatalog.layout crate (some 2) = .ok packedCrateLayout := by decide
  have hshelf : crateCatalog.Embeds { Member.new "shelves" "Shelf" with arrayLength := 3 } crateShelf :=
    ⟨rfl, rfl, rfl, by decide, by decide⟩
  obtain ⟨g, inner, hg, -, hinner, hsize, hdvd⟩ := hmembers crate (some 2) _ h 1 _ crateShelf rfl hshelf
  refine ⟨h, ⟨g, inner, hg, ?_, ?_, hinner, hsize, hdvd⟩, by decide, hthree,
    hroom 3 12 none crate _ (by decide) hthree⟩
  · cases hg
    rfl
  · cases hg
    rfl

end ByteGrid
