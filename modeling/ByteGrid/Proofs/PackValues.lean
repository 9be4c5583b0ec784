import ByteGrid.Proofs.Elements

namespace ByteGrid

open Placement

def Field.unplaced (g : Field) : Field :=
  { g with offset := 0, paddingBefore := 0 }

structure Field.Tighter (g g' : Field) : Prop where
  unplaced_eq : g.unplaced = g'.unplaced
  offset_le : g.offset ≤ g'.offset

structure Placement.Tighter (p q : Placement) : Prop where
  fields : List.Forall₂ Field.Tighter p.fields q.fields
  offset_le : p.offset ≤ q.offset
  maxAlign_eq : p.maxAlign = q.maxAlign
  unit_eq : p.unit = q.unit

structure Layout.Tighter (l l' : Layout) : Prop where
  fields : List.Forall₂ Field.Tighter l.fields l'.fields
  maxAlign_eq : l.maxAlign = l'.maxAlign
  totalSize_le : l.totalSize ≤ l'.totalSize

variable {footprint : Member → Except LayoutError Footprint} {pack pack' : Option Nat}
variable {p q q' : Placement} {m : Member} {f : Footprint} {e e' : Extent} {g g' : Field}
variable {c : Catalog} {d : Declaration} {l : Layout} {a k : Nat} {ms : List Member}

theorem effectiveAlign_isPowerOfTwo (ha : a.isPowerOfTwo) (hpack : ∀ k ∈ pack, k.isPowerOfTwo) :
    (effectiveAlign a pack).isPowerOfTwo := by
  have hapos := Nat.pos_of_isPowerOfTwo ha
  cases pack with
  | none =>
    rw [effectiveAlign_none hapos]
    exact ha
  | some k =>
    have hk := hpack k rfl
    rw [effectiveAlign_eq_min hapos (Nat.pos_of_isPowerOfTwo hk)]
    rcases Nat.le_total a k with hle | hle
    · rwa [Nat.min_eq_left hle]
    · rwa [Nat.min_eq_right hle]

theorem effectiveAlign_dvd (ha : a.isPowerOfTwo) (hk : k.isPowerOfTwo)
    (hpack : ∀ j ∈ pack, j.isPowerOfTwo ∧ k ≤ j) :
    effectiveAlign a (some k) ∣ effectiveAlign a pack := by
  have htight : (effectiveAlign a (some k)).isPowerOfTwo :=
    effectiveAlign_isPowerOfTwo ha (by simpa using hk)
  have hloose := effectiveAlign_isPowerOfTwo ha fun j hj => (hpack j hj).1
  have hapos := Nat.pos_of_isPowerOfTwo ha
  have hkpos := Nat.pos_of_isPowerOfTwo hk
  refine isPowerOfTwo_dvd htight hloose ?_
  rw [effectiveAlign_eq_min hapos hkpos]
  cases pack with
  | none =>
    rw [effectiveAlign_none hapos]
    exact Nat.min_le_left a k
  | some j =>
    have hle := (hpack j rfl).2
    rw [effectiveAlign_eq_min hapos (Nat.lt_of_lt_of_le hkpos hle)]
    omega

theorem memberField_unplaced (m : Member) (h : e.size = e'.size) :
    (memberField m e).unplaced = (memberField m e').unplaced := by
  unfold memberField Field.unplaced
  rw [h]
  cases m.bitWidth <;> rfl

theorem Field.Tighter.extend (h : g.Tighter g') (m : Member) :
    (g.extend m).Tighter (g'.extend m) where
  unplaced_eq := congrArg (Field.extend · m) h.unplaced_eq
  offset_le := h.offset_le

namespace Placement.Tighter

theorem joins_eq (h : p.Tighter q) (m : Member) : p.joins m = q.joins m := by
  unfold Placement.joins
  rw [h.unit_eq]

theorem join (h : p.Tighter q) (m : Member) : (p.join m).Tighter (q.join m) := by
  refine ⟨?_, h.offset_le, h.maxAlign_eq, ?_⟩
  · have hfields := h.fields
    unfold Placement.join
    generalize p.fields = gs, q.fields = gs' at hfields
    cases hfields with
    | nil => exact .nil
    | cons hg hrest => exact .cons (hg.extend m) hrest
  · simp only [Placement.join, h.unit_eq]

theorem extent_le (h : p.Tighter q)
    (hdvd : effectiveAlign f.align pack ∣ effectiveAlign f.align pack') :
    (extent pack p.offset m f).offset ≤ (extent pack' q.offset m f).offset ∧
      (extent pack p.offset m f).stop ≤ (extent pack' q.offset m f).stop := by
  have hle := roundUp_le_roundUp (effectiveAlign_pos _ _) (effectiveAlign_pos _ _) hdvd h.offset_le
  exact ⟨hle, Nat.add_le_add_right hle _⟩

theorem put (h : p.Tighter q)
    (hdvd : effectiveAlign f.align pack ∣ effectiveAlign f.align pack') :
    (p.put m f (extent pack p.offset m f)).Tighter (q.put m f (extent pack' q.offset m f)) := by
  obtain ⟨hoffset, hstop⟩ := h.extent_le (m := m) hdvd
  refine ⟨.cons ⟨memberField_unplaced m rfl, ?_⟩ h.fields, hstop, ?_, rfl⟩
  · rwa [memberField_offset, memberField_offset]
  · simp only [Placement.put, h.maxAlign_eq]

theorem add (h : p.Tighter q)
    (hdvd : ∀ f, footprint m = .ok f → effectiveAlign f.align pack ∣ effectiveAlign f.align pack')
    (hq : q.add footprint pack' m = .ok q') :
    ∃ p', p.add footprint pack m = .ok p' ∧ p'.Tighter q' := by
  obtain ⟨hj, rfl⟩ | ⟨hj, f, hf, hle, rfl⟩ := add_eq_ok hq
  · exact ⟨_, add_of_joins (by rw [h.joins_eq, hj]), h.join m⟩
  · have hstop := (h.extent_le (m := m) (hdvd f hf)).2
    refine ⟨_, add_of_extent (by rw [h.joins_eq, hj]) hf (Nat.le_trans hstop hle), ?_⟩
    exact h.put (hdvd f hf)

theorem finish (h : p.Tighter q) {name : String}
    (hdvd : effectiveAlign q.maxAlign pack ∣ effectiveAlign q.maxAlign pack')
    (hq : q.finish pack' name = .ok l) : ∃ l', p.finish pack name = .ok l' ∧ l'.Tighter l := by
  obtain ⟨hle, rfl⟩ := finish_eq_ok hq
  have htotal := roundUp_le_roundUp (effectiveAlign_pos _ _) (effectiveAlign_pos _ _) hdvd h.offset_le
  rw [finish_eq, h.maxAlign_eq, if_pos (Nat.le_trans htotal hle)]
  exact ⟨_, rfl, List.forall₂_reverse_iff.mpr h.fields, rfl, htotal⟩

end Placement.Tighter

theorem foldlM_add_tighter
    (hdvd : ∀ m ∈ ms, ∀ f, footprint m = .ok f →
      effectiveAlign f.align pack ∣ effectiveAlign f.align pack')
    (h : ms.foldlM (Placement.add footprint pack') .start = .ok q) :
    ∃ p, ms.foldlM (Placement.add footprint pack) .start = .ok p ∧ p.Tighter q := by
  refine foldlM_ok (P := fun done q => ∃ p,
    done.foldlM (Placement.add footprint pack) .start = .ok p ∧ p.Tighter q) ?_ ?_ h
  · exact ⟨.start, rfl, .nil, Nat.le_refl _, rfl, rfl⟩
  · rintro done m q q' ⟨p, hp, hpq⟩ hm hadd
    obtain ⟨p', hp', htight⟩ := hpq.add (hdvd m hm) hadd
    exact ⟨p', foldlM_concat hp hp', htight⟩

theorem layout_tighter (hc : c.types.Binary) (hk : k.isPowerOfTwo)
    (hpack : ∀ j ∈ pack, j.isPowerOfTwo ∧ k ≤ j) (h : c.layout d pack = .ok l) :
    ∃ l', c.layout d (some k) = .ok l' ∧ l'.Tighter l := by
  have hdvd : ∀ a : Nat, a.isPowerOfTwo →
      effectiveAlign a ((some k).filter (0 < ·)) ∣ effectiveAlign a (pack.filter (0 < ·)) := by
    intro a ha
    rw [effectiveAlign_filter, effectiveAlign_filter]
    exact effectiveAlign_dvd ha hk hpack
  obtain ⟨hne, q, hq, hl⟩ := layout_eq_ok h
  have hmax : q.maxAlign.isPowerOfTwo := by
    have hbinary := Catalog.layoutWithin_binary hc h
    obtain ⟨-, rfl⟩ := finish_eq_ok hl
    exact hbinary
  obtain ⟨p, hp, htight⟩ := foldlM_add_tighter (fun m _ f hf => hdvd f.align
    (Catalog.memberFootprint_binary hc (fun _ _ => Catalog.layoutWithin_binary hc) hf)) hq
  obtain ⟨l', hl', hle⟩ := htight.finish (hdvd _ hmax) hl
  refine ⟨l', ?_, hle⟩
  rw [← hl']
  exact layout_eq_finish hne hp

def looseSample : Layout :=
  { name := some "Sample", totalSize := 44, maxAlign := 8, packValue := some 4
    fields :=
      [{ Field.new "c" 0 1 with typeName := "char" },
       { Field.new "a, b" 4 4 with
          typeName := "int", paddingBefore := 3, bitFields := [⟨"a", 3⟩, ⟨"b", 5⟩] },
       { Field.new "n" 8 8 with typeName := "Pair" },
       { Field.new "p" 16 24 with
          typeName := "Sample", kind := .pointer, isPointer := true, isArray := true, count := 3 },
       { Field.new "z" 40 1 with typeName := "char" }] }

theorem layout_tighter_sample :
    (sampleCatalog.types.Binary ∧ (2 : Nat).isPowerOfTwo ∧
      (∀ j ∈ some 4, j.isPowerOfTwo ∧ 2 ≤ j) ∧
      sampleCatalog.layout sampleDeclaration (some 4) = .ok looseSample) ∧
    sampleCatalog.layout sampleDeclaration (some 2) = .ok sampleLayout ∧
    sampleLayout.Tighter looseSample := by
  have hc : sampleCatalog.types.Binary := ⟨by decide, by decide⟩
  have htwo : (2 : Nat).isPowerOfTwo := by decide
  have hfour : ∀ j ∈ some 4, j.isPowerOfTwo ∧ 2 ≤ j := by decide
  have hloose : sampleCatalog.layout sampleDeclaration (some 4) = .ok looseSample := by decide
  have hsample : sampleCatalog.layout sampleDeclaration (some 2) = .ok sampleLayout := by decide
  obtain ⟨l, hl, htight⟩ := layout_tighter hc htwo hfour hloose
  rw [hsample, Except.ok.injEq] at hl
  subst hl
  exact ⟨⟨hc, htwo, hfour, hloose⟩, hsample, htight⟩

theorem extent_congr (h : effectiveAlign f.align pack = effectiveAlign f.align pack') (offset : Nat)
    (m : Member) : extent pack offset m f = extent pack' offset m f := by
  simp only [extent, h]

theorem add_congr_align
    (heq : ∀ f, footprint m = .ok f → effectiveAlign f.align pack = effectiveAlign f.align pack')
    (h : p.add footprint pack m = .ok q) : p.add footprint pack' m = .ok q := by
  obtain ⟨hj, rfl⟩ | ⟨hj, f, hf, hle, rfl⟩ := add_eq_ok h
  · exact add_of_joins hj
  · rw [extent_congr (heq f hf)] at hle ⊢
    exact add_of_extent hj hf hle

theorem foldlM_add_congr_align
    (heq : ∀ m ∈ ms, ∀ f, footprint m = .ok f →
      effectiveAlign f.align pack = effectiveAlign f.align pack')
    (h : ms.foldlM (Placement.add footprint pack) .start = .ok q) :
    ms.foldlM (Placement.add footprint pack') .start = .ok q := by
  refine foldlM_ok (P := fun done q => done.foldlM (Placement.add footprint pack') .start = .ok q)
    rfl ?_ h
  intro done m q q' hq hm hadd
  exact foldlM_concat hq (add_congr_align (heq m hm) hadd)

theorem layout_wide_pack (h : c.layout d none = .ok l) (hk : l.maxAlign ≤ k) :
    c.layout d (some k) = .ok { l with packValue := some k } := by
  have heq : ∀ a : Nat, a ≤ l.maxAlign →
      effectiveAlign a none = effectiveAlign a ((some k).filter (0 < ·)) := by
    intro a ha
    rw [effectiveAlign_filter, effectiveAlign_wide (Nat.le_trans ha hk)]
  obtain ⟨hne, p, hp, hl⟩ := layout_eq_ok h
  have hrun := foldlM_add_congr_align (fun m hm f hf => heq f.align
    (align_le_maxAlign h hm (Catalog.footprint?_of_within (Nat.le_succ _) hf))) hp
  have hmax := maxAlign_pos h
  have hfilter : (some k).filter (0 < ·) = some k :=
    Option.filter_some_pos (decide_eq_true (Nat.lt_of_lt_of_le hmax hk))
  obtain ⟨hle, rfl⟩ := finish_eq_ok hl
  refine (layout_eq_finish hne hrun).trans ?_
  rw [finish_eq, ← heq _ (Nat.le_refl _), hfilter]
  exact if_pos hle

def oddCatalog : Catalog :=
  { types := { entries := [("flag", ⟨1, 0⟩), ("triple", ⟨6, 3⟩)], pointer := ⟨4, 4⟩ }
    declarations := [⟨"Pair", [.new "left" "flag", .new "right" "triple"]⟩] }

def oddDeclaration : Declaration :=
  ⟨"Odd",
    [.new "f" "flag", { Member.new "b" "triple" with bitWidth := some 3 }, .new "p" "Pair",
     .new "g" "flag"]⟩

def oddLayout : Layout :=
  { name := some "Odd", totalSize := 21, maxAlign := 3, packValue := none
    fields :=
      [{ Field.new "f" 0 1 with typeName := "flag" },
       { Field.new "b" 3 6 with typeName := "triple", paddingBefore := 2, bitFields := [⟨"b", 3⟩] },
       { Field.new "p" 9 9 with typeName := "Pair" },
       { Field.new "g" 18 1 with typeName := "flag" }] }

theorem layout_wide_pack_odd :
    (oddCatalog.layout oddDeclaration none = .ok oddLayout ∧ oddLayout.maxAlign ≤ 5) ∧
    oddCatalog.layout oddDeclaration (some 5) = .ok { oddLayout with packValue := some 5 } := by
  have h : oddCatalog.layout oddDeclaration none = .ok oddLayout := by decide
  exact ⟨⟨h, by decide⟩, layout_wide_pack h (by decide)⟩

end ByteGrid
