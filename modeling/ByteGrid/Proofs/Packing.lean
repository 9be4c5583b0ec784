import ByteGrid.Grid
import ByteGrid.Proofs.Leads
import ByteGrid.Proofs.Nesting
import ByteGrid.Proofs.Validity

namespace ByteGrid

open Placement

variable {pack : Option Nat} {us : List (Member × Footprint)} {gs : List Field} {stop : Nat}
variable {c : Catalog} {d : Declaration} {l : Layout}

theorem Stacked.length_eq (h : Stacked pack us gs stop) : us.length = gs.length := by
  induction h with
  | start => rfl
  | put _ _ _ ih => rw [List.length_cons, List.length_cons, ih]

theorem Stacked.stopBefore_length (h : Stacked pack us gs stop) :
    stopBefore 0 gs.reverse gs.length = stop := by
  cases h with
  | start => rfl
  | @put us gs _ _ _ g => simp [stopBefore]

theorem Stacked.fields (h : Stacked pack us gs stop) {i : Nat} {m : Member} {f : Footprint}
    {g : Field} (hu : us.reverse[i]? = some (m, f)) (hg : gs.reverse[i]? = some g) :
    g.OpensWith m ∧ g.extent = extent pack (stopBefore 0 gs.reverse i) m f := by
  induction h with
  | start => simp at hg
  | @put us gs before m' f' g' hs ho he ih =>
    have hlen : us.reverse.length = gs.reverse.length := by simpa using hs.length_eq
    rw [List.reverse_cons] at hu hg ⊢
    rcases Nat.lt_or_ge i gs.reverse.length with hi | hi
    · rw [List.getElem?_append_left (by omega)] at hu hg
      rw [stopBefore_append _ _ _ (Nat.le_of_lt hi)]
      exact ih hu hg
    · have hi' := (List.getElem?_eq_some_iff.mp hg).1
      have hi₀ : i = gs.reverse.length := by
        rw [List.length_append, List.length_singleton] at hi'
        omega
      subst hi₀
      rw [List.getElem?_concat_length, Option.some.injEq] at hg
      rw [← hlen, List.getElem?_concat_length, Option.some.injEq, Prod.mk.injEq] at hu
      obtain ⟨rfl, rfl⟩ := hu
      rw [stopBefore_append _ _ _ (Nat.le_refl _), List.length_reverse, hs.stopBefore_length, ← hg]
      exact ⟨ho, he⟩

theorem paddingStart_eq {before : Nat} {m : Member} {f : Footprint} {g : Field}
    (h : g.extent = extent pack before m f) :
    g.paddingStart = before ∧ g.paddingBefore ≤ g.offset := by
  have hp := congrArg Extent.padding h
  have ho := congrArg Extent.offset h
  have := offset_add_padding pack before m f
  simp only [Field.extent, Field.paddingStart] at *
  omega

theorem offset_isLeast {before : Nat} {m : Member} {f : Footprint} {g : Field}
    (h : g.extent = extent pack before m f) :
    IsLeast {k | effectiveAlign f.align pack ∣ k ∧ before ≤ k} g.offset := by
  have ho : g.offset = roundUp (effectiveAlign f.align pack) before := congrArg Extent.offset h
  rw [ho]
  exact roundUp_isLeast (effectiveAlign_pos f.align pack) before

theorem Stacked.chained {totalSize : Nat} (h : Stacked pack us gs stop) (hle : stop ≤ totalSize) :
    Chained totalSize 0 gs.reverse := by
  apply chained_iff.mpr
  intro i g hg
  have hi := (List.getElem?_eq_some_iff.mp hg).1
  rw [List.length_reverse, ← h.length_eq, ← List.length_reverse] at hi
  obtain ⟨-, he⟩ := h.fields (List.getElem?_eq_getElem hi) hg
  obtain ⟨hs, hp⟩ := paddingStart_eq he
  have hstop := h.stop_le g (List.mem_reverse.mp (List.mem_of_getElem? hg))
  exact ⟨hp, Nat.le_of_eq hs.symm, Nat.le_trans hstop hle⟩

theorem layout_placed (h : c.layout d pack = .ok l) : ∃ p us,
    Led c.footprint? (pack.filter (0 < ·)) d.members p us ∧
      p.finish (pack.filter (0 < ·)) d.name = .ok l := by
  obtain ⟨p, hp, hl⟩ := layout_run h
  obtain ⟨us, hus⟩ := foldlM_add_led (fun m m' => Catalog.memberFootprint_congr) hp
  exact ⟨p, us, hus, hl⟩

theorem maxAlign_pos (h : c.layout d pack = .ok l) : 0 < l.maxAlign := by
  obtain ⟨p, us, hled, hl⟩ := layout_placed h
  obtain ⟨-, rfl⟩ := finish_eq_ok hl
  exact hled.maxAlign.2 (.inl rfl)

theorem Stacked.dataEnd_eq (h : Stacked pack us gs stop) (hl : l.fields = gs.reverse) :
    l.dataEnd = stop := by
  apply Nat.le_antisymm
  · refine dataEnd_le.mpr fun f hf => h.stop_le f ?_
    rwa [hl, List.mem_reverse] at hf
  · cases h with
    | start => exact Nat.zero_le _
    | @put us gs _ _ _ g =>
      refine dataEnd_le.mp (Nat.le_refl _) g ?_
      rw [hl, List.mem_reverse]
      exact .head _

theorem layout_totalSize (h : c.layout d pack = .ok l) :
    IsLeast {k | effectiveAlign l.maxAlign pack ∣ k ∧ l.dataEnd ≤ k} l.totalSize := by
  obtain ⟨p, us, hled, hl⟩ := layout_placed h
  have hleast := roundUp_isLeast (effectiveAlign_pos p.maxAlign (pack.filter (0 < ·))) p.offset
  obtain ⟨-, rfl⟩ := finish_eq_ok hl
  rw [hled.stacked.dataEnd_eq rfl]
  rw [effectiveAlign_filter] at hleast ⊢
  exact hleast

theorem validate_of_placed {p : Placement} {footprint : Member → Except LayoutError Footprint}
    {ms : List Member} {name : String} (h : Led footprint (pack.filter (0 < ·)) ms p us)
    (hl : p.finish (pack.filter (0 < ·)) name = .ok l) : l.validate = .ok () := by
  obtain ⟨-, rfl⟩ := finish_eq_ok hl
  have hmax : 0 < p.maxAlign := h.maxAlign.2 (.inl rfl)
  refine validate_eq_ok.mpr ⟨hmax, ?_, h.stacked.chained ?_⟩
  · cases hp : pack.filter (0 < ·) with
    | none => exact hmax
    | some k =>
      change 0 < k
      simpa using (Option.filter_eq_some_iff.mp hp).2
  · exact (roundUp_isLeast (effectiveAlign_pos _ _) p.offset).1.2

theorem render_eq_ok (hl : l.validate = .ok ()) (style : GridStyle) {scale : Float}
    (hs : isScale scale = true) : ∃ g, style.render l scale = .ok g ∧ g.rows = style.rows l ∧
      g.usage = l.usage ∧ g.rowWidth = l.rowWidth := by
  rw [GridStyle.render, if_pos hs, hl]
  exact ⟨_, rfl, rfl, rfl, rfl⟩

theorem layout_packed (h : c.layout d pack = .ok l) :
    (∃ leads : List (Member × Footprint),
      (leads.map Prod.fst).Sublist d.members ∧ leads.length = l.fields.length ∧
      ∀ i m f g, leads[i]? = some (m, f) → l.fields[i]? = some g →
        c.footprint? m = .ok f ∧ g.OpensWith m ∧ g.paddingStart = stopBefore 0 l.fields i ∧
        IsLeast {k | effectiveAlign f.align pack ∣ k ∧ stopBefore 0 l.fields i ≤ k} g.offset) ∧
    IsGreatest {a | a = 1 ∨ ∃ m ∈ d.members, ∃ f, c.footprint? m = .ok f ∧ a = f.align} l.maxAlign ∧
    IsLeast {k | effectiveAlign l.maxAlign pack ∣ k ∧ stopBefore 0 l.fields l.fields.length ≤ k}
      l.totalSize ∧
    l.validate = .ok () ∧
    ∀ (style : GridStyle) (scale : Float), isScale scale = true →
      ∃ g, style.render l scale = .ok g := by
  obtain ⟨p, us, hled, hl⟩ := layout_placed h
  have hvalid := validate_of_placed hled hl
  obtain ⟨-, rfl⟩ := finish_eq_ok hl
  refine ⟨⟨us.reverse, hled.sublist, ?_, ?_⟩, ?_, ?_, hvalid, ?_⟩
  · simpa using hled.stacked.length_eq
  · intro i m f g hu hg
    obtain ⟨ho, he⟩ := hled.stacked.fields hu hg
    have hf := hled.footprint_eq _ (List.mem_reverse.mp (List.mem_of_getElem? hu))
    have hleast := offset_isLeast he
    rw [effectiveAlign_filter] at hleast
    exact ⟨hf, ho, (paddingStart_eq he).1, hleast⟩
  · obtain ⟨hmem, hup⟩ := hled.maxAlign
    refine ⟨hmem.imp_right ?_, ?_⟩
    · rintro ⟨u, hu, ha⟩
      have hm := hled.sublist.subset (List.mem_map_of_mem (List.mem_reverse.mpr hu))
      exact ⟨u.1, hm, u.2, hled.footprint_eq u hu, ha⟩
    · rintro a (rfl | ⟨m, hm, f, hf, rfl⟩)
      · exact hup (.inl rfl)
      · obtain ⟨u, hu, hfu⟩ := hled.covers m hm
        rw [hf, Except.ok.injEq] at hfu
        exact hup (.inr ⟨u, hu, by rw [hfu]⟩)
  · have hleast := roundUp_isLeast (effectiveAlign_pos p.maxAlign (pack.filter (0 < ·))) p.offset
    rw [effectiveAlign_filter] at hleast ⊢
    simpa [hled.stacked.stopBefore_length] using hleast
  · intro style scale hs
    obtain ⟨g, hg, -⟩ := render_eq_ok hvalid style hs
    exact ⟨g, hg⟩

def sampleCatalog : Catalog :=
  { types := { entries := [("char", ⟨1, 1⟩), ("int", ⟨4, 4⟩)], pointer := ⟨8, 8⟩ }
    declarations := [⟨"Pair", [.new "x" "int", .new "y" "char"]⟩] }

def sampleDeclaration : Declaration :=
  ⟨"Sample",
    [.new "c" "char", { Member.new "a" "int" with bitWidth := some 3 },
     { Member.new "b" "int" with bitWidth := some 5 }, .new "n" "Pair",
     { Member.new "p" "Sample" with isPointer := true, arrayLength := 3 }, .new "z" "char"]⟩

def sampleLayout : Layout :=
  { name := some "Sample", totalSize := 40, maxAlign := 8, packValue := some 2
    fields :=
      [{ Field.new "c" 0 1 with typeName := "char" },
       { Field.new "a, b" 2 4 with
          typeName := "int", paddingBefore := 1, bitFields := [⟨"a", 3⟩, ⟨"b", 5⟩] },
       { Field.new "n" 6 8 with typeName := "Pair" },
       { Field.new "p" 14 24 with
          typeName := "Sample", kind := .pointer, isPointer := true, isArray := true, count := 3 },
       { Field.new "z" 38 1 with typeName := "char" }] }

theorem layout_packed_sample :
    sampleCatalog.layout sampleDeclaration (some 2) = .ok sampleLayout ∧
      IsLeast {k | effectiveAlign 8 (some 2) ∣ k ∧ 39 ≤ k} 40 :=
  have h : sampleCatalog.layout sampleDeclaration (some 2) = .ok sampleLayout := by decide
  ⟨h, (layout_packed h).2.2.1⟩

end ByteGrid
