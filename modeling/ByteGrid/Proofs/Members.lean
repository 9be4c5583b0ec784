import ByteGrid.Proofs.Leads
import ByteGrid.Proofs.Nesting
import ByteGrid.Proofs.Units
import Mathlib.Data.List.Forall2

/-!
The field that each member of a struct lies in. The fields of a run cut the members into groups, one
after the other: a bit-field shares its storage unit with those around it, and any other member has a
field of its own.
-/

namespace ByteGrid

open ByteGrid.Text Placement

def Member.bitField (m : Member) : BitField :=
  ⟨m.name, m.bitWidth.getD 0⟩

inductive Field.Holds (g : Field) : List Member → Prop
  | own {m} : m.bitWidth = none → g.typeName = m.typeName → g.name = m.name → g.bitFields = [] →
      Holds g [m]
  | unit {ms} : ms ≠ [] → (∀ m ∈ ms, m.bitWidth.isSome ∧ g.typeName = m.typeName) →
      g.bitFields = ms.map Member.bitField → Holds g ms

def Member.LiesIn (m : Member) (g : Field) : Prop :=
  g.typeName = m.typeName ∧
    match m.bitWidth with
    | none => g.name = m.name ∧ g.bitFields = []
    | some bits => ⟨m.name, bits⟩ ∈ g.bitFields

def Field.memberCount (g : Field) : Nat :=
  max 1 g.bitFields.length

def Layout.homes (l : Layout) : List Field :=
  l.fields.flatMap fun g => List.replicate g.memberCount g

def Field.Fits (footprint : Member → Except LayoutError Footprint) (pack : Option Nat) (g : Field)
    (m : Member) : Prop :=
  ∃ f, footprint m = .ok f ∧ effectiveAlign f.align pack ∣ g.offset ∧ g.size = bytes m f

structure Field.Houses (footprint : Member → Except LayoutError Footprint) (pack : Option Nat)
    (ms : List Member) (g : Field) : Prop where
  holds : g.Holds ms
  fits : ∀ m ∈ ms, g.Fits footprint pack m

variable {footprint : Member → Except LayoutError Footprint} {pack : Option Nat} {p : Placement}
variable {m : Member} {ms : List Member} {g : Field} {gs : List Field} {f : Footprint}
variable {c : Catalog} {d : Declaration} {l : Layout}

theorem Field.Holds.memberCount (h : g.Holds ms) : g.memberCount = ms.length := by
  cases h with
  | own _ _ _ hbits =>
    rw [Field.memberCount, hbits]
    rfl
  | unit hne _ hbits =>
    rw [Field.memberCount, hbits, List.length_map]
    exact Nat.max_eq_right (List.length_pos_iff.mpr hne)

theorem Field.Holds.liesIn (h : g.Holds ms) (hm : m ∈ ms) : m.LiesIn g := by
  cases h with
  | own hb ht hname hbits =>
    obtain rfl := List.mem_singleton.mp hm
    refine ⟨ht, ?_⟩
    rw [hb]
    exact ⟨hname, hbits⟩
  | unit _ hms hbits =>
    obtain ⟨hb, ht⟩ := hms m hm
    obtain ⟨bits, hb⟩ := Option.isSome_iff_exists.mp hb
    refine ⟨ht, ?_⟩
    have hfield : m.bitField ∈ g.bitFields := hbits ▸ List.mem_map_of_mem hm
    rw [Member.bitField, hb] at hfield
    rw [hb]
    exact hfield

theorem Field.Houses.members (h : g.Houses footprint pack ms) :
    List.Forall₂ (fun m g => m.LiesIn g ∧ g.Fits footprint pack m) ms
      (List.replicate g.memberCount g) := by
  rw [h.holds.memberCount, ← List.map_const', List.forall₂_map_right_iff, List.forall₂_same]
  intro m hm
  exact ⟨h.holds.liesIn hm, h.fits m hm⟩

theorem memberField_holds (m : Member) (e : Extent) : (memberField m e).Holds [m] := by
  have hopens := memberField_opensWith m e
  cases hb : m.bitWidth with
  | none =>
    simp only [Field.OpensWith, hb] at hopens
    exact .own hb hopens.1 hopens.2.1 hopens.2.2
  | some bits =>
    apply Field.Holds.unit (List.cons_ne_nil _ _)
    · rintro x hx
      obtain rfl := List.mem_singleton.mp hx
      exact ⟨by rw [hb]; rfl, hopens.1⟩
    · simp only [memberField, hb, Field.withBitFields, List.map_cons, List.map_nil,
        Member.bitField, Option.getD_some]

theorem memberField_houses (hf : footprint m = .ok f) (offset : Nat) :
    (memberField m (extent pack offset m f)).Houses footprint pack [m] := by
  refine ⟨memberField_holds m _, ?_⟩
  intro x hx
  obtain rfl := List.mem_singleton.mp hx
  refine ⟨f, hf, ?_, memberField_size x _⟩
  rw [memberField_offset]
  exact (roundUp_isLeast (effectiveAlign_pos f.align pack) offset).1.1

theorem Field.Houses.extend (h : g.Houses footprint pack ms) (hb : m.bitWidth.isSome)
    (hbits : g.bitFields ≠ []) (ht : m.typeName = g.typeName)
    (uniform : UniformBits footprint) : (g.extend m).Houses footprint pack (ms ++ [m]) := by
  obtain ⟨hholds, hfits⟩ := h
  cases hholds with
  | own _ _ _ hnone => exact absurd hnone hbits
  | unit hne hms hlist =>
    constructor
    · apply Field.Holds.unit (List.append_ne_nil_of_left_ne_nil hne _)
      · intro x hx
        rcases List.mem_append.mp hx with hx | hx
        · exact hms x hx
        · obtain rfl := List.mem_singleton.mp hx
          exact ⟨hb, ht.symm⟩
      · rw [Field.extend, hlist, List.map_append]
        rfl
    · intro x hx
      rcases List.mem_append.mp hx with hx | hx
      · exact hfits x hx
      · obtain rfl := List.mem_singleton.mp hx
        -- a bit-field that joins a unit has the footprint of the one that opened it
        obtain ⟨m₀, hm₀⟩ := List.exists_mem_of_ne_nil ms hne
        obtain ⟨hb₀, ht₀⟩ := hms m₀ hm₀
        obtain ⟨f, hf, hdvd, hsize⟩ := hfits m₀ hm₀
        refine ⟨f, ?_, hdvd, ?_⟩
        · rw [uniform x m₀ hb hb₀ (ht.trans ht₀), hf]
        · rw [bytes, if_pos hb₀] at hsize
          rw [bytes, if_pos hb]
          exact hsize

structure Group where
  members : List Member
  field : Field

namespace Group

def used (r : Group) : Nat :=
  (r.members.map Member.width).sum

def capacity (r : Group) : Nat :=
  min (8 * r.field.size) (wordBound - 1)

def Refuses (r : Group) (m : Member) : Prop :=
  r.field.bitFields = [] ∨ m.bitWidth = none ∨ m.typeName ≠ r.field.typeName ∨
    r.capacity < r.used + m.width

def unit? (r : Group) : Option BitUnit :=
  if r.field.bitFields = [] then none else some ⟨r.field.typeName, r.capacity, r.used⟩

def join (r : Group) (m : Member) : Group :=
  ⟨r.members ++ [m], r.field.extend m⟩

end Group

/-- Groups as a run over members forms them, the last one first. A member goes into the last field,
unless that refuses it. -/
inductive Grouped (footprint : Member → Except LayoutError Footprint) (pack : Option Nat) :
    List Group → Prop
  | start : Grouped footprint pack []
  | put {rs m f} (offset : Nat) : Grouped footprint pack rs → (∀ r ∈ rs.head?, r.Refuses m) →
      footprint m = .ok f →
      Grouped footprint pack (⟨[m], memberField m (extent pack offset m f)⟩ :: rs)
  | join {rs r m} : Grouped footprint pack (r :: rs) → ¬r.Refuses m →
      Grouped footprint pack (r.join m :: rs)

variable {r : Group} {rs : List Group}

theorem Group.not_refuses : ¬r.Refuses m ↔ r.field.bitFields ≠ [] ∧ m.bitWidth.isSome ∧
    m.typeName = r.field.typeName ∧ r.used + m.width ≤ r.capacity := by
  unfold Group.Refuses
  rw [← Option.ne_none_iff_isSome]
  simp only [not_or, not_lt, ne_eq, not_not]

theorem joins_iff (h : p.unit = r.unit?) : p.joins m = true ↔ ¬r.Refuses m := by
  rw [Group.not_refuses, Placement.joins, h, Group.unit?]
  by_cases hbits : r.field.bitFields = []
  · simp [hbits]
  · cases hb : m.bitWidth with
    | none => simp [hbits]
    | some bits => simp [hbits, Member.width, hb]

theorem Group.used_join (r : Group) (m : Member) : (r.join m).used = r.used + m.width := by
  rw [Group.used, Group.join, List.map_append, List.sum_append]
  rfl

theorem Group.unit?_join (hbits : r.field.bitFields ≠ []) (m : Member) :
    (r.join m).unit? = r.unit?.map fun u => { u with used := u.used + m.width } := by
  have hjoin : (r.join m).field.bitFields ≠ [] := List.append_ne_nil_of_left_ne_nil hbits _
  rw [Group.unit?, Group.unit?, if_neg hbits, if_neg hjoin, r.used_join]
  rfl

theorem unit?_memberField (m : Member) (f : Footprint) (offset : Nat) :
    Group.unit? ⟨[m], memberField m (extent pack offset m f)⟩ =
      m.bitWidth.map fun bits => ⟨m.typeName, unitCapacity f.size, bits⟩ := by
  have hopens := memberField_opensWith m (extent pack offset m f)
  cases hb : m.bitWidth with
  | none =>
    simp only [Field.OpensWith, hb] at hopens
    rw [Group.unit?, if_pos hopens.2.2]
    rfl
  | some bits =>
    have hbits : (memberField m (extent pack offset m f)).bitFields ≠ [] := by
      rw [memberField, hb]
      exact List.cons_ne_nil _ _
    have hused : Group.used ⟨[m], memberField m (extent pack offset m f)⟩ = bits := by
      rw [Group.used, List.map_singleton, List.sum_cons, Member.width, hb]
      rfl
    rw [Group.unit?, if_neg hbits, hused, Group.capacity, memberField_size, hopens.1, extent, bytes,
      hb]
    rfl

theorem Grouped.members_ne_nil (h : Grouped footprint pack rs) : ∀ r ∈ rs, r.members ≠ [] := by
  induction h with
  | start => simp
  | put _ _ _ _ ih => exact List.forall_mem_cons.mpr ⟨List.cons_ne_nil _ _, ih⟩
  | @join rs r m _ _ ih =>
    have hne : (r.join m).members ≠ [] := List.concat_ne_nil m r.members
    exact List.forall_mem_cons.mpr ⟨hne, (List.forall_mem_cons.mp ih).2⟩

theorem Grouped.houses (h : Grouped footprint pack rs) (uniform : UniformBits footprint) :
    ∀ r ∈ rs, r.field.Houses footprint pack r.members := by
  induction h with
  | start => simp
  | put offset _ _ hf ih => exact List.forall_mem_cons.mpr ⟨memberField_houses hf offset, ih⟩
  | join _ hjoins ih =>
    obtain ⟨hlast, hrest⟩ := List.forall_mem_cons.mp ih
    obtain ⟨hbits, hb, ht, -⟩ := Group.not_refuses.mp hjoins
    exact List.forall_mem_cons.mpr ⟨hlast.extend hb hbits ht uniform, hrest⟩

structure GroupedRun (footprint : Member → Except LayoutError Footprint) (pack : Option Nat)
    (ms : List Member) (p : Placement) (rs : List Group) : Prop where
  grouped : Grouped footprint pack rs
  fields : rs.map Group.field = p.fields
  members : rs.reverse.flatMap Group.members = ms
  unit : p.unit = rs.head?.bind Group.unit?

theorem GroupedRun.put (h : GroupedRun footprint pack ms p rs) (hj : p.joins m = false)
    (hf : footprint m = .ok f) :
    GroupedRun footprint pack (ms ++ [m]) (p.put m f (extent pack p.offset m f))
      (⟨[m], memberField m (extent pack p.offset m f)⟩ :: rs) where
  grouped := by
    refine .put p.offset h.grouped (fun r hr => ?_) hf
    have hunit := h.unit
    rw [Option.mem_def.mp hr, Option.bind_some] at hunit
    by_contra hrefuses
    simp [(joins_iff hunit).mpr hrefuses] at hj
  fields := congrArg (_ :: ·) h.fields
  members := by
    rw [List.reverse_cons, List.flatMap_append, h.members]
    rfl
  unit := (unit?_memberField m f p.offset).symm

theorem GroupedRun.join (h : GroupedRun footprint pack ms p (r :: rs)) (hj : ¬r.Refuses m) :
    GroupedRun footprint pack (ms ++ [m]) (p.join m) (r.join m :: rs) where
  grouped := .join h.grouped hj
  fields := (join_fields h.fields.symm).symm
  members := by
    have hmembers := h.members
    simp only [List.reverse_cons, List.flatMap_append, List.flatMap_cons, List.flatMap_nil,
      List.append_nil, Group.join] at hmembers ⊢
    rw [← hmembers, List.append_assoc]
  unit := by
    have hunit : p.unit = r.unit? := h.unit
    rw [Placement.join, hunit]
    exact (Group.unit?_join (Group.not_refuses.mp hj).1 m).symm

theorem foldlM_add_grouped (h : ms.foldlM (Placement.add footprint pack) .start = .ok p) :
    ∃ rs, GroupedRun footprint pack ms p rs := by
  refine foldlM_ok (P := fun done q => ∃ rs, GroupedRun footprint pack done q rs)
    ⟨[], .start, rfl, rfl, rfl⟩ ?_ h
  rintro done m q q' ⟨rs, hq⟩ - hadd
  obtain ⟨hj, rfl⟩ | ⟨hj, f, hf, -, rfl⟩ := add_eq_ok hadd
  · cases rs with
    | nil =>
      obtain ⟨u, -, hu, -⟩ := joins_eq_true hj
      rw [hq.unit] at hu
      cases hu
    | cons r rs => exact ⟨_, hq.join ((joins_iff hq.unit).mp hj)⟩
  · exact ⟨_, hq.put hj hf⟩

theorem Field.fits_filter :
    g.Fits footprint (pack.filter (0 < ·)) m ↔ g.Fits footprint pack m := by
  simp only [Field.Fits, effectiveAlign_filter]

theorem layout_groups (h : c.layout d pack = .ok l) : ∃ rs,
    Grouped c.footprint? (pack.filter (0 < ·)) rs ∧ l.fields = rs.reverse.map Group.field ∧
      d.members = rs.reverse.flatMap Group.members ∧
      ∀ r ∈ rs, r.field.Houses c.footprint? pack r.members := by
  obtain ⟨p, hp, hl⟩ := layout_run h
  obtain ⟨rs, hrs⟩ := foldlM_add_grouped hp
  obtain ⟨-, rfl⟩ := finish_eq_ok hl
  refine ⟨rs, hrs.grouped, ?_, hrs.members.symm, fun r hr => ?_⟩
  · rw [List.map_reverse, hrs.fields]
  · obtain ⟨hholds, hfits⟩ := hrs.grouped.houses (fun m m' => Catalog.memberFootprint_congr) r hr
    exact ⟨hholds, fun m hm => Field.fits_filter.mp (hfits m hm)⟩

theorem layout_homes (h : c.layout d pack = .ok l) :
    List.Forall₂ (fun m g => m.LiesIn g ∧ g.Fits c.footprint? pack m) d.members l.homes := by
  obtain ⟨rs, -, hfields, hmembers, hhouses⟩ := layout_groups h
  rw [hmembers, Layout.homes, hfields, List.flatMap_map]
  have hgroups : List.Forall₂ (fun r r' => r = r' ∧ r ∈ rs) rs.reverse rs.reverse :=
    List.forall₂_same.mpr fun r hr => ⟨rfl, List.mem_reverse.mp hr⟩
  refine List.rel_flatMap hgroups ?_
  rintro r r' ⟨rfl, hr⟩
  exact (hhouses r hr).members

end ByteGrid
