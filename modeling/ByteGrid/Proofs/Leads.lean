import ByteGrid.Proofs.Placement

/-!
The leads of a run: the members that open a field, each with the footprint of its type. They fix the
numbers of all fields; the bit-fields that join a storage unit only add to its name and its list.
-/

namespace ByteGrid

open Placement

def Field.extent (g : Field) : Extent :=
  ⟨g.paddingBefore, g.offset, g.size, g.stop⟩

def Field.OpensWith (g : Field) (m : Member) : Prop :=
  g.typeName = m.typeName ∧
    match m.bitWidth with
    | none => g.name = m.name ∧ g.bitFields = []
    | some bits => g.bitFields.head? = some ⟨m.name, bits⟩

/-- Fields that lie where their leads go, one after the other from the start of the struct up to an
offset. The last one stands first. -/
inductive Stacked (pack : Option Nat) : List (Member × Footprint) → List Field → Nat → Prop
  | start : Stacked pack [] [] 0
  | put {us gs before m f g} : Stacked pack us gs before → g.OpensWith m →
      g.extent = extent pack before m f → Stacked pack ((m, f) :: us) (g :: gs) g.stop

def alignments (us : List (Member × Footprint)) : Set Nat :=
  {a | a = 1 ∨ ∃ u ∈ us, a = u.2.align}

def UniformBits (footprint : Member → Except LayoutError Footprint) : Prop :=
  ∀ m m' : Member, m.bitWidth.isSome → m'.bitWidth.isSome → m.typeName = m'.typeName →
    footprint m = footprint m'

variable {footprint : Member → Except LayoutError Footprint} {pack : Option Nat}
variable {us : List (Member × Footprint)} {gs : List Field} {p q : Placement} {ms : List Member}
variable {m : Member}

@[simp]
theorem memberField_offset (m : Member) (e : Extent) : (memberField m e).offset = e.offset := by
  unfold memberField
  cases m.bitWidth <;> rfl

@[simp]
theorem memberField_size (m : Member) (e : Extent) : (memberField m e).size = e.size := by
  unfold memberField
  cases m.bitWidth <;> rfl

theorem memberField_extent (pack : Option Nat) (offset : Nat) (m : Member) (f : Footprint) :
    (memberField m (extent pack offset m f)).extent = extent pack offset m f := by
  unfold memberField
  cases m.bitWidth <;> rfl

theorem memberField_opensWith (m : Member) (e : Extent) : (memberField m e).OpensWith m := by
  unfold memberField Field.OpensWith
  cases m.bitWidth with
  | none => exact ⟨rfl, rfl, rfl⟩
  | some bits => exact ⟨rfl, rfl⟩

theorem alignments_cons (m : Member) (f : Footprint) (us : List (Member × Footprint)) :
    alignments ((m, f) :: us) = insert f.align (alignments us) := by
  ext a
  simp only [alignments, List.mem_cons, Set.mem_ofPred_eq, Set.mem_insert_iff]
  constructor
  · rintro (rfl | ⟨u, rfl | hu, rfl⟩)
    · exact .inr (.inl rfl)
    · exact .inl rfl
    · exact .inr (.inr ⟨u, hu, rfl⟩)
  · rintro (rfl | rfl | ⟨u, hu, rfl⟩)
    · exact .inr ⟨(m, f), .inl rfl, rfl⟩
    · exact .inl rfl
    · exact .inr ⟨u, .inr hu, rfl⟩

theorem joins_eq_true (h : p.joins m = true) : ∃ u bits, p.unit = some u ∧ m.bitWidth = some bits ∧
    m.typeName = u.typeName ∧ u.used + bits ≤ u.capacity := by
  unfold joins at h
  split at h
  · rename_i u bits hu hb
    simp only [Bool.and_eq_true, beq_iff_eq, decide_eq_true_eq] at h
    exact ⟨u, bits, hu, hb, h.1, h.2⟩
  · cases h

theorem Stacked.stop_le {stop : Nat} (h : Stacked pack us gs stop) : ∀ g ∈ gs, g.stop ≤ stop := by
  induction h with
  | start => simp
  | @put us gs before m f g hs ho he ih =>
    have hoff : before ≤ g.offset := by
      have := congrArg Extent.offset he
      have := offset_add_padding pack before m f
      simp only [Field.extent] at *
      omega
    intro x hx
    rcases List.mem_cons.mp hx with rfl | hx
    · exact Nat.le_refl _
    · have := ih x hx
      unfold Field.stop at *
      omega

theorem Stacked.replace {stop : Nat} {f : Footprint} {g g' : Field}
    (h : Stacked pack ((m, f) :: us) (g :: gs) stop) (he : g'.extent = g.extent)
    (ho : g'.OpensWith m) : Stacked pack ((m, f) :: us) (g' :: gs) stop := by
  cases h with
  | put hs _ hg =>
    have hstop : g'.stop = g.stop := congrArg Extent.stop he
    rw [← hstop]
    exact .put hs ho (he.trans hg)

def Field.extend (g : Field) (m : Member) : Field :=
  { g with name := g.name ++ ", " ++ m.name
           bitFields := g.bitFields ++ [⟨m.name, m.bitWidth.getD 0⟩] }

theorem join_fields {g : Field} (h : p.fields = g :: gs) :
    (p.join m).fields = g.extend m :: gs := by
  simp only [join, h, Field.extend]

theorem Field.OpensWith.extend {g : Field} {m₀ : Member} (h : g.OpensWith m₀)
    (hb : m₀.bitWidth.isSome) (m : Member) : (g.extend m).OpensWith m₀ := by
  obtain ⟨bits, hb⟩ := Option.isSome_iff_exists.mp hb
  simp only [Field.OpensWith, hb, Field.extend] at h ⊢
  refine ⟨h.1, ?_⟩
  rw [List.head?_append, h.2]
  rfl

theorem Stacked.top {stop : Nat} {f : Footprint} (h : Stacked pack ((m, f) :: us) gs stop) :
    ∃ g gs', gs = g :: gs' ∧ g.OpensWith m := by
  cases h with
  | @put _ gs' _ _ _ g _ ho _ => exact ⟨g, gs', rfl, ho⟩

/-- What a run over members has come to: `us` are its leads, the last one first. -/
structure Led (footprint : Member → Except LayoutError Footprint) (pack : Option Nat)
    (ms : List Member) (p : Placement) (us : List (Member × Footprint)) : Prop where
  stacked : Stacked pack us p.fields p.offset
  sublist : (us.reverse.map Prod.fst).Sublist ms
  footprint_eq : ∀ u ∈ us, footprint u.1 = .ok u.2
  covers : ∀ m ∈ ms, ∃ u ∈ us, footprint m = .ok u.2
  maxAlign : IsGreatest (alignments us) p.maxAlign
  stop_le : p.offset ≤ maxObjectSize
  unit : ∀ t, p.unit = some t →
    ∃ m f us', us = (m, f) :: us' ∧ m.bitWidth.isSome ∧ m.typeName = t.typeName

theorem led_start : Led footprint pack [] .start [] where
  stacked := .start
  sublist := .slnil
  footprint_eq := by simp
  covers := by simp
  maxAlign := by simp [Placement.start, alignments, IsGreatest, upperBounds]
  stop_le := Nat.zero_le _
  unit := by simp [Placement.start]

theorem Led.put {f : Footprint} (h : Led footprint pack ms p us) (hf : footprint m = .ok f)
    (hle : (extent pack p.offset m f).stop ≤ maxObjectSize) :
    Led footprint pack (ms ++ [m]) (p.put m f (extent pack p.offset m f)) ((m, f) :: us) where
  stacked := by
    have he := memberField_extent pack p.offset m f
    have hs := Stacked.put h.stacked (memberField_opensWith m _) he
    rwa [show (memberField m (extent pack p.offset m f)).stop = (extent pack p.offset m f).stop from
      congrArg Extent.stop he] at hs
  sublist := by
    rw [List.reverse_cons, List.map_append]
    exact h.sublist.append (List.Sublist.refl _)
  footprint_eq := by
    intro u hu
    rcases List.mem_cons.mp hu with rfl | hu
    · exact hf
    · exact h.footprint_eq u hu
  covers := by
    intro x hx
    rcases List.mem_append.mp hx with hx | hx
    · obtain ⟨u, hu, hfu⟩ := h.covers x hx
      exact ⟨u, .tail _ hu, hfu⟩
    · obtain rfl := List.mem_singleton.mp hx
      exact ⟨(x, f), .head _, hf⟩
  maxAlign := by
    rw [alignments_cons]
    change IsGreatest _ (max p.maxAlign f.align)
    rw [Nat.max_comm]
    exact h.maxAlign.insert f.align
  stop_le := hle
  unit := by
    intro t ht
    obtain ⟨bits, hb, rfl⟩ := Option.map_eq_some_iff.mp ht
    exact ⟨m, f, us, rfl, by simp [hb], rfl⟩

theorem Led.join (h : Led footprint pack ms p us) (hj : p.joins m = true)
    (uniform : UniformBits footprint) : Led footprint pack (ms ++ [m]) (p.join m) us := by
  obtain ⟨t, bits, ht, hb, hname, -⟩ := joins_eq_true hj
  obtain ⟨m₀, f, us', rfl, hbit, hlead⟩ := h.unit t ht
  obtain ⟨g, gs, hfields, hopens⟩ := h.stacked.top
  refine ⟨?_, h.sublist.trans (List.sublist_append_left _ _), h.footprint_eq, ?_, h.maxAlign,
    h.stop_le, ?_⟩
  · have hs := h.stacked
    rw [hfields] at hs
    rw [join_fields hfields]
    exact hs.replace rfl (hopens.extend hbit m)
  · intro x hx
    rcases List.mem_append.mp hx with hx | hx
    · exact h.covers x hx
    · obtain rfl := List.mem_singleton.mp hx
      refine ⟨(m₀, f), .head _, ?_⟩
      rw [uniform x m₀ (by simp [hb]) hbit (hname.trans hlead.symm)]
      exact h.footprint_eq _ (.head _)
  · intro t' ht'
    simp only [Placement.join, ht, Option.map_some, Option.some.injEq] at ht'
    subst ht'
    exact ⟨m₀, f, us', rfl, hbit, hlead⟩

theorem foldlM_add_led (uniform : UniformBits footprint)
    (h : ms.foldlM (Placement.add footprint pack) .start = .ok p) :
    ∃ us, Led footprint pack ms p us := by
  refine foldlM_ok (P := fun done q => ∃ us, Led footprint pack done q us) ⟨[], led_start⟩ ?_ h
  rintro done m q q' ⟨us, hq⟩ - hadd
  obtain ⟨hj, rfl⟩ | ⟨-, f, hf, hle, rfl⟩ := add_eq_ok hadd
  · exact ⟨us, hq.join hj uniform⟩
  · exact ⟨(m, f) :: us, hq.put hf hle⟩

end ByteGrid
