import ByteGrid.Proofs.Ideal
import Mathlib.Algebra.GroupWithZero.Nat

/-!
Storage units and the words that count their bits. A word counts the bits of a very large unit only as
far as it goes. That decides nothing as long as all widths of a struct add up to a word.
-/

namespace ByteGrid

open ByteGrid.Text Placement

def Member.width (m : Member) : Nat :=
  m.bitWidth.getD 0

def Declaration.widths (d : Declaration) : Nat :=
  (d.members.map Member.width).sum

/-- Storage units that differ in how far their bits are counted, with so many bits still to come. -/
inductive SameUnit (left : Nat) : Option BitUnit → Option BitUnit → Prop
  | closed : SameUnit left none none
  | opened {name size used} : used + left < wordBound →
      SameUnit left (some ⟨name, 8 * size, used⟩) (some ⟨name, unitCapacity size, used⟩)

inductive SameRun (left : Nat) : IdealRun → IdealRun → Prop
  | mk {fields offset maxAlign stops unit unit'} : SameUnit left unit unit' →
      SameRun left ⟨⟨fields, offset, maxAlign, unit⟩, stops⟩ ⟨⟨fields, offset, maxAlign, unit'⟩, stops⟩

variable {left : Nat} {r r' : IdealRun} {m : Member} {pack : Option Nat} {c : Catalog}
variable {type : Member → Footprint × Stops} {d : Declaration}

theorem le_unitCapacity {size bits : Nat} (h : bits < wordBound) :
    bits ≤ unitCapacity size ↔ bits ≤ 8 * size := by
  unfold unitCapacity
  omega

theorem SameRun.joins (h : SameRun (m.width + left) r r') :
    r.placement.joins m = r'.placement.joins m := by
  obtain ⟨hunit⟩ := h
  unfold Placement.joins
  cases hunit with
  | closed => rfl
  | @opened name size used hlt =>
    cases hb : m.bitWidth with
    | none => rfl
    | some bits =>
      have hbits : m.width = bits := by rw [Member.width, hb, Option.getD_some]
      have hcapacity := @le_unitCapacity size (used + bits) (by omega)
      simp only [hcapacity]

theorem SameUnit.join {unit unit' : Option BitUnit} (h : SameUnit (m.width + left) unit unit') :
    SameUnit left (unit.map fun u => { u with used := u.used + m.width })
      (unit'.map fun u => { u with used := u.used + m.width }) := by
  cases h with
  | closed => exact .closed
  | opened hlt =>
    apply SameUnit.opened
    dsimp only
    omega

theorem SameRun.add (h : SameRun (m.width + left) r r') (hw : m.width + left < wordBound) :
    SameRun left (r.add (8 * ·) type pack m) (r'.add unitCapacity type pack m) := by
  have hjoins := h.joins
  unfold IdealRun.add
  rw [← hjoins]
  by_cases hj : r.placement.joins m = true
  · rw [if_pos hj, if_pos hj]
    obtain ⟨hunit⟩ := h
    exact .mk hunit.join
  · rw [if_neg hj, if_neg hj]
    obtain ⟨-⟩ := h
    apply SameRun.mk
    cases hb : m.bitWidth with
    | none => exact .closed
    | some bits =>
      rw [Member.width, hb, Option.getD_some] at hw
      exact .opened hw

theorem foldl_add_same {ms : List Member} (h : SameRun (ms.map Member.width).sum r r')
    (hw : (ms.map Member.width).sum < wordBound) :
    SameRun 0 (ms.foldl (IdealRun.add (8 * ·) type pack) r)
      (ms.foldl (IdealRun.add unitCapacity type pack) r') := by
  induction ms generalizing r r' with
  | nil => exact h
  | cons m ms ih =>
    rw [List.map_cons, List.sum_cons] at h hw
    rw [List.foldl_cons, List.foldl_cons]
    exact ih (h.add hw) (by omega)

theorem SameRun.finish (h : SameRun left r r') (pack : Option Nat) (name : String) :
    r.finish pack name = r'.finish pack name := by
  obtain ⟨-⟩ := h
  rfl

theorem memberType?_mem {d : Declaration} (h : c.memberType? m = some (.struct d)) :
    d ∈ c.declarations := by
  unfold Catalog.memberType? at h
  split at h
  · cases h
  · split at h
    · cases h
    · split at h
      · rename_i d' hd
        cases h
        exact List.mem_of_find?_eq_some hd
      · split at h <;> cases h

theorem idealType_congr {nested nested' : Declaration → Ideal}
    (h : ∀ d ∈ c.declarations, nested d = nested' d) : c.idealType nested = c.idealType nested' := by
  funext m
  unfold Catalog.idealType
  cases ht : c.memberType? m with
  | none => rfl
  | some t =>
    cases t with
    | sized f => rfl
    | struct d =>
      dsimp only
      rw [h d (memberType?_mem ht)]

theorem idealWithin_capacity {levels : Nat} (hc : ∀ e ∈ c.declarations, e.widths < wordBound)
    (hd : d.widths < wordBound) :
    c.idealWithin (8 * ·) levels pack d = c.idealWithin unitCapacity levels pack d := by
  induction levels generalizing pack d with
  | zero => rfl
  | succ levels ih =>
    have htype := idealType_congr fun e he => @ih none e (hc e he)
    rw [Catalog.idealWithin, Catalog.idealWithin, htype]
    apply SameRun.finish
    exact foldl_add_same (.mk .closed) hd

theorem ideal_capacity (hc : ∀ e ∈ d :: c.declarations, e.widths < wordBound) (pack : Option Nat) :
    c.ideal (8 * ·) d pack = c.ideal unitCapacity d pack :=
  idealWithin_capacity (fun e he => hc e (.tail _ he)) (hc d (.head _))

end ByteGrid
