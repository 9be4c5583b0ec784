import ByteGrid.Layout.Validity
import Mathlib.Data.List.Basic

namespace ByteGrid

/-- Fields that follow one another from an offset on, each with its padding, and end within the
struct. -/
def Chained (totalSize : Nat) : Nat → List Field → Prop
  | _, [] => True
  | before, g :: gs =>
    g.paddingBefore ≤ g.offset ∧ before ≤ g.paddingStart ∧ g.stop ≤ totalSize ∧
      Chained totalSize g.stop gs

def stopBefore (start : Nat) (gs : List Field) : Nat → Nat
  | 0 => start
  | i + 1 => (gs[i]?.map Field.stop).getD start

variable {totalSize before : Nat} {g : Field} {gs : List Field} {l : Layout}

theorem Field.paddingStart_le (g : Field) : g.paddingStart ≤ g.offset :=
  Nat.sub_le _ _

theorem Field.offset_le (g : Field) : g.offset ≤ g.stop :=
  Nat.le_add_right _ _

theorem stopBefore_cons (start : Nat) (g : Field) (gs : List Field) {i : Nat} (hi : i ≤ gs.length) :
    stopBefore start (g :: gs) (i + 1) = stopBefore g.stop gs i := by
  cases i with
  | zero => rfl
  | succ i =>
    have hget : gs[i]? = some gs[i] := List.getElem?_eq_getElem hi
    simp [stopBefore, hget]

theorem stopBefore_append (start : Nat) (gs : List Field) (g : Field) {i : Nat}
    (hi : i ≤ gs.length) : stopBefore start (gs ++ [g]) i = stopBefore start gs i := by
  cases i with
  | zero => rfl
  | succ i => rw [stopBefore, stopBefore, List.getElem?_append_left hi]

theorem chained_iff : Chained totalSize before gs ↔ ∀ i g, gs[i]? = some g →
    g.paddingBefore ≤ g.offset ∧ stopBefore before gs i ≤ g.paddingStart ∧ g.stop ≤ totalSize := by
  induction gs generalizing before with
  | nil => simp [Chained]
  | cons g gs ih =>
    rw [Chained, ih]
    constructor
    · rintro ⟨h₁, h₂, h₃, hs⟩ i x hx
      cases i with
      | zero =>
        obtain rfl : g = x := by simpa using hx
        exact ⟨h₁, h₂, h₃⟩
      | succ i =>
        rw [List.getElem?_cons_succ] at hx
        rw [stopBefore_cons _ _ _ (Nat.le_of_lt (List.getElem?_eq_some_iff.mp hx).1)]
        exact hs i x hx
    · intro h
      obtain ⟨h₁, h₂, h₃⟩ := h 0 g rfl
      refine ⟨h₁, h₂, h₃, fun i x hx => ?_⟩
      have := h (i + 1) x (by rwa [List.getElem?_cons_succ])
      rwa [stopBefore_cons _ _ _ (Nat.le_of_lt (List.getElem?_eq_some_iff.mp hx).1)] at this

theorem Chained.mem (h : Chained totalSize before gs) (hg : g ∈ gs) :
    before ≤ g.paddingStart ∧ g.stop ≤ totalSize := by
  induction gs generalizing before with
  | nil => cases hg
  | cons x gs ih =>
    obtain ⟨-, hx, hstop, hs⟩ := h
    rcases List.mem_cons.mp hg with rfl | hg
    · exact ⟨hx, hstop⟩
    · have := ih hs hg
      have := x.paddingStart_le
      have := x.offset_le
      omega

theorem Chained.paddingBefore_le (h : Chained totalSize before gs) :
    ∀ g ∈ gs, g.paddingBefore ≤ g.offset := by
  intro g hg
  obtain ⟨i, hi⟩ := List.getElem?_of_mem hg
  exact (chained_iff.mp h i g hi).1

theorem Chained.pairwise (h : Chained totalSize before gs) :
    gs.Pairwise fun f g => f.stop ≤ g.paddingStart := by
  induction gs generalizing before with
  | nil => exact .nil
  | cons x gs ih =>
    obtain ⟨-, -, -, hs⟩ := h
    exact .cons (fun g hg => (hs.mem hg).1) (ih hs)

theorem validate_field_eq_ok {previous : Option Field} :
    g.validate totalSize previous = .ok () ↔
      g.paddingBefore ≤ g.offset ∧ previous.elim 0 Field.stop ≤ g.paddingStart ∧
        g.stop ≤ totalSize := by
  have hp := g.paddingStart_le
  unfold Field.validate
  by_cases h₁ : totalSize < g.stop
  · simp only [if_pos h₁, reduceCtorEq, false_iff]
    omega
  by_cases h₂ : g.offset < g.paddingBefore
  · simp only [if_neg h₁, if_pos h₂, reduceCtorEq, false_iff]
    omega
  cases previous with
  | none =>
    simp only [if_neg h₁, if_neg h₂, Option.elim_none, true_iff]
    omega
  | some p =>
    have ho := p.offset_le
    simp only [if_neg h₁, if_neg h₂, Option.elim_some]
    by_cases h₃ : g.paddingStart < p.stop
    · have : ¬p.stop ≤ g.paddingStart := by omega
      by_cases h₄ : g.offset < p.offset
      · simp [h₄, this]
      · by_cases h₅ : g.offset < p.stop <;> simp [h₃, h₄, h₅, this]
    · rw [if_neg (by omega), if_neg (by omega), if_neg h₃]
      simp only [true_iff]
      omega

theorem validateFields_eq_ok {previous : Option Field} :
    validateFields totalSize previous gs = .ok () ↔
      Chained totalSize (previous.elim 0 Field.stop) gs := by
  induction gs generalizing previous with
  | nil => simp [validateFields, Chained]
  | cons g gs ih =>
    have hg := @validate_field_eq_ok totalSize g previous
    simp only [validateFields, Chained]
    cases hv : g.validate totalSize previous with
    | error v =>
      simp only [hv, reduceCtorEq, false_iff] at hg ⊢
      exact fun h => hg ⟨h.1, h.2.1, h.2.2.1⟩
    | ok _ =>
      obtain ⟨h₁, h₂, h₃⟩ := hg.mp hv
      simp only [h₁, h₂, h₃, true_and]
      exact @ih (some g)

theorem validate_eq_ok :
    l.validate = .ok () ↔ 0 < l.maxAlign ∧ 0 < l.rowWidth ∧ Chained l.totalSize 0 l.fields := by
  unfold Layout.validate
  by_cases h₁ : l.maxAlign = 0
  · simp [h₁]
  by_cases h₂ : l.rowWidth = 0
  · simp [h₁, h₂]
  rw [if_neg h₁, if_neg h₂, validateFields_eq_ok]
  constructor
  · exact fun h => ⟨Nat.pos_of_ne_zero h₁, Nat.pos_of_ne_zero h₂, h⟩
  · exact fun h => h.2.2

theorem foldl_max_le (xs : List Nat) (a b : Nat) : xs.foldl max a ≤ b ↔ a ≤ b ∧ ∀ x ∈ xs, x ≤ b := by
  induction xs generalizing a with
  | nil => simp
  | cons x xs ih =>
    rw [List.foldl_cons, ih, List.forall_mem_cons, Nat.max_le, and_assoc]

theorem foldl_max_mem (xs : List Nat) (a : Nat) : xs.foldl max a = a ∨ xs.foldl max a ∈ xs := by
  induction xs generalizing a with
  | nil => exact .inl rfl
  | cons x xs ih =>
    rcases ih (max a x) with heq | hmem
    · rw [List.foldl_cons, heq]
      rcases Nat.le_total x a with hle | hle
      · exact .inl (Nat.max_eq_left hle)
      · rw [Nat.max_eq_right hle]
        exact .inr (.head _)
    · exact .inr (.tail _ hmem)

theorem dataEnd_le {b : Nat} : l.dataEnd ≤ b ↔ ∀ f ∈ l.fields, f.stop ≤ b := by
  rw [Layout.dataEnd, foldl_max_le, List.forall_mem_map]
  exact and_iff_right (Nat.zero_le b)

theorem Chained.dataEnd_le_totalSize (h : Chained l.totalSize before l.fields) :
    l.dataEnd ≤ l.totalSize :=
  dataEnd_le.mpr fun _ hf => (h.mem hf).2

end ByteGrid
