import ByteGrid.Placement
import Mathlib.Order.Bounds.Basic

namespace ByteGrid

def effectiveAlign (natural : Nat) (pack : Option Nat) : Nat :=
  max 1 (match pack.filter (0 < ·) with
    | some p => min natural p
    | none => natural)

theorem packed_bytes (natural : Nat) (pack : Option Nat) :
    (Alignment.packed natural pack).bytes = effectiveAlign natural pack := by
  cases pack with
  | none => exact Nat.max_comm _ _
  | some p =>
    by_cases hp : 0 < p
    · simp [Alignment.packed, Alignment.of, effectiveAlign, Option.filter, hp, Nat.max_comm]
    · simp [Alignment.packed, Alignment.of, effectiveAlign, Option.filter, hp, Nat.max_comm]

theorem effectiveAlign_pos (natural : Nat) (pack : Option Nat) : 0 < effectiveAlign natural pack :=
  Nat.lt_of_lt_of_le Nat.one_pos (Nat.le_max_left _ _)

theorem effectiveAlign_filter (natural : Nat) (pack : Option Nat) :
    effectiveAlign natural (pack.filter (0 < ·)) = effectiveAlign natural pack := by
  cases pack with
  | none => rfl
  | some p => by_cases hp : 0 < p <;> simp [effectiveAlign, Option.filter, hp]

theorem effectiveAlign_none {n : Nat} (h : 0 < n) : effectiveAlign n none = n :=
  Nat.max_eq_right h

theorem effectiveAlign_some {k : Nat} (hk : 0 < k) (n : Nat) :
    effectiveAlign n (some k) = max 1 (min n k) := by
  simp only [effectiveAlign, Option.filter, decide_eq_true hk, if_true]

theorem effectiveAlign_eq_min {n k : Nat} (hn : 0 < n) (hk : 0 < k) :
    effectiveAlign n (some k) = min n k := by
  rw [effectiveAlign_some hk, Nat.max_eq_right (Nat.le_min.mpr ⟨hn, hk⟩)]

theorem effectiveAlign_wide {n k : Nat} (h : n ≤ k) :
    effectiveAlign n (some k) = effectiveAlign n none := by
  by_cases hk : 0 < k
  · rw [effectiveAlign_some hk, Nat.min_eq_left h]
    rfl
  · obtain rfl : k = 0 := by omega
    rfl

def roundUp (a n : Nat) : Nat :=
  (n + a - 1) / a * a

theorem roundUp_isLeast {a : Nat} (ha : 0 < a) (n : Nat) :
    IsLeast {k | a ∣ k ∧ n ≤ k} (roundUp a n) := by
  have hdiv := Nat.div_add_mod (n + a - 1) a
  have hmod := Nat.mod_lt (n + a - 1) ha
  rw [Nat.mul_comm] at hdiv
  refine ⟨⟨Nat.dvd_mul_left a _, by unfold roundUp; omega⟩, ?_⟩
  rintro k ⟨⟨q, rfl⟩, hn⟩
  have hq : (n + a - 1) / a ≤ q := by
    apply Nat.le_of_lt_succ
    apply (Nat.div_lt_iff_lt_mul ha).mpr
    rw [Nat.succ_mul, Nat.mul_comm q]
    omega
  rw [Nat.mul_comm a]
  exact Nat.mul_le_mul_right a hq

theorem roundUp_le_roundUp {a b n k : Nat} (ha : 0 < a) (hb : 0 < b) (hab : a ∣ b) (hnk : n ≤ k) :
    roundUp a n ≤ roundUp b k := by
  obtain ⟨hdvd, hle⟩ := (roundUp_isLeast hb k).1
  exact (roundUp_isLeast ha n).2 ⟨Nat.dvd_trans hab hdvd, Nat.le_trans hnk hle⟩

namespace Alignment

theorem padding_lt (a : Alignment) (n : Nat) : a.padding n < a.bytes :=
  Nat.mod_lt _ a.pos

theorem dvd_align (a : Alignment) (n : Nat) : a.bytes ∣ a.align n := by
  have hn := Nat.mod_lt n a.pos
  by_cases hz : n % a.bytes = 0
  · have hp : a.padding n = 0 := by simp [padding, hz]
    simpa [align, hp] using Nat.dvd_of_mod_eq_zero hz
  · have hp : a.padding n = a.bytes - n % a.bytes := Nat.mod_eq_of_lt (by omega)
    apply Nat.dvd_of_mod_eq_zero
    rw [align, hp, Nat.add_mod, Nat.mod_eq_of_lt (show a.bytes - n % a.bytes < a.bytes by omega)]
    rw [show n % a.bytes + (a.bytes - n % a.bytes) = a.bytes by omega, Nat.mod_self]

theorem le_align (a : Alignment) (n : Nat) : n ≤ a.align n :=
  Nat.le_add_right _ _

theorem align_le {a : Alignment} {n k : Nat} (hk : a.bytes ∣ k) (hn : n ≤ k) : a.align n ≤ k := by
  by_contra hlt
  -- both are multiples, and they lie less than one alignment apart
  have hd : a.bytes ∣ a.align n - k := Nat.dvd_sub (dvd_align a n) hk
  have hle := Nat.le_of_dvd (by omega) hd
  have hp := padding_lt a n
  unfold align at hle
  omega

theorem align_isLeast (a : Alignment) (n : Nat) : IsLeast {k | a.bytes ∣ k ∧ n ≤ k} (a.align n) :=
  ⟨⟨dvd_align a n, le_align a n⟩, fun _ hk => align_le hk.1 hk.2⟩

theorem align_eq_roundUp (a : Alignment) (n : Nat) : a.align n = roundUp a.bytes n :=
  (align_isLeast a n).unique (roundUp_isLeast a.pos n)

end Alignment

end ByteGrid
