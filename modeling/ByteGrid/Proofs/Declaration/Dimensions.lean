import Mathlib.Algebra.BigOperators.Group.List.Lemmas
import Mathlib.Algebra.BigOperators.Ring.List
import Mathlib.Algebra.GroupWithZero.Nat
import Mathlib.Data.List.TakeWhile
import ByteGrid.Proofs.Declaration.Members

/-!
Array dimensions and the number of elements that they give. The dimensions are multiplied one after the
other, and once the product is no word the array counts as too large. A zero in front of that place keeps
it from getting there, and one behind it comes too late: only then the order of the dimensions matters.
-/

namespace ByteGrid

open ByteGrid.Text

variable {cs t u v : List Char} {n m : Nat} {ns ms : List Nat}

def IsDimension (text : List Char) (n : Nat) : Prop :=
  ∃ lead sign digits trail, text = lead ++ (sign ++ digits ++ trail) ∧ AllBlank lead ∧ AllBlank trail ∧
    (sign = [] ∨ sign = ['+']) ∧ digits ≠ [] ∧ (∀ c ∈ digits, c.isDigit = true) ∧
    digitsValue digits = n ∧ n < wordBound

/-- The dimensions of a text, from left to right. What stands between brackets ends at the first one that
closes, and brackets that nothing closes say nothing. -/
inductive HasDimensions : List Char → List Nat → Prop
  | plain {u : List Char} (hu : '[' ∉ u) : HasDimensions u []
  | unclosed {u v : List Char} (hu : '[' ∉ u) (hv : ']' ∉ v) : HasDimensions (u ++ '[' :: v) []
  | number {u t v : List Char} {n : Nat} {ns : List Nat} (hu : '[' ∉ u) (ht : ']' ∉ t)
      (hn : IsDimension t n) (hv : HasDimensions v ns) :
      HasDimensions (u ++ '[' :: (t ++ ']' :: v)) (n :: ns)
  | other {u t v : List Char} {ns : List Nat} (hu : '[' ∉ u) (ht : ']' ∉ t)
      (hnone : ∀ n, ¬IsDimension t n) (hv : HasDimensions v ns) :
      HasDimensions (u ++ '[' :: (t ++ ']' :: v)) ns

def saturatedProduct (ns : List Nat) : Nat :=
  if ns.prod < wordBound then ns.prod else wordBound - 1

theorem number?_eq_some_iff {bound : Nat} : number? bound cs = some n ↔ ∃ sign digits,
    cs = sign ++ digits ∧ (sign = [] ∨ sign = ['+']) ∧ digits ≠ [] ∧
    (∀ c ∈ digits, c.isDigit = true) ∧ digitsValue digits = n ∧ n < bound := by
  have hread (digits : List Char) : (if !digits.isEmpty && digits.all Char.isDigit &&
        decide (digitsValue digits < bound) then some (digitsValue digits) else none) = some n ↔
      digits ≠ [] ∧ (∀ c ∈ digits, c.isDigit = true) ∧ digitsValue digits = n ∧ n < bound := by
    simp only [Option.ite_none_right_eq_some, Bool.and_eq_true, decide_eq_true_eq, Option.some.injEq,
      List.all_eq_true, Bool.not_eq_true', List.isEmpty_eq_false_iff]
    constructor
    · rintro ⟨⟨⟨hne, hdigits⟩, hlt⟩, rfl⟩
      exact ⟨hne, hdigits, rfl, hlt⟩
    · rintro ⟨hne, hdigits, rfl, hlt⟩
      exact ⟨⟨⟨hne, hdigits⟩, hlt⟩, rfl⟩
  unfold number?
  dsimp only
  rw [hread]
  split
  · rename_i rest
    constructor
    · exact fun h => ⟨['+'], rest, rfl, .inr rfl, h⟩
    · rintro ⟨sign, digits, heq, rfl | rfl, h⟩
      · obtain rfl : '+' :: rest = digits := heq
        exact absurd (h.2.1 '+' (.head _)) (by decide)
      · cases heq
        exact h
  · rename_i hsign
    constructor
    · exact fun h => ⟨[], cs, rfl, .inl rfl, h⟩
    · rintro ⟨sign, digits, rfl, rfl | rfl, h⟩
      · exact h
      · exact absurd rfl (hsign digits)

theorem isDimension_iff : number? wordBound (trim t) = some n ↔ IsDimension t n := by
  rw [number?_eq_some_iff]
  constructor
  · rintro ⟨sign, digits, htrim, h⟩
    obtain ⟨lead, trail, hlead, htrail, heq⟩ := trim_eq t
    exact ⟨lead, sign, digits, trail, by rw [← htrim, ← heq], hlead, htrail, h⟩
  · rintro ⟨lead, sign, digits, trail, rfl, hlead, htrail, hsign, hne, hdigits, h⟩
    have hsolid : Solid (sign ++ digits) := by
      refine ⟨by simp [hne], fun c hc => ?_⟩
      rcases List.mem_append.mp hc with hc | hc
      · rcases hsign with rfl | rfl
        · cases hc
        · rw [List.mem_singleton.mp hc]
          rfl
      · exact isBlank_of_wordChar (isWordChar_of_ascii (.inl (by
          rw [Char.isAlphanum, hdigits c hc, Bool.or_true])))
    rw [trim_gaps hlead hsolid htrail]
    exact ⟨sign, digits, rfl, hsign, hne, hdigits, h⟩

theorem bracketed_open (hcs : ']' ∉ cs) : bracketed (some t) cs = [] := by
  induction cs generalizing t with
  | nil => rfl
  | cons c cs ih =>
    rw [List.mem_cons, not_or] at hcs
    rw [bracketed, if_neg (Ne.symm hcs.1), ih hcs.2]

theorem dimensions_plain (hu : '[' ∉ u) : dimensions u = [] := by
  have hnone := @bracketed_append u [] hu
  rw [List.append_nil] at hnone
  rw [dimensions, hnone]
  rfl

theorem dimensions_unclosed (hu : '[' ∉ u) (hv : ']' ∉ v) : dimensions (u ++ '[' :: v) = [] := by
  rw [dimensions, bracketed_append hu, bracketed, if_pos rfl, bracketed_open hv]
  rfl

theorem dimensions_brackets (hu : '[' ∉ u) (ht : ']' ∉ t) : dimensions (u ++ '[' :: (t ++ ']' :: v)) =
    (number? wordBound (trim t)).toList ++ dimensions v := by
  rw [dimensions, bracketed_append hu, bracketed, if_pos rfl, bracketed_inside ht, dimensions]
  cases hn : number? wordBound (trim t) <;> simp [hn]

theorem hasDimensions_dimensions (cs : List Char) : HasDimensions cs (dimensions cs) := by
  induction hlength : cs.length using Nat.strongRecOn generalizing cs with
  | _ n ih =>
    by_cases hopen : '[' ∈ cs
    · obtain ⟨u, w, rfl, hu⟩ := List.eq_append_cons_of_mem hopen
      by_cases hclose : ']' ∈ w
      · obtain ⟨t, v, rfl, ht⟩ := List.eq_append_cons_of_mem hclose
        simp only [List.length_append, List.length_cons] at hlength
        have hv := ih v.length (by omega) v rfl
        rw [dimensions_brackets hu ht]
        cases hn : number? wordBound (trim t) with
        | none =>
          refine .other hu ht (fun n h => ?_) hv
          rw [isDimension_iff.mpr h] at hn
          cases hn
        | some n => exact .number hu ht (isDimension_iff.mp hn) hv
      · rw [dimensions_unclosed hu hclose]
        exact .unclosed hu hclose
    · rw [dimensions_plain hopen]
      exact .plain hopen

theorem hasDimensions_iff : HasDimensions cs ns ↔ ns = dimensions cs := by
  constructor
  · intro h
    induction h with
    | plain hu => exact (dimensions_plain hu).symm
    | unclosed hu hv => exact (dimensions_unclosed hu hv).symm
    | number hu ht hn _ ih =>
      rw [dimensions_brackets hu ht, isDimension_iff.mpr hn, ih]
      rfl
    | other hu ht hnone _ ih =>
      have hn := Option.eq_none_iff_forall_not_mem.mpr fun n hn => hnone n (isDimension_iff.mp hn)
      rw [dimensions_brackets hu ht, hn, ih]
      rfl
  · rintro rfl
    exact hasDimensions_dimensions cs

def timesWord? (acc : Option Nat) (n : Nat) : Option Nat :=
  acc.bind fun m => if m * n < wordBound then some (m * n) else none

def untilZero (ns : List Nat) : List Nat :=
  ns.takeWhile (· ≠ 0)

theorem ne_zero_of_mem_untilZero (h : n ∈ untilZero ns) : n ≠ 0 := by
  have hn := List.mem_takeWhile_imp h
  exact of_decide_eq_true hn

theorem untilZero_prod_pos (ns : List Nat) : 0 < (untilZero ns).prod := by
  have hnone : 0 ∉ untilZero ns := fun h => ne_zero_of_mem_untilZero h rfl
  exact Nat.pos_of_ne_zero (mt List.prod_eq_zero_iff.mp hnone)

theorem foldl_timesWord?_none (ns : List Nat) : ns.foldl timesWord? none = none := by
  induction ns with
  | nil => rfl
  | cons n ns ih => exact ih

theorem foldl_timesWord?_some (hm : m < wordBound) : ns.foldl timesWord? (some m) =
    if m * (untilZero ns).prod < wordBound then some (m * ns.prod) else none := by
  induction ns generalizing m with
  | nil => simp [untilZero, hm]
  | cons n ns ih =>
    rw [List.foldl_cons, timesWord?, Option.bind_some]
    by_cases hzero : n = 0
    · subst hzero
      have hword : 0 < wordBound := by decide
      simp [untilZero, ih hword, hm, hword]
    · have hcons : untilZero (n :: ns) = n :: untilZero ns :=
        List.takeWhile_cons_of_pos (decide_eq_true hzero)
      rw [hcons, List.prod_cons, List.prod_cons, ← Nat.mul_assoc, ← Nat.mul_assoc]
      split
      · rename_i hlt
        exact ih hlt
      · rename_i hle
        have hgrows := Nat.le_mul_of_pos_right (m * n) (untilZero_prod_pos ns)
        rw [foldl_timesWord?_none, if_neg (by omega)]

theorem arrayLength_eq (cs : List Char) : arrayLength cs =
    if (untilZero (dimensions cs)).prod < wordBound then (dimensions cs).prod else wordBound - 1 := by
  have hproduct : wordProduct? (dimensions cs) =
      if 1 * (untilZero (dimensions cs)).prod < wordBound then some (1 * (dimensions cs).prod)
      else none := foldl_timesWord?_some (by decide)
  rw [arrayLength, hproduct, Nat.one_mul, Nat.one_mul]
  split <;> rfl

theorem untilZero_eq_self (h : 0 ∉ ns) : untilZero ns = ns :=
  List.takeWhile_eq_self_iff.mpr fun _ hn => decide_eq_true fun heq => h (heq ▸ hn)

theorem arrayLength_eq_saturated : arrayLength cs = saturatedProduct (dimensions cs) ↔
    (0 ∈ dimensions cs → (untilZero (dimensions cs)).prod < wordBound) := by
  rw [arrayLength_eq, saturatedProduct]
  by_cases hzero : 0 ∈ dimensions cs
  · have hprod : (dimensions cs).prod = 0 := List.prod_eq_zero_iff.mpr hzero
    have hword : 0 < wordBound - 1 := by decide
    rw [hprod]
    split
    · simp_all
    · simp_all
      omega
  · rw [untilZero_eq_self hzero]
    exact iff_of_true rfl fun h => absurd h hzero

def dimensionsText (ns : List Nat) : List Char :=
  ns.flatMap fun n => '[' :: (digits n ++ [']'])

theorem dimensions_dimensionsText (h : ∀ n ∈ ns, n < wordBound) :
    dimensions (dimensionsText ns) = ns := by
  induction ns with
  | nil => rfl
  | cons n ns ih =>
    obtain ⟨hn, hns⟩ := List.forall_mem_cons.mp h
    have hinside : ']' ∉ digits n := fun hc => absurd (isDigit_of_digits hc) (by decide)
    have htrim : trim (digits n) = digits n := @trim_solid [] _ (by decide) (digits_solid n)
    have hbrackets := @dimensions_brackets (digits n) [] (dimensionsText ns) (by simp) hinside
    rw [htrim, number?_digits hn, ih hns] at hbrackets
    rw [dimensionsText, List.flatMap_cons, ← dimensionsText]
    simpa using hbrackets

theorem lt_of_mem_dimensions (h : n ∈ dimensions cs) : n < wordBound := by
  obtain ⟨text, -, hn⟩ := List.mem_filterMap.mp h
  obtain ⟨_, _, _, _, -, -, -, -, -, -, -, hlt⟩ := isDimension_iff.mp hn
  exact hlt

theorem untilZero_prod_le (ns : List Nat) : (untilZero ns).prod ≤ (ns.filter (· ≠ 0)).prod := by
  have hnone : 0 ∉ ns.filter (· ≠ 0) := by simp
  have hsub : (untilZero ns).Sublist (ns.filter (· ≠ 0)) := by
    have hkept : (untilZero ns).filter (· ≠ 0) = untilZero ns :=
      List.filter_eq_self.mpr fun _ h => decide_eq_true (ne_zero_of_mem_untilZero h)
    rw [← hkept]
    exact (List.takeWhile_prefix _).sublist.filter _
  exact Nat.le_of_dvd (Nat.pos_of_ne_zero (mt List.prod_eq_zero_iff.mp hnone)) hsub.prod_dvd_prod

theorem untilZero_append (ns ms : List Nat) (hns : 0 ∉ ns) (hms : ∀ m ∈ ms.head?, m = 0) :
    untilZero (ns ++ ms) = ns := by
  have hpos : ∀ n ∈ ns, decide (n ≠ 0) = true := fun _ hn => decide_eq_true fun heq => hns (heq ▸ hn)
  rw [untilZero, List.takeWhile_append_of_pos hpos]
  cases ms with
  | nil => simp
  | cons m ms =>
    obtain rfl := hms m rfl
    simp

theorem arrayLength_dimensionsText (h : ∀ n ∈ ns, n < wordBound) : arrayLength (dimensionsText ns) =
    if (untilZero ns).prod < wordBound then ns.prod else wordBound - 1 := by
  rw [arrayLength_eq, dimensions_dimensionsText h]

theorem zeros_first_last (hzero : 0 ∈ ns) (h : ∀ n ∈ ns, n < wordBound)
    (hlarge : wordBound ≤ (ns.filter (· ≠ 0)).prod) :
    ∃ ms ms' : List Nat, ms.Perm ns ∧ ms'.Perm ns ∧ arrayLength (dimensionsText ms) = 0 ∧
      arrayLength (dimensionsText ms') = wordBound - 1 := by
  let zeros := ns.filter fun n => !decide (n ≠ 0)
  have hzeros : ∀ n ∈ zeros, n = 0 := by simp [zeros]
  have hmem : 0 ∈ zeros := by simp [zeros, hzero]
  have hlast : (ns.filter (· ≠ 0) ++ zeros).Perm ns := List.filter_append_perm _ ns
  have hfirst : (zeros ++ ns.filter (· ≠ 0)).Perm ns := List.perm_append_comm.trans hlast
  refine ⟨_, _, hfirst, hlast, ?_, ?_⟩
  · rw [arrayLength_dimensionsText fun n hn => h n (hfirst.mem_iff.mp hn)]
    have hnone : untilZero ([] ++ (zeros ++ ns.filter (· ≠ 0))) = [] := by
      refine untilZero_append _ _ List.not_mem_nil fun m hm => ?_
      obtain ⟨z, rest, heq⟩ := List.exists_cons_of_ne_nil (List.ne_nil_of_mem hmem)
      rw [heq] at hm
      cases hm
      exact hzeros m (heq ▸ .head _)
    rw [List.nil_append] at hnone
    rw [hnone, if_pos (by decide), List.prod_eq_zero_iff]
    exact List.mem_append_left _ hmem
  · rw [arrayLength_dimensionsText fun n hn => h n (hlast.mem_iff.mp hn)]
    have hall : untilZero (ns.filter (· ≠ 0) ++ zeros) = ns.filter (· ≠ 0) :=
      untilZero_append _ _ (by simp) fun m hm => hzeros m (List.mem_of_mem_head? hm)
    rw [hall, if_neg (Nat.not_lt.mpr hlarge)]

theorem arrayLength_perm {cs' : List Char} (hperm : (dimensions cs').Perm (dimensions cs))
    (h : 0 ∈ dimensions cs → ((dimensions cs).filter (· ≠ 0)).prod < wordBound) :
    arrayLength cs' = arrayLength cs := by
  rw [arrayLength_eq, arrayLength_eq, hperm.prod_eq]
  by_cases hzero : 0 ∈ dimensions cs
  · have hword := untilZero_prod_le (dimensions cs)
    have hword' := untilZero_prod_le (dimensions cs')
    rw [(hperm.filter _).prod_eq] at hword'
    rw [if_pos (Nat.lt_of_le_of_lt hword (h hzero)), if_pos (Nat.lt_of_le_of_lt hword' (h hzero))]
  · have hzero' : 0 ∉ dimensions cs' := fun hmem => hzero (hperm.mem_iff.mp hmem)
    rw [untilZero_eq_self hzero, untilZero_eq_self hzero', hperm.prod_eq]

/-- The number of elements is the product of the dimensions, saturated, exactly if the product of those
before the first zero is a word or none of them is zero. It depends on the order of the dimensions exactly
if one of them is zero and the product of the others is no word. -/
theorem arrayLength_exact (cs : List Char) : ∃ ns, (∀ ms, HasDimensions cs ms ↔ ms = ns) ∧
    arrayLength cs = (if (untilZero ns).prod < wordBound then ns.prod else wordBound - 1) ∧
    (arrayLength cs = saturatedProduct ns ↔ (0 ∈ ns → (untilZero ns).prod < wordBound)) ∧
    ((∀ cs' ms, HasDimensions cs' ms → ms.Perm ns → arrayLength cs' = arrayLength cs) ↔
      (0 ∈ ns → (ns.filter (· ≠ 0)).prod < wordBound)) := by
  refine ⟨dimensions cs, fun ms => hasDimensions_iff, arrayLength_eq cs, arrayLength_eq_saturated, ?_⟩
  constructor
  · intro hsame hzero
    by_contra hlarge
    have hwords : ∀ n ∈ dimensions cs, n < wordBound := fun n => lt_of_mem_dimensions
    have hreads {ms : List Nat} (hperm : ms.Perm (dimensions cs)) :
        HasDimensions (dimensionsText ms) ms := by
      refine hasDimensions_iff.mpr (dimensions_dimensionsText fun n hn => ?_).symm
      exact hwords n (hperm.mem_iff.mp hn)
    obtain ⟨ms, ms', hfirst, hlast, hnone, hmax⟩ :=
      zeros_first_last hzero hwords (Nat.le_of_not_lt hlarge)
    have heq := hsame _ _ (hreads hfirst) hfirst
    have heq' := hsame _ _ (hreads hlast) hlast
    rw [← heq, hnone, hmax] at heq'
    exact absurd heq' (by decide)
  · intro h cs' ms hms hperm
    rw [hasDimensions_iff.mp hms] at hperm
    exact arrayLength_perm hperm h

theorem arrayLength_zero_last :
    let cs := "a[4294967296][4294967296][0]".toList
    let cs' := "a[0][4294967296][4294967296]".toList
    HasDimensions cs [4294967296, 4294967296, 0] ∧
      saturatedProduct [4294967296, 4294967296, 0] = 0 ∧ arrayLength cs = wordBound - 1 ∧
      HasDimensions cs' [0, 4294967296, 4294967296] ∧ arrayLength cs' = 0 := by
  simp only [hasDimensions_iff]
  decide +kernel

end ByteGrid
