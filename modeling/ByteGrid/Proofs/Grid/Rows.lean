import ByteGrid.Grid
import Mathlib.Data.Nat.Init

namespace ByteGrid

variable {l : Layout} {total width : Nat}

theorem rowsFor_zero (width : Nat) : rowsFor 0 width = 0 := by
  unfold rowsFor
  split
  · rfl
  · exact Nat.div_eq_of_lt (by omega)

theorem rowsFor_succ (ht : 0 < total) (hw : 0 < width) :
    rowsFor total width = rowsFor (total - width) width + 1 := by
  rw [rowsFor, rowsFor, if_neg (by omega), if_neg (by omega)]
  rcases Nat.le_total width total with hle | hle
  · rw [show total + width - 1 = total - width + width - 1 + width by omega,
      Nat.add_div_right _ hw]
  · rw [Nat.sub_eq_zero_of_le hle, Nat.zero_add, Nat.div_eq_of_lt (show width - 1 < width by omega),
      show total + width - 1 = total - 1 + width by omega, Nat.add_div_right _ hw,
      Nat.div_eq_of_lt (by omega)]

theorem lt_rowsFor (hw : 0 < width) {i : Nat} : i < rowsFor total width ↔ i * width < total := by
  rw [rowsFor, if_neg (by omega), Nat.lt_iff_add_one_le, Nat.le_div_iff_mul_le hw, Nat.succ_mul]
  omega

theorem rowsFrom_eq (style : GridStyle) (hw : 0 < l.rowWidth) (start : Nat) :
    style.rowsFrom l start = (List.range (rowsFor (l.totalSize - start) l.rowWidth)).map fun i =>
      style.row l (start + i * l.rowWidth)
        (min (start + i * l.rowWidth + l.rowWidth) l.totalSize) := by
  induction hn : l.totalSize - start using Nat.strong_induction_on generalizing start with
  | _ n ih =>
    subst hn
    rw [GridStyle.rowsFrom]
    by_cases hlt : start < l.totalSize
    · have hrest := ih (l.totalSize - (start + l.rowWidth)) (by omega) (start + l.rowWidth) rfl
      rw [dif_pos ⟨hlt, hw⟩, hrest, rowsFor_succ (show 0 < l.totalSize - start by omega) hw,
        List.range_succ_eq_map, List.map_cons, List.map_map, Nat.sub_sub]
      congr 1
      · simp
      · apply List.map_congr_left
        intro i _
        have hi : start + l.rowWidth + i * l.rowWidth = start + (i + 1) * l.rowWidth := by
          rw [Nat.succ_mul]
          omega
        simp only [Function.comp_apply, hi]
    · rw [dif_neg (fun h => hlt h.1), Nat.sub_eq_zero_of_le (by omega), rowsFor_zero]
      rfl

theorem rows_length (style : GridStyle) (hw : 0 < l.rowWidth) :
    (style.rows l).length = l.usage.rowCount := by
  rw [GridStyle.rows, rowsFrom_eq style hw, List.length_map, List.length_range, Nat.sub_zero]
  rfl

theorem getElem?_rows (style : GridStyle) (hw : 0 < l.rowWidth) {i : Nat} {r : Row} :
    (style.rows l)[i]? = some r ↔ i * l.rowWidth < l.totalSize ∧
      r = style.row l (i * l.rowWidth) (min ((i + 1) * l.rowWidth) l.totalSize) := by
  rw [GridStyle.rows, rowsFrom_eq style hw, List.getElem?_map, Option.map_eq_some_iff]
  simp only [Nat.sub_zero, Nat.zero_add, Nat.succ_mul, List.getElem?_eq_some_iff, List.length_range,
    List.getElem_range, lt_rowsFor hw]
  constructor
  · rintro ⟨_, ⟨hi, rfl⟩, rfl⟩
    exact ⟨hi, rfl⟩
  · rintro ⟨hi, rfl⟩
    exact ⟨i, ⟨hi, rfl⟩, rfl⟩

theorem mem_rows (style : GridStyle) (hw : 0 < l.rowWidth) {r : Row} :
    r ∈ style.rows l ↔ ∃ i, i * l.rowWidth < l.totalSize ∧
      r = style.row l (i * l.rowWidth) (min ((i + 1) * l.rowWidth) l.totalSize) := by
  simp only [List.mem_iff_getElem?, getElem?_rows style hw]

theorem row_of_byte (hw : 0 < width) {i b : Nat} (hb : b < total) :
    i * width ≤ b ∧ b < min ((i + 1) * width) total ↔ i = b / width := by
  have hdiv := Nat.div_add_mod b width
  have hmod := Nat.mod_lt b hw
  constructor
  · rintro ⟨hle, hlt⟩
    refine (Nat.div_eq_of_lt_le hle ?_).symm
    omega
  · rintro rfl
    rw [Nat.succ_mul, Nat.mul_comm]
    omega

end ByteGrid
