import Mathlib.Algebra.GroupWithZero.Nat
import Mathlib.Data.List.Basic
import ByteGrid.Grid.Text

namespace ByteGrid

open ByteGrid.Text

variable {sign : Char} {lead : List Char} {inside : Cell → List Char} {cells : List Cell} {c : Cell}
  {start i j k : Nat}

/-- The columns of the separators: one before each cell, and one behind the last. -/
def separators (start : Nat) : List Cell → List Nat
  | [] => [start]
  | c :: cs => start :: separators (start + c.width) cs

theorem separators_length : (separators start cells).length = cells.length + 1 := by
  induction cells generalizing start with
  | nil => rfl
  | cons c cells ih => rw [separators, List.length_cons, ih, List.length_cons]

theorem le_of_mem_separators (h : k ∈ separators start cells) : start ≤ k := by
  induction cells generalizing start with
  | nil => simp_all [separators]
  | cons c cells ih =>
    rcases List.mem_cons.mp h with rfl | h
    · exact Nat.le_refl _
    · exact Nat.le_trans (Nat.le_add_right _ _) (ih h)

theorem separators_pairwise (hwidth : ∀ c ∈ cells, 1 ≤ c.width) :
    (separators start cells).Pairwise (· < ·) := by
  induction cells generalizing start with
  | nil => exact List.pairwise_singleton _ _
  | cons c cells ih =>
    obtain ⟨hc, hcells⟩ := List.forall_mem_cons.mp hwidth
    apply List.Pairwise.cons _ (ih hcells)
    intro k hk
    have hle := le_of_mem_separators hk
    omega

theorem separators_succ (hc : cells[i]? = some c) (hk : (separators start cells)[i]? = some k) :
    (separators start cells)[i + 1]? = some (k + c.width) := by
  induction cells generalizing start i with
  | nil => simp at hc
  | cons d cells ih =>
    rw [separators] at hk ⊢
    rw [List.getElem?_cons_succ]
    cases i with
    | zero =>
      cases hc
      cases hk
      cases cells <;> rfl
    | succ i => exact ih hc hk

def cellLine (sign : Char) (inside : Cell → List Char) (cells : List Cell) : List Char :=
  cells.flatMap (fun c => sign :: inside c) ++ [sign]

theorem cellLine_cons : cellLine sign inside (c :: cells) =
    (sign :: inside c) ++ cellLine sign inside cells := by
  rw [cellLine, List.flatMap_cons, List.append_assoc]
  rfl

def Fills (inside : Cell → List Char) (cells : List Cell) : Prop :=
  ∀ c ∈ cells, (inside c).length + 1 = c.width

theorem cellLine_length (h : Fills inside cells) :
    (cellLine sign inside cells).length = (cells.map Cell.width).sum + 1 := by
  induction cells with
  | nil => rfl
  | cons c cells ih =>
    obtain ⟨hc, hcells⟩ := List.forall_mem_cons.mp h
    rw [cellLine_cons, List.length_append, List.length_cons, hc, ih hcells, List.map_cons, List.sum_cons,
      Nat.add_assoc]

theorem cellLine_separator (h : Fills inside cells) (hj : start + j ∈ separators start cells) :
    (cellLine sign inside cells)[j]? = some sign := by
  induction cells generalizing start j with
  | nil =>
    have heq := List.mem_singleton.mp hj
    obtain rfl : j = 0 := by omega
    rfl
  | cons c cells ih =>
    obtain ⟨hc, hcells⟩ := List.forall_mem_cons.mp h
    rcases List.mem_cons.mp hj with heq | hj
    · obtain rfl : j = 0 := by omega
      rfl
    · have hle := le_of_mem_separators hj
      obtain ⟨n, rfl⟩ : ∃ n, j = c.width + n := ⟨j - c.width, by omega⟩
      rw [← Nat.add_assoc] at hj
      rw [cellLine_cons, List.getElem?_append_right (by simp; omega), List.length_cons, hc,
        Nat.add_sub_cancel_left]
      exact ih hcells hj

theorem separator_of_sign (h : Fills inside cells) (hinside : ∀ c ∈ cells, sign ∉ inside c)
    (hj : (cellLine sign inside cells)[j]? = some sign) : start + j ∈ separators start cells := by
  induction cells generalizing start j with
  | nil =>
    obtain ⟨hlt, -⟩ := List.getElem?_eq_some_iff.mp hj
    obtain rfl : j = 0 := Nat.lt_one_iff.mp hlt
    exact .head _
  | cons c cells ih =>
    obtain ⟨hc, hcells⟩ := List.forall_mem_cons.mp h
    obtain ⟨hnone, hinside⟩ := List.forall_mem_cons.mp hinside
    rw [cellLine_cons] at hj
    cases j with
    | zero => exact .head _
    | succ n =>
      rcases Nat.lt_or_ge n (inside c).length with hlt | hge
      · rw [List.getElem?_append_left (by simpa using hlt), List.getElem?_cons_succ] at hj
        exact absurd (List.mem_of_getElem? hj) hnone
      · rw [List.getElem?_append_right (by simpa using hge), List.length_cons, hc] at hj
        have hlater := @ih (start + c.width) _ hcells hinside hj
        have hindex : start + c.width + (n + 1 - c.width) = start + (n + 1) := by omega
        rw [hindex] at hlater
        exact .tail _ hlater

theorem cellLine_cell (h : Fills inside cells) (hc : cells[i]? = some c)
    (hj : (separators start cells)[i]? = some (start + j)) :
    ((cellLine sign inside cells).drop (j + 1)).take (inside c).length = inside c := by
  induction cells generalizing start i j with
  | nil => simp at hc
  | cons d cells ih =>
    obtain ⟨hd, hcells⟩ := List.forall_mem_cons.mp h
    rw [cellLine_cons]
    cases i with
    | zero =>
      cases hc
      have heq : start = start + j := Option.some.inj hj
      obtain rfl : j = 0 := by omega
      exact List.take_left
    | succ i =>
      rw [separators, List.getElem?_cons_succ] at hj
      have hle := le_of_mem_separators (List.mem_of_getElem? hj)
      obtain ⟨n, rfl⟩ : ∃ n, j = d.width + n := ⟨j - d.width, by omega⟩
      rw [← Nat.add_assoc] at hj
      have hdrop : ((sign :: inside d) ++ cellLine sign inside cells).drop (d.width + n + 1) =
          (cellLine sign inside cells).drop (n + 1) := by
        rw [Nat.add_assoc, ← hd, ← @List.length_cons _ sign, List.drop_length_add_append]
      rw [hdrop]
      exact ih hcells hc hj

theorem cellsFrom_spec (g : Grid) (column : Float → Nat) (r : Row) (cursor : Nat) (ss : List Segment) :
    (g.cellsFrom column r cursor ss).map Cell.segment = ss ∧
      ∀ c ∈ g.cellsFrom column r cursor ss, 1 ≤ c.width := by
  induction ss generalizing cursor with
  | nil => exact ⟨rfl, nofun⟩
  | cons s ss ih =>
    simp only [Grid.cellsFrom, List.map_cons, List.forall_mem_cons]
    obtain ⟨hsegments, hwidths⟩ := ih (max (column (g.segmentX r s + g.segmentWidth s))
      (max (column (g.segmentX r s)) cursor + 1))
    exact ⟨congrArg (s :: ·) hsegments, by omega, hwidths⟩

theorem toList_pushn (c : Char) (n : Nat) : ("".pushn c n).toList = List.replicate n c := by
  rw [String.pushn_eq_repeat_push]
  induction n with
  | zero => rfl
  | succ n ih => rw [Nat.repeat, String.toList_push, ih, List.replicate_succ']

theorem toList_fit (text : String) (width : Nat) : (fit text width).toList =
    text.toList.take width ++ List.replicate (width - text.length) ' ' := by
  rw [fit, String.toList_ofList, List.length_take, String.length_toList]
  congr 2
  omega

theorem fit_length (text : String) (width : Nat) : (fit text width).toList.length = width := by
  rw [toList_fit, List.length_append, List.length_take, List.length_replicate, String.length_toList]
  omega

theorem fills_of_inner (hwidth : ∀ c ∈ cells, 1 ≤ c.width)
    (h : ∀ c, (inside c).length = c.inner) : Fills inside cells := by
  intro c hc
  have hpos := hwidth c hc
  rw [h c, Cell.inner]
  omega

theorem toList_borderOf (cells : List Cell) :
    (borderOf cells).toList = cellLine '+' (fun c => List.replicate c.inner '-') cells := by
  rw [borderOf, String.toList_append, String.toList_join, List.flatMap_map]
  simp only [String.toList_append, toList_pushn]
  rfl

theorem toList_textLine (g : Grid) (colors : Bool) (cells : List Cell) (line : Nat) :
    (g.textLine colors cells line).toList =
      cellLine '|' (fun c =>
        (paint colors (g.cellInk c.segment) (fit (g.cellText c line) c.inner)).toList) cells := by
  rw [Grid.textLine, String.toList_append, String.toList_join, List.flatMap_map]
  simp only [String.toList_append]
  rfl

theorem border_separators (lead : Nat) (hwidth : ∀ c ∈ cells, 1 ≤ c.width) :
    ("".pushn ' ' lead ++ borderOf cells).length = lead + (cells.map Cell.width).sum + 1 ∧
      ∀ k, ("".pushn ' ' lead ++ borderOf cells).toList[k]? = some '+' ↔
        k ∈ separators lead cells := by
  have hfills : Fills (fun c => List.replicate c.inner '-') cells :=
    fills_of_inner hwidth fun c => List.length_replicate
  rw [← String.length_toList, String.toList_append, toList_pushn, toList_borderOf]
  constructor
  · rw [List.length_append, List.length_replicate, cellLine_length hfills, Nat.add_assoc]
  · intro k
    rcases Nat.lt_or_ge k lead with hlt | hge
    · rw [List.getElem?_append_left (by simpa using hlt), List.getElem?_replicate, if_pos hlt]
      refine iff_of_false (by decide) fun hk => ?_
      exact absurd (le_of_mem_separators hk) (Nat.not_le.mpr hlt)
    · obtain ⟨j, rfl⟩ := Nat.exists_eq_add_of_le hge
      rw [List.getElem?_append_right (by simp), List.length_replicate, Nat.add_sub_cancel_left]
      constructor
      · apply separator_of_sign hfills
        intro c _ hmem
        exact absurd (List.eq_of_mem_replicate hmem) (by decide)
      · exact cellLine_separator hfills

theorem text_separators (g : Grid) (lead : String) (line : Nat) (hwidth : ∀ c ∈ cells, 1 ≤ c.width) :
    let text := lead ++ g.textLine false cells line
    text.length = lead.length + (cells.map Cell.width).sum + 1 ∧
    (∀ k ∈ separators lead.length cells, text.toList[k]? = some '|') ∧
    ∀ (i : Nat) (c : Cell) (k : Nat), cells[i]? = some c →
      (separators lead.length cells)[i]? = some k →
      (text.toList.drop (k + 1)).take c.inner = (fit (g.cellText c line) c.inner).toList := by
  intro text
  have hfills : Fills (fun c => (fit (g.cellText c line) c.inner).toList) cells :=
    fills_of_inner hwidth fun c => fit_length _ _
  have htext : text.toList =
      lead.toList ++ cellLine '|' (fun c => (fit (g.cellText c line) c.inner).toList) cells := by
    rw [String.toList_append, toList_textLine]
    rfl
  have hlead : lead.toList.length = lead.length := String.length_toList
  refine ⟨?_, ?_, ?_⟩
  · rw [← String.length_toList, htext, List.length_append, cellLine_length hfills, hlead, Nat.add_assoc]
  · intro k hk
    obtain ⟨j, rfl⟩ := Nat.exists_eq_add_of_le (le_of_mem_separators hk)
    rw [htext, List.getElem?_append_right (by omega), hlead, Nat.add_sub_cancel_left]
    exact cellLine_separator hfills hk
  · intro i c k hc hk
    obtain ⟨j, rfl⟩ := Nat.exists_eq_add_of_le (le_of_mem_separators (List.mem_of_getElem? hk))
    have hcell := @cellLine_cell '|' _ _ _ _ _ _ hfills hc hk
    rw [fit_length] at hcell
    rw [htext, Nat.add_assoc, ← hlead, List.drop_length_add_append, hcell]

theorem rowLines_aligned (offsets : Bool) (column : Float → Nat) (g : Grid) (r : Row) :
    let style : TextStyle := { colors := false, offsets, column }
    let cells := g.cells column r
    let columns := separators (style.offsetText r).length cells
    cells.map Cell.segment = r.segments ∧ (∀ c ∈ cells, 1 ≤ c.width) ∧
    columns.length = r.segments.length + 1 ∧ columns.Pairwise (· < ·) ∧
    ∃ border texts, style.rowLines g r = border :: (texts ++ [border]) ∧
      texts.length = 1 + g.bitLines r ∧ (∀ text ∈ texts, text.length = border.length) ∧
      (∀ k, border.toList[k]? = some '+' ↔ k ∈ columns) ∧
      ∀ (line : Nat) (text : String), texts[line]? = some text →
        (∀ k ∈ columns, text.toList[k]? = some '|') ∧
        ∀ (i : Nat) (c : Cell) (k : Nat), cells[i]? = some c → columns[i]? = some k →
          columns[i + 1]? = some (k + c.width) ∧
          (text.toList.drop (k + 1)).take (c.width - 1) =
            (g.cellText c line).toList.take (c.width - 1) ++
              List.replicate (c.width - 1 - (g.cellText c line).length) ' ' := by
  intro style cells columns
  obtain ⟨hsegments, hwidths⟩ : cells.map Cell.segment = r.segments ∧ ∀ c ∈ cells, 1 ≤ c.width :=
    cellsFrom_spec g column r 0 r.segments
  have hcolumns : columns.length = r.segments.length + 1 := by
    rw [separators_length, ← hsegments, List.length_map]
  let blank := "".pushn ' ' (style.offsetText r).length
  let lead (line : Nat) : String := if line = 0 then style.offsetText r else blank
  have hlead (line : Nat) : (lead line).length = (style.offsetText r).length := by
    by_cases hline : line = 0
    · simp [lead, hline]
    · simp [lead, hline, blank]
  obtain ⟨hborder, hsigns⟩ := border_separators (style.offsetText r).length hwidths
  refine ⟨hsegments, hwidths, hcolumns, separators_pairwise hwidths, blank ++ borderOf cells,
    (List.range (1 + g.bitLines r)).map fun line => lead line ++ g.textLine false cells line,
    rfl, by simp, ?_, hsigns, ?_⟩
  · intro text htext
    obtain ⟨line, -, rfl⟩ := List.mem_map.mp htext
    rw [hborder, (text_separators g (lead line) line hwidths).1, hlead]
  · intro line text htext
    rw [List.getElem?_map, Option.map_eq_some_iff] at htext
    obtain ⟨n, hn, rfl⟩ := htext
    obtain ⟨_, hn⟩ := List.getElem?_eq_some_iff.mp hn
    rw [List.getElem_range] at hn
    subst hn
    obtain ⟨-, hseparators, hcells⟩ := text_separators g (lead line) line hwidths
    rw [hlead] at hseparators hcells
    refine ⟨hseparators, fun i c k hc hk => ⟨separators_succ hc hk, ?_⟩⟩
    rw [← toList_fit]
    exact hcells i c k hc hk

end ByteGrid
