import Mathlib.Data.List.Basic
import ByteGrid.Proofs.Source.Braces

namespace ByteGrid

variable {depth n : Nat} {bs : List Brace} {hit : BraceHit}

/-- Whether braces close as many braces as are open before them, and all that they open themselves. -/
def closes : Nat → List Brace → Bool
  | depth, [] => depth == 0
  | depth, .opening :: bs => closes (depth + 1) bs
  | 0, .closing :: _ => false
  | depth + 1, .closing :: bs => closes depth bs

def Balanced (hits : List BraceHit) : Prop :=
  closes 0 (hits.map (·.brace)) = true

instance (hits : List BraceHit) : Decidable (Balanced hits) :=
  inferInstanceAs (Decidable (_ = _))

theorem closes_rest {front : List Brace} (h : closes depth (front ++ bs) = true) :
    ∃ n, closes n bs = true := by
  induction front generalizing depth with
  | nil => exact ⟨depth, h⟩
  | cons b front ih =>
    cases b with
    | opening => exact ih h
    | closing =>
      cases depth with
      | zero => cases h
      | succ depth => exact ih h

theorem closes_split (h : closes (n + 1 + depth) bs = true) :
    ∃ inner rest, bs = inner ++ .closing :: rest ∧ closes depth inner = true := by
  induction bs generalizing depth with
  | nil => simp [closes] at h
  | cons b bs ih =>
    cases b with
    | opening =>
      obtain ⟨inner, rest, rfl, hinner⟩ := @ih (depth + 1) h
      exact ⟨.opening :: inner, rest, rfl, hinner⟩
    | closing =>
      cases depth with
      | zero => exact ⟨[], bs, rfl, rfl⟩
      | succ depth =>
        obtain ⟨inner, rest, rfl, hinner⟩ := ih h
        exact ⟨.closing :: inner, rest, rfl, hinner⟩

theorem Balanced.partner {front hits : List BraceHit} {opening : BraceHit}
    (h : Balanced (front ++ opening :: hits)) (hopening : opening.brace = .opening) :
    ∃ inner closing rest, hits = inner ++ closing :: rest ∧ Balanced inner ∧
      closing.brace = .closing := by
  rw [Balanced, List.map_append, List.map_cons, hopening] at h
  obtain ⟨n, hrest⟩ := closes_rest h
  obtain ⟨inner, rest, heq, hinner⟩ := @closes_split 0 n _ hrest
  obtain ⟨inner, behind, rfl, rfl, hbehind⟩ := List.map_eq_append_iff.mp heq
  obtain ⟨closing, rest, rfl, hclosing, -⟩ := List.map_eq_cons_iff.mp hbehind
  exact ⟨inner, closing, rest, rfl, hinner, hclosing⟩

namespace Scanner

variable {s : Scanner} {skipped inner rest : List BraceHit}

theorem ahead_cons (h : s.next.1 = some hit) : s.ahead = hit :: s.next.2.ahead := by
  rw [next_eq_head, List.head?_eq_some_iff] at h
  obtain ⟨hits, hahead⟩ := h
  rw [next_ahead, hahead, List.tail_cons]

theorem findOpening_ahead (h : s.findOpening.1 = some hit) :
    ∃ skipped, s.ahead = skipped ++ hit :: s.findOpening.2.ahead ∧
      (∀ passed ∈ skipped, passed.brace = .closing) ∧ hit.brace = .opening := by
  fun_induction findOpening s with
  | case1 s hnone => cases h
  | case2 s found hfound hopening =>
    cases h
    exact ⟨[], ahead_cons hfound, nofun, hopening⟩
  | case3 s found hfound hclosing ih =>
    obtain ⟨skipped, heq, hskipped, hopening⟩ := ih h
    refine ⟨found :: skipped, ?_, List.forall_mem_cons.mpr ⟨?_, hskipped⟩, hopening⟩
    · rw [ahead_cons hfound, heq, List.cons_append]
    · cases hbrace : found.brace with
      | opening => exact absurd hbrace hclosing
      | closing => rfl

theorem next_of_ahead {hits : List BraceHit} (h : s.ahead = hit :: hits) :
    s.next.1 = some hit ∧ s.next.2.ahead = hits := by
  rw [next_eq_head, next_ahead, h]
  exact ⟨rfl, rfl⟩

theorem findOpening_of_ahead {hits : List BraceHit} (h : s.ahead = hit :: hits) :
    s.findOpening =
      if hit.brace = .opening then (some hit, s.next.2) else s.next.2.findOpening := by
  obtain ⟨hnext, -⟩ := next_of_ahead h
  rw [findOpening]
  split
  · rename_i hnone
    rw [hnext] at hnone
    cases hnone
  · rename_i found hfound
    rw [hnext] at hfound
    cases hfound
    rfl

theorem findOpening_eq (h : s.ahead = skipped ++ hit :: rest)
    (hskipped : ∀ passed ∈ skipped, passed.brace = .closing) (hopening : hit.brace = .opening) :
    s.findOpening = (some hit, s.after (skipped.length + 1)) := by
  induction skipped generalizing s with
  | nil => exact (findOpening_of_ahead h).trans (if_pos hopening)
  | cons first skipped ih =>
    obtain ⟨hfirst, hskipped⟩ := List.forall_mem_cons.mp hskipped
    have hnot : first.brace ≠ .opening := by rw [hfirst]; exact nofun
    rw [findOpening_of_ahead h, if_neg hnot]
    exact ih (next_of_ahead h).2 hskipped

theorem findOpening_of_skipped (h : s.ahead = skipped ++ hit :: rest)
    (hskipped : ∀ passed ∈ skipped, passed.brace = .closing) (hopening : hit.brace = .opening) :
    s.findOpening.1 = some hit ∧ s.findOpening.2.ahead = rest := by
  rw [findOpening_eq h hskipped hopening, after_ahead, h, ← List.drop_drop, List.drop_left]
  exact ⟨rfl, rfl⟩

theorem findClosing_of_ahead {hits : List BraceHit} (h : s.ahead = hit :: hits) :
    s.findClosing depth = match hit.brace with
      | .opening => s.next.2.findClosing (depth + 1)
      | .closing => if depth ≤ 1 then (some hit, s.next.2) else s.next.2.findClosing (depth - 1) := by
  obtain ⟨hnext, -⟩ := next_of_ahead h
  rw [findClosing]
  split
  · rename_i hnone
    rw [hnext] at hnone
    cases hnone
  · rename_i found hfound
    rw [hnext] at hfound
    cases hfound
    rfl

theorem findClosing_of_closes (h : s.ahead = inner ++ hit :: rest)
    (hinner : closes depth (inner.map (·.brace)) = true) (hclosing : hit.brace = .closing) :
    s.findClosing (depth + 1) = (some hit, s.after (inner.length + 1)) := by
  induction inner generalizing s depth with
  | nil =>
    obtain rfl : depth = 0 := by simpa [closes] using hinner
    rw [findClosing_of_ahead h, hclosing]
    rfl
  | cons first inner ih =>
    have hbehind := (next_of_ahead h).2
    rw [findClosing_of_ahead h]
    cases hfirst : first.brace with
    | opening =>
      rw [List.map_cons, hfirst] at hinner
      exact ih hbehind hinner
    | closing =>
      rw [List.map_cons, hfirst] at hinner
      cases depth with
      | zero => cases hinner
      | succ depth => exact ih hbehind hinner

theorem findClosing_ahead (h : (s.findClosing (depth + 1)).1 = some hit) :
    ∃ inner rest, s.ahead = inner ++ hit :: rest ∧ closes depth (inner.map (·.brace)) = true ∧
      hit.brace = .closing := by
  -- the count of open braces is a variable in the recursion, so it is named before the induction
  generalize hn : depth + 1 = n at h
  fun_induction findClosing n s generalizing depth with
  | case1 n s hnone => cases h
  | case2 n s found hfound hopening ih =>
    obtain ⟨inner, rest, heq, hinner, hclosing⟩ := @ih (depth + 1) (congrArg (· + 1) hn) h
    refine ⟨found :: inner, rest, by rw [ahead_cons hfound, heq, List.cons_append], ?_, hclosing⟩
    rwa [List.map_cons, hopening]
  | case3 n s found hfound hclosing hle =>
    cases h
    obtain rfl : depth = 0 := by omega
    exact ⟨[], _, ahead_cons hfound, rfl, hclosing⟩
  | case4 n s found hfound hclosing hlt ih =>
    obtain ⟨outer, rfl⟩ : ∃ outer, depth = outer + 1 := ⟨depth - 1, by omega⟩
    obtain ⟨inner, rest, heq, hinner, hlast⟩ := @ih outer (by omega) h
    refine ⟨found :: inner, rest, by rw [ahead_cons hfound, heq, List.cons_append], ?_, hlast⟩
    rwa [List.map_cons, hclosing]

theorem findMatching_eq_some_iff : s.findMatching.1 = some hit ↔
    ∃ inner rest, s.ahead = inner ++ hit :: rest ∧ Balanced inner ∧ hit.brace = .closing :=
  ⟨findClosing_ahead, fun ⟨_, _, h, hinner, hclosing⟩ =>
    congrArg Prod.fst (findClosing_of_closes h hinner hclosing)⟩

theorem find_of_ahead {closing : BraceHit} {hits : List BraceHit}
    (h : s.ahead = hit :: closing :: hits) (hopening : hit.brace = .opening)
    (hclosing : closing.brace = .closing) : s.findOpening.1 = some hit ∧
      s.findOpening.2.next.1 = some closing ∧ s.findOpening.2.findMatching.1 = some closing := by
  obtain ⟨hfound, hbehind⟩ := @findOpening_of_skipped hit s [] (closing :: hits) h nofun hopening
  exact ⟨hfound, (next_of_ahead hbehind).1,
    findMatching_eq_some_iff.mpr ⟨[], hits, hbehind, rfl, hclosing⟩⟩

end Scanner

def IsBody (opening closing : BraceHit) (hits : List BraceHit) : Prop :=
  ∃ skipped inner rest, hits = skipped ++ opening :: (inner ++ closing :: rest) ∧
    (∀ passed ∈ skipped, passed.brace = .closing) ∧ opening.brace = .opening ∧ Balanced inner ∧
    closing.brace = .closing

variable {front hits : List BraceHit} {opening closing : BraceHit}

theorem IsBody.skip (hfront : ∀ passed ∈ front, passed.brace = .closing)
    (h : IsBody opening closing hits) : IsBody opening closing (front ++ hits) := by
  obtain ⟨skipped, inner, rest, rfl, hskipped, hbody⟩ := h
  exact ⟨front ++ skipped, inner, rest, (List.append_assoc _ _ _).symm,
    List.forall_mem_append.mpr ⟨hfront, hskipped⟩, hbody⟩

theorem first_opening (front : List BraceHit) : (∀ passed ∈ front, passed.brace = .closing) ∨
    ∃ skipped opening rest, front = skipped ++ opening :: rest ∧
      (∀ passed ∈ skipped, passed.brace = .closing) ∧ opening.brace = .opening := by
  induction front with
  | nil => exact .inl nofun
  | cons hit front ih =>
    cases hbrace : hit.brace with
    | opening => exact .inr ⟨[], hit, front, rfl, nofun, hbrace⟩
    | closing =>
      rcases ih with hfront | ⟨skipped, opening, rest, rfl, hskipped, hopening⟩
      · exact .inl (List.forall_mem_cons.mpr ⟨hbrace, hfront⟩)
      · exact .inr ⟨hit :: skipped, opening, rest, rfl,
          List.forall_mem_cons.mpr ⟨hbrace, hskipped⟩, hopening⟩

theorem Balanced.isBody {before : List BraceHit} (h : Balanced (before ++ front)) :
    (∀ passed ∈ front, passed.brace = .closing) ∨
      ∃ opening closing, closing ∈ front ∧ ∀ hits, IsBody opening closing (front ++ hits) := by
  rcases first_opening front with hfront | ⟨skipped, opening, rest, rfl, hskipped, hopening⟩
  · exact .inl hfront
  · rw [← List.append_assoc] at h
    obtain ⟨inner, closing, rest, rfl, hinner, hclosing⟩ := h.partner hopening
    exact .inr ⟨opening, closing, by simp, fun hits =>
      ⟨skipped, inner, rest ++ hits, by simp, hskipped, hopening, hinner, hclosing⟩⟩

end ByteGrid
