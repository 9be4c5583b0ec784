import Mathlib.Data.List.TakeDrop
import ByteGrid.Proofs.Source.Bodies

namespace ByteGrid

variable {depth k : Nat} {bs : List Brace} {hit : BraceHit} {hits : List BraceHit}

def countOf (b : Brace) (hits : List BraceHit) : Nat :=
  (hits.map (·.brace)).count b

/-- With this brace, and not before, more braces are closed than opened. -/
def FirstExcess (hits : List BraceHit) (k : Nat) : Prop :=
  countOf .opening (hits.take (k + 1)) < countOf .closing (hits.take (k + 1)) ∧
    ∀ j ≤ k, countOf .closing (hits.take j) ≤ countOf .opening (hits.take j)

theorem closes_iff : closes depth bs = true ↔ bs.count .closing = depth + bs.count .opening ∧
    ∀ j, (bs.take j).count .closing ≤ depth + (bs.take j).count .opening := by
  induction bs generalizing depth with
  | nil =>
    simp only [closes, beq_iff_eq, List.take_nil, List.count_nil, Nat.zero_le, implies_true, and_true]
    exact eq_comm
  | cons b bs ih =>
    -- the empty part of the braces says nothing, so only parts with the first brace are compared
    have hparts (p : List Brace → Prop) (hp : p []) :
        (∀ j, p ((b :: bs).take j)) ↔ ∀ j, p (b :: bs.take j) := by
      refine ⟨fun h j => h (j + 1), fun h j => ?_⟩
      cases j with
      | zero => exact hp
      | succ j => exact h j
    rw [hparts (fun part => part.count .closing ≤ depth + part.count .opening) (Nat.zero_le _)]
    cases b with
    | opening => simp [closes, ih, Nat.add_comm, Nat.add_left_comm]
    | closing =>
      cases depth with
      | zero =>
        refine iff_of_false Bool.false_ne_true fun h => ?_
        have hfirst := h.2 0
        simp at hfirst
      | succ depth => simp [closes, ih, Nat.succ_add]

theorem balanced_iff : Balanced hits ↔ countOf .closing hits = countOf .opening hits ∧
    ∀ j, countOf .closing (hits.take j) ≤ countOf .opening (hits.take j) := by
  simp [Balanced, closes_iff, countOf]

theorem countOf_take_succ (b : Brace) (h : hits[k]? = some hit) :
    countOf b (hits.take (k + 1)) = countOf b (hits.take k) + if hit.brace = b then 1 else 0 := by
  rw [List.take_add_one, h, countOf, List.map_append, List.count_append, countOf]
  simp [List.count_singleton]

theorem firstExcess_iff : FirstExcess hits k ↔
    ∃ hit, hits[k]? = some hit ∧ hit.brace = .closing ∧ Balanced (hits.take k) := by
  constructor
  · rintro ⟨hexcess, hbefore⟩
    have hhere := hbefore k (Nat.le_refl k)
    cases hhit : hits[k]? with
    | none =>
      rw [List.take_of_length_le (Nat.le_succ_of_le (List.getElem?_eq_none_iff.mp hhit))] at hexcess
      rw [List.take_of_length_le (List.getElem?_eq_none_iff.mp hhit)] at hhere
      omega
    | some hit =>
      rw [countOf_take_succ _ hhit, countOf_take_succ _ hhit] at hexcess
      cases hbrace : hit.brace with
      | opening =>
        simp only [hbrace, reduceCtorEq, if_true, if_false] at hexcess
        omega
      | closing =>
        simp only [hbrace, reduceCtorEq, if_true, if_false] at hexcess
        refine ⟨hit, rfl, hbrace, balanced_iff.mpr ⟨by omega, fun j => ?_⟩⟩
        rw [List.take_take]
        exact hbefore _ (Nat.min_le_right _ _)
  · rintro ⟨hit, hhit, hbrace, hbalanced⟩
    obtain ⟨heq, hparts⟩ := balanced_iff.mp hbalanced
    constructor
    · rw [countOf_take_succ _ hhit, countOf_take_succ _ hhit, hbrace]
      simp [heq]
    · intro j hj
      have hpart := hparts j
      rwa [List.take_take, Nat.min_eq_left hj] at hpart

namespace Scanner

variable {s t : Scanner}

/-- The search for a closing brace, with the depth lowered first and compared to zero then. A depth of
zero cannot be lowered. -/
def loweredClosing? (depth : Nat) (s : Scanner) : Option (Option BraceHit × Scanner) :=
  match _found : s.next.1 with
  | none => some (none, s.next.2)
  | some hit =>
    match hit.brace with
    | .opening => s.next.2.loweredClosing? (depth + 1)
    | .closing =>
      match depth with
      | 0 => none
      | lowered + 1 =>
        if lowered = 0 then some (some hit, s.next.2) else s.next.2.loweredClosing? lowered
termination_by s.size
decreasing_by all_goals exact next_size_lt _found

theorem loweredClosing?_of_ahead (h : s.ahead = hit :: hits) :
    s.loweredClosing? depth = match hit.brace with
      | .opening => s.next.2.loweredClosing? (depth + 1)
      | .closing =>
        match depth with
        | 0 => none
        | lowered + 1 =>
          if lowered = 0 then some (some hit, s.next.2) else s.next.2.loweredClosing? lowered := by
  obtain ⟨hnext, -⟩ := next_of_ahead h
  rw [loweredClosing?]
  split
  · rename_i hnone
    rw [hnext] at hnone
    cases hnone
  · rename_i found hfound
    rw [hnext] at hfound
    cases hfound
    rfl

theorem loweredClosing?_eq (depth : Nat) (s : Scanner) :
    s.loweredClosing? (depth + 1) = some (s.findClosing (depth + 1)) := by
  induction hahead : s.ahead generalizing s depth with
  | nil =>
    have hnone : s.next.1 = none := by rw [next_eq_head, hahead, List.head?_nil]
    have hlowered : s.loweredClosing? (depth + 1) = some (none, s.next.2) := by
      rw [loweredClosing?]
      split
      · rfl
      · simp_all
    rw [hlowered, findClosing]
    split
    · rfl
    · simp_all
  | cons hit hits ih =>
    obtain ⟨-, hbehind⟩ := next_of_ahead hahead
    rw [loweredClosing?_of_ahead hahead, findClosing_of_ahead hahead]
    cases hit.brace with
    | opening => exact ih _ _ hbehind
    | closing =>
      cases depth with
      | zero => rfl
      | succ depth => exact ih _ _ hbehind

theorem nextFrom_place {line column : Nat} {inComment : Bool} {ls : List (List Char)}
    (h : nextFrom line column inComment ls = (some hit, t)) :
    t.line = hit.line ∧ t.column = hit.column + 1 ∧ t.inComment = false := by
  induction ls generalizing line column inComment with
  | nil => cases h
  | cons cs ls ih =>
    rw [nextFrom] at h
    split at h
    · cases h
      exact ⟨rfl, rfl, rfl⟩
    · exact ih h

theorem split_ahead (h : s.ahead[k]? = some hit) :
    s.ahead = s.ahead.take k ++ hit :: s.ahead.drop (k + 1) ∧ (s.ahead.take k).length = k := by
  obtain ⟨hk, rfl⟩ := List.getElem?_eq_some_iff.mp h
  rw [← List.drop_eq_getElem_cons hk, List.take_append_drop, List.length_take]
  exact ⟨rfl, Nat.min_eq_left (Nat.le_of_lt hk)⟩

theorem getElem?_ahead {front rest : List BraceHit} (h : s.ahead = front ++ hit :: rest) :
    s.ahead[front.length]? = some hit ∧ s.ahead.take front.length = front := by
  rw [h, List.getElem?_append_right (Nat.le_refl _), Nat.sub_self, List.take_left]
  exact ⟨rfl, rfl⟩

theorem findMatching_eq_iff : s.findMatching = (some hit, t) ↔
    ∃ k, s.ahead[k]? = some hit ∧ FirstExcess s.ahead k ∧ t = s.after (k + 1) := by
  constructor
  · intro h
    obtain ⟨inner, rest, hahead, hinner, hclosing⟩ := findMatching_eq_some_iff.mp (congrArg Prod.fst h)
    obtain ⟨hhit, htake⟩ := getElem?_ahead hahead
    have heq := findClosing_of_closes hahead hinner hclosing
    refine ⟨inner.length, hhit, firstExcess_iff.mpr ⟨hit, hhit, hclosing, by rwa [htake]⟩, ?_⟩
    exact congrArg Prod.snd (h.symm.trans heq)
  · rintro ⟨k, hhit, hexcess, rfl⟩
    obtain ⟨hit', hhit', hclosing, hinner⟩ := firstExcess_iff.mp hexcess
    obtain rfl : hit = hit' := Option.some.inj (hhit.symm.trans hhit')
    obtain ⟨hahead, hlength⟩ := split_ahead hhit
    have heq := findClosing_of_closes hahead hinner hclosing
    rwa [hlength] at heq

theorem findOpening_eq_iff : s.findOpening = (some hit, t) ↔ ∃ k, s.ahead[k]? = some hit ∧
    hit.brace = .opening ∧ (∀ passed ∈ s.ahead.take k, passed.brace = .closing) ∧
    t = s.after (k + 1) := by
  constructor
  · intro h
    obtain ⟨skipped, hahead, hskipped, hopening⟩ := findOpening_ahead (congrArg Prod.fst h)
    obtain ⟨hhit, htake⟩ := getElem?_ahead hahead
    refine ⟨skipped.length, hhit, hopening, htake.symm ▸ hskipped, ?_⟩
    exact congrArg Prod.snd (h.symm.trans (findOpening_eq hahead hskipped hopening))
  · rintro ⟨k, hhit, hopening, hskipped, rfl⟩
    obtain ⟨hahead, hlength⟩ := split_ahead hhit
    have heq := findOpening_eq hahead hskipped hopening
    rwa [hlength] at heq

theorem findMatching_eq_none : s.findMatching.1 = none ↔ ∀ k, ¬FirstExcess s.ahead k := by
  constructor
  · intro h k hexcess
    obtain ⟨hit, hhit, -, -⟩ := firstExcess_iff.mp hexcess
    rw [findMatching_eq_iff.mpr ⟨k, hhit, hexcess, rfl⟩] at h
    cases h
  · intro h
    rw [Option.eq_none_iff_forall_not_mem]
    intro hit hfound
    obtain ⟨k, -, hexcess, -⟩ := findMatching_eq_iff.mp (Prod.ext hfound rfl)
    exact h k hexcess

theorem findOpening_eq_none :
    s.findOpening.1 = none ↔ ∀ passed ∈ s.ahead, passed.brace = .closing := by
  constructor
  · intro h
    rcases first_opening s.ahead with hclosing | ⟨skipped, opening, rest, hahead, hskipped, hopening⟩
    · exact hclosing
    · rw [findOpening_eq hahead hskipped hopening] at h
      cases h
  · intro h
    rw [Option.eq_none_iff_forall_not_mem]
    intro hit hfound
    obtain ⟨k, hhit, hopening, -⟩ := findOpening_eq_iff.mp (Prod.ext hfound rfl)
    rw [h hit (List.mem_of_getElem? hhit)] at hopening
    cases hopening

theorem next_at (h : s.ahead[k]? = some hit) :
    (s.after k).next = (some hit, s.after (k + 1)) := by
  have hafter : s.after (k + 1) = (s.after k).next.2 := Function.iterate_succ_apply' _ _ _
  rw [← next_after] at h
  exact Prod.ext h hafter.symm

/-- The search for a partner ends at the first brace with which more braces are closed than opened, behind
balanced ones, and finds nothing exactly if there is no such brace; the depth is never lowered when it is
zero. The search for a brace that opens ends at the first one, and goes over braces that close only. Both
leave the scanner right behind the brace. -/
theorem search_exact (s : Scanner) :
    (∀ hit t, s.findMatching = (some hit, t) ↔
      ∃ k, s.ahead[k]? = some hit ∧ FirstExcess s.ahead k ∧ t = s.after (k + 1)) ∧
    (∀ k, FirstExcess s.ahead k → Balanced (s.ahead.take k) ∧
      ∃ hit, s.ahead[k]? = some hit ∧ hit.brace = .closing) ∧
    (s.findMatching.1 = none ↔ ∀ k, ¬FirstExcess s.ahead k) ∧
    s.loweredClosing? 1 = some s.findMatching ∧
    (∀ hit t, s.findOpening = (some hit, t) ↔ ∃ k, s.ahead[k]? = some hit ∧ hit.brace = .opening ∧
      (∀ passed ∈ s.ahead.take k, passed.brace = .closing) ∧ t = s.after (k + 1)) ∧
    (s.findOpening.1 = none ↔ ∀ passed ∈ s.ahead, passed.brace = .closing) ∧
    ∀ k hit, s.ahead[k]? = some hit →
      (s.after k).next = (some hit, s.after (k + 1)) ∧
      (s.after (k + 1)).line = hit.line ∧ (s.after (k + 1)).column = hit.column + 1 ∧
      (s.after (k + 1)).inComment = false ∧ (s.after (k + 1)).ahead = s.ahead.drop (k + 1) := by
  refine ⟨fun hit t => findMatching_eq_iff, fun k hexcess => ?_, findMatching_eq_none,
    loweredClosing?_eq 0 s, fun hit t => findOpening_eq_iff, findOpening_eq_none, fun k hit hhit => ?_⟩
  · obtain ⟨hit, hhit, hclosing, hinner⟩ := firstExcess_iff.mp hexcess
    exact ⟨hinner, hit, hhit, hclosing⟩
  · obtain ⟨hline, hcolumn, hcode⟩ := nextFrom_place (next_at hhit)
    exact ⟨next_at hhit, hline, hcolumn, hcode, after_ahead s (k + 1)⟩

end Scanner

end ByteGrid
