import Mathlib.Data.String.Basic
import Mathlib.Logic.Function.Iterate
import ByteGrid.Source.Scanner

/-!
The braces that count. A reader that takes one character after the other, and keeps nothing but the
state it is in, tells which braces stand outside of comments and not behind a backslash. The scanner
looks ahead for the second sign of a comment and starts anew behind each brace, and finds the same ones.
-/

namespace ByteGrid

inductive ScanState where
  | normal
  /-- Behind a slash that may begin a comment. -/
  | slash
  | lineComment
  | blockComment
  /-- Behind a star that may end a block comment. -/
  | star
  | escaped (inComment : Bool)
deriving Repr, DecidableEq

namespace ScanState

def resume (inComment : Bool) : ScanState :=
  if inComment then .blockComment else .normal

def step (s : ScanState) (c : Char) : ScanState :=
  match s with
  | .normal => if c = '\\' then .escaped false else if c = '/' then .slash else .normal
  | .slash =>
    if c = '\\' then .escaped false else if c = '/' then .lineComment
    else if c = '*' then .blockComment else .normal
  | .lineComment => .lineComment
  | .blockComment => if c = '\\' then .escaped true else if c = '*' then .star else .blockComment
  | .star =>
    if c = '\\' then .escaped true else if c = '/' then .normal
    else if c = '*' then .star else .blockComment
  | .escaped inComment => resume inComment

def isNormal : ScanState → Bool
  | .normal | .slash => true
  | _ => false

def inComment : ScanState → Bool
  | .blockComment | .star | .escaped true => true
  | _ => false

def through (s : ScanState) (cs : List Char) : ScanState :=
  cs.foldl step s

/-- The state behind a line and its end, which ends line comments and escapes. -/
def throughLine (s : ScanState) (cs : List Char) : ScanState :=
  resume (s.through cs).inComment

end ScanState

def brace? (c : Char) : Option Brace :=
  if c = '\x7b' then some .opening else if c = '\x7d' then some .closing else none

def lineBraces (s : ScanState) (line column : Nat) : List Char → List BraceHit
  | [] => []
  | c :: cs =>
    let rest := lineBraces (s.step c) line (column + c.utf8Size) cs
    match brace? c with
    | some b => if s.isNormal then ⟨line, column, b⟩ :: rest else rest
    | none => rest

/-- The braces that a reader meets in its normal state, from a column of the first line on. -/
def liveBraces (s : ScanState) (line column : Nat) : List (List Char) → List BraceHit
  | [] => []
  | l :: ls => lineBraces s line column l ++ liveBraces (s.throughLine l) (line + 1) 0 ls

variable {line column : Nat} {c : Char} {cs : List Char} {hit : BraceHit} {s : ScanState}

theorem lineBraces_skip (h : s.isNormal = false ∨ brace? c = none) :
    lineBraces s line column (c :: cs) = lineBraces (s.step c) line (column + c.utf8Size) cs := by
  rcases h with h | h
  · simp only [lineBraces, h]
    split <;> rfl
  · simp only [lineBraces, h]

theorem throughLine_cons : s.throughLine (c :: cs) = (s.step c).throughLine cs := rfl

theorem read_lineComment : lineBraces .lineComment line column cs = [] ∧
    ScanState.throughLine .lineComment cs = .normal := by
  induction cs generalizing column with
  | nil => exact ⟨rfl, rfl⟩
  | cons c cs ih =>
    rw [lineBraces_skip (.inl rfl)]
    exact ih

theorem read_slash (h : ∀ c ∈ cs.head?, c ≠ '/' ∧ c ≠ '*') :
    lineBraces .slash line column cs = lineBraces .normal line column cs ∧
      ScanState.throughLine .slash cs = ScanState.throughLine .normal cs := by
  cases cs with
  | nil => exact ⟨rfl, rfl⟩
  | cons c cs =>
    obtain ⟨hslash, hstar⟩ := h c rfl
    have hstep : ScanState.step .slash c = ScanState.step .normal c := by
      simp [ScanState.step, hslash, hstar]
    simp [lineBraces, throughLine_cons, ScanState.isNormal, hstep]

theorem read_star (h : ∀ c ∈ cs.head?, c ≠ '/') :
    lineBraces .star line column cs = lineBraces .blockComment line column cs ∧
      ScanState.throughLine .star cs = ScanState.throughLine .blockComment cs := by
  cases cs with
  | nil => exact ⟨rfl, rfl⟩
  | cons c cs =>
    have hslash := h c rfl
    have hstep : ScanState.step .star c = ScanState.step .blockComment c := by
      simp [ScanState.step, hslash]
    simp [lineBraces, throughLine_cons, ScanState.isNormal, hstep]

def LineScan.Describes (scan : LineScan) (s : ScanState) (line column : Nat) (cs : List Char) : Prop :=
  match scan with
  | .hit b n rest =>
    lineBraces s line column cs = ⟨line, n, b⟩ :: lineBraces .normal line (n + 1) rest ∧
      s.throughLine cs = ScanState.throughLine .normal rest
  | .finished inComment =>
    lineBraces s line column cs = [] ∧ s.throughLine cs = .resume inComment

theorem LineScan.Describes.congr {scan : LineScan} {t : ScanState} {column' : Nat} {cs' : List Char}
    (h : scan.Describes t line column' cs')
    (hbraces : lineBraces s line column cs = lineBraces t line column' cs')
    (hthrough : s.throughLine cs = t.throughLine cs') : scan.Describes s line column cs := by
  cases scan <;> simpa only [LineScan.Describes, hbraces, hthrough] using h

def ScanState.atScan (inComment escaped : Bool) : ScanState :=
  if escaped then .escaped inComment else .resume inComment

theorem scanLine_describes (line : Nat) (inComment escaped : Bool) (column : Nat) (cs : List Char) :
    (scanLine inComment escaped column cs).Describes (.atScan inComment escaped) line column cs := by
  fun_induction scanLine inComment escaped column cs with
  | case1 inComment escaped => cases inComment <;> cases escaped <;> exact ⟨rfl, rfl⟩
  | case2 inComment column c cs ih => exact ih.congr (lineBraces_skip (.inl rfl)) rfl
  | case3 inComment escaped column cs hescaped ih =>
    obtain rfl := Bool.of_not_eq_true hescaped
    cases inComment <;> exact ih.congr (lineBraces_skip (.inr rfl)) rfl
  | case4 escaped column hescaped rest _ ih =>
    obtain rfl := Bool.of_not_eq_true hescaped
    exact ih.congr ((lineBraces_skip (.inr rfl)).trans (lineBraces_skip (.inr rfl))) rfl
  | case5 escaped column hescaped c cs hend hc ih =>
    obtain rfl := Bool.of_not_eq_true hescaped
    by_cases hstar : c = '*'
    · subst hstar
      have hread := @read_star line (column + 1) cs (by
        rintro d hd rfl
        obtain ⟨rest, rfl⟩ := List.head?_eq_some_iff.mp hd
        exact hend rest rfl rfl)
      exact ih.congr ((lineBraces_skip (.inr rfl)).trans hread.1) hread.2
    · have hstep : ScanState.step .blockComment c = .blockComment := by
        simp [ScanState.step, hc, hstar]
      refine ih.congr ((lineBraces_skip (.inl rfl)).trans ?_) ?_
      · exact congrArg (lineBraces · line (column + c.utf8Size) cs) hstep
      · exact throughLine_cons.trans (congrArg (ScanState.throughLine · cs) hstep)
  | case6 inComment escaped column hescaped hcomment tail _ =>
    obtain rfl := Bool.of_not_eq_true hescaped
    obtain rfl := Bool.of_not_eq_true hcomment
    have hread := @read_lineComment line (column + 2) tail
    exact ⟨(lineBraces_skip (.inr rfl)).trans ((lineBraces_skip (.inr rfl)).trans hread.1), hread.2⟩
  | case7 inComment escaped column hescaped hcomment rest _ ih =>
    obtain rfl := Bool.of_not_eq_true hescaped
    obtain rfl := Bool.of_not_eq_true hcomment
    exact ih.congr ((lineBraces_skip (.inr rfl)).trans (lineBraces_skip (.inr rfl))) rfl
  | case8 inComment escaped column hescaped hcomment rest _ =>
    obtain rfl := Bool.of_not_eq_true hescaped
    obtain rfl := Bool.of_not_eq_true hcomment
    exact ⟨rfl, rfl⟩
  | case9 inComment escaped column hescaped hcomment rest _ =>
    obtain rfl := Bool.of_not_eq_true hescaped
    obtain rfl := Bool.of_not_eq_true hcomment
    exact ⟨rfl, rfl⟩
  | case10 inComment escaped column hescaped hcomment c cs hline hblock hopen hclose hc ih =>
    obtain rfl := Bool.of_not_eq_true hescaped
    obtain rfl := Bool.of_not_eq_true hcomment
    have hbrace : brace? c = none := by
      rw [brace?, if_neg hopen, if_neg hclose]
    by_cases hslash : c = '/'
    · subst hslash
      have hread := @read_slash line (column + 1) cs (by
        intro d hd
        obtain ⟨rest, rfl⟩ := List.head?_eq_some_iff.mp hd
        exact ⟨fun h => hline rest rfl (h ▸ rfl), fun h => hblock rest rfl (h ▸ rfl)⟩)
      exact ih.congr ((lineBraces_skip (.inr hbrace)).trans hread.1) hread.2
    · have hstep : ScanState.step .normal c = .normal := by
        simp [ScanState.step, hc, hslash]
      refine ih.congr ((lineBraces_skip (.inr hbrace)).trans ?_) ?_
      · exact congrArg (lineBraces · line (column + c.utf8Size) cs) hstep
      · exact throughLine_cons.trans (congrArg (ScanState.throughLine · cs) hstep)

theorem exists_split_cons {d : Char} {p : List Char → Char → Prop} :
    (∃ before c rest, d :: cs = before ++ c :: rest ∧ p before c) ↔
      p [] d ∨ ∃ before c rest, cs = before ++ c :: rest ∧ p (d :: before) c := by
  constructor
  · rintro ⟨before, c, rest, heq, hp⟩
    cases before with
    | nil =>
      cases heq
      exact .inl hp
    | cons e before =>
      cases heq
      exact .inr ⟨before, c, rest, rfl, hp⟩
  · rintro (hp | ⟨before, c, rest, rfl, hp⟩)
    · exact ⟨[], d, cs, rfl, hp⟩
    · exact ⟨d :: before, c, rest, rfl, hp⟩

theorem mem_lineBraces : hit ∈ lineBraces s line column cs ↔
    hit.line = line ∧ ∃ before c rest, cs = before ++ c :: rest ∧ brace? c = some hit.brace ∧
      hit.column = column + (String.ofList before).utf8ByteSize ∧
      (s.through before).isNormal = true := by
  induction cs generalizing s column with
  | nil => simp [lineBraces]
  | cons d cs ih =>
    have hsize (before : List Char) : (String.ofList (d :: before)).utf8ByteSize =
        d.utf8Size + (String.ofList before).utf8ByteSize := by
      rw [String.utf8ByteSize_ofList, String.utf8ByteSize_ofList, String.utf8Len_cons, Nat.add_comm]
    have hthrough (before : List Char) : s.through (d :: before) = (s.step d).through before := rfl
    rw [exists_split_cons, and_or_left]
    simp only [hsize, hthrough, ← Nat.add_assoc]
    rw [← ih]
    obtain ⟨l, n, b⟩ := hit
    cases hb : brace? d with
    | none => simp [lineBraces, hb]
    | some b' =>
      cases hs : s.isNormal with
      | false => simp [lineBraces, hb, hs, ScanState.through]
      | true =>
        simp only [lineBraces, hb, hs, if_true, List.mem_cons, BraceHit.mk.injEq]
        simp [ScanState.through, hs, eq_comm, and_comm]

theorem mem_liveBraces {ls : List (List Char)} : hit ∈ liveBraces s line 0 ls ↔
    line ≤ hit.line ∧ ∃ before c rest, ls[hit.line - line]? = some (before ++ c :: rest) ∧
      brace? c = some hit.brace ∧ hit.column = (String.ofList before).utf8ByteSize ∧
      (((ls.take (hit.line - line)).foldl ScanState.throughLine s).through before).isNormal = true := by
  induction ls generalizing s line with
  | nil => simp [liveBraces]
  | cons l ls ih =>
    rw [liveBraces, List.mem_append, mem_lineBraces, ih]
    rcases Nat.lt_trichotomy hit.line line with hlt | heq | hlt
    · have hne : hit.line ≠ line := Nat.ne_of_lt hlt
      have hnext : ¬line + 1 ≤ hit.line := by omega
      simp [hne, hnext, Nat.not_le.mpr hlt]
    · simp [heq]
    · have hne : hit.line ≠ line := Nat.ne_of_gt hlt
      have hindex : hit.line - line = hit.line - (line + 1) + 1 := by omega
      simp [hne, hindex, Nat.succ_le_of_lt hlt, Nat.le_of_lt hlt]

theorem liveBraces_append (ls ls' : List (List Char)) : liveBraces s line 0 (ls ++ ls') =
    liveBraces s line 0 ls ++
      liveBraces (ls.foldl ScanState.throughLine s) (line + ls.length) 0 ls' := by
  induction ls generalizing s line with
  | nil => rfl
  | cons l ls ih =>
    have hline : line + 1 + ls.length = line + (l :: ls).length := by
      rw [List.length_cons]
      omega
    rw [List.cons_append, liveBraces, ih, hline, liveBraces, List.append_assoc]
    rfl

def BraceHit.Before (a b : BraceHit) : Prop :=
  a.line < b.line ∨ a.line = b.line ∧ a.column < b.column

theorem lineBraces_pairwise : (lineBraces s line column cs).Pairwise BraceHit.Before := by
  induction cs generalizing s column with
  | nil => exact .nil
  | cons c cs ih =>
    have hrest := @ih (column + c.utf8Size) (s.step c)
    simp only [lineBraces]
    split
    · split
      · refine .cons (fun hit hhit => .inr ?_) hrest
        obtain ⟨hline, before, d, rest, -, -, hcolumn, -⟩ := mem_lineBraces.mp hhit
        have hsize := c.utf8Size_pos
        dsimp only
        omega
      · exact hrest
    · exact hrest

theorem liveBraces_pairwise {ls : List (List Char)} :
    (liveBraces s line column ls).Pairwise BraceHit.Before := by
  induction ls generalizing s line column with
  | nil => exact .nil
  | cons l ls ih =>
    refine List.pairwise_append.mpr ⟨lineBraces_pairwise, ih, fun a ha b hb => .inl ?_⟩
    have hfirst := (mem_lineBraces.mp ha).1
    have hlater := (mem_liveBraces.mp hb).1
    omega

namespace Scanner

variable {inComment : Bool} {ls : List (List Char)} {s : Scanner}

def ahead (s : Scanner) : List BraceHit :=
  liveBraces (.resume s.inComment) s.line s.column s.pending

theorem nextFrom_ahead :
    (nextFrom line column inComment ls).1 = (liveBraces (.resume inComment) line column ls).head? ∧
      (nextFrom line column inComment ls).2.ahead =
        (liveBraces (.resume inComment) line column ls).tail := by
  induction ls generalizing line column inComment with
  | nil => exact ⟨rfl, rfl⟩
  | cons l ls ih =>
    have hline := scanLine_describes line inComment false column l
    unfold nextFrom
    cases hscan : scanLine inComment false column l with
    | hit b n rest =>
      rw [hscan] at hline
      obtain ⟨hbraces, hthrough⟩ := hline
      simp only [ScanState.atScan, Bool.false_eq_true, if_false] at hbraces hthrough
      simp only [liveBraces, hbraces, hthrough]
      exact ⟨rfl, rfl⟩
    | finished inside =>
      rw [hscan] at hline
      obtain ⟨hbraces, hthrough⟩ := hline
      simp only [ScanState.atScan, Bool.false_eq_true, if_false] at hbraces hthrough
      simp only [liveBraces, hbraces, hthrough]
      exact ih

theorem next_eq_head (s : Scanner) : s.next.1 = s.ahead.head? :=
  nextFrom_ahead.1

theorem next_ahead (s : Scanner) : s.next.2.ahead = s.ahead.tail :=
  nextFrom_ahead.2

def after (s : Scanner) (calls : Nat) : Scanner :=
  (fun s : Scanner => s.next.2)^[calls] s

theorem after_ahead (s : Scanner) (calls : Nat) : (s.after calls).ahead = s.ahead.drop calls := by
  induction calls with
  | zero => rfl
  | succ calls ih =>
    rw [after, Function.iterate_succ_apply', ← after, next_ahead, ih, List.tail_drop]

theorem next_after (s : Scanner) (calls : Nat) : (s.after calls).next.1 = s.ahead[calls]? := by
  rw [next_eq_head, after_ahead, List.head?_drop]

theorem next_exact (lines : List (List Char)) (line : Nat) :
    let hits := liveBraces .normal line 0 (lines.drop line)
    (∀ calls, ((start lines line).after calls).next.1 = hits[calls]?) ∧
    (∀ calls more, ((start lines line).after calls).next.1 = none →
      ((start lines line).after (calls + more)).next.1 = none) ∧
    hits.Pairwise BraceHit.Before ∧
    ∀ hit, hit ∈ hits ↔ line ≤ hit.line ∧ ∃ before c rest,
      lines[hit.line]? = some (before ++ c :: rest) ∧ brace? c = some hit.brace ∧
      hit.column = (String.ofList before).utf8ByteSize ∧
      (((((lines.drop line).take (hit.line - line)).foldl ScanState.throughLine .normal).through
        before).isNormal = true) := by
  intro hits
  refine ⟨next_after _, fun calls more h => ?_, liveBraces_pairwise, fun hit => ?_⟩
  · rw [next_after, List.getElem?_eq_none_iff] at h ⊢
    omega
  · rw [mem_liveBraces]
    refine and_congr_right fun hle => ?_
    rw [List.getElem?_drop, Nat.add_sub_cancel' hle]

end Scanner

end ByteGrid
