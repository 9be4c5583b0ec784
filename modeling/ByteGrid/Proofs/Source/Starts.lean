import Mathlib.Data.List.Infix
import ByteGrid.Proofs.Source.Order

/-!
Where structs start. The search for structs goes from line to line, and a line starts a struct if it
begins like one, whatever stands before it, unless a struct found before reaches to it. So a struct in
a block comment counts unless the comment opens within a struct that is found in code.
-/

namespace ByteGrid

open ByteGrid.Text

variable {source : List Char} {ls : List (List Char)} {l : List Char} {line k first last : Nat}

theorem trim_between {indent inner rest : List Char} {c d : Char} (hindent : AllBlank indent)
    (hc : isBlank c = false) (hd : isBlank d = false) :
    trim (indent ++ (c :: (inner ++ d :: rest))) = c :: (inner ++ d :: trimEnd rest) := by
  have hstart : trimStart (indent ++ (c :: (inner ++ d :: rest))) = c :: (inner ++ d :: rest) :=
    trimStart_gap_append hindent (by rintro e ⟨⟩; exact hc)
  have hend := @trimEnd_append_cons d (c :: inner) rest hd
  rw [trim, hstart]
  exact hend

theorem opensStruct_of_begins (h : BeginsStruct l) : opensStruct l = true := by
  obtain ⟨indent, keyword, rest, rfl, hindent, hkeyword, hrest⟩ := h
  have hend : ((trimEnd rest).head?.all (!isWordChar ·)) = true := by
    obtain ⟨trail, -, heq⟩ := trimEnd_eq rest
    rw [Option.all_eq_true]
    intro c hc
    rw [hrest c (by rw [heq, List.head?_append, hc]; rfl)]
    rfl
  rcases hkeyword with rfl | ⟨gap, hgap, hblank, rfl⟩
  · have htrim : trim (indent ++ ("struct".toList ++ rest)) = "struct".toList ++ trimEnd rest :=
      @trim_between indent "truc".toList rest 's' 't' hindent rfl rfl
    rw [opensStruct, htrim]
    exact hend
  · have htrim : trim (indent ++ ("typedef".toList ++ (gap ++ "struct".toList) ++ rest)) =
        "typedef".toList ++ (gap ++ ("struct".toList ++ trimEnd rest)) := by
      have hinner := @trim_between indent ("ypedef".toList ++ (gap ++ "struc".toList)) rest 't' 't'
        hindent rfl rfl
      simpa using hinner
    obtain ⟨c, gap, rfl⟩ := List.exists_cons_of_ne_nil hgap
    have hafter : trimStart (gap ++ ("struct".toList ++ trimEnd rest)) =
        "struct".toList ++ trimEnd rest :=
      trimStart_gap_append (fun d hd => hblank d (.tail _ hd)) (by rintro d ⟨⟩; rfl)
    have htypedef : afterTypedef? ("typedef".toList ++ (c :: gap ++ ("struct".toList ++ trimEnd rest))) =
        some ("struct".toList ++ trimEnd rest) := by
      refine (if_pos (hblank c (.head _))).trans ?_
      rw [List.append_eq, hafter]
    rw [opensStruct, htrim, htypedef]
    exact hend

theorem opensStruct_iff : opensStruct l = true ↔ BeginsStruct l :=
  ⟨beginsStruct_of_opens, opensStruct_of_begins⟩

theorem drop_behind (m : List Char) (h : line < k) :
    ls.drop (k - (line + 1)) = (m :: ls).drop (k - line) := by
  have hindex : k - line = k - (line + 1) + 1 := by omega
  rw [hindex, List.drop_succ_cons]

theorem sightings_reach (hline : line ≤ k) (hl : l ∈ (ls.drop (k - line)).head?)
    (hopens : opensStruct l = true) :
    (∃ x ∈ sightings line ls, x.startLine = k ∧ x.span? = spanAt? k (ls.drop (k - line))) ∨
      ∃ s, .found s ∈ sightings line ls ∧ s.startLine < k ∧ k ≤ s.endLine := by
  fun_induction sightings line ls with
  | case1 line => simp at hl
  | case2 line m ls _ found hfound ih =>
    have hspan := spanAt?_isOf hfound
    rcases hline.eq_or_lt with rfl | hlt
    · rw [Nat.sub_self]
      exact .inl ⟨_, .head _, hspan.start, hfound.symm⟩
    · by_cases hreach : k ≤ found.endLine
      · exact .inr ⟨found, .head _, hspan.start ▸ hlt, hreach⟩
      · have hends := hspan.line_le_endLine
        have hdrop : (ls.drop (found.endLine - line)).drop (k - (found.endLine + 1)) =
            (m :: ls).drop (k - line) := by
          have hskip := @drop_drop_line (line + 1) ls (found.endLine + 1) k (by omega) (by omega)
          rwa [Nat.add_sub_add_right, drop_behind m hlt] at hskip
        rw [hdrop] at ih
        rcases ih (by omega) hl with ⟨x, hx, hfinds⟩ | ⟨s, hs, hreaches⟩
        · exact .inl ⟨x, .tail _ hx, hfinds⟩
        · exact .inr ⟨s, .tail _ hs, hreaches⟩
  | case3 line m ls _ hnone ih =>
    rcases hline.eq_or_lt with rfl | hlt
    · rw [Nat.sub_self]
      exact .inl ⟨_, .head _, rfl, hnone.symm⟩
    · rw [drop_behind m hlt] at ih
      rcases ih hlt hl with ⟨x, hx, hfinds⟩ | ⟨s, hs, hreaches⟩
      · exact .inl ⟨x, .tail _ hx, hfinds⟩
      · exact .inr ⟨s, .tail _ hs, hreaches⟩
  | case4 line m ls hclosed ih =>
    rcases hline.eq_or_lt with rfl | hlt
    · rw [Nat.sub_self] at hl
      cases hl
      exact absurd hopens hclosed
    · rw [drop_behind m hlt] at ih
      exact ih hlt hl

theorem structSpans_of_sighted {s : Span} (h : .found s ∈ sightings 0 (lines source)) :
    s ∈ structSpans source :=
  List.mem_filterMap.mpr ⟨.found s, h, rfl⟩

theorem structSpans_disjoint {s t : Span} (hs : s ∈ structSpans source)
    (ht : t ∈ structSpans source) :
    s = t ∨ s.endLine < t.startLine ∨ t.endLine < s.startLine := by
  have hapart := List.pairwise_iff_getElem.mp (structSpans_apart source)
  obtain ⟨i, hi, rfl⟩ := List.mem_iff_getElem.mp hs
  obtain ⟨j, hj, rfl⟩ := List.mem_iff_getElem.mp ht
  rcases Nat.lt_trichotomy i j with hlt | rfl | hlt
  · exact .inr (.inl (hapart i j hi hj hlt))
  · exact .inl rfl
  · exact .inr (.inr (hapart j i hj hi hlt))

theorem found_or_reached {opening closing : BraceHit} (hl : (lines source)[k]? = some l)
    (hbegins : BeginsStruct l)
    (hbody : IsBody opening closing (liveBraces .normal k 0 ((lines source).drop k))) :
    (∃ s ∈ structSpans source, s.startLine = k ∧ s.bodyOpenLine = opening.line) ∨
      ∃ t ∈ structSpans source, t.startLine < k ∧ k ≤ t.endLine := by
  obtain ⟨s, hs, hopen, -⟩ := spanAt?_of_isBody hbody
  rw [← List.head?_drop] at hl
  rcases sightings_reach (Nat.zero_le k) hl (opensStruct_iff.mpr hbegins) with
    ⟨x, hx, -, hspan⟩ | ⟨t, ht, hreaches⟩
  · rw [Nat.sub_zero, hs] at hspan
    cases x with
    | found =>
      cases hspan
      exact .inl ⟨s, structSpans_of_sighted hx, (spanAt?_isOf hs).start, hopen⟩
    | unterminated => cases hspan
  · exact .inr ⟨t, structSpans_of_sighted ht, hreaches⟩

theorem starts_iff : (∃ s ∈ structSpans source, s.startLine = k) ↔
    (∃ l, (lines source)[k]? = some l ∧ BeginsStruct l) ∧
    (∃ opening closing,
      IsBody opening closing (liveBraces .normal k 0 ((lines source).drop k))) ∧
    ∀ t ∈ structSpans source, t.startLine < k → t.endLine < k := by
  constructor
  · rintro ⟨s, hs, rfl⟩
    obtain ⟨-, -, ⟨l, hl, hopens⟩, -⟩ := mem_sightings (mem_structSpans hs)
    obtain ⟨opening, closing, hbody, -⟩ := spanAt?_isBody (structSpans_spanAt? hs)
    rw [List.head?_drop] at hl
    refine ⟨⟨l, hl, opensStruct_iff.mp hopens⟩, ⟨opening, closing, hbody⟩, fun t ht hlt => ?_⟩
    rcases structSpans_disjoint hs ht with rfl | hbefore | hbehind
    · exact absurd hlt (Nat.lt_irrefl _)
    · have hends := (structSpans_isOf hs).line_le_endLine
      omega
    · exact hbehind
  · rintro ⟨⟨l, hl, hbegins⟩, ⟨opening, closing, hbody⟩, hfree⟩
    rcases found_or_reached hl hbegins hbody with ⟨s, hs, hstart, -⟩ | ⟨t, ht, hbefore, hreaches⟩
    · exact ⟨s, hs, hstart⟩
    · exact absurd (hfree t ht hbefore) (Nat.not_lt.mpr hreaches)

def stateAt (ls : List (List Char)) (line : Nat) : ScanState :=
  (ls.take line).foldl ScanState.throughLine .normal

def StaysInComment (cs : List Char) : Prop :=
  ∀ before ∈ cs.inits, (ScanState.through .blockComment before).inComment = true

instance (cs : List Char) : Decidable (StaysInComment cs) :=
  List.decidableBAll _ cs.inits

/-- A block comment begins on one line and ends on a later one. -/
structure BlockComment (ls : List (List Char)) (first last : Nat) : Prop where
  lt : first < last
  opens : ∃ before rest, ls[first]? = some (before ++ '/' :: '*' :: rest) ∧
    (stateAt ls first).through before = .normal ∧ StaysInComment rest
  goesOn : ∀ k, first < k → k < last → ∀ l ∈ ls[k]?, StaysInComment l
  ends : ∃ text rest, ls[last]? = some (text ++ '/' :: rest) ∧ StaysInComment text ∧
    ScanState.through .blockComment text = .star

theorem stateAt_succ (hl : ls[k]? = some l) : stateAt ls (k + 1) = (stateAt ls k).throughLine l := by
  rw [stateAt, List.take_add_one, hl, List.foldl_append]
  rfl

theorem stateAt_add (line n : Nat) : stateAt ls (line + n) =
    ((ls.drop line).take n).foldl ScanState.throughLine (stateAt ls line) := by
  rw [stateAt, List.take_add, List.foldl_append]
  rfl

theorem inComment_not_normal {s : ScanState} (h : s.inComment = true) : s.isNormal = false := by
  cases s with
  | normal | slash => cases h
  | _ => rfl

theorem StaysInComment.throughLine {cs : List Char} (h : StaysInComment cs) :
    ScanState.throughLine .blockComment cs = .blockComment := by
  rw [ScanState.throughLine, h cs ((List.mem_inits _ _).mpr List.prefix_rfl)]
  rfl

theorem BlockComment.stateAt_eq (h : BlockComment ls first last) (hfirst : first < k)
    (hlast : k ≤ last) : stateAt ls k = .blockComment := by
  induction k, hfirst using Nat.le_induction with
  | base =>
    obtain ⟨before, rest, hl, hbefore, hrest⟩ := h.opens
    have hbegins : (stateAt ls first).through (before ++ '/' :: '*' :: rest) =
        ScanState.through .blockComment rest := by
      rw [ScanState.through, List.foldl_append]
      exact congrArg (ScanState.through · ('/' :: '*' :: rest)) hbefore
    rw [Nat.succ_eq_add_one, stateAt_succ hl, ScanState.throughLine, hbegins]
    exact hrest.throughLine
  | succ k hfirst ih =>
    obtain ⟨text, rest, hend, -⟩ := h.ends
    have hlt := (List.getElem?_eq_some_iff.mp hend).1
    have hl : ls[k]? = some ls[k] := List.getElem?_eq_getElem (by omega)
    rw [stateAt_succ hl, ih (by omega)]
    exact (h.goesOn k hfirst hlast _ hl).throughLine

theorem BlockComment.outside {hit : BraceHit} (h : BlockComment ls first last)
    (hstate : stateAt ls line = .normal) (hhit : hit ∈ liveBraces .normal line 0 (ls.drop line))
    (hfirst : first < hit.line) : last ≤ hit.line := by
  by_contra! hlast
  obtain ⟨hle, before, c, rest, hl, -, -, hnormal⟩ := mem_liveBraces.mp hhit
  rw [List.getElem?_drop, Nat.add_sub_cancel' hle] at hl
  rw [← hstate, ← stateAt_add, Nat.add_sub_cancel' hle, h.stateAt_eq hfirst hlast.le] at hnormal
  have hinside := h.goesOn _ hfirst hlast _ hl before
    ((List.mem_inits _ _).mpr (List.prefix_append before (c :: rest)))
  rw [inComment_not_normal hinside] at hnormal
  cases hnormal

theorem comment_starts (h : BlockComment (lines source) first last) :
    (∀ k, first < k → k < last → ((∃ s ∈ structSpans source, s.startLine = k) ↔
      (∃ l, (lines source)[k]? = some l ∧ BeginsStruct l) ∧
      (∃ opening closing,
        IsBody opening closing (liveBraces .normal k 0 ((lines source).drop k))) ∧
      ∀ t ∈ structSpans source, t.startLine < k → t.endLine < k)) ∧
    ∀ t ∈ structSpans source, stateAt (lines source) t.startLine = .normal →
      t.startLine ≤ first → first < t.bodyCloseLine →
      last ≤ t.bodyCloseLine ∧ ∀ s ∈ structSpans source, ¬(first < s.startLine ∧ s.startLine < last) := by
  refine ⟨fun k _ _ => starts_iff, fun t ht hstate hstart hclose => ?_⟩
  obtain ⟨opening, closing, ⟨skipped, inner, rest, hhits, -⟩, -, hlast⟩ :=
    spanAt?_isBody (structSpans_spanAt? ht)
  have hhit : closing ∈ liveBraces .normal t.startLine 0 ((lines source).drop t.startLine) := by
    rw [hhits]
    simp
  rw [hlast] at hclose ⊢
  have hpast := h.outside hstate hhit hclose
  refine ⟨hpast, fun s hs ⟨hfirst, hbefore⟩ => ?_⟩
  have hends := (structSpans_isOf ht).ends
  rcases structSpans_disjoint hs ht with rfl | hlt | hlt
  · omega
  · have hspan := (structSpans_isOf hs).line_le_endLine
    omega
  · omega

theorem comment_starts_inner :
    let source := "struct S \x7b\n  int a; /*\nstruct T \x7b\n  */ int b;\n\x7d;\n".toList
    BlockComment (lines source) 1 3 ∧
      ∀ s ∈ structSpans source, ¬(1 < s.startLine ∧ s.startLine < 3) := by
  intro source
  have hlines : lines source = ["struct S \x7b".toList, "  int a; /*".toList, "struct T \x7b".toList,
      "  */ int b;".toList, "\x7d;".toList] := by decide +kernel
  have hcomment : BlockComment (lines source) 1 3 := by
    rw [hlines]
    refine ⟨by decide, ⟨"  int a; ".toList, [], by decide, by decide, by decide⟩, ?_,
      ⟨"  *".toList, " int b;".toList, by decide, by decide, by decide⟩⟩
    intro k hfirst hlast l hl
    obtain rfl : k = 2 := by omega
    cases hl
    decide
  have hspan : ⟨0, 0, 4, 4, String.ofList (['\n'].intercalate (lines source))⟩ ∈ structSpans source := by
    decide +kernel
  exact ⟨hcomment, ((comment_starts hcomment).2 _ hspan rfl (by decide) (by decide)).2⟩

theorem comment_starts_outer :
    let source := "/*\nstruct S \x7b\n  int a;\n\x7d;\n*/\n".toList
    BlockComment (lines source) 0 4 ∧
      structSpans source = [⟨1, 1, 3, 3, "struct S \x7b\n  int a;\n\x7d;"⟩] := by
  intro source
  have hlines : lines source =
      ["/*".toList, "struct S \x7b".toList, "  int a;".toList, "\x7d;".toList, "*/".toList] := by
    decide +kernel
  refine ⟨?_, by decide +kernel⟩
  rw [hlines]
  refine ⟨by decide, ⟨[], [], by decide, by decide, by decide⟩, ?_,
    ⟨['*'], [], by decide, by decide, by decide⟩⟩
  intro k hfirst hlast l hl
  have hinside : ∀ m ∈ ["struct S \x7b".toList, "  int a;".toList, "\x7d;".toList],
      StaysInComment m := by decide
  obtain rfl | rfl | rfl : k = 1 ∨ k = 2 ∨ k = 3 := by omega
  all_goals
    cases hl
    exact hinside _ (by simp)

end ByteGrid
