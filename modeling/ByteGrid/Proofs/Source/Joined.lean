import ByteGrid.Proofs.Source.Starts

/-!
Texts one behind the other. A struct that is found depends on no line behind its last one, as far as that
one holds a semicolon, and a scanner carries nothing over from the lines before it. So the structs of two
texts are those of the first one and, further down, those of the second one.
-/

namespace ByteGrid

open ByteGrid.Text

variable {line column : Nat} {ls more : List (List Char)} {opening closing : BraceHit}
  {hits : List BraceHit} {s : Span}

theorem lines_eq_nil {cs : List Char} (h : lines cs = []) : cs = [] := by
  fun_induction lines cs with
  | case1 => rfl
  | case2 => simp at h
  | case3 c cs hc hreturn ih => simp [ih h] at hreturn
  | case4 => simp at h
  | case5 => simp at h

theorem lines_append {a : List Char} (b : List Char) (ha : ∀ c ∈ a.getLast?, c = '\n') :
    lines (a ++ b) = lines a ++ lines b := by
  have hlater {c : Char} {cs : List Char} (h : ∀ d ∈ (c :: cs).getLast?, d = '\n') :
      ∀ d ∈ cs.getLast?, d = '\n' := by
    intro d hd
    apply h d
    cases cs with
    | nil => simp at hd
    | cons e cs => simpa using hd
  have hhead {c : Char} {cs : List Char} (h : ∀ d ∈ (c :: cs).getLast?, d = '\n') (hc : c ≠ '\n') :
      cs ≠ [] ∧ (cs ++ b).head? = cs.head? := by
    cases cs with
    | nil => exact absurd (h c rfl) hc
    | cons d cs => simp
  fun_induction lines a with
  | case1 => simp
  | case2 cs ih =>
    rw [List.cons_append, lines, if_pos rfl, ih (hlater ha), List.cons_append]
  | case3 c cs hc hreturn ih =>
    obtain ⟨-, hcs⟩ := hhead ha hc
    rw [List.cons_append, lines, if_neg hc, if_pos (hcs ▸ hreturn), ih (hlater ha)]
  | case4 c cs hc hreturn hnone =>
    exact absurd (lines_eq_nil hnone) (hhead ha hc).1
  | case5 c cs hc hreturn l ls hlines ih =>
    obtain ⟨-, hcs⟩ := hhead ha hc
    rw [List.cons_append, lines, if_neg hc, if_neg (hcs ▸ hreturn), ih (hlater ha), hlines]
    rfl

def BraceHit.shift (n : Nat) (hit : BraceHit) : BraceHit :=
  { hit with line := n + hit.line }

def Span.shift (n : Nat) (s : Span) : Span :=
  { s with
    startLine := n + s.startLine
    bodyOpenLine := n + s.bodyOpenLine
    bodyCloseLine := n + s.bodyCloseLine
    endLine := n + s.endLine }

def Sighting.shift (n : Nat) : Sighting → Sighting
  | .found s => .found (s.shift n)
  | .unterminated line => .unterminated (n + line)

theorem lineBraces_shift (n : Nat) (state : ScanState) (cs : List Char) :
    lineBraces state (n + line) column cs =
      (lineBraces state line column cs).map (BraceHit.shift n) := by
  induction cs generalizing state column with
  | nil => rfl
  | cons c cs ih =>
    simp only [lineBraces, ih]
    split
    · split <;> rfl
    · rfl

theorem liveBraces_shift (n : Nat) (state : ScanState) (ls : List (List Char)) :
    liveBraces state (n + line) column ls =
      (liveBraces state line column ls).map (BraceHit.shift n) := by
  induction ls generalizing state line column with
  | nil => rfl
  | cons l ls ih =>
    rw [liveBraces, lineBraces_shift, Nat.add_assoc, ih, liveBraces, List.map_append]

theorem balanced_shift (n : Nat) : Balanced (hits.map (BraceHit.shift n)) ↔ Balanced hits := by
  rw [Balanced, Balanced, List.map_map]
  rfl

theorem isBody_shift (n : Nat) : IsBody opening closing (hits.map (BraceHit.shift n)) ↔
    ∃ o c, IsBody o c hits ∧ o.shift n = opening ∧ c.shift n = closing := by
  constructor
  · rintro ⟨skipped, inner, rest, heq, hskipped, hopening, hinner, hclosing⟩
    obtain ⟨skipped, ahead, rfl, rfl, hahead⟩ := List.map_eq_append_iff.mp heq
    obtain ⟨o, within, rfl, rfl, hwithin⟩ := List.map_eq_cons_iff.mp hahead
    obtain ⟨inner, behind, rfl, rfl, hbehind⟩ := List.map_eq_append_iff.mp hwithin
    obtain ⟨c, rest, rfl, rfl, -⟩ := List.map_eq_cons_iff.mp hbehind
    refine ⟨o, c, ⟨skipped, inner, rest, rfl, ?_, hopening, (balanced_shift n).mp hinner, hclosing⟩,
      rfl, rfl⟩
    intro passed hpassed
    exact hskipped (passed.shift n) (List.mem_map_of_mem hpassed)
  · rintro ⟨o, c, ⟨skipped, inner, rest, rfl, hskipped, hopening, hinner, hclosing⟩, rfl, rfl⟩
    refine ⟨skipped.map (BraceHit.shift n), inner.map (BraceHit.shift n),
      rest.map (BraceHit.shift n), by simp, ?_, hopening, (balanced_shift n).mpr hinner, hclosing⟩
    intro passed hpassed
    obtain ⟨hit, hhit, rfl⟩ := List.mem_map.mp hpassed
    exact hskipped hit hhit

def Span.ofBody (line : Nat) (ls : List (List Char)) (opening closing : Nat) : Span :=
  let toEnd := (ls.drop (closing - line)).findIdx? (·.contains ';')
  let endLine := closing + toEnd.getD 0
  { startLine := line, bodyOpenLine := opening, bodyCloseLine := closing, endLine
    text := String.ofList (['\n'].intercalate (ls.take (endLine - line + 1))) }

theorem spanAt?_eq_ofBody (h : spanAt? line ls = some s) :
    s = .ofBody line ls s.bodyOpenLine s.bodyCloseLine := by
  obtain ⟨opening, closing, -, -, rfl⟩ := spanAt?_eq_some h
  rfl

theorem spanAt?_eq_some_iff : spanAt? line ls = some s ↔ ∃ opening closing,
    IsBody opening closing (liveBraces .normal line 0 ls) ∧
      s = .ofBody line ls opening.line closing.line := by
  constructor
  · intro h
    obtain ⟨opening, closing, hbody, hopen, hclose⟩ := spanAt?_isBody h
    refine ⟨opening, closing, hbody, ?_⟩
    rw [← hopen, ← hclose]
    exact spanAt?_eq_ofBody h
  · rintro ⟨opening, closing, hbody, rfl⟩
    obtain ⟨t, ht, hopen, hclose⟩ := spanAt?_of_isBody hbody
    rw [ht, spanAt?_eq_ofBody ht, hopen, hclose]

theorem ofBody_shift (n opening closing : Nat) :
    Span.ofBody (n + line) ls (n + opening) (n + closing) =
      (Span.ofBody line ls opening closing).shift n := by
  simp only [Span.ofBody, Span.shift, Nat.add_assoc, Nat.add_sub_add_left]

theorem spanAt?_shift (n : Nat) (ls : List (List Char)) :
    spanAt? (n + line) ls = (spanAt? line ls).map (Span.shift n) := by
  ext s
  simp only [Option.map_eq_some_iff, spanAt?_eq_some_iff, liveBraces_shift, isBody_shift]
  constructor
  · rintro ⟨_, _, ⟨opening, closing, hbody, rfl, rfl⟩, rfl⟩
    exact ⟨_, ⟨opening, closing, hbody, rfl⟩, (ofBody_shift n _ _).symm⟩
  · rintro ⟨_, ⟨opening, closing, hbody, rfl⟩, rfl⟩
    exact ⟨_, _, ⟨opening, closing, hbody, rfl, rfl⟩, (ofBody_shift n _ _).symm⟩

theorem sightings_shift (n : Nat) (ls : List (List Char)) :
    sightings (n + line) ls = (sightings line ls).map (Sighting.shift n) := by
  fun_induction sightings line ls with
  | case1 line => simp [sightings]
  | case2 line l ls hopens found hfound ih =>
    have hspan := @spanAt?_shift line n (l :: ls)
    rw [hfound, Option.map_some] at hspan
    have hdrop : (found.shift n).endLine - (n + line) = found.endLine - line :=
      Nat.add_sub_add_left n _ _
    rw [sightings, if_pos hopens, hspan]
    dsimp only
    rw [hdrop, List.map_cons, ← ih]
    rfl
  | case3 line l ls hopens hnone ih =>
    have hspan := @spanAt?_shift line n (l :: ls)
    rw [hnone, Option.map_none] at hspan
    rw [sightings, if_pos hopens, hspan]
    dsimp only
    rw [List.map_cons, ← ih]
    rfl
  | case4 line l ls hopens ih =>
    rw [sightings, if_neg hopens, ← ih]
    rfl

theorem IsBody.append (h : IsBody opening closing hits) (after : List BraceHit) :
    IsBody opening closing (hits ++ after) := by
  obtain ⟨skipped, inner, rest, rfl, hbody⟩ := h
  exact ⟨skipped, inner, rest ++ after, by simp, hbody⟩

theorem ofBody_append {opening closing k : Nat} (more : List (List Char)) (hline : line ≤ closing)
    (hinside : closing < line + ls.length)
    (hsemicolon : (ls.drop (closing - line)).findIdx? (·.contains ';') = some k) :
    Span.ofBody line (ls ++ more) opening closing = Span.ofBody line ls opening closing := by
  obtain ⟨hk, -⟩ := List.findIdx?_eq_some_iff_getElem.mp hsemicolon
  rw [List.length_drop] at hk
  have hdrop : (ls ++ more).drop (closing - line) = ls.drop (closing - line) ++ more :=
    List.drop_append_of_le_length (by omega)
  have htake : (ls ++ more).take (closing + k - line + 1) = ls.take (closing + k - line + 1) :=
    List.take_append_of_le_length (by omega)
  simp only [Span.ofBody, hdrop, List.findIdx?_append, hsemicolon, Option.some_or, Option.getD_some,
    htake]

theorem spanAt?_append {l : List Char} (more : List (List Char)) (h : spanAt? line ls = some s)
    (hl : ls[s.endLine - line]? = some l) (hsemicolon : ';' ∈ l) :
    spanAt? line (ls ++ more) = some s := by
  have hspan := spanAt?_isOf h
  have hbody := hspan.opens.trans hspan.closes
  have hends := hspan.ends
  have hinside := hspan.inside
  obtain ⟨opening, closing, hbraces, heq⟩ := spanAt?_eq_some_iff.mp h
  have hclose : s.bodyCloseLine = closing.line := congrArg Span.bodyCloseLine heq
  have hend : s.endLine =
      closing.line + ((ls.drop (closing.line - line)).findIdx? (·.contains ';')).getD 0 :=
    congrArg Span.endLine heq
  rw [hclose] at hbody hends
  rw [spanAt?_eq_some_iff, liveBraces_append]
  refine ⟨opening, closing, hbraces.append _, ?_⟩
  cases hfind : (ls.drop (closing.line - line)).findIdx? (·.contains ';') with
  | some k => rw [heq, ofBody_append more hbody (by omega) hfind]
  | none =>
    -- no line from the closing one on holds a semicolon, but the last one does
    rw [hfind, Option.getD_none, Nat.add_zero] at hend
    have hmem : l ∈ ls.drop (closing.line - line) := by
      rw [hend] at hl
      apply List.mem_of_getElem? (i := 0)
      rwa [List.getElem?_drop, Nat.add_zero]
    have hnone := List.findIdx?_eq_none_iff.mp hfind l hmem
    simp [hsemicolon] at hnone

theorem sightings_append (more : List (List Char))
    (h : ∀ x ∈ sightings line ls, ∃ s l, x = .found s ∧ ls[s.endLine - line]? = some l ∧ ';' ∈ l) :
    sightings line (ls ++ more) = sightings line ls ++ sightings (line + ls.length) more := by
  fun_induction sightings line ls with
  | case1 line => simp
  | case2 line l ls hopens found hfound ih =>
    obtain ⟨hfirst, hlater⟩ := List.forall_mem_cons.mp h
    obtain ⟨_, last, ⟨⟩, hlast, hsemicolon⟩ := hfirst
    have hspan := spanAt?_append more hfound hlast hsemicolon
    have hends := (spanAt?_isOf hfound).line_le_endLine
    have hinside := (spanAt?_isOf hfound).inside
    rw [List.length_cons] at hinside
    have hdrop : (ls ++ more).drop (found.endLine - line) = ls.drop (found.endLine - line) ++ more :=
      List.drop_append_of_le_length (by omega)
    have hnumber : found.endLine + 1 + (ls.drop (found.endLine - line)).length =
        line + (l :: ls).length := by
      rw [List.length_drop, List.length_cons]
      omega
    rw [List.cons_append] at hspan ⊢
    rw [sightings, if_pos hopens, hspan]
    dsimp only
    rw [hdrop, ih, hnumber, List.cons_append]
    intro x hx
    obtain ⟨s, l', rfl, hl', hsemicolon'⟩ := hlater x hx
    obtain ⟨hstart, hend, -⟩ := mem_sightings hx
    refine ⟨s, l', rfl, ?_, hsemicolon'⟩
    change found.endLine + 1 ≤ s.startLine at hstart
    change s.startLine ≤ s.endLine at hend
    have hindex : s.endLine - line =
        found.endLine - line + (s.endLine - (found.endLine + 1)) + 1 := by omega
    rw [hindex, List.getElem?_cons_succ, ← List.getElem?_drop] at hl'
    exact hl'
  | case3 line l ls hopens hnone ih =>
    obtain ⟨_, _, ⟨⟩, -⟩ := h _ (.head _)
  | case4 line l ls hopens ih =>
    have hnumber : line + 1 + ls.length = line + (l :: ls).length := by
      rw [List.length_cons]
      omega
    rw [List.cons_append, sightings, if_neg hopens, ih, hnumber]
    intro x hx
    obtain ⟨s, l', rfl, hl', hsemicolon⟩ := h x hx
    obtain ⟨hstart, hend, -⟩ := mem_sightings hx
    change line + 1 ≤ s.startLine at hstart
    change s.startLine ≤ s.endLine at hend
    have hindex : s.endLine - line = s.endLine - (line + 1) + 1 := by omega
    rw [hindex, List.getElem?_cons_succ] at hl'
    exact ⟨s, l', rfl, hl', hsemicolon⟩

theorem filterMap_shift (n : Nat) (xs : List Sighting) :
    (xs.map (Sighting.shift n)).filterMap Sighting.span? =
      (xs.filterMap Sighting.span?).map (Span.shift n) := by
  rw [List.filterMap_map, List.map_filterMap]
  congr 1
  funext x
  cases x <;> rfl

theorem structSpans_append {a b : List Char} (ha : a.getLast? = some '\n')
    (hwhole : ∀ k, .unterminated k ∉ sightings 0 (lines a))
    (hsemicolon : ∀ s ∈ structSpans a, ∃ l, (lines a)[s.endLine]? = some l ∧ ';' ∈ l) :
    structSpans (a ++ b) =
      structSpans a ++ (structSpans b).map (Span.shift (lines a).length) := by
  have hlines : lines (a ++ b) = lines a ++ lines b := by
    apply lines_append
    intro c hc
    rw [ha] at hc
    cases hc
    rfl
  have hfound : ∀ x ∈ sightings 0 (lines a),
      ∃ s l, x = .found s ∧ (lines a)[s.endLine - 0]? = some l ∧ ';' ∈ l := by
    intro x hx
    cases x with
    | found s =>
      obtain ⟨l, hl, hmem⟩ := hsemicolon s (structSpans_of_sighted hx)
      exact ⟨s, l, rfl, hl, hmem⟩
    | unterminated k => exact absurd hx (hwhole k)
  have hbehind := @sightings_shift 0 (lines a).length (lines b)
  rw [structSpans, hlines, sightings_append _ hfound, List.filterMap_append, Nat.zero_add]
  rw [Nat.add_zero] at hbehind
  rw [hbehind, filterMap_shift]
  rfl

theorem structSpans_append_pair :
    let a := "typedef struct \x7b /* \x7d\n */ int a;\n\x7d\nPair;\nint x;\n".toList
    let b := "struct S \x7b\n  struct \x7b int b; \x7d t;\n\x7d s;".toList
    (a.getLast? = some '\n' ∧ (∀ k, .unterminated k ∉ sightings 0 (lines a)) ∧
      ∀ s ∈ structSpans a, ∃ l, (lines a)[s.endLine]? = some l ∧ ';' ∈ l) ∧
    structSpans (a ++ b) =
      [⟨0, 0, 2, 3, "typedef struct \x7b /* \x7d\n */ int a;\n\x7d\nPair;"⟩,
        ⟨5, 5, 7, 7, "struct S \x7b\n  struct \x7b int b; \x7d t;\n\x7d s;"⟩] := by
  intro a b
  let pair : Span := ⟨0, 0, 2, 3, "typedef struct \x7b /* \x7d\n */ int a;\n\x7d\nPair;"⟩
  have hsighted : sightings 0 (lines a) = [.found pair] := by decide +kernel
  have hfound : structSpans a = [pair] := by rw [structSpans, hsighted]; rfl
  have hlast : a.getLast? = some '\n' := by decide +kernel
  have hwhole : ∀ k, .unterminated k ∉ sightings 0 (lines a) := by
    intro k
    simp [hsighted]
  have hsemicolon : ∀ s ∈ structSpans a, ∃ l, (lines a)[s.endLine]? = some l ∧ ';' ∈ l := by
    rw [hfound]
    exact List.forall_mem_singleton.mpr ⟨"Pair;".toList, by decide +kernel, by decide⟩
  refine ⟨⟨hlast, hwhole, hsemicolon⟩, ?_⟩
  rw [structSpans_append hlast hwhole hsemicolon, hfound]
  decide +kernel

end ByteGrid
