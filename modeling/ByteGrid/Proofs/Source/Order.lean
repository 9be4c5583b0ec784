import ByteGrid.Proofs.Source.Bodies
import ByteGrid.Proofs.Text.Blank
import ByteGrid.Source.Span

namespace ByteGrid

open ByteGrid.Text

variable {line : Nat} {ls : List (List Char)} {s : Span}

structure Span.IsOf (s : Span) (line : Nat) (ls : List (List Char)) : Prop where
  start : s.startLine = line
  opens : line ≤ s.bodyOpenLine
  closes : s.bodyOpenLine ≤ s.bodyCloseLine
  ends : s.bodyCloseLine ≤ s.endLine
  inside : s.endLine < line + ls.length
  text : s.text = String.ofList (['\n'].intercalate (ls.take (s.endLine - line + 1)))

theorem Span.IsOf.line_le_endLine (h : s.IsOf line ls) : line ≤ s.endLine :=
  h.opens.trans (h.closes.trans h.ends)

theorem mem_liveBraces_line {hit : BraceHit} {state : ScanState}
    (h : hit ∈ liveBraces state line 0 ls) : line ≤ hit.line ∧ hit.line < line + ls.length := by
  obtain ⟨hle, before, c, rest, hline, -⟩ := mem_liveBraces.mp h
  obtain ⟨hlt, -⟩ := List.getElem?_eq_some_iff.mp hline
  omega

theorem spanAt?_eq_some (h : spanAt? line ls = some s) :
    let scanner : Scanner := { line, column := 0, inComment := false, pending := ls }
    ∃ opening closing, scanner.findOpening.1 = some opening ∧
      scanner.findOpening.2.findMatching.1 = some closing ∧
      let toEnd := (ls.drop (closing.line - line)).findIdx? (·.contains ';')
      let endLine := closing.line + toEnd.getD 0
      s = ⟨line, opening.line, closing.line, endLine,
        String.ofList (['\n'].intercalate (ls.take (endLine - line + 1)))⟩ := by
  obtain ⟨opening, hopening, h⟩ := Option.bind_eq_some_iff.mp h
  obtain ⟨closing, hclosing, h⟩ := Option.bind_eq_some_iff.mp h
  cases h
  exact ⟨opening, closing, hopening, hclosing, rfl⟩

theorem spanAt?_isBody (h : spanAt? line ls = some s) : ∃ opening closing,
    IsBody opening closing (liveBraces .normal line 0 ls) ∧ s.bodyOpenLine = opening.line ∧
      s.bodyCloseLine = closing.line := by
  obtain ⟨opening, closing, hopening, hclosing, rfl⟩ := spanAt?_eq_some h
  obtain ⟨skipped, hahead, hskipped, hbrace⟩ := Scanner.findOpening_ahead hopening
  obtain ⟨inner, rest, hbehind, hinner, hlast⟩ := Scanner.findMatching_eq_some_iff.mp hclosing
  refine ⟨opening, closing, ⟨skipped, inner, rest, ?_, hskipped, hbrace, hinner, hlast⟩, rfl, rfl⟩
  rw [← hbehind]
  exact hahead

theorem spanAt?_of_isBody {opening closing : BraceHit}
    (h : IsBody opening closing (liveBraces .normal line 0 ls)) :
    ∃ s, spanAt? line ls = some s ∧ s.bodyOpenLine = opening.line ∧
      s.bodyCloseLine = closing.line := by
  obtain ⟨skipped, inner, rest, hahead, hskipped, hbrace, hinner, hlast⟩ := h
  let scanner : Scanner := { line, column := 0, inComment := false, pending := ls }
  obtain ⟨hopening, hbehind⟩ :=
    @Scanner.findOpening_of_skipped opening scanner skipped _ hahead hskipped hbrace
  have hclosing := Scanner.findMatching_eq_some_iff.mpr ⟨inner, rest, hbehind, hinner, hlast⟩
  simp only [spanAt?, scanner] at hopening hclosing ⊢
  simp [hopening, hclosing]

theorem spanAt?_isOf (h : spanAt? line ls = some s) : s.IsOf line ls := by
  obtain ⟨opening, closing, hopening, hclosing, rfl⟩ := spanAt?_eq_some h
  obtain ⟨skipped, hahead, -, -⟩ := Scanner.findOpening_ahead hopening
  change liveBraces .normal line 0 ls = _ at hahead
  obtain ⟨inner, rest, hbehind, -⟩ := Scanner.findMatching_eq_some_iff.mp hclosing
  have hlast : closing ∈ _ := hbehind ▸ List.mem_append_right _ (.head _)
  have hbefore : opening.Before closing := by
    have hordered := @liveBraces_pairwise line 0 .normal ls
    rw [hahead] at hordered
    exact (List.pairwise_cons.mp (List.pairwise_append.mp hordered).2.1).1 _ hlast
  have hopens := mem_liveBraces_line (hahead ▸ List.mem_append_right _ (.head _))
  have hcloses := mem_liveBraces_line (hahead ▸ List.mem_append_right _ (.tail _ hlast))
  have hle : opening.line ≤ closing.line := by
    rcases hbefore with hlt | ⟨heq, -⟩ <;> omega
  refine ⟨rfl, hopens.1, hle, Nat.le_add_right _ _, ?_, rfl⟩
  dsimp only
  cases hend : (ls.drop (closing.line - line)).findIdx? (·.contains ';') with
  | none => simpa using hcloses.2
  | some k =>
    have hk := (List.findIdx?_eq_some_iff_getElem.mp hend).1
    rw [List.length_drop] at hk
    rw [Option.getD_some]
    omega

def Sighting.startLine : Sighting → Nat
  | .found s => s.startLine
  | .unterminated line => line

def Sighting.endLine : Sighting → Nat
  | .found s => s.endLine
  | .unterminated line => line

theorem drop_drop_line {mid n : Nat} (hmid : line ≤ mid) (hn : mid ≤ n) :
    (ls.drop (mid - line)).drop (n - mid) = ls.drop (n - line) := by
  rw [List.drop_drop]
  congr 1
  omega

theorem mem_sightings {x : Sighting} (h : x ∈ sightings line ls) :
    line ≤ x.startLine ∧ x.startLine ≤ x.endLine ∧
      (∃ l ∈ (ls.drop (x.startLine - line)).head?, opensStruct l = true) ∧
      ∀ s ∈ x.span?, spanAt? x.startLine (ls.drop (x.startLine - line)) = some s := by
  fun_induction sightings line ls with
  | case1 => cases h
  | case2 line l ls hopens found hfound ih =>
    have hspan := spanAt?_isOf hfound
    have hends := hspan.line_le_endLine
    rcases List.mem_cons.mp h with rfl | h
    · rw [Sighting.startLine, hspan.start, Nat.sub_self]
      refine ⟨Nat.le_refl _, hends, ⟨l, rfl, hopens⟩, ?_⟩
      rintro s ⟨⟩
      exact hfound
    · obtain ⟨hstart, hend, hline, hfind⟩ := ih h
      have hdrop : ls.drop (found.endLine - line) = (l :: ls).drop (found.endLine + 1 - line) := by
        rw [Nat.sub_add_comm hends, List.drop_succ_cons]
      rw [hdrop, drop_drop_line (by omega) hstart] at hline hfind
      exact ⟨by omega, hend, hline, hfind⟩
  | case3 line l ls hopens hnone ih =>
    rcases List.mem_cons.mp h with rfl | h
    · rw [Sighting.startLine, Nat.sub_self]
      exact ⟨Nat.le_refl _, Nat.le_refl _, ⟨l, rfl, hopens⟩, nofun⟩
    · obtain ⟨hstart, hend, hline, hfind⟩ := ih h
      have hdrop : ls = (l :: ls).drop (line + 1 - line) := by rw [Nat.add_sub_cancel_left]; rfl
      rw [hdrop, drop_drop_line (by omega) hstart] at hline hfind
      exact ⟨by omega, hend, hline, hfind⟩
  | case4 line l ls hopens ih =>
    obtain ⟨hstart, hend, hline, hfind⟩ := ih h
    have hdrop : ls = (l :: ls).drop (line + 1 - line) := by rw [Nat.add_sub_cancel_left]; rfl
    rw [hdrop, drop_drop_line (by omega) hstart] at hline hfind
    exact ⟨by omega, hend, hline, hfind⟩

theorem sightings_pairwise (line : Nat) (ls : List (List Char)) :
    (sightings line ls).Pairwise (·.endLine < ·.startLine) := by
  fun_induction sightings line ls with
  | case1 => exact .nil
  | case2 line l ls _ found hfound ih => exact .cons (fun x hx => (mem_sightings hx).1) ih
  | case3 line l ls _ _ ih => exact .cons (fun x hx => (mem_sightings hx).1) ih
  | case4 line l ls _ ih => exact ih

theorem mem_structSpans {source : List Char} (h : s ∈ structSpans source) :
    .found s ∈ sightings 0 (lines source) := by
  obtain ⟨x, hx, hs⟩ := List.mem_filterMap.mp h
  cases x with
  | found t =>
    cases hs
    exact hx
  | unterminated => cases hs

theorem structSpans_spanAt? {source : List Char} (h : s ∈ structSpans source) :
    spanAt? s.startLine ((lines source).drop s.startLine) = some s := by
  obtain ⟨-, -, -, hfind⟩ := mem_sightings (mem_structSpans h)
  exact hfind s rfl

theorem structSpans_isOf {source : List Char} (h : s ∈ structSpans source) :
    s.IsOf s.startLine ((lines source).drop s.startLine) :=
  spanAt?_isOf (structSpans_spanAt? h)

theorem structSpans_endLine_lt {source : List Char} (h : s ∈ structSpans source) :
    s.endLine < (lines source).length := by
  have hspan := structSpans_isOf h
  have hinside := hspan.inside
  have hle := hspan.line_le_endLine
  rw [List.length_drop] at hinside
  omega

theorem structSpans_apart (source : List Char) :
    (structSpans source).Pairwise (·.endLine < ·.startLine) := by
  refine List.Pairwise.filterMap _ ?_ (sightings_pairwise 0 (lines source))
  rintro (a | a) (b | b) hlt s ⟨⟩ t ⟨⟩
  exact hlt

theorem structSpans_pairwise (source : List Char) :
    (structSpans source).Pairwise (·.startLine < ·.startLine) := by
  refine (structSpans_apart source).imp_of_mem fun {s t} hs _ hlt => ?_
  exact (structSpans_isOf hs).line_le_endLine.trans_lt hlt

/-- Behind blanks, the line begins with `struct` or `typedef struct`, and the keyword ends there. -/
def BeginsStruct (line : List Char) : Prop :=
  ∃ indent keyword rest, line = indent ++ (keyword ++ rest) ∧ AllBlank indent ∧
    (keyword = "struct".toList ∨ ∃ gap, gap ≠ [] ∧ AllBlank gap ∧
      keyword = "typedef".toList ++ (gap ++ "struct".toList)) ∧
    ∀ c ∈ rest.head?, isWordChar c = false

theorem afterTypedef?_eq_some {cs rest : List Char} (h : afterTypedef? cs = some rest) :
    ∃ gap, gap ≠ [] ∧ AllBlank gap ∧ cs = "typedef".toList ++ (gap ++ rest) := by
  unfold afterTypedef? at h
  split at h
  · rename_i c after hprefix
    obtain ⟨hblank, h⟩ := Option.ite_none_right_eq_some.mp h
    cases h
    obtain ⟨gap, heq, hgap, -⟩ := trimStart_eq_iff.mp (Eq.refl (trimStart after))
    refine ⟨c :: gap, List.cons_ne_nil _ _, List.forall_mem_cons.mpr ⟨hblank, hgap⟩, ?_⟩
    rw [List.cons_append, ← heq, List.append_eq_of_isPrefixOf?_eq_some hprefix]
  · cases h

theorem beginsStruct_of_opens {line : List Char} (h : opensStruct line = true) : BeginsStruct line := by
  obtain ⟨indent, trail, hindent, htrail, hline⟩ := trim_eq line
  unfold opensStruct at h
  dsimp only at h
  split at h
  · rename_i rest hprefix
    have hstruct := List.append_eq_of_isPrefixOf?_eq_some hprefix
    have hrest : ∀ c ∈ (rest ++ trail).head?, isWordChar c = false := by
      intro c hc
      cases rest with
      | nil => exact isWordChar_of_blank (htrail c (List.mem_of_mem_head? hc))
      | cons d rest =>
        cases hc
        simpa using h
    cases htypedef : afterTypedef? (trim line) with
    | none =>
      rw [htypedef, Option.getD_none] at hstruct
      refine ⟨indent, _, rest ++ trail, ?_, hindent, .inl rfl, hrest⟩
      rw [hline, ← hstruct]
      simp only [List.append_assoc]
    | some after =>
      rw [htypedef, Option.getD_some] at hstruct
      obtain ⟨gap, hgap, hblank, heq⟩ := afterTypedef?_eq_some htypedef
      refine ⟨indent, _, rest ++ trail, ?_, hindent, .inr ⟨gap, hgap, hblank, rfl⟩, hrest⟩
      rw [hline, heq, ← hstruct]
      simp only [List.append_assoc]
  · cases h

theorem find?_eq_some_iff_mem {p : α → Bool} {as : List α} {a : α}
    (h : as.Pairwise fun a b => p a = true → p b = false) :
    as.find? p = some a ↔ a ∈ as ∧ p a = true := by
  constructor
  · exact fun hfind => ⟨List.mem_of_find?_eq_some hfind, List.find?_some hfind⟩
  · rintro ⟨ha, hp⟩
    induction as with
    | nil => cases ha
    | cons b as ih =>
      obtain ⟨hb, has⟩ := List.pairwise_cons.mp h
      rcases List.mem_cons.mp ha with rfl | ha
      · exact List.find?_cons_of_pos hp
      · cases hpb : p b with
        | true => rw [hb a ha hpb] at hp; cases hp
        | false => rw [List.find?_cons_of_neg (by simp [hpb]), ih has ha]

theorem enclosingStruct?_eq_some_iff {source : List Char} {line : Nat} :
    enclosingStruct? source line = some s ↔
      s ∈ structSpans source ∧ s.bodyOpenLine ≤ line ∧ line ≤ s.bodyCloseLine := by
  have hcontains (t : Span) :
      t.bodyContains line = true ↔ t.bodyOpenLine ≤ line ∧ line ≤ t.bodyCloseLine := by
    simp [Span.bodyContains]
  have hone : (structSpans source).Pairwise fun a b =>
      a.bodyContains line = true → b.bodyContains line = false := by
    refine (structSpans_apart source).imp_of_mem fun {a b} ha hb hlt hline => ?_
    have hends := (structSpans_isOf ha).ends
    have hopens := (structSpans_isOf hb).opens
    rw [← Bool.not_eq_true, hcontains]
    rw [hcontains] at hline
    omega
  rw [← hcontains, ← find?_eq_some_iff_mem hone, enclosingStruct?]
  split
  · rfl
  · rename_i hline
    refine iff_of_false nofun fun hfind => ?_
    obtain ⟨hs, hbody⟩ := (find?_eq_some_iff_mem hone).mp hfind
    have hends := (structSpans_isOf hs).ends
    have hinside := structSpans_endLine_lt hs
    rw [hcontains] at hbody
    omega

def withoutReturn (l : List Char) : List Char :=
  if l.getLast? = some '\r' then l.dropLast else l

theorem withoutReturn_cons {c : Char} {l : List Char} (h : c = '\r' → l ≠ []) :
    withoutReturn (c :: l) = c :: withoutReturn l := by
  cases l with
  | nil => simpa [withoutReturn] using fun hc => h hc rfl
  | cons d l =>
    rw [withoutReturn, withoutReturn, List.getLast?_cons_cons, List.dropLast_cons_cons]
    split <;> rfl

/-- The lines that parts of a text make up if a line feed stands between any two of them. -/
def linesOfParts (parts : List (List Char)) : List (List Char) :=
  parts.dropLast.map withoutReturn ++ (parts.getLast?.filter (· ≠ [])).toList

theorem linesOfParts_cons_cons (part part' : List Char) (parts : List (List Char)) :
    linesOfParts (part :: part' :: parts) = withoutReturn part :: linesOfParts (part' :: parts) := by
  rw [linesOfParts, linesOfParts, List.dropLast_cons_cons, List.getLast?_cons_cons]
  rfl

theorem linesOfParts_eq_nil {parts : List (List Char)} (h : linesOfParts parts = [])
    (hne : parts ≠ []) : parts = [[]] := by
  match parts with
  | [part] => simpa [linesOfParts] using h
  | part :: part' :: parts => simp [linesOfParts_cons_cons] at h

theorem splitOn_feed (cs : List Char) :
    ∃ part parts, cs.splitOn '\n' = part :: parts ∧ ('\n' :: cs).splitOn '\n' = [] :: part :: parts := by
  obtain ⟨part, parts, hparts⟩ := List.exists_cons_of_ne_nil (List.splitOn_ne_nil '\n' cs)
  refine ⟨part, parts, hparts, ?_⟩
  rw [List.splitOn_cons_eq_if_modifyHead, if_pos (beq_self_eq_true _), hparts]

theorem splitOn_sign {c : Char} (hc : c ≠ '\n') (cs : List Char) :
    ∃ part parts, cs.splitOn '\n' = part :: parts ∧ (c :: cs).splitOn '\n' = (c :: part) :: parts := by
  obtain ⟨part, parts, hparts⟩ := List.exists_cons_of_ne_nil (List.splitOn_ne_nil '\n' cs)
  refine ⟨part, parts, hparts, ?_⟩
  rw [List.splitOn_cons_eq_if_modifyHead, if_neg (by simpa using hc), hparts, List.modifyHead_cons]

theorem head?_of_splitOn {cs part : List Char} {parts : List (List Char)}
    (h : cs.splitOn '\n' = [] :: part :: parts) : cs.head? = some '\n' := by
  cases cs with
  | nil => cases h
  | cons d cs =>
    by_cases hd : d = '\n'
    · exact congrArg some hd
    · obtain ⟨_, _, -, hsplit⟩ := splitOn_sign hd cs
      rw [hsplit] at h
      cases h

theorem lines_splitOn (cs : List Char) : lines cs = linesOfParts (cs.splitOn '\n') := by
  fun_induction lines cs with
  | case1 => rfl
  | case2 cs ih =>
    obtain ⟨part, parts, hparts, hsplit⟩ := splitOn_feed cs
    rw [ih, hparts, hsplit]
    rfl
  | case3 c cs hc hreturn ih =>
    obtain ⟨rfl, hhead⟩ := hreturn
    obtain ⟨rest, rfl⟩ := List.head?_eq_some_iff.mp hhead
    obtain ⟨_, _, hfeed, hsplit⟩ := splitOn_sign hc ('\n' :: rest)
    obtain ⟨part, parts, -, hrest⟩ := splitOn_feed rest
    rw [hrest] at ih hfeed
    cases hfeed
    rw [ih, hsplit]
    rfl
  | case4 c cs hc hreturn hnil ih =>
    obtain ⟨part, parts, hparts, hsplit⟩ := splitOn_sign hc cs
    obtain ⟨rfl, rfl⟩ := List.cons.inj
      (hparts.symm.trans (linesOfParts_eq_nil (ih.symm.trans hnil) (List.splitOn_ne_nil _ _)))
    rw [hsplit]
    rfl
  | case5 c cs hc hreturn l ls hlines ih =>
    obtain ⟨part, parts, hparts, hsplit⟩ := splitOn_sign hc cs
    rw [hlines, hparts] at ih
    rw [hsplit]
    cases parts with
    | nil =>
      cases part with
      | nil => cases ih
      | cons d part =>
        cases ih
        rfl
    | cons part' parts =>
      rw [linesOfParts_cons_cons] at ih ⊢
      obtain ⟨rfl, rfl⟩ := List.cons.inj ih
      rw [withoutReturn_cons]
      rintro hcr rfl
      exact hreturn ⟨hcr, head?_of_splitOn hparts⟩

theorem structSpans_exact (source : List Char) :
    lines source = linesOfParts (source.splitOn '\n') ∧
    (∀ s ∈ structSpans source,
      s.startLine ≤ s.bodyOpenLine ∧ s.bodyOpenLine ≤ s.bodyCloseLine ∧
      s.bodyCloseLine ≤ s.endLine ∧ s.endLine < (lines source).length ∧
      (∃ l, (lines source)[s.startLine]? = some l ∧ trim l ≠ [] ∧ BeginsStruct l) ∧
      s.text = String.ofList (['\n'].intercalate
        (((lines source).drop s.startLine).take (s.endLine - s.startLine + 1)))) ∧
    (structSpans source).Pairwise (·.endLine < ·.startLine) ∧
    (sightings 0 (lines source)).Pairwise (·.endLine < ·.startLine) ∧
    ∀ line s, enclosingStruct? source line = some s ↔
      s ∈ structSpans source ∧ s.bodyOpenLine ≤ line ∧ line ≤ s.bodyCloseLine := by
  refine ⟨lines_splitOn source, fun s hs => ?_, structSpans_apart source, sightings_pairwise 0 _,
    fun line s => enclosingStruct?_eq_some_iff⟩
  have hspan := structSpans_isOf hs
  obtain ⟨-, -, ⟨l, hl, hopens⟩, -⟩ := mem_sightings (mem_structSpans hs)
  refine ⟨hspan.opens, hspan.closes, hspan.ends, structSpans_endLine_lt hs,
    ⟨l, ?_, ?_, beginsStruct_of_opens hopens⟩, hspan.text⟩
  · rwa [List.head?_drop] at hl
  · intro hempty
    rw [opensStruct, hempty] at hopens
    cases hopens

end ByteGrid
