import ByteGrid.Proofs.Source.Starts

/-!
Structs outside of everything else. Where the braces before a line are balanced, a struct whose body
opens on that line is missed only behind another struct: from the brace that closes a body on, the lines
belong to that struct up to the next semicolon.
-/

namespace ByteGrid

open ByteGrid.Text

variable {source l : List Char} {ls : List (List Char)} {line k : Nat} {s : Span}

/-- Outside of comments, with the braces before it balanced, a line begins like a struct, and the first
brace that opens from there on is on this line and has a partner. -/
structure TopLevel (ls : List (List Char)) (line : Nat) : Prop where
  begins : ∃ l, ls[line]? = some l ∧ BeginsStruct l
  outside : stateAt ls line = .normal
  balanced : Balanced (liveBraces .normal 0 0 (ls.take line))
  body : ∃ opening closing, opening.line = line ∧
    IsBody opening closing (liveBraces .normal line 0 (ls.drop line))

theorem step_word {c : Char} (h : (isBlank c || isWordChar c) = true) :
    ScanState.step .normal c = .normal ∧ brace? c = none := by
  have hsigns : ['\\', '/', '\x7b', '\x7d'].all (fun d => !(isBlank d || isWordChar d)) = true := by
    decide +kernel
  have hne : ∀ d ∈ ['\\', '/', '\x7b', '\x7d'], c ≠ d := by
    rintro d hd rfl
    simpa [h] using List.all_eq_true.mp hsigns c hd
  simp only [List.forall_mem_cons] at hne
  obtain ⟨hbackslash, hslash, hopen, hclose, -⟩ := hne
  exact ⟨by rw [ScanState.step, if_neg hbackslash, if_neg hslash],
    by rw [brace?, if_neg hopen, if_neg hclose]⟩

theorem lineBraces_words {text rest : List Char} {column : Nat}
    (h : text.all (fun c => isBlank c || isWordChar c) = true) :
    ∃ opening hits, lineBraces .normal line column (text ++ '\x7b' :: rest) = opening :: hits ∧
      opening.line = line ∧ opening.brace = .opening := by
  induction text generalizing column with
  | nil => exact ⟨⟨line, column, .opening⟩, _, rfl, rfl, rfl⟩
  | cons c text ih =>
    obtain ⟨hc, htext⟩ := Bool.and_eq_true_iff.mp h
    obtain ⟨hstep, hbrace⟩ := step_word hc
    rw [List.cons_append, lineBraces_skip (.inr hbrace), hstep]
    exact ih htext

theorem TopLevel.of_words {text rest : List Char} (hl : ls[line]? = some (text ++ '\x7b' :: rest))
    (hbegins : BeginsStruct (text ++ '\x7b' :: rest))
    (htext : text.all (fun c => isBlank c || isWordChar c) = true)
    (houtside : stateAt ls line = .normal)
    (hbalanced : Balanced (liveBraces .normal 0 0 (ls.take line)))
    (hpartner : ∃ inner closing rest, (liveBraces .normal line 0 (ls.drop line)).tail =
      inner ++ closing :: rest ∧ Balanced inner ∧ closing.brace = .closing) : TopLevel ls line := by
  obtain ⟨inner, closing, more, htail, hinner, hclosing⟩ := hpartner
  obtain ⟨hlt, hline⟩ := List.getElem?_eq_some_iff.mp hl
  obtain ⟨opening, hits, hhits, hopening, hbrace⟩ := @lineBraces_words line text rest 0 htext
  rw [List.drop_eq_getElem_cons hlt, hline, liveBraces, hhits, List.cons_append,
    List.tail_cons] at htail
  refine ⟨⟨_, hl, hbegins⟩, houtside, hbalanced, opening, closing, hopening,
    [], inner, more, ?_, List.forall_mem_nil _, hbrace, hinner, hclosing⟩
  rw [List.drop_eq_getElem_cons hlt, hline, liveBraces, hhits, List.cons_append, htail]
  rfl

theorem liveBraces_drop (hle : line ≤ k) (hk : k ≤ ls.length) :
    liveBraces (stateAt ls line) line 0 (ls.drop line) =
      liveBraces (stateAt ls line) line 0 ((ls.drop line).take (k - line)) ++
        liveBraces (stateAt ls k) k 0 (ls.drop k) := by
  have hlength : ((ls.drop line).take (k - line)).length = k - line := by
    rw [List.length_take, List.length_drop]
    omega
  have hsplit := @liveBraces_append line (stateAt ls line) ((ls.drop line).take (k - line))
    ((ls.drop line).drop (k - line))
  rwa [List.take_append_drop, hlength, ← stateAt_add, Nat.add_sub_cancel' hle, List.drop_drop,
    Nat.add_sub_cancel' hle] at hsplit

theorem liveBraces_take (hle : line ≤ k) (hk : k ≤ ls.length) :
    liveBraces .normal 0 0 (ls.take k) = liveBraces .normal 0 0 (ls.take line) ++
      liveBraces (stateAt ls line) line 0 ((ls.drop line).take (k - line)) := by
  have hsplit := @liveBraces_append 0 .normal (ls.take line) ((ls.drop line).take (k - line))
  rwa [← List.take_add, Nat.add_sub_cancel' hle, List.length_take, Nat.zero_add,
    Nat.min_eq_left (hle.trans hk)] at hsplit

theorem TopLevel.reached (h : TopLevel ls k) (hs : spanAt? line (ls.drop line) = some s)
    (hstate : stateAt ls line = .normal) (hlt : line < k) :
    s.bodyOpenLine = k ∨ s.bodyCloseLine < k := by
  obtain ⟨l, hl, -⟩ := h.begins
  obtain ⟨opening, closing, hopening, hbody⟩ := h.body
  have hk := (List.getElem?_eq_some_iff.mp hl).1
  have hdrop := liveBraces_drop hlt.le hk.le
  have hbalanced := h.balanced
  rw [liveBraces_take hlt.le hk.le] at hbalanced
  rw [hstate] at hdrop hbalanced
  rw [h.outside] at hdrop
  -- the braces up to the line hold a whole body, which is then what is found, or close only
  rcases hbalanced.isBody with hskip | ⟨opening, closing, hmem, hinner⟩
  · have hbody' := hbody.skip hskip
    rw [← hdrop] at hbody'
    obtain ⟨t, ht, hopen, -⟩ := spanAt?_of_isBody hbody'
    cases hs.symm.trans ht
    exact .inl (hopen.trans hopening)
  · have hbody' := hinner (liveBraces .normal k 0 (ls.drop k))
    rw [← hdrop] at hbody'
    obtain ⟨t, ht, -, hclose⟩ := spanAt?_of_isBody hbody'
    cases hs.symm.trans ht
    have hline := (mem_liveBraces_line hmem).2
    rw [List.length_take, List.length_drop] at hline
    omega

theorem semicolon_not_mem (hs : s ∈ structSpans source) (hclose : s.bodyCloseLine ≤ k)
    (hend : k < s.endLine) (hl : (lines source)[k]? = some l) : ';' ∉ l := by
  have hspan := structSpans_isOf hs
  have hbody := hspan.opens.trans hspan.closes
  obtain ⟨opening, closing, -, -, heq⟩ := spanAt?_eq_some (structSpans_spanAt? hs)
  have hclosing : s.bodyCloseLine = closing.line := congrArg Span.bodyCloseLine heq
  have hends := congrArg Span.endLine heq
  rw [hclosing] at hclose hbody
  dsimp only at hends
  rw [List.drop_drop, Nat.add_sub_cancel' hbody] at hends
  cases hfind : ((lines source).drop closing.line).findIdx? (·.contains ';') with
  | none =>
    rw [hfind, Option.getD_none] at hends
    omega
  | some n =>
    rw [hfind, Option.getD_some] at hends
    obtain ⟨hn, -, hbefore⟩ := List.findIdx?_eq_some_iff_getElem.mp hfind
    have hl' : ((lines source).drop closing.line)[k - closing.line]? = some l := by
      rw [List.getElem?_drop, Nat.add_sub_cancel' hclose, hl]
    obtain ⟨_, rfl⟩ := List.getElem?_eq_some_iff.mp hl'
    simpa using hbefore (k - closing.line) (by omega)

/-- A struct whose body opens on a line outside of everything else is found, unless the line is in the
tail of a struct before: behind its body, with no semicolon since. What reaches to the line is taken to
start in code, not in a comment. -/
theorem topLevel_found (h : TopLevel (lines source) line)
    (hcode : ∀ s ∈ structSpans source, s.startLine < line → line ≤ s.endLine →
      stateAt (lines source) s.startLine = .normal) :
    ((∃ s ∈ structSpans source, s.bodyOpenLine = line) ↔
      ¬∃ s ∈ structSpans source, s.bodyCloseLine < line ∧ line ≤ s.endLine) ∧
    ∀ s ∈ structSpans source, s.bodyCloseLine < line → line ≤ s.endLine →
      ∀ k l, s.bodyCloseLine ≤ k → k < line → (lines source)[k]? = some l → ';' ∉ l := by
  refine ⟨⟨?_, fun hfree => ?_⟩, fun s hs _ hreaches k l hclose hlt hl =>
    semicolon_not_mem hs hclose (hlt.trans_le hreaches) hl⟩
  · rintro ⟨s, hs, rfl⟩ ⟨t, ht, hclose, hreaches⟩
    have hspan := structSpans_isOf hs
    have hspan' := structSpans_isOf ht
    have hstart := hspan.opens
    have hcloses := hspan.closes
    have hends := hspan.ends
    have hstart' := hspan'.opens
    have hcloses' := hspan'.closes
    rcases structSpans_disjoint hs ht with rfl | hlt | hlt <;> omega
  · obtain ⟨l, hl, hbegins⟩ := h.begins
    obtain ⟨opening, closing, hopening, hbody⟩ := h.body
    rcases found_or_reached hl hbegins hbody with ⟨s, hs, -, hopen⟩ | ⟨s, hs, hstart, hreaches⟩
    · exact ⟨s, hs, hopen.trans hopening⟩
    · rcases h.reached (structSpans_spanAt? hs) (hcode s hs hstart hreaches) hstart with
        hopens | hcloses
      · exact ⟨s, hs, hopens⟩
      · exact absurd ⟨s, hs, hcloses, hreaches⟩ hfree

theorem topLevel_found_prototype :
    let source := "int g(void) \x7b \x7d\nstruct S f(void);\nstruct T \x7b\n  int a;\n\x7d;\n".toList
    TopLevel (lines source) 2 ∧ ∃ s ∈ structSpans source, s.bodyOpenLine = 2 := by
  intro source
  have hl : (lines source)[2]? = some ("struct T ".toList ++ ['\x7b']) := by decide +kernel
  have hbegins : BeginsStruct ("struct T ".toList ++ ['\x7b']) :=
    beginsStruct_of_opens (by decide +kernel)
  have htop : TopLevel (lines source) 2 :=
    .of_words hl hbegins (by decide +kernel) (by decide +kernel) (by decide +kernel)
      ⟨[], ⟨4, 0, .closing⟩, [], by decide +kernel, by decide +kernel, rfl⟩
  exact ⟨htop, (topLevel_found htop (by decide +kernel)).1.mpr (by decide +kernel)⟩

/-- A struct behind a function that returns one is missed: it is in the tail of what is found first. -/
theorem topLevel_missed :
    let source := "struct S f(void) \x7b\n\x7d\nstruct T \x7b\n  int a;\n\x7d;\n".toList
    TopLevel (lines source) 2 ∧ ¬∃ s ∈ structSpans source, s.bodyOpenLine = 2 := by
  intro source
  have hl : (lines source)[2]? = some ("struct T ".toList ++ ['\x7b']) := by decide +kernel
  have hbegins : BeginsStruct ("struct T ".toList ++ ['\x7b']) :=
    beginsStruct_of_opens (by decide +kernel)
  refine ⟨.of_words hl hbegins (by decide +kernel) (by decide +kernel) (by decide +kernel)
    ⟨[], ⟨4, 0, .closing⟩, [], by decide +kernel, by decide +kernel, rfl⟩, by decide +kernel⟩

end ByteGrid
