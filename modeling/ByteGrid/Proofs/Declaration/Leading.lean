import ByteGrid.Proofs.Declaration.Members
import ByteGrid.Proofs.Declaration.Search
import ByteGrid.Proofs.Source.Order
import ByteGrid.Proofs.Source.Plain

/-!
The struct that is read first in the text of a struct. Structs are searched for by their braces, and
read by their keywords and signs; in plain text both ways lead to the same body.
-/

namespace ByteGrid

open ByteGrid.Text

variable {form : List Char → Option StructText} {code cs key : List Char} {s : StructText}

theorem leadingOf_eq_some (h : leadingOf form cs = some s) :
    ∃ front rest, cs = front ++ rest ∧ BraceFree front ∧ form rest = some s := by
  unfold leadingOf at h
  split at h
  · cases h
  · rename_i place t more hstructs
    obtain ⟨hfront, h⟩ := Option.ite_none_left_eq_some.mp h
    cases h
    obtain ⟨front, rest, rfl, hplace, hrest⟩ := structsFrom_head hstructs
    rw [Nat.zero_add] at hplace
    refine ⟨front, rest, rfl, ?_, hrest⟩
    simpa [BraceFree, hplace] using hfront

theorem StructText.Opens.body (hkey : Unbroken key) (h : s.Opens key cs) : ∃ front after,
    cs = front ++ '\x7b' :: (s.body ++ '\x7d' :: after) ∧ BraceFree front ∧ BraceFree s.body := by
  obtain ⟨gap, u, after, rfl, hgap, -, hu, hbody⟩ := h
  have hfront := unbroken_append hkey (unbroken_append (allBlank_unbroken hgap.2) hu)
  exact ⟨key ++ (gap ++ u), after, by simp only [List.append_assoc], hfront.braceFree, hbody⟩

theorem leadingText?_body (h : leadingText? code = some s) : ∃ front after,
    normalize code = front ++ '\x7b' :: (s.body ++ '\x7d' :: after) ∧ BraceFree front ∧
      BraceFree s.body := by
  have hkey {w : List Char} (hw : IsWord w) {cs rest front : List Char} (hopens : s.Opens w rest)
      (hcs : cs = front ++ rest) (hfront : BraceFree front) : ∃ front after,
      cs = front ++ '\x7b' :: (s.body ++ '\x7d' :: after) ∧ BraceFree front ∧ BraceFree s.body := by
    obtain ⟨front', after, rfl, hfront', hbody⟩ := hopens.body hw.unbroken
    exact ⟨front ++ front', after, by rw [hcs, List.append_assoc], braceFree_append hfront hfront', hbody⟩
  rcases Option.or_eq_some_iff.mp h with h | ⟨-, h⟩
  · obtain ⟨front, rest, heq, hfront, hrest⟩ := leadingOf_eq_some h
    exact hkey isWord_typedef (typedefStruct?_opens hrest) heq hfront
  · obtain ⟨front, rest, heq, hfront, hrest⟩ := leadingOf_eq_some h
    exact hkey isWord_struct (namedStruct?_opens hrest) heq hfront

theorem leadingStruct?_body {d : Declaration} (hplain : Plain code)
    (h : leadingStruct? code = some d) : ∃ before body after,
    code = before ++ '\x7b' :: (body ++ '\x7d' :: after) ∧ BraceFree before ∧ BraceFree body ∧
      d.members = readMembers body := by
  obtain ⟨s, hs, rfl⟩ := Option.map_eq_some_iff.mp h
  obtain ⟨front, after, hfront⟩ := leadingText?_body hs
  rw [normalize_plain hplain, squeeze_eq] at hfront
  obtain ⟨hfront, hclear, hbody⟩ := hfront
  obtain ⟨lead, trail, hlead, -, hcollapse⟩ := trim_eq (collapse code)
  rw [hfront] at hcollapse
  have hopening : collapse code = (lead ++ front) ++
      '\x7b' :: (s.body ++ '\x7d' :: (after ++ trail)) := by
    rw [hcollapse]
    simp only [List.append_assoc, List.cons_append]
  have hblank (c : Char) (hc : (!isBrace c) = false) : isBlank c = false :=
    isBlank_of_brace (by simpa using hc)
  have hclear' : BraceFree (lead ++ front) :=
    braceFree_append (allBlank_unbroken hlead).braceFree hclear
  obtain ⟨before, rest, rfl, -, hrest, hbefore⟩ :=
    collapse_eq_append_cons hblank hopening (braceFree_iff.mp hclear') rfl
  obtain ⟨body, after', rfl, hbody', -, hbefore'⟩ :=
    collapse_eq_append_cons hblank hrest (braceFree_iff.mp hbody) rfl
  refine ⟨before, body, after', rfl, braceFree_iff.mpr hbefore, braceFree_iff.mpr hbefore', ?_⟩
  rw [StructText.declaration, ← hbody', readMembers_collapse]

theorem lines_plain {source : List Char} (h : Plain source) :
    ∀ l ∈ lines source, Plain l ∧ '\n' ∉ l :=
  fun l hl => ⟨h.part ((lines_parts source).2 l hl).1, ((lines_parts source).2 l hl).2⟩

theorem span_ahead {source : List Char} {span : Span} (hplain : Plain source)
    (hspan : span ∈ structSpans source) : Plain span.text.toList ∧
    ∃ more, (Scanner.start (lines source) span.startLine).ahead =
      textBraces (span.startLine, 0) span.text.toList ++ more := by
  have htext := congrArg String.toList (structSpans_isOf hspan).text
  rw [String.toList_ofList] at htext
  have hlines : ∀ l ∈ ((lines source).drop span.startLine).take (span.endLine - span.startLine + 1),
      Plain l ∧ '\n' ∉ l :=
    fun l hl => lines_plain hplain l (List.mem_of_mem_drop (List.mem_of_mem_take hl))
  have happend := @liveBraces_append span.startLine .normal
    (((lines source).drop span.startLine).take (span.endLine - span.startLine + 1))
    (((lines source).drop span.startLine).drop (span.endLine - span.startLine + 1))
  rw [List.take_append_drop] at happend
  rw [htext, ← liveBraces_plain hlines]
  exact ⟨plain_intercalate fun l hl => (hlines l hl).1, _, happend⟩

theorem leading_body_matched {source : List Char} {line : Nat} {span : Span} {d : Declaration}
    (hplain : Plain source) (hspan : enclosingStruct? source line = some span)
    (hd : leadingStruct? span.text.toList = some d) :
    let scanner := Scanner.start (lines source) span.startLine
    ∃ opening closing before body after,
      scanner.findOpening.1 = some opening ∧
      scanner.findOpening.2.next.1 = some closing ∧
      scanner.findOpening.2.findMatching.1 = some closing ∧
      opening.line ≤ line ∧ line ≤ closing.line ∧
      span.text.toList = before ++ '\x7b' :: (body ++ '\x7d' :: after) ∧
      (opening.line, opening.column) = placeAfter (span.startLine, 0) before ∧
      (closing.line, closing.column) = placeAfter (span.startLine, 0) (before ++ '\x7b' :: body) ∧
      d.members = readMembers body := by
  intro scanner
  obtain ⟨hmem, hopens, hcloses⟩ := enclosingStruct?_eq_some_iff.mp hspan
  obtain ⟨hplain', more, hahead⟩ := span_ahead hplain hmem
  obtain ⟨before, body, after, htext, hbefore, hbody, hmembers⟩ := leadingStruct?_body hplain' hd
  rw [htext, textBraces_next hbefore rfl, textBraces_next hbody rfl, List.cons_append,
    List.cons_append, ← placeAfter_append] at hahead
  obtain ⟨hopening, hnext, hclosing⟩ := Scanner.find_of_ahead hahead rfl rfl
  -- the lines of the body are those of the two braces
  obtain ⟨opening, closing, hopening', hclosing', hlines⟩ :=
    spanAt?_eq_some (structSpans_spanAt? hmem)
  obtain rfl := Option.some.inj (hopening.symm.trans hopening')
  obtain rfl := Option.some.inj (hclosing.symm.trans hclosing')
  rw [hlines] at hopens hcloses
  refine ⟨_, _, before, body, after, hopening, hnext, hclosing, hopens, hcloses, htext, rfl, ?_,
    hmembers⟩
  rw [List.append_assoc]
  rfl

def pairSource : List Char :=
  "typedef struct Pair \x7b\n  int a;\n  char b; \x7d Pair; struct Later \x7b\n  int c; \x7d;\n".toList

def pairSpan : Span :=
  { startLine := 0, bodyOpenLine := 0, bodyCloseLine := 2, endLine := 2
    text := "typedef struct Pair \x7b\n  int a;\n  char b; \x7d Pair; struct Later \x7b" }

def pairDeclaration : Declaration :=
  { name := "Pair", members := [.new "a" "int", .new "b" "char"] }

theorem leading_body_matched_pair :
    (Plain pairSource ∧ enclosingStruct? pairSource 1 = some pairSpan ∧
      leadingStruct? pairSpan.text.toList = some pairDeclaration) ∧
    let scanner := Scanner.start (lines pairSource) 0
    ∃ opening closing body, scanner.findOpening.1 = some opening ∧
      scanner.findOpening.2.next.1 = some closing ∧
      scanner.findOpening.2.findMatching.1 = some closing ∧
      pairDeclaration.members = readMembers body := by
  have hplain : Plain pairSource := by decide +kernel
  have hspan : enclosingStruct? pairSource 1 = some pairSpan := by decide +kernel
  have hd : leadingStruct? pairSpan.text.toList = some pairDeclaration := by decide +kernel
  obtain ⟨opening, closing, before, body, after, hopening, hnext, hclosing, -, -, -, -, -, hmembers⟩ :=
    leading_body_matched hplain hspan hd
  exact ⟨⟨hplain, hspan, hd⟩, opening, closing, body, hopening, hnext, hclosing, hmembers⟩

end ByteGrid
