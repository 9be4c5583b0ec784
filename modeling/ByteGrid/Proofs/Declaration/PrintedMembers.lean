import ByteGrid.Proofs.Declaration.Members
import ByteGrid.Proofs.Fields

namespace ByteGrid

open ByteGrid.Text

variable {m : Member} {n : Nat} {c : Char} {cs u w : List Char}

structure Member.Printable (m : Member) : Prop extends m.InWords where
  isFunctionPointer : m.isFunctionPointer = false
  name : isIdentifier m.name.toList = true
  typeName : ∃ ws, m.typeName = String.ofList (joinWords ws) ∧ ws ≠ [] ∧
    ∀ w ∈ ws, isIdentifier w = true ∧ w ∉ ignoredWords

def dimensionText (n : Nat) : List Char :=
  if n = 1 then [] else '[' :: (digits n ++ [']'])

def widthText : Option Nat → List Char
  | none => []
  | some n => ' ' :: ':' :: ' ' :: digits n

def starText (isPointer : Bool) : List Char :=
  if isPointer then ['*'] else []

theorem mem_starText {isPointer : Bool} (hc : c ∈ starText isPointer) : c = '*' := by
  cases isPointer with
  | false => cases hc
  | true => exact List.mem_singleton.mp hc

theorem mem_dimensionText (hc : c ∈ dimensionText n) : isWordChar c = true ∨ c ∈ ['[', ']'] := by
  unfold dimensionText at hc
  split at hc
  · cases hc
  · have hdigits := @digits_wordChar n c
    grind

theorem mem_widthText {width : Option Nat} (hc : c ∈ widthText width) :
    isWordChar c = true ∨ c ∈ [' ', ':'] := by
  cases width with
  | none => cases hc
  | some n =>
    have hdigits := @digits_wordChar n c
    rw [widthText] at hc
    grind

def Member.front (m : Member) : List Char :=
  m.typeName.toList ++ ' ' :: (starText m.isPointer ++ m.name.toList)

theorem Member.print_eq (m : Member) :
    m.print.toList = m.front ++ (dimensionText m.arrayLength ++ widthText m.bitWidth) := by
  obtain ⟨name, typeName, isPointer, isFunctionPointer, n, width⟩ := m
  by_cases hn : n = 1 <;> cases isPointer <;> cases width <;>
    simp [print, front, starText, dimensionText, widthText, decimal, digits, hn]

theorem Member.Printable.mem_front (h : m.Printable) (hc : c ∈ m.front) :
    isWordChar c = true ∨ c ∈ ' ' :: starText m.isPointer := by
  obtain ⟨ws, htype, -, hws⟩ := h.typeName
  rw [Member.front, htype, String.toList_ofList, List.mem_append, List.mem_cons, List.mem_append] at hc
  rcases hc with hc | rfl | hc | hc
  · rcases mem_joinWords hc with rfl | ⟨w, hw, hc⟩
    · exact .inr (.head _)
    · exact .inl ((isIdentifier_word (hws w hw).1).2 c hc)
  · exact .inr (.head _)
  · exact .inr (.tail _ hc)
  · exact .inl ((isIdentifier_word h.name).2 c hc)

theorem Member.Printable.mem_print (h : m.Printable) (hc : c ∈ m.print.toList) :
    isWordChar c = true ∨ c ∈ [' ', '*', '[', ']', ':'] := by
  rw [Member.print_eq, List.mem_append, List.mem_append] at hc
  rcases hc with hc | hc | hc
  · refine (h.mem_front hc).imp_right fun hc => ?_
    rcases List.mem_cons.mp hc with rfl | hc
    · exact .head _
    · rw [mem_starText hc]
      exact .tail _ (.head _)
  · exact (mem_dimensionText hc).imp_right fun hc => by grind
  · exact (mem_widthText hc).imp_right fun hc => by grind

theorem arrayLength_dimensionText {gap : List Char} (hu : '[' ∉ u) (hgap : '[' ∉ gap)
    (hn : n < wordBound) : arrayLength (u ++ (dimensionText n ++ gap)) = n := by
  have hnone : bracketed none gap = [] := by
    have happend := @bracketed_append gap [] hgap
    rwa [List.append_nil] at happend
  rw [arrayLength, dimensions, bracketed_append hu]
  unfold dimensionText
  split
  · rename_i hone
    rw [List.nil_append, hnone, hone]
    rfl
  · have hinside : ']' ∉ digits n := fun hc => absurd (isDigit_of_digits hc) (by decide)
    have hbrackets : bracketed none ('[' :: (digits n ++ [']']) ++ gap) = [digits n] := by
      rw [List.cons_append, List.append_assoc, bracketed, if_pos rfl, List.singleton_append,
        bracketed_inside hinside, hnone]
      rfl
    have htrim : trim (digits n) = digits n := @trim_solid [] _ (by decide) (digits_solid n)
    rw [hbrackets, List.filterMap_cons, htrim, number?_digits hn]
    simp [wordProduct?, hn]

def Member.printedWords (m : Member) (ws : List (List Char)) : List (List Char) :=
  ws ++ (starText m.isPointer ++ (m.name.toList ++ dimensionText m.arrayLength)) ::
    (match m.bitWidth with
      | none => []
      | some n => [[':'], digits n])

theorem Member.print_words {ws : List (List Char)} (hws : ws ≠ [])
    (htype : m.typeName = String.ofList (joinWords ws)) :
    m.print.toList = joinWords (m.printedWords ws) := by
  obtain ⟨w, ws, rfl⟩ := List.exists_cons_of_ne_nil hws
  rw [print_eq, front, htype, String.toList_ofList, printedWords, List.cons_append, joinWords_cons,
    joinWords_cons]
  cases m.bitWidth <;> simp [widthText]

theorem Member.Printable.solid (h : m.Printable) {ws : List (List Char)}
    (hws : ∀ w ∈ ws, isIdentifier w = true) : ∀ w ∈ m.printedWords ws, Solid w := by
  have hname : Solid (starText m.isPointer ++ (m.name.toList ++ dimensionText m.arrayLength)) := by
    refine ⟨by simp [(isIdentifier_word h.name).1], fun c hc => ?_⟩
    rcases List.mem_append.mp hc with hc | hc
    · rw [mem_starText hc]
      rfl
    · rcases List.mem_append.mp hc with hc | hc
      · exact (isIdentifier_solid h.name).2 c hc
      · rcases mem_dimensionText hc with hc | hc
        · exact isBlank_of_wordChar hc
        · simp only [List.mem_cons, List.not_mem_nil, or_false] at hc
          rcases hc with rfl | rfl <;> rfl
  rw [Member.printedWords, List.forall_mem_append, List.forall_mem_cons]
  refine ⟨fun w hw => isIdentifier_solid (hws w hw), hname, ?_⟩
  cases m.bitWidth with
  | none => exact nofun
  | some n =>
    rw [List.forall_mem_cons, List.forall_mem_singleton]
    exact ⟨⟨nofun, List.forall_mem_singleton.mpr rfl⟩, digits_solid n⟩

theorem map_starless (h : '*' ∉ cs) : cs.map (fun c => if c = '*' then ' ' else c) = cs := by
  refine (List.map_congr_left fun c hc => if_neg ?_).trans (List.map_id' cs)
  rintro rfl
  exact h hc

theorem Member.Printable.front_words (h : m.Printable) {ws : List (List Char)} {gap : List Char}
    (hws : ∀ w ∈ ws, isIdentifier w = true) (htype : m.typeName = String.ofList (joinWords ws))
    (hgap : AllBlank gap) :
    Text.words ((m.front ++ gap).map fun c => if c = '*' then ' ' else c) = ws ++ [m.name.toList] := by
  have htypeName : '*' ∉ joinWords ws := by
    intro hc
    rcases mem_joinWords hc with hc | ⟨w, hw, hc⟩
    · cases hc
    · exact absurd ((isIdentifier_word (hws w hw)).2 _ hc) (by decide)
  have hname : '*' ∉ m.name.toList := fun hc => absurd ((isIdentifier_word h.name).2 _ hc) (by decide)
  have hgap' : '*' ∉ gap := hgap.not_mem rfl
  have hstar : AllBlank ((starText m.isPointer).map fun c => if c = '*' then ' ' else c) := by
    cases m.isPointer <;> decide
  rw [Member.front, htype, String.toList_ofList, List.map_append, List.map_append, List.map_cons,
    List.map_append, map_starless htypeName, map_starless hname, map_starless hgap',
    words_append_gap hgap, if_neg (by decide), words_append_cons rfl, words_gap_append hstar,
    words_joinWords fun w hw => isIdentifier_solid (hws w hw), words_solid (isIdentifier_solid h.name)]

theorem Member.Printable.not_mem_front (h : m.Printable) (hword : isWordChar c = false)
    (hc : c ∉ [' ', '*']) : c ∉ m.front := by
  intro hmem
  rcases h.mem_front hmem with hword' | hmem
  · rw [hword] at hword'
    cases hword'
  · exact hc ((List.mem_cons.mp hmem).elim (fun heq => heq ▸ .head _)
      fun hmem => mem_starText hmem ▸ .tail _ (.head _))

theorem Member.Printable.not_mem_print (h : m.Printable) (hword : isWordChar c = false)
    (hc : c ∉ [' ', '*', '[', ']', ':']) : c ∉ m.print.toList := by
  intro hmem
  rcases h.mem_print hmem with hword' | hmem
  · rw [hword] at hword'
    cases hword'
  · exact hc hmem

theorem Member.Printable.takeWhile_print (h : m.Printable) : ∃ gap, AllBlank gap ∧
    m.print.toList.takeWhile (fun c => c != '[' && c != ':') = m.front ++ gap := by
  -- a width without a dimension before it leaves a blank before its colon
  have hback : ∃ gap rest, AllBlank gap ∧
      dimensionText m.arrayLength ++ widthText m.bitWidth = gap ++ rest ∧
      ∀ c ∈ rest.head?, (c != '[' && c != ':') = false := by
    by_cases hone : m.arrayLength = 1
    · cases hwidth : m.bitWidth with
      | none => exact ⟨[], [], nofun, by rw [dimensionText, if_pos hone]; rfl, nofun⟩
      | some n =>
        refine ⟨[' '], ':' :: ' ' :: digits n, by decide, ?_, by rintro c ⟨⟩; rfl⟩
        rw [dimensionText, if_pos hone]
        rfl
    · refine ⟨[], _, nofun, rfl, ?_⟩
      rw [dimensionText, if_neg hone]
      rintro c ⟨⟩
      rfl
  obtain ⟨gap, rest, hgap, hback, hrest⟩ := hback
  refine ⟨gap, hgap, (cut_iff.mpr ⟨?_, fun c hc => ?_, hrest⟩).1⟩
  · rw [Member.print_eq, hback, List.append_assoc]
  · have hclear {d : Char} (hword : isWordChar d = false) (hblank : isBlank d = false)
        (hd : d ∉ [' ', '*']) : c ≠ d := by
      rintro rfl
      rcases List.mem_append.mp hc with hc | hc
      · exact h.not_mem_front hword hd hc
      · exact hgap.not_mem hblank hc
    simp [@hclear '[' rfl rfl (by decide), @hclear ':' rfl rfl (by decide)]

theorem Member.Printable.bitWidth?_print (h : m.Printable) : ∃ dims,
    (bitWidth? m.print.toList).map (·.2) = m.bitWidth ∧
    ((bitWidth? m.print.toList).map (·.1)).getD m.print.toList = dims ∧
    ByteGrid.arrayLength dims = m.arrayLength := by
  have hbracket : '[' ∉ m.front := h.not_mem_front rfl (by decide)
  rw [Member.print_eq]
  cases hwidth : m.bitWidth with
  | none =>
    have hcolon : ':' ∉ m.front ++ (dimensionText m.arrayLength ++ widthText none) := by
      intro hc
      rcases List.mem_append.mp hc with hc | hc
      · exact h.not_mem_front rfl (by decide) hc
      · rw [widthText, List.append_nil] at hc
        exact absurd (mem_dimensionText hc) (by decide)
    rw [bitWidth?_eq_none hcolon]
    exact ⟨_, rfl, rfl, arrayLength_dimensionText hbracket nofun h.arrayLength⟩
  | some n =>
    have hcut : m.front ++ (dimensionText m.arrayLength ++ widthText (some n)) =
        (m.front ++ (dimensionText m.arrayLength ++ [' '])) ++ ':' :: ' ' :: digits n := by
      simp [widthText]
    rw [hcut, bitWidth?_append (h.bitWidth n hwidth)]
    exact ⟨_, rfl, rfl, arrayLength_dimensionText hbracket (by decide) h.arrayLength⟩

theorem Member.Printable.read?_print (h : m.Printable) {ws : List (List Char)}
    (hws : ∀ w ∈ ws, isIdentifier w = true) (hne : ws ≠ [])
    (htype : m.typeName = String.ofList (joinWords ws)) :
    ∃ dims, Declarator.read? m.print.toList =
      some ⟨ws ++ [m.name.toList], m.isPointer, dims, m.bitWidth⟩ ∧
      ByteGrid.arrayLength dims = m.arrayLength := by
  obtain ⟨gap, hgap, hhead⟩ := h.takeWhile_print
  obtain ⟨dims, hwidth, hdims, hlength⟩ := h.bitWidth?_print
  have htrim : trim m.print.toList = m.print.toList := by
    rw [Member.print_words hne htype, trim_joinWords (h.solid hws)]
  have hstar : (m.front ++ gap).contains '*' = m.isPointer := by
    cases hpointer : m.isPointer with
    | true => simp [Member.front, hpointer, starText]
    | false =>
      have hfront : '*' ∉ m.front := by
        intro hc
        have hmem := h.mem_front hc
        rw [hpointer] at hmem
        exact absurd hmem (by decide)
      have hgap' : '*' ∉ gap := hgap.not_mem rfl
      simp [hfront, hgap']
  refine ⟨dims, ?_, hlength⟩
  simp only [Declarator.read?, htrim, hhead, h.front_words hws htype hgap, hstar, hwidth, hdims,
    List.getLast?_append, List.getLast?_singleton, Option.some_or, bind, Option.bind_some, h.name]
  rfl

theorem Member.Printable.readDeclaration_print (h : m.Printable) :
    readDeclaration m.print.toList = [m] := by
  obtain ⟨ws, htype, hne, hws⟩ := h.typeName
  obtain ⟨dims, hread, hlength⟩ := h.read?_print (fun w hw => (hws w hw).1) hne htype
  have hsign : afterFirst functionPointerSign m.print.toList = none :=
    afterFirst_eq_none (h.not_mem_print rfl (by decide))
  have hcomma : m.print.toList.splitOn ',' = [m.print.toList] :=
    List.splitOn_eq_singleton (h.not_mem_print rfl (by decide))
  have hfilter : ws.filter (!ignoredWords.contains ·) = ws := by
    rw [List.filter_eq_self]
    intro w hw
    simpa using (hws w hw).2
  have hkind : { m with isFunctionPointer := false } = m := by rw [← h.isFunctionPointer]
  simp only [readDeclaration, hsign, hcomma, hread, Declarator.typeWords, List.dropLast_concat,
    hfilter, List.isEmpty_eq_false_iff.mpr hne, Declarator.member, Declarator.name]
  simpa [← htype, hlength] using hkind

def printMembers (gap : List Char) (ms : List Member) : List Char :=
  ms.flatMap (fun m => gap ++ (m.print.toList ++ [';'])) ++ gap

theorem printMembers_cons (gap : List Char) (m : Member) (ms : List Member) :
    printMembers gap (m :: ms) = (gap ++ m.print.toList) ++ ';' :: printMembers gap ms := by
  simp [printMembers]

theorem readMembers_print {gap : List Char} {ms : List Member} (hgap : AllBlank gap)
    (hms : ∀ m ∈ ms, m.Printable) : readMembers (printMembers gap ms) = ms := by
  have hend : ';' ∉ gap := hgap.not_mem rfl
  induction ms with
  | nil =>
    have hsqueeze := @squeeze_joinWords gap [] hgap nofun
    rw [joinWords, List.intercalate_nil, List.append_nil] at hsqueeze
    rw [printMembers, List.flatMap_nil, List.nil_append, readMembers_single hend, hsqueeze,
      readDeclaration_nil]
  | cons m ms ih =>
    obtain ⟨hm, hms⟩ := List.forall_mem_cons.mp hms
    obtain ⟨ws, htype, hne, hws⟩ := hm.typeName
    have hsqueeze : squeeze (gap ++ m.print.toList) = m.print.toList := by
      rw [Member.print_words hne htype]
      exact squeeze_joinWords hgap (hm.solid fun w hw => (hws w hw).1)
    have hmember : ';' ∉ gap ++ m.print.toList := by
      rw [List.mem_append, not_or]
      exact ⟨hend, hm.not_mem_print rfl (by decide)⟩
    rw [printMembers_cons, readMembers_append_cons, readMembers_single hmember, hsqueeze,
      hm.readDeclaration_print, ih hms]
    rfl

end ByteGrid
