import ByteGrid.Declaration.Member
import ByteGrid.Proofs.Declaration.Forms

namespace ByteGrid

open ByteGrid.Text

variable {n : Nat} {c : Char} {cs u v w : List Char}

theorem readDeclaration_nil : readDeclaration [] = [] := by decide

@[elab_as_elim]
theorem piece_induction {motive : List Char → Prop} (single : ∀ cs, ';' ∉ cs → motive cs)
    (cut : ∀ u v, ';' ∉ u → motive v → motive (u ++ ';' :: v)) (body : List Char) : motive body := by
  induction hlength : body.length using Nat.strongRecOn generalizing body with
  | _ n ih =>
    by_cases hmem : ';' ∈ body
    · obtain ⟨u, v, rfl, hu⟩ := List.eq_append_cons_of_mem hmem
      rw [List.length_append, List.length_cons] at hlength
      exact cut u v hu (ih v.length (by omega) v rfl)
    · exact single body hmem

theorem declarations_append_cons (body rest : List Char) :
    declarations (body ++ ';' :: rest) = declarations body ++ declarations rest := by
  simp only [declarations, List.splitOn_append_cons_self, List.map_append, List.filter_append]

theorem readMembers_append_cons (body rest : List Char) :
    readMembers (body ++ ';' :: rest) = readMembers body ++ readMembers rest := by
  rw [readMembers, declarations_append_cons, List.flatMap_append, readMembers, readMembers]

theorem declarations_single (h : ';' ∉ cs) :
    declarations cs = [squeeze cs].filter (!·.isEmpty) := by
  rw [declarations, List.splitOn_eq_singleton h, List.map_singleton]

theorem readMembers_single (h : ';' ∉ cs) : readMembers cs = readDeclaration (squeeze cs) := by
  rw [readMembers, declarations_single h]
  cases hempty : squeeze cs with
  | nil => simp [readDeclaration_nil]
  | cons c rest => simp

theorem declarations_collapse (body : List Char) :
    declarations (collapse body) = declarations body := by
  have hpiece {cs : List Char} (h : ';' ∉ cs) : declarations (collapse cs) = declarations cs := by
    have hcollapse : ';' ∉ collapse cs := fun hmem => h (mem_of_mem_collapseFrom rfl hmem)
    rw [declarations_single h, declarations_single hcollapse, squeeze_collapse]
  induction body using piece_induction with
  | single cs h => exact hpiece h
  | cut u v h ih =>
    rw [collapse_append_cons rfl, declarations_append_cons, declarations_append_cons, ih, hpiece h]

theorem readMembers_collapse (body : List Char) : readMembers (collapse body) = readMembers body := by
  rw [readMembers, declarations_collapse, readMembers]

/-- The declarations of a body whose white space is brought into form as a whole, before it is cut. -/
def wholeDeclarations (body : List Char) : List (List Char) :=
  (((collapse (trim body)).splitOn ';').map trim).filter (!·.isEmpty)

theorem declarations_gap_append {gap : List Char} (hgap : AllBlank gap) (body : List Char) :
    declarations (gap ++ body) = declarations body := by
  have hfirst {cs : List Char} (h : ';' ∉ cs) : ';' ∉ gap ++ cs := by
    rw [List.mem_append, not_or]
    exact ⟨hgap.not_mem rfl, h⟩
  have hsqueeze (cs : List Char) : squeeze (gap ++ cs) = squeeze cs := by
    rw [squeeze, words_gap_append hgap, squeeze]
  induction body using piece_induction with
  | single cs h => rw [declarations_single h, declarations_single (hfirst h), hsqueeze]
  | cut u v h _ =>
    rw [← List.append_assoc, declarations_append_cons, declarations_append_cons,
      declarations_single h, declarations_single (hfirst h), hsqueeze]

theorem declarations_append_gap {gap : List Char} (hgap : AllBlank gap) (body : List Char) :
    declarations (body ++ gap) = declarations body := by
  induction body using piece_induction with
  | single cs h =>
    have hlast : ';' ∉ cs ++ gap := by
      rw [List.mem_append, not_or]
      exact ⟨h, hgap.not_mem rfl⟩
    rw [declarations_single h, declarations_single hlast, squeeze, words_append_gap hgap, squeeze]
  | cut u v _ ih =>
    rw [List.append_assoc, List.cons_append, declarations_append_cons, declarations_append_cons, ih]

theorem declarations_trim (body : List Char) : declarations (trim body) = declarations body := by
  obtain ⟨lead, trail, hlead, htrail, heq⟩ := trim_eq body
  conv_rhs => rw [heq, declarations_gap_append hlead, declarations_append_gap htrail]

theorem trim_pieces (body : List Char) :
    ((collapse body).splitOn ';').map trim = (body.splitOn ';').map squeeze := by
  have hsingle {cs : List Char} (h : ';' ∉ cs) : (collapse cs).splitOn ';' = [collapse cs] :=
    List.splitOn_eq_singleton fun hmem => h (mem_of_mem_collapseFrom rfl hmem)
  induction body using piece_induction with
  | single cs h =>
    rw [hsingle h, List.splitOn_eq_singleton h, List.map_singleton, List.map_singleton, squeeze_eq]
  | cut u v h ih =>
    rw [collapse_append_cons rfl, List.splitOn_append_cons_self, List.splitOn_append_cons_self,
      List.map_append, List.map_append, ih, hsingle h, List.splitOn_eq_singleton h,
      List.map_singleton, List.map_singleton, squeeze_eq]

theorem wholeDeclarations_eq (body : List Char) : wholeDeclarations body = declarations body := by
  rw [wholeDeclarations, trim_pieces, ← declarations, declarations_trim]

theorem members_apart (a b : List Char) :
    readMembers (a ++ ';' :: b) = readMembers a ++ readMembers b ∧
    wholeDeclarations (a ++ ';' :: b) = wholeDeclarations a ++ wholeDeclarations b ∧
    ∀ body, readMembers body = (wholeDeclarations body).flatMap readDeclaration ∧
      memberNotes body = (wholeDeclarations body).flatMap declarationNotes := by
  refine ⟨readMembers_append_cons a b, ?_, fun body => ?_⟩
  · rw [wholeDeclarations_eq, wholeDeclarations_eq, wholeDeclarations_eq, declarations_append_cons]
  · rw [wholeDeclarations_eq, readMembers, memberNotes]
    exact ⟨rfl, rfl⟩

theorem mem_readDeclaration {m : Member} (h : m ∈ readDeclaration cs) :
    (∃ rest name dims, functionPointer? rest = some (name, dims) ∧
      m = functionPointerMember name dims) ∨
    ∃ first ∈ cs.splitOn ',', ∃ d, Declarator.read? first = some d ∧ d.typeWords ≠ [] ∧
      ∃ piece ∈ cs.splitOn ',', ∃ e, Declarator.read? piece = some e ∧
        m = e.member (joinWords d.typeWords) := by
  unfold readDeclaration at h
  split at h
  · split at h
    · rename_i hread
      exact .inl ⟨_, _, _, hread, List.mem_singleton.mp h⟩
    · cases h
  · split at h
    · cases h
    · rename_i first others hsplit
      split at h
      · cases h
      · rename_i d hd
        obtain ⟨hwords, h⟩ : ¬d.typeWords.isEmpty = true ∧ _ := by
          split at h
          · cases h
          · exact ⟨‹_›, h⟩
        obtain ⟨e, he, rfl⟩ := List.mem_map.mp h
        rw [hsplit]
        refine .inr ⟨first, .head _, d, hd, by simpa using hwords, ?_⟩
        rcases List.mem_cons.mp he with rfl | he
        · exact ⟨first, .head _, e, hd, rfl⟩
        · obtain ⟨piece, hpiece, he⟩ := List.mem_filterMap.mp he
          exact ⟨piece, .tail _ hpiece, e, he, rfl⟩

theorem isWordChar_of_ascii (h : c.isAlphanum = true ∨ c = '_') : isWordChar c = true := by
  have hcode : c.toNat < 0x80 := by
    rcases h with h | rfl
    · rcases Bool.or_eq_true_iff.mp h with h | h
      · rcases Bool.or_eq_true_iff.mp h with h | h
        · have hle : c.toNat ≤ 90 := (of_decide_eq_true h).2
          omega
        · have hle : c.toNat ≤ 122 := of_decide_eq_true (Bool.and_eq_true_iff.mp h).2
          omega
      · have hle : c.toNat ≤ 57 := of_decide_eq_true (Bool.and_eq_true_iff.mp h).2
        omega
    · decide
  rw [isWordChar, if_pos hcode]
  simpa using h

theorem isIdentifier_word (h : isIdentifier w = true) : IsWord w := by
  cases w with
  | nil => cases h
  | cons c w =>
    obtain ⟨hc, hw⟩ := Bool.and_eq_true_iff.mp h
    have hfirst : isWordChar c = true := by
      apply isWordChar_of_ascii
      rw [isNameStart, Bool.or_eq_true, beq_iff_eq] at hc
      exact hc.imp_left fun hc => by rw [Char.isAlphanum, hc, Bool.true_or]
    exact ⟨List.cons_ne_nil _ _, List.forall_mem_cons.mpr ⟨hfirst, List.all_eq_true.mp hw⟩⟩

theorem isIdentifier_solid (h : isIdentifier w = true) : Solid w :=
  (isIdentifier_word h).solid

def digits (n : Nat) : List Char :=
  Nat.toDigits 10 n

theorem isDigit_of_digits (hc : c ∈ digits n) : c.isDigit = true :=
  Nat.isDigit_of_mem_toDigits (by decide) (by decide) hc

theorem digits_wordChar (hc : c ∈ digits n) : isWordChar c = true :=
  isWordChar_of_ascii (.inl (by rw [Char.isAlphanum, isDigit_of_digits hc, Bool.or_true]))

theorem digits_solid (n : Nat) : Solid (digits n) :=
  ⟨Nat.toDigits_ne_nil, fun _ hc => isBlank_of_wordChar (digits_wordChar hc)⟩

theorem number?_digits {bound : Nat} (h : n < bound) : number? bound (digits n) = some n := by
  have hvalue : digitsValue (digits n) = n := Nat.ofDigitChars_ten_toDigits
  have hdigits : (digits n).all Char.isDigit = true := List.all_eq_true.mpr fun c => isDigit_of_digits
  have hfilled : (digits n).isEmpty = false := by simpa using (digits_solid n).1
  have hsign : ∀ rest, digits n ≠ '+' :: rest := by
    intro rest heq
    have hplus : '+' ∈ digits n := heq ▸ .head _
    exact absurd (isDigit_of_digits hplus) (by decide)
  unfold number?
  split
  · rename_i heq
    exact absurd heq (hsign _)
  · simp [hvalue, hdigits, hfilled, h]

theorem splitLast_append_cons (h : c ∉ v) : splitLast c (u ++ c :: v) = some (u, v) := by
  have hcut : (u ++ c :: v).reverse = v.reverse ++ c :: u.reverse := by simp
  obtain ⟨htake, hdrop⟩ := (cut_iff (p := fun d => decide (d ≠ c))).mpr
    ⟨hcut, fun d hd => decide_eq_true (fun heq => h (heq ▸ List.mem_reverse.mp hd)),
      by rintro d ⟨⟩; simp⟩
  rw [splitLast, hdrop, htake]
  simp

theorem splitLast_eq_none (h : c ∉ cs) : splitLast c cs = none := by
  obtain ⟨-, hdrop⟩ := (cut_iff (p := fun d => decide (d ≠ c))).mpr
    ⟨(List.append_nil cs.reverse).symm,
      fun d hd => decide_eq_true (fun heq => h (heq ▸ List.mem_reverse.mp hd)), nofun⟩
  rw [splitLast, hdrop]

theorem bitWidth?_append (hn : n < halfWordBound) (u : List Char) :
    bitWidth? (u ++ ':' :: ' ' :: digits n) = some (u, n) := by
  have hlast : splitLast ':' (u ++ ':' :: ' ' :: digits n) = some (u, ' ' :: digits n) := by
    apply splitLast_append_cons
    rw [List.mem_cons, not_or]
    exact ⟨nofun, fun hc => absurd (isDigit_of_digits hc) (by decide)⟩
  have htrim : trim (' ' :: digits n) = digits n :=
    @trim_solid [' '] _ (by decide) (digits_solid n)
  have hdigits : (digits n).all Char.isDigit = true := List.all_eq_true.mpr fun c => isDigit_of_digits
  rw [bitWidth?, hlast, Option.bind_eq_bind, Option.bind_some]
  dsimp only
  rw [htrim, hdigits, number?_digits hn]
  rfl

theorem bitWidth?_eq_none (h : ':' ∉ cs) : bitWidth? cs = none := by
  rw [bitWidth?, splitLast_eq_none h]
  rfl

theorem bracketed_append (h : '[' ∉ u) : bracketed none (u ++ v) = bracketed none v := by
  induction u with
  | nil => rfl
  | cons c u ih =>
    rw [List.mem_cons, not_or] at h
    rw [List.cons_append, bracketed, if_neg (Ne.symm h.1), ih h.2]

theorem bracketed_inside {text : List Char} (h : ']' ∉ u) :
    bracketed (some text) (u ++ ']' :: v) = (text.reverse ++ u) :: bracketed none v := by
  induction u generalizing text with
  | nil => simp [bracketed]
  | cons c u ih =>
    rw [List.mem_cons, not_or] at h
    rw [List.cons_append, bracketed, if_neg (Ne.symm h.1), ih h.2]
    simp

theorem afterFirst_eq_none (h : c ∉ cs) : afterFirst (c :: w) cs = none := by
  induction cs with
  | nil => rfl
  | cons d cs ih =>
    rw [List.mem_cons, not_or] at h
    have hfirst : (c :: w).isPrefixOf? (d :: cs) = none := by
      simp [List.isPrefixOf?, h.1]
    rw [afterFirst, hfirst, ih h.2]

end ByteGrid
