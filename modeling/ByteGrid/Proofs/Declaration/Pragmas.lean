import Mathlib.Data.Nat.Find
import Mathlib.Data.Option.Basic
import ByteGrid.Proofs.Declaration.Forms
import ByteGrid.Session

/-!
Pack pragmas and comments. A pragma is looked for in the text as it stands, so the first one counts whether
or not it is commented out, and one with a comment between its words is none. Where neither is the case for
the first pragma, comments might as well be blanks.
-/

namespace ByteGrid

open ByteGrid.Text

def pragmaWord : List Char := "#pragma".toList

def packWord : List Char := "pack".toList

def pushWord : List Char := "push".toList

variable {cs rest code text digits push : List Char} {c : Char} {k left : Nat}

def IsPush (push : List Char) : Prop :=
  push = [] ∨ ∃ gap gap', push = pushWord ++ (gap ++ ',' :: gap') ∧ AllBlank gap ∧ AllBlank gap'

def IsDigits (digits : List Char) : Prop :=
  digits ≠ [] ∧ ∀ c ∈ digits, isWordDigit c = true

def IsPragma (text digits : List Char) : Prop :=
  ∃ gap gap₁ gap₂ push gap₃,
    text = pragmaWord ++ (gap ++ (packWord ++ (gap₁ ++ '(' :: (gap₂ ++
      (push ++ (digits ++ (gap₃ ++ [')']))))))) ∧
    IsGap gap ∧ AllBlank gap₁ ∧ AllBlank gap₂ ∧ IsPush push ∧ IsDigits digits ∧ AllBlank gap₃

def dropPush (cs : List Char) : List Char :=
  (do
    let rest ← pushWord.isPrefixOf? cs
    let rest ← [','].isPrefixOf? (trimStart rest)
    return trimStart rest).getD cs

theorem isBlank_of_wordDigit (h : isWordDigit c = true) : isBlank c = false := by
  have hcodes : ∀ n ∈ blankCodes, isWordDigit (Char.ofNat n) = false := by decide +kernel
  cases hblank : isBlank c with
  | false => rfl
  | true =>
    have hc := hcodes _ (toNat_mem_blankCodes hblank)
    rw [Char.ofNat_toNat, h] at hc
    cases hc

theorem dropPush_spec (cs : List Char) : ∃ push, cs = push ++ dropPush cs ∧ IsPush push := by
  cases hpush : pushWord.isPrefixOf? cs with
  | none => exact ⟨[], by simp [dropPush, hpush], .inl rfl⟩
  | some after =>
    have hword := List.isPrefixOf?_eq_some_iff_append_eq.mp hpush
    obtain ⟨gap, hgap, hblank, -⟩ := trimStart_eq_iff.mp (Eq.refl (trimStart after))
    cases hcomma : [','].isPrefixOf? (trimStart after) with
    | none => exact ⟨[], by simp [dropPush, hpush, hcomma], .inl rfl⟩
    | some more =>
      have hsign := List.isPrefixOf?_eq_some_iff_append_eq.mp hcomma
      obtain ⟨gap', hgap', hblank', -⟩ := trimStart_eq_iff.mp (Eq.refl (trimStart more))
      have hdrop : dropPush cs = trimStart more := by simp [dropPush, hpush, hcomma]
      refine ⟨pushWord ++ (gap ++ ',' :: gap'), ?_, .inr ⟨gap, gap', rfl, hblank, hblank'⟩⟩
      rw [hdrop, ← hword, hgap, ← hsign, List.singleton_append]
      nth_rewrite 1 [hgap']
      simp

theorem dropPush_append (hpush : IsPush push)
    (hrest : ∀ c ∈ rest.head?, isBlank c = false ∧ c ≠ 'p') : dropPush (push ++ rest) = rest := by
  rcases hpush with rfl | ⟨gap, gap', rfl, hgap, hgap'⟩
  · have hnone : pushWord.isPrefixOf? rest = none := by
      cases rest with
      | nil => rfl
      | cons c rest => simp [pushWord, List.isPrefixOf?, (hrest c rfl).2.symm]
    rw [List.nil_append, dropPush, hnone]
    rfl
  · have hword : pushWord.isPrefixOf? (pushWord ++ (gap ++ ',' :: gap') ++ rest) =
        some (gap ++ ',' :: (gap' ++ rest)) := by
      rw [List.isPrefixOf?_eq_some_iff_append_eq]
      simp
    have hcomma : trimStart (gap ++ ',' :: (gap' ++ rest)) = ',' :: (gap' ++ rest) :=
      trimStart_gap_append hgap (by rintro d ⟨⟩; rfl)
    have hnumber : trimStart (gap' ++ rest) = rest :=
      trimStart_gap_append hgap' fun c hc => (hrest c hc).1
    rw [dropPush, hword]
    simp [hcomma, hnumber, List.isPrefixOf?]

theorem IsDigits.head_append (h : IsDigits digits) :
    ∀ c ∈ (digits ++ rest).head?, isBlank c = false ∧ c ≠ 'p' := by
  obtain ⟨c, digits, rfl⟩ := List.exists_cons_of_ne_nil h.1
  have hc := h.2 c (.head _)
  rintro d ⟨⟩
  refine ⟨isBlank_of_wordDigit hc, ?_⟩
  rintro rfl
  exact absurd hc (by decide +kernel)

theorem IsPush.head_append (hpush : IsPush push) (hrest : ∀ c ∈ rest.head?, isBlank c = false) :
    ∀ c ∈ (push ++ rest).head?, isBlank c = false := by
  rcases hpush with rfl | ⟨gap, gap', rfl, -, -⟩
  · exact hrest
  · rintro c ⟨⟩
    rfl

theorem digit_head_append {gap : List Char} (hgap : AllBlank gap) :
    ∀ c ∈ (gap ++ ')' :: rest).head?, isWordDigit c = false := by
  cases gap with
  | nil =>
    rintro c ⟨⟩
    decide +kernel
  | cons d gap =>
    rintro c ⟨⟩
    have hd := hgap d (.head _)
    by_contra hdigit
    rw [isBlank_of_wordDigit (Bool.of_not_eq_false hdigit)] at hd
    cases hd

theorem pragma?_eq_some_iff : pragma? cs = some digits ↔
    ∃ text rest, cs = text ++ rest ∧ IsPragma text digits := by
  have hpragma : pragma? cs = (do
      let rest ← pragmaWord.isPrefixOf? cs
      let rest ← afterBlanks? rest
      let rest ← packWord.isPrefixOf? rest
      let rest ← ['('].isPrefixOf? (trimStart rest)
      let rest := dropPush (trimStart rest)
      let digits := rest.takeWhile isWordDigit
      guard (!digits.isEmpty)
      let _ ← [')'].isPrefixOf? (trimStart (rest.drop digits.length))
      return digits) := rfl
  rw [hpragma]
  clear hpragma
  simp only [bind, Option.bind_eq_some_iff, List.isPrefixOf?_eq_some_iff_append_eq,
    afterBlanks?_eq_some_iff, drop_length_takeWhile, List.singleton_append]
  constructor
  · rintro ⟨_, rfl, _, ⟨gap, rfl, hgap, -⟩, after, rfl, behind, hopen, _, hsome, rest, hclose, ⟨⟩⟩
    obtain ⟨gap₁, rfl, hgap₁, -⟩ := trimStart_eq_iff.mp hopen.symm
    obtain ⟨gap₂, hbehind, hgap₂, -⟩ := trimStart_eq_iff.mp (Eq.refl (trimStart behind))
    obtain ⟨push, hnumber, hpush⟩ := dropPush_spec (trimStart behind)
    obtain ⟨gap₃, hend, hgap₃, -⟩ := trimStart_eq_iff.mp hclose.symm
    obtain ⟨heq, hall, -⟩ := cut_iff.mp ⟨rfl, hend⟩
    refine ⟨_, rest, ?_, gap, gap₁, gap₂, push, gap₃, rfl, hgap, hgap₁, hgap₂, hpush, ⟨?_, hall⟩, hgap₃⟩
    · have htext : behind = gap₂ ++ (push ++ ((dropPush (trimStart behind)).takeWhile isWordDigit ++
          (gap₃ ++ ')' :: rest))) := by
        rw [← heq, ← hnumber, ← hbehind]
      nth_rewrite 1 [htext]
      simp only [List.append_assoc, List.cons_append, List.nil_append]
    · intro hnone
      rw [hnone] at hsome
      cases hsome
  · rintro ⟨_, rest, rfl, gap, gap₁, gap₂, push, gap₃, rfl, hgap, hgap₁, hgap₂, hpush, hdigits, hgap₃⟩
    have hnumber : ∀ c ∈ (digits ++ (gap₃ ++ ')' :: rest)).head?, isBlank c = false ∧ c ≠ 'p' :=
      hdigits.head_append
    have hopen : trimStart (gap₁ ++ '(' :: (gap₂ ++ (push ++ (digits ++ (gap₃ ++ ')' :: rest))))) =
        '(' :: (gap₂ ++ (push ++ (digits ++ (gap₃ ++ ')' :: rest)))) :=
      trimStart_gap_append hgap₁ (by rintro c ⟨⟩; rfl)
    have hstart : trimStart (gap₂ ++ (push ++ (digits ++ (gap₃ ++ ')' :: rest)))) =
        push ++ (digits ++ (gap₃ ++ ')' :: rest)) :=
      trimStart_gap_append hgap₂ (hpush.head_append fun c hc => (hnumber c hc).1)
    have hclose : trimStart (gap₃ ++ ')' :: rest) = ')' :: rest :=
      trimStart_gap_append hgap₃ (by rintro c ⟨⟩; rfl)
    obtain ⟨htake, hdrop⟩ := cut_iff.mpr ⟨Eq.refl (digits ++ (gap₃ ++ ')' :: rest)), hdigits.2,
      digit_head_append hgap₃⟩
    have hfound := dropPush_append hpush hnumber
    have hcut : digits.isEmpty = false := by simpa using hdigits.1
    simp only [List.append_assoc, List.cons_append, List.nil_append]
    refine ⟨_, rfl, _, ⟨gap, rfl, hgap, ?_⟩, _, rfl, _, hopen.symm, (), ?_, rest, ?_, ?_⟩
    · rintro c ⟨⟩; rfl
    · rw [hstart, hfound, htake, hcut]
      rfl
    · rw [hstart, hfound, hdrop, hclose]
    · rw [hstart, hfound, htake]
      rfl

theorem IsPragma.signs (h : IsPragma text digits) : text.head? = some '#' ∧ '/' ∉ text := by
  obtain ⟨gap, gap₁, gap₂, push, gap₃, rfl, hgap, hgap₁, hgap₂, hpush, hdigits, hgap₃⟩ := h
  have hslash : isBlank '/' = false := rfl
  have hnumber : '/' ∉ digits := fun hmem => absurd (hdigits.2 _ hmem) (by decide +kernel)
  have hfront : '/' ∉ push := by
    rcases hpush with rfl | ⟨gap, gap', rfl, hgap, hgap'⟩
    · exact List.not_mem_nil
    · have hword : '/' ∉ pushWord := by decide
      simp [hword, hgap.not_mem hslash, hgap'.not_mem hslash]
  have hword : '/' ∉ pragmaWord ∧ '/' ∉ packWord := by decide
  refine ⟨rfl, ?_⟩
  simp [hword, hgap.2.not_mem hslash, hgap₁.not_mem hslash, hgap₂.not_mem hslash,
    hgap₃.not_mem hslash, hnumber, hfront]

def PragmaAt (code : List Char) (k : Nat) (text digits : List Char) : Prop :=
  text <+: code.drop k ∧ IsPragma text digits

def FirstPragma (code : List Char) (k : Nat) (text digits : List Char) : Prop :=
  PragmaAt code k text digits ∧ ∀ j < k, ∀ text digits, ¬PragmaAt code j text digits

theorem pragmaAt_zero : (∃ text, PragmaAt cs 0 text digits) ↔ pragma? cs = some digits := by
  rw [pragma?_eq_some_iff]
  constructor
  · rintro ⟨text, ⟨rest, heq⟩, htext⟩
    exact ⟨text, rest, heq.symm, htext⟩
  · rintro ⟨text, rest, heq, htext⟩
    exact ⟨text, ⟨rest, heq.symm⟩, htext⟩

theorem PragmaAt.sign (h : PragmaAt code k text digits) : code[k]? = some '#' := by
  obtain ⟨⟨rest, heq⟩, htext⟩ := h
  rw [← Nat.add_zero k, ← List.getElem?_drop, ← heq, ← List.head?_eq_getElem?, List.head?_append,
    htext.signs.1]
  rfl

theorem pragmaAt_nil : ¬PragmaAt [] k text digits := by
  intro h
  cases h.sign

theorem firstPragma_cons (hnone : pragma? (c :: cs) = none) :
    FirstPragma (c :: cs) k text digits ↔ ∃ j, k = j + 1 ∧ FirstPragma cs j text digits := by
  have hzero (text digits : List Char) : ¬PragmaAt (c :: cs) 0 text digits := by
    intro h
    rw [pragmaAt_zero.mp ⟨text, h⟩] at hnone
    cases hnone
  constructor
  · rintro ⟨hat, hearlier⟩
    cases k with
    | zero => exact absurd hat (hzero text digits)
    | succ k => exact ⟨k, rfl, hat, fun j hj => hearlier (j + 1) (Nat.succ_lt_succ hj)⟩
  · rintro ⟨k, rfl, hat, hearlier⟩
    refine ⟨hat, fun j hj => ?_⟩
    cases j with
    | zero => exact hzero
    | succ j => exact hearlier j (Nat.lt_of_succ_lt_succ hj)

theorem firstPragma?_eq_some_iff :
    firstPragma? cs = some digits ↔ ∃ k text, FirstPragma cs k text digits := by
  induction cs with
  | nil => exact iff_of_false nofun fun ⟨_, _, h⟩ => pragmaAt_nil h.1
  | cons c cs ih =>
    rw [firstPragma?]
    cases hhere : pragma? (c :: cs) with
    | none =>
      simp only [Option.none_or, ih, firstPragma_cons hhere]
      constructor
      · rintro ⟨k, text, h⟩
        exact ⟨k + 1, text, k, rfl, h⟩
      · rintro ⟨_, text, k, rfl, h⟩
        exact ⟨k, text, h⟩
    | some found =>
      rw [Option.some_or, ← hhere, ← pragmaAt_zero]
      constructor
      · rintro ⟨text, hat⟩
        exact ⟨0, text, hat, nofun⟩
      · rintro ⟨k, text, hat, hearlier⟩
        cases k with
        | zero => exact ⟨text, hat⟩
        | succ k =>
          obtain ⟨text', hat'⟩ := pragmaAt_zero.mpr hhere
          exact absurd hat' (hearlier 0 (Nat.succ_pos k) text' found)

theorem PragmaAt.exists_first (h : PragmaAt code k text digits) :
    ∃ j ≤ k, ∃ text digits, FirstPragma code j text digits := by
  classical
  have hsome : ∃ j, ∃ text digits, PragmaAt code j text digits := ⟨k, text, digits, h⟩
  obtain ⟨text', digits', hat⟩ := Nat.find_spec hsome
  refine ⟨Nat.find hsome, Nat.find_min' hsome ⟨text, digits, h⟩, text', digits', hat, ?_⟩
  exact fun j hj text digits h => Nat.find_min hsome hj ⟨text, digits, h⟩

def commentLength : List Char → Nat
  | '/' :: '/' :: cs => 2 + (cs.takeWhile (· ≠ '\n')).length
  | '/' :: '*' :: cs => (cs.tails.findIdx? (['*', '/'].isPrefixOf ·)).elim 0 (· + 4)
  | _ => 0

/-- Which characters of a text stand in a comment; the first `left` ones do, as part of one that begins
before. -/
def commentMarks : Nat → List Char → List Bool
  | _, [] => []
  | 0, c :: cs => decide (0 < commentLength (c :: cs)) :: commentMarks (commentLength (c :: cs) - 1) cs
  | left + 1, _ :: cs => true :: commentMarks left cs

def Outside (code : List Char) (k : Nat) : Prop :=
  (commentMarks 0 code)[k]? = some false

instance (code : List Char) (k : Nat) : Decidable (Outside code k) :=
  inferInstanceAs (Decidable (_ = _))

def blankComments (code : List Char) : List Char :=
  List.zipWith (fun c inside => if inside then ' ' else c) code (commentMarks 0 code)

theorem commentLength_pos (h : 0 < commentLength (c :: cs)) : c = '/' := by
  unfold commentLength at h
  split at h
  · exact (List.cons.inj ‹_›).1
  · exact (List.cons.inj ‹_›).1
  · exact absurd h (Nat.lt_irrefl 0)

theorem length_commentMarks (left : Nat) (cs : List Char) : (commentMarks left cs).length = cs.length := by
  fun_induction commentMarks left cs with
  | case1 => rfl
  | case2 c cs ih => rw [List.length_cons, ih, List.length_cons]
  | case3 c cs left ih => rw [List.length_cons, ih, List.length_cons]

theorem slash_of_comment_begins (hout : (commentMarks left cs)[k]? = some false)
    (hin : (commentMarks left cs)[k + 1]? = some true) : cs[k + 1]? = some '/' := by
  fun_induction commentMarks left cs generalizing k with
  | case1 => cases hout
  | case2 c cs ih =>
    cases k with
    | zero =>
      have hnone : commentLength (c :: cs) = 0 := by simpa using hout
      rw [hnone] at hin
      cases cs with
      | nil => cases hin
      | cons d cs =>
        have hpos : 0 < commentLength (d :: cs) := by simpa [commentMarks] using hin
        rw [commentLength_pos hpos]
        rfl
    | succ k => exact ih hout hin
  | case3 c cs left ih =>
    cases k with
    | zero => cases hout
    | succ k => exact ih hout hin

theorem blankComments_outside (h : Outside code k) : (blankComments code)[k]? = code[k]? := by
  rw [Outside] at h
  rw [blankComments, List.getElem?_zipWith, h]
  cases code[k]? <;> rfl

theorem outside_of_ne_blank (h : (blankComments code)[k]? = some c) (hc : c ≠ ' ') :
    Outside code k := by
  obtain ⟨d, inside, -, hmark, heq⟩ := List.getElem?_zipWith_eq_some.mp h
  cases inside with
  | false => exact hmark
  | true => exact absurd heq.symm hc

theorem outside_of_no_slash (hinitial : text <+: code.drop k) (hslash : '/' ∉ text)
    (hout : Outside code k) : ∀ i < text.length, Outside code (k + i) := by
  intro i hi
  induction i with
  | zero => exact hout
  | succ i ih =>
    have hbehind := ih (Nat.lt_of_succ_lt hi)
    have hchar : code[k + i + 1]? = some text[i + 1] := by
      have hget := List.prefix_iff_getElem?.mp hinitial (i + 1) hi
      rwa [List.getElem?_drop] at hget
    have hlength : k + i + 1 < (commentMarks 0 code).length := by
      rw [length_commentMarks]
      exact (List.getElem?_eq_some_iff.mp hchar).1
    rw [Outside, ← Nat.add_assoc, List.getElem?_eq_getElem hlength, Option.some.injEq]
    by_contra hin
    have hbegins := slash_of_comment_begins hbehind
      (by rw [List.getElem?_eq_getElem hlength, Bool.of_not_eq_false hin])
    rw [hchar, Option.some.injEq] at hbegins
    exact hslash (hbegins ▸ List.getElem_mem hi)

theorem PragmaAt.blank (h : PragmaAt code k text digits) (hout : Outside code k) :
    PragmaAt (blankComments code) k text digits := by
  obtain ⟨hinitial, htext⟩ := h
  refine ⟨List.prefix_iff_getElem?.mpr fun i hi => ?_, htext⟩
  have hget := List.prefix_iff_getElem?.mp hinitial i hi
  rw [List.getElem?_drop] at hget ⊢
  rw [blankComments_outside (outside_of_no_slash hinitial htext.signs.2 hout i hi), hget]

theorem PragmaAt.outside (h : PragmaAt (blankComments code) k text digits) : Outside code k :=
  outside_of_ne_blank h.sign (by decide)

/-- The first pragma does not stand in a comment, and no comment stands in what would be the first one
without comments. -/
def CommentsApart (code : List Char) : Prop :=
  (∀ k text digits, FirstPragma code k text digits → Outside code k) ∧
  ∀ k text digits, FirstPragma (blankComments code) k text digits → text <+: code.drop k

theorem firstPragma_blankComments : CommentsApart code ↔ ∀ k text digits,
    FirstPragma (blankComments code) k text digits ↔ FirstPragma code k text digits := by
  constructor
  · rintro ⟨houtside, hkept⟩ k text digits
    constructor
    · intro h
      refine ⟨⟨hkept k text digits h, h.1.2⟩, fun j hj _ _ hat => ?_⟩
      obtain ⟨i, hi, text', digits', hfirst⟩ := hat.exists_first
      have hblank := hfirst.1.blank (houtside i text' digits' hfirst)
      exact h.2 i (Nat.lt_of_le_of_lt hi hj) text' digits' hblank
    · intro h
      refine ⟨h.1.blank (houtside k text digits h), fun j hj _ _ hat => ?_⟩
      obtain ⟨i, hi, text', digits', hfirst⟩ := hat.exists_first
      exact h.2 i (Nat.lt_of_le_of_lt hi hj) text' digits' ⟨hkept i text' digits' hfirst, hfirst.1.2⟩
  · intro hsame
    exact ⟨fun k text digits h => ((hsame k text digits).mpr h).1.outside,
      fun k text digits h => ((hsame k text digits).mp h).1.1⟩

theorem pragmaPack?_eq_some_iff {pack : Nat} : pragmaPack? code = some pack ↔
    ∃ k text digits, FirstPragma code k text digits ∧ number? wordBound digits = some pack ∧ 0 < pack := by
  have hvalue : pragmaPack? code = some pack ↔
      ∃ digits, firstPragma? code = some digits ∧ number? wordBound digits = some pack ∧ 0 < pack := by
    simp only [pragmaPack?, bind, Option.bind_eq_some_iff]
    constructor
    · rintro ⟨digits, hfirst, n, hnumber, _, hguard, ⟨⟩⟩
      exact ⟨digits, hfirst, hnumber, (Option.guard_eq_some' _).mp hguard⟩
    · rintro ⟨digits, hfirst, hnumber, hpos⟩
      exact ⟨digits, hfirst, pack, hnumber, (), (Option.guard_eq_some' ()).mpr hpos, rfl⟩
  rw [hvalue]
  constructor
  · rintro ⟨digits, hfirst, hpack⟩
    obtain ⟨k, text, h⟩ := firstPragma?_eq_some_iff.mp hfirst
    exact ⟨k, text, digits, h, hpack⟩
  · rintro ⟨k, text, digits, h, hpack⟩
    exact ⟨digits, firstPragma?_eq_some_iff.mpr ⟨k, text, h⟩, hpack⟩

theorem pragmaPack_exact (code : List Char) :
    (∀ pack, pragmaPack? code = some pack ↔ ∃ k text digits,
      FirstPragma code k text digits ∧ number? wordBound digits = some pack ∧ 0 < pack) ∧
    (CommentsApart code ↔ ∀ k text digits,
      FirstPragma (blankComments code) k text digits ↔ FirstPragma code k text digits) ∧
    (CommentsApart code → pragmaPack? (blankComments code) = pragmaPack? code ∧
      ∀ s options, Session.packOf s options (String.ofList (blankComments code)) =
        s.packOf options (String.ofList code)) := by
  refine ⟨fun pack => pragmaPack?_eq_some_iff, firstPragma_blankComments, fun hapart => ?_⟩
  have hpack : pragmaPack? (blankComments code) = pragmaPack? code := by
    refine Option.ext fun pack => ?_
    simp only [pragmaPack?_eq_some_iff, firstPragma_blankComments.mp hapart]
  refine ⟨hpack, fun s options => ?_⟩
  rw [Session.packOf, Session.packOf, String.toList_ofList, String.toList_ofList, hpack]

theorem pragmaPack_exact_behind :
    let code := "/* one */ // two\n#pragma pack(4)\nstruct S \x7b char c; int i; \x7d;".toList
    CommentsApart code ∧ pragmaPack? (blankComments code) = some 4 := by
  intro code
  have hlength : (blankComments code).length = code.length := by decide +kernel
  have hsigns : ∀ k < code.length, (code[k]? = some '#' → Outside code k) ∧
      ((blankComments code)[k]? = some '#' → (blankComments code).drop k = code.drop k) := by
    decide +kernel
  have happart : CommentsApart code := by
    constructor
    · intro k text digits h
      obtain ⟨hk, -⟩ := List.getElem?_eq_some_iff.mp h.1.sign
      exact (hsigns k hk).1 h.1.sign
    · intro k text digits h
      obtain ⟨hk, -⟩ := List.getElem?_eq_some_iff.mp h.1.sign
      rw [← (hsigns k (hlength ▸ hk)).2 h.1.sign]
      exact h.1.1
  refine ⟨happart, ((pragmaPack_exact code).2.2 happart).1.trans ?_⟩
  decide +kernel

theorem pragmaPack_in_comment :
    let code := "// #pragma pack(1)\nstruct S \x7b char c; int i; \x7d;".toList
    let code' := "#pragma /* one */ pack(1)\nstruct S \x7b char c; int i; \x7d;".toList
    blankComments code = "                  \nstruct S \x7b char c; int i; \x7d;".toList ∧
      pragmaPack? code = some 1 ∧ pragmaPack? (blankComments code) = none ∧
      blankComments code' = "#pragma           pack(1)\nstruct S \x7b char c; int i; \x7d;".toList ∧
      pragmaPack? code' = none ∧ pragmaPack? (blankComments code') = some 1 := by
  decide +kernel

end ByteGrid
