import Mathlib.Data.List.Chain
import ByteGrid.Declaration.Parser
import ByteGrid.Proofs.Source.Braces
import ByteGrid.Text.Basic

namespace ByteGrid

open ByteGrid.Text

def Plain (cs : List Char) : Prop :=
  '\\' ∉ cs ∧ ¬['/', '/'] <:+: cs ∧ ¬['/', '*'] <:+: cs

instance (cs : List Char) : Decidable (Plain cs) :=
  inferInstanceAs (Decidable (_ ∧ _ ∧ _))

variable {c : Char} {cs l : List Char} {ls : List (List Char)} {place : Nat × Nat}

theorem plain_of_not_mem (hbackslash : '\\' ∉ cs) (hslash : '/' ∉ cs) : Plain cs :=
  ⟨hbackslash, fun h => hslash (h.subset (.head _)), fun h => hslash (h.subset (.head _))⟩

theorem plain_iff : Plain cs ↔
    '\\' ∉ cs ∧ cs.IsChain fun c d => ¬(c = '/' ∧ (d = '/' ∨ d = '*')) := by
  refine and_congr_right fun _ => ⟨fun h => ?_, fun h => ?_⟩
  · refine (List.isChain_isInfix cs).imp fun c d hcd => ?_
    rintro ⟨rfl, rfl | rfl⟩
    · exact h.1 hcd
    · exact h.2 hcd
  · have hpair {d : Char} (hd : d = '/' ∨ d = '*') : ¬['/', d] <:+: cs := by
      intro hcd
      have hchain := List.IsChain.infix h hcd
      exact List.isChain_pair.mp hchain ⟨rfl, hd⟩
    exact ⟨hpair (.inl rfl), hpair (.inr rfl)⟩

theorem Plain.part (h : Plain cs) (hl : l <:+: cs) : Plain l :=
  ⟨fun hmem => h.1 (hl.subset hmem), fun hx => h.2.1 (hx.trans hl), fun hx => h.2.2 (hx.trans hl)⟩

theorem plain_cons (h : Plain (c :: cs)) :
    c ≠ '\\' ∧ (c = '/' → ∀ d ∈ cs.head?, d ≠ '/' ∧ d ≠ '*') ∧ Plain cs := by
  refine ⟨fun hc => h.1 (hc ▸ .head _), ?_, h.part (List.suffix_cons c cs).isInfix⟩
  rintro rfl d hd
  have hchain := (List.isChain_cons.mp (plain_iff.mp h).2).1 d hd
  exact ⟨fun hslash => hchain ⟨rfl, .inl hslash⟩, fun hstar => hchain ⟨rfl, .inr hstar⟩⟩

theorem plain_intercalate (h : ∀ l ∈ ls, Plain l) : Plain (['\n'].intercalate ls) := by
  induction ls with
  | nil => exact plain_iff.mpr ⟨nofun, .nil⟩
  | cons l ls ih =>
    obtain ⟨hl, hls⟩ := List.forall_mem_cons.mp h
    cases ls with
    | nil => simpa using hl
    | cons l' ls =>
      obtain ⟨hbackslash, hchain⟩ := plain_iff.mp hl
      obtain ⟨hbackslash', hchain'⟩ := plain_iff.mp (ih hls)
      rw [List.intercalate_cons_cons, List.append_assoc, List.singleton_append, plain_iff]
      refine ⟨?_, List.isChain_append.mpr ⟨hchain, List.isChain_cons.mpr ⟨?_, hchain'⟩, ?_⟩⟩
      · simp [hbackslash, hbackslash']
      · simp
      · simp

theorem lines_parts (cs : List Char) :
    (∀ l ∈ (lines cs).head?, l <+: cs) ∧ ∀ l ∈ lines cs, l <:+: cs ∧ '\n' ∉ l := by
  have hlater {c : Char} {cs : List Char} {ls : List (List Char)}
      (h : ∀ l ∈ ls, l <:+: cs ∧ '\n' ∉ l) : ∀ l ∈ ls, l <:+: c :: cs ∧ '\n' ∉ l :=
    fun l hl => ⟨(h l hl).1.trans (List.suffix_cons c cs).isInfix, (h l hl).2⟩
  fun_induction lines cs with
  | case1 => simp
  | case2 cs ih =>
    refine ⟨by rintro l ⟨⟩; exact List.nil_prefix, List.forall_mem_cons.mpr ⟨⟨?_, nofun⟩, hlater ih.2⟩⟩
    exact List.nil_infix
  | case3 c cs hc hreturn ih =>
    refine ⟨?_, hlater ih.2⟩
    obtain ⟨rest, rfl⟩ := List.head?_eq_some_iff.mp hreturn.2
    rw [lines, if_pos rfl]
    rintro l ⟨⟩
    exact List.nil_prefix
  | case4 c cs hc hreturn hnil ih =>
    have hprefix : [c] <+: c :: cs := ⟨cs, rfl⟩
    have hpart := List.IsPrefix.isInfix hprefix
    refine ⟨by rintro l ⟨⟩; exact hprefix, List.forall_mem_singleton.mpr ⟨hpart, ?_⟩⟩
    simpa using Ne.symm hc
  | case5 c cs hc hreturn l ls hlines ih =>
    rw [hlines] at ih
    obtain ⟨hl, hls⟩ := List.forall_mem_cons.mp ih.2
    have hprefix : c :: l <+: c :: cs := (List.prefix_cons_inj c).mpr (ih.1 l rfl)
    have hpart := List.IsPrefix.isInfix hprefix
    refine ⟨by rintro m ⟨⟩; exact hprefix, List.forall_mem_cons.mpr ⟨⟨hpart, ?_⟩, hlater hls⟩⟩
    exact List.not_mem_cons_of_ne_of_not_mem (Ne.symm hc) hl.2

/-- The line and the column behind a text that starts at a place. -/
def placeAfter (place : Nat × Nat) (cs : List Char) : Nat × Nat :=
  cs.foldl (fun p c => if c = '\n' then (p.1 + 1, 0) else (p.1, p.2 + c.utf8Size)) place

def textBraces (place : Nat × Nat) : List Char → List BraceHit
  | [] => []
  | c :: cs =>
    match brace? c with
    | some b => ⟨place.1, place.2, b⟩ :: textBraces (placeAfter place [c]) cs
    | none => textBraces (placeAfter place [c]) cs

theorem textBraces_append (cs ds : List Char) : textBraces place (cs ++ ds) =
    textBraces place cs ++ textBraces (placeAfter place cs) ds := by
  induction cs generalizing place with
  | nil => rfl
  | cons c cs ih =>
    simp only [List.cons_append, textBraces, ih]
    split <;> rfl

theorem brace?_eq_none {c : Char} (h : isBrace c = false) : brace? c = none := by
  simp only [isBrace, Bool.or_eq_false_iff, beq_eq_false_iff_ne] at h
  rw [brace?, if_neg h.1, if_neg h.2]

theorem textBraces_braceFree (h : ∀ c ∈ cs, isBrace c = false) : textBraces place cs = [] := by
  induction cs generalizing place with
  | nil => rfl
  | cons c cs ih =>
    obtain ⟨hc, hcs⟩ := List.forall_mem_cons.mp h
    rw [textBraces, brace?_eq_none hc]
    exact ih hcs

theorem placeAfter_append (cs ds : List Char) :
    placeAfter place (cs ++ ds) = placeAfter (placeAfter place cs) ds :=
  List.foldl_append

theorem textBraces_next {b : Brace} (h : ∀ c ∈ cs, isBrace c = false) (hc : brace? c = some b)
    (rest : List Char) : textBraces place (cs ++ c :: rest) =
      ⟨(placeAfter place cs).1, (placeAfter place cs).2, b⟩ ::
        textBraces (placeAfter place (cs ++ [c])) rest := by
  rw [textBraces_append, textBraces_braceFree h, List.nil_append, textBraces, hc, placeAfter_append]

theorem read_plain {line column : Nat} (h : Plain l) (hline : '\n' ∉ l) :
    lineBraces .normal line column l = textBraces (line, column) l ∧
      ScanState.throughLine .normal l = .normal ∧ (placeAfter (line, column) l).1 = line := by
  induction l generalizing column with
  | nil => exact ⟨rfl, rfl, rfl⟩
  | cons c l ih =>
    obtain ⟨hbackslash, hslash, hl⟩ := plain_cons h
    have hc : c ≠ '\n' := fun hc => hline (hc ▸ .head _)
    obtain ⟨hbraces, hthrough, hplace⟩ :=
      @ih (column + c.utf8Size) hl fun hmem => hline (.tail _ hmem)
    have hafter : placeAfter (line, column) [c] = (line, column + c.utf8Size) := if_neg hc
    have hstep : lineBraces (ScanState.step .normal c) line (column + c.utf8Size) l =
        lineBraces .normal line (column + c.utf8Size) l ∧
        ScanState.throughLine (ScanState.step .normal c) l = ScanState.throughLine .normal l := by
      by_cases hc : c = '/'
      · subst hc
        exact read_slash (hslash rfl)
      · have hnormal : ScanState.step .normal c = .normal := by
          simp [ScanState.step, hbackslash, hc]
        rw [hnormal]
        exact ⟨rfl, rfl⟩
    refine ⟨?_, (throughLine_cons.trans hstep.2).trans hthrough, ?_⟩
    · rw [lineBraces, textBraces, hafter, hstep.1, hbraces]
      rfl
    · rw [placeAfter, List.foldl_cons]
      exact (congrArg (fun p => (placeAfter p l).1) hafter).trans hplace

theorem liveBraces_plain {line : Nat} (h : ∀ l ∈ ls, Plain l ∧ '\n' ∉ l) :
    liveBraces .normal line 0 ls = textBraces (line, 0) (['\n'].intercalate ls) := by
  induction ls generalizing line with
  | nil => rfl
  | cons l ls ih =>
    obtain ⟨⟨hl, hline⟩, hls⟩ := List.forall_mem_cons.mp h
    obtain ⟨hbraces, hthrough, hplace⟩ := @read_plain l line 0 hl hline
    rw [liveBraces, hbraces, hthrough, ih hls]
    cases ls with
    | nil => simp [textBraces]
    | cons l' ls =>
      have hnext : placeAfter (placeAfter (line, 0) l) ['\n'] =
          ((placeAfter (line, 0) l).1 + 1, 0) := rfl
      rw [hplace] at hnext
      rw [List.intercalate_cons_cons, List.append_assoc, List.singleton_append, textBraces_append, ← hnext]
      rfl

theorem dropLineComments_plain (h : Plain cs) : dropLineComments false cs = cs := by
  induction cs with
  | nil => rfl
  | cons c cs ih =>
    obtain ⟨-, hslash, hcs⟩ := plain_cons h
    have hnone : ¬(c = '/' ∧ cs.head? = some '/') := fun ⟨hc, hd⟩ => (hslash hc '/' hd).1 rfl
    rw [dropLineComments, if_neg Bool.false_ne_true, if_neg hnone, ih hcs, ite_self]

theorem dropBlockComments_plain (h : Plain cs) : dropBlockComments .outside cs = cs := by
  induction cs with
  | nil => rfl
  | cons c cs ih =>
    obtain ⟨-, hslash, hcs⟩ := plain_cons h
    have hnone : ¬(c = '/' ∧ cs.head? = some '*' ∧ hasCommentEnd cs.tail = true) :=
      fun ⟨hc, hd, _⟩ => (hslash hc '*' hd).2 rfl
    rw [dropBlockComments, if_neg hnone, ih hcs]

theorem normalize_plain (h : Plain cs) : normalize cs = squeeze cs := by
  rw [normalize, dropLineComments_plain h, dropBlockComments_plain h]

end ByteGrid
