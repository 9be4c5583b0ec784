import Mathlib.Data.List.Chain
import Mathlib.Data.List.Forall2
import Mathlib.Data.List.Infix
import ByteGrid.Search.Glob

/-!
What path patterns mean. A pattern is read in one way as signs and runs, and a path matches it if the path
falls into pieces, one for each of them. The runs of `**` end at a line feed, so it is only on paths of one
line that they go over everything.
-/

namespace ByteGrid

variable {wide wide' : Char → Prop} {p : GlobPart} {ps : List GlobPart} {cs : List Char} {c : Char}

def GlobPart.Stands (wide : Char → Prop) : GlobPart → List Char → Prop
  | .anything, piece => ∀ c ∈ piece, wide c
  | .withinName, piece => '/' ∉ piece
  | .literal c, piece => piece = [c]

/-- A text falls into pieces, one for each part. -/
def IsCut (wide : Char → Prop) (ps : List GlobPart) (cs : List Char) : Prop :=
  ∃ pieces, cs = pieces.flatten ∧ List.Forall₂ (GlobPart.Stands wide) ps pieces

theorem isCut_nil : IsCut wide [] cs ↔ cs = [] := by
  constructor
  · rintro ⟨pieces, rfl, h⟩
    cases h
    rfl
  · rintro rfl
    exact ⟨[], rfl, .nil⟩

theorem isCut_cons : IsCut wide (p :: ps) cs ↔
    ∃ piece rest, cs = piece ++ rest ∧ p.Stands wide piece ∧ IsCut wide ps rest := by
  constructor
  · rintro ⟨pieces, rfl, h⟩
    cases h with
    | cons hp hps => exact ⟨_, _, List.flatten_cons, hp, _, rfl, hps⟩
  · rintro ⟨piece, _, rfl, hp, pieces, rfl, hps⟩
    exact ⟨piece :: pieces, List.flatten_cons.symm, .cons hp hps⟩

theorem IsCut.mono (hwide : ∀ c ∈ cs, wide c → wide' c) (h : IsCut wide ps cs) : IsCut wide' ps cs := by
  induction ps generalizing cs with
  | nil => rwa [isCut_nil] at h ⊢
  | cons p ps ih =>
    obtain ⟨piece, rest, rfl, hp, hps⟩ := isCut_cons.mp h
    obtain ⟨hpiece, hrest⟩ := List.forall_mem_append.mp hwide
    apply isCut_cons.mpr
    refine ⟨piece, rest, rfl, ?_, ih hrest hps⟩
    cases p with
    | anything => exact fun c hc => hpiece c hc (hp c hc)
    | withinName => exact hp
    | literal d => exact hp

theorem isCut_literal {d : Char} :
    IsCut wide (.literal d :: ps) (c :: cs) ↔ c = d ∧ IsCut wide ps cs := by
  rw [isCut_cons]
  constructor
  · rintro ⟨_, rest, heq, rfl, hps⟩
    cases heq
    exact ⟨rfl, hps⟩
  · rintro ⟨rfl, hps⟩
    exact ⟨[c], cs, rfl, rfl, hps⟩

theorem not_isCut_literal {d : Char} : ¬IsCut wide (.literal d :: ps) [] := by
  rw [isCut_cons]
  rintro ⟨_, rest, heq, rfl, -⟩
  cases heq

section Runs

variable (hrun : ∀ piece, p.Stands wide piece ↔ ∀ c ∈ piece, p.admits c = true)

include hrun

theorem isCut_run_nil : IsCut wide (p :: ps) [] ↔ IsCut wide ps [] := by
  rw [isCut_cons]
  constructor
  · rintro ⟨piece, rest, heq, -, hps⟩
    rwa [(List.append_eq_nil_iff.mp heq.symm).2] at hps
  · intro hps
    exact ⟨[], [], rfl, (hrun []).mpr nofun, hps⟩

theorem isCut_run_cons : IsCut wide (p :: ps) (c :: cs) ↔
    IsCut wide ps (c :: cs) ∨ p.admits c = true ∧ IsCut wide (p :: ps) cs := by
  simp only [isCut_cons (p := p), hrun]
  constructor
  · rintro ⟨piece, rest, heq, hpiece, hps⟩
    cases piece with
    | nil =>
      rw [List.nil_append] at heq
      exact .inl (heq ▸ hps)
    | cons d piece =>
      cases heq
      obtain ⟨hc, hpiece⟩ := List.forall_mem_cons.mp hpiece
      exact .inr ⟨hc, piece, rest, rfl, hpiece, hps⟩
  · rintro (hps | ⟨hc, piece, rest, rfl, hpiece, hps⟩)
    · exact ⟨[], c :: cs, rfl, nofun, hps⟩
    · exact ⟨c :: piece, rest, rfl, List.forall_mem_cons.mpr ⟨hc, hpiece⟩, hps⟩

end Runs

def OnLine (c : Char) : Prop :=
  c ≠ '\n'

theorem stands_run (h : p.isRun = true) (piece : List Char) :
    p.Stands OnLine piece ↔ ∀ c ∈ piece, p.admits c = true := by
  cases p with
  | anything => simp [GlobPart.Stands, GlobPart.admits, OnLine]
  | withinName =>
    simp only [GlobPart.Stands, GlobPart.admits, bne_iff_ne]
    exact ⟨fun hpiece c hc hslash => hpiece (hslash ▸ hc), fun hpiece hmem => hpiece _ hmem rfl⟩
  | literal d => cases h

theorem GlobPart.eq_literal_of_isRun (h : p.isRun = false) : ∃ c, p = .literal c := by
  cases p with
  | literal c => exact ⟨c, rfl⟩
  | anything => cases h
  | withinName => cases h

def Answers (ps : List GlobPart) (cs : List Char) (row : List Bool) : Prop :=
  List.Forall₂ (fun suffix b => b = true ↔ IsCut OnLine ps suffix) cs.tails row

theorem Answers.head {row : List Bool} (h : Answers ps cs row) :
    row.headD false = true ↔ IsCut OnLine ps cs := by
  unfold Answers at h
  cases cs with
  | nil =>
    change List.Forall₂ _ [[]] row at h
    cases h with
    | cons hb _ => exact hb
  | cons c cs =>
    rw [List.tails_cons] at h
    cases h with
    | cons hb _ => exact hb

theorem before_answers {after : List Bool} (h : Answers ps cs after) :
    Answers (p :: ps) cs (p.before cs after) := by
  induction cs generalizing after with
  | nil =>
    have hhead := h.head
    apply List.Forall₂.cons _ .nil
    cases hp : p.isRun with
    | true => rw [Bool.true_and, hhead, isCut_run_nil (stands_run hp)]
    | false =>
      obtain ⟨d, rfl⟩ := GlobPart.eq_literal_of_isRun hp
      exact iff_of_false nofun not_isCut_literal
  | cons c cs ih =>
    have hhead := h.head
    obtain ⟨b, rest, rfl⟩ : ∃ b rest, after = b :: rest := by
      cases h with
      | cons => exact ⟨_, _, rfl⟩
    have hrest : Answers ps cs rest := by
      rw [Answers, List.tails_cons] at h
      exact (List.forall₂_cons.mp h).2
    have hshorter := ih hrest
    rw [Answers, List.tails_cons]
    apply List.Forall₂.cons _ hshorter
    cases hp : p.isRun with
    | true =>
      rw [isCut_run_cons (stands_run hp), ← hhead, ← hshorter.head]
      simp
    | false =>
      obtain ⟨d, rfl⟩ := GlobPart.eq_literal_of_isRun hp
      rw [isCut_literal, ← hrest.head]
      simp [GlobPart.admits]

theorem suffixMatches_answers (cs : List Char) (ps : List GlobPart) :
    Answers ps cs (suffixMatches cs ps) := by
  induction ps with
  | nil =>
    induction cs with
    | nil => exact .cons (iff_of_true rfl (isCut_nil.mpr rfl)) .nil
    | cons c cs ih =>
      rw [Answers, List.tails_cons]
      exact .cons (iff_of_false nofun (by simp [isCut_nil])) ih
  | cons p ps ih => exact before_answers ih

def GlobPart.text : GlobPart → List Char
  | .anything => ['*', '*']
  | .withinName => ['*']
  | .literal c => [c]

/-- A pattern is read as parts: they make it up, stars are taken in pairs as far as they go, and what is
not a star stands for itself. -/
structure ReadsAs (pattern : List Char) (ps : List GlobPart) : Prop where
  text : pattern = ps.flatMap GlobPart.text
  signs : ∀ c, .literal c ∈ ps → c ≠ '*'
  paired : ps.IsChain fun p q => p = .withinName → q.isRun = false

theorem globParts_text (h : p = .withinName → cs.head? ≠ some '*') (hsign : p ≠ .literal '*') :
    globParts (p.text ++ cs) = p :: globParts cs := by
  cases p with
  | anything => rfl
  | withinName =>
    have hhead := h rfl
    cases cs with
    | nil => rfl
    | cons c cs =>
      rw [GlobPart.text, List.singleton_append, globParts]
      rintro _ ⟨⟩
      exact hhead rfl
  | literal c =>
    have hc : c ≠ '*' := fun hc => hsign (hc ▸ rfl)
    rw [GlobPart.text, List.singleton_append, globParts]
    · exact fun _ hstar _ => hc hstar
    · exact hc

theorem head_star_iff (hsigns : ∀ c, .literal c ∈ ps → c ≠ '*') :
    (ps.flatMap GlobPart.text).head? = some '*' ↔ ∃ q ∈ ps.head?, q.isRun = true := by
  cases ps with
  | nil => simp
  | cons q ps =>
    cases q with
    | anything => simp [GlobPart.text, GlobPart.isRun]
    | withinName => simp [GlobPart.text, GlobPart.isRun]
    | literal c => simp [GlobPart.text, GlobPart.isRun, hsigns c (.head _)]

theorem globParts_reads (cs : List Char) : ReadsAs cs (globParts cs) := by
  fun_induction globParts cs with
  | case1 => exact ⟨rfl, nofun, .nil⟩
  | case2 cs ih =>
    refine ⟨congrArg (fun rest => '*' :: '*' :: rest) ih.text, ?_, ?_⟩
    · intro c hc
      exact ih.signs c (by simpa using hc)
    · apply List.isChain_cons.mpr
      exact ⟨nofun, ih.paired⟩
  | case3 cs hone ih =>
    refine ⟨congrArg ('*' :: ·) ih.text, ?_, ?_⟩
    · intro c hc
      exact ih.signs c (by simpa using hc)
    · apply List.isChain_cons.mpr
      refine ⟨fun q hq _ => ?_, ih.paired⟩
      by_contra hrun
      have hstar := (head_star_iff ih.signs).mpr ⟨q, hq, Bool.of_not_eq_false hrun⟩
      rw [← ih.text] at hstar
      obtain ⟨rest, rfl⟩ := List.head?_eq_some_iff.mp hstar
      exact hone rest rfl
  | case4 c cs hpair hstar ih =>
    refine ⟨congrArg (c :: ·) ih.text, ?_, ?_⟩
    · intro d hd
      rcases List.mem_cons.mp hd with heq | hd
      · cases heq
        exact hstar
      · exact ih.signs d hd
    · apply List.isChain_cons.mpr
      exact ⟨nofun, ih.paired⟩

theorem readsAs_iff {pattern : List Char} : ReadsAs pattern ps ↔ ps = globParts pattern := by
  constructor
  · rintro ⟨rfl, hsigns, hpaired⟩
    induction ps with
    | nil => rfl
    | cons p ps ih =>
      obtain ⟨hnext, hpaired⟩ := List.isChain_cons.mp hpaired
      have hsigns' : ∀ c, .literal c ∈ ps → c ≠ '*' := fun c hc => hsigns c (.tail _ hc)
      rw [List.flatMap_cons, globParts_text, ← ih hsigns' hpaired]
      · intro hp hstar
        obtain ⟨q, hq, hrun⟩ := (head_star_iff hsigns').mp hstar
        rw [hnext q hq hp] at hrun
        cases hrun
      · rintro rfl
        exact hsigns '*' (.head _) rfl
  · rintro rfl
    exact globParts_reads pattern

theorem globMatches_exact (pattern path : String) : ∃ ps,
    (∀ qs, ReadsAs pattern.toList qs ↔ qs = ps) ∧
    (globMatches pattern path = true ↔ IsCut OnLine ps path.toList) ∧
    ('\n' ∉ path.toList → (globMatches pattern path = true ↔ IsCut (fun _ => True) ps path.toList)) := by
  have hmatches : globMatches pattern path = true ↔
      IsCut OnLine (globParts pattern.toList) path.toList :=
    (suffixMatches_answers path.toList (globParts pattern.toList)).head
  refine ⟨globParts pattern.toList, fun qs => readsAs_iff, hmatches, fun hline => ?_⟩
  rw [hmatches]
  constructor
  · intro h
    exact h.mono fun _ _ _ => trivial
  · intro h
    apply h.mono
    rintro c hc - rfl
    exact hline hc

theorem globMatches_exact_backup : ∃ ps,
    ReadsAs "***/(old)?/*.h".toList ps ∧ IsCut (fun _ => True) ps "/work/a/(old)?/types.h".toList := by
  obtain ⟨ps, hreads, -, hmatches⟩ := globMatches_exact "***/(old)?/*.h" "/work/a/(old)?/types.h"
  have hline : '\n' ∉ "/work/a/(old)?/types.h".toList := by decide +kernel
  have hmatch : globMatches "***/(old)?/*.h" "/work/a/(old)?/types.h" = true := by decide +kernel
  exact ⟨ps, (hreads ps).mpr rfl, (hmatches hline).mp hmatch⟩

theorem globMatches_line_feed :
    ReadsAs "**".toList [.anything] ∧ IsCut (fun _ => True) [.anything] "a\nb".toList ∧
      globMatches "**" "a\nb" = false := by
  refine ⟨readsAs_iff.mpr rfl, ⟨["a\nb".toList], rfl, .cons ?_ .nil⟩, by decide +kernel⟩
  intro c hc
  trivial

end ByteGrid
