import Mathlib.Data.List.Infix
import ByteGrid.Declaration.Parser

/-!
What comments do to the structs of a text. Line comments are taken out first, and two slashes in a
block comment count as one too: they hide the end of the block comment if that is on the same line.
Where no end is hidden, a block comment can be put anywhere without a change of what is found.
-/

namespace ByteGrid

open ByteGrid.Text

/-- A text that ends outside of comments: signs, line comments with their line feed, and block comments
with their end, where each block comment, with the text behind it, is of a kind. -/
inductive Whole (kind : List Char → List Char → Prop) : List Char → Prop
  | nil : Whole kind []
  | sign {c cs} : (c = '/' → ∀ d ∈ cs.head?, d ≠ '/' ∧ d ≠ '*') → Whole kind cs → Whole kind (c :: cs)
  | line {text cs} : '\n' ∉ text → Whole kind cs → Whole kind ('/' :: '/' :: (text ++ '\n' :: cs))
  | block {text cs} : ¬['*', '/'] <:+: text → kind text cs → Whole kind cs →
      Whole kind ('/' :: '*' :: (text ++ '*' :: '/' :: cs))

/-- No line comment seems to begin in a block comment and to go on behind it: after two slashes the line
ends before the comment does, and the end itself is not followed by a slash. -/
def EndVisible (text rest : List Char) : Prop :=
  (∀ s ∈ text.tails, ['/', '/'] <+: s → '\n' ∈ s) ∧ rest.head? ≠ some '/'

instance (text rest : List Char) : Decidable (EndVisible text rest) :=
  inferInstanceAs (Decidable (_ ∧ _))

variable {u t v w cs : List Char} {kind : List Char → List Char → Prop}

theorem Whole.signs_append (h : '/' ∉ u) (hv : Whole kind v) : Whole kind (u ++ v) := by
  induction u with
  | nil => exact hv
  | cons c u ih =>
    rw [List.mem_cons, not_or] at h
    exact .sign (fun hc => absurd hc.symm h.1) (ih h.2)

theorem hasCommentEnd_iff : hasCommentEnd cs = true ↔ ['*', '/'] <:+: cs := by
  induction cs with
  | nil => simp [hasCommentEnd]
  | cons c cs ih =>
    rw [hasCommentEnd, Bool.or_eq_true, decide_eq_true_eq, ih, List.infix_cons_iff,
      List.cons_prefix_cons]
    refine or_congr (and_congr eq_comm ?_) Iff.rfl
    cases cs <;> simp [eq_comm]

theorem dropLineComments_sign {c : Char} (h : c = '/' → cs.head? ≠ some '/') :
    dropLineComments false (c :: cs) = c :: dropLineComments false cs := by
  have hnone : ¬(c = '/' ∧ cs.head? = some '/') := fun ⟨hc, hd⟩ => h hc hd
  rw [dropLineComments, if_neg Bool.false_ne_true, if_neg hnone, ite_self]

theorem dropLineComments_slashes :
    dropLineComments false ('/' :: '/' :: cs) = dropLineComments true cs := rfl

theorem dropLineComments_newline (inside : Bool) (cs : List Char) :
    dropLineComments inside ('\n' :: cs) = '\n' :: dropLineComments false cs :=
  if_pos rfl

theorem dropLineComments_skip {c : Char} (hc : c ≠ '\n') :
    dropLineComments true (c :: cs) = dropLineComments true cs := by
  rw [dropLineComments, if_neg hc, if_pos rfl]

theorem dropLineComments_inside (inside : Bool) (cs : List Char) :
    dropLineComments true cs = dropLineComments inside (cs.dropWhile (· ≠ '\n')) := by
  induction cs with
  | nil => rfl
  | cons c cs ih =>
    by_cases hc : c = '\n'
    · rw [hc, dropLineComments_newline, ← dropLineComments_newline inside]
      rfl
    · rw [dropLineComments_skip hc, ih, List.dropWhile_cons_of_pos (by simpa using hc)]

theorem dropWhile_line (h : '\n' ∉ t) (cs : List Char) :
    (t ++ cs).dropWhile (· ≠ '\n') = cs.dropWhile (· ≠ '\n') := by
  refine List.dropWhile_append_of_pos fun c hc => ?_
  have hne : c ≠ '\n' := fun heq => h (heq ▸ hc)
  simpa using hne

theorem dropLineComments_comment {inside : Bool} (hin : inside = true → '\n' ∈ t)
    (hvisible : ∀ s ∈ t.tails, ['/', '/'] <+: s → '\n' ∈ s) :
    dropLineComments inside (t ++ '*' :: cs) =
      dropLineComments inside t ++ dropLineComments false ('*' :: cs) := by
  fun_induction dropLineComments inside t with
  | case1 inside =>
    obtain rfl : inside = false := by simpa using hin
    rfl
  | case2 inside t ih =>
    rw [List.tails_cons, List.forall_mem_cons] at hvisible
    rw [List.cons_append, dropLineComments_newline, ih nofun hvisible.2, List.cons_append]
  | case3 c t hc ih =>
    rw [List.tails_cons, List.forall_mem_cons] at hvisible
    have hline : '\n' ∈ t := (List.mem_cons.mp (hin rfl)).resolve_left (Ne.symm hc)
    rw [List.cons_append, dropLineComments_skip hc, ih (fun _ => hline) hvisible.2]
  | case4 inside c t hc hout hslashes ih =>
    obtain rfl := Bool.of_not_eq_true hout
    obtain ⟨rfl, hhead⟩ := hslashes
    obtain ⟨t, rfl⟩ := List.head?_eq_some_iff.mp hhead
    rw [List.tails_cons, List.forall_mem_cons] at hvisible
    have hline : '\n' ∈ '/' :: t :=
      (List.mem_cons.mp (hvisible.1 ⟨t, rfl⟩)).resolve_left (Ne.symm hc)
    rw [List.cons_append, List.cons_append, dropLineComments_slashes, ← ih (fun _ => hline) hvisible.2]
    rfl
  | case5 inside c t hc hout hsign ih =>
    obtain rfl := Bool.of_not_eq_true hout
    rw [List.tails_cons, List.forall_mem_cons] at hvisible
    have hnone : c = '/' → (t ++ '*' :: cs).head? ≠ some '/' := by
      intro hslash
      cases t with
      | nil => simp
      | cons d t => exact fun hd => hsign ⟨hslash, hd⟩
    rw [List.cons_append, dropLineComments_sign hnone, ih nofun hvisible.2, List.cons_append]

theorem dropLineComments_line (h : '\n' ∉ t) :
    dropLineComments false ('/' :: '/' :: (t ++ '\n' :: cs)) = '\n' :: dropLineComments false cs := by
  rw [dropLineComments_slashes, dropLineComments_inside false, dropWhile_line h]
  exact dropLineComments_newline false cs

theorem dropLineComments_block (h : EndVisible t cs) :
    dropLineComments false ('/' :: '*' :: (t ++ '*' :: '/' :: cs)) =
      '/' :: '*' :: (dropLineComments false t ++ '*' :: '/' :: dropLineComments false cs) := by
  have hstar {rest : List Char} :
      dropLineComments false ('*' :: rest) = '*' :: dropLineComments false rest :=
    dropLineComments_sign nofun
  have hcomment := @dropLineComments_comment t ('/' :: cs) false Bool.false_ne_true.elim h.1
  rw [dropLineComments_sign (by simp), hstar, hcomment, hstar, dropLineComments_sign fun _ => h.2]

theorem getLast?_of_suffix {x : Char} (hs : cs <:+ u) (h : u.getLast? ≠ some x) :
    cs.getLast? ≠ some x := by
  obtain ⟨v, rfl⟩ := hs
  intro hlast
  rw [List.getLast?_append, hlast, Option.some_or] at h
  exact h rfl

theorem head?_append_of_suffix {x : Char} (hs : x :: cs <:+ u) (h : u.getLast? ≠ some x) :
    (cs ++ w).head? = cs.head? := by
  cases cs with
  | nil => exact absurd rfl (getLast?_of_suffix hs h)
  | cons d cs => rfl

theorem dropLineComments_slashes_append {inside : Bool} (h : t.getLast? ≠ some '/') :
    dropLineComments inside (t ++ '/' :: '/' :: cs) =
      dropLineComments inside (t ++ cs.dropWhile (· ≠ '\n')) := by
  fun_induction dropLineComments inside t with
  | case1 inside => cases inside <;> exact dropLineComments_inside _ cs
  | case2 inside t ih =>
    have ht := ih (getLast?_of_suffix (List.suffix_cons _ _) h)
    rw [List.cons_append, List.cons_append, dropLineComments_newline, dropLineComments_newline, ht]
  | case3 c t hc ih =>
    have ht := ih (getLast?_of_suffix (List.suffix_cons _ _) h)
    rw [List.cons_append, List.cons_append, dropLineComments_skip hc, dropLineComments_skip hc, ht]
  | case4 inside c t hc hout hslashes ih =>
    obtain rfl := Bool.of_not_eq_true hout
    obtain ⟨rfl, hhead⟩ := hslashes
    have ht := ih (getLast?_of_suffix (List.suffix_cons _ _) h)
    obtain ⟨t, rfl⟩ := List.head?_eq_some_iff.mp hhead
    exact ht
  | case5 inside c t hc hout hsign ih =>
    obtain rfl := Bool.of_not_eq_true hout
    have ht := ih (getLast?_of_suffix (List.suffix_cons _ _) h)
    have hnone (rest : List Char) : c = '/' → (t ++ rest).head? ≠ some '/' := by
      rintro rfl hd
      rw [head?_append_of_suffix List.suffix_rfl h] at hd
      exact hsign ⟨rfl, hd⟩
    rw [List.cons_append, List.cons_append, dropLineComments_sign (hnone _),
      dropLineComments_sign (hnone _), ht]

theorem Whole.dropLineComments_append (hu : Whole EndVisible u) (h : u.getLast? ≠ some '/') :
    dropLineComments false (u ++ w) = dropLineComments false u ++ dropLineComments false w := by
  induction hu with
  | nil => rfl
  | @sign c cs hc _ ih =>
    have hsign : c = '/' → cs.head? ≠ some '/' := fun hslash hd => (hc hslash _ hd).1 rfl
    have hsign' : c = '/' → (cs ++ w).head? ≠ some '/' := by
      rintro rfl
      rw [head?_append_of_suffix List.suffix_rfl h]
      exact hsign rfl
    rw [List.cons_append, dropLineComments_sign hsign, dropLineComments_sign hsign',
      ih (getLast?_of_suffix (List.suffix_cons c cs) h), List.cons_append]
  | @line text cs hline _ ih =>
    have hsuffix : cs <:+ '/' :: '/' :: (text ++ '\n' :: cs) :=
      ⟨'/' :: '/' :: (text ++ ['\n']), by simp⟩
    have happend : '/' :: '/' :: (text ++ '\n' :: cs) ++ w =
        '/' :: '/' :: (text ++ '\n' :: (cs ++ w)) := by simp
    rw [happend, dropLineComments_line hline, dropLineComments_line hline,
      ih (getLast?_of_suffix hsuffix h), List.cons_append]
  | @block text cs htext hvisible _ ih =>
    have hsuffix : '/' :: cs <:+ '/' :: '*' :: (text ++ '*' :: '/' :: cs) :=
      ⟨'/' :: '*' :: (text ++ ['*']), by simp⟩
    have hvisible' : EndVisible text (cs ++ w) :=
      ⟨hvisible.1, by rw [head?_append_of_suffix hsuffix h]; exact hvisible.2⟩
    have happend : '/' :: '*' :: (text ++ '*' :: '/' :: cs) ++ w =
        '/' :: '*' :: (text ++ '*' :: '/' :: (cs ++ w)) := by simp
    rw [happend, dropLineComments_block hvisible, dropLineComments_block hvisible',
      ih (getLast?_of_suffix ((List.suffix_cons '/' cs).trans hsuffix) h)]
    simp

theorem dropBlockComments_sign {c : Char} (h : c = '/' → cs.head? ≠ some '*') :
    dropBlockComments .outside (c :: cs) = c :: dropBlockComments .outside cs := by
  rw [dropBlockComments, if_neg fun hopens => h hopens.1 hopens.2.1]

theorem dropLineComments_head? (h : cs.head? ≠ some '/') :
    (dropLineComments false cs).head? = cs.head? := by
  cases cs with
  | nil => rfl
  | cons c cs =>
    rw [dropLineComments_sign fun hc => absurd (congrArg some hc) h]
    rfl

theorem hasCommentEnd_dropLineComments {inside : Bool} (h : hasCommentEnd cs = false) :
    hasCommentEnd (dropLineComments inside cs) = false := by
  fun_induction dropLineComments inside cs with
  | case1 inside => rfl
  | case2 inside cs ih =>
    rw [hasCommentEnd, Bool.or_eq_false_iff] at h
    simp [hasCommentEnd, ih h.2]
  | case3 c cs hc ih =>
    rw [hasCommentEnd, Bool.or_eq_false_iff] at h
    exact ih h.2
  | case4 inside c cs hc hout hslashes ih =>
    rw [hasCommentEnd, Bool.or_eq_false_iff] at h
    exact ih h.2
  | case5 inside c cs hc hout hsign ih =>
    rw [hasCommentEnd, Bool.or_eq_false_iff, decide_eq_false_iff_not] at h
    rw [hasCommentEnd, Bool.or_eq_false_iff, decide_eq_false_iff_not]
    refine ⟨fun ⟨hc, hd⟩ => h.1 ⟨hc, ?_⟩, ih h.2⟩
    by_contra hhead
    exact hhead (dropLineComments_head? hhead ▸ hd)

theorem hasCommentEnd_comment (h : ¬['*', '/'] <:+: t) :
    hasCommentEnd (dropLineComments false t) = false :=
  hasCommentEnd_dropLineComments (Bool.eq_false_iff.mpr fun hend => h (hasCommentEnd_iff.mp hend))

theorem hasCommentEnd_append : hasCommentEnd (t ++ '*' :: '/' :: cs) = true :=
  hasCommentEnd_iff.mpr ⟨t, cs, by simp⟩

theorem dropBlockComments_inside (h : hasCommentEnd t = false) :
    dropBlockComments .inside (t ++ '*' :: '/' :: cs) = dropBlockComments .outside cs := by
  induction t with
  | nil => rfl
  | cons c t ih =>
    rw [hasCommentEnd, Bool.or_eq_false_iff, decide_eq_false_iff_not] at h
    have hnone : ¬(c = '*' ∧ (t ++ '*' :: '/' :: cs).head? = some '/') := by
      rintro ⟨hc, hd⟩
      cases t with
      | nil => simp at hd
      | cons d t => exact h.1 ⟨hc, hd⟩
    rw [List.cons_append, dropBlockComments, if_neg hnone, ih h.2]

theorem dropBlockComments_comment (h : hasCommentEnd t = false) :
    dropBlockComments .outside ('/' :: '*' :: (t ++ '*' :: '/' :: cs)) =
      dropBlockComments .outside cs := by
  rw [dropBlockComments, if_pos ⟨rfl, rfl, hasCommentEnd_append⟩]
  exact dropBlockComments_inside h

theorem Whole.dropBlockComments_append (hu : Whole EndVisible u) (h : u.getLast? ≠ some '/') :
    dropBlockComments .outside (dropLineComments false u ++ w) =
      dropBlockComments .outside (dropLineComments false u) ++ dropBlockComments .outside w := by
  induction hu with
  | nil => rfl
  | @sign c cs hc _ ih =>
    have hsign : c = '/' → cs.head? ≠ some '/' := fun hslash hd => (hc hslash _ hd).1 rfl
    have hstar : c = '/' → (dropLineComments false cs).head? ≠ some '*' := by
      intro hslash hd
      rw [dropLineComments_head? (hsign hslash)] at hd
      exact (hc hslash _ hd).2 rfl
    have hstar' : c = '/' → (dropLineComments false cs ++ w).head? ≠ some '*' := by
      rintro rfl
      rw [List.head?_append, dropLineComments_head? (hsign rfl)]
      cases cs with
      | nil => exact absurd rfl h
      | cons d cs => simpa using (hc rfl d rfl).2
    rw [dropLineComments_sign hsign, List.cons_append, dropBlockComments_sign hstar,
      dropBlockComments_sign hstar', ih (getLast?_of_suffix (List.suffix_cons c cs) h),
      List.cons_append]
  | @line text cs hline _ ih =>
    have hsuffix : cs <:+ '/' :: '/' :: (text ++ '\n' :: cs) :=
      ⟨'/' :: '/' :: (text ++ ['\n']), by simp⟩
    have hnewline {rest : List Char} : dropBlockComments .outside ('\n' :: rest) =
        '\n' :: dropBlockComments .outside rest := dropBlockComments_sign (by simp)
    rw [dropLineComments_line hline, List.cons_append, hnewline, hnewline,
      ih (getLast?_of_suffix hsuffix h), List.cons_append]
  | @block text cs htext hvisible _ ih =>
    have hsuffix : cs <:+ '/' :: '*' :: (text ++ '*' :: '/' :: cs) :=
      ⟨'/' :: '*' :: (text ++ ['*', '/']), by simp⟩
    have hend := hasCommentEnd_comment htext
    have happend : '/' :: '*' :: (dropLineComments false text ++
          '*' :: '/' :: dropLineComments false cs) ++ w =
        '/' :: '*' :: (dropLineComments false text ++
          '*' :: '/' :: (dropLineComments false cs ++ w)) := by simp
    rw [dropLineComments_block hvisible, happend, dropBlockComments_comment hend,
      dropBlockComments_comment hend, ih (getLast?_of_suffix hsuffix h)]

theorem normalize_comment (hu : Whole EndVisible u) (hlast : u.getLast? ≠ some '/')
    (ht : ¬['*', '/'] <:+: t) (hvisible : EndVisible t v) :
    normalize (u ++ '/' :: '*' :: (t ++ '*' :: '/' :: v)) = normalize (u ++ v) := by
  rw [normalize, normalize, hu.dropLineComments_append hlast, hu.dropLineComments_append hlast,
    dropLineComments_block hvisible, hu.dropBlockComments_append hlast,
    hu.dropBlockComments_append hlast, dropBlockComments_comment (hasCommentEnd_comment ht)]

/-- A block comment changes nothing if its end is visible, and so are those of the block comments before
it. If two slashes stand in it, or begin with its end, they take with them the rest of their line. -/
theorem comment_inert (hu : Whole EndVisible u) (hlast : u.getLast? ≠ some '/')
    (ht : ¬['*', '/'] <:+: t) :
    (EndVisible t v →
      parseStructs (u ++ '/' :: '*' :: (t ++ '*' :: '/' :: v)) = parseStructs (u ++ v)) ∧
    ∀ before after, t ++ '*' :: '/' :: v = before ++ '/' :: '/' :: after →
      before.getLast? ≠ some '/' →
      parseStructs (u ++ '/' :: '*' :: (t ++ '*' :: '/' :: v)) =
        parseStructs (u ++ '/' :: '*' :: (before ++ after.dropWhile (· ≠ '\n'))) := by
  constructor
  · intro hvisible
    rw [parseStructs, parseStructs, normalize_comment hu hlast ht hvisible]
  · intro before after heq hbefore
    have hfront : ('/' :: '*' :: before).getLast? ≠ some '/' := by
      cases before with
      | nil => simp
      | cons c before => exact hbefore
    have hslashes := @dropLineComments_slashes_append ('/' :: '*' :: before) after false hfront
    rw [List.cons_append, List.cons_append, List.cons_append, List.cons_append] at hslashes
    rw [parseStructs, parseStructs, normalize, normalize, heq, hu.dropLineComments_append hlast,
      hu.dropLineComments_append hlast, hslashes]

theorem comment_inert_lines :
    let u := "struct S \x7b int a; // one\n /* two */ ".toList
    let t := " see http://three\n \x7d; ".toList
    let v := " int b; \x7d;".toList
    (Whole EndVisible u ∧ u.getLast? ≠ some '/' ∧ ¬['*', '/'] <:+: t ∧ EndVisible t v) ∧
      parseStructs (u ++ '/' :: '*' :: (t ++ '*' :: '/' :: v)) =
        [⟨"S", [.new "a" "int", .new "b" "int"]⟩] := by
  intro u t v
  have hspace : Whole EndVisible [' '] := .sign (by decide) .nil
  have hblock : Whole EndVisible "/* two */ ".toList :=
    @Whole.block EndVisible " two ".toList [' '] (by decide) (by decide) hspace
  have hline : Whole EndVisible "// one\n /* two */ ".toList :=
    @Whole.line EndVisible " one".toList _ (by decide) (.sign (by decide) hblock)
  have hu : Whole EndVisible ("struct S \x7b int a; ".toList ++ "// one\n /* two */ ".toList) :=
    .signs_append (by decide) hline
  have hlast : u.getLast? ≠ some '/' := by decide
  have ht : ¬['*', '/'] <:+: t := by decide
  have hvisible : EndVisible t v := by decide
  refine ⟨⟨hu, hlast, ht, hvisible⟩, ?_⟩
  have hinert := (comment_inert hu hlast ht).1 hvisible
  refine hinert.trans ?_
  rw [parseStructs_of_untyped (by decide +kernel)]
  decide +kernel

theorem comment_hides_struct :
    let u := "struct S \x7b int a; ".toList
    let t := " x // y ".toList
    let v := " int b; \x7d;".toList
    Whole (fun _ _ => True) u ∧ u.getLast? = some ' ' ∧ ¬['*', '/'] <:+: t ∧
      parseStructs (u ++ '/' :: '*' :: (t ++ '*' :: '/' :: v)) = [] ∧
      parseStructs (u ++ v) = [⟨"S", [.new "a" "int", .new "b" "int"]⟩] := by
  intro u t v
  have hu : Whole (fun _ _ => True) (u ++ []) := Whole.signs_append (by decide) .nil
  refine ⟨by rwa [List.append_nil] at hu, by decide, by decide, ?_, ?_⟩
  · rw [parseStructs_of_untyped (by decide +kernel)]
    decide +kernel
  · rw [parseStructs_of_untyped (by decide +kernel)]
    decide +kernel

end ByteGrid
