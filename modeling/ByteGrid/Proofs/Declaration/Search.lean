import Mathlib.Data.List.Basic
import ByteGrid.Proofs.Declaration.Forms

namespace ByteGrid

open ByteGrid.Text

variable {form : List Char → Option StructText} {cs key rest u v w : List Char} {s : StructText}
variable {n skip : Nat}

theorem structsFrom_skip (u v : List Char) :
    structsFrom form u.length n (u ++ v) = structsFrom form 0 (n + u.length) v := by
  induction u generalizing n with
  | nil => rfl
  | cons c u ih =>
    rw [List.length_cons, List.cons_append, structsFrom, ih]
    congr 1
    omega

theorem structsFrom_some (hne : u ≠ []) (h : form (u ++ v) = some s) (hrest : s.rest = v) :
    structsFrom form 0 n (u ++ v) = (n, s) :: structsFrom form 0 (n + u.length) v := by
  obtain ⟨c, u, rfl⟩ := List.exists_cons_of_ne_nil hne
  have hskip : (u ++ v).length - s.rest.length = u.length := by
    rw [hrest, List.length_append, Nat.add_sub_cancel]
  rw [List.cons_append] at h ⊢
  rw [structsFrom, h]
  dsimp only
  rw [hskip, structsFrom_skip, List.length_cons]
  congr 2
  omega

theorem structsFrom_none (h : ∀ u', u' ≠ [] → u' <:+ u → form (u' ++ v) = none) :
    structsFrom form 0 n (u ++ v) = structsFrom form 0 (n + u.length) v := by
  induction u generalizing n with
  | nil => rfl
  | cons c u ih =>
    have hfirst : form (c :: (u ++ v)) = none := h (c :: u) (List.cons_ne_nil _ _) (List.suffix_refl _)
    rw [List.cons_append, structsFrom, hfirst]
    dsimp only
    rw [ih fun u' hne hu' => h u' hne (hu'.trans (List.suffix_cons c u)), List.length_cons]
    congr 1
    omega

theorem structsFrom_skipped {x : Nat × StructText} (h : x ∈ structsFrom form skip n cs) :
    n + skip ≤ x.1 := by
  fun_induction structsFrom form skip n cs with
  | case1 => cases h
  | case2 n c cs skip ih =>
    have hlater := ih h
    omega
  | case3 n c cs s hs ih =>
    rcases List.mem_cons.mp h with rfl | h
    · exact Nat.le_refl _
    · have hlater := ih h
      omega
  | case4 n c cs hs ih =>
    have hlater := ih h
    omega

theorem structsFrom_le {x : Nat × StructText} (h : x ∈ structsFrom form skip n cs) : n ≤ x.1 :=
  Nat.le_of_add_right_le (structsFrom_skipped h)

theorem structsFrom_read {x : Nat × StructText} (h : x ∈ structsFrom form skip n cs) :
    ∃ front rest, cs = front ++ rest ∧ x.1 = n + front.length ∧ form rest = some x.2 := by
  have hstep {n : Nat} {c : Char} {cs : List Char} (h : ∃ front rest, cs = front ++ rest ∧
      x.1 = n + 1 + front.length ∧ form rest = some x.2) :
      ∃ front rest, c :: cs = front ++ rest ∧ x.1 = n + front.length ∧ form rest = some x.2 := by
    obtain ⟨front, rest, rfl, hplace, hrest⟩ := h
    refine ⟨c :: front, rest, rfl, ?_, hrest⟩
    rw [List.length_cons]
    omega
  fun_induction structsFrom form skip n cs with
  | case1 => cases h
  | case2 n c cs skip ih => exact hstep (ih h)
  | case3 n c cs s hs ih =>
    rcases List.mem_cons.mp h with rfl | h
    · exact ⟨[], c :: cs, rfl, rfl, hs⟩
    · exact hstep (ih h)
  | case4 n c cs hs ih => exact hstep (ih h)

theorem structsFrom_head {place : Nat} {more : List (Nat × StructText)}
    (h : structsFrom form 0 n cs = (place, s) :: more) :
    ∃ front rest, cs = front ++ rest ∧ place = n + front.length ∧ form rest = some s := by
  have hmem : (place, s) ∈ structsFrom form 0 n cs := by
    rw [h]
    exact .head _
  exact structsFrom_read hmem

theorem StructText.Opens.cut {c : Char} (hkey : IsWord key) (h : s.Opens key (w ++ c :: rest))
    (hw : ∀ d ∈ w, isBlank d = false) (hc : isBlank c = true) :
    w = key ∧ ∃ d ∈ (trimStart rest).head?, isWordChar d = true := by
  obtain ⟨gap, u, after, heq, ⟨hne, hgap⟩, ⟨d, hd, hword⟩, -⟩ := h
  obtain ⟨e, gap, rfl⟩ := List.exists_cons_of_ne_nil hne
  obtain ⟨u, rfl⟩ := List.head?_eq_some_iff.mp hd
  obtain ⟨he, hblank⟩ := List.forall_mem_cons.mp hgap
  have hsolid {w : List Char} (hw : ∀ d ∈ w, isBlank d = false) : ∀ d ∈ w, (!isBlank d) = true :=
    fun d hd => by simp [hw d hd]
  obtain ⟨hwkey, hrest⟩ := cut_unique heq (hsolid hw)
    (hsolid fun d hd => isBlank_of_wordChar (hkey.2 d hd)) (by rintro d ⟨⟩; simp [hc])
    (by rintro d ⟨⟩; simp [he])
  have htrim : trimStart rest = d :: (u ++ '\x7b' :: (s.body ++ '\x7d' :: after)) :=
    trimStart_eq_iff.mpr ⟨gap, (List.cons.inj hrest).2, hblank, by
      rintro e ⟨⟩
      exact isBlank_of_wordChar hword⟩
  exact ⟨hwkey, d, by rw [htrim]; rfl, hword⟩

section

variable (hkey : IsWord key) (hopens : ∀ {cs s}, form cs = some s → s.Opens key cs)
include hkey hopens

theorem structsFrom_word {c : Char} (hw : ∀ d ∈ w, isBlank d = false) (hc : isBlank c = true)
    (hend : ¬key <:+ w ∨ ∀ d ∈ (trimStart rest).head?, isWordChar d = false) :
    structsFrom form 0 n (w ++ c :: rest) = structsFrom form 0 (n + w.length + 1) rest := by
  have hnone : ∀ u', u' ≠ [] → u' <:+ w ++ [c] → form (u' ++ rest) = none := by
    intro u' hne hu'
    obtain hnil | ⟨w', rfl, hw'⟩ := List.suffix_concat_iff.mp hu'
    · exact absurd hnil hne
    · rw [Option.eq_none_iff_forall_ne_some]
      intro s hs
      rw [List.append_assoc] at hs
      obtain ⟨rfl, d, hd, hword⟩ := (hopens hs).cut hkey (fun d hd => hw d (hw'.subset hd)) hc
      rcases hend with hend | hend
      · exact hend hw'
      · rw [hend d hd] at hword
        cases hword
  have hfound := @structsFrom_none form _ rest n hnone
  rw [List.append_assoc, List.length_append] at hfound
  exact hfound

theorem structsFrom_gap {gap : List Char} (hgap : AllBlank gap) :
    structsFrom form 0 n (gap ++ rest) = structsFrom form 0 (n + gap.length) rest := by
  induction gap generalizing n with
  | nil => rfl
  | cons c gap ih =>
    obtain ⟨hc, hgap⟩ := List.forall_mem_cons.mp hgap
    have hblank := @structsFrom_word form key (gap ++ rest) [] n hkey hopens c nofun hc
      (.inl fun h => hkey.1 (List.suffix_nil.mp h))
    rw [List.cons_append, ← List.nil_append (c :: _), hblank, ih hgap, List.length_cons]
    congr 1
    simp only [List.length_nil]
    omega

theorem structsFrom_body (hu : '\x7b' ∉ u) :
    structsFrom form 0 n ('\x7b' :: (u ++ ';' :: rest)) =
      structsFrom form 0 (n + u.length + 2) rest := by
  have hnone : ∀ u', u' ≠ [] → u' <:+ '\x7b' :: u ++ [';'] → form (u' ++ rest) = none := by
    intro u' hne hu'
    rw [Option.eq_none_iff_forall_ne_some]
    intro s hs
    obtain hnil | ⟨w, rfl, hw⟩ := List.suffix_concat_iff.mp hu'
    · exact absurd hnil hne
    · rcases List.suffix_cons_iff.mp hw with rfl | hw
      · -- the keyword does not begin with a brace
        obtain ⟨gap, v, after, heq, -⟩ := hopens hs
        obtain ⟨c, key, rfl⟩ := List.exists_cons_of_ne_nil hkey.1
        obtain rfl : '\x7b' = c := Option.some.inj (congrArg List.head? heq)
        exact absurd (hkey.2 _ (.head _)) (by decide)
      · -- behind any other place the semicolon comes before an opening brace
        have hfind := (hopens hs).find? hkey.unbroken
        rw [List.append_assoc, List.find?_append, Option.or_eq_some_iff] at hfind
        rcases hfind with hfind | ⟨-, hfind⟩
        · exact absurd (hw.subset (List.mem_of_find?_eq_some hfind)) hu
        · cases hfind
  have hfound := @structsFrom_none form _ rest n hnone
  rw [List.append_assoc, List.length_append] at hfound
  exact hfound

end

end ByteGrid
