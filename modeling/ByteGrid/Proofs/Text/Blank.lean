import ByteGrid.Text.Basic
import ByteGrid.Text.Character

namespace ByteGrid.Text

variable {c : Char} {cs : List Char}

def AllBlank (cs : List Char) : Prop :=
  ∀ c ∈ cs, isBlank c = true

instance (cs : List Char) : Decidable (AllBlank cs) :=
  List.decidableBAll _ cs

theorem AllBlank.not_mem (h : AllBlank cs) (hc : isBlank c = false) : c ∉ cs := by
  intro hmem
  rw [h c hmem] at hc
  cases hc

def blankCodes : List Nat :=
  [0x09, 0x0A, 0x0B, 0x0C, 0x0D, 0x20, 0x85, 0xA0, 0x1680, 0x2000, 0x2001, 0x2002, 0x2003, 0x2004,
    0x2005, 0x2006, 0x2007, 0x2008, 0x2009, 0x200A, 0x2028, 0x2029, 0x202F, 0x205F, 0x3000]

theorem toNat_mem_blankCodes (h : isBlank c = true) : c.toNat ∈ blankCodes := by
  simp only [isBlank, Bool.or_eq_true, Bool.and_eq_true, decide_eq_true_eq, beq_iff_eq] at h
  simp only [blankCodes, List.mem_cons, List.not_mem_nil, or_false]
  omega

theorem isWordChar_of_blank (h : isBlank c = true) : isWordChar c = false := by
  have hcodes : ∀ n ∈ blankCodes, isWordChar (Char.ofNat n) = false := by decide +kernel
  have hc := hcodes _ (toNat_mem_blankCodes h)
  rwa [Char.ofNat_toNat] at hc

theorem isBlank_of_wordChar (h : isWordChar c = true) : isBlank c = false := by
  cases hblank : isBlank c with
  | false => rfl
  | true => rw [isWordChar_of_blank hblank] at h; cases h

theorem cut_iff {p : Char → Bool} {w rest : List Char} :
    cs.takeWhile p = w ∧ cs.dropWhile p = rest ↔
      cs = w ++ rest ∧ (∀ c ∈ w, p c = true) ∧ ∀ c ∈ rest.head?, p c = false := by
  constructor
  · rintro ⟨rfl, rfl⟩
    refine ⟨List.takeWhile_append_dropWhile.symm, List.all_eq_true.mp List.all_takeWhile, ?_⟩
    intro c hc
    have hhead := List.head?_dropWhile_not p cs
    rwa [hc] at hhead
  · rintro ⟨rfl, hw, hrest⟩
    rw [List.takeWhile_append_of_pos hw, List.dropWhile_append_of_pos hw]
    cases rest with
    | nil => simp
    | cons c rest => simp [hrest c rfl]

theorem cut_unique {p : Char → Bool} {w w' rest rest' : List Char} (h : w ++ rest = w' ++ rest')
    (hw : ∀ c ∈ w, p c = true) (hw' : ∀ c ∈ w', p c = true) (hrest : ∀ c ∈ rest.head?, p c = false)
    (hrest' : ∀ c ∈ rest'.head?, p c = false) : w = w' ∧ rest = rest' := by
  obtain ⟨htake, hdrop⟩ := cut_iff.mpr ⟨Eq.refl (w ++ rest), hw, hrest⟩
  obtain ⟨htake', hdrop'⟩ := cut_iff.mpr ⟨h, hw', hrest'⟩
  exact ⟨htake.symm.trans htake', hdrop.symm.trans hdrop'⟩

theorem drop_length_takeWhile (p : Char → Bool) (cs : List Char) :
    cs.drop (cs.takeWhile p).length = cs.dropWhile p := by
  induction cs with
  | nil => rfl
  | cons c cs ih => cases hc : p c <;> simp [List.takeWhile, List.dropWhile, hc, ih]

theorem trimStart_eq_iff {rest : List Char} : trimStart cs = rest ↔
    ∃ gap, cs = gap ++ rest ∧ AllBlank gap ∧ ∀ c ∈ rest.head?, isBlank c = false := by
  constructor
  · exact fun h => ⟨cs.takeWhile isBlank, cut_iff.mp ⟨rfl, h⟩⟩
  · exact fun ⟨gap, h⟩ => (cut_iff.mpr h).2

theorem trimStart_gap_append {gap rest : List Char} (hgap : AllBlank gap)
    (hrest : ∀ c ∈ rest.head?, isBlank c = false) : trimStart (gap ++ rest) = rest :=
  trimStart_eq_iff.mpr ⟨gap, rfl, hgap, hrest⟩

theorem trimEnd_eq (cs : List Char) : ∃ trail, AllBlank trail ∧ cs = trimEnd cs ++ trail := by
  obtain ⟨lead, heq, hlead, -⟩ := trimStart_eq_iff.mp (Eq.refl (trimStart cs.reverse))
  refine ⟨lead.reverse, fun c hc => hlead c (List.mem_reverse.mp hc), ?_⟩
  rw [← List.reverse_inj, heq]
  simp [trimEnd, trimStart]

theorem trimEnd_allBlank {gap : List Char} (hgap : AllBlank gap) : trimEnd gap = [] := by
  have hnone : trimStart gap.reverse = [] := trimStart_eq_iff.mpr
    ⟨gap.reverse, (List.append_nil _).symm, fun c hc => hgap c (List.mem_reverse.mp hc), nofun⟩
  rw [trimEnd, ← trimStart, hnone, List.reverse_nil]

theorem trim_eq (cs : List Char) :
    ∃ lead trail, AllBlank lead ∧ AllBlank trail ∧ cs = lead ++ (trim cs ++ trail) := by
  obtain ⟨lead, hstart, hlead, -⟩ := trimStart_eq_iff.mp (Eq.refl (trimStart cs))
  obtain ⟨trail, htrail, hend⟩ := trimEnd_eq (trimStart cs)
  exact ⟨lead, trail, hlead, htrail, by rw [trim, ← hend, ← hstart]⟩

/-- A single space for each run of blanks, and none for one that goes on from before. -/
def collapseFrom (behind : Bool) : List Char → List Char
  | [] => []
  | c :: cs =>
    if isBlank c then if behind then collapseFrom true cs else ' ' :: collapseFrom true cs
    else c :: collapseFrom false cs

def collapse (cs : List Char) : List Char :=
  collapseFrom false cs

theorem collapseFrom_append_cons {behind : Bool} {rest : List Char} (hc : isBlank c = false) :
    collapseFrom behind (cs ++ c :: rest) = collapseFrom behind cs ++ c :: collapse rest := by
  induction cs generalizing behind with
  | nil => simp [collapseFrom, collapse, hc]
  | cons d cs ih =>
    simp only [List.cons_append, collapseFrom, ih]
    split
    · split <;> rfl
    · rfl

theorem collapse_append_cons {rest : List Char} (hc : isBlank c = false) :
    collapse (cs ++ c :: rest) = collapse cs ++ c :: collapse rest :=
  collapseFrom_append_cons hc

theorem collapse_append {rest : List Char} (h : ∀ c ∈ rest.head?, isBlank c = false) :
    collapse (cs ++ rest) = collapse cs ++ collapse rest := by
  cases rest with
  | nil => simp [collapse, collapseFrom]
  | cons c rest =>
    have hfirst : collapse (c :: rest) = c :: collapse rest := @collapse_append_cons c [] rest (h c rfl)
    rw [collapse_append_cons (h c rfl), hfirst]

theorem collapseFrom_collapseFrom {behind : Bool} :
    collapseFrom behind (collapseFrom behind cs) = collapseFrom behind cs := by
  have hspace : isBlank ' ' = true := rfl
  induction cs generalizing behind with
  | nil => rfl
  | cons c cs ih =>
    cases hc : isBlank c <;> cases behind <;> simp [collapseFrom, hc, hspace, ih]

theorem mem_of_mem_collapseFrom {behind : Bool} (hc : isBlank c = false)
    (h : c ∈ collapseFrom behind cs) : c ∈ cs := by
  induction cs generalizing behind with
  | nil => exact h
  | cons d cs ih =>
    have hspace : c ≠ ' ' := by
      rintro rfl
      cases hc
    cases hd : isBlank d <;> cases behind <;> simp [collapseFrom, hd, hspace] at h <;> grind

theorem collapse_eq_append_cons {p : Char → Bool} {u v : List Char}
    (hp : ∀ c, p c = false → isBlank c = false) (h : collapse cs = u ++ c :: v)
    (hu : ∀ d ∈ u, p d = true) (hc : p c = false) :
    ∃ a b, cs = a ++ c :: b ∧ collapse a = u ∧ collapse b = v ∧ ∀ d ∈ a, p d = true := by
  have hmem : c ∈ cs := mem_of_mem_collapseFrom (hp c hc) (h ▸ List.mem_append_right _ (.head _))
  obtain ⟨a, b, heq, ha⟩ : ∃ a b, cs = a ++ b ∧ (∀ d ∈ a, p d = true) ∧ ∀ d ∈ b.head?, p d = false :=
    ⟨_, _, cut_iff.mp ⟨rfl, rfl⟩⟩
  cases b with
  | nil =>
    rw [heq, List.append_nil] at hmem
    rw [ha.1 c hmem] at hc
    cases hc
  | cons d b =>
    obtain ⟨ha, hd⟩ := ha
    have hd := hd d rfl
    have ha' : ∀ e ∈ collapse a, p e = true := by
      intro e he
      cases hblank : p e with
      | true => rfl
      | false => rw [ha e (mem_of_mem_collapseFrom (hp e hblank) he)] at hblank; cases hblank
    rw [heq, collapse_append_cons (hp d hd)] at h
    obtain ⟨htake, hdrop⟩ := cut_unique h ha' hu (by rintro e ⟨⟩; exact hd) (by rintro e ⟨⟩; exact hc)
    cases hdrop
    exact ⟨a, b, heq, htake, rfl, ha⟩

theorem trimEnd_cons : trimEnd (c :: cs) =
    if isBlank c = true ∧ trimEnd cs = [] then [] else c :: trimEnd cs := by
  simp only [trimEnd, List.reverse_cons, List.dropWhile_append, List.isEmpty_iff,
    List.reverse_eq_nil_iff]
  by_cases hempty : cs.reverse.dropWhile isBlank = []
  · cases hc : isBlank c <;> simp [hempty, List.dropWhile, hc]
  · simp [hempty]

theorem trimEnd_append_cons {rest : List Char} (hc : isBlank c = false) :
    trimEnd (cs ++ c :: rest) = cs ++ c :: trimEnd rest := by
  induction cs with
  | nil => rw [List.nil_append, List.nil_append, trimEnd_cons, if_neg (by simp [hc])]
  | cons d cs ih => rw [List.cons_append, trimEnd_cons, ih, if_neg (by simp), List.cons_append]

theorem trimStart_collapse (cs : List Char) : trimStart (collapse cs) = collapseFrom true cs := by
  have hspace : isBlank ' ' = true := rfl
  have hbehind (cs : List Char) : trimStart (collapseFrom true cs) = collapseFrom true cs := by
    induction cs with
    | nil => rfl
    | cons c cs ih =>
      rw [trimStart] at ih ⊢
      cases hc : isBlank c <;> simp [collapseFrom, hc, ih]
  cases cs with
  | nil => rfl
  | cons c cs =>
    cases hc : isBlank c with
    | false => simp [collapse, collapseFrom, hc, trimStart]
    | true =>
      rw [← hbehind]
      simp [collapse, collapseFrom, hc, hspace, trimStart]

theorem joinWords_cons (w : List Char) (ws : List (List Char)) :
    joinWords (w :: ws) = w ++ ws.flatMap (' ' :: ·) := by
  induction ws generalizing w with
  | nil => simp [joinWords]
  | cons v ws ih =>
    rw [joinWords, List.intercalate_cons_cons, List.flatMap_cons, ← joinWords, ih]
    simp

theorem trimEnd_collapse (cs : List Char) :
    trimEnd (collapseFrom true cs) = joinWords (words cs) ∧
    ∃ first more, cs.splitOnP isBlank = first :: more ∧
      trimEnd (collapse cs) = first ++ (more.filter (!·.isEmpty)).flatMap (' ' :: ·) := by
  induction cs with
  | nil => exact ⟨rfl, [], [], List.splitOnP_nil, rfl⟩
  | cons c cs ih =>
    obtain ⟨hwords, first, more, hsplit, hfirst⟩ := ih
    cases hc : isBlank c with
    | false =>
      have hsplit' : (c :: cs).splitOnP isBlank = (c :: first) :: more := by
        rw [List.splitOnP_cons_eq_if_modifyHead, hc, hsplit]
        rfl
      have htrim (behind : Bool) : trimEnd (collapseFrom behind (c :: cs)) =
          c :: first ++ (more.filter (!·.isEmpty)).flatMap (' ' :: ·) := by
        rw [collapseFrom, if_neg (by simp [hc]), trimEnd_cons, if_neg (by simp [hc]), ← collapse,
          hfirst, List.cons_append]
      refine ⟨?_, c :: first, more, hsplit', htrim false⟩
      rw [htrim, words, hsplit', List.filter_cons_of_pos rfl, joinWords_cons]
    | true =>
      have hsplit' : (c :: cs).splitOnP isBlank = [] :: (first :: more) := by
        rw [List.splitOnP_cons_eq_if_modifyHead, hc, hsplit]
        rfl
      have hwords' : words (c :: cs) = words cs := by
        rw [words, hsplit', words, hsplit]
        rfl
      refine ⟨?_, [], first :: more, hsplit', ?_⟩
      · rw [hwords', collapseFrom, if_pos hc, if_pos rfl, hwords]
      · rw [collapse, collapseFrom, if_pos hc, if_neg Bool.false_ne_true, trimEnd_cons, hwords,
          ← hsplit, ← words, List.nil_append]
        cases hlist : words cs with
        | nil => rfl
        | cons w ws =>
          have hw : w ≠ [] := by
            have hmem : w ∈ words cs := by rw [hlist]; exact .head _
            simpa [List.isEmpty_iff] using (List.mem_filter.mp hmem).2
          rw [joinWords_cons, if_neg (by simp [hw])]
          rfl

theorem squeeze_eq (cs : List Char) : squeeze cs = trim (collapse cs) := by
  rw [trim, trimStart_collapse, (trimEnd_collapse cs).1, squeeze]

theorem squeeze_collapse (cs : List Char) : squeeze (collapse cs) = squeeze cs := by
  rw [squeeze_eq, squeeze_eq, collapse, collapse, collapseFrom_collapseFrom]

theorem trimStart_eq_self (h : ∀ c ∈ cs.head?, isBlank c = false) : trimStart cs = cs :=
  trimStart_eq_iff.mpr ⟨[], rfl, nofun, h⟩

theorem trimEnd_eq_self (h : ∀ c ∈ cs.getLast?, isBlank c = false) : trimEnd cs = cs := by
  rw [← List.head?_reverse] at h
  rw [trimEnd, ← trimStart, trimStart_eq_self h, List.reverse_reverse]

def Solid (w : List Char) : Prop :=
  w ≠ [] ∧ ∀ c ∈ w, isBlank c = false

theorem Solid.collapseFrom {w rest : List Char} (hw : Solid w) (behind : Bool) :
    collapseFrom behind (w ++ rest) = w ++ collapse rest := by
  obtain ⟨hne, hw⟩ := hw
  induction w generalizing behind with
  | nil => exact absurd rfl hne
  | cons c w ih =>
    obtain ⟨hc, hw⟩ := List.forall_mem_cons.mp hw
    rw [List.cons_append, Text.collapseFrom, if_neg (by simp [hc]), List.cons_append]
    cases w with
    | nil => rfl
    | cons d w => rw [ih false (List.cons_ne_nil _ _) hw]

variable {gap w : List Char} {ws : List (List Char)}

theorem words_append_cons (hc : isBlank c = true) (rest : List Char) :
    words (cs ++ c :: rest) = words cs ++ words rest := by
  rw [words, List.splitOnP_append_cons cs rest hc, List.filter_append, ← words, ← words]

theorem words_gap_append (hgap : AllBlank gap) : words (gap ++ cs) = words cs := by
  induction gap with
  | nil => rfl
  | cons c gap ih =>
    obtain ⟨hc, hgap⟩ := List.forall_mem_cons.mp hgap
    have hcut := @words_append_cons c [] hc (gap ++ cs)
    rw [ih hgap] at hcut
    exact hcut

theorem words_append_gap (hgap : AllBlank gap) : words (cs ++ gap) = words cs := by
  cases gap with
  | nil => rw [List.append_nil]
  | cons c gap =>
    obtain ⟨hc, hgap⟩ := List.forall_mem_cons.mp hgap
    have hnone := @words_gap_append [] gap hgap
    rw [List.append_nil] at hnone
    rw [words_append_cons hc, hnone]
    exact List.append_nil _

theorem words_solid (hw : Solid w) : words w = [w] := by
  rw [words, List.splitOnP_eq_singleton hw.2]
  simp [hw.1]

theorem joinWords_cons_cons (w v : List Char) (ws : List (List Char)) :
    joinWords (w :: v :: ws) = w ++ ' ' :: joinWords (v :: ws) := by
  simp [joinWords, List.intercalate_cons_cons]

theorem joinWords_ne_nil (hne : ws ≠ []) (hws : ∀ w ∈ ws, Solid w) : joinWords ws ≠ [] := by
  obtain ⟨w, ws, rfl⟩ := List.exists_cons_of_ne_nil hne
  rw [joinWords_cons]
  exact List.append_ne_nil_of_left_ne_nil (hws w (.head _)).1 _

theorem mem_joinWords (h : c ∈ joinWords ws) : c = ' ' ∨ ∃ w ∈ ws, c ∈ w := by
  cases ws with
  | nil => cases h
  | cons w ws =>
    rw [joinWords_cons, List.mem_append, List.mem_flatMap] at h
    rcases h with h | ⟨v, hv, h⟩
    · exact .inr ⟨w, .head _, h⟩
    · exact (List.mem_cons.mp h).imp_right fun h => ⟨v, .tail _ hv, h⟩

theorem mem_splitOnP {p : Char → Bool} (hw : w ∈ cs.splitOnP p) (hc : c ∈ w) :
    c ∈ cs ∧ p c = false := by
  induction cs generalizing w with
  | nil =>
    rw [List.splitOnP_nil, List.mem_singleton] at hw
    subst hw
    cases hc
  | cons d cs ih =>
    rw [List.splitOnP_cons_eq_if_modifyHead] at hw
    split at hw
    · rcases List.mem_cons.mp hw with rfl | hw
      · cases hc
      · exact (ih hw hc).imp_left (List.mem_cons_of_mem d)
    · obtain ⟨first, more, hsplit⟩ := List.exists_cons_of_ne_nil (List.splitOnP_ne_nil p cs)
      rw [hsplit, List.modifyHead_cons] at hw
      rcases List.mem_cons.mp hw with rfl | hw
      · rcases List.mem_cons.mp hc with rfl | hc
        · exact ⟨.head _, by simpa using ‹¬p _ = true›⟩
        · exact (ih (hsplit ▸ .head _) hc).imp_left (List.mem_cons_of_mem d)
      · exact (ih (hsplit ▸ .tail _ hw) hc).imp_left (List.mem_cons_of_mem d)

theorem mem_splitOn {d : Char} (hw : w ∈ cs.splitOn d) (hc : c ∈ w) : c ∈ cs ∧ c ≠ d := by
  rw [List.splitOn_eq_splitOnP] at hw
  exact (mem_splitOnP hw hc).imp_right beq_eq_false_iff_ne.mp

theorem mem_words (hw : w ∈ words cs) : Solid w ∧ ∀ c ∈ w, c ∈ cs := by
  obtain ⟨hw, hne⟩ := List.mem_filter.mp hw
  exact ⟨⟨by simpa using hne, fun c hc => (mem_splitOnP hw hc).2⟩,
    fun c hc => (mem_splitOnP hw hc).1⟩

theorem mem_squeeze (hc : c ∈ squeeze cs) : c = ' ' ∨ c ∈ cs :=
  (mem_joinWords hc).imp_right fun ⟨_, hw, hc⟩ => (mem_words hw).2 c hc

theorem mem_of_mem_trim (hc : c ∈ trim cs) : c ∈ cs := by
  obtain ⟨lead, trail, -, -, heq⟩ := trim_eq cs
  rw [heq]
  exact List.mem_append_right _ (List.mem_append_left _ hc)

theorem words_joinWords (hws : ∀ w ∈ ws, Solid w) : words (joinWords ws) = ws := by
  induction ws with
  | nil => rfl
  | cons w ws ih =>
    obtain ⟨hw, hws⟩ := List.forall_mem_cons.mp hws
    cases ws with
    | nil => simpa [joinWords] using words_solid hw
    | cons v ws =>
      rw [joinWords_cons_cons, words_append_cons rfl, words_solid hw, ih hws]
      rfl

theorem squeeze_joinWords (hgap : AllBlank gap) (hws : ∀ w ∈ ws, Solid w) :
    squeeze (gap ++ joinWords ws) = joinWords ws := by
  rw [squeeze, words_gap_append hgap, words_joinWords hws]

theorem trim_gaps {trail : List Char} (hgap : AllBlank gap) (hw : Solid w) (htrail : AllBlank trail) :
    trim (gap ++ (w ++ trail)) = w := by
  obtain ⟨hne, hw⟩ := hw
  have hstart : trimStart (gap ++ (w ++ trail)) = w ++ trail := by
    refine trimStart_gap_append hgap fun c hc => hw c ?_
    obtain ⟨first, w, rfl⟩ := List.exists_cons_of_ne_nil hne
    cases hc
    exact .head _
  obtain ⟨inner, last, rfl⟩ : ∃ inner last, w = inner ++ [last] :=
    ⟨w.dropLast, w.getLast hne, (List.dropLast_concat_getLast hne).symm⟩
  have hend : trimEnd (inner ++ last :: trail) = inner ++ last :: trimEnd trail :=
    trimEnd_append_cons (hw last (by simp))
  rw [trim, hstart, List.append_assoc, List.singleton_append, hend, trimEnd_allBlank htrail]

theorem trim_solid (hgap : AllBlank gap) (hw : Solid w) : trim (gap ++ w) = w := by
  have htrim := @trim_gaps gap w [] hgap hw nofun
  rwa [List.append_nil] at htrim

theorem trim_joinWords (hws : ∀ w ∈ ws, Solid w) : trim (joinWords ws) = joinWords ws := by
  have hends : (∀ c ∈ (joinWords ws).head?, isBlank c = false) ∧
      ∀ c ∈ (joinWords ws).getLast?, isBlank c = false := by
    induction ws with
    | nil => exact ⟨nofun, nofun⟩
    | cons w ws ih =>
      obtain ⟨hw, hrest⟩ := List.forall_mem_cons.mp hws
      obtain ⟨d, w, rfl⟩ := List.exists_cons_of_ne_nil hw.1
      cases ws with
      | nil =>
        rw [joinWords, List.intercalate_singleton]
        exact ⟨fun c hc => hw.2 c (List.mem_of_mem_head? hc),
          fun c hc => hw.2 c (List.mem_of_mem_getLast? hc)⟩
      | cons v ws =>
        obtain ⟨e, v, rfl⟩ := List.exists_cons_of_ne_nil (hrest v (.head _)).1
        have hlast := (ih hrest).2
        rw [joinWords_cons, List.cons_append] at hlast
        rw [joinWords_cons_cons, joinWords_cons (e :: v), List.getLast?_append]
        refine ⟨fun c hc => hw.2 c ?_, ?_⟩
        · cases hc
          exact .head _
        · simpa using hlast
  rw [trim, trimStart_eq_self hends.1, trimEnd_eq_self hends.2]

end ByteGrid.Text
