import Mathlib.Data.List.Basic
import ByteGrid.Declaration.Parser
import ByteGrid.Proofs.Text.Blank

namespace ByteGrid

open ByteGrid.Text

def structWord : List Char := "struct".toList

def typedefWord : List Char := "typedef".toList

variable {cs body rest w : List Char} {s : StructText}

def IsWord (w : List Char) : Prop :=
  w ≠ [] ∧ ∀ c ∈ w, isWordChar c = true

instance (w : List Char) : Decidable (IsWord w) :=
  have := List.decidableBAll (fun c => isWordChar c = true) w
  inferInstanceAs (Decidable (_ ∧ _))

def IsGap (gap : List Char) : Prop :=
  gap ≠ [] ∧ AllBlank gap

def BraceFree (cs : List Char) : Prop :=
  ∀ c ∈ cs, isBrace c = false

def Unbroken (cs : List Char) : Prop :=
  ∀ c ∈ cs, isBrace c = false ∧ c ≠ ';'

def IsTag (tag : List Char) : Prop :=
  tag = [] ∨ ∃ gap w, tag = gap ++ w ∧ IsGap gap ∧ IsWord w

theorem afterBlanks?_eq_some_iff : afterBlanks? cs = some rest ↔
    ∃ gap, cs = gap ++ rest ∧ IsGap gap ∧ ∀ c ∈ rest.head?, isBlank c = false := by
  cases cs with
  | nil =>
    refine iff_of_false nofun ?_
    rintro ⟨gap, heq, ⟨hne, -⟩, -⟩
    exact hne (List.append_eq_nil_iff.mp heq.symm).1
  | cons c cs =>
    rw [afterBlanks?, Option.ite_none_right_eq_some, Option.some.injEq, trimStart_eq_iff]
    constructor
    · rintro ⟨hc, gap, rfl, hgap, hrest⟩
      exact ⟨c :: gap, rfl, ⟨List.cons_ne_nil _ _, List.forall_mem_cons.mpr ⟨hc, hgap⟩⟩, hrest⟩
    · rintro ⟨gap, heq, ⟨hne, hgap⟩, hrest⟩
      obtain ⟨d, gap, rfl⟩ := List.exists_cons_of_ne_nil hne
      cases heq
      obtain ⟨hc, hgap⟩ := List.forall_mem_cons.mp hgap
      exact ⟨hc, gap, rfl, hgap, hrest⟩

theorem splitWord?_eq_some_iff : splitWord? cs = some (w, rest) ↔
    cs = w ++ rest ∧ IsWord w ∧ ∀ c ∈ rest.head?, isWordChar c = false := by
  simp only [splitWord?, drop_length_takeWhile, List.isEmpty_iff, Option.ite_none_left_eq_some,
    Option.some.injEq, Prod.mk.injEq]
  constructor
  · rintro ⟨hne, hcut⟩
    obtain ⟨heq, hw, hrest⟩ := cut_iff.mp hcut
    exact ⟨heq, ⟨hcut.1 ▸ hne, hw⟩, hrest⟩
  · rintro ⟨heq, ⟨hne, hw⟩, hrest⟩
    have hcut := cut_iff.mpr ⟨heq, hw, hrest⟩
    exact ⟨hcut.1 ▸ hne, hcut⟩

theorem splitBody?_eq_some_iff : splitBody? cs = some (body, rest) ↔
    cs = '\x7b' :: (body ++ '\x7d' :: rest) ∧ BraceFree body := by
  cases cs with
  | nil => simp [splitBody?]
  | cons c cs =>
    simp only [splitBody?, drop_length_takeWhile]
    constructor
    · intro h
      split at h
      · rename_i d after hdrop
        obtain ⟨⟨rfl, rfl⟩, h⟩ := Option.ite_none_right_eq_some.mp h
        cases h
        obtain ⟨heq, hbody, -⟩ := cut_iff.mp ⟨rfl, hdrop⟩
        exact ⟨congrArg _ heq, fun c hc => by simpa using hbody c hc⟩
      · cases h
    · rintro ⟨heq, hbody⟩
      cases heq
      obtain ⟨htake, hdrop⟩ := (cut_iff (p := (!isBrace ·))).mpr
        ⟨Eq.refl (body ++ '\x7d' :: rest), fun c hc => by simp [hbody c hc], by rintro c ⟨⟩; rfl⟩
      rw [hdrop, htake]
      rfl

theorem afterSemicolon?_eq_some_iff : afterSemicolon? cs = some rest ↔
    ∃ tail, cs = tail ++ ';' :: rest ∧ Unbroken tail := by
  have hkind (tail : List Char) :
      Unbroken tail ↔ ∀ c ∈ tail, (!isBrace c && c != ';') = true := by
    simp [Unbroken]
  simp only [afterSemicolon?, hkind]
  constructor
  · intro h
    split at h
    · rename_i after hdrop
      cases h
      obtain ⟨heq, htail, -⟩ := cut_iff.mp ⟨rfl, hdrop⟩
      exact ⟨_, heq, htail⟩
    · cases h
  · rintro ⟨tail, heq, htail⟩
    rw [(cut_iff.mpr ⟨heq, htail, by rintro c ⟨⟩; rfl⟩).2]
    rfl

theorem IsWord.solid (hw : IsWord w) : Solid w :=
  ⟨hw.1, fun c hc => isBlank_of_wordChar (hw.2 c hc)⟩

theorem IsWord.head_append (hw : IsWord w) : ∀ c ∈ (w ++ rest).head?, isBlank c = false := by
  obtain ⟨c, w, rfl⟩ := List.exists_cons_of_ne_nil hw.1
  rintro d ⟨⟩
  exact isBlank_of_wordChar (hw.2 c (.head _))

theorem allBlank_head_append {gap : List Char} (hgap : AllBlank gap)
    (hrest : ∀ c ∈ rest.head?, isWordChar c = false) :
    ∀ c ∈ (gap ++ rest).head?, isWordChar c = false := by
  cases gap with
  | nil => exact hrest
  | cons c gap =>
    rintro d ⟨⟩
    exact isWordChar_of_blank (hgap c (.head _))

theorem namedStruct?_eq_some_iff : namedStruct? cs = some s ↔ ∃ gap gap' tail,
    cs = structWord ++ (gap ++ (s.name ++ (gap' ++
      '\x7b' :: (s.body ++ '\x7d' :: (tail ++ ';' :: s.rest))))) ∧
    IsGap gap ∧ IsWord s.name ∧ AllBlank gap' ∧ BraceFree s.body ∧ Unbroken tail ∧
    s.place = 6 + gap.length := by
  simp only [namedStruct?, bind, Option.bind_eq_some_iff, Prod.exists,
    List.isPrefixOf?_eq_some_iff_append_eq, afterBlanks?_eq_some_iff, splitWord?_eq_some_iff,
    splitBody?_eq_some_iff, afterSemicolon?_eq_some_iff, trimStart_eq_iff]
  constructor
  · rintro ⟨_, rfl, _, ⟨gap, rfl, hgap, -⟩, w, _, ⟨rfl, hw, -⟩, body, _,
      ⟨⟨gap', rfl, hgap', -⟩, hbody⟩, rest, ⟨tail, rfl, htail⟩, ⟨⟩⟩
    refine ⟨gap, gap', tail, rfl, hgap, hw, hgap', hbody, htail, ?_⟩
    simp only [List.length_append]
    change 6 + _ - _ = _
    omega
  · rintro ⟨gap, gap', tail, rfl, hgap, hw, hgap', hbody, htail, hplace⟩
    refine ⟨_, rfl, _, ⟨gap, rfl, hgap, ?_⟩, s.name, _, ⟨rfl, hw, ?_⟩, s.body, _,
      ⟨⟨gap', rfl, hgap', ?_⟩, hbody⟩, s.rest, ⟨tail, rfl, htail⟩, ?_⟩
    · exact hw.head_append
    · exact allBlank_head_append hgap' (by rintro c ⟨⟩; rfl)
    · rintro c ⟨⟩; rfl
    · obtain ⟨name, body, place, rest⟩ := s
      cases hplace
      simp only [List.length_append]
      congr 2
      change 6 + (gap.length + _) - _ = 6 + gap.length
      omega

theorem dropTag_word {gap : List Char} (hgap : IsGap gap) (hw : IsWord w)
    (hrest : ∀ c ∈ rest.head?, isWordChar c = false) : dropTag (gap ++ (w ++ rest)) = rest := by
  have hblanks : afterBlanks? (gap ++ (w ++ rest)) = some (w ++ rest) :=
    afterBlanks?_eq_some_iff.mpr ⟨gap, rfl, hgap, hw.head_append⟩
  have hword : splitWord? (w ++ rest) = some (w, rest) :=
    splitWord?_eq_some_iff.mpr ⟨rfl, hw, hrest⟩
  simp [dropTag, hblanks, hword]

theorem dropTag_eq (cs : List Char) :
    dropTag cs = cs ∨ ∃ gap w, cs = gap ++ (w ++ dropTag cs) ∧ IsGap gap ∧ IsWord w := by
  cases hblanks : afterBlanks? cs with
  | none => exact .inl (by simp [dropTag, hblanks])
  | some after =>
    cases hword : splitWord? after with
    | none => exact .inl (by simp [dropTag, hblanks, hword])
    | some p =>
      obtain ⟨w, rest⟩ := p
      obtain ⟨gap, rfl, hgap, -⟩ := afterBlanks?_eq_some_iff.mp hblanks
      obtain ⟨rfl, hw, -⟩ := splitWord?_eq_some_iff.mp hword
      exact .inr ⟨gap, w, by simp [dropTag, hblanks, hword], hgap, hw⟩

theorem dropTag_body {gap after : List Char} (hgap : AllBlank gap) :
    dropTag (gap ++ '\x7b' :: after) = gap ++ '\x7b' :: after := by
  rcases dropTag_eq (gap ++ '\x7b' :: after) with h | ⟨gap', w, heq, ⟨-, hgap'⟩, hw⟩
  · exact h
  · obtain ⟨-, hbody⟩ := cut_unique heq hgap hgap' (by rintro c ⟨⟩; rfl) hw.head_append
    -- a body does not begin like a tag
    obtain ⟨c, w, rfl⟩ := List.exists_cons_of_ne_nil hw.1
    rw [List.cons_append, List.cons.injEq] at hbody
    have hc := hw.2 c (.head _)
    rw [← hbody.1] at hc
    cases hc

theorem typedefStruct?_eq_some_iff : typedefStruct? cs = some s ↔ ∃ gap tag gap' gap'' tail,
    cs = typedefWord ++ (gap ++ (structWord ++ (tag ++ (gap' ++
      '\x7b' :: (s.body ++ '\x7d' :: (gap'' ++ (s.name ++ (tail ++ ';' :: s.rest)))))))) ∧
    IsGap gap ∧ IsTag tag ∧ AllBlank gap' ∧ BraceFree s.body ∧ AllBlank gap'' ∧ IsWord s.name ∧
    Unbroken tail ∧ (∀ c ∈ tail.head?, isWordChar c = false) ∧ s.place = 0 := by
  simp only [typedefStruct?, bind, Option.bind_eq_some_iff, Prod.exists,
    List.isPrefixOf?_eq_some_iff_append_eq, afterBlanks?_eq_some_iff, splitWord?_eq_some_iff,
    splitBody?_eq_some_iff, afterSemicolon?_eq_some_iff, trimStart_eq_iff]
  constructor
  · rintro ⟨_, rfl, _, ⟨gap, rfl, hgap, -⟩, after, rfl, body, _,
      ⟨⟨gap', htag, hgap', -⟩, hbody⟩, name, _, ⟨⟨gap'', rfl, hgap'', -⟩, hname, htail⟩, rest,
      ⟨tail, rfl, hunbroken⟩, ⟨⟩⟩
    have htail' : ∀ c ∈ tail.head?, isWordChar c = false := by
      cases tail with
      | nil => exact nofun
      | cons c tail => exact htail
    rcases dropTag_eq after with h | ⟨gap₀, w, heq, hgap₀, hw⟩
    · refine ⟨gap, [], gap', gap'', tail, ?_, hgap, .inl rfl, hgap', hbody, hgap'', hname,
        hunbroken, htail', rfl⟩
      rw [← h, htag]
      rfl
    · refine ⟨gap, gap₀ ++ w, gap', gap'', tail, ?_, hgap, .inr ⟨gap₀, w, rfl, hgap₀, hw⟩, hgap',
        hbody, hgap'', hname, hunbroken, htail', rfl⟩
      rw [heq, htag, List.append_assoc]
      rfl
  · rintro ⟨gap, tag, gap', gap'', tail, rfl, hgap, htag, hgap', hbody, hgap'', hname, hunbroken,
      htail, hplace⟩
    have hdrop (after : List Char) : ∃ gap, dropTag (tag ++ (gap' ++ '\x7b' :: after)) =
        gap ++ '\x7b' :: after ∧ AllBlank gap := by
      refine ⟨gap', ?_, hgap'⟩
      rcases htag with rfl | ⟨gap₀, w, rfl, hgap₀, hw⟩
      · exact dropTag_body hgap'
      · rw [List.append_assoc]
        exact dropTag_word hgap₀ hw (allBlank_head_append hgap' (by rintro c ⟨⟩; rfl))
    obtain ⟨gap₀, hdrop, hgap₀⟩ := hdrop _
    refine ⟨_, rfl, _, ⟨gap, rfl, hgap, by rintro c ⟨⟩; rfl⟩, _, rfl, s.body, _,
      ⟨⟨gap₀, hdrop, hgap₀, by rintro c ⟨⟩; rfl⟩, hbody⟩, s.name, _,
      ⟨⟨gap'', rfl, hgap'', hname.head_append⟩, hname, ?_⟩, s.rest,
      ⟨tail, rfl, hunbroken⟩, ?_⟩
    · cases tail with
      | nil =>
        rintro c ⟨⟩
        rfl
      | cons c tail => exact htail
    · obtain ⟨name, body, place, rest⟩ := s
      cases hplace
      rfl

theorem isWord_struct : IsWord structWord := by decide

theorem isWord_typedef : IsWord typedefWord := by decide

theorem isBlank_of_brace {c : Char} (h : isBrace c = true) : isBlank c = false := by
  rcases Bool.or_eq_true_iff.mp h with h | h <;> (rw [beq_iff_eq.mp h]; rfl)

theorem isWordChar_of_brace {c : Char} (h : isBrace c = true) : isWordChar c = false := by
  rcases Bool.or_eq_true_iff.mp h with h | h <;> (rw [beq_iff_eq.mp h]; rfl)

theorem allBlank_unbroken {gap : List Char} (hgap : AllBlank gap) : Unbroken gap := by
  intro c hc
  have hblank := hgap c hc
  constructor
  · cases hbrace : isBrace c with
    | false => rfl
    | true => rw [isBlank_of_brace hbrace] at hblank; cases hblank
  · rintro rfl
    cases hblank

theorem IsWord.unbroken (hw : IsWord w) : Unbroken w := by
  intro c hc
  have hword := hw.2 c hc
  constructor
  · cases hbrace : isBrace c with
    | false => rfl
    | true => rw [isWordChar_of_brace hbrace] at hword; cases hword
  · rintro rfl
    cases hword

/-- A struct opens a text by a keyword, a gap and a word, with nothing else before its body that counts
as a sign. -/
def StructText.Opens (s : StructText) (key cs : List Char) : Prop :=
  ∃ gap u after, cs = key ++ (gap ++ (u ++ '\x7b' :: (s.body ++ '\x7d' :: after))) ∧ IsGap gap ∧
    (∃ c ∈ u.head?, isWordChar c = true) ∧ Unbroken u ∧ BraceFree s.body

theorem unbroken_append {u v : List Char} (hu : Unbroken u) (hv : Unbroken v) : Unbroken (u ++ v) :=
  fun c hc => (List.mem_append.mp hc).elim (hu c) (hv c)

theorem braceFree_append {u v : List Char} (hu : BraceFree u) (hv : BraceFree v) : BraceFree (u ++ v) :=
  fun c hc => (List.mem_append.mp hc).elim (hu c) (hv c)

theorem Unbroken.braceFree (h : Unbroken cs) : BraceFree cs :=
  fun c hc => (h c hc).1

theorem braceFree_iff : BraceFree cs ↔ ∀ c ∈ cs, (!isBrace c) = true := by
  simp [BraceFree]

theorem namedStruct?_opens (h : namedStruct? cs = some s) : s.Opens structWord cs := by
  obtain ⟨gap, gap', tail, rfl, hgap, hname, hgap', hbody, -⟩ := namedStruct?_eq_some_iff.mp h
  refine ⟨gap, s.name ++ gap', tail ++ ';' :: s.rest, by rw [List.append_assoc], hgap, ?_,
    unbroken_append hname.unbroken (allBlank_unbroken hgap'), hbody⟩
  obtain ⟨c, w, hw⟩ := List.exists_cons_of_ne_nil hname.1
  rw [hw]
  exact ⟨c, rfl, hname.2 c (hw ▸ .head _)⟩

theorem typedefStruct?_opens (h : typedefStruct? cs = some s) : s.Opens typedefWord cs := by
  obtain ⟨gap, tag, gap', gap'', tail, rfl, hgap, htag, hgap', hbody, -⟩ :=
    typedefStruct?_eq_some_iff.mp h
  have hunbroken : Unbroken tag := by
    rcases htag with rfl | ⟨gap, w, rfl, hgap, hw⟩
    · exact nofun
    · exact unbroken_append (allBlank_unbroken hgap.2) hw.unbroken
  refine ⟨gap, structWord ++ (tag ++ gap'), gap'' ++ (s.name ++ (tail ++ ';' :: s.rest)),
    by simp only [List.append_assoc], hgap, ⟨'s', rfl, rfl⟩,
    unbroken_append isWord_struct.unbroken (unbroken_append hunbroken (allBlank_unbroken hgap')), hbody⟩

theorem StructText.Opens.find? {key : List Char} (hkey : Unbroken key) (h : s.Opens key cs) :
    cs.find? (fun c => isBrace c || c == ';') = some '\x7b' := by
  obtain ⟨gap, u, after, rfl, hgap, -, hu, -⟩ := h
  have hnone {cs : List Char} (hcs : Unbroken cs) :
      cs.find? (fun c => isBrace c || c == ';') = none := by
    rw [List.find?_eq_none]
    intro c hc
    simp [hcs c hc]
  rw [List.find?_append, List.find?_append, List.find?_append, hnone hkey,
    hnone (allBlank_unbroken hgap.2), hnone hu]
  rfl

end ByteGrid
