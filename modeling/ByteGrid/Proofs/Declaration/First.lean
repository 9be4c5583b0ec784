import ByteGrid.Proofs.Declaration.Printing

namespace ByteGrid

open ByteGrid.Text

def firstFound? (text : List Char) : Option (Nat × StructText) :=
  (structsAt 0 text).head?

def opensText (text : List Char) (x : Nat × StructText) : Bool :=
  !(text.take x.1).any isBrace

variable {form : List Char → Option StructText} {text code cs front front' rest rest' : List Char}
variable {s t : StructText} {n skip : Nat} {x : Nat × StructText}

theorem opensText_eq_true : opensText text x = true ↔ BraceFree (text.take x.1) := by
  simp [opensText, BraceFree]

theorem structsFrom_pairwise
    (hplace : ∀ {cs s}, form cs = some s → s.place + s.rest.length ≤ cs.length) :
    (structsFrom form skip n cs).Pairwise fun a b => placedBefore a b = true := by
  fun_induction structsFrom form skip n cs with
  | case1 => exact .nil
  | case2 n c cs skip ih => exact ih
  | case3 n c cs s hs ih =>
    refine .cons (fun x hx => decide_eq_true ?_) ih
    -- the place lies in the text of the struct, and the next one starts behind that
    have hlength := hplace hs
    have hlater := structsFrom_skipped hx
    rw [List.length_cons] at hlength
    dsimp only
    omega
  | case4 n c cs hs ih => exact ih

theorem typedefStruct?_place (h : typedefStruct? cs = some s) : s.place = 0 := by
  obtain ⟨_, _, _, _, _, -, -, -, -, -, -, -, -, -, hplace⟩ := typedefStruct?_eq_some_iff.mp h
  exact hplace

theorem typedefStruct?_length (h : typedefStruct? cs = some s) :
    s.place + s.rest.length ≤ cs.length := by
  rw [typedefStruct?_place h]
  obtain ⟨gap, tag, gap', gap'', tail, rfl, -⟩ := typedefStruct?_eq_some_iff.mp h
  simp only [List.length_append, List.length_cons]
  omega

theorem namedStruct?_length (h : namedStruct? cs = some s) :
    s.place + s.rest.length ≤ cs.length := by
  obtain ⟨gap, gap', tail, rfl, -, -, -, -, -, hplace⟩ := namedStruct?_eq_some_iff.mp h
  have hword : structWord.length = 6 := rfl
  simp only [List.length_append, List.length_cons]
  omega

theorem structsAt_pairwise (n : Nat) (cs : List Char) :
    (structsAt n cs).Pairwise fun a b => placedBefore a b = true := by
  apply List.pairwise_merge
  · intro a b c hab hbc
    simp only [placedBefore, decide_eq_true_eq] at hab hbc ⊢
    omega
  · intro a b
    simp only [placedBefore, Bool.or_eq_true, decide_eq_true_eq]
    omega
  · exact structsFrom_pairwise typedefStruct?_length
  · exact structsFrom_pairwise namedStruct?_length

theorem namedStruct?_front (h : namedStruct? cs = some s) : ∃ key tail after,
    cs = key ++ (tail ++ '\x7b' :: after) ∧ key.length = s.place ∧ BraceFree (key ++ tail) ∧
      tail.Pairwise fun c d => isBlank c = true → isBlank d = true := by
  obtain ⟨gap, gap', tail, rfl, hgap, hname, hgap', -, -, hplace⟩ := namedStruct?_eq_some_iff.mp h
  refine ⟨structWord ++ gap, s.name ++ gap', s.body ++ '\x7d' :: (tail ++ ';' :: s.rest), ?_, ?_, ?_, ?_⟩
  · simp only [List.append_assoc]
  · rw [hplace, List.length_append]
    rfl
  · have hkey := unbroken_append isWord_struct.unbroken (allBlank_unbroken hgap.2)
    have htail := unbroken_append hname.unbroken (allBlank_unbroken hgap')
    exact (unbroken_append hkey htail).braceFree
  · refine List.pairwise_append.mpr ⟨?_, ?_, fun c _ d hd _ => hgap' d hd⟩
    · refine List.pairwise_of_forall_mem_list fun c hc d _ hblank => ?_
      rw [isBlank_of_wordChar (hname.2 c hc)] at hblank
      cases hblank
    · exact List.pairwise_of_forall_mem_list fun _ _ d hd _ => hgap' d hd

theorem BraceFree.initial {u v : List Char} (hv : BraceFree v) (h : u <+: v) : BraceFree u :=
  fun c hc => hv c (h.subset hc)

theorem place_lt_of_brace (h : front ++ rest = front' ++ rest') (hnamed : namedStruct? rest' = some s)
    (hfront' : BraceFree front') (hfront : ¬BraceFree front) :
    front'.length + s.place < front.length := by
  obtain ⟨key, tail, after, rfl, hkey, hclear, -⟩ := namedStruct?_front hnamed
  by_contra hle
  have hprefix : front' ++ (key ++ tail) <+: front ++ rest :=
    ⟨'\x7b' :: after, by rw [h]; simp only [List.append_assoc]⟩
  have hlength : front.length ≤ (front' ++ (key ++ tail)).length := by
    simp only [List.length_append]
    omega
  exact hfront ((braceFree_append hfront' hclear).initial
    (List.prefix_of_prefix_length_le (List.prefix_append front rest) hprefix hlength))

/-- A typedef that opens the text does not stand behind the place of a struct with a name: it would
have to stand between the name and its body. -/
theorem typedef_le_place (h : front ++ rest = front' ++ rest')
    (htypedef : typedefStruct? rest = some t) (hnamed : namedStruct? rest' = some s)
    (hfront : BraceFree front) : front.length ≤ front'.length + s.place := by
  obtain ⟨gap, u, after', rfl, ⟨hne, hgap⟩, ⟨d, hd, hword⟩, hu, -⟩ := typedefStruct?_opens htypedef
  obtain ⟨key, tail, after, rfl, hkey, hclear, hblanks⟩ := namedStruct?_front hnamed
  by_contra hlt
  have hprefix : front' ++ key <+: front := by
    rw [← List.append_assoc front' key] at h
    refine List.prefix_of_prefix_length_le ⟨_, h.symm⟩ (List.prefix_append front _) ?_
    rw [List.length_append]
    omega
  obtain ⟨v, rfl⟩ := hprefix
  simp only [List.append_assoc, List.append_cancel_left_eq] at h
  -- both bodies begin at the first brace
  have hopening := unbroken_append isWord_typedef.unbroken
    (unbroken_append (allBlank_unbroken hgap) hu)
  have hleft : BraceFree (v ++ (typedefWord ++ (gap ++ u))) :=
    braceFree_append (fun c hc => hfront c (List.mem_append_right _ hc)) hopening.braceFree
  have hright : BraceFree tail := fun c hc => hclear c (List.mem_append_right _ hc)
  obtain ⟨rfl, -⟩ := cut_unique (w := v ++ (typedefWord ++ (gap ++ u))) (by simpa using h)
    (braceFree_iff.mp hleft) (braceFree_iff.mp hright) (by rintro c ⟨⟩; rfl) (by rintro c ⟨⟩; rfl)
  -- the gap of the typedef and the word behind it would stand behind the name
  obtain ⟨b, gap, rfl⟩ := List.exists_cons_of_ne_nil hne
  obtain ⟨u, rfl⟩ := List.head?_eq_some_iff.mp hd
  have hlater := (List.pairwise_append.mp (List.pairwise_append.mp hblanks).2.1).2.1
  have hblank := (List.pairwise_append.mp hlater).2.2 b (.head _) d (.head _) (hgap b (.head _))
  rw [isBlank_of_wordChar hword] at hblank
  cases hblank

theorem leadingOf_eq (form : List Char → Option StructText) (text : List Char) :
    leadingOf form text = ((structs form text).head?.filter (opensText text)).map (·.2) := by
  unfold leadingOf
  cases structs form text with
  | nil => rfl
  | cons x more =>
    rw [List.head?_cons, Option.filter_some, opensText]
    cases h : (text.take x.1).any isBrace <;> simp [h]

theorem head?_merge_filter {α : Type} {le : α → α → Bool} {p : α → Bool} {as bs : List α}
    (hfirst : ∀ a ∈ as.head?, ∀ b ∈ bs.head?, p a = true → le a b = true)
    (hsecond : ∀ a ∈ as.head?, ∀ b ∈ bs.head?, p a = false → p b = true → le a b = false) :
    (as.merge bs le).head?.filter p = (as.head?.filter p).or (bs.head?.filter p) := by
  cases as with
  | nil => simp
  | cons a as =>
    cases bs with
    | nil => simp
    | cons b bs =>
      have hfirst := hfirst a rfl b rfl
      have hsecond := hsecond a rfl b rfl
      rw [List.cons_merge_cons, List.head?_cons, List.head?_cons, Option.filter_some,
        Option.filter_some]
      cases ha : p a with
      | true => simp [hfirst ha, ha]
      | false =>
        cases hb : p b with
        | true => simp [hsecond ha hb, hb]
        | false => split <;> simp [ha, hb]

theorem structs_read (h : x ∈ structs form text) :
    (text.take x.1).length = x.1 ∧ form (text.drop x.1) = some x.2 := by
  obtain ⟨front, rest, rfl, hplace, hrest⟩ := structsFrom_read h
  rw [Nat.zero_add] at hplace
  rw [hplace, List.take_left, List.drop_left]
  exact ⟨rfl, hrest⟩

theorem leadingText?_eq (code : List Char) : leadingText? code =
    ((firstFound? (normalize code)).filter (opensText (normalize code))).map (·.2) := by
  have hcut (i j : Nat) : (normalize code).take i ++ (normalize code).drop i =
      (normalize code).take j ++ (normalize code).drop j := by
    rw [List.take_append_drop, List.take_append_drop]
  rw [leadingText?, leadingOf_eq, leadingOf_eq, firstFound?, structsAt, head?_merge_filter, Option.map_or]
  · rfl
  · intro a ha b hb hopens
    obtain ⟨hlength, htypedef⟩ := structs_read (List.mem_of_mem_head? ha)
    obtain ⟨hlength', hnamed⟩ := structs_read (List.mem_of_mem_head? hb)
    have hle := typedef_le_place (hcut a.1 b.1) htypedef hnamed (opensText_eq_true.mp hopens)
    rw [hlength, hlength'] at hle
    apply decide_eq_true
    rwa [typedefStruct?_place htypedef, Nat.add_zero]
  · intro a ha b hb hbehind hopens
    obtain ⟨hlength, -⟩ := structs_read (List.mem_of_mem_head? ha)
    obtain ⟨hlength', hnamed⟩ := structs_read (List.mem_of_mem_head? hb)
    have hbrace : ¬BraceFree ((normalize code).take a.1) := by
      rw [← opensText_eq_true, hbehind]
      exact Bool.false_ne_true
    have hlt := place_lt_of_brace (hcut a.1 b.1) hnamed (opensText_eq_true.mp hopens) hbrace
    rw [hlength, hlength'] at hlt
    rw [placedBefore, decide_eq_false_iff_not]
    omega

theorem distinctStructs_head? (ss : List StructText) : (distinctStructs ss).head? = ss.head? := by
  have hrun {seen : List StructText} (hseen : seen ≠ []) (ss : List StructText) :
      (ss.foldl (fun seen s => if seen.any (·.name == s.name) then seen else seen ++ [s]) seen).head? =
        seen.head? := by
    induction ss generalizing seen with
    | nil => rfl
    | cons s ss ih =>
      rw [List.foldl_cons]
      split
      · exact ih hseen
      · rw [ih (by simp), List.head?_append_of_ne_nil _ hseen]
  cases ss with
  | nil => rfl
  | cons s ss => exact hrun (List.cons_ne_nil s []) ss

theorem firstStruct?_eq (code : List Char) :
    firstStruct? code = (firstFound? (normalize code)).map (·.2.declaration) := by
  rw [firstStruct?, parseStructs, List.head?_map, distinctStructs_head?, allStructs, List.head?_map,
    Option.map_map]
  rfl

theorem firstFound?_read (h : x ∈ firstFound? text) :
    (typedefStruct? (text.drop x.1) = some x.2 ∨ namedStruct? (text.drop x.1) = some x.2) ∧
    ∀ y ∈ structs typedefStruct? text ++ structs namedStruct? text, x.1 + x.2.place ≤ y.1 + y.2.place := by
  have hmem {y : Nat × StructText} : y ∈ structsAt 0 text ↔
      y ∈ structs typedefStruct? text ++ structs namedStruct? text := by
    rw [structsAt, List.mem_merge, List.mem_append]
    rfl
  constructor
  · exact (List.mem_append.mp (hmem.mp (List.mem_of_mem_head? h))).imp (fun hx => (structs_read hx).2)
      fun hx => (structs_read hx).2
  · intro y hy
    have hpairwise := structsAt_pairwise 0 text
    obtain ⟨more, hmore⟩ := List.head?_eq_some_iff.mp h
    rw [← hmem, hmore] at hy
    rw [hmore] at hpairwise
    rcases List.mem_cons.mp hy with rfl | hy
    · exact Nat.le_refl _
    · exact of_decide_eq_true (List.rel_of_pairwise_cons hpairwise hy)

theorem leading_first (code : List Char) :
    let text := normalize code
    (∀ d, leadingStruct? code = some d → firstStruct? code = some d) ∧
    (leadingStruct? code = none → ∀ d, firstStruct? code = some d →
      ∃ place s, firstFound? text = some (place, s) ∧ s.declaration = d ∧
        ∃ c ∈ text.take place, isBrace c = true) ∧
    ((leadingStruct? code).isSome = true ↔
      ∃ place s, firstFound? text = some (place, s) ∧ BraceFree (text.take place)) ∧
    (∀ place s, firstFound? text = some (place, s) → firstStruct? code = some s.declaration ∧
      (typedefStruct? (text.drop place) = some s ∨ namedStruct? (text.drop place) = some s) ∧
      ∀ y ∈ structs typedefStruct? text ++ structs namedStruct? text,
        place + s.place ≤ y.1 + y.2.place) := by
  intro text
  have hfirst : firstStruct? code = (firstFound? text).map (·.2.declaration) := firstStruct?_eq code
  have hleading : leadingStruct? code =
      ((firstFound? text).filter (opensText text)).map (·.2.declaration) := by
    rw [leadingStruct?, leadingText?_eq, Option.map_map]
    rfl
  refine ⟨fun d hd => ?_, fun hnone d hd => ?_, ?_, fun place s hs => ⟨?_, firstFound?_read hs⟩⟩
  · rw [hleading, Option.map_eq_some_iff] at hd
    obtain ⟨x, hx, rfl⟩ := hd
    rw [hfirst, (Option.filter_eq_some_iff.mp hx).1, Option.map_some]
  · rw [hfirst, Option.map_eq_some_iff] at hd
    obtain ⟨⟨place, s⟩, hs, rfl⟩ := hd
    rw [hleading, hs, Option.map_eq_none_iff, Option.filter_some] at hnone
    have hbrace : (text.take place).any isBrace = true := by
      simpa [opensText] using hnone
    exact ⟨place, s, hs, rfl, by simpa using hbrace⟩
  · rw [hleading, Option.isSome_map, Option.isSome_iff_exists]
    simp only [Option.filter_eq_some_iff, opensText_eq_true, Prod.exists]
  · rw [hfirst, hs, Option.map_some]

end ByteGrid
