import ByteGrid.Proofs.Declaration.PrintedMembers
import ByteGrid.Proofs.Declaration.Search
import ByteGrid.Proofs.Source.Plain

namespace ByteGrid

open ByteGrid.Text

/-- The forms of a printed struct: its name before the body, or a typedef with its name behind the body
and maybe a tag before it. -/
inductive StructForm where
  | named
  | typedef
  | tagged (tag : String)
deriving Repr, DecidableEq

namespace StructForm

def Printable : StructForm → Prop
  | .tagged tag => isIdentifier tag.toList = true
  | _ => True

def head (name : List Char) : StructForm → List Char
  | .named => structWord ++ ' ' :: (name ++ [' '])
  | .typedef => typedefWord ++ ' ' :: (structWord ++ [' '])
  | .tagged tag => typedefWord ++ ' ' :: (structWord ++ ' ' :: (tag.toList ++ [' ']))

def foot (name : List Char) : StructForm → List Char
  | .named => []
  | _ => ' ' :: name

def print (name body : List Char) (form : StructForm) : List Char :=
  form.head name ++ '\x7b' :: (body ++ '\x7d' :: (form.foot name ++ [';']))

/-- What a struct in a form declares: a typedef with a tag is found by both names. -/
def declares (d : Declaration) : StructForm → List Declaration
  | .tagged tag => [d, { d with name := tag }]
  | _ => [d]

def typedefs (n : Nat) (name body rest : List Char) : StructForm → List (Nat × StructText)
  | .named => []
  | _ => [(n, ⟨name, body, 0, rest⟩)]

def nameds (n : Nat) (name body rest : List Char) : StructForm → List (Nat × StructText)
  | .named => [(n, ⟨name, body, 7, rest⟩)]
  | .typedef => []
  | .tagged tag => [(n + 8, ⟨tag.toList, body, 7, rest⟩)]

end StructForm

variable {form : StructForm} {name body rest cs : List Char} {n : Nat}

theorem isGap_space : IsGap [' '] := ⟨nofun, by decide⟩

theorem StructForm.print_append (name body rest : List Char) (form : StructForm) :
    form.print name body ++ rest =
      form.head name ++ '\x7b' :: ((body ++ '\x7d' :: form.foot name) ++ ';' :: rest) := by
  simp only [print, List.append_assoc, List.cons_append, List.nil_append]

theorem StructForm.print_length (name body : List Char) (form : StructForm) :
    (form.print name body).length =
      (form.head name).length + ((body ++ '\x7d' :: form.foot name).length + 2) := by
  simp only [print, List.length_append, List.length_cons, List.length_nil]
  omega

theorem StructForm.print_ne_nil (name body : List Char) (form : StructForm) :
    form.print name body ≠ [] := by
  simp only [print, ne_eq, List.append_eq_nil_iff, List.cons_ne_nil, and_false, not_false_iff]

theorem structsFrom_print {find : List Char → Option StructText} {key v w : List Char}
    (hkey : IsWord key) (hopens : ∀ {cs s}, find cs = some s → s.Opens key cs)
    (hhead : form.head name = v ++ ' ' :: (w ++ [' '])) (hv : IsWord v) (hend : ¬key <:+ v)
    (hw : IsWord w) (hname : IsWord name) (hbody : BraceFree body) :
    structsFrom find 0 n (form.print name body ++ rest) =
      structsFrom find 0 (n + (form.print name body).length) rest := by
  have hlater : '\x7b' ∉ body ++ '\x7d' :: form.foot name := by
    rw [List.mem_append, List.mem_cons, not_or, not_or]
    refine ⟨fun hmem => ?_, nofun, fun hmem => ?_⟩
    · cases hbody _ hmem
    · cases form with
      | named => cases hmem
      | _ =>
        rcases List.mem_cons.mp hmem with hmem | hmem
        · cases hmem
        · cases hname.2 _ hmem
  have htext : form.print name body ++ rest =
      v ++ ' ' :: (w ++ ' ' :: '\x7b' :: ((body ++ '\x7d' :: form.foot name) ++ ';' :: rest)) := by
    rw [StructForm.print_append, hhead]
    simp only [List.append_assoc, List.cons_append, List.nil_append]
  have hblank : ∀ d ∈ (trimStart ('\x7b' :: ((body ++ '\x7d' :: form.foot name) ++
      ';' :: rest))).head?, isWordChar d = false := by
    rintro d ⟨⟩
    rfl
  rw [htext, structsFrom_word hkey hopens hv.solid.2 rfl (.inl hend),
    structsFrom_word hkey hopens hw.solid.2 rfl (.inr hblank), structsFrom_body hkey hopens hlater,
    StructForm.print_length, hhead]
  congr 1
  simp only [List.length_append, List.length_cons, List.length_nil]
  omega

theorem typedefs_print (hform : form.Printable) (hname : IsWord name) (hbody : BraceFree body) :
    structsFrom typedefStruct? 0 n (form.print name body ++ rest) =
      form.typedefs n name body rest ++
        structsFrom typedefStruct? 0 (n + (form.print name body).length) rest := by
  have hfound {tag : List Char} (htag : IsTag tag) : typedefStruct? (typedefWord ++ ([' '] ++
      (structWord ++ (tag ++ ([' '] ++ '\x7b' :: (body ++ '\x7d' :: ([' '] ++
        (name ++ ([] ++ ';' :: rest))))))))) = some ⟨name, body, 0, rest⟩ :=
    typedefStruct?_eq_some_iff.mpr ⟨[' '], tag, [' '], [' '], [], rfl, isGap_space, htag,
      isGap_space.2, hbody, isGap_space.2, hname, nofun, nofun, rfl⟩
  cases form with
  | named =>
    exact structsFrom_print isWord_typedef typedefStruct?_opens rfl isWord_struct (by decide) hname
      hname hbody
  | typedef =>
    refine structsFrom_some (StructForm.print_ne_nil _ _ _) ?_ rfl
    have h := hfound (.inl rfl)
    simpa only [StructForm.print, StructForm.head, StructForm.foot, List.append_assoc,
      List.cons_append, List.nil_append] using h
  | tagged tag =>
    refine structsFrom_some (StructForm.print_ne_nil _ _ _) ?_ rfl
    have h := hfound (.inr ⟨[' '], tag.toList, rfl, isGap_space, isIdentifier_word hform⟩)
    simpa only [StructForm.print, StructForm.head, StructForm.foot, List.append_assoc,
      List.cons_append, List.nil_append] using h

theorem nameds_print (hform : form.Printable) (hname : IsWord name) (hbody : BraceFree body) :
    structsFrom namedStruct? 0 n (form.print name body ++ rest) =
      form.nameds n name body rest ++
        structsFrom namedStruct? 0 (n + (form.print name body).length) rest := by
  have hfound {name tail : List Char} (hname : IsWord name) (htail : Unbroken tail) :
      namedStruct? (structWord ++ ([' '] ++ (name ++ ([' '] ++
        '\x7b' :: (body ++ '\x7d' :: (tail ++ ';' :: rest)))))) = some ⟨name, body, 7, rest⟩ :=
    namedStruct?_eq_some_iff.mpr ⟨[' '], [' '], tail, rfl, isGap_space, hname, isGap_space.2, hbody,
      htail, rfl⟩
  cases form with
  | named =>
    refine structsFrom_some (StructForm.print_ne_nil _ _ _) ?_ rfl
    have h := @hfound name [] hname nofun
    simpa only [StructForm.print, StructForm.head, StructForm.foot, List.append_assoc,
      List.cons_append, List.nil_append] using h
  | typedef =>
    exact structsFrom_print isWord_struct namedStruct?_opens rfl isWord_typedef (by decide)
      isWord_struct hname hbody
  | tagged tag =>
    have hspace : Unbroken (' ' :: name) :=
      unbroken_append (allBlank_unbroken isGap_space.2) hname.unbroken
    let named := structWord ++ ([' '] ++ (tag.toList ++ ([' '] ++
      '\x7b' :: (body ++ '\x7d' :: (' ' :: name ++ [';'])))))
    have htext : (StructForm.tagged tag).print name body = typedefWord ++ ' ' :: named := by
      simp only [named, StructForm.print, StructForm.head, StructForm.foot, List.append_assoc,
        List.cons_append, List.nil_append]
    have hnamed : namedStruct? (named ++ rest) = some ⟨tag.toList, body, 7, rest⟩ := by
      have h := hfound (isIdentifier_word hform) hspace
      simpa only [named, List.append_assoc, List.cons_append, List.nil_append] using h
    -- behind the first keyword stands a struct with its name before the body
    rw [htext, List.append_assoc, List.cons_append,
      structsFrom_word isWord_struct namedStruct?_opens isWord_typedef.solid.2 rfl (.inl (by decide)),
      structsFrom_some (by simp [named]) hnamed rfl]
    congr 2
    simp only [List.length_append, List.length_cons]
    omega

section Merge

variable {α : Type} {le : α → α → Bool} {a b : α} {as bs : List α}

theorem merge_cons_left (h : ∀ b ∈ bs, le a b = true) :
    List.merge (a :: as) bs le = a :: List.merge as bs le := by
  cases bs with
  | nil => simp
  | cons b bs => rw [List.cons_merge_cons, if_pos (h b (.head _))]

theorem merge_cons_right (h : ∀ a ∈ as, le a b = false) :
    List.merge as (b :: bs) le = b :: List.merge as bs le := by
  cases as with
  | nil => simp
  | cons a as => rw [List.cons_merge_cons, if_neg (by simp [h a (.head _)])]

end Merge

def placedBefore (a b : Nat × StructText) : Bool :=
  a.1 + a.2.place ≤ b.1 + b.2.place

def structsAt (n : Nat) (cs : List Char) : List (Nat × StructText) :=
  (structsFrom typedefStruct? 0 n cs).merge (structsFrom namedStruct? 0 n cs) placedBefore

theorem StructForm.place_lt {x : Nat × StructText} (h : x ∈ form.nameds n name body rest) :
    n ≤ x.1 + x.2.place ∧ x.1 + x.2.place < n + (form.print name body).length := by
  have hstruct : structWord.length = 6 := rfl
  have htypedef : typedefWord.length = 7 := rfl
  rw [StructForm.print_length]
  cases form with
  | named =>
    cases List.mem_singleton.mp h
    simp only [head, List.length_append, List.length_cons]
    omega
  | typedef => cases h
  | tagged tag =>
    cases List.mem_singleton.mp h
    simp only [head, List.length_append, List.length_cons]
    omega

theorem structsAt_print (hform : form.Printable) (hname : IsWord name) (hbody : BraceFree body) :
    structsAt n (form.print name body ++ rest) =
      form.typedefs n name body rest ++ (form.nameds n name body rest ++
        structsAt (n + (form.print name body).length) rest) := by
  have hlater {find : List Char → Option StructText} {x : Nat × StructText}
      (hx : x ∈ structsFrom find 0 (n + (form.print name body).length) rest) :
      n + (form.print name body).length ≤ x.1 := structsFrom_le hx
  have hnamed {b : Nat × StructText} (hb : b ∈ form.nameds n name body rest) :
      ∀ a ∈ structsFrom typedefStruct? 0 (n + (form.print name body).length) rest,
        placedBefore a b = false := by
    intro a ha
    have hlt := (StructForm.place_lt hb).2
    have hle := hlater ha
    rw [placedBefore, decide_eq_false_iff_not]
    omega
  have hfirst : ∀ b ∈ form.nameds n name body rest ++
      structsFrom namedStruct? 0 (n + (form.print name body).length) rest,
      placedBefore (n, ⟨name, body, 0, rest⟩) b = true := by
    intro b hb
    apply decide_eq_true
    dsimp only
    rcases List.mem_append.mp hb with hb | hb
    · have hle := (StructForm.place_lt hb).1
      omega
    · have hle := hlater hb
      omega
  rw [structsAt, typedefs_print hform hname hbody, nameds_print hform hname hbody]
  -- the typedef stands before its tag, and the tag before the next typedef
  cases form with
  | named => exact merge_cons_right (hnamed (.head _))
  | typedef => exact merge_cons_left hfirst
  | tagged tag =>
    exact (merge_cons_left hfirst).trans (congrArg _ (merge_cons_right (hnamed (.head _))))

inductive PrintedStructs : List (StructForm × Declaration) → List Char → Prop
  | nil : PrintedStructs [] []
  | cons {form : StructForm} {d : Declaration} {ds : List (StructForm × Declaration)}
      {body gap rest : List Char} : form.Printable → IsWord d.name.toList → BraceFree body →
      readMembers body = d.members → AllBlank gap → PrintedStructs ds rest →
      PrintedStructs ((form, d) :: ds) (form.print d.name.toList body ++ (gap ++ rest))

theorem structsAt_gap {gap : List Char} (hgap : AllBlank gap) :
    structsAt n (gap ++ rest) = structsAt (n + gap.length) rest := by
  rw [structsAt, structsFrom_gap isWord_typedef typedefStruct?_opens hgap,
    structsFrom_gap isWord_struct namedStruct?_opens hgap, structsAt]

variable {ds : List (StructForm × Declaration)}

theorem PrintedStructs.declared (h : PrintedStructs ds cs) (n : Nat) :
    (structsAt n cs).map (·.2.declaration) = ds.flatMap fun p => p.1.declares p.2 := by
  induction h generalizing n with
  | nil => simp [structsAt, structsFrom]
  | @cons form d ds body gap rest hform hname hbody hmembers hgap hrest ih =>
    rw [structsAt_print hform hname hbody, structsAt_gap hgap, List.map_append, List.map_append, ih,
      ← List.append_assoc, List.flatMap_cons]
    congr 1
    cases form <;> simp [StructForm.typedefs, StructForm.nameds, StructForm.declares,
      StructText.declaration, hmembers]

theorem StructForm.collapse_head (hform : form.Printable) (hname : IsWord name) :
    collapse (form.head name) = form.head name := by
  have hfirst {w : List Char} (hw : IsWord w) (rest : List Char) :
      collapse (w ++ rest) = w ++ collapse rest := hw.solid.collapseFrom false
  have hnext {w : List Char} (hw : IsWord w) (rest : List Char) :
      collapse (' ' :: (w ++ rest)) = ' ' :: (w ++ collapse rest) :=
    congrArg _ (hw.solid.collapseFrom true)
  have hlast : collapse [' '] = [' '] := rfl
  cases form with
  | named => rw [head, hfirst isWord_struct, hnext hname, hlast]
  | typedef => rw [head, hfirst isWord_typedef, hnext isWord_struct, hlast]
  | tagged tag =>
    rw [head, hfirst isWord_typedef, hnext isWord_struct, hnext (isIdentifier_word hform), hlast]

theorem StructForm.collapse_foot (hname : IsWord name) (form : StructForm) :
    collapse (form.foot name) = form.foot name := by
  have hname' := @Solid.collapseFrom _ [] hname.solid true
  have hnil : collapse [] = [] := rfl
  rw [hnil, List.append_nil] at hname'
  cases form with
  | named => rfl
  | _ => exact congrArg _ hname'

theorem StructForm.head_print (name body : List Char) (form : StructForm) :
    ∀ c ∈ (form.print name body ++ rest).head?, isBlank c = false := by
  cases form <;> (rintro c ⟨⟩; rfl)

theorem PrintedStructs.head (h : PrintedStructs ds cs) : ∀ c ∈ cs.head?, isBlank c = false := by
  cases h with
  | nil => exact nofun
  | cons => exact StructForm.head_print _ _ _

theorem PrintedStructs.collapsed (h : PrintedStructs ds cs) : PrintedStructs ds (collapse cs) := by
  induction h with
  | nil => exact .nil
  | @cons form d ds body gap rest hform hname hbody hmembers hgap hrest ih =>
    have htext : collapse (form.print d.name.toList body ++ (gap ++ rest)) =
        form.print d.name.toList (collapse body) ++ (collapse gap ++ collapse rest) := by
      rw [StructForm.print_append, StructForm.print_append, collapse_append_cons rfl,
        collapse_append_cons rfl, collapse_append_cons rfl, StructForm.collapse_head hform hname,
        StructForm.collapse_foot hname, collapse_append hrest.head]
    have hbody' : BraceFree (collapse body) := by
      intro c hc
      cases hbrace : isBrace c with
      | false => rfl
      | true =>
        rw [hbody c (mem_of_mem_collapseFrom (isBlank_of_brace hbrace) hc)] at hbrace
        cases hbrace
    have hgap' : AllBlank (collapse gap) := by
      intro c hc
      cases hblank : isBlank c with
      | true => rfl
      | false => rw [hgap c (mem_of_mem_collapseFrom hblank hc)] at hblank; cases hblank
    rw [htext]
    exact .cons hform hname hbody' (by rw [readMembers_collapse, hmembers]) hgap' ih

theorem PrintedStructs.trimmed (h : PrintedStructs ds cs) : PrintedStructs ds (trimEnd cs) := by
  induction h with
  | nil => exact .nil
  | @cons form d ds body gap rest hform hname hbody hmembers hgap hrest ih =>
    -- only the gap behind the last struct goes
    cases rest with
    | nil =>
      have hprint : trimEnd (form.print d.name.toList body ++ (gap ++ [])) =
          form.print d.name.toList body ++ ([] ++ []) := by
        rw [StructForm.print_append, StructForm.print_append, trimEnd_append_cons rfl,
          trimEnd_append_cons rfl, List.append_nil, trimEnd_allBlank hgap, List.append_nil]
      rw [hprint]
      exact .cons hform hname hbody hmembers nofun ih
    | cons c rest =>
      have hc := hrest.head c rfl
      have htrim := @trimEnd_append_cons c [] rest hc
      rw [List.nil_append] at htrim
      rw [htrim] at ih
      rw [← List.append_assoc, trimEnd_append_cons hc, List.append_assoc]
      exact .cons hform hname hbody hmembers hgap ih

theorem distinctStructs_declaration (ss : List StructText) :
    (distinctStructs ss).map StructText.declaration =
      (ss.map StructText.declaration).foldl addNew [] := by
  have hrun (seen : List StructText) :
      (ss.foldl (fun seen s => if seen.any (·.name == s.name) then seen else seen ++ [s]) seen).map
        StructText.declaration =
      (ss.map StructText.declaration).foldl addNew (seen.map StructText.declaration) := by
    induction ss generalizing seen with
    | nil => rfl
    | cons s ss ih =>
      have hseen : (seen.map StructText.declaration).any (·.name == s.declaration.name) =
          seen.any (·.name == s.name) := by
        have hname (t : StructText) : (String.ofList t.name == String.ofList s.name) =
            (t.name == s.name) := by
          rw [Bool.eq_iff_iff, beq_iff_eq, beq_iff_eq, String.ofList_inj]
        simp only [List.any_map, StructText.declaration, Function.comp_def, hname]
      rw [List.foldl_cons, ih, List.map_cons, List.foldl_cons, addNew, hseen]
      split
      · rfl
      · rw [List.map_append]
        rfl
  exact hrun []

structure Declaration.Printable (d : Declaration) : Prop where
  name : isIdentifier d.name.toList = true
  members : ∀ m ∈ d.members, m.Printable

def printStructs (gap apart : List Char) (ds : List (StructForm × Declaration)) : List Char :=
  ds.flatMap fun p => p.1.print p.2.name.toList (printMembers gap p.2.members) ++ apart

theorem not_mem_printMembers {c : Char} {gap : List Char} {ms : List Member} (hgap : AllBlank gap)
    (hms : ∀ m ∈ ms, m.Printable) (hword : isWordChar c = false) (hblank : isBlank c = false)
    (hc : c ∉ [' ', '*', '[', ']', ':', ';']) : c ∉ printMembers gap ms := by
  have hsigns : c ∉ [' ', '*', '[', ']', ':'] := fun h => hc (List.mem_append_left [';'] h)
  induction ms with
  | nil => exact hgap.not_mem hblank
  | cons m ms ih =>
    obtain ⟨hm, hms⟩ := List.forall_mem_cons.mp hms
    rw [printMembers_cons, List.mem_append, List.mem_append, List.mem_cons, not_or, not_or, not_or]
    refine ⟨⟨hgap.not_mem hblank, hm.not_mem_print hword hsigns⟩, ?_, ih hms⟩
    rintro rfl
    exact hc (by decide)

theorem not_mem_print {c : Char} (hform : form.Printable) (hname : IsWord name) (hbody : c ∉ body)
    (hword : isWordChar c = false) (hc : c ∉ [' ', '\x7b', '\x7d', ';']) :
    c ∉ form.print name body := by
  have hw {w : List Char} (hw : IsWord w) : c ∉ w := by
    intro hmem
    rw [hw.2 c hmem] at hword
    cases hword
  simp only [List.mem_cons, List.not_mem_nil, or_false, not_or] at hc
  have hhead : c ∉ form.head name := by
    cases form with
    | named => simp [StructForm.head, hw hname, hw isWord_struct, hc]
    | typedef => simp [StructForm.head, hw isWord_struct, hw isWord_typedef, hc]
    | tagged tag =>
      have htag := hw (isIdentifier_word hform)
      simp [StructForm.head, htag, hw isWord_struct, hw isWord_typedef, hc]
  have hfoot : c ∉ form.foot name := by
    cases form <;> simp [StructForm.foot, hw hname, hc]
  simp [StructForm.print, hhead, hfoot, hbody, hc]

theorem printStructs_printed {gap apart : List Char} (hgap : AllBlank gap) (hapart : AllBlank apart)
    (hds : ∀ p ∈ ds, p.1.Printable ∧ p.2.Printable) : PrintedStructs ds (printStructs gap apart ds) := by
  induction ds with
  | nil => exact .nil
  | cons p ds ih =>
    obtain ⟨⟨hform, hd⟩, hds⟩ := List.forall_mem_cons.mp hds
    have hbody : BraceFree (printMembers gap p.2.members) := by
      intro c hc
      cases hbrace : isBrace c with
      | false => rfl
      | true =>
        refine absurd hc (not_mem_printMembers hgap hd.members (isWordChar_of_brace hbrace)
          (isBlank_of_brace hbrace) ?_)
        rcases Bool.or_eq_true_iff.mp hbrace with h | h <;> (rw [beq_iff_eq.mp h]; decide)
    rw [printStructs, List.flatMap_cons, List.append_assoc]
    exact .cons hform (isIdentifier_word hd.name) hbody (readMembers_print hgap hd.members) hapart
      (ih hds)

theorem printStructs_plain {gap apart : List Char} (hgap : AllBlank gap) (hapart : AllBlank apart)
    (hds : ∀ p ∈ ds, p.1.Printable ∧ p.2.Printable) : Plain (printStructs gap apart ds) := by
  have hsign {c : Char} (hword : isWordChar c = false) (hblank : isBlank c = false)
      (hmembers : c ∉ [' ', '*', '[', ']', ':', ';']) (hstruct : c ∉ [' ', '\x7b', '\x7d', ';']) :
      c ∉ printStructs gap apart ds := by
    intro hc
    obtain ⟨p, hp, hc⟩ := List.mem_flatMap.mp hc
    obtain ⟨hform, hd⟩ := hds p hp
    rcases List.mem_append.mp hc with hc | hc
    · exact not_mem_print hform (isIdentifier_word hd.name)
        (not_mem_printMembers hgap hd.members hword hblank hmembers) hword hstruct hc
    · exact hapart.not_mem hblank hc
  exact plain_of_not_mem (hsign rfl rfl (by decide) (by decide)) (hsign rfl rfl (by decide) (by decide))

theorem parse_printed {gap apart : List Char} (hgap : AllBlank gap) (hapart : AllBlank apart)
    (hds : ∀ p ∈ ds, p.1.Printable ∧ p.2.Printable) :
    parseStructs (printStructs gap apart ds) =
      (ds.flatMap fun p => p.1.declares p.2).foldl addNew [] := by
  have hprinted := (printStructs_printed hgap hapart hds).collapsed
  have htrim : trim (collapse (printStructs gap apart ds)) =
      trimEnd (collapse (printStructs gap apart ds)) := by
    rw [trim, trimStart_eq_self hprinted.head]
  rw [parseStructs, normalize_plain (printStructs_plain hgap hapart hds), squeeze_eq, htrim,
    distinctStructs_declaration, ← hprinted.trimmed.declared 0, allStructs, List.map_map]
  rfl

def pointMembers : List Member :=
  [{ Member.new "x" "int" with isPointer := true, arrayLength := 3 },
    { Member.new "flags" "unsigned int" with bitWidth := some 4 }]

def pointStructs : List (StructForm × Declaration) :=
  [(.named, ⟨"Point", pointMembers⟩), (.tagged "node", ⟨"Node", [.new "at" "Point"]⟩),
    (.typedef, ⟨"Point", [.new "late" "char"]⟩)]

theorem parse_printed_points :
    (AllBlank [' '] ∧ AllBlank [] ∧ ∀ p ∈ pointStructs, p.1.Printable ∧ p.2.Printable) ∧
    printStructs [' '] [] pointStructs = ("struct Point \x7b int *x[3]; unsigned int flags : 4; \x7d;" ++
      "typedef struct node \x7b Point at; \x7d Node;typedef struct \x7b char late; \x7d Point;").toList ∧
    parseStructs (printStructs [' '] [] pointStructs) =
      [⟨"Point", pointMembers⟩, ⟨"Node", [.new "at" "Point"]⟩, ⟨"node", [.new "at" "Point"]⟩] := by
  have hwords {w : String} (h : isIdentifier w.toList = true ∧ w.toList ∉ ignoredWords) :
      ∃ ws, w = String.ofList (joinWords ws) ∧ ws ≠ [] ∧
        ∀ w ∈ ws, isIdentifier w = true ∧ w ∉ ignoredWords :=
    ⟨[w.toList], by simp [joinWords], List.cons_ne_nil _ _, List.forall_mem_singleton.mpr h⟩
  have hmember {name typeName : String} (hname : isIdentifier name.toList = true)
      (htype : isIdentifier typeName.toList = true ∧ typeName.toList ∉ ignoredWords) :
      (Member.new name typeName).Printable :=
    ⟨⟨(by decide : 1 < wordBound), by simp [Member.new]⟩, rfl, hname, hwords htype⟩
  have hgap : AllBlank [' '] := by decide
  have hapart : AllBlank [] := by decide
  have hds : ∀ p ∈ pointStructs, p.1.Printable ∧ p.2.Printable := by
    simp only [pointStructs, List.forall_mem_cons]
    have htag : isIdentifier "node".toList = true := by decide
    refine ⟨⟨trivial, by decide, ?_⟩, ⟨htag, by decide, ?_⟩, ⟨trivial, by decide, ?_⟩,
      List.forall_mem_nil _⟩
    · simp only [pointMembers, List.forall_mem_cons]
      exact ⟨⟨⟨by decide, by simp [Member.new]⟩, rfl, by decide, hwords (by decide)⟩,
        ⟨⟨by decide, by decide⟩, rfl, by decide, ["unsigned".toList, "int".toList], by decide,
          List.cons_ne_nil _ _, by decide⟩, List.forall_mem_nil _⟩
    · exact List.forall_mem_singleton.mpr (hmember (by decide) (by decide))
    · exact List.forall_mem_singleton.mpr (hmember (by decide) (by decide))
  refine ⟨⟨hgap, hapart, hds⟩, by decide +kernel, ?_⟩
  rw [parse_printed hgap hapart hds]
  rfl

end ByteGrid
