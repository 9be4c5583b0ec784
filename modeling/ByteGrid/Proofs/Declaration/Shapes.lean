import ByteGrid.Proofs.Declaration.First
import Mathlib.Data.List.Nodup

namespace ByteGrid

open ByteGrid.Text

structure IsTypeWord (w : List Char) : Prop where
  kept : w ∉ ignoredWords
  solid : Solid w
  signs : ∀ c ∈ w, c ∉ ['*', '[', ':', ';', ',']

structure Member.WellFormed (m : Member) : Prop where
  name : isIdentifier m.name.toList = true
  kind : (m.isFunctionPointer = true ∧ m.isPointer = true ∧ m.typeName = functionPointerTag ∧
      m.bitWidth = none) ∨
    (m.isFunctionPointer = false ∧ m.typeName ≠ "" ∧
      ∃ ws, m.typeName = String.ofList (joinWords ws) ∧ ∀ w ∈ ws, IsTypeWord w)

variable {cs text w : List Char} {c : Char} {d : Declarator} {m : Member} {s : StructText}
variable {ds : List Declaration} {x : Declaration}

theorem functionPointerMember_wellFormed {name dims : List Char}
    (h : functionPointer? cs = some (name, dims)) : (functionPointerMember name dims).WellFormed := by
  obtain ⟨hname, h⟩ := Option.ite_none_right_eq_some.mp h
  cases h
  rw [Bool.and_eq_true] at hname
  refine ⟨?_, .inl ⟨rfl, rfl, rfl, rfl⟩⟩
  rw [functionPointerMember, Member.functionPointer, Member.new, String.toList_ofList]
  exact hname.2

theorem Declarator.read?_words (h : read? cs = some d) : isIdentifier d.name = true ∧
    ∀ w ∈ d.words, Solid w ∧ ∀ c ∈ w, c ∈ cs ∧ c ∉ ['*', '[', ':'] := by
  obtain ⟨name, hname, h⟩ := Option.bind_eq_some_iff.mp h
  obtain ⟨_, hidentifier, h⟩ := Option.bind_eq_some_iff.mp h
  cases h
  constructor
  · rw [Declarator.name, List.getLastD_eq_getLast?, hname, Option.getD_some]
    by_contra hnot
    simp [hnot] at hidentifier
  · intro w hw
    obtain ⟨hsolid, hmem⟩ := mem_words hw
    refine ⟨hsolid, fun c hc => ?_⟩
    obtain ⟨e, he, heq⟩ := List.mem_map.mp (hmem c hc)
    split at heq
    · -- a star has become a blank, and that is in no word
      rw [← heq] at hc
      exact absurd (hsolid.2 _ hc) (by decide)
    · subst heq
      have hhead := List.all_eq_true.mp List.all_takeWhile e he
      rw [Bool.and_eq_true, bne_iff_ne, bne_iff_ne] at hhead
      refine ⟨mem_of_mem_trim (List.takeWhile_subset _ he), ?_⟩
      simp only [List.mem_cons, List.not_mem_nil, or_false, not_or]
      exact ⟨‹_›, hhead⟩

theorem Declarator.typeWords_shape (h : read? cs = some d) (hcs : ∀ c ∈ cs, c ≠ ';' ∧ c ≠ ',') :
    ∀ w ∈ d.typeWords, IsTypeWord w := by
  intro w hw
  obtain ⟨hw, hkept⟩ := List.mem_filter.mp hw
  obtain ⟨hsolid, hchars⟩ := (read?_words h).2 w (List.dropLast_subset _ hw)
  refine ⟨by simpa using hkept, hsolid, fun c hc => ?_⟩
  obtain ⟨hmem, hsigns⟩ := hchars c hc
  obtain ⟨hsemicolon, hcomma⟩ := hcs c hmem
  simp only [List.mem_cons, List.not_mem_nil, or_false, not_or] at hsigns ⊢
  exact ⟨hsigns.1, hsigns.2.1, hsigns.2.2, hsemicolon, hcomma⟩

theorem readDeclaration_wellFormed (hcs : ';' ∉ cs) : ∀ m ∈ readDeclaration cs, m.WellFormed := by
  intro m hm
  obtain ⟨_, name, dims, hread, rfl⟩ | ⟨first, hfirst, d, hd, hne, piece, -, e, he, rfl⟩ :=
    mem_readDeclaration hm
  · exact functionPointerMember_wellFormed hread
  · have hfirst' : ∀ c ∈ first, c ≠ ';' ∧ c ≠ ',' := by
      intro c hc
      obtain ⟨hmem, hcomma⟩ := mem_splitOn hfirst hc
      exact ⟨fun heq => hcs (heq ▸ hmem), hcomma⟩
    have htype := Declarator.typeWords_shape hd hfirst'
    refine ⟨?_, .inr ⟨rfl, ?_, d.typeWords, rfl, htype⟩⟩
    · rw [Declarator.member, String.toList_ofList]
      exact (Declarator.read?_words he).1
    · rw [Declarator.member, ne_eq, String.ofList_eq_empty_iff]
      exact joinWords_ne_nil hne fun w hw => (htype w hw).solid

theorem readMembers_wellFormed (body : List Char) : ∀ m ∈ readMembers body, m.WellFormed := by
  intro m hm
  obtain ⟨cs, hcs, hm⟩ := List.mem_flatMap.mp hm
  obtain ⟨piece, hpiece, rfl⟩ := List.mem_map.mp (List.mem_of_mem_filter hcs)
  refine readDeclaration_wellFormed (fun hmem => ?_) m hm
  rcases mem_squeeze hmem with heq | hmem
  · cases heq
  · exact (mem_splitOn hpiece hmem).2 rfl

theorem addNew_nodup (h : (ds.map Declaration.name).Nodup) (d : Declaration) :
    ((addNew ds d).map Declaration.name).Nodup := by
  unfold addNew
  split
  · exact h
  · rename_i hnew
    rw [List.map_append, List.map_singleton]
    refine List.Nodup.append h (List.nodup_singleton _) (List.disjoint_singleton.mpr fun hmem => ?_)
    obtain ⟨x, hx, heq⟩ := List.mem_map.mp hmem
    exact hnew (List.any_eq_true.mpr ⟨x, hx, beq_iff_eq.mpr heq⟩)

theorem foldl_addNew_nodup (h : (ds.map Declaration.name).Nodup) (new : List Declaration) :
    ((new.foldl addNew ds).map Declaration.name).Nodup := by
  induction new generalizing ds with
  | nil => exact h
  | cons d new ih => exact ih (addNew_nodup h d)

theorem mem_foldl_addNew {new : List Declaration} (h : x ∈ new.foldl addNew ds) : x ∈ ds ∨ x ∈ new := by
  induction new generalizing ds with
  | nil => exact .inl h
  | cons d new ih =>
    rcases ih h with h | h
    · unfold addNew at h
      split at h
      · exact .inl h
      · rw [List.mem_append, List.mem_singleton] at h
        rw [List.mem_cons, ← or_assoc]
        exact .inl h
    · exact .inr (.tail _ h)

theorem allStructs_name (h : s ∈ allStructs text) : IsWord s.name := by
  obtain ⟨x, hx, rfl⟩ := List.mem_map.mp h
  rcases List.mem_merge.mp hx with hx | hx
  · obtain ⟨_, _, _, _, _, -, -, -, -, -, -, hname, -⟩ :=
      typedefStruct?_eq_some_iff.mp (structs_read hx).2
    exact hname
  · obtain ⟨_, _, _, -, -, hname, -⟩ := namedStruct?_eq_some_iff.mp (structs_read hx).2
    exact hname

theorem parse_wellFormed (code : List Char) :
    ((parseStructs code).map Declaration.name).Nodup ∧
    ∀ d ∈ parseStructs code, IsWord d.name.toList ∧ ∀ m ∈ d.members, m.WellFormed := by
  rw [parseStructs, distinctStructs_declaration]
  refine ⟨@foldl_addNew_nodup [] List.nodup_nil _, fun d hd => ?_⟩
  obtain ⟨s, hs, rfl⟩ := List.mem_map.mp ((mem_foldl_addNew hd).resolve_left List.not_mem_nil)
  refine ⟨?_, readMembers_wellFormed s.body⟩
  rw [StructText.declaration, String.toList_ofList]
  exact allStructs_name hs

end ByteGrid
