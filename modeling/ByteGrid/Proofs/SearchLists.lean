import ByteGrid.Proofs.Session

namespace ByteGrid

open ByteGrid.Text

variable {defines defines' : String → Definition → Prop} {c : Catalog} {d : Declaration}
variable {pack : Option Nat} {rs : List Resolved} {l : Layout} {s : Session} {options : LayoutOptions}
variable {source file name : String} {paths more : List String} {r : Definition} {span : Span}

theorem Files.IsFirst.append {files : Files} {filter : PathFilter}
    (h : files.IsFirst filter paths name r) (more : List String) :
    files.IsFirst filter (paths ++ more) name r := by
  obtain ⟨before, after, span, hpaths, hrest⟩ := h
  refine ⟨before, after ++ more, span, ?_, hrest⟩
  rw [hpaths, List.append_assoc, List.cons_append]

theorem Catalog.Learns.mono (hd : ∀ name r, defines name r → defines' name r)
    (h : c.Learns defines d pack rs) : c.Learns defines' d pack rs := by
  induction h with
  | done c => exact .done c
  | step hl hr _ ih => exact .step hl (hd _ _ hr) ih

theorem complete_append (h : (s.complete source paths options d).result = .ok l)
    (more : List String) :
    s.complete source (paths ++ more) options d = s.complete source paths options d := by
  obtain ⟨rs, hrs, ⟨-, heq⟩ | ⟨hlen, heq⟩⟩ := complete_ends s source paths options d
  · rw [heq] at h
    cases h
  · rw [heq] at h
    have hlayout := ofLast_eq_ok h
    have hmore : (s.sourceCatalog source).Learns
        (s.files.IsFirst s.settings.filter (paths ++ more)) d (s.packOf options source) rs := by
      apply hrs.mono
      intro name r hr
      exact hr.append more
    rw [heq, complete_eq_ok hmore hlayout hlen, hlayout]
    rfl

theorem searchPaths_append (file : String) (search more : List String) :
    Session.searchPaths file (search ++ more) = Session.searchPaths file search ++
      more.filter fun path => pathNames path != pathNames file := by
  rw [Session.searchPaths, Session.searchPaths, List.filter_append, List.cons_append]

theorem layout_append (h : (s.layout source span file options).result = .ok l)
    (more : List String) :
    (s.layout source span file { options with search := options.search ++ more }).result =
      .ok l := by
  obtain ⟨d, hd, hl⟩ := layout_completed h
  have hsame := complete_append hl (more.filter fun path => pathNames path != pathNames file)
  rw [layout_result s hd, searchPaths_append]
  change (s.complete source _ options d).result.mapError _ = .ok l
  rw [hsame, hl]
  rfl

theorem holder_completes : (holderSession 2).complete (holderText 2) ["s.c", "t.h"] headerOptions
    (holder 2) = ⟨(letterTypes.take 2).map letterResolved, .ok (holderLayout 2)⟩ := by
  have hpack := holder_packOf (n := 2) (by decide)
  apply complete_eq_ok
  · rw [hpack]
    exact holder_learns (by decide)
  · rw [hpack]
    exact holder_learned (by decide)
  · decide

theorem holder_layout :
    ((holderSession 2).layout (holderText 2) (holderSpan 2) "s.c" headerOptions).result =
      .ok (holderLayout 2) := by
  rw [layout_result _ (holder_leading (by decide)), header_searchPaths, holder_completes]
  rfl

theorem holder_layoutAt :
    ((holderSession 2).layoutAt ⟨"s.c", 1⟩ headerOptions).result = .ok (holderLayout 2) := by
  have hread : (holderSession 2).files.read "s.c" = .ok (holderText 2) :=
    Files.read_toUTF8 (by simp [holderSession])
  have hspan : enclosingStruct? (holderText 2).toList 0 = some (holderSpan 2) := by
    rw [enclosingStruct?, holderText, String.toList_ofList, (holder_read (n := 2) (by decide)).spans]
    decide +kernel
  rw [Session.layoutAt, Outcome.result_bind, Session.read, Outcome.result_ofExcept, hread]
  change (Session.enclosing (holderText 2) ⟨"s.c", 1⟩ >>= fun span =>
    (holderSession 2).layout (holderText 2) span "s.c" headerOptions).result = _
  rw [Outcome.result_bind, Session.enclosing, Outcome.result_bind]
  simp only [Nat.sub_self, hspan]
  exact holder_layout

theorem layout_more_files (s : Session) (more : List String) :
    (∀ source paths options d rs l, s.complete source paths options d = ⟨rs, .ok l⟩ →
      s.complete source (paths ++ more) options d = ⟨rs, .ok l⟩) ∧
    (∀ source span file options l, (s.layout source span file options).result = .ok l →
      (s.layout source span file { options with search := options.search ++ more }).result = .ok l) ∧
    ∀ place options l, (s.layoutAt place options).result = .ok l →
      (s.layoutAt place { options with search := options.search ++ more }).result = .ok l := by
  refine ⟨?_, fun _ _ _ _ _ h => layout_append h more, ?_⟩
  · intro source paths options d rs l h
    rw [complete_append (congrArg Completion.result h) more, h]
  · intro place options l h
    rw [Session.layoutAt, Outcome.result_bind] at h ⊢
    obtain ⟨source, hsource, h⟩ := bind_eq_ok h
    rw [Outcome.result_bind] at h
    obtain ⟨span, hspan, h⟩ := bind_eq_ok h
    rw [hsource]
    change (Session.enclosing source place >>= fun span => s.layout source span place.file _).result = _
    rw [Outcome.result_bind, hspan]
    exact layout_append h more

theorem layout_more_files_holder :
    (holderSession 2).complete (holderText 2) (["s.c", "t.h"] ++ ["gone.h", "s.c", "t.h"]) headerOptions
      (holder 2) = ⟨(letterTypes.take 2).map letterResolved, .ok (holderLayout 2)⟩ ∧
    ((holderSession 2).layout (holderText 2) (holderSpan 2) "s.c"
      ⟨none, ["t.h"] ++ ["gone.h", "s.c", "t.h"]⟩).result = .ok (holderLayout 2) ∧
    ((holderSession 2).layoutAt ⟨"s.c", 1⟩ ⟨none, ["t.h"] ++ ["gone.h", "s.c", "t.h"]⟩).result =
      .ok (holderLayout 2) := by
  obtain ⟨hcomplete, hlayout, hlayoutAt⟩ :=
    layout_more_files (holderSession 2) ["gone.h", "s.c", "t.h"]
  refine ⟨?_, ?_, ?_⟩
  · exact hcomplete (holderText 2) ["s.c", "t.h"] headerOptions (holder 2) _ _ holder_completes
  · exact hlayout (holderText 2) (holderSpan 2) "s.c" headerOptions _ holder_layout
  · exact hlayoutAt ⟨"s.c", 1⟩ headerOptions _ holder_layoutAt

end ByteGrid
