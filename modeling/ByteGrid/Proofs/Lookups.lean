import ByteGrid.Proofs.Completion
import ByteGrid.Proofs.Search.First
import ByteGrid.Session

/-!
The lookups of a session. No type is looked up twice, every definition serves, and a layout that is
found is that of one catalog, with the structs of the source and those of all definitions. As many
layouts are tried as types may be looked up, so the last of these lookups is of no use.
-/

namespace ByteGrid

open ByteGrid.Text

variable {d : Declaration} {rs : List Resolved}

def Session.sourceCatalog (s : Session) (source : String) : Catalog :=
  (Catalog.ofTypes s.settings.types).addAll (parseStructs source.toList)

theorem lookup_eq_isFirst (s : Session) (paths : List String) :
    (fun name r => s.lookup paths name = some r) = s.files.IsFirst s.settings.filter paths := by
  funext name r
  exact propext resolve_eq_some_iff

theorem lookup_declares (s : Session) (paths : List String) :
    ∀ name r, s.lookup paths name = some r → declares r.text name = true :=
  fun _ _ hr => (resolve_eq_some_iff.mp hr).declares

theorem complete_ends (s : Session) (source : String) (paths : List String) (options : LayoutOptions)
    (d : Declaration) :
    ∃ rs, (s.sourceCatalog source).Learns (s.files.IsFirst s.settings.filter paths) d
        (s.packOf options source) rs ∧
      ((rs.length = Catalog.maxAttempts ∧ s.complete source paths options d =
          ⟨rs, .error (.tooManyTypes Catalog.maxAttempts d.name)⟩) ∨
        (rs.length < Catalog.maxAttempts ∧ s.complete source paths options d =
            ⟨rs, CompletionError.ofLast
              (((s.sourceCatalog source).learnAll rs).layout d (s.packOf options source))⟩)) := by
  obtain ⟨rs, hrs, hend⟩ := Catalog.completeWithin_ends (lookup_declares s paths) d
    (s.packOf options source) Catalog.maxAttempts Catalog.maxAttempts (s.sourceCatalog source)
  rw [lookup_eq_isFirst] at hrs
  exact ⟨rs, hrs, hend⟩

theorem complete_learns {s : Session} {source : String} {paths : List String}
    {options : LayoutOptions} (attempts : Nat)
    (h : (s.sourceCatalog source).Learns (s.files.IsFirst s.settings.filter paths) d
      (s.packOf options source) rs) (hlen : rs.length + attempts = Catalog.maxAttempts) :
    s.complete source paths options d =
      let rest := ((s.sourceCatalog source).learnAll rs).completeWithin Catalog.maxAttempts
        (s.lookup paths) d (s.packOf options source) attempts
      ⟨rs ++ rest.resolved, rest.result⟩ := by
  rw [← lookup_eq_isFirst] at h
  rw [← Catalog.completeWithin_learns (lookup_declares s paths) h, hlen]
  rfl

theorem complete_eq_ok {s : Session} {source : String} {paths : List String}
    {options : LayoutOptions} {l : Layout}
    (h : (s.sourceCatalog source).Learns (s.files.IsFirst s.settings.filter paths) d
      (s.packOf options source) rs)
    (hl : ((s.sourceCatalog source).learnAll rs).layout d (s.packOf options source) = .ok l)
    (hlt : rs.length < Catalog.maxAttempts) : s.complete source paths options d = ⟨rs, .ok l⟩ := by
  obtain ⟨attempts, hlen⟩ : ∃ k, rs.length + (k + 1) = Catalog.maxAttempts :=
    ⟨Catalog.maxAttempts - rs.length - 1, by omega⟩
  rw [complete_learns (attempts + 1) h hlen, Catalog.completeWithin_last (by simp [hl]), hl]
  simp [CompletionError.ofLast]

theorem complete_eq_tooManyTypes {s : Session} {source : String} {paths : List String}
    {options : LayoutOptions}
    (h : (s.sourceCatalog source).Learns (s.files.IsFirst s.settings.filter paths) d
      (s.packOf options source) rs) (hlen : rs.length = Catalog.maxAttempts) :
    s.complete source paths options d =
      ⟨rs, .error (.tooManyTypes Catalog.maxAttempts d.name)⟩ := by
  rw [complete_learns 0 h hlen]
  exact congrArg (Completion.mk · _) (List.append_nil rs)

theorem layout_result (s : Session) {source file : String} {span : Span} {options : LayoutOptions}
    (h : leadingStruct? span.text.toList = some d) :
    (s.layout source span file options).result =
      (s.complete source (Session.searchPaths file options.search) options d).result.mapError
        fun e => .of e.message := by
  simp only [Session.layout, Session.declarationOf, h, Outcome.result_bind, Outcome.result_note,
    Outcome.result_ofExcept]
  rfl

theorem complete_traced (s : Session) (source : String) (paths : List String)
    (options : LayoutOptions) (d : Declaration) :
    (s.sourceCatalog source).Traced (s.files.IsFirst s.settings.filter paths) d
      (s.packOf options source) (s.complete source paths options d) := by
  obtain ⟨rs, hrs, ⟨-, heq⟩ | ⟨-, heq⟩⟩ := complete_ends s source paths options d
  · rw [heq]
    exact ⟨hrs, nofun, nofun, nofun⟩
  · rw [heq]
    refine ⟨hrs, fun l => ofLast_eq_ok, fun name h => ?_, fun name h => ?_⟩
    · obtain ⟨_, ⟨⟩, hl⟩ | ⟨_, ⟨⟩⟩ := ofLast_eq_error h
      exact hl
    · obtain ⟨_, ⟨⟩, -⟩ | ⟨_, ⟨⟩⟩ := ofLast_eq_error h

def letterTypes : List (Char × Nat) :=
  "abcdefghijklmnopqrstuvwxyzABCDEF".toList.zipIdx

def letterLine (p : Char × Nat) : List Char :=
  "struct ".toList ++ p.1 :: "\x7bchar v;\x7d;".toList

def letterHeader : String :=
  String.ofList (letterTypes.flatMap fun p => letterLine p ++ ['\n'])

def letterStruct (p : Char × Nat) : Declaration :=
  ⟨p.1.toString, [.new "v" "char"]⟩

def letterSpan (p : Char × Nat) : Span :=
  ⟨p.2, p.2, p.2, p.2, String.ofList (letterLine p)⟩

def letterResolved (p : Char × Nat) : Resolved :=
  ⟨p.1.toString, ⟨"t.h", p.2, String.ofList (letterLine p)⟩⟩

def holderLine (n : Nat) : List Char :=
  "struct S\x7b".toList ++ (letterTypes.take n).flatMap (fun p => [p.1, ' ', 'm', ';']) ++
    "\x7d;".toList

def holderText (n : Nat) : String :=
  String.ofList (holderLine n)

def holderSpan (n : Nat) : Span :=
  ⟨0, 0, 0, 0, holderText n⟩

def holder (n : Nat) : Declaration :=
  ⟨"S", (letterTypes.take n).map fun p => .new "m" p.1.toString⟩

def holderLayout (n : Nat) : Layout :=
  { name := some "S", totalSize := n, maxAlign := 1, packValue := none
    fields := (letterTypes.take n).map fun p =>
      { Field.new "m" p.2 1 with typeName := p.1.toString } }

def holderSession (n : Nat) : Session :=
  { files := ⟨fun path =>
      if path = "s.c" then .ok (.file (holderText n).toUTF8)
      else if path = "t.h" then .ok (.file letterHeader.toUTF8)
      else .error .notFound⟩
    settings := .standard, json := false, quiet := false, colors := false }

def headerOptions : LayoutOptions :=
  ⟨none, ["t.h"]⟩

theorem letterHeader_spans : structSpans letterHeader.toList = letterTypes.map letterSpan := by
  rw [letterHeader, String.toList_ofList]
  decide +kernel

theorem letterLine_structs : ∀ p ∈ letterTypes,
    parseStructs (letterLine p) = [letterStruct p] ∧ p.1.toString ≠ "S" := by
  intro p hp
  have huntyped : ∀ p ∈ letterTypes, structs typedefStruct? (normalize (letterLine p)) = [] := by
    decide +kernel
  rw [parseStructs_of_untyped (huntyped p hp)]
  revert p
  decide +kernel

theorem letterTypes_inj :
    ∀ p ∈ letterTypes, ∀ q ∈ letterTypes, p.1.toString = q.1.toString → p = q := by
  decide +kernel

theorem letterTypes_index {i : Nat} {p : Char × Nat} (h : letterTypes[i]? = some p) : p.2 = i := by
  rw [letterTypes, List.getElem?_zipIdx, Option.map_eq_some_iff] at h
  obtain ⟨c, -, rfl⟩ := h
  exact Nat.zero_add i

structure HolderRead (n : Nat) : Prop where
  spans : structSpans (holderLine n) = [holderSpan n]
  structs : parseStructs (holderLine n) = [holder n]
  pack : pragmaPack? (holderLine n) = none
  leading : leadingStruct? (holderLine n) = some (holder n)

theorem holder_read {n : Nat} (hn : n ∈ [2, 32]) : HolderRead n := by
  have huntyped : ∀ n ∈ [2, 32], structs typedefStruct? (normalize (holderLine n)) = [] := by
    decide +kernel
  refine ⟨?_, ?_, ?_, ?_⟩
  · revert n
    decide +kernel
  · rw [parseStructs_of_untyped (huntyped n hn)]
    revert n
    decide +kernel
  · revert n
    decide +kernel
  · revert n
    decide +kernel

theorem holder_layouts : ∀ n ∈ [2, 32],
    (∀ p ∈ letterTypes.take n, (((Catalog.ofTypes .standard).addAll [holder n]).addAll
        ((letterTypes.take p.2).map letterStruct)).layout (holder n) none =
      .error (.unknownType p.1.toString)) ∧
    (((Catalog.ofTypes .standard).addAll [holder n]).addAll
        ((letterTypes.take n).map letterStruct)).layout (holder n) none = .ok (holderLayout n) := by
  decide +kernel

theorem declares_letter {p : Char × Nat} (hp : p ∈ letterTypes) (name : String) :
    declares (letterSpan p).text name = (p.1.toString == name) := by
  simp [declares, letterSpan, String.toList_ofList, (letterLine_structs p hp).1, letterStruct]

theorem isFirst_letter {n : Nat} (hn : n ∈ [2, 32]) {p : Char × Nat} (hp : p ∈ letterTypes) :
    (holderSession n).files.IsFirst (holderSession n).settings.filter ["s.c", "t.h"] p.1.toString
      ⟨"t.h", p.2, String.ofList (letterLine p)⟩ := by
  have hsource : (holderSession n).files.read "s.c" = .ok (holderText n) :=
    Files.read_toUTF8 (by simp [holderSession])
  have hheader : (holderSession n).files.read "t.h" = .ok letterHeader :=
    Files.read_toUTF8 (by simp [holderSession])
  refine ⟨["s.c"], [], letterSpan p, rfl, ?_, ?_, ?_, rfl⟩
  · intro path hpath t ht
    obtain rfl := List.mem_singleton.mp hpath
    rw [defines_iff rfl hsource, holderText, String.toList_ofList, (holder_read hn).spans,
      List.mem_singleton] at ht
    obtain ⟨rfl, ht⟩ := ht
    rw [declares, holderSpan, holderText, String.toList_ofList, (holder_read hn).structs,
      List.any_cons, List.any_nil, Bool.or_false, beq_iff_eq] at ht
    exact (letterLine_structs p hp).2 ht.symm
  · rw [defines_iff rfl hheader, letterHeader_spans, declares_letter hp]
    exact ⟨List.mem_map_of_mem hp, beq_self_eq_true _⟩
  · intro t ht
    rw [defines_iff rfl hheader, letterHeader_spans] at ht
    obtain ⟨ht, hdeclares⟩ := ht
    obtain ⟨q, hq, rfl⟩ := List.mem_map.mp ht
    rw [declares_letter hq, beq_iff_eq] at hdeclares
    rw [letterTypes_inj q hq p hp hdeclares]

theorem letterResolved_declarations {ps : List (Char × Nat)} (h : ∀ p ∈ ps, p ∈ letterTypes) :
    (ps.map letterResolved).flatMap Resolved.declarations = ps.map letterStruct := by
  induction ps with
  | nil => rfl
  | cons p ps ih =>
    rw [List.map_cons, List.flatMap_cons, ih fun q hq => h q (.tail _ hq), Resolved.declarations,
      letterResolved, String.toList_ofList, (letterLine_structs p (h p (.head _))).1]
    rfl

theorem holder_catalog {n : Nat} (hn : n ∈ [2, 32]) :
    (holderSession n).sourceCatalog (holderText n) = (Catalog.ofTypes .standard).addAll [holder n] := by
  rw [Session.sourceCatalog, holderText, String.toList_ofList, (holder_read hn).structs]
  rfl

theorem learnAll_letters (c : Catalog) (i : Nat) :
    c.learnAll ((letterTypes.take i).map letterResolved) =
      c.addAll ((letterTypes.take i).map letterStruct) := by
  rw [Catalog.learnAll_eq, letterResolved_declarations fun p hp => List.mem_of_mem_take hp]

theorem holder_learns {n : Nat} (hn : n ∈ [2, 32]) :
    ((holderSession n).sourceCatalog (holderText n)).Learns
      ((holderSession n).files.IsFirst (holderSession n).settings.filter ["s.c", "t.h"]) (holder n)
      none ((letterTypes.take n).map letterResolved) := by
  refine Catalog.learns_of_take fun i r hr => ?_
  rw [List.getElem?_map, Option.map_eq_some_iff] at hr
  obtain ⟨p, hp, rfl⟩ := hr
  have hmem := List.mem_of_getElem? hp
  rw [List.getElem?_take] at hp
  split at hp
  · rename_i hi
    refine ⟨?_, isFirst_letter hn (List.mem_of_getElem? hp)⟩
    rw [← List.map_take, List.take_take, Nat.min_eq_left (Nat.le_of_lt hi), learnAll_letters,
      holder_catalog hn, ← letterTypes_index hp]
    exact (holder_layouts n hn).1 p hmem
  · cases hp

theorem holder_learned {n : Nat} (hn : n ∈ [2, 32]) :
    (((holderSession n).sourceCatalog (holderText n)).learnAll
      ((letterTypes.take n).map letterResolved)).layout (holder n) none = .ok (holderLayout n) := by
  rw [learnAll_letters, holder_catalog hn]
  exact (holder_layouts n hn).2

theorem holder_packOf {n : Nat} (hn : n ∈ [2, 32]) :
    (holderSession n).packOf headerOptions (holderText n) = none := by
  change pragmaPack? (holderText n).toList = none
  rw [holderText, String.toList_ofList, (holder_read hn).pack]

theorem holder_leading {n : Nat} (hn : n ∈ [2, 32]) :
    leadingStruct? (holderSpan n).text.toList = some (holder n) := by
  rw [holderSpan, holderText, String.toList_ofList, (holder_read hn).leading]

theorem header_searchPaths :
    Session.searchPaths "s.c" headerOptions.search = ["s.c", "t.h"] := by
  decide +kernel

theorem complete_attempts (s : Session) (source : String) (paths : List String)
    (options : LayoutOptions) (d : Declaration) :
    (∀ rs l, (s.sourceCatalog source).Learns (s.files.IsFirst s.settings.filter paths) d
        (s.packOf options source) rs →
      ((s.sourceCatalog source).learnAll rs).layout d (s.packOf options source) = .ok l →
      rs.length < Catalog.maxAttempts → s.complete source paths options d = ⟨rs, .ok l⟩) ∧
    (∀ limit name, (s.complete source paths options d).result = .error (.tooManyTypes limit name) ↔
      limit = Catalog.maxAttempts ∧ name = d.name ∧
        ∃ rs, rs.length = Catalog.maxAttempts ∧
          (s.sourceCatalog source).Learns (s.files.IsFirst s.settings.filter paths) d
            (s.packOf options source) rs) ∧
    ∀ span file, leadingStruct? span.text.toList = some d →
      (s.layout source span file options).result =
        (s.complete source (Session.searchPaths file options.search) options d).result.mapError
          fun e => .of e.message := by
  refine ⟨fun rs l => complete_eq_ok, fun limit name => ⟨fun h => ?_, ?_⟩,
    fun span file h => layout_result s h⟩
  · obtain ⟨rs, hrs, ⟨hlen, heq⟩ | ⟨-, heq⟩⟩ := complete_ends s source paths options d
    · rw [heq] at h
      cases h
      exact ⟨rfl, rfl, rs, hlen, hrs⟩
    · rw [heq] at h
      obtain ⟨_, ⟨⟩, -⟩ | ⟨_, ⟨⟩⟩ := ofLast_eq_error h
  · rintro ⟨rfl, rfl, rs, hlen, hrs⟩
    rw [complete_eq_tooManyTypes hrs hlen]

theorem complete_attempts_holder :
    (holderSession 2).complete (holderText 2) ["s.c", "t.h"] headerOptions (holder 2) =
      ⟨(letterTypes.take 2).map letterResolved, .ok (holderLayout 2)⟩ ∧
    ((holderSession 32).complete (holderText 32) ["s.c", "t.h"] headerOptions (holder 32)).result =
      .error (.tooManyTypes 32 "S") := by
  have htwo := complete_attempts (holderSession 2) (holderText 2) ["s.c", "t.h"] headerOptions
    (holder 2)
  have hall := complete_attempts (holderSession 32) (holderText 32) ["s.c", "t.h"] headerOptions
    (holder 32)
  rw [holder_packOf (by decide)] at htwo hall
  refine ⟨htwo.1 _ _ (holder_learns (by decide)) (holder_learned (by decide)) (by decide), ?_⟩
  exact (hall.2.1 32 "S").mpr ⟨rfl, rfl, _, by decide, holder_learns (by decide)⟩

/-- A struct of as many unknown types as may be looked up: all of them are found, with them the struct
has a layout, and this is not tried any more. -/
theorem layout_gives_up :
    ∃ rs, rs.length = 32 ∧
      ((holderSession 32).sourceCatalog (holderText 32)).Learns
        ((holderSession 32).files.IsFirst (holderSession 32).settings.filter ["s.c", "t.h"])
        (holder 32) none rs ∧
      (((holderSession 32).sourceCatalog (holderText 32)).learnAll rs).layout (holder 32) none =
        .ok (holderLayout 32) ∧
      leadingStruct? (holderSpan 32).text.toList = some (holder 32) ∧
      (holderSession 32).packOf headerOptions (holderText 32) = none ∧
      ((holderSession 32).layout (holderText 32) (holderSpan 32) "s.c" headerOptions).result =
        .error (.of "Gave up after resolving 32 types for S") := by
  have hlearns := holder_learns (n := 32) (by decide)
  have hlength : ((letterTypes.take 32).map letterResolved).length = 32 := by decide
  have hpack := holder_packOf (n := 32) (by decide)
  refine ⟨_, hlength, hlearns, holder_learned (by decide), holder_leading (by decide), hpack, ?_⟩
  rw [layout_result _ (holder_leading (by decide)), header_searchPaths,
    complete_eq_tooManyTypes (hpack ▸ hlearns) hlength]
  decide +kernel

end ByteGrid
