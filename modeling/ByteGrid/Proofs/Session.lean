import ByteGrid.Proofs.Lookups
import ByteGrid.Proofs.Parser

namespace ByteGrid

open ByteGrid.Text

theorem mapError_eq_ok {f : ε → ε'} {x : Except ε α} {a : α} (h : x.mapError f = .ok a) :
    x = .ok a := by
  cases x with
  | error e => cases h
  | ok b =>
    cases h
    rfl

variable {l : Layout} {s : Session}

theorem layout_completed {source file : String} {span : Span} {options : LayoutOptions}
    (h : (s.layout source span file options).result = .ok l) :
    ∃ d, leadingStruct? span.text.toList = some d ∧
      (s.complete source (Session.searchPaths file options.search) options d).result = .ok l := by
  cases hd : leadingStruct? span.text.toList with
  | none =>
    rw [Session.layout, Session.declarationOf, hd] at h
    cases h
  | some d =>
    rw [layout_result s hd] at h
    exact ⟨d, rfl, mapError_eq_ok h⟩

theorem layout_origin {source file : String} {span : Span} {options : LayoutOptions}
    (h : (s.layout source span file options).result = .ok l) : ∃ c d,
      c.types = s.settings.types ∧ (∀ m ∈ d.members, m.InWords) ∧
        Catalog.layout c d (s.packOf options source) = .ok l := by
  obtain ⟨d, hlead, hresult⟩ := layout_completed h
  have htraced := complete_traced s source (Session.searchPaths file options.search) options d
  refine ⟨_, d, ?_, leadingStruct?_inWords hlead, htraced.layout_of_ok l hresult⟩
  rw [Catalog.learnAll_eq, Catalog.types_addAll, Session.sourceCatalog, Catalog.types_addAll]
  rfl

structure Settings.InWords (s : Settings) : Prop where
  types : s.types.InWords
  packValue : ∀ k ∈ s.display.packValue, k < wordBound

theorem packOf_lt {source : String} {options : LayoutOptions} (hs : s.settings.InWords)
    (ho : ∀ k ∈ options.pack, k < wordBound) : ∀ k ∈ s.packOf options source, k < wordBound := by
  intro k hk
  rw [Option.mem_def, Session.packOf, Option.or_eq_some_iff, Option.or_eq_some_iff] at hk
  obtain (hk | ⟨-, hk⟩) | ⟨-, hk⟩ := hk
  · exact ho k hk
  · exact hs.packValue k hk
  · exact pragmaPack?_lt hk

theorem layoutAt_origin {place : SourceLine} {options : LayoutOptions}
    (h : (s.layoutAt place options).result = .ok l) : ∃ source c d,
      c.types = s.settings.types ∧ (∀ m ∈ d.members, m.InWords) ∧
        Catalog.layout c d (s.packOf options source) = .ok l := by
  rw [Session.layoutAt, Outcome.result_bind] at h
  obtain ⟨source, -, h⟩ := bind_eq_ok h
  rw [Outcome.result_bind] at h
  obtain ⟨span, -, h⟩ := bind_eq_ok h
  obtain ⟨c, d, hcd⟩ := layout_origin h
  exact ⟨source, c, d, hcd⟩

theorem loadLayout_result {path text : String} {document : LayoutDocument}
    (hread : s.files.read path = .ok text) (hdoc : LayoutDocument.read text = .ok document) :
    (s.loadLayout path).result = document.layout?.mapError fun e => .of e.message := by
  simp only [Session.loadLayout, Session.read, Outcome.result_bind, Outcome.result_ofExcept, hread,
    Outcome.result_note, Outcome.result_pure]
  change (LayoutDocument.read text).mapError _ >>= _ = _
  rw [hdoc]
  cases hl : document.layout? with
  | error e =>
    change document.layout?.mapError _ >>= _ = _
    rw [hl]
    rfl
  | ok l =>
    change document.layout?.mapError _ >>= _ = _
    rw [hl]
    rfl

theorem execute_layout {place : SourceLine} {options : LayoutOptions} {text : String}
    (h : (s.execute (.layout place options)).result = .ok text) :
    place.check s.files = .ok () ∧ options.check = .ok () ∧
      ∃ l, (s.layoutAt place options).result = .ok l ∧
        text = (LayoutDocument.ofLayout l).pretty ++ "\n" := by
  rw [Session.execute, Outcome.result_bind, Outcome.result_ofExcept] at h
  obtain ⟨_, hcheck, h⟩ := bind_eq_ok h
  obtain ⟨_, hplace, hoptions⟩ := bind_eq_ok (mapError_eq_ok hcheck)
  rw [Session.perform, Outcome.result_bind] at h
  obtain ⟨l, hl, h⟩ := bind_eq_ok h
  cases h
  exact ⟨hplace, hoptions, l, hl, rfl⟩

def Session.drawn (s : Session) (drawing : DrawOptions) (l : Layout) : Except Failure String :=
  (s.grid l drawing).result >>= fun g => (s.print g).result

theorem execute_render {input text : String} {drawing : DrawOptions}
    (hread : s.files.read input = .ok text) (hd : LayoutDocument.read text = .ok (.ofLayout l)) :
    (s.execute (.render input drawing)).result =
      drawing.check.mapError ArgumentError.failure >>= fun _ =>
        (LayoutDocument.ofLayout l).layout?.mapError (fun e => Failure.of e.message) >>=
          s.drawn drawing := by
  have hthere : s.files.contains input = true := by
    unfold Files.contains
    unfold Files.read at hread
    cases hf : s.files.find input with
    | error e => simp [hf] at hread
    | ok entry => rfl
  rw [Session.execute, Outcome.result_bind, Outcome.result_ofExcept, Command.check, if_pos hthere,
    Session.perform]
  simp only [Outcome.result_bind, loadLayout_result hread hd]
  rfl

theorem execute_visualize {place : SourceLine} {options : LayoutOptions} {drawing : DrawOptions}
    (hplace : place.check s.files = .ok ()) (hoptions : options.check = .ok ())
    (hl : (s.layoutAt place options).result = .ok l) :
    (s.execute (.visualize place options drawing)).result =
      drawing.check.mapError ArgumentError.failure >>= fun _ => s.drawn drawing l := by
  rw [Session.execute, Outcome.result_bind, Outcome.result_ofExcept, Command.check, hplace, hoptions,
    Session.perform]
  simp only [Outcome.result_bind, hl]
  rfl

theorem layout_render {place : SourceLine} {options : LayoutOptions} {text : String}
    (h : (s.execute (.layout place options)).result = .ok text) :
    ∃ l, (s.layoutAt place options).result = .ok l ∧
      LayoutDocument.read text = .ok (.ofLayout l) ∧
      ((LayoutDocument.ofLayout l).layout? = .ok l ↔ l.Exportable) ∧
      (s.settings.InWords → (∀ k ∈ options.pack, k < wordBound) → ¬l.Exportable →
        ∃ e, (LayoutDocument.ofLayout l).layout? = .error e) ∧
      ∀ files input, Files.read files input = .ok text → ∀ drawing,
        (l.Exportable → (({ s with files } : Session).execute (.render input drawing)).result =
          (s.execute (.visualize place options drawing)).result) ∧
        ∀ e, (LayoutDocument.ofLayout l).layout? = .error e → drawing.check = .ok () →
          (({ s with files } : Session).execute (.render input drawing)).result =
            .error (.of e.message) := by
  obtain ⟨hplace, hoptions, l, hl, rfl⟩ := execute_layout h
  obtain ⟨source, c, d, htypes, hmembers, hlayout⟩ := layoutAt_origin hl
  have hregular : ∀ g ∈ l.fields, g.Regular := fun g hg =>
    (layout_fields_placed hmembers hlayout g hg).toRegular
  have hportable := portable_iff hmembers hlayout
  have hback := (layout?_ofLayout_iff hregular).trans hportable
  have hread := read_ofLayout hregular
  refine ⟨l, hl, hread, hback, ?_, ?_⟩
  · intro hs ho hnot
    have hwords := layout_words (htypes ▸ hs.types) (packOf_lt hs ho) hmembers hlayout
    exact layout?_refused hwords (fun hp => hnot (hportable.mp hp))
  · intro files input hfile drawing
    have hrender := @execute_render l { s with files } input _ drawing hfile hread
    refine ⟨fun he => ?_, fun e he hdrawing => ?_⟩
    · rw [hrender, execute_visualize hplace hoptions hl, hback.mpr he]
      rfl
    · rw [hrender, he, hdrawing]
      rfl

def exchangeSource : String := "struct S { char c; int *p[2]; };"

def exchangeSpan : Span := ⟨0, 0, 0, 0, exchangeSource⟩

def exchangeDeclaration : Declaration :=
  ⟨"S", [.new "c" "char", { Member.new "p" "int" with isPointer := true, arrayLength := 2 }]⟩

def exchangeLayout (pack : Nat) : Layout :=
  { name := some "S", totalSize := 12, maxAlign := 4, packValue := some pack
    fields :=
      [{ Field.new "c" 0 1 with typeName := "char" },
       { Field.new "p" 4 8 with
          typeName := "int", kind := .pointer, paddingBefore := 3, isPointer := true, isArray := true
          count := 2 }] }

def exchangeSession : Session :=
  { files := ⟨fun path =>
      if path = "s.c" then .ok (.file exchangeSource.toUTF8) else .error .notFound⟩
    settings := .standard, json := false, quiet := false, colors := false }

theorem exchange_structs : parseStructs exchangeSource.toList = [exchangeDeclaration] := by
  have htypedefs : structs typedefStruct? (normalize exchangeSource.toList) = [] := by
    decide +kernel
  rw [parseStructs_of_untyped htypedefs]
  decide +kernel

theorem exchange_layoutAt (options : LayoutOptions) :
    (exchangeSession.layoutAt ⟨"s.c", 1⟩ options).result =
      (((Catalog.ofTypes .standard).add exchangeDeclaration).complete
        (exchangeSession.lookup (Session.searchPaths "s.c" options.search)) exchangeDeclaration
        (exchangeSession.packOf options exchangeSource)).result.mapError fun e => .of e.message := by
  have hread : exchangeSession.files.read "s.c" = .ok exchangeSource := by decide +kernel
  have hspans : structSpans exchangeSource.toList = [exchangeSpan] := by decide +kernel
  have henclosing : enclosingStruct? exchangeSource.toList 0 = some exchangeSpan := by
    rw [enclosingStruct?, hspans]
    decide +kernel
  have hlead : leadingStruct? exchangeSpan.text.toList = some exchangeDeclaration := by
    decide +kernel
  rw [Session.layoutAt, Outcome.result_bind, Session.read, Outcome.result_ofExcept, hread]
  change (Session.enclosing exchangeSource ⟨"s.c", 1⟩ >>= fun span =>
    exchangeSession.layout exchangeSource span "s.c" options).result = _
  rw [Outcome.result_bind, Session.enclosing, Outcome.result_bind]
  simp only [Nat.sub_self, henclosing]
  change (exchangeSession.layout exchangeSource exchangeSpan "s.c" options).result = _
  simp only [Session.layout, Session.declarationOf, hlead, Outcome.result_bind, Outcome.result_note,
    Outcome.result_ofExcept, Session.complete, exchange_structs]
  rfl

theorem layout_render_exchange :
    (exchangeSession.execute (.layout ⟨"s.c", 1⟩ ⟨some 4, []⟩)).result =
      .ok ((LayoutDocument.ofLayout (exchangeLayout 4)).pretty ++ "\n") ∧
    (LayoutDocument.ofLayout (exchangeLayout 4)).layout? = .ok (exchangeLayout 4) := by
  have hlayout : (exchangeSession.layoutAt ⟨"s.c", 1⟩ ⟨some 4, []⟩).result =
      .ok (exchangeLayout 4) := by
    rw [exchange_layoutAt]
    decide +kernel
  have h : (exchangeSession.execute (.layout ⟨"s.c", 1⟩ ⟨some 4, []⟩)).result =
      .ok ((LayoutDocument.ofLayout (exchangeLayout 4)).pretty ++ "\n") := by
    have hcheck : Command.check exchangeSession.files (.layout ⟨"s.c", 1⟩ ⟨some 4, []⟩) = .ok () := by
      rfl
    rw [Session.execute, Outcome.result_bind, Outcome.result_ofExcept, hcheck, Session.perform]
    change (exchangeSession.layoutAt ⟨"s.c", 1⟩ ⟨some 4, []⟩ >>= fun l =>
      pure ((LayoutDocument.ofLayout l).pretty ++ "\n")).result = _
    rw [Outcome.result_bind, hlayout]
    rfl
  obtain ⟨l, hl, -, hback, -⟩ := layout_render h
  rw [hlayout, Except.ok.injEq] at hl
  subst hl
  refine ⟨h, hback.mpr ⟨?_, by decide, by decide⟩⟩
  rintro p ⟨⟩
  decide

theorem layout_refused_exchange :
    LayoutOptions.check ⟨some signBound, []⟩ = .ok () ∧
    (exchangeSession.layoutAt ⟨"s.c", 1⟩ ⟨some signBound, []⟩).result =
      .ok (exchangeLayout signBound) ∧
    (LayoutDocument.ofLayout (exchangeLayout signBound)).layout? =
      .error ⟨"pack_value", -signBound⟩ := by
  refine ⟨by rfl, ?_, by decide +kernel⟩
  rw [exchange_layoutAt]
  decide +kernel

end ByteGrid
