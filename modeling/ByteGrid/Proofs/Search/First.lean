import ByteGrid.Except
import ByteGrid.Proofs.Source.Order
import ByteGrid.Search.Definition

namespace ByteGrid

def Files.Defines (files : Files) (filter : PathFilter) (name path : String) (span : Span) : Prop :=
  filter.excludes path = false ∧ ∃ source, files.read path = .ok source ∧
    span ∈ structSpans source.toList ∧ declares span.text name = true

/-- No file before that of the definition defines the name, and no line above it in its file. -/
def Files.IsFirst (files : Files) (filter : PathFilter) (paths : List String) (name : String)
    (r : Definition) : Prop :=
  ∃ before after span, paths = before ++ r.path :: after ∧
    (∀ path ∈ before, ∀ t, ¬files.Defines filter name path t) ∧
    files.Defines filter name r.path span ∧
    (∀ t, files.Defines filter name r.path t → span.startLine ≤ t.startLine) ∧
    r = ⟨r.path, span.startLine, span.text⟩

def Files.firstIn (files : Files) (filter : PathFilter) (name path : String) : Option Definition :=
  if filter.excludes path then none
  else
    match files.read path with
    | .error _ => none
    | .ok source =>
      ((structSpans source.toList).find? fun s => declares s.text name).map fun s =>
        ⟨path, s.startLine, s.text⟩

variable {files : Files} {filter : PathFilter} {paths : List String} {name path : String}
variable {r : Definition}

theorem defines_iff {source : String} {span : Span} (hx : filter.excludes path = false)
    (hread : files.read path = .ok source) : files.Defines filter name path span ↔
      span ∈ structSpans source.toList ∧ declares span.text name = true := by
  simp [Files.Defines, hx, hread]

theorem find?_eq_some_iff_least {key : α → Nat} {p : α → Bool} {as : List α} {a : α}
    (h : as.Pairwise (key · < key ·)) :
    as.find? p = some a ↔ a ∈ as ∧ p a = true ∧ ∀ b ∈ as, p b = true → key a ≤ key b := by
  induction as with
  | nil => simp
  | cons x as ih =>
    obtain ⟨hx, has⟩ := List.pairwise_cons.mp h
    by_cases hp : p x = true
    · rw [List.find?_cons_of_pos hp, Option.some.injEq]
      constructor
      · rintro rfl
        refine ⟨.head _, hp, fun b hb _ => ?_⟩
        rcases List.mem_cons.mp hb with rfl | hb
        · exact Nat.le_refl _
        · exact Nat.le_of_lt (hx b hb)
      · rintro ⟨ha, -, hleast⟩
        rcases List.mem_cons.mp ha with rfl | ha
        · rfl
        · exact absurd (hleast x (.head _) hp) (Nat.not_le.mpr (hx a ha))
    · rw [List.find?_cons_of_neg hp, ih has]
      constructor
      · rintro ⟨ha, hpa, hleast⟩
        refine ⟨.tail _ ha, hpa, fun b hb hpb => ?_⟩
        rcases List.mem_cons.mp hb with rfl | hb
        · exact absurd hpb hp
        · exact hleast b hb hpb
      · rintro ⟨ha, hpa, hleast⟩
        rcases List.mem_cons.mp ha with rfl | ha
        · exact absurd hpa hp
        · exact ⟨ha, hpa, fun b hb => hleast b (.tail _ hb)⟩

theorem firstIn_eq_some : files.firstIn filter name path = some r ↔
    ∃ span, files.Defines filter name path span ∧
      (∀ t, files.Defines filter name path t → span.startLine ≤ t.startLine) ∧
      r = ⟨path, span.startLine, span.text⟩ := by
  unfold Files.firstIn Files.Defines
  cases hx : filter.excludes path with
  | true => simp
  | false =>
    cases hread : files.read path with
    | error e => simp
    | ok source =>
      simp only [Bool.false_eq_true, if_false, Option.map_eq_some_iff,
        find?_eq_some_iff_least (structSpans_pairwise source.toList), Except.ok.injEq,
        exists_eq_left', true_and]
      grind

theorem firstIn_eq_none :
    files.firstIn filter name path = none ↔ ∀ t, ¬files.Defines filter name path t := by
  unfold Files.firstIn Files.Defines
  cases hx : filter.excludes path with
  | true => simp
  | false =>
    cases hread : files.read path with
    | error e => simp
    | ok source => simp

theorem resolve_definitions :
    filter.resolve (.ok (files.definitions paths name)) = paths.findSome? (files.firstIn filter name) := by
  change ((files.definitions paths name).filter fun d => !filter.excludes d.path).head? = _
  -- Paths are left out after their files have been read; file by file it may as well be before.
  rw [Files.definitions, List.filter_flatMap, List.head?_flatMap]
  congr 1
  funext path
  unfold Files.firstIn
  cases hread : files.read path with
  | error e => simp
  | ok source =>
    cases hx : filter.excludes path with
    | true => simp [definitionsIn, List.filter_map, Function.comp_def, hx]
    | false => simp [definitionsIn, List.filter_map, Function.comp_def, hx, List.head?_filter]

theorem resolve_eq_some_iff :
    filter.resolve (.ok (files.definitions paths name)) = some r ↔
      files.IsFirst filter paths name r := by
  rw [resolve_definitions, List.findSome?_eq_some_iff]
  constructor
  · rintro ⟨before, path, after, rfl, hr, hbefore⟩
    obtain ⟨span, hspan, hleast, rfl⟩ := firstIn_eq_some.mp hr
    exact ⟨before, after, span, rfl, fun p hp => firstIn_eq_none.mp (hbefore p hp), hspan, hleast, rfl⟩
  · rintro ⟨before, after, span, hpaths, hbefore, hspan, hleast, hr⟩
    exact ⟨before, r.path, after, hpaths, firstIn_eq_some.mpr ⟨span, hspan, hleast, hr⟩,
      fun p hp => firstIn_eq_none.mpr (hbefore p hp)⟩

theorem Files.IsFirst.declares (h : files.IsFirst filter paths name r) :
    ByteGrid.declares r.text name = true := by
  obtain ⟨_, _, span, -, -, ⟨-, _, -, -, hdeclares⟩, -, hr⟩ := h
  rw [hr]
  exact hdeclares

end ByteGrid
