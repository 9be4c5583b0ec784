import ByteGrid.Proofs.Containment

namespace ByteGrid

open Placement

variable {c : Catalog} {d x : Declaration} {m : Member} {pack : Option Nat} {e : LayoutError}
variable {nested nested' : Declaration → Except LayoutError Layout} {name : String}
variable {footprint footprint' : Member → Except LayoutError Footprint} {xs : List Declaration}

namespace Catalog

theorem declaration?_add (c : Catalog) (x : Declaration) (name : String) :
    (c.add x).declaration? name = (c.declaration? name).or (if x.name = name then some x else none) := by
  unfold add addNew declaration?
  split
  · rename_i hthere
    by_cases hx : x.name = name
    · have hsome : (c.declarations.find? (·.name == name)).isSome := by
        rw [List.find?_isSome]
        simpa [hx] using hthere
      rw [Option.or_of_isSome hsome]
    · simp [hx]
  · rw [List.find?_append, List.find?_singleton]
    simp

theorem declaration?_addAll (c : Catalog) (xs : List Declaration) (name : String) :
    (c.addAll xs).declaration? name = (c.declaration? name).or (xs.find? (·.name == name)) := by
  induction xs generalizing c with
  | nil => simp [addAll]
  | cons x xs ih =>
    change ((c.add x).addAll xs).declaration? name = _
    rw [ih, declaration?_add, Option.or_assoc, List.find?_cons]
    cases hx : x.name == name with
    | true => simp [eq_of_beq hx]
    | false => simp [ne_of_beq_false hx]

@[simp] theorem types_add (c : Catalog) (x : Declaration) : (c.add x).types = c.types := rfl

theorem types_addAll (c : Catalog) (xs : List Declaration) : (c.addAll xs).types = c.types := by
  induction xs generalizing c with
  | nil => rfl
  | cons x xs ih => exact ih (c.add x)

theorem knows_addAll : (c.addAll xs).Knows name ↔ c.Knows name ∨ ∃ x ∈ xs, x.name = name := by
  unfold Knows
  rw [types_addAll, declaration?_addAll, Option.isSome_or, Bool.or_eq_true, List.find?_isSome]
  simp only [beq_iff_eq]
  grind

theorem typeFootprint_add (htag : x.name ≠ functionPointerTag)
    (hn : ∀ d, AgreeUnless (.unknownType x.name) (nested d) (nested' d)) (name : String) :
    AgreeUnless (.unknownType x.name) (c.typeFootprint nested name)
      ((c.add x).typeFootprint nested' name) := by
  unfold typeFootprint
  rw [types_add, declaration?_add]
  cases c.types.get? name with
  | some f => exact .inr rfl
  | none =>
    cases c.declaration? name with
    | some d => exact (hn d).map _
    | none =>
      -- Only here can the new declaration be found, and then the first footprint is the error.
      by_cases hx : x.name = name
      · left
        simp [← hx, htag]
      · right
        simp [hx]

theorem memberFootprint_add (htag : x.name ≠ functionPointerTag)
    (hn : ∀ d, AgreeUnless (.unknownType x.name) (nested d) (nested' d)) (m : Member) :
    AgreeUnless (.unknownType x.name) (c.memberFootprint nested m)
      ((c.add x).memberFootprint nested' m) := by
  unfold memberFootprint
  split
  · exact .inr rfl
  · exact typeFootprint_add htag hn m.typeName

end Catalog

theorem add_agree {p : Placement} (h : AgreeUnless e (footprint m) (footprint' m)) :
    AgreeUnless e (p.add footprint pack m) (p.add footprint' pack m) := by
  unfold Placement.add
  split
  · exact .inr rfl
  · exact h.bind fun f => .inr rfl

theorem layout_agree (h : ∀ m ∈ d.members, AgreeUnless e (footprint m) (footprint' m)) :
    AgreeUnless e (d.layout footprint pack) (d.layout footprint' pack) := by
  unfold Declaration.layout
  split
  · exact .inr rfl
  · have hadd : ∀ m ∈ d.members, ∀ p : Placement,
        AgreeUnless e (p.add footprint pack m) (p.add footprint' pack m) :=
      fun m hm p => add_agree (h m hm)
    exact (AgreeUnless.foldlM hadd Placement.start).bind fun p => .inr rfl

namespace Catalog

theorem layoutWithin_add (htag : x.name ≠ functionPointerTag) (levels : Nat) (pack : Option Nat)
    (d : Declaration) : AgreeUnless (.unknownType x.name) (c.layoutWithin levels pack d)
      ((c.add x).layoutWithin levels pack d) := by
  induction levels generalizing pack d with
  | zero => exact .inr rfl
  | succ levels ih =>
    refine layout_agree fun m _ => ?_
    exact memberFootprint_add htag (ih none) m

theorem layout_add (htag : x.name ≠ functionPointerTag)
    (h : c.layout d pack ≠ .error (.unknownType x.name)) :
    (c.add x).layout d pack = c.layout d pack :=
  (layoutWithin_add htag _ _ d).resolve_left h

theorem not_knows_of_layout (h : c.layout d pack = .error (.unknownType name)) : ¬c.Knows name := by
  obtain hdefect | ⟨_, hlarge⟩ := layoutWithin_eq_error h
  · cases hdefect with
    | unknown _ _ _ hk => exact hk
  · cases hlarge

end Catalog

theorem layout_addAll (c : Catalog) (d : Declaration) (pack : Option Nat) (xs : List Declaration)
    (htag : ∀ x ∈ xs, x.name ≠ functionPointerTag) :
    (∀ x ∈ xs, c.layout d pack ≠ .error (.unknownType x.name) →
      (c.add x).layout d pack = c.layout d pack) ∧
    ((∀ x ∈ xs, c.layout d pack ≠ .error (.unknownType x.name)) →
      (c.addAll xs).layout d pack = c.layout d pack) ∧
    ∀ x ∈ xs, (c.addAll xs).layout d pack ≠ .error (.unknownType x.name) := by
  refine ⟨fun x hx => Catalog.layout_add (htag x hx), ?_, ?_⟩
  · intro h
    induction xs generalizing c with
    | nil => rfl
    | cons x xs ih =>
      have hadd := Catalog.layout_add (htag x (.head _)) (h x (.head _))
      rw [← hadd]
      refine ih (c.add x) (fun y hy => htag y (.tail _ hy)) fun y hy => ?_
      rw [hadd]
      exact h y (.tail _ hy)
  · intro x hx hunknown
    exact Catalog.not_knows_of_layout hunknown (Catalog.knows_addAll.mpr (.inr ⟨x, hx, rfl⟩))

def hollowStructs : List Declaration :=
  [⟨"Widget", []⟩, ⟨"Leaf", []⟩]

theorem layout_addAll_nest :
    (nestCatalog.add ⟨"Widget", []⟩).layout (nodeOf "Gadget") none =
      .error (.unknownType "Gadget") ∧
    (nestCatalog.addAll hollowStructs).layout (nodeOf "Leaf") none = .ok leafNodeLayout ∧
    nestCatalog.layout (nodeOf "Widget") none = .error (.unknownType "Widget") ∧
    (nestCatalog.addAll hollowStructs).layout (nodeOf "Widget") none ≠
      .error (.unknownType "Widget") := by
  have htag : ∀ x ∈ hollowStructs, x.name ≠ functionPointerTag := by decide
  have hgadget := layout_addAll nestCatalog (nodeOf "Gadget") none hollowStructs htag
  have hleaf := layout_addAll nestCatalog (nodeOf "Leaf") none hollowStructs htag
  have hwidget := layout_addAll nestCatalog (nodeOf "Widget") none hollowStructs htag
  refine ⟨?_, ?_, by decide, hwidget.2.2 ⟨"Widget", []⟩ (by decide)⟩
  · rw [hgadget.1 ⟨"Widget", []⟩ (by decide) (by decide)]
    decide
  · rw [hleaf.2.1 (by decide)]
    decide

end ByteGrid
