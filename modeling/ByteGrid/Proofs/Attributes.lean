import ByteGrid.Field
import Mathlib.Data.List.Induction

namespace ByteGrid

inductive FieldStep where
  | setTypeName (typeName : String)
  | setPadding (paddingBefore : Nat)
  | setPointer (isPointer : Bool)
  | setCount (count : Nat)
  | setArray (isArray : Bool) (count : Nat)
  | setBitFields (bitFields : List BitField)

def FieldStep.apply (f : Field) : FieldStep → Field
  | setTypeName typeName => f.withTypeName typeName
  | setPadding paddingBefore => f.withPadding paddingBefore
  | setPointer isPointer => f.withPointer isPointer
  | setCount count => f.withCount count
  | setArray isArray count => f.withArray isArray count
  | setBitFields bitFields => f.withBitFields bitFields

def builtField (name : String) (offset size : Nat) (steps : List FieldStep) : Field :=
  steps.foldl FieldStep.apply (.new name offset size)

/-- An attribute of a field: a step sets it, or leaves it as it is. -/
structure Attribute (α : Type) where
  value : Field → α
  set? : FieldStep → Option α
  value_apply : ∀ f step, value (FieldStep.apply f step) = (set? step).getD (value f)

namespace Attribute

def last? {α : Type} (a : Attribute α) (steps : List FieldStep) : Option α :=
  (steps.filterMap a.set?).getLast?

def typeName : Attribute String where
  value := Field.typeName
  set?
    | .setTypeName typeName => some typeName
    | _ => none
  value_apply f step := by cases step <;> rfl

def paddingBefore : Attribute Nat where
  value := Field.paddingBefore
  set?
    | .setPadding paddingBefore => some paddingBefore
    | _ => none
  value_apply f step := by cases step <;> rfl

def isPointer : Attribute Bool where
  value := Field.isPointer
  set?
    | .setPointer isPointer => some isPointer
    | _ => none
  value_apply f step := by cases step <;> rfl

def isArray : Attribute Bool where
  value := Field.isArray
  set?
    | .setCount count => some (1 < count)
    | .setArray isArray _ => some isArray
    | _ => none
  value_apply f step := by cases step <;> rfl

def count : Attribute Nat where
  value := Field.count
  set?
    | .setCount count => some count
    | .setArray _ count => some count
    | _ => none
  value_apply f step := by cases step <;> rfl

def bitFields : Attribute (List BitField) where
  value := Field.bitFields
  set?
    | .setBitFields bitFields => some bitFields
    | _ => none
  value_apply f step := by cases step <;> rfl

def fixed : Attribute (String × Nat × Nat) where
  value f := (f.name, f.offset, f.size)
  set? _ := none
  value_apply f step := by cases step <;> rfl

end Attribute

structure FieldSettings where
  typeName : Option String
  paddingBefore : Option Nat
  isPointer : Option Bool
  isArray : Option Bool
  count : Option Nat
  bitFields : Option (List BitField)
deriving DecidableEq

def lastSettings (steps : List FieldStep) : FieldSettings :=
  { typeName := Attribute.typeName.last? steps
    paddingBefore := Attribute.paddingBefore.last? steps
    isPointer := Attribute.isPointer.last? steps
    isArray := Attribute.isArray.last? steps
    count := Attribute.count.last? steps
    bitFields := Attribute.bitFields.last? steps }

def Field.withSettings (f : Field) (s : FieldSettings) : Field :=
  { f with
    typeName := s.typeName.getD f.typeName
    paddingBefore := s.paddingBefore.getD f.paddingBefore
    isPointer := s.isPointer.getD f.isPointer
    isArray := s.isArray.getD f.isArray
    count := s.count.getD f.count
    bitFields := s.bitFields.getD f.bitFields }.reclassify

def Field.Classified (f : Field) : Prop :=
  f.kind = .classify f.typeName f.isPointer f.isArray

attribute [ext] Field

variable {α : Type} {f g : Field}

theorem Attribute.last?_concat (a : Attribute α) (steps : List FieldStep) (step : FieldStep) :
    a.last? (steps ++ [step]) = (a.set? step).or (a.last? steps) := by
  rw [last?, List.filterMap_append, List.getLast?_append]
  cases h : a.set? step with
  | none =>
    rw [List.filterMap_cons_none h]
    rfl
  | some x =>
    rw [List.filterMap_cons_some h]
    rfl

theorem Attribute.value_foldl (a : Attribute α) (f : Field) (steps : List FieldStep) :
    a.value (steps.foldl FieldStep.apply f) = (a.last? steps).getD (a.value f) := by
  induction steps using List.reverseRecOn with
  | nil => rfl
  | append_singleton steps step ih =>
    rw [List.foldl_append, List.foldl_cons, List.foldl_nil, a.value_apply, ih, a.last?_concat]
    cases a.set? step <;> rfl

theorem Attribute.fixed_foldl (f : Field) (steps : List FieldStep) :
    Attribute.fixed.value (steps.foldl FieldStep.apply f) = Attribute.fixed.value f := by
  have hnone : Attribute.fixed.last? steps = none := by simp [last?, fixed]
  rw [Attribute.value_foldl, hnone, Option.getD_none]

theorem Field.new_classified (name : String) (offset size : Nat) :
    (Field.new name offset size).Classified :=
  rfl

theorem Field.withSettings_classified (f : Field) (s : FieldSettings) : (f.withSettings s).Classified :=
  rfl

theorem Field.Classified.apply (h : f.Classified) (step : FieldStep) :
    (step.apply f).Classified := by
  cases step with
  | setTypeName | setPointer | setCount | setArray => rfl
  -- nothing that the kind is found from is set here
  | setPadding | setBitFields => exact h

theorem Field.Classified.foldl (h : f.Classified) (steps : List FieldStep) :
    (steps.foldl FieldStep.apply f).Classified := by
  induction steps generalizing f with
  | nil => exact h
  | cons step steps ih => exact ih (h.apply step)

theorem Field.Classified.ext (hf : f.Classified) (hg : g.Classified)
    (hfixed : Attribute.fixed.value f = Attribute.fixed.value g)
    (htype : f.typeName = g.typeName) (hpadding : f.paddingBefore = g.paddingBefore)
    (hpointer : f.isPointer = g.isPointer) (harray : f.isArray = g.isArray)
    (hcount : f.count = g.count) (hbits : f.bitFields = g.bitFields) : f = g := by
  have hkind : f.kind = g.kind := by rw [hf, hg, htype, hpointer, harray]
  simp only [Attribute.fixed, Prod.mk.injEq] at hfixed
  obtain ⟨hname, hoffset, hsize⟩ := hfixed
  exact Field.ext hname htype hkind hoffset hsize hpadding hpointer harray hcount hbits

theorem Field.Classified.foldl_eq (h : f.Classified) (steps : List FieldStep) :
    steps.foldl FieldStep.apply f = f.withSettings (lastSettings steps) := by
  apply Field.Classified.ext (h.foldl steps) (f.withSettings_classified _)
  · exact Attribute.fixed_foldl f steps
  · exact Attribute.typeName.value_foldl f steps
  · exact Attribute.paddingBefore.value_foldl f steps
  · exact Attribute.isPointer.value_foldl f steps
  · exact Attribute.isArray.value_foldl f steps
  · exact Attribute.count.value_foldl f steps
  · exact Attribute.bitFields.value_foldl f steps

theorem builtField_settled (name : String) (offset size : Nat) (steps : List FieldStep) :
    let built := builtField name offset size steps
    built.kind = .classify built.typeName built.isPointer built.isArray ∧
    built = (Field.new name offset size).withSettings (lastSettings steps) ∧
    ∀ others, lastSettings others = lastSettings steps →
      builtField name offset size others = built := by
  intro built
  have hnew := Field.new_classified name offset size
  refine ⟨hnew.foldl steps, hnew.foldl_eq steps, fun others hlast => ?_⟩
  rw [builtField, hnew.foldl_eq others, hlast]
  exact (hnew.foldl_eq steps).symm

def pointerSteps : List FieldStep :=
  [.setTypeName "int", .setPadding 4, .setPointer true, .setArray true 2]

/-- The steps set the same in the end, but it is a function pointer first, then an array. -/
def detourSteps : List FieldStep :=
  [.setTypeName functionPointerTag, .setArray false 7, .setPadding 1, .setCount 2,
    .setTypeName "int", .setPointer true, .setPadding 4]

theorem builtField_settled_detour :
    lastSettings detourSteps = lastSettings pointerSteps ∧
    (List.range 8).map (fun k => (builtField "p" 8 16 (detourSteps.take k)).kind) =
      [.scalar, .functionPointer, .functionPointer, .functionPointer, .functionPointer, .array,
        .pointer, .pointer] ∧
    (builtField "p" 8 16 pointerSteps).kind = .classify "int" true true ∧
    builtField "p" 8 16 detourSteps = builtField "p" 8 16 pointerSteps := by
  have hlast : lastSettings detourSteps = lastSettings pointerSteps := by decide
  obtain ⟨hkind, -, hsame⟩ := builtField_settled "p" 8 16 pointerSteps
  exact ⟨hlast, by decide, hkind, hsame detourSteps hlast⟩

end ByteGrid
