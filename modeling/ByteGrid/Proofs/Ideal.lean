import ByteGrid.Proofs.Nesting
import ByteGrid.Proofs.Placement

/-!
Layouts with numbers that have no bound. The layouts of a catalog are these, as long as every end on
the way, of members and of structs, lies within the largest object; otherwise the first end that does
not says what is too large.
-/

namespace ByteGrid

open ByteGrid.Text Placement

inductive MemberType where
  | sized (f : Footprint)
  | struct (d : Declaration)

def Catalog.memberType? (c : Catalog) (m : Member) : Option MemberType :=
  if m.bitWidth.isNone ∧ (m.isPointer ∨ m.isFunctionPointer) then some (.sized c.types.pointer)
  else
    match c.types.get? m.typeName with
    | some f => some (.sized f)
    | none =>
      match c.declaration? m.typeName with
      | some d => some (.struct d)
      | none => if m.typeName = functionPointerTag then some (.sized c.types.pointer) else none

/-- Whether all types resolve, with structs that have members, and so many of them at most from the
outermost to the innermost one. -/
def Catalog.resolves (c : Catalog) : Nat → Declaration → Bool
  | 0, _ => false
  | levels + 1, d => !d.members.isEmpty && d.members.all fun m =>
      match c.memberType? m with
      | none => false
      | some (.sized _) => true
      | some (.struct d') => c.resolves levels d'

abbrev Stops := List (String × Nat)

structure IdealRun where
  placement : Placement
  stops : Stops

/-- A struct with numbers that have no bound, and all ends in it: those of the structs of its members
come before the end of the member, and its own end last. -/
structure Ideal where
  layout : Layout
  stops : Stops

def IdealRun.add (capacity : Nat → Nat) (type : Member → Footprint × Stops) (pack : Option Nat)
    (r : IdealRun) (m : Member) : IdealRun :=
  if r.placement.joins m then { r with placement := r.placement.join m }
  else
    let f := (type m).1
    let e := extent pack r.placement.offset m f
    { placement :=
        { r.placement.put m f e with
          unit := m.bitWidth.map fun bits => ⟨m.typeName, capacity f.size, bits⟩ }
      stops := r.stops ++ (type m).2 ++ [(m.name, e.stop)] }

def IdealRun.finish (pack : Option Nat) (name : String) (r : IdealRun) : Ideal :=
  let totalSize := roundUp (effectiveAlign r.placement.maxAlign pack) r.placement.offset
  { layout :=
      { name := some name, totalSize, maxAlign := r.placement.maxAlign, packValue := pack
        fields := r.placement.fields.reverse }
    stops := r.stops ++ [(name, totalSize)] }

def Catalog.idealType (c : Catalog) (nested : Declaration → Ideal) (m : Member) :
    Footprint × Stops :=
  match c.memberType? m with
  | none => (⟨0, 0⟩, [])
  | some (.sized f) => (f, [])
  | some (.struct d) => (⟨(nested d).layout.totalSize, (nested d).layout.maxAlign⟩, (nested d).stops)

def Catalog.idealWithin (c : Catalog) (capacity : Nat → Nat) : Nat → Option Nat → Declaration → Ideal
  | 0, pack, d => IdealRun.finish pack d.name ⟨.start, []⟩
  | levels + 1, pack, d =>
    (d.members.foldl (IdealRun.add capacity (c.idealType (c.idealWithin capacity levels none)) pack)
      ⟨.start, []⟩).finish pack d.name

def Catalog.ideal (c : Catalog) (capacity : Nat → Nat) (d : Declaration) (pack : Option Nat) : Ideal :=
  c.idealWithin capacity (maxNestingDepth + 1) (pack.filter (0 < ·)) d

def checked (stops : Stops) (a : α) : Except LayoutError α :=
  match stops.find? (maxObjectSize < ·.2) with
  | none => .ok a
  | some e => .error (.objectTooLarge e.1)

variable {c : Catalog} {d : Declaration} {m : Member} {pack : Option Nat} {stops stops' : Stops}

theorem memberFootprint_eq (nested : Declaration → Except LayoutError Layout) :
    c.memberFootprint nested m =
      match c.memberType? m with
      | none => .error (.unknownType m.typeName)
      | some (.sized f) => .ok f
      | some (.struct d) => (nested d).map fun l => ⟨l.totalSize, l.maxAlign⟩ := by
  unfold Catalog.memberFootprint Catalog.typeFootprint Catalog.memberType?
  by_cases hp : m.bitWidth.isNone ∧ (m.isPointer ∨ m.isFunctionPointer)
  · rw [if_pos hp, if_pos hp]
  · rw [if_neg hp, if_neg hp]
    cases c.types.get? m.typeName with
    | some f => rfl
    | none =>
      cases c.declaration? m.typeName with
      | some d => rfl
      | none => by_cases hf : m.typeName = functionPointerTag <;> simp [hf]

theorem checked_singleton (name : String) (stop : Nat) (a : α) :
    checked [(name, stop)] a =
      if stop ≤ maxObjectSize then .ok a else .error (.objectTooLarge name) := by
  rw [checked, List.find?_singleton]
  by_cases h : stop ≤ maxObjectSize
  · simp [h, Nat.not_lt.mpr h]
  · simp [h, Nat.lt_of_not_le h]

theorem checked_append_bind (stops stops' : Stops) (a : α) (f : α → Except LayoutError β) (b : β)
    (h : f a = checked stops' b) : (checked stops a >>= f) = checked (stops ++ stops') b := by
  unfold checked at *
  rw [List.find?_append]
  cases stops.find? (maxObjectSize < ·.2) with
  | none => exact h
  | some e => rfl

theorem checked_bind_ok (a : α) (f : α → β) :
    (checked stops a >>= fun x => (.ok (f x) : Except LayoutError β)) = checked stops (f a) := by
  unfold checked
  cases stops.find? (maxObjectSize < ·.2) <;> rfl

theorem extent?_checked (pack : Option Nat) (offset : Nat) (m : Member) (f : Footprint) :
    extent? pack offset m f =
      checked [(m.name, (extent pack offset m f).stop)] (extent pack offset m f) := by
  rw [extent?_eq, checked_singleton]

theorem finish_checked (pack : Option Nat) (name : String) (r : IdealRun) :
    (checked r.stops r.placement >>= fun p => p.finish pack name) =
      checked (r.finish pack name).stops (r.finish pack name).layout := by
  apply checked_append_bind
  rw [finish_eq, checked_singleton]
  rfl

section Run

variable {footprint : Member → Except LayoutError Footprint} {type : Member → Footprint × Stops}

theorem add_checked (pack : Option Nat) (h : footprint m = checked (type m).2 (type m).1)
    (r : IdealRun) :
    (checked r.stops r.placement >>= fun p => p.add footprint pack m) =
      checked (r.add unitCapacity type pack m).stops (r.add unitCapacity type pack m).placement := by
  unfold IdealRun.add
  by_cases hj : r.placement.joins m = true
  · rw [if_pos hj]
    have hjoin := checked_append_bind r.stops [] r.placement (fun p => p.add footprint pack m) _
      (add_of_joins hj)
    rwa [List.append_nil] at hjoin
  · rw [if_neg hj]
    dsimp only
    rw [List.append_assoc]
    apply checked_append_bind
    rw [Placement.add, if_neg hj, h]
    apply checked_append_bind
    rw [extent?_checked]
    exact checked_bind_ok _ _

theorem foldlM_add_checked {ms : List Member} (pack : Option Nat)
    (h : ∀ m ∈ ms, footprint m = checked (type m).2 (type m).1) (r : IdealRun) :
    (checked r.stops r.placement >>= ms.foldlM (Placement.add footprint pack)) =
      checked (ms.foldl (IdealRun.add unitCapacity type pack) r).stops
        (ms.foldl (IdealRun.add unitCapacity type pack) r).placement := by
  induction ms generalizing r with
  | nil => exact checked_bind_ok _ id
  | cons m ms ih =>
    have hm := add_checked pack (h m (.head _)) r
    rw [List.foldl_cons, ← ih (fun x hx => h x (.tail _ hx)), ← hm, bind_assoc]
    rfl

end Run

theorem layoutWithin_checked {levels : Nat} (h : c.resolves levels d = true) :
    c.layoutWithin levels pack d =
      checked (c.idealWithin unitCapacity levels pack d).stops
        (c.idealWithin unitCapacity levels pack d).layout := by
  induction levels generalizing pack d with
  | zero => cases h
  | succ levels ih =>
    rw [Catalog.resolves, Bool.and_eq_true, Bool.not_eq_true', List.all_eq_true] at h
    obtain ⟨hne, hms⟩ := h
    have htype : ∀ m ∈ d.members, c.memberFootprint (c.layoutWithin levels none) m =
        checked (c.idealType (c.idealWithin unitCapacity levels none) m).2
          (c.idealType (c.idealWithin unitCapacity levels none) m).1 := by
      intro m hm
      have hr := hms m hm
      rw [memberFootprint_eq, Catalog.idealType]
      cases ht : c.memberType? m with
      | none => simp [ht] at hr
      | some t =>
        cases t with
        | sized f => rfl
        | struct d' =>
          simp only [ht] at hr ⊢
          rw [ih hr]
          exact checked_bind_ok _ fun l : Layout => (⟨l.totalSize, l.maxAlign⟩ : Footprint)
    have hrun := foldlM_add_checked pack htype ⟨.start, []⟩
    have hfinish := finish_checked pack d.name
      (d.members.foldl
        (IdealRun.add unitCapacity (c.idealType (c.idealWithin unitCapacity levels none)) pack)
        ⟨.start, []⟩)
    rw [← hrun, bind_assoc] at hfinish
    rw [Catalog.layoutWithin, Declaration.layout, if_neg (by simp [hne])]
    exact hfinish

end ByteGrid
