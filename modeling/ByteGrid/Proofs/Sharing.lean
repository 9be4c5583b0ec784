import ByteGrid.Proofs.Members
import Mathlib.Data.List.Chain

namespace ByteGrid

open Placement

/-- What a layout keeps of a member. Whether it is a function pointer shows in its type, and a bit-field
has no elements and points to nothing. -/
def Member.kept (m : Member) : Member :=
  match m.bitWidth with
  | none => { m with isFunctionPointer := m.typeName = functionPointerTag }
  | some bits => { Member.new m.name m.typeName with bitWidth := some bits }

def Field.ownMember (g : Field) : Member :=
  { name := g.name, typeName := g.typeName, isPointer := g.isPointer
    isFunctionPointer := g.kind = .functionPointer, arrayLength := g.count, bitWidth := none }

def Field.bitMember (g : Field) (b : BitField) : Member :=
  { Member.new b.name g.typeName with bitWidth := some b.bits }

def Field.members (g : Field) : List Member :=
  if g.bitFields = [] then [g.ownMember] else g.bitFields.map g.bitMember

variable {footprint : Member → Except LayoutError Footprint} {pack : Option Nat} {m : Member}
variable {c : Catalog} {d : Declaration} {l : Layout} {g : Field} {rs : List Group}

theorem FieldKind.classify_eq_functionPointer {typeName : String} {isPointer isArray : Bool} :
    FieldKind.classify typeName isPointer isArray = .functionPointer ↔
      typeName = functionPointerTag := by
  unfold FieldKind.classify
  split
  · simp [*]
  · cases isPointer <;> cases isArray <;> simp [*]

theorem memberField_members (m : Member) (e : Extent) : (memberField m e).members = [m.kept] := by
  unfold memberField Member.kept
  cases m.bitWidth with
  | none =>
    have hkind := @FieldKind.classify_eq_functionPointer m.typeName m.isPointer (1 < m.arrayLength)
    change [Field.ownMember _] = [_]
    simp [Field.ownMember, Field.withArray, Field.withPointer, Field.withPadding, Field.withTypeName,
      Field.new, Field.reclassify, hkind]
  | some bits => rfl

theorem Field.members_extend (hbits : g.bitFields ≠ []) (hb : m.bitWidth.isSome)
    (ht : m.typeName = g.typeName) : (g.extend m).members = g.members ++ [m.kept] := by
  obtain ⟨bits, hb⟩ := Option.isSome_iff_exists.mp hb
  have hextend : (g.extend m).bitFields ≠ [] := List.append_ne_nil_of_left_ne_nil hbits _
  rw [Field.members, Field.members, if_neg hbits, if_neg hextend, Field.extend, List.map_append]
  simp only [Field.bitMember, Member.kept, hb, ht, List.map_cons, List.map_nil, Option.getD_some]
  rfl

theorem Grouped.kept (h : Grouped footprint pack rs) :
    ∀ r ∈ rs, r.field.members = r.members.map Member.kept := by
  induction h with
  | start => simp
  | put _ _ _ _ ih => exact List.forall_mem_cons.mpr ⟨memberField_members _ _, ih⟩
  | @join rs r m _ hjoins ih =>
    obtain ⟨hlast, hrest⟩ := List.forall_mem_cons.mp ih
    obtain ⟨hbits, hb, ht, -⟩ := Group.not_refuses.mp hjoins
    refine List.forall_mem_cons.mpr ⟨?_, hrest⟩
    change (r.field.extend m).members = (r.members ++ [m]).map Member.kept
    rw [Field.members_extend hbits hb ht, hlast, List.map_append]
    rfl

theorem Grouped.used_le (h : Grouped footprint pack rs) :
    ∀ r ∈ rs, 2 ≤ r.members.length → r.used ≤ r.capacity := by
  induction h with
  | start => simp
  | put _ _ _ _ ih => exact List.forall_mem_cons.mpr ⟨fun hlen => absurd hlen (by simp), ih⟩
  | @join rs r m _ hjoins ih =>
    obtain ⟨-, -, -, hle⟩ := Group.not_refuses.mp hjoins
    refine List.forall_mem_cons.mpr ⟨fun _ => ?_, (List.forall_mem_cons.mp ih).2⟩
    rw [r.used_join]
    exact hle

theorem Grouped.refuses (h : Grouped footprint pack rs) :
    rs.IsChain fun next r => ∀ m ∈ next.members.head?, r.Refuses m := by
  induction h with
  | start => exact .nil
  | put _ _ hrefuses _ ih =>
    refine List.isChain_cons.mpr ⟨fun r hr m hm => ?_, ih⟩
    obtain rfl := Option.mem_some_iff.mp hm
    exact hrefuses r hr
  | @join rs r m hrs _ ih =>
    obtain ⟨hhead, hrest⟩ := List.isChain_cons.mp ih
    refine List.isChain_cons.mpr ⟨fun r' hr' x hx => hhead r' hr' x ?_, hrest⟩
    -- the first member of the group stays the first one
    rwa [Group.join, List.head?_append_of_ne_nil _ (hrs.members_ne_nil r (.head _))] at hx

theorem layout_members (h : c.layout d pack = .ok l) :
    l.fields.flatMap Field.members = d.members.map Member.kept ∧
    ∃ groups : List Group, groups.map Group.field = l.fields ∧
      groups.flatMap Group.members = d.members ∧
      (∀ r ∈ groups, r.field.Houses c.footprint? pack r.members ∧
        (2 ≤ r.members.length → r.used ≤ r.capacity)) ∧
      groups.IsChain fun r next => ∀ m ∈ next.members.head?, r.Refuses m := by
  obtain ⟨rs, hrs, hfields, hmembers, hhouses⟩ := layout_groups h
  refine ⟨?_, rs.reverse, hfields.symm, hmembers.symm, fun r hr => ?_, ?_⟩
  · rw [hfields, hmembers, List.flatMap_map, List.map_flatMap]
    exact List.flatMap_congr fun r hr => hrs.kept r (List.mem_reverse.mp hr)
  · have hr := List.mem_reverse.mp hr
    exact ⟨hhouses r hr, hrs.used_le r hr⟩
  · exact List.isChain_reverse.mpr hrs.refuses

def flagsCatalog : Catalog :=
  .ofTypes { entries := [("byte", ⟨1, 1⟩), ("word", ⟨4, 4⟩)], pointer := ⟨8, 8⟩ }

/-- The bit-field `c` does not fit into the unit of `a` and `b`; `d` has another type and is wider than
its unit, so that not even the empty `e` goes in with it. -/
def flags : Declaration :=
  ⟨"Flags",
    [{ Member.new "a" "word" with bitWidth := some 20 },
     { Member.new "b" "word" with bitWidth := some 12 },
     { Member.new "c" "word" with bitWidth := some 1 },
     { Member.new "d" "byte" with bitWidth := some 9 },
     { Member.new "e" "byte" with bitWidth := some 0 },
     { Member.functionPointer "hooks" with arrayLength := 2 },
     { Member.new "f" "byte" with bitWidth := some 3 }]⟩

def flagsLayout : Layout :=
  { name := some "Flags", totalSize := 40, maxAlign := 8, packValue := none
    fields :=
      [{ Field.new "a, b" 0 4 with typeName := "word", bitFields := [⟨"a", 20⟩, ⟨"b", 12⟩] },
       { Field.new "c" 4 4 with typeName := "word", bitFields := [⟨"c", 1⟩] },
       { Field.new "d" 8 1 with typeName := "byte", bitFields := [⟨"d", 9⟩] },
       { Field.new "e" 9 1 with typeName := "byte", bitFields := [⟨"e", 0⟩] },
       { Field.new "hooks" 16 16 with
          typeName := functionPointerTag, paddingBefore := 6, kind := .functionPointer
          isPointer := true, isArray := true, count := 2 },
       { Field.new "f" 32 1 with typeName := "byte", bitFields := [⟨"f", 3⟩] }] }

theorem layout_members_flags :
    flagsCatalog.layout flags none = .ok flagsLayout ∧
    flagsLayout.fields.flatMap Field.members = flags.members ∧
    ∃ groups : List Group, groups.map Group.field = flagsLayout.fields ∧
      groups.flatMap Group.members = flags.members ∧
      groups.IsChain fun r next => ∀ m ∈ next.members.head?, r.Refuses m := by
  have h : flagsCatalog.layout flags none = .ok flagsLayout := by decide
  have hkept : flags.members.map Member.kept = flags.members := by decide
  obtain ⟨hall, groups, hfields, hmembers, -, hchain⟩ := layout_members h
  rw [hkept] at hall
  exact ⟨h, hall, groups, hfields, hmembers, hchain⟩

end ByteGrid
