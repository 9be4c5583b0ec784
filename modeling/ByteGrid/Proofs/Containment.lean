import ByteGrid.Proofs.Ideal
import ByteGrid.Proofs.Leads

/-!
Structs that hold other structs. A declaration has a layout only if every struct it reaches has
members, all of known types, and no chain of structs in one another is too long; and any error, except
for one about size, names a struct or a type within reach where this fails.
-/

namespace ByteGrid

open Placement

def Member.IsByValue (m : Member) : Prop :=
  m.bitWidth.isSome ∨ (m.isPointer = false ∧ m.isFunctionPointer = false)

namespace Catalog

def Contains (c : Catalog) (a b : Declaration) : Prop :=
  ∃ m ∈ a.members, m.IsByValue ∧ c.types.get? m.typeName = none ∧
    c.declaration? m.typeName = some b

inductive Chain (c : Catalog) : Nat → Declaration → Declaration → Prop
  | start (a : Declaration) : Chain c 0 a a
  | step {n : Nat} {a b z : Declaration} : c.Contains a b → Chain c n b z → Chain c (n + 1) a z

def Knows (c : Catalog) (name : String) : Prop :=
  (c.types.get? name).isSome ∨ (c.declaration? name).isSome ∨ name = functionPointerTag

/-- What keeps a struct from a layout, if fewer steps than `depth` may be made from it. -/
inductive Defect (c : Catalog) (depth : Nat) (d : Declaration) : LayoutError → Prop
  | tooDeep {a : Declaration} : c.Chain depth d a → Defect c depth d (.recursionLimit a.name)
  | empty {n : Nat} {a : Declaration} : c.Chain n d a → a.members = [] →
      Defect c depth d (.emptyStruct a.name)
  | unknown {n : Nat} {a : Declaration} {m : Member} : c.Chain n d a → m ∈ a.members →
      m.IsByValue → ¬c.Knows m.typeName → Defect c depth d (.unknownType m.typeName)

end Catalog

variable {c : Catalog} {d a b z : Declaration} {m : Member} {pack : Option Nat} {l : Layout}
variable {nested : Declaration → Except LayoutError Layout} {e : LayoutError} {n k depth : Nat}
variable {footprint : Member → Except LayoutError Footprint} {f : Footprint}

theorem Member.isByValue_iff :
    m.IsByValue ↔ ¬(m.bitWidth.isNone ∧ (m.isPointer ∨ m.isFunctionPointer)) := by
  unfold Member.IsByValue
  cases m.bitWidth <;> simp

namespace Catalog

theorem memberFootprint_byValue (h : m.IsByValue) :
    c.memberFootprint nested m = c.typeFootprint nested m.typeName := by
  rw [memberFootprint, if_neg (Member.isByValue_iff.mp h)]

theorem knows_of_footprint (h : m.IsByValue) (hf : c.memberFootprint nested m = .ok f) :
    c.Knows m.typeName := by
  rw [memberFootprint_byValue h, typeFootprint] at hf
  unfold Knows
  split at hf
  · simp [*]
  · split at hf
    · simp [*]
    · split at hf
      · simp [*]
      · cases hf

theorem nested_of_footprint (h : m.IsByValue) (ht : c.types.get? m.typeName = none)
    (hd : c.declaration? m.typeName = some b) (hf : c.memberFootprint nested m = .ok f) :
    ∃ l, nested b = .ok l ∧ f = ⟨l.totalSize, l.maxAlign⟩ := by
  rw [memberFootprint_byValue h, typeFootprint, ht, hd] at hf
  obtain ⟨l, hl, rfl⟩ := map_eq_ok hf
  exact ⟨l, hl, rfl⟩

theorem memberFootprint_eq_error (h : c.memberFootprint nested m = .error e) :
    m.IsByValue ∧ (¬c.Knows m.typeName ∧ e = .unknownType m.typeName ∨
      ∃ b, c.types.get? m.typeName = none ∧ c.declaration? m.typeName = some b ∧
        nested b = .error e) := by
  have hm : m.IsByValue := by
    rw [Member.isByValue_iff]
    intro hp
    rw [memberFootprint, if_pos hp] at h
    cases h
  refine ⟨hm, ?_⟩
  rw [memberFootprint_byValue hm, typeFootprint] at h
  split at h
  · cases h
  · rename_i ht
    split at h
    · rename_i b hb
      exact .inr ⟨b, ht, hb, map_eq_error h⟩
    · rename_i hd
      split at h
      · cases h
      · rename_i htag
        refine .inl ⟨by simp [Knows, ht, hd, htag], ?_⟩
        cases h
        rfl

theorem Chain.trans (h : c.Chain n a b) (h' : c.Chain k b z) : c.Chain (n + k) a z := by
  induction h with
  | start => simpa using h'
  | step hab _ ih =>
    rw [Nat.add_right_comm]
    exact .step hab (ih h')

theorem Chain.cycle (h : c.Chain k a a) (i : Nat) : c.Chain (i * k) a a := by
  induction i with
  | zero => simpa using Chain.start a
  | succ i ih =>
    rw [Nat.succ_mul]
    exact ih.trans h

theorem Defect.step (h : c.Contains a b) (hd : c.Defect depth b e) : c.Defect (depth + 1) a e := by
  cases hd with
  | tooDeep hz => exact .tooDeep (.step h hz)
  | empty hz hne => exact .empty (.step h hz) hne
  | unknown hz hm hv hk => exact .unknown (.step h hz) hm hv hk

end Catalog

theorem add_eq_error {p : Placement} (h : p.add footprint pack m = .error e) :
    footprint m = .error e ∨ e = .objectTooLarge m.name := by
  unfold Placement.add at h
  split at h
  · cases h
  · obtain hf | ⟨f, -, h⟩ := bind_eq_error h
    · exact .inl hf
    · obtain he | ⟨_, -, h⟩ := bind_eq_error h
      · rw [extent?_eq] at he
        split at he
        · cases he
        · cases he
          exact .inr rfl
      · cases h

theorem finish_eq_error {p : Placement} {name : String} (h : p.finish pack name = .error e) :
    e = .objectTooLarge name := by
  rw [finish_eq] at h
  split at h
  · cases h
  · cases h
    rfl

theorem layout_eq_error (h : d.layout footprint pack = .error e) :
    (d.members = [] ∧ e = .emptyStruct d.name) ∨ (∃ m ∈ d.members, footprint m = .error e) ∨
      ∃ name, e = .objectTooLarge name := by
  unfold Declaration.layout at h
  split at h
  · rename_i hne
    cases h
    exact .inl ⟨by simpa using hne, rfl⟩
  · obtain hrun | ⟨p, -, h⟩ := bind_eq_error h
    · obtain ⟨m, hm, p, hadd⟩ := foldlM_eq_error hrun
      obtain hf | rfl := add_eq_error hadd
      · exact .inr (.inl ⟨m, hm, hf⟩)
      · exact .inr (.inr ⟨m.name, rfl⟩)
    · exact .inr (.inr ⟨d.name, finish_eq_error h⟩)

namespace Catalog

theorem layoutWithin_members (h : c.layoutWithin (depth + 1) pack d = .ok l) : d.members ≠ [] ∧
    ∀ m ∈ d.members, ∃ f, c.memberFootprint (c.layoutWithin depth none) m = .ok f := by
  obtain ⟨hne, p, hp, -⟩ := layout_eq_ok h
  obtain ⟨us, hled⟩ := foldlM_add_led (fun _ _ => memberFootprint_congr) hp
  refine ⟨hne, fun m hm => ?_⟩
  obtain ⟨u, -, hf⟩ := hled.covers m hm
  exact ⟨u.2, hf⟩

theorem layoutWithin_chain (h : c.layoutWithin depth pack d = .ok l) (hz : c.Chain n d z) :
    n < depth ∧ z.members ≠ [] ∧ ∀ m ∈ z.members, m.IsByValue → c.Knows m.typeName := by
  induction depth generalizing pack d l n with
  | zero => cases h
  | succ depth ih =>
    obtain ⟨hne, hms⟩ := layoutWithin_members h
    cases hz with
    | start =>
      refine ⟨Nat.succ_pos _, hne, fun m hm hv => ?_⟩
      obtain ⟨f, hf⟩ := hms m hm
      exact knows_of_footprint hv hf
    | step hb hz =>
      obtain ⟨m, hm, hv, ht, hd⟩ := hb
      obtain ⟨f, hf⟩ := hms m hm
      obtain ⟨l, hl, -⟩ := nested_of_footprint hv ht hd hf
      obtain ⟨hn, hrest⟩ := ih hl hz
      exact ⟨Nat.succ_lt_succ hn, hrest⟩

theorem layoutWithin_eq_error (h : c.layoutWithin depth pack d = .error e) :
    c.Defect depth d e ∨ ∃ name, e = .objectTooLarge name := by
  induction depth generalizing pack d with
  | zero =>
    cases h
    exact .inl (.tooDeep (.start d))
  | succ depth ih =>
    obtain ⟨hne, rfl⟩ | ⟨m, hm, hf⟩ | hlarge := layout_eq_error h
    · exact .inl (.empty (.start d) hne)
    · obtain ⟨hv, ⟨hk, rfl⟩ | ⟨b, ht, hd, hb⟩⟩ := memberFootprint_eq_error hf
      · exact .inl (.unknown (.start d) hm hv hk)
      · exact (ih hb).imp_left (Defect.step ⟨m, hm, hv, ht, hd⟩)
    · exact .inr hlarge

theorem not_defect (h : c.layoutWithin depth pack d = .ok l) : ¬c.Defect depth d e := by
  intro hd
  cases hd with
  | tooDeep hz => exact Nat.lt_irrefl _ (layoutWithin_chain h hz).1
  | empty hz hne => exact (layoutWithin_chain h hz).2.1 hne
  | unknown hz hm hv hk => exact hk ((layoutWithin_chain h hz).2.2 _ hm hv)

end Catalog

theorem layout_defects (c : Catalog) (d : Declaration) (pack : Option Nat) :
    (∀ l, c.layout d pack = .ok l →
      (∀ n z, c.Chain n d z → n ≤ Catalog.maxNestingDepth ∧ (∀ k, c.Chain k z z → k = 0) ∧
        z.members ≠ [] ∧ ∀ m ∈ z.members, m.IsByValue → c.Knows m.typeName) ∧
      ∀ e, ¬c.Defect (Catalog.maxNestingDepth + 1) d e) ∧
    (∀ e, c.layout d pack = .error e →
      c.Defect (Catalog.maxNestingDepth + 1) d e ∨ ∃ name, e = .objectTooLarge name) ∧
    ((∀ e, ¬c.Defect (Catalog.maxNestingDepth + 1) d e) →
      (∃ l, c.layout d pack = .ok l) ∨ ∃ name, c.layout d pack = .error (.objectTooLarge name)) := by
  refine ⟨fun l hl => ⟨fun n z hz => ?_, fun e => Catalog.not_defect hl⟩,
    fun e he => Catalog.layoutWithin_eq_error he, fun hno => ?_⟩
  · obtain ⟨hn, hrest⟩ := Catalog.layoutWithin_chain hl hz
    refine ⟨Nat.le_of_lt_succ hn, fun k hk => ?_, hrest⟩
    -- A cycle could be gone through more often than structs may be nested.
    have hlong := (Catalog.layoutWithin_chain hl
      (hz.trans (hk.cycle (Catalog.maxNestingDepth + 1)))).1
    by_contra hpos
    have := Nat.le_mul_of_pos_right (Catalog.maxNestingDepth + 1) (Nat.pos_of_ne_zero hpos)
    omega
  · cases he : c.layout d pack with
    | ok l => exact .inl ⟨l, rfl⟩
    | error e =>
      obtain hd | ⟨name, rfl⟩ := Catalog.layoutWithin_eq_error he
      · exact absurd hd (hno e)
      · exact .inr ⟨name, rfl⟩

def nestCatalog : Catalog :=
  { types := { entries := [("char", ⟨1, 1⟩)], pointer := ⟨8, 8⟩ }
    declarations := [⟨"Leaf", [.new "c" "char"]⟩, ⟨"Hollow", []⟩, ⟨"Loop", [.new "again" "Loop"]⟩] }

def nodeOf (typeName : String) : Declaration :=
  ⟨"Node", [{ Member.new "next" "Node" with isPointer := true }, .new "value" typeName]⟩

def leafNodeLayout : Layout :=
  { name := some "Node", totalSize := 16, maxAlign := 8, packValue := none
    fields :=
      [{ Field.new "next" 0 8 with typeName := "Node", kind := .pointer, isPointer := true },
       { Field.new "value" 8 1 with typeName := "Leaf" }] }

theorem layout_defects_nest :
    nestCatalog.layout (nodeOf "Leaf") none = .ok leafNodeLayout ∧
    (∀ n z, nestCatalog.Chain n (nodeOf "Leaf") z → n ≤ 16 ∧ z.members ≠ []) ∧
    nestCatalog.Defect 17 (nodeOf "Loop") (.recursionLimit "Loop") ∧
    nestCatalog.Defect 17 (nodeOf "Hollow") (.emptyStruct "Hollow") ∧
    nestCatalog.Defect 17 (nodeOf "Widget") (.unknownType "Widget") ∧
    ((∃ l, nestCatalog.layout (nodeOf "Leaf") (some 1) = .ok l) ∨
      ∃ name, nestCatalog.layout (nodeOf "Leaf") (some 1) = .error (.objectTooLarge name)) := by
  have hok : nestCatalog.layout (nodeOf "Leaf") none = .ok leafNodeLayout := by decide
  obtain ⟨hchain, hsound⟩ := (layout_defects nestCatalog (nodeOf "Leaf") none).1 _ hok
  have hloop := (layout_defects nestCatalog (nodeOf "Loop") none).2.1 (.recursionLimit "Loop")
    (by decide)
  have hempty := (layout_defects nestCatalog (nodeOf "Hollow") none).2.1 (.emptyStruct "Hollow")
    (by decide)
  have hunknown := (layout_defects nestCatalog (nodeOf "Widget") none).2.1 (.unknownType "Widget")
    (by decide)
  refine ⟨hok, fun n z hz => ?_, hloop.resolve_right (by simp), hempty.resolve_right (by simp),
    hunknown.resolve_right (by simp), (layout_defects nestCatalog (nodeOf "Leaf") (some 1)).2.2 hsound⟩
  exact ⟨(hchain n z hz).1, (hchain n z hz).2.2.1⟩

end ByteGrid
