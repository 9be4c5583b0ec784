import ByteGrid.Proofs.Exchange.Layouts
import ByteGrid.Proofs.Machine
import ByteGrid.Proofs.Validity

/-!
What the checks of a layout find out. They compare each field with the one before it, but a layout
passes them exactly if every field, with its padding, lies behind all fields before it; otherwise the
first one that does not is reported. On words of a machine they find out the same.
-/

namespace ByteGrid

open ByteGrid.Text

/-- Fields that end within the struct and do not start before it with their paddings, each of them
behind all fields that come before it. -/
structure Fitting (totalSize : Nat) (gs : List Field) : Prop where
  inside : ∀ g ∈ gs, g.paddingBefore ≤ g.offset ∧ g.offset + g.size ≤ totalSize
  apart : gs.Pairwise fun f g => f.offset + f.size + g.paddingBefore ≤ g.offset

def Violation.field? : Violation → Option String
  | .unsortedFields field _ _ => some field
  | .overlappingFields _ second => some second
  | .fieldOutOfBounds field _ _ => some field
  | .paddingBeforeStart field _ _ => some field
  | .overlappingPadding field _ => some field
  | .invalidRowWidth _ => none
  | .invalidAlignment _ => none

variable {totalSize before : Nat} {g : Field} {gs : List Field} {l : Layout} {v : Violation}
variable {previous : Option Field}

theorem fitting_cons : Fitting totalSize (g :: gs) ↔
    g.paddingBefore ≤ g.offset ∧ g.stop ≤ totalSize ∧
      (∀ x ∈ gs, g.stop + x.paddingBefore ≤ x.offset) ∧ Fitting totalSize gs := by
  constructor
  · rintro ⟨hinside, hapart⟩
    obtain ⟨⟨hpad, hstop⟩, hrest⟩ := List.forall_mem_cons.mp hinside
    obtain ⟨hfirst, hlater⟩ := List.pairwise_cons.mp hapart
    exact ⟨hpad, hstop, hfirst, hrest, hlater⟩
  · rintro ⟨hpad, hstop, hfirst, hrest, hlater⟩
    exact ⟨List.forall_mem_cons.mpr ⟨⟨hpad, hstop⟩, hrest⟩,
      List.pairwise_cons.mpr ⟨hfirst, hlater⟩⟩

theorem chained_iff_fitting : Chained totalSize before gs ↔
    (∀ g ∈ gs, before + g.paddingBefore ≤ g.offset) ∧ Fitting totalSize gs := by
  induction gs generalizing before with
  | nil => exact ⟨fun _ => ⟨by simp, by simp, .nil⟩, fun _ => trivial⟩
  | cons g gs ih =>
    rw [Chained, ih, fitting_cons, List.forall_mem_cons]
    unfold Field.paddingStart
    constructor
    · rintro ⟨hpad, hbefore, hstop, hrest, hfit⟩
      have hoffset := g.offset_le
      refine ⟨⟨by omega, fun x hx => ?_⟩, hpad, hstop, hrest, hfit⟩
      have := hrest x hx
      omega
    · rintro ⟨⟨hbefore, -⟩, hpad, hstop, hrest, hfit⟩
      exact ⟨hpad, by omega, hstop, hrest, hfit⟩

theorem chained_zero_iff : Chained totalSize 0 gs ↔ Fitting totalSize gs := by
  rw [chained_iff_fitting]
  refine and_iff_right_of_imp fun h g hg => ?_
  rw [Nat.zero_add]
  exact (h.inside g hg).1

theorem validateFields_eq_ok_iff :
    validateFields totalSize none gs = .ok () ↔ Fitting totalSize gs :=
  validateFields_eq_ok.trans chained_zero_iff

theorem validate_field_eq_error (h : g.validate totalSize previous = .error v) :
    v.field? = some g.name := by
  unfold Field.validate at h
  split at h
  · cases h
    rfl
  split at h
  · cases h
    rfl
  split at h
  · cases h
  -- only now is there a field before it
  split at h
  · cases h
    rfl
  split at h
  · cases h
    rfl
  split at h
  · cases h
    rfl
  · cases h

theorem validateFields_eq_error (h : validateFields totalSize previous gs = .error v) :
    ∃ before g after, gs = before ++ g :: after ∧ v.field? = some g.name ∧
      validateFields totalSize previous before = .ok () ∧
      validateFields totalSize previous (before ++ [g]) = .error v := by
  induction gs generalizing previous with
  | nil => cases h
  | cons g gs ih =>
    rw [validateFields] at h
    cases hv : g.validate totalSize previous with
    | error v' =>
      rw [hv] at h
      cases h
      refine ⟨[], g, gs, rfl, validate_field_eq_error hv, rfl, ?_⟩
      rw [List.nil_append, validateFields, hv]
    | ok _ =>
      rw [hv] at h
      obtain ⟨before, x, after, rfl, hname, hok, herror⟩ := ih h
      refine ⟨g :: before, x, after, rfl, hname, ?_, ?_⟩
      · rw [validateFields, hv]
        exact hok
      · rw [List.cons_append, validateFields, hv]
        exact herror

namespace Machine

structure Slot where
  name : String
  offset : UInt64
  size : UInt64
  paddingBefore : UInt64

namespace Slot

def ofField (g : Field) : Slot :=
  ⟨g.name, .ofNat g.offset, .ofNat g.size, .ofNat g.paddingBefore⟩

def stop? (totalSize : UInt64) (s : Slot) : Option UInt64 :=
  (sum? s.offset s.size).filter (· ≤ totalSize)

def reportedStop (s : Slot) : UInt64 :=
  (sum? s.offset s.size).getD (.ofNat (wordBound - 1))

def paddingStart (s : Slot) : UInt64 :=
  if s.offset < s.paddingBefore then 0 else s.offset - s.paddingBefore

def validate (totalSize : UInt64) (previous : Option (Slot × UInt64)) (s : Slot) :
    Except Violation UInt64 :=
  match s.stop? totalSize with
  | none => .error (.fieldOutOfBounds s.name s.reportedStop.toNat totalSize.toNat)
  | some stop =>
    if s.offset < s.paddingBefore then
      .error (.paddingBeforeStart s.name s.offset.toNat s.paddingBefore.toNat)
    else
      match previous with
      | none => .ok stop
      | some (p, before) =>
        if s.offset < p.offset then .error (.unsortedFields s.name s.offset.toNat p.offset.toNat)
        else if s.offset < before then .error (.overlappingFields p.name s.name)
        else if s.paddingStart < before then .error (.overlappingPadding s.name p.name)
        else .ok stop

structure Reads (s : Slot) (g : Field) : Prop where
  name : s.name = g.name
  offset : s.offset.toNat = g.offset
  size : s.size.toNat = g.size
  paddingBefore : s.paddingBefore.toNat = g.paddingBefore

end Slot

def validateSlots (totalSize : UInt64) (previous : Option (Slot × UInt64)) :
    List Slot → Except Violation Unit
  | [] => .ok ()
  | s :: ss =>
    match s.validate totalSize previous with
    | .error v => .error v
    | .ok stop => validateSlots totalSize (some (s, stop)) ss

def validate (l : Layout) : Except Violation Unit :=
  if UInt64.ofNat l.maxAlign = 0 then .error (.invalidAlignment 0)
  else if UInt64.ofNat l.rowWidth = 0 then .error (.invalidRowWidth 0)
  else validateSlots (.ofNat l.totalSize) none (l.fields.map .ofField)

variable {s : Slot} {ss : List Slot} {bytes : UInt64} {last : Option (Slot × UInt64)}

theorem reads_ofField (h : g.InWords) : (Slot.ofField g).Reads g := by
  simp only [Field.InWords, List.forall_mem_cons] at h
  obtain ⟨hoffset, hsize, hpad, -⟩ := h
  exact ⟨rfl, toNat_ofNat hoffset, toNat_ofNat hsize, toNat_ofNat hpad⟩

namespace Slot.Reads

theorem sum (h : s.Reads g) :
    (sum? s.offset s.size).map UInt64.toNat =
      if g.stop < wordBound then some g.stop else none := by
  rw [sum?_toNat, h.offset, h.size]
  rfl

theorem stop? (h : s.Reads g) :
    (s.stop? bytes).map UInt64.toNat = if g.stop ≤ bytes.toNat then some g.stop else none := by
  have hsum := h.sum
  have hbytes := bytes.toNat_lt
  have hword : wordBound = 2 ^ 64 := rfl
  unfold Slot.stop?
  cases hs : sum? s.offset s.size with
  | none =>
    rw [hs] at hsum
    split at hsum
    · cases hsum
    · rw [if_neg (by omega)]
      rfl
  | some stop =>
    rw [hs] at hsum
    split at hsum
    · rw [Option.map_some, Option.some.injEq] at hsum
      rw [Option.filter_some]
      simp only [decide_eq_true_eq, UInt64.le_iff_toNat_le, hsum]
      split
      · rw [Option.map_some, hsum]
      · rfl
    · cases hsum

theorem reportedStop (h : s.Reads g) : s.reportedStop.toNat = min g.stop (wordBound - 1) := by
  have hsum := h.sum
  unfold Slot.reportedStop
  cases hs : sum? s.offset s.size with
  | none =>
    rw [hs] at hsum
    split at hsum
    · cases hsum
    · rw [Option.getD_none, toNat_ofNat (by decide)]
      omega
  | some stop =>
    rw [hs] at hsum
    split at hsum
    · rw [Option.map_some, Option.some.injEq] at hsum
      rw [Option.getD_some, hsum]
      omega
    · cases hsum

theorem paddingStart (h : s.Reads g) : s.paddingStart.toNat = g.paddingStart := by
  rw [Slot.paddingStart, Field.paddingStart, ← h.offset, ← h.paddingBefore]
  split
  · have hlt := UInt64.lt_iff_toNat_lt.mp ‹_›
    exact (Nat.sub_eq_zero_of_le (Nat.le_of_lt hlt)).symm
  · have hle := UInt64.not_lt.mp ‹_›
    exact UInt64.toNat_sub_of_le _ _ hle

theorem validate (h : s.Reads g)
    (hlast : Option.Rel (fun x p => x.1.Reads p ∧ x.2.toNat = p.stop) last previous) :
    (s.validate bytes last).map UInt64.toNat =
      (g.validate bytes.toNat previous).map fun _ => g.stop := by
  have hstop : (s.stop? bytes).map UInt64.toNat = _ := h.stop?
  unfold Slot.validate Field.validate
  cases hs : s.stop? bytes with
  | none =>
    rw [hs] at hstop
    split at hstop
    · cases hstop
    · rw [if_pos (by omega), h.reportedStop, h.name]
      rfl
  | some stop =>
    rw [hs] at hstop
    split at hstop
    · rw [Option.map_some, Option.some.injEq] at hstop
      rw [if_neg (by omega)]
      cases hlast with
      | none =>
        simp only [UInt64.lt_iff_toNat_lt, h.offset, h.paddingBefore, h.name]
        split
        · rfl
        · exact congrArg _ hstop
      | some hp =>
        obtain ⟨hp, hbefore⟩ := hp
        simp only [UInt64.lt_iff_toNat_lt, h.offset, h.paddingBefore, h.name, h.paddingStart,
          hp.offset, hp.name, hbefore]
        split
        · rfl
        split
        · rfl
        split
        · rfl
        split
        · rfl
        · exact congrArg _ hstop
    · cases hstop

end Slot.Reads

theorem validateSlots_eq (h : List.Forall₂ Slot.Reads ss gs)
    (hlast : Option.Rel (fun x p => x.1.Reads p ∧ x.2.toNat = p.stop) last previous) :
    validateSlots bytes last ss = validateFields bytes.toNat previous gs := by
  induction h generalizing last previous with
  | nil => rfl
  | @cons s g ss gs hs _ ih =>
    have hvalidate : (s.validate bytes last).map UInt64.toNat = _ := hs.validate hlast
    rw [validateSlots, validateFields]
    cases hg : g.validate bytes.toNat previous with
    | error v =>
      rw [hg] at hvalidate
      rw [map_eq_error hvalidate]
    | ok _ =>
      rw [hg] at hvalidate
      obtain ⟨stop, hok, hstop⟩ := map_eq_ok hvalidate
      rw [hok]
      exact ih (.some ⟨hs, hstop⟩)

theorem ofNat_eq_zero {n : Nat} (h : n < wordBound) : UInt64.ofNat n = 0 ↔ n = 0 := by
  rw [← UInt64.toNat_inj, toNat_ofNat h]
  rfl

theorem validate_eq (h : l.InWords) : validate l = l.validate := by
  have hfields : List.Forall₂ Slot.Reads (l.fields.map .ofField) l.fields := by
    rw [List.forall₂_map_left_iff, List.forall₂_same]
    exact fun g hg => reads_ofField (h.fields g hg)
  have hwidth : l.rowWidth < wordBound := by
    rw [Layout.rowWidth]
    cases hp : l.packValue with
    | none => exact h.maxAlign
    | some k => exact h.packValue k hp
  rw [validate, Layout.validate, validateSlots_eq hfields .none, toNat_ofNat h.totalSize]
  simp only [ofNat_eq_zero h.maxAlign, ofNat_eq_zero hwidth]

end Machine

theorem validate_exact (l : Layout) :
    (l.validate = .ok () ↔
      1 ≤ l.maxAlign ∧ 1 ≤ l.rowWidth ∧ Fitting l.totalSize l.fields) ∧
    (∀ v, l.validate = .error v →
      (l.maxAlign = 0 ∧ v = .invalidAlignment 0) ∨
      (l.maxAlign ≠ 0 ∧ l.rowWidth = 0 ∧ v = .invalidRowWidth 0) ∨
      ∃ before g after, l.fields = before ++ g :: after ∧ v.field? = some g.name ∧
        Fitting l.totalSize before ∧ ¬Fitting l.totalSize (before ++ [g])) ∧
    (l.InWords → Machine.validate l = l.validate) := by
  refine ⟨?_, fun v hv => ?_, Machine.validate_eq⟩
  · rw [validate_eq_ok, chained_zero_iff]
    rfl
  · unfold Layout.validate at hv
    split at hv
    · cases hv
      exact .inl ⟨‹_›, rfl⟩
    · split at hv
      · cases hv
        exact .inr (.inl ⟨‹_›, ‹_›, rfl⟩)
      · obtain ⟨before, g, after, hfields, hname, hok, herror⟩ := validateFields_eq_error hv
        refine .inr (.inr ⟨before, g, after, hfields, hname, validateFields_eq_ok_iff.mp hok, ?_⟩)
        intro hfit
        rw [validateFields_eq_ok_iff.mpr hfit] at herror
        cases herror

def crossedLayout : Layout :=
  { name := none, totalSize := 16, maxAlign := 4, packValue := none
    fields :=
      [.new "a" 0 8, .new "b" 8 0, { Field.new "c" 12 4 with paddingBefore := 5 },
       .new "d" 1 (wordBound - 1)] }

/-- The padding of `c` reaches back into `a`, over `b`, which has no bytes. That `d` ends past all words
is not noticed before. -/
theorem validate_exact_crossed :
    crossedLayout.InWords ∧
    crossedLayout.validate = .error (.overlappingPadding "c" "b") ∧
    (∃ before g after, crossedLayout.fields = before ++ g :: after ∧ "c" = g.name ∧
      Fitting crossedLayout.totalSize before ∧ ¬Fitting crossedLayout.totalSize (before ++ [g])) ∧
    Machine.validate crossedLayout = .error (.overlappingPadding "c" "b") := by
  have hwords : crossedLayout.InWords := by
    refine ⟨by decide, by decide, by simp [crossedLayout], ?_⟩
    simp [crossedLayout, Field.InWords, Field.new, wordBound]
  have hv : crossedLayout.validate = .error (.overlappingPadding "c" "b") := by decide
  obtain ⟨-, herror, hmachine⟩ := validate_exact crossedLayout
  refine ⟨hwords, hv, ?_, (hmachine hwords).trans hv⟩
  obtain ⟨-, hother⟩ | ⟨-, -, hother⟩ | ⟨before, g, after, hfields, hname, hfit, hnot⟩ :=
    herror _ hv
  · cases hother
  · cases hother
  · exact ⟨before, g, after, hfields, Option.some.inj hname, hfit, hnot⟩

end ByteGrid
