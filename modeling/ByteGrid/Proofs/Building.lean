import ByteGrid.Proofs.Validation

namespace ByteGrid

open ByteGrid.Text

inductive BuildStep where
  | setName (name : String)
  | setPack (pack : Nat)
  | addField (f : Field)

namespace BuildStep

def name? : BuildStep → Option String
  | setName name => some name
  | _ => none

def pack? : BuildStep → Option Nat
  | setPack pack => some pack
  | _ => none

def field? : BuildStep → Option Field
  | addField f => some f
  | _ => none

def apply (b : LayoutBuilder) : BuildStep → LayoutBuilder
  | setName name => b.name name
  | setPack pack => b.pack pack
  | addField f => b.field f

end BuildStep

def builtLayout (totalSize maxAlign : Nat) (steps : List BuildStep) : Layout :=
  (steps.foldl BuildStep.apply (.new totalSize maxAlign)).layout

def spelledLayout (totalSize maxAlign : Nat) (steps : List BuildStep) : Layout :=
  { name := (steps.filterMap BuildStep.name?).getLast?
    totalSize
    maxAlign
    packValue := (steps.filterMap BuildStep.pack?).getLast?
    fields := steps.filterMap BuildStep.field? }

def Field.fill (cursor : Nat) (f : Field) : Field :=
  if f.paddingBefore = 0 ∧ cursor < f.offset then f.withPadding (f.offset - cursor) else f

/-- The fields with their gaps filled in, from a cursor on that stays behind all of them. -/
def fillFrom (cursor : Nat) : List Field → List Field
  | [] => []
  | f :: fs => f.fill cursor :: fillFrom (max cursor f.stop) fs

variable {totalSize maxAlign cursor : Nat} {previous : Option Field} {f : Field} {fs : List Field}
variable {l : Layout} {steps : List BuildStep}

theorem Field.fill_name (cursor : Nat) (f : Field) : (f.fill cursor).name = f.name := by
  unfold fill
  split <;> rfl

theorem Field.fill_offset (cursor : Nat) (f : Field) : (f.fill cursor).offset = f.offset := by
  unfold fill
  split <;> rfl

theorem Field.fill_stop (cursor : Nat) (f : Field) : (f.fill cursor).stop = f.stop := by
  unfold fill
  split <;> rfl

theorem Field.fill_withPadding (h : f.paddingBefore = 0) : (f.fill cursor).withPadding 0 = f := by
  obtain ⟨name, typeName, kind, offset, size, padding, isPointer, isArray, count, bits⟩ := f
  cases h
  unfold fill
  split <;> rfl

theorem Field.fill_paddingStart (cursor : Nat) (h : f.paddingBefore = 0) :
    (f.fill cursor).paddingBefore ≤ f.offset ∧
      (f.fill cursor).paddingStart = min cursor f.offset := by
  unfold fill
  split
  · simp only [paddingStart, withPadding]
    omega
  · rename_i hgap
    rw [paddingStart, h]
    omega

theorem fillFrom_withPadding (h : ∀ f ∈ fs, f.paddingBefore = 0) (cursor : Nat) :
    (fillFrom cursor fs).map (·.withPadding 0) = fs := by
  induction fs generalizing cursor with
  | nil => rfl
  | cons f fs ih =>
    obtain ⟨hf, hfs⟩ := List.forall_mem_cons.mp h
    rw [fillFrom, List.map_cons, Field.fill_withPadding hf, ih hfs]

theorem LayoutBuilder.field_eq (b : LayoutBuilder) (f : Field) :
    b.field f = { layout := { b.layout with fields := b.layout.fields ++ [f.fill b.cursor] }
                  cursor := max b.cursor f.stop } := by
  have hstop : (b.field f).cursor = max b.cursor (f.fill b.cursor).stop := rfl
  rw [f.fill_stop] at hstop
  rw [← hstop]
  rfl

theorem getLast?_cons_or {α : Type} (x : α) (xs : List α) (before : Option α) :
    (x :: xs).getLast?.or before = xs.getLast?.or (some x) := by
  rw [List.getLast?_cons]
  cases xs.getLast? <;> rfl

theorem foldl_apply_layout (b : LayoutBuilder) (steps : List BuildStep) :
    (steps.foldl BuildStep.apply b).layout =
      { name := (steps.filterMap BuildStep.name?).getLast?.or b.layout.name
        totalSize := b.layout.totalSize
        maxAlign := b.layout.maxAlign
        packValue := (steps.filterMap BuildStep.pack?).getLast?.or b.layout.packValue
        fields := b.layout.fields ++ fillFrom b.cursor (steps.filterMap BuildStep.field?) } := by
  induction steps generalizing b with
  | nil => simp [fillFrom]
  | cons step steps ih =>
    rw [List.foldl_cons, ih]
    cases step with
    | setName name =>
      rw [List.filterMap_cons_some (f := BuildStep.name?) rfl, getLast?_cons_or]
      rfl
    | setPack pack =>
      rw [List.filterMap_cons_some (f := BuildStep.pack?) rfl, getLast?_cons_or]
      rfl
    | addField f =>
      rw [List.filterMap_cons_some (f := BuildStep.field?) rfl, fillFrom, BuildStep.apply,
        LayoutBuilder.field_eq, ← List.append_cons]
      rfl

theorem builtLayout_eq : builtLayout totalSize maxAlign steps =
    { spelledLayout totalSize maxAlign steps with
      fields := fillFrom 0 (spelledLayout totalSize maxAlign steps).fields } := by
  rw [builtLayout, foldl_apply_layout]
  simp [spelledLayout, LayoutBuilder.new, Layout.new]

theorem validate_fill (h : f.paddingBefore = 0) (hprevious : ∀ p ∈ previous, p.stop ≤ cursor) :
    (f.fill cursor).validate totalSize previous = f.validate totalSize previous := by
  obtain ⟨hpad, hstart⟩ := Field.fill_paddingStart cursor h
  have hself : f.paddingStart = f.offset := by rw [Field.paddingStart, h, Nat.sub_zero]
  have hnone : ¬f.offset < f.paddingBefore := by omega
  simp only [Field.validate, Field.fill_name, Field.fill_offset, Field.fill_stop, hstart, hself,
    if_neg (Nat.not_lt.mpr hpad), if_neg hnone]
  cases previous with
  | none => rfl
  | some p =>
    have hp := hprevious p rfl
    by_cases hover : f.offset < p.stop
    · simp only [if_pos hover]
    · -- the field lies behind the one before it, and so does the cursor
      have hreach : ¬min cursor f.offset < p.stop := by omega
      simp only [if_neg hover, if_neg hreach]

theorem validateFields_fill_previous (p : Field) (gs : List Field) :
    validateFields totalSize (some (p.fill cursor)) gs = validateFields totalSize (some p) gs := by
  cases gs with
  | nil => rfl
  | cons g gs =>
    simp only [validateFields, Field.validate, Field.fill_name, Field.fill_offset, Field.fill_stop]

theorem validateFields_fillFrom (h : ∀ f ∈ fs, f.paddingBefore = 0)
    (hprevious : ∀ p ∈ previous, p.stop ≤ cursor) :
    validateFields totalSize previous (fillFrom cursor fs) = validateFields totalSize previous fs := by
  induction fs generalizing previous cursor with
  | nil => rfl
  | cons f fs ih =>
    obtain ⟨hf, hfs⟩ := List.forall_mem_cons.mp h
    have hnext : ∀ p ∈ some f, p.stop ≤ max cursor f.stop := by
      rintro p ⟨⟩
      exact Nat.le_max_right _ _
    rw [fillFrom, validateFields, validateFields, validate_fill hf hprevious,
      validateFields_fill_previous, ih hfs hnext]

theorem validate_fillFrom (h : ∀ f ∈ l.fields, f.paddingBefore = 0) :
    ({ l with fields := fillFrom 0 l.fields } : Layout).validate = l.validate := by
  have hchecks := @validateFields_fillFrom l.totalSize 0 none l.fields h (by simp)
  rw [Layout.validate, hchecks]
  rfl

theorem fillFrom_start (h : ∀ f ∈ fs, f.paddingBefore = 0)
    (hchain : Chained totalSize cursor (fillFrom cursor fs)) {i : Nat} {g : Field}
    (hg : (fillFrom cursor fs)[i]? = some g) :
    g.paddingStart = stopBefore cursor (fillFrom cursor fs) i := by
  induction fs generalizing cursor i with
  | nil => cases hg
  | cons f fs ih =>
    obtain ⟨hf, hfs⟩ := List.forall_mem_cons.mp h
    obtain ⟨-, hstart⟩ := Field.fill_paddingStart cursor hf
    obtain ⟨-, hcursor, -, hrest⟩ := hchain
    have hoffset := f.offset_le
    rw [fillFrom] at hg ⊢
    cases i with
    | zero =>
      cases hg
      rw [stopBefore]
      omega
    | succ i =>
      -- the cursor has not been behind the field, so it is the end of the field now
      have hnext : max cursor f.stop = f.stop := by omega
      rw [List.getElem?_cons_succ] at hg
      rw [stopBefore_cons _ _ _ (Nat.le_of_lt (List.getElem?_eq_some_iff.mp hg).1), Field.fill_stop]
      rw [Field.fill_stop] at hrest
      rw [hnext] at hg hrest ⊢
      exact ih hfs hrest hg

theorem fillFrom_covers (h : ∀ f ∈ fs, f.paddingBefore = 0) {b : Nat} (hb : cursor ≤ b)
    (hend : ∃ f ∈ fs, b < f.stop) : ∃ g ∈ fillFrom cursor fs, g.paddingStart ≤ b ∧ b < g.stop := by
  induction fs generalizing cursor with
  | nil => exact absurd hend (by simp)
  | cons f fs ih =>
    obtain ⟨hf, hfs⟩ := List.forall_mem_cons.mp h
    obtain ⟨-, hstart⟩ := Field.fill_paddingStart cursor hf
    by_cases hstop : b < f.stop
    · refine ⟨_, .head _, ?_, ?_⟩
      · omega
      · rwa [Field.fill_stop]
    · obtain ⟨g, hg, hlater⟩ := hend
      have hg : g ∈ fs := (List.mem_cons.mp hg).resolve_left fun heq => hstop (heq ▸ hlater)
      obtain ⟨x, hx, hcover⟩ := ih hfs (Nat.max_le.mpr ⟨hb, Nat.not_lt.mp hstop⟩) ⟨g, hg, hlater⟩
      exact ⟨x, .tail _ hx, hcover⟩

theorem fillFrom_stops (cursor : Nat) (fs : List Field) :
    (fillFrom cursor fs).map Field.stop = fs.map Field.stop := by
  induction fs generalizing cursor with
  | nil => rfl
  | cons f fs ih => rw [fillFrom, List.map_cons, List.map_cons, Field.fill_stop, ih]

namespace Machine

def Slot.fill (cursor : UInt64) (s : Slot) : Slot :=
  if s.paddingBefore = 0 ∧ cursor < s.offset then { s with paddingBefore := s.offset - cursor } else s

def fillFrom (cursor : UInt64) : List Slot → List Slot
  | [] => []
  | s :: ss => s.fill cursor :: fillFrom (max cursor (s.offset + s.size)) ss

theorem ofField_fill (hf : f.InWords) (hcursor : cursor < wordBound) :
    Slot.ofField (f.fill cursor) = (Slot.ofField f).fill (.ofNat cursor) := by
  simp only [Field.InWords, List.forall_mem_cons] at hf
  obtain ⟨hoffset, -, hpad, -⟩ := hf
  have hgap : (Slot.ofField f).paddingBefore = 0 ∧ UInt64.ofNat cursor < (Slot.ofField f).offset ↔
      f.paddingBefore = 0 ∧ cursor < f.offset := by
    rw [Slot.ofField, ofNat_eq_zero hpad, UInt64.lt_iff_toNat_lt, toNat_ofNat hcursor,
      toNat_ofNat hoffset]
  unfold Slot.fill Field.fill
  simp only [hgap]
  split
  · rename_i hfill
    rw [Slot.ofField, Slot.ofField, Field.withPadding, UInt64.ofNat_sub (Nat.le_of_lt hfill.2)]
  · rfl

theorem fillFrom_ofField (hfs : ∀ f ∈ fs, f.InWords ∧ f.stop < wordBound)
    (hcursor : cursor < wordBound) :
    (ByteGrid.fillFrom cursor fs).map Slot.ofField =
      fillFrom (.ofNat cursor) (fs.map Slot.ofField) := by
  induction fs generalizing cursor with
  | nil => rfl
  | cons f fs ih =>
    obtain ⟨⟨hf, hstop⟩, hfs⟩ := List.forall_mem_cons.mp hfs
    have hnext : max (UInt64.ofNat cursor) ((Slot.ofField f).offset + (Slot.ofField f).size) =
        .ofNat (max cursor f.stop) := by
      rw [Slot.ofField, ← UInt64.ofNat_add, ← Field.stop, ← UInt64.toNat_inj, UInt64.toNat_max,
        toNat_ofNat hcursor, toNat_ofNat hstop, toNat_ofNat (Nat.max_lt.mpr ⟨hcursor, hstop⟩)]
    rw [ByteGrid.fillFrom, List.map_cons, List.map_cons, fillFrom, hnext, ofField_fill hf hcursor,
      ih hfs (Nat.max_lt.mpr ⟨hcursor, hstop⟩)]

end Machine

theorem fillFrom_inWords (hfs : ∀ f ∈ fs, f.InWords) (cursor : Nat) :
    ∀ g ∈ fillFrom cursor fs, g.InWords := by
  induction fs generalizing cursor with
  | nil => exact nofun
  | cons f fs ih =>
    obtain ⟨hf, hfs⟩ := List.forall_mem_cons.mp hfs
    refine List.forall_mem_cons.mpr ⟨?_, ih hfs _⟩
    unfold Field.fill
    split
    · simp only [Field.InWords, List.forall_mem_cons] at hf ⊢
      obtain ⟨hoffset, hsize, -, hcount⟩ := hf
      exact ⟨hoffset, hsize, Nat.lt_of_le_of_lt (Nat.sub_le _ _) hoffset, hcount⟩
    · exact hf

/-- A layout that is built from fields without padding, in any order, passes its checks exactly if the
fields do as they are, and is refused for the same reason; the builder leaves no byte before the last end
out. If it passes, each padding starts at the end of the field before. On words it is the same layout,
if all ends have words. -/
theorem build_verdict (hfields : ∀ f ∈ (spelledLayout totalSize maxAlign steps).fields,
      f.paddingBefore = 0) :
    let built := builtLayout totalSize maxAlign steps
    let spelled := spelledLayout totalSize maxAlign steps
    { built with fields := built.fields.map (·.withPadding 0) } = spelled ∧
    built.validate = spelled.validate ∧
    (∀ b < built.dataEnd, ∃ g ∈ built.fields, g.paddingStart ≤ b ∧ b < g.stop) ∧
    (built.validate = .ok () → ∀ i g, built.fields[i]? = some g →
      g.paddingStart = stopBefore 0 built.fields i) ∧
    (spelled.InWords → (∀ f ∈ spelled.fields, f.stop < wordBound) →
      built.fields.map Machine.Slot.ofField =
        Machine.fillFrom 0 (spelled.fields.map Machine.Slot.ofField) ∧
      Machine.validate built = Machine.validate spelled) := by
  intro built spelled
  have hbuilt : built = { spelled with fields := fillFrom 0 spelled.fields } := builtLayout_eq
  have hvalidate : built.validate = spelled.validate := by rw [hbuilt, validate_fillFrom hfields]
  refine ⟨?_, hvalidate, fun b hb => ?_, fun hok i g hg => ?_, fun hwords hstops => ⟨?_, ?_⟩⟩
  · rw [hbuilt]
    dsimp only
    rw [fillFrom_withPadding hfields]
  · have hend : built.dataEnd = spelled.dataEnd := by
      rw [hbuilt, Layout.dataEnd, Layout.dataEnd, fillFrom_stops]
    rw [hend] at hb
    rw [hbuilt]
    apply fillFrom_covers hfields (Nat.zero_le b)
    by_contra hnone
    have hle : spelled.dataEnd ≤ b :=
      dataEnd_le.mpr fun f hf => Nat.not_lt.mp fun hlt => hnone ⟨f, hf, hlt⟩
    omega
  · rw [validate_eq_ok] at hok
    rw [hbuilt] at hok hg ⊢
    exact fillFrom_start hfields hok.2.2 hg
  · rw [hbuilt]
    exact Machine.fillFrom_ofField (fun f hf => ⟨hwords.fields f hf, hstops f hf⟩) (by decide)
  · have hbuiltWords : built.InWords := by
      rw [hbuilt]
      exact ⟨hwords.totalSize, hwords.maxAlign, hwords.packValue, fillFrom_inWords hwords.fields 0⟩
    rw [Machine.validate_eq hbuiltWords, Machine.validate_eq hwords, hvalidate]

def recordSteps : List BuildStep :=
  [.addField (.new "tag" 0 1), .setPack 4, .addField (.new "at" 4 4), .setName "Record",
    .addField (.new "end" 11 1)]

theorem build_verdict_record :
    (∀ f ∈ (spelledLayout 12 4 recordSteps).fields, f.paddingBefore = 0) ∧
    (builtLayout 12 4 recordSteps).fields.map Field.paddingBefore = [0, 3, 3] ∧
    (builtLayout 12 4 recordSteps).validate = .ok () ∧
    (spelledLayout 12 4 recordSteps).validate = .ok () ∧
    (∀ i g, (builtLayout 12 4 recordSteps).fields[i]? = some g →
      g.paddingStart = stopBefore 0 (builtLayout 12 4 recordSteps).fields i) ∧
    Machine.validate (builtLayout 12 4 recordSteps) = .ok () := by
  have hfields : ∀ f ∈ (spelledLayout 12 4 recordSteps).fields, f.paddingBefore = 0 := by decide
  have hok : (builtLayout 12 4 recordSteps).validate = .ok () := by decide
  have hwords : (spelledLayout 12 4 recordSteps).InWords := by
    refine ⟨by decide, by decide, ?_, ?_⟩
    · rintro p ⟨⟩
      decide
    · unfold Field.InWords
      decide
  have hstops : ∀ f ∈ (spelledLayout 12 4 recordSteps).fields, f.stop < wordBound := by decide
  obtain ⟨-, hverdict, -, hstart, hmachine⟩ := build_verdict hfields
  have hspelled := hverdict.symm.trans hok
  exact ⟨hfields, by decide, hok, hspelled, hstart hok,
    (hmachine hwords hstops).2.trans ((Machine.validate_eq hwords).trans hspelled)⟩

end ByteGrid
