import ByteGrid.Proofs.Ideal

/-!
Placement on machine words. Their sums and products wrap around, and the check after each operation
has to notice it. On the way to a layout it does: words have the values of the numbers that they
stand for, and a check fails where a number has no word.
-/

namespace ByteGrid

open ByteGrid.Text

namespace Machine

def effectiveAlign (natural : UInt64) (pack : Option UInt64) : UInt64 :=
  match pack with
  | some p => if 0 < p then max (min natural p) 1 else max natural 1
  | none => max natural 1

def padding (align offset : UInt64) : UInt64 :=
  (align - offset % align) % align

def sum? (a b : UInt64) : Option UInt64 :=
  if a + b < a then none else some (a + b)

def times? (a b : UInt64) : Option UInt64 :=
  if b ≠ 0 ∧ a * b / b ≠ a then none else some (a * b)

def stop? (name : String) (offset length : UInt64) : Except LayoutError UInt64 :=
  match (sum? offset length).filter (· ≤ .ofNat maxObjectSize) with
  | some stop => .ok stop
  | none => .error (.objectTooLarge name)

def size? (name : String) (isUnit : Bool) (size length : UInt64) : Except LayoutError UInt64 :=
  if isUnit then .ok size
  else
    match times? size length with
    | some size => .ok size
    | none => .error (.objectTooLarge name)

structure Extent where
  padding : UInt64
  offset : UInt64
  size : UInt64
  stop : UInt64

def Extent.toNat (e : Extent) : Placement.Extent :=
  ⟨e.padding.toNat, e.offset.toNat, e.size.toNat, e.stop.toNat⟩

def extent? (name : String) (isUnit : Bool) (pack : Option UInt64) (offset size align length : UInt64) :
    Except LayoutError Extent := do
  let padding := padding (effectiveAlign align pack) offset
  let start ← stop? name offset padding
  let size ← size? name isUnit size length
  let stop ← stop? name start size
  return { padding, offset := start, size, stop }

theorem effectiveAlign_toNat (natural : UInt64) (pack : Option UInt64) :
    (effectiveAlign natural pack).toNat =
      (Alignment.packed natural.toNat (pack.map UInt64.toNat)).bytes := by
  cases pack with
  | none => exact UInt64.toNat_max natural 1
  | some p =>
    rw [effectiveAlign, Option.map_some, Alignment.packed]
    by_cases hp : 0 < p
    · rw [if_pos hp, if_pos (show 0 < p.toNat from UInt64.lt_iff_toNat_lt.mp hp), UInt64.toNat_max, UInt64.toNat_min]
      rfl
    · rw [if_neg hp, if_neg (fun h : 0 < p.toNat => hp (UInt64.lt_iff_toNat_lt.mpr h)), UInt64.toNat_max]
      rfl

theorem padding_toNat (natural offset : UInt64) (pack : Option UInt64) :
    (padding (effectiveAlign natural pack) offset).toNat =
      (Alignment.packed natural.toNat (pack.map UInt64.toNat)).padding offset.toNat := by
  have ha := effectiveAlign_toNat natural pack
  have hpos := (Alignment.packed natural.toNat (pack.map UInt64.toNat)).pos
  have hmod := Nat.mod_lt offset.toNat hpos
  rw [Alignment.padding, padding, UInt64.toNat_mod, UInt64.toNat_sub_of_le, UInt64.toNat_mod, ha]
  rw [UInt64.le_iff_toNat_le, UInt64.toNat_mod, ha]
  exact Nat.le_of_lt hmod

theorem sum?_toNat (a b : UInt64) :
    (sum? a b).map UInt64.toNat = Placement.wordSum? a.toNat b.toNat := by
  have ha := a.toNat_lt
  have hb := b.toNat_lt
  have hw : wordBound = 2 ^ 64 := rfl
  have hcarry : a + b < a ↔ (a.toNat + b.toNat) % 2 ^ 64 < a.toNat := by
    rw [UInt64.lt_iff_toNat_lt, UInt64.toNat_add]
  rw [sum?, Placement.wordSum?]
  by_cases h : a.toNat + b.toNat < wordBound
  · have hs : (a.toNat + b.toNat) % 2 ^ 64 = a.toNat + b.toNat := Nat.mod_eq_of_lt h
    rw [if_pos h, if_neg (mt hcarry.mp (by omega)), Option.map_some, UInt64.toNat_add, hs]
  · rw [if_neg h, if_pos (hcarry.mpr (by omega)), Option.map_none]

theorem times?_toNat (a b : UInt64) :
    (times? a b).map UInt64.toNat = Placement.wordTimes? a.toNat b.toNat := by
  rw [times?, Placement.wordTimes?]
  by_cases hb : b = 0
  · subst hb
    simp [wordBound]
  have hpos : 0 < b.toNat := by
    apply Nat.pos_of_ne_zero
    intro h
    exact hb (UInt64.toNat_inj.mp h)
  have hw : wordBound = 2 ^ 64 := rfl
  by_cases h : a.toNat * b.toNat < wordBound
  · have hm : (a * b).toNat = a.toNat * b.toNat := by
      rw [UInt64.toNat_mul]
      exact Nat.mod_eq_of_lt h
    have hd : a * b / b = a := by
      apply UInt64.toNat_inj.mp
      rw [UInt64.toNat_div, hm, Nat.mul_div_cancel _ hpos]
    rw [if_pos h, if_neg (fun hn => hn.2 hd), Option.map_some, hm]
  · -- the wrapped product is too small to have `a` as its quotient
    have hd : a * b / b ≠ a := by
      intro hd
      have hq := congrArg UInt64.toNat hd
      have hm := Nat.div_mul_le_self (a * b).toNat b.toNat
      have hlt := (a * b).toNat_lt
      rw [UInt64.toNat_div] at hq
      rw [hq] at hm
      omega
    rw [if_neg h, if_pos ⟨hb, hd⟩, Option.map_none]

theorem stop?_toNat (name : String) (offset length : UInt64) :
    (stop? name offset length).map UInt64.toNat =
      Placement.stop? name offset.toNat length.toNat := by
  have hmax : (UInt64.ofNat maxObjectSize).toNat = maxObjectSize := by decide
  have hle : ∀ a : UInt64, a ≤ .ofNat maxObjectSize ↔ a.toNat ≤ maxObjectSize := by
    intro a
    rw [UInt64.le_iff_toNat_le, hmax]
  rw [stop?, Placement.stop?, ← sum?_toNat]
  cases sum? offset length with
  | none => rfl
  | some a => by_cases h : a.toNat ≤ maxObjectSize <;> simp [Option.filter, hle, h, Except.map]

theorem size?_toNat (m : Member) (size align length : UInt64) (hm : m.arrayLength = length.toNat) :
    (size? m.name m.bitWidth.isSome size length).map UInt64.toNat =
      Placement.size? m ⟨size.toNat, align.toNat⟩ := by
  rw [size?, Placement.size?]
  by_cases hb : m.bitWidth.isSome = true
  · rw [if_pos hb, if_pos hb]
    rfl
  · rw [if_neg hb, if_neg hb, hm, ← times?_toNat]
    cases times? size length <;> rfl

theorem extent?_toNat (m : Member) (pack : Option UInt64) (offset size align length : UInt64)
    (hm : m.arrayLength = length.toNat) :
    (extent? m.name m.bitWidth.isSome pack offset size align length).map Extent.toNat =
      Placement.extent? (pack.map UInt64.toNat) offset.toNat m ⟨size.toNat, align.toNat⟩ := by
  rw [extent?, Placement.extent?, ← padding_toNat, ← stop?_toNat,
    ← size?_toNat m size align length hm]
  cases hstart : stop? m.name offset (padding (effectiveAlign align pack) offset) with
  | error e => rfl
  | ok start =>
    cases hsize : size? m.name m.bitWidth.isSome size length with
    | error e => rfl
    | ok bytes =>
      simp only [bind, Except.bind, Except.map, ← stop?_toNat]
      cases stop? m.name start bytes <;> rfl

theorem toNat_ofNat {n : Nat} (h : n < wordBound) : (UInt64.ofNat n).toNat = n :=
  UInt64.toNat_ofNat_of_lt' h

theorem map_toNat_ofNat {pack : Option Nat} (h : ∀ k ∈ pack, k < wordBound) :
    (pack.map UInt64.ofNat).map UInt64.toNat = pack := by
  cases pack with
  | none => rfl
  | some k => rw [Option.map_some, Option.map_some, toNat_ofNat (h k rfl)]

end Machine

def Footprint.InWords (f : Footprint) : Prop :=
  f.size < wordBound ∧ f.align < wordBound

structure TypeTable.InWords (t : TypeTable) : Prop where
  entries : ∀ e ∈ t.entries, e.2.InWords
  pointer : t.pointer.InWords

/-- From a placement on, words have the values of numbers: at the next member, and at the end of the
struct. -/
def Placement.OnWords (footprint : Member → Except LayoutError Footprint) (pack : Option Nat)
    (p : Placement) : Prop :=
  (∀ m f, m.arrayLength < wordBound → footprint m = .ok f →
    (Machine.extent? m.name m.bitWidth.isSome (pack.map .ofNat) (.ofNat p.offset) (.ofNat f.size)
      (.ofNat f.align) (.ofNat m.arrayLength)).map Machine.Extent.toNat =
        extent? pack p.offset m f) ∧
  ∀ name, (Machine.stop? name (.ofNat p.offset) (Machine.padding
    (Machine.effectiveAlign (.ofNat p.maxAlign) (pack.map .ofNat)) (.ofNat p.offset))).map
      UInt64.toNat = stop? name p.offset ((Alignment.packed p.maxAlign pack).padding p.offset)

section Runs

variable {c : Catalog} {d : Declaration} {l : Layout} {m : Member} {f : Footprint}
variable {p : Placement} {pack : Option Nat} {ms : List Member} {levels : Nat}
variable {footprint : Member → Except LayoutError Footprint}

theorem memberType?_inWords (hc : c.types.InWords) (h : c.memberType? m = some (.sized f)) :
    f.InWords := by
  unfold Catalog.memberType? TypeTable.get? at h
  split at h
  · cases h
    exact hc.pointer
  · cases he : c.types.entries.find? (·.1 == m.typeName) with
    | some e =>
      simp only [he, Option.map_some, Option.some.injEq, MemberType.sized.injEq] at h
      subst h
      exact hc.entries e (List.mem_of_find?_eq_some he)
    | none =>
      simp only [he, Option.map_none] at h
      split at h
      · cases h
      · split at h
        · cases h
          exact hc.pointer
        · cases h

theorem foldlM_add_inWords (hf : ∀ m f, footprint m = .ok f → f.InWords)
    (h : ms.foldlM (Placement.add footprint pack) .start = .ok p) :
    p.offset ≤ maxObjectSize ∧ p.maxAlign < wordBound := by
  refine foldlM_ok (P := fun _ q => q.offset ≤ maxObjectSize ∧ q.maxAlign < wordBound)
    ⟨Nat.zero_le _, by decide⟩ ?_ h
  rintro - m q q' ⟨hoff, halign⟩ - hadd
  obtain ⟨-, rfl⟩ | ⟨-, f, hm, hle, rfl⟩ := Placement.add_eq_ok hadd
  · exact ⟨hoff, halign⟩
  · exact ⟨hle, Nat.max_lt.mpr ⟨halign, (hf m f hm).2⟩⟩

theorem layout_inWords (hf : ∀ m f, footprint m = .ok f → f.InWords)
    (h : d.layout footprint pack = .ok l) : Footprint.InWords ⟨l.totalSize, l.maxAlign⟩ := by
  obtain ⟨-, p, hp, hl⟩ := layout_eq_ok h
  obtain ⟨hle, rfl⟩ := Placement.finish_eq_ok hl
  exact ⟨Nat.lt_of_le_of_lt hle Placement.maxObjectSize_lt, (foldlM_add_inWords hf hp).2⟩

theorem memberFootprint_inWords (hc : c.types.InWords)
    (h : c.memberFootprint (c.layoutWithin levels none) m = .ok f) : f.InWords := by
  induction levels generalizing m f with
  | zero =>
    rw [memberFootprint_eq] at h
    split at h
    · cases h
    · cases h
      exact memberType?_inWords hc ‹_›
    · cases h
  | succ levels ih =>
    rw [memberFootprint_eq] at h
    split at h
    · cases h
    · cases h
      exact memberType?_inWords hc ‹_›
    · obtain ⟨l, hl, rfl⟩ := map_eq_ok h
      exact layout_inWords (fun m f => ih) hl

theorem onWords (hf : ∀ m f, footprint m = .ok f → f.InWords) (hpack : ∀ k ∈ pack, k < wordBound)
    (h : ms.foldlM (Placement.add footprint pack) .start = .ok p) : p.OnWords footprint pack := by
  obtain ⟨hoff, halign⟩ := foldlM_add_inWords hf h
  have hoff := Machine.toNat_ofNat (Nat.lt_of_le_of_lt hoff Placement.maxObjectSize_lt)
  refine ⟨fun m f hm hmf => ?_, fun name => ?_⟩
  · obtain ⟨hs, ha⟩ := hf m f hmf
    rw [Machine.extent?_toNat m _ _ _ _ _ (Machine.toNat_ofNat hm).symm,
      Machine.map_toNat_ofNat hpack, hoff, Machine.toNat_ofNat hs, Machine.toNat_ofNat ha]
  · rw [Machine.stop?_toNat, Machine.padding_toNat, Machine.map_toNat_ofNat hpack, hoff,
      Machine.toNat_ofNat halign]

end Runs

end ByteGrid
