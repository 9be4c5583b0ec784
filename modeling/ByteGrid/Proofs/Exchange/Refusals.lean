import ByteGrid.Except
import ByteGrid.Exchange
import Mathlib.Data.List.Basic

namespace ByteGrid

open ByteGrid.Text

structure NamedNumber where
  what : String
  value : Int
  isWidth : Bool
deriving Repr, DecidableEq

namespace NamedNumber

def Refused (n : NamedNumber) : Prop :=
  n.value < 0 ∨ n.isWidth = true ∧ halfWordBound ≤ n.value

instance (n : NamedNumber) : Decidable n.Refused :=
  inferInstanceAs (Decidable (_ ∨ _))

def refusal (n : NamedNumber) : NegativeValue :=
  ⟨n.what, n.value⟩

end NamedNumber

def BitDocument.number (b : BitDocument) : NamedNumber :=
  ⟨b.name ++ ".bits", b.bits, true⟩

def FieldDocument.numbers (f : FieldDocument) : List NamedNumber :=
  [⟨f.name ++ ".offset", f.offset, false⟩, ⟨f.name ++ ".size", f.size, false⟩,
   ⟨f.name ++ ".padding_before", f.paddingBefore, false⟩, ⟨f.name ++ ".count", f.count, false⟩] ++
  (f.bitFields.getD []).map BitDocument.number

def LayoutDocument.numbers (d : LayoutDocument) : List NamedNumber :=
  [⟨"total_size", d.totalSize, false⟩, ⟨"max_align", d.maxAlign, false⟩] ++
  d.packValue.toList.map (⟨"pack_value", ·, false⟩) ++ d.fields.flatMap FieldDocument.numbers

def failure? {ε α : Type} (x : Except ε α) : Option ε :=
  match x with
  | .ok _ => none
  | .error e => some e

def firstRefusal? (ns : List NamedNumber) : Option NegativeValue :=
  (ns.find? (·.Refused)).map NamedNumber.refusal

/-- The step checks these numbers, one after the other, and nothing else. -/
def Checks {α : Type} (x : Except NegativeValue α) (ns : List NamedNumber) : Prop :=
  failure? x = firstRefusal? ns

section Steps

variable {α β : Type} {x : Except NegativeValue α} {f : α → Except NegativeValue β}
variable {ns ks : List NamedNumber} {e : NegativeValue}

theorem failure?_eq_some : failure? x = some e ↔ x = .error e := by
  cases x with
  | ok a => simp [failure?]
  | error e' => simp [failure?]

theorem firstRefusal?_append (ns ks : List NamedNumber) :
    firstRefusal? (ns ++ ks) = (firstRefusal? ns).or (firstRefusal? ks) := by
  rw [firstRefusal?, List.find?_append, Option.map_or]
  rfl

theorem checks_ok (a : α) : Checks (.ok a) [] := rfl

theorem Checks.bind (hx : Checks x ns) (hf : ∀ a, Checks (f a) ks) : Checks (x >>= f) (ns ++ ks) := by
  unfold Checks at *
  rw [firstRefusal?_append, ← hx]
  cases x with
  | error e => rfl
  | ok a => exact hf a

theorem Checks.map (hx : Checks x ns) (g : α → β) : Checks (x.map g) ns := by
  unfold Checks at *
  rw [← hx]
  cases x with
  | error e => rfl
  | ok a => rfl

theorem checks_mapM {γ : Type} {step : γ → Except NegativeValue β} {numbers : γ → List NamedNumber}
    {as : List γ} (h : ∀ a ∈ as, Checks (step a) (numbers a)) :
    Checks (as.mapM step) (as.flatMap numbers) := by
  induction as with
  | nil => exact checks_ok []
  | cons a as ih =>
    rw [List.mapM_cons, List.flatMap_cons, ← List.append_nil (as.flatMap numbers)]
    have hrest := ih fun x hx => h x (.tail _ hx)
    exact (h a (.head _)).bind fun b => hrest.bind fun bs => checks_ok (b :: bs)

theorem checks_ite {p : Prop} [Decidable p] {n : NamedNumber} (h : p ↔ ¬n.Refused) (a : α) :
    Checks (if p then .ok a else .error n.refusal) [n] := by
  unfold Checks firstRefusal?
  by_cases hp : p
  · simp [hp, failure?, h.mp hp]
  · simp [hp, failure?, not_not.mp (mt h.mpr hp)]

theorem checks_natural? (what : String) (i : Int) : Checks (natural? what i) [⟨what, i, false⟩] := by
  have h : 0 ≤ i ↔ ¬NamedNumber.Refused ⟨what, i, false⟩ := by simp [NamedNumber.Refused]
  exact checks_ite h i.toNat

theorem checks_bitField? (b : BitDocument) : Checks b.bitField? [b.number] := by
  have h : 0 ≤ b.bits ∧ b.bits < halfWordBound ↔ ¬b.number.Refused := by
    simp [NamedNumber.Refused, BitDocument.number]
  exact checks_ite h (⟨b.name, b.bits.toNat⟩ : BitField)

theorem checks_packValue (pack : Option Int) :
    Checks (pack.mapM (natural? "pack_value")) (pack.toList.map (⟨"pack_value", ·, false⟩)) := by
  cases pack with
  | none => exact checks_ok none
  | some p =>
    rw [Option.mapM_some]
    exact (checks_natural? "pack_value" p).map some

theorem checks_bitFields (bs : List BitDocument) :
    Checks (bs.mapM BitDocument.bitField?) (bs.map BitDocument.number) := by
  rw [List.map_eq_flatMap]
  exact checks_mapM fun b _ => checks_bitField? b

theorem checks_field? (f : FieldDocument) : Checks f.field? f.numbers := by
  rw [FieldDocument.numbers, ← List.append_nil (List.map _ _)]
  refine (checks_natural? _ f.offset).bind fun offset => ?_
  refine (checks_natural? _ f.size).bind fun size => ?_
  refine (checks_natural? _ f.paddingBefore).bind fun padding => ?_
  refine (checks_natural? _ f.count).bind fun count => ?_
  exact (checks_bitFields _).bind fun bits => checks_ok _

theorem checks_layout? (d : LayoutDocument) : Checks d.layout? d.numbers := by
  rw [LayoutDocument.numbers, List.append_assoc, ← List.append_nil (List.flatMap _ _)]
  refine (checks_natural? _ d.totalSize).bind fun totalSize => ?_
  refine (checks_natural? _ d.maxAlign).bind fun maxAlign => ?_
  refine (checks_packValue d.packValue).bind fun pack => ?_
  exact (checks_mapM fun f _ => checks_field? f).bind fun fields => checks_ok _

theorem firstRefusal?_eq_some : firstRefusal? ns = some e ↔ ∃ before n after,
    ns = before ++ n :: after ∧ (∀ k ∈ before, ¬k.Refused) ∧ n.Refused ∧ e = n.refusal := by
  simp only [firstRefusal?, Option.map_eq_some_iff, List.find?_eq_some_iff_append,
    decide_eq_true_eq, Bool.not_eq_true', decide_eq_false_iff_not]
  constructor
  · rintro ⟨n, ⟨hn, before, after, rfl, hbefore⟩, rfl⟩
    exact ⟨before, n, after, rfl, hbefore, hn, rfl⟩
  · rintro ⟨before, n, after, rfl, hbefore, hn, rfl⟩
    exact ⟨n, ⟨hn, before, after, rfl, hbefore⟩, rfl⟩

theorem Checks.eq_error_iff (h : Checks x ns) : x = .error e ↔ ∃ before n after,
    ns = before ++ n :: after ∧ (∀ k ∈ before, ¬k.Refused) ∧ n.Refused ∧ e = n.refusal := by
  rw [← failure?_eq_some, ← firstRefusal?_eq_some, h]

theorem Checks.fails_iff (h : Checks x ns) : (∃ e, x = .error e) ↔ ∃ n ∈ ns, n.Refused := by
  simp only [← failure?_eq_some, ← Option.isSome_iff_exists]
  rw [h, firstRefusal?, Option.isSome_map, List.find?_isSome]
  simp only [decide_eq_true_eq]

end Steps

theorem NamedNumber.refused_iff {n : NamedNumber} (h : n.isWidth = true → n.value < halfWordBound) :
    n.Refused ↔ n.value < 0 := by
  refine or_iff_left fun hwide => ?_
  have := h hwide.1
  omega

theorem layout?_first_refusal (d : LayoutDocument) :
    (∀ e, d.layout? = .error e ↔ ∃ before n after, d.numbers = before ++ n :: after ∧
      (∀ k ∈ before, ¬k.Refused) ∧ n.Refused ∧ e = n.refusal) ∧
    ((∀ n ∈ d.numbers, n.isWidth = true → n.value < halfWordBound) →
      ((∃ e, d.layout? = .error e) ↔ ∃ n ∈ d.numbers, n.value < 0) ∧
      ∀ e, d.layout? = .error e ↔ ∃ before n after, d.numbers = before ++ n :: after ∧
        (∀ k ∈ before, 0 ≤ k.value) ∧ n.value < 0 ∧ e = n.refusal) := by
  have hchecks := checks_layout? d
  refine ⟨fun e => hchecks.eq_error_iff, fun hnarrow => ⟨?_, fun e => ?_⟩⟩
  · rw [hchecks.fails_iff]
    exact exists_congr fun n => and_congr_right fun hn => NamedNumber.refused_iff (hnarrow n hn)
  · rw [hchecks.eq_error_iff]
    refine exists_congr fun before => exists_congr fun n => exists_congr fun after =>
      and_congr_right fun hnumbers => ?_
    rw [hnumbers] at hnarrow
    obtain ⟨hbefore, hrest⟩ := List.forall_mem_append.mp hnarrow
    rw [NamedNumber.refused_iff (hrest n (.head _))]
    refine and_congr_left fun _ => forall₂_congr fun k hk => ?_
    rw [NamedNumber.refused_iff (hbefore k hk), Int.not_lt]

def twiceNegativeDocument : LayoutDocument :=
  { structName := none, totalSize := 8, maxAlign := 4, packValue := some 4
    fields :=
      [⟨"a", "int", 0, 4, 0, false, false, 1, some [⟨"x", 3⟩]⟩,
       ⟨"b", "int", 4, 4, 0, false, true, -1, some [⟨"y", -7⟩]⟩] }

theorem layout?_first_refusal_twice :
    (∀ n ∈ twiceNegativeDocument.numbers, n.isWidth = true → n.value < halfWordBound) ∧
    (∃ n ∈ twiceNegativeDocument.numbers, n.value < 0) ∧
    twiceNegativeDocument.layout? = .error ⟨"b.count", -1⟩ := by
  have hnarrow : ∀ n ∈ twiceNegativeDocument.numbers, n.isWidth = true → n.value < halfWordBound := by
    decide
  obtain ⟨hfails, hfirst⟩ := (layout?_first_refusal twiceNegativeDocument).2 hnarrow
  have herror : twiceNegativeDocument.layout? = .error ⟨"b.count", -1⟩ :=
    (hfirst _).mpr ⟨twiceNegativeDocument.numbers.take 11, ⟨"b.count", -1, false⟩,
      twiceNegativeDocument.numbers.drop 12, by decide, by decide, by decide, rfl⟩
  exact ⟨hnarrow, hfails.mp ⟨_, herror⟩, herror⟩

def wideDocument : LayoutDocument :=
  { structName := none, totalSize := 8, maxAlign := 4, packValue := none
    fields := [⟨"flags", "int", 0, 4, 0, false, false, 1, some [⟨"wide", halfWordBound⟩]⟩] }

theorem wide_refused :
    (∀ n ∈ wideDocument.numbers, 0 ≤ n.value) ∧
    wideDocument.layout? = .error ⟨"wide.bits", halfWordBound⟩ := by
  constructor
  · decide
  · decide

end ByteGrid
