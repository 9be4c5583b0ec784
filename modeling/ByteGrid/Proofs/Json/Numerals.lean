import ByteGrid.Json.Number
import ByteGrid.Json.Reader

namespace ByteGrid.Json

open ByteGrid.Decimal ByteGrid.Text

def DigitFree (cs : List Char) : Prop :=
  ∀ c ∈ cs.head?, c.isDigit = false

def NumberFree (cs : List Char) : Prop :=
  ∀ c ∈ cs.head?, c.isDigit = false ∧ c ≠ '.' ∧ c ≠ 'e' ∧ c ≠ 'E'

/-- A number that can be written: its digits are digits, and it starts with a zero only if that is
all there is before the point. -/
structure Valid (n : Numeral) : Prop where
  nonempty : n.whole ≠ []
  whole : ∀ c ∈ n.whole, c.isDigit = true
  zero : n.whole.head? = some '0' → n.whole = ['0']
  fraction : ∀ c ∈ n.fraction, c.isDigit = true

variable {ds rest : List Char} {n : Numeral}

theorem digitsValue_toDigits (n : Nat) : digitsValue (Nat.toDigits 10 n) = n :=
  Nat.ofDigitChars_ten_toDigits

theorem toDigits_head (n : Nat) (h : (Nat.toDigits 10 n).head? = some '0') :
    Nat.toDigits 10 n = ['0'] := by
  induction n using Nat.strongRecOn with
  | _ n ih =>
    rw [Nat.toDigits_eq_if (by decide)] at h ⊢
    by_cases hn : n < 10
    · rw [if_pos hn, List.head?_cons, Option.some.injEq] at h
      rw [if_pos hn, h]
    · obtain ⟨d, ds, hd⟩ := List.exists_cons_of_ne_nil (@Nat.toDigits_ne_nil (n / 10) 10)
      rw [if_neg hn, hd] at h
      -- a quotient that starts with a zero is zero
      have hzero := congrArg digitsValue (ih (n / 10) (by omega) (by rw [hd]; exact h))
      rw [digitsValue_toDigits] at hzero
      change n / 10 = 0 at hzero
      omega

theorem NumberFree.digitFree (h : NumberFree rest) : DigitFree rest :=
  fun c hc => (h c hc).1

theorem readDigits_append (hne : ds ≠ []) (hds : ∀ c ∈ ds, c.isDigit = true)
    (hrest : DigitFree rest) : readDigits (ds ++ rest) = .ok (ds, rest) := by
  have htake : rest.takeWhile Char.isDigit = [] := by
    cases rest with
    | nil => rfl
    | cons c cs => rw [List.takeWhile_cons_of_neg (by simp [hrest c rfl])]
  have hdrop : rest.dropWhile Char.isDigit = rest := by
    cases rest with
    | nil => rfl
    | cons c cs => rw [List.dropWhile_cons_of_neg (by simp [hrest c rfl])]
  cases ds with
  | nil => exact absurd rfl hne
  | cons d ds =>
    have hd := hds d (.head _)
    rw [List.cons_append, readDigits, if_pos hd, ← List.cons_append,
      List.takeWhile_append_of_pos hds, List.dropWhile_append_of_pos hds, htake, hdrop,
      List.append_nil]

theorem readWhole_append (hn : Valid n) (hrest : DigitFree rest) :
    readWhole (n.whole ++ rest) = .ok (n.whole, rest) := by
  have hdigits := readDigits_append hn.nonempty hn.whole hrest
  by_cases hz : n.whole.head? = some '0'
  · rw [hn.zero hz] at hdigits ⊢
    cases rest with
    | nil => exact hdigits
    | cons c cs =>
      have hc : c.isDigit = false := hrest c rfl
      simp [readWhole, hc]
  · rw [← hdigits]
    unfold readWhole
    split
    · rename_i heq
      cases hw : n.whole with
      | nil => exact absurd hw hn.nonempty
      | cons d ds =>
        rw [hw, List.cons_append, List.cons.injEq] at heq
        rw [hw, List.head?_cons, heq.1] at hz
        exact absurd rfl hz
    · rfl

theorem readFraction_append (hn : Valid n) (hrest : DigitFree rest)
    (hpoint : ∀ c ∈ rest.head?, c ≠ '.') :
    readFraction ((if n.fraction.isEmpty then [] else '.' :: n.fraction) ++ rest) =
      .ok (n.fraction, rest) := by
  cases hf : n.fraction with
  | nil =>
    cases rest with
    | nil => rfl
    | cons c cs =>
      have hc : c ≠ '.' := hpoint c rfl
      simp only [List.isEmpty_nil, if_true, List.nil_append]
      unfold readFraction
      split
      · rename_i heq
        rw [List.cons.injEq] at heq
        exact absurd heq.1 hc
      · rfl
  | cons d ds =>
    rw [← hf, if_neg (by simp [hf])]
    exact readDigits_append (by simp [hf]) hn.fraction hrest

theorem readPower_append (hrest : NumberFree rest) (power : Option Int) :
    readPower ((match power with
      | none => []
      | some p => powerText true p) ++ rest) = .ok (power, rest) := by
  cases power with
  | none =>
    cases rest with
    | nil => rfl
    | cons c cs =>
      obtain ⟨-, -, he, hE⟩ := hrest c rfl
      simp [readPower, he, hE]
  | some p =>
    have hdigits := readDigits_append (@Nat.toDigits_ne_nil p.natAbs 10)
      (fun c hc => Nat.isDigit_of_mem_toDigits (by decide) (by decide) hc) hrest.digitFree
    by_cases hp : p < 0
    · simp only [powerText, hp, if_true, List.cons_append, List.nil_append, readPower, true_or,
        hdigits, Except.map, digitsValue_toDigits]
      congr 3
      omega
    · simp only [powerText, hp, if_true, if_false, List.cons_append, List.nil_append, readPower,
        true_or, hdigits, Except.map, digitsValue_toDigits]
      simp only [Bool.false_eq_true, if_false]
      congr 3
      omega

def tail (n : Numeral) : List Char :=
  (if n.fraction.isEmpty then [] else '.' :: n.fraction) ++
    match n.power with
    | none => []
    | some p => powerText true p

theorem write_eq (n : Numeral) :
    n.write true = (if n.negative then ['-'] else []) ++ (n.whole ++ tail n) := by
  cases n with
  | mk negative whole fraction power => cases power <;> simp [Numeral.write, tail]

theorem readNumber_append (hn : Valid n) (hrest : NumberFree rest) :
    readNumber n.negative (n.whole ++ (tail n ++ rest)) = .ok (.number n, rest) := by
  have hpower := readPower_append hrest n.power
  have hhead : ∀ c ∈ ((match n.power with
      | none => []
      | some p => powerText true p) ++ rest).head?, c.isDigit = false ∧ c ≠ '.' := by
    cases n.power with
    | none => exact fun c hc => ⟨(hrest c hc).1, (hrest c hc).2.1⟩
    | some p => simp [powerText]
  have hfraction := readFraction_append hn (fun c hc => (hhead c hc).1) (fun c hc => (hhead c hc).2)
  have hwhole : DigitFree (tail n ++ rest) := by
    rw [tail, List.append_assoc]
    cases hf : n.fraction.isEmpty with
    | true => exact fun c hc => (hhead c hc).1
    | false => simp [DigitFree]
  unfold readNumber
  rw [readWhole_append hn hwhole, tail, List.append_assoc]
  simp only [bind, Except.bind, hfraction, hpower]
  rfl

theorem valid_ofInt (i : Int) : Valid (.ofInt i) where
  nonempty := Nat.toDigits_ne_nil
  whole _ hc := Nat.isDigit_of_mem_toDigits (by decide) (by decide) hc
  zero := toDigits_head _
  fraction := by simp [Numeral.ofInt]

theorem intOfNumeral?_ofInt (i : Int) : intOfNumeral? (.ofInt i) = some i := by
  have hvalue : digitsValue (Numeral.ofInt i).whole = i.natAbs := digitsValue_toDigits i.natAbs
  have hzero : ¬((Numeral.ofInt i).negative = true ∧ digitsValue (Numeral.ofInt i).whole = 0) := by
    rintro ⟨hneg, hzero⟩
    have hi : i < 0 := of_decide_eq_true hneg
    rw [hvalue] at hzero
    omega
  rw [intOfNumeral?, if_pos ⟨rfl, rfl, hzero⟩, hvalue]
  dsimp only
  by_cases hi : i < 0
  · have hneg : (Numeral.ofInt i).negative = true := decide_eq_true hi
    rw [if_pos hneg, Int.ofNat_natAbs_of_nonpos (by omega), Int.neg_neg]
  · have hneg : ¬(Numeral.ofInt i).negative = true := fun h => hi (of_decide_eq_true h)
    rw [if_neg hneg, Int.natAbs_of_nonneg (by omega)]

end ByteGrid.Json
