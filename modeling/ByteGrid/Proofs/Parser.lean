import ByteGrid.Declaration.Parser
import ByteGrid.Proofs.Declaration.Members
import ByteGrid.Proofs.Fields

namespace ByteGrid

open ByteGrid.Text

theorem number?_lt {bound n : Nat} {cs : List Char} (h : number? bound cs = some n) : n < bound := by
  unfold number? at h
  simp only [Option.ite_none_right_eq_some, Bool.and_eq_true, decide_eq_true_eq,
    Option.some.injEq] at h
  obtain ⟨⟨-, hlt⟩, rfl⟩ := h
  exact hlt

theorem arrayLength_lt (cs : List Char) : arrayLength cs < wordBound := by
  have hrun : ∀ (ns : List Nat) (acc : Option Nat), (∀ m ∈ acc, m < wordBound) →
      ∀ m ∈ ns.foldl (fun acc n =>
        acc.bind fun m => if m * n < wordBound then some (m * n) else none) acc, m < wordBound := by
    intro ns
    induction ns with
    | nil => exact fun acc hacc => hacc
    | cons n ns ih =>
      intro acc hacc
      rw [List.foldl_cons]
      apply ih
      intro m hm
      obtain ⟨k, -, hk⟩ := Option.bind_eq_some_iff.mp hm
      split at hk
      · cases hk
        assumption
      · cases hk
  rw [arrayLength]
  cases hp : wordProduct? (dimensions cs) with
  | none => decide
  | some m => exact hrun _ (some 1) (by simp [wordBound]) m hp

theorem bitWidth?_lt {cs : List Char} {r : List Char × Nat} (h : bitWidth? cs = some r) :
    r.2 < halfWordBound := by
  unfold bitWidth? at h
  obtain ⟨⟨before, after⟩, -, h⟩ := Option.bind_eq_some_iff.mp h
  obtain ⟨-, -, h⟩ := Option.bind_eq_some_iff.mp h
  obtain ⟨bits, hbits, h⟩ := Option.bind_eq_some_iff.mp h
  cases h
  exact number?_lt hbits

theorem declarator_bitWidth {cs : List Char} {d : Declarator} (h : Declarator.read? cs = some d) :
    ∀ b ∈ d.bitWidth, b < halfWordBound := by
  unfold Declarator.read? at h
  obtain ⟨name, -, h⟩ := Option.bind_eq_some_iff.mp h
  obtain ⟨-, -, h⟩ := Option.bind_eq_some_iff.mp h
  cases h
  intro b hb
  obtain ⟨r, hr, rfl⟩ := Option.map_eq_some_iff.mp hb
  exact bitWidth?_lt hr

theorem readDeclaration_inWords (cs : List Char) : ∀ m ∈ readDeclaration cs, m.InWords := by
  intro m hm
  obtain ⟨_, name, dims, -, rfl⟩ | ⟨_, -, d, -, -, _, -, e, he, rfl⟩ := mem_readDeclaration hm
  · exact ⟨arrayLength_lt _, by simp [functionPointerMember, Member.functionPointer, Member.new]⟩
  · exact ⟨arrayLength_lt _, declarator_bitWidth he⟩

theorem readMembers_inWords (body : List Char) : ∀ m ∈ readMembers body, m.InWords := by
  intro m hm
  obtain ⟨cs, -, hcs⟩ := List.mem_flatMap.mp hm
  exact readDeclaration_inWords cs m hcs

theorem leadingStruct?_inWords {code : List Char} {d : Declaration}
    (h : leadingStruct? code = some d) : ∀ m ∈ d.members, m.InWords := by
  obtain ⟨s, -, rfl⟩ := Option.map_eq_some_iff.mp h
  exact readMembers_inWords s.body

theorem pragmaPack?_lt {code : List Char} {pack : Nat} (h : pragmaPack? code = some pack) :
    pack < wordBound := by
  unfold pragmaPack? at h
  obtain ⟨digits, -, h⟩ := Option.bind_eq_some_iff.mp h
  obtain ⟨n, hn, h⟩ := Option.bind_eq_some_iff.mp h
  obtain ⟨-, -, h⟩ := Option.bind_eq_some_iff.mp h
  cases h
  exact number?_lt hn

end ByteGrid
