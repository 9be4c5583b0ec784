import ByteGrid.Proofs.Machine
import ByteGrid.Proofs.Units

/-!
Layouts are exact. A declaration whose types resolve is laid out as if numbers had no bound, unless an
end lies past the largest object; then the first such end says what is too large. Nothing on the way
depends on words that have wrapped around.
-/

namespace ByteGrid

open ByteGrid.Text Placement

variable {c : Catalog} {d : Declaration}

theorem layout_checked (h : c.resolves (Catalog.maxNestingDepth + 1) d = true) (pack : Option Nat) :
    c.layout d pack =
      checked (c.ideal unitCapacity d pack).stops (c.ideal unitCapacity d pack).layout :=
  layoutWithin_checked h

theorem checked_eq_ok {stops : Stops} (h : ∀ e ∈ stops, e.2 ≤ maxObjectSize) (a : α) :
    checked stops a = .ok a := by
  have hnone : stops.find? (maxObjectSize < ·.2) = none := by
    rw [List.find?_eq_none]
    intro e he
    simpa using h e he
  rw [checked, hnone]

theorem checked_eq_error {stops : Stops} {e : String × Nat}
    (h : stops.find? (maxObjectSize < ·.2) = some e) (a : α) :
    checked stops a = .error (.objectTooLarge e.1) := by
  rw [checked, h]

theorem layout_exact (h : c.resolves (Catalog.maxNestingDepth + 1) d = true) (pack : Option Nat) :
    ((∀ e ∈ (c.ideal unitCapacity d pack).stops, e.2 ≤ maxObjectSize) →
      c.layout d pack = .ok (c.ideal unitCapacity d pack).layout) ∧
    (∀ e, (c.ideal unitCapacity d pack).stops.find? (maxObjectSize < ·.2) = some e →
      c.layout d pack = .error (.objectTooLarge e.1)) ∧
    ((∀ e ∈ d :: c.declarations, e.widths < wordBound) →
      c.ideal (8 * ·) d pack = c.ideal unitCapacity d pack) ∧
    (c.types.InWords → ∀ (levels : Nat) (k : Option Nat) (ms : List Member) (p : Placement),
      (∀ b ∈ k, b < wordBound) →
      ms.foldlM (Placement.add (c.memberFootprint (c.layoutWithin levels none)) k) .start = .ok p →
      p.OnWords (c.memberFootprint (c.layoutWithin levels none)) k) := by
  rw [layout_checked h]
  refine ⟨fun hall => checked_eq_ok hall _, fun e he => checked_eq_error he _,
    fun hwidths => ideal_capacity hwidths pack, ?_⟩
  intro hc levels k ms p hk hp
  exact onWords (fun _ _ => memberFootprint_inWords hc) hk hp

def blockCatalog : Catalog :=
  { types := { entries := [("char", ⟨1, 1⟩)], pointer := ⟨8, 8⟩ }
    declarations := [⟨"Block", [{ Member.new "data" "char" with arrayLength := signBound / 2 }]⟩] }

theorem layout_exact_blocks :
    blockCatalog.layout ⟨"One", [.new "a" "Block", .new "p" "char"]⟩ (some 0) =
      .ok { name := some "One", totalSize := signBound / 2 + 1, maxAlign := 1, packValue := none
            fields :=
              [{ Field.new "a" 0 (signBound / 2) with typeName := "Block" },
               { Field.new "p" (signBound / 2) 1 with typeName := "char" }] } ∧
    blockCatalog.layout ⟨"Two", [.new "a" "Block", .new "b" "Block", .new "p" "char"]⟩ none =
      .error (.objectTooLarge "b") ∧
    blockCatalog.ideal (8 * ·) ⟨"One", [.new "a" "Block", .new "p" "char"]⟩ (some 0) =
      blockCatalog.ideal unitCapacity ⟨"One", [.new "a" "Block", .new "p" "char"]⟩ (some 0) ∧
    Placement.start.OnWords (blockCatalog.memberFootprint (blockCatalog.layoutWithin 2 none)) none := by
  have hone := layout_exact (c := blockCatalog) (d := ⟨"One", [.new "a" "Block", .new "p" "char"]⟩)
    (by decide) (some 0)
  have htwo := layout_exact (c := blockCatalog)
    (d := ⟨"Two", [.new "a" "Block", .new "b" "Block", .new "p" "char"]⟩) (by decide) none
  refine ⟨(hone.1 (by decide)).trans (by decide), htwo.2.1 ("b", signBound) (by decide),
    hone.2.2.1 (by decide), ?_⟩
  refine hone.2.2.2 ⟨?_, ?_⟩ 2 none [] _ (by simp) rfl
  · simp [blockCatalog, Footprint.InWords, wordBound]
  · simp [blockCatalog, Footprint.InWords, wordBound]

end ByteGrid
