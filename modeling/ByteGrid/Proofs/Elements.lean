import ByteGrid.Proofs.Containment
import ByteGrid.Proofs.Members
import ByteGrid.Proofs.Packing

namespace ByteGrid

open Placement

structure TypeTable.Binary (t : TypeTable) : Prop where
  entries : ∀ e ∈ t.entries, e.2.align.isPowerOfTwo
  pointer : t.pointer.align.isPowerOfTwo

structure Step where
  member : Nat
  element : Nat
deriving Repr, DecidableEq

namespace Catalog

/-- Steps from a struct to one that lies in it: each goes to an element of a member whose type is a
declared struct. -/
inductive Path (c : Catalog) : Declaration → List Step → Declaration → Prop
  | here (d : Declaration) : Path c d [] d
  | into {a b z : Declaration} {s : Step} {steps : List Step} {m : Member} :
      a.members[s.member]? = some m → m.bitWidth = none → m.IsByValue →
      c.types.get? m.typeName = none → c.declaration? m.typeName = some b →
      s.element < m.arrayLength → Path c b steps z → Path c a (s :: steps) z

def start? (c : Catalog) : Declaration → List Step → Option Nat
  | _, [] => some 0
  | d, s :: steps => do
    let m ← d.members[s.member]?
    let b ← c.declaration? m.typeName
    let outer ← (c.layout d none).toOption
    let inner ← (c.layout b none).toOption
    let g ← outer.homes[s.member]?
    let rest ← c.start? b steps
    return g.offset + s.element * inner.totalSize + rest

end Catalog

variable {c : Catalog} {d b z : Declaration} {l : Layout} {m : Member} {f : Footprint} {g : Field}
variable {a n i : Nat} {pack : Option Nat} {nested : Declaration → Except LayoutError Layout}
variable {steps : List Step}

theorem isPowerOfTwo_dvd (ha : a.isPowerOfTwo) (hn : n.isPowerOfTwo) (h : a ≤ n) : a ∣ n := by
  obtain ⟨j, rfl⟩ := ha
  obtain ⟨k, rfl⟩ := hn
  exact Nat.pow_dvd_pow 2 ((Nat.pow_le_pow_iff_right (a := 2) (by decide)).mp h)

namespace Catalog

theorem memberFootprint_binary (hc : c.types.Binary)
    (hn : ∀ d l, nested d = .ok l → l.maxAlign.isPowerOfTwo)
    (h : c.memberFootprint nested m = .ok f) : f.align.isPowerOfTwo := by
  unfold memberFootprint typeFootprint at h
  split at h
  · cases h
    exact hc.pointer
  · split at h
    · rename_i g hg
      cases h
      obtain ⟨e, he, rfl⟩ := Option.map_eq_some_iff.mp hg
      exact hc.entries e (List.mem_of_find?_eq_some he)
    · split at h
      · obtain ⟨l, hl, rfl⟩ := map_eq_ok h
        exact hn _ l hl
      · split at h
        · cases h
          exact hc.pointer
        · cases h

theorem layoutWithin_binary (hc : c.types.Binary) (h : c.layoutWithin n pack d = .ok l) :
    l.maxAlign.isPowerOfTwo := by
  induction n generalizing pack d l with
  | zero => cases h
  | succ n ih =>
    obtain ⟨-, p, hp, hl⟩ := layout_eq_ok h
    obtain ⟨us, hus⟩ := foldlM_add_led (fun m m' => memberFootprint_congr) hp
    obtain ⟨-, rfl⟩ := finish_eq_ok hl
    rcases hus.maxAlign.1 with hone | ⟨u, hu, halign⟩
    · rw [hone]
      exact Nat.isPowerOfTwo_one
    · rw [halign]
      exact memberFootprint_binary hc (fun d l => ih) (hus.footprint_eq u hu)

theorem footprint?_binary (hc : c.types.Binary) (h : c.footprint? m = .ok f) :
    f.align.isPowerOfTwo :=
  memberFootprint_binary hc (fun _ _ => layoutWithin_binary hc) h

end Catalog

/-- A member has a field that is aligned as its type says, in a struct that is aligned for it. -/
structure Layout.Keeps (c : Catalog) (l : Layout) (m : Member) (f : Footprint) (g : Field) : Prop where
  liesIn : m.LiesIn g
  footprint_eq : c.footprint? m = .ok f
  dvd_offset : f.align ∣ g.offset
  dvd_maxAlign : f.align ∣ l.maxAlign
  size_eq : g.size = bytes m f
  stop_le : g.stop ≤ l.totalSize

theorem maxAlign_dvd_totalSize (hc : c.types.Binary) (h : c.layout d none = .ok l) :
    l.maxAlign ∣ l.totalSize := by
  have hpos := Nat.pos_of_isPowerOfTwo (Catalog.layoutWithin_binary hc h)
  have hdvd := (layout_totalSize h).1.1
  rwa [effectiveAlign_none hpos] at hdvd

theorem align_le_maxAlign (h : c.layout d pack = .ok l) (hm : m ∈ d.members)
    (hf : c.footprint? m = .ok f) : f.align ≤ l.maxAlign := by
  obtain ⟨p, us, hled, hl⟩ := layout_placed h
  obtain ⟨-, rfl⟩ := finish_eq_ok hl
  obtain ⟨u, hu, hfu⟩ := hled.covers m hm
  rw [hf, Except.ok.injEq] at hfu
  exact hled.maxAlign.2 (.inr ⟨u, hu, by rw [hfu]⟩)

theorem mem_fields_of_homes (h : g ∈ l.homes) : g ∈ l.fields := by
  obtain ⟨x, hx, hg⟩ := List.mem_flatMap.mp h
  obtain ⟨-, rfl⟩ := List.mem_replicate.mp hg
  exact hx

theorem layout_keeps (hc : c.types.Binary) (h : c.layout d none = .ok l)
    (hm : d.members[i]? = some m) : ∃ g f, l.homes[i]? = some g ∧ l.Keeps c m f g := by
  have hhomes := layout_homes h
  obtain ⟨hi, rfl⟩ := List.getElem?_eq_some_iff.mp hm
  have hi' : i < l.homes.length := hhomes.length_eq ▸ hi
  obtain ⟨hlies, f, hf, hdvd, hsize⟩ := List.Forall₂.get hhomes hi hi'
  have hbinary := Catalog.footprint?_binary hc hf
  rw [effectiveAlign_none (Nat.pos_of_isPowerOfTwo hbinary)] at hdvd
  have hle := align_le_maxAlign h (List.getElem_mem hi) hf
  have hmem := mem_fields_of_homes (List.getElem_mem hi')
  refine ⟨l.homes[i], f, List.getElem?_eq_getElem hi', hlies, hf, hdvd, ?_, hsize, ?_⟩
  · exact isPowerOfTwo_dvd hbinary (Catalog.layoutWithin_binary hc h) hle
  · exact dataEnd_le.mp (layout_totalSize h).1.2 _ hmem

theorem Catalog.Path.inside (hc : c.types.Binary) (hp : c.Path d steps z)
    (h : c.layout d none = .ok l) : ∃ start inner, c.start? d steps = some start ∧
      c.layout z none = .ok inner ∧ inner.maxAlign ∣ start ∧ inner.maxAlign ∣ l.maxAlign ∧
      start + inner.totalSize ≤ l.totalSize := by
  induction hp generalizing l with
  | here d => exact ⟨0, l, rfl, h, Nat.dvd_zero _, Nat.dvd_refl _, Nat.le_of_eq (Nat.zero_add _)⟩
  | @into a b z s steps m hm hbits hvalue ht hb hlt _ ih =>
    obtain ⟨g, f, hg, hkeeps⟩ := layout_keeps hc h hm
    obtain ⟨lb, hlb, rfl⟩ := nested_of_footprint hvalue ht hb hkeeps.footprint_eq
    obtain ⟨rest, inner, hstart, hinner, hdvd, hmax, hle⟩ := ih hlb
    refine ⟨g.offset + s.element * lb.totalSize + rest, inner, ?_, hinner, ?_, ?_, ?_⟩
    · simp only [Catalog.start?, hm, hb, h, hlb, hg, hstart, Except.toOption, bind, Option.bind,
        pure]
    · have hoffset := Nat.dvd_trans hmax hkeeps.dvd_offset
      have htotal := Nat.dvd_trans hmax (maxAlign_dvd_totalSize hc hlb)
      exact Nat.dvd_add (Nat.dvd_add hoffset (Nat.dvd_mul_left_of_dvd htotal _)) hdvd
    · exact Nat.dvd_trans hmax hkeeps.dvd_maxAlign
    · have hsize : g.size = lb.totalSize * m.arrayLength := by
        rw [hkeeps.size_eq, bytes, if_neg (by simp [hbits])]
      have hstop := hkeeps.stop_le
      have helement := Nat.mul_le_mul_right lb.totalSize (Nat.succ_le_of_lt hlt)
      rw [Field.stop, hsize, Nat.mul_comm] at hstop
      rw [Nat.succ_mul] at helement
      omega

theorem elements_aligned (hc : c.types.Binary) (h : c.layout d none = .ok l)
    (hp : c.Path d steps z) : ∃ start inner, c.start? d steps = some start ∧
      c.layout z none = .ok inner ∧ ∀ (i : Nat) (m : Member), z.members[i]? = some m → ∃ g f,
        inner.homes[i]? = some g ∧ m.LiesIn g ∧ c.footprint? m = .ok f ∧
        f.align ∣ start + g.offset ∧ start + g.stop ≤ l.totalSize := by
  obtain ⟨start, inner, hstart, hinner, hdvd, -, hle⟩ := hp.inside hc h
  refine ⟨start, inner, hstart, hinner, fun i m hm => ?_⟩
  obtain ⟨g, f, hg, hkeeps⟩ := layout_keeps hc hinner hm
  refine ⟨g, f, hg, hkeeps.liesIn, hkeeps.footprint_eq, ?_, ?_⟩
  · exact Nat.dvd_add (Nat.dvd_trans hkeeps.dvd_maxAlign hdvd) hkeeps.dvd_offset
  · have hstop := hkeeps.stop_le
    omega

def crateItem : Declaration :=
  ⟨"Item",
    [.new "tag" "char", { Member.new "lo" "int" with bitWidth := some 3 },
     { Member.new "hi" "int" with bitWidth := some 5 }]⟩

def crateShelf : Declaration :=
  ⟨"Shelf", [.new "count" "short", { Member.new "items" "Item" with arrayLength := 2 }]⟩

def crate : Declaration :=
  ⟨"Crate",
    [.new "id" "char", { Member.new "shelves" "Shelf" with arrayLength := 3 },
     .new "weight" "double"]⟩

def crateCatalog : Catalog :=
  { types := .standard, declarations := [crateItem, crateShelf] }

def crateLayout : Layout :=
  { name := some "Crate", totalSize := 72, maxAlign := 8, packValue := none
    fields :=
      [{ Field.new "id" 0 1 with typeName := "char" },
       { Field.new "shelves" 4 60 with
          typeName := "Shelf", paddingBefore := 3, kind := .array, isArray := true, count := 3 },
       { Field.new "weight" 64 8 with typeName := "double" }] }

theorem standard_binary : TypeTable.standard.Binary where
  entries := by decide
  pointer := by decide

/-- The bit-fields of the last item on the last shelf, which lies at byte 56. -/
theorem elements_aligned_crate :
    (crateCatalog.types.Binary ∧ crateCatalog.layout crate none = .ok crateLayout ∧
      crateCatalog.Path crate [⟨1, 2⟩, ⟨1, 1⟩] crateItem) ∧
    crateCatalog.start? crate [⟨1, 2⟩, ⟨1, 1⟩] = some 56 ∧
    ∃ inner, crateCatalog.layout crateItem none = .ok inner ∧
      ∃ (g : Field) (f : Footprint), inner.homes[2]? = some g ∧
        crateCatalog.footprint? { Member.new "hi" "int" with bitWidth := some 5 } = .ok f ∧
        f.align ∣ 56 + g.offset ∧ 56 + g.stop ≤ 72 := by
  have h : crateCatalog.layout crate none = .ok crateLayout := by decide
  have hp : crateCatalog.Path crate [⟨1, 2⟩, ⟨1, 1⟩] crateItem := by
    refine .into rfl rfl (.inr ⟨rfl, rfl⟩) rfl (b := crateShelf) (by decide) (by decide) ?_
    exact .into rfl rfl (.inr ⟨rfl, rfl⟩) rfl (by decide) (by decide) (.here _)
  have hat : crateCatalog.start? crate [⟨1, 2⟩, ⟨1, 1⟩] = some 56 := by decide
  obtain ⟨start, inner, hstart, hinner, hmembers⟩ := elements_aligned standard_binary h hp
  rw [hat, Option.some.injEq] at hstart
  subst hstart
  obtain ⟨g, f, hg, -, hf, hdvd, hle⟩ := hmembers 2 _ rfl
  exact ⟨⟨standard_binary, h, hp⟩, hat, inner, hinner, g, f, hg, hf, hdvd, hle⟩

end ByteGrid
