import ByteGrid.Proofs.Exchange.Layouts

namespace ByteGrid

open ByteGrid.Text

def FieldDocument.tidy (f : FieldDocument) : FieldDocument :=
  { f with bitFields := f.bitFields.filter (!·.isEmpty) }

def LayoutDocument.tidy (d : LayoutDocument) : LayoutDocument :=
  { d with fields := d.fields.map FieldDocument.tidy }

variable {what : String} {n : Nat} {i : Int} {f : FieldDocument} {d : LayoutDocument} {g : Field}
variable {l : Layout}

theorem natural?_eq_ok_iff : natural? what i = .ok n ↔ i = n := by
  unfold natural?
  by_cases h : 0 ≤ i
  · rw [if_pos h, Except.ok.injEq]
    omega
  · rw [if_neg h]
    constructor
    · intro hn
      cases hn
    · intro hn
      omega

theorem natural?_word (hi : SignedWord i) (h : natural? what i = .ok n) :
    n < signBound ∧ signedWord n = i := by
  have hn := natural?_eq_ok_iff.mp h
  have hlt : n < signBound := by
    have hhigh := hi.2
    omega
  exact ⟨hlt, (signedWord_of_lt hlt).trans hn.symm⟩

theorem packValue_word {pack : Option Int} {pack' : Option Nat} (hp : ∀ p ∈ pack, SignedWord p)
    (h : pack.mapM (natural? what) = .ok pack') :
    (∀ p ∈ pack', p < signBound) ∧ pack'.map signedWord = pack := by
  cases pack with
  | none =>
    cases h
    exact ⟨nofun, rfl⟩
  | some p =>
    rw [Option.mapM_some] at h
    obtain ⟨n, hn, rfl⟩ := map_eq_ok h
    obtain ⟨hlt, heq⟩ := natural?_word (hp p rfl) hn
    constructor
    · rintro k ⟨⟩
      exact hlt
    · rw [Option.map_some, heq]

theorem bitField?_eq_ok {b : BitDocument} {x : BitField} (h : b.bitField? = .ok x) :
    x.bits < halfWordBound ∧ BitDocument.ofBitField x = b := by
  unfold BitDocument.bitField? at h
  split at h
  · cases h
    obtain ⟨name, bits⟩ := b
    simp only [BitDocument.ofBitField, BitDocument.mk.injEq, true_and]
    simp only at *
    omega
  · cases h

theorem map_of_mapM {α β γ ε : Type} {f : α → Except ε β} {u : β → γ} {v : α → γ} {as : List α}
    {bs : List β} (h : as.mapM f = .ok bs) (huv : ∀ a ∈ as, ∀ b, f a = .ok b → u b = v a) :
    bs.map u = as.map v := by
  induction as generalizing bs with
  | nil =>
    cases h
    rfl
  | cons a as ih =>
    rw [List.mapM_cons] at h
    obtain ⟨b, hb, h⟩ := bind_eq_ok h
    obtain ⟨bs', hbs, h⟩ := bind_eq_ok h
    cases h
    rw [List.map_cons, List.map_cons, huv a (.head _) b hb]
    rw [ih hbs fun x hx => huv x (.tail _ hx)]

theorem exists_of_mapM {α β ε : Type} {f : α → Except ε β} {as : List α} {bs : List β} {b : β}
    (h : as.mapM f = .ok bs) (hb : b ∈ bs) : ∃ a ∈ as, f a = .ok b := by
  obtain ⟨k, hk, rfl⟩ := List.getElem_of_mem hb
  have hall := mapM_forall₂ h
  have hk' : k < as.length := hall.length_eq ▸ hk
  exact ⟨as[k], List.getElem_mem hk', List.Forall₂.get hall hk' hk⟩

theorem bitFields_ofBitFields {bs : List BitDocument} {xs : List BitField}
    (h : bs.mapM BitDocument.bitField? = .ok xs) :
    (∀ x ∈ xs, x.bits < halfWordBound) ∧ xs.map BitDocument.ofBitField = bs := by
  constructor
  · intro x hx
    obtain ⟨b, -, hb⟩ := exists_of_mapM h hx
    exact (bitField?_eq_ok hb).1
  · have hmap := map_of_mapM (v := id) h fun b _ x hx => (bitField?_eq_ok hx).2
    rwa [List.map_id] at hmap

theorem bitFields_tidy {bits : Option (List BitDocument)} {xs : List BitField}
    (h : (bits.getD []).mapM BitDocument.bitField? = .ok xs) :
    (if xs.isEmpty then none else some (xs.map BitDocument.ofBitField)) =
      bits.filter (!·.isEmpty) := by
  have hmap := (bitFields_ofBitFields h).2
  cases bits with
  | none =>
    cases h
    rfl
  | some bs =>
    rw [Option.getD_some] at hmap
    cases bs with
    | nil =>
      cases h
      rfl
    | cons b bs =>
      cases xs with
      | nil => cases hmap
      | cons x xs => exact congrArg some hmap

theorem field?_eq_ok (hw : f.InWords) (h : f.field? = .ok g) :
    g.Regular ∧ g.Portable ∧ FieldDocument.ofField g = f.tidy := by
  obtain ⟨ho, hs, hp, hc, hb, hkind, hname, htype, hpointer, harray⟩ := field?_reads h
  obtain ⟨hoffset, ho⟩ := natural?_word hw.offset ho
  obtain ⟨hsize, hs⟩ := natural?_word hw.size hs
  obtain ⟨hpadding, hp⟩ := natural?_word hw.paddingBefore hp
  obtain ⟨hcount, hc⟩ := natural?_word hw.count hc
  refine ⟨⟨hkind, (bitFields_ofBitFields hb).1⟩, ⟨hoffset, hsize, hpadding, hcount⟩, ?_⟩
  simp only [FieldDocument.ofField, FieldDocument.tidy, ← bitFields_tidy hb, hname, htype, hpointer,
    harray, ho, hs, hp, hc]

theorem layout?_eq_ok (hw : d.InWords) (h : d.layout? = .ok l) :
    (∀ g ∈ l.fields, g.Regular) ∧ l.Portable ∧ LayoutDocument.ofLayout l = d.tidy := by
  obtain ⟨ht, ha, hp, hf, hname⟩ := layout?_reads h
  obtain ⟨htotal, ht⟩ := natural?_word hw.totalSize ht
  obtain ⟨halign, ha⟩ := natural?_word hw.maxAlign ha
  obtain ⟨hpack, hp⟩ := packValue_word hw.packValue hp
  have hfield : ∀ g ∈ l.fields, g.Regular ∧ g.Portable := by
    intro g hg
    obtain ⟨f, hmem, hfg⟩ := exists_of_mapM hf hg
    obtain ⟨hregular, hportable, -⟩ := field?_eq_ok (hw.fields f hmem) hfg
    exact ⟨hregular, hportable⟩
  have hfields : l.fields.map FieldDocument.ofField = d.fields.map FieldDocument.tidy :=
    map_of_mapM hf fun f hmem g hfg => (field?_eq_ok (hw.fields f hmem) hfg).2.2
  refine ⟨fun g hg => (hfield g hg).1, ⟨htotal, halign, hpack, fun g hg => (hfield g hg).2⟩, ?_⟩
  simp only [LayoutDocument.ofLayout, LayoutDocument.tidy, hname, ht, ha, hp, hfields]

theorem layout?_exchange (hw : d.InWords) (h : d.layout? = .ok l) :
    LayoutDocument.ofLayout l = d.tidy ∧ d.tidy.layout? = .ok l ∧
      ∀ g ∈ l.fields, g.kind = .classify g.typeName g.isPointer g.isArray := by
  obtain ⟨hregular, hportable, htidy⟩ := layout?_eq_ok hw h
  refine ⟨htidy, ?_, fun g hg => (hregular g hg).kind⟩
  rw [← htidy]
  exact layout?_ofLayout hregular hportable

/-- A pointer that is marked as an array of one, with an empty list of bit-fields, before a storage
unit whose padding its offset does not explain. -/
def mixedDocument : LayoutDocument :=
  { structName := none, totalSize := 12, maxAlign := 4, packValue := some 2
    fields :=
      [⟨"p", "function_ptr", 0, 4, 3, true, true, 1, some []⟩,
       ⟨"a, b", "int", 4, 4, 0, false, false, 0, some [⟨"a", 0⟩, ⟨"b", 40⟩]⟩] }

def mixedLayout : Layout :=
  { name := none, totalSize := 12, maxAlign := 4, packValue := some 2
    fields :=
      [⟨"p", "function_ptr", .functionPointer, 0, 4, 3, true, true, 1, []⟩,
       ⟨"a, b", "int", .scalar, 4, 4, 0, false, false, 0, [⟨"a", 0⟩, ⟨"b", 40⟩]⟩] }

theorem layout?_exchange_mixed : mixedDocument.layout? = .ok mixedLayout ∧
    LayoutDocument.ofLayout mixedLayout = mixedDocument.tidy ∧
    mixedDocument.tidy.layout? = .ok mixedLayout ∧ mixedDocument.tidy ≠ mixedDocument := by
  have hw : mixedDocument.InWords := by
    refine ⟨by decide, by decide, ?_, ?_⟩
    · rintro p ⟨⟩
      decide
    · simp only [mixedDocument, List.forall_mem_cons]
      refine ⟨⟨by decide, by decide, by decide, by decide, ?_⟩,
        ⟨by decide, by decide, by decide, by decide, ?_⟩, nofun⟩
      · rintro bs ⟨⟩
        nofun
      · rintro bs ⟨⟩
        decide
  have hl : mixedDocument.layout? = .ok mixedLayout := by decide
  obtain ⟨hdocument, hagain, -⟩ := layout?_exchange hw hl
  exact ⟨hl, hdocument, hagain, by decide⟩

end ByteGrid
