import ByteGrid.Except
import ByteGrid.Proofs.Exchange.Json
import Mathlib.Data.List.Forall2

/-!
Layouts as documents. A layout comes out of its document as it was exactly if all its numbers are
below the bound of signed machine words; a number above it turns negative and is refused.
-/

namespace ByteGrid

open ByteGrid.Text

/-- A field as it is put together: its kind follows from its type and its flags, and the widths of
its bit-fields are half a machine word. -/
structure Field.Regular (g : Field) : Prop where
  kind : g.kind = .classify g.typeName g.isPointer g.isArray
  bits : ∀ b ∈ g.bitFields, b.bits < halfWordBound

structure Field.Portable (g : Field) : Prop where
  offset : g.offset < signBound
  size : g.size < signBound
  paddingBefore : g.paddingBefore < signBound
  count : g.count < signBound

structure Layout.Portable (l : Layout) : Prop where
  totalSize : l.totalSize < signBound
  maxAlign : l.maxAlign < signBound
  packValue : ∀ p ∈ l.packValue, p < signBound
  fields : ∀ g ∈ l.fields, g.Portable

def Field.InWords (g : Field) : Prop :=
  ∀ n ∈ [g.offset, g.size, g.paddingBefore, g.count], n < wordBound

structure Layout.InWords (l : Layout) : Prop where
  totalSize : l.totalSize < wordBound
  maxAlign : l.maxAlign < wordBound
  packValue : ∀ p ∈ l.packValue, p < wordBound
  fields : ∀ g ∈ l.fields, g.InWords

variable {what : String} {n : Nat} {g : Field} {l : Layout}

theorem signedWord_inWords (n : Nat) : SignedWord (signedWord n) := by
  have hw : (wordBound : Int) = 2 * signBound := by decide
  have hlow := Int.le_bmod (x := (n : Int)) (m := wordBound) (by decide)
  have hhigh := Int.bmod_lt (x := (n : Int)) (m := wordBound) (by decide)
  unfold SignedWord signedWord
  omega

theorem signedWord_of_lt (h : n < signBound) : signedWord n = n := by
  have hw : (wordBound : Int) = 2 * signBound := by decide
  apply Int.bmod_eq_of_le_mul_two <;> omega

theorem signedWord_neg (h : signBound ≤ n) (hn : n < wordBound) : signedWord n < 0 := by
  have hw : (wordBound : Int) = 2 * signBound := by decide
  have hmod : (n : Int) % wordBound = n := Int.emod_eq_of_lt (by omega) (by omega)
  rw [signedWord, Int.bmod_def, hmod, if_neg (by omega)]
  omega

theorem natural?_signedWord (what : String) (h : n < signBound) :
    natural? what (signedWord n) = .ok n := by
  rw [signedWord_of_lt h, natural?, if_pos (Int.natCast_nonneg n)]
  rfl

theorem lt_of_natural? {k : Nat} (h : natural? what (signedWord n) = .ok k)
    (hn : k = n ∨ n < wordBound) : n < signBound := by
  have hword := signedWord_inWords n
  unfold natural? at h
  split at h
  · rename_i hpos
    rw [Except.ok.injEq] at h
    unfold SignedWord at hword
    rcases hn with rfl | hn
    · omega
    · by_contra hge
      have := signedWord_neg (Nat.not_lt.mp hge) hn
      omega
  · cases h

@[simp] theorem ofField_offset (g : Field) :
    (FieldDocument.ofField g).offset = signedWord g.offset := by
  rw [FieldDocument.ofField]

@[simp] theorem ofField_size (g : Field) : (FieldDocument.ofField g).size = signedWord g.size := by
  rw [FieldDocument.ofField]

@[simp] theorem ofField_paddingBefore (g : Field) :
    (FieldDocument.ofField g).paddingBefore = signedWord g.paddingBefore := by
  rw [FieldDocument.ofField]

@[simp] theorem ofField_count (g : Field) :
    (FieldDocument.ofField g).count = signedWord g.count := by
  rw [FieldDocument.ofField]

theorem bitField?_ofBitField {b : BitField} (h : b.bits < halfWordBound) :
    (BitDocument.ofBitField b).bitField? = .ok b := by
  have hbits : (BitDocument.ofBitField b).bits = b.bits := rfl
  rw [BitDocument.bitField?, if_pos (by omega)]
  rfl

theorem bitFields_ofField (h : g.Regular) :
    ((FieldDocument.ofField g).bitFields.getD []).mapM BitDocument.bitField? = .ok g.bitFields := by
  have hbits := Json.mapM_map fun b hb => bitField?_ofBitField (h.bits b hb)
  cases hb : g.bitFields with
  | nil =>
    rw [FieldDocument.ofField, hb]
    rfl
  | cons b bs =>
    rw [hb] at hbits
    rw [FieldDocument.ofField, hb]
    exact hbits

theorem field?_ofField (h : g.Regular) (hp : g.Portable) :
    (FieldDocument.ofField g).field? = .ok g := by
  unfold FieldDocument.field?
  rw [bitFields_ofField h, ofField_offset, ofField_size, ofField_paddingBefore, ofField_count,
    natural?_signedWord _ hp.offset, natural?_signedWord _ hp.size,
    natural?_signedWord _ hp.paddingBefore, natural?_signedWord _ hp.count]
  obtain ⟨hkind, -⟩ := h
  cases g
  simp only at hkind
  subst hkind
  rfl

theorem field?_reads {f : FieldDocument} (h : f.field? = .ok g) :
    natural? (f.name ++ ".offset") f.offset = .ok g.offset ∧
    natural? (f.name ++ ".size") f.size = .ok g.size ∧
    natural? (f.name ++ ".padding_before") f.paddingBefore = .ok g.paddingBefore ∧
    natural? (f.name ++ ".count") f.count = .ok g.count ∧
    (f.bitFields.getD []).mapM BitDocument.bitField? = .ok g.bitFields ∧
    g.kind = .classify g.typeName g.isPointer g.isArray ∧
    g.name = f.name ∧ g.typeName = f.typeName ∧ g.isPointer = f.isPointer ∧
    g.isArray = f.isArray := by
  unfold FieldDocument.field? at h
  obtain ⟨offset, ho, h⟩ := bind_eq_ok h
  obtain ⟨size, hs, h⟩ := bind_eq_ok h
  obtain ⟨padding, hp, h⟩ := bind_eq_ok h
  obtain ⟨count, hc, h⟩ := bind_eq_ok h
  obtain ⟨bits, hb, h⟩ := bind_eq_ok h
  cases h
  exact ⟨ho, hs, hp, hc, hb, rfl, rfl, rfl, rfl, rfl⟩

theorem portable_of_field? {g' : Field} (h : (FieldDocument.ofField g).field? = .ok g')
    (hg : g' = g ∨ g.InWords) : g.Portable := by
  obtain ⟨ho, hs, hp, hc, -⟩ := field?_reads h
  rw [ofField_offset] at ho
  rw [ofField_size] at hs
  rw [ofField_paddingBefore] at hp
  rw [ofField_count] at hc
  simp only [Field.InWords, List.forall_mem_cons] at hg
  refine ⟨lt_of_natural? ho (hg.imp ?_ ?_), lt_of_natural? hs (hg.imp ?_ ?_),
    lt_of_natural? hp (hg.imp ?_ ?_), lt_of_natural? hc (hg.imp ?_ ?_)⟩
  · exact fun h => congrArg Field.offset h
  · exact fun h => h.1
  · exact fun h => congrArg Field.size h
  · exact fun h => h.2.1
  · exact fun h => congrArg Field.paddingBefore h
  · exact fun h => h.2.2.1
  · exact fun h => congrArg Field.count h
  · exact fun h => h.2.2.2.1

@[simp] theorem ofLayout_totalSize (l : Layout) :
    (LayoutDocument.ofLayout l).totalSize = signedWord l.totalSize := by
  rw [LayoutDocument.ofLayout]

@[simp] theorem ofLayout_maxAlign (l : Layout) :
    (LayoutDocument.ofLayout l).maxAlign = signedWord l.maxAlign := by
  rw [LayoutDocument.ofLayout]

@[simp] theorem ofLayout_packValue (l : Layout) :
    (LayoutDocument.ofLayout l).packValue = l.packValue.map signedWord := by
  rw [LayoutDocument.ofLayout]

theorem packValue_mapM {pack : Option Nat} (h : ∀ p ∈ pack, p < signBound) :
    (pack.map signedWord).mapM (natural? what) = .ok pack := by
  cases pack with
  | none => rfl
  | some p =>
    rw [Option.map_some, Option.mapM_some, natural?_signedWord what (h p rfl)]
    rfl

theorem packValue_lt {pack pack' : Option Nat}
    (h : (pack.map signedWord).mapM (natural? what) = .ok pack')
    (hp : pack' = pack ∨ ∀ p ∈ pack, p < wordBound) : ∀ p ∈ pack, p < signBound := by
  rintro p rfl
  rw [Option.map_some, Option.mapM_some] at h
  obtain ⟨k, hk, rfl⟩ := map_eq_ok h
  apply lt_of_natural? hk
  rcases hp with hp | hp
  · exact .inl (Option.some.inj hp)
  · exact .inr (hp p rfl)

theorem mapM_forall₂ {f : α → Except ε β} {as : List α} {bs : List β} (h : as.mapM f = .ok bs) :
    List.Forall₂ (fun a b => f a = .ok b) as bs := by
  induction as generalizing bs with
  | nil =>
    cases h
    exact .nil
  | cons a as ih =>
    rw [List.mapM_cons] at h
    obtain ⟨b, hb, h⟩ := bind_eq_ok h
    obtain ⟨bs', hbs, h⟩ := bind_eq_ok h
    cases h
    exact .cons hb (ih hbs)

theorem fields_portable {gs gs' : List Field}
    (h : (gs.map FieldDocument.ofField).mapM FieldDocument.field? = .ok gs')
    (hg : gs' = gs ∨ ∀ g ∈ gs, g.InWords) : ∀ g ∈ gs, g.Portable := by
  have hall := List.forall₂_map_left_iff.mp (mapM_forall₂ h)
  intro g hmem
  rcases hg with rfl | hg
  · exact portable_of_field? (List.forall₂_same.mp hall g hmem) (.inl rfl)
  · obtain ⟨i, hi, rfl⟩ := List.getElem_of_mem hmem
    have hget := List.Forall₂.get hall hi (hall.length_eq ▸ hi)
    exact portable_of_field? hget (.inr (hg _ hmem))

theorem layout?_ofLayout (h : ∀ g ∈ l.fields, g.Regular) (hp : l.Portable) :
    (LayoutDocument.ofLayout l).layout? = .ok l := by
  have hfields : (LayoutDocument.ofLayout l).fields.mapM FieldDocument.field? = .ok l.fields :=
    Json.mapM_map fun g hg => field?_ofField (h g hg) (hp.fields g hg)
  unfold LayoutDocument.layout?
  rw [ofLayout_totalSize, ofLayout_maxAlign, ofLayout_packValue, hfields,
    natural?_signedWord _ hp.totalSize, natural?_signedWord _ hp.maxAlign,
    packValue_mapM hp.packValue]
  rfl

theorem layout?_reads {d : LayoutDocument} (h : d.layout? = .ok l) :
    natural? "total_size" d.totalSize = .ok l.totalSize ∧
    natural? "max_align" d.maxAlign = .ok l.maxAlign ∧
    d.packValue.mapM (natural? "pack_value") = .ok l.packValue ∧
    d.fields.mapM FieldDocument.field? = .ok l.fields ∧ l.name = d.structName := by
  unfold LayoutDocument.layout? at h
  obtain ⟨totalSize, ht, h⟩ := bind_eq_ok h
  obtain ⟨maxAlign, ha, h⟩ := bind_eq_ok h
  obtain ⟨packValue, hp, h⟩ := bind_eq_ok h
  obtain ⟨fields, hf, h⟩ := bind_eq_ok h
  cases h
  exact ⟨ht, ha, hp, hf, rfl⟩

theorem portable_of_layout? {l' : Layout} (h : (LayoutDocument.ofLayout l).layout? = .ok l')
    (hl : l' = l ∨ l.InWords) : l.Portable := by
  obtain ⟨ht, ha, hp, hf, -⟩ := layout?_reads h
  rw [ofLayout_totalSize] at ht
  rw [ofLayout_maxAlign] at ha
  rw [ofLayout_packValue] at hp
  refine ⟨lt_of_natural? ht (hl.imp ?_ ?_), lt_of_natural? ha (hl.imp ?_ ?_),
    packValue_lt hp (hl.imp ?_ ?_), fields_portable hf (hl.imp ?_ ?_)⟩
  · exact fun h => congrArg Layout.totalSize h
  · exact fun h => h.totalSize
  · exact fun h => congrArg Layout.maxAlign h
  · exact fun h => h.maxAlign
  · exact fun h => congrArg Layout.packValue h
  · exact fun h => h.packValue
  · exact fun h => congrArg Layout.fields h
  · exact fun h => h.fields

theorem layout?_ofLayout_iff (h : ∀ g ∈ l.fields, g.Regular) :
    (LayoutDocument.ofLayout l).layout? = .ok l ↔ l.Portable :=
  ⟨fun hl => portable_of_layout? hl (.inl rfl), layout?_ofLayout h⟩

theorem layout?_refused (hl : l.InWords) (h : ¬l.Portable) :
    ∃ e, (LayoutDocument.ofLayout l).layout? = .error e := by
  cases hd : (LayoutDocument.ofLayout l).layout? with
  | error e => exact ⟨e, rfl⟩
  | ok l' => exact absurd (portable_of_layout? hd (.inr hl)) h

theorem ofLayout_inWords (h : ∀ g ∈ l.fields, g.Regular) :
    (LayoutDocument.ofLayout l).InWords := by
  have hfield : ∀ g : Field, g.Regular → (FieldDocument.ofField g).InWords := by
    intro g hg
    refine ⟨?_, ?_, ?_, ?_, ?_⟩
    · rw [ofField_offset]
      exact signedWord_inWords _
    · rw [ofField_size]
      exact signedWord_inWords _
    · rw [ofField_paddingBefore]
      exact signedWord_inWords _
    · rw [ofField_count]
      exact signedWord_inWords _
    · intro bs hbs b hb
      rw [FieldDocument.ofField] at hbs
      simp only at hbs
      split at hbs
      · cases hbs
      · cases hbs
        obtain ⟨a, ha, rfl⟩ := List.mem_map.mp hb
        have hlt := hg.bits a ha
        have hhalf : halfWordBound < signBound := by decide
        simp only [SignedWord, BitDocument.ofBitField]
        omega
  refine ⟨?_, ?_, ?_, ?_⟩
  · rw [ofLayout_totalSize]
    exact signedWord_inWords _
  · rw [ofLayout_maxAlign]
    exact signedWord_inWords _
  · intro p hp
    rw [ofLayout_packValue] at hp
    obtain ⟨k, -, rfl⟩ := Option.map_eq_some_iff.mp hp
    exact signedWord_inWords k
  · intro f hf
    obtain ⟨g, hg, rfl⟩ := List.mem_map.mp hf
    exact hfield g (h g hg)

theorem read_ofLayout (h : ∀ g ∈ l.fields, g.Regular) :
    LayoutDocument.read ((LayoutDocument.ofLayout l).pretty ++ "\n") = .ok (.ofLayout l) :=
  LayoutDocument.read_pretty (ofLayout_inWords h)

end ByteGrid
