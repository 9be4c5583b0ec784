import ByteGrid.Exchange.Json
import ByteGrid.Proofs.Json.Records

namespace ByteGrid

open ByteGrid.Json ByteGrid.Text

def SignedWord (i : Int) : Prop :=
  -signBound ≤ i ∧ i < signBound

instance (i : Int) : Decidable (SignedWord i) :=
  inferInstanceAs (Decidable (_ ∧ _))

structure FieldDocument.InWords (f : FieldDocument) : Prop where
  offset : SignedWord f.offset
  size : SignedWord f.size
  paddingBefore : SignedWord f.paddingBefore
  count : SignedWord f.count
  bits : ∀ bs ∈ f.bitFields, ∀ b ∈ bs, SignedWord b.bits

structure LayoutDocument.InWords (d : LayoutDocument) : Prop where
  totalSize : SignedWord d.totalSize
  maxAlign : SignedWord d.maxAlign
  packValue : ∀ p ∈ d.packValue, SignedWord p
  fields : ∀ f ∈ d.fields, f.InWords

theorem SignedWord.int? {i : Int} (h : SignedWord i) : (Value.int i).int? = .ok i :=
  int?_int h.1 h.2

theorem BitDocument.ofJson?_toJson {b : BitDocument} (h : SignedWord b.bits) :
    ofJson? b.toJson = .ok b := by
  have hname : (Value.text b.name).text? = .ok b.name := rfl
  rw [ofJson?, toJson, record?_record]
  simp [Record.required, Record.find?, bind, Except.bind, hname, h.int?]
  rfl

theorem FieldDocument.ofJson?_toJson {f : FieldDocument} (h : f.InWords) :
    ofJson? f.toJson = .ok f := by
  have htext : ∀ s, (Value.text s).text? = .ok s := fun s => rfl
  have hbool : ∀ b, (Value.bool b).bool? = .ok b := fun b => rfl
  have hbits : Value.option? (Value.list? BitDocument.ofJson?)
      (.option (.list BitDocument.toJson) f.bitFields) = .ok f.bitFields := by
    apply option?_option
    intro bs hbs
    refine ⟨nofun, list?_list fun b hb => BitDocument.ofJson?_toJson (h.bits bs hbs b hb)⟩
  rw [ofJson?, toJson, record?_record]
  simp [Record.required, Record.optional, Record.find?, bind, Except.bind, htext, hbool, hbits,
    h.offset.int?, h.size.int?, h.paddingBefore.int?, h.count.int?]
  rfl

theorem LayoutDocument.ofJson?_toJson {d : LayoutDocument} (h : d.InWords) :
    ofJson? d.toJson = .ok d := by
  have hpack : Value.option? Value.int? (.option .int d.packValue) = .ok d.packValue :=
    option?_option _ fun p hp => ⟨nofun, (h.packValue p hp).int?⟩
  have hfields : Value.list? FieldDocument.ofJson? (.list FieldDocument.toJson d.fields) =
      .ok d.fields := list?_list fun f hf => FieldDocument.ofJson?_toJson (h.fields f hf)
  rw [ofJson?, toJson, record?_record]
  cases hname : d.structName with
  | none =>
    simp [Record.required, Record.optional, Record.find?, bind, Except.bind, hpack, hfields,
      h.totalSize.int?, h.maxAlign.int?]
    rw [← hname]
    rfl
  | some name =>
    have htext : Value.option? Value.text? (.text name) = .ok (some name) := rfl
    simp [Record.required, Record.optional, Record.find?, bind, Except.bind, hpack, hfields, htext,
      h.totalSize.int?, h.maxAlign.int?]
    rw [← hname]
    rfl

theorem BitDocument.writable (b : BitDocument) : b.toJson.Writable :=
  writable_record (by simp [writable_text, writable_int])

theorem FieldDocument.writable (f : FieldDocument) : f.toJson.Writable := by
  have hbits : (Value.option (.list BitDocument.toJson) f.bitFields).Writable :=
    writable_option fun bs _ => writable_list fun b _ => b.writable
  exact writable_record (by simp [writable_text, writable_int, writable_bool, hbits])

theorem LayoutDocument.writable (d : LayoutDocument) : d.toJson.Writable := by
  have hpack : (Value.option .int d.packValue).Writable := writable_option fun p _ => writable_int p
  have hfields : (Value.list FieldDocument.toJson d.fields).Writable :=
    writable_list fun f _ => f.writable
  apply writable_record
  cases d.structName with
  | none => simp [writable_int, hpack, hfields]
  | some name => simp [writable_text, writable_int, hpack, hfields]

theorem LayoutDocument.read_pretty {d : LayoutDocument} (h : d.InWords) :
    read (d.pretty ++ "\n") = .ok d :=
  decodeText_pretty d.writable (ofJson?_toJson h)

theorem read_document {d : LayoutDocument} (h : d.InWords) :
    LayoutDocument.read d.compact = .ok d ∧ LayoutDocument.read d.pretty = .ok d := by
  have hread := LayoutDocument.ofJson?_toJson h
  exact ⟨decodeText_written compact_blank d.writable hread,
    decodeText_written pretty_blank d.writable hread⟩

def escapedDocument : LayoutDocument :=
  { structName := none, totalSize := -signBound, maxAlign := signBound - 1, packValue := some 0
    fields :=
      [⟨"\"a\\\n", "\x00é→😀", -1, 0, 8, true, false, signBound - 1, none⟩,
       ⟨"", "/\t\x7f", 0, 4, 0, false, true, 1, some []⟩,
       ⟨"null", "int", 4, 4, 0, false, false, 1, some [⟨"\r\x08", -signBound⟩, ⟨"b", 3⟩]⟩] }

theorem read_document_escaped : escapedDocument.InWords ∧
    LayoutDocument.read escapedDocument.compact = .ok escapedDocument ∧
    LayoutDocument.read escapedDocument.pretty = .ok escapedDocument := by
  have hwords : escapedDocument.InWords := by
    refine ⟨by decide, by decide, ?_, ?_⟩
    · rintro p ⟨⟩
      decide
    · simp only [escapedDocument, List.forall_mem_cons]
      refine ⟨⟨by decide, by decide, by decide, by decide, nofun⟩,
        ⟨by decide, by decide, by decide, by decide, ?_⟩,
        ⟨by decide, by decide, by decide, by decide, ?_⟩, nofun⟩
      · rintro bs ⟨⟩
        nofun
      · rintro bs ⟨⟩
        decide
  exact ⟨hwords, read_document hwords⟩

end ByteGrid
