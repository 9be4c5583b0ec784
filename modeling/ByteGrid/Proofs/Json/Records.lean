import ByteGrid.Json.Decode
import ByteGrid.Proofs.Json.Reading

namespace ByteGrid.Json

open ByteGrid.Text

variable {encode : α → Value} {decode : Value → Except Mismatch α} {ms : List (String × Value)}

theorem mapM_map {g : α → β} {f : β → Except ε α} {as : List α} (h : ∀ a ∈ as, f (g a) = .ok a) :
    (as.map g).mapM f = .ok as := by
  induction as with
  | nil => rfl
  | cons a as ih =>
    rw [List.map_cons, List.mapM_cons, h a (.head _), ih fun x hx => h x (.tail _ hx)]
    rfl

theorem int?_int {i : Int} (hlow : -signBound ≤ i) (hhigh : i < signBound) :
    (Value.int i).int? = .ok i := by
  simp only [Value.int, Value.int?, intOfNumeral?_ofInt, hlow, hhigh, and_self, if_true]

theorem option?_option (o : Option α) (h : ∀ a ∈ o, encode a ≠ .null ∧ decode (encode a) = .ok a) :
    Value.option? decode (.option encode o) = .ok o := by
  cases o with
  | none => rfl
  | some a =>
    obtain ⟨hne, ha⟩ := h a rfl
    rw [Value.option, Value.option?.eq_def]
    split
    · rename_i hnull
      exact absurd hnull hne
    · rw [ha]
      rfl

theorem list?_list {as : List α} (h : ∀ a ∈ as, decode (encode a) = .ok a) :
    Value.list? decode (.list encode as) = .ok as :=
  mapM_map h

theorem record?_record (width : Nat) (ms : List (String × Value)) :
    (Value.record ms).record? width = .ok (.named ms) := by
  have hmembers : (ms.map fun m => (some m.1, m.2)).mapM member? = .ok ms := mapM_map fun _ _ => rfl
  rw [Value.record, Value.record?, Value.members?, hmembers]
  · rfl
  · simp

theorem writable_text (s : String) : (Value.text s).Writable := by
  rw [Value.text, Value.Writable]
  rfl

theorem writable_int (i : Int) : (Value.int i).Writable := by
  rw [Value.int, Value.Writable]
  exact valid_ofInt i

theorem writable_bool (b : Bool) : (Value.bool b).Writable := by
  rw [Value.Writable]
  trivial

theorem writable_option {o : Option α} (h : ∀ a ∈ o, (encode a).Writable) :
    (Value.option encode o).Writable := by
  cases o with
  | none =>
    rw [Value.option, Value.Writable]
    trivial
  | some a => exact h a rfl

theorem writable_list {as : List α} (h : ∀ a ∈ as, (encode a).Writable) :
    (Value.list encode as).Writable := by
  rw [Value.list, Value.Writable]
  induction as with
  | nil =>
    rw [List.map_nil, itemsWritable]
    trivial
  | cons a as ih =>
    rw [List.map_cons, itemsWritable]
    exact ⟨h a (.head _), ih fun x hx => h x (.tail _ hx)⟩

theorem writable_record (h : ∀ m ∈ ms, m.2.Writable) : (Value.record ms).Writable := by
  rw [Value.record, Value.Writable]
  induction ms with
  | nil =>
    rw [List.map_nil, membersWritable]
    trivial
  | cons m ms ih =>
    rw [List.map_cons, membersWritable]
    exact ⟨rfl, h m (.head _), ih fun x hx => h x (.tail _ hx)⟩

theorem decodeText_of_read {text : String} {v : Value} {a : α} (hv : Value.read text = .ok v)
    (ha : decode v = .ok a) : decodeText decode text = .ok a := by
  rw [decodeText, hv]
  simp only [ha]

theorem decodeText_pretty {v : Value} {a : α} (hv : v.Writable) (ha : decode v = .ok a) :
    decodeText decode (v.pretty ++ "\n") = .ok a :=
  decodeText_of_read (read_pretty hv) ha

theorem decodeText_written {sp : Spacing} (hsp : sp.Blank) {v : Value} {a : α} (hv : v.Writable)
    (ha : decode v = .ok a) : decodeText decode (String.ofList (v.write sp 0)) = .ok a :=
  decodeText_of_read (read_written hsp hv) ha

end ByteGrid.Json
