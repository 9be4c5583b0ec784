import ByteGrid.Proofs.Growth
import ByteGrid.Search.Completion
import Mathlib.Data.List.Nodup

/-!
How a declaration comes to its layout when types have to be looked up. A completion goes through
layouts that fail for an unknown type, each in a catalog that has learned of the types before, until
it runs out of attempts or comes to a layout that wants nothing it could look up.
-/

namespace ByteGrid

/-- A layout wants a type that is not known, a definition of it is added, and so on. -/
inductive Catalog.Learns (defines : String → Definition → Prop) (d : Declaration)
    (pack : Option Nat) : Catalog → List Resolved → Prop
  | done (c : Catalog) : Learns defines d pack c []
  | step {c : Catalog} {r : Resolved} {rs : List Resolved} :
      c.layout d pack = .error (.unknownType r.typeName) → defines r.typeName r.definition →
      Learns defines d pack (c.learn r) rs → Learns defines d pack c (r :: rs)

def CompletionError.ofLast : Except LayoutError Layout → Except CompletionError Layout
  | .ok l => .ok l
  | .error (.unknownType name) => .error (.unresolved name)
  | .error e => .error (.layout e)

def Completion.unknownNames (c : Completion) : List String :=
  c.resolved.map Resolved.typeName ++
    match c.result with
    | .error (.unresolved name) => [name]
    | .error (.unusable name) => [name]
    | _ => []

variable {lookup : String → Option Definition} {defines : String → Definition → Prop}
variable {c : Catalog} {d : Declaration} {pack : Option Nat} {r : Resolved} {rs : List Resolved}
variable {limit attempts : Nat} {l : Layout} {name : String}

namespace Catalog

theorem addAll_append (c : Catalog) (xs ys : List Declaration) :
    c.addAll (xs ++ ys) = (c.addAll xs).addAll ys :=
  List.foldl_append

theorem learnAll_eq (c : Catalog) (rs : List Resolved) :
    c.learnAll rs = c.addAll (rs.flatMap Resolved.declarations) := by
  induction rs generalizing c with
  | nil => rfl
  | cons r rs ih =>
    rw [List.flatMap_cons, addAll_append, ← ih]
    rfl

theorem completeWithin_step (h : c.layout d pack = .error (.unknownType r.typeName))
    (hr : lookup r.typeName = some r.definition) (hd : declares r.definition.text r.typeName = true) :
    c.completeWithin limit lookup d pack (attempts + 1) =
      ((c.learn r).completeWithin limit lookup d pack attempts).after r := by
  rw [completeWithin, h]
  simp only [completeFrom, hr, hd, if_true]

theorem completeWithin_last
    (h : ∀ name, c.layout d pack = .error (.unknownType name) → lookup name = none) :
    c.completeWithin limit lookup d pack (attempts + 1) =
      ⟨[], CompletionError.ofLast (c.layout d pack)⟩ := by
  rw [completeWithin]
  cases hl : c.layout d pack with
  | ok l => rfl
  | error e =>
    cases e with
    | unknownType name =>
      simp only [completeFrom, h name hl]
      rfl
    | _ => rfl

theorem completeWithin_learns (hd : ∀ name r, lookup name = some r → declares r.text name = true)
    (h : Learns (fun name r => lookup name = some r) d pack c rs) :
    c.completeWithin limit lookup d pack (rs.length + attempts) =
      ⟨rs ++ ((c.learnAll rs).completeWithin limit lookup d pack attempts).resolved,
        ((c.learnAll rs).completeWithin limit lookup d pack attempts).result⟩ := by
  induction h with
  | done c =>
    rw [List.length_nil, Nat.zero_add]
    rfl
  | @step c r rs hl hr _ ih =>
    rw [List.length_cons, Nat.add_right_comm, completeWithin_step hl hr (hd _ _ hr), ih]
    rfl

theorem completeWithin_ends (hd : ∀ name r, lookup name = some r → declares r.text name = true)
    (d : Declaration) (pack : Option Nat) (limit attempts : Nat) (c : Catalog) :
    ∃ rs, Learns (fun name r => lookup name = some r) d pack c rs ∧
      ((rs.length = attempts ∧ c.completeWithin limit lookup d pack attempts =
          ⟨rs, .error (.tooManyTypes limit d.name)⟩) ∨
        (rs.length < attempts ∧ c.completeWithin limit lookup d pack attempts =
            ⟨rs, CompletionError.ofLast ((c.learnAll rs).layout d pack)⟩)) := by
  induction attempts generalizing c with
  | zero => exact ⟨[], .done c, .inl ⟨rfl, rfl⟩⟩
  | succ attempts ih =>
    -- This attempt is the last one, or it learns a type and leaves the others to the catalog with it.
    by_cases hlast : ∀ name, c.layout d pack = .error (.unknownType name) → lookup name = none
    · exact ⟨[], .done c, .inr ⟨Nat.succ_pos _, completeWithin_last hlast⟩⟩
    · push Not at hlast
      obtain ⟨name, hl, hr⟩ := hlast
      obtain ⟨definition, hr⟩ := Option.ne_none_iff_exists'.mp hr
      obtain ⟨rs, hrs, hend⟩ := ih (c.learn ⟨name, definition⟩)
      refine ⟨⟨name, definition⟩ :: rs, .step hl hr hrs, ?_⟩
      rw [completeWithin_step (r := ⟨name, definition⟩) hl hr (hd _ _ hr)]
      obtain ⟨hlen, heq⟩ | ⟨hlen, heq⟩ := hend
      · exact .inl ⟨congrArg (· + 1) hlen, by rw [heq]; rfl⟩
      · exact .inr ⟨Nat.succ_lt_succ hlen, by rw [heq]; rfl⟩

theorem knows_learnAll (h : c.Knows name) : (c.learnAll rs).Knows name := by
  rw [learnAll_eq]
  exact knows_addAll.mpr (.inl h)

theorem knows_learn (h : declares r.definition.text r.typeName = true) :
    (c.learn r).Knows r.typeName := by
  obtain ⟨x, hx, hname⟩ := List.any_eq_true.mp h
  exact knows_addAll.mpr (.inr ⟨x, hx, eq_of_beq hname⟩)

theorem Learns.not_knows (h : Learns defines d pack c rs) : ∀ r ∈ rs, ¬c.Knows r.typeName := by
  induction h with
  | done c => simp
  | @step c r rs hl _ _ ih =>
    -- A catalog knows what it knew before, so what a later layout lacks was unknown from the start.
    refine List.forall_mem_cons.mpr ⟨not_knows_of_layout hl, fun x hx hk => ?_⟩
    exact ih x hx (knows_addAll.mpr (.inl hk))

theorem Learns.knows (hd : ∀ name r, defines name r → declares r.text name = true)
    (h : Learns defines d pack c rs) : ∀ r ∈ rs, (c.learnAll rs).Knows r.typeName := by
  induction h with
  | done c => simp
  | @step c r rs _ hr _ ih =>
    have hknown : ((c.learn r).learnAll rs).Knows r.typeName :=
      knows_learnAll (knows_learn (hd _ _ hr))
    exact List.forall_mem_cons.mpr ⟨hknown, ih⟩

theorem Learns.nodup (hd : ∀ name r, defines name r → declares r.text name = true)
    (h : Learns defines d pack c rs) : (rs.map Resolved.typeName).Nodup := by
  induction h with
  | done c => exact .nil
  | @step c r rs _ hr h ih =>
    refine List.nodup_cons.mpr ⟨fun hmem => ?_, ih⟩
    obtain ⟨x, hx, hname⟩ := List.mem_map.mp hmem
    exact h.not_knows x hx (hname ▸ knows_learn (hd _ _ hr))

theorem Learns.nodup_concat (hd : ∀ name r, defines name r → declares r.text name = true)
    (h : Learns defines d pack c rs)
    (hl : (c.learnAll rs).layout d pack = .error (.unknownType name)) :
    (rs.map Resolved.typeName ++ [name]).Nodup := by
  refine List.nodup_append.mpr ⟨h.nodup hd, List.nodup_singleton name, fun x hx y hy hxy => ?_⟩
  obtain ⟨r, hr, rfl⟩ := List.mem_map.mp hx
  obtain rfl := List.mem_singleton.mp hy
  exact not_knows_of_layout hl (hxy ▸ h.knows hd r hr)

theorem Learns.layout_take (h : Learns defines d pack c rs) {i : Nat}
    (hi : (rs.map Resolved.typeName)[i]? = some name) :
    (c.learnAll (rs.take i)).layout d pack = .error (.unknownType name) := by
  induction h generalizing i with
  | done c => simp at hi
  | @step c r rs hl _ _ ih =>
    cases i with
    | zero =>
      cases hi
      exact hl
    | succ i => exact ih (by simpa using hi)

theorem Learns.layout_take_concat (h : Learns defines d pack c rs) {last : String}
    (hl : (c.learnAll rs).layout d pack = .error (.unknownType last)) {i : Nat}
    (hi : (rs.map Resolved.typeName ++ [last])[i]? = some name) :
    (c.learnAll (rs.take i)).layout d pack = .error (.unknownType name) := by
  rcases Nat.lt_or_ge i rs.length with hlt | hge
  · rw [List.getElem?_append_left (by simpa using hlt)] at hi
    exact h.layout_take hi
  · rw [List.getElem?_append_right (by simpa using hge)] at hi
    rw [List.take_of_length_le hge, hl, (List.mem_singleton.mp (List.mem_of_getElem? hi))]

theorem learns_of_take (h : ∀ i r, rs[i]? = some r →
    (c.learnAll (rs.take i)).layout d pack = .error (.unknownType r.typeName) ∧
      defines r.typeName r.definition) : Learns defines d pack c rs := by
  induction rs generalizing c with
  | nil => exact .done c
  | cons r rs ih =>
    obtain ⟨hl, hr⟩ := h 0 r rfl
    exact .step hl hr (ih fun i x hx => h (i + 1) x hx)

end Catalog

theorem ofLast_eq_ok {x : Except LayoutError Layout} (h : CompletionError.ofLast x = .ok l) :
    x = .ok l := by
  unfold CompletionError.ofLast at h
  split at h
  · cases h
    rfl
  · cases h
  · cases h

theorem ofLast_eq_error {x : Except LayoutError Layout} {e : CompletionError}
    (h : CompletionError.ofLast x = .error e) :
    (∃ name, e = .unresolved name ∧ x = .error (.unknownType name)) ∨ ∃ e', e = .layout e' := by
  unfold CompletionError.ofLast at h
  split at h
  · cases h
  · cases h
    exact .inl ⟨_, rfl, rfl⟩
  · cases h
    exact .inr ⟨_, rfl⟩

structure Catalog.Traced (defines : String → Definition → Prop) (d : Declaration) (pack : Option Nat)
    (c : Catalog) (x : Completion) : Prop where
  learns : c.Learns defines d pack x.resolved
  layout_of_ok : ∀ l, x.result = .ok l → (c.learnAll x.resolved).layout d pack = .ok l
  layout_of_unresolved : ∀ name, x.result = .error (.unresolved name) →
    (c.learnAll x.resolved).layout d pack = .error (.unknownType name)
  not_unusable : ∀ name, x.result ≠ .error (.unusable name)

namespace Catalog

theorem Traced.unknownNames {x : Completion} (h : c.Traced defines d pack x) :
    x.unknownNames = x.resolved.map Resolved.typeName ∨
      ∃ last, x.unknownNames = x.resolved.map Resolved.typeName ++ [last] ∧
        (c.learnAll x.resolved).layout d pack = .error (.unknownType last) := by
  unfold Completion.unknownNames
  split
  · exact .inr ⟨_, rfl, h.layout_of_unresolved _ ‹_›⟩
  · exact absurd ‹_› (h.not_unusable _)
  · exact .inl (List.append_nil _)

theorem Traced.nodup {x : Completion}
    (hd : ∀ name r, defines name r → declares r.text name = true) (h : c.Traced defines d pack x) :
    x.unknownNames.Nodup := by
  obtain heq | ⟨last, heq, hl⟩ := h.unknownNames
  · rw [heq]
    exact h.learns.nodup hd
  · rw [heq]
    exact h.learns.nodup_concat hd hl

theorem Traced.layout_take {x : Completion} (h : c.Traced defines d pack x) {i : Nat}
    (hi : x.unknownNames[i]? = some name) :
    (c.learnAll (x.resolved.take i)).layout d pack = .error (.unknownType name) := by
  obtain heq | ⟨last, heq, hl⟩ := h.unknownNames
  · rw [heq] at hi
    exact h.learns.layout_take hi
  · rw [heq] at hi
    exact h.learns.layout_take_concat hl hi

end Catalog

end ByteGrid
