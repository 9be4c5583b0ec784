namespace ByteGrid

theorem map_eq_ok {f : α → β} {x : Except ε α} {b : β} (h : x.map f = .ok b) :
    ∃ a, x = .ok a ∧ f a = b := by
  cases x with
  | error e => cases h
  | ok a => exact ⟨a, rfl, by cases h; rfl⟩

theorem bind_eq_ok {x : Except ε α} {f : α → Except ε β} {b : β} (h : (x >>= f) = .ok b) :
    ∃ a, x = .ok a ∧ f a = .ok b := by
  cases x with
  | error e => cases h
  | ok a => exact ⟨a, rfl, h⟩

theorem map_eq_error {f : α → β} {x : Except ε α} {e : ε} (h : x.map f = .error e) :
    x = .error e := by
  cases x with
  | error e' => cases h; rfl
  | ok a => cases h

theorem bind_eq_error {x : Except ε α} {f : α → Except ε β} {e : ε} (h : (x >>= f) = .error e) :
    x = .error e ∨ ∃ a, x = .ok a ∧ f a = .error e := by
  cases x with
  | error e' => cases h; exact .inl rfl
  | ok a => exact .inr ⟨a, rfl, h⟩

theorem foldlM_eq_error {f : β → α → Except ε β} {b : β} {as : List α} {e : ε}
    (h : as.foldlM f b = .error e) : ∃ a ∈ as, ∃ b', f b' a = .error e := by
  induction as generalizing b with
  | nil => cases h
  | cons a as ih =>
    obtain ha | ⟨b', -, h⟩ := bind_eq_error h
    · exact ⟨a, .head _, b, ha⟩
    · obtain ⟨a', ha', hfail⟩ := ih h
      exact ⟨a', .tail _ ha', hfail⟩

def AgreeUnless (e : ε) (x y : Except ε α) : Prop :=
  x = .error e ∨ y = x

theorem AgreeUnless.map {e : ε} {x y : Except ε α} (h : AgreeUnless e x y) (f : α → β) :
    AgreeUnless e (x.map f) (y.map f) := by
  obtain rfl | rfl := h
  · exact .inl rfl
  · exact .inr rfl

theorem AgreeUnless.bind {e : ε} {x y : Except ε α} {f g : α → Except ε β} (h : AgreeUnless e x y)
    (hf : ∀ a, AgreeUnless e (f a) (g a)) : AgreeUnless e (x >>= f) (y >>= g) := by
  obtain rfl | rfl := h
  · exact .inl rfl
  · cases y with
    | error e' => exact .inr rfl
    | ok a => exact hf a

theorem AgreeUnless.foldlM {e : ε} {f g : β → α → Except ε β} {as : List α}
    (h : ∀ a ∈ as, ∀ b, AgreeUnless e (f b a) (g b a)) (b : β) :
    AgreeUnless e (as.foldlM f b) (as.foldlM g b) := by
  induction as generalizing b with
  | nil => exact .inr rfl
  | cons a as ih =>
    rw [List.foldlM_cons, List.foldlM_cons]
    exact (h a (.head _) b).bind (ih fun x hx => h x (.tail _ hx))

theorem foldlM_ok {P : List α → β → Prop} {f : β → α → Except ε β} {b r : β} {as : List α}
    (start : P [] b) (step : ∀ done a b b', P done b → a ∈ as → f b a = .ok b' → P (done ++ [a]) b')
    (h : as.foldlM f b = .ok r) : P as r := by
  suffices ∀ done rest b, P done b → (∀ a ∈ rest, a ∈ as) → rest.foldlM f b = .ok r →
      P (done ++ rest) r from this [] as b start (fun _ ha => ha) h
  intro done rest
  induction rest generalizing done with
  | nil =>
    intro b hb _ h
    cases h
    rwa [List.append_nil]
  | cons a rest ih =>
    intro b hb hmem h
    obtain ⟨b', ha, h⟩ := bind_eq_ok h
    rw [List.append_cons]
    exact ih _ _ (step done a b b' hb (hmem a (.head _)) ha)
      (fun x hx => hmem x (.tail _ hx)) h

theorem foldlM_concat {f : β → α → Except ε β} {b r r' : β} {as : List α} {a : α}
    (h : as.foldlM f b = .ok r) (ha : f r a = .ok r') : (as ++ [a]).foldlM f b = .ok r' := by
  induction as generalizing b with
  | nil =>
    cases h
    rw [List.nil_append, List.foldlM_cons, ha]
    rfl
  | cons x as ih =>
    obtain ⟨b', hx, h⟩ := bind_eq_ok h
    rw [List.cons_append, List.foldlM_cons, hx]
    exact ih h

end ByteGrid
