import ByteGrid.Log

namespace ByteGrid

open ByteGrid.Text

structure Failure where
  message : String
  causes : List String
deriving Repr, DecidableEq

def Failure.of (message : String) : Failure :=
  ⟨message, []⟩

def Failure.during (f : Failure) (message : String) : Failure :=
  ⟨message, f.message :: f.causes⟩

structure FailureStyle where
  colors : Bool
  causes : Bool
deriving Repr, DecidableEq

def maxCauses : Nat := 10

def FailureStyle.causeLine (style : FailureStyle) (cause : String) : String :=
  "  " ++ paint style.colors .yellow "->" ++ " Caused by: " ++ cause ++ "\n"

def FailureStyle.causeLines (style : FailureStyle) (causes : List String) : List String :=
  (causes.take maxCauses).map style.causeLine ++
    if maxCauses < causes.length then ["  ... (cause chain truncated)\n"] else []

def FailureStyle.report (style : FailureStyle) (f : Failure) : String :=
  paint style.colors .boldRed "Error:" ++ " " ++ f.message ++ "\n" ++
    String.join (if style.causes then style.causeLines f.causes else [])

structure Outcome (α : Type) where
  entries : List LogEntry
  result : Except Failure α

namespace Outcome

def done (a : α) : Outcome α :=
  ⟨[], .ok a⟩

def fail (f : Failure) : Outcome α :=
  ⟨[], .error f⟩

def note (entries : List LogEntry) : Outcome Unit :=
  ⟨entries, .ok ()⟩

def ofExcept (failure : ε → Failure) : Except ε α → Outcome α
  | .ok a => done a
  | .error e => fail (failure e)

def andThen (o : Outcome α) (next : α → Outcome β) : Outcome β :=
  match o.result with
  | .error f => ⟨o.entries, .error f⟩
  | .ok a => ⟨o.entries ++ (next a).entries, (next a).result⟩

instance : Monad Outcome where
  pure := done
  bind := andThen

@[simp] theorem result_bind (o : Outcome α) (next : α → Outcome β) :
    (o >>= next).result = o.result >>= fun a => (next a).result := by
  change (o.andThen next).result = _
  rw [Outcome.andThen]
  cases o.result <;> rfl

@[simp] theorem result_pure (a : α) : (pure a : Outcome α).result = .ok a := rfl

@[simp] theorem result_note (entries : List LogEntry) : (note entries).result = .ok () := rfl

@[simp] theorem result_ofExcept (failure : ε → Failure) (x : Except ε α) :
    (ofExcept failure x).result = x.mapError failure := by
  cases x <;> rfl

end Outcome

end ByteGrid
