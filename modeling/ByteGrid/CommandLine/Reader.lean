import ByteGrid.CommandLine.Form

/-!
Reading a command line from left to right. The values of an argument are looked at when the next
argument begins, so that of two faults the earlier one counts as long as the later argument has a
slot at all.
-/

namespace ByteGrid

inductive Argument where
  | separator
  | long (name : String) (value : Option String)
  | letters (cs : List Char)
  | plain (word : String)
deriving Repr, DecidableEq

def Argument.ofText (text : String) : Argument :=
  match text.toList with
  | ['-', '-'] => .separator
  | '-' :: '-' :: cs =>
    let value := match cs.dropWhile (· ≠ '=') with
      | [] => none
      | _ :: rest => some (String.ofList rest)
    .long (String.ofList (cs.takeWhile (· ≠ '='))) value
  | '-' :: c :: cs => .letters (c :: cs)
  | _ => .plain text

/-- How far reading has come: what is filled in, the slot whose values are still to be looked at,
whether that slot takes further words, how many places are taken, and whether the names are over. -/
structure Progress where
  readings : Readings
  pending : Option (Slot × List String)
  isOpen : Bool
  placed : Nat
  plainOnly : Bool

namespace Progress

def start : Progress :=
  { readings := .start, pending := none, isOpen := false, placed := 0, plainOnly := false }

def settle (p : Progress) : Except UsageError Progress :=
  match p.pending with
  | none => .ok { p with isOpen := false }
  | some (slot, values) =>
    (p.readings.put slot values).map fun readings =>
      { p with readings, pending := none, isOpen := false }

def fill (p : Progress) (slot : Slot) (values : List String) : Except UsageError Progress := do
  let p ← p.settle
  let readings ← p.readings.put slot values
  return { p with readings }

def await (p : Progress) (slot : Slot) : Except UsageError Progress := do
  let p ← p.settle
  return { p with pending := some (slot, []), isOpen := true }

def extend (p : Progress) (word : String) : Progress :=
  { p with
    pending := p.pending.map fun s => (s.1, s.2 ++ [word])
    isOpen := p.pending.any fun s => s.1.arity = .several }

def finish (p : Progress) : Except UsageError Readings :=
  p.settle.map readings

end Progress

namespace Form

def readLong (form : Form) (p : Progress) (name : String) (value : Option String) :
    Except UsageError Progress :=
  match form.long? name with
  | none => .error .unknownArgument
  | some slot =>
    match slot.arity, value with
    | .flag, none => p.fill slot []
    | .flag, some _ => .error .unwantedValue
    | _, some value => p.fill slot [value]
    | _, none => p.await slot

def readLetters (form : Form) (p : Progress) : List Char → Except UsageError Progress
  | [] => .ok p
  | c :: cs =>
    match form.letter? c with
    | none => .error .unknownArgument
    | some slot =>
      if slot.arity = .flag then do form.readLetters (← p.fill slot []) cs
      else
        match cs with
        | [] => p.await slot
        | '=' :: value => p.fill slot [String.ofList value]
        | value => p.fill slot [String.ofList value]

def readPlace (form : Form) (p : Progress) (word : String) : Except UsageError Progress :=
  match form.places[p.placed]? with
  | some slot => do
    let p ← p.settle
    return { p with pending := some (slot, [word]), placed := p.placed + 1 }
  | none =>
    if form.hasCommands && !(p.plainOnly && isCommandWord word) then .error .unknownCommand
    else .error .unknownArgument

def readArgument (form : Form) (p : Progress) (text : String) : Except UsageError Progress :=
  if p.plainOnly then form.readPlace p text
  else
    match Argument.ofText text with
    | .separator => .ok { p with plainOnly := true }
    | .long name value => form.readLong p name value
    | .letters cs => form.readLetters p cs
    | .plain word => if p.isOpen then .ok (p.extend word) else form.readPlace p word

def readArguments (form : Form) (p : Progress) :
    List String → Except UsageError (Progress × Option (String × List String))
  | [] => .ok (p, none)
  | text :: texts =>
    if form.hasCommands && !p.plainOnly && !p.isOpen && isCommandWord text then
      .ok (p, some (text, texts))
    else do
      let p ← form.readArgument p text
      form.readArguments p texts

end Form

def Readings.required (value : Option α) : Except UsageError α :=
  value.elim (.error .missingArgument) .ok

def Readings.place (r : Readings) : Except UsageError SourceLine := do
  let file ← Readings.required r.file
  let line ← Readings.required r.line
  return { file, line }

def Readings.layoutOptions (r : Readings) : LayoutOptions :=
  { pack := r.pack, search := r.search }

def Readings.drawOptions (r : Readings) : DrawOptions :=
  { scale := r.scale, policy := r.policy, noTailPadding := r.noTailPadding }

def Readings.command (r : Readings) : CommandName → Except UsageError Command
  | .locate => r.place.map .locate
  | .layout => r.place.map fun place => .layout place r.layoutOptions
  | .render => (Readings.required r.file).map fun input => .render input r.drawOptions
  | .visualize => r.place.map fun place => .visualize place r.layoutOptions r.drawOptions

def helpOn : List String → UsageError
  | [] => .help
  | [word] => if isCommandWord word then .help else .unknownCommand
  | _ => .unknownCommand

def standardLogLevel : String := "info"

def Invocation.combine (before after : Readings) (command : Command) : Invocation :=
  { logLevel := (after.logLevel.or before.logLevel).getD standardLogLevel
    quiet := before.quiet || after.quiet
    noColor := before.noColor || after.noColor
    json := before.json || after.json
    config := after.config.or before.config
    command }

def Invocation.read (arguments : List String) : Except UsageError Invocation := do
  let (outer, command) ← Form.outer.readArguments .start arguments
  match command with
  | none =>
    let readings ← outer.finish
    throw (if readings.isBare then .noArguments else .noCommand)
  | some (word, rest) =>
    match CommandName.ofText? word with
    | none => throw (helpOn rest)
    | some name =>
      let (inner, _) ← name.form.readArguments .start rest
      let after ← inner.finish
      let command ← after.command name
      let before ← outer.finish
      return Invocation.combine before after command

end ByteGrid
