import ByteGrid.Log
import ByteGrid.Session
import ByteGrid.Surroundings

namespace ByteGrid

def Invocation.logFilter (i : Invocation) : LogFilter :=
  if i.quiet then .from .error else .ofName i.logLevel

structure Report where
  exitCode : Nat
  output : String
  errors : String
deriving Repr, DecidableEq

def Invocation.session (i : Invocation) (w : Surroundings) (settings : Settings) : Session :=
  { files := w.files, settings, json := i.json, quiet := i.quiet
    colors := w.colors && !i.noColor && settings.display.useColor }

def Invocation.failureColors (i : Invocation) (w : Surroundings) (settings : Outcome Settings) :
    Bool :=
  w.colors && !i.noColor &&
    match settings.result with
    | .ok s => s.display.useColor
    | .error _ => true

def Invocation.run (i : Invocation) (w : Surroundings) : Report :=
  let settings := w.settings i.config
  let outcome := settings.andThen fun s => (i.session w s).execute i.command
  let notes := String.join ((outcome.entries.filter i.logFilter.admits).map (LogEntry.print w.noteColors))
  match outcome.result with
  | .ok output => { exitCode := 0, output, errors := notes }
  | .error f =>
    let style : FailureStyle := { colors := i.failureColors w settings, causes := true }
    { exitCode := 1, output := "", errors := notes ++ style.report f }

end ByteGrid
