import ByteGrid.Text.Control
import ByteGrid.Text.Lowercase
import ByteGrid.Text.Paint

namespace ByteGrid

open ByteGrid.Text

inductive LogLevel where
  | trace
  | debug
  | info
  | warn
  | error
deriving Repr, DecidableEq

def LogLevel.rank : LogLevel → Nat
  | .trace => 0
  | .debug => 1
  | .info => 2
  | .warn => 3
  | .error => 4

def LogLevel.name : LogLevel → String
  | .trace => "TRACE"
  | .debug => "DEBUG"
  | .info => "INFO"
  | .warn => "WARN"
  | .error => "ERROR"

structure LogEntry where
  level : LogLevel
  target : String
  text : String
deriving Repr, DecidableEq

def LogLevel.inks : LogLevel → List Ink
  | .trace => [.cyan]
  | .debug => [.blue]
  | .info => [.green]
  | .warn => [.yellow]
  | .error => [.bold, .red]

def LogLevel.label (l : LogLevel) : String :=
  l.name ++ "".pushn ' ' (5 - l.name.length)

def hanging (text : String) : String :=
  String.ofList (text.toList.flatMap fun c => if c = '\n' then "\n    ".toList else [c])

def LogEntry.painted (e : LogEntry) : String :=
  light [.grey] "[" ++ light e.level.inks e.level.label ++ " " ++ e.target ++ light [.grey] "]" ++
    " " ++ hanging e.text ++ "\n"

def LogEntry.plain (e : LogEntry) : String :=
  shown ("[" ++ e.level.label ++ " " ++ e.target ++ "] " ++ hanging e.text ++ "\n")

def LogEntry.print (colors : Bool) (e : LogEntry) : String :=
  if colors then e.painted else e.plain

def LogLevel.ofName? (name : String) : Option LogLevel :=
  [LogLevel.trace, .debug, .info, .warn, .error].find? fun l => lowercase l.name == lowercase name

inductive LogFilter where
  | from (level : LogLevel)
  | off
deriving Repr, DecidableEq

def LogFilter.ofName (name : String) : LogFilter :=
  if lowercase name = "off" then .off else .from ((LogLevel.ofName? name).getD .info)

def LogFilter.admits (f : LogFilter) (e : LogEntry) : Bool :=
  match f with
  | .from level => level.rank ≤ e.level.rank
  | .off => false

end ByteGrid
