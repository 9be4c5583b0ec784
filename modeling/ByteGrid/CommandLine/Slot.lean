import ByteGrid.CommandLine
import ByteGrid.Decimal.Reading
import ByteGrid.Text.Basic

namespace ByteGrid

open ByteGrid.Decimal ByteGrid.Text

/-- Why arguments are not understood. The wish for help or for the version ends a command line in the
same way. -/
inductive UsageError where
  | help
  | version
  | noArguments
  | noCommand
  | unknownCommand
  | unknownArgument
  | emptyValue
  | invalidValue
  | unwantedValue
  | missingArgument
  | repeatedArgument
deriving Repr, DecidableEq

def UsageError.exitCode : UsageError → Nat
  | .help => 0
  | .version => 0
  | _ => 2

def UsageError.message : UsageError → String
  | .help => "help"
  | .version => "version"
  | .noArguments => "no arguments"
  | .noCommand => "no command"
  | .unknownCommand => "unknown command"
  | .unknownArgument => "unknown argument"
  | .emptyValue => "a value is missing"
  | .invalidValue => "a value cannot be read"
  | .unwantedValue => "a flag takes no value"
  | .missingArgument => "an argument is missing"
  | .repeatedArgument => "an argument stands twice"

inductive Slot where
  | logLevel
  | quiet
  | noColor
  | config
  | json
  | help
  | version
  | pack
  | scale
  | policy
  | noTailPadding
  | search
  | file
  | line
deriving Repr, DecidableEq

inductive Arity where
  | flag
  | single
  | several
deriving Repr, DecidableEq

def Slot.arity : Slot → Arity
  | .quiet | .noColor | .json | .help | .version | .noTailPadding => .flag
  | .search => .several
  | _ => .single

structure Readings where
  logLevel : Option String
  quiet : Bool
  noColor : Bool
  config : Option String
  json : Bool
  pack : Option Nat
  scale : Option Float
  policy : Option LabelPolicy
  noTailPadding : Bool
  search : List String
  file : Option String
  line : Option Nat
deriving Repr

namespace Readings

def start : Readings :=
  { logLevel := none, quiet := false, noColor := false, config := none, json := false
    pack := none, scale := none, policy := none, noTailPadding := false, search := []
    file := none, line := none }

def path (value : String) : Except UsageError String :=
  if value.isEmpty then .error .emptyValue else .ok value

def number (value : String) : Except UsageError Nat :=
  (number? wordBound value.toList).elim (.error .invalidValue) .ok

def float (value : String) : Except UsageError Float :=
  (float? value.toList).elim (.error .invalidValue) .ok

def policyOf (value : String) : Except UsageError LabelPolicy :=
  (LabelPolicy.read value).mapError fun _ => .invalidValue

def once (held : Option α) (read : String → Except UsageError α) :
    List String → Except UsageError (Option α)
  | [] => .error .emptyValue
  | value :: _ => if held.isSome then .error .repeatedArgument else (read value).map some

def flag (held : Bool) : Except UsageError Bool :=
  if held then .error .repeatedArgument else .ok true

def append (held : List α) (read : String → Except UsageError α) :
    List String → Except UsageError (List α)
  | [] => .error .emptyValue
  | values => (values.mapM read).map (held ++ ·)

def put (r : Readings) (slot : Slot) (values : List String) : Except UsageError Readings :=
  match slot with
  | .logLevel => (once r.logLevel .ok values).map fun logLevel => { r with logLevel }
  | .quiet => (flag r.quiet).map fun quiet => { r with quiet }
  | .noColor => (flag r.noColor).map fun noColor => { r with noColor }
  | .config => (once r.config path values).map fun config => { r with config }
  | .json => (flag r.json).map fun json => { r with json }
  | .help => .error .help
  | .version => .error .version
  | .pack => (once r.pack number values).map fun pack => { r with pack }
  | .scale => (once r.scale float values).map fun scale => { r with scale }
  | .policy => (once r.policy policyOf values).map fun policy => { r with policy }
  | .noTailPadding => (flag r.noTailPadding).map fun noTailPadding => { r with noTailPadding }
  | .search => (append r.search path values).map fun search => { r with search }
  | .file => (once r.file path values).map fun file => { r with file }
  | .line => (once r.line number values).map fun line => { r with line }

def isBare (r : Readings) : Bool :=
  r.logLevel.isNone && !r.quiet && !r.noColor && r.config.isNone && !r.json

end Readings

end ByteGrid
