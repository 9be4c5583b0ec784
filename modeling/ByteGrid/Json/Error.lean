import ByteGrid.Text.Basic

namespace ByteGrid.Json

open ByteGrid.Text

inductive Fault where
  | endInValue
  | endInList
  | endInObject
  | endInString
  | expectedValue
  | expectedWord
  | expectedColon
  | expectedListEnd
  | expectedObjectEnd
  | trailingComma
  | trailingCharacters
  | keyNotString
  | invalidEscape
  | invalidNumber
  | controlCharacter
deriving Repr, DecidableEq

def Fault.message : Fault → String
  | .endInValue => "EOF while parsing a value"
  | .endInList => "EOF while parsing a list"
  | .endInObject => "EOF while parsing an object"
  | .endInString => "EOF while parsing a string"
  | .expectedValue => "expected value"
  | .expectedWord => "expected ident"
  | .expectedColon => "expected `:`"
  | .expectedListEnd => "expected `,` or `]`"
  | .expectedObjectEnd => "expected `,` or `\x7d`"
  | .trailingComma => "trailing comma"
  | .trailingCharacters => "trailing characters"
  | .keyNotString => "key must be a string"
  | .invalidEscape => "invalid escape"
  | .invalidNumber => "invalid number"
  | .controlCharacter => "control character (\\u0000-\\u001F) found while parsing a string"

inductive Mismatch where
  | missing (key : String)
  | repeated (key : String)
  | wrongType (expected : String)
  | outOfRange
  | tooDeep
  | tooLong
  | brokenText
deriving Repr, DecidableEq

def Mismatch.message : Mismatch → String
  | .missing key => "missing field `" ++ key ++ "`"
  | .repeated key => "duplicate field `" ++ key ++ "`"
  | .wrongType expected => "invalid type: expected " ++ expected
  | .outOfRange => "number out of range"
  | .tooDeep => "recursion limit exceeded"
  | .tooLong => "trailing characters"
  | .brokenText => "lone leading surrogate in hex escape"

inductive Cause where
  | fault (f : Fault)
  | mismatch (m : Mismatch)
deriving Repr, DecidableEq

structure Error where
  cause : Cause
  line : Nat
  column : Nat
deriving Repr, DecidableEq

def Error.message (e : Error) : String :=
  (match e.cause with
    | .fault f => f.message
    | .mismatch m => m.message) ++
    " at line " ++ decimal e.line ++ " column " ++ decimal e.column

def Error.after (cause : Cause) (read : List Char) : Error :=
  { cause
    line := 1 + read.count '\n'
    column := (String.ofList (read.reverse.takeWhile (· ≠ '\n'))).utf8ByteSize }

end ByteGrid.Json
