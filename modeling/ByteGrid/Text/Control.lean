import ByteGrid.Text.Character

/-!
Text without what steers a terminal: control characters other than blanks and line ends, and whole
escape sequences. A sequence is followed by a machine that takes one character at a time; on the
characters of ordinary text it stays at its start.
-/

namespace ByteGrid.Text

/-- Where a reader stands in a text that may hold escape sequences. -/
inductive ControlState where
  | start
  | escape
  | sign
  | control
  | device
  | deviceParameter
  | deviceSign
  | string
  | command
deriving Repr, DecidableEq

def isLayoutControl (c : Char) : Bool :=
  c == '\t' || c == '\n' || c == '\x0c' || c == '\r'

def isShown (c : Char) : Bool :=
  isLayoutControl c || (0x20 ≤ c.toNat && c.toNat != 0x7F)

-- Strings are read byte by byte, so a character that has this byte in it ends one.
def endsString (c : Char) : Bool :=
  (String.utf8EncodeChar c).any (· == 0x9C)

def afterEscape (code : Nat) : ControlState :=
  if inRanges [(0x20, 0x2F)] code then .sign
  else if code = 0x5B then .control
  else if code = 0x5D then .command
  else if code = 0x50 then .device
  else if inRanges [(0x58, 0x58), (0x5E, 0x5F)] code then .string
  else if inRanges [(0x30, 0x7E)] code then .start
  else .escape

def untilFinal (state : ControlState) (final code : Nat) : ControlState :=
  if inRanges [(final, 0x7E)] code then .start else state

def inDevice (state : ControlState) (parameters strangers : List CodeRange) (code : Nat) :
    ControlState :=
  if inRanges [(0x20, 0x2F)] code then .deviceSign
  else if inRanges parameters code then .deviceParameter
  else if inRanges strangers code then .string
  else if inRanges [(0x40, 0x7E)] code then .string
  else state

def ControlState.follow (state : ControlState) (c : Char) : ControlState :=
  match state with
  | .start => .start
  | .escape => afterEscape c.toNat
  | .sign => untilFinal .sign 0x30 c.toNat
  | .control => untilFinal .control 0x40 c.toNat
  | .device => inDevice .device [(0x30, 0x39), (0x3B, 0x3F)] [(0x3A, 0x3A)] c.toNat
  | .deviceParameter => inDevice .deviceParameter [(0x30, 0x39), (0x3B, 0x3B)] [(0x3A, 0x3F)] c.toNat
  | .deviceSign => inDevice .deviceSign [] [(0x30, 0x3F)] c.toNat
  | .string => if endsString c then .start else .string
  | .command => if c = '\x07' then .start else .command

def ControlState.isBreakable : ControlState → Bool
  | .start | .escape | .sign | .control => true
  | _ => false

def ControlState.step (state : ControlState) (c : Char) : ControlState × Bool :=
  if c = '\x1b' then (.escape, false)
  else if c = '\x18' ∨ c = '\x1a' then (.start, false)
  else if state.isBreakable && isLayoutControl c then (.start, true)
  else (state.follow c, state == .start && isShown c)

def shownFrom (state : ControlState) : List Char → List Char
  | [] => []
  | c :: cs =>
    if (state.step c).2 then c :: shownFrom (state.step c).1 cs else shownFrom (state.step c).1 cs

def shown (text : String) : String :=
  String.ofList (shownFrom .start text.toList)

end ByteGrid.Text
