import ByteGrid.Except
import ByteGrid.Json.Error
import ByteGrid.Json.Value

/-!
Reading JSON. The reader keeps the arrays and objects it is inside of on a stack, innermost first,
and so takes documents of any depth. Text that breaks the grammar is refused where it breaks it;
what the values mean is left to those who ask for them.
-/

namespace ByteGrid.Json

open ByteGrid.Decimal ByteGrid.Text

structure Stop where
  fault : Fault
  rest : List Char
deriving Repr, DecidableEq

def isSpace (c : Char) : Bool :=
  c == ' ' || c == '\t' || c == '\n' || c == '\r'

def skipSpace (cs : List Char) : List Char :=
  cs.dropWhile isSpace

def readWord (value : Value) : List Char → List Char → Except Stop (Value × List Char)
  | [], cs => .ok (value, cs)
  | _ :: _, [] => .error ⟨.endInValue, []⟩
  | w :: ws, c :: cs => if c = w then readWord value ws cs else .error ⟨.expectedWord, cs⟩

def readDigits (cs : List Char) : Except Stop (List Char × List Char) :=
  match cs with
  | [] => .error ⟨.endInValue, []⟩
  | c :: rest =>
    if c.isDigit then .ok (cs.takeWhile Char.isDigit, cs.dropWhile Char.isDigit)
    else .error ⟨.invalidNumber, rest⟩

def readWhole (cs : List Char) : Except Stop (List Char × List Char) :=
  match cs with
  | '0' :: c :: rest => if c.isDigit then .error ⟨.invalidNumber, rest⟩ else .ok (['0'], c :: rest)
  | _ => readDigits cs

def readFraction (cs : List Char) : Except Stop (List Char × List Char) :=
  match cs with
  | '.' :: rest => readDigits rest
  | _ => .ok ([], cs)

def readPower (cs : List Char) : Except Stop (Option Int × List Char) :=
  match cs with
  | [] => .ok (none, [])
  | c :: rest =>
    if c = 'e' ∨ c = 'E' then
      let (negative, rest) := match rest with
        | '-' :: more => (true, more)
        | '+' :: more => (false, more)
        | _ => (false, rest)
      (readDigits rest).map fun (digits, rest) =>
        let n : Int := digitsValue digits
        (some (if negative then -n else n), rest)
    else .ok (none, cs)

def readNumber (negative : Bool) (cs : List Char) : Except Stop (Value × List Char) := do
  let (whole, cs) ← readWhole cs
  let (fraction, cs) ← readFraction cs
  let (power, cs) ← readPower cs
  return (.number { negative, whole, fraction, power }, cs)

def hexDigit? (c : Char) : Option Nat :=
  if c.isDigit then some (c.toNat - '0'.toNat)
  else if 'a' ≤ c ∧ c ≤ 'f' then some (c.toNat - 'a'.toNat + 10)
  else if 'A' ≤ c ∧ c ≤ 'F' then some (c.toNat - 'A'.toNat + 10)
  else none

def hexUnit? (a b c d : Char) : Option Nat := do
  return (((← hexDigit? a) * 16 + (← hexDigit? b)) * 16 + (← hexDigit? c)) * 16 + (← hexDigit? d)

def shortEscape? (c : Char) : Option Char :=
  match c with
  | '"' => some '"'
  | '\\' => some '\\'
  | '/' => some '/'
  | 'b' => some '\x08'
  | 'f' => some '\x0c'
  | 'n' => some '\n'
  | 'r' => some '\r'
  | 't' => some '\t'
  | _ => none

def pairChar (high low : Nat) : Char :=
  Char.ofNat (0x10000 + (high - 0xD800) * 0x400 + (low - 0xDC00))

/-- A piece of a string: a character, or an escape that stands for half of a surrogate pair. -/
inductive Piece where
  | char (c : Char)
  | half (unit : Nat)

def Piece.ofUnit (unit : Nat) : Piece :=
  if unit < 0xD800 ∨ 0xDFFF < unit then .char (Char.ofNat unit) else .half unit

def consPiece (p : Piece) (r : Except Stop (List Piece × List Char)) :
    Except Stop (List Piece × List Char) :=
  r.map fun (ps, rest) => (p :: ps, rest)

def readPieces : List Char → Except Stop (List Piece × List Char)
  | [] => .error ⟨.endInString, []⟩
  | '"' :: cs => .ok ([], cs)
  | '\\' :: 'u' :: a :: b :: c :: d :: cs =>
    match hexUnit? a b c d with
    | none => .error ⟨.invalidEscape, cs⟩
    | some unit => consPiece (.ofUnit unit) (readPieces cs)
  | '\\' :: c :: cs =>
    match shortEscape? c with
    | some x => consPiece (.char x) (readPieces cs)
    | none => if c = 'u' then .error ⟨.endInString, []⟩ else .error ⟨.invalidEscape, cs⟩
  | ['\\'] => .error ⟨.endInString, []⟩
  | c :: cs =>
    if c.toNat < 0x20 then .error ⟨.controlCharacter, cs⟩ else consPiece (.char c) (readPieces cs)

def textOfPieces : List Piece → Option (List Char)
  | [] => some []
  | .char c :: ps => (textOfPieces ps).map (c :: ·)
  | .half high :: .half low :: ps =>
    if high < 0xDC00 ∧ 0xDC00 ≤ low then (textOfPieces ps).map (pairChar high low :: ·) else none
  | [.half _] => none
  | .half _ :: .char _ :: _ => none

def readString (cs : List Char) : Except Stop (Option String × List Char) :=
  (readPieces cs).map fun (ps, rest) => ((textOfPieces ps).map String.ofList, rest)

inductive Frame where
  | array (items : List Value)
  | object (members : List (Option String × Value)) (key : Option String)

/-- What comes next: a value; a first item or the end of an array; a first key or the end of an
object; a further key; or what follows a value that is complete. -/
inductive Goal where
  | value
  | itemOrEnd
  | keyOrEnd
  | key (members : List (Option String × Value))
  | after (value : Value)

def endFault : Goal → List Frame → Fault
  | .itemOrEnd, _ => .endInList
  | .keyOrEnd, _ => .endInObject
  | .after _, .array _ :: _ => .endInList
  | .after _, .object _ _ :: _ => .endInObject
  | _, _ => .endInValue

def readKey (cs : List Char) : Except Stop (Option String × List Char) := do
  let (text, cs) ← readString cs
  match skipSpace cs with
  | ':' :: rest => return (text, rest)
  | _ :: rest => throw ⟨.expectedColon, rest⟩
  | [] => throw ⟨.endInObject, []⟩

def step (goal : Goal) (stack : List Frame) (c : Char) (cs : List Char) :
    Except Stop (Goal × List Frame × List Char) :=
  match goal, stack with
  | .itemOrEnd, stack =>
    if c = ']' then .ok (.after (.array []), stack, cs) else value c cs (.array [] :: stack)
  | .value, .array (i :: is) :: stack =>
    if c = ']' then .error ⟨.trailingComma, cs⟩ else value c cs (.array (i :: is) :: stack)
  | .value, stack => value c cs stack
  | .keyOrEnd, stack =>
    if c = '\x7d' then .ok (.after (.object []), stack, cs) else key [] c cs stack
  | .key ms, stack => if c = '\x7d' then .error ⟨.trailingComma, cs⟩ else key ms c cs stack
  | .after v, .array items :: stack =>
    if c = ',' then .ok (.value, .array (v :: items) :: stack, cs)
    else if c = ']' then .ok (.after (.array (v :: items).reverse), stack, cs)
    else .error ⟨.expectedListEnd, cs⟩
  | .after v, .object members k :: stack =>
    if c = ',' then .ok (.key ((k, v) :: members), stack, cs)
    else if c = '\x7d' then .ok (.after (.object ((k, v) :: members).reverse), stack, cs)
    else .error ⟨.expectedObjectEnd, cs⟩
  | .after v, [] => .ok (.after v, [], cs)
where
  value (c : Char) (cs : List Char) (stack : List Frame) :
      Except Stop (Goal × List Frame × List Char) :=
    let scalar (r : Except Stop (Value × List Char)) := r.map fun (v, rest) => (.after v, stack, rest)
    match c with
    | 'n' => scalar (readWord .null "ull".toList cs)
    | 't' => scalar (readWord (.bool true) "rue".toList cs)
    | 'f' => scalar (readWord (.bool false) "alse".toList cs)
    | '"' => scalar ((readString cs).map fun (text, rest) => (.string text, rest))
    | '-' => scalar (readNumber true cs)
    | '[' => .ok (.itemOrEnd, stack, cs)
    | '\x7b' => .ok (.keyOrEnd, stack, cs)
    | c => if c.isDigit then scalar (readNumber false (c :: cs)) else .error ⟨.expectedValue, cs⟩
  key (members : List (Option String × Value)) (c : Char) (cs : List Char) (stack : List Frame) :
      Except Stop (Goal × List Frame × List Char) :=
    if c = '"' then (readKey cs).map fun (k, rest) => (.value, .object members k :: stack, rest)
    else .error ⟨.keyNotString, cs⟩

-- Reading goes forward, which is what ends `run`.

theorem readWord_length {v : Value} {ws cs : List Char} {r : Value × List Char}
    (h : readWord v ws cs = .ok r) : r.2.length ≤ cs.length := by
  induction ws generalizing cs with
  | nil => cases cs <;> simp_all [readWord] <;> subst h <;> simp
  | cons w ws ih =>
    cases cs with
    | nil => simp [readWord] at h
    | cons c cs =>
      simp only [readWord] at h
      split at h
      · exact Nat.le_succ_of_le (ih h)
      · cases h

theorem readDigits_length {cs : List Char} {r : List Char × List Char}
    (h : readDigits cs = .ok r) : r.2.length < cs.length := by
  unfold readDigits at h
  split at h
  · cases h
  · rename_i c rest
    split at h
    · rename_i hc
      cases h
      have := (List.dropWhile_sublist Char.isDigit (l := rest)).length_le
      simp [hc]; omega
    · cases h

theorem readWhole_length {cs : List Char} {r : List Char × List Char}
    (h : readWhole cs = .ok r) : r.2.length < cs.length := by
  unfold readWhole at h
  split at h
  · split at h
    · cases h
    · cases h; simp
  · exact readDigits_length h

theorem readFraction_length {cs : List Char} {r : List Char × List Char}
    (h : readFraction cs = .ok r) : r.2.length ≤ cs.length := by
  unfold readFraction at h
  split at h
  · exact Nat.le_succ_of_le (Nat.le_of_lt (readDigits_length h))
  · cases h; simp

theorem readPower_length {cs : List Char} {r : Option Int × List Char}
    (h : readPower cs = .ok r) : r.2.length ≤ cs.length := by
  unfold readPower at h
  split at h
  · cases h; simp
  · split at h
    · obtain ⟨a, ha, rfl⟩ := map_eq_ok h
      have := readDigits_length ha
      split at this <;> simp_all <;> omega
    · cases h; simp

theorem readNumber_length {negative : Bool} {cs : List Char} {r : Value × List Char}
    (h : readNumber negative cs = .ok r) : r.2.length < cs.length := by
  obtain ⟨a, ha, h⟩ := bind_eq_ok h
  obtain ⟨b, hb, h⟩ := bind_eq_ok h
  obtain ⟨c, hc, h⟩ := bind_eq_ok h
  cases h
  have := readWhole_length ha
  have := readFraction_length hb
  have := readPower_length hc
  simp; omega

theorem readPieces_length {cs : List Char} {r : List Piece × List Char}
    (h : readPieces cs = .ok r) : r.2.length < cs.length := by
  fun_induction readPieces cs generalizing r with
  | case1 => cases h
  | case2 cs => cases h; simp
  | case3 => cases h
  | case4 a b c d cs unit _ ih =>
    obtain ⟨x, hx, rfl⟩ := map_eq_ok h
    have := ih hx
    simp; omega
  | case5 c cs _ x _ ih =>
    obtain ⟨y, hy, rfl⟩ := map_eq_ok h
    have := ih hy
    simp; omega
  | case6 => cases h
  | case7 => cases h
  | case8 => cases h
  | case9 => cases h
  | case10 c cs _ _ _ _ _ ih =>
    obtain ⟨y, hy, rfl⟩ := map_eq_ok h
    have := ih hy
    simp; omega

theorem readString_length {cs : List Char} {r : Option String × List Char}
    (h : readString cs = .ok r) : r.2.length < cs.length := by
  obtain ⟨a, ha, rfl⟩ := map_eq_ok h
  exact readPieces_length ha

theorem readKey_length {cs : List Char} {r : Option String × List Char}
    (h : readKey cs = .ok r) : r.2.length < cs.length := by
  obtain ⟨⟨text, mid⟩, ha, h⟩ := bind_eq_ok h
  have hs := readString_length ha
  have hd := (List.dropWhile_sublist isSpace (l := mid)).length_le
  simp only [skipSpace] at h hs
  generalize mid.dropWhile isSpace = tail at h hd
  split at h
  · cases h
    simp only [List.length_cons] at hd
    simp only
    omega
  · cases h
  · cases h

theorem step_value_length {c : Char} {cs : List Char} {stack : List Frame}
    {r : Goal × List Frame × List Char} (h : step.value c cs stack = .ok r) :
    r.2.2.length ≤ cs.length := by
  unfold step.value at h
  simp only at h
  split at h
  · obtain ⟨a, ha, rfl⟩ := map_eq_ok h
    exact readWord_length ha
  · obtain ⟨a, ha, rfl⟩ := map_eq_ok h
    exact readWord_length ha
  · obtain ⟨a, ha, rfl⟩ := map_eq_ok h
    exact readWord_length ha
  · obtain ⟨a, ha, rfl⟩ := map_eq_ok h
    obtain ⟨b, hb, rfl⟩ := map_eq_ok ha
    exact Nat.le_of_lt (readString_length hb)
  · obtain ⟨a, ha, rfl⟩ := map_eq_ok h
    exact Nat.le_of_lt (readNumber_length ha)
  · cases h; simp
  · cases h; simp
  · split at h
    · obtain ⟨a, ha, rfl⟩ := map_eq_ok h
      exact Nat.le_of_lt_succ (readNumber_length ha)
    · cases h

theorem step_key_length {ms : List (Option String × Value)} {c : Char} {cs : List Char}
    {stack : List Frame} {r : Goal × List Frame × List Char}
    (h : step.key ms c cs stack = .ok r) : r.2.2.length ≤ cs.length := by
  unfold step.key at h
  split at h
  · obtain ⟨a, ha, rfl⟩ := map_eq_ok h
    exact Nat.le_of_lt (readKey_length ha)
  · cases h

theorem step_length {goal : Goal} {stack : List Frame} {c : Char} {cs : List Char}
    {r : Goal × List Frame × List Char} (h : step goal stack c cs = .ok r) :
    r.2.2.length ≤ cs.length := by
  unfold step at h
  split at h
  · split at h
    · cases h; simp
    · exact step_value_length h
  · split at h
    · cases h
    · exact step_value_length h
  · exact step_value_length h
  · split at h
    · cases h; simp
    · exact step_key_length h
  · split at h
    · cases h
    · exact step_key_length h
  · split at h
    · cases h; simp
    · split at h
      · cases h; simp
      · cases h
  · split at h
    · cases h; simp
    · split at h
      · cases h; simp
      · cases h
  · cases h; simp

/-- Reads on from a goal, inside of the arrays and objects of the stack, until the outermost value
is complete. -/
def run (goal : Goal) (stack : List Frame) (cs : List Char) : Except Stop (Value × List Char) :=
  match goal, stack with
  | .after v, [] => .ok (v, cs)
  | goal, stack =>
    match _skipped : skipSpace cs with
    | [] => .error ⟨endFault goal stack, []⟩
    | c :: rest =>
      match _stepped : step goal stack c rest with
      | .error stop => .error stop
      | .ok (goal, stack, rest) => run goal stack rest
termination_by cs.length
decreasing_by
  have := step_length _stepped
  have := (List.dropWhile_sublist isSpace (l := cs)).length_le
  simp only [skipSpace] at _skipped
  simp only [_skipped, List.length_cons] at this
  simp only at *
  omega

def Value.read (text : String) : Except Error Value :=
  let cs := text.toList
  let refuse (stop : Stop) :=
    Error.after (.fault stop.fault) (cs.take (cs.length - stop.rest.length))
  match run .value [] cs with
  | .error stop => .error (refuse stop)
  | .ok (v, rest) =>
    match skipSpace rest with
    | [] => .ok v
    | _ :: rest => .error (refuse ⟨.trailingCharacters, rest⟩)

end ByteGrid.Json
