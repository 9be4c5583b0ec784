import ByteGrid.Json.Reader
import ByteGrid.Json.Writer

namespace ByteGrid.Json

open ByteGrid.Text

variable {rest : List Char}

def unitOf (cs : List Char) : Option Nat :=
  match cs with
  | [a, b, c, d] => hexUnit? a b c d
  | _ => none

theorem unitOf_hexadecimal : ∀ n < 0x20, unitOf (hexadecimal 4 n).toList = some n := by
  simp only [hexadecimal, String.toList_ofList]
  decide

theorem readPieces_unit {cs : List Char} {n : Nat} (h : unitOf cs = some n) :
    readPieces ('\\' :: 'u' :: (cs ++ rest)) = consPiece (.ofUnit n) (readPieces rest) := by
  unfold unitOf at h
  split at h
  · simp only [List.cons_append, List.nil_append, readPieces, h]
  · cases h

theorem readPieces_plain {c : Char} (hq : c ≠ '"') (hb : c ≠ '\\') (hc : 0x20 ≤ c.toNat) :
    readPieces (c :: rest) = consPiece (.char c) (readPieces rest) := by
  rw [readPieces.eq_def]
  split
  · rename_i heq
    cases heq
  · rename_i heq
    cases heq
    exact absurd rfl hq
  · rename_i heq
    cases heq
    exact absurd rfl hb
  · rename_i heq
    cases heq
    exact absurd rfl hb
  · rename_i heq
    cases heq
    exact absurd rfl hb
  · rename_i heq
    cases heq
    rw [if_neg (by omega)]

theorem readPieces_escapeChar (c : Char) (rest : List Char) :
    readPieces (escapeChar c ++ rest) = consPiece (.char c) (readPieces rest) := by
  unfold escapeChar
  split
  · simp [readPieces, shortEscape?]
  · simp [readPieces, shortEscape?]
  · simp [readPieces, shortEscape?]
  · simp [readPieces, shortEscape?]
  · simp [readPieces, shortEscape?]
  · simp [readPieces, shortEscape?]
  · simp [readPieces, shortEscape?]
  · rename_i hquote hslash _ _ _ _ _
    by_cases hc : c.toNat < 0x20
    · have hunit : Piece.ofUnit c.toNat = .char c := by
        rw [Piece.ofUnit, if_pos (by omega), Char.ofNat_toNat]
      rw [if_pos hc, List.cons_append, List.cons_append,
        readPieces_unit (unitOf_hexadecimal c.toNat hc), hunit]
    · rw [if_neg hc]
      exact readPieces_plain (by simpa using hquote) (by simpa using hslash) (by omega)

theorem readPieces_escape (cs rest : List Char) :
    readPieces (cs.flatMap escapeChar ++ '"' :: rest) = .ok (cs.map .char, rest) := by
  induction cs with
  | nil => rfl
  | cons c cs ih =>
    rw [List.flatMap_cons, List.append_assoc, readPieces_escapeChar, ih]
    rfl

theorem textOfPieces_char (cs : List Char) : textOfPieces (cs.map .char) = some cs := by
  induction cs with
  | nil => rfl
  | cons c cs ih => rw [List.map_cons, textOfPieces, ih, Option.map_some]

theorem readString_escape (s : String) (rest : List Char) :
    readString (s.toList.flatMap escapeChar ++ '"' :: rest) = .ok (some s, rest) := by
  rw [readString, readPieces_escape]
  simp only [Except.map, textOfPieces_char, Option.map_some, String.ofList_toList]

end ByteGrid.Json
