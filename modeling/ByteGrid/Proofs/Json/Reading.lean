import ByteGrid.Proofs.Json.Numerals
import ByteGrid.Proofs.Json.Strings

namespace ByteGrid.Json

open ByteGrid.Decimal ByteGrid.Text

mutual

def Value.Writable : Value → Prop
  | .null => True
  | .bool _ => True
  | .number n => Valid n
  | .string s => s.isSome = true
  | .array vs => itemsWritable vs
  | .object ms => membersWritable ms

def itemsWritable : List Value → Prop
  | [] => True
  | v :: vs => v.Writable ∧ itemsWritable vs

def membersWritable : List (Option String × Value) → Prop
  | [] => True
  | (k, v) :: ms => k.isSome = true ∧ v.Writable ∧ membersWritable ms

end

def Blank (cs : List Char) : Prop :=
  ∀ c ∈ cs, isSpace c = true

structure Spacing.Blank (sp : Spacing) : Prop where
  line : ∀ depth, Json.Blank (sp.line depth)
  colon : Json.Blank sp.colon

def resume (r : Goal × List Frame × List Char) : Except Stop (Value × List Char) :=
  run r.1 r.2.1 r.2.2

/-- The text is that of a value: from its first sign on, the value is read and nothing else. -/
def Reads (text : List Char) (v : Value) : Prop :=
  ∃ c cs, text = c :: cs ∧ isSpace c = false ∧ c ≠ ']' ∧
    ∀ stack rest, NumberFree rest →
      (step.value c (cs ++ rest) stack >>= resume) = run (.after v) stack rest

variable {sp : Spacing} {text blanks cs rest : List Char} {c : Char} {goal : Goal} {stack : List Frame}
variable {v : Value}

theorem compact_blank : Spacing.compact.Blank where
  line _ := by simp [Spacing.compact, Blank]
  colon := by simp [Spacing.compact, Blank]

theorem pretty_blank : Spacing.pretty.Blank where
  line depth := by
    intro c hc
    rcases List.mem_cons.mp hc with rfl | hc
    · rfl
    · rw [(List.mem_replicate.mp hc).2]
      rfl
  colon := by
    intro c hc
    rw [List.mem_singleton.mp hc]
    rfl

theorem skipSpace_append (hb : Blank blanks) (cs : List Char) :
    skipSpace (blanks ++ cs) = skipSpace cs :=
  List.dropWhile_append_of_pos hb

theorem skipSpace_cons (hc : isSpace c = false) (cs : List Char) : skipSpace (c :: cs) = c :: cs :=
  List.dropWhile_cons_of_neg (by simp [hc])

theorem isSpace_digit (hc : c.isDigit = true) : isSpace c = false := by
  cases hs : isSpace c with
  | false => rfl
  | true =>
    simp only [isSpace, Bool.or_eq_true, beq_iff_eq] at hs
    rcases hs with ((rfl | rfl) | rfl) | rfl <;> exact absurd hc (by decide)

theorem numberFree_blank (hb : Blank blanks) (hcs : NumberFree cs) : NumberFree (blanks ++ cs) := by
  intro c hc
  cases blanks with
  | nil => exact hcs c hc
  | cons b bs =>
    obtain rfl : b = c := by simpa using hc
    have hb := hb b (.head _)
    simp only [isSpace, Bool.or_eq_true, beq_iff_eq] at hb
    rcases hb with ((rfl | rfl) | rfl) | rfl <;> decide

theorem numberFree_sign (hc : c = ',' ∨ c = ']' ∨ c = '\x7d') (cs : List Char) :
    NumberFree (c :: cs) := by
  intro x hx
  obtain rfl : c = x := by simpa using hx
  rcases hc with rfl | rfl | rfl <;> decide

theorem run_step (hopen : ∀ v, goal = .after v → stack ≠ []) (hs : skipSpace text = c :: cs) :
    run goal stack text = (step goal stack c cs >>= resume) := by
  rw [run.eq_def]
  split
  · exact absurd rfl (hopen _ rfl)
  · split
    · rename_i hnil
      rw [hs] at hnil
      cases hnil
    · rename_i heq
      rw [hs, List.cons.injEq] at heq
      obtain ⟨rfl, rfl⟩ := heq
      split
      · rename_i hstep
        rw [hstep]
        rfl
      · rename_i hstep
        rw [hstep]
        rfl

theorem step_value (hc : c ≠ ']') : step .value stack c cs = step.value c cs stack := by
  match stack with
  | [] => rfl
  | .array [] :: _ => rfl
  | .array (i :: is) :: _ => rw [step, if_neg hc]
  | .object _ _ :: _ => rfl

theorem Reads.after_value (h : Reads text v) (hb : Blank blanks) (hrest : NumberFree rest) :
    run .value stack (blanks ++ (text ++ rest)) = run (.after v) stack rest := by
  obtain ⟨c, cs, rfl, hc, hclose, hread⟩ := h
  rw [← hread stack rest hrest, List.cons_append, run_step (by simp)
    ((skipSpace_append hb _).trans (skipSpace_cons hc (cs ++ rest))), step_value hclose]

theorem Reads.after_item (h : Reads text v) (hb : Blank blanks) (hrest : NumberFree rest) :
    run .itemOrEnd stack (blanks ++ (text ++ rest)) = run (.after v) (.array [] :: stack) rest := by
  obtain ⟨c, cs, rfl, hc, hclose, hread⟩ := h
  rw [← hread _ rest hrest, List.cons_append, run_step (by simp)
    ((skipSpace_append hb _).trans (skipSpace_cons hc (cs ++ rest))), step, if_neg hclose]

theorem readKey_write (k : String) (rest : List Char) :
    readKey (k.toList.flatMap escapeChar ++ '"' :: ':' :: rest) = .ok (some k, rest) := by
  simp only [readKey, readString_escape, bind, Except.bind, skipSpace_cons (by decide : isSpace ':' = false)]
  rfl

theorem step_key (ms : List (Option String × Value)) (k : String) :
    step.key ms '"' (k.toList.flatMap escapeChar ++ '"' :: ':' :: rest) stack =
      .ok (.value, .object ms (some k) :: stack, rest) := by
  rw [step.key, if_pos rfl, readKey_write]
  rfl

theorem key_append (sp : Spacing) (k : String) (rest : List Char) : sp.key (some k) ++ rest =
    '"' :: (k.toList.flatMap escapeChar ++ '"' :: ':' :: (sp.colon ++ rest)) := by
  simp [Spacing.key, writeText]

theorem run_key (hb : Blank blanks) (ms : List (Option String × Value)) (k : String) :
    run (.key ms) stack (blanks ++ (sp.key (some k) ++ rest)) =
      run .value (.object ms (some k) :: stack) (sp.colon ++ rest) := by
  rw [key_append, run_step (by simp) ((skipSpace_append hb _).trans (skipSpace_cons (by decide) _)),
    step, if_neg (by decide), step_key]
  rfl

theorem run_firstKey (hb : Blank blanks) (k : String) :
    run .keyOrEnd stack (blanks ++ (sp.key (some k) ++ rest)) =
      run .value (.object [] (some k) :: stack) (sp.colon ++ rest) := by
  rw [key_append, run_step (by simp) ((skipSpace_append hb _).trans (skipSpace_cons (by decide) _)),
    step, if_neg (by decide), step_key]
  rfl

theorem step_value_digit (hc : c.isDigit = true) :
    step.value c cs stack =
      (readNumber false (c :: cs)).map fun (v, rest) => (.after v, stack, rest) := by
  unfold step.value
  split
  case h_8 => rw [if_pos hc]
  all_goals exact absurd hc (by decide)

theorem reads_number {n : Numeral} (hn : Valid n) : Reads (n.write true) (.number n) := by
  cases hneg : n.negative with
  | true =>
    refine ⟨'-', n.whole ++ tail n, ?_, by decide, by decide, fun stack rest hrest => ?_⟩
    · rw [write_eq, hneg, if_pos rfl]
      rfl
    · have hread := readNumber_append hn hrest
      rw [hneg] at hread
      rw [List.append_assoc, step.value, hread]
      rfl
  | false =>
    obtain ⟨d, ds, hd⟩ := List.exists_cons_of_ne_nil hn.nonempty
    have hdigit : d.isDigit = true := hn.whole d (by simp [hd])
    refine ⟨d, ds ++ tail n, ?_, ?_, ?_, fun stack rest hrest => ?_⟩
    · rw [write_eq, hneg, hd]
      rfl
    · exact isSpace_digit hdigit
    · rintro rfl
      exact absurd hdigit (by decide)
    · have hread := readNumber_append hn hrest
      rw [hneg, hd] at hread
      rw [step_value_digit hdigit, List.append_assoc, ← List.cons_append, hread]
      rfl

theorem reads_text (s : String) : Reads (writeText s) (.string (some s)) := by
  refine ⟨'"', s.toList.flatMap escapeChar ++ ['"'], rfl, by decide, by decide, ?_⟩
  intro stack rest _
  rw [List.append_assoc, List.singleton_append, step.value, readString_escape]
  rfl

theorem close_array (hb : Blank blanks) (acc : List Value) (v : Value) :
    run (.after v) (.array acc :: stack) (blanks ++ ']' :: rest) =
      run (.after (.array (acc.reverse ++ [v]))) stack rest := by
  rw [run_step (by simp) ((skipSpace_append hb _).trans (skipSpace_cons (by decide) _)), step,
    if_neg (by decide), if_pos rfl, List.reverse_cons]
  rfl

theorem close_object (hb : Blank blanks) (acc : List (Option String × Value)) (k : Option String)
    (v : Value) :
    run (.after v) (.object acc k :: stack) (blanks ++ '\x7d' :: rest) =
      run (.after (.object (acc.reverse ++ [(k, v)]))) stack rest := by
  rw [run_step (by simp) ((skipSpace_append hb _).trans (skipSpace_cons (by decide) _)), step,
    if_neg (by decide), if_pos rfl, List.reverse_cons]
  rfl

theorem next_item (acc : List Value) (v : Value) :
    run (.after v) (.array acc :: stack) (',' :: rest) = run .value (.array (v :: acc) :: stack) rest := by
  rw [run_step (by simp) (skipSpace_cons (by decide) _), step, if_pos rfl]
  rfl

theorem next_member (acc : List (Option String × Value)) (k : Option String) (v : Value) :
    run (.after v) (.object acc k :: stack) (',' :: rest) = run (.key ((k, v) :: acc)) stack rest := by
  rw [run_step (by simp) (skipSpace_cons (by decide) _), step, if_pos rfl]
  rfl

theorem numberFree_items (hb : Blank blanks) (depth : Nat) (vs : List Value) :
    NumberFree (writeItems sp depth vs ++ (blanks ++ ']' :: rest)) := by
  cases vs with
  | nil =>
    rw [writeItems, List.nil_append]
    exact numberFree_blank hb (numberFree_sign (.inr (.inl rfl)) rest)
  | cons v vs => exact numberFree_sign (.inl rfl) _

theorem numberFree_members (hb : Blank blanks) (depth : Nat) (ms : List (Option String × Value)) :
    NumberFree (writeMembers sp depth ms ++ (blanks ++ '\x7d' :: rest)) := by
  cases ms with
  | nil =>
    rw [writeMembers, List.nil_append]
    exact numberFree_blank hb (numberFree_sign (.inr (.inr rfl)) rest)
  | cons m ms => exact numberFree_sign (.inl rfl) _

mutual

theorem reads_write (hsp : sp.Blank) (depth : Nat) :
    (v : Value) → v.Writable → Reads (v.write sp depth) v
  | .null, _ =>
    ⟨'n', ['u', 'l', 'l'], rfl, by decide, by decide, fun stack rest _ => by
      simp [step.value, readWord, Except.map, bind, Except.bind, resume]⟩
  | .bool true, _ =>
    ⟨'t', ['r', 'u', 'e'], rfl, by decide, by decide, fun stack rest _ => by
      simp [step.value, readWord, Except.map, bind, Except.bind, resume]⟩
  | .bool false, _ =>
    ⟨'f', ['a', 'l', 's', 'e'], rfl, by decide, by decide, fun stack rest _ => by
      simp [step.value, readWord, Except.map, bind, Except.bind, resume]⟩
  | .number n, hn => by
    rw [Value.write]
    exact reads_number hn
  | .string (some s), _ => by
    rw [Value.write]
    exact reads_text s
  | .array [], _ => by
    refine ⟨'[', [']'], rfl, by decide, by decide, fun stack rest _ => ?_⟩
    change run .itemOrEnd stack (']' :: rest) = _
    rw [run_step (by simp) (skipSpace_cons (by decide) _), step, if_pos rfl]
    rfl
  | .array (v :: vs), hv => by
    rw [Value.Writable, itemsWritable] at hv
    refine ⟨'[', _, by rw [Value.write], by decide, by decide, fun stack rest _ => ?_⟩
    simp only [List.append_assoc, List.singleton_append]
    change run .itemOrEnd stack _ = _
    rw [(reads_write hsp (depth + 1) v hv.1).after_item (hsp.line _)
        (numberFree_items (hsp.line depth) (depth + 1) vs),
      run_writeItems hsp (depth + 1) vs hv.2 (hsp.line depth)]
    rfl
  | .object [], _ => by
    refine ⟨'\x7b', ['\x7d'], rfl, by decide, by decide, fun stack rest _ => ?_⟩
    change run .keyOrEnd stack ('\x7d' :: rest) = _
    rw [run_step (by simp) (skipSpace_cons (by decide) _), step, if_pos rfl]
    rfl
  | .object ((some k, v) :: ms), hv => by
    rw [Value.Writable, membersWritable] at hv
    refine ⟨'\x7b', _, by rw [Value.write], by decide, by decide, fun stack rest _ => ?_⟩
    simp only [List.append_assoc, List.singleton_append]
    change run .keyOrEnd stack _ = _
    rw [run_firstKey (hsp.line _), (reads_write hsp (depth + 1) v hv.2.1).after_value hsp.colon
        (numberFree_members (hsp.line depth) (depth + 1) ms),
      run_writeMembers hsp (depth + 1) ms hv.2.2 (hsp.line depth)]
    rfl

theorem run_writeItems (hsp : sp.Blank) (depth : Nat) :
    (vs : List Value) → itemsWritable vs → ∀ {blanks rest : List Char} {stack : List Frame}
      {acc : List Value} {v : Value}, Blank blanks →
      run (.after v) (.array acc :: stack) (writeItems sp depth vs ++ (blanks ++ ']' :: rest)) =
        run (.after (.array (acc.reverse ++ v :: vs))) stack rest
  | [], _, _, _, _, acc, v, hb => close_array hb acc v
  | w :: vs, hv, _, _, _, acc, v, hb => by
    rw [itemsWritable] at hv
    rw [writeItems]
    simp only [List.cons_append, List.append_assoc]
    rw [next_item, (reads_write hsp depth w hv.1).after_value (hsp.line depth)
        (numberFree_items hb depth vs),
      run_writeItems hsp depth vs hv.2 hb, List.reverse_cons, List.append_assoc]
    rfl

theorem run_writeMembers (hsp : sp.Blank) (depth : Nat) :
    (ms : List (Option String × Value)) → membersWritable ms →
      ∀ {blanks rest : List Char} {stack : List Frame} {acc : List (Option String × Value)}
      {k : Option String} {v : Value}, Blank blanks →
      run (.after v) (.object acc k :: stack) (writeMembers sp depth ms ++ (blanks ++ '\x7d' :: rest)) =
        run (.after (.object (acc.reverse ++ (k, v) :: ms))) stack rest
  | [], _, _, _, _, acc, k, v, hb => close_object hb acc k v
  | (some j, w) :: ms, hv, _, _, _, acc, k, v, hb => by
    rw [membersWritable] at hv
    rw [writeMembers]
    simp only [List.cons_append, List.append_assoc]
    rw [next_member, run_key (hsp.line depth), (reads_write hsp depth w hv.2.1).after_value hsp.colon
        (numberFree_members hb depth ms),
      run_writeMembers hsp depth ms hv.2.2 hb, List.reverse_cons, List.append_assoc]
    rfl

end

theorem read_write (hsp : sp.Blank) (hv : v.Writable) (hb : Blank blanks) :
    Value.read (String.ofList (v.write sp 0 ++ blanks)) = .ok v := by
  have hfree : NumberFree blanks := by
    have hnil : NumberFree [] := by simp [NumberFree]
    simpa using numberFree_blank hb hnil
  have hread : run .value [] ([] ++ (v.write sp 0 ++ blanks)) = run (.after v) [] blanks :=
    (reads_write hsp 0 v hv).after_value (by simp [Blank]) hfree
  have hend : skipSpace blanks = [] := by
    rw [← List.append_nil blanks, skipSpace_append hb]
    rfl
  have hdone : run (.after v) [] blanks = .ok (v, blanks) := by
    rw [run]
  rw [List.nil_append, hdone] at hread
  rw [Value.read, String.toList_ofList, hread]
  simp only [hend]

theorem read_pretty (hv : v.Writable) : Value.read (v.pretty ++ "\n") = .ok v := by
  have hnewline : v.pretty ++ "\n" = String.ofList (v.write .pretty 0 ++ ['\n']) := by
    rw [Value.pretty, String.ofList_append]
  rw [hnewline]
  exact read_write pretty_blank hv (by simp [Blank, isSpace])

theorem read_written (hsp : sp.Blank) (hv : v.Writable) :
    Value.read (String.ofList (v.write sp 0)) = .ok v := by
  have hnil : Blank [] := by simp [Blank]
  have hread := read_write hsp hv hnil
  rwa [List.append_nil] at hread

end ByteGrid.Json
