import GuardedWork.Text.JsonTree
import GuardedWork.Yaml.Scalar

namespace GuardedWork

open Yaml (escapedChar? escapeWidth? hexValue? isBreak isSpace numberedChar? readQuoted Cursor Gap)

namespace JsonTree

def escaped (cs : List Char) : List Char := cs.flatMap escapedChar

-- How a character is written between quotes, and what reads it back.
inductive Written (c : Char) : List Char → Prop where
  | itself (unquoted : c ≠ '"') (unescaped : c ≠ '\\') (shown : 0x20 ≤ c.toNat) : Written c [c]
  | lettered (x : Char) (reads : escapedChar? x = some c) (shown : 0x20 ≤ x.toNat) : Written c ['\\', x]
  | numbered (a b : Char) (reads : ∀ rest, numberedChar? 4 ('0' :: '0' :: a :: b :: rest) = some c)
      (shown : 0x20 ≤ a.toNat ∧ 0x20 ≤ b.toNat) : Written c ['\\', 'u', '0', '0', a, b]

theorem hexDigit_reads : ∀ d < 16, hexValue? (hexDigit d) = some d ∧ 0x20 ≤ (hexDigit d).toNat := by decide

theorem numbered_written (c : Char) (control : c.toNat < 0x20) :
    Written c ['\\', 'u', '0', '0', hexDigit (c.toNat / 16), hexDigit (c.toNat % 16)] := by
  obtain ⟨high, shownHigh⟩ := hexDigit_reads (c.toNat / 16) (by omega)
  obtain ⟨low, shownLow⟩ := hexDigit_reads (c.toNat % 16) (by omega)
  refine .numbered _ _ (fun rest => ?_) ⟨shownHigh, shownLow⟩
  have digits : (['0', '0', hexDigit (c.toNat / 16), hexDigit (c.toNat % 16)].mapM hexValue?) =
      some [0, 0, c.toNat / 16, c.toNat % 16] := by
    simp only [List.mapM_cons, List.mapM_nil, high, low]
    rfl
  have number : 16 * (16 * (16 * (16 * 0 + 0) + 0) + c.toNat / 16) + c.toNat % 16 = c.toNat := by omega
  unfold numberedChar?
  rw [List.take_succ_cons, List.take_succ_cons, List.take_succ_cons, List.take_succ_cons, List.take_zero, digits]
  simp only [Option.bind_eq_bind, Option.bind_some, List.length_cons, List.length_nil, List.foldl_cons,
    List.foldl_nil, number]
  rw [if_pos trivial, Yaml.codePoint?, if_pos (Or.inl (by omega)), Char.ofNat_toNat]

theorem escapedChar_written (c : Char) : Written c (escapedChar c) := by
  unfold escapedChar
  split
  · exact .lettered '"' rfl (by decide)
  · exact .lettered '\\' rfl (by decide)
  · exact .lettered 'n' rfl (by decide)
  · exact .lettered 'r' rfl (by decide)
  · exact .lettered 't' rfl (by decide)
  · exact .lettered 'b' rfl (by decide)
  · exact .lettered 'f' rfl (by decide)
  · next unquoted unescaped _ _ _ _ _ =>
    split
    · next control => exact numbered_written c control
    · next shown => exact .itself unquoted unescaped (Nat.le_of_not_lt shown)

theorem Written.shown {c x : Char} {cs : List Char} (written : Written c cs) (member : x ∈ cs) : 0x20 ≤ x.toNat := by
  cases written with
  | itself _ _ shown => exact List.mem_singleton.mp member ▸ shown
  | lettered y _ shown =>
    rcases List.mem_cons.mp member with rfl | member
    · decide
    · exact List.mem_singleton.mp member ▸ shown
  | numbered a b _ shown =>
    simp only [List.mem_cons, List.not_mem_nil, or_false] at member
    rcases member with rfl | rfl | rfl | rfl | rfl | rfl
    · decide
    · decide
    · decide
    · decide
    · exact shown.1
    · exact shown.2

theorem Written.length_pos {c : Char} {cs : List Char} (written : Written c cs) : 0 < cs.length := by
  cases written <;> exact Nat.succ_pos _

theorem escaped_shown {x : Char} {cs : List Char} (member : x ∈ escaped cs) : 0x20 ≤ x.toNat := by
  obtain ⟨c, _, inside⟩ := List.mem_flatMap.mp member
  exact (escapedChar_written c).shown inside

-- A text with its quotes.
def quotedText (cs : List Char) : List Char := '"' :: escaped cs ++ ['"']

theorem text_quoted (s : String) : (escapedText s).toList = quotedText s.toList := by
  rw [escapedText, String.toList_append, String.toList_append]
  exact congrArg (fun inner => '"' :: inner ++ ['"']) String.toList_ofList

theorem quoted_shown (cs : List Char) : ∀ y ∈ quotedText cs, 0x20 ≤ y.toNat := by
  intro y member
  rcases List.mem_append.mp member with member | member
  · rcases List.mem_cons.mp member with rfl | member
    · decide
    · exact escaped_shown member
  · exact List.mem_singleton.mp member ▸ by decide

end JsonTree

namespace Yaml

variable {c d : Cursor} {x : Char} {cs rest : List Char} {g : Gap} {fuel : Nat}

theorem shown_no_break (shown : 0x20 ≤ x.toNat) : isBreak x = false := by
  rw [isBreak, Bool.or_eq_false_iff, beq_eq_false_iff_ne, beq_eq_false_iff_ne]
  constructor
  · rintro rfl; exact absurd shown (by decide)
  · rintro rfl; exact absurd shown (by decide)

theorem shown_no_space (shown : 0x20 ≤ x.toNat) (visible : x ≠ ' ') : isSpace x = false := by
  rw [isSpace, Bool.or_eq_false_iff, beq_eq_false_iff_ne, beq_eq_false_iff_ne]
  refine ⟨visible, ?_⟩
  rintro rfl
  exact absurd shown (by decide)

namespace Cursor

-- The place behind some characters of the same line.
structure Along (c : Cursor) (cs rest : List Char) (d : Cursor) : Prop where
  rest : d.rest = rest
  line : d.line = c.line
  column : d.column = c.column + cs.length
  index : d.index = c.index + cs.length

theorem next_along (shown : 0x20 ≤ x.toNat) (ahead : c.rest = x :: rest) : c.Along [x] rest c.next := by
  have line : x ≠ '\n' := by rintro rfl; exact absurd shown (by decide)
  have next : c.next = ⟨rest, c.line, c.column + 1, c.index + 1⟩ := by
    unfold Cursor.next
    rw [ahead]
    split
    · next same => cases same
    · next same => cases same; exact absurd rfl line
    · next same => cases same; rfl
  rw [next]
  exact ⟨rfl, rfl, rfl, rfl⟩

theorem skip_along (shown : ∀ x ∈ cs, 0x20 ≤ x.toNat) (ahead : c.rest = cs ++ rest) :
    c.Along cs rest (c.skip cs.length) := by
  induction cs generalizing c with
  | nil => exact ⟨ahead, rfl, rfl, rfl⟩
  | cons x xs ih =>
    obtain ⟨first, others⟩ := List.forall_mem_cons.mp shown
    have next := next_along first ahead
    have behind := ih others next.rest
    refine ⟨behind.rest, behind.line.trans next.line, ?_, ?_⟩
    · rw [List.length_cons, skip, behind.column, next.column, List.length_singleton]
      omega
    · rw [List.length_cons, skip, behind.index, next.index, List.length_singleton]
      omega

theorem skip_skip (m n : Nat) (c : Cursor) : (c.skip m).skip n = c.skip (m + n) := by
  induction m generalizing c with
  | zero => rw [skip, Nat.zero_add]
  | succ m ih => rw [skip, ih, Nat.succ_add, skip]

theorem inside_no_mark (inside : 0 < c.column) : c.atDocumentMark = false := by
  rw [atDocumentMark, beq_eq_false_iff_ne.mpr (Nat.ne_of_gt inside), Bool.false_and]

end Cursor

namespace Gap

theorem readAll_stays (least : Int) (ahead : c.rest = x :: rest) (space : isSpace x = false)
    (line : isBreak x = false) : readAll least g c = some (g, c) := by
  unfold readAll
  rw [ahead, List.length_cons, read, ahead]
  dsimp only
  rw [space, line, if_neg Bool.false_ne_true, if_neg Bool.false_ne_true]

-- A space among words on one line is kept.
theorem readAll_space (least : Int) (ahead : c.rest = ' ' :: rest) (word : g.lineStart = false) :
    readAll least g c = readAll least { g with spaces := g.spaces ++ [' '] } c.next := by
  have shorter : c.next.rest = rest := (Cursor.next_rest c).trans (congrArg List.tail ahead)
  have space : isSpace ' ' = true := rfl
  unfold readAll
  rw [ahead, List.length_cons, read, ahead, shorter]
  dsimp only
  rw [if_pos space, word, if_neg Bool.false_ne_true]

end Gap

open JsonTree (Written escaped escapedChar escapedChar_written)

-- What is read from a place on, behind what has been read up to there.
def following (fuel : Nat) (read : List Char) (c : Cursor) : Option (List Char × Cursor) := do
  let (more, c) ← readQuoted true fuel c
  some (read ++ more, c)

def followingGap (fuel : Nat) (g : Gap) (c : Cursor) : Option (List Char × Cursor) := do
  let (g, c) ← Gap.readAll 0 g c
  following fuel g.text c

theorem following_some (read : List Char) (reads : readQuoted true fuel c = some (cs, d)) :
    following fuel read c = some (read ++ cs, d) := by
  rw [following, reads]
  rfl

theorem readQuoted_end (inside : 0 < c.column) (ahead : c.rest = '"' :: rest) :
    readQuoted true (fuel + 1) c = some ([], c.next) := by
  rw [readQuoted, Cursor.inside_no_mark inside, ahead]
  rfl

theorem readQuoted_space (inside : 0 < c.column) (ahead : c.rest = ' ' :: rest) :
    readQuoted true (fuel + 1) c = followingGap fuel .empty c := by
  rw [readQuoted, Cursor.inside_no_mark inside, ahead]
  rfl

theorem readQuoted_itself (inside : 0 < c.column) (ahead : c.rest = x :: rest) (unquoted : x ≠ '"')
    (unescaped : x ≠ '\\') (shown : 0x20 ≤ x.toNat) (visible : x ≠ ' ') :
    readQuoted true (fuel + 1) c = following fuel [x] c.next := by
  rw [readQuoted, Cursor.inside_no_mark inside, ahead, if_neg Bool.false_ne_true]
  split
  · next same => cases same
  · next never _ => cases never
  · next never _ => cases never
  · next same => cases same; exact absurd rfl unquoted
  · next same => cases same; exact absurd rfl unescaped
  · next same => cases same; exact absurd rfl unescaped
  · next same _ _ _ _ _ =>
    cases same
    dsimp only
    rw [shown_no_space shown visible, shown_no_break shown]
    rfl

theorem readQuoted_escape (inside : 0 < c.column) (ahead : c.rest = '\\' :: x :: rest) (shown : 0x20 ≤ x.toNat) :
    readQuoted true (fuel + 1) c = match escapedChar? x, escapeWidth? x with
      | some y, _ => following fuel [y] (c.skip 2)
      | none, some width => (numberedChar? width rest).bind fun y => following fuel [y] (c.skip (2 + width))
      | none, none => none := by
  have split : readQuoted true (fuel + 1) c = if isBreak x then followingGap fuel .escaped c.next.pastBreak
      else match escapedChar? x, escapeWidth? x with
        | some y, _ => following fuel [y] (c.skip 2)
        | none, some width => (numberedChar? width rest).bind fun y => following fuel [y] (c.skip (2 + width))
        | none, none => none := by
    rw [readQuoted, Cursor.inside_no_mark inside, ahead]
    rfl
  rw [split, shown_no_break shown, if_neg Bool.false_ne_true]

theorem readQuoted_written {y : Char} (written : Written y cs) (inside : 0 < c.column) (ahead : c.rest = cs ++ rest)
    (visible : y ≠ ' ') : readQuoted true (fuel + 1) c = following fuel [y] (c.skip cs.length) := by
  cases written with
  | itself unquoted unescaped shown => exact readQuoted_itself inside ahead unquoted unescaped shown visible
  | lettered x reads shown =>
    rw [readQuoted_escape inside ahead shown, reads]
    rfl
  | numbered a b reads =>
    rw [readQuoted_escape inside ahead (by decide)]
    change (numberedChar? 4 ('0' :: '0' :: a :: b :: rest)).bind _ = _
    rw [reads]
    rfl

theorem followingGap_written {y : Char} (written : Written y cs) (ahead : c.rest = cs ++ rest) (visible : y ≠ ' ') :
    followingGap fuel g c = following fuel g.text c := by
  have stays : Gap.readAll 0 g c = some (g, c) := by
    cases written with
    | itself _ _ shown => exact Gap.readAll_stays 0 ahead (shown_no_space shown visible) (shown_no_break shown)
    | lettered x => exact Gap.readAll_stays 0 ahead rfl rfl
    | numbered a b => exact Gap.readAll_stays 0 ahead rfl rfl
  rw [followingGap, stays]
  rfl

theorem followingGap_space {spaces : List Char} (ahead : c.rest = ' ' :: rest) :
    followingGap fuel ⟨spaces, false, 0, false⟩ c = followingGap fuel ⟨spaces ++ [' '], false, 0, false⟩ c.next := by
  rw [followingGap, Gap.readAll_space 0 ahead rfl]
  rfl

-- A gap may have been begun in front of the text, whose spaces then come first.
theorem escaped_roundtrip (cs rest : List Char) (c : Cursor) (fuel : Nat) (inside : 0 < c.column)
    (ahead : c.rest = escaped cs ++ '"' :: rest) (enough : (escaped cs).length < fuel) :
    readQuoted true fuel c = some (cs, c.skip ((escaped cs).length + 1)) ∧
      ∀ spaces, followingGap fuel ⟨spaces, false, 0, false⟩ c =
        some (spaces ++ cs, c.skip ((escaped cs).length + 1)) := by
  induction cs generalizing c fuel with
  | nil =>
    obtain ⟨fuel, rfl⟩ : ∃ n, fuel = n + 1 := ⟨fuel - 1, by omega⟩
    have read : readQuoted true (fuel + 1) c = some ([], c.next) := readQuoted_end inside ahead
    refine ⟨read, fun spaces => ?_⟩
    rw [followingGap, Gap.readAll_stays 0 ahead rfl rfl]
    exact following_some spaces read
  | cons x xs ih =>
    obtain ⟨fuel, rfl⟩ : ∃ n, fuel = n + 1 := ⟨fuel - 1, by omega⟩
    have written := escapedChar_written x
    have whole : escaped (x :: xs) = escapedChar x ++ escaped xs := List.flatMap_cons
    rw [whole, List.append_assoc] at ahead
    rw [whole, List.length_append] at enough ⊢
    have along := Cursor.skip_along (fun _ member => written.shown member) ahead
    have further : 0 < (c.skip (escapedChar x).length).column := along.column ▸ Nat.add_pos_left inside _
    have behind : c.skip ((escapedChar x).length + (escaped xs).length + 1) =
        (c.skip (escapedChar x).length).skip ((escaped xs).length + 1) := by
      rw [Cursor.skip_skip, Nat.add_assoc]
    rw [behind]
    by_cases visible : x = ' '
    · subst visible
      have one : (escapedChar ' ').length = 1 := rfl
      have later (n : Nat) (enough : (escaped xs).length < n) := (ih _ n further along.rest enough).2
      refine ⟨?_, fun spaces => ?_⟩
      · rw [readQuoted_space inside ahead, Gap.empty, followingGap_space ahead]
        exact later fuel (by omega) [' ']
      · rw [followingGap_space ahead]
        exact (later (fuel + 1) (by omega) (spaces ++ [' '])).trans (by rw [List.append_assoc]; rfl)
    · have filled := written.length_pos
      have read := (readQuoted_written written inside ahead visible).trans
        (following_some [x] (ih _ fuel further along.rest (by omega)).1)
      refine ⟨read, fun spaces => ?_⟩
      rw [followingGap_written written ahead visible]
      exact following_some spaces read

end Yaml
end GuardedWork
