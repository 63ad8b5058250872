import GuardedWork.Proofs.Numeral
import GuardedWork.Proofs.Yaml.Escapes
import GuardedWork.Yaml.Value

namespace GuardedWork.Yaml

variable {c d : Cursor} {x : Char} {word blanks rest : List Char} {g : Gap} {fuel n : Nat}

-- Between the tokens of a printed tree stand only spaces and line feeds.
def Blank (x : Char) : Prop := x = ' ' ∨ x = '\n'

instance : DecidablePred Blank := fun x => inferInstanceAs (Decidable (x = ' ' ∨ x = '\n'))

-- The marks behind a value in braces.
def EndsValue (x : Char) : Prop := x = ',' ∨ x = '}'

theorem alphanum_ne {y : Char} (alphanum : x.isAlphanum = true) (other : y.isAlphanum = false) : x ≠ y := by
  rintro rfl
  rw [alphanum] at other
  cases other

theorem alphanum_shown (alphanum : x.isAlphanum = true) : 0x20 ≤ x.toNat := by
  refine Nat.le_of_not_lt fun control => ?_
  have other : ∀ n < 0x20, (Char.ofNat n).isAlphanum = false := by decide
  have never := other x.toNat control
  rw [Char.ofNat_toNat, alphanum] at never
  cases never

theorem alphanum_plain (alphanum : x.isAlphanum = true) :
    isSpace x = false ∧ isBreak x = false ∧ isFlowMark x = false ∧ x ≠ ':' := by
  have other {y : Char} (h : y.isAlphanum = false) : (x == y) = false := beq_eq_false_iff_ne.mpr (alphanum_ne alphanum h)
  unfold isSpace isBreak isFlowMark
  simp only [other (y := ' ') rfl, other (y := '\t') rfl, other (y := '\n') rfl, other (y := '\r') rfl,
    other (y := ',') rfl, other (y := '[') rfl, other (y := ']') rfl, other (y := '\x7b') rfl, other (y := '\x7d') rfl,
    Bool.or_self, true_and]
  exact alphanum_ne alphanum rfl

theorem plainWord_alphanum (alphanum : ∀ y ∈ word, y.isAlphanum = true)
    (ends : isSpace x = true ∨ isBreak x = true ∨ isFlowMark x = true) :
    plainWord true (word ++ x :: rest) = word := by
  induction word with
  | nil =>
    rw [List.nil_append, plainWord]
    rcases ends with ends | ends | ends <;> simp [ends]
  | cons y ys ih =>
    obtain ⟨first, others⟩ := List.forall_mem_cons.mp alphanum
    obtain ⟨space, line, mark, colon⟩ := alphanum_plain first
    have apart : (y == ':') = false := beq_eq_false_iff_ne.mpr colon
    rw [List.cons_append, plainWord]
    simp only [space, line, mark, apart, Bool.false_and, Bool.and_false, Bool.or_self, Bool.false_eq_true, if_false,
      ih others]

theorem pastBreak_feed (ahead : c.rest = '\n' :: rest) : c.pastBreak = c.next := by
  unfold Cursor.pastBreak
  rw [ahead]
  rfl

theorem next_tail (ahead : c.rest = x :: rest) : c.next.rest = rest :=
  (Cursor.next_rest c).trans (congrArg List.tail ahead)

-- The gap itself does not matter where nothing of the word follows.
theorem readAll_blanks (blank : ∀ y ∈ blanks, Blank y) (space : isSpace x = false) (line : isBreak x = false)
    (ahead : c.rest = blanks ++ x :: rest) : ∃ h, Gap.readAll 0 g c = some (h, c.skip blanks.length) := by
  induction blanks generalizing c g with
  | nil => exact ⟨g, Gap.readAll_stays 0 ahead space line⟩
  | cons y ys ih =>
    obtain ⟨first, others⟩ := List.forall_mem_cons.mp blank
    have shorter := next_tail ahead
    have step : ∃ h, Gap.readAll 0 g c = Gap.readAll 0 h c.next := by
      unfold Gap.readAll
      rw [ahead, List.cons_append, List.length_cons, Gap.read, ahead, List.cons_append, shorter]
      rcases first with rfl | rfl
      · cases g.lineStart with
        | true => exact ⟨g, rfl⟩
        | false => exact ⟨_, rfl⟩
      · rw [pastBreak_feed ahead]
        cases g.lineStart with
        | true => exact ⟨_, rfl⟩
        | false => exact ⟨_, rfl⟩
    obtain ⟨h, step⟩ := step
    rw [step, List.length_cons, Cursor.skip]
    exact ih others shorter

theorem other_no_mark (ahead : c.rest = x :: rest) (dash : x ≠ '-') (dot : x ≠ '.') : c.atDocumentMark = false := by
  unfold Cursor.atDocumentMark
  rw [ahead, Bool.and_eq_false_iff]
  refine .inr ?_
  split
  · next same => cases same; exact absurd rfl dash
  · next same => cases same; exact absurd rfl dot
  · rfl

-- Neither a comment nor a mark between documents.
theorem starts_word (ahead : c.rest = x :: rest) (comment : x ≠ '#') (dash : x ≠ '-') (dot : x ≠ '.') :
    (c.atDocumentMark || c.rest.head? == some '#') = false := by
  rw [other_no_mark ahead dash dot, ahead, List.head?_cons, Bool.false_or]
  exact beq_eq_false_iff_ne.mpr fun same => comment (Option.some.inj same)

theorem readPlain_marked {lineStart : Bool} (starts : (c.atDocumentMark || c.rest.head? == some '#') = false)
    (reads : plainWord true c.rest = word) (ahead : (c.skip word.length).rest = x :: rest) (space : isSpace x = false)
    (line : isBreak x = false) :
    readPlain true 0 (fuel + 1) lineStart c = some ⟨word, lineStart && word.isEmpty, c.skip word.length⟩ := by
  rw [readPlain, starts, reads, if_neg Bool.false_ne_true]
  dsimp only
  rw [ahead]
  dsimp only
  rw [space, line, Bool.or_self, if_neg Bool.false_ne_true]

theorem readPlain_gap {lineStart : Bool} (starts : (c.atDocumentMark || c.rest.head? == some '#') = false)
    (reads : plainWord true c.rest = word) (ahead : (c.skip word.length).rest = x :: rest)
    (gap : isSpace x = true ∨ isBreak x = true) (passed : Gap.readAll 0 .empty (c.skip word.length) = some (g, d)) :
    readPlain true 0 (fuel + 1) lineStart c = (readPlain true 0 fuel g.lineStart d).map fun more =>
      { more with text := if more.text.isEmpty then word else word ++ g.text ++ more.text } := by
  rw [readPlain, starts, reads, if_neg Bool.false_ne_true]
  dsimp only
  rw [ahead]
  dsimp only
  rw [if_pos (Bool.or_eq_true_iff.mpr gap), passed, Option.bind_eq_bind, Option.bind_some, Bool.not_true,
    Bool.false_and, if_neg Bool.false_ne_true]
  cases readPlain true 0 fuel g.lineStart d <;> rfl

theorem EndsValue.mark (ends : EndsValue x) :
    isSpace x = false ∧ isBreak x = false ∧ isFlowMark x = true ∧ x ≠ '#' ∧ x ≠ '-' ∧ x ≠ '.' := by
  rcases ends with rfl | rfl <;> decide

theorem Blank.gap (blank : Blank x) : isSpace x = true ∨ isBreak x = true := by
  rcases blank with rfl | rfl
  · exact .inl rfl
  · exact .inr rfl

theorem readPlain_nothing (ends : EndsValue x) (ahead : c.rest = x :: rest) (lineStart : Bool) :
    readPlain true 0 (fuel + 1) lineStart c = some ⟨[], lineStart && true, c⟩ := by
  obtain ⟨space, line, mark, comment, dash, dot⟩ := ends.mark
  have nothing : plainWord true c.rest = [] := by
    rw [ahead]
    exact plainWord_alphanum (fun _ member => absurd member List.not_mem_nil) (.inr (.inr mark))
  exact readPlain_marked (starts_word ahead comment dash dot) nothing ahead space line

-- The blanks behind the word are passed too.
theorem word_roundtrip (fuel : Nat) (filled : word ≠ []) (alphanum : ∀ y ∈ word, y.isAlphanum = true)
    (blank : ∀ y ∈ blanks, Blank y) (ends : EndsValue x) (ahead : c.rest = word ++ (blanks ++ x :: rest)) :
    ∃ started, readPlain true 0 (fuel + 2) false c = some ⟨word, started, c.skip (word.length + blanks.length)⟩ := by
  obtain ⟨space, line, mark, -⟩ := ends.mark
  have behind : (c.skip word.length).rest = blanks ++ x :: rest := by
    rw [Cursor.skip_rest, ahead, List.drop_left]
  have starts : (c.atDocumentMark || c.rest.head? == some '#') = false := by
    obtain ⟨y, ys, rfl⟩ := List.exists_cons_of_ne_nil filled
    have first := alphanum y List.mem_cons_self
    exact starts_word ahead (alphanum_ne first rfl) (alphanum_ne first rfl) (alphanum_ne first rfl)
  cases blanks with
  | nil =>
    have reads : plainWord true c.rest = word := by
      rw [ahead]
      exact plainWord_alphanum alphanum (.inr (.inr mark))
    exact ⟨_, readPlain_marked starts reads behind space line⟩
  | cons b bs =>
    have gap := (blank b List.mem_cons_self).gap
    have reads : plainWord true c.rest = word := by
      rw [ahead]
      exact plainWord_alphanum alphanum (gap.imp_right .inl)
    obtain ⟨g, passed⟩ := readAll_blanks (g := .empty) blank space line behind
    have ahead : ((c.skip word.length).skip (b :: bs).length).rest = x :: rest := by
      rw [Cursor.skip_rest, behind, List.drop_left]
    refine ⟨g.lineStart && true, ?_⟩
    rw [readPlain_gap starts reads behind gap passed, readPlain_nothing ends ahead, Cursor.skip_skip]
    rfl

namespace Value

theorem decimal_text (n : Nat) : (toString n).toList = Nat.toDigits 10 n := by
  rw [Nat.toString_eq_ofList_toDigits, String.toList_ofList]

theorem decimal_digits {d : Char} (member : d ∈ Nat.toDigits 10 n) : d.isDigit = true :=
  Nat.isDigit_of_mem_toDigits (by decide) (by decide) member

theorem digitChar_filled : ∀ d < 10, 0 < d → Nat.digitChar d ≠ '0' := by decide

-- By the digits in front of the last one, if there are any.
theorem decimal_head (n : Nat) (filled : 0 < n) : (Nat.toDigits 10 n).head? ≠ some '0' := by
  induction n using Nat.strongRecOn with
  | ind n ih =>
    by_cases single : n < 10
    · rw [Nat.toDigits_of_lt_base single]
      exact fun same => digitChar_filled n single filled (Option.some.inj same)
    · have front := ih (n / 10) (by omega) (by omega)
      rw [Nat.toDigits_of_base_le (by decide) (by omega), List.head?_append]
      cases found : (Nat.toDigits 10 (n / 10)).head? with
      | none => exact absurd (List.head?_eq_none_iff.mp found) Nat.toDigits_ne_nil
      | some d => rw [found] at front; exact front

theorem decimal_unpadded (n : Nat) (d : Char) (ds : List Char) : Nat.toDigits 10 n ≠ '0' :: d :: ds := by
  intro same
  rcases Nat.eq_zero_or_pos n with rfl | filled
  · cases same
  · exact decimal_head n filled (congrArg List.head? same)

theorem ofPlain_natural (small : n < UInt64.size) : ofPlain (toString n) = .integer n := by
  have other {t : String} {d : Char} (first : t.toList.head? = some d) (nondigit : d.isDigit = false) :
      toString n ≠ t := by
    rintro rfl
    have member := decimal_digits (decimal_text n ▸ List.mem_of_mem_head? first)
    rw [nondigit] at member
    cases member
  have unmarked : marked? (Nat.toDigits 10 n) = none := by
    unfold marked?
    split
    · next same => exact absurd same (decimal_unpadded n _ _)
    · next same => exact absurd (decimal_digits (same ▸ List.mem_cons_self)) (by decide)
    · next same => exact absurd (decimal_digits (same ▸ List.mem_cons_self)) (by decide)
    · rfl
  have unsigned : (Nat.toDigits 10 n).dropWhile isSign = Nat.toDigits 10 n := by
    obtain ⟨d, ds, same⟩ := List.exists_cons_of_ne_nil (Nat.toDigits_ne_nil (n := n) (b := 10))
    have first : d.isDigit = true := decimal_digits (n := n) (same ▸ List.mem_cons_self)
    have sign : isSign d = false := by
      rw [isSign, Bool.or_eq_false_iff, beq_eq_false_iff_ne, beq_eq_false_iff_ne]
      constructor <;> (rintro rfl; cases first)
    rw [same, List.dropWhile_cons_of_neg (Bool.not_eq_true _ ▸ sign)]
  have unpadded : zeroPadded (Nat.toDigits 10 n) = false := by
    unfold zeroPadded
    rw [unsigned]
    split
    · next same => exact absurd same (decimal_unpadded n _ _)
    · rfl
  have reads : Text.unsigned? 10 UInt64.size (Nat.toDigits 10 n) = some n :=
    Text.unsigned?_decimal.mpr
      ⟨⟨_, .inl rfl, Nat.toDigits_ne_nil, fun _ => decimal_digits, Nat.ofDigitChars_ten_toDigits⟩, small⟩
  unfold ofPlain
  dsimp only
  rw [if_neg (not_or_intro (other rfl rfl) (other rfl rfl)), if_neg (other rfl rfl), if_neg (other rfl rfl), decimal_text,
    unmarked, unpadded]
  dsimp only
  rw [if_neg Bool.false_ne_true, decimal?, reads]
  rfl

end Value
end GuardedWork.Yaml
