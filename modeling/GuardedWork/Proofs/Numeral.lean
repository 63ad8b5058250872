import GuardedWork.Text.Blank
import GuardedWork.Text.Numeral
import Mathlib.Data.List.TakeWhile

namespace GuardedWork.Text

variable {c : Char} {cs ds : List Char} {n limit init : Nat} {v : String}

-- At least one digit, in front of which may be a plus, and the number that they stand for.
def Spells (cs : List Char) (n : Nat) : Prop :=
  ∃ digits, (cs = digits ∨ cs = '+' :: digits) ∧ digits ≠ [] ∧ (∀ c ∈ digits, c.isDigit = true) ∧
    Nat.ofDigitChars 10 digits 0 = n

theorem isDigit_iff : c.isDigit = true ↔ 0x30 ≤ c.toNat ∧ c.toNat ≤ 0x39 := by
  unfold Char.isDigit
  rw [Bool.and_eq_true, decide_eq_true_iff, decide_eq_true_iff, ge_iff_le, UInt32.le_iff_toNat_le,
    UInt32.le_iff_toNat_le]
  rfl

theorem digit?_decimal (c : Char) : digit? 10 c = if c.isDigit then some (c.toNat - '0'.toNat) else none := by
  have decimal := isDigit_iff (c := c)
  unfold digit?
  dsimp only
  generalize c.toNat = n at decimal ⊢
  by_cases low : 0x30 ≤ n ∧ n ≤ 0x39
  · rw [if_pos low, if_pos (decimal.mpr low), Option.filter_some, if_pos (decide_eq_true (by omega))]
    rfl
  · rw [if_neg low, if_neg fun isDigit => low (decimal.mp isDigit)]
    refine Option.filter_eq_none_iff.mpr fun d found => ?_
    simp only [decide_eq_true_eq]
    split at found
    · cases found; omega
    · split at found
      · cases found; omega
      · cases found

theorem digits_fold (ds : List Char) (init : Nat) :
    ds.foldlM (fun n c => (digit? 10 c).map (10 * n + ·)) init =
      if ds.all Char.isDigit then some (Nat.ofDigitChars 10 ds init) else none := by
  induction ds generalizing init with
  | nil => rfl
  | cons c rest ih =>
    rw [List.foldlM_cons, List.all_cons, digit?_decimal]
    cases c.isDigit with
    | false => rfl
    | true =>
      rw [if_pos rfl, Bool.true_and, Nat.ofDigitChars_cons]
      exact ih _

theorem digits?_decimal : digits? 10 ds = some n ↔
    ds ≠ [] ∧ (∀ c ∈ ds, c.isDigit = true) ∧ Nat.ofDigitChars 10 ds 0 = n := by
  unfold digits?
  rw [digits_fold, ← List.all_eq_true]
  cases ds <;> simp

theorem spells_plus : Spells ('+' :: ds) n ↔ digits? 10 ds = some n := by
  rw [digits?_decimal]
  constructor
  · rintro ⟨digits, same | same, filled, decimal, stands⟩
    · exact absurd (decimal '+' (same ▸ List.mem_cons_self)) (by decide)
    · cases same
      exact ⟨filled, decimal, stands⟩
  · exact fun ⟨filled, decimal, stands⟩ => ⟨ds, .inr rfl, filled, decimal, stands⟩

theorem spells_plain (plain : ∀ r, cs ≠ '+' :: r) : Spells cs n ↔ digits? 10 cs = some n := by
  rw [digits?_decimal]
  constructor
  · rintro ⟨digits, same | same, filled, decimal, stands⟩
    · cases same
      exact ⟨filled, decimal, stands⟩
    · exact absurd same (plain digits)
  · exact fun ⟨filled, decimal, stands⟩ => ⟨cs, .inl rfl, filled, decimal, stands⟩

theorem unsigned?_decimal : unsigned? 10 limit cs = some n ↔ Spells cs n ∧ n < limit := by
  have limited (ds : List Char) : (digits? 10 ds).bind (fun n => if n < limit then some n else none) = some n ↔
      digits? 10 ds = some n ∧ n < limit := by
    rw [Option.bind_eq_some_iff]
    constructor
    · rintro ⟨m, reads, fits⟩
      split at fits
      · next below => cases fits; exact ⟨reads, below⟩
      · cases fits
    · exact fun ⟨reads, below⟩ => ⟨n, reads, if_pos below⟩
  unfold unsigned?
  split
  · next r => exact (limited r).trans (and_congr_left' spells_plus.symm)
  · next plain => exact (limited cs).trans (and_congr_left' (spells_plain plain).symm)

theorem Spells.filled (spells : Spells cs n) : cs ≠ [] := by
  rintro rfl
  obtain ⟨digits, same | same, filled, _⟩ := spells
  · exact filled same.symm
  · cases same

theorem Spells.unblank (spells : Spells cs n) : ∀ c ∈ cs, isBlankChar c = false := by
  obtain ⟨digits, same, _, decimal, _⟩ := spells
  have unblank : ∀ c ∈ digits, isBlankChar c = false := by
    intro c member
    have range := isDigit_iff.mp (decimal c member)
    unfold isBlankChar
    simp only [Bool.or_eq_false_iff, Bool.and_eq_false_iff, decide_eq_false_iff_not, beq_eq_false_iff_ne]
    omega
  rcases same with rfl | rfl
  · exact unblank
  · exact List.forall_mem_cons.mpr ⟨rfl, unblank⟩

theorem blanks_dropped {before inner : List Char} (blank : ∀ c ∈ before, isBlankChar c = true)
    (unblank : ∀ c ∈ inner, isBlankChar c = false) (filled : inner ≠ []) (after : List Char) :
    (before ++ (inner ++ after)).dropWhile isBlankChar = inner ++ after := by
  rw [List.dropWhile_append_of_pos blank]
  cases inner with
  | nil => exact absurd rfl filled
  | cons c rest =>
    have first := unblank c List.mem_cons_self
    rw [List.cons_append, List.dropWhile_cons_of_neg (by simp [first])]

-- Behind the blanks in front of it and before those at its end.
theorem trimBlank_parts (v : String) : ∃ before after, v.toList = before ++ (trimBlank v).toList ++ after ∧
    (∀ c ∈ before, isBlankChar c = true) ∧ ∀ c ∈ after, isBlankChar c = true := by
  have split (cs : List Char) :
      ∃ before, cs = before ++ cs.dropWhile isBlankChar ∧ ∀ c ∈ before, isBlankChar c = true :=
    ⟨cs.takeWhile isBlankChar, List.takeWhile_append_dropWhile.symm, fun c member => List.mem_takeWhile_imp member⟩
  obtain ⟨before, front, blank⟩ := split v.toList
  obtain ⟨after, back, blankAfter⟩ := split (v.toList.dropWhile isBlankChar).reverse
  refine ⟨before, after.reverse, ?_, blank, fun c member => blankAfter c (List.mem_reverse.mp member)⟩
  have trimmed := congrArg List.reverse back
  rw [List.reverse_reverse, List.reverse_append] at trimmed
  rw [trimBlank, String.toList_ofList, List.append_assoc, ← trimmed]
  exact front

def SpellsWithin (v : String) (n : Nat) : Prop :=
  ∃ before inner after, v.toList = before ++ inner ++ after ∧ (∀ c ∈ before, isBlankChar c = true) ∧
    (∀ c ∈ after, isBlankChar c = true) ∧ Spells inner n

theorem spells_trimmed : Spells (trimBlank v).toList n ↔ SpellsWithin v n := by
  constructor
  · intro spells
    obtain ⟨before, after, parts, blank, blankAfter⟩ := trimBlank_parts v
    exact ⟨before, _, after, parts, blank, blankAfter, spells⟩
  · rintro ⟨before, inner, after, parts, blank, blankAfter, spells⟩
    have front := blanks_dropped blank spells.unblank spells.filled after
    have turnedBlank : ∀ c ∈ after.reverse, isBlankChar c = true :=
      fun c member => blankAfter c (List.mem_reverse.mp member)
    have turnedUnblank : ∀ c ∈ inner.reverse, isBlankChar c = false :=
      fun c member => spells.unblank c (List.mem_reverse.mp member)
    have back := blanks_dropped turnedBlank turnedUnblank (by simpa using spells.filled) []
    rw [trimBlank, String.toList_ofList, parts, List.append_assoc, front, List.reverse_append]
    rw [List.append_nil] at back
    rw [back, List.reverse_reverse]
    exact spells

end GuardedWork.Text
