import GuardedWork.Proofs.Yaml.Scanning

namespace GuardedWork.JsonTree

open Yaml (Blank EndsValue Token alphanum_shown)
open Yaml.Value (decimal_digits decimal_text)
open Yaml.TokenStream (Ahead Leads ShortKey Within ahead_blanks flowLimit)

variable {s : Yaml.TokenStream} {read : List Token} {tree : JsonTree} {fields : List (String × JsonTree)}
  {depth : Nat} {x : Char} {rest : List Char}

mutual
def tokens : JsonTree → List Token
  | text s => [.scalar .doubleQuoted s]
  | number n => [.scalar .plain (toString n)]
  | flag b => [.scalar .plain (if b then "true" else "false")]
  | record fields => .flowMappingStart :: ([Token.flowEntry].intercalate (fieldsTokens fields) ++ [.flowMappingEnd])

def fieldsTokens : List (String × JsonTree) → List (List Token)
  | [] => []
  | field :: rest => fieldTokens field :: fieldsTokens rest

def fieldTokens : String × JsonTree → List Token
  | (name, value) => .key :: .scalar .doubleQuoted name :: .value :: tokens value
end

-- What can be read inside this many braces: the braces are not too many, and the keys not too long.
inductive Readable : Nat → JsonTree → Prop where
  | text (depth : Nat) (s : String) : Readable depth (.text s)
  | number (depth n : Nat) : Readable depth (.number n)
  | flag (depth : Nat) (b : Bool) : Readable depth (.flag b)
  | record {depth : Nat} {fields : List (String × JsonTree)} (room : depth < flowLimit)
      (short : ∀ f ∈ fields, ShortKey f.1.toList) (inner : ∀ f ∈ fields, Readable (depth + 1) f.2) :
      Readable depth (.record fields)

namespace Readable

theorem empty (room : depth < flowLimit) : Readable depth (.record []) := .record room nofun nofun

theorem field {name : String} {value : JsonTree} (short : ShortKey name.toList) (inside : Readable (depth + 1) value)
    (others : Readable depth (.record fields)) : Readable depth (.record ((name, value) :: fields)) := by
  cases others with
  | record room shorts inner =>
    exact .record room (List.forall_mem_cons.mpr ⟨short, shorts⟩) (List.forall_mem_cons.mpr ⟨inside, inner⟩)

end Readable

theorem fieldsTokens_map (fields : List (String × JsonTree)) : fieldsTokens fields = fields.map fieldTokens := by
  induction fields with
  | nil => rfl
  | cons f rest ih => exact congrArg (fieldTokens f :: ·) ih

theorem prettyFields_map (depth : Nat) (fields : List (String × JsonTree)) :
    prettyFields depth fields = fields.map (prettyField depth) := by
  induction fields with
  | nil => rfl
  | cons f rest ih => exact congrArg (prettyField depth f :: ·) ih

theorem intercalate_cons {α : Type} (sep first : List α) (more : List (List α)) :
    sep.intercalate (first :: more) = first ++ more.flatMap (sep ++ ·) := by
  induction more generalizing first with
  | nil => rw [List.intercalate_singleton, List.flatMap_nil, List.append_nil]
  | cons next more ih => rw [List.intercalate_cons_cons, ih, List.flatMap_cons, List.append_assoc, List.append_assoc]

-- Behind the first field each other one follows a separator.
theorem tokens_record (f : String × JsonTree) (fields : List (String × JsonTree)) :
    tokens (.record (f :: fields)) = .flowMappingStart :: (fieldTokens f ++
      (fields.flatMap (fun g => .flowEntry :: fieldTokens g) ++ [.flowMappingEnd])) := by
  rw [tokens, fieldsTokens_map, List.map_cons, intercalate_cons, List.flatMap_map, List.append_assoc]
  rfl

theorem indentation_blanks (depth : Nat) : ∀ y ∈ (indentation depth).toList, Blank y := by
  rw [indentation, String.toList_ofList]
  exact fun y member => .inl (List.eq_of_mem_replicate member)

theorem prettyField_text (depth : Nat) (name : String) (value : JsonTree) :
    (prettyField depth (name, value)).toList =
      (indentation depth).toList ++ (quotedText name.toList ++ ':' :: ' ' :: (pretty depth value).toList) := by
  rw [prettyField, String.toList_append, String.toList_append, String.toList_append, text_quoted, List.append_assoc,
    List.append_assoc]
  rfl

theorem pretty_record (depth : Nat) (f : String × JsonTree) (fields : List (String × JsonTree)) :
    (pretty depth (.record (f :: fields))).toList = '\x7b' :: '\n' :: ((prettyField (depth + 1) f).toList ++
      (fields.flatMap (fun g => ',' :: '\n' :: (prettyField (depth + 1) g).toList) ++
        '\n' :: ((indentation depth).toList ++ ['\x7d']))) := by
  have sep : (",\n" : String).toList = [',', '\n'] := rfl
  rw [pretty, prettyFields_map]
  simp only [List.isEmpty_cons, Bool.false_eq_true, if_false, String.toList_append, String.toList_intercalate,
    List.map_cons, List.map_map, intercalate_cons, List.flatMap_map, sep, List.append_assoc]
  rfl

-- Behind a value there may be blanks, then comes a comma or the brace.
def EndsHere (cs : List Char) : Prop := ∃ blanks x rest, (∀ y ∈ blanks, Blank y) ∧ EndsValue x ∧ cs = blanks ++ x :: rest

-- What is read of this value inside so many braces.
def Scans (depth : Nat) (tree : JsonTree) : Prop :=
  ∀ s read after, Within read depth s → EndsHere after → Ahead ((pretty depth tree).toList ++ after) s →
    ∃ t, Leads s t ∧ Within (read ++ tokens tree) depth t ∧ Ahead after t

theorem text_scans (depth : Nat) (v : String) : Scans depth (.text v) := by
  intro s read after within _ ahead
  rw [pretty, text_quoted] at ahead
  have scanned := within.scans_text ahead
  rw [String.ofList_toList] at scanned
  exact scanned

theorem word_scans (word : String) (inside : 0 < depth) (filled : word.toList ≠ [])
    (alphanum : ∀ y ∈ word.toList, y.isAlphanum = true) (printed : pretty depth tree = word)
    (scalar : tokens tree = [.scalar .plain word]) : Scans depth tree := by
  rintro s read after within ⟨blanks, x, rest, blank, ends, rfl⟩ ahead
  rw [printed] at ahead
  obtain ⟨t, leads, scanned, behind⟩ := within.scans_word inside filled alphanum blank ends ahead
  rw [String.ofList_toList, ← scalar] at scanned
  exact ⟨t, leads, scanned, (ahead_blanks blank).mpr behind⟩

theorem number_alphanum (n : Nat) : ∀ y ∈ (toString n).toList, y.isAlphanum = true := by
  intro y member
  have digit : y.isDigit = true := decimal_digits (n := n) (decimal_text n ▸ member)
  rw [Char.isAlphanum, digit, Bool.or_true]

theorem flag_alphanum (b : Bool) : ∀ y ∈ (if b then "true" else "false").toList, y.isAlphanum = true := by
  cases b with
  | true => exact List.all_eq_true.mp rfl
  | false => exact List.all_eq_true.mp rfl

theorem number_scans (inside : 0 < depth) (n : Nat) : Scans depth (.number n) :=
  word_scans (toString n) inside (decimal_text n ▸ Nat.toDigits_ne_nil) (number_alphanum n) rfl rfl

theorem flag_scans (inside : 0 < depth) (b : Bool) : Scans depth (.flag b) :=
  word_scans (if b then "true" else "false") inside (by cases b <;> decide) (flag_alphanum b) rfl rfl

theorem field_scans {f : String × JsonTree} {after : List Char} (within : Within read (depth + 1) s)
    (allowed : s.keyAllowed = true) (short : ShortKey f.1.toList) (value : Scans (depth + 1) f.2)
    (ends : EndsHere after) (ahead : Ahead ((prettyField (depth + 1) f).toList ++ after) s) :
    ∃ t, Leads s t ∧ Within (read ++ fieldTokens f) (depth + 1) t ∧ Ahead after t := by
  obtain ⟨name, tree⟩ := f
  rw [prettyField_text, List.append_assoc, ahead_blanks (indentation_blanks _), List.append_assoc] at ahead
  obtain ⟨t, toKey, within, ahead⟩ := within.scans_key (Nat.succ_pos depth) allowed short ahead
  obtain ⟨u, toValue, within, ahead⟩ := value t _ after within ends ahead
  rw [List.append_assoc, String.ofList_toList] at within
  exact ⟨u, toKey.trans toValue, within, ahead⟩

-- The text of the other fields, each behind its comma, and of the end of their record.
def moreText (depth : Nat) (fields : List (String × JsonTree)) (rest : List Char) : List Char :=
  fields.flatMap (fun g => ',' :: '\n' :: (prettyField (depth + 1) g).toList) ++
    '\n' :: ((indentation depth).toList ++ '\x7d' :: rest)

def moreTokens (fields : List (String × JsonTree)) : List Token :=
  fields.flatMap (fun g => .flowEntry :: fieldTokens g) ++ [.flowMappingEnd]

theorem line_feed_blank : ∀ y ∈ ['\n'], Blank y := fun _ member => .inr (List.mem_singleton.mp member)

theorem moreText_ends (depth : Nat) (fields : List (String × JsonTree)) (rest : List Char) :
    EndsHere (moreText depth fields rest) := by
  cases fields with
  | nil => exact ⟨'\n' :: (indentation depth).toList, '\x7d', rest,
      List.forall_mem_cons.mpr ⟨.inr rfl, indentation_blanks depth⟩, .inr rfl, rfl⟩
  | cons g fields => exact ⟨[], ',', _, nofun, .inl rfl, rfl⟩

theorem more_scans (short : ∀ f ∈ fields, ShortKey f.1.toList) (values : ∀ f ∈ fields, Scans (depth + 1) f.2)
    (within : Within read (depth + 1) s) (ahead : Ahead (moreText depth fields rest) s) :
    ∃ t, Leads s t ∧ Within (read ++ moreTokens fields) depth t ∧ Ahead rest t := by
  induction fields generalizing s read with
  | nil =>
    have blank : ∀ y ∈ '\n' :: (indentation depth).toList, Blank y :=
      List.forall_mem_cons.mpr ⟨.inr rfl, indentation_blanks depth⟩
    exact within.closes ((ahead_blanks blank).mp ahead)
  | cons g fields ih =>
    obtain ⟨shortFirst, short⟩ := List.forall_mem_cons.mp short
    obtain ⟨first, values⟩ := List.forall_mem_cons.mp values
    have parts : moreText depth (g :: fields) rest =
        ',' :: (['\n'] ++ ((prettyField (depth + 1) g).toList ++ moreText depth fields rest)) := by
      rw [moreText, List.flatMap_cons, List.append_assoc]
      rfl
    rw [parts] at ahead
    obtain ⟨t, toField, within, ahead, allowed⟩ := within.separates ahead
    obtain ⟨u, toNext, within, ahead⟩ := field_scans within allowed shortFirst first (moreText_ends depth fields rest)
      ((ahead_blanks line_feed_blank).mp ahead)
    obtain ⟨v, toEnd, within, ahead⟩ := ih short values within ahead
    refine ⟨v, (toField.trans toNext).trans toEnd, ?_, ahead⟩
    rw [List.append_assoc, List.append_assoc] at within
    rw [moreTokens, List.flatMap_cons, List.append_assoc]
    exact within

theorem record_scans (room : depth < flowLimit) (short : ∀ f ∈ fields, ShortKey f.1.toList)
    (values : ∀ f ∈ fields, Scans (depth + 1) f.2) (within : Within read depth s)
    (ahead : Ahead ((pretty depth (.record fields)).toList ++ rest) s) :
    ∃ t, Leads s t ∧ Within (read ++ tokens (.record fields)) depth t ∧ Ahead rest t := by
  cases fields with
  | nil =>
    rw [pretty, List.isEmpty_nil, if_pos rfl] at ahead
    obtain ⟨t, opens, within, ahead, _⟩ := within.opens room ahead
    obtain ⟨u, closes, within, ahead⟩ := within.closes ahead
    rw [List.append_assoc] at within
    exact ⟨u, opens.trans closes, within, ahead⟩
  | cons f fields =>
    obtain ⟨shortFirst, short⟩ := List.forall_mem_cons.mp short
    obtain ⟨first, values⟩ := List.forall_mem_cons.mp values
    have parts : (pretty depth (.record (f :: fields))).toList ++ rest =
        '\x7b' :: (['\n'] ++ ((prettyField (depth + 1) f).toList ++ moreText depth fields rest)) := by
      rw [pretty_record, moreText]
      simp only [List.cons_append, List.nil_append, List.append_assoc]
    rw [parts] at ahead
    obtain ⟨t, opens, within, ahead, allowed⟩ := within.opens room ahead
    obtain ⟨u, toNext, within, ahead⟩ := field_scans within allowed shortFirst first (moreText_ends depth fields rest)
      ((ahead_blanks line_feed_blank).mp ahead)
    obtain ⟨v, toEnd, within, ahead⟩ := more_scans short values within ahead
    refine ⟨v, (opens.trans toNext).trans toEnd, ?_, ahead⟩
    rw [List.append_assoc, List.append_assoc] at within
    rw [tokens_record]
    exact within

theorem readable_scans (readable : Readable depth tree) (inside : 0 < depth) : Scans depth tree := by
  induction readable with
  | text depth v => exact text_scans depth v
  | number depth n => exact number_scans inside n
  | flag depth b => exact flag_scans inside b
  | record room short _ ih =>
    intro s read after within _ ahead
    exact record_scans room short (fun f member => ih f member (Nat.succ_pos _)) within ahead

-- Neither a NUL nor any other control but the line feed.
def Shown (y : Char) : Prop := y = '\n' ∨ 0x20 ≤ y.toNat

theorem Blank.shown (blank : Blank x) : Shown x := by
  rcases blank with rfl | rfl
  · exact .inr (by decide)
  · exact .inl rfl

theorem field_shown {f : String × JsonTree} (value : ∀ y ∈ (pretty depth f.2).toList, Shown y) :
    ∀ y ∈ (prettyField depth f).toList, Shown y := by
  rw [prettyField_text]
  refine List.forall_mem_append.mpr ⟨fun y member => Blank.shown (indentation_blanks depth y member),
    List.forall_mem_append.mpr ⟨fun y member => .inr (quoted_shown _ y member), ?_⟩⟩
  exact List.forall_mem_cons.mpr ⟨.inr (by decide), List.forall_mem_cons.mpr ⟨.inr (by decide), value⟩⟩

theorem readable_shown (readable : Readable depth tree) : ∀ y ∈ (pretty depth tree).toList, Shown y := by
  induction readable with
  | text depth v =>
    rw [pretty, text_quoted]
    exact fun y member => .inr (quoted_shown _ y member)
  | number depth n => exact fun y member => .inr (alphanum_shown (number_alphanum n y member))
  | flag depth b => exact fun y member => .inr (alphanum_shown (flag_alphanum b y member))
  | @record depth fields _ _ _ ih =>
    cases fields with
    | nil =>
      have braces : ∀ y ∈ ['\x7b', '\x7d'], Shown y :=
        List.forall_mem_cons.mpr ⟨.inr (by decide), List.forall_mem_singleton.mpr (.inr (by decide))⟩
      rw [pretty, List.isEmpty_nil, if_pos rfl]
      exact braces
    | cons f fields =>
      obtain ⟨first, others⟩ := List.forall_mem_cons.mp ih
      have brace : Shown '\x7d' := .inr (by decide)
      have close : ∀ y ∈ (indentation depth).toList ++ ['\x7d'], Shown y :=
        List.forall_mem_append.mpr ⟨fun y member => Blank.shown (indentation_blanks depth y member),
          List.forall_mem_singleton.mpr brace⟩
      have more : ∀ y ∈ fields.flatMap (fun g => ',' :: '\n' :: (prettyField (depth + 1) g).toList), Shown y := by
        intro y member
        obtain ⟨g, inside, member⟩ := List.mem_flatMap.mp member
        have field := field_shown (others g inside)
        exact List.forall_mem_cons.mpr ⟨.inr (by decide), List.forall_mem_cons.mpr ⟨.inl rfl, field⟩⟩ y member
      rw [pretty_record]
      refine List.forall_mem_cons.mpr ⟨.inr (by decide), List.forall_mem_cons.mpr ⟨.inl rfl, ?_⟩⟩
      refine List.forall_mem_append.mpr ⟨field_shown first, List.forall_mem_append.mpr ⟨more, ?_⟩⟩
      exact List.forall_mem_cons.mpr ⟨.inl rfl, close⟩

-- Nothing in the text ends it early.
theorem tokens_print (readable : Readable 0 (.record fields)) :
    Yaml.tokens? (print (.record fields)) = some (tokens (.record fields) ++ [.streamEnd]) := by
  cases readable with
  | record room short inner =>
    let s := Yaml.TokenStream.start (print (.record fields))
    have within : Within [] 0 s := ⟨rfl, rfl, rfl, List.forall_mem_singleton.mpr rfl, rfl, rfl⟩
    have whole : s.here.rest = (pretty 0 (.record fields)).toList := by
      refine List.takeWhile_eq_self_iff.mpr fun y member => bne_iff_ne.mpr ?_
      rintro rfl
      exact absurd (readable_shown (.record room short inner) _ member) (by unfold Shown; decide)
    have ahead : Ahead ((pretty 0 (.record fields)).toList ++ []) s := .here (whole.trans (List.append_nil _).symm)
    obtain ⟨t, leads, within, ahead⟩ := record_scans room short
      (fun f member => readable_scans (inner f member) (Nat.succ_pos _)) within ahead
    obtain ⟨left, enough, same⟩ := leads (s.here.rest.length + 1) (Nat.lt_succ_self _)
    exact same.trans (within.ends ahead (Nat.zero_lt_of_lt enough))

end GuardedWork.JsonTree
