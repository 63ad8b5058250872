import GuardedWork.Proofs.Yaml.Words
import GuardedWork.Yaml.TokenStream

namespace GuardedWork.Yaml.TokenStream

open JsonTree (escaped quotedText quoted_shown)

variable {s t u : TokenStream} {read : List Token} {token : Token} {depth fuel : Nat} {x : Char}
  {blanks cs rest : List Char}

-- Both come to the same tokens, each with fuel enough for the text ahead of it.
def Leads (s t : TokenStream) : Prop :=
  ∀ fuel, s.here.rest.length < fuel → ∃ left, t.here.rest.length < left ∧ s.run fuel = t.run left

theorem Leads.trans (first : Leads s t) (second : Leads t u) : Leads s u := by
  intro fuel enough
  obtain ⟨left, enough, same⟩ := first fuel enough
  obtain ⟨last, enough, again⟩ := second left enough
  exact ⟨last, enough, same.trans again⟩

theorem leads_fetch (fetched : s.fetch = some t) (tokens : t.tokens = read ++ [token]) (open_ : token ≠ .streamEnd)
    (shorter : t.here.rest.length < s.here.rest.length) : Leads s t := by
  intro fuel enough
  obtain ⟨fuel, rfl⟩ : ∃ n, fuel = n + 1 := ⟨fuel - 1, by omega⟩
  refine ⟨fuel, by omega, ?_⟩
  rw [run, fetched, Option.bind_eq_bind, Option.bind_some, tokens, List.getLast?_concat,
    if_neg fun same => open_ (Option.some.inj same)]

-- These tokens have been read, and this many braces are open.
structure Within (read : List Token) (depth : Nat) (s : TokenStream) : Prop where
  tokens : s.tokens = read
  flow : s.flowDepth = depth
  keys : s.keys.length = depth + 1
  optional : ∀ k ∈ s.keys, k.required = false
  indent : s.indent = -1
  outer : s.outerIndents = []

-- What begins with one of these is a blank, a comment, a directive or a mark between documents.
def otherStarts : List Char := [' ', '\t', '\n', '\r', '#', '%', '-', '.']

theorem ne_other (starts : x ∉ otherStarts) {y : Char} (other : y ∈ otherStarts) : x ≠ y :=
  fun same => starts (same ▸ other)

theorem first_starts (starts : x ∉ otherStarts) : ∀ y ∈ (x :: rest).head?, y ∉ otherStarts :=
  fun _ same => Option.some.inj same ▸ starts

-- But for blanks in front, the text from here on.
def Ahead (cs : List Char) (s : TokenStream) : Prop := s.here.rest.dropWhile Blank = cs.dropWhile Blank

theorem Ahead.here (rest : s.here.rest = cs) : Ahead cs s := congrArg (List.dropWhile _) rest

theorem ahead_blanks (blank : ∀ y ∈ blanks, Blank y) : Ahead (blanks ++ cs) s ↔ Ahead cs s := by
  unfold Ahead
  rw [List.dropWhile_append_of_pos fun y member => decide_eq_true (blank y member)]

theorem Ahead.split (ahead : Ahead cs s) (starts : ∀ y ∈ cs.head?, y ∉ otherStarts) :
    ∃ blanks, (∀ y ∈ blanks, Blank y) ∧ s.here.rest = blanks ++ cs := by
  have blank {y : Char} (member : y ∈ s.here.rest.takeWhile Blank) : Blank y := by
    simpa using List.mem_takeWhile_imp member
  refine ⟨s.here.rest.takeWhile Blank, fun _ => blank, ?_⟩
  have all : cs.dropWhile Blank = cs := by
    cases cs with
    | nil => rfl
    | cons x rest =>
      refine List.dropWhile_cons_of_neg fun blank => ?_
      exact (of_decide_eq_true blank).elim (ne_other (starts x rfl) (by decide)) (ne_other (starts x rfl) (by decide))
  have parts := List.takeWhile_append_dropWhile (p := Blank) (l := s.here.rest)
  rw [ahead, all] at parts
  exact parts.symm

theorem starts_alphanum (alphanum : x.isAlphanum = true) : x ∉ otherStarts := by
  intro member
  have other : (otherStarts.all fun y => !y.isAlphanum) = true := rfl
  have never := List.all_eq_true.mp other x member
  rw [alphanum] at never
  cases never

theorem starts_line (starts : x ∉ otherStarts) : isBreak x = false := by
  rw [isBreak, Bool.or_eq_false_iff, beq_eq_false_iff_ne, beq_eq_false_iff_ne]
  exact ⟨ne_other starts (by decide), ne_other starts (by decide)⟩

theorem passBlanks_stays (starts : ∀ y ∈ cs.head?, y ∉ otherStarts) (ahead : s.here.rest = cs) :
    s.passBlanks fuel = s := by
  cases fuel with
  | zero => rfl
  | succ fuel =>
    rw [passBlanks, ahead]
    cases cs with
    | nil => rfl
    | cons y ys =>
      have starts := starts y rfl
      split
      · next same => cases same; exact absurd rfl (ne_other starts (by decide))
      · next same => cases same; exact absurd rfl (ne_other starts (by decide))
      · next same => cases same; exact absurd rfl (ne_other starts (by decide))
      · next same => cases same; rw [starts_line starts, if_neg Bool.false_ne_true]
      · next same => cases same

-- Outside all braces a break may let a key follow.
theorem passBlanks_ahead (blank : ∀ y ∈ blanks, Blank y) (starts : ∀ y ∈ cs.head?, y ∉ otherStarts)
    (ahead : s.here.rest = blanks ++ cs) (enough : blanks.length < fuel) :
    ∃ allowed, s.passBlanks fuel = { s with here := s.here.skip blanks.length, keyAllowed := allowed } ∧
      (s.keyAllowed = true → allowed = true) := by
  induction blanks generalizing s fuel with
  | nil => exact ⟨s.keyAllowed, passBlanks_stays starts ahead, id⟩
  | cons y ys ih =>
    obtain ⟨fuel, rfl⟩ : ∃ n, fuel = n + 1 := ⟨fuel - 1, by simp at enough; omega⟩
    obtain ⟨first, others⟩ := List.forall_mem_cons.mp blank
    have fewer : ys.length < fuel := Nat.lt_of_succ_lt_succ enough
    rcases first with rfl | rfl
    · obtain ⟨allowed, passed, still⟩ := ih (s := { s with here := s.here.next }) others (next_tail ahead) fewer
      refine ⟨allowed, ?_, still⟩
      rw [passBlanks, ahead]
      exact passed
    · obtain ⟨allowed, passed, still⟩ := ih
        (s := { s with here := s.here.next, keyAllowed := s.keyAllowed || !s.inFlow }) others (next_tail ahead) fewer
      refine ⟨allowed, ?_, fun before => still (Bool.or_eq_true_iff.mpr (.inl before))⟩
      rw [passBlanks, ahead, List.cons_append]
      change passBlanks fuel { s with here := s.here.pastBreak, keyAllowed := s.keyAllowed || !s.inFlow } = _
      rw [pastBreak_feed ahead]
      exact passed

def reached (s : TokenStream) (k : KeyPlace) : KeyPlace :=
  if k.possible && (k.line < s.here.line || k.index + keyReach < s.here.index) then { k with possible := false } else k

theorem dropStaleKeys_optional (optional : ∀ k ∈ s.keys, k.required = false) :
    s.dropStaleKeys = some { s with keys := s.keys.map s.reached } := by
  unfold dropStaleKeys
  dsimp only
  rw [if_neg]
  · rfl
  · intro stale
    obtain ⟨k, member, stale⟩ := List.any_eq_true.mp stale
    rw [optional k member, Bool.and_false] at stale
    cases stale

theorem reached_required (s : TokenStream) (k : KeyPlace) : (s.reached k).required = k.required := by
  unfold reached
  split <;> rfl

-- The blanks in front are passed, and keys too far behind are given up.
def settled (s : TokenStream) : TokenStream :=
  let s := s.passBlanks (s.here.rest.length + 1)
  { s with keys := s.keys.map s.reached }

theorem settled_stays (starts : ∀ y ∈ cs.head?, y ∉ otherStarts) (ahead : s.here.rest = cs) :
    s.settled = { s with keys := s.keys.map s.reached } := by
  rw [settled, passBlanks_stays starts ahead]

-- The place of a key on this line.
def keyHere (s : TokenStream) : KeyPlace := ⟨true, false, s.tokens.length, s.here.line, s.here.column, s.here.index⟩

-- A key is short enough for its colon to find it.
def ShortKey (cs : List Char) : Prop := (quotedText cs).length ≤ keyReach

instance (cs : List Char) : Decidable (ShortKey cs) := inferInstanceAs (Decidable (_ ≤ _))

theorem key_in_reach (short : ShortKey cs) (along : s.here.Along (quotedText cs) rest t.here) :
    t.reached (keyHere s) = keyHere s := by
  have line : ¬ s.here.line < t.here.line := by
    rw [along.line]
    omega
  have index : ¬ s.here.index + keyReach < t.here.index := by
    rw [along.index]
    unfold ShortKey at short
    omega
  rw [reached, keyHere]
  dsimp only
  rw [decide_eq_false line, decide_eq_false index, Bool.or_self, Bool.and_false, if_neg Bool.false_ne_true]

namespace Within

theorem passed (within : Within read depth s) (ahead : Ahead cs s) (starts : ∀ y ∈ cs.head?, y ∉ otherStarts) :
    Within read depth (s.passBlanks (s.here.rest.length + 1)) ∧
      (s.passBlanks (s.here.rest.length + 1)).here.rest = cs ∧
      (s.keyAllowed = true → (s.passBlanks (s.here.rest.length + 1)).keyAllowed = true) := by
  obtain ⟨blanks, blank, ahead⟩ := ahead.split starts
  have enough : blanks.length < s.here.rest.length + 1 := by
    rw [ahead, List.length_append]
    omega
  obtain ⟨allowed, passed, still⟩ := passBlanks_ahead blank starts ahead enough
  rw [passed]
  refine ⟨⟨within.tokens, within.flow, within.keys, within.optional, within.indent, within.outer⟩, ?_, still⟩
  rw [Cursor.skip_rest, ahead, List.drop_left]

theorem settled (within : Within read depth s) (ahead : Ahead cs s) (starts : ∀ y ∈ cs.head?, y ∉ otherStarts) :
    Within read depth s.settled ∧ s.settled.here.rest = cs ∧ (s.keyAllowed = true → s.settled.keyAllowed = true) := by
  obtain ⟨passed, rest, still⟩ := within.passed ahead starts
  refine ⟨⟨passed.tokens, passed.flow, ?_, fun k member => ?_, passed.indent, passed.outer⟩, rest, still⟩
  · exact List.length_map .. |>.trans passed.keys
  · obtain ⟨old, was, rfl⟩ := List.mem_map.mp member
    exact (reached_required _ old).trans (passed.optional old was)

theorem unrollIndent (within : Within read depth s) (column : Int) : s.unrollIndent column = s := by
  unfold TokenStream.unrollIndent
  rw [within.outer, closeBlocks, ite_self]

-- By the first character alone, once all before it is settled.
theorem fetch_settled (within : Within read depth s) (ahead : Ahead cs s) (starts : ∀ y ∈ cs.head?, y ∉ otherStarts) :
    s.fetch = match cs with
      | [] => s.settled.fetchEnd
      | x :: rest => s.settled.fetchMark x rest := by
  obtain ⟨settled, here, _⟩ := within.settled ahead starts
  have dropped : (s.passBlanks (s.here.rest.length + 1)).dropStaleKeys = some s.settled :=
    dropStaleKeys_optional (within.passed ahead starts).1.optional
  have unrolled := settled.unrollIndent s.settled.here.column
  rw [fetch, dropped, Option.bind_eq_bind, Option.bind_some]
  dsimp only
  rw [unrolled, here]
  cases cs with
  | nil => rfl
  | cons x rest =>
    have starts := starts x rfl
    have plain := other_no_mark here (ne_other starts (by decide)) (ne_other starts (by decide))
    dsimp only
    rw [if_neg (fun directive => ne_other starts (by decide) directive.2), plain, if_neg Bool.false_ne_true]

theorem leads_mark {outside : List Token} {inside : Nat} (within : Within read depth s) (ahead : Ahead (x :: rest) s)
    (starts : x ∉ otherStarts) (fetched : s.settled.fetchMark x rest = some t)
    (after : Within (outside ++ [token]) inside t) (further : token ≠ .streamEnd)
    (shorter : t.here.rest.length ≤ rest.length) : Leads s t := by
  have first : ∀ y ∈ (x :: rest).head?, y ∉ otherStarts := first_starts starts
  refine leads_fetch ((within.fetch_settled ahead first).trans fetched) after.tokens further ?_
  obtain ⟨blanks, _, ahead⟩ := ahead.split first
  rw [ahead, List.length_append, List.length_cons]
  omega

theorem withKeys (within : Within read depth s) {keys : List KeyPlace} (length : keys.length = depth + 1)
    (optional : ∀ k ∈ keys, k.required = false) : Within read depth { s with keys } :=
  ⟨within.tokens, within.flow, length, optional, within.indent, within.outer⟩

theorem removeKey (within : Within read depth s) :
    ∃ keys, s.removeKey = some { s with keys } ∧ keys.tail = s.keys.tail ∧ Within read depth { s with keys } := by
  obtain ⟨k, ks, keys⟩ := List.exists_cons_of_length_eq_add_one within.keys
  have optional := within.optional
  have length := within.keys
  rw [keys] at optional length
  obtain ⟨first, others⟩ := List.forall_mem_cons.mp optional
  refine ⟨{ k with possible := false } :: ks, ?_, (congrArg List.tail keys).symm,
    within.withKeys length (List.forall_mem_cons.mpr ⟨first, others⟩)⟩
  unfold TokenStream.removeKey
  rw [keys]
  dsimp only
  rw [first, Bool.and_false, if_neg Bool.false_ne_true]

theorem saveKey_allowed (within : Within read depth s) (allowed : s.keyAllowed = true) :
    s.saveKey = some { s with keys := keyHere s :: s.keys.tail } ∧
      Within read depth { s with keys := keyHere s :: s.keys.tail } := by
  obtain ⟨keys, removed, tail, inner⟩ := within.removeKey
  have indented : (s.indent == (s.here.column : Int)) = false := by
    rw [within.indent, beq_eq_false_iff_ne]
    omega
  constructor
  · rw [saveKey, if_pos allowed, removed, Option.bind_eq_bind, Option.bind_some]
    dsimp only
    rw [indented, Bool.and_false, tail]
    rfl
  · have length := inner.keys
    refine within.withKeys ?_ (List.forall_mem_cons.mpr ⟨rfl, fun k member => within.optional k (List.mem_of_mem_tail member)⟩)
    rw [List.length_cons, List.length_tail, within.keys]
    omega

theorem saveKey (within : Within read depth s) :
    ∃ keys, s.saveKey = some { s with keys } ∧ Within read depth { s with keys } := by
  by_cases allowed : s.keyAllowed = true
  · exact ⟨_, within.saveKey_allowed allowed⟩
  · exact ⟨s.keys, if_neg allowed, within⟩

theorem fetchFlowStart (within : Within read depth s) (room : depth < flowLimit) (here : s.here.rest = x :: rest)
    (token : Token) : ∃ t, s.fetchFlowStart token = some t ∧ Within (read ++ [token]) (depth + 1) t ∧
      t.here.rest = rest ∧ t.keyAllowed = true := by
  obtain ⟨keys, saved, inner⟩ := within.saveKey
  have shallow : ¬ flowLimit ≤ s.flowDepth := by
    rw [within.flow]
    omega
  rw [TokenStream.fetchFlowStart, saved, Option.bind_eq_bind, Option.bind_some, if_neg shallow]
  refine ⟨_, rfl, ⟨?_, ?_, ?_, ?_, within.indent, within.outer⟩, next_tail here, rfl⟩
  · exact congrArg (· ++ [token]) within.tokens
  · exact congrArg (· + 1) within.flow
  · exact congrArg (· + 1) inner.keys
  · exact List.forall_mem_cons.mpr ⟨rfl, inner.optional⟩

theorem fetchFlowEnd (within : Within read (depth + 1) s) (here : s.here.rest = x :: rest) (token : Token) :
    ∃ t, s.fetchFlowEnd token = some t ∧ Within (read ++ [token]) depth t ∧ t.here.rest = rest := by
  obtain ⟨keys, removed, _, inner⟩ := within.removeKey
  have inside : inFlow { s with keys } = true := by
    rw [inFlow, decide_eq_true_eq, within.flow]
    omega
  rw [TokenStream.fetchFlowEnd, removed, Option.bind_eq_bind, Option.bind_some, if_pos inside]
  refine ⟨_, rfl, ⟨?_, ?_, ?_, ?_, within.indent, within.outer⟩, next_tail here⟩
  · exact congrArg (· ++ [token]) within.tokens
  · exact congrArg (· - 1) within.flow
  · exact (List.length_tail ..).trans (congrArg (· - 1) inner.keys)
  · exact fun k member => inner.optional k (List.mem_of_mem_tail member)

theorem fetchFlowEntry (within : Within read depth s) (here : s.here.rest = x :: rest) :
    ∃ t, s.fetchFlowEntry = some t ∧ Within (read ++ [.flowEntry]) depth t ∧ t.here.rest = rest ∧
      t.keyAllowed = true := by
  obtain ⟨keys, removed, _, inner⟩ := within.removeKey
  rw [TokenStream.fetchFlowEntry, removed, Option.bind_eq_bind, Option.bind_some]
  refine ⟨_, rfl, ⟨?_, within.flow, inner.keys, inner.optional, within.indent, within.outer⟩, next_tail here, rfl⟩
  exact congrArg (· ++ [.flowEntry]) within.tokens

theorem inFlow (within : Within read depth s) (inside : 0 < depth) : s.inFlow = true := by
  rw [TokenStream.inFlow, decide_eq_true_eq, within.flow]
  exact inside

theorem fetchQuoted (within : Within read depth s) {keys : List KeyPlace} (saved : s.saveKey = some { s with keys })
    (inner : Within read depth { s with keys }) (here : s.here.rest = quotedText cs ++ rest) :
    ∃ t, s.fetchQuoted true = some t ∧ Within (read ++ [.scalar .doubleQuoted (String.ofList cs)]) depth t ∧
      s.here.Along (quotedText cs) rest t.here ∧ t.keys = keys := by
  have along := Cursor.skip_along (quoted_shown cs) here
  have quote : s.here.rest = '"' :: (escaped cs ++ '"' :: rest) := by
    rw [here, quotedText, List.append_assoc]
    rfl
  have first := Cursor.next_along (by decide) quote
  have enough : (escaped cs).length < s.here.rest.length := by
    rw [quote, List.length_cons, List.length_append]
    omega
  have length : (quotedText cs).length = (escaped cs).length + 1 + 1 := by
    rw [quotedText, List.length_append]
    rfl
  have read := (escaped_roundtrip cs rest s.here.next s.here.rest.length (first.column ▸ Nat.succ_pos _) first.rest
    enough).1
  rw [TokenStream.fetchQuoted, saved, Option.bind_eq_bind, Option.bind_some, read, Option.bind_eq_bind,
    Option.bind_some]
  refine ⟨_, rfl, ⟨?_, inner.flow, inner.keys, inner.optional, inner.indent, inner.outer⟩, ?_, rfl⟩
  · exact congrArg (· ++ [Token.scalar .doubleQuoted (String.ofList cs)]) within.tokens
  · rw [length] at along
    exact along

theorem fetchPlain {word : List Char} (within : Within read depth s) (inside : 0 < depth) (filled : word ≠ [])
    (alphanum : ∀ y ∈ word, y.isAlphanum = true) (blank : ∀ y ∈ blanks, Blank y) (ends : EndsValue x)
    (here : s.here.rest = word ++ (blanks ++ x :: rest)) :
    ∃ t, s.fetchPlain = some t ∧ Within (read ++ [.scalar .plain (String.ofList word)]) depth t ∧
      t.here.rest = x :: rest := by
  obtain ⟨keys, saved, inner⟩ := within.saveKey
  have flow := inner.inFlow inside
  have least : s.indent + 1 = 0 := by
    rw [within.indent]
    rfl
  obtain ⟨fuel, enough⟩ : ∃ n, s.here.rest.length + 1 = n + 2 := ⟨s.here.rest.length - 1, by
    rw [here, List.length_append, List.length_append, List.length_cons]
    omega⟩
  obtain ⟨started, reads⟩ := word_roundtrip fuel filled alphanum blank ends here
  rw [TokenStream.fetchPlain, saved, Option.bind_eq_bind, Option.bind_some, flow]
  dsimp only
  rw [least, enough, reads, Option.bind_eq_bind, Option.bind_some]
  refine ⟨_, rfl, ⟨?_, inner.flow, inner.keys, inner.optional, inner.indent, inner.outer⟩, ?_⟩
  · exact congrArg (· ++ [Token.scalar .plain (String.ofList word)]) within.tokens
  · change (s.here.skip (word.length + blanks.length)).rest = _
    rw [Cursor.skip_rest, here, ← List.append_assoc, ← List.length_append, List.drop_left]

-- The key goes in front of the scalar that turns out to be one.
theorem fetchValue {key : KeyPlace} {keys : List KeyPlace} (within : Within (read ++ [token]) depth s)
    (inside : 0 < depth) (kept : s.keys = key :: keys) (possible : key.possible = true)
    (position : key.position = read.length) (here : s.here.rest = x :: rest) :
    ∃ t, s.fetchValue = some t ∧ Within (read ++ [.key, token, .value]) depth t ∧ t.here.rest = rest := by
  have flow : (s.putAt key.position .key).inFlow = true := within.inFlow inside
  have rolled : (s.putAt key.position .key).rollIndent key.column key.position .blockMappingStart =
      s.putAt key.position .key := by
    rw [rollIndent, flow, Bool.true_or, if_pos rfl]
  have tokens : (s.putAt key.position .key).tokens = read ++ [.key, token] := by
    rw [putAt, within.tokens, position]
    dsimp only
    rw [List.take_left, List.drop_left]
  have optional := within.optional
  have length := within.keys
  rw [kept] at optional length
  obtain ⟨first, others⟩ := List.forall_mem_cons.mp optional
  rw [TokenStream.fetchValue, kept]
  dsimp only
  rw [if_pos possible, rolled]
  refine ⟨_, rfl, ⟨?_, within.flow, length, List.forall_mem_cons.mpr ⟨first, others⟩, within.indent, within.outer⟩,
    next_tail here⟩
  exact (congrArg (· ++ [Token.value]) tokens).trans (List.append_assoc ..)

theorem opens (within : Within read depth s) (room : depth < flowLimit) (ahead : Ahead ('\x7b' :: rest) s) :
    ∃ t, Leads s t ∧ Within (read ++ [.flowMappingStart]) (depth + 1) t ∧ Ahead rest t ∧ t.keyAllowed = true := by
  have starts : '\x7b' ∉ otherStarts := by decide
  obtain ⟨settled, here, _⟩ := within.settled ahead (first_starts starts)
  obtain ⟨t, fetched, after, behind, allowed⟩ := settled.fetchFlowStart room here .flowMappingStart
  have leads := within.leads_mark ahead starts fetched after nofun (Nat.le_of_eq (congrArg List.length behind))
  exact ⟨t, leads, after, .here behind, allowed⟩

theorem closes (within : Within read (depth + 1) s) (ahead : Ahead ('\x7d' :: rest) s) :
    ∃ t, Leads s t ∧ Within (read ++ [.flowMappingEnd]) depth t ∧ Ahead rest t := by
  have starts : '\x7d' ∉ otherStarts := by decide
  obtain ⟨settled, here, _⟩ := within.settled ahead (first_starts starts)
  obtain ⟨t, fetched, after, behind⟩ := settled.fetchFlowEnd here .flowMappingEnd
  have leads := within.leads_mark ahead starts fetched after nofun (Nat.le_of_eq (congrArg List.length behind))
  exact ⟨t, leads, after, .here behind⟩

theorem separates (within : Within read depth s) (ahead : Ahead (',' :: rest) s) :
    ∃ t, Leads s t ∧ Within (read ++ [.flowEntry]) depth t ∧ Ahead rest t ∧ t.keyAllowed = true := by
  have starts : ',' ∉ otherStarts := by decide
  obtain ⟨settled, here, _⟩ := within.settled ahead (first_starts starts)
  obtain ⟨t, fetched, after, behind, allowed⟩ := settled.fetchFlowEntry here
  have leads := within.leads_mark ahead starts fetched after nofun (Nat.le_of_eq (congrArg List.length behind))
  exact ⟨t, leads, after, .here behind, allowed⟩

theorem scans_text (within : Within read depth s) (ahead : Ahead (quotedText cs ++ rest) s) :
    ∃ t, Leads s t ∧ Within (read ++ [.scalar .doubleQuoted (String.ofList cs)]) depth t ∧ Ahead rest t := by
  have starts : '"' ∉ otherStarts := by decide
  obtain ⟨settled, here, _⟩ := within.settled ahead (first_starts starts)
  obtain ⟨keys, saved, inner⟩ := settled.saveKey
  obtain ⟨t, fetched, after, along, _⟩ := settled.fetchQuoted saved inner here
  have shorter : t.here.rest.length ≤ (escaped cs ++ ['"'] ++ rest).length :=
    along.rest ▸ (List.suffix_append ..).length_le
  exact ⟨t, within.leads_mark ahead starts fetched after nofun shorter, after, .here along.rest⟩

theorem fetchMark_alphanum (alphanum : x.isAlphanum = true) (s : TokenStream) (rest : List Char) :
    s.fetchMark x rest = s.fetchPlain := by
  have other {y : Char} (h : y.isAlphanum = false) (same : x = y) : False := alphanum_ne alphanum h same
  unfold fetchMark
  split
  all_goals first | rfl | exact (other rfl rfl).elim

theorem scans_word {word : List Char} (within : Within read depth s) (inside : 0 < depth) (filled : word ≠ [])
    (alphanum : ∀ y ∈ word, y.isAlphanum = true) (blank : ∀ y ∈ blanks, Blank y) (ends : EndsValue x)
    (ahead : Ahead (word ++ (blanks ++ x :: rest)) s) :
    ∃ t, Leads s t ∧ Within (read ++ [.scalar .plain (String.ofList word)]) depth t ∧ Ahead (x :: rest) t := by
  obtain ⟨y, ys, rfl⟩ := List.exists_cons_of_ne_nil filled
  have first := alphanum y List.mem_cons_self
  have starts := starts_alphanum first
  obtain ⟨settled, here, _⟩ := within.settled ahead (first_starts starts)
  obtain ⟨t, fetched, after, behind⟩ := settled.fetchPlain inside filled alphanum blank ends here
  have shorter : t.here.rest.length ≤ (ys ++ (blanks ++ x :: rest)).length := by
    rw [behind, List.length_append, List.length_append]
    omega
  exact ⟨t, within.leads_mark ahead starts ((fetchMark_alphanum first ..).trans fetched) after nofun shorter, after,
    .here behind⟩

theorem scans_key (within : Within read depth s) (inside : 0 < depth) (allowed : s.keyAllowed = true)
    (short : ShortKey cs) (ahead : Ahead (quotedText cs ++ ':' :: ' ' :: rest) s) :
    ∃ t, Leads s t ∧ Within (read ++ [.key, .scalar .doubleQuoted (String.ofList cs), .value]) depth t ∧
      Ahead rest t := by
  have starts : '"' ∉ otherStarts := by decide
  obtain ⟨settled, here, still⟩ := within.settled ahead (first_starts starts)
  obtain ⟨saved, inner⟩ := settled.saveKey_allowed (still allowed)
  obtain ⟨t, fetched, afterText, along, keys⟩ := settled.fetchQuoted saved inner here
  have shorter : t.here.rest.length ≤ (escaped cs ++ ['"'] ++ ':' :: ' ' :: rest).length :=
    along.rest ▸ (List.suffix_append ..).length_le
  have first := within.leads_mark ahead starts fetched afterText nofun shorter
  -- the colon stands right behind it, where the key is still in reach
  have colon : ∀ y ∈ (':' :: ' ' :: rest).head?, y ∉ otherStarts := first_starts (by decide)
  have kept : t.settled.keys = keyHere s.settled :: s.settled.keys.tail.map t.reached := by
    rw [settled_stays colon along.rest, keys, List.map_cons, key_in_reach short along]
  have position : (keyHere s.settled).position = read.length := congrArg List.length settled.tokens
  obtain ⟨settledColon, hereColon, _⟩ := afterText.settled (.here along.rest) colon
  obtain ⟨u, fetchedColon, done, behind⟩ := settledColon.fetchValue inside kept rfl position hereColon
  have blank : ∀ y ∈ [' '], Blank y := fun y member => .inl (List.mem_singleton.mp member)
  have after : Within (read ++ [.key, .scalar .doubleQuoted (String.ofList cs)] ++ [.value]) depth u := by
    rw [List.append_assoc]
    exact done
  have second := afterText.leads_mark (.here along.rest) (colon ':' rfl) fetchedColon after nofun
    (Nat.le_of_eq (congrArg List.length behind))
  exact ⟨u, first.trans second, done, (ahead_blanks blank).mp (.here behind)⟩

-- At the end of the text.
theorem ends (within : Within read 0 s) (ahead : Ahead [] s) (enough : 0 < fuel) :
    s.run fuel = some (read ++ [.streamEnd]) := by
  obtain ⟨fuel, rfl⟩ : ∃ n, fuel = n + 1 := ⟨fuel - 1, by omega⟩
  obtain ⟨settled, here, _⟩ := within.settled ahead nofun
  obtain ⟨keys, removed, _, inner⟩ := settled.removeKey
  have fetched := within.fetch_settled ahead nofun
  dsimp only at fetched
  rw [fetchEnd, settled.unrollIndent, removed, Option.bind_eq_bind, Option.bind_some] at fetched
  rw [run, fetched, Option.bind_eq_bind, Option.bind_some]
  have last : (TokenStream.push .streamEnd (setKeyAllowed false { s.settled with keys })).tokens = read ++ [.streamEnd] :=
    congrArg (· ++ [Token.streamEnd]) settled.tokens
  rw [last, List.getLast?_concat, if_pos rfl]

end Within
end GuardedWork.Yaml.TokenStream
