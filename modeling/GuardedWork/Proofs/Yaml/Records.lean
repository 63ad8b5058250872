import GuardedWork.Config.Settings
import GuardedWork.Proofs.Yaml.Nodes

namespace GuardedWork.Yaml

variable {σ α : Type} {shape : Shape σ} {s : Stream} {path : List PathStep} {pairs : List (Node × Node)}
  {names seen seen' : List String} {change : σ → σ} {fields : List (String × JsonTree)} {a : α} {key value n : Node}
  {name : String} {r r' : σ}

-- What a key says; a collection says nothing.
def Stream.keyText? (s : Stream) (key : Node) : Option String :=
  match s.target key with
  | .scalar _ _ name => some name
  | _ => none

theorem Stream.keyText?_some (is : s.keyText? key = some name) : ∃ style tag, s.target key = .scalar style tag name := by
  unfold keyText? at is
  split at is
  · rename_i style tag text target
    cases is
    exact ⟨style, tag, target⟩
  · cases is

namespace Shape

theorem readPairs_unnamed (unnamed : s.keyText? key = none) :
    ∃ e, shape.readPairs s path ((key, value) :: pairs) seen r = .error e := by
  unfold Stream.keyText? at unnamed
  rw [readPairs]
  cases target : s.target key with
  | scalar style tag text => rw [target] at unnamed; cases unnamed
  | _ => exact ⟨_, rfl⟩

theorem readPairs_unknown (is : s.keyText? key = some name) (unknown : shape.field? name = none) :
    shape.readPairs s path ((key, value) :: pairs) seen r = shape.readPairs s path pairs seen r := by
  obtain ⟨style, tag, target⟩ := s.keyText?_some is
  rw [readPairs, target]
  dsimp only
  rw [unknown]

theorem readPairs_twice {f : Field σ} (is : s.keyText? key = some name) (known : shape.field? name = some f)
    (already : name ∈ seen) :
    shape.readPairs s path ((key, value) :: pairs) seen r = .error ⟨path, .duplicateField name⟩ := by
  obtain ⟨style, tag, target⟩ := s.keyText?_some is
  rw [readPairs, target]
  dsimp only
  rw [known]
  exact if_pos (List.contains_iff_mem.mpr already)

theorem readPairs_known {f : Field σ} (is : s.keyText? key = some name) (known : shape.field? name = some f)
    (unseen : name ∉ seen) :
    ∃ step, shape.readPairs s path ((key, value) :: pairs) seen r =
      (f.assign s (path ++ [step]) value).bind fun change =>
        shape.readPairs s path pairs (name :: seen) (change r) := by
  obtain ⟨style, tag, target⟩ := s.keyText?_some is
  have unseen : seen.contains name = false := by simpa using unseen
  rw [readPairs, target]
  dsimp only
  rw [known]
  dsimp only
  rw [unseen, if_neg Bool.false_ne_true]
  exact ⟨_, rfl⟩

-- Where the pairs are read, the first is passed over, or changes a field that was not given before.
theorem readPairs_cons_ok (came : shape.readPairs s path ((key, value) :: pairs) seen r = .ok (seen', r')) :
    ∃ name, s.keyText? key = some name ∧
      ((shape.field? name = none ∧ shape.readPairs s path pairs seen r = .ok (seen', r')) ∨
        ∃ f place change, shape.field? name = some f ∧ f.assign s place value = .ok change ∧
          shape.readPairs s path pairs (name :: seen) (change r) = .ok (seen', r')) := by
  cases is : s.keyText? key with
  | none =>
    obtain ⟨e, stops⟩ : ∃ e, shape.readPairs s path ((key, value) :: pairs) seen r = .error e := readPairs_unnamed is
    cases stops.symm.trans came
  | some name =>
    refine ⟨name, rfl, ?_⟩
    cases known : shape.field? name with
    | none => exact .inl ⟨rfl, (readPairs_unknown is known).symm.trans came⟩
    | some f =>
      by_cases already : name ∈ seen
      · cases (readPairs_twice is known already).symm.trans came
      · obtain ⟨step, taken⟩ := readPairs_known is known already
        rw [taken] at came
        cases assigned : f.assign s (path ++ [step]) value with
        | error e => rw [assigned] at came; cases came
        | ok change =>
          rw [assigned] at came
          exact .inr ⟨f, _, change, rfl, assigned, came⟩

theorem readPairs_each (came : shape.readPairs s path pairs seen r = .ok (seen', r')) : ∀ pair ∈ pairs,
    ∃ name, s.keyText? pair.1 = some name ∧
      ∀ f, shape.field? name = some f → ∃ place change, f.assign s place pair.2 = .ok change := by
  induction pairs generalizing seen r with
  | nil => exact nofun
  | cons pair pairs ih =>
    obtain ⟨name, is, ⟨unknown, came⟩ | ⟨f, place, change, known, assigned, came⟩⟩ := readPairs_cons_ok came
    · refine List.forall_mem_cons.mpr ⟨⟨name, is, fun f known => ?_⟩, ih came⟩
      cases unknown.symm.trans known
    · refine List.forall_mem_cons.mpr ⟨⟨name, is, fun g same => ?_⟩, ih came⟩
      cases known.symm.trans same
      exact ⟨place, change, assigned⟩

theorem readPairs_seen (came : shape.readPairs s path pairs seen r = .ok (seen', r')) :
    ∀ name ∈ seen', name ∈ seen ∨ ∃ pair ∈ pairs, s.keyText? pair.1 = some name := by
  induction pairs generalizing seen r with
  | nil => cases came; exact fun name member => .inl member
  | cons pair pairs ih =>
    have later {name : String} : (∃ p ∈ pairs, s.keyText? p.1 = some name) →
        ∃ p ∈ pair :: pairs, s.keyText? p.1 = some name := fun ⟨p, inside, is⟩ => ⟨p, .tail _ inside, is⟩
    obtain ⟨name, is, ⟨_, came⟩ | ⟨_, _, _, _, _, came⟩⟩ := readPairs_cons_ok came
    · exact fun other member => (ih came other member).imp_right later
    · intro other member
      rcases ih came other member with inside | given
      · rcases List.mem_cons.mp inside with rfl | inside
        · exact .inr ⟨pair, .head _, is⟩
        · exact .inl inside
      · exact .inr (later given)

theorem read_ok (came : shape.read s path (.mapping pairs) = .ok r) :
    ∃ seen, shape.readPairs s path pairs [] shape.start = .ok (seen, r) ∧
      ∀ f ∈ shape.fields, f.required = true → f.name ∈ seen := by
  change (shape.readPairs s path pairs [] shape.start).bind _ = _ at came
  cases read : shape.readPairs s path pairs [] shape.start with
  | error e => rw [read] at came; cases came
  | ok result =>
    rw [read] at came
    dsimp only [Except.bind] at came
    split at came
    · cases came
    · rename_i nothing
      cases came
      exact ⟨result.1, rfl, fun f member required => by simpa [required] using List.find?_eq_none.mp nothing f member⟩

-- The fields that these pairs give, and the change that they come to.
inductive Reads (shape : Shape σ) (s : Stream) : List (Node × Node) → List String → (σ → σ) → Prop where
  | nil : Reads shape s [] [] id
  | field {α : Type} {reader : Reader α} {set : α → σ → σ} {a : α} {name title : String} {required : Bool}
      {key value : Node} {pairs : List (Node × Node)} {names : List String} {changes : σ → σ}
      (is : s.keyText? key = some name) (known : shape.field? name = some ⟨title, required, reader.sets set⟩)
      (fresh : name ∉ names) (reads : ∀ {path}, reader s path value = .ok a) (more : Reads shape s pairs names changes) :
      Reads shape s ((key, value) :: pairs) (name :: names) (changes ∘ set a)
  | other {name : String} {key value : Node} {pairs : List (Node × Node)} {names : List String} {changes : σ → σ}
      (is : s.keyText? key = some name) (unknown : shape.field? name = none) (more : Reads shape s pairs names changes) :
      Reads shape s ((key, value) :: pairs) names changes

theorem Reads.run (reads : Reads shape s pairs names change) (apart : ∀ name ∈ names, name ∉ seen) (r : σ) :
    shape.readPairs s path pairs seen r = .ok (names.reverse ++ seen, change r) := by
  induction reads generalizing seen r with
  | nil => rfl
  | @field α reader set a name title required key value pairs names changes is known fresh reads _ ih =>
    obtain ⟨first, others⟩ := List.forall_mem_cons.mp apart
    have later : ∀ other ∈ names, other ∉ name :: seen := by
      intro other member inside
      rcases List.mem_cons.mp inside with rfl | inside
      · exact fresh member
      · exact others other member inside
    obtain ⟨step, taken⟩ : ∃ step, shape.readPairs s path ((key, value) :: pairs) seen r =
        (reader.sets set s (path ++ [step]) value).bind fun change =>
          shape.readPairs s path pairs (name :: seen) (change r) := readPairs_known is known first
    rw [taken]
    dsimp only [Reader.sets]
    rw [reads, List.reverse_cons, List.append_assoc]
    exact ih later (set a r)
  | other is unknown _ ih => exact (readPairs_unknown is unknown).trans (ih apart r)

-- A mapping is read alike where an alias leads to it.
theorem read_target (is : s.target n = .mapping pairs) : shape.read s path n = shape.read s path (.mapping pairs) := by
  have found : Reader.found s path n = .ok .mapping := by
    unfold Reader.found
    rw [is]
  unfold read
  rw [found, is]
  rfl

theorem Reads.mapping (reads : Reads shape s pairs names change)
    (filled : ∀ f ∈ shape.fields, f.required = true → f.name ∈ names) (comes : change shape.start = r) :
    shape.read s path (.mapping pairs) = .ok r := by
  have missing : (shape.fields.find? fun f => f.required && !(names.reverse ++ []).contains f.name) = none := by
    refine List.find?_eq_none.mpr fun f member => ?_
    cases required : f.required with
    | false => simp
    | true => simpa using filled f member required
  change (shape.readPairs s path pairs [] shape.start).bind _ = _
  rw [reads.run fun _ _ => List.not_mem_nil]
  dsimp only [Except.bind]
  rw [missing, comes]

end Shape

namespace Reader

theorem text_reads (v : String) : Reader.text s path (JsonTree.text v).node = .ok v := rfl

theorem flag_means {style : Style} {tag : Option Tag} {spelt : String} {b : Bool}
    (is : s.target n = .scalar style tag spelt) (means : Value.ofScalar style tag spelt = .ok (.flag b)) :
    Reader.flag s path n = .ok b := by
  have found : Reader.found s path n = .ok (.value (.flag b)) := by
    simp only [Reader.found, is, means]
  unfold Reader.flag
  rw [found]
  rfl

theorem flag_reads (b : Bool) : Reader.flag s path (JsonTree.flag b).node = .ok b := by
  cases b <;> rfl

theorem natural_means {limit number : Nat} {style : Style} {tag : Option Tag} {spelt : String}
    (is : s.target n = .scalar style tag spelt) (means : Value.ofScalar style tag spelt = .ok (.integer number))
    (small : number < limit) (title : String) : Reader.natural limit title s path n = .ok number := by
  have found : Reader.found s path n = .ok (.value (.integer number)) := by
    simp only [Reader.found, is, means]
  unfold Reader.natural
  rw [found]
  exact if_pos ⟨Int.natCast_nonneg number, Int.ofNat_lt.mpr small⟩

theorem number_means {number : Nat} (small : number < UInt64.size) :
    Value.ofScalar .plain none (toString number) = .ok (.integer number) :=
  congrArg Except.ok (Value.ofPlain_natural small)

theorem natural_reads {limit number : Nat} (small : number < limit) (word : limit ≤ UInt64.size) (title : String) :
    Reader.natural limit title s path (JsonTree.number number).node = .ok number :=
  natural_means rfl (number_means (Nat.lt_of_lt_of_le small word)) small title

theorem word64_reads (w : UInt64) (title : String) :
    Reader.word64 title s path (JsonTree.number w.toNat).node = .ok w := by
  rw [Reader.word64, natural_reads w.toNat_lt (Nat.le_refl _)]
  exact congrArg Except.ok UInt64.ofNat_toNat

theorem word32_reads (w : UInt32) (title : String) :
    Reader.word32 title s path (JsonTree.number w.toNat).node = .ok w := by
  rw [Reader.word32, natural_reads w.toNat_lt (by decide)]
  exact congrArg Except.ok UInt32.ofNat_toNat

end Reader

theorem readDocument_single {reader : Reader α} {text : String} (parsed : Stream.read? text = some s)
    (single : s.roots = [n]) : readDocument reader text = (reader s [] n).mapError .unfit := by
  rw [readDocument, parsed]
  dsimp only
  rw [single]
  dsimp only
  cases reader s [] n <;> rfl

theorem readDocument_print {reader : Reader α} (readable : JsonTree.Readable 0 (.record fields))
    (reads : reader ⟨[JsonTree.node (.record fields)], []⟩ [] (JsonTree.node (.record fields)) = .ok a) :
    readDocument reader (JsonTree.print (.record fields)) = .ok a := by
  rw [readDocument_single (JsonTree.stream_roundtrip readable) rfl, reads]
  rfl

end GuardedWork.Yaml
