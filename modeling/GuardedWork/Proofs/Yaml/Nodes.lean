import GuardedWork.Proofs.Yaml.Printed
import GuardedWork.Yaml.Node

namespace GuardedWork

namespace Yaml.NodeReading

variable {block indentless : Bool} {fuel next : Nat} {rest : List Token} {names : List (String × Nat)}
  {anchored : List (Nat × Node)}

theorem node_scalar (style : Style) (text : String) :
    node block indentless (fuel + 2) ⟨.scalar style text :: rest, names, next, anchored⟩ =
      some (.scalar style none text, ⟨rest, names, next, anchored⟩) := rfl

theorem node_mapping {pairs : List (Node × Node)} {s : NodeReading}
    (reads : flowPairs true fuel ⟨rest, names, next, anchored⟩ = some (pairs, s)) :
    node block indentless (fuel + 2) ⟨.flowMappingStart :: rest, names, next, anchored⟩ = some (.mapping pairs, s) := by
  change ((flowPairs true fuel ⟨rest, names, next, anchored⟩).bind _).bind _ = _
  rw [reads]
  rfl

theorem flowPairs_end (first : Bool) : flowPairs first (fuel + 1) ⟨.flowMappingEnd :: rest, names, next, anchored⟩ =
    some ([], ⟨rest, names, next, anchored⟩) := by
  cases first <;> rfl

theorem flowPairs_entry : flowPairs false (fuel + 1) ⟨.flowEntry :: rest, names, next, anchored⟩ =
    flowPair fuel ⟨rest, names, next, anchored⟩ := rfl

theorem flowPairs_first : flowPairs true (fuel + 1) ⟨.key :: rest, names, next, anchored⟩ =
    flowPair fuel ⟨.key :: rest, names, next, anchored⟩ := rfl

theorem flowValue_filled (token : Token) (entry : token ≠ .flowEntry) (close : token ≠ .flowMappingEnd) :
    flowValue (fuel + 1) ⟨.value :: token :: rest, names, next, anchored⟩ =
      node false false fuel ⟨token :: rest, names, next, anchored⟩ := by
  cases token <;> first | rfl | exact absurd rfl entry | exact absurd rfl close

theorem flowPair_key {style : Style} {name : String} {value : Node} {more : List (Node × Node)} {s t : NodeReading}
    (reads : flowValue (fuel + 2) ⟨rest, names, next, anchored⟩ = some (value, s))
    (others : flowPairs false (fuel + 2) s = some (more, t)) :
    flowPair (fuel + 3) ⟨.key :: .scalar style name :: rest, names, next, anchored⟩ =
      some ((.scalar style none name, value) :: more, t) := by
  change (flowValue (fuel + 2) ⟨rest, names, next, anchored⟩).bind _ = _
  rw [reads]
  change (flowPairs false (fuel + 2) s).bind _ = _
  rw [others]
  rfl

theorem documents_end {left : Nat} : documents fuel (left + 1) false ⟨[.streamEnd], names, next, anchored⟩ =
    some ([], ⟨[.streamEnd], names, next, anchored⟩) := by
  have none : passAll .documentEnd fuel ⟨[.streamEnd], names, next, anchored⟩ =
      some ((), ⟨[.streamEnd], names, next, anchored⟩) := by
    cases fuel <;> rfl
  change (passAll .documentEnd fuel ⟨[.streamEnd], names, next, anchored⟩).bind _ = _
  rw [none]
  rfl

-- A document without its mark, and the end of the text behind it.
theorem documents_single {root : Node} {left : Nat}
    (reads : node true false fuel ⟨.flowMappingStart :: rest, [], next, anchored⟩ =
      some (root, ⟨[.streamEnd], [], next, anchored⟩)) :
    documents fuel (left + 2) true ⟨.flowMappingStart :: rest, names, next, anchored⟩ =
      some ([root], ⟨[.streamEnd], [], next, anchored⟩) := by
  change (node true false fuel ⟨.flowMappingStart :: rest, [], next, anchored⟩).bind _ = _
  rw [reads]
  change (documents fuel (left + 1) false ⟨[.streamEnd], [], next, anchored⟩).bind _ = _
  rw [documents_end]
  rfl

end Yaml.NodeReading

namespace JsonTree

open Yaml (Node NodeReading Token)

variable {fuel next : Nat} {names : List (String × Nat)} {anchored : List (Nat × Node)}

mutual
def node : JsonTree → Node
  | text s => .scalar .doubleQuoted none s
  | number n => .scalar .plain none (toString n)
  | flag b => .scalar .plain none (if b then "true" else "false")
  | record fields => .mapping (fieldsNodes fields)

def fieldsNodes : List (String × JsonTree) → List (Node × Node)
  | [] => []
  | (name, value) :: rest => (.scalar .doubleQuoted none name, node value) :: fieldsNodes rest
end

theorem tokens_first (tree : JsonTree) :
    ∃ first more, tokens tree = first :: more ∧ first ≠ .flowEntry ∧ first ≠ .flowMappingEnd := by
  cases tree with
  | text s => exact ⟨_, _, rfl, nofun, nofun⟩
  | number n => exact ⟨_, _, rfl, nofun, nofun⟩
  | flag b => exact ⟨_, _, rfl, nofun, nofun⟩
  | record fields => exact ⟨_, _, rfl, nofun, nofun⟩

-- Three calls are enough for each token.
def ReadsBack (tree : JsonTree) : Prop :=
  ∀ block indentless fuel rest names next anchored, 3 * (tokens tree).length ≤ fuel →
    NodeReading.node block indentless fuel ⟨tokens tree ++ rest, names, next, anchored⟩ =
      some (node tree, ⟨rest, names, next, anchored⟩)

theorem scalar_reads (style : Yaml.Style) (text : String) {tree : JsonTree}
    (one : tokens tree = [.scalar style text]) (same : node tree = .scalar style none text) : ReadsBack tree := by
  intro block indentless fuel rest names next anchored enough
  rw [one, List.length_singleton] at enough
  obtain ⟨fuel, rfl⟩ : ∃ n, fuel = n + 2 := ⟨fuel - 2, by omega⟩
  rw [one, same]
  exact NodeReading.node_scalar style text

theorem field_reads {name : String} {value : JsonTree} {more : List (Node × Node)} {after : List Token}
    {s : NodeReading} (reads : ReadsBack value) (enough : 3 * (fieldTokens (name, value)).length ≤ fuel + 1)
    (others : NodeReading.flowPairs false fuel ⟨after, names, next, anchored⟩ = some (more, s)) :
    NodeReading.flowPair (fuel + 1) ⟨fieldTokens (name, value) ++ after, names, next, anchored⟩ =
      some ((.scalar .doubleQuoted none name, node value) :: more, s) := by
  rw [fieldTokens, List.length_cons, List.length_cons, List.length_cons] at enough
  obtain ⟨fuel, rfl⟩ : ∃ n, fuel = n + 2 := ⟨fuel - 2, by omega⟩
  obtain ⟨first, rest, tokens, entry, close⟩ := tokens_first value
  have value := reads false false (fuel + 1) after names next anchored (by omega)
  rw [tokens, List.cons_append] at value
  rw [fieldTokens, tokens]
  exact NodeReading.flowPair_key ((NodeReading.flowValue_filled first entry close).trans value) others

mutual
theorem node_roundtrip : (tree : JsonTree) → ReadsBack tree
  | .text s => scalar_reads .doubleQuoted s rfl rfl
  | .number n => scalar_reads .plain (toString n) rfl rfl
  | .flag b => scalar_reads .plain _ rfl rfl
  | .record [] => by
    intro block indentless fuel rest names next anchored enough
    obtain ⟨fuel, rfl⟩ : ∃ n, fuel = n + 3 := ⟨fuel - 3, by simp [tokens, fieldsTokens] at enough; omega⟩
    exact NodeReading.node_mapping (NodeReading.flowPairs_end true)
  | .record ((name, value) :: fields) => by
    intro block indentless fuel rest names next anchored enough
    have parts : tokens (.record ((name, value) :: fields)) =
        .flowMappingStart :: (fieldTokens (name, value) ++ moreTokens fields) := tokens_record _ _
    have field : (fieldTokens (name, value)).length = (tokens value).length + 3 := rfl
    rw [parts, List.length_cons, List.length_append, field] at enough
    obtain ⟨fuel, rfl⟩ : ∃ n, fuel = n + 4 := ⟨fuel - 4, by omega⟩
    have others := fields_roundtrip fields fuel rest names next anchored (by omega)
    rw [parts, List.cons_append, List.append_assoc]
    exact NodeReading.node_mapping <|
      NodeReading.flowPairs_first.trans (field_reads (node_roundtrip value) (by omega) others)

-- Behind the first field of a record.
theorem fields_roundtrip : (fields : List (String × JsonTree)) → ∀ fuel rest names next anchored,
    3 * (moreTokens fields).length ≤ fuel →
      NodeReading.flowPairs false fuel ⟨moreTokens fields ++ rest, names, next, anchored⟩ =
        some (fieldsNodes fields, ⟨rest, names, next, anchored⟩)
  | [] => by
    intro fuel rest names next anchored enough
    obtain ⟨fuel, rfl⟩ : ∃ n, fuel = n + 1 := ⟨fuel - 1, by simp [moreTokens] at enough; omega⟩
    exact NodeReading.flowPairs_end false
  | (name, value) :: fields => by
    intro fuel rest names next anchored enough
    have parts : moreTokens ((name, value) :: fields) =
        .flowEntry :: (fieldTokens (name, value) ++ moreTokens fields) := by
      rw [moreTokens, List.flatMap_cons, List.append_assoc]
      rfl
    have field : (fieldTokens (name, value)).length = (tokens value).length + 3 := rfl
    rw [parts, List.length_cons, List.length_append, field] at enough
    obtain ⟨fuel, rfl⟩ : ∃ n, fuel = n + 2 := ⟨fuel - 2, by omega⟩
    have others := fields_roundtrip fields fuel rest names next anchored (by omega)
    rw [parts, List.cons_append, List.append_assoc]
    exact NodeReading.flowPairs_entry.trans (field_reads (node_roundtrip value) (by omega) others)
end

theorem stream_roundtrip {fields : List (String × JsonTree)} (readable : Readable 0 (.record fields)) :
    Yaml.Stream.read? (print (.record fields)) = some ⟨[node (.record fields)], []⟩ := by
  have shape : ∃ more, tokens (.record fields) = .flowMappingStart :: more := ⟨_, rfl⟩
  obtain ⟨more, shape⟩ := shape
  have reads (fuel : Nat) (enough : 3 * (tokens (.record fields)).length ≤ fuel) :=
    node_roundtrip (.record fields) true false fuel [.streamEnd] [] 1 [] enough
  have length : (tokens (.record fields) ++ [Token.streamEnd]).length = (tokens (.record fields)).length + 1 :=
    List.length_append
  rw [Yaml.Stream.read?, tokens_print readable, Option.bind_eq_bind, Option.bind_some, Yaml.Stream.ofTokens?]
  dsimp only
  rw [length]
  rw [shape, List.cons_append] at reads ⊢
  rw [List.length_cons, NodeReading.documents_single (reads _ (by rw [List.length_cons]; omega))]
  rfl

end JsonTree
end GuardedWork
