import GuardedWork.Proofs.Yaml.Records
import Mathlib.Data.Set.Defs

namespace GuardedWork

-- The names on the way from the root of a tree to a field, its own at the end. The empty path leads to no field.
abbrev KeyPath := List String

namespace JsonTree

variable {tree t : JsonTree} {name other : String} {rest path : KeyPath} {fields : List (String × JsonTree)}

def child? : JsonTree → String → Option JsonTree
  | record fields, name => fields.lookup name
  | _, _ => none

-- The value of a field that is no record.
def leaf? : JsonTree → KeyPath → Option JsonTree
  | record _, [] => none
  | leaf, [] => some leaf
  | tree, name :: rest => (tree.child? name).bind (leaf? · rest)

-- Another value in a field that is there.
def put (tree : JsonTree) (name : String) (value : JsonTree) : JsonTree :=
  match tree with
  | record fields => record (fields.map fun f => if f.1 = name then (name, value) else f)
  | leaf => leaf

theorem leaf?_cons (tree : JsonTree) (name : String) (rest : KeyPath) :
    tree.leaf? (name :: rest) = (tree.child? name).bind (leaf? · rest) := by
  cases tree <;> rfl

theorem child?_cons (name : String) (f : String × JsonTree) (fields : List (String × JsonTree)) :
    (record (f :: fields)).child? name = if name = f.1 then some f.2 else (record fields).child? name := by
  obtain ⟨key, value⟩ := f
  change ((key, value) :: fields).lookup name = if name = key then some value else fields.lookup name
  rw [List.lookup_cons]
  by_cases same : name = key
  · rw [if_pos same, beq_iff_eq.mpr same]
  · rw [if_neg same, beq_eq_false_iff_ne.mpr same]

theorem child?_put_self (there : tree.child? name = some t) (value : JsonTree) :
    (tree.put name value).child? name = some value := by
  cases tree with
  | record fields =>
    change (record (fields.map fun f => if f.1 = name then (name, value) else f)).child? name = some value
    induction fields with
    | nil => cases there
    | cons f fields ih =>
      rw [child?_cons] at there
      rw [List.map_cons, child?_cons]
      by_cases same : f.1 = name
      · rw [if_pos same, if_pos rfl]
      · rw [if_neg (Ne.symm same)] at there
        rw [if_neg same, if_neg (Ne.symm same)]
        exact ih there
  | _ => cases there

theorem child?_put_other (apart : other ≠ name) (value : JsonTree) (tree : JsonTree) :
    (tree.put name value).child? other = tree.child? other := by
  cases tree with
  | record fields =>
    change (record (fields.map fun f => if f.1 = name then (name, value) else f)).child? other = _
    induction fields with
    | nil => rfl
    | cons f fields ih =>
      rw [List.map_cons, child?_cons, child?_cons]
      by_cases same : f.1 = name
      · rw [if_pos same, if_neg apart, if_neg (same ▸ apart)]
        exact ih
      · rw [if_neg same]
        exact congrArg _ ih
  | _ => rfl

theorem child?_of_mem {f : String × JsonTree} (distinct : (fields.map Prod.fst).Nodup) (member : f ∈ fields) :
    (record fields).child? f.1 = some f.2 := by
  induction fields with
  | nil => cases member
  | cons g fields ih =>
    obtain ⟨fresh, others⟩ := List.nodup_cons.mp distinct
    rw [child?_cons]
    rcases List.mem_cons.mp member with rfl | inside
    · exact if_pos rfl
    · have apart : f.1 ≠ g.1 := fun same => fresh (same ▸ List.mem_map_of_mem inside)
      rw [if_neg apart]
      exact ih others inside

theorem child?_none (unnamed : name ∉ fields.map Prod.fst) : (record fields).child? name = none := by
  induction fields with
  | nil => rfl
  | cons f fields ih =>
    obtain ⟨here, others⟩ := not_or.mp (mt List.mem_cons.mpr unnamed)
    rw [child?_cons, if_neg here]
    exact ih others

theorem leaf?_put_self (there : tree.child? name = some t) (value : JsonTree) :
    (tree.put name value).leaf? (name :: rest) = value.leaf? rest := by
  rw [leaf?_cons, child?_put_self there]
  rfl

theorem leaf?_put_other (apart : other ≠ name) (value tree : JsonTree) :
    (tree.put name value).leaf? (other :: rest) = tree.leaf? (other :: rest) := by
  rw [leaf?_cons, leaf?_cons, child?_put_other apart]

end JsonTree

namespace Yaml

open JsonTree (leaf?)

variable {s : Stream} {extra : Node → Prop} {omitted : Set KeyPath} {name : String} {rest path : KeyPath}
  {fields : List (String × JsonTree)} {pairs given added : List (Node × Node)} {n : Node} {tree : JsonTree}

def under (name : String) (omitted : Set KeyPath) : Set KeyPath := {rest | name :: rest ∈ omitted}

-- At a key that is left out, or inside its value.
def LeftOut (omitted : Set KeyPath) (path : KeyPath) : Prop := ∃ key ∈ omitted, key ≠ [] ∧ key <+: path

theorem not_leftOut_nil : ¬ LeftOut omitted [] := by
  rintro ⟨key, _, some, within⟩
  exact some (List.prefix_nil.mp within)

theorem leftOut_cons : LeftOut omitted (name :: rest) ↔ [name] ∈ omitted ∨ LeftOut (under name omitted) rest := by
  constructor
  · rintro ⟨key, out, some, within⟩
    cases key with
    | nil => exact absurd rfl some
    | cons first key =>
      obtain ⟨rfl, inside⟩ := List.cons_prefix_cons.mp within
      cases key with
      | nil => exact .inl out
      | cons next key => exact .inr ⟨next :: key, out, List.cons_ne_nil _ _, inside⟩
  · rintro (out | ⟨key, out, _, within⟩)
    · exact ⟨[name], out, List.cons_ne_nil _ _, List.cons_prefix_cons.mpr ⟨rfl, List.nil_prefix⟩⟩
    · exact ⟨name :: key, out, List.cons_ne_nil _ _, List.cons_prefix_cons.mpr ⟨rfl, within⟩⟩

-- The leaves that are left out are those of the standard, all others are as given.
def Filled (omitted : Set KeyPath) (standard given filled : KeyPath → Option JsonTree) : Prop :=
  ∀ path, (LeftOut omitted path → filled path = standard path) ∧ (¬ LeftOut omitted path → filled path = given path)

theorem Filled.of_children {standard given filled : KeyPath → Option JsonTree} (root : filled [] = given [])
    (out : ∀ name, [name] ∈ omitted → ∀ rest, filled (name :: rest) = standard (name :: rest))
    (kept : ∀ name, [name] ∉ omitted → Filled (under name omitted) (fun rest => standard (name :: rest))
      (fun rest => given (name :: rest)) fun rest => filled (name :: rest)) : Filled omitted standard given filled
  | [] => ⟨fun out => absurd out not_leftOut_nil, fun _ => root⟩
  | name :: rest => by
    rw [leftOut_cons]
    by_cases here : [name] ∈ omitted
    · exact ⟨fun _ => out name here rest, fun kept => absurd (.inl here) kept⟩
    · rw [or_iff_right here]
      exact kept name here rest

theorem Filled.unique {standard given filled other : KeyPath → Option JsonTree}
    (one : Filled omitted standard given filled) (another : Filled omitted standard given other) (path : KeyPath) :
    filled path = other path := by
  by_cases out : LeftOut omitted path
  · exact ((one path).1 out).trans ((another path).1 out).symm
  · exact ((one path).2 out).trans ((another path).2 out).symm

theorem Filled.leaf {standard given : JsonTree} (empty : ∀ name, standard.child? name = none)
    (single : ∀ name, given.child? name = none) : Filled omitted standard.leaf? given.leaf? given.leaf? := by
  intro path
  refine ⟨fun out => ?_, fun _ => rfl⟩
  cases path with
  | nil => exact absurd out not_leftOut_nil
  | cons name rest => rw [JsonTree.leaf?_cons, JsonTree.leaf?_cons, empty, single]

def Stream.IsText (s : Stream) (key : Node) : Prop := ∃ name, s.keyText? key = some name

-- A key of the kind that is asked for, and none of these fields.
structure Stray (s : Stream) (extra : Node → Prop) (names : List String) (pair : Node × Node) : Prop where
  kind : extra pair.1
  unknown : ∀ name, s.keyText? pair.1 = some name → name ∉ names

mutual
-- A value stands for a leaf however it is written.
inductive Abridged (s : Stream) (extra : Node → Prop) : Set KeyPath → JsonTree → Node → Prop where
  | text {omitted : Set KeyPath} {n : Node} {style : Style} {tag : Option Tag} {v : String}
      (is : s.target n = .scalar style tag v) : Abridged s extra omitted (.text v) n
  | number {omitted : Set KeyPath} {n : Node} {style : Style} {tag : Option Tag} {spelt : String} {v : Nat}
      (is : s.target n = .scalar style tag spelt) (means : Value.ofScalar style tag spelt = .ok (.integer v)) :
      Abridged s extra omitted (.number v) n
  | flag {omitted : Set KeyPath} {n : Node} {style : Style} {tag : Option Tag} {spelt : String} {v : Bool}
      (is : s.target n = .scalar style tag spelt) (means : Value.ofScalar style tag spelt = .ok (.flag v)) :
      Abridged s extra omitted (.flag v) n
  | record {omitted : Set KeyPath} {n : Node} {fields : List (String × JsonTree)} {pairs given added : List (Node × Node)}
      (is : s.target n = .mapping pairs) (order : pairs.Perm (given ++ added))
      (gives : AbridgedFields s extra omitted fields given)
      (strays : ∀ pair ∈ added, Stray s extra (fields.map Prod.fst) pair) :
      Abridged s extra omitted (.record fields) n

inductive AbridgedFields (s : Stream) (extra : Node → Prop) :
    Set KeyPath → List (String × JsonTree) → List (Node × Node) → Prop where
  | nil {omitted : Set KeyPath} : AbridgedFields s extra omitted [] []
  | out {omitted : Set KeyPath} {name : String} {tree : JsonTree} {fields : List (String × JsonTree)}
      {given : List (Node × Node)} (out : [name] ∈ omitted) (more : AbridgedFields s extra omitted fields given) :
      AbridgedFields s extra omitted ((name, tree) :: fields) given
  | kept {omitted : Set KeyPath} {name : String} {tree : JsonTree} {fields : List (String × JsonTree)}
      {key value : Node} {given : List (Node × Node)} (kept : [name] ∉ omitted) (is : s.keyText? key = some name)
      (abridged : Abridged s extra (under name omitted) tree value)
      (more : AbridgedFields s extra omitted fields given) :
      AbridgedFields s extra omitted ((name, tree) :: fields) ((key, value) :: given)
end

-- No two keys say the same name of a field.
def Apart (s : Stream) (names : List String) (p q : Node × Node) : Prop :=
  ∀ name ∈ names, s.keyText? p.1 = some name → s.keyText? q.1 ≠ some name

-- A field that is not left out, with its value abridged in turn, or a key of no field.
def Belongs (s : Stream) (extra : Node → Prop) (omitted : Set KeyPath) (fields : List (String × JsonTree))
    (pair : Node × Node) : Prop :=
  (∃ f ∈ fields, s.keyText? pair.1 = some f.1 ∧ [f.1] ∉ omitted ∧ Abridged s extra (under f.1 omitted) f.2 pair.2) ∨
    Stray s extra (fields.map Prod.fst) pair

-- What is known of the pairs of an abridged mapping, wherever they stand.
structure Arranged (s : Stream) (extra : Node → Prop) (omitted : Set KeyPath) (fields : List (String × JsonTree))
    (pairs : List (Node × Node)) : Prop where
  each : ∀ pair ∈ pairs, Belongs s extra omitted fields pair
  all : ∀ f ∈ fields, [f.1] ∉ omitted → ∃ pair ∈ pairs, s.keyText? pair.1 = some f.1
  apart : pairs.Pairwise (Apart s (fields.map Prod.fst))

theorem Arranged.given_iff (arranged : Arranged s extra omitted fields pairs) (field : name ∈ fields.map Prod.fst) :
    (∃ pair ∈ pairs, s.keyText? pair.1 = some name) ↔ [name] ∉ omitted := by
  constructor
  · rintro ⟨pair, there, is⟩
    rcases arranged.each pair there with ⟨f, _, same, kept, _⟩ | stray
    · cases is.symm.trans same
      exact kept
    · exact absurd field (stray.unknown name is)
  · intro kept
    obtain ⟨f, inside, rfl⟩ := List.mem_map.mp field
    exact arranged.all f inside kept

namespace AbridgedFields

-- What is left out needs no document of its own.
theorem of_values (values : ∀ f ∈ fields, ∃ n, Abridged s extra (under f.1 omitted) f.2 n) :
    ∃ given, AbridgedFields s extra omitted fields given := by
  induction fields with
  | nil => exact ⟨[], .nil⟩
  | cons f fields ih =>
    obtain ⟨⟨n, abridged⟩, values⟩ := List.forall_mem_cons.mp values
    obtain ⟨given, more⟩ := ih values
    by_cases out : [f.1] ∈ omitted
    · exact ⟨given, .out out more⟩
    · exact ⟨(.scalar .doubleQuoted none f.1, n) :: given, .kept out rfl abridged more⟩

theorem each (gives : AbridgedFields s extra omitted fields given) : ∀ pair ∈ given,
    ∃ f ∈ fields, s.keyText? pair.1 = some f.1 ∧ [f.1] ∉ omitted ∧
      Abridged s extra (under f.1 omitted) f.2 pair.2 := by
  induction fields generalizing given with
  | nil => cases gives; exact nofun
  | cons f fields ih =>
    have others {given : List (Node × Node)} (more : AbridgedFields s extra omitted fields given) :
        ∀ pair ∈ given, ∃ g ∈ f :: fields, s.keyText? pair.1 = some g.1 ∧ [g.1] ∉ omitted ∧
          Abridged s extra (under g.1 omitted) g.2 pair.2 := by
      intro pair member
      obtain ⟨g, inside, rest⟩ := ih more pair member
      exact ⟨g, List.mem_cons_of_mem _ inside, rest⟩
    cases gives with
    | out _ more => exact others more
    | kept kept is abridged more =>
      exact List.forall_mem_cons.mpr ⟨⟨_, List.mem_cons_self, is, kept, abridged⟩, others more⟩

theorem all (gives : AbridgedFields s extra omitted fields given) :
    ∀ f ∈ fields, [f.1] ∉ omitted → ∃ pair ∈ given, s.keyText? pair.1 = some f.1 := by
  induction fields generalizing given with
  | nil => exact nofun
  | cons f fields ih =>
    cases gives with
    | out out more => exact List.forall_mem_cons.mpr ⟨fun kept => absurd out kept, ih more⟩
    | kept _ is _ more =>
      refine List.forall_mem_cons.mpr ⟨fun _ => ⟨_, List.mem_cons_self, is⟩, fun g inside kept => ?_⟩
      obtain ⟨pair, member, is⟩ := ih more g inside kept
      exact ⟨pair, List.mem_cons_of_mem _ member, is⟩

theorem apart (gives : AbridgedFields s extra omitted fields given) (distinct : (fields.map Prod.fst).Nodup)
    (names : List String) : given.Pairwise (Apart s names) := by
  induction fields generalizing given with
  | nil => cases gives; exact .nil
  | cons f fields ih =>
    obtain ⟨fresh, others⟩ := List.nodup_cons.mp distinct
    cases gives with
    | out _ more => exact ih more others
    | kept _ is _ more =>
      refine List.pairwise_cons.mpr ⟨fun pair member name _ same other => ?_, ih more others⟩
      obtain ⟨g, inside, named, _⟩ := more.each pair member
      cases is.symm.trans same
      exact fresh (List.mem_map.mpr ⟨g, inside, Option.some.inj (named.symm.trans other)⟩)

-- A change of the kind of keys that holds in every value that is given holds in the fields.
theorem mono {extra' : Node → Prop} (gives : AbridgedFields s extra omitted fields given)
    (values : ∀ pair ∈ given, ∀ f ∈ fields, s.keyText? pair.1 = some f.1 →
      Abridged s extra (under f.1 omitted) f.2 pair.2 → Abridged s extra' (under f.1 omitted) f.2 pair.2) :
    AbridgedFields s extra' omitted fields given := by
  induction fields generalizing given with
  | nil => cases gives; exact .nil
  | cons f fields ih =>
    cases gives with
    | out out more => exact .out out (ih more fun pair member g inside => values pair member g (.tail _ inside))
    | kept kept is abridged more =>
      refine .kept kept is (values _ (.head _) _ (.head _) is abridged) (ih more fun pair member g inside => ?_)
      exact values pair (.tail _ member) g (.tail _ inside)

theorem arranged (gives : AbridgedFields s extra omitted fields given) (order : pairs.Perm (given ++ added))
    (strays : ∀ pair ∈ added, Stray s extra (fields.map Prod.fst) pair)
    (distinct : (fields.map Prod.fst).Nodup) : Arranged s extra omitted fields pairs where
  each pair member := by
    rcases List.mem_append.mp (order.mem_iff.mp member) with inside | inside
    · exact .inl (gives.each pair inside)
    · exact .inr (strays pair inside)
  all f inside kept := by
    obtain ⟨pair, member, is⟩ := gives.all f inside kept
    exact ⟨pair, order.mem_iff.mpr (List.mem_append_left _ member), is⟩
  apart := by
    have both_ways {p q : Node × Node} (apart : Apart s (fields.map Prod.fst) p q) :
        Apart s (fields.map Prod.fst) q p := fun name field same other => apart name field other same
    refine (order.pairwise_iff both_ways).mpr (List.pairwise_append.mpr ⟨gives.apart distinct _, ?_, ?_⟩)
    · refine List.pairwise_of_forall_mem_list fun p first q _ name field same => ?_
      exact absurd field ((strays p first).unknown name same)
    · exact fun p _ q second name field _ same => (strays q second).unknown name same field

end AbridgedFields

end Yaml
end GuardedWork
