import GuardedWork.Proofs.Yaml.Abridged
import Mathlib.Data.List.Nodup

namespace GuardedWork.Yaml

open JsonTree (leaf? leaf?_cons leaf?_put_other leaf?_put_self)

variable {σ α : Type} {shape : Shape σ} {tree : σ → JsonTree} {s : Stream} {omitted : Set KeyPath}
  {path : List PathStep} {pairs : List (Node × Node)} {names seen seen' : List String} {change : σ → σ}
  {a r r' : σ} {key value n : Node} {name : String} {t : JsonTree}

-- Each value has abridged documents. Such a document is read if its keys are texts, and only then.
structure Reader.FillsUp (reader : Reader α) (tree : α → JsonTree) (standard : α) : Prop where
  written (s : Stream) (extra : Node → Prop) (omitted : Set KeyPath) (a : α) : ∃ n, Abridged s extra omitted (tree a) n
  fills {s : Stream} {omitted : Set KeyPath} {a : α} {n : Node} (abridged : Abridged s s.IsText omitted (tree a) n) :
    ∃ b, (∀ path, reader s path n = .ok b) ∧ Filled omitted (tree standard).leaf? (tree a).leaf? (tree b).leaf?
  insists {s : Stream} {omitted : Set KeyPath} {a b : α} {n : Node} {path : List PathStep}
    (abridged : Abridged s (fun _ => True) omitted (tree a) n) (came : reader s path n = .ok b) :
    Abridged s s.IsText omitted (tree a) n

namespace Reader

theorem text_fillsUp (standard : String) : Reader.text.FillsUp .text standard where
  written _ _ _ v := ⟨(JsonTree.text v).node, .text rfl⟩
  fills abridged := by
    cases abridged with
    | text is => exact ⟨_, fun path => by unfold Reader.text; rw [is], .leaf (fun _ => rfl) fun _ => rfl⟩
  insists abridged _ := by
    cases abridged with
    | text is => exact .text is

theorem flag_fillsUp (standard : Bool) : Reader.flag.FillsUp .flag standard where
  written _ _ _ b := ⟨(JsonTree.flag b).node, .flag rfl (by cases b <;> rfl)⟩
  fills abridged := by
    cases abridged with
    | flag is means =>
      exact ⟨_, fun path => flag_means is means, .leaf (fun _ => rfl) fun _ => rfl⟩
  insists abridged _ := by
    cases abridged with
    | flag is means => exact .flag is means

theorem number_fillsUp {limit : Nat} {title : String} (ofNat : Nat → α) (toNat : α → Nat)
    (within : ∀ w, toNat w < limit) (word : limit ≤ UInt64.size) (back : ∀ w, ofNat (toNat w) = w) (standard : α) :
    Reader.FillsUp (fun s path n => (natural limit title s path n).map ofNat) (fun w => .number (toNat w)) standard where
  written _ _ _ w := by
    have means := number_means (Nat.lt_of_lt_of_le (within w) word)
    exact ⟨(JsonTree.number (toNat w)).node, .number rfl means⟩
  fills {s omitted w n} abridged := by
    cases abridged with
    | number is means =>
      refine ⟨w, fun path => ?_, .leaf (fun _ => rfl) fun _ => rfl⟩
      rw [natural_means is means (within w)]
      exact congrArg Except.ok (back w)
  insists abridged _ := by
    cases abridged with
    | number is means => exact .number is means

theorem word64_fillsUp (title : String) (standard : UInt64) :
    (word64 title).FillsUp (fun w => .number w.toNat) standard :=
  number_fillsUp Nat.toUInt64 UInt64.toNat UInt64.toNat_lt (Nat.le_refl _) (fun _ => UInt64.ofNat_toNat) standard

theorem word32_fillsUp (title : String) (standard : UInt32) :
    (word32 title).FillsUp (fun w => .number w.toNat) standard :=
  number_fillsUp Nat.toUInt32 UInt32.toNat UInt32.toNat_lt (by decide) (fun _ => UInt32.ofNat_toNat) standard

end Reader

-- A field of a record and the branch of that name in its tree.
inductive Field.Mirrors (tree : σ → JsonTree) (standard : σ) : Field σ → Prop where
  | of {α : Type} {reader : Reader α} {branch : α → JsonTree} {set : α → σ → σ} {name : String} {required : Bool}
      (get : σ → α) (fillsUp : reader.FillsUp branch (get standard))
      (holds : ∀ r, (tree r).child? name = some (branch (get r)))
      (puts : ∀ a r, tree (set a r) = (tree r).put name (branch a)) :
      Mirrors tree standard ⟨name, required, reader.sets set⟩

theorem Field.Mirrors.written {f : Field σ} {standard : σ} (mirrors : f.Mirrors tree standard)
    (branch : (tree a).child? f.name = some t) (s : Stream) (extra : Node → Prop) (omitted : Set KeyPath) :
    ∃ n, Abridged s extra omitted t n := by
  cases mirrors with
  | of get fillsUp holds _ =>
    cases (holds a).symm.trans branch
    exact fillsUp.written s extra omitted (get a)

theorem Field.Mirrors.insists {f : Field σ} {standard : σ} (mirrors : f.Mirrors tree standard)
    (branch : (tree a).child? f.name = some t) (abridged : Abridged s (fun _ => True) omitted t value)
    (assigned : f.assign s path value = .ok change) : Abridged s s.IsText omitted t value := by
  cases mirrors with
  | @of α reader branches set name required get fillsUp holds puts =>
    cases (holds a).symm.trans branch
    dsimp only [Reader.sets] at assigned
    cases came : reader s path value with
    | error e => rw [came] at assigned; cases assigned
    | ok b => exact fillsUp.insists abridged came

structure Shape.Mirrors (shape : Shape σ) (tree : σ → JsonTree) : Prop where
  record : ∀ r, ∃ fields, tree r = .record fields ∧ fields.map Prod.fst = shape.fields.map Field.name
  distinct : (shape.fields.map Field.name).Nodup
  fields : ∀ f ∈ shape.fields, f.Mirrors tree shape.start

namespace Shape

theorem field?_name {f : Field σ} (known : shape.field? name = some f) : f ∈ shape.fields ∧ f.name = name := by
  unfold field? at known
  exact ⟨List.mem_of_find?_eq_some known, by simpa using List.find?_some known⟩

theorem field?_none : shape.field? name = none ↔ name ∉ shape.fields.map Field.name := by
  unfold field?
  rw [List.find?_eq_none]
  simp

theorem field?_distinct (distinct : (shape.fields.map Field.name).Nodup) {f : Field σ} (member : f ∈ shape.fields) :
    shape.field? f.name = some f := by
  cases known : shape.field? f.name with
  | none => exact absurd (List.mem_map_of_mem member) (field?_none.mp known)
  | some g =>
    obtain ⟨inside, same⟩ := field?_name known
    rw [List.inj_on_of_nodup_map distinct inside member same]

-- What these pairs come to: the fields that they name are filled up, and the others are as they were.
structure Supplies (shape : Shape σ) (tree : σ → JsonTree) (s : Stream) (omitted : Set KeyPath) (a : σ)
    (pairs : List (Node × Node)) (names : List String) (change : σ → σ) : Prop where
  reads : Reads shape s pairs names change
  named : ∀ name, name ∈ names ↔ name ∈ shape.fields.map Field.name ∧ ∃ pair ∈ pairs, s.keyText? pair.1 = some name
  filled : ∀ name ∈ names, ∀ r, Filled (under name omitted) (fun rest => (tree shape.start).leaf? (name :: rest))
    (fun rest => (tree a).leaf? (name :: rest)) fun rest => (tree (change r)).leaf? (name :: rest)
  others : ∀ name ∉ names, ∀ r rest, (tree (change r)).leaf? (name :: rest) = (tree r).leaf? (name :: rest)

namespace Supplies

theorem nil : Supplies shape tree s omitted a [] [] id where
  reads := .nil
  named _ := ⟨nofun, fun ⟨_, _, inside, _⟩ => nomatch inside⟩
  filled := nofun
  others _ _ _ _ := rfl

theorem other (supplies : Supplies shape tree s omitted a pairs names change) (is : s.keyText? key = some name)
    (unknown : name ∉ shape.fields.map Field.name) :
    Supplies shape tree s omitted a ((key, value) :: pairs) names change where
  reads := .other is (field?_none.mpr unknown) supplies.reads
  named found := by
    rw [supplies.named found]
    refine and_congr_right fun field => ⟨fun ⟨pair, inside, same⟩ => ⟨pair, .tail _ inside, same⟩, ?_⟩
    rintro ⟨pair, inside, same⟩
    rcases List.mem_cons.mp inside with rfl | inside
    · cases is.symm.trans same
      exact absurd field unknown
    · exact ⟨pair, inside, same⟩
  filled := supplies.filled
  others := supplies.others

theorem field (mirrors : shape.Mirrors tree) (supplies : Supplies shape tree s omitted a pairs names change)
    {f : Field σ} (member : f ∈ shape.fields) (is : s.keyText? key = some f.name)
    (branch : (tree a).child? f.name = some t) (abridged : Abridged s s.IsText (under f.name omitted) t value)
    (once : ∀ pair ∈ pairs, s.keyText? pair.1 ≠ some f.name) :
    ∃ changes, Supplies shape tree s omitted a ((key, value) :: pairs) (f.name :: names) changes := by
  have known := field?_distinct mirrors.distinct member
  cases mirrors.fields f member with
  | @of α reader branches set name required get fillsUp holds puts =>
    cases (holds a).symm.trans branch
    obtain ⟨b, reads, filled⟩ := fillsUp.fills abridged
    have fresh : name ∉ names := fun inside => by
      obtain ⟨_, pair, there, same⟩ := (supplies.named name).mp inside
      exact once pair there same
    have there (r : σ) : (fun rest => (tree r).leaf? (name :: rest)) = (branches (get r)).leaf? := by
      funext rest
      rw [leaf?_cons, holds r]
      rfl
    have comes (r : σ) : (fun rest => (tree (change (set b r))).leaf? (name :: rest)) = (branches b).leaf? := by
      funext rest
      rw [supplies.others name fresh, puts, leaf?_put_self (holds r)]
    refine ⟨change ∘ set b, .field is known fresh (reads _) supplies.reads, fun found => ?_, ?_, fun found out r rest => ?_⟩
    · rw [List.mem_cons, supplies.named found]
      constructor
      · rintro (rfl | ⟨field, pair, inside, same⟩)
        · exact ⟨List.mem_map_of_mem member, _, .head _, is⟩
        · exact ⟨field, pair, .tail _ inside, same⟩
      · rintro ⟨field, pair, inside, same⟩
        rcases List.mem_cons.mp inside with rfl | inside
        · exact .inl (Option.some.inj (same.symm.trans is))
        · exact .inr ⟨field, pair, inside, same⟩
    · refine List.forall_mem_cons.mpr ⟨fun r => ?_, fun found inside r => supplies.filled found inside (set b r)⟩
      rw [Function.comp_apply, there, there, comes]
      exact filled
    · obtain ⟨apart, out⟩ := not_or.mp (mt List.mem_cons.mpr out)
      exact (supplies.others found out (set b r) rest).trans (puts b r ▸ leaf?_put_other apart _ _)

end Supplies

namespace Mirrors

variable {fields : List (String × JsonTree)}

theorem branch (mirrors : shape.Mirrors tree) (same : tree a = .record fields)
    (names : fields.map Prod.fst = shape.fields.map Field.name) {f : String × JsonTree} (inside : f ∈ fields) :
    ∃ g ∈ shape.fields, g.name = f.1 ∧ (tree a).child? g.name = some f.2 := by
  have member : f.1 ∈ shape.fields.map Field.name := names ▸ List.mem_map_of_mem inside
  obtain ⟨g, field, named⟩ := List.mem_map.mp member
  refine ⟨g, field, named, ?_⟩
  rw [same, named]
  exact JsonTree.child?_of_mem (names ▸ mirrors.distinct) inside

theorem written (mirrors : shape.Mirrors tree) (s : Stream) (extra : Node → Prop) (omitted : Set KeyPath) (a : σ) :
    ∃ n, Abridged s extra omitted (tree a) n := by
  obtain ⟨fields, same, names⟩ := mirrors.record a
  have values : ∀ f ∈ fields, ∃ n, Abridged s extra (under f.1 omitted) f.2 n := fun f inside => by
    obtain ⟨g, field, _, branch⟩ := mirrors.branch same names inside
    exact (mirrors.fields g field).written branch s extra _
  obtain ⟨given, gives⟩ := AbridgedFields.of_values values
  have alone : given.Perm (given ++ []) := .of_eq (List.append_nil given).symm
  exact ⟨.mapping given, same ▸ .record rfl alone gives (List.forall_mem_nil _)⟩

theorem supplies (mirrors : shape.Mirrors tree) (same : tree a = .record fields)
    (names : fields.map Prod.fst = shape.fields.map Field.name)
    (each : ∀ pair ∈ pairs, Belongs s s.IsText omitted fields pair)
    (apart : pairs.Pairwise (Apart s (fields.map Prod.fst))) :
    ∃ names change, Supplies shape tree s omitted a pairs names change := by
  induction pairs with
  | nil => exact ⟨[], id, .nil⟩
  | cons pair pairs ih =>
    obtain ⟨here, each⟩ := List.forall_mem_cons.mp each
    obtain ⟨once, apart⟩ := List.pairwise_cons.mp apart
    obtain ⟨read, change, supplies⟩ := ih each apart
    rcases here with ⟨f, inside, is, _, abridged⟩ | ⟨⟨name, is⟩, unknown⟩
    · obtain ⟨g, field, named, branch⟩ := mirrors.branch same names inside
      rw [← named] at is abridged
      obtain ⟨changes, supplies⟩ := supplies.field mirrors field is branch abridged fun pair there =>
        once pair there g.name (named ▸ List.mem_map_of_mem inside) is
      exact ⟨_, changes, supplies⟩
    · exact ⟨read, change, supplies.other is (names ▸ unknown name is)⟩

theorem root_leaf (mirrors : shape.Mirrors tree) (r : σ) : (tree r).leaf? [] = none := by
  obtain ⟨fields, same, _⟩ := mirrors.record r
  rw [same]
  rfl

theorem unknown_leaf (mirrors : shape.Mirrors tree) (unknown : name ∉ shape.fields.map Field.name) (r : σ)
    (rest : KeyPath) : (tree r).leaf? (name :: rest) = none := by
  obtain ⟨fields, same, names⟩ := mirrors.record r
  rw [same, leaf?_cons, JsonTree.child?_none (names ▸ unknown)]
  rfl

theorem fills (mirrors : shape.Mirrors tree) (given : ∀ f ∈ shape.fields, f.required = true → [f.name] ∉ omitted)
    (abridged : Abridged s s.IsText omitted (tree a) n) :
    ∃ r, (∀ path, shape.read s path n = .ok r) ∧ Filled omitted (tree shape.start).leaf? (tree a).leaf? (tree r).leaf? := by
  obtain ⟨fields, same, names⟩ := mirrors.record a
  rw [same] at abridged
  cases abridged with
  | record target order gives strays =>
    have arranged := gives.arranged order strays (names ▸ mirrors.distinct)
    obtain ⟨read, change, supplies⟩ := mirrors.supplies same names arranged.each arranged.apart
    have read_iff {name : String} (field : name ∈ shape.fields.map Field.name) : name ∈ read ↔ [name] ∉ omitted := by
      rw [supplies.named name, and_iff_right field]
      exact arranged.given_iff (names ▸ field)
    refine ⟨change shape.start, fun path => ?_, .of_children ?_ (fun name out => ?_) fun name kept => ?_⟩
    · rw [read_target target]
      refine supplies.reads.mapping (fun f member required => ?_) rfl
      exact (read_iff (List.mem_map_of_mem member)).mpr (given f member required)
    · exact (mirrors.root_leaf _).trans (mirrors.root_leaf a).symm
    · have unread : name ∉ read := fun inside => (read_iff ((supplies.named name).mp inside).1).mp inside out
      exact supplies.others name unread shape.start
    · by_cases field : name ∈ shape.fields.map Field.name
      · exact supplies.filled name ((read_iff field).mpr kept) shape.start
      · simp only [mirrors.unknown_leaf field]
        exact fun _ => ⟨fun _ => rfl, fun _ => rfl⟩

theorem insists (mirrors : shape.Mirrors tree) (abridged : Abridged s (fun _ => True) omitted (tree a) n)
    (came : shape.read s path n = .ok r) :
    (∀ f ∈ shape.fields, f.required = true → [f.name] ∉ omitted) ∧ Abridged s s.IsText omitted (tree a) n := by
  obtain ⟨fields, same, names⟩ := mirrors.record a
  rw [same] at abridged ⊢
  cases abridged with
  | record target order gives strays =>
    rw [read_target target] at came
    obtain ⟨seen, read, required⟩ := read_ok came
    have arranged := gives.arranged order strays (names ▸ mirrors.distinct)
    refine ⟨fun f member needed => ?_, .record target order (gives.mono fun pair inside f field is abridged => ?_) ?_⟩
    · have given := (readPairs_seen read f.name (required f member needed)).resolve_left List.not_mem_nil
      exact (arranged.given_iff (names ▸ List.mem_map_of_mem member)).mp given
    · obtain ⟨g, member, named, branch⟩ := mirrors.branch same names field
      obtain ⟨name, text, assigned⟩ := readPairs_each read pair (order.mem_iff.mpr (List.mem_append_left _ inside))
      cases is.symm.trans text
      obtain ⟨place, change, assigned⟩ := assigned g (named ▸ field?_distinct mirrors.distinct member)
      exact (mirrors.fields g member).insists branch abridged assigned
    · intro pair inside
      obtain ⟨name, is, _⟩ := readPairs_each read pair (order.mem_iff.mpr (List.mem_append_right _ inside))
      exact ⟨⟨name, is⟩, (strays pair inside).unknown⟩

theorem fillsUp (mirrors : shape.Mirrors tree) (free : ∀ f ∈ shape.fields, f.required = false) :
    shape.read.FillsUp tree shape.start where
  written := mirrors.written
  fills := mirrors.fills fun f member required => absurd required (by rw [free f member]; exact Bool.false_ne_true)
  insists abridged came := (mirrors.insists abridged came).2

end Mirrors
end Shape
end GuardedWork.Yaml
