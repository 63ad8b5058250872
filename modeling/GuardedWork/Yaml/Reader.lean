import GuardedWork.Text.Quoted
import GuardedWork.Yaml.Node
import GuardedWork.Yaml.Value

namespace GuardedWork.Yaml

inductive PathStep where
  | key (name : String)
  | index (position : Nat)
  -- below a key that is no scalar
  | unknown

def pathText (path : List PathStep) : String :=
  let below (parent : Option String) (name : String) : String :=
    match parent with
    | none => name
    | some p => p ++ "." ++ name
  let extend (parent : Option String) : PathStep → Option String
    | .key name => some (below parent name)
    | .index i => some (parent.getD "." ++ "[" ++ toString i ++ "]")
    | .unknown => some (below parent "?")
  (path.foldl extend none).getD "."

inductive Found where
  | value (v : Value)
  | sequence
  | mapping

inductive Problem where
  | unexpectedKind (found : Found) (expected : String)
  | unexpectedValue (found : Found) (expected : String)
  | missingField (name : String)
  | duplicateField (name : String)
  | tooShort (length : Nat) (title : String) (fields : Nat)
  | tooLong (length : Nat) (fields : Nat)
  | noDocument
  | severalDocuments

structure ReadError where
  path : List PathStep
  problem : Problem

def Found.text : Found → String
  | .value .null => "unit value"
  | .value (.flag b) => "boolean \x60" ++ (if b then "true" else "false") ++ "\x60"
  | .value (.integer n) => "integer \x60" ++ toString n ++ "\x60"
  | .value (.wide n) => "integer \x60" ++ toString n ++ "\x60 as " ++ (if n < 0 then "i128" else "u128")
  | .value (.real x) => "floating point \x60" ++ x.shown ++ "\x60"
  | .value (.text s) => "string " ++ Text.quoted s
  | .sequence => "sequence"
  | .mapping => "map"

def elements (n : Nat) : String := toString n ++ (if n = 1 then " element" else " elements")

def Problem.text : Problem → String
  | .unexpectedKind found expected => "invalid type: " ++ found.text ++ ", expected " ++ expected
  | .unexpectedValue found expected => "invalid value: " ++ found.text ++ ", expected " ++ expected
  | .missingField name => "missing field \x60" ++ name ++ "\x60"
  | .duplicateField name => "duplicate field \x60" ++ name ++ "\x60"
  | .tooShort length title fields =>
    "invalid length " ++ toString length ++ ", expected struct " ++ title ++ " with " ++ elements fields
  | .tooLong length fields => "invalid length " ++ toString length ++ ", expected sequence of " ++ elements fields
  | .noDocument => "EOF while parsing a value"
  | .severalDocuments => "deserializing from YAML containing more than one document is not supported"

-- At the root the path is left out.
def ReadError.message (e : ReadError) : String :=
  if e.path.isEmpty then e.problem.text else pathText e.path ++ ": " ++ e.problem.text

abbrev Reader (α : Type) := Stream → List PathStep → Node → Except ReadError α

-- An alias is read as its node, at the path of the alias. No anchored node is an alias.
def Stream.target (s : Stream) : Node → Node
  | .alias a => (s.find? a).getD .missing
  | n => n

namespace Reader

def text : Reader String := fun s path n =>
  match s.target n with
  | .scalar _ _ t => .ok t
  | .sequence _ => .error ⟨path, .unexpectedKind .sequence "a string"⟩
  | _ => .error ⟨path, .unexpectedKind .mapping "a string"⟩

-- The value of a scalar; collections have none.
def found (s : Stream) (path : List PathStep) (n : Node) : Except ReadError Found :=
  match s.target n with
  | .scalar style tag t =>
    match Value.ofScalar style tag t with
    | .ok v => .ok (.value v)
    | .error m => .error ⟨path, .unexpectedValue (.value (.text m.text)) m.expected⟩
  | .sequence _ => .ok .sequence
  | _ => .ok .mapping

def flag : Reader Bool := fun s path n => do
  match ← found s path n with
  | .value (.flag b) => .ok b
  | other => .error ⟨path, .unexpectedKind other "a boolean"⟩

-- A natural number below the limit; title names its kind.
def natural (limit : Nat) (title : String) : Reader Nat := fun s path n => do
  match ← found s path n with
  | .value (.integer i) =>
    if 0 ≤ i ∧ i < limit then .ok i.toNat else .error ⟨path, .unexpectedValue (.value (.integer i)) title⟩
  | other => .error ⟨path, .unexpectedKind other title⟩

end Reader

structure Field (σ : Type) where
  name : String
  required : Bool
  assign : Reader (σ → σ)

-- A record starts with its default values, and each field that is given replaces one of them.
structure Shape (σ : Type) where
  title : String
  start : σ
  fields : List (Field σ)

namespace Shape

variable {σ : Type}

def field? (shape : Shape σ) (name : String) : Option (Field σ) := shape.fields.find? (·.name == name)

-- Keys are texts. One that is no field is passed over with its value; a field comes once.
def readPairs (shape : Shape σ) (s : Stream) (path : List PathStep) :
    List (Node × Node) → List String → σ → Except ReadError (List String × σ)
  | [], seen, r => .ok (seen, r)
  | (k, v) :: more, seen, r =>
    match s.target k with
    | .scalar _ _ name =>
      match shape.field? name with
      | none => readPairs shape s path more seen r
      | some f =>
        if seen.contains name then .error ⟨path, .duplicateField name⟩
        else do
          let step := match k with
            | .scalar .. => PathStep.key name
            | _ => PathStep.unknown
          let change ← f.assign s (path ++ [step]) v
          readPairs shape s path more (name :: seen) (change r)
    | .sequence _ => .error ⟨path, .unexpectedKind .sequence "field identifier"⟩
    | _ => .error ⟨path, .unexpectedKind .mapping "field identifier"⟩

def readItems (s : Stream) (path : List PathStep) : List (Field σ) → List Node → Nat → σ → Except ReadError σ
  | f :: fs, n :: ns, i, r => do
    let change ← f.assign s (path ++ [.index i]) n
    readItems s path fs ns (i + 1) (change r)
  | _, _, _, r => .ok r

-- A record is a mapping, or a sequence of the fields in order whose end may be left out.
def read (shape : Shape σ) : Reader σ := fun s path n => do
  match ← Reader.found s path n with
  | .value v => .error ⟨path, .unexpectedKind (.value v) ("struct " ++ shape.title)⟩
  | _ =>
    match s.target n with
    | .sequence items =>
      let r ← readItems s path shape.fields items 0 shape.start
      let count := shape.fields.length
      match (shape.fields.drop items.length).head? with
      | some f => if f.required then .error ⟨path, .tooShort items.length shape.title count⟩ else .ok r
      | none => if count < items.length then .error ⟨path, .tooLong items.length count⟩ else .ok r
    | .mapping pairs =>
      let (seen, r) ← readPairs shape s path pairs [] shape.start
      match shape.fields.find? fun f => f.required && !seen.contains f.name with
      | some f => .error ⟨path, .missingField f.name⟩
      | none => .ok r
    | _ => .ok shape.start

end Shape

inductive DocumentError where
  | malformed
  | unfit (error : ReadError)

-- The first document is read before others are noticed.
def readDocument {α : Type} (reader : Reader α) (text : String) : Except DocumentError α :=
  match Stream.read? text with
  | none => .error .malformed
  | some s =>
    match s.roots with
    | [] => .error (.unfit ⟨[], .noDocument⟩)
    | root :: more =>
      match reader s [] root with
      | .error e => .error (.unfit e)
      | .ok a => if more.isEmpty then .ok a else .error (.unfit ⟨[], .severalDocuments⟩)

end GuardedWork.Yaml
