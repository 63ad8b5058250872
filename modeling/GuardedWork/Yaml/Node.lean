import GuardedWork.Yaml.TokenStream

namespace GuardedWork.Yaml

-- An alias keeps the number of its anchor, since the anchored node may still be open where the alias stands.
inductive Node where
  | scalar (style : Style) (tag : Option Tag) (text : String)
  | sequence (items : List Node)
  | mapping (pairs : List (Node × Node))
  | alias (anchor : Nat)

-- What stands where nothing is written.
def Node.missing : Node := .scalar .plain none "~"

structure Stream where
  roots : List Node
  anchored : List (Nat × Node)

def Stream.find? (s : Stream) (anchor : Nat) : Option Node := s.anchored.lookup anchor

structure NodeReading where
  tokens : List Token
  -- the anchors of the document that is being read
  names : List (String × Nat)
  nextAnchor : Nat
  anchored : List (Nat × Node)

namespace NodeReading

abbrev Step := StateT NodeReading Option

def peek : Step Token := fun s => s.tokens.head?.map fun t => (t, s)

def advance : Step Unit := fun s => some ((), { s with tokens := s.tokens.tail })

-- A name may be given again, and then means the later anchor.
def newAnchor (name : String) : Step Nat := fun s =>
  some (s.nextAnchor, { s with names := (name, s.nextAnchor) :: s.names, nextAnchor := s.nextAnchor + 1 })

def anchorOf (name : String) : Step Nat := fun s => (s.names.lookup name).map fun n => (n, s)

def keep (anchor : Option Nat) (n : Node) : Step Node := fun s =>
  match anchor with
  | none => some (n, s)
  | some a => some (n, { s with anchored := (a, n) :: s.anchored })

-- One anchor and one tag, in either order.
def properties : Step (Option Nat × Option Tag) := do
  match ← peek with
  | .anchor name =>
    advance
    let a ← newAnchor name
    match ← peek with
    | .tag t => do advance; pure (some a, some t)
    | _ => pure (some a, none)
  | .tag t =>
    advance
    match ← peek with
    | .anchor name => do
      advance
      let a ← newAnchor name
      pure (some a, some t)
    | _ => pure (none, some t)
  | _ => pure (none, none)

mutual
def node (block indentless : Bool) : Nat → Step Node
  | 0 => failure
  | fuel + 1 => do
    match ← peek with
    | .alias name => do
      advance
      let a ← anchorOf name
      pure (.alias a)
    | _ =>
      let (anchor, tag) ← properties
      let n ← content block indentless anchor tag fuel
      keep anchor n

-- A node with properties may be left out; without any it may not.
def content (block indentless : Bool) (anchor : Option Nat) (tag : Option Tag) : Nat → Step Node
  | 0 => failure
  | fuel + 1 => do
    let bare : Step Node := if anchor.isSome || tag.isSome then pure (.scalar .plain tag "") else failure
    match ← peek with
    | .scalar style text => do advance; pure (.scalar style tag text)
    | .flowSequenceStart => do advance; .sequence <$> flowItems true fuel
    | .flowMappingStart => do advance; .mapping <$> flowPairs true fuel
    | .blockEntry => if indentless then .sequence <$> indentlessItems fuel else bare
    | .blockSequenceStart => if block then do advance; .sequence <$> blockItems fuel else bare
    | .blockMappingStart => if block then do advance; .mapping <$> blockPairs fuel else bare
    | _ => bare

def blockItems : Nat → Step (List Node)
  | 0 => failure
  | fuel + 1 => do
    match ← peek with
    | .blockEnd => do advance; pure []
    | .blockEntry => do
      advance
      let item ← match ← peek with
        | .blockEntry | .blockEnd => pure Node.missing
        | _ => node true false fuel
      let more ← blockItems fuel
      pure (item :: more)
    | _ => failure

-- Items at the indentation of their key end with any other token, which is left in place.
def indentlessItems : Nat → Step (List Node)
  | 0 => failure
  | fuel + 1 => do
    match ← peek with
    | .blockEntry => do
      advance
      let item ← match ← peek with
        | .blockEntry | .key | .value | .blockEnd => pure Node.missing
        | _ => node true false fuel
      let more ← indentlessItems fuel
      pure (item :: more)
    | _ => pure []

def blockPairs : Nat → Step (List (Node × Node))
  | 0 => failure
  | fuel + 1 => do
    match ← peek with
    | .blockEnd => do advance; pure []
    | .key => do
      advance
      let k ← match ← peek with
        | .key | .value | .blockEnd => pure Node.missing
        | _ => node true true fuel
      let v ← blockValue fuel
      let more ← blockPairs fuel
      pure ((k, v) :: more)
    | .value => do
      let v ← blockValue fuel
      let more ← blockPairs fuel
      pure ((Node.missing, v) :: more)
    | _ => failure

def blockValue : Nat → Step Node
  | 0 => failure
  | fuel + 1 => do
    match ← peek with
    | .value => do
      advance
      match ← peek with
      | .key | .value | .blockEnd => pure Node.missing
      | _ => node true true fuel
    | _ => pure Node.missing

def flowItems (first : Bool) : Nat → Step (List Node)
  | 0 => failure
  | fuel + 1 => do
    match first, ← peek with
    | _, .flowSequenceEnd => do advance; pure []
    | false, .flowEntry => do advance; flowItem fuel
    | false, _ => failure
    | true, _ => flowItem fuel

-- An item behind its comma; a last comma may stand alone. A key makes a mapping of one pair.
def flowItem : Nat → Step (List Node)
  | 0 => failure
  | fuel + 1 => do
    match ← peek with
    | .flowSequenceEnd => do advance; pure []
    | .key => do
      advance
      let k ← match ← peek with
        | .value | .flowEntry | .flowSequenceEnd => do advance; pure Node.missing
        | _ => node false false fuel
      let v ← match ← peek with
        | .value => do
          advance
          match ← peek with
          | .flowEntry | .flowSequenceEnd => pure Node.missing
          | _ => node false false fuel
        | _ => pure Node.missing
      let more ← flowItems false fuel
      pure (.mapping [(k, v)] :: more)
    | _ => do
      let item ← node false false fuel
      let more ← flowItems false fuel
      pure (item :: more)

def flowPairs (first : Bool) : Nat → Step (List (Node × Node))
  | 0 => failure
  | fuel + 1 => do
    match first, ← peek with
    | _, .flowMappingEnd => do advance; pure []
    | false, .flowEntry => do advance; flowPair fuel
    | false, _ => failure
    | true, _ => flowPair fuel

def flowPair : Nat → Step (List (Node × Node))
  | 0 => failure
  | fuel + 1 => do
    match ← peek with
    | .flowMappingEnd => do advance; pure []
    | .key => do
      advance
      let k ← match ← peek with
        | .value | .flowEntry | .flowMappingEnd => pure Node.missing
        | _ => node false false fuel
      let v ← flowValue fuel
      let more ← flowPairs false fuel
      pure ((k, v) :: more)
    | .value => do
      let v ← flowValue fuel
      let more ← flowPairs false fuel
      pure ((Node.missing, v) :: more)
    | _ => do
      let k ← node false false fuel
      let more ← flowPairs false fuel
      pure ((k, Node.missing) :: more)

def flowValue : Nat → Step Node
  | 0 => failure
  | fuel + 1 => do
    match ← peek with
    | .value => do
      advance
      match ← peek with
      | .flowEntry | .flowMappingEnd => pure Node.missing
      | _ => node false false fuel
    | _ => pure Node.missing
end

def passAll (t : Token) : Nat → Step Unit
  | 0 => pure ()
  | fuel + 1 => do
    if (← peek) == t then
      advance
      passAll t fuel

def forgetNames : Step Unit := fun s => some ((), { s with names := [] })

def explicitRoot (fuel : Nat) : Step Node := do
  passAll .directive fuel
  if (← peek) != .documentStart then failure
  advance
  match ← peek with
  | .directive | .documentStart | .documentEnd | .streamEnd => pure Node.missing
  | _ => node true false fuel

-- Only the first document may begin without its mark. A document end belongs to the document
-- before it, and further ones are passed over.
def documents (fuel : Nat) : Nat → Bool → Step (List Node)
  | 0, _ => failure
  | left + 1, first => do
    if !first then passAll .documentEnd fuel
    if (← peek) == .streamEnd then pure []
    else
      forgetNames
      let bare := first && !((← peek) matches .directive | .documentStart)
      let root ← if bare then node true false fuel else explicitRoot fuel
      if (← peek) == .documentEnd then advance
      let more ← documents fuel left false
      pure (root :: more)

end NodeReading

-- No two calls in a row leave the tokens as they are, which bounds the depth.
def Stream.ofTokens? (tokens : List Token) : Option Stream := do
  let fuel := 3 * tokens.length + 4
  let (roots, s) ← NodeReading.documents fuel (tokens.length + 1) true ⟨tokens, [], 1, []⟩
  some ⟨roots, s.anchored⟩

def Stream.read? (text : String) : Option Stream := do
  Stream.ofTokens? (← tokens? text)

end GuardedWork.Yaml
