import GuardedWork.Yaml.Property
import GuardedWork.Yaml.Scalar

namespace GuardedWork.Yaml

-- A key is known only when its colon is seen; the tokens that open it are then put at its place.
structure KeyPlace where
  possible : Bool
  required : Bool
  -- how many tokens stand before it
  position : Nat
  line : Nat
  column : Nat
  index : Nat
deriving DecidableEq

def KeyPlace.none : KeyPlace := ⟨false, false, 0, 0, 0, 0⟩

structure TokenStream where
  here : Cursor
  tokens : List Token
  -- the innermost flow collection first
  keys : List KeyPlace
  keyAllowed : Bool
  indent : Int
  outerIndents : List Int
  flowDepth : Nat
  -- behind a quoted scalar a colon needs no blank
  adjacentValue : Option Nat

namespace TokenStream

def start (text : String) : TokenStream :=
  ⟨Cursor.start text, [], [.none], true, -1, [], 0, none⟩

def inFlow (s : TokenStream) : Bool := 0 < s.flowDepth

def push (t : Token) (s : TokenStream) : TokenStream := { s with tokens := s.tokens ++ [t] }

def putAt (position : Nat) (t : Token) (s : TokenStream) : TokenStream :=
  { s with tokens := s.tokens.take position ++ t :: s.tokens.drop position }

def setKeyAllowed (allowed : Bool) (s : TokenStream) : TokenStream := { s with keyAllowed := allowed }

-- Nesting is bounded, one more level than the bound is malformed.
def flowLimit : Nat := 255

def keyReach : Nat := 1024

-- A possible key ends with its line, and does not reach far.
def dropStaleKeys (s : TokenStream) : Option TokenStream :=
  let stale (k : KeyPlace) := k.possible && (k.line < s.here.line || k.index + keyReach < s.here.index)
  if s.keys.any fun k => stale k && k.required then none
  else some { s with keys := s.keys.map fun k => if stale k then { k with possible := false } else k }

def removeKey (s : TokenStream) : Option TokenStream :=
  match s.keys with
  | [] => none
  | k :: ks => if k.possible && k.required then none else some { s with keys := { k with possible := false } :: ks }

def saveKey (s : TokenStream) : Option TokenStream :=
  if s.keyAllowed then do
    let s ← s.removeKey
    let required := s.inFlow && s.indent == (s.here.column : Int)
    let key : KeyPlace := ⟨true, required, s.tokens.length, s.here.line, s.here.column, s.here.index⟩
    some { s with keys := key :: s.keys.tail }
  else some s

-- Deeper indentation opens a block collection, whose opening token may belong to an earlier place.
def rollIndent (column : Nat) (position : Nat) (t : Token) (s : TokenStream) : TokenStream :=
  if s.inFlow || (column : Int) ≤ s.indent then s
  else { s.putAt position t with outerIndents := s.indent :: s.outerIndents, indent := column }

def closeBlocks (column : Int) : List Int → TokenStream → TokenStream
  | [], s => s
  | outer :: more, s =>
    if column < s.indent then closeBlocks column more { s.push .blockEnd with indent := outer, outerIndents := more }
    else s

def unrollIndent (column : Int) (s : TokenStream) : TokenStream :=
  if s.inFlow then s else closeBlocks column s.outerIndents s

-- Spaces, comments and breaks; outside brackets a break lets a key follow. A tab may not stand
-- where it could be taken for indentation.
def passBlanks : Nat → TokenStream → TokenStream
  | 0, s => s
  | fuel + 1, s =>
    match s.here.rest with
    | ' ' :: _ => passBlanks fuel { s with here := s.here.next }
    | '\t' :: _ => if s.inFlow || !s.keyAllowed then passBlanks fuel { s with here := s.here.next } else s
    | '#' :: _ => passBlanks fuel { s with here := s.here.pastLine }
    | x :: _ =>
      if isBreak x then passBlanks fuel { s with here := s.here.pastBreak, keyAllowed := s.keyAllowed || !s.inFlow }
      else s
    | [] => s

-- Tokens that stand for themselves move past their characters.
def pushMark (width : Nat) (t : Token) (s : TokenStream) : TokenStream :=
  { s.push t with here := s.here.skip width }

def fetchEnd (s : TokenStream) : Option TokenStream := do
  let s ← (s.unrollIndent (-1)).removeKey
  some ((s.setKeyAllowed false).push .streamEnd)

def fetchDirective (s : TokenStream) : Option TokenStream := do
  let s ← (s.unrollIndent (-1)).removeKey
  let here ← passDirective s.here
  some { (s.setKeyAllowed false).push .directive with here }

def fetchDocumentMark (t : Token) (s : TokenStream) : Option TokenStream := do
  let s ← (s.unrollIndent (-1)).removeKey
  some ((s.setKeyAllowed false).pushMark 3 t)

def fetchFlowStart (t : Token) (s : TokenStream) : Option TokenStream := do
  let s ← s.saveKey
  if flowLimit ≤ s.flowDepth then none
  else some ({ s with keys := .none :: s.keys, flowDepth := s.flowDepth + 1, keyAllowed := true }.pushMark 1 t)

def fetchFlowEnd (t : Token) (s : TokenStream) : Option TokenStream := do
  let s ← s.removeKey
  let s := if s.inFlow then { s with keys := s.keys.tail, flowDepth := s.flowDepth - 1 } else s
  some ((s.setKeyAllowed false).pushMark 1 t)

def fetchFlowEntry (s : TokenStream) : Option TokenStream := do
  let s ← s.removeKey
  some ((s.setKeyAllowed true).pushMark 1 .flowEntry)

def fetchBlockEntry (s : TokenStream) : Option TokenStream :=
  if s.inFlow || !s.keyAllowed then none
  else do
    let s ← (s.rollIndent s.here.column s.tokens.length .blockSequenceStart).removeKey
    some ((s.setKeyAllowed true).pushMark 1 .blockEntry)

def fetchKey (s : TokenStream) : Option TokenStream :=
  if !s.inFlow && !s.keyAllowed then none
  else do
    let s ← (s.rollIndent s.here.column s.tokens.length .blockMappingStart).removeKey
    some ((s.setKeyAllowed !s.inFlow).pushMark 1 .key)

def fetchValue (s : TokenStream) : Option TokenStream :=
  match s.keys with
  | [] => none
  | k :: ks =>
    if k.possible then
      let s := (s.putAt k.position .key).rollIndent k.column k.position .blockMappingStart
      some ({ s with keys := { k with possible := false } :: ks, keyAllowed := false }.pushMark 1 .value)
    else if !s.inFlow && !s.keyAllowed then none
    else
      let s := s.rollIndent s.here.column s.tokens.length .blockMappingStart
      some ((s.setKeyAllowed !s.inFlow).pushMark 1 .value)

def fetchAnchor (token : String → Token) (s : TokenStream) : Option TokenStream := do
  let s ← s.saveKey
  let (name, here) ← readAnchorName s.here
  some { (s.setKeyAllowed false).push (token name) with here }

def fetchTag (s : TokenStream) : Option TokenStream := do
  let s ← s.saveKey
  let (tag, here) ← readTag s.here
  some { (s.setKeyAllowed false).push (.tag tag) with here }

def fetchBlockScalar (isLiteral : Bool) (s : TokenStream) : Option TokenStream := do
  let s ← s.saveKey
  let (text, here) ← readBlock isLiteral s.indent s.here.next
  let style := if isLiteral then Style.literal else Style.folded
  some { (s.setKeyAllowed true).push (.scalar style (String.ofList text)) with here }

def fetchQuoted (double : Bool) (s : TokenStream) : Option TokenStream := do
  let s ← s.saveKey
  let (text, here) ← readQuoted double s.here.rest.length s.here.next
  let style := if double then Style.doubleQuoted else Style.singleQuoted
  some { (s.setKeyAllowed false).push (.scalar style (String.ofList text)) with
    here, adjacentValue := some here.index }

def fetchPlain (s : TokenStream) : Option TokenStream := do
  let s ← s.saveKey
  let word ← readPlain s.inFlow (s.indent + 1) (s.here.rest.length + 1) false s.here
  some { (s.setKeyAllowed word.lineStart).push (.scalar .plain (String.ofList word.text)) with here := word.behind }

def fetchMark (x : Char) (behind : List Char) (s : TokenStream) : Option TokenStream :=
  let alone := endsWord behind
  match x with
  | '[' => s.fetchFlowStart .flowSequenceStart
  | '{' => s.fetchFlowStart .flowMappingStart
  | ']' => s.fetchFlowEnd .flowSequenceEnd
  | '}' => s.fetchFlowEnd .flowMappingEnd
  | ',' => s.fetchFlowEntry
  | '-' => if alone then s.fetchBlockEntry else s.fetchPlain
  | '?' => if alone then s.fetchKey else s.fetchPlain
  | ':' =>
    let adjacent := s.inFlow && (behind.head?.any isFlowMark || s.adjacentValue == some s.here.index)
    if alone || adjacent then s.fetchValue else s.fetchPlain
  | '*' => s.fetchAnchor .alias
  | '&' => s.fetchAnchor .anchor
  | '!' => s.fetchTag
  | '|' => if s.inFlow then s.fetchPlain else s.fetchBlockScalar true
  | '>' => if s.inFlow then s.fetchPlain else s.fetchBlockScalar false
  | '\'' => s.fetchQuoted false
  | '"' => s.fetchQuoted true
  | '%' => none
  | '@' => none
  | '\x60' => none
  | _ => s.fetchPlain

-- The next token, with those that the indentation closes before it.
def fetch (s : TokenStream) : Option TokenStream := do
  let s ← (s.passBlanks (s.here.rest.length + 1)).dropStaleKeys
  let s := s.unrollIndent s.here.column
  match s.here.rest with
  | [] => s.fetchEnd
  | x :: behind =>
    if s.here.column = 0 ∧ x = '%' then s.fetchDirective
    else if s.here.atDocumentMark then s.fetchDocumentMark (if x = '-' then .documentStart else .documentEnd)
    else s.fetchMark x behind

def run : Nat → TokenStream → Option (List Token)
  | 0, _ => none
  | fuel + 1, s => do
    let s ← s.fetch
    if s.tokens.getLast? = some .streamEnd then some s.tokens else run fuel s

end TokenStream

-- Each step but the last moves on in the text.
def tokens? (text : String) : Option (List Token) :=
  let s := TokenStream.start text
  s.run (s.here.rest.length + 1)

end GuardedWork.Yaml
