import GuardedWork.Yaml.Cursor
import GuardedWork.Yaml.Token

namespace GuardedWork.Yaml

def endsAnchor : List Char → Bool
  | [] => true
  | x :: _ => isSpace x || isBreak x || ['?', ':', ',', ']', '}', '%', '@', '\x60'].contains x

-- The name behind an ampersand or a star.
def readAnchorName (c : Cursor) : Option (String × Cursor) :=
  let (name, c) := c.next.span isName
  if name.isEmpty || !endsAnchor c.rest then none else some (String.ofList name, c)

def isUriChar (c : Char) : Bool :=
  isName c || [';', '/', '?', ':', '@', '&', '=', '+', '$', ',', '.', '!', '~', '*', '\'', '(', ')', '[', ']',
    '%'].contains c

def octet? : List Char → Option Nat
  | '%' :: a :: b :: _ => do
    let high ← hexValue? a
    let low ← hexValue? b
    some (16 * high + low)
  | _ => none

def octetCount? (first : Nat) : Option Nat :=
  if first < 0x80 then some 1
  else if 0xc0 ≤ first ∧ first < 0xe0 then some 2
  else if 0xe0 ≤ first ∧ first < 0xf0 then some 3
  else if 0xf0 ≤ first ∧ first < 0xf8 then some 4
  else none

-- The octets are put side by side, so only one octet stands for the character usually meant.
def readOctets : Nat → Nat → Cursor → Option (Nat × Cursor)
  | 0, code, c => some (code, c)
  | n + 1, code, c => do
    let octet ← octet? c.rest
    if 0x80 ≤ octet ∧ octet < 0xc0 then readOctets n (256 * code + octet) (c.skip 3) else none

def readUriEscape (c : Cursor) : Option (Char × Cursor) := do
  let first ← octet? c.rest
  let count ← octetCount? first
  let (code, c) ← readOctets (count - 1) first (c.skip 3)
  if code < 0xd800 ∨ 0xdfff < code ∧ code < 0x110000 then some (Char.ofNat code, c) else none

def readUri : Nat → Cursor → Option (List Char × Cursor)
  | 0, c => some ([], c)
  | fuel + 1, c =>
    match c.rest with
    | [] => some ([], c)
    | x :: _ =>
      if !isUriChar x then some ([], c)
      else do
        let (y, c) ← if x == '%' then readUriEscape c else some (x, c.next)
        let (more, c) ← readUri fuel c
        some (y :: more, c)

-- What was read of the handle counts toward a text that may not be empty.
def readTagUri (head : List Char) (c : Cursor) : Option (List Char × Cursor) := do
  let (uri, c') ← readUri c.rest.length c
  if head.isEmpty && c'.index == c.index then none else some (head.drop 1 ++ uri, c')

-- In a directive a handle has to be closed by its second mark, or be the mark alone.
def readTagHandle (directive : Bool) (c : Cursor) : Option (List Char × Cursor) :=
  match c.rest with
  | '!' :: _ =>
    let (name, c) := c.next.span isName
    match c.rest with
    | '!' :: _ => some ('!' :: name ++ ['!'], c.next)
    | _ => if directive && !name.isEmpty then none else some ('!' :: name, c)
  | _ => none

def readTag (c : Cursor) : Option (Tag × Cursor) := do
  let (tag, c) ←
    match c.rest with
    | '!' :: '<' :: _ => do
      let (uri, c) ← readTagUri [] (c.skip 2)
      if c.rest.head? == some '>' then some (Tag.mk "" (String.ofList uri), c.next) else none
    | _ => do
      let (handle, c) ← readTagHandle false c
      if 2 ≤ handle.length ∧ handle.getLast? = some '!' then
        let (uri, c) ← readTagUri [] c
        some (Tag.mk (String.ofList handle) (String.ofList uri), c)
      else
        let (uri, c) ← readTagUri handle c
        some (if uri.isEmpty then Tag.mk "" "!" else Tag.mk "!" (String.ofList uri), c)
  if endsWord c.rest then some (tag, c) else none

def passVersionNumber (c : Cursor) : Option Cursor :=
  let (digits, c) := c.span Char.isDigit
  if 1 ≤ digits.length ∧ digits.length ≤ 9 then some c else none

def passVersion (c : Cursor) : Option Cursor := do
  let c ← passVersionNumber c.pastSpaces
  if c.rest.head? == some '.' then passVersionNumber c.next else none

def passTagDirective (c : Cursor) : Option Cursor := do
  let (_, c) ← readTagHandle true c.pastSpaces
  let (_, c) ← readTagUri [] c.pastSpaces
  if endsWord c.rest then some c else none

-- Unknown directives are passed over; the known ones must be well formed, but change nothing.
def passDirective (c : Cursor) : Option Cursor := do
  let (name, c) := c.next.span isName
  if name.isEmpty || !endsWord c.rest then none
  else
    let c ←
      if name = ['Y', 'A', 'M', 'L'] then passVersion c
      else if name = ['T', 'A', 'G'] then passTagDirective c
      else some c.pastLine
    let c := c.pastSpaces.pastComment
    if endsLine c.rest then some c.pastBreak else none

end GuardedWork.Yaml
