namespace GuardedWork.Yaml

structure Cursor where
  rest : List Char
  line : Nat
  column : Nat
  index : Nat

def isSpace (c : Char) : Bool := c == ' ' || c == '\t'
def isBreak (c : Char) : Bool := c == '\n' || c == '\r'
def isName (c : Char) : Bool := c.isAlphanum || c == '_' || c == '-'
def isFlowMark (c : Char) : Bool := c == ',' || c == '[' || c == ']' || c == '{' || c == '}'

def hexValue? (c : Char) : Option Nat :=
  if c.isDigit then some (c.toNat - 0x30)
  else if 'a' ≤ c ∧ c ≤ 'f' then some (c.toNat - 0x57)
  else if 'A' ≤ c ∧ c ≤ 'F' then some (c.toNat - 0x37)
  else none

def endsWord : List Char → Bool
  | [] => true
  | c :: _ => isSpace c || isBreak c

def endsLine : List Char → Bool
  | [] => true
  | c :: _ => isBreak c

namespace Cursor

-- A text ends at its first NUL.
def start (text : String) : Cursor := ⟨text.toList.takeWhile (· != '\x00'), 0, 0, 0⟩

def atEnd (c : Cursor) : Bool := c.rest.isEmpty

-- Only a line feed starts a new column count.
def next (c : Cursor) : Cursor :=
  match c.rest with
  | [] => c
  | '\n' :: r => ⟨r, c.line + 1, 0, c.index + 1⟩
  | _ :: r => ⟨r, c.line, c.column + 1, c.index + 1⟩

def skip : Nat → Cursor → Cursor
  | 0, c => c
  | n + 1, c => skip n c.next

-- A carriage return with its line feed is one break.
def pastBreak (c : Cursor) : Cursor :=
  match c.rest with
  | '\r' :: '\n' :: _ => c.skip 2
  | x :: _ => if isBreak x then c.next else c
  | [] => c

def span (p : Char → Bool) (c : Cursor) : List Char × Cursor :=
  let taken := c.rest.takeWhile p
  (taken, c.skip taken.length)

def pastSpaces (c : Cursor) : Cursor := (c.span isSpace).2
def pastLine (c : Cursor) : Cursor := (c.span fun x => !isBreak x).2
def pastComment (c : Cursor) : Cursor := if c.rest.head? == some '#' then c.pastLine else c

-- Three dashes or dots alone at the start of a line divide documents.
def atDocumentMark (c : Cursor) : Bool :=
  c.column == 0 && match c.rest with
    | '-' :: '-' :: '-' :: r => endsWord r
    | '.' :: '.' :: '.' :: r => endsWord r
    | _ => false

theorem next_rest (c : Cursor) : c.next.rest = c.rest.tail := by
  unfold next; split <;> simp_all

theorem skip_rest (n : Nat) (c : Cursor) : (c.skip n).rest = c.rest.drop n := by
  induction n generalizing c with
  | zero => rfl
  | succ n ih => rw [skip, ih, next_rest, List.drop_tail]

end Cursor
end GuardedWork.Yaml
