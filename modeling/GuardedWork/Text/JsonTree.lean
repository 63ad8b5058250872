namespace GuardedWork

inductive JsonTree where
  | text (value : String)
  | number (value : Nat)
  | flag (value : Bool)
  | record (fields : List (String × JsonTree))

namespace JsonTree

def hexDigit (n : Nat) : Char :=
  if n < 10 then Char.ofNat (0x30 + n) else Char.ofNat (0x57 + n)

-- Only the quote, the backslash and the controls below the space are escaped; five controls have
-- a letter of their own.
def escapedChar (c : Char) : List Char :=
  match c with
  | '"' => ['\\', '"']
  | '\\' => ['\\', '\\']
  | '\n' => ['\\', 'n']
  | '\r' => ['\\', 'r']
  | '\t' => ['\\', 't']
  | '\x08' => ['\\', 'b']
  | '\x0c' => ['\\', 'f']
  | c => if c.toNat < 0x20 then ['\\', 'u', '0', '0', hexDigit (c.toNat / 16), hexDigit (c.toNat % 16)] else [c]

def escapedText (s : String) : String := "\"" ++ String.ofList (s.toList.flatMap escapedChar) ++ "\""

def indentation (depth : Nat) : String := String.ofList (List.replicate (2 * depth) ' ')

mutual
-- depth counts the records around this value.
def pretty (depth : Nat) : JsonTree → String
  | text s => escapedText s
  | number n => toString n
  | flag b => if b then "true" else "false"
  | record fields =>
    if fields.isEmpty then "\x7b\x7d"
    else "\x7b\n" ++ ",\n".intercalate (prettyFields (depth + 1) fields) ++ "\n" ++ indentation depth ++ "\x7d"

def prettyFields (depth : Nat) : List (String × JsonTree) → List String
  | [] => []
  | field :: rest => prettyField depth field :: prettyFields depth rest

def prettyField (depth : Nat) : String × JsonTree → String
  | (name, value) => indentation depth ++ escapedText name ++ ": " ++ pretty depth value
end

def print (tree : JsonTree) : String := pretty 0 tree

-- A list of texts on one line, as an order key needs it.
def compactTexts (items : List String) : String := "[" ++ ",".intercalate (items.map escapedText) ++ "]"

end JsonTree
end GuardedWork
