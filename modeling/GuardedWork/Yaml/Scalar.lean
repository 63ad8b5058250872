import GuardedWork.Yaml.Cursor

namespace GuardedWork.Yaml

-- What stands between two words: spaces on the same line, or breaks. Once at the start of a line,
-- spaces no longer count.
structure Gap where
  spaces : List Char
  folds : Bool
  breaks : Nat
  lineStart : Bool

namespace Gap

def empty : Gap := ⟨[], false, 0, false⟩

-- Behind an escaped break nothing folds.
def escaped : Gap := ⟨[], false, 0, true⟩

-- One break reads as a space, each further one as a line feed.
def text (g : Gap) : List Char :=
  if g.lineStart then
    if g.folds && g.breaks == 0 then [' '] else List.replicate g.breaks '\n'
  else g.spaces

-- A tab may not stand where indentation below least is still missing.
def read (least : Int) : Nat → Gap → Cursor → Option (Gap × Cursor)
  | 0, g, c => some (g, c)
  | fuel + 1, g, c =>
    match c.rest with
    | [] => some (g, c)
    | x :: _ =>
      if isSpace x then
        if g.lineStart then
          if x == '\t' && (c.column : Int) < least then none else read least fuel g c.next
        else read least fuel { g with spaces := g.spaces ++ [x] } c.next
      else if isBreak x then
        if g.lineStart then read least fuel { g with breaks := g.breaks + 1 } c.pastBreak
        else read least fuel ⟨[], true, g.breaks, true⟩ c.pastBreak
      else some (g, c)

def readAll (least : Int) (g : Gap) (c : Cursor) : Option (Gap × Cursor) := read least c.rest.length g c

end Gap

def escapedChar? : Char → Option Char
  | '0' => some '\x00'
  | 'a' => some '\x07'
  | 'b' => some '\x08'
  | 't' => some '\t'
  | '\t' => some '\t'
  | 'n' => some '\n'
  | 'v' => some '\x0b'
  | 'f' => some '\x0c'
  | 'r' => some '\r'
  | 'e' => some '\x1b'
  | ' ' => some ' '
  | '"' => some '"'
  | '\'' => some '\''
  | '\\' => some '\\'
  | 'N' => some '\u0085'
  | '_' => some '\u00a0'
  | 'L' => some '\u2028'
  | 'P' => some '\u2029'
  | _ => none

def escapeWidth? : Char → Option Nat
  | 'x' => some 2
  | 'u' => some 4
  | 'U' => some 8
  | _ => none

def codePoint? (n : Nat) : Option Char :=
  if n < 0xd800 ∨ 0xdfff < n ∧ n < 0x110000 then some (Char.ofNat n) else none

def numberedChar? (width : Nat) (cs : List Char) : Option Char := do
  let digits ← (cs.take width).mapM hexValue?
  if digits.length = width then codePoint? (digits.foldl (fun n d => 16 * n + d) 0) else none

-- The text up to the closing quote, the cursor standing behind the opening one.
def readQuoted (double : Bool) : Nat → Cursor → Option (List Char × Cursor)
  | 0, _ => none
  | fuel + 1, c =>
    if c.atDocumentMark then none
    else
      let on (read : List Char) (c : Cursor) : Option (List Char × Cursor) := do
        let (more, c) ← readQuoted double fuel c
        some (read ++ more, c)
      let onGap (g : Gap) (c : Cursor) : Option (List Char × Cursor) := do
        let (g, c) ← Gap.readAll 0 g c
        on g.text c
      match double, c.rest with
      | _, [] => none
      | false, '\'' :: '\'' :: _ => on ['\''] (c.skip 2)
      | false, '\'' :: _ => some ([], c.next)
      | true, '"' :: _ => some ([], c.next)
      | true, ['\\'] => none
      | true, '\\' :: x :: r =>
        if isBreak x then onGap .escaped c.next.pastBreak
        else
          match escapedChar? x, escapeWidth? x with
          | some y, _ => on [y] (c.skip 2)
          | none, some width => do
            let y ← numberedChar? width r
            on [y] (c.skip (2 + width))
          | none, none => none
      | _, x :: _ => if isSpace x || isBreak x then onGap .empty c else on [x] c.next

-- A colon ends a word where a value may follow, and inside brackets so does each flow mark.
def plainWord (flow : Bool) : List Char → List Char
  | [] => []
  | x :: r =>
    let valueFollows := x == ':' && (endsWord r || flow && r.head?.any isFlowMark)
    if isSpace x || isBreak x || flow && isFlowMark x || valueFollows then [] else x :: plainWord flow r

structure PlainText where
  text : List Char
  -- whether the scalar was given up at the start of a line
  lineStart : Bool
  behind : Cursor

-- lineStart tells how the gap before this word ended.
def readPlain (flow : Bool) (least : Int) : Nat → Bool → Cursor → Option PlainText
  | 0, lineStart, c => some ⟨[], lineStart, c⟩
  | fuel + 1, lineStart, c =>
    if c.atDocumentMark || c.rest.head? == some '#' then some ⟨[], lineStart, c⟩
    else
      let word := plainWord flow c.rest
      let behind := c.skip word.length
      match behind.rest with
      | [] => some ⟨word, lineStart && word.isEmpty, behind⟩
      | x :: _ =>
        if isSpace x || isBreak x then do
          let (g, c) ← Gap.readAll least .empty behind
          if !flow && (c.column : Int) < least then some ⟨word, g.lineStart, c⟩
          else
            let more ← readPlain flow least fuel g.lineStart c
            some { more with text := if more.text.isEmpty then word else word ++ g.text ++ more.text }
        else some ⟨word, lineStart && word.isEmpty, behind⟩

inductive Chomp where
  | strip
  | clip
  | keep
deriving DecidableEq

structure BlockHeader where
  chomp : Chomp
  -- 0 if it is to be found from the first line
  increment : Nat

def chompMark? : Char → Option Chomp
  | '+' => some .keep
  | '-' => some .strip
  | _ => none

def digit? (c : Char) : Option Nat := if c.isDigit then some (c.toNat - 0x30) else none

-- The chomping mark and the digit come in either order; a zero is refused.
def readBlockHeader (c : Cursor) : Option (BlockHeader × Cursor) :=
  let digit (c : Cursor) : Option (Nat × Cursor) :=
    match c.rest.head?.bind digit? with
    | some 0 => none
    | some n => some (n, c.next)
    | none => some (0, c)
  let mark (c : Cursor) : Chomp × Cursor :=
    match c.rest.head?.bind chompMark? with
    | some m => (m, c.next)
    | none => (.clip, c)
  match c.rest.head?.bind chompMark? with
  | some m => do
    let (n, c) ← digit c.next
    some (⟨m, n⟩, c)
  | none => do
    let (n, c) ← digit c
    if n = 0 then some (⟨.clip, 0⟩, c)
    else
      let (m, c) := mark c
      some (⟨m, n⟩, c)

structure BlockBreaks where
  indent : Nat
  breaks : Nat
  behind : Cursor

def BlockBreaks.passIndent (indent : Nat) : Nat → Cursor → Cursor
  | 0, c => c
  | fuel + 1, c =>
    if (indent == 0 || c.column < indent) && c.rest.head? == some ' ' then passIndent indent fuel c.next else c

-- Passes empty lines and the indentation of the next other one; widest is the widest yet seen.
def BlockBreaks.pass (indent : Nat) : Nat → Nat → Nat → Cursor → Option (Nat × Nat × Cursor)
  | 0, widest, breaks, c => some (widest, breaks, c)
  | fuel + 1, widest, breaks, c =>
    let c := passIndent indent c.rest.length c
    let widest := max widest c.column
    if (indent == 0 || c.column < indent) && c.rest.head? == some '\t' then none
    else if c.rest.head?.any isBreak then pass indent fuel widest (breaks + 1) c.pastBreak
    else some (widest, breaks, c)

-- An indent still open becomes the widest one found, but more than that of the parent.
def BlockBreaks.read (parent : Int) (indent : Nat) (c : Cursor) : Option BlockBreaks := do
  let (widest, breaks, c) ← pass indent (c.rest.length + 1) 0 0 c
  some ⟨if indent = 0 then max (max widest (parent + 1).toNat) 1 else indent, breaks, c⟩

structure BlockLines where
  text : List Char
  -- whether the last line had its break, and the empty lines behind it
  ended : Bool
  breaks : Nat
  behind : Cursor

-- before: a line with its break came before, and whether it began with a space.
def readBlockLines (isLiteral : Bool) (parent : Int) :
    Nat → Bool → Bool → BlockBreaks → Option BlockLines
  | 0, ended, _, b => some ⟨[], ended, b.breaks, b.behind⟩
  | fuel + 1, ended, spaced, b =>
    let c := b.behind
    if c.column ≠ b.indent ∨ c.atEnd then some ⟨[], ended, b.breaks, c⟩
    else
      let spacedNow := c.rest.head?.any isSpace
      let joint :=
        if !isLiteral && ended && !spaced && !spacedNow then if b.breaks == 0 then [' '] else []
        else if ended then ['\n'] else []
      let (line, c) := c.span fun x => !isBreak x
      let here := joint ++ List.replicate b.breaks '\n' ++ line
      if c.atEnd then some ⟨here, false, 0, c⟩
      else do
        let b ← BlockBreaks.read parent b.indent c.pastBreak
        let more ← readBlockLines isLiteral parent fuel true spacedNow b
        some { more with text := here ++ more.text }

-- The cursor stands behind the mark that opens the scalar.
def readBlock (isLiteral : Bool) (parent : Int) (c : Cursor) : Option (List Char × Cursor) := do
  let (header, c) ← readBlockHeader c
  let c := c.pastSpaces.pastComment
  if !endsLine c.rest then none
  else
    let c := c.pastBreak
    let indent := if header.increment = 0 then 0 else (max parent 0).toNat + header.increment
    let b ← BlockBreaks.read parent indent c
    let lines ← readBlockLines isLiteral parent (c.rest.length + 1) false false b
    let last := if header.chomp != .strip && lines.ended then ['\n'] else []
    let empty := if header.chomp == .keep then List.replicate lines.breaks '\n' else []
    some (lines.text ++ last ++ empty, lines.behind)

end GuardedWork.Yaml
