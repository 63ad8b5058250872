import GuardedWork.Decimal.Binary64
import GuardedWork.Text.Numeral
import GuardedWork.Yaml.Token

namespace GuardedWork.Yaml

inductive Value where
  | null
  | flag (value : Bool)
  | integer (value : Int)
  -- beyond 64 bits, but within 128
  | wide (value : Int)
  | real (value : Binary64)
  | text (value : String)
deriving DecidableEq, Repr

open Text (digits? unsigned? signed?)

def radixMark? : Char → Option Nat
  | 'x' => some 16
  | 'o' => some 8
  | 'b' => some 2
  | _ => none

-- A radix mark stands behind a zero, with a sign before the zero.
def marked? (cs : List Char) : Option Int :=
  let natural (mark : Char) (r : List Char) : Option Int := do
    (unsigned? (← radixMark? mark) UInt64.size r).map Int.ofNat
  match cs with
  | '0' :: mark :: r => natural mark r
  | '+' :: '0' :: mark :: r => natural mark r
  | '-' :: '0' :: mark :: r => do signed? (← radixMark? mark) (UInt64.size / 2) ('-' :: r)
  | _ => none

def isSign (c : Char) : Bool := c == '+' || c == '-'

-- Decimal digits that begin with a needless zero are text.
def zeroPadded (cs : List Char) : Bool :=
  match cs.dropWhile isSign with
  | '0' :: d :: r => (d :: r).all Char.isDigit
  | _ => false

def decimal? (cs : List Char) : Option Value :=
  ((unsigned? 10 UInt64.size cs).map fun n => .integer n)
    <|> ((unsigned? 10 (UInt64.size * UInt64.size) cs).map fun n => .wide n)
    <|> ((signed? 10 (UInt64.size / 2) cs).map .integer)
    <|> ((signed? 10 (UInt64.size * UInt64.size / 2) cs).map .wide)

def exponent? (cs : List Char) : Option Int :=
  match cs with
  | [] => some 0
  | e :: r =>
    if e == 'e' || e == 'E' then
      match r with
      | '-' :: ds => (digits? 10 ds).map fun n => -(n : Int)
      | '+' :: ds => (digits? 10 ds).map Int.ofNat
      | _ => (digits? 10 r).map Int.ofNat
    else none

-- Digits with or without a point, at least one of them, and an exponent if any.
def unsignedReal? (negative : Bool) (cs : List Char) : Option Binary64 :=
  let whole := cs.takeWhile Char.isDigit
  let behind := cs.dropWhile Char.isDigit
  let (fraction, behind) := match behind with
    | '.' :: r => (r.takeWhile Char.isDigit, r.dropWhile Char.isDigit)
    | _ => ([], behind)
  do
    let digits ← digits? 10 (whole ++ fraction)
    let power ← exponent? behind
    some (.ofDecimal negative digits (power - fraction.length))

def splitSign (cs : List Char) : Bool × List Char :=
  match cs with
  | '-' :: r => (true, r)
  | '+' :: r => (false, r)
  | _ => (false, cs)

def real? (cs : List Char) : Option Binary64 :=
  let (negative, r) := splitSign cs
  unsignedReal? negative r

-- Names of the values that are not finite, in any case.
def namedReal? (cs : List Char) : Option Binary64 :=
  let (negative, r) := splitSign cs
  let name := String.ofList (r.map Char.toLower)
  if name = "inf" ∨ name = "infinity" then some (.infinite negative)
  else if name = "nan" then some .notANumber
  else none

def pointedReal? (s : String) : Option Binary64 :=
  let bare := String.ofList (s.toList.dropWhile (· == '+'))
  if [".inf", ".Inf", ".INF"].contains bare then some (.infinite false)
  else if ["-.inf", "-.Inf", "-.INF"].contains s then some (.infinite true)
  else if [".nan", ".NaN", ".NAN"].contains s then some .notANumber
  else none

def Value.ofPlain (s : String) : Value :=
  let cs := s.toList
  if s = "~" ∨ s = "null" then .null
  else if s = "true" then .flag true
  else if s = "false" then .flag false
  else
    match marked? cs with
    | some n => .integer n
    | none =>
      if zeroPadded cs then .text s
      else
        (decimal? cs).getD <| match pointedReal? s with
          | some x => .real x
          | none => match (real? cs).filter Binary64.isFinite with
            | some x => .real x
            | none => .text s

-- A text that does not fit its tag, with what the tag asks for.
structure Misfit where
  text : String
  expected : String

def Value.ofTagged (suffix text : String) : Except Misfit Value :=
  let cs := text.toList
  let need (v : Option Value) (expected : String) : Except Misfit Value :=
    match v with
    | some v => .ok v
    | none => .error ⟨text, expected⟩
  match suffix with
  | "bool" => need (if text = "true" then some (.flag true) else if text = "false" then some (.flag false)
      else none) "a boolean"
  | "int" => need ((signed? 10 (UInt64.size / 2) cs).map .integer) "an integer"
  | "float" => need (((real? cs) <|> (namedReal? cs)).map .real) "a float"
  | "null" => need (if text = "~" ∨ text = "null" then some .null else none) "null"
  | _ => .ok (.text text)

-- A plain scalar without a tag is resolved by its spelling, a tag of the core kinds forces a kind, all else is text.
def Value.ofScalar (style : Style) (tag : Option Tag) (text : String) : Except Misfit Value :=
  match tag, style with
  | some t, _ => if t.handle = "!!" then Value.ofTagged t.suffix text else .ok (.text text)
  | none, .plain => .ok (.ofPlain text)
  | none, _ => .ok (.text text)

end GuardedWork.Yaml
