import GuardedWork.Text.Numeral

namespace GuardedWork

structure SocketAddress where
  -- four or sixteen octets
  octets : List Nat
  scope : Nat
  port : Nat
deriving DecidableEq, Repr

namespace SocketAddress

-- A reader takes what it can from the front, or nothing.
abbrev Reading (α : Type) := List Char → Option (α × List Char)

-- Digits up to a count, if there is one, and a value within the limit. A number may be refused for
-- a needless zero in front.
def number (radix : Nat) (count : Option Nat) (zeros : Bool) (limit : Nat) : Reading Nat := fun cs =>
  let digits := cs.takeWhile fun c => (Text.digit? radix c).isSome
  let value := digits.foldl (fun n c => radix * n + (Text.digit? radix c).getD 0) 0
  let fits := match count with
    | some n => digits.length ≤ n
    | none => true
  if digits.isEmpty || !fits || limit < value || (!zeros && 1 < digits.length && digits.head? == some '0') then none
  else some (value, cs.drop digits.length)

def mark (c : Char) : Reading Unit
  | x :: r => if x = c then some ((), r) else none
  | [] => none

def octet : Reading Nat := number 10 (some 3) false 255

def v4 : Reading (List Nat) := fun cs => do
  let (a, cs) ← octet cs
  let (_, cs) ← mark '.' cs
  let (b, cs) ← octet cs
  let (_, cs) ← mark '.' cs
  let (c, cs) ← octet cs
  let (_, cs) ← mark '.' cs
  let (d, cs) ← octet cs
  some ([a, b, c, d], cs)

structure Groups where
  groups : List Nat
  endsInV4 : Bool
  rest : List Char

-- Up to a count of groups with colons between; the last two may be written as four octets.
def groups : Nat → Bool → List Char → Groups
  | 0, _, cs => ⟨[], false, cs⟩
  | left + 1, first, cs =>
    let behindColon := if first then some cs else (mark ':' cs).map (·.2)
    match behindColon with
    | none => ⟨[], false, cs⟩
    | some inner =>
      match (if 1 ≤ left then v4 inner else none) with
      | some ([a, b, c, d], r) => ⟨[256 * a + b, 256 * c + d], true, r⟩
      | _ =>
        match number 16 (some 4) true 0xffff inner with
        | none => ⟨[], false, cs⟩
        | some (g, r) =>
          let more := groups left false r
          { more with groups := g :: more.groups }

-- Eight groups, or fewer around one pair of colons that stands for at least one group of zero.
def v6 : Reading (List Nat) := fun cs =>
  let head := groups 8 true cs
  if head.groups.length = 8 then some (head.groups, head.rest)
  else if head.endsInV4 then none
  else
    match head.rest with
    | ':' :: ':' :: r =>
      let tail := groups (8 - (head.groups.length + 1)) true r
      let zeros := List.replicate (8 - head.groups.length - tail.groups.length) 0
      some (head.groups ++ zeros ++ tail.groups, tail.rest)
    | _ => none

def portNumber : Reading Nat := fun cs => do
  let (_, cs) ← mark ':' cs
  number 10 none true 0xffff cs

def scopeOf : Reading Nat := fun cs =>
  match cs with
  | '%' :: r => number 10 none true 0xffffffff r
  | _ => some (0, cs)

def read4 : Reading SocketAddress := fun cs => do
  let (octets, cs) ← v4 cs
  let (p, cs) ← portNumber cs
  some (⟨octets, 0, p⟩, cs)

def read6 : Reading SocketAddress := fun cs => do
  let (_, cs) ← mark '[' cs
  let (gs, cs) ← v6 cs
  let (scope, cs) ← scopeOf cs
  let (_, cs) ← mark ']' cs
  let (p, cs) ← portNumber cs
  some (⟨gs.flatMap fun g => [g / 256, g % 256], scope, p⟩, cs)

-- Nothing may be left over.
def read? (text : String) : Option SocketAddress :=
  match read4 text.toList with
  | some (a, []) => some a
  | _ => match read6 text.toList with
    | some (a, []) => some a
    | _ => none

end SocketAddress
end GuardedWork
