namespace GuardedWork.Text

def digit? (radix : Nat) (c : Char) : Option Nat :=
  let n := c.toNat
  let d? := if 0x30 ≤ n ∧ n ≤ 0x39 then some (n - 0x30) else if 0x61 ≤ n ∧ n ≤ 0x7a then some (n - 0x57)
    else if 0x41 ≤ n ∧ n ≤ 0x5a then some (n - 0x37) else none
  d?.filter (· < radix)

-- There is at least one digit.
def digits? (radix : Nat) (ds : List Char) : Option Nat :=
  if ds.isEmpty then none else ds.foldlM (fun n c => (digit? radix c).map (radix * n + ·)) 0

-- Below the limit. A sign is read once, and is a plus.
def unsigned? (radix limit : Nat) (cs : List Char) : Option Nat := do
  let n ← digits? radix (match cs with | '+' :: r => r | _ => cs)
  if n < limit then some n else none

-- From minus the limit up to below it.
def signed? (radix limit : Nat) (cs : List Char) : Option Int :=
  match cs with
  | '-' :: r => (digits? radix r).bind fun n => if n ≤ limit then some (-(n : Int)) else none
  | _ => (unsigned? radix limit cs).map Int.ofNat

end GuardedWork.Text
