namespace GuardedWork

-- An exact number, not the bits of one.
inductive Binary64 where
  -- a sign and significand * 2 ^ exponent, with significand at most 2 ^ 53
  | finite (negative : Bool) (significand : Nat) (exponent : Int)
  | infinite (negative : Bool)
  | notANumber
deriving DecidableEq, Repr

namespace Binary64

def leastExponent : Int := -1074

def isFinite : Binary64 → Bool
  | finite .. => true
  | _ => false

-- num / den as a fraction scaled by 2 ^ -shift.
def scaled (num den : Nat) (shift : Int) : Nat × Nat :=
  if 0 ≤ shift then (num, den * Nat.pow 2 shift.toNat) else (num * Nat.pow 2 (-shift).toNat, den)

def roundHalfEven (num den : Nat) : Nat :=
  let floor := num / den
  let rest := 2 * (num % den)
  if rest < den then floor else if den < rest then floor + 1 else floor + floor % 2

-- The exponent that gives num / den exactly 53 binary digits, or the least one there is.
def exponentOf (num den : Nat) : Int :=
  let guess : Int := (num.log2 : Int) - den.log2 - 52
  let (n, d) := scaled num den guess
  let exact := if n < Nat.pow 2 52 * d then guess - 1 else guess
  max leastExponent exact

def ofFraction (negative : Bool) (num den : Nat) : Binary64 :=
  if num = 0 then finite negative 0 leastExponent
  else
    let e := exponentOf num den
    let (n, d) := scaled num den e
    let m := roundHalfEven n d
    if Nat.pow 2 53 ≤ m ∧ 971 ≤ e ∨ 971 < e then infinite negative
    else if m = Nat.pow 2 53 then finite negative (Nat.pow 2 52) (e + 1)
    else finite negative m e

-- digits * 10 ^ power. Far outside the range the answer is known without the power itself.
def ofDecimal (negative : Bool) (digits : Nat) (power : Int) : Binary64 :=
  let places : Int := (Nat.toDigits 10 digits).length
  if digits = 0 ∨ places + power < -330 then finite negative 0 leastExponent
  else if 310 < places + power then infinite negative
  else if 0 ≤ power then ofFraction negative (digits * Nat.pow 10 power.toNat) 1
  else ofFraction negative digits (Nat.pow 10 (-power).toNat)

-- Twice or four times the value and its two rounding bounds, over one denominator: the bounds lie
-- half way to the neighbours, and the lower neighbour of a power of two is twice as near.
structure Interval where
  low : Nat
  value : Nat
  high : Nat
  scale : Nat
  closed : Bool

def interval (m : Nat) (e : Int) : Interval :=
  let near := m = Nat.pow 2 52 ∧ leastExponent < e
  let low := if near then 4 * m - 1 else 4 * m - 2
  let (num, den) := if 0 ≤ e then (Nat.pow 2 e.toNat, 1) else (1, Nat.pow 2 (-e).toNat)
  ⟨low * num, 4 * m * num, (4 * m + 2) * num, 4 * den, m % 2 == 0⟩

def Interval.contains (i : Interval) (num den : Nat) : Bool :=
  let x := num * i.scale
  if i.closed then i.low * den ≤ x && x ≤ i.high * den else i.low * den < x && x < i.high * den

-- The grid point at or below the value and the one above it, on the grid of 10 ^ power.
def Interval.onGrid (i : Interval) (power : Int) : Option Nat :=
  let (num, den) := if 0 ≤ power then (Nat.pow 10 power.toNat, 1) else (1, Nat.pow 10 (-power).toNat)
  let below := i.value * den / (i.scale * num)
  let hit k := i.contains (k * num) den
  let twice := 2 * (i.value * den)
  let middle := (2 * below + 1) * num * i.scale
  match hit below, hit (below + 1) with
  | false, false => none
  | true, false => some below
  | false, true => some (below + 1)
  | true, true => some (if twice < middle then below else below + 1)

-- Integer decimal logarithm of num / den, from above: 10 ^ result is more than num / den.
def decimalPlaces (num den : Nat) : Int :=
  if den ≤ num then (Nat.toDigits 10 (num / den)).length
  else 1 - (Nat.toDigits 10 ((den - 1) / num)).length

-- Digits and power of ten; 17 digits always read back.
def shortest (m : Nat) (e : Int) : Nat × Int :=
  let i := interval m e
  let places := decimalPlaces i.value i.scale
  let found := (List.range 17).findSome? fun (k : Nat) =>
    (i.onGrid (places - (k + 1))).map fun digits => (digits, places - (k + 1))
  found.getD (0, 0)

-- Positional at any size, with a point only if there is a fraction.
def positional (digits : Nat) (power : Int) : String :=
  let ds := Nat.toDigits 10 digits
  if 0 ≤ power then String.ofList (ds ++ List.replicate power.toNat '0')
  else
    let behind := (-power).toNat
    let padded := List.replicate (behind + 1 - ds.length) '0' ++ ds
    let fraction := (padded.drop (padded.length - behind)).reverse.dropWhile (· == '0')
    let whole := padded.take (padded.length - behind)
    if fraction.isEmpty then String.ofList whole
    else String.ofList (whole ++ '.' :: fraction.reverse)

-- Messages always show a point in a finite value.
def shown : Binary64 → String
  | notANumber => "NaN"
  | infinite negative => if negative then "-inf" else "inf"
  | finite negative m e =>
    let body := if m = 0 then "0" else positional (shortest m e).1 (shortest m e).2
    let pointed := if body.toList.contains '.' then body else body ++ ".0"
    if negative then "-" ++ pointed else pointed

end Binary64
end GuardedWork
