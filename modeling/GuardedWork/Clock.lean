namespace GuardedWork

-- Since the epoch, negative before it.
structure Clock where
  nanos : Int
deriving DecidableEq, Repr

namespace Clock

def nanosPerMilli : Int := 1000000

-- Any integer of milliseconds, so that nothing overflows.
def nanosOfMillis (ms : Int) : Int := nanosPerMilli * ms

def ofParts (ms nanos : Int) : Clock := ⟨nanosOfMillis ms + nanos⟩

def advance (ms : Int) (c : Clock) : Clock := ⟨c.nanos + nanosOfMillis ms⟩

-- The instants with a date: years up to four digits, before and after the start of the era.
def hasDate (c : Clock) : Bool :=
  -377705116800000 * nanosPerMilli ≤ c.nanos && c.nanos < 253402300800000 * nanosPerMilli

-- A part of a millisecond is dropped toward the epoch; an instant before it wraps.
def reading (c : Clock) : UInt64 := ((c.nanos.tdiv nanosPerMilli) % UInt64.size).toNat.toUInt64

-- The clock can only be read at an instant with a date.
def reading? (c : Clock) : Option UInt64 := if c.hasDate then some c.reading else none

def lastDatedMilli : Nat := 253402300799999

def twoDigits (n : Nat) : String := (if n < 10 then "0" else "") ++ toString n

-- The time of day, or nothing past the last instant with a date.
def timeOfDay (ms : UInt64) : String :=
  let s := ms.toNat / 1000
  if lastDatedMilli < ms.toNat then ""
  else twoDigits (s / 3600 % 24) ++ ":" ++ twoDigits (s / 60 % 60) ++ ":" ++ twoDigits (s % 60)

end Clock
end GuardedWork
