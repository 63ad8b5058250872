import GuardedWork.Config.Settings

namespace GuardedWork

structure Rule where
  name : String
  threshold : UInt32
  retryTimeoutMs : UInt64
deriving DecidableEq, Repr

-- Whole seconds and the nanoseconds that go beyond them.
structure Duration where
  seconds : UInt64
  nanos : UInt32
deriving DecidableEq, Repr

namespace Duration

def nanosPerSecond : Nat := 1000000000

-- More than a second of nanoseconds is carried over, none if the seconds would not fit.
def ofParts? (seconds : UInt64) (nanos : UInt32) : Option Duration :=
  let carried := seconds.toNat + nanos.toNat / nanosPerSecond
  if carried < UInt64.size then some ⟨carried.toUInt64, (nanos.toNat % nanosPerSecond).toUInt32⟩ else none

def totalNanos (d : Duration) : Nat := d.seconds.toNat * nanosPerSecond + d.nanos.toNat

-- Whole milliseconds, at most what 64 bits hold.
def clampedMillis (d : Duration) : UInt64 := (min (d.totalNanos / 1000000) (UInt64.size - 1)).toUInt64

end Duration

inductive RuleError where
  | noName
  | noThreshold
deriving DecidableEq, Repr

def RuleError.message : RuleError → String
  | noName => "empty breaker name"
  | noThreshold => "invalid threshold, it must be at least 1"

namespace Rule

def standardName : String := "default"

def standard : Rule := ⟨standardName, BreakerSettings.standard.threshold, BreakerSettings.standard.retryTimeoutMs⟩

def ofDuration (name : String) (threshold : UInt32) (retry : Duration) : Rule := ⟨name, threshold, retry.clampedMillis⟩

-- A timeout of zero lets a probe through at once, and is valid.
def check (r : Rule) : Except RuleError Unit :=
  if r.name = "" then .error .noName else if r.threshold = 0 then .error .noThreshold else .ok ()

def tree (r : Rule) : JsonTree :=
  .record [("name", .text r.name), ("threshold", .number r.threshold.toNat),
    ("retry_timeout_ms", .number r.retryTimeoutMs.toNat)]

def print (r : Rule) : String := r.tree.print

open Yaml (Shape Reader)

def shape : Shape Rule := ⟨"Rule", standard, [
  ⟨"name", false, Reader.text.sets fun x r => { r with name := x }⟩,
  ⟨"threshold", false, (Reader.word32 "u32").sets fun x r => { r with threshold := x }⟩,
  ⟨"retry_timeout_ms", false, (Reader.word64 "u64").sets fun x r => { r with retryTimeoutMs := x }⟩]⟩

def read (text : String) : Except Yaml.DocumentError Rule := Yaml.readDocument shape.read text

-- One line with the fields by name.
def shown (r : Rule) : String :=
  "Rule \x7b name: " ++ Text.quoted r.name ++ ", threshold: " ++ toString r.threshold.toNat ++
    ", retry_timeout_ms: " ++ toString r.retryTimeoutMs.toNat ++ " \x7d"

end Rule
end GuardedWork
