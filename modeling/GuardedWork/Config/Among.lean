import GuardedWork.Config.Change
import GuardedWork.Config.Concurrent

namespace GuardedWork

structure CallAmong (α : Type) where
  call : Procedure α
  others : List (Procedure Unit)
  shared : Shared

structure LockEntry where
  -- whether the call itself makes it
  own : Bool
  use : LockUse
  settings : Settings
deriving DecidableEq, Repr

inductive Mover where
  | own
  | other (index : Nat)
deriving DecidableEq, Repr

namespace CallAmong

variable {α β : Type}

def amidst (changes : List SettingsChange) (call : Procedure α) (w : Shared) : CallAmong α :=
  ⟨call, changes.map SettingsChange.procedure, w⟩

-- The lock is let go of with the settings in place that were read or written.
def entryOf? (own : Bool) (p : Procedure β) (after : Shared) : Option LockEntry :=
  p.lockUse?.map fun use => ⟨own, use, after.settings⟩

def step? (c : CallAmong α) : Mover → Option (CallAmong α × List LockEntry)
  | .own => (c.call.step? c.shared).map fun (p, w, _) => (⟨p, c.others, w⟩, (entryOf? true c.call w).toList)
  | .other i => do
    let q ← c.others[i]?
    let (p, w, _) ← q.step? c.shared
    some (⟨c.call, c.others.set i p, w⟩, (entryOf? false q w).toList)

inductive Runs : CallAmong α → List LockEntry → CallAmong α → Prop where
  | nil {c : CallAmong α} : Runs c [] c
  | cons {c d e : CallAmong α} {mover : Mover} {now later : List LockEntry} :
      c.step? mover = some (d, now) → Runs d later e → Runs c (now ++ later) e

-- The log and the end of a schedule, if each mover has a step when it is its turn.
def replay? : List Mover → CallAmong α → Option (List LockEntry × CallAmong α)
  | [], c => some ([], c)
  | mover :: movers, c => do
    let (d, now) ← c.step? mover
    let (later, e) ← replay? movers d
    some (now ++ later, e)

end CallAmong

namespace LockEntry

def written? (e : LockEntry) : Option Settings :=
  match e.use with
  | .read => none
  | .write => some e.settings

-- All settings that are in place at some time, and those behind the last entry.
def inPlace (first : Settings) (log : List LockEntry) : List Settings := first :: log.filterMap written?

def lastInPlace (first : Settings) (log : List LockEntry) : Settings := log.foldl (fun s e => e.written?.getD s) first

end LockEntry
end GuardedWork
