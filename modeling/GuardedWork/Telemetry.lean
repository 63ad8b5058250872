namespace GuardedWork

inductive LogLevel where
  | error
  | warn
  | info
  | debug
  | trace
deriving DecidableEq, Repr

structure LogRecord where
  level : LogLevel
  text : String
deriving DecidableEq, Repr

-- One count of a counter, with its labels.
inductive Count where
  | jobHandled (pool outcome : String)
  | stateChanged (breaker source target : String)
  | callRejected (breaker : String)
deriving DecidableEq, Repr

namespace Count

def metric : Count → String
  | jobHandled .. => "jobguard_jobs_handled_total"
  | stateChanged .. => "jobguard_circuit_breaker_state_changed_total"
  | callRejected .. => "jobguard_circuit_breaker_rejected_total"

-- In the order of the label names.
def labels : Count → List (String × String)
  | jobHandled pool outcome => [("outcome", outcome), ("pool", pool)]
  | stateChanged breaker source target => [("breaker", breaker), ("from_state", source), ("to_state", target)]
  | callRejected breaker => [("breaker", breaker)]

-- The values of the labels run together, from the name on.
def identity : Count → String
  | jobHandled pool outcome => pool ++ outcome
  | stateChanged breaker source target => breaker ++ source ++ target
  | callRejected breaker => breaker

-- Counters of one metric are told apart by that alone, so that two names may share a counter.
def same (a b : Count) : Bool := a.metric == b.metric && a.identity == b.identity

end Count

structure Telemetry where
  records : List LogRecord
  counts : List Count
deriving DecidableEq, Repr

namespace Telemetry

def empty : Telemetry := ⟨[], []⟩

def ofRecords (records : List LogRecord) : Telemetry := ⟨records, []⟩

def append (a b : Telemetry) : Telemetry := ⟨a.records ++ b.records, a.counts ++ b.counts⟩

instance : Append Telemetry := ⟨append⟩

-- Each counter that was touched, with its value. It has the labels of the first count.
def tally (t : Telemetry) : List (Count × Nat) :=
  (t.counts.eraseDupsBy Count.same).map fun c => (c, t.counts.countP (Count.same c))

end Telemetry
end GuardedWork
