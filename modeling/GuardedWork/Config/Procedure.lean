import GuardedWork.Config.Settings
import GuardedWork.Config.SocketAddress
import GuardedWork.Telemetry

namespace GuardedWork

inductive ExporterStatus where
  | unstarted
  | failed
  | started
deriving DecidableEq, Repr

structure Shared where
  settings : Settings
  exporter : ExporterStatus
deriving DecidableEq, Repr

def Shared.initial : Shared := ⟨.standard, .unstarted⟩

-- What a call does outside the shared state.
inductive Effect where
  | logged (record : LogRecord)
  | metricsRegistered
  | endpointOpened (address : SocketAddress) (path : String)
deriving DecidableEq, Repr

def Effect.record? : Effect → Option LogRecord
  | logged r => some r
  | _ => none

-- Each use of a lock is a step of its own, so that two calls at once may take turns between any two of them.
inductive Procedure (α : Type) where
  | done (result : α)
  | readSettings (next : Settings → Procedure α)
  | writeSettings (settings : Settings) (next : Procedure α)
  | readExporter (next : ExporterStatus → Procedure α)
  | writeExporter (status : ExporterStatus) (next : Procedure α)
  | act (effect : Effect) (next : Procedure α)

namespace Procedure

variable {α β : Type}

def bind (p : Procedure α) (f : α → Procedure β) : Procedure β :=
  match p with
  | done a => f a
  | readSettings next => readSettings fun s => bind (next s) f
  | writeSettings s next => writeSettings s (bind next f)
  | readExporter next => readExporter fun e => bind (next e) f
  | writeExporter e next => writeExporter e (bind next f)
  | act x next => act x (bind next f)

instance : Monad Procedure where
  pure := done
  bind := bind

def settings : Procedure Settings := readSettings done
def install (s : Settings) : Procedure Unit := writeSettings s (done ())
def exporter : Procedure ExporterStatus := readExporter done
def setExporter (e : ExporterStatus) : Procedure Unit := writeExporter e (done ())
def perform (x : Effect) : Procedure Unit := act x (done ())
def log (level : LogLevel) (text : String) : Procedure Unit := perform (.logged ⟨level, text⟩)

-- One step; a call that is done has none.
def step? : Procedure α → Shared → Option (Procedure α × Shared × Option Effect)
  | done _, _ => none
  | readSettings next, w => some (next w.settings, w, none)
  | writeSettings s next, w => some (next, { w with settings := s }, none)
  | readExporter next, w => some (next w.exporter, w, none)
  | writeExporter e next, w => some (next, { w with exporter := e }, none)
  | act x next, w => some (next, w, some x)

structure Ran (α : Type) where
  result : α
  shared : Shared
  effects : List Effect

def Ran.records (r : Ran α) : List LogRecord := r.effects.filterMap Effect.record?

-- All steps with nothing between them.
def run : Procedure α → Shared → Ran α
  | done a, w => ⟨a, w, []⟩
  | readSettings next, w => run (next w.settings) w
  | writeSettings s next, w => run next { w with settings := s }
  | readExporter next, w => run (next w.exporter) w
  | writeExporter e next, w => run next { w with exporter := e }
  | act x next, w =>
    let r := run next w
    { r with effects := x :: r.effects }

theorem run_bind (p : Procedure α) (f : α → Procedure β) (w : Shared) :
    ((p.bind f).run w).result = ((f (p.run w).result).run (p.run w).shared).result ∧
      ((p.bind f).run w).shared = ((f (p.run w).result).run (p.run w).shared).shared := by
  induction p generalizing w <;> simp_all [bind, run]

end Procedure
end GuardedWork
