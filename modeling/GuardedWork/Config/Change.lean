import GuardedWork.Config.Request

namespace GuardedWork

-- Whether a call, with nothing between its steps, asks what became of the exporter.
def Procedure.asksForExporter {α : Type} : Procedure α → Shared → Bool
  | done _, _ => false
  | readSettings next, w => asksForExporter (next w.settings) w
  | writeSettings s next, w => asksForExporter next { w with settings := s }
  | readExporter _, _ => true
  | writeExporter e next, w => asksForExporter next { w with exporter := e }
  | act _ next, w => asksForExporter next w

inductive SettingsChange where
  | setup (call : SetupCall)
  -- past all variables, and unchecked
  | replacement (settings : Settings)

structure SetupEntry where
  call : SetupCall
  found : Shared

namespace SetupEntry

def ran (e : SetupEntry) : Procedure.Ran (Except SetupError Unit) := e.call.procedure.run.run e.found

-- Up to where the settings are in place.
def configured (e : SetupEntry) : Procedure.Ran (Except SetupError Unit) := e.call.configure.run.run e.found

def installed (e : SetupEntry) : Settings := e.configured.shared.settings

def reachesExporter (e : SetupEntry) : Bool := e.call.procedure.run.asksForExporter e.found

end SetupEntry

namespace SettingsChange

-- Whatever is told of it.
def procedure : SettingsChange → Procedure Unit
  | setup c => c.procedure.run.bind fun _ => .done ()
  | replacement s => Procedure.install s

def after (change : SettingsChange) (w : Shared) : Shared := (change.procedure.run w).shared

def entries : List SettingsChange → Shared → List SetupEntry
  | [], _ => []
  | setup c :: more, w => ⟨c, w⟩ :: entries more ((setup c).after w)
  | replacement s :: more, w => entries more ((replacement s).after w)

end SettingsChange
end GuardedWork
