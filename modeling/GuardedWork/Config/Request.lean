import GuardedWork.Config.Setup

namespace GuardedWork

inductive SetupRequest where
  | standard
  | withSettings (settings : Settings)
  | fromFile (path : String)
  -- which never comes to the exporter
  | fromVariables
deriving DecidableEq, Repr

namespace SetupRequest

-- Up to where the settings are in place.
def configure (around : Surroundings) : SetupRequest → Setup.Call Unit
  | standard => Setup.configureFromFile around ""
  | withSettings s => Setup.configureWith around s
  | fromFile path => Setup.configureFromFile around path
  | fromVariables => Setup.configureFromVariables around

def call (around : Surroundings) (serving : Setup.Serving) : SetupRequest → Setup.Call Unit
  | standard => Setup.standard around serving
  | withSettings s => Setup.withSettings around serving s
  | fromFile path => Setup.fromFile around serving path
  | fromVariables => Setup.configureFromVariables around

def after (around : Surroundings) (serving : Setup.Serving) (r : SetupRequest) (w : Shared) : Shared :=
  ((r.call around serving).run.run w).shared

end SetupRequest

structure SetupCall where
  around : Surroundings
  serving : Setup.Serving
  request : SetupRequest

namespace SetupCall

def configure (c : SetupCall) : Setup.Call Unit := c.request.configure c.around

def procedure (c : SetupCall) : Setup.Call Unit := c.request.call c.around c.serving

def afterAll (calls : List SetupCall) (w : Shared) : Shared :=
  calls.foldl (fun w c => c.request.after c.around c.serving w) w

end SetupCall

-- Whether the fault is found before anything is installed.
def SetupError.concernsSettings : SetupError → Bool
  | settings _ | noFile _ | unreadable _ | document _ | badVariable _ _ => true
  | badAddress | badEndpoint _ | notServed _ | failedBefore => false

end GuardedWork
