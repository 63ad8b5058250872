import GuardedWork.Config.Procedure
import GuardedWork.Config.Surroundings
import GuardedWork.Text.Numeral

namespace GuardedWork

inductive FileFault where
  | directory
  | notText
deriving DecidableEq, Repr

inductive SetupError where
  | settings (error : SettingsError)
  | noFile (path : String)
  | unreadable (fault : FileFault)
  | document (error : Yaml.DocumentError)
  | badVariable (key value : String)
  | badAddress
  | badEndpoint (path : String)
  | notServed (reason : String)
  | failedBefore

def FileFault.message : FileFault → String
  | directory => "Is a directory (os error 21)"
  | notText => "stream did not contain valid UTF-8"

-- A malformed document is told without a text.
def SetupError.message : SetupError → String
  | settings e => e.message
  | noFile path => "jobguard YAML configuration file does not exist: " ++ path
  | unreadable f => f.message
  | document (.unfit e) => e.message
  | document .malformed => ""
  | badVariable key value => "invalid value of env " ++ key ++ ": " ++ value
  | badAddress => "invalid socket address syntax"
  | badEndpoint path => "supplied endpoint is not valid ascii: " ++ path
  | notServed reason => reason
  | failedBefore => "metric exporter failed to start before"

namespace Setup

def appNameKey : String := "JOBGUARD_APP_NAME"
def workerCountKey : String := "JOBGUARD_WORKER_COUNT"
def queueCapacityKey : String := "JOBGUARD_QUEUE_CAPACITY"
def filePathKey : String := "JOBGUARD_CONFIG_FILE_PATH"

-- The path that stands for the settings in place.
def placeholder : String := "USE_DEFAULT_CONFIGURATION"

def standardLogLevel : String := "warn"

abbrev Call (α : Type) := ExceptT SetupError Procedure α

-- What stands in the way of the exporter, if anything does: of its metrics, or of its endpoint, by where it is
-- opened.
structure Serving where
  unregistered : Option String
  unopened : SocketAddress → String → Option String

def opens : Serving := ⟨none, fun _ _ => none⟩

def Serving.register (serving : Serving) : Except SetupError Unit :=
  match serving.unregistered with
  | some reason => .error (.notServed reason)
  | none => .ok ()

-- A filled variable is a number once the blanks around it are gone.
def countVariable (around : Surroundings) (key : String) : Except SetupError (Option UInt64) :=
  match around.filled? key with
  | none => .ok none
  | some v =>
    match Text.unsigned? 10 UInt64.size (Text.trimBlank v).toList with
    | some n => .ok (some n.toUInt64)
    | none => .error (.badVariable key v)

def overridden (around : Surroundings) (s : Settings) : Except SetupError Settings := do
  let s := match around.filled? appNameKey with
    | some name => s.setAppName name
    | none => s
  let s := match ← countVariable around workerCountKey with
    | some n => s.setWorkerCount n
    | none => s
  match ← countVariable around queueCapacityKey with
  | some n => .ok (s.setQueueCapacity n)
  | none => .ok s

-- A blank path is taken from its variable, as it stands there.
def resolvedPath (around : Surroundings) (path : String) : String :=
  if Text.isBlank path then (around.valueOf? filePathKey).getD placeholder else path

def checked (s : Settings) : Except SetupError Unit := s.check.mapError .settings

def fileSettings (around : Surroundings) (path : String) : Except SetupError Settings :=
  match around.files.find? path with
  | none => .error (.noFile path)
  | some .directory => .error (.unreadable .directory)
  | some (.file bytes) =>
    match textOf? bytes with
    | none => .error (.unreadable .notText)
    | some text => (Settings.read text).mapError .document

-- What does not touch the shared state.
def given {α : Type} (e : Except SetupError α) : Call α := ExceptT.mk (pure e)

def loaded (around : Surroundings) (path : String) : Call Settings :=
  if path = placeholder then liftM Procedure.settings
  else do
    let s ← given (fileSettings around path)
    Procedure.log .info ("[Config] Resolving jobguard config from file, file " ++ path)
    pure s

-- Each of these looks at the settings anew.
def announce : Procedure Unit := do
  let _ ← Procedure.settings
  let s ← Procedure.settings
  Procedure.log .info ("[Config] App name resolved, appName " ++ s.sections.app.name)
  let s ← Procedure.settings
  Procedure.log .info ("[Config] Print effective global config, globalConfig " ++ s.print)

def apply (around : Surroundings) (s : Settings) : Call Unit := do
  let merged ← given (overridden around s)
  given (checked merged)
  liftM (Procedure.install merged)
  liftM announce

-- The first attempt counts as failed until it is through.
def startExporter (serving : Serving) : Call Unit := do
  match ← liftM Procedure.exporter with
  | .started => pure ()
  | .failed => throw .failedBefore
  | .unstarted =>
    liftM (Procedure.setExporter .failed)
    given serving.register
    liftM (Procedure.perform .metricsRegistered)
    let s ← liftM Procedure.settings
    match SocketAddress.read? s.sections.log.exporter.address with
    | none => throw .badAddress
    | some address =>
      let s ← liftM Procedure.settings
      let path := s.sections.log.exporter.metricsPath
      if path.toList.any fun c => 0x80 ≤ c.toNat then throw (.badEndpoint path)
      else
        liftM (Procedure.perform (.endpointOpened address path))
        match serving.unopened address path with
        | some reason => throw (.notServed reason)
        | none => liftM (Procedure.setExporter .started)

def startServices (serving : Serving) : Call Unit := do
  let s ← liftM Procedure.settings
  if s.sections.log.exporter.enabled then
    startExporter serving
    let a ← liftM Procedure.settings
    let p ← liftM Procedure.settings
    liftM (Procedure.log .info ("[Init] Metric exporter started, addr " ++ a.sections.log.exporter.address ++
      p.sections.log.exporter.metricsPath))

-- Without the exporter.
def configureFromFile (around : Surroundings) (path : String) : Call Unit := do
  apply around (← loaded around (resolvedPath around path))

def configureWith (around : Surroundings) (s : Settings) : Call Unit := do
  given (checked s)
  apply around s

def configureFromVariables (around : Surroundings) : Call Unit := do
  apply around (← liftM Procedure.settings)

-- With the exporter.
def fromFile (around : Surroundings) (serving : Serving) (path : String) : Call Unit := do
  configureFromFile around path
  startServices serving

def withSettings (around : Surroundings) (serving : Serving) (s : Settings) : Call Unit := do
  configureWith around s
  startServices serving

def standard (around : Surroundings) (serving : Serving) : Call Unit := fromFile around serving ""

end Setup

-- The log file, unless its name is blank.
def Settings.logFile? (s : Settings) : Option String :=
  if Text.isBlank s.sections.log.file then none else some s.sections.log.file

end GuardedWork
