import GuardedWork.Text.JsonTree
import GuardedWork.Yaml.Reader

namespace GuardedWork

structure AppSettings where
  name : String
deriving DecidableEq, Repr

structure ExporterSettings where
  enabled : Bool
  address : String
  metricsPath : String
deriving DecidableEq, Repr

structure LogSettings where
  exporter : ExporterSettings
  file : String
deriving DecidableEq, Repr

structure PoolSettings where
  workerCount : UInt64
  queueCapacity : UInt64
deriving DecidableEq, Repr

structure BreakerSettings where
  threshold : UInt32
  retryTimeoutMs : UInt64
deriving DecidableEq, Repr

structure Sections where
  app : AppSettings
  log : LogSettings
  pool : PoolSettings
  breaker : BreakerSettings
deriving DecidableEq, Repr

structure Settings where
  version : String
  sections : Sections
deriving DecidableEq, Repr

inductive SettingsError where
  | noVersion
  | noAppName
  | noWorker
  | noCapacity
  | noThreshold
deriving DecidableEq, Repr

def SettingsError.message : SettingsError → String
  | noVersion => "empty version"
  | noAppName => "empty app name"
  | noWorker => "illegal pool configuration: worker_count must be at least 1"
  | noCapacity => "illegal pool configuration: queue_capacity must be at least 1"
  | noThreshold => "illegal breaker configuration: threshold must be at least 1"

def AppSettings.standard : AppSettings := ⟨"unknown_service"⟩
def ExporterSettings.standard : ExporterSettings := ⟨false, "127.0.0.1:9091", "/metrics"⟩
def LogSettings.standard : LogSettings := ⟨.standard, "testdata/config/log4rs.yaml"⟩
def PoolSettings.standard : PoolSettings := ⟨3, 20⟩
def BreakerSettings.standard : BreakerSettings := ⟨3, 1000⟩
def Sections.standard : Sections := ⟨.standard, .standard, .standard, .standard⟩

def AppSettings.tree (a : AppSettings) : JsonTree := .record [("app_name", .text a.name)]

def ExporterSettings.tree (e : ExporterSettings) : JsonTree :=
  .record [("enabled", .flag e.enabled), ("addr", .text e.address), ("metrics_path", .text e.metricsPath)]

def LogSettings.tree (l : LogSettings) : JsonTree :=
  .record [("exporter", l.exporter.tree), ("config_file", .text l.file)]

def PoolSettings.tree (p : PoolSettings) : JsonTree :=
  .record [("worker_count", .number p.workerCount.toNat), ("queue_capacity", .number p.queueCapacity.toNat)]

def BreakerSettings.tree (b : BreakerSettings) : JsonTree :=
  .record [("threshold", .number b.threshold.toNat), ("retry_timeout_ms", .number b.retryTimeoutMs.toNat)]

def Sections.tree (s : Sections) : JsonTree :=
  .record [("app", s.app.tree), ("log", s.log.tree), ("pool", s.pool.tree), ("breaker", s.breaker.tree)]

namespace Yaml.Reader

def word64 (title : String) : Reader UInt64 := fun s path n => (natural UInt64.size title s path n).map Nat.toUInt64
def word32 (title : String) : Reader UInt32 := fun s path n => (natural UInt32.size title s path n).map Nat.toUInt32

-- A field that may be left out, as the change of the record it belongs to.
def sets {α σ : Type} (reader : Reader α) (set : α → σ → σ) : Reader (σ → σ) := fun s path n =>
  (reader s path n).map set

end Yaml.Reader

open Yaml (Shape Reader)

def AppSettings.shape : Shape AppSettings :=
  ⟨"AppConfig", .standard, [⟨"app_name", false, Reader.text.sets fun x a => { a with name := x }⟩]⟩

def ExporterSettings.shape : Shape ExporterSettings := ⟨"ExporterConfig", .standard, [
  ⟨"enabled", false, Reader.flag.sets fun x e => { e with enabled := x }⟩,
  ⟨"addr", false, Reader.text.sets fun x e => { e with address := x }⟩,
  ⟨"metrics_path", false, Reader.text.sets fun x e => { e with metricsPath := x }⟩]⟩

def LogSettings.shape : Shape LogSettings := ⟨"LogConfig", .standard, [
  ⟨"exporter", false, ExporterSettings.shape.read.sets fun x l => { l with exporter := x }⟩,
  ⟨"config_file", false, Reader.text.sets fun x l => { l with file := x }⟩]⟩

def PoolSettings.shape : Shape PoolSettings := ⟨"PoolConfig", .standard, [
  ⟨"worker_count", false, (Reader.word64 "usize").sets fun x p => { p with workerCount := x }⟩,
  ⟨"queue_capacity", false, (Reader.word64 "usize").sets fun x p => { p with queueCapacity := x }⟩]⟩

def BreakerSettings.shape : Shape BreakerSettings := ⟨"BreakerConfig", .standard, [
  ⟨"threshold", false, (Reader.word32 "u32").sets fun x b => { b with threshold := x }⟩,
  ⟨"retry_timeout_ms", false, (Reader.word64 "u64").sets fun x b => { b with retryTimeoutMs := x }⟩]⟩

def Sections.shape : Shape Sections := ⟨"JobguardConfig", .standard, [
  ⟨"app", false, AppSettings.shape.read.sets fun x s => { s with app := x }⟩,
  ⟨"log", false, LogSettings.shape.read.sets fun x s => { s with log := x }⟩,
  ⟨"pool", false, PoolSettings.shape.read.sets fun x s => { s with pool := x }⟩,
  ⟨"breaker", false, BreakerSettings.shape.read.sets fun x s => { s with breaker := x }⟩]⟩

namespace Settings

def currentVersion : String := "v1"

def standard : Settings := ⟨currentVersion, .standard⟩

def tree (s : Settings) : JsonTree := .record [("version", .text s.version), ("config", s.sections.tree)]

def print (s : Settings) : String := s.tree.print

-- Only the version has to be given.
def shape : Shape Settings := ⟨"ConfigEntity", standard, [
  ⟨"version", true, Reader.text.sets fun x s => { s with version := x }⟩,
  ⟨"config", false, Sections.shape.read.sets fun x s => { s with sections := x }⟩]⟩

def read (text : String) : Except Yaml.DocumentError Settings := Yaml.readDocument shape.read text

-- The first fault in this order is the one that is told.
def check (s : Settings) : Except SettingsError Unit :=
  if s.version = "" then .error .noVersion
  else if s.sections.app.name = "" then .error .noAppName
  else if s.sections.pool.workerCount = 0 then .error .noWorker
  else if s.sections.pool.queueCapacity = 0 then .error .noCapacity
  else if s.sections.breaker.threshold = 0 then .error .noThreshold
  else .ok ()

def setAppName (name : String) (s : Settings) : Settings := { s with sections.app.name := name }
def setWorkerCount (n : UInt64) (s : Settings) : Settings := { s with sections.pool.workerCount := n }
def setQueueCapacity (n : UInt64) (s : Settings) : Settings := { s with sections.pool.queueCapacity := n }

end Settings
end GuardedWork
