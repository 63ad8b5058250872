import GuardedWork.Proofs.Yaml.Defaults
import Mathlib.Data.Set.Insert

namespace GuardedWork

open Yaml (Abridged AbridgedFields Field Filled PathStep Shape Stream under)
open Yaml.Reader (flag_fillsUp text_fillsUp word32_fillsUp word64_fillsUp)

variable {s : Stream} {omitted : Set KeyPath} {path : List PathStep} {root : Yaml.Node}

theorem AppSettings.mirrors : AppSettings.shape.Mirrors AppSettings.tree where
  record _ := ⟨_, rfl, rfl⟩
  distinct := by decide
  fields := List.forall_mem_singleton.mpr (.of AppSettings.name (text_fillsUp _) (fun _ => rfl) fun _ _ => rfl)

theorem ExporterSettings.mirrors : ExporterSettings.shape.Mirrors ExporterSettings.tree where
  record _ := ⟨_, rfl, rfl⟩
  distinct := by decide
  fields := List.forall_mem_cons.mpr ⟨.of ExporterSettings.enabled (flag_fillsUp _) (fun _ => rfl) fun _ _ => rfl,
    List.forall_mem_cons.mpr ⟨.of ExporterSettings.address (text_fillsUp _) (fun _ => rfl) fun _ _ => rfl,
    List.forall_mem_singleton.mpr (.of ExporterSettings.metricsPath (text_fillsUp _) (fun _ => rfl) fun _ _ => rfl)⟩⟩

theorem LogSettings.mirrors : LogSettings.shape.Mirrors LogSettings.tree where
  record _ := ⟨_, rfl, rfl⟩
  distinct := by decide
  fields := List.forall_mem_cons.mpr
    ⟨.of LogSettings.exporter (ExporterSettings.mirrors.fillsUp (by decide)) (fun _ => rfl) fun _ _ => rfl,
    List.forall_mem_singleton.mpr (.of LogSettings.file (text_fillsUp _) (fun _ => rfl) fun _ _ => rfl)⟩

theorem PoolSettings.mirrors : PoolSettings.shape.Mirrors PoolSettings.tree where
  record _ := ⟨_, rfl, rfl⟩
  distinct := by decide
  fields := List.forall_mem_cons.mpr
    ⟨.of PoolSettings.workerCount (word64_fillsUp "usize" _) (fun _ => rfl) fun _ _ => rfl,
    List.forall_mem_singleton.mpr
      (.of PoolSettings.queueCapacity (word64_fillsUp "usize" _) (fun _ => rfl) fun _ _ => rfl)⟩

theorem BreakerSettings.mirrors : BreakerSettings.shape.Mirrors BreakerSettings.tree where
  record _ := ⟨_, rfl, rfl⟩
  distinct := by decide
  fields := List.forall_mem_cons.mpr
    ⟨.of BreakerSettings.threshold (word32_fillsUp "u32" _) (fun _ => rfl) fun _ _ => rfl,
    List.forall_mem_singleton.mpr
      (.of BreakerSettings.retryTimeoutMs (word64_fillsUp "u64" _) (fun _ => rfl) fun _ _ => rfl)⟩

theorem Sections.mirrors : Sections.shape.Mirrors Sections.tree where
  record _ := ⟨_, rfl, rfl⟩
  distinct := by decide
  fields := List.forall_mem_cons.mpr
    ⟨.of Sections.app (AppSettings.mirrors.fillsUp (by decide)) (fun _ => rfl) fun _ _ => rfl,
    List.forall_mem_cons.mpr
    ⟨.of Sections.log (LogSettings.mirrors.fillsUp (by decide)) (fun _ => rfl) fun _ _ => rfl,
    List.forall_mem_cons.mpr
    ⟨.of Sections.pool (PoolSettings.mirrors.fillsUp (by decide)) (fun _ => rfl) fun _ _ => rfl,
    List.forall_mem_singleton.mpr
      (.of Sections.breaker (BreakerSettings.mirrors.fillsUp (by decide)) (fun _ => rfl) fun _ _ => rfl)⟩⟩⟩

namespace Settings

theorem mirrors : shape.Mirrors tree where
  record _ := ⟨_, rfl, rfl⟩
  distinct := by decide
  fields := List.forall_mem_cons.mpr ⟨.of version (text_fillsUp _) (fun _ => rfl) fun _ _ => rfl,
    List.forall_mem_singleton.mpr
      (.of sections (Sections.mirrors.fillsUp (by decide)) (fun _ => rfl) fun _ _ => rfl)⟩

theorem required_version : (∀ f ∈ shape.fields, f.required = true → [f.name] ∉ omitted) ↔ ["version"] ∉ omitted := by
  constructor
  · intro given
    exact given _ (.head _) rfl
  · intro given f member required
    rcases List.mem_cons.mp member with rfl | member
    · exact given
    · cases List.mem_singleton.mp member
      cases required

theorem eq_of_leaves {a b : Settings} (same : ∀ p, a.tree.leaf? p = b.tree.leaf? p) : a = b := by
  have leaf (p : KeyPath) {left right : JsonTree} (one : a.tree.leaf? p = some left)
      (other : b.tree.leaf? p = some right) : left = right :=
    Option.some.inj (one.symm.trans ((same p).trans other))
  obtain ⟨_, ⟨_⟩, ⟨⟨_, _, _⟩, _⟩, ⟨_, _⟩, ⟨_, _⟩⟩ := a
  obtain ⟨_, ⟨_⟩, ⟨⟨_, _, _⟩, _⟩, ⟨_, _⟩, ⟨_, _⟩⟩ := b
  cases JsonTree.text.inj (leaf ["version"] rfl rfl)
  cases JsonTree.text.inj (leaf ["config", "app", "app_name"] rfl rfl)
  cases JsonTree.flag.inj (leaf ["config", "log", "exporter", "enabled"] rfl rfl)
  cases JsonTree.text.inj (leaf ["config", "log", "exporter", "addr"] rfl rfl)
  cases JsonTree.text.inj (leaf ["config", "log", "exporter", "metrics_path"] rfl rfl)
  cases JsonTree.text.inj (leaf ["config", "log", "config_file"] rfl rfl)
  cases UInt64.toNat_inj.mp (JsonTree.number.inj (leaf ["config", "pool", "worker_count"] rfl rfl))
  cases UInt64.toNat_inj.mp (JsonTree.number.inj (leaf ["config", "pool", "queue_capacity"] rfl rfl))
  cases UInt32.toNat_inj.mp (JsonTree.number.inj (leaf ["config", "breaker", "threshold"] rfl rfl))
  cases UInt64.toNat_inj.mp (JsonTree.number.inj (leaf ["config", "breaker", "retry_timeout_ms"] rfl rfl))
  rfl

-- Any keys of any settings can be left out, the version too.
theorem every_omission_written (s : Stream) (extra : Yaml.Node → Prop) (omitted : Set KeyPath) (e : Settings) :
    ∃ root, Abridged s extra omitted e.tree root := mirrors.written s extra omitted e

-- Whatever is left out, the rest stands in any order among keys of any kind. A collection among these is no name of a
-- field, and refused.
theorem omissions_filled_up (e : Settings) (abridged : Abridged s (fun _ => True) omitted e.tree root)
    (path : List PathStep) :
    ((∃ r, shape.read s path root = .ok r) ↔ ["version"] ∉ omitted ∧ Abridged s s.IsText omitted e.tree root) ∧
      ∀ r, shape.read s path root = .ok r →
        ∀ q : Settings, q = r ↔ Filled omitted standard.tree.leaf? e.tree.leaf? q.tree.leaf? := by
  have readable {r : Settings} (came : shape.read s path root = .ok r) :
      ["version"] ∉ omitted ∧ Abridged s s.IsText omitted e.tree root :=
    (mirrors.insists abridged came).imp_left required_version.mp
  refine ⟨⟨fun ⟨r, came⟩ => readable came, fun ⟨given, texts⟩ => ?_⟩, fun r came q => ?_⟩
  · obtain ⟨r, reads, _⟩ := mirrors.fills (required_version.mpr given) texts
    exact ⟨r, reads path⟩
  · obtain ⟨given, texts⟩ := readable came
    obtain ⟨b, reads, filled⟩ := mirrors.fills (required_version.mpr given) texts
    cases (reads path).symm.trans came
    exact ⟨fun same => same ▸ filled, fun alike => eq_of_leaves (alike.unique filled)⟩

def plain (text : String) : Yaml.Node := .scalar .plain none text

-- The sections are left out, and a list stands in place of a name.
def strayText : String := "version: v1\n? [a]\n: 1\n"

def strayRoot : Yaml.Node := .mapping [(plain "version", plain "v1"), (.sequence [plain "a"], plain "1")]

theorem collection_key_refused :
    Abridged ⟨[strayRoot], []⟩ (fun _ => True) {["config"]} standard.tree strayRoot ∧
      ["version"] ∉ ({["config"]} : Set KeyPath) ∧
      shape.read ⟨[strayRoot], []⟩ [] strayRoot = .error ⟨[], .unexpectedKind .sequence "field identifier"⟩ ∧
      (Settings.read strayText).toOption = none := by
  have given : ["version"] ∉ ({["config"]} : Set KeyPath) := by simp
  have fields : AbridgedFields ⟨[strayRoot], []⟩ (fun _ => True) {["config"]}
      [("version", .text standard.version), ("config", standard.sections.tree)] [(plain "version", plain "v1")] :=
    .kept given rfl (.text rfl) (.out rfl .nil)
  refine ⟨.record rfl (.refl _) fields ?_, given, rfl, by decide +kernel⟩
  exact List.forall_mem_singleton.mpr ⟨trivial, nofun⟩

-- Whole sections and single fields are left out, the others are turned round, and keys of no field stand between them.
def sparseText : String :=
  "config:\n  pool: \x7bspare: &on [x], queue_capacity: 0x7\x7d\n  log: \x7bconfig_file: 'orders.yaml'\x7d\n  ~: *on\nversion: v2\n"

def sparsePool : Yaml.Node :=
  .mapping [(plain "spare", .sequence [plain "x"]), (plain "queue_capacity", plain "0x7")]

def sparseLog : Yaml.Node := .mapping [(plain "config_file", .scalar .singleQuoted none "orders.yaml")]

def sparseConfig : Yaml.Node := .mapping [(plain "pool", sparsePool), (plain "log", sparseLog), (plain "~", .alias 1)]

def sparseRoot : Yaml.Node := .mapping [(plain "config", sparseConfig), (plain "version", plain "v2")]

def sparse : Stream := ⟨[sparseRoot], [(1, .sequence [plain "x"])]⟩

def sparsely : Set KeyPath :=
  {["config", "app"], ["config", "log", "exporter"], ["config", "pool", "worker_count"], ["config", "breaker"]}

def orders : Settings :=
  ⟨"v2", ⟨⟨"orders"⟩, ⟨⟨true, "", ""⟩, "orders.yaml"⟩, ⟨8, 7⟩, ⟨0, 0⟩⟩⟩

def sparseOrders : Settings := ⟨"v2", { Sections.standard with log.file := "orders.yaml", pool.queueCapacity := 7 }⟩

theorem sparse_abridged : Abridged sparse (fun _ => True) sparsely orders.tree sparseRoot := by
  have stray {name : String} {value : Yaml.Node} {fields : List String} (unknown : name ∉ fields) :
      ∀ pair ∈ [(plain name, value)], Yaml.Stray sparse (fun _ => True) fields pair :=
    List.forall_mem_singleton.mpr ⟨trivial, fun said is => Option.some.inj is ▸ unknown⟩
  have pool : Abridged sparse (fun _ => True) (under "pool" (under "config" sparsely)) orders.sections.pool.tree
      sparsePool :=
    .record rfl (.swap _ _ _) (.out (by simp [under, sparsely]) <|
      .kept (by simp [under, sparsely]) rfl (.number rfl rfl) .nil) (stray (by decide))
  have log : Abridged sparse (fun _ => True) (under "log" (under "config" sparsely)) orders.sections.log.tree sparseLog :=
    .record rfl (.refl _) (.out (by simp [under, sparsely]) <|
      .kept (by simp [under, sparsely]) rfl (.text rfl) .nil) nofun
  have fields : AbridgedFields sparse (fun _ => True) (under "config" sparsely)
      [("app", orders.sections.app.tree), ("log", orders.sections.log.tree), ("pool", orders.sections.pool.tree),
        ("breaker", orders.sections.breaker.tree)] [(plain "log", sparseLog), (plain "pool", sparsePool)] :=
    .out (by simp [under, sparsely]) <| .kept (by simp [under, sparsely]) rfl log <|
      .kept (by simp [under, sparsely]) rfl pool <| .out (by simp [under, sparsely]) .nil
  have config : Abridged sparse (fun _ => True) (under "config" sparsely) orders.sections.tree sparseConfig :=
    .record rfl (.swap _ _ _) fields (stray (by decide))
  exact .record rfl (.swap _ _ _) (.kept (by simp [sparsely]) rfl (.text rfl) <|
    .kept (by simp [sparsely]) rfl config .nil) nofun

theorem sparse_filled_up :
    Abridged sparse (fun _ => True) sparsely orders.tree sparseRoot ∧
      (["version"] ∉ sparsely ∧ Abridged sparse sparse.IsText sparsely orders.tree sparseRoot) ∧
      shape.read sparse [] sparseRoot = .ok sparseOrders ∧
      Filled sparsely standard.tree.leaf? orders.tree.leaf? sparseOrders.tree.leaf? ∧
      (Settings.read sparseText).toOption = some sparseOrders := by
  obtain ⟨reads, filled⟩ := omissions_filled_up orders sparse_abridged []
  have same : shape.read sparse [] sparseRoot = .ok sparseOrders := rfl
  exact ⟨sparse_abridged, reads.mp ⟨_, same⟩, same, (filled _ same _).mp rfl, by decide +kernel⟩

end Settings
end GuardedWork
