import GuardedWork.Breaker.Rule
import GuardedWork.Proofs.Config.Agreement
import GuardedWork.Proofs.Yaml.Records

namespace GuardedWork

open JsonTree (Readable)
open Yaml (PathStep Shape Stream)
open Yaml.Reader (flag_reads text_reads word32_reads word64_reads)

variable {s : Stream} {path : List PathStep}

theorem AppSettings.tree_reads (a : AppSettings) : AppSettings.shape.read s path a.tree.node = .ok a :=
  Shape.Reads.mapping (.field rfl rfl (by decide) (text_reads a.name) .nil) (by decide) rfl

theorem ExporterSettings.tree_reads (e : ExporterSettings) : ExporterSettings.shape.read s path e.tree.node = .ok e :=
  Shape.Reads.mapping (.field rfl rfl (by decide) (flag_reads e.enabled) <|
    .field rfl rfl (by decide) (text_reads e.address) <|
    .field rfl rfl (by decide) (text_reads e.metricsPath) .nil) (by decide) rfl

theorem LogSettings.tree_reads (l : LogSettings) : LogSettings.shape.read s path l.tree.node = .ok l :=
  Shape.Reads.mapping (.field rfl rfl (by decide) l.exporter.tree_reads <|
    .field rfl rfl (by decide) (text_reads l.file) .nil) (by decide) rfl

theorem PoolSettings.tree_reads (p : PoolSettings) : PoolSettings.shape.read s path p.tree.node = .ok p :=
  Shape.Reads.mapping (.field rfl rfl (by decide) (word64_reads p.workerCount "usize") <|
    .field rfl rfl (by decide) (word64_reads p.queueCapacity "usize") .nil) (by decide) rfl

theorem BreakerSettings.tree_reads (b : BreakerSettings) : BreakerSettings.shape.read s path b.tree.node = .ok b :=
  Shape.Reads.mapping (.field rfl rfl (by decide) (word32_reads b.threshold "u32") <|
    .field rfl rfl (by decide) (word64_reads b.retryTimeoutMs "u64") .nil) (by decide) rfl

theorem Sections.tree_reads (c : Sections) : Sections.shape.read s path c.tree.node = .ok c :=
  Shape.Reads.mapping (.field rfl rfl (by decide) c.app.tree_reads <|
    .field rfl rfl (by decide) c.log.tree_reads <|
    .field rfl rfl (by decide) c.pool.tree_reads <|
    .field rfl rfl (by decide) c.breaker.tree_reads .nil) (by decide) rfl

theorem Settings.tree_reads (e : Settings) : Settings.shape.read s path e.tree.node = .ok e :=
  Shape.Reads.mapping (.field rfl rfl (by decide) (text_reads e.version) <|
    .field rfl rfl (by decide) e.sections.tree_reads .nil) (by decide) rfl

theorem Rule.tree_reads (r : Rule) : Rule.shape.read s path r.tree.node = .ok r :=
  Shape.Reads.mapping (.field rfl rfl (by decide) (text_reads r.name) <|
    .field rfl rfl (by decide) (word32_reads r.threshold "u32") <|
    .field rfl rfl (by decide) (word64_reads r.retryTimeoutMs "u64") .nil) (by decide) rfl

theorem AppSettings.tree_readable (a : AppSettings) : Readable 2 a.tree :=
  .field (by decide) (.text 3 a.name) (.empty (by decide))

theorem ExporterSettings.tree_readable (e : ExporterSettings) : Readable 3 e.tree :=
  .field (by decide) (.flag 4 e.enabled) <| .field (by decide) (.text 4 e.address) <|
    .field (by decide) (.text 4 e.metricsPath) (.empty (by decide))

theorem LogSettings.tree_readable (l : LogSettings) : Readable 2 l.tree :=
  .field (by decide) l.exporter.tree_readable <| .field (by decide) (.text 3 l.file) (.empty (by decide))

theorem PoolSettings.tree_readable (p : PoolSettings) : Readable 2 p.tree :=
  .field (by decide) (.number 3 p.workerCount.toNat) <|
    .field (by decide) (.number 3 p.queueCapacity.toNat) (.empty (by decide))

theorem BreakerSettings.tree_readable (b : BreakerSettings) : Readable 2 b.tree :=
  .field (by decide) (.number 3 b.threshold.toNat) <|
    .field (by decide) (.number 3 b.retryTimeoutMs.toNat) (.empty (by decide))

theorem Sections.tree_readable (c : Sections) : Readable 1 c.tree :=
  .field (by decide) c.app.tree_readable <| .field (by decide) c.log.tree_readable <|
    .field (by decide) c.pool.tree_readable <| .field (by decide) c.breaker.tree_readable (.empty (by decide))

theorem Settings.tree_readable (e : Settings) : Readable 0 e.tree :=
  .field (by decide) (.text 1 e.version) <| .field (by decide) e.sections.tree_readable (.empty (by decide))

theorem Rule.tree_readable (r : Rule) : Readable 0 r.tree :=
  .field (by decide) (.text 1 r.name) <| .field (by decide) (.number 1 r.threshold.toNat) <|
    .field (by decide) (.number 1 r.retryTimeoutMs.toNat) (.empty (by decide))

theorem Settings.print_roundtrip (e : Settings) : Settings.read e.print = .ok e :=
  Yaml.readDocument_print e.tree_readable e.tree_reads

theorem Rule.print_roundtrip (r : Rule) : Rule.read r.print = .ok r :=
  Yaml.readDocument_print r.tree_readable r.tree_reads

namespace Setup

theorem loaded_found (around : Surroundings) (path : String) (w : Shared) :
    ((loaded around path).run.run w).result = found around path w.settings ∧
      ((loaded around path).run.run w).shared = w := by
  unfold loaded found
  by_cases inPlace : path = placeholder
  · rw [if_pos inPlace, if_pos inPlace]
    exact ⟨rfl, rfl⟩
  · rw [if_neg inPlace, if_neg inPlace]
    cases fileSettings around path <;> exact ⟨rfl, rfl⟩

theorem printed_file {around : Surroundings} {path : String} {e : Settings}
    (there : around.files.find? path = some (.file e.print.toUTF8)) : fileSettings around path = .ok e := by
  unfold fileSettings
  rw [there]
  dsimp only
  rw [textOf?_toUTF8]
  dsimp only
  rw [e.print_roundtrip]
  rfl

-- The placeholder leads to no file: it stands for the settings in place.
theorem printed_reads_back (around : Surroundings) (path : String) (w : Shared) (e : Settings)
    (there : around.files.find? path = some (.file e.print.toUTF8)) (r : Rule) :
    ((loaded around path).run.run w).result = .ok (if path = placeholder then w.settings else e) ∧
      ((loaded around path).run.run w).shared = w ∧ Settings.read e.print = .ok e ∧ Rule.read r.print = .ok r := by
  obtain ⟨result, shared⟩ := loaded_found around path w
  refine ⟨?_, shared, e.print_roundtrip, r.print_roundtrip⟩
  rw [result, found]
  by_cases inPlace : path = placeholder
  · rw [if_pos inPlace, if_pos inPlace]
  · rw [if_neg inPlace, if_neg inPlace]
    exact printed_file there

-- Blanks at both ends, quotes, a backslash, controls, and the largest numbers.
def quaint : Settings :=
  let sections := { Sections.standard with
    app := ⟨" \"job\\guard\" \x00\t\n "⟩, pool := ⟨18446744073709551615, 0⟩, breaker := ⟨4294967295, 18446744073709551615⟩ }
  ⟨"v\r\x7f ", sections⟩

theorem quaint_reads_back :
    ((loaded (SetupRequest.besideFile [] "orders.yaml" quaint.print) "orders.yaml").run.run .initial).result =
        .ok quaint ∧
      Rule.read (Rule.print ⟨"\x1b[0m\n", 4294967295, 0⟩) = .ok ⟨"\x1b[0m\n", 4294967295, 0⟩ := by
  obtain ⟨loads, _, _, rule⟩ := printed_reads_back (SetupRequest.besideFile [] "orders.yaml" quaint.print) "orders.yaml"
    .initial quaint rfl ⟨"\x1b[0m\n", 4294967295, 0⟩
  exact ⟨loads, rule⟩

end Setup
end GuardedWork
