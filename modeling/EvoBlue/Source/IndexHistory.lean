import EvoBlue.Kernel.Runs
import EvoBlue.Source.RebuildRuns

/-!
# Histories of the index

Everything that happens to a report directory and its index: files come, change and
go; the pipeline indexes a report it has read back; a reader marks a drifted report
stale; a rescan starts, takes its steps, and may be cut short at any of them. The
pipeline's part is the last half of `IndexingHandler`, after the file was read back.
-/

namespace EvoBlue.Source

open EvoBlue.Kernel

structure IndexWorld where
  disk : Disk
  db : IndexDb := {}
  /-- The rescan under way: whether it purges, and its phase. -/
  rescan : Option (Bool × RunPhase) := none

inductive IndexEvent where
  /-- The directory is now this one. -/
  | edit (disk : Disk)
  /-- The handler of `jobId` indexes `raw`, read back from `relPath` where the
  pipeline wrote `written`. -/
  | pipeline (jobId relPath : Text) (written raw : Bytes) (now : Time)
  | stale (jobId : Text) (now : Time)
  | start (purge : Bool)
  | step (now : Time)
  | crash

/-- `IndexingHandler` once the file is read back: verify the hash, parse, index. -/
def indexPipelineReport (env : ReportEnv) (jobId relPath : Text) (written raw : Bytes) (now : Time)
    (db : IndexDb) : IndexDb :=
  if env.sha256 raw = env.sha256 written then
    match decodeReportBytes env.toReaderEnv raw with
    | .error _ => db
    | .ok parsed =>
      ((indexReport env.unicode (indexColumns parsed jobId relPath (env.sha256 written)
        (some written.length) .pipeline) (bodyTexts parsed) now).transaction db).2
  else db

def indexEvent (env : ReportEnv) (world : IndexWorld) : IndexEvent → IndexWorld
  | .edit disk => { world with disk }
  | .pipeline jobId relPath written raw now =>
    { world with db := indexPipelineReport env jobId relPath written raw now world.db }
  | .stale jobId now => { world with db := ((markReportStale jobId now).transaction world.db).2 }
  | .start purge =>
    match world.rescan with
    | none => { world with rescan := some (purge, .begin) }
    | some _ => world
  | .step now =>
    match world.rescan with
    | none => world
    | some (purge, phase) =>
      let next := phaseStep env purge now world.disk world.db phase
      { world with
        db := next.2
        rescan :=
          match next.1 with
          | .done _ _ | .failed _ => none
          | _ => some (purge, next.1) }
  | .crash => { world with rescan := none }

/-! ## Contents -/

/-- Every file of the directory holds one of these contents. -/
def Disk.Within (contents : Set Bytes) (disk : Disk) : Prop :=
  ∀ path raw, disk.dir.find path = some (.bytes raw) → raw ∈ contents

/-- An event that brings in no other contents. -/
def IndexEvent.Within (contents : Set Bytes) (_ : IndexWorld) : IndexEvent → Prop
  | .edit disk => disk.Within contents
  | .pipeline _ _ written raw _ => written ∈ contents ∧ raw ∈ contents
  | _ => True

/-- A document is the projection of one content. -/
def Projects (env : ReportEnv) (contents : Set Bytes) (jobId : Text) (seen : DocView) : Prop :=
  ∃ rel raw parsed docSource, raw ∈ contents ∧
    decodeReportBytes env.toReaderEnv raw = .ok parsed ∧ parsed.analysisId = jobId ∧
    seen.columns = indexColumns parsed jobId rel (env.sha256 raw) (some raw.length) docSource ∧
    (seen.docStatus ≠ .missing →
      seen.texts = [ftsRowValues env.unicode seen.columns (bodyTexts parsed)])

/-- What every history keeps of the index. -/
structure Projected (env : ReportEnv) (contents : Set Bytes) (db : IndexDb) : Prop where
  formed : db.WellFormed
  issues : db.IssuesFormed
  views : ∀ jobId seen, db.view jobId = some seen → Projects env contents jobId seen

/-- What a read phase found is what the reader makes of some content. -/
def ReadsContents (env : ReportEnv) (contents : Set Bytes) (outcomes : List FileOutcome) : Prop :=
  ∀ outcome ∈ outcomes, ∀ raw parsed, outcome.result = .readable raw parsed →
    raw ∈ contents ∧ decodeReportBytes env.toReaderEnv raw = .ok parsed

def PhaseReads (env : ReportEnv) (contents : Set Bytes) : RunPhase → Prop
  | .reconcile _ outcomes _ => ReadsContents env contents outcomes
  | _ => True

structure HistoryKept (env : ReportEnv) (contents : Set Bytes) (world : IndexWorld) : Prop where
  disk : world.disk.Within contents
  projected : Projected env contents world.db
  phase : ∀ purge phase, world.rescan = some (purge, phase) → PhaseReads env contents phase

theorem projected_empty (env : ReportEnv) (contents : Set Bytes) : Projected env contents {} :=
  ⟨IndexDb.wellFormed_empty, IndexDb.issuesFormed_empty, fun _ _ known => by cases known⟩

theorem Projected.same {env : ReportEnv} {contents : Set Bytes} {db after : IndexDb}
    (projected : Projected env contents db) (same : db.SameIndex after)
    (issues : after.IssuesFormed) : Projected env contents after where
  formed := same.wellFormed projected.formed
  issues := issues
  views := fun jobId seen known => projected.views jobId seen (by rw [← same.view]; exact known)

theorem Projects.missing {env : ReportEnv} {contents : Set Bytes} {jobId : Text} {seen : DocView}
    (projects : Projects env contents jobId seen) : Projects env contents jobId seen.missing := by
  obtain ⟨rel, raw, parsed, docSource, mem, decoded, named, columns, _⟩ := projects
  exact ⟨rel, raw, parsed, docSource, mem, decoded, named, columns, fun visible => absurd rfl visible⟩

theorem Projects.stale {env : ReportEnv} {contents : Set Bytes} {jobId : Text} {seen : DocView}
    (projects : Projects env contents jobId seen) : Projects env contents jobId seen.stale := by
  obtain ⟨rel, raw, parsed, docSource, mem, decoded, named, columns, texts⟩ := projects
  unfold DocView.stale
  split
  next active =>
    exact ⟨rel, raw, parsed, docSource, mem, decoded, named, columns,
      fun _ => texts (by rw [active]; decide)⟩
  next => exact ⟨rel, raw, parsed, docSource, mem, decoded, named, columns, texts⟩

end EvoBlue.Source
