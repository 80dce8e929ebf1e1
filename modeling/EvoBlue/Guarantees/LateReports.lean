import EvoBlue.Guarantees.KeptReports
import EvoBlue.Guarantees.RunCounters
import EvoBlue.Source.IssueRuns
import EvoBlue.Source.RescanLists

/-!
# Reports that come while a rescan runs

The pipeline writes files and indexes them between any two steps of a rescan. The absence pass
judges the documents it finds by the list the run took at its start, so a document is safe when
its file is on that list, or when it comes after the pass.
-/

namespace EvoBlue.Guarantees

open EvoBlue.Kernel EvoBlue.Source

/-- The pipeline puts a new file there, whose analysis id no other file carries. -/
def WritesReport (env : ReportEnv) (disk later : Disk) : Prop :=
  ∃ path data, disk.dir.find path = none ∧
    later = { disk with dir := disk.dir.put path (.bytes data) } ∧
    ∀ parsed, decodeReportBytes env.toReaderEnv data = .ok parsed → ∀ rel raw other,
      Carries env disk rel raw other → other.analysisId ≠ parsed.analysisId

/-- Next to the steps of the run there are completions of the pipeline only: no file is removed,
edited or duplicated. -/
def Completing (env : ReportEnv) (world : RunWorld) : RunEvent → Prop
  | .edit disk => WritesReport env world.disk disk
  | .pipeline _ relPath _ raw _ => world.disk.dir.find relPath = some (.bytes raw)
  | .step _ => True
  | .stale _ _ => False

/-- `IndexingHandler` succeeds: the file is the one written, and its entry is taken. -/
def Upserts (env : ReportEnv) (event : RunEvent) (jobId relPath : Text) : Prop :=
  ∃ written raw now parsed, event = .pipeline jobId relPath written raw now ∧
    env.sha256 raw = env.sha256 written ∧ decodeReportBytes env.toReaderEnv raw = .ok parsed ∧
    (indexColumns parsed jobId relPath (env.sha256 written) (some written.length)
      .pipeline).accepted env.unicode = true ∧
    Bindable env.unicode (indexColumns parsed jobId relPath (env.sha256 written)
      (some written.length) .pipeline) (bodyTexts parsed)

/-- The document is active and has its index row. -/
def Searchable (db : IndexDb) (jobId : Text) : Prop :=
  ∃ seen, db.view jobId = some seen ∧ seen.docStatus = .active ∧ seen.texts.length = 1

/-- The file is one the run knows, and no enumerated file comes before it with its id. -/
structure OnTheList (env : ReportEnv) (disk : Disk) (phase : RunPhase) (jobId relPath : Text) : Prop where
  listed : isCollected env.unicode relPath = true → ∀ files ∈ phase.listed, relPath ∈ files
  least : ∀ rel raw parsed, Carries env disk rel raw parsed → parsed.analysisId = jobId →
    isCollected env.unicode relPath = true ∧ relPath ≤ rel

/-- A report is indexed after the absence pass, or its file is on the list. -/
def InTime (env : ReportEnv) (world : RunWorld) : RunEvent → Prop
  | .pipeline jobId relPath _ _ _ =>
    world.phase.pending = true → OnTheList env world.disk world.phase jobId relPath
  | _ => True

section

variable {env : ReportEnv} {purge : Bool} {world : RunWorld} {jobId relPath : Text}

/-! ## What is kept of a document -/

/-- A document that the absence pass will find claimed. -/
structure Awaits (env : ReportEnv) (world : RunWorld) (jobId relPath : Text) : Prop where
  wins : ∃ raw parsed, IsWinner env world.disk relPath raw parsed ∧ parsed.analysisId = jobId
  listed : ∀ files ∈ world.phase.listed, relPath ∈ files
  path : ∀ seen ∈ world.db.view jobId, seen.columns.relativePath = relPath

/-- An upserted document, while its run goes on and after it. -/
structure OutlivesRun (env : ReportEnv) (world : RunWorld) (jobId relPath : Text) : Prop where
  searchable : Searchable world.db jobId
  awaits : world.phase.pending = true → Awaits env world jobId relPath

/-- Where a run among completions of the pipeline stands. -/
structure RunSafe (env : ReportEnv) (upserted : Text → Text → Prop) (world : RunWorld) : Prop where
  formed : world.db.WellFormed
  issues : world.db.IssuesFormed
  follows : PhaseFollows env world.disk world.phase
  survives : ∀ jobId relPath, upserted jobId relPath → OutlivesRun env world jobId relPath

theorem OutlivesRun.same {after : IndexDb} (survives : OutlivesRun env world jobId relPath)
    (same : after.view jobId = world.db.view jobId) :
    OutlivesRun env { world with db := after } jobId relPath := by
  obtain ⟨⟨seen, known, active⟩, awaits⟩ := survives
  refine ⟨⟨seen, same.trans known, active⟩, ?_⟩
  intro pending
  obtain ⟨wins, listed, path⟩ := awaits pending
  refine ⟨wins, listed, ?_⟩
  intro other view
  exact path other (same.symm.trans view)

/-! ## A new file -/

theorem grows_of_writes {disk later : Disk} (writes : WritesReport env disk later) :
    disk.Grows later := by
  obtain ⟨path, data, free, rfl, -⟩ := writes
  refine ⟨rfl, ?_⟩
  intro other content found
  rw [Directory.find_put, if_neg]
  · exact found
  · intro same
    rw [same, free] at found
    cases found

theorem wins_after_write {disk later : Disk} {rel : Text} {raw : Bytes} {parsed : ParsedReport}
    (writes : WritesReport env disk later) (wins : IsWinner env disk rel raw parsed) :
    IsWinner env later rel raw parsed := by
  have grows := grows_of_writes writes
  obtain ⟨path, data, free, rfl, alone⟩ := writes
  refine ⟨⟨grows.collected wins.1.1, grows.files _ _ wins.1.2.1, wins.1.2.2⟩, ?_⟩
  intro otherRel otherRaw otherParsed carries same
  obtain ⟨collected, found, decoded⟩ := carries
  rw [Directory.find_put] at found
  by_cases new : otherRel = path
  · rw [if_pos new] at found
    cases found
    exact absurd same.symm (alone otherParsed decoded rel raw parsed wins.1)
  · rw [if_neg new] at found
    have listed := (mem_collect_find.1 collected).1
    exact wins.2 otherRel otherRaw otherParsed
      ⟨mem_collect_find.2 ⟨listed, _, found⟩, found, decoded⟩ same

theorem outlives_write {later : Disk} (writes : WritesReport env world.disk later)
    (survives : OutlivesRun env world jobId relPath) :
    OutlivesRun env { world with disk := later } jobId relPath := by
  refine ⟨survives.searchable, ?_⟩
  intro pending
  obtain ⟨⟨raw, parsed, wins, named⟩, listed, path⟩ := survives.awaits pending
  exact ⟨⟨raw, parsed, wins_after_write writes wins, named⟩, listed, path⟩

/-! ## The pipeline -/

theorem indexPipelineReport_idle {written raw : Bytes} {now : Time} {db : IndexDb}
    (formed : db.WellFormed)
    (idle : ∀ jobId' relPath', ¬ Upserts env (.pipeline jobId relPath written raw now) jobId' relPath') :
    indexPipelineReport env jobId relPath written raw now db = db := by
  rcases @indexPipelineReport_cases env jobId relPath written raw now db formed with
    same | ⟨parsed, verified, decoded, accepted, bindable, -⟩
  · exact same
  · exact absurd ⟨written, raw, now, parsed, rfl, verified, decoded, accepted, bindable⟩
      (idle jobId relPath)

/-- What a successful upsert leaves. -/
theorem upserts_view {written raw : Bytes} {now : Time} {db : IndexDb} (formed : db.WellFormed)
    (issues : db.IssuesFormed)
    (upserts : Upserts env (.pipeline jobId relPath written raw now) jobId relPath) :
    ∃ seen, seen.docStatus = .active ∧ seen.texts.length = 1 ∧
      seen.columns.relativePath = relPath ∧
      (∀ other, (indexPipelineReport env jobId relPath written raw now db).view other =
        if other = jobId then some seen else db.view other) ∧
      (indexPipelineReport env jobId relPath written raw now db).WellFormed ∧
      (indexPipelineReport env jobId relPath written raw now db).IssuesFormed ∧
      ∃ parsed, decodeReportBytes env.toReaderEnv raw = .ok parsed ∧ parsed.analysisId = jobId := by
  obtain ⟨_, _, _, parsed, ⟨⟩, verified, decoded, accepted, bindable⟩ := upserts
  have named := EntryColumns.accepted_named accepted
  have stores : indexPipelineReport env jobId relPath written raw now db =
      db.upserted (indexColumns parsed jobId relPath (env.sha256 written) (some written.length) .pipeline)
        (ftsRowValues env.unicode (indexColumns parsed jobId relPath (env.sha256 written)
          (some written.length) .pipeline) (bodyTexts parsed)) now :=
    indexPipelineReport_upserted formed verified decoded accepted bindable
  rw [stores]
  refine ⟨⟨indexColumns parsed jobId relPath (env.sha256 written) (some written.length) .pipeline,
    .active, [_]⟩, rfl, rfl, rfl, fun other => formed.view_upserted named _ now other,
    formed.upserted named bindable now, issues.of_issues (IndexDb.upserted_issues _ _ _ _).1
      (IndexDb.upserted_nextIssueId _ _ _ _), parsed, decoded, named⟩

theorem safe_pipeline {upserted : Text → Text → Prop} {written raw : Bytes} {now : Time}
    (safe : RunSafe env upserted world)
    (there : world.disk.dir.find relPath = some (.bytes raw))
    (inTime : InTime env world (.pipeline jobId relPath written raw now)) :
    RunSafe env
      (fun other path => upserted other path ∨
        (Upserts env (.pipeline jobId relPath written raw now) other path ∧
          isCollected env.unicode path = true))
      (runEvent env purge world (.pipeline jobId relPath written raw now)) := by
  unfold runEvent
  dsimp only
  by_cases idle : ∀ jobId' relPath', ¬ Upserts env (.pipeline jobId relPath written raw now) jobId' relPath'
  · rw [indexPipelineReport_idle safe.formed idle]
    refine ⟨safe.formed, safe.issues, safe.follows, ?_⟩
    intro other path old
    cases old with
    | inl old => exact safe.survives other path old
    | inr new => exact absurd new.1 (idle other path)
  · push Not at idle
    obtain ⟨_, _, upserts⟩ := idle
    have own := upserts
    obtain ⟨_, _, _, _, ⟨⟩, -⟩ := own
    obtain ⟨seen, active, single, path, views, formed, issues, parsed, decoded, named⟩ :=
      upserts_view safe.formed safe.issues upserts
    have searchable : Searchable (indexPipelineReport env jobId relPath written raw now world.db) jobId :=
      ⟨seen, by rw [views, if_pos rfl], active, single⟩
    have carries : isCollected env.unicode relPath = true → Carries env world.disk relPath raw parsed :=
      fun collected => ⟨mem_collect_find.2 ⟨collected, _, there⟩, there, decoded⟩
    -- The file of the upsert wins its id, as long as the absence pass is to come.
    have wins : isCollected env.unicode relPath = true → world.phase.pending = true →
        IsWinner env world.disk relPath raw parsed := by
      intro collected pending
      refine ⟨carries collected, ?_⟩
      intro rel other otherParsed carried same
      exact ((inTime pending).least rel other otherParsed carried (same.trans named)).2
    refine ⟨formed, issues, safe.follows, ?_⟩
    intro other otherPath old
    cases old with
    | inl old =>
      have survives := safe.survives other otherPath old
      by_cases same : other = jobId
      · rw [same] at survives ⊢
        refine ⟨searchable, ?_⟩
        intro pending
        obtain ⟨⟨oldRaw, oldParsed, oldWins, oldNamed⟩, listed, -⟩ := survives.awaits pending
        obtain ⟨collected, below⟩ :=
          (inTime pending).least otherPath oldRaw oldParsed oldWins.1 oldNamed
        have above := oldWins.2 relPath raw parsed (carries collected) (named.trans oldNamed.symm)
        refine ⟨⟨oldRaw, oldParsed, oldWins, oldNamed⟩, listed, ?_⟩
        intro view known
        rw [Option.mem_def, views, if_pos rfl] at known
        cases known
        rw [path, le_antisymm below above]
      · exact survives.same (by rw [views, if_neg same])
    | inr new =>
      obtain ⟨⟨_, _, _, _, ⟨⟩, -⟩, collected⟩ := new
      refine ⟨searchable, ?_⟩
      intro pending
      refine ⟨⟨raw, parsed, wins collected pending, named⟩, (inTime pending).listed collected, ?_⟩
      intro view known
      rw [Option.mem_def, views, if_pos rfl] at known
      cases known
      exact path

/-! ## The steps of the run -/

/-- Reconciling leaves an awaited document active, at its path. -/
theorem searchable_files {now : Time} {progress next : Progress} {rels left : List Text}
    {db after : IndexDb} {disk : Disk} {raw : Bytes} {parsed : ParsedReport}
    (follow : ClaimsFollow env disk progress) (formed : db.WellFormed) (issues : db.IssuesFormed)
    (sorted : (progress.scanned ++ (rels ++ left)).Pairwise (· ≤ ·))
    (there : ∀ rel ∈ progress.scanned ++ (rels ++ left), rel ∈ collect env.unicode disk.dir)
    (wins : IsWinner env disk relPath raw parsed)
    (mem : relPath ∈ progress.scanned ++ (rels ++ left))
    (stored : ∃ seen, db.view parsed.analysisId = some seen ∧ seen.docStatus = .active ∧
      seen.texts.length = 1 ∧ seen.columns.relativePath = relPath)
    (ran : (reconcileFiles env now progress (rels.map (outcomeOf env disk))).run db =
      (.ok next, after)) :
    ∃ seen, after.view parsed.analysisId = some seen ∧ seen.docStatus = .active ∧
      seen.texts.length = 1 ∧ seen.columns.relativePath = relPath := by
  induction rels generalizing progress db with
  | nil =>
    cases ran
    exact stored
  | cons rel rels ih =>
    obtain ⟨middle, middleDb, first, rest⟩ := Script.bind_returned ran
    obtain ⟨formedMiddle, issuesMiddle, effect⟩ := reconcileFile_effect formed issues first
    have scanned := (reconcileFile_step first).scanned_eq
    rw [outcomeOf_relPath] at scanned
    have same : middle.scanned ++ (rels ++ left) = progress.scanned ++ (rel :: rels ++ left) := by
      rw [scanned, List.append_assoc]
      rfl
    refine ih (follow.file scanned effect) formedMiddle issuesMiddle (same ▸ sorted)
      (fun other found => there other (same ▸ found)) (same ▸ mem) ?_ rest
    obtain ⟨seen, known, active, single, path⟩ := stored
    cases effect with
    | quiet claims unchanged taken => exact ⟨seen, by rw [unchanged.view]; exact known, active, single, path⟩
    | kept data read found free claims unchanged =>
      exact ⟨seen, by rw [unchanged.view]; exact known, active, single, path⟩
    | stored data read found free claims indexable views =>
      by_cases own : parsed.analysisId = read.analysisId
      · rw [views, if_pos own]
        refine ⟨_, rfl, rfl, rfl, ?_⟩
        change (outcomeOf env disk rel).relPath = relPath
        rw [outcomeOf_relPath]
        have here : rel ∈ progress.scanned ++ (rel :: rels ++ left) := by simp
        have carried : (outcomeOf env disk rel).carries parsed.analysisId = true := by
          unfold FileOutcome.carries
          rw [found, own]
          exact decide_eq_true rfl
        obtain ⟨otherRaw, otherParsed, carries, named⟩ := carries_of_outcome (there rel here) carried
        have above := wins.2 rel otherRaw otherParsed carries named
        -- The winner is still to come, so it does not lie before this file either.
        have ahead : relPath ∈ rel :: rels ++ left := by
          cases List.mem_append.1 mem with
          | inr ahead => exact ahead
          | inl behind =>
            rw [← own] at free
            obtain ⟨winner, won⟩ := winnerOf_isSome
              (List.mem_map_of_mem (f := outcomeOf env disk) behind) (outcome_of_carries wins.1)
            rw [follow.free free] at won
            cases won
        have order := (List.pairwise_append.1 sorted).2.1
        cases List.mem_cons.1 ahead with
        | inl same => exact same.symm
        | inr later => exact le_antisymm (List.rel_of_pairwise_cons order later) above
      · exact ⟨seen, by rw [views, if_neg own]; exact known, active, single, path⟩

/-- A step that leaves the document alone, once the absence pass is over or will not come. -/
theorem outlives_ended {disk : Disk} {db after : IndexDb} {phase next : RunPhase}
    {findings found : List (FileOutcome × Time)}
    (survives : OutlivesRun env ⟨disk, db, phase, findings⟩ jobId relPath)
    (same : after.view jobId = db.view jobId) (ended : next.pending = false) :
    OutlivesRun env ⟨disk, after, next, found⟩ jobId relPath := by
  obtain ⟨⟨seen, known, active⟩, -⟩ := survives
  refine ⟨⟨seen, same.trans known, active⟩, ?_⟩
  intro pending
  rw [show next.pending = true from pending] at ended
  cases ended

/-- A step that leaves the document alone, and takes the list or leaves it alone too. -/
theorem outlives_listed {disk : Disk} {db after : IndexDb} {phase next : RunPhase}
    {findings found : List (FileOutcome × Time)}
    (survives : OutlivesRun env ⟨disk, db, phase, findings⟩ jobId relPath)
    (same : after.view jobId = db.view jobId) (before : phase.pending = true)
    (lists : ∀ files, next.listed = some files →
      phase.listed = some files ∨ files = collect env.unicode disk.dir) :
    OutlivesRun env ⟨disk, after, next, found⟩ jobId relPath := by
  obtain ⟨⟨seen, known, active⟩, awaits⟩ := survives
  refine ⟨⟨seen, same.trans known, active⟩, ?_⟩
  intro _
  obtain ⟨⟨raw, parsed, wins, named⟩, listed, path⟩ := awaits before
  refine ⟨⟨raw, parsed, wins, named⟩, ?_, ?_⟩
  · intro files taken
    cases lists files taken with
    | inl same => exact listed files same
    | inr whole =>
      rw [whole]
      exact wins.1.1
  · intro other view
    exact path other (same.symm.trans view)

section

variable {upserted : Text → Text → Prop} {disk : Disk} {db : IndexDb}
  {findings : List (FileOutcome × Time)} {progress : Progress}

theorem outlives_scan {left : List (List Text)} (now : Time)
    (survives : OutlivesRun env ⟨disk, db, .scan progress left, findings⟩ jobId relPath) :
    OutlivesRun env (runEvent env purge ⟨disk, db, .scan progress left, findings⟩ (.step now)) jobId
      relPath := by
  unfold runEvent
  dsimp only
  cases left with
  | nil =>
    apply outlives_listed survives rfl rfl
    intro files taken
    left
    rw [← taken]
    exact congrArg some (List.append_nil _)
  | cons rels left =>
    unfold phaseStep
    dsimp only
    cases scanned : scanFiles env disk rels with
    | error raised => exact outlives_ended survives rfl rfl
    | ok outcomes =>
      obtain ⟨-, rfl⟩ := scanFiles_ok.1 scanned
      apply outlives_listed survives rfl rfl
      intro files taken
      left
      rw [← taken]
      change some (progress.scanned ++ (rels ++ left.flatten)) = some (progress.scanned ++
        ((rels.map (outcomeOf env disk)).map (·.relPath) ++ left.flatten))
      rw [map_outcomeOf_relPath]

/-- An awaited document is on the list, and is stored again at its path. -/
theorem outlives_reconcile {outcomes : List FileOutcome} {left : List (List Text)} (now : Time)
    (safe : RunSafe env upserted ⟨disk, db, .reconcile progress outcomes left, findings⟩)
    (survives : OutlivesRun env ⟨disk, db, .reconcile progress outcomes left, findings⟩ jobId
      relPath) :
    OutlivesRun env
      (runEvent env purge ⟨disk, db, .reconcile progress outcomes left, findings⟩ (.step now)) jobId
      relPath := by
  have follows := safe.follows
  unfold runEvent
  dsimp only at follows ⊢
  obtain ⟨follow, read⟩ := follows.knows
  unfold phaseStep
  dsimp only
  cases ran : (reconcileFiles env now progress outcomes).transaction db with
  | mk result after =>
    cases result with
    | error raised =>
      rw [Script.transaction_raised ran]
      exact outlives_ended survives rfl rfl
    | ok next =>
      have returned := Script.transaction_returned.1 ran
      rw [read] at returned
      obtain ⟨⟨seen, known, active, single⟩, awaits⟩ := survives
      obtain ⟨⟨raw, parsed, wins, named⟩, listed, path⟩ := awaits rfl
      have stored : ∃ seen, db.view parsed.analysisId = some seen ∧ seen.docStatus = .active ∧
          seen.texts.length = 1 ∧ seen.columns.relativePath = relPath := by
        rw [named]
        exact ⟨seen, known, active, single, path seen known⟩
      obtain ⟨later, knownLater, activeLater, singleLater, pathLater⟩ := searchable_files follow
        safe.formed safe.issues (follows.sorted _ rfl) (follows.there _ rfl) wins
        (listed _ rfl) stored returned
      rw [named] at knownLater
      have scanned := (follow.files safe.formed safe.issues returned).2.1
      refine ⟨⟨later, knownLater, activeLater, singleLater⟩, ?_⟩
      intro _
      refine ⟨⟨raw, parsed, wins, named⟩, ?_, ?_⟩
      · intro files taken
        apply listed files
        change some (next.scanned ++ left.flatten) = some files at taken
        change some (progress.scanned ++ (outcomes.map (·.relPath) ++ left.flatten)) = some files
        rw [← taken, scanned, List.append_assoc]
      · intro other view
        rw [Option.mem_def, knownLater] at view
        cases view
        exact pathLater

/-- The pass keeps a document whose claim is the path it is stored with. -/
theorem outlives_absence (now : Time)
    (safe : RunSafe env upserted ⟨disk, db, .absence progress, findings⟩)
    (survives : OutlivesRun env ⟨disk, db, .absence progress, findings⟩ jobId relPath) :
    OutlivesRun env (runEvent env purge ⟨disk, db, .absence progress, findings⟩ (.step now)) jobId
      relPath := by
  have follows := safe.follows
  unfold runEvent
  dsimp only at follows ⊢
  unfold phaseStep
  dsimp only
  cases ran : (markAbsent env progress purge now).transaction db with
  | mk result after =>
    cases result with
    | error raised =>
      rw [Script.transaction_raised ran]
      exact outlives_ended survives rfl rfl
    | ok counters =>
      obtain ⟨-, passed⟩ :=
        markAbsent_returned safe.formed safe.issues (Script.transaction_returned.1 ran)
      refine outlives_ended survives ?_ rfl
      obtain ⟨⟨seen, known, active, single⟩, awaits⟩ := survives
      obtain ⟨⟨raw, parsed, wins, named⟩, listed, path⟩ := awaits rfl
      have claimed := ClaimsFollow.least follows.knows (follows.sorted _ rfl)
        (follows.there _ rfl) (listed _ rfl) wins
      rw [named] at claimed
      rw [passed.views, known, Option.bind_some, absentView, claimed, path seen known, if_pos rfl]

end

theorem safe_step {upserted : Text → Text → Prop} (safe : RunSafe env upserted world) (now : Time) :
    RunSafe env upserted (runEvent env purge world (.step now)) := by
  obtain ⟨formed, issues⟩ := @phaseStep_formed env world.disk world.phase purge now world.db
    safe.formed safe.issues safe.follows.knows
  refine ⟨formed, issues, phaseStep_follows safe.formed safe.issues safe.follows, ?_⟩
  intro jobId relPath old
  have survives := safe.survives jobId relPath old
  obtain ⟨disk, db, phase, findings⟩ := world
  cases phase with
  | begin =>
    unfold runEvent phaseStep
    dsimp only
    split
    · exact outlives_listed survives rfl rfl fun files taken => nomatch taken
    · exact outlives_ended survives rfl rfl
  | collect =>
    apply outlives_listed survives rfl rfl
    intro files taken
    right
    change some ([] ++ (chunks (collect env.unicode disk.dir)).flatten) = some files at taken
    rw [chunks_flatten, List.nil_append] at taken
    exact (Option.some.inj taken).symm
  | scan progress left => exact outlives_scan now survives
  | reconcile progress outcomes left => exact outlives_reconcile now safe survives
  | recheck progress =>
    unfold runEvent phaseStep
    dsimp only
    split
    · exact outlives_listed survives rfl rfl fun files taken => .inl taken
    · exact outlives_ended survives rfl rfl
  | absence progress => exact outlives_absence now safe survives
  | verify counters => exact outlives_ended survives rfl rfl
  | finish counters consistent => exact outlives_ended survives rfl rfl
  | parking raised => exact outlives_ended survives rfl rfl
  | done counters consistent => exact outlives_ended survives rfl rfl
  | failed raised => exact outlives_ended survives rfl rfl

/-! ## All runs -/

/-- Every event keeps the upserted documents safe, its own included. -/
theorem safe_event {upserted : Text → Text → Prop} {event : RunEvent}
    (safe : RunSafe env upserted world) (completing : Completing env world event)
    (inTime : InTime env world event) :
    RunSafe env
      (fun jobId relPath => upserted jobId relPath ∨
        (Upserts env event jobId relPath ∧ isCollected env.unicode relPath = true))
      (runEvent env purge world event) := by
  have others : ∀ {after : RunWorld}, (∀ jobId relPath, ¬ Upserts env event jobId relPath) →
      RunSafe env upserted after → RunSafe env
        (fun jobId relPath => upserted jobId relPath ∨
          (Upserts env event jobId relPath ∧ isCollected env.unicode relPath = true)) after := by
    intro after none kept
    refine ⟨kept.formed, kept.issues, kept.follows, ?_⟩
    intro jobId relPath known
    cases known with
    | inl old => exact kept.survives jobId relPath old
    | inr new => exact absurd new.1 (none jobId relPath)
  cases event with
  | edit disk =>
    apply others
    · rintro jobId relPath ⟨_, _, _, _, ⟨⟩, -⟩
    · have grows := grows_of_writes completing
      refine ⟨safe.formed, safe.issues, safe.follows.grown grows, ?_⟩
      intro jobId relPath old
      exact outlives_write completing (safe.survives jobId relPath old)
  | pipeline jobId relPath written raw now => exact safe_pipeline safe completing inTime
  | stale jobId now => cases completing
  | step now =>
    apply others
    · rintro jobId relPath ⟨_, _, _, _, ⟨⟩, -⟩
    · exact safe_step safe now

theorem safe_run {upserted : Text → Text → Prop} {events : List RunEvent}
    (safe : RunSafe env upserted world)
    (meets : Meets (runEvent env purge)
      (fun world event => Completing env world event ∧ InTime env world event) world events) :
    RunSafe env
      (fun jobId relPath => upserted jobId relPath ∨ ∃ event ∈ events,
        Upserts env event jobId relPath ∧ isCollected env.unicode relPath = true)
      (run (runEvent env purge) world events) := by
  induction events generalizing world upserted with
  | nil =>
    refine ⟨safe.formed, safe.issues, safe.follows, ?_⟩
    intro jobId relPath known
    cases known with
    | inl old => exact safe.survives jobId relPath old
    | inr new =>
      obtain ⟨event, mem, -⟩ := new
      cases mem
  | cons event events ih =>
    obtain ⟨⟨completing, inTime⟩, rest⟩ := meets
    have later := ih (safe_event safe completing inTime) rest
    refine ⟨later.formed, later.issues, later.follows, ?_⟩
    intro jobId relPath known
    apply later.survives jobId relPath
    cases known with
    | inl old => exact .inl (.inl old)
    | inr new =>
      obtain ⟨other, mem, upserts⟩ := new
      cases List.mem_cons.1 mem with
      | inl same =>
        rw [same] at upserts
        exact .inl (.inr upserts)
      | inr rest => exact .inr ⟨other, rest, upserts⟩

end

/-- Every report the pipeline has indexed, in a file the rescan would enumerate, can be found. -/
def KeepsUpserted (env : ReportEnv) (events : List RunEvent) (db : IndexDb) : Prop :=
  ∀ event ∈ events, ∀ jobId relPath, Upserts env event jobId relPath →
    isCollected env.unicode relPath = true → Searchable db jobId

/-- A run among completions of the pipeline takes away no report that is indexed in time. -/
theorem upserted_reports_stay (env : ReportEnv) (purge : Bool) {disk : Disk} {before : IndexDb}
    (formed : before.WellFormed) (issues : before.IssuesFormed) {events : List RunEvent}
    (meets : Meets (runEvent env purge)
      (fun world event => Completing env world event ∧ InTime env world event)
      ⟨disk, before, .begin, []⟩ events) :
    KeepsUpserted env events (run (runEvent env purge) ⟨disk, before, .begin, []⟩ events).db := by
  have begins : RunSafe env (fun _ _ => False) ⟨disk, before, .begin, []⟩ :=
    ⟨formed, issues, .unlisted rfl trivial, fun _ _ none => none.elim⟩
  have safe := safe_run begins meets
  intro event mem jobId relPath upserts collected
  exact (safe.survives jobId relPath (.inr ⟨event, mem, upserts, collected⟩)).searchable

/-! ## A report before the list is taken, and one after -/

/-- The report's file is written, and the report indexed. -/
def completion (report : PipelineReport) : List RunEvent :=
  [.edit { emptyDisk with dir := emptyDisk.dir.put report.path (.bytes report.data) },
    .pipeline report.jobId report.path report.data report.data 5]

theorem completion_upserts {env : ReportEnv} {report : PipelineReport}
    (passes : PassesPipeline env report) : Upserts env
      (.pipeline report.jobId report.path report.data report.data 5) report.jobId report.path :=
  ⟨_, _, _, report.parsed, rfl, rfl, passes.decoded, passes.accepted, passes.bindable⟩

theorem collect_emptyDisk (unicode : UnicodeData) : collect unicode emptyDisk.dir = [] := by
  rw [List.eq_nil_iff_forall_not_mem]
  intro rel mem
  obtain ⟨-, content, stored⟩ := mem_collect.1 mem
  cases stored

theorem emptyDisk_writes (env : ReportEnv) (report : PipelineReport) : WritesReport env emptyDisk
    { emptyDisk with dir := emptyDisk.dir.put report.path (.bytes report.data) } := by
  refine ⟨report.path, report.data, rfl, rfl, ?_⟩
  intro parsed _ rel raw other carries
  have mem := carries.1
  rw [collect_emptyDisk] at mem
  cases mem

theorem put_find (report : PipelineReport) :
    (emptyDisk.dir.put report.path (.bytes report.data)).find report.path =
      some (.bytes report.data) := by
  rw [Directory.find_put, if_pos rfl]

/-- The report is written and indexed before the list is taken. -/
theorem upserted_reports_stay_early : ∃ parsed, KeepsUpserted reportEnv
    (completion (titled "T" parsed) ++ List.replicate 9 (.step 1))
    (run (runEvent reportEnv true) ⟨emptyDisk, {}, .begin, []⟩
      (completion (titled "T" parsed) ++ List.replicate 9 (.step 1))).db := by
  obtain ⟨parsed, passes⟩ := plain_passes
  use parsed
  have plain : ¬ StartsDotted (titled "T" parsed).title := by
    change ¬ StartsDotted (text "T")
    decide
  have collected := collected_of_passes passes plain
  generalize titled "T" parsed = report at passes collected
  have onTheList : OnTheList reportEnv
      { emptyDisk with dir := emptyDisk.dir.put report.path (.bytes report.data) } .begin
      report.jobId report.path := by
    constructor
    · intro _ files taken
      cases taken
    · intro rel raw other carries _
      have file := Directory.mem_put.1 (Directory.mem_of_find carries.2.1)
      cases file with
      | inl old => cases old.1
      | inr new =>
        cases new
        exact ⟨collected, le_refl _⟩
  apply upserted_reports_stay reportEnv true IndexDb.wellFormed_empty IndexDb.issuesFormed_empty
  exact ⟨⟨emptyDisk_writes reportEnv report, trivial⟩, ⟨put_find report, fun _ => onTheList⟩,
    ⟨trivial, trivial⟩, ⟨trivial, trivial⟩, ⟨trivial, trivial⟩, ⟨trivial, trivial⟩,
    ⟨trivial, trivial⟩, ⟨trivial, trivial⟩, ⟨trivial, trivial⟩, ⟨trivial, trivial⟩,
    ⟨trivial, trivial⟩, trivial⟩

/-- The absence pass deletes a document whose id it has no claim for, and whose file it has not
scanned. -/
theorem absence_purges {env : ReportEnv} {disk : Disk} {db : IndexDb} {jobId : Text} {now : Time}
    (room : 0 < env.maxVariables) (formed : db.WellFormed) (issues : db.IssuesFormed) :
    ∃ counters, (phaseStep env true now disk db (.absence {})).1 = .verify counters ∧
      ¬ Searchable (phaseStep env true now disk db (.absence {})).2 jobId := by
  have binds : BindsPaths env.maxVariables [] db :=
    ⟨Nat.zero_le _, fun _ _ _ _ => room, fun t mem => nomatch mem⟩
  obtain ⟨counted, after, returned, passed⟩ :=
    (markAbsent_run formed issues env {} true now).1 binds
  unfold phaseStep
  dsimp only
  rw [Script.transaction_returned.2 returned]
  refine ⟨counted, rfl, ?_⟩
  intro searchable
  obtain ⟨seen, known, -⟩ := searchable
  rw [passed.views] at known
  obtain ⟨old, -, left⟩ := Option.bind_eq_some_iff.1 known
  cases left

/-- Two steps of the run, the completion, and the steps that are left. -/
def lateEvents (report : PipelineReport) : List RunEvent :=
  [.step 1, .step 1] ++ (completion report ++ List.replicate 5 (.step 1))

/-- The list of the run is empty when the report comes. -/
theorem listed_empty : ∃ db, db.WellFormed ∧ db.IssuesFormed ∧
    run (runEvent reportEnv true) ⟨emptyDisk, {}, .begin, []⟩ [.step 1, .step 1] =
      ⟨emptyDisk, db, .scan {} [], []⟩ := by
  refine ⟨((setIndexState .running 1 none).transaction {}).2, ?_, ?_, ?_⟩
  · exact (show IndexDb.SameIndex {} ((setIndexState .running 1 none).transaction {}).2 from
      ⟨rfl, rfl, rfl⟩).wellFormed IndexDb.wellFormed_empty
  · exact IndexDb.issuesFormed_empty.of_issues rfl rfl
  · change (⟨emptyDisk, _, .scan {} (chunks (collect reportEnv.unicode emptyDisk.dir)), []⟩ : RunWorld) = _
    rw [collect_emptyDisk]
    rfl

/-- Over such a list the run is done, and has deleted the document. -/
theorem completion_deleted {env : ReportEnv} {report : PipelineReport} {db : IndexDb}
    (room : 0 < env.maxVariables) (passes : PassesPipeline env report) (formed : db.WellFormed)
    (issues : db.IssuesFormed) :
    (∃ counters consistent, (run (runEvent env true) ⟨emptyDisk, db, .scan {} [], []⟩
      (completion report ++ List.replicate 5 (.step 1))).phase = .done counters consistent) ∧
    ¬ Searchable (run (runEvent env true) ⟨emptyDisk, db, .scan {} [], []⟩
      (completion report ++ List.replicate 5 (.step 1))).db report.jobId := by
  obtain ⟨-, -, -, -, -, formedNext, issuesNext, -⟩ :=
    upserts_view formed issues (completion_upserts passes)
  let later : Disk :=
    { emptyDisk with dir := emptyDisk.dir.put report.path (.bytes report.data) }
  obtain ⟨counters, verifies, deleted⟩ :=
    @absence_purges env later _ report.jobId 1 room formedNext issuesNext
  generalize passed : phaseStep env true 1 later (indexPipelineReport env report.jobId report.path
    report.data report.data 5 db) (.absence {}) = next at verifies deleted
  have ends : run (runEvent env true) ⟨emptyDisk, db, .scan {} [], []⟩
      (completion report ++ List.replicate 5 (.step 1)) =
      run (runEvent env true) ⟨later, next.2, next.1, []⟩ [.step 1, .step 1] := by
    rw [← passed]
    rfl
  rw [ends, verifies]
  constructor
  · exact ⟨_, _, rfl⟩
  · exact deleted

/-- The report is written and indexed once the list is taken; the run deletes its document. -/
theorem late_report_is_deleted : ∃ parsed,
    Meets (runEvent reportEnv true) (Completing reportEnv) ⟨emptyDisk, {}, .begin, []⟩
      (lateEvents (titled "T" parsed)) ∧
    (∃ counters consistent, (run (runEvent reportEnv true) ⟨emptyDisk, {}, .begin, []⟩
      (lateEvents (titled "T" parsed))).phase = .done counters consistent) ∧
    ¬ KeepsUpserted reportEnv (lateEvents (titled "T" parsed))
      (run (runEvent reportEnv true) ⟨emptyDisk, {}, .begin, []⟩
        (lateEvents (titled "T" parsed))).db := by
  obtain ⟨parsed, passes⟩ := plain_passes
  use parsed
  have plain : ¬ StartsDotted (titled "T" parsed).title := by
    change ¬ StartsDotted (text "T")
    decide
  have collected := collected_of_passes passes plain
  generalize titled "T" parsed = report at passes collected
  obtain ⟨db, formed, issues, listed⟩ := listed_empty
  obtain ⟨done, deleted⟩ := completion_deleted (by decide) passes formed issues
  have same : run (runEvent reportEnv true) ⟨emptyDisk, {}, .begin, []⟩ (lateEvents report) =
      run (runEvent reportEnv true) ⟨emptyDisk, db, .scan {} [], []⟩
        (completion report ++ List.replicate 5 (.step 1)) := by
    rw [lateEvents, run_append, listed]
  refine ⟨?_, ?_, ?_⟩
  · exact ⟨trivial, trivial, emptyDisk_writes reportEnv report, put_find report, trivial, trivial,
      trivial, trivial, trivial, trivial⟩
  · rw [same]
    exact done
  · rw [same]
    intro keeps
    apply deleted
    apply keeps _ _ report.jobId report.path (completion_upserts passes) collected
    simp [lateEvents, completion]

end EvoBlue.Guarantees
