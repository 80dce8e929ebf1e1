import EvoBlue.Source.IndexHistory

/-!
# What every history keeps

Each event of a history leaves every document the projection of a content that was in the
directory or written by the pipeline, as long as the digests of these contents differ.
-/

namespace EvoBlue.Source

open EvoBlue.Kernel

variable {env : ReportEnv} {contents : Set Bytes}

/-! ## A rescan -/

theorem projects_rescan {rel : Text} {raw : Bytes} {parsed : ParsedReport} (mem : raw ∈ contents)
    (decoded : decodeReportBytes env.toReaderEnv raw = .ok parsed) :
    Projects env contents parsed.analysisId
      ⟨rescanColumns env rel raw parsed, .active, [rescanTexts env rel raw parsed]⟩ :=
  ⟨rel, raw, parsed, .rebuild, mem, decoded, rfl, rfl, fun _ => rfl⟩

theorem reconcileFile_projected {db after : IndexDb} {now : Time} {progress next : Progress}
    {outcome : FileOutcome} (projected : Projected env contents db)
    (reads : ∀ raw parsed, outcome.result = .readable raw parsed →
      raw ∈ contents ∧ decodeReportBytes env.toReaderEnv raw = .ok parsed)
    (ran : (reconcileFile env now progress outcome).run db = (.ok next, after)) :
    Projected env contents after := by
  obtain ⟨formed, issues, effect⟩ :=
    reconcileFile_effect projected.formed projected.issues ran
  cases effect with
  | quiet claims same taken => exact projected.same same issues
  | kept raw parsed read free claims same unchanged => exact projected.same same issues
  | stored raw parsed read free claims indexable views =>
    obtain ⟨mem, decoded⟩ := reads raw parsed read
    refine ⟨formed, issues, ?_⟩
    intro jobId seen known
    rw [views] at known
    by_cases own : jobId = parsed.analysisId
    · rw [if_pos own] at known
      cases known
      rw [own]
      exact projects_rescan mem decoded
    · rw [if_neg own] at known
      exact projected.views jobId seen known

theorem reconcileFiles_projected {db after : IndexDb} {now : Time} {progress next : Progress}
    {outcomes : List FileOutcome} (projected : Projected env contents db)
    (reads : ReadsContents env contents outcomes)
    (ran : (reconcileFiles env now progress outcomes).run db = (.ok next, after)) :
    Projected env contents after := by
  induction outcomes generalizing db progress with
  | nil =>
    cases ran
    exact projected
  | cons outcome outcomes ih =>
    obtain ⟨middleProgress, middle, first, rest⟩ := Script.bind_returned ran
    have kept := reconcileFile_projected projected (reads outcome List.mem_cons_self) first
    exact ih kept (fun other mem => reads other (List.mem_cons_of_mem _ mem)) rest

theorem markAbsent_projected {db after : IndexDb} {now : Time} {progress : Progress} {purge : Bool}
    {counters : Counters} (projected : Projected env contents db)
    (ran : (markAbsent env progress purge now).run db = (.ok counters, after)) :
    Projected env contents after := by
  obtain ⟨-, passed⟩ := markAbsent_returned projected.formed projected.issues ran
  refine ⟨passed.formed, passed.issues, ?_⟩
  intro jobId seen known
  rw [passed.views] at known
  obtain ⟨old, stored, left⟩ := Option.bind_eq_some_iff.1 known
  have projects := projected.views jobId old stored
  unfold absentView at left
  split at left
  · cases left
    exact projects
  · split at left
    · cases left
    · cases left
      exact projects.missing

/-- Only the status and the counters of the run differ. -/
theorem Projected.restated {db : IndexDb} (projected : Projected env contents db)
    (status : IndexStatus) : Projected env contents { db with status } :=
  projected.same ⟨rfl, rfl, rfl⟩ (projected.issues.of_issues rfl rfl)

theorem phaseStep_kept {purge : Bool} {now : Time} {disk : Disk} {db : IndexDb} {phase : RunPhase}
    (within : disk.Within contents) (projected : Projected env contents db)
    (reads : PhaseReads env contents phase) :
    Projected env contents (phaseStep env purge now disk db phase).2 ∧
      PhaseReads env contents (phaseStep env purge now disk db phase).1 := by
  cases phase with
  | begin =>
    unfold phaseStep
    dsimp only
    split
    · exact ⟨projected.restated _, trivial⟩
    · exact ⟨projected, trivial⟩
  | collect => exact ⟨projected, trivial⟩
  | scan progress left =>
    cases left with
    | nil => exact ⟨projected, trivial⟩
    | cons rels left =>
      unfold phaseStep
      dsimp only
      cases scanned : scanFiles env disk rels with
      | error raised => exact ⟨projected, trivial⟩
      | ok outcomes =>
        refine ⟨projected, ?_⟩
        obtain ⟨-, same⟩ := scanFiles_ok.1 scanned
        intro outcome mem raw parsed read
        rw [same] at mem
        obtain ⟨rel, -, rfl⟩ := List.mem_map.1 mem
        have whole : outcomeOf env disk rel = ⟨rel, .readable raw parsed⟩ := by
          have path := outcomeOf_relPath env disk rel
          cases found : outcomeOf env disk rel with
          | mk relPath result =>
            rw [found] at path read
            rw [show relPath = rel from path, show result = _ from read]
        obtain ⟨found, decoded⟩ := outcomeOf_readable.1 whole
        exact ⟨within rel raw found, decoded⟩
  | reconcile progress outcomes left =>
    unfold phaseStep
    dsimp only
    cases ran : (reconcileFiles env now progress outcomes).transaction db with
    | mk result after =>
      cases result with
      | error raised =>
        rw [Script.transaction_raised ran]
        exact ⟨projected, trivial⟩
      | ok next =>
        exact ⟨reconcileFiles_projected projected reads (Script.transaction_returned.1 ran), trivial⟩
  | recheck progress =>
    unfold phaseStep
    dsimp only
    split <;> exact ⟨projected, trivial⟩
  | absence progress =>
    unfold phaseStep
    dsimp only
    cases ran : (markAbsent env progress purge now).transaction db with
    | mk result after =>
      cases result with
      | error raised =>
        rw [Script.transaction_raised ran]
        exact ⟨projected, trivial⟩
      | ok counters =>
        exact ⟨markAbsent_projected projected (Script.transaction_returned.1 ran), trivial⟩
  | verify counters => exact ⟨projected, trivial⟩
  | finish counters consistent => exact ⟨projected.restated _, trivial⟩
  | parking raised => exact ⟨projected.restated _, trivial⟩
  | done counters consistent => exact ⟨projected, trivial⟩
  | failed raised => exact ⟨projected, trivial⟩

/-! ## The pipeline and the reader -/

/-- The upsert of a report that verifies, is read and is accepted. -/
theorem indexPipelineReport_upserted {jobId relPath : Text} {written raw : Bytes} {now : Time}
    {db : IndexDb} {parsed : ParsedReport} (formed : db.WellFormed)
    (verified : env.sha256 raw = env.sha256 written)
    (decoded : decodeReportBytes env.toReaderEnv raw = .ok parsed)
    (accepted : (indexColumns parsed jobId relPath (env.sha256 written) (some written.length)
      .pipeline).accepted env.unicode = true)
    (bindable : Bindable env.unicode (indexColumns parsed jobId relPath (env.sha256 written)
      (some written.length) .pipeline) (bodyTexts parsed)) :
    indexPipelineReport env jobId relPath written raw now db =
      db.upserted (indexColumns parsed jobId relPath (env.sha256 written) (some written.length)
          .pipeline)
        (ftsRowValues env.unicode (indexColumns parsed jobId relPath (env.sha256 written)
          (some written.length) .pipeline) (bodyTexts parsed)) now := by
  have indexed := (indexReport_run formed (indexColumns parsed jobId relPath (env.sha256 written)
    (some written.length) .pipeline) (bodyTexts parsed) now).1 ⟨accepted, bindable⟩
  rw [indexPipelineReport, if_pos verified, decoded]
  exact congrArg Prod.snd (Script.transaction_returned.2 indexed)

/-- The pipeline's upsert, or nothing. -/
theorem indexPipelineReport_cases {jobId relPath : Text} {written raw : Bytes} {now : Time}
    {db : IndexDb} (formed : db.WellFormed) :
    indexPipelineReport env jobId relPath written raw now db = db ∨
      ∃ parsed, env.sha256 raw = env.sha256 written ∧
        decodeReportBytes env.toReaderEnv raw = .ok parsed ∧
        (indexColumns parsed jobId relPath (env.sha256 written) (some written.length)
          .pipeline).accepted env.unicode = true ∧
        Bindable env.unicode (indexColumns parsed jobId relPath (env.sha256 written)
          (some written.length) .pipeline) (bodyTexts parsed) ∧
        indexPipelineReport env jobId relPath written raw now db =
          db.upserted (indexColumns parsed jobId relPath (env.sha256 written)
              (some written.length) .pipeline)
            (ftsRowValues env.unicode (indexColumns parsed jobId relPath (env.sha256 written)
              (some written.length) .pipeline) (bodyTexts parsed)) now := by
  unfold indexPipelineReport
  by_cases verified : env.sha256 raw = env.sha256 written
  · rw [if_pos verified]
    cases decoded : decodeReportBytes env.toReaderEnv raw with
    | error raised => exact .inl rfl
    | ok parsed =>
      dsimp only
      by_cases fits : (indexColumns parsed jobId relPath (env.sha256 written)
          (some written.length) .pipeline).accepted env.unicode = true ∧
        Bindable env.unicode (indexColumns parsed jobId relPath (env.sha256 written)
          (some written.length) .pipeline) (bodyTexts parsed)
      · have stores := @indexPipelineReport_upserted env jobId relPath written raw now db parsed
          formed verified decoded fits.1 fits.2
        rw [indexPipelineReport, if_pos verified, decoded] at stores
        exact .inr ⟨parsed, verified, rfl, fits.1, fits.2, stores⟩
      · left
        obtain ⟨raised, after, error⟩ := (indexReport_run formed
          (indexColumns parsed jobId relPath (env.sha256 written) (some written.length) .pipeline)
          (bodyTexts parsed) now).2 fits
        unfold Script.transaction
        rw [error]
  · rw [if_neg verified]
    exact .inl rfl

theorem indexPipelineReport_projected (collisionFree : Set.InjOn env.sha256 contents)
    {jobId relPath : Text} {written raw : Bytes} {now : Time} {db : IndexDb}
    (mem : raw ∈ contents) (memWritten : written ∈ contents)
    (projected : Projected env contents db) :
    Projected env contents (indexPipelineReport env jobId relPath written raw now db) := by
  rcases @indexPipelineReport_cases env jobId relPath written raw now db projected.formed with
    same | ⟨parsed, verified, decoded, accepted, bindable, same⟩
  · rw [same]
    exact projected
  · have whole : raw = written := collisionFree mem memWritten verified
    have named := EntryColumns.accepted_named accepted
    rw [same]
    refine ⟨projected.formed.upserted named bindable now,
      projected.issues.of_issues (IndexDb.upserted_issues _ _ _ _).1
        (IndexDb.upserted_nextIssueId _ _ _ _), ?_⟩
    intro other seen known
    rw [projected.formed.view_upserted named] at known
    change (if other = jobId then _ else _) = some seen at known
    by_cases own : other = jobId
    · rw [if_pos own] at known
      cases known
      rw [own, ← whole]
      exact ⟨relPath, raw, parsed, .pipeline, mem, decoded, named, rfl, fun _ => rfl⟩
    · rw [if_neg own] at known
      exact projected.views other seen known

theorem markReportStale_projected {jobId : Text} {now : Time} {db : IndexDb}
    (projected : Projected env contents db) :
    Projected env contents ((markReportStale jobId now).transaction db).2 := by
  obtain ⟨changed, ran⟩ := markReportStale_run jobId now db
  by_cases encodable : Encodable jobId
  · rw [if_pos encodable] at ran
    rw [Script.transaction_returned.2 ran]
    obtain ⟨formed, views⟩ := projected.formed.markedStale jobId now
    have issues : (db.markedStale jobId now).issues = db.issues ∧
        (db.markedStale jobId now).nextIssueId = db.nextIssueId := by
      unfold IndexDb.markedStale
      split
      · exact ⟨rfl, rfl⟩
      · split <;> exact ⟨rfl, rfl⟩
    refine ⟨formed, projected.issues.of_issues issues.1 issues.2, ?_⟩
    · intro other seen known
      rw [views] at known
      by_cases own : other = jobId
      · rw [if_pos own] at known
        obtain ⟨old, stored, rfl⟩ := Option.map_eq_some_iff.1 known
        rw [own]
        exact (projected.views jobId old stored).stale
      · rw [if_neg own] at known
        exact projected.views other seen known
  · rw [if_neg encodable] at ran
    have same : ((markReportStale jobId now).transaction db).2 = db := by
      unfold Script.transaction
      rw [ran]
    rw [same]
    exact projected

/-! ## Histories -/

/-- Every event keeps the index a projection. -/
theorem historyKept_event (collisionFree : Set.InjOn env.sha256 contents) (world : IndexWorld)
    (event : IndexEvent) (within : event.Within contents world)
    (kept : HistoryKept env contents world) :
    HistoryKept env contents (indexEvent env world event) := by
  cases event with
  | edit disk => exact ⟨within, kept.projected, kept.phase⟩
  | pipeline jobId relPath written raw now =>
    exact ⟨kept.disk,
      indexPipelineReport_projected collisionFree within.2 within.1 kept.projected, kept.phase⟩
  | stale jobId now => exact ⟨kept.disk, markReportStale_projected kept.projected, kept.phase⟩
  | start purge =>
    unfold indexEvent
    dsimp only
    cases underway : world.rescan with
    | none =>
      refine ⟨kept.disk, kept.projected, ?_⟩
      intro _ phase same
      cases same
      trivial
    | some rescan => exact kept
  | step now =>
    unfold indexEvent
    dsimp only
    cases underway : world.rescan with
    | none => exact kept
    | some rescan =>
      obtain ⟨purge, phase⟩ := rescan
      obtain ⟨projected, reads⟩ := @phaseStep_kept env contents purge now world.disk world.db phase
        kept.disk kept.projected (kept.phase purge phase underway)
      refine ⟨kept.disk, projected, ?_⟩
      intro other last same
      dsimp only at same
      split at same
      · cases same
      · cases same
      · cases same
        exact reads
  | crash =>
    refine ⟨kept.disk, kept.projected, ?_⟩
    intro _ phase same
    cases same

theorem historyKept_run (collisionFree : Set.InjOn env.sha256 contents) {world : IndexWorld}
    {events : List IndexEvent} (begins : HistoryKept env contents world)
    (within : Meets (indexEvent env) (fun world event => event.Within contents world) world events) :
    HistoryKept env contents (run (indexEvent env) world events) :=
  run_of_meets (historyKept_event collisionFree) begins within

end EvoBlue.Source
