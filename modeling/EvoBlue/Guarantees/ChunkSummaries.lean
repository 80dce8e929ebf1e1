import EvoBlue.Guarantees.ArtifactTexts
import EvoBlue.Guarantees.StageArtifacts
import EvoBlue.Source.ChunkSummaries

/-!
# Summaries are complete, in order, and paid for once

The summaries a job commits are answers of the model to the prompts of its chunks, one
for each chunk and in their order, whatever crashes, lost leases, errors and retries came
between. A chunk whose checkpoint is stored is not sent to the model by any later run.
-/

namespace EvoBlue.Guarantees

open EvoBlue.Kernel EvoBlue.Source EvoBlue.Source.Pipeline

/-! ## What the model answered -/

/-- The event is the model's answer to the prompt of a chunk, given to a worker that
summarizes the job under this configuration. -/
def Tells (pipeline : Pipeline) (event : PipelineEvent)
    (jobId configFingerprint chunk summary : String) : Prop :=
  ∃ owner now outside job next snapshot,
    event = .answer owner now outside ∧
    pipeline.workers owner =
      some ⟨.handling job (.ask (.complete (summaryPrompt chunk)) next), snapshot⟩ ∧
    job.jobId = jobId ∧ job.configFingerprint = configFingerprint ∧
    job.status = .summarizingChunks ∧
    outside (.complete (summaryPrompt chunk)) = .ok summary

/-- The chunks with the summaries the model gave for them in the run so far. -/
def Told (config : PipelineConfig) (past : List PipelineEvent) (jobId configFingerprint : String) :
    Set (String × String) :=
  {fact | ∃ before event later, past = before ++ event :: later ∧
    Tells (after config before) event jobId configFingerprint fact.1 fact.2}

variable {config : PipelineConfig} {past : List PipelineEvent} {pipeline : Pipeline}

theorem told_mono (event : PipelineEvent) (jobId configFingerprint : String) :
    Told config past jobId configFingerprint ⊆ Told config (past ++ [event]) jobId configFingerprint := by
  rintro fact ⟨before, earlier, later, rfl, tells⟩
  refine ⟨before, earlier, later ++ [event], ?_, tells⟩
  rw [List.append_assoc, List.cons_append]

theorem told_now {event : PipelineEvent} {jobId configFingerprint chunk summary : String}
    (tells : Tells (after config past) event jobId configFingerprint chunk summary) :
    (chunk, summary) ∈ Told config (past ++ [event]) jobId configFingerprint :=
  ⟨past, event, [], rfl, tells⟩

/-! ## The invariant -/

/-- The stored chunks of the job. -/
def StoredChunks (env : HandlerEnv) (jobs : JobsDb) (job : Job) (raw : String) : Prop :=
  ∃ artifact ∈ jobs.artifacts,
    artifactKey artifact = (job.jobId, chunksArtifactType, stageFingerprint env job.url) ∧
    artifact.storageKind = .inlineJson ∧ artifact.payloadJson = some raw

/-- A stored row has the id, the URL and the configuration of the job. -/
def Identified (jobs : JobsDb) (job : Job) : Prop :=
  ∃ row, jobs.findJob job.jobId = some row ∧ row.url = job.url ∧
    row.configFingerprint = job.configFingerprint

/-- What is stored for chunks: their list in its row, checkpoints with the model's summaries. -/
structure RowInformed (config : PipelineConfig) (past : List PipelineEvent) (jobs : JobsDb)
    (artifact : JobArtifact) : Prop where
  chunks : artifact.artifactType = chunksArtifactType → artifact.storageKind = .inlineJson
  checkpoint : artifact.artifactType = chunkSummaryArtifactType →
    ∃ job raw chunks summary, Identified jobs job ∧ job.jobId = artifact.jobId ∧
      StoredChunks config.handlers jobs job raw ∧ artifact.payloadJson = some summary ∧
      SavedSummary config.handlers job raw chunks
        (Told config past job.jobId job.configFingerprint) artifact.inputFingerprint summary

/-- Committed summaries are the model's. -/
def Summarized (config : PipelineConfig) (past : List PipelineEvent) (jobs : JobsDb)
    (jobId : String) (record : ArtifactRecord) : Prop :=
  record.artifactType = summariesArtifactType →
    ∃ job raw chunks, Identified jobs job ∧ job.jobId = jobId ∧
      StoredChunks config.handlers jobs job raw ∧
      SummariesArtifact config.handlers job raw chunks
        (Told config past job.jobId job.configFingerprint) record

/-- What a worker reads and goes on with. -/
def WorkerInformed (config : PipelineConfig) (past : List PipelineEvent) (jobs : JobsDb)
    (run : WorkerRun) : Prop :=
  match run.stage with
  | .handling job rest => Identified jobs job ∧
      (∀ db ∈ run.snapshot, ∀ artifact ∈ db.jobs.artifacts, RowInformed config past jobs artifact ∧
        (artifact.artifactType = chunksArtifactType → artifact ∈ jobs.artifacts)) ∧
      (job.status ≠ .summarizingChunks → rest.Spares) ∧
      (job.status = .summarizingChunks → ∃ raw, StoredChunks config.handlers jobs job raw ∧
        let chunks := (config.handlers.textsFromJson raw).getD []
        rest.Upholds (summaryTrust config.handlers job raw chunks)
          (SummarizedExit config.handlers job raw chunks)
          (Told config past job.jobId job.configFingerprint))
  | .returned job outcome => ∀ artifact ∈ outcomeArtifact outcome,
      (artifact.artifactType = chunksArtifactType → artifact.storageKind = .inlineJson) ∧
      Summarized config past jobs job.jobId artifact
  | .failing _ _ _ => True

structure Informed (config : PipelineConfig) (past : List PipelineEvent) (pipeline : Pipeline) :
    Prop where
  provisioned : Provisioned config pipeline
  rows : ∀ artifact ∈ pipeline.db.jobs.artifacts, RowInformed config past pipeline.db.jobs artifact
  summaries : ∀ artifact ∈ pipeline.db.jobs.artifacts,
    Summarized config past pipeline.db.jobs artifact.jobId artifact.toArtifactRecord
  workers : ∀ owner run, pipeline.workers owner = some run →
    WorkerInformed config past pipeline.db.jobs run

/-! ## What lasts -/

section

variable {jobs later : JobsDb} {job : Job}

/-- The tables afterwards: jobs keep their texts, and chunks stay. -/
structure Lasting (jobs later : JobsDb) : Prop where
  identified : ∀ {job}, Identified jobs job → Identified later job
  chunks : ∀ artifact ∈ jobs.artifacts, artifact.artifactType = chunksArtifactType →
    artifact ∈ later.artifacts

theorem StoredChunks.lasts (lasting : Lasting jobs later) {env : HandlerEnv} {raw : String}
    (stored : StoredChunks env jobs job raw) : StoredChunks env later job raw := by
  obtain ⟨artifact, mem, key, held⟩ := stored
  refine ⟨artifact, lasting.chunks artifact mem ?_, key, held⟩
  simp only [artifactKey, Prod.mk.injEq] at key
  exact key.2.1

theorem RowInformed.lasts (lasting : Lasting jobs later) (event : PipelineEvent)
    {artifact : JobArtifact} (informed : RowInformed config past jobs artifact) :
    RowInformed config (past ++ [event]) later artifact where
  chunks := informed.chunks
  checkpoint type := by
    obtain ⟨job, raw, chunks, summary, identified, named, stored, payload, saved⟩ :=
      informed.checkpoint type
    exact ⟨job, raw, chunks, summary, lasting.identified identified, named, stored.lasts lasting,
      payload, saved.mono (told_mono event _ _)⟩

theorem Summarized.lasts (lasting : Lasting jobs later) (event : PipelineEvent) {jobId : String}
    {record : ArtifactRecord} (summarized : Summarized config past jobs jobId record) :
    Summarized config (past ++ [event]) later jobId record := by
  intro type
  obtain ⟨job, raw, chunks, identified, named, stored, holds⟩ := summarized type
  exact ⟨job, raw, chunks, lasting.identified identified, named, stored.lasts lasting,
    holds.mono (told_mono event _ _)⟩

theorem identified_step (keyed : pipeline.db.jobs.Keyed) (event : PipelineEvent)
    (identified : Identified pipeline.db.jobs job) :
    Identified (pipeline.step config event).db.jobs job := by
  obtain ⟨row, found, url, fingerprint⟩ := identified
  obtain ⟨after, foundAfter, moved⟩ := @step_moved config _ keyed event _ _ found
  exact ⟨after, foundAfter, moved.url.trans url, moved.configFingerprint.trans fingerprint⟩

/-- A job has one list of chunks. -/
theorem StoredChunks.unique (keyed : jobs.Keyed) {env : HandlerEnv} {raw : String}
    (stored : StoredChunks env jobs job raw) {artifact : JobArtifact}
    (mem : artifact ∈ jobs.artifacts)
    (key : artifactKey artifact = (job.jobId, chunksArtifactType, stageFingerprint env job.url)) :
    artifact.storageKind = .inlineJson ∧ artifact.payloadJson = some raw := by
  obtain ⟨other, otherMem, otherKey, held⟩ := stored
  obtain rfl : artifact = other :=
    List.inj_on_of_nodup_map keyed.artifactKeys mem otherMem (key.trans otherKey.symm)
  exact held

end

/-- Only checkpoints are written over. -/
theorem artifact_stays (provisioned : Provisioned config pipeline) (event : PipelineEvent)
    {artifact : JobArtifact} (mem : artifact ∈ pipeline.db.jobs.artifacts)
    (notAsr : artifact.artifactType ≠ asrSegmentArtifactType)
    (notSummary : artifact.artifactType ≠ chunkSummaryArtifactType) :
    artifact ∈ (pipeline.step config event).db.jobs.artifacts := by
  have keyed := provisioned.formed.keyed
  have moved := @step_artifacts config _ keyed event
  generalize (pipeline.step config event).db.jobs.artifacts = artifacts at moved ⊢
  cases moved with
  | unchanged => exact mem
  | checkpointed now outside working =>
    obtain ⟨_, supplied, _⟩ := provisioned.workers _ _ working
    apply mem_checkpointed keyed mem
    rcases supplied.1 with asr | summary
    · rw [asr]
      exact notAsr
    · rw [summary]
      exact notSummary
  | registered => exact mem_registered mem _ _ _

theorem lasting_step (informed : Informed config past pipeline) (event : PipelineEvent) :
    Lasting pipeline.db.jobs (pipeline.step config event).db.jobs where
  identified := identified_step informed.provisioned.formed.keyed event
  chunks artifact mem type := by
    apply artifact_stays informed.provisioned event mem
    · rw [type]
      decide
    · rw [type]
      decide

/-! ## Answers -/

section

variable {owner : String} {job : Job} {rest : Stage} {snapshot : Option PipelineDb} {now : Time}
  {outside : ∀ call, Answer call} {call : Call}

/-- The rows a worker's session reads. -/
theorem view_informed (informed : Informed config past pipeline)
    (working : pipeline.workers owner = some ⟨.handling job rest, snapshot⟩) :
    ∀ artifact ∈ (snapshot.getD pipeline.db).jobs.artifacts,
      RowInformed config past pipeline.db.jobs artifact ∧
        (artifact.artifactType = chunksArtifactType → artifact ∈ pipeline.db.jobs.artifacts) := by
  obtain ⟨_, seen, _⟩ := informed.workers owner _ working
  cases snapshot with
  | none => exact fun artifact mem => ⟨informed.rows artifact mem, fun _ => mem⟩
  | some db => exact seen db rfl

/-- What a summarizing worker is answered can be relied on. -/
theorem reliable_answer (informed : Informed config past pipeline)
    (working : pipeline.workers owner = some ⟨.handling job rest, snapshot⟩) {raw : String}
    (stored : StoredChunks config.handlers pipeline.db.jobs job raw) {value : Answer call}
    (given : (answerCall config pipeline owner job snapshot now outside call).answer = some value) :
    (summaryTrust config.handlers job raw ((config.handlers.textsFromJson raw).getD [])).reliable
      (Told config past job.jobId job.configFingerprint) call value := by
  have keyed := informed.provisioned.formed.keyed
  cases call with
  | getArtifact artifactType inputFingerprint =>
    cases given
    intro artifact found
    obtain ⟨mem, key⟩ := findArtifact_key found
    obtain ⟨row, current⟩ := view_informed informed working artifact mem
    have named := key
    simp only [artifactKey, Prod.mk.injEq] at named
    obtain ⟨owned, type, fingerprint⟩ := named
    refine ⟨type, fun chunksRow input => ?_, fun checkpoint => ?_⟩
    · apply stored.unique keyed (current chunksRow)
      rw [key, ← type, chunksRow, input]
    · obtain ⟨other, otherRaw, chunks, summary, identified, sameJob, otherStored, payload, saved⟩ :=
        row.checkpoint checkpoint
      obtain ⟨otherRow, otherFound, otherUrl, otherConfig⟩ := identified
      obtain ⟨⟨jobRow, jobFound, jobUrl, jobConfig⟩, _⟩ := informed.workers owner _ working
      rw [sameJob, owned, jobFound] at otherFound
      obtain rfl := Option.some.inj otherFound
      have sameConfig : other.configFingerprint = job.configFingerprint :=
        otherConfig.symm.trans jobConfig
      have sameUrl : other.url = job.url := otherUrl.symm.trans jobUrl
      obtain ⟨chunksArtifact, chunksMem, chunksKey, _, chunksPayload⟩ := otherStored
      rw [sameJob, owned, sameUrl] at chunksKey
      have sameRaw := (stored.unique keyed chunksMem chunksKey).2
      rw [chunksPayload] at sameRaw
      obtain rfl := Option.some.inj sameRaw
      refine ⟨summary, payload, ?_⟩
      rw [saved.1, Option.getD_some, ← fingerprint]
      rw [sameJob, owned, sameConfig] at saved
      exact saved.congr sameConfig
  | _ => trivial

/-- What it learns is told in this event. -/
theorem learned_answer {next : Answer call → Stage} {raw : String} {chunks : List String}
    (working : (after config past).workers owner =
      some ⟨.handling job (.ask call next), snapshot⟩) (stage : job.status = .summarizingChunks)
    {value : Answer call}
    (given : (answerCall config (after config past) owner job snapshot now outside call).answer =
      some value) :
    (summaryTrust config.handlers job raw chunks).learns call value ⊆
      Told config (past ++ [.answer owner now outside]) job.jobId job.configFingerprint := by
  cases call with
  | complete prompt =>
    cases given
    rintro ⟨chunk, summary⟩ ⟨rfl, told⟩
    exact told_now ⟨owner, now, outside, job, next, snapshot, rfl, working, rfl, rfl, stage, told⟩
  | _ => exact Set.empty_subset _

end

/-! ## The rows after an event -/

theorem product_of_returnable {env : HandlerEnv} {job : Job} {outcome : StageOutcome}
    {artifact : ArtifactRecord} (returnable : Returnable env job outcome)
    (mem : artifact ∈ outcome.artifact) :
    outcome.errorCode.isSome = true ∨
      ∃ target, (job.status, target, some artifact.artifactType) ∈ stageProducts := by
  refine returnable.imp_right fun ⟨_, _, target, _, listed, _⟩ => ⟨target, ?_⟩
  rw [Option.mem_def.1 mem] at listed
  exact listed

theorem outcomeArtifact_held {outcome : StageOutcome} {artifact : ArtifactRecord}
    (registers : outcomeArtifact outcome = some artifact) :
    outcome.errorCode.isSome ≠ true ∧ artifact ∈ outcome.artifact := by
  unfold outcomeArtifact at registers
  split at registers
  next => cases registers
  next noError =>
    split at registers
    next => cases registers
    next => exact ⟨noError, registers⟩

theorem rows_informed_step (informed : Informed config past pipeline) (event : PipelineEvent) :
    ∀ artifact ∈ (pipeline.step config event).db.jobs.artifacts,
      RowInformed config (past ++ [event]) (pipeline.step config event).db.jobs artifact ∧
      Summarized config (past ++ [event]) (pipeline.step config event).db.jobs artifact.jobId
        artifact.toArtifactRecord := by
  have keyed := informed.provisioned.formed.keyed
  have lasting := lasting_step informed event
  have old : ∀ artifact ∈ pipeline.db.jobs.artifacts,
      RowInformed config (past ++ [event]) (pipeline.step config event).db.jobs artifact ∧
      Summarized config (past ++ [event]) (pipeline.step config event).db.jobs artifact.jobId
        artifact.toArtifactRecord := fun artifact mem =>
    ⟨(informed.rows artifact mem).lasts lasting event, (informed.summaries artifact mem).lasts lasting event⟩
  intro artifact mem
  have moved := @step_artifacts config _ keyed event
  generalize (pipeline.step config event).db.jobs.artifacts = artifacts at moved mem
  cases moved with
  | unchanged => exact old artifact mem
  | @checkpointed owner now outside job stage artifactType inputFingerprint payloadJson _ next _
      working =>
    rcases checkpointed_row keyed mem with before | ⟨key, payload⟩
    · exact old artifact before
    · simp only [artifactKey, Prod.mk.injEq] at key
      obtain ⟨owned, type, fingerprint⟩ := key
      obtain ⟨_, supplied, _⟩ := informed.provisioned.workers _ _ working
      obtain ⟨identified, _, spares, summarizing⟩ := informed.workers _ _ working
      have kinds : ∀ other, artifactType = asrSegmentArtifactType ∨
          artifactType = chunkSummaryArtifactType → other ≠ asrSegmentArtifactType →
          other ≠ chunkSummaryArtifactType → artifact.artifactType ≠ other := by
        rintro other (asr | summary) notAsr notSummary rfl
        · exact notAsr (type.trans asr)
        · exact notSummary (type.trans summary)
      refine ⟨⟨fun chunks => ?_, fun checkpoint => ?_⟩, fun summaries => ?_⟩
      · exact absurd chunks (kinds _ supplied.1 (by decide) (by decide))
      · by_cases here : job.status = .summarizingChunks
        · obtain ⟨raw, stored, upholds⟩ := summarizing here
          have saved := upholds.1.2.mono (told_mono (.answer owner now outside) _ _)
          exact ⟨job, raw, _, payloadJson, lasting.identified identified, owned.symm,
            stored.lasts lasting, payload, fingerprint ▸ saved⟩
        · exact absurd (type.symm.trans checkpoint) (spares here).1
      · exact absurd summaries (kinds _ supplied.1 (by decide) (by decide))
  | @registered owner dueNow now job outcome snapshot record working registers =>
    rcases registered_row mem with before | ⟨owned, recorded⟩
    · exact old artifact before
    · obtain ⟨handled, _, _, returnable⟩ := informed.provisioned.workers _ _ working
      obtain ⟨noError, held⟩ := outcomeArtifact_held registers
      obtain ⟨inline, summarized⟩ := informed.workers _ _ working record registers
      rw [recorded, owned]
      refine ⟨⟨fun chunks => ?_, fun checkpoint => ?_⟩, summarized.lasts lasting _⟩
      · rw [← recorded] at inline
        exact inline chunks
      · obtain ⟨target, listed⟩ := (product_of_returnable returnable held).resolve_left noError
        have kinds : ∀ product ∈ stageProducts, product.2.2 ≠ some chunkSummaryArtifactType := by
          decide
        rw [← recorded, checkpoint] at listed
        exact absurd rfl (kinds _ listed)

/-! ## The workers after an event -/

/-- A worker that begins to summarize finds the chunks in their row. -/
theorem storedChunks_begun (provisioned : Provisioned config pipeline)
    (inline : ∀ artifact ∈ pipeline.db.jobs.artifacts,
      artifact.artifactType = chunksArtifactType → artifact.storageKind = .inlineJson) {job : Job}
    (found : pipeline.db.jobs.findJob job.jobId = some job)
    (stage : job.status = .summarizingChunks) :
    ∃ raw, StoredChunks config.handlers pipeline.db.jobs job raw := by
  have holds := provisioned.rows job (JobsDb.mem_of_findJob found) chunksArtifactType (by
    unfold pendingStage
    rw [if_neg (by rw [stage]; decide), stage]
    decide)
  obtain ⟨artifact, finds⟩ := JobsDb.Holds.found holds
  obtain ⟨mem, key⟩ := findArtifact_key finds
  have kept := inline artifact mem (by
    simp only [artifactKey, Prod.mk.injEq] at key
    exact key.2.1)
  obtain ⟨raw, payload⟩ := Option.isSome_iff_exists.1 ((provisioned.readable artifact mem).inline kept)
  exact ⟨raw, artifact, mem, key, kept, payload⟩

/-- What a handler ends with, in the stage and outside it. -/
theorem ended_informed {jobs : JobsDb} {job : Job} {outcome : StageOutcome}
    {snapshot : Option PipelineDb} (returnable : Returnable config.handlers job outcome)
    (informed : WorkerInformed config past jobs
      ⟨.handling job (.done (.returned outcome)), snapshot⟩) {artifact : ArtifactRecord}
    (registers : outcomeArtifact outcome = some artifact) :
    (artifact.artifactType = chunksArtifactType → artifact.storageKind = .inlineJson) ∧
      Summarized config past jobs job.jobId artifact := by
  have products : ∀ product ∈ stageProducts,
      (product.2.2 = some summariesArtifactType → product.1 = .summarizingChunks) ∧
      (product.1 = .summarizingChunks → product.2.2 ≠ some chunksArtifactType) := by decide
  obtain ⟨identified, _, spares, summarizing⟩ := informed
  obtain ⟨noError, held⟩ := outcomeArtifact_held registers
  obtain ⟨target, listed⟩ := (product_of_returnable returnable held).resolve_left noError
  by_cases here : job.status = .summarizingChunks
  · obtain ⟨raw, stored, ends⟩ := summarizing here
    refine ⟨fun chunks => ?_, fun _ => ?_⟩
    · exact absurd (congrArg some chunks) ((products _ listed).2 here)
    · exact ⟨job, raw, _, identified, rfl, stored, ends outcome rfl artifact held⟩
  · refine ⟨fun chunks => ?_, fun summaries => ?_⟩
    · exact spares here outcome rfl artifact held chunks
    · exact absurd ((products _ listed).1 (congrArg some summaries)) here

theorem worker_informed_step (informed : Informed config past (after config past))
    (event : PipelineEvent) {owner : String} {run : WorkerRun}
    (works : ((after config past).step config event).workers owner = some run) :
    WorkerInformed config (past ++ [event]) ((after config past).step config event).db.jobs run := by
  have keyed := informed.provisioned.formed.keyed
  have lasting := lasting_step informed event
  have moves := @step_worker config _ keyed owner event
  rw [works] at moves
  cases moves with
  | unchanged working quiet =>
    have before := informed.workers owner run working
    rcases run with ⟨stage, snapshot⟩
    cases stage with
    | handling job rest =>
      obtain ⟨identified, seen, spares, summarizing⟩ := before
      refine ⟨lasting.identified identified, fun db reads artifact mem => ?_, spares, fun here => ?_⟩
      · obtain ⟨row, current⟩ := seen db reads artifact mem
        exact ⟨row.lasts lasting event, fun chunks => lasting.chunks artifact (current chunks) chunks⟩
      · obtain ⟨raw, stored, upholds⟩ := summarizing here
        exact ⟨raw, stored.lasts lasting,
          Process.upholds_mono summarizedExit_lasts (told_mono event _ _) upholds⟩
    | returned job outcome =>
      intro artifact held
      exact ⟨(before artifact held).1, (before artifact held).2.lasts lasting event⟩
    | failing job loaded detail => trivial
  | @begun _ job _ found begins =>
    unfold beginStage at begins
    split at begins
    · cases begins
    · split at begins
      next handler handles =>
        cases begins
        refine ⟨⟨job, found, rfl, rfl⟩, (fun _ absent => nomatch absent),
          productionHandler_spares handles, fun here => ?_⟩
        obtain ⟨raw, stored⟩ := storedChunks_begun (provisioned_step informed.provisioned event)
          (fun artifact mem => (rows_informed_step informed event artifact mem).1.chunks) found here
        refine ⟨raw, stored, ?_⟩
        rw [productionHandler_summarizing handles here]
        apply summarizingChunksHandler_upholds
        intro chunks texts
        rw [texts]
        rfl
      next =>
        cases begins
        trivial
  | @answered now outside job call next snapshot value working given =>
    obtain ⟨identified, seen, spares, summarizing⟩ := informed.workers owner _ working
    refine ⟨lasting.identified identified, fun db reads artifact mem => ?_,
      fun elsewhere => (spares elsewhere).2 value trivial, fun here => ?_⟩
    · have row : RowInformed config past (after config past).db.jobs artifact ∧
          (artifact.artifactType = chunksArtifactType →
            artifact ∈ (after config past).db.jobs.artifacts) := by
        rcases answerCall_snapshot _ owner job snapshot now outside call db reads with old | rfl
        · exact seen db old artifact mem
        · exact ⟨informed.rows artifact mem, fun _ => mem⟩
      exact ⟨row.1.lasts lasting _, fun chunks => lasting.chunks artifact (row.2 chunks) chunks⟩
    · obtain ⟨raw, stored, upholds⟩ := summarizing here
      have known : Told config past job.jobId job.configFingerprint ⊆ Told config
          (past ++ [.answer owner now outside]) job.jobId job.configFingerprint :=
        told_mono _ _ _
      refine ⟨raw, stored.lasts lasting, Process.upholds_answered upholds known ?_ ?_⟩
      · exact summaryTrust_reliable_mono known (reliable_answer informed working stored given)
      · exact learned_answer working here given
  | broke => trivial
  | @refreshed job row outcome snapshot working found =>
    obtain ⟨_, _, _, yields⟩ := informed.provisioned.formed.workers owner _ working
    intro artifact registers
    obtain ⟨inline, summarized⟩ := ended_informed (yields outcome rfl)
      (informed.workers owner _ working) registers
    refine ⟨inline, ?_⟩
    rw [JobsDb.jobId_of_findJob found]
    exact summarized.lasts lasting _

/-- One event keeps the invariant. -/
theorem informed_step (informed : Informed config past (after config past)) (event : PipelineEvent) :
    Informed config (past ++ [event]) ((after config past).step config event) where
  provisioned := provisioned_step informed.provisioned event
  rows artifact mem := (rows_informed_step informed event artifact mem).1
  summaries artifact mem := (rows_informed_step informed event artifact mem).2
  workers _ _ works := worker_informed_step informed event works

/-- It holds after every run. -/
theorem informed_after (config : PipelineConfig) (events : List PipelineEvent) :
    Informed config events (after config events) := by
  refine @run_history _ _ (step config) {} (Informed config) ?_
    (fun past event informed => informed_step informed event) events
  exact
    { provisioned := provisioned_after config []
      rows := fun _ mem => nomatch mem
      summaries := fun _ mem => nomatch mem
      workers := fun _ _ works => nomatch works }

/-! ## Nothing is sent again -/

/-- The worker is in a run of the stage for the job. -/
def InStage (pipeline : Pipeline) (owner jobId : String) : Prop :=
  ∃ job rest snapshot, pipeline.workers owner = some ⟨.handling job rest, snapshot⟩ ∧
    job.jobId = jobId ∧ job.status = .summarizingChunks

/-- The worker waits for the model's summary of the chunk. -/
def Sends (pipeline : Pipeline) (owner jobId chunk : String) : Prop :=
  ∃ job next snapshot, pipeline.workers owner =
      some ⟨.handling job (.ask (.complete (summaryPrompt chunk)) next), snapshot⟩ ∧
    job.jobId = jobId ∧ job.status = .summarizingChunks

/-- The key of the checkpoint of a chunk. -/
def checkpointKey (env : HandlerEnv) (job : Job) (chunk : String) : String × String × String :=
  (job.jobId, chunkSummaryArtifactType, chunkFingerprint env job chunk)

theorem checkpointKey_congr {env : HandlerEnv} {job other : Job} (sameId : job.jobId = other.jobId)
    (sameConfig : job.configFingerprint = other.configFingerprint) (chunk : String) :
    checkpointKey env job chunk = checkpointKey env other chunk := by
  unfold checkpointKey chunkFingerprint
  rw [sameId, sameConfig]

/-- A run that reads the checkpoint whenever it looks for it. -/
def WorkerUnsent (env : HandlerEnv) (key : String × String × String) (chunk : String)
    (run : WorkerRun) : Prop :=
  match run.stage with
  | .handling job rest => job.jobId = key.1 → job.status = .summarizingChunks →
      rest.Keeps (Unsent chunk) (Checkpointed (chunkFingerprint env job chunk)) (fun _ => True) ∧
      checkpointKey env job chunk = key ∧ ∀ db ∈ run.snapshot, db.jobs.Holds key
  | _ => True

/-- The checkpoint is stored, and the worker reads it. -/
structure PaidFor (config : PipelineConfig) (key : String × String × String)
    (chunk owner : String) (pipeline : Pipeline) : Prop where
  held : pipeline.db.jobs.Holds key
  keyed : ∃ row, pipeline.db.jobs.findJob key.1 = some row ∧
    checkpointKey config.handlers row chunk = key
  worker : ∀ run, pipeline.workers owner = some run → WorkerUnsent config.handlers key chunk run

/-- With the checkpoint in the tables a session reads, its row is found with a summary. -/
theorem checkpointed_answer (informed : Informed config past pipeline) {owner : String} {job : Job}
    {rest : Stage} {snapshot : Option PipelineDb} {now : Time} {outside : ∀ call, Answer call}
    {call : Call} {chunk : String}
    (working : pipeline.workers owner = some ⟨.handling job rest, snapshot⟩)
    (held : (snapshot.getD pipeline.db).jobs.Holds (checkpointKey config.handlers job chunk))
    {value : Answer call}
    (given : (answerCall config pipeline owner job snapshot now outside call).answer = some value) :
    Checkpointed (chunkFingerprint config.handlers job chunk) call value := by
  cases call with
  | getArtifact artifactType inputFingerprint =>
    cases given
    rintro rfl rfl
    obtain ⟨artifact, found⟩ := JobsDb.Holds.found held
    obtain ⟨mem, key⟩ := findArtifact_key found
    simp only [artifactKey, Prod.mk.injEq] at key
    obtain ⟨_, _, _, summary, _, _, _, payload, _⟩ :=
      (view_informed informed working artifact mem).1.checkpoint key.2.1
    exact ⟨artifact, found, Option.isSome_iff_exists.2 ⟨summary, payload⟩⟩
  | _ => trivial

theorem paidFor_step {key : String × String × String} {chunk owner : String}
    (informed : Informed config past pipeline) (paid : PaidFor config key chunk owner pipeline)
    (event : PipelineEvent) : PaidFor config key chunk owner (pipeline.step config event) := by
  have jobsKeyed := informed.provisioned.formed.keyed
  have held := @holds_step config _ jobsKeyed event _ paid.held
  obtain ⟨row, found, named⟩ := paid.keyed
  obtain ⟨after, foundAfter, moved⟩ := @step_moved config _ jobsKeyed event _ _ found
  have keyed : checkpointKey config.handlers after chunk = key := by
    rw [← named]
    apply checkpointKey_congr
    · rw [JobsDb.jobId_of_findJob foundAfter, JobsDb.jobId_of_findJob found]
    · exact moved.configFingerprint
  refine ⟨held, ⟨after, foundAfter, keyed⟩, fun run works => ?_⟩
  have moves := @step_worker config _ jobsKeyed owner event
  rw [works] at moves
  cases moves with
  | unchanged working _ => exact paid.worker run working
  | @begun _ job _ foundJob begins =>
    unfold beginStage at begins
    split at begins
    · cases begins
    · split at begins
      next handler handles =>
        cases begins
        intro sameJob here
        rw [sameJob, foundAfter] at foundJob
        obtain rfl := Option.some.inj foundJob
        refine ⟨?_, keyed, fun _ absent => nomatch absent⟩
        rw [productionHandler_summarizing handles here]
        exact summarizingChunksHandler_unsent chunk
      next =>
        cases begins
        trivial
  | @answered now outside job call next snapshot value working given =>
    intro sameJob here
    obtain ⟨keeps, key, seen⟩ := paid.worker _ working sameJob here
    have view : (snapshot.getD pipeline.db).jobs.Holds (checkpointKey config.handlers job chunk) := by
      rw [key]
      cases snapshot with
      | none => exact paid.held
      | some db => exact seen db rfl
    refine ⟨keeps.2 value (checkpointed_answer informed working view given), key,
      fun db reads => ?_⟩
    rcases answerCall_snapshot pipeline owner job snapshot now outside call db reads with old | rfl
    · exact seen db old
    · exact paid.held
  | broke => trivial
  | refreshed => trivial

/-- From then on the worker sends no prompt of the chunk for this job. -/
theorem not_sent_again (config : PipelineConfig) (past future : List PipelineEvent)
    {owner chunk : String} {row : Job}
    (found : (after config past).db.jobs.findJob row.jobId = some row)
    (held : (after config past).db.jobs.Holds (checkpointKey config.handlers row chunk))
    (outsideStage : ¬ InStage (after config past) owner row.jobId) :
    ¬ Sends (after config (past ++ future)) owner row.jobId chunk := by
  have paid : PaidFor config (checkpointKey config.handlers row chunk) chunk owner
      (after config (past ++ future)) := by
    induction future using List.reverseRecOn with
    | nil =>
      rw [List.append_nil]
      refine ⟨held, ⟨row, found, rfl⟩, fun run works => ?_⟩
      rcases run with ⟨stage, snapshot⟩
      cases stage with
      | handling job rest =>
        intro sameJob here
        exact absurd ⟨job, rest, snapshot, works, sameJob, here⟩ outsideStage
      | _ => trivial
    | append_singleton future event ih =>
      have stepped := paidFor_step (informed_after config (past ++ future)) ih event
      unfold after at stepped ⊢
      rw [← List.append_assoc, run_concat]
      exact stepped
  rintro ⟨job, next, snapshot, working, sameJob, here⟩
  exact (paid.worker _ working sameJob here).1.1 rfl

/-! ## The summaries of a job -/

/-- Different chunks of the job have different checkpoint keys. -/
def KeysApart (env : HandlerEnv) (job : Job) (chunks : List String) : Prop :=
  Set.InjOn (chunkFingerprint env job) {chunk | chunk ∈ chunks}

/-- One summary for each stored chunk of the job, in their order; where keys are apart,
each is an answer of the model to the prompt of its chunk. -/
def CompleteSummaries (config : PipelineConfig) (events : List PipelineEvent) (job : Job)
    (artifact : JobArtifact) : Prop :=
  ∃ raw chunks summaries,
    StoredChunks config.handlers (after config events).db.jobs job raw ∧
    config.handlers.textsFromJson raw = some chunks ∧
    artifact.payloadJson = some (config.handlers.textsToJson summaries) ∧
    summaries.length = chunks.length ∧
    (KeysApart config.handlers job chunks → List.Forall₂ (fun chunk summary =>
      (chunk, summary) ∈ Told config events job.jobId job.configFingerprint) chunks summaries)

theorem backed_told {env : HandlerEnv} {job : Job} {chunks : List String}
    {given : Set (String × String)} (apart : KeysApart env job chunks) {chunk summary : String}
    (mem : chunk ∈ chunks) (backed : Backed env job chunks given chunk summary) :
    (chunk, summary) ∈ given := by
  obtain ⟨other, otherMem, key, fact⟩ := backed
  exact apart otherMem mem key ▸ fact

theorem forall₂_told {env : HandlerEnv} {job : Job} {chunks : List String}
    {given : Set (String × String)} (apart : KeysApart env job chunks) {some summaries : List String}
    (part : ∀ chunk ∈ some, chunk ∈ chunks)
    (backed : List.Forall₂ (Backed env job chunks given) some summaries) :
    List.Forall₂ (fun chunk summary => (chunk, summary) ∈ given) some summaries := by
  induction backed with
  | nil => exact .nil
  | cons head _ ih =>
    apply List.Forall₂.cons
    · exact backed_told apart (part _ List.mem_cons_self) head
    · exact ih fun chunk mem => part chunk (List.mem_cons_of_mem _ mem)

/-- In every run, the committed summaries of a job are complete and in the order of its
chunks, and once the checkpoint of a chunk is stored, no worker that is not already in
the stage ever sends the prompt of the chunk for this job. -/
theorem chunk_summaries_complete (config : PipelineConfig) (events : List PipelineEvent) :
    (∀ artifact ∈ (after config events).db.jobs.artifacts,
      artifact.artifactType = summariesArtifactType →
        ∃ row, (after config events).db.jobs.findJob artifact.jobId = some row ∧
          CompleteSummaries config events row artifact) ∧
    ∀ past future, events = past ++ future → ∀ owner chunk row,
      (after config past).db.jobs.findJob row.jobId = some row →
      (after config past).db.jobs.Holds (checkpointKey config.handlers row chunk) →
      ¬ InStage (after config past) owner row.jobId →
      ¬ Sends (after config events) owner row.jobId chunk := by
  constructor
  · intro artifact mem type
    obtain ⟨job, raw, chunks, ⟨row, found, url, fingerprint⟩, named, stored, read, summaries,
      payload, backed⟩ := (informed_after config events).summaries artifact mem type
    have sameId : row.jobId = job.jobId := JobsDb.jobId_of_findJob found
    refine ⟨row, named ▸ found, raw, chunks, summaries, ?_, read, payload, backed.length_eq.symm,
      fun apart => ?_⟩
    · unfold StoredChunks at stored ⊢
      rw [sameId, url]
      exact stored
    · unfold KeysApart at apart
      have same : chunkFingerprint config.handlers row = chunkFingerprint config.handlers job := by
        funext chunk
        unfold chunkFingerprint
        rw [fingerprint]
      rw [same] at apart
      rw [sameId, fingerprint]
      exact forall₂_told apart (fun _ mem => mem) backed
  · rintro past future rfl owner chunk row found held outsideStage
    exact not_sent_again config past future found held outsideStage

/-! ## Two chunks and a crash -/

/-- Two sentences. -/
def twoSentences : Transcript where
  segments := [⟨0, 1, "One. Two."⟩]
  language := "en"
  source := "subtitles"

def twoSentencesFile : Bytes :=
  (Json.dumps (sampleContent.transcriptDocument twoSentences)).flatMap encodedForm

/-- SHA-256 of the two chunks, the URL, the keys of the chunks and the file of the transcript,
by their lengths and first bytes. -/
def crashDigests : List ((Nat × UInt8) × Nat) :=
  [((4, 79), 0x70277bfc409b502132d7a48b2a3b386294264b31f7bf024a5fb0cafabb8ac122),
    ((4, 84), 0x1eb32d1ee4458814f94f8b92d1bd3e06e16dca6fab43d53f700840321f27fdf4),
    ((43, 104), 0x421eb344521c317ff2dbc5616490e15a7a06eea0e11cfee271e6de9557d8e04d),
    ((68, 55), 0xe7738b6b8530f56f8aa718dc805002c28265dfc7577c7c02f5990e686679eb6c),
    ((68, 49), 0xc3e25c1bd52affb0ae29b2d3c41e218b6660b59cbad4949262faa0489fe3f785),
    ((104, 123), 0xac567a31f450e5b0880271a7d6c1c35a8105465c0a5c8c7ce7f62db206255cb4)]

/-- The handlers with chunks of one sentence. -/
def crashContent : ContentEnv :=
  { sampleContent with
    maxChars := 5
    report :=
      { sampleContent.report with
        sha256 := fun data =>
          ((crashDigests.find? fun entry => entry.1 = (data.length, data.headD 0)).map fun entry =>
            hexDigest entry.2).getD [] } }

def crashConfig : PipelineConfig := { sampleConfig with handlers := crashContent.handlers }

/-- A platform that has subtitles, and a model that says this. -/
def crashAnswers (summary : String) : ∀ call, Answer call
  | .fetchTranscript _ => .ok twoSentences
  | .writeFile _ content => .written (sha256Hex crashConfig.handlers content) content.length
  | .readFile _ _ => twoSentencesFile
  | .complete _ => .ok summary
  | call => sampleAnswers call

def crashCalls (owner : String) (now : Time) (calls : Nat) (summary : String) : List PipelineEvent :=
  List.replicate calls (.answer owner now (crashAnswers summary))

def crashStage (calls : Nat) : List PipelineEvent :=
  crashCalls "worker-a" 0 calls "A" ++ [.refresh "worker-a", .settle "worker-a" 0 0]

/-- The worker dies when it has stored the summary of the first chunk. -/
def crashedRun : List PipelineEvent :=
  [.submitVideo (sampleSubmission "job-1" 0), .claim "worker-a" 0] ++ crashStage 1 ++ crashStage 2 ++
    crashStage 2 ++ crashStage 1 ++ crashCalls "worker-a" 0 7 "A" ++ [.die "worker-a"]

/-- Another worker goes on when the lease has run out, and commits the summaries. -/
def resumedRun : List PipelineEvent :=
  [.claim "worker-b" 100] ++ crashCalls "worker-b" 100 12 "B" ++
    [.refresh "worker-b", .settle "worker-b" 100 100]

/-- The crash leaves the checkpoint, and the other worker the summaries. -/
theorem crash_checked :
    ((after crashConfig crashedRun).workers "worker-b").isNone = true ∧
    ((after crashConfig crashedRun).db.jobs.findJob "job-1").any (fun row =>
      ((after crashConfig crashedRun).db.jobs.artifacts.map artifactKey).contains
        (checkpointKey crashConfig.handlers row "One.")) = true ∧
    ((run (step crashConfig) (after crashConfig crashedRun) resumedRun).db.jobs.artifacts.find?
      fun artifact => artifact.artifactType = summariesArtifactType).any
        (fun artifact => artifact.payloadJson = some "[\"A\", \"B\"]") = true := by
  decide +kernel

theorem resumedRun_after : run (step crashConfig) (after crashConfig crashedRun) resumedRun =
    after crashConfig (crashedRun ++ resumedRun) :=
  (run_append _ _ _ _).symm

/-- The summary of the first chunk outlives the crash, is not asked for again, and is
committed with that of the second. -/
theorem chunk_summaries_complete_crash :
    (∃ artifact ∈ (after crashConfig (crashedRun ++ resumedRun)).db.jobs.artifacts,
      artifact.payloadJson = some "[\"A\", \"B\"]" ∧
      ∃ row, (after crashConfig (crashedRun ++ resumedRun)).db.jobs.findJob artifact.jobId = some row ∧
        CompleteSummaries crashConfig (crashedRun ++ resumedRun) row artifact) ∧
    ∀ future, ¬ Sends (after crashConfig (crashedRun ++ future)) "worker-b" "job-1" "One." := by
  obtain ⟨idle, stored, committed⟩ := crash_checked
  constructor
  · rw [resumedRun_after] at committed
    obtain ⟨artifact, found, payload⟩ := (Option.any_eq_true _ _).1 committed
    have mem := List.mem_of_find?_eq_some found
    have type := List.find?_some found
    exact ⟨artifact, mem, of_decide_eq_true payload,
      (chunk_summaries_complete crashConfig (crashedRun ++ resumedRun)).1 artifact mem
        (of_decide_eq_true type)⟩
  · intro future
    obtain ⟨row, found, held⟩ := (Option.any_eq_true _ _).1 stored
    have named := JobsDb.jobId_of_findJob found
    have outside : ¬ InStage (after crashConfig crashedRun) "worker-b" row.jobId := by
      rintro ⟨job, rest, snapshot, working, _⟩
      rw [working] at idle
      cases idle
    have unsent := (chunk_summaries_complete crashConfig (crashedRun ++ future)).2 crashedRun future rfl
      "worker-b" "One." row (named ▸ found) (List.contains_iff_mem.1 held) outside
    rwa [named] at unsent

end EvoBlue.Guarantees
