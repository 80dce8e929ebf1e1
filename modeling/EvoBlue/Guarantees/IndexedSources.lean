import EvoBlue.Guarantees.ArtifactTexts
import EvoBlue.Guarantees.ChunkSummaries
import EvoBlue.Guarantees.FrontmatterRoundTrip
import EvoBlue.Source.SourcedHandlers

/-!
# What is indexed was told

Whatever happens between the submission of a video and the index entry of its report, the
entry goes back to answers that workers were given for this job: metadata and transcript of
its video, summaries of the chunks and their synthesis.
-/

namespace EvoBlue.Guarantees

open EvoBlue.Kernel EvoBlue.Source EvoBlue.Source.Pipeline

/-! ## The texts are read back -/

section

variable {env : ContentEnv}

theorem cleanFrom_timed {unescape : Text → Text} {isFloat : Time → Prop} {segments : List Segment}
    (timed : Timed isFloat segments) (previous : Option String) :
    Timed isFloat (cleanFrom unescape previous segments) := by
  induction segments generalizing previous with
  | nil => exact timed
  | cons segment segments ih =>
    have rest : Timed isFloat segments := fun other mem => timed other (List.mem_cons_of_mem _ mem)
    simp only [cleanFrom]
    split
    · exact ih rest previous
    · split
      · exact ih rest previous
      · intro kept mem
        rcases List.mem_cons.1 mem with rfl | later
        · exact timed segment List.mem_cons_self
        · exact ih rest _ kept later

theorem readsStored_content (deep : 3 ≤ env.jsonDepth) :
    ReadsStored env.handlers env.floats.isFloat where
  metadata _ float := metadata_read_back (by omega) float
  transcript _ timed := transcript_read_back deep timed
  segments _ timed := segments_read_back (by omega) timed
  texts := texts_read_back (by omega)
  cleaned _ timed := cleanFrom_timed timed none
  language _ := rfl
  spelled transcript empty := by
    have nothing := List.map_eq_nil_iff.1 (String.ofList_eq_empty_iff.1 empty)
    unfold ContentEnv.transcriptDocument at nothing
    rw [Json.dumps] at nothing
    cases nothing

end

/-! ## What was heard -/

variable {config : PipelineConfig} {isFloat : Time → Prop} {contents : Set Bytes}
  {past : List PipelineEvent} {pipeline : Pipeline}

/-- The event gives a worker on the job this answer. -/
def Gives (config : PipelineConfig) (pipeline : Pipeline) (event : PipelineEvent) (jobId : String)
    (fact : Heard) : Prop :=
  ∃ owner now outside job next snapshot, event = .answer owner now outside ∧
    pipeline.workers owner = some ⟨.handling job (.ask fact.1 next), snapshot⟩ ∧ job.jobId = jobId ∧
    (answerCall config pipeline owner job snapshot now outside fact.1).answer = some fact.2

/-- The answers that workers on the job were given in the run so far. -/
def HeardFor (config : PipelineConfig) (past : List PipelineEvent) (jobId : String) : Set Heard :=
  {fact | ∃ before event later, past = before ++ event :: later ∧
    Gives config (after config before) event jobId fact}

theorem heardFor_mono (event : PipelineEvent) (jobId : String) :
    HeardFor config past jobId ⊆ HeardFor config (past ++ [event]) jobId := by
  intro fact mem
  obtain ⟨before, earlier, later, rfl, gives⟩ := mem
  refine ⟨before, earlier, later ++ [event], ?_, gives⟩
  rw [List.append_assoc, List.cons_append]

theorem heardFor_now {event : PipelineEvent} {jobId : String} {fact : Heard}
    (gives : Gives config (after config past) event jobId fact) :
    fact ∈ HeardFor config (past ++ [event]) jobId := ⟨past, event, [], rfl, gives⟩

/-- What is answered in the event is honest. -/
def HonestEvent (config : PipelineConfig) (isFloat : Time → Prop) (contents : Set Bytes)
    (pipeline : Pipeline) (event : PipelineEvent) : Prop :=
  ∀ jobId fact, Gives config pipeline event jobId fact →
    Honest config.handlers isFloat contents fact.1 fact.2

/-- What the world answers honestly, the handler is answered honestly. -/
theorem honest_answered {owner : String} {job : Job} {snapshot : Option PipelineDb} {now : Time}
    {outside : ∀ call, Answer call} {call : Call} {value : Answer call}
    (honest : Honest config.handlers isFloat contents call (outside call))
    (given : (answerCall config pipeline owner job snapshot now outside call).answer = some value) :
    Honest config.handlers isFloat contents call value := by
  cases call <;> first | trivial | exact Option.some.inj given ▸ honest

/-! ## The invariant -/

/-- Transcripts that workers have read, or can read in their snapshots, are stored. -/
structure TranscriptsStored (config : PipelineConfig) (past : List PipelineEvent)
    (pipeline : Pipeline) : Prop where
  read : ∀ jobId inputFingerprint artifact,
    heard (.getArtifact transcriptArtifactType inputFingerprint) (some artifact) ∈
        HeardFor config past jobId →
      artifact ∈ pipeline.db.jobs.artifacts ∧
        artifactKey artifact = (jobId, transcriptArtifactType, inputFingerprint)
  seen : ∀ owner job rest db, pipeline.workers owner = some ⟨.handling job rest, some db⟩ →
    ∀ artifact ∈ db.jobs.artifacts, artifact.artifactType = transcriptArtifactType →
      artifact ∈ pipeline.db.jobs.artifacts

/-- A stored job has the id and the request of this one. -/
def Requested (jobs : JobsDb) (job : Job) : Prop :=
  ∃ row, jobs.findJob job.jobId = some row ∧ row.request = job.request

/-- The artifact has its sources among what was heard for a stored job. -/
def RowSourced (config : PipelineConfig) (isFloat : Time → Prop) (contents : Set Bytes)
    (past : List PipelineEvent) (jobs : JobsDb) (jobId : String) (artifact : ArtifactRecord) : Prop :=
  ∃ row, jobs.findJob jobId = some row ∧
    SourceRecord config.handlers isFloat contents row.request (HeardFor config past jobId) artifact

def WorkerSourced (config : PipelineConfig) (isFloat : Time → Prop) (contents : Set Bytes)
    (past : List PipelineEvent) (jobs : JobsDb) (run : WorkerRun) : Prop :=
  match run.stage with
  | .handling job rest => Requested jobs job ∧
      (∀ db ∈ run.snapshot, ∀ artifact ∈ db.jobs.artifacts,
        RowSourced config isFloat contents past jobs artifact.jobId artifact.toArtifactRecord) ∧
      rest.Sourced config.handlers isFloat contents job (HeardFor config past job.jobId)
  | .returned job outcome => ∀ artifact ∈ outcomeArtifact outcome,
      RowSourced config isFloat contents past jobs job.jobId artifact
  | .failing _ _ _ => True

structure PipelineSourced (config : PipelineConfig) (isFloat : Time → Prop) (contents : Set Bytes)
    (past : List PipelineEvent) (pipeline : Pipeline) : Prop where
  provisioned : Provisioned config pipeline
  rows : ∀ artifact ∈ pipeline.db.jobs.artifacts, RowSourced config isFloat contents past
    pipeline.db.jobs artifact.jobId artifact.toArtifactRecord
  workers : ∀ owner run, pipeline.workers owner = some run →
    WorkerSourced config isFloat contents past pipeline.db.jobs run

/-! ## What lasts -/

/-- No event changes what the submission fixed. -/
theorem rowMove_request {event : PipelineEvent} {row after : Job}
    (moved : RowMove config pipeline event row after) : after.request = row.request := by
  cases moved with
  | cancelRequested now active =>
    unfold cancelRequestedRow
    split <;> rfl
  | @settled owner dueNow now job _ displayed view outcome snapshot working own shown =>
    obtain ⟨_, _, _, _, _, _, _, _, _, _, same⟩ :=
      outcomeValues_frame view row config.leaseSeconds dueNow now outcome displayed
    obtain ⟨title, platform, subtitleProbe, frame⟩ :=
      displayedRow_frame (outcomeDisplay outcome) row
    rw [same, shown, frame]
    rfl
  | _ => rfl

theorem requested_step (keyed : pipeline.db.jobs.Keyed) (event : PipelineEvent) {jobId : String}
    {row : Job} (found : pipeline.db.jobs.findJob jobId = some row) :
    ∃ after, (pipeline.step config event).db.jobs.findJob jobId = some after ∧
      after.request = row.request := by
  obtain ⟨after, foundAfter, moved⟩ := @step_moved config _ keyed event _ _ found
  exact ⟨after, foundAfter, rowMove_request moved⟩

theorem Requested.lasts (keyed : pipeline.db.jobs.Keyed) (event : PipelineEvent) {job : Job}
    (requested : Requested pipeline.db.jobs job) :
    Requested (pipeline.step config event).db.jobs job := by
  obtain ⟨row, found, same⟩ := requested
  obtain ⟨after, foundAfter, sameAfter⟩ := @requested_step config _ keyed event _ _ found
  exact ⟨after, foundAfter, sameAfter.trans same⟩

theorem RowSourced.lasts (keyed : pipeline.db.jobs.Keyed) (event : PipelineEvent) {jobId : String}
    {artifact : ArtifactRecord}
    (sourced : RowSourced config isFloat contents past pipeline.db.jobs jobId artifact) :
    RowSourced config isFloat contents (past ++ [event]) (pipeline.step config event).db.jobs jobId
      artifact := by
  obtain ⟨row, found, source⟩ := sourced
  obtain ⟨after, foundAfter, same⟩ := @requested_step config _ keyed event _ _ found
  refine ⟨after, foundAfter, ?_⟩
  rw [same]
  exact source.mono (heardFor_mono event jobId)

/-- A worker's job is the stored one, as far as the submission fixed it. -/
theorem rowSourced_requested {jobs : JobsDb} {job : Job} {jobId : String} {artifact : ArtifactRecord}
    (requested : Requested jobs job) (own : job.jobId = jobId) :
    RowSourced config isFloat contents past jobs jobId artifact ↔
      SourceRecord config.handlers isFloat contents job.request (HeardFor config past jobId)
        artifact := by
  obtain ⟨row, found, same⟩ := requested
  rw [own] at found
  constructor
  · intro sourced
    obtain ⟨other, otherFound, source⟩ := sourced
    rw [found] at otherFound
    cases otherFound
    rw [← same]
    exact source
  · intro source
    rw [← same] at source
    exact ⟨row, found, source⟩

/-! ## One transcript -/

theorem heardFor_concat {event : PipelineEvent} {jobId : String} {fact : Heard}
    (mem : fact ∈ HeardFor config (past ++ [event]) jobId) :
    fact ∈ HeardFor config past jobId ∨ Gives config (after config past) event jobId fact := by
  obtain ⟨before, earlier, later, same, gives⟩ := mem
  rcases List.eq_nil_or_concat later with rfl | ⟨rest, last, rfl⟩
  · obtain ⟨rfl, lastSame⟩ := List.append_inj' same rfl
    cases lastSame
    exact .inr gives
  · rw [List.concat_eq_append, ← List.cons_append, ← List.append_assoc] at same
    obtain ⟨rfl, _⟩ := List.append_inj' same rfl
    exact .inl ⟨before, earlier, rest, rfl, gives⟩

/-- A stored transcript is not written over. -/
theorem transcript_stays (provisioned : Provisioned config pipeline) (event : PipelineEvent)
    {artifact : JobArtifact} (mem : artifact ∈ pipeline.db.jobs.artifacts)
    (type : artifact.artifactType = transcriptArtifactType) :
    artifact ∈ (pipeline.step config event).db.jobs.artifacts := by
  apply artifact_stays provisioned event mem
  · rw [type]
    decide
  · rw [type]
    decide

theorem transcriptsStored_step (provisioned : Provisioned config (after config past))
    (stored : TranscriptsStored config past (after config past)) (event : PipelineEvent) :
    TranscriptsStored config (past ++ [event]) ((after config past).step config event) where
  read jobId inputFingerprint artifact mem := by
    rcases heardFor_concat mem with before | gives
    · obtain ⟨kept, key⟩ := stored.read jobId inputFingerprint artifact before
      refine ⟨transcript_stays provisioned event kept ?_, key⟩
      simp only [artifactKey, Prod.mk.injEq] at key
      exact key.2.1
    · obtain ⟨owner, now, outside, job, next, snapshot, rfl, working, rfl, given⟩ := gives
      obtain ⟨found, key⟩ := findArtifact_key (Option.some.inj given)
      have type : artifact.artifactType = transcriptArtifactType := by
        simp only [artifactKey, Prod.mk.injEq] at key
        exact key.2.1
      refine ⟨transcript_stays provisioned _ ?_ type, key⟩
      cases snapshot with
      | none => exact found
      | some db => exact stored.seen owner job _ db working artifact found type
  seen owner job rest db working artifact mem type := by
    apply transcript_stays provisioned event ?_ type
    have moves := @step_worker config _ provisioned.formed.keyed owner event
    rw [working] at moves
    generalize reads : WorkerRun.mk (.handling job rest) (some db) = run at moves
    cases moves with
    | unchanged worked quiet =>
      rw [← reads] at worked
      exact stored.seen owner job rest db worked artifact mem type
    | @answered now outside other call next snapshot value worked given =>
      have shows := congrArg WorkerRun.snapshot reads
      rcases answerCall_snapshot _ owner other snapshot now outside call db shows.symm with old | rfl
      · rw [Option.mem_def.1 old] at worked
        exact stored.seen owner other _ db worked artifact mem type
      · exact mem
    | begun _ begins =>
      rw [← reads] at begins
      unfold beginStage at begins
      split at begins
      · cases begins
      · split at begins <;> cases begins
    | broke => cases reads
    | refreshed => cases reads

theorem transcriptsStored_after (config : PipelineConfig) (events : List PipelineEvent) :
    TranscriptsStored config events (after config events) := by
  refine @run_history _ _ (step config) {} (TranscriptsStored config) ?_ ?_ events
  · constructor
    · intro jobId inputFingerprint artifact mem
      obtain ⟨before, event, later, absent, _⟩ := mem
      exact absurd absent.symm (List.append_ne_nil_of_right_ne_nil before (List.cons_ne_nil _ _))
    · intro owner job rest db working
      cases working
  · intro past event stored
    exact transcriptsStored_step (provisioned_after config past) stored event

/-- A row holds one transcript. -/
theorem holdsTranscript_unique {env : HandlerEnv} (stored : ReadsStored env isFloat)
    (collisionFree : Set.InjOn (sha256Hex env) contents) {artifact : JobArtifact}
    {transcript other : Transcript}
    (holds : HoldsTranscript env isFloat contents artifact transcript)
    (again : HoldsTranscript env isFloat contents artifact other) : transcript = other := by
  have sameText : env.transcriptToJson transcript = env.transcriptToJson other := by
    rcases holds.2 with ⟨inline, payload⟩ | ⟨file, there, hash⟩
    · rcases again.2 with ⟨_, payloadAgain⟩ | ⟨file, _⟩
      · exact Option.some.inj (payload.symm.trans payloadAgain)
      · rw [inline] at file
        cases file
    · rcases again.2 with ⟨inline, _⟩ | ⟨_, thereAgain, hashAgain⟩
      · rw [file] at inline
        cases inline
      · have sameHash := Option.some.inj (hash.symm.trans hashAgain)
        have sameFile := collisionFree there thereAgain sameHash
        have sameDecoded := congrArg decodeUtf8 sameFile
        rw [decodeUtf8_utf8, decodeUtf8_utf8] at sameDecoded
        exact text_injective (Option.some.inj sameDecoded)
  have read := stored.transcript transcript holds.1
  rw [sameText, stored.transcript other again.1] at read
  exact (Option.some.inj read).symm

/-- All stages of a job read one transcript. -/
theorem oneTranscript (stored : ReadsStored config.handlers isFloat)
    (collisionFree : Set.InjOn (sha256Hex config.handlers) contents) (events : List PipelineEvent)
    (request : VideoRequest) (jobId : String) :
    OneTranscript config.handlers isFloat contents request (HeardFor config events jobId) := by
  intro transcript other read again
  obtain ⟨_, artifact, told, holds⟩ := read
  obtain ⟨_, artifactAgain, toldAgain, holdsAgain⟩ := again
  have kept := transcriptsStored_after config events
  obtain ⟨mem, key⟩ := kept.read _ _ _ told
  obtain ⟨memAgain, keyAgain⟩ := kept.read _ _ _ toldAgain
  have keyed := (provisioned_after config events).formed.keyed
  obtain rfl : artifact = artifactAgain :=
    List.inj_on_of_nodup_map keyed.artifactKeys mem memAgain (key.trans keyAgain.symm)
  exact holdsTranscript_unique stored collisionFree holds holdsAgain

/-! ## Answers -/

section

variable {owner : String} {job : Job} {rest : Stage} {snapshot : Option PipelineDb} {now : Time}
  {outside : ∀ call, Answer call} {call : Call}

/-- The rows a worker's session reads. -/
theorem view_sourced (sourced : PipelineSourced config isFloat contents past pipeline)
    (working : pipeline.workers owner = some ⟨.handling job rest, snapshot⟩) :
    ∀ artifact ∈ (snapshot.getD pipeline.db).jobs.artifacts, RowSourced config isFloat contents past
      pipeline.db.jobs artifact.jobId artifact.toArtifactRecord := by
  obtain ⟨_, seen, _⟩ := sourced.workers owner _ working
  cases snapshot with
  | none => exact sourced.rows
  | some db => exact seen db rfl

theorem sourceRow_answer (sourced : PipelineSourced config isFloat contents past pipeline)
    (working : pipeline.workers owner = some ⟨.handling job rest, snapshot⟩) {value : Answer call}
    (given : (answerCall config pipeline owner job snapshot now outside call).answer = some value) :
    SourceRow config.handlers isFloat contents job (HeardFor config past job.jobId) call value := by
  cases call with
  | getArtifact artifactType inputFingerprint =>
    cases given
    intro artifact found
    obtain ⟨mem, key⟩ := findArtifact_key found
    simp only [artifactKey, Prod.mk.injEq] at key
    obtain ⟨owned, type, fingerprint⟩ := key
    obtain ⟨requested, _, _⟩ := sourced.workers owner _ working
    have row := view_sourced sourced working artifact mem
    rw [owned] at row
    exact ⟨type, fingerprint, (rowSourced_requested requested rfl).1 row⟩
  | _ => trivial

theorem sourceRow_mono {env : HandlerEnv} {facts more : Set Heard} (known : facts ⊆ more)
    {value : Answer call} (row : SourceRow env isFloat contents job facts call value) :
    SourceRow env isFloat contents job more call value := by
  cases call with
  | getArtifact artifactType inputFingerprint =>
    intro artifact found
    obtain ⟨type, fingerprint, record⟩ := row artifact found
    exact ⟨type, fingerprint, record.mono known⟩
  | _ => trivial

end

/-! ## One event -/

section

variable (sourced : PipelineSourced config isFloat contents past (after config past))
  (event : PipelineEvent)

include sourced

theorem rows_sourced_step :
    ∀ artifact ∈ ((after config past).step config event).db.jobs.artifacts,
      RowSourced config isFloat contents (past ++ [event])
        ((after config past).step config event).db.jobs artifact.jobId artifact.toArtifactRecord := by
  have keyed := sourced.provisioned.formed.keyed
  have old : ∀ artifact ∈ (after config past).db.jobs.artifacts,
      RowSourced config isFloat contents (past ++ [event])
        ((after config past).step config event).db.jobs artifact.jobId artifact.toArtifactRecord :=
    fun artifact mem => (sourced.rows artifact mem).lasts keyed event
  intro artifact mem
  have moved := @step_artifacts config _ keyed event
  generalize ((after config past).step config event).db.jobs.artifacts = artifacts at moved mem
  cases moved with
  | unchanged => exact old artifact mem
  | @checkpointed owner now outside job stage artifactType inputFingerprint payloadJson _ next _
      working =>
    rcases checkpointed_row keyed mem with before | ⟨key, payload⟩
    · exact old artifact before
    · simp only [artifactKey, Prod.mk.injEq] at key
      obtain ⟨owned, type, fingerprint⟩ := key
      obtain ⟨_, supplied, _⟩ := sourced.provisioned.workers _ _ working
      obtain ⟨requested, _, upholds⟩ := sourced.workers _ _ working
      have requestedNow := @Requested.lasts config _ keyed (.answer owner now outside) _ requested
      rw [rowSourced_requested requestedNow owned.symm]
      have permitted : SourceText config.handlers isFloat contents job.request
          (HeardFor config past job.jobId) artifactType inputFingerprint payloadJson := upholds.1
      have known := @heardFor_mono config past (.answer owner now outside) job.jobId
      constructor
      · intro raw held
        rw [payload] at held
        cases held
        rw [type, fingerprint, owned]
        exact permitted.mono known
      · -- A checkpoint has its text in its row.
        intro contentHash _
        rw [type]
        rcases supplied.1 with rfl | rfl
        · trivial
        · trivial
  | @registered owner dueNow now job outcome snapshot record working registers =>
    rcases registered_row mem with before | ⟨owned, recorded⟩
    · exact old artifact before
    · rw [recorded, owned]
      exact (sourced.workers _ _ working record registers).lasts keyed _

theorem worker_sourced_step (collisionFree : Set.InjOn (sha256Hex config.handlers) contents)
    (stored : ReadsStored config.handlers isFloat)
    (honest : HonestEvent config isFloat contents (after config past) event) {owner : String}
    {run : WorkerRun} (works : ((after config past).step config event).workers owner = some run) :
    WorkerSourced config isFloat contents (past ++ [event])
      ((after config past).step config event).db.jobs run := by
  have keyed := sourced.provisioned.formed.keyed
  have moves := @step_worker config _ keyed owner event
  rw [works] at moves
  cases moves with
  | unchanged working quiet =>
    have before := sourced.workers owner run working
    rcases run with ⟨stage, snapshot⟩
    cases stage with
    | handling job rest =>
      obtain ⟨requested, seen, upholds⟩ := before
      refine ⟨requested.lasts keyed event, fun db reads artifact mem => ?_, ?_⟩
      · exact (seen db reads artifact mem).lasts keyed event
      · exact Process.upholds_mono sourceExit_lasts (heardFor_mono event _) upholds
    | returned job outcome =>
      intro artifact held
      exact (before artifact held).lasts keyed event
    | failing job loaded detail => trivial
  | @begun _ job _ found begins =>
    unfold beginStage at begins
    split at begins
    · cases begins
    · split at begins
      next handler handles =>
        cases begins
        exact ⟨⟨job, found, rfl⟩, (fun _ absent => nomatch absent),
          productionHandler_sourced collisionFree stored handles⟩
      next =>
        cases begins
        trivial
  | @answered now outside job call next snapshot value working given =>
    obtain ⟨requested, seen, upholds⟩ := sourced.workers owner _ working
    have known := @heardFor_mono config past (.answer owner now outside) job.jobId
    have gives : Gives config (after config past) (.answer owner now outside) job.jobId
        (heard call value) := ⟨owner, now, outside, job, next, snapshot, rfl, working, rfl, given⟩
    refine ⟨requested.lasts keyed _, fun db reads artifact mem => ?_, ?_⟩
    · rcases answerCall_snapshot _ owner job snapshot now outside call db reads with old | rfl
      · exact (seen db old artifact mem).lasts keyed _
      · exact (sourced.rows artifact mem).lasts keyed _
    · apply Process.upholds_answered upholds known
      · refine ⟨stocked_answer (handling_view sourced.provisioned working) given, ?_, ?_, ?_⟩
        · exact honest job.jobId (heard call value) gives
        · exact sourceRow_mono known (sourceRow_answer sourced working given)
        · exact oneTranscript stored collisionFree _ job.request job.jobId
      · exact Set.singleton_subset_iff.2 (heardFor_now gives)
  | broke => trivial
  | @refreshed job row outcome snapshot working found =>
    obtain ⟨requested, _, ended⟩ := sourced.workers owner _ working
    intro artifact registers
    have source := ended outcome rfl artifact (outcomeArtifact_held registers).2
    rw [JobsDb.jobId_of_findJob found]
    exact ((rowSourced_requested requested rfl).2 source).lasts keyed _

end

/-- It holds after every run of honest answers. -/
theorem sourced_after (stored : ReadsStored config.handlers isFloat)
    (collisionFree : Set.InjOn (sha256Hex config.handlers) contents) {events : List PipelineEvent}
    (honest : Meets (step config) (HonestEvent config isFloat contents) {} events) :
    PipelineSourced config isFloat contents events (after config events) := by
  refine @run_history_of_meets _ _ (step config) (HonestEvent config isFloat contents) {}
    (PipelineSourced config isFloat contents) ?_ ?_ events honest
  · exact
      { provisioned := provisioned_after config []
        rows := fun _ mem => nomatch mem
        workers := fun _ _ works => nomatch works }
  · intro past event admitted sourced
    exact
      { provisioned := provisioned_step sourced.provisioned event
        rows := rows_sourced_step sourced event
        workers := fun _ _ works =>
          worker_sourced_step sourced event collisionFree stored admitted works }

/-- With the source's own functions for the texts, a hash for each content and honest answers,
every artifact of a job has its sources among the answers that workers on this job were
given, and so has every index entry that a worker writes. -/
theorem index_entries_have_sources (content : ContentEnv) (deep : 3 ≤ content.jsonDepth)
    (config : PipelineConfig) (served : config.handlers = content.handlers) (contents : Set Bytes)
    (collisionFree : Set.InjOn (sha256Hex config.handlers) contents) (events : List PipelineEvent)
    (honest : Meets (step config) (HonestEvent config content.floats.isFloat contents) {} events) :
    (∀ owner job columns body next snapshot, (after config events).workers owner =
        some ⟨.handling job (.ask (.indexReport columns body) next), snapshot⟩ →
      ∃ row, (after config events).db.jobs.findJob job.jobId = some row ∧
        SourceEntry config.handlers row.request (HeardFor config events job.jobId) columns body) ∧
    ∀ artifact ∈ (after config events).db.jobs.artifacts,
      ∃ row, (after config events).db.jobs.findJob artifact.jobId = some row ∧
        SourceRecord config.handlers content.floats.isFloat contents row.request
          (HeardFor config events artifact.jobId) artifact.toArtifactRecord := by
  have stored : ReadsStored config.handlers content.floats.isFloat := by
    rw [served]
    exact readsStored_content deep
  have sourced := sourced_after stored collisionFree honest
  refine ⟨fun owner job columns body next snapshot working => ?_, sourced.rows⟩
  obtain ⟨⟨row, found, same⟩, _, upholds⟩ := sourced.workers owner _ working
  refine ⟨row, found, ?_⟩
  rw [same]
  exact upholds.1

/-! ## A video with subtitles -/

def toldTranscript : Transcript where
  segments := [⟨0, 1, "one"⟩]
  language := "en"
  source := "subtitles"

def toldReport : ReportDocument where
  analysisId := text "job-1"
  sourceUrl := text sampleUrl
  platform := text "bilibili"
  videoId := text "BV1GJ411x7h7"
  title := text "T"
  analyzedAt := sampleAnswers .utcNow
  summaryMode := text "auto"
  language := text "en"
  coreSummary := text "S"
  keyTakeaways := [text "T"]
  timelineOutline := text "O"
  contentAnalysis := text "A"
  named := by decide
  known := auto_known
  zoned := ⟨rfl, fun d mem => absurd mem (Option.not_mem_none d)⟩

def toldTranscriptFile : Bytes :=
  (Json.dumps (sampleContent.transcriptDocument toldTranscript)).flatMap encodedForm

def toldReportFile : Bytes := (encodeUtf8 (renderMarkdown toldReport)).getD []

/-- SHA-256 of the chunk, the URL, the key of the chunk and the two files, by their lengths. -/
def toldDigests : List (Nat × Nat) :=
  [(3, 0x7692c3ad3540bb803c020b3aee66cd8887123234ea0c6e7143c0add73ff431ed),
    (43, 0x421eb344521c317ff2dbc5616490e15a7a06eea0e11cfee271e6de9557d8e04d),
    (68, 0xf84f26d48617c57b6a0b230cadd3ac015a79254f05fe410da4a69e8adb09dbc9),
    (98, 0x529ac53d4cf4030aaabeb536e9bd2c9349fdd04907e7f8970f6bb455d6b1f6e2),
    (483, 0xec0a2d762255aa22179ed4f2fb5353db1883fd015b571ec8ee7fabf048e48737)]

def toldContent : ContentEnv :=
  { sampleContent with
    report :=
      { sampleContent.report with
        sha256 := fun data =>
          ((toldDigests.find? fun entry => entry.1 = data.length).map fun entry =>
            hexDigest entry.2).getD [] } }

def toldConfig : PipelineConfig := { sampleConfig with handlers := toldContent.handlers }

/-- A platform that has subtitles, a model that answers, and a disk that keeps both files. -/
def keptAnswers (env : HandlerEnv) (transcriptFile reportFile : Bytes) (completion : String) :
    ∀ call, Answer call
  | .fetchTranscript _ => .ok toldTranscript
  | .writeFile _ content => .written (sha256Hex env content) content.length
  | .readFile _ _ => transcriptFile
  | .complete _ => .ok completion
  | .writeReport filename _ _ => .ok ⟨filename, env.report.sha256 reportFile, false⟩
  | .readReport _ _ => .ok reportFile
  | call => sampleAnswers call

def toldAnswers (completion : String) : ∀ call, Answer call :=
  keptAnswers toldContent.handlers toldTranscriptFile toldReportFile completion

def toldStage (calls : Nat) (completion : String) : List PipelineEvent :=
  List.replicate calls (.answer "worker-a" 0 (toldAnswers completion)) ++
    [.refresh "worker-a", .settle "worker-a" 0 0]

def toldSynthesis : String :=
  "\x7b\"core_summary\":\"S\",\"key_takeaways\":[\"T\"]," ++
    "\"timeline_outline\":\"O\",\"content_analysis\":\"A\"\x7d"

/-- From the submission to the index entry. -/
def toldRun : List PipelineEvent :=
  [.submitVideo (sampleSubmission "job-1" 0), .claim "worker-a" 0] ++ toldStage 1 "S" ++
    toldStage 2 "S" ++ toldStage 2 "S" ++ toldStage 1 "S" ++ toldStage 8 "S" ++
    toldStage 8 toldSynthesis ++ List.replicate 3 (.answer "worker-a" 0 (toldAnswers toldSynthesis))

/-- The call is one that these answers are honest for. -/
def keptCall (env : HandlerEnv) (transcriptFile reportFile : Bytes) : Call → Bool
  | .writeFile _ content => content = transcriptFile
  | .readFile _ contentHash => sha256Hex env transcriptFile = contentHash
  | .writeReport _ markdown _ => encodeUtf8 markdown = some reportFile
  | .readReport _ contentHash => env.report.sha256 reportFile = contentHash
  | _ => true

/-- The worker waits for its index entry. -/
def indexes (pipeline : Pipeline) (owner : String) : Bool :=
  match pipeline.workers owner with
  | some ⟨.handling _ (.ask (.indexReport _ _) _), _⟩ => true
  | _ => false

/-- The calls of the workers are such, and a worker that dies was about to index. -/
def toldEvent (pipeline : Pipeline) : PipelineEvent → Bool
  | .answer owner _ _ =>
    match pipeline.workers owner with
    | some ⟨.handling _ (.ask call _), _⟩ =>
      keptCall toldContent.handlers toldTranscriptFile toldReportFile call
    | _ => true
  | .die owner => indexes pipeline owner
  | _ => true

theorem toldEvent_die (pipeline : Pipeline) (owner : String) :
    toldEvent pipeline (.die owner) = indexes pipeline owner := rfl

theorem keptAnswers_honest {env : HandlerEnv} {transcriptFile reportFile : Bytes} {call : Call}
    (completion : String) (kept : keptCall env transcriptFile reportFile call = true) :
    Honest env sampleFloats.isFloat {transcriptFile, reportFile} call
      (keptAnswers env transcriptFile reportFile completion call) := by
  cases call with
  | fetchMetadata ref =>
    intro metadata given
    cases given
    intro x absent
    cases absent
  | fetchTranscript ref =>
    intro transcript given
    cases given
    intro segment mem
    rw [List.mem_singleton.1 mem]
    exact ⟨.inl rfl, .inr rfl⟩
  | transcribe =>
    refine ⟨fun _ mem => (nomatch mem), fun result ended => ?_⟩
    cases ended
  | writeFile relativePath content =>
    intro contentHash byteSize given
    cases given
    exact ⟨Set.mem_insert_iff.2 (.inl (of_decide_eq_true kept)), rfl⟩
  | readFile relativePath contentHash =>
    exact ⟨Set.mem_insert _ _, of_decide_eq_true kept⟩
  | writeReport filename markdown previousHash =>
    intro written content given encoded
    cases given
    obtain rfl := Option.some.inj ((of_decide_eq_true kept).symm.trans encoded)
    exact ⟨Set.mem_insert_of_mem _ (Set.mem_singleton _), rfl⟩
  | readReport relativePath contentHash =>
    intro content given
    cases given
    exact ⟨Set.mem_insert_of_mem _ (Set.mem_singleton _), of_decide_eq_true kept⟩
  | _ => trivial

theorem honestEvent_told {pipeline : Pipeline} {event : PipelineEvent}
    (answers : ∀ owner now outside, event = .answer owner now outside →
      ∃ completion, outside = toldAnswers completion)
    (told : toldEvent pipeline event = true) :
    HonestEvent toldConfig toldContent.floats.isFloat {toldTranscriptFile, toldReportFile} pipeline
      event := by
  intro jobId fact gives
  obtain ⟨owner, now, outside, job, next, snapshot, rfl, working, _, given⟩ := gives
  obtain ⟨completion, rfl⟩ := answers owner now outside rfl
  obtain ⟨call, value⟩ := fact
  unfold toldEvent at told
  simp only [working] at told
  exact honest_answered (keptAnswers_honest completion told) given

theorem honest_of_told {events : List PipelineEvent} {pipeline : Pipeline}
    (answers : ∀ event ∈ events, ∀ owner now outside, event = .answer owner now outside →
      ∃ completion, outside = toldAnswers completion)
    (told : Meets (step toldConfig) (fun pipeline event => toldEvent pipeline event = true) pipeline
      events) :
    Meets (step toldConfig)
      (HonestEvent toldConfig toldContent.floats.isFloat {toldTranscriptFile, toldReportFile})
      pipeline events := by
  induction events generalizing pipeline with
  | nil => trivial
  | cons event events ih =>
    constructor
    · exact honestEvent_told (answers event List.mem_cons_self) told.1
    · exact ih (fun later mem => answers later (List.mem_cons_of_mem _ mem)) told.2

theorem toldRun_checked :
    Meets (step toldConfig) (fun pipeline event => toldEvent pipeline event = true) {}
      (toldRun ++ [.die "worker-a"]) := by
  decide +kernel

theorem toldRun_honest :
    Meets (step toldConfig)
      (HonestEvent toldConfig toldContent.floats.isFloat {toldTranscriptFile, toldReportFile}) {}
      toldRun := by
  apply honest_of_told
  · simp [toldRun, toldStage, or_imp, forall_and]
  · exact (meets_concat.1 toldRun_checked).1

theorem toldRun_indexes : indexes (after toldConfig toldRun) "worker-a" = true := by
  have last := (meets_concat.1 toldRun_checked).2
  rw [toldEvent_die] at last
  exact last

theorem toldFiles_collisionFree : Set.InjOn (sha256Hex toldConfig.handlers)
    {toldTranscriptFile, toldReportFile} := by
  have apart : sha256Hex toldConfig.handlers toldTranscriptFile ≠
      sha256Hex toldConfig.handlers toldReportFile := by decide +kernel
  intro one oneMem other otherMem same
  simp only [Set.mem_insert_iff, Set.mem_singleton_iff] at oneMem otherMem
  rcases oneMem with first | first <;> rcases otherMem with last | last <;>
    rw [first, last] at same ⊢
  · exact absurd same apart
  · exact absurd same.symm apart

/-- A worker waits for its index entry. -/
theorem working_of_indexes {pipeline : Pipeline} {owner : String}
    (waits : indexes pipeline owner = true) : ∃ job columns body next snapshot,
      pipeline.workers owner =
        some ⟨.handling job (.ask (.indexReport columns body) next), snapshot⟩ := by
  unfold indexes at waits
  split at waits
  next job columns body next snapshot working =>
    exact ⟨job, columns, body, next, snapshot, working⟩
  next => cases waits

/-- The run ends with a worker that writes an index entry, and the entry has its sources. -/
theorem index_entries_have_sources_subtitles :
    ∃ owner job columns body next snapshot, (after toldConfig toldRun).workers owner =
        some ⟨.handling job (.ask (.indexReport columns body) next), snapshot⟩ ∧
      ∃ row, (after toldConfig toldRun).db.jobs.findJob job.jobId = some row ∧
        SourceEntry toldConfig.handlers row.request (HeardFor toldConfig toldRun job.jobId) columns
          body := by
  obtain ⟨job, columns, body, next, snapshot, working⟩ := working_of_indexes toldRun_indexes
  refine ⟨"worker-a", job, columns, body, next, snapshot, working, ?_⟩
  exact (index_entries_have_sources toldContent (by decide) toldConfig rfl _ toldFiles_collisionFree
    toldRun toldRun_honest).1 _ _ _ _ _ _ working

end EvoBlue.Guarantees
