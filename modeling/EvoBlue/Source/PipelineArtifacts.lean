import EvoBlue.Source.PipelineMoves

/-!
# What an event does to the registered artifacts

An event leaves the artifacts alone, saves a checkpoint for a handler, or
registers the artifact of an outcome. A key that is taken stays taken.
-/

namespace EvoBlue.Source

open EvoBlue.Kernel

/-- The columns of the unique constraint of `job_artifacts`. -/
def artifactKey (artifact : JobArtifact) : String × String × String :=
  (artifact.jobId, artifact.artifactType, artifact.inputFingerprint)

/-- An artifact is registered under the key. -/
def JobsDb.Holds (db : JobsDb) (key : String × String × String) : Prop :=
  key ∈ db.artifacts.map artifactKey

section

variable {db : JobsDb}

theorem findArtifact_key {jobId artifactType inputFingerprint : String} {artifact : JobArtifact}
    (found : db.findArtifact jobId artifactType inputFingerprint = some artifact) :
    artifact ∈ db.artifacts ∧ artifactKey artifact = (jobId, artifactType, inputFingerprint) := by
  have named := List.find?_some found
  simp only [decide_eq_true_eq] at named
  obtain ⟨rfl, rfl, rfl⟩ := named
  exact ⟨List.mem_of_find?_eq_some found, rfl⟩

/-- A key that is taken is found. -/
theorem JobsDb.Holds.found {jobId artifactType inputFingerprint : String}
    (holds : db.Holds (jobId, artifactType, inputFingerprint)) :
    ∃ artifact, db.findArtifact jobId artifactType inputFingerprint = some artifact := by
  obtain ⟨artifact, mem, named⟩ := List.mem_map.1 holds
  simp only [artifactKey, Prod.mk.injEq] at named
  cases found : db.findArtifact jobId artifactType inputFingerprint with
  | some artifact => exact ⟨artifact, rfl⟩
  | none =>
    have absent := List.find?_eq_none.1 found artifact mem
    simp [named] at absent

theorem holds_of_found {jobId artifactType inputFingerprint : String} {artifact : JobArtifact}
    (found : db.findArtifact jobId artifactType inputFingerprint = some artifact) :
    db.Holds (jobId, artifactType, inputFingerprint) := by
  obtain ⟨mem, named⟩ := findArtifact_key found
  exact named ▸ List.mem_map_of_mem mem

theorem JobsDb.Holds.registered {key : String × String × String} (holds : db.Holds key)
    (jobId : String) (now : Time) (record : ArtifactRecord) :
    (db.registerArtifact jobId now record).Holds key := by
  unfold JobsDb.registerArtifact
  split
  · unfold JobsDb.Holds JobsDb.insertArtifact
    simp only [List.map_append]
    exact List.mem_append_left _ holds
  · exact holds

/-- What is registered is there afterwards. -/
theorem holds_registered (db : JobsDb) (jobId : String) (now : Time) (record : ArtifactRecord) :
    (db.registerArtifact jobId now record).Holds
      (jobId, record.artifactType, record.inputFingerprint) := by
  unfold JobsDb.registerArtifact
  split
  · unfold JobsDb.Holds JobsDb.insertArtifact
    simp [artifactKey]
  next artifact found => exact holds_of_found found

theorem JobsDb.Holds.checkpointed {key : String × String × String} (holds : db.Holds key)
    (jobId : String) (now : Time) (stage artifactType inputFingerprint : String)
    (schemaVersion : Nat) (payloadJson : String) :
    (db.upsertCheckpoint jobId now stage artifactType inputFingerprint schemaVersion
      payloadJson).Holds key := by
  unfold JobsDb.upsertCheckpoint
  split
  next existing found =>
    unfold JobsDb.Holds
    rw [List.map_map, List.map_congr_left fun row _ => ?_]
    · exact holds
    · simp only [Function.comp, artifactKey]
      split <;> rfl
  next =>
    unfold JobsDb.Holds JobsDb.insertArtifact
    simp only [List.map_append]
    exact List.mem_append_left _ holds

/-- Rows with one id are one row. -/
theorem JobsDb.Keyed.artifact_eq (keyed : db.Keyed) {artifact other : JobArtifact}
    (mem : artifact ∈ db.artifacts) (otherMem : other ∈ db.artifacts) (same : artifact.id = other.id) :
    artifact = other :=
  List.inj_on_of_nodup_map keyed.artifactIds mem otherMem same

/-- A row after a checkpoint was there before, or is the checkpoint. -/
theorem checkpointed_row (keyed : db.Keyed) {jobId stage artifactType inputFingerprint payloadJson :
    String} {now : Time} {schemaVersion : Nat} {artifact : JobArtifact}
    (mem : artifact ∈ (db.upsertCheckpoint jobId now stage artifactType inputFingerprint schemaVersion
      payloadJson).artifacts) :
    artifact ∈ db.artifacts ∨
      artifactKey artifact = (jobId, artifactType, inputFingerprint) ∧
        artifact.payloadJson = some payloadJson := by
  unfold JobsDb.upsertCheckpoint at mem
  split at mem
  next existing found =>
    obtain ⟨existingMem, named⟩ := findArtifact_key found
    obtain ⟨row, rowMem, rfl⟩ := List.mem_map.1 mem
    split
    next same =>
      obtain rfl := keyed.artifact_eq rowMem existingMem same
      exact .inr ⟨named, rfl⟩
    next => exact .inl rowMem
  next =>
    unfold JobsDb.insertArtifact at mem
    rcases List.mem_append.1 mem with old | new
    · exact .inl old
    · rw [List.mem_singleton.1 new]
      exact .inr ⟨rfl, rfl⟩

/-- A row of another type is left as it is. -/
theorem mem_checkpointed (keyed : db.Keyed) {artifactType : String} {artifact : JobArtifact}
    (mem : artifact ∈ db.artifacts) (other : artifact.artifactType ≠ artifactType) (jobId : String)
    (now : Time) (stage inputFingerprint : String) (schemaVersion : Nat) (payloadJson : String) :
    artifact ∈ (db.upsertCheckpoint jobId now stage artifactType inputFingerprint schemaVersion
      payloadJson).artifacts := by
  unfold JobsDb.upsertCheckpoint
  split
  next existing found =>
    obtain ⟨existingMem, named⟩ := findArtifact_key found
    apply List.mem_map.2
    refine ⟨artifact, mem, if_neg ?_⟩
    intro same
    obtain rfl := keyed.artifact_eq mem existingMem same
    simp only [artifactKey, Prod.mk.injEq] at named
    exact other named.2.1
  next => exact List.mem_append_left _ mem

/-- A row after a registration was there before, or is the registered one. -/
theorem registered_row {jobId : String} {now : Time} {record : ArtifactRecord}
    {artifact : JobArtifact} (mem : artifact ∈ (db.registerArtifact jobId now record).artifacts) :
    artifact ∈ db.artifacts ∨ artifact.jobId = jobId ∧ artifact.toArtifactRecord = record := by
  unfold JobsDb.registerArtifact at mem
  split at mem
  · unfold JobsDb.insertArtifact at mem
    rcases List.mem_append.1 mem with old | new
    · exact .inl old
    · rw [List.mem_singleton.1 new]
      exact .inr ⟨rfl, rfl⟩
  · exact .inl mem

theorem mem_registered {artifact : JobArtifact} (mem : artifact ∈ db.artifacts) (jobId : String)
    (now : Time) (record : ArtifactRecord) :
    artifact ∈ (db.registerArtifact jobId now record).artifacts := by
  unfold JobsDb.registerArtifact
  split
  · exact List.mem_append_left _ mem
  · exact mem

end

/-- The operations that register nothing and save no checkpoint. -/
def JobOp.savesNothing : JobOp → Bool
  | .commitArtifactAndAdvance _ _ _ _ _ _ _ => false
  | .saveArtifactInline _ _ _ _ _ _ _ _ => false
  | _ => true

theorem Effect.artifacts {db after : JobsDb} {op : JobOp} {reply : Except JobError Reply}
    (effect : Effect db op reply after) (nothing : op.savesNothing = true) :
    after.artifacts = db.artifacts := by
  cases effect with
  | committed => cases nothing
  | checkpointed => cases nothing
  | _ => rfl

namespace Pipeline

variable {config : PipelineConfig} {pipeline : Pipeline}

/-- What an event leaves of the artifacts. -/
inductive ArtifactsMove (config : PipelineConfig) (pipeline : Pipeline) :
    PipelineEvent → List JobArtifact → Prop
  | unchanged (event : PipelineEvent) :
      ArtifactsMove config pipeline event pipeline.db.jobs.artifacts
  | checkpointed {owner : String} (now : Time) (outside : ∀ call, Answer call) {job : Job}
      {stage artifactType inputFingerprint payloadJson : String} {schemaVersion : Nat}
      {next : Answer (.saveArtifactInline stage artifactType inputFingerprint schemaVersion
        payloadJson) → Stage} {snapshot : Option PipelineDb}
      (working : pipeline.workers owner = some ⟨.handling job (.ask (.saveArtifactInline stage
        artifactType inputFingerprint schemaVersion payloadJson) next), snapshot⟩) :
      ArtifactsMove config pipeline (.answer owner now outside)
        (pipeline.db.jobs.upsertCheckpoint job.jobId now stage artifactType inputFingerprint
          schemaVersion payloadJson).artifacts
  | registered {owner : String} (dueNow now : Time) {job : Job} {outcome : StageOutcome}
      {snapshot : Option PipelineDb} {artifact : ArtifactRecord}
      (working : pipeline.workers owner = some ⟨.returned job outcome, snapshot⟩)
      (registers : outcomeArtifact outcome = some artifact) :
      ArtifactsMove config pipeline (.settle owner dueNow now)
        (pipeline.db.jobs.registerArtifact job.jobId now artifact).artifacts

theorem operation_artifacts (keyed : pipeline.db.jobs.Keyed) {event : PipelineEvent} {op : JobOp}
    (performs : Performs config pipeline event op) :
    ArtifactsMove config pipeline event (jobStep config.submit pipeline.db.jobs op).artifacts := by
  have effect := exec_effect config.submit keyed op
  unfold jobStep
  have silent : op.savesNothing = true →
      ArtifactsMove config pipeline event (exec config.submit op pipeline.db.jobs).2.artifacts := by
    intro nothing
    rw [effect.artifacts nothing]
    exact .unchanged event
  cases performs with
  | @answer owner now outside job call next snapshot working _ calls =>
    cases call with
    | saveArtifactInline stage artifactType inputFingerprint schemaVersion payloadJson =>
      cases calls
      generalize (exec config.submit _ pipeline.db.jobs).1 = reply at effect
      generalize (exec config.submit _ pipeline.db.jobs).2 = after at effect ⊢
      generalize named : job.jobId = jobId at effect
      cases effect with
      | raised => exact .unchanged _
      | checkpointed => exact named ▸ .checkpointed now outside working
    | pinJobAsrRoute =>
      cases calls
      exact silent rfl
    | renewLease =>
      cases calls
      exact silent rfl
    | _ => cases calls
  | _ => exact silent rfl

/-- The artifacts once an outcome's branch is written. -/
def settledArtifacts (jobs : JobsDb) (jobId : String) (now : Time) (outcome : StageOutcome) :
    List JobArtifact :=
  match outcomeArtifact outcome with
  | some artifact => (jobs.registerArtifact jobId now artifact).artifacts
  | none => jobs.artifacts

theorem outcomeWritten_artifacts (db : JobsDb) (job row : Job) (leaseSeconds dueNow now : Time)
    (outcome : StageOutcome) :
    (outcomeWritten db job row leaseSeconds dueNow now outcome).artifacts =
      settledArtifacts db job.jobId now outcome := by
  unfold outcomeWritten settledArtifacts
  cases outcomeArtifact outcome <;> rfl

/-- Nothing else happens to the artifacts. -/
theorem step_artifacts (keyed : pipeline.db.jobs.Keyed) (event : PipelineEvent) :
    ArtifactsMove config pipeline event (pipeline.step config event).db.jobs.artifacts := by
  cases settles : PipelineEvent.isSettle event with
  | false =>
    rw [step_jobs config pipeline settles]
    cases performs : eventOp config pipeline event with
    | none => exact .unchanged event
    | some op => exact operation_artifacts keyed (performs_of_eventOp performs)
  | true =>
    cases event with
    | settle owner dueNow now =>
      change ArtifactsMove config pipeline _ (pipeline.settle config owner dueNow now).db.jobs.artifacts
      have settled := @settle_settled config _ keyed owner dueNow now
      generalize pipeline.settle config owner dueNow now = after at settled
      cases settled with
      | @applied job row outcome snapshot working =>
        simp only [setWorker_db, outcomeWritten_artifacts, settledArtifacts]
        cases registers : outcomeArtifact outcome with
        | none => exact .unchanged _
        | some artifact => exact .registered dueNow now working registers
      | _ => exact .unchanged _
    | _ => cases settles

/-- A settlement that changed its job has registered the artifact of the outcome. -/
theorem settle_registers (keyed : pipeline.db.jobs.Keyed) {owner : String} {dueNow now : Time}
    {job : Job} {outcome : StageOutcome} {snapshot : Option PipelineDb}
    (working : pipeline.workers owner = some ⟨.returned job outcome, snapshot⟩)
    (changed : (pipeline.step config (.settle owner dueNow now)).db.jobs.findJob job.jobId ≠
      pipeline.db.jobs.findJob job.jobId) {artifact : ArtifactRecord}
    (registers : outcomeArtifact outcome = some artifact) :
    (pipeline.step config (.settle owner dueNow now)).db.jobs.Holds
      (job.jobId, artifact.artifactType, artifact.inputFingerprint) := by
  change (pipeline.settle config owner dueNow now).db.jobs.findJob job.jobId ≠ _ at changed
  change (pipeline.settle config owner dueNow now).db.jobs.Holds _
  have settled := @settle_settled config _ keyed owner dueNow now
  generalize pipeline.settle config owner dueNow now = after at settled changed ⊢
  cases settled with
  | idle unreturned => exact absurd working (unreturned job outcome snapshot)
  | raised => exact absurd rfl changed
  | applied returned =>
    rw [returned] at working
    cases working
    have holds := holds_registered pipeline.db.jobs job.jobId now artifact
    unfold JobsDb.Holds at holds ⊢
    simp only [setWorker_db, outcomeWritten_artifacts, settledArtifacts, registers]
    exact holds
  | broken failing =>
    rw [failing] at working
    cases working

/-- A key that is taken stays taken. -/
theorem ArtifactsMove.holds {event : PipelineEvent} {artifacts : List JobArtifact}
    (moved : ArtifactsMove config pipeline event artifacts) {key : String × String × String}
    (holds : pipeline.db.jobs.Holds key) : key ∈ artifacts.map artifactKey := by
  cases moved with
  | unchanged => exact holds
  | checkpointed => exact holds.checkpointed _ _ _ _ _ _ _
  | registered => exact holds.registered _ _ _

theorem holds_step (keyed : pipeline.db.jobs.Keyed) (event : PipelineEvent)
    {key : String × String × String} (holds : pipeline.db.jobs.Holds key) :
    (pipeline.step config event).db.jobs.Holds key :=
  (@step_artifacts config _ keyed event).holds holds

/-- The URL of a job is never written again. -/
theorem RowMove.url {event : PipelineEvent} {row after : Job}
    (moved : RowMove config pipeline event row after) : after.url = row.url := by
  cases moved with
  | cancelRequested now active =>
    unfold cancelRequestedRow
    split <;> rfl
  | @settled owner dueNow now job _ displayed view outcome snapshot working own shown =>
    obtain ⟨_, _, _, _, _, _, _, _, _, _, same⟩ :=
      outcomeValues_frame view row config.leaseSeconds dueNow now outcome displayed
    obtain ⟨title, platform, subtitleProbe, frame⟩ :=
      displayedRow_frame (outcomeDisplay outcome) row
    rw [same, shown, frame]
  | _ => rfl

/-- Nor is the fingerprint of its configuration. -/
theorem RowMove.configFingerprint {event : PipelineEvent} {row after : Job}
    (moved : RowMove config pipeline event row after) :
    after.configFingerprint = row.configFingerprint := by
  cases moved with
  | cancelRequested now active =>
    unfold cancelRequestedRow
    split <;> rfl
  | @settled owner dueNow now job _ displayed view outcome snapshot working own shown =>
    obtain ⟨_, _, _, _, _, _, _, _, _, _, same⟩ :=
      outcomeValues_frame view row config.leaseSeconds dueNow now outcome displayed
    obtain ⟨title, platform, subtitleProbe, frame⟩ :=
      displayedRow_frame (outcomeDisplay outcome) row
    rw [same, shown, frame]
  | _ => rfl

end Pipeline

end EvoBlue.Source
