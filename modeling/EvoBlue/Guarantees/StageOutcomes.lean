import EvoBlue.Source.OutcomeEffects

/-!
# Stage outcomes are applied atomically

Applying an outcome makes all the writes of its branch at once, under a live
lease of the worker, or none.
-/

namespace EvoBlue.Guarantees

open EvoBlue.Kernel EvoBlue.Source

/-! ## The status change -/

/-- The worker's owner holds a live lease on the stored job. -/
def LeasedTo (owner : String) (now : Time) (row : Job) : Prop :=
  row.leaseOwner = some owner ∧ leaseLive row now = true

/-- The status change is one of the table, consumes the user's cancellation
request, or is the cancellation the handler reported. -/
def StatusChangeAllowed (row after : Job) (outcome : StageOutcome) : Prop :=
  isValidTransition row.status after.status = true ∨
    after.status = .cancelled ∧
      (row.cancelRequestedAt.isSome = true ∨ outcome.errorCode = some "CANCELLED_BY_USER")

theorem outcomeValues_allowed {view row : Job} {leaseSeconds dueNow now : Time}
    {outcome : StageOutcome} (current : row.status = view.status) (legal : OutcomeLegal view outcome)
    (stored : Job) :
    StatusChangeAllowed row (outcomeValues view row leaseSeconds dueNow now outcome stored)
      outcome := by
  unfold outcomeValues
  by_cases reported : outcome.errorCode = some "CANCELLED_BY_USER"
  · rw [if_pos reported]
    exact .inr ⟨rfl, .inr reported⟩
  · rw [if_neg reported]
    have valid := legal.resolve_left reported
    rw [← current] at valid
    unfold outcomeTarget at valid
    cases failure : outcome.errorCode with
    | some errorCode =>
      rw [failure] at valid
      exact .inl valid
    | none =>
      rw [failure] at valid
      cases targeted : outcome.target with
      | none =>
        rw [targeted] at valid
        exact .inl valid
      | some target =>
        rw [targeted] at valid
        cases outcome.artifact with
        | some artifact => exact .inl valid
        | none =>
          -- A park with a pending cancellation lands in `cancelled` instead.
          by_cases lands : (decide (target = .waitingForModel) &&
              row.cancelRequestedAt.isSome) = true
          · refine .inr ⟨?_, .inl ?_⟩
            · simp [advanceValues, advancedRow, lands]
            · simp only [Bool.and_eq_true] at lands
              exact lands.2
          · left
            simpa [advanceValues, advancedRow, lands] using valid

/-- Applying an outcome leaves both tables as they were, or makes all the writes
of its branch at once; the latter only while the worker holds a live lease, and
for a status change that is allowed. -/
theorem outcome_applied_atomically (db view : JobsDb) (keyed : db.Keyed) (job : Job) (owner : String)
    (leaseSeconds dueNow now : Time) (outcome : StageOutcome) :
    let after := ((applyOutcome job owner leaseSeconds dueNow now outcome).run
      ⟨db, view, .deferred, false⟩).2.durable
    after = db ∨
      ∃ row changed, db.findJob job.jobId = some row ∧
        after = outcomeWritten db job row leaseSeconds dueNow now outcome ∧
        after.findJob job.jobId = some changed ∧
        LeasedTo owner now row ∧ StatusChangeAllowed row changed outcome := by
  intro after
  cases found : db.findJob job.jobId with
  | none =>
    obtain ⟨error, ran⟩ := applyOutcome_missing found view owner leaseSeconds dueNow now outcome
    exact .inl (congrArg (·.2.durable) ran)
  | some row =>
    rcases applyOutcome_settles view owner leaseSeconds dueNow now keyed found outcome with
      ⟨error, ran⟩ | ⟨held, legal, ran⟩
    · exact .inl (congrArg (·.2.durable) ran)
    · have held := held
      simp only [leaseGuard, Bool.and_eq_true, decide_eq_true_eq] at held
      have written : after = outcomeWritten db job row leaseSeconds dueNow now outcome :=
        congrArg (·.2.durable) ran
      have foundAfter := outcomeWritten_findJob found leaseSeconds dueNow now outcome
      rw [← written] at foundAfter
      have current : row.status = _ := held.1.1.2
      exact .inr ⟨row, _, rfl, written, foundAfter, ⟨held.1.2, held.2⟩,
        outcomeValues_allowed current legal _⟩

/-- A claimed job in its first stage, as its worker sees it. -/
def claimedDb : JobsDb :=
  jobsAfter sampleEnv
    [.submitVideo (sampleSubmission "job-1" 0), .claimJob "job-1" "worker-a" 60 1]

def claimedJob : Job :=
  claimChange (submittedJob (sampleSubmission "job-1" 0)
      "ffdefcaecb6392907e33482f936a20ea4dad68b3e4c08fd640512decd4d23ff0"
      "https://www.bilibili.com/video/BV1GJ411x7h7" 1) "worker-a" 60 1
    (submittedJob (sampleSubmission "job-1" 0)
      "ffdefcaecb6392907e33482f936a20ea4dad68b3e4c08fd640512decd4d23ff0"
      "https://www.bilibili.com/video/BV1GJ411x7h7" 1)

def metadataArtifact : ArtifactRecord where
  stage := "fetching_metadata"
  artifactType := "video_metadata"
  inputFingerprint := "3f5f"
  schemaVersion := 1
  storageKind := .inlineJson
  payloadJson := some "\x7b\x7d"

def metadataOutcome : StageOutcome :=
  .success .fetchingSubtitles none (some metadataArtifact)
    (some [(.title, some "A video"), (.platform, some "bilibili")])

/-- The first stage of a job, applied in time. -/
theorem outcome_applied_metadata :
    let after := ((applyOutcome claimedJob "worker-a" 60 10 10 metadataOutcome).run
      ⟨claimedDb, claimedDb, .deferred, false⟩).2.durable
    after = claimedDb ∨
      ∃ row changed, claimedDb.findJob "job-1" = some row ∧
        after = outcomeWritten claimedDb claimedJob row 60 10 10 metadataOutcome ∧
        after.findJob "job-1" = some changed ∧
        LeasedTo "worker-a" 10 row ∧ StatusChangeAllowed row changed metadataOutcome :=
  outcome_applied_atomically claimedDb claimedDb
    (jobsAfter_keyed sampleEnv
      [.submitVideo (sampleSubmission "job-1" 0), .claimJob "job-1" "worker-a" 60 1])
    claimedJob "worker-a" 60 10 10 metadataOutcome

/-- A handler that reports `CANCELLED_BY_USER` cancels a running job no user asked to cancel. -/
theorem reported_cancellation :
    ∃ row changed, claimedDb.findJob "job-1" = some row ∧
      ((applyOutcome claimedJob "worker-a" 60 10 10
        (.fatal "CANCELLED_BY_USER" (some "cancelled") none)).run
          ⟨claimedDb, claimedDb, .deferred, false⟩).2.durable.findJob "job-1" = some changed ∧
      changed.status ≠ row.status ∧ isValidTransition row.status changed.status = false ∧
      row.cancelRequestedAt = none := by
  refine ⟨claimedJob, cancelledRow 10 claimedJob, ?_⟩
  decide +kernel

end EvoBlue.Guarantees
