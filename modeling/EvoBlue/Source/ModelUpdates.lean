import EvoBlue.Source.ModelEffects

/-!
# What an update of a download answers

Each of the five functions that update a download has its condition on the row it finds.
`ModelOp.Fits` names it, and `exec_update` says that the function writes the row when the
condition holds and raises, with nothing written, when it does not.
-/

namespace EvoBlue.Source

open EvoBlue.Kernel

namespace ModelOp

/-- The status the update leaves. -/
def statusAfter (op : ModelOp) (row : ModelDownload) : ModelDownloadStatus :=
  match op with
  | .advance _ toStatus _ _ _ => toStatus
  | .complete _ _ _ _ _ => .completed
  | _ => row.status

/-- The bytes the update leaves on record. -/
def bytesAfter (op : ModelOp) (row : ModelDownload) : Int :=
  match op with
  | .restart _ _ => 0
  | .switchSource _ _ _ _ => 0
  | .progress _ downloadedBytes _ _ _ _ _ => downloadedBytes
  | _ => row.downloadedBytes

/-- What the update asks of the row. -/
def Fits (op : ModelOp) (row : ModelDownload) : Prop :=
  match op with
  | .restart _ _ => isRestartable row.status = true
  | .switchSource _ _ _ _ => isRestartable row.status = true
  | .advance _ toStatus _ _ expectedRevision =>
    isValidDownloadTransition row.status toStatus = true ∧
      (toStatus = .verifying → row.downloadedBytes = row.expectedSizeBytes) ∧
      row.revision = expectedRevision.getD row.revision
  | .progress _ downloadedBytes _ _ _ _ expectedRevision =>
    row.status = .downloading ∧ row.downloadedBytes ≤ downloadedBytes ∧
      (0 ≤ downloadedBytes ∧ downloadedBytes ≤ row.expectedSizeBytes) ∧
      row.revision = expectedRevision.getD row.revision
  | .complete _ modelId version _ _ =>
    row.modelId = modelId ∧ row.version = version ∧
      isValidDownloadTransition row.status .completed = true
  | _ => False

/-- The tables of installations as the update leaves them. -/
def records (op : ModelOp) (store : ModelStore) : ModelStore :=
  match op with
  | .complete _ modelId version installedPath now =>
    (store.recordInstall modelId version installedPath now).pointActive modelId version now
  | _ => store

end ModelOp

theorem records_downloads (op : ModelOp) (store : ModelStore) :
    (op.records store).downloads = store.downloads := by
  cases op with
  | complete operationId modelId version installedPath now =>
    exact recorded_downloads store modelId version installedPath now
  | _ => rfl

/-- The row as the update writes it. -/
structure Rewritten (op : ModelOp) (row after : ModelDownload) : Prop where
  operation : after.operationId = row.operationId
  model : after.modelId = row.modelId
  version : after.version = row.version
  expected : after.expectedSizeBytes = row.expectedSizeBytes
  status : after.status = op.statusAfter row
  bytes : after.downloadedBytes = op.bytesAfter row

inductive UpdateAnswer (store : ModelStore) (op : ModelOp) (row : ModelDownload) :
    Except ModelError (Option ModelDownload) × ModelStore → Prop
  | wrote (fit : op.Fits row) (after : ModelDownload) (rewritten : Rewritten op row after) :
      UpdateAnswer store op row (.ok (some after), (op.records store).replaceDownload after)
  | raised (unfit : ¬ op.Fits row) (error : ModelError) :
      UpdateAnswer store op row (.error error, store)

section

variable {store : ModelStore} {op : ModelOp} {operationId : String} {row : ModelDownload}

/-- A script that insists on its operation answers what its rest answers. -/
theorem answer_of_required {body : ModelDownload → ModelTx ModelDownload}
    (found : store.findDownload operationId = some row)
    (runs : op.exec store = ModelOp.exec.wrote (Tx.atomically (do
      beginModelWrite
      let operation ← requireOperation operationId
      body operation) store))
    (answers : UpdateAnswer store op row
      (((body row).run ⟨store, store, .immediate, false⟩).1.map some,
        ((body row).run ⟨store, store, .immediate, false⟩).2.durable)) :
    UpdateAnswer store op row (op.exec store) := by
  rw [runs, Tx.atomically_guarded, requireOperation_run, found]
  exact answers

/-- The compare-and-swap answers by the revision. -/
theorem answer_of_commit (keyed : store.Keyed) (found : store.findDownload operationId = some row)
    {revision : Int} {values : ModelDownload → ModelDownload} (unrecorded : op.records store = store)
    (fits : row.revision = revision ↔ op.Fits row) (rewritten : Rewritten op row (values row)) :
    let outcome := (commitRevision operationId revision values).run ⟨store, store, .immediate, false⟩
    UpdateAnswer store op row (outcome.1.map some, outcome.2.durable) := by
  intro outcome
  have ran : outcome = _ := commitRevision_run keyed found revision rewritten.operation
  rw [ran]
  split
  next current =>
    have wrote : UpdateAnswer store op row
        (.ok (some (values row)), (op.records store).replaceDownload (values row)) :=
      .wrote (fits.1 current) (values row) rewritten
    rw [unrecorded] at wrote
    exact wrote
  next stale => exact .raised (fun fit => stale (fits.2 fit)) _

theorem restart_answer (keyed : store.Keyed) (found : store.findDownload operationId = some row)
    (now : ℚ) :
    UpdateAnswer store (.restart operationId now) row ((ModelOp.restart operationId now).exec store) := by
  refine answer_of_required found rfl ?_
  split
  next may =>
    apply answer_of_commit keyed found rfl
    · exact iff_of_true rfl may
    · exact ⟨rfl, rfl, rfl, rfl, rfl, rfl⟩
  next refused =>
    refine .raised (fun fit => ?_) _
    exact refused fit

theorem switchSource_answer (keyed : store.Keyed) (found : store.findDownload operationId = some row)
    (sourceUrl sourceKind : String) (now : ℚ) :
    UpdateAnswer store (.switchSource operationId sourceUrl sourceKind now) row
      ((ModelOp.switchSource operationId sourceUrl sourceKind now).exec store) := by
  refine answer_of_required found rfl ?_
  split
  next may =>
    apply answer_of_commit keyed found rfl
    · exact iff_of_true rfl may
    · exact ⟨rfl, rfl, rfl, rfl, rfl, rfl⟩
  next refused =>
    refine .raised (fun fit => ?_) _
    exact refused fit

theorem advance_answer (keyed : store.Keyed) (found : store.findDownload operationId = some row)
    (toStatus : ModelDownloadStatus) (now : ℚ) (columns : DownloadColumns)
    (expectedRevision : Option Int) :
    UpdateAnswer store (.advance operationId toStatus now columns expectedRevision) row
      ((ModelOp.advance operationId toStatus now columns expectedRevision).exec store) := by
  refine answer_of_required found rfl ?_
  split
  next valid =>
    split
    next short =>
      refine .raised (fun fit => ?_) _
      exact short.2 (fit.2.1 short.1)
    next checked =>
      have full : toStatus = .verifying → row.downloadedBytes = row.expectedSizeBytes :=
        fun verifying => Decidable.byContradiction fun short => checked ⟨verifying, short⟩
      apply answer_of_commit keyed found rfl
      · constructor
        · exact fun current => ⟨valid, full, current⟩
        · exact fun fit => fit.2.2
      · exact ⟨rfl, rfl, rfl, rfl, rfl, rfl⟩
  next invalid =>
    refine .raised (fun fit => ?_) _
    exact invalid fit.1

theorem progress_answer (keyed : store.Keyed) (found : store.findDownload operationId = some row)
    (downloadedBytes : Int) (now : ℚ) (tempPath etag lastModified : Option String)
    (expectedRevision : Option Int) :
    let op : ModelOp :=
      .progress operationId downloadedBytes now tempPath etag lastModified expectedRevision
    UpdateAnswer store op row (op.exec store) := by
  intro op
  refine answer_of_required found rfl ?_
  split
  next other =>
    refine .raised (fun fit => ?_) _
    exact other fit.1
  next downloading =>
    split
    next less =>
      refine .raised (fun fit => ?_) _
      have grown := fit.2.1
      omega
    next grown =>
      split
      next bounds =>
        apply answer_of_commit keyed found rfl
        · constructor
          · intro current
            exact ⟨Decidable.not_not.1 downloading, Int.not_lt.1 grown, bounds, current⟩
          · exact fun fit => fit.2.2.2
        · exact ⟨rfl, rfl, rfl, rfl, rfl, rfl⟩
      next range =>
        refine .raised (fun fit => ?_) _
        exact range fit.2.2.1

theorem complete_answer (keyed : store.Keyed) (found : store.findDownload operationId = some row)
    (modelId version installedPath : String) (now : ℚ) :
    let op : ModelOp := .complete operationId modelId version installedPath now
    UpdateAnswer store op row (op.exec store) := by
  intro op
  refine answer_of_required found rfl ?_
  split
  next wrong =>
    refine .raised (fun fit => ?_) _
    exact wrong.elim (fun model => model fit.1) fun version => version fit.2.1
  next same =>
    split
    next valid =>
      rw [Tx.write_bind_run, Tx.begun_immediate]
      have kept := records_downloads op store
      have foundRecorded : (op.records store).findDownload operationId = some row := by
        unfold ModelStore.findDownload at found ⊢
        rw [kept]
        exact found
      have keyedRecorded : (op.records store).Keyed := by
        unfold ModelStore.Keyed at keyed ⊢
        rw [kept]
        exact keyed
      have ran : (commitRevision operationId row.revision (completedDownload row.revision now)).run
          ⟨store, op.records store, .immediate, true⟩ = _ :=
        commitRevision_run keyedRecorded foundRecorded row.revision rfl
      change UpdateAnswer store op row (((commitRevision operationId row.revision
        (completedDownload row.revision now)).run ⟨store, op.records store, .immediate, true⟩).1.map some,
        ((commitRevision operationId row.revision (completedDownload row.revision now)).run
          ⟨store, op.records store, .immediate, true⟩).2.durable)
      rw [ran, if_pos rfl]
      refine .wrote ?_ _ ⟨rfl, rfl, rfl, rfl, rfl, rfl⟩
      refine ⟨?_, ?_, valid⟩
      · exact Decidable.byContradiction fun other => same (.inl other)
      · exact Decidable.byContradiction fun other => same (.inr other)
    next invalid =>
      refine .raised (fun fit => ?_) _
      exact invalid fit.2.2

/-- An update writes exactly the rows that fit. -/
theorem exec_update (keyed : store.Keyed) (names : op.updates = some operationId)
    (found : store.findDownload operationId = some row) :
    UpdateAnswer store op row (op.exec store) := by
  cases op with
  | restart named now =>
    cases names
    exact restart_answer keyed found now
  | advance named toStatus now columns expectedRevision =>
    cases names
    exact advance_answer keyed found toStatus now columns expectedRevision
  | progress named downloadedBytes now tempPath etag lastModified expectedRevision =>
    cases names
    exact progress_answer keyed found downloadedBytes now tempPath etag lastModified expectedRevision
  | switchSource named sourceUrl sourceKind now =>
    cases names
    exact switchSource_answer keyed found sourceUrl sourceKind now
  | complete named modelId version installedPath now =>
    cases names
    exact complete_answer keyed found modelId version installedPath now
  | create | activate | saveInstall | uninstall => cases names

/-- An operation that is not there is not updated. -/
theorem exec_missing (names : op.updates = some operationId)
    (missing : store.findDownload operationId = none) :
    op.exec store = (.error (.keyError operationId), store) := by
  have required : ∀ body : ModelDownload → ModelTx ModelDownload,
      ModelOp.exec.wrote (Tx.atomically (do
        beginModelWrite
        let operation ← requireOperation operationId
        body operation) store) = (.error (.keyError operationId), store) := by
    intro body
    rw [Tx.atomically_guarded, requireOperation_run, missing]
    rfl
  cases op with
  | restart | advance | progress | switchSource | complete =>
    cases names
    exact required _
  | create | activate | saveInstall | uninstall => cases names

end

end EvoBlue.Source
