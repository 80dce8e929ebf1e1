import EvoBlue.Guarantees.InstallRecords

/-!
# An install from status to status

From an operation under way, the body of the installer goes as the record of its download does,
and then comes to a completed operation or raises with the operation still under way. Only
while it is downloading is it cancelled.
-/

namespace EvoBlue.Guarantees

open EvoBlue.Kernel EvoBlue.Source

/-! ## The statuses -/

/-- What the body leaves when it raises; while it is downloading, that is no cancellation. -/
def Interrupted (config : InstallConfig) (operationId : String) (host : ModelHost)
    (error : InstallError) : Prop :=
  ∃ row, UnderWay config.manifest.modelId host row ∧ row.operationId = operationId ∧
    (error = .cancelled → row.status ≠ .downloading)

/-- The operation that the body has in hand. -/
structure Driven (config : InstallConfig) (operationId : String) (status : ModelDownloadStatus)
    (host : ModelHost) (operation : ModelDownload) : Prop where
  way : UnderWay config.manifest.modelId host operation
  named : operation.operationId = operationId
  status : operation.status = status

section

variable {config : InstallConfig} {operationId : String} {status : ModelDownloadStatus}
  {host : ModelHost} {operation : ModelDownload}

/-- Whatever is raised outside the download. -/
theorem Driven.interrupted (driven : Driven config operationId status host operation)
    (later : status ≠ .downloading) (error : InstallError) :
    Interrupted config operationId host error := by
  refine ⟨operation, driven.way, driven.named, fun _ downloading => ?_⟩
  exact later (driven.status.symm.trans downloading)

theorem interrupted_of_store {row : ModelDownload}
    (way : UnderWay config.manifest.modelId host row) (named : row.operationId = operationId)
    {error : InstallError} (raised : ∃ kind, error = .store kind) :
    Interrupted config operationId host error := by
  obtain ⟨kind, rfl⟩ := raised
  exact ⟨row, way, named, fun cancelled => nomatch cancelled⟩

/-- From one status to the next. -/
theorem follows_advanceTo (way : UnderWay config.manifest.modelId host operation)
    (named : operation.operationId = operationId) {toStatus : ModelDownloadStatus}
    (active : toStatus.isActive = true) (columns : DownloadColumns) :
    (advanceTo operationId toStatus columns).Follows (hosted config.sha256)
      (Driven config operationId toStatus) (Interrupted config operationId) host := by
  refine Attempt.follows_mono (follows_update way ?_ fun _ => active) ?_ ?_
  · intro now
    rw [named]
    rfl
  · rintro after written ⟨now, moved⟩
    exact ⟨moved.way, moved.rewritten.operation.trans named, moved.rewritten.status⟩
  · rintro after error ⟨rfl, raised⟩
    exact interrupted_of_store way named raised

/-- What is raised by a download that is no cancellation. -/
theorem Stands.interrupted {expected recorded : Int} {files : FileTree} {checks requests : Nat}
    {site : InstallSite}
    (stands : Stands config operationId expected files recorded checks requests site)
    {error : InstallError} (other : error ≠ .cancelled) :
    Interrupted config operationId site.1 error := by
  obtain ⟨row, busy, _⟩ := stands.busy
  exact ⟨row, busy.way, busy.named, fun cancelled => absurd cancelled other⟩

/-- The download is recorded as complete, and verified next. -/
theorem follows_verifying {expected recorded : Int} {files : FileTree} {checks requests : Nat}
    {site : InstallSite}
    (stands : Stands config operationId expected files recorded checks requests site) (bytes : Int)
    (columns : DownloadColumns) :
    (do
      let _ ← saveProgress operationId bytes none none none
      advanceTo operationId .verifying columns : ModelTask ModelDownload).Follows
      (hosted config.sha256) (Driven config operationId .verifying) (Interrupted config operationId)
      site.1 := by
  obtain ⟨row, busy, _⟩ := stands.busy
  apply Attempt.follows_bind
  · refine Attempt.follows_mono (follows_update busy.way ?_ fun _ => busy.way.active)
      (fun _ _ saved => saved) ?_
    · intro now
      rw [busy.named]
      rfl
    · rintro after error ⟨rfl, raised⟩
      exact interrupted_of_store busy.way busy.named raised
  · rintro after written ⟨now, moved⟩
    exact follows_advanceTo moved.way (moved.rewritten.operation.trans busy.named) rfl columns

theorem follows_runVerify (driven : Driven config operationId status host operation)
    (downloaded : status = .verifying ∨ status = .installing) :
    (runVerify config operation).Follows (hosted config.sha256)
      (Driven config operationId .installing) (Interrupted config operationId) host := by
  unfold runVerify
  split
  next verifying =>
    apply follows_tempFiles
    apply follows_orRaise
    · intro _ _
      rw [driven.named]
      exact follows_advanceTo driven.way driven.named rfl _
    · intro error _
      refine driven.interrupted ?_ error
      rw [← driven.status, verifying]
      exact ModelDownloadStatus.noConfusion
  next other =>
    apply Attempt.follows_pure
    obtain ⟨way, rfl, rfl⟩ := driven
    exact ⟨way, rfl, downloaded.resolve_left other⟩

theorem follows_runInstall (driven : Driven config operationId .installing host operation) :
    (runInstall config operation).Follows (hosted config.sha256) (Ended config.manifest.modelId)
      (Interrupted config operationId) host := by
  have interrupted : ∀ error, Interrupted config operationId host error :=
    driven.interrupted ModelDownloadStatus.noConfusion
  have completes : ∀ after : ModelHost, after.store = host.store →
      (ModelTask.perform fun now => .complete operation.operationId config.manifest.modelId
        config.manifest.version config.versionDir now).Follows (hosted config.sha256)
        (Ended config.manifest.modelId) (Interrupted config operationId) after := by
    intro after same
    have way : UnderWay config.manifest.modelId after operation := by
      obtain ⟨laws, found, model, active⟩ := driven.way
      rw [← same] at laws found
      exact ⟨laws, found, model, active⟩
    refine Attempt.follows_mono (follows_ending way (fun _ => rfl) fun _ => rfl)
      (fun _ _ ended => ended) ?_
    rintro _ error ⟨rfl, raised, _⟩
    exact interrupted_of_store way driven.named raised
  unfold runInstall
  rw [if_pos driven.status]
  apply follows_tempFiles
  apply follows_orRaise
  · intro staged _
    apply follows_promote
    · exact fun files _ => completes _ rfl
    · exact interrupted
  · exact fun error _ => interrupted error

/-- Once the download is in. -/
theorem follows_installing (driven : Driven config operationId status host operation)
    (downloaded : status = .verifying ∨ status = .installing) :
    (do
      let operation ← runVerify config operation
      runInstall config operation : ModelTask ModelDownload).Follows
      (hosted config.sha256) (Ended config.manifest.modelId) (Interrupted config operationId)
      host := by
  apply Attempt.follows_bind (follows_runVerify driven downloaded)
  intro after current driven
  exact follows_runInstall driven

end

/-! ## The download -/

theorem downloadedBytes_nil (config : InstallConfig) : downloadedBytes config [] = 0 := by
  unfold downloadedBytes fileSetDownloadedBytes
  split
  · simp [existingBytes, FileTree.content]
  · rfl

section

variable {config : InstallConfig} {outside : World} {operationId : String} {host : ModelHost}
  {operation : ModelDownload} {asked : Asked}

/-- What a partial is brought to. -/
theorem runAlone_reconcilePartial (outside : World) (asked : Asked)
    (busy : Busy config operationId host operation) :
    let kept := partialKept config operation host.temp
    ((downloadedBytes config kept : Int) ≤ operation.expectedSizeBytes → ∃ after current,
      runAlone config outside (reconcilePartial config operation) (host, asked) =
        (.ok current, after) ∧
      Stands config operationId operation.expectedSizeBytes kept (downloadedBytes config kept)
        asked.checks asked.requests after ∧
      current.downloadedBytes = downloadedBytes config kept ∧
      current.operationId = operationId) ∧
    (¬ (downloadedBytes config kept : Int) ≤ operation.expectedSizeBytes → ∃ kind after,
      runAlone config outside (reconcilePartial config operation) (host, asked) =
        (.error (.store kind), after) ∧
      Stands config operationId operation.expectedSizeBytes host.temp operation.downloadedBytes
        asked.checks asked.requests after) := by
  intro kept
  have stands : Stands config operationId operation.expectedSizeBytes host.temp
      operation.downloadedBytes asked.checks asked.requests (host, asked) :=
    ⟨⟨operation, busy, rfl, rfl⟩, rfl, rfl, rfl⟩
  have looks : runAlone config outside (reconcilePartial config operation) (host, asked) =
      runAlone config outside (if expectedSize config < downloadedBytes config host.temp then do
          ModelTask.truncateTemp
          restartDownloadOf operation.operationId
        else if operation.downloadedBytes < downloadedBytes config host.temp then
          saveProgress operation.operationId (downloadedBytes config host.temp)
            (some config.tempPath) none none
        else if (downloadedBytes config host.temp : Int) < operation.downloadedBytes then do
          ModelTask.truncateTemp
          restartDownloadOf operation.operationId
        else pure operation) (host, asked) := rfl
  rw [looks, busy.named]
  have thrown : kept = [] → (∃ after current,
      runAlone config outside (ModelTask.truncateTemp >>= fun _ => restartDownloadOf operationId)
        (host, asked) = (.ok current, after) ∧
      Stands config operationId operation.expectedSizeBytes kept (downloadedBytes config kept)
        asked.checks asked.requests after ∧
      current.downloadedBytes = downloadedBytes config kept ∧ current.operationId = operationId) ∧
      (downloadedBytes config kept : Int) ≤ operation.expectedSizeBytes := by
    intro none
    have counted := stands.counted
    rw [none, downloadedBytes_nil]
    refine ⟨?_, by omega⟩
    exact (stands.withFiles []).restart outside
  by_cases large : expectedSize config < downloadedBytes config host.temp
  · obtain ⟨ran, savable⟩ := thrown (if_pos (.inl large))
    rw [if_pos large]
    exact ⟨fun _ => ran, fun unfit => absurd savable unfit⟩
  · rw [if_neg large]
    by_cases ahead : operation.downloadedBytes < downloadedBytes config host.temp
    · have whole : kept = host.temp := if_neg (by omega)
      obtain ⟨saves, refuses⟩ := stands.progress outside
        (Int.natCast_nonneg (downloadedBytes config host.temp)) (some config.tempPath) none none
      rw [if_pos ahead, whole]
      refine ⟨fun savable => ?_, fun unfit => ?_⟩
      · exact saves ⟨ahead.le, savable⟩
      · exact refuses fun savable => unfit savable.2
    · rw [if_neg ahead]
      by_cases behind : (downloadedBytes config host.temp : Int) < operation.downloadedBytes
      · obtain ⟨ran, savable⟩ := thrown (if_pos (.inr behind))
        rw [if_pos behind]
        exact ⟨fun _ => ran, fun unfit => absurd savable unfit⟩
      · have whole : kept = host.temp := if_neg (by omega)
        have same : operation.downloadedBytes = downloadedBytes config host.temp := by omega
        have counted := stands.counted
        rw [if_neg behind, whole]
        refine ⟨fun _ => ⟨_, operation, rfl, ?_, same, busy.named⟩, fun unfit => ?_⟩
        · rw [← same]
          exact stands
        · omega

/-! ## Up to its end -/

/-- A run that is cancelled where the recording is, and else ends with the operation in hand. -/
def Concludes {α : Type} (config : InstallConfig) (operationId : String) (expected : Int)
    (post : ModelHost → α → Prop) (recording : Recording)
    (ended : Except InstallError α × InstallSite) : Prop :=
  match recording with
  | .cancelled recorded files => ended.1 = .error .cancelled ∧ ∃ checks requests,
      Stands config operationId expected files recorded checks requests ended.2
  | _ => Attempt.Ends post (Interrupted config operationId) ended.2.1 ended.1

theorem concludes_bind {α β : Type} {expected : Int} {middle : ModelHost → β → Prop}
    {post : ModelHost → α → Prop} {recording : Recording} {first : ModelTask β}
    {next : β → ModelTask α} {site : InstallSite}
    (starts : Concludes config operationId expected middle recording
      (runAlone config outside first site))
    (goes : ∀ host value, middle host value →
      (next value).Follows (hosted config.sha256) post (Interrupted config operationId) host) :
    Concludes config operationId expected post recording
      (runAlone config outside (first >>= next) site) := by
  rw [runAlone_bind]
  generalize runAlone config outside first site = ran at starts
  obtain ⟨result, after⟩ := ran
  cases recording with
  | cancelled recorded files =>
    obtain ⟨raised, stands⟩ := starts
    cases raised
    exact ⟨rfl, stands⟩
  | through | refused =>
    cases result with
    | ok value => exact ends_of_follows (goes after.1 value starts)
    | error error => exact starts

theorem runDownload_concludes (busy : Busy config operationId host operation)
    (unasked : asked.checks = 0 ∧ asked.requests = 0) :
    Concludes config operationId operation.expectedSizeBytes (Driven config operationId .verifying)
      (course config outside operation host.temp)
      (runAlone config outside (runDownload config operation) (host, asked)) := by
  obtain ⟨goes, refused⟩ := runAlone_reconcilePartial outside asked busy
  unfold course runDownload
  rw [if_pos (.inr busy.status), if_pos busy.status, runAlone_bind]
  dsimp only
  split
  next savable =>
    obtain ⟨after, current, ran, stands, counted, named⟩ := goes savable
    rw [unasked.1, unasked.2] at stands
    rw [ran]
    dsimp only
    rw [runAlone_bind, counted, named]
    have brought := brings_downloadSources outside config.manifest.sources.tail
      config.manifest.primary current.etag current.lastModified stands
    have uncancelled : (deliverSources config outside.answers config.manifest.primary
        (partialKept config operation host.temp) 0 config.manifest.sources.tail).ends ≠
        .error .cancelled := deliverSources_uncancelled _ _ _ _
    unfold Brings Records at brought
    generalize runAlone config outside (downloadSources _ _ _ _ _ _ _) after = downloaded at brought
    obtain ⟨result, last⟩ := downloaded
    cases recording : record config outside.cancels operation.expectedSizeBytes 0
        (downloadedBytes config (partialKept config operation host.temp)) _ with
    | cancelled recorded files =>
      rw [recording] at brought
      obtain ⟨raised, stands⟩ := brought
      cases raised
      exact ⟨rfl, stands⟩
    | refused =>
      rw [recording] at brought
      obtain ⟨⟨kind, raised⟩, _, _, _, _, stands⟩ := brought
      cases raised
      exact stands.interrupted InstallError.noConfusion
    | through checks recorded =>
      rw [recording] at brought
      obtain ⟨stands, returns⟩ := brought
      cases ends : (deliverSources config outside.answers config.manifest.primary
          (partialKept config operation host.temp) 0 config.manifest.sources.tail).ends with
      | ok =>
        rw [ends] at returns
        obtain ⟨outcome, returned, _⟩ := returns
        cases returned
        exact ends_of_follows (follows_verifying stands _ _)
      | error error =>
        rw [ends] at returns uncancelled
        cases returns
        refine stands.interrupted ?_
        rintro rfl
        exact uncancelled rfl
  next unfit =>
    obtain ⟨kind, after, ran, stands⟩ := refused unfit
    rw [ran]
    exact stands.interrupted InstallError.noConfusion

/-- From the download on. -/
theorem downloading_concludes (busy : Busy config operationId host operation)
    (unasked : asked.checks = 0 ∧ asked.requests = 0) :
    Concludes config operationId operation.expectedSizeBytes (Ended config.manifest.modelId)
      (course config outside operation host.temp)
      (runAlone config outside (do
        let operation ← runDownload config operation
        let operation ← runVerify config operation
        runInstall config operation) (host, asked)) := by
  refine concludes_bind (runDownload_concludes busy unasked) ?_
  exact fun host current driven => follows_installing driven (.inl rfl)

/-- The download begins with the row that the operation was created with. -/
theorem pending_concludes (way : UnderWay config.manifest.modelId host operation)
    (pending : operation.status = .pending) (unasked : asked.checks = 0 ∧ asked.requests = 0) :
    Concludes config operation.operationId operation.expectedSizeBytes
      (Ended config.manifest.modelId) (course config outside operation host.temp)
      (runAlone config outside (driveOperation config operation) (host, asked)) := by
  have valid : isValidDownloadTransition operation.status .downloading = true := by
    rw [pending]
    rfl
  obtain ⟨fits, _⟩ := runAlone_update config outside asked way
    (fun now =>
      .advance operation.operationId .downloading now { tempPath := some config.tempPath } none)
    (fun _ => rfl) fun _ => rfl
  obtain ⟨after, current, ran, moved⟩ := fits ⟨valid, (fun verifying => nomatch verifying), rfl⟩
  have busy : Busy config operation.operationId after current :=
    ⟨moved.way, moved.rewritten.operation, moved.rewritten.status⟩
  have begins : runAlone config outside (beginDownload config operation) (host, asked) =
      (.ok current, after, asked.next .now) := by
    unfold beginDownload
    rw [if_pos pending]
    exact ran
  have same : course config outside current after.temp = course config outside operation host.temp := by
    have counted : current.downloadedBytes = operation.downloadedBytes := moved.rewritten.bytes
    have early : operation.status = .pending ∨ operation.status = .downloading := .inl pending
    have begun : current.status = .pending ∨ current.status = .downloading := .inr busy.status
    unfold course partialKept
    rw [if_pos early, if_pos begun, moved.temp, moved.rewritten.expected, counted]
  unfold driveOperation
  rw [runAlone_bind, begins, ← same, ← moved.rewritten.expected]
  exact downloading_concludes busy unasked

theorem runAlone_beginDownload_begun (begun : operation.status ≠ .pending) (site : InstallSite) :
    runAlone config outside (beginDownload config operation) site = (.ok operation, site) := by
  unfold beginDownload
  rw [if_neg begun]
  rfl

theorem runAlone_runDownload_done (done : operation.status ≠ .downloading) (site : InstallSite) :
    runAlone config outside (runDownload config operation) site = (.ok operation, site) := by
  unfold runDownload
  rw [if_neg done]
  rfl

/-- The body of the installer goes as the download does, and else ends the operation or leaves
it under way. -/
theorem driveOperation_concludes (way : UnderWay config.manifest.modelId host operation)
    (unasked : asked.checks = 0 ∧ asked.requests = 0) :
    Concludes config operation.operationId operation.expectedSizeBytes
      (Ended config.manifest.modelId) (course config outside operation host.temp)
      (runAlone config outside (driveOperation config operation) (host, asked)) := by
  have later : operation.status = .verifying ∨ operation.status = .installing →
      Concludes config operation.operationId operation.expectedSizeBytes
        (Ended config.manifest.modelId) (course config outside operation host.temp)
        (runAlone config outside (driveOperation config operation) (host, asked)) := by
    intro downloaded
    have through : course config outside operation host.temp =
        .through 0 operation.downloadedBytes := by
      refine if_neg ?_
      obtain status | status := downloaded <;> rw [status] <;> decide
    have begun : operation.status ≠ .pending := by
      obtain status | status := downloaded <;> rw [status] <;> exact ModelDownloadStatus.noConfusion
    have done : operation.status ≠ .downloading := by
      obtain status | status := downloaded <;> rw [status] <;> exact ModelDownloadStatus.noConfusion
    unfold driveOperation
    rw [through, runAlone_bind, runAlone_beginDownload_begun begun]
    dsimp only
    rw [runAlone_bind, runAlone_runDownload_done done]
    exact ends_of_follows (follows_installing ⟨way, rfl, rfl⟩ downloaded)
  have active := way.active
  cases status : operation.status with
  | pending => exact pending_concludes way status unasked
  | downloading =>
    have begun : operation.status ≠ .pending := by
      rw [status]
      exact ModelDownloadStatus.noConfusion
    unfold driveOperation
    rw [runAlone_bind, runAlone_beginDownload_begun begun]
    exact downloading_concludes ⟨way, rfl, status⟩ unasked
  | verifying => exact later (.inl status)
  | installing => exact later (.inr status)
  | completed | failed | cancelled =>
    rw [status] at active
    cases active

end

end EvoBlue.Guarantees
