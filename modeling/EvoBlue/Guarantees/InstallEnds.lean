import EvoBlue.Guarantees.InstallDrives

/-!
# An install comes to an end

With nobody else at work, `install_model` returns an ended operation or refuses because
another version is being installed. It does not when an installed version hides an
operation that is under way, when the id it is given is taken, and when the handler of a
cancellation finds less on the disk than is on record: saving that is refused, and since
the handler stands outside the `try` the exception leaves the operation downloading.
-/

namespace EvoBlue.Guarantees

open EvoBlue.Kernel EvoBlue.Source

/-! ## The handlers -/

section

variable {config : InstallConfig} {host : ModelHost} {row : ModelDownload}

theorem valid_terminal {src dst : ModelDownloadStatus} (active : src.isActive = true)
    (ends : dst = .failed ∨ dst = .cancelled) : isValidDownloadTransition src dst = true := by
  obtain rfl | rfl := ends <;> cases src <;> first | rfl | cases active

/-- An operation under way can always be ended. -/
theorem follows_markTerminal (way : UnderWay config.manifest.modelId host row)
    {toStatus : ModelDownloadStatus} (ends : toStatus = .failed ∨ toStatus = .cancelled)
    (errorCode : String) :
    (markTerminal row.operationId toStatus errorCode).Follows (hosted config.sha256)
      (Ended config.manifest.modelId) (fun _ _ => False) host := by
  unfold markTerminal
  apply follows_getDownload
  rw [way.found]
  dsimp only
  split
  next final =>
    have active := isActive_of_terminal final
    rw [way.active] at active
    cases active
  · refine Attempt.follows_mono (follows_ending way (fun _ => rfl) ?_) (fun _ _ ended => ended) ?_
    · intro _
      obtain rfl | rfl := ends <;> rfl
    · rintro _ _ ⟨_, _, now, unfit⟩
      refine unfit ⟨valid_terminal way.active ends, fun verifying => ?_, rfl⟩
      obtain rfl | rfl := ends <;> cases verifying

theorem follows_endFailed (way : UnderWay config.manifest.modelId host row) (error : InstallError) :
    (endFailed row.operationId error).Follows (hosted config.sha256)
      (Ended config.manifest.modelId) (fun _ _ => False) host := by
  cases error with
  | download code | archive =>
    apply follows_truncateTemp
    exact follows_markTerminal (way.withTemp _) (.inl rfl) _
  | _ => exact follows_markTerminal way (.inl rfl) _

/-- Whoever is not downloading any more is ended when the cancellation is noticed. -/
theorem follows_endCancelled_later (way : UnderWay config.manifest.modelId host row)
    (later : row.status ≠ .downloading) :
    (endCancelled config row.operationId).Follows (hosted config.sha256)
      (Ended config.manifest.modelId) (fun _ _ => False) host := by
  unfold endCancelled
  apply follows_getDownload
  rw [way.found, if_neg (by simpa using later)]
  exact follows_markTerminal way (.inr rfl) _

/-- A cancelled download is ended when the bytes on the disk can be recorded. -/
theorem follows_endCancelled (way : UnderWay config.manifest.modelId host row)
    (downloading : row.status = .downloading)
    (savable : Savable row.expectedSizeBytes row.downloadedBytes
      (downloadedBytes config host.temp)) :
    (endCancelled config row.operationId).Follows (hosted config.sha256)
      (Ended config.manifest.modelId) (fun _ _ => False) host := by
  unfold endCancelled
  apply follows_getDownload
  rw [way.found, if_pos (by simpa using downloading)]
  apply follows_tempFiles
  apply Attempt.follows_bind
  · refine Attempt.follows_mono (follows_answered way fun _ => rfl) (fun _ _ saved => saved) ?_
    rintro _ _ ⟨_, _, now, unfit⟩
    exact unfit ⟨downloading, savable.1, ⟨Int.natCast_nonneg _, savable.2⟩, rfl⟩
  · rintro _ written ⟨now, tables, _, rewritten, kept, laws, rfl⟩
    have after : UnderWay config.manifest.modelId
        { host with store := tables.replaceDownload written } written := by
      refine ⟨laws, findDownload_written kept way rewritten.operation, ?_, ?_⟩
      · exact rewritten.model.trans way.model
      · rw [rewritten.status]
        exact way.active
    rw [← rewritten.operation]
    exact follows_markTerminal after (.inr rfl) _

/-- Otherwise the refusal is raised. -/
theorem follows_endCancelled_refused (way : UnderWay config.manifest.modelId host row)
    (downloading : row.status = .downloading)
    (unfit : ¬ Savable row.expectedSizeBytes row.downloadedBytes
      (downloadedBytes config host.temp)) :
    (endCancelled config row.operationId).Follows (hosted config.sha256)
      (fun _ _ => False) (fun _ error => ∃ kind, error = .store kind) host := by
  unfold endCancelled
  apply follows_getDownload
  rw [way.found, if_pos (by simpa using downloading)]
  apply follows_tempFiles
  apply Attempt.follows_bind
  · refine Attempt.follows_mono (follows_answered way fun _ => rfl) (fun _ _ saved => saved) ?_
    exact fun _ _ raised => raised.2.1
  · rintro _ written ⟨now, tables, fit, _⟩
    exact absurd ⟨fit.2.1, fit.2.2.1.2⟩ unfit

end

/-! ## The operation -/

/-- The operation that `_already_active` returns. -/
def completedInstall (config : InstallConfig) (store : ModelStore) : Option ModelDownload :=
  if (store.findActive config.manifest.modelId).any fun active =>
      active.activeVersion = config.manifest.version then
    match store.findInstall config.manifest.modelId config.manifest.version with
    | none => none
    | some _ =>
      (store.findLatestDownload config.manifest.modelId config.manifest.version).filter fun latest =>
        latest.status = .completed
  else none

section

variable {config : InstallConfig} {outside : World} {host : ModelHost} {asked : Asked}

theorem runAlone_alreadyActive :
    runAlone config outside (alreadyActive config) (host, asked) =
      (.ok (completedInstall config host.store), host, asked) := by
  unfold alreadyActive completedInstall
  change runAlone config outside (if (host.store.findActive config.manifest.modelId).any _ then _
    else _) (host, asked) = _
  split
  · change runAlone config outside (match host.store.findInstall config.manifest.modelId
      config.manifest.version with
      | none => _
      | some _ => _) (host, asked) = _
    cases host.store.findInstall config.manifest.modelId config.manifest.version <;> rfl
  · rfl

theorem completedInstall_completed {store : ModelStore} {existing : ModelDownload}
    (installed : completedInstall config store = some existing) : existing.status = .completed := by
  unfold completedInstall at installed
  split at installed
  · split at installed
    · cases installed
    · exact of_decide_eq_true (Option.filter_eq_some_iff.1 installed).2
  · cases installed

theorem created_underWay (laws : StoreLaws host.store) {new : NewDownload}
    (admitted : host.store.admits new = true) (sized : 0 < new.expectedSizeBytes) :
    UnderWay new.modelId
      { host with
        store := { host.store with downloads := host.store.downloads ++ [new.row] } } new.row := by
  refine ⟨laws_created laws admitted sized, ?_, rfl, rfl⟩
  unfold ModelStore.admits at admitted
  rw [Bool.and_eq_true, Option.isNone_iff_eq_none] at admitted
  have free := admitted.1
  unfold ModelStore.findDownload at free ⊢
  have named : new.row.operationId = new.operationId := rfl
  rw [List.find?_append, named, free]
  simp [NewDownload.row]

end

/-! ## The install -/

/-- The operation an install works on; a new one is pending, with nothing recorded. -/
def operationInHand (config : InstallConfig) (store : ModelStore) : Option ModelDownload :=
  match store.findActiveDownload config.manifest.modelId with
  | some active => if active.version = config.manifest.version then some active else none
  | none => some (newDownload config none 0).row

/-- An ended operation is returned and none is under way, or the install is refused. -/
def EndsWell (config : InstallConfig) (ended : Except InstallError ModelDownload × InstallSite) :
    Prop :=
  match ended.1 with
  | .ok operation => Ended config.manifest.modelId ended.2.1 operation
  | .error error => error = .conflict

/-- No installed version hides an operation under way, the id for a new one is free, and when
the cancellation is noticed, what lies on the disk is neither less than what is recorded nor more
than the operation expects. -/
structure InstallSettles (config : InstallConfig) (outside : World) (host : ModelHost) : Prop where
  hidden : (completedInstall config host.store).isSome = true →
    host.store.findActiveDownload config.manifest.modelId = none
  fresh : completedInstall config host.store = none →
    host.store.findActiveDownload config.manifest.modelId = none →
    host.store.findDownload config.newOperationId = none
  records : completedInstall config host.store = none →
    ∀ row, operationInHand config host.store = some row →
    ∀ recorded left, course config outside row host.temp = .cancelled recorded left →
    Savable row.expectedSizeBytes recorded (downloadedBytes config left)

section

variable {config : InstallConfig} {outside : World} {host : ModelHost} {asked : Asked}

/-- A task that ends the operation, and does not raise, ends well. -/
theorem endsWell_of_follows {task : ModelTask ModelDownload}
    (follows : task.Follows (hosted config.sha256) (Ended config.manifest.modelId)
      (fun _ _ => False) host) :
    EndsWell config (runAlone config outside task (host, asked)) := by
  have ended : Attempt.Ends (Ended config.manifest.modelId) (fun _ _ => False)
      (runAlone config outside task (host, asked)).2.1
      (runAlone config outside task (host, asked)).1 := ends_of_follows follows
  unfold EndsWell
  cases result : (runAlone config outside task (host, asked)).1 with
  | ok operation =>
    rw [result] at ended
    exact ended
  | error error =>
    rw [result] at ended
    exact ended.elim

/-- A task that raises an error of the store does not end well. -/
theorem not_endsWell_of_follows {task : ModelTask ModelDownload}
    (follows : task.Follows (hosted config.sha256) (fun _ _ => False)
      (fun _ error => ∃ kind, error = .store kind) host) :
    ¬ EndsWell config (runAlone config outside task (host, asked)) := by
  have ended : Attempt.Ends (fun _ _ => False) (fun _ error => ∃ kind, error = .store kind)
      (runAlone config outside task (host, asked)).2.1
      (runAlone config outside task (host, asked)).1 := ends_of_follows follows
  unfold EndsWell
  cases result : (runAlone config outside task (host, asked)).1 with
  | ok operation =>
    rw [result] at ended
    exact ended.elim
  | error error =>
    rw [result] at ended
    obtain ⟨kind, rfl⟩ := ended
    exact fun conflict => nomatch conflict

/-- A body that is not cancelled while downloading is brought to an end. -/
theorem finish_endsWell {operation : ModelDownload}
    (ended : Attempt.Ends (Ended config.manifest.modelId)
      (Interrupted config operation.operationId)
      (runAlone config outside (driveOperation config operation) (host, asked)).2.1
      (runAlone config outside (driveOperation config operation) (host, asked)).1) :
    EndsWell config (runAlone config outside (finishOperation config operation) (host, asked)) := by
  unfold finishOperation
  rw [runAlone_tryCatch]
  generalize runAlone config outside (driveOperation config operation) (host, asked) = driven at ended
  obtain ⟨result, after, passed⟩ := driven
  cases result with
  | ok value => exact ended
  | error error =>
    obtain ⟨row, way, named, later⟩ := ended
    dsimp only
    rw [← named]
    apply endsWell_of_follows
    by_cases cancelled : error = .cancelled
    · subst cancelled
      exact follows_endCancelled_later way (later rfl)
    · have handler : endOperation config row.operationId error = endFailed row.operationId error := by
        cases error with
        | cancelled => exact absurd rfl cancelled
        | _ => rfl
      rw [handler]
      exact follows_endFailed way error

/-- An operation in hand: only the handler of a cancellation may fail. -/
theorem finish_endsWell_iff {operation : ModelDownload}
    (way : UnderWay config.manifest.modelId host operation)
    (unasked : asked.checks = 0 ∧ asked.requests = 0) :
    EndsWell config (runAlone config outside (finishOperation config operation) (host, asked)) ↔
      ∀ recorded left, course config outside operation host.temp = .cancelled recorded left →
        Savable operation.expectedSizeBytes recorded (downloadedBytes config left) := by
  have drives : Concludes _ _ _ _ (course config outside operation host.temp) _ :=
    driveOperation_concludes way unasked
  cases went : course config outside operation host.temp with
  | through | refused =>
    rw [went] at drives
    exact iff_of_true (finish_endsWell drives) fun _ _ cancelled => nomatch cancelled
  | cancelled recorded left =>
    rw [went] at drives
    unfold finishOperation
    rw [runAlone_tryCatch]
    generalize runAlone config outside (driveOperation config operation) (host, asked) = driven
      at drives
    obtain ⟨result, after, passed⟩ := driven
    obtain ⟨raised, checks, requests, ⟨row, busy, rfl, size⟩, rfl, _, _⟩ := drives
    cases raised
    dsimp only
    rw [← size, ← busy.named]
    constructor
    · rintro ends _ _ ⟨⟩
      by_contra unfit
      exact not_endsWell_of_follows
        (follows_endCancelled_refused busy.way busy.status unfit) ends
    · intro savable
      exact endsWell_of_follows
        (follows_endCancelled busy.way busy.status (savable _ _ rfl))

theorem runAlone_getOrCreateOperation :
    runAlone config outside (getOrCreateOperation config) (host, asked) =
      runAlone config outside (match host.store.findActiveDownload config.manifest.modelId with
        | some active =>
          if active.version ≠ config.manifest.version then throw .conflict else pure active
        | none =>
          tryCatch (ModelTask.perform fun now => .create (newDownload config
            (host.store.findLatestDownload config.manifest.modelId config.manifest.version) now))
            (reuseOperation config)) (host, asked) := by
  unfold getOrCreateOperation
  change runAlone config outside (match host.store.findActiveDownload config.manifest.modelId with
    | some active => _
    | none => _) (host, asked) = _
  cases host.store.findActiveDownload config.manifest.modelId <;> rfl

/-- An operation under way is gone on with, when it is one of the version. -/
theorem runAlone_getOrCreateOperation_found {active : ModelDownload}
    (found : host.store.findActiveDownload config.manifest.modelId = some active) :
    runAlone config outside (getOrCreateOperation config) (host, asked) =
      (if active.version ≠ config.manifest.version then .error .conflict else .ok active,
        host, asked) := by
  rw [runAlone_getOrCreateOperation, found]
  dsimp only
  split <;> rfl

/-- Otherwise it is created, when its id is free. -/
theorem runAlone_getOrCreateOperation_idle
    (idle : host.store.findActiveDownload config.manifest.modelId = none) {new : NewDownload}
    (created : new = newDownload config (host.store.findLatestDownload config.manifest.modelId
      config.manifest.version) (outside.clock asked.readings)) :
    runAlone config outside (getOrCreateOperation config) (host, asked) =
      if host.store.admits new then
        (.ok new.row, { host with
          store := { host.store with downloads := host.store.downloads ++ [new.row] } },
          asked.next .now)
      else (.error (.store .integrityError), host, asked.next .now) := by
  rw [runAlone_getOrCreateOperation, idle]
  dsimp only
  rw [runAlone_tryCatch, runAlone_perform, ← created, exec_create]
  by_cases admitted : host.store.admits new = true
  · rw [if_pos admitted, if_pos admitted]
  · rw [if_neg admitted, if_neg admitted]
    change runAlone config outside (match host.store.findActiveDownload config.manifest.modelId with
      | some existing => pure existing
      | none => throw (.store .integrityError)) (host, asked.next .now) = _
    rw [idle]
    rfl

/-- With an operation to find or create, and no installed version in its way. -/
theorem create_endsWell_iff (laws : StoreLaws host.store)
    (unasked : asked.checks = 0 ∧ asked.requests = 0) :
    EndsWell config (runAlone config outside
        (getOrCreateOperation config >>= finishOperation config) (host, asked)) ↔
      (host.store.findActiveDownload config.manifest.modelId = none →
        host.store.findDownload config.newOperationId = none) ∧
      ∀ row, operationInHand config host.store = some row →
        ∀ recorded left, course config outside row host.temp = .cancelled recorded left →
        Savable row.expectedSizeBytes recorded (downloadedBytes config left) := by
  unfold operationInHand
  rw [runAlone_bind]
  cases found : host.store.findActiveDownload config.manifest.modelId with
  | some active =>
    rw [runAlone_getOrCreateOperation_found found]
    by_cases other : active.version = config.manifest.version
    · rw [if_neg (not_not.2 other)]
      dsimp only
      rw [if_pos other, finish_endsWell_iff (underWay_of_active laws found) unasked]
      constructor
      · rintro savable
        refine ⟨fun idle => (nomatch idle), ?_⟩
        rintro row ⟨⟩
        exact savable
      · exact fun ⟨_, savable⟩ => savable active rfl
    · rw [if_pos other]
      dsimp only
      rw [if_neg other]
      refine iff_of_true rfl ⟨fun idle => (nomatch idle), fun row none => nomatch none⟩
  | none =>
    rw [runAlone_getOrCreateOperation_idle found rfl]
    by_cases admitted : host.store.admits (newDownload config (host.store.findLatestDownload
        config.manifest.modelId config.manifest.version) (outside.clock asked.readings)) = true
    · have sized : 0 < (config.manifest.primary.sizeBytes : Int) :=
        Int.natCast_pos.2 config.manifest.primary.positive
      have way := created_underWay laws admitted sized
      have unread : (asked.next .now).checks = 0 ∧ (asked.next .now).requests = 0 := unasked
      have free : host.store.findDownload config.newOperationId = none := by
        unfold ModelStore.admits at admitted
        rw [Bool.and_eq_true, Option.isNone_iff_eq_none] at admitted
        exact admitted.1
      rw [if_pos admitted]
      refine (finish_endsWell_iff way unread).trans ?_
      constructor
      · rintro savable
        refine ⟨fun _ => free, ?_⟩
        rintro row ⟨⟩
        exact savable
      · exact fun ⟨_, savable⟩ => savable (newDownload config none 0).row rfl
    · rw [if_neg admitted]
      refine iff_of_false (fun conflict => nomatch conflict) ?_
      rintro ⟨free, _⟩
      apply admitted
      unfold ModelStore.admits
      rw [Bool.and_eq_true, Option.isNone_iff_eq_none]
      exact ⟨free rfl, Option.isNone_iff_eq_none.2 found⟩

/-- The install of a releasable manifest, from any database that the repository functions have
written and any partial on the disk, whatever the servers, the clock and the cancellation do: it
ends well exactly when it settles. -/
theorem install_ends_iff (releasable : isReleasable config.catalog config.manifest = true)
    {ops : List ModelOp} (sized : ∀ op ∈ ops, HasSize op) (written : host.store = storeAfter ops) :
    EndsWell config (runAlone config outside (installModel config) (host, {})) ↔
      InstallSettles config outside host := by
  have laws : StoreLaws host.store := by
    rw [written]
    exact laws_after sized
  have settles : InstallSettles config outside host ↔
      ((completedInstall config host.store).isSome = true →
        host.store.findActiveDownload config.manifest.modelId = none) ∧
      (completedInstall config host.store = none →
        host.store.findActiveDownload config.manifest.modelId = none →
        host.store.findDownload config.newOperationId = none) ∧ _ :=
    ⟨fun ⟨hidden, fresh, records⟩ => ⟨hidden, fresh, records⟩,
      fun ⟨hidden, fresh, records⟩ => ⟨hidden, fresh, records⟩⟩
  rw [settles]
  unfold installModel
  rw [if_pos releasable, runAlone_bind, runAlone_alreadyActive]
  cases installed : completedInstall config host.store with
  | some existing =>
    have final := completedInstall_completed installed
    constructor
    · intro ends
      exact ⟨fun _ => ends.2, (fun absent => nomatch absent), fun absent => nomatch absent⟩
    · rintro ⟨idle, _⟩
      refine ⟨?_, idle rfl⟩
      rw [final]
      rfl
  | none =>
    refine (create_endsWell_iff laws ⟨rfl, rfl⟩).trans ?_
    constructor
    · rintro ⟨free, records⟩
      exact ⟨(fun installed => nomatch installed), fun _ => free, fun _ => records⟩
    · rintro ⟨_, free, records⟩
      exact ⟨free rfl, records rfl⟩

end

/-! ## A file that starts again -/

def pairSha256 (bytes : Bytes) : String :=
  if bytes = [1, 2] then "a12871fee210fb8619291eaea194581cbd2531e4b23759d225f6806923f63222"
  else if bytes = [3, 4, 5] then "2848698aa4b3431e3db06c343ca2cb0455f8aaf16c85cdd828c92ddf7dc134f8"
  else ""

def pairSource : DownloadSource where
  url := "https://huggingface.co/pair/resolve/1"
  kind := .upstream
  sha256 := "bdd16b5641eabea4d9ba9f33f6b196c71632cc834e8cd5a2265d6cf0257b07e4"
  sizeBytes := 5
  positive := by decide

theorem aFile_relative : isRelativePath "a.bin".toList = true := by decide

theorem aFile_normalized : '\\' ∉ "a.bin".toList := by decide

/-- Two files, of two and three bytes. -/
def pairManifest : ModelManifest where
  modelId := "pair"
  version := "1"
  compressedSizeBytes := 5
  installedSizeBytes := 5
  redistribution := .upstreamOnly
  archiveFormat := .fileSet
  sources := [pairSource]
  files := [
    ⟨"a.bin", some "a.bin", 2, pairSha256 [1, 2], Nat.two_pos, aFile_relative, aFile_normalized⟩,
    ⟨"b.bin", some "b.bin", 3, pairSha256 [3, 4, 5], by decide, by decide, by decide⟩]
  sourced := by decide
  filed := by decide
  sourceSizes := by decide
  sourceDigests := by decide
  installedSize := by decide
  fileNames := by decide
  fileSetPaths := by decide
  fileSetSize := by decide
  upstream := by decide

def pairConfig : InstallConfig where
  catalog modelId version :=
    if modelId = "pair" ∧ version = "1" then some [pairSource.approval] else none
  sha256 := pairSha256
  unicode := ⟨fun _ c _ => [c], fun _ => none, id⟩
  readArchive _ _ := ⟨[], false⟩
  manifest := pairManifest
  newOperationId := "op"
  tempPath := "models/.downloads/pair/1.files"
  versionDir := "models/pair/1"

/-- The first file and two bytes of the second are there from a run that was interrupted. -/
def pairHost : ModelHost where
  temp := [("a.bin", [1, 2]), ("b.bin", [3, 4])]

/-- The server goes on with the second file, and the cancellation is noticed when it is whole. -/
def resumingOutside : World where
  clock _ := 0
  cancels _ := true
  answers _ := .ok { status := 206, contentRange := some (text "bytes 2-2/3"), chunks := [[5]] }

theorem pair_cancelled : course pairConfig resumingOutside (newDownload pairConfig none 0).row
    pairHost.temp = .cancelled 4 [("a.bin", [1, 2]), ("b.bin", [3, 4, 5])] := by
  rfl

theorem install_ends_iff_resumed :
    (runAlone pairConfig resumingOutside (installModel pairConfig) (pairHost, {})).1.map (·.status) =
      .ok .cancelled ∧
    EndsWell pairConfig
      (runAlone pairConfig resumingOutside (installModel pairConfig) (pairHost, {})) := by
  refine ⟨by decide +kernel, ?_⟩
  refine (@install_ends_iff pairConfig resumingOutside pairHost (by decide) []
    (fun _ mem => nomatch mem) rfl).2 ⟨fun _ => rfl, fun _ _ => rfl, ?_⟩
  rintro _ row ⟨⟩ recorded left cancelled
  rw [pair_cancelled] at cancelled
  cases cancelled
  decide

/-- The server sends the second file anew, and the cancellation is noticed after its first byte. -/
def restartingOutside : World where
  clock _ := 0
  cancels _ := true
  answers _ := .ok { status := 200, chunks := [[3], [4, 5]] }

/-- A releasable manifest whose install raises, and leaves its operation downloading. -/
theorem cancelled_install_raises :
    isReleasable pairConfig.catalog pairConfig.manifest = true ∧
    pairHost.store = storeAfter [] ∧
    ¬ EndsWell pairConfig
      (runAlone pairConfig restartingOutside (installModel pairConfig) (pairHost, {})) ∧
    ((runAlone pairConfig restartingOutside (installModel pairConfig)
      (pairHost, {})).2.1.store.findActiveDownload "pair").map (·.status) = some .downloading := by
  have raised : (runAlone pairConfig restartingOutside (installModel pairConfig) (pairHost, {})).1 =
      .error (.store (.valueError "downloaded_bytes must not decrease")) := by decide +kernel
  refine ⟨by decide, rfl, ?_, by decide +kernel⟩
  unfold EndsWell
  rw [raised]
  exact InstallError.noConfusion

end EvoBlue.Guarantees
