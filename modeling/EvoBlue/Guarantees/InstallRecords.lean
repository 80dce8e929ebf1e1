import EvoBlue.Guarantees.InstallArrivals

/-!
# A download records what comes in

An install that runs alone takes in the arrivals of its files and of the servers' answers, and
ends as `record` says of them: it is through, it is cancelled at the first check that says so
and with what then lies on the disk, or a count is refused.
-/

namespace EvoBlue.Guarantees

open EvoBlue.Kernel EvoBlue.Source

/-- The operation is downloading. -/
structure Busy (config : InstallConfig) (operationId : String) (host : ModelHost)
    (row : ModelDownload) : Prop where
  way : UnderWay config.manifest.modelId host row
  named : row.operationId = operationId
  status : row.status = .downloading

/-- Where a download stands: the row of its operation, the disk, and what was asked so far. -/
structure Stands (config : InstallConfig) (operationId : String) (expected : Int) (files : FileTree)
    (recorded : Int) (checks requests : Nat) (site : InstallSite) : Prop where
  busy : ∃ row, Busy config operationId site.1 row ∧ row.downloadedBytes = recorded ∧
    row.expectedSizeBytes = expected
  files : site.1.temp = files
  checks : site.2.checks = checks
  requests : site.2.requests = requests

/-! ## Updates -/

section

variable {config : InstallConfig} {outside : World} {operationId : String} {expected : Int}
  {files : FileTree} {recorded : Int} {checks requests : Nat} {site : InstallSite}

/-- An update of the row that leaves the operation downloading. -/
theorem stands_update (outside : World) {host : ModelHost} (asked : Asked) {row : ModelDownload}
    (busy : Busy config operationId host row) (op : ℚ → ModelOp) {bytes : Int}
    (names : ∀ now, (op now).updates = some operationId)
    (stays : ∀ now, (op now).statusAfter row = row.status)
    (counts : ∀ now, (op now).bytesAfter row = bytes) :
    ((op (outside.clock asked.readings)).Fits row → ∃ after written,
      runAlone config outside (ModelTask.perform op) (host, asked) = (.ok written, after) ∧
      Stands config operationId row.expectedSizeBytes host.temp bytes asked.checks asked.requests
        after ∧ written.downloadedBytes = bytes ∧ written.operationId = operationId) ∧
    (¬ (op (outside.clock asked.readings)).Fits row → ∃ kind after,
      runAlone config outside (ModelTask.perform op) (host, asked) = (.error (.store kind), after) ∧
      Stands config operationId row.expectedSizeBytes host.temp row.downloadedBytes asked.checks
        asked.requests after) := by
  have named : ∀ now, (op now).updates = some row.operationId := by
    intro now
    rw [names, busy.named]
  have active : ∀ now, ((op now).statusAfter row).isActive = true := by
    intro now
    rw [stays]
    exact busy.way.active
  obtain ⟨fits, refuses⟩ := runAlone_update config outside asked busy.way op named active
  constructor
  · intro fit
    obtain ⟨after, written, ran, moved⟩ := fits fit
    have named : written.operationId = operationId := moved.rewritten.operation.trans busy.named
    have counted := moved.rewritten.bytes.trans (counts _)
    have status : written.status = .downloading := by
      rw [moved.rewritten.status, stays, busy.status]
    exact ⟨_, written, ran, ⟨⟨written, ⟨moved.way, named, status⟩, counted, moved.rewritten.expected⟩,
      moved.temp, rfl, rfl⟩, counted, named⟩
  · intro unfit
    obtain ⟨kind, ran⟩ := refuses unfit
    exact ⟨kind, _, ran, ⟨row, busy, rfl, rfl⟩, rfl, rfl, rfl⟩

theorem Stands.counted (stands : Stands config operationId expected files recorded checks requests site) :
    0 ≤ recorded ∧ recorded ≤ expected := by
  obtain ⟨⟨row, busy, bytes, size⟩, _, _, _⟩ := stands
  have counted := busy.way.laws.counted row busy.way.mem
  unfold ModelDownload.Counted at counted
  rw [bytes, size] at counted
  exact counted

/-- A count that can be recorded is, and no other. -/
theorem Stands.progress
    (stands : Stands config operationId expected files recorded checks requests site)
    (outside : World) {bytes : Int} (positive : 0 ≤ bytes) (tempPath etag lastModified : Option String) :
    (Savable expected recorded bytes → ∃ after written,
      runAlone config outside (saveProgress operationId bytes tempPath etag lastModified) site =
        (.ok written, after) ∧
      Stands config operationId expected files bytes checks requests after ∧
      written.downloadedBytes = bytes ∧ written.operationId = operationId) ∧
    (¬ Savable expected recorded bytes → ∃ kind after,
      runAlone config outside (saveProgress operationId bytes tempPath etag lastModified) site =
        (.error (.store kind), after) ∧
      Stands config operationId expected files recorded checks requests after) := by
  obtain ⟨⟨row, busy, rfl, rfl⟩, rfl, rfl, rfl⟩ := stands
  obtain ⟨fits, refuses⟩ := stands_update outside site.2 busy
    (fun now => .progress operationId bytes now tempPath etag lastModified none)
    (fun _ => rfl) (fun _ => rfl) fun _ => rfl
  constructor
  · rintro ⟨grown, bounded⟩
    exact fits ⟨busy.status, grown, ⟨positive, bounded⟩, rfl⟩
  · exact fun unfit => refuses fun fit => unfit ⟨fit.2.1, fit.2.2.1.2⟩

/-- A download can be restarted, and its source switched. -/
theorem Stands.anew
    (stands : Stands config operationId expected files recorded checks requests site)
    (outside : World) {op : ℚ → ModelOp} (names : ∀ now, (op now).updates = some operationId)
    (stays : ∀ now row, (op now).statusAfter row = row.status)
    (forgets : ∀ now row, (op now).bytesAfter row = 0)
    (fits : ∀ now row, isRestartable row.status = true → (op now).Fits row) :
    ∃ after written, runAlone config outside (ModelTask.perform op) site = (.ok written, after) ∧
      Stands config operationId expected files 0 checks requests after ∧
      written.downloadedBytes = 0 ∧ written.operationId = operationId := by
  obtain ⟨⟨row, busy, rfl, rfl⟩, rfl, rfl, rfl⟩ := stands
  have may : isRestartable row.status = true := by
    rw [busy.status]
    rfl
  exact (stands_update outside site.2 busy op names (fun now => stays now row)
    fun now => forgets now row).1 (fits _ row may)

theorem Stands.restart
    (stands : Stands config operationId expected files recorded checks requests site)
    (outside : World) :
    ∃ after written,
      runAlone config outside (restartDownloadOf operationId) site = (.ok written, after) ∧
      Stands config operationId expected files 0 checks requests after ∧
      written.downloadedBytes = 0 ∧ written.operationId = operationId :=
  stands.anew outside (fun _ => rfl) (fun _ _ => rfl) (fun _ _ => rfl) fun _ _ may => may

theorem Stands.switchSource
    (stands : Stands config operationId expected files recorded checks requests site)
    (outside : World) (sourceUrl sourceKind : String) :
    ∃ after written,
      runAlone config outside
        (ModelTask.perform fun now => .switchSource operationId sourceUrl sourceKind now) site =
        (.ok written, after) ∧
      Stands config operationId expected files 0 checks requests after ∧
      written.downloadedBytes = 0 ∧ written.operationId = operationId :=
  stands.anew outside (fun _ => rfl) (fun _ _ => rfl) (fun _ _ => rfl) fun _ _ may => may

/-- The files are changed, and nothing is asked. -/
theorem Stands.withFiles
    (stands : Stands config operationId expected files recorded checks requests site)
    (changed : FileTree) :
    Stands config operationId expected changed recorded checks requests
      ({ site.1 with temp := changed }, site.2) := by
  obtain ⟨⟨row, busy, bytes, size⟩, _, checked, requested⟩ := stands
  exact ⟨⟨row, ⟨busy.way.withTemp _, busy.named, busy.status⟩, bytes, size⟩, rfl, checked, requested⟩

end

/-! ## Runs along the arrivals -/

section

variable (config : InstallConfig) (outside : World) (operationId : String) (expected : Int)

/-- A run that ends as the record of its arrivals does. -/
def Records {α : Type} (arrivals : List Arrival)
    (post : (checks : Nat) → (recorded : Int) → Except InstallError α × InstallSite → Prop)
    (checks : Nat) (recorded : Int) (ended : Except InstallError α × InstallSite) : Prop :=
  match record config outside.cancels expected checks recorded arrivals with
  | .through checks recorded => post checks recorded ended
  | .cancelled recorded files => ended.1 = .error .cancelled ∧ ∃ checks requests,
      Stands config operationId expected files recorded checks requests ended.2
  | .refused => (∃ kind, ended.1 = .error (.store kind)) ∧ ∃ files recorded checks requests,
      Stands config operationId expected files recorded checks requests ended.2

/-- A run that brings a delivery; what it returns fits what the delivery returns. -/
def Brings {α β : Type} (delivery : Delivery β) (fits : β → (recorded : Int) → α → Prop)
    (checks : Nat) (recorded : Int) (ended : Except InstallError α × InstallSite) : Prop :=
  Records config outside operationId expected delivery.arrivals
    (fun checks recorded ended =>
      Stands config operationId expected delivery.files recorded checks delivery.requests ended.2 ∧
      match delivery.ends with
      | .ok value => ∃ returned, ended.1 = .ok returned ∧ fits value recorded returned
      | .error error => ended.1 = .error error)
    checks recorded ended

variable {config outside operationId expected} {α β : Type} {checks : Nat} {recorded : Int}

theorem records_bind {first : ModelTask β} {next : β → ModelTask α} {site : InstallSite}
    {arrivals later : List Arrival}
    {middle : Nat → Int → Except InstallError β × InstallSite → Prop}
    {post : Nat → Int → Except InstallError α × InstallSite → Prop}
    (starts : Records config outside operationId expected arrivals middle checks recorded
      (runAlone config outside first site))
    (goes : ∀ checks recorded ended, middle checks recorded ended → ∃ value, ended.1 = .ok value ∧
      Records config outside operationId expected later post checks recorded
        (runAlone config outside (next value) ended.2)) :
    Records config outside operationId expected (arrivals ++ later) post checks recorded
      (runAlone config outside (first >>= next) site) := by
  rw [runAlone_bind]
  unfold Records at starts ⊢
  rw [record_append]
  generalize runAlone config outside first site = ran at starts
  obtain ⟨result, after⟩ := ran
  cases recording : record config outside.cancels expected checks recorded arrivals with
  | through checks recorded =>
    rw [recording] at starts
    obtain ⟨value, returned, goes⟩ := goes checks recorded _ starts
    cases returned
    exact goes
  | cancelled recorded files =>
    rw [recording] at starts
    obtain ⟨raised, stands⟩ := starts
    cases raised
    exact ⟨rfl, stands⟩
  | refused =>
    rw [recording] at starts
    obtain ⟨⟨kind, raised⟩, stands⟩ := starts
    cases raised
    exact ⟨⟨kind, rfl⟩, stands⟩

/-- With no arrivals to record, the run is through. -/
theorem records_through {post : Nat → Int → Except InstallError α × InstallSite → Prop}
    {ended : Except InstallError α × InstallSite} (holds : post checks recorded ended) :
    Records config outside operationId expected [] post checks recorded ended := holds

/-- Of what is raised, the handler takes only failures of a source. -/
theorem records_tryCatch {body : ModelTask α} {handle : InstallError → ModelTask α}
    {site : InstallSite} {arrivals later : List Arrival}
    {middle post : Nat → Int → Except InstallError α × InstallSite → Prop}
    (tries : Records config outside operationId expected arrivals middle checks recorded
      (runAlone config outside body site))
    (passes : ∀ error, isSourceFailure error = false → handle error = throw error)
    (returns : ∀ checks recorded value after, middle checks recorded (.ok value, after) →
      Records config outside operationId expected later post checks recorded (.ok value, after))
    (handles : ∀ checks recorded error after, middle checks recorded (.error error, after) →
      Records config outside operationId expected later post checks recorded
        (runAlone config outside (handle error) after)) :
    Records config outside operationId expected (arrivals ++ later) post checks recorded
      (runAlone config outside (tryCatch body handle) site) := by
  rw [runAlone_tryCatch]
  unfold Records at tries ⊢
  rw [record_append]
  generalize runAlone config outside body site = ran at tries
  obtain ⟨result, after⟩ := ran
  cases recording : record config outside.cancels expected checks recorded arrivals with
  | through checks recorded =>
    rw [recording] at tries
    cases result with
    | ok value => exact returns checks recorded value after tries
    | error error => exact handles checks recorded error after tries
  | cancelled recorded files =>
    rw [recording] at tries
    obtain ⟨raised, stands⟩ := tries
    cases raised
    dsimp only
    rw [passes .cancelled rfl]
    exact ⟨rfl, stands⟩
  | refused =>
    rw [recording] at tries
    obtain ⟨⟨kind, raised⟩, stands⟩ := tries
    cases raised
    dsimp only
    rw [passes (.store kind) rfl]
    exact ⟨⟨kind, rfl⟩, stands⟩

variable {fits : β → Int → α → Prop} {files : FileTree} {requests : Nat} {site : InstallSite}

theorem brings_return {value : β} {returned : α}
    (stands : Stands config operationId expected files recorded checks requests site)
    (fit : fits value recorded returned) :
    Brings config outside operationId expected { files, requests, ends := .ok value } fits checks
      recorded (.ok returned, site) := records_through ⟨stands, returned, rfl, fit⟩

theorem brings_raise {error : InstallError}
    (stands : Stands config operationId expected files recorded checks requests site) :
    Brings config outside operationId expected { files, requests, ends := .error error } fits checks
      recorded (.error error, site) := records_through ⟨stands, rfl⟩

theorem brings_bind {γ δ : Type} {first : ModelTask γ} {next : γ → ModelTask α}
    {delivery : Delivery δ} {fitsFirst : δ → Int → γ → Prop}
    {later : δ → FileTree → Nat → Delivery β}
    (starts : Brings config outside operationId expected delivery fitsFirst checks recorded
      (runAlone config outside first site))
    (goes : ∀ value returned checks recorded after, fitsFirst value recorded returned →
      Stands config operationId expected delivery.files recorded checks delivery.requests after →
      Brings config outside operationId expected (later value delivery.files delivery.requests) fits
        checks recorded (runAlone config outside (next returned) after)) :
    Brings config outside operationId expected (delivery.andThen later) fits checks recorded
      (runAlone config outside (first >>= next) site) := by
  unfold Delivery.andThen
  unfold Brings at starts
  cases ends : delivery.ends with
  | ok value =>
    refine records_bind starts ?_
    rintro checks recorded ⟨result, after⟩ ⟨stands, returns⟩
    rw [ends] at returns
    obtain ⟨returned, rfl, fit⟩ := returns
    exact ⟨returned, rfl, goes value returned checks recorded after fit stands⟩
  | error error =>
    rw [runAlone_bind]
    unfold Brings Records at *
    generalize runAlone config outside first site = ran at starts
    obtain ⟨result, after⟩ := ran
    dsimp only
    cases recording : record config outside.cancels expected checks recorded delivery.arrivals with
    | through checks recorded =>
      rw [recording] at starts
      obtain ⟨stands, returns⟩ := starts
      rw [ends] at returns
      cases returns
      exact ⟨stands, rfl⟩
    | cancelled recorded files =>
      rw [recording] at starts
      obtain ⟨raised, stands⟩ := starts
      cases raised
      exact ⟨rfl, stands⟩
    | refused =>
      rw [recording] at starts
      obtain ⟨⟨kind, raised⟩, stands⟩ := starts
      cases raised
      exact ⟨⟨kind, rfl⟩, stands⟩

theorem brings_orNext {body : ModelTask α} {handle : InstallError → ModelTask α}
    {delivery : Delivery β} {later : Nat → Delivery β}
    (tries : Brings config outside operationId expected delivery fits checks recorded
      (runAlone config outside body site))
    (passes : ∀ error, isSourceFailure error = false → handle error = throw error)
    (handles : ∀ checks recorded error files after, isSourceFailure error = true →
      Stands config operationId expected files recorded checks delivery.requests after →
      Brings config outside operationId expected
        { later delivery.requests with arrivals := .anew :: (later delivery.requests).arrivals } fits
        checks recorded (runAlone config outside (handle error) after)) :
    Brings config outside operationId expected (delivery.orNext later) fits checks recorded
      (runAlone config outside (tryCatch body handle) site) := by
  unfold Brings at tries
  have goesOn : ∀ failed, delivery.ends = .error failed → isSourceFailure failed = false →
      Brings config outside operationId expected delivery fits checks recorded
        (runAlone config outside (tryCatch body handle) site) := by
    intro failed ends other
    unfold Brings
    rw [← List.append_nil delivery.arrivals]
    refine records_tryCatch tries passes ?_ ?_
    · exact fun _ _ _ _ reached => records_through reached
    · rintro checks recorded error after ⟨stands, raised⟩
      rw [ends] at raised
      cases raised
      rw [passes failed other]
      refine records_through ⟨stands, ?_⟩
      rw [ends]
      rfl
  unfold Delivery.orNext
  cases ends : delivery.ends with
  | ok value =>
    dsimp only
    unfold Brings
    rw [← List.append_nil delivery.arrivals]
    refine records_tryCatch tries passes ?_ ?_
    · exact fun _ _ _ _ reached => records_through reached
    · rintro checks recorded error after ⟨_, returns⟩
      rw [ends] at returns
      obtain ⟨_, returned, _⟩ := returns
      cases returned
  | error failed =>
    dsimp only
    split
    next failure =>
      refine records_tryCatch tries passes ?_ ?_
      · rintro checks recorded value after ⟨_, raised⟩
        rw [ends] at raised
        cases raised
      · rintro checks recorded error after ⟨stands, raised⟩
        rw [ends] at raised
        cases raised
        exact handles checks recorded failed _ after failure stands
    next other => exact goesOn failed ends (Bool.eq_false_iff.2 other)

end

/-! ## One file -/

section

variable {config : InstallConfig} {outside : World} {operationId : String} {expected : Int}
  {files : FileTree} {recorded : Int} {checks requests : Nat} {site : InstallSite}

/-- A chunk that is written: the check, and the record when it is due. -/
theorem records_persistProgress
    (stands : Stands config operationId expected files recorded checks requests site)
    (outside : World) (counted : Nat) :
    Records config outside operationId expected [.chunk counted files]
      (fun checks recorded ended => ended.1 = .ok recorded ∧
        Stands config operationId expected files recorded checks requests ended.2)
      checks recorded
      (runAlone config outside (persistProgress config operationId recorded counted) site) := by
  obtain ⟨busy, filed, checked, requested⟩ := stands
  have checkedOnce : Stands config operationId expected files recorded (checks + 1) requests
      (site.1, site.2.next .cancelCheck) :=
    ⟨busy, filed, congrArg (· + 1) checked, requested⟩
  have asks : runAlone config outside (persistProgress config operationId recorded counted) site =
      runAlone config outside (if outside.cancels checks then throw .cancelled
        else if progressInterval ≤ (counted : Int) - recorded ∨ counted = expectedSize config then do
          let _ ← saveProgress operationId counted none none none
          pure (counted : Int)
        else pure recorded) (site.1, site.2.next .cancelCheck) := by
    rw [← checked]
    rfl
  rw [asks]
  unfold Records record
  by_cases cancelled : outside.cancels checks = true
  · rw [if_pos cancelled, if_pos cancelled]
    exact ⟨rfl, _, _, checkedOnce⟩
  · rw [if_neg cancelled, if_neg cancelled]
    by_cases due : progressInterval ≤ (counted : Int) - recorded ∨ counted = expectedSize config
    · rw [if_pos due, if_pos due, runAlone_bind]
      obtain ⟨saves, refuses⟩ :=
        checkedOnce.progress outside (Int.natCast_nonneg counted) none none none
      by_cases fit : Savable expected recorded counted
      · rw [if_pos fit]
        obtain ⟨after, written, ran, stands, _⟩ := saves fit
        rw [ran]
        exact ⟨rfl, stands⟩
      · rw [if_neg fit]
        obtain ⟨kind, after, ran, stands⟩ := refuses fit
        rw [ran]
        exact ⟨⟨kind, rfl⟩, _, _, _, _, stands⟩
    · rw [if_neg due, if_neg due]
      exact ⟨rfl, checkedOnce⟩

/-- What the hooks of a download do to the record. -/
structure HookRecords (config : InstallConfig) (outside : World) (operationId : String)
    (expected : Int) (hooks : DownloadHooks Int) (completed : Nat) (restart : List Arrival) :
    Prop where
  progress : ∀ recorded bytes, hooks.progress recorded bytes =
    persistProgress config operationId recorded (completed + bytes)
  restarts : ∀ {files recorded checks requests site},
    Stands config operationId expected files recorded checks requests site →
    Records config outside operationId expected restart
      (fun checks recorded ended => ended.1 = .ok recorded ∧
        Stands config operationId expected files recorded checks requests ended.2)
      checks recorded (runAlone config outside (hooks.onRestart recorded) site)
  headers : ∀ {files recorded checks requests site} (etag lastModified : Option String),
    Stands config operationId expected files recorded checks requests site →
    ∃ after, runAlone config outside (hooks.onHeaders recorded etag lastModified) site =
        (.ok recorded, after) ∧
      Stands config operationId expected files recorded checks requests after

variable {unicode : UnicodeData} {target : DownloadTarget} {hooks : DownloadHooks Int}
  {completed : Nat} {restart : List Arrival}

theorem brings_writeChunks
    (laws : HookRecords config outside operationId expected hooks completed restart)
    (chunks : List Bytes) (content : Bytes)
    (stands : Stands config operationId expected files recorded checks requests site) :
    Brings config outside operationId expected
      (deliverChunks target completed requests files content chunks)
      (fun content recorded returned => returned = (content, recorded)) checks recorded
      (runAlone config outside (writeChunks target hooks content recorded chunks) site) := by
  induction chunks generalizing files recorded checks site content with
  | nil => exact brings_return stands rfl
  | cons chunk rest ih =>
    unfold deliverChunks writeChunks
    split
    · exact brings_raise stands
    · have appended : Stands config operationId expected (files.append target.name chunk) recorded
          checks requests ({ site.1 with temp := site.1.temp.append target.name chunk }, site.2) := by
        rw [stands.files]
        exact stands.withFiles _
      have written := records_persistProgress appended outside
        (completed + (content ++ chunk).length)
      rw [← laws.progress] at written
      change Records config outside operationId expected ([_] ++ _) _ checks recorded
        (runAlone config outside (hooks.progress recorded (content ++ chunk).length >>= _) _)
      refine records_bind written ?_
      rintro checks recorded ⟨result, after⟩ ⟨returned, stands⟩
      exact ⟨recorded, returned, ih (content ++ chunk) stands⟩

theorem brings_receiveBody
    (laws : HookRecords config outside operationId expected hooks completed restart)
    (response : HttpResponse) (restarted : Bool) (content : Bytes)
    (stands : Stands config operationId expected files recorded checks requests site) :
    Brings config outside operationId expected
      (deliverBody config.sha256 target completed response files requests content)
      (fun _ recorded returned => returned.2 = recorded) checks recorded
      (runAlone config outside
        (receiveBody config.sha256 target hooks response restarted content recorded) site) := by
  unfold deliverBody receiveBody
  refine brings_bind (brings_writeChunks laws response.chunks content stands) ?_
  rintro content returned checks recorded after rfl stands
  unfold checkBody
  dsimp only
  cases response.broken with
  | some failure => exact brings_raise stands
  | none =>
    dsimp only
    split
    · exact brings_raise stands
    · unfold checkDigest
      split
      · exact brings_raise stands
      · exact brings_return stands rfl

/-- An existing file is read back whole. -/
theorem runAlone_filePrefix {site : InstallSite} {content : Bytes}
    (there : site.1.temp.content target.name = some content) :
    runAlone config outside (filePrefix target true) site = (.ok content, site) := by
  have listed : runAlone config outside ModelTask.tempFiles site = (.ok site.1.temp, site) := rfl
  unfold filePrefix
  rw [if_pos rfl, runAlone_bind, listed]
  dsimp only
  rw [there]
  rfl

theorem runAlone_filePrefix_absent {site : InstallSite}
    (absent : site.1.temp.content target.name = none) :
    runAlone config outside (filePrefix target true) site = (.error .unexpected, site) := by
  have listed : runAlone config outside ModelTask.tempFiles site = (.ok site.1.temp, site) := rfl
  unfold filePrefix
  rw [if_pos rfl, runAlone_bind, listed]
  dsimp only
  rw [absent]
  rfl

/-- From the headers on. -/
theorem brings_headers
    (laws : HookRecords config outside operationId expected hooks completed restart)
    (response : HttpResponse) (appends restarted : Bool)
    (stands : Stands config operationId expected files recorded checks requests site) :
    Brings config outside operationId expected
      (match (if appends then files.content target.name else some []) with
        | none => { files, requests, ends := .error .unexpected }
        | some content => deliverBody config.sha256 target completed response
            (if appends then files else files.put target.name []) requests content)
      (fun _ recorded returned => returned.2 = recorded) checks recorded
      (runAlone config outside (do
        let memory ← hooks.onHeaders recorded response.etag response.lastModified
        let content ← filePrefix target appends
        receiveBody config.sha256 target hooks response restarted content memory) site) := by
  obtain ⟨after, ran, stands⟩ := laws.headers response.etag response.lastModified stands
  rw [runAlone_bind, ran]
  cases appends with
  | false =>
    have created : Stands config operationId expected (files.put target.name []) recorded checks
        requests ({ after.1 with temp := after.1.temp.put target.name [] }, after.2) := by
      rw [stands.files]
      exact stands.withFiles _
    exact brings_receiveBody laws response restarted [] created
  | true =>
    dsimp only
    rw [if_pos rfl, if_pos rfl, runAlone_bind]
    cases content : files.content target.name with
    | none =>
      rw [runAlone_filePrefix_absent (stands.files ▸ content)]
      exact brings_raise stands
    | some content =>
      rw [runAlone_filePrefix (stands.files ▸ content)]
      exact brings_receiveBody laws response restarted _ stands

theorem brings_receive
    (laws : HookRecords config outside operationId expected hooks completed restart)
    (response : HttpResponse)
    (stands : Stands config operationId expected files recorded checks requests site) :
    Brings config outside operationId expected
      (deliverResponse config.sha256 unicode target completed restart response files requests)
      (fun _ recorded returned => returned.2 = recorded) checks recorded
      (runAlone config outside (receive config.sha256 unicode target hooks response
        (existingBytes files target.name) recorded) site) := by
  unfold deliverResponse receive openTarget
  dsimp only
  split
  · cases validateContentRange unicode response.contentRange (existingBytes files target.name)
        target.expectedSizeBytes with
    | error error => exact brings_raise stands
    | ok => exact brings_headers laws response true false stands
  · split
    · split
      · rw [runAlone_bind_assoc]
        refine records_bind (laws.restarts stands) ?_
        rintro checks recorded ⟨result, after⟩ ⟨returned, stands⟩
        exact ⟨recorded, returned, brings_headers laws response false true stands⟩
      · exact brings_headers laws response false false stands
    · exact brings_raise stands

/-- A request, and what becomes of its answer. -/
theorem brings_get
    (laws : HookRecords config outside operationId expected hooks completed restart)
    (range : Option RangeRequest)
    (stands : Stands config operationId expected files recorded checks requests site) :
    Brings config outside operationId expected
      (match outside.answers requests with
        | .error failure => { files, requests := requests + 1, ends := .error failure.error }
        | .ok response =>
          deliverResponse config.sha256 unicode target completed restart response files (requests + 1))
      (fun _ recorded returned => returned.2 = recorded) checks recorded
      (runAlone config outside (do
        let answered ← ModelTask.get target.url range
        let response ← ModelTask.orRaise (answered.mapError TransferFailure.error)
        receive config.sha256 unicode target hooks response (existingBytes files target.name)
          recorded) site) := by
  have asked : Stands config operationId expected files recorded checks (requests + 1)
      (site.1, site.2.next (.get target.url range)) :=
    ⟨stands.busy, stands.files, stands.checks, congrArg (· + 1) stands.requests⟩
  have answered : runAlone config outside (do
      let answered ← ModelTask.get target.url range
      let response ← ModelTask.orRaise (answered.mapError TransferFailure.error)
      receive config.sha256 unicode target hooks response (existingBytes files target.name)
        recorded) site = runAlone config outside (do
      let response ← ModelTask.orRaise ((outside.answers requests).mapError TransferFailure.error)
      receive config.sha256 unicode target hooks response (existingBytes files target.name)
        recorded) (site.1, site.2.next (.get target.url range)) := by
    rw [← stands.requests]
    rfl
  rw [answered]
  cases outside.answers requests with
  | error failure => exact brings_raise asked
  | ok response => exact brings_receive laws response asked

theorem brings_downloadResumable
    (laws : HookRecords config outside operationId expected hooks completed restart)
    (etag lastModified : Option String)
    (stands : Stands config operationId expected files recorded checks requests site) :
    Brings config outside operationId expected
      (deliverFile config.sha256 config.unicode outside.answers target completed restart files
        requests)
      (fun _ recorded returned => returned.2 = recorded) checks recorded
      (runAlone config outside (downloadResumable config.sha256 config.unicode target hooks etag
        lastModified recorded) site) := by
  have looks : runAlone config outside (downloadResumable config.sha256 config.unicode target hooks
      etag lastModified recorded) site = runAlone config outside (do
        checkObstruction target files
        if target.expectedSizeBytes < existingBytes files target.name then
          throw (.download "INVALID_CONTENT_RANGE")
        else if existingBytes files target.name = target.expectedSizeBytes then do
          let outcome ← completeInPlace config.sha256 target ((files.content target.name).getD [])
          pure (outcome, recorded)
        else do
          let answered ← ModelTask.get target.url
            (if 0 < existingBytes files target.name then
              some ⟨existingBytes files target.name,
                (etag.filter (· ≠ "")).or (lastModified.filter (· ≠ ""))⟩
            else none)
          let response ← ModelTask.orRaise (answered.mapError TransferFailure.error)
          receive config.sha256 config.unicode target hooks response
            (existingBytes files target.name) recorded) site := by
    rw [← stands.files]
    rfl
  rw [looks]
  unfold deliverFile checkObstruction
  cases files.obstruction target.name with
  | some error => exact brings_raise stands
  | none =>
    dsimp only
    split
    · exact brings_raise stands
    · split
      · unfold checkDigest completeInPlace
        split
        · exact brings_raise stands
        · exact brings_return stands rfl
      · exact brings_get laws _ stands

/-! ## The sources -/

theorem fileHooks_records (completed : Nat) :
    HookRecords config outside operationId expected (fileHooks config operationId completed) completed
      [] where
  progress _ _ := rfl
  restarts stands := records_through ⟨rfl, stands⟩
  headers _ _ stands := ⟨_, rfl, stands⟩

theorem archiveHooks_records :
    HookRecords config outside operationId expected (archiveHooks config operationId) 0 [.anew] where
  progress recorded bytes := by
    rw [Nat.zero_add]
    rfl
  restarts stands := by
    obtain ⟨after, written, ran, restarted, _⟩ := stands.restart outside
    unfold archiveHooks
    dsimp only
    rw [runAlone_bind, ran]
    exact ⟨rfl, restarted⟩
  headers etag lastModified stands := by
    obtain ⟨after, written, ran, saved, _⟩ :=
      (stands.progress outside stands.counted.1 (some config.tempPath) etag lastModified).1
        ⟨le_refl _, stands.counted.2⟩
    unfold archiveHooks
    dsimp only
    rw [runAlone_bind, ran]
    exact ⟨after, rfl, saved⟩

theorem brings_downloadFiles (source : DownloadSource) (list : List ModelFile) (completed : Nat)
    (stands : Stands config operationId expected files recorded checks requests site) :
    Brings config outside operationId expected
      (deliverFiles config outside.answers source completed list files requests)
      (fun _ recorded returned => returned = recorded) checks recorded
      (runAlone config outside (downloadFiles config operationId source.url completed recorded list)
        site) := by
  induction list generalizing completed files recorded checks requests site with
  | nil => exact brings_return stands rfl
  | cons file rest ih =>
    unfold deliverFiles downloadFiles
    refine brings_bind
      (brings_downloadResumable (fileHooks_records completed) none none stands) ?_
    rintro value ⟨outcome, recorded⟩ checks _ after rfl stands
    exact ih (completed + file.sizeBytes) stands

theorem brings_downloadFrom (source : DownloadSource) (etag lastModified : Option String)
    (stands : Stands config operationId expected files recorded checks requests site) :
    Brings config outside operationId expected
      (deliverFrom config outside.answers source files requests) (fun _ _ _ => True) checks recorded
      (runAlone config outside
        (downloadFrom config operationId source etag lastModified recorded) site) := by
  unfold deliverFrom downloadFrom
  split
  · rw [← Delivery.andThen_return (deliverFiles _ _ _ _ _ _ _)]
    refine brings_bind (brings_downloadFiles source config.manifest.files 0 stands) ?_
    exact fun _ _ _ _ _ _ stands => brings_return stands trivial
  · rw [← Delivery.andThen_return (deliverFile _ _ _ _ _ _ _ _)]
    refine brings_bind (brings_downloadResumable archiveHooks_records etag lastModified stands) ?_
    exact fun _ _ _ _ _ _ stands => brings_return stands trivial

theorem brings_downloadSources (outside : World) (sources : List DownloadSource) (source : DownloadSource)
    (etag lastModified : Option String)
    (stands : Stands config operationId expected files recorded checks requests site) :
    Brings config outside operationId expected
      (deliverSources config outside.answers source files requests sources) (fun _ _ _ => True)
      checks recorded
      (runAlone config outside
        (downloadSources config operationId source etag lastModified recorded sources) site) := by
  induction sources generalizing source etag lastModified files recorded checks requests site with
  | nil => exact brings_downloadFrom source etag lastModified stands
  | cons next rest ih =>
    unfold deliverSources downloadSources
    refine brings_orNext (brings_downloadFrom source etag lastModified stands) ?_ ?_
    · intro error other
      rw [other]
      rfl
    · intro checks recorded error files after failed stands
      rw [failed, if_pos rfl]
      have truncated : Stands config operationId expected [] recorded checks _
          ({ after.1 with temp := [] }, after.2) := stands.withFiles []
      obtain ⟨switched, operation, ran, anew, _⟩ :=
        truncated.switchSource outside next.url next.kind.value
      have goes : runAlone config outside (do
          ModelTask.truncateTemp
          let operation ← ModelTask.perform fun now =>
            .switchSource operationId next.url next.kind.value now
          downloadSources config operationId next operation.etag operation.lastModified 0 rest) after =
          runAlone config outside (downloadSources config operationId next operation.etag
            operation.lastModified 0 rest) switched := by
        change runAlone config outside (_ >>= _) ({ after.1 with temp := [] }, after.2) = _
        rw [runAlone_bind, ran]
      rw [goes]
      exact ih next operation.etag operation.lastModified anew

end

end EvoBlue.Guarantees
