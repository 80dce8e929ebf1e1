import EvoBlue.Source.ModelHost
import EvoBlue.Source.ResumableDownload

/-!
# The operations of a download

`download_resumable` once more, with nobody else at work on the file, but down to what may
fail in it: the operations on the file and the callbacks are calls, which may raise, and the
size and the hash run along with the file, from which the code does not read them again.
-/

namespace EvoBlue.Source

open EvoBlue.Kernel

inductive TransferCall where
  | makeParent
  /-- `dest.stat().st_size if dest.exists() else 0`. -/
  | localSize
  /-- The whole file, for the hash. -/
  | readFile
  | get (url : String) (range : Option RangeRequest)
  | onRestart
  | onHeaders (etag lastModified : Option String)
  | openFile (append : Bool)
  | write (chunk : Bytes)
  | progress (size : Nat)
  | closeFile

abbrev TransferReply : TransferCall → Type
  | .localSize => Nat
  | .readFile => Bytes
  | .get _ _ => HttpResponse
  | _ => Unit

abbrev TransferAnswer (call : TransferCall) : Type := Except InstallError (TransferReply call)

abbrev Transfer := Attempt TransferCall TransferAnswer InstallError

namespace Transfer

abbrev ask (call : TransferCall) : Transfer (TransferReply call) := Attempt.ask call

section

variable (sha256 : Bytes → String) (unicode : UnicodeData) (target : DownloadTarget)

/-- The digest of a file that is already complete. -/
def verifyInPlace (existing : Nat) : Transfer DownloadOutcome := do
  let content ← ask .readFile
  if sha256 content ≠ target.expectedSha256 then throw (.download "SHA256_MISMATCH")
  else pure { downloadedBytes := existing, sha256 := sha256 content }

/-- What is kept of the file, by the status: whether it is appended to, whether the download
starts again, and the size that the body is added to. -/
def chooseMode (response : HttpResponse) (existing : Nat) : Transfer (Bool × Bool × Nat) :=
  if response.status = 206 then
    match validateContentRange unicode response.contentRange existing target.expectedSizeBytes with
    | .error error => throw error
    | .ok () => pure (true, false, existing)
  else if response.status = 200 then
    if 0 < existing then do
      ask .onRestart
      pure (false, true, 0)
    else pure (false, false, 0)
  else throw (.download "DOWNLOAD_FAILED")

/-- The loop over the chunks, with the size and what is hashed so far. -/
def writeBody : (size : Nat) → (hashed : Bytes) → List Bytes → Transfer (Nat × Bytes)
  | size, hashed, [] => pure (size, hashed)
  | size, hashed, chunk :: rest =>
    if target.expectedSizeBytes < size + chunk.length then throw (.download "RESPONSE_TOO_LARGE")
    else do
      ask (.write chunk)
      ask (.progress (size + chunk.length))
      writeBody (size + chunk.length) (hashed ++ chunk) rest

/-- The body, down to the checks of size and digest. -/
def receiveBody (response : HttpResponse) (restarted : Bool) (size : Nat) (hashed : Bytes) :
    Transfer DownloadOutcome := do
  let (size, hashed) ← writeBody target size hashed response.chunks
  match response.broken with
  | some failure => throw failure.error
  | none => do
    ask .closeFile
    if size ≠ target.expectedSizeBytes then throw (.download "SIZE_MISMATCH")
    else if sha256 hashed ≠ target.expectedSha256 then throw (.download "SHA256_MISMATCH")
    else
      pure { downloadedBytes := size
             sha256 := sha256 hashed
             restarted
             etag := response.etag
             lastModified := response.lastModified }

/-- What is hashed of the file before the body is. -/
def hashPrefix (append : Bool) : Transfer Bytes := if append then ask .readFile else pure []

/-- A response, from its status on. -/
def receive (response : HttpResponse) (existing : Nat) : Transfer DownloadOutcome := do
  let (append, restarted, size) ← chooseMode unicode target response existing
  ask (.onHeaders response.etag response.lastModified)
  let hashed ← hashPrefix append
  ask (.openFile append)
  receiveBody sha256 target response restarted size hashed

/-- `download_resumable`. -/
def downloadResumable (etag lastModified : Option String) : Transfer DownloadOutcome := do
  ask .makeParent
  let existing ← ask .localSize
  if target.expectedSizeBytes < existing then throw (.download "INVALID_CONTENT_RANGE")
  else if existing = target.expectedSizeBytes then verifyInPlace sha256 target existing
  else do
    let range : Option RangeRequest :=
      if 0 < existing then
        some ⟨existing, (etag.filter (· ≠ "")).or (lastModified.filter (· ≠ ""))⟩
      else none
    let response ← ask (.get target.url range)
    receive sha256 unicode target response existing

end

end Transfer

/-! ## The file -/

/-- The destination of a download, and what its callback and its server said. -/
structure TransferSite where
  file : Option Bytes
  /-- The values `progress` was called with, the last one first. -/
  told : List Nat := []
  response : Option HttpResponse := none

def TransferSite.size (site : TransferSite) : Nat := (site.file.getD []).length

/-- What comes from outside to one call: an exception, with what a write got out before it, or
the response of the server. -/
structure Circumstance where
  raises : Option InstallError := none
  torn : Nat := 0
  response : HttpResponse

namespace TransferSite

/-- A call that succeeds. -/
def perform (response : HttpResponse) :
    (call : TransferCall) → TransferSite → TransferAnswer call × TransferSite
  | .makeParent, site => (.ok (), site)
  | .localSize, site => (.ok site.size, site)
  | .readFile, site =>
    match site.file with
    | some content => (.ok content, site)
    | none => (.error .unexpected, site)
  | .get _ _, site => (.ok response, { site with response := some response })
  | .onRestart, site => (.ok (), site)
  | .onHeaders _ _, site => (.ok (), site)
  | .openFile append, site =>
    (.ok (), { site with file := some (if append then site.file.getD [] else []) })
  | .write chunk, site => (.ok (), { site with file := site.file.map (· ++ chunk) })
  | .progress size, site => (.ok (), { site with told := size :: site.told })
  | .closeFile, site => (.ok (), site)

/-- What a call that raises leaves. -/
def afterFailure (torn : Nat) : TransferCall → TransferSite → TransferSite
  | .write chunk, site => { site with file := site.file.map (· ++ chunk.take torn) }
  | .progress size, site => { site with told := size :: site.told }
  | _, site => site

/-- One call. -/
def serve (now : Circumstance) (call : TransferCall) (site : TransferSite) :
    TransferAnswer call × TransferSite :=
  match now.raises with
  | some error => (.error error, site.afterFailure now.torn call)
  | none => site.perform now.response call

/-- The calls of one download, with the circumstances of each. -/
def serveNext (outside : Nat → Circumstance) (call : TransferCall) (world : TransferSite × Nat) :
    TransferAnswer call × (TransferSite × Nat) :=
  let served := world.1.serve (outside world.2) call
  (served.1, served.2, world.2 + 1)

end TransferSite

/-! ## The callbacks left out -/

/-- Callbacks that return at once. -/
def silentHooks : DownloadHooks Unit where
  progress _ _ := pure ()
  onRestart _ := pure ()
  onHeaders _ _ _ := pure ()

section

variable (sha256 : Bytes → String) (unicode : UnicodeData) (target : DownloadTarget)
  (outside : ∀ call, ModelAnswer call)

/-- The servers of the outside, and nothing that fails. -/
def TransferSite.serveWith (call : TransferCall) (site : TransferSite) :
    TransferAnswer call × TransferSite :=
  match call with
  | .get url range =>
    match outside (.get url range) with
    | .ok response => site.perform response (.get url range)
    | .error failure => (.error failure.error, site)
  | other => site.perform { status := 0 } other

/-- The same end, with the same file. -/
def SameEnd {α β : Type} (name : String) (same : α → β) (host : Except InstallError α × ModelHost)
    (site : Except InstallError β × TransferSite) : Prop :=
  host.1.map same = site.1 ∧ host.2.temp.content name = site.2.file

variable {sha256 unicode target outside} {α β γ δ : Type} {same : α → β} {host : ModelHost}
  {site : TransferSite}

theorem exec_tempFiles (next : FileTree → ModelTask α) :
    (ModelTask.tempFiles >>= next).run.exec (ModelHost.serve sha256 outside) host =
      (next host.temp).run.exec (ModelHost.serve sha256 outside) host := rfl

theorem exec_pure_bind (value : α) (next : α → ModelTask β) :
    (pure value >>= next).run.exec (ModelHost.serve sha256 outside) host =
      (next value).run.exec (ModelHost.serve sha256 outside) host := rfl

theorem exec_get (url : String) (range : Option RangeRequest)
    (next : Except TransferFailure HttpResponse → ModelTask α) :
    (ModelTask.get url range >>= next).run.exec (ModelHost.serve sha256 outside) host =
      (next (outside (.get url range))).run.exec (ModelHost.serve sha256 outside) host := rfl

theorem exec_ask {call : TransferCall} {next : TransferReply call → Transfer α}
    {reply : TransferReply call} {after : TransferSite}
    (served : TransferSite.serveWith outside call site = (.ok reply, after)) :
    (Transfer.ask call >>= next).run.exec (TransferSite.serveWith outside) site =
      (next reply).run.exec (TransferSite.serveWith outside) after := by
  rw [Attempt.exec_bind, Attempt.exec_ask, served]

theorem exec_ask_raised {call : TransferCall} {next : TransferReply call → Transfer α}
    {error : InstallError} {after : TransferSite}
    (served : TransferSite.serveWith outside call site = (.error error, after)) :
    (Transfer.ask call >>= next).run.exec (TransferSite.serveWith outside) site =
      (.error error, after) := by
  rw [Attempt.exec_bind, Attempt.exec_ask, served]

theorem serve_get (url : String) (range : Option RangeRequest) :
    TransferSite.serveWith outside (.get url range) site =
      match outside (.get url range) with
      | .ok response => (.ok response, { site with response := some response })
      | .error failure => (.error failure.error, site) := rfl

theorem serve_readFile : TransferSite.serveWith outside .readFile site =
    match site.file with
    | some content => (.ok content, site)
    | none => (.error .unexpected, site) := rfl

/-- In sequence. -/
theorem SameEnd.bind {name : String} {same : α → β} {sameNext : γ → δ} {first : ModelTask α}
    {next : α → ModelTask γ} {firstCalls : Transfer β} {nextCalls : β → Transfer δ}
    (starts : SameEnd name same (first.run.exec (ModelHost.serve sha256 outside) host)
      (firstCalls.run.exec (TransferSite.serveWith outside) site))
    (goes : ∀ value host' site', host'.temp.content name = site'.file →
      SameEnd name sameNext ((next value).run.exec (ModelHost.serve sha256 outside) host')
        ((nextCalls (same value)).run.exec (TransferSite.serveWith outside) site')) :
    SameEnd name sameNext ((first >>= next).run.exec (ModelHost.serve sha256 outside) host)
      ((firstCalls >>= nextCalls).run.exec (TransferSite.serveWith outside) site) := by
  rw [Attempt.exec_bind, Attempt.exec_bind]
  revert starts
  generalize first.run.exec (ModelHost.serve sha256 outside) host = left
  generalize firstCalls.run.exec (TransferSite.serveWith outside) site = right
  rintro ⟨result, file⟩
  obtain ⟨value, host'⟩ := left
  obtain ⟨value', site'⟩ := right
  dsimp only at result file ⊢
  rw [← result]
  cases value with
  | ok value => exact goes value host' site' file
  | error error => exact ⟨rfl, file⟩

theorem writeChunks_agrees (chunks : List Bytes) {content : Bytes}
    (there : host.temp.content target.name = some content) (file : site.file = some content) :
    SameEnd target.name (fun result => (result.1.length, result.1))
      ((writeChunks target silentHooks content () chunks).run.exec (ModelHost.serve sha256 outside) host)
      ((Transfer.writeBody target content.length content chunks).run.exec
        (TransferSite.serveWith outside) site) := by
  induction chunks generalizing content host site with
  | nil => exact ⟨rfl, there.trans file.symm⟩
  | cons chunk rest ih =>
    unfold writeChunks Transfer.writeBody
    split
    next => exact ⟨rfl, there.trans file.symm⟩
    next =>
      rw [exec_ask rfl, exec_ask rfl, ← List.length_append]
      apply ih
      · change (host.temp.append target.name chunk).content target.name = _
        rw [FileTree.content_append, there]
        rfl
      · change site.file.map (· ++ chunk) = _
        rw [file]
        rfl

theorem receiveBody_agrees (response : HttpResponse) (restarted : Bool) {content : Bytes}
    (there : host.temp.content target.name = some content) (file : site.file = some content) :
    SameEnd target.name Prod.fst
      ((receiveBody sha256 target silentHooks response restarted content ()).run.exec
        (ModelHost.serve sha256 outside) host)
      ((Transfer.receiveBody sha256 target response restarted content.length content).run.exec
        (TransferSite.serveWith outside) site) := by
  unfold receiveBody Transfer.receiveBody
  apply SameEnd.bind (writeChunks_agrees response.chunks there file)
  rintro ⟨content, _⟩ host' site' same
  dsimp only
  cases response.broken with
  | some failure => exact ⟨rfl, same⟩
  | none =>
    dsimp only
    rw [exec_ask rfl]
    split
    · exact ⟨rfl, same⟩
    · split <;> exact ⟨rfl, same⟩

/-- From the headers on. -/
theorem body_agrees (response : HttpResponse) (append restarted : Bool)
    (same : host.temp.content target.name = site.file) :
    SameEnd target.name Prod.fst
      ((do
        let content ← filePrefix target append
        receiveBody sha256 target silentHooks response restarted content ()).run.exec
          (ModelHost.serve sha256 outside) host)
      ((do
        let hashed ← Transfer.hashPrefix append
        Transfer.ask (.openFile append)
        let size := if append then site.size else 0
        Transfer.receiveBody sha256 target response restarted size hashed).run.exec
          (TransferSite.serveWith outside) site) := by
  cases append with
  | false =>
    apply @receiveBody_agrees sha256 target outside { host with temp := host.temp.put target.name [] }
    · exact FileTree.content_put ..
    · rfl
  | true =>
    unfold filePrefix Transfer.hashPrefix
    rw [if_pos rfl, if_pos rfl, if_pos rfl]
    have read := @serve_readFile outside site
    cases held : site.file with
    | none =>
      rw [held] at same read
      rw [exec_ask_raised read]
      change SameEnd _ _ (Process.exec _ (ExceptT.run ((match host.temp.content target.name with
        | some content => pure content
        | none => throw .unexpected) >>= _)) _) _
      rw [same]
      exact ⟨rfl, same.trans held.symm⟩
    | some content =>
      rw [held] at same read
      have size : site.size = content.length := by
        unfold TransferSite.size
        rw [held]
        rfl
      rw [exec_ask read, exec_ask rfl, size]
      change SameEnd _ _ (Process.exec _ (ExceptT.run ((match host.temp.content target.name with
        | some content => pure content
        | none => throw .unexpected) >>= _)) _) _
      rw [same]
      apply receiveBody_agrees response restarted same
      change some (site.file.getD []) = _
      rw [held]
      rfl

theorem receive_agrees (response : HttpResponse) (same : host.temp.content target.name = site.file) :
    SameEnd target.name Prod.fst
      ((receive sha256 unicode target silentHooks response (existingBytes host.temp target.name) ()).run.exec
        (ModelHost.serve sha256 outside) host)
      ((Transfer.receive sha256 unicode target response site.size).run.exec
        (TransferSite.serveWith outside) site) := by
  have size : existingBytes host.temp target.name = site.size := by
    unfold existingBytes TransferSite.size
    rw [same]
  unfold receive openTarget Transfer.receive Transfer.chooseMode
  rw [size]
  split
  next status =>
    cases validateContentRange unicode response.contentRange site.size target.expectedSizeBytes with
    | error error => exact ⟨rfl, same⟩
    | ok => exact body_agrees response true false same
  next =>
    split
    next status =>
      split
      · exact body_agrees response false true same
      · exact body_agrees response false false same
    next => exact ⟨rfl, same⟩

/-- With callbacks that return at once, and operations on the file that do not fail, the two come
to the same end. -/
theorem downloadResumable_agrees (etag lastModified : Option String)
    (clear : host.temp.obstruction target.name = none) (positive : 0 < target.expectedSizeBytes)
    (same : host.temp.content target.name = site.file) :
    SameEnd target.name Prod.fst
      ((downloadResumable sha256 unicode target silentHooks etag lastModified ()).run.exec
        (ModelHost.serve sha256 outside) host)
      ((Transfer.downloadResumable sha256 unicode target etag lastModified).run.exec
        (TransferSite.serveWith outside) site) := by
  have size : existingBytes host.temp target.name = site.size := by
    unfold existingBytes TransferSite.size
    rw [same]
  unfold downloadResumable Transfer.downloadResumable checkObstruction
  rw [exec_ask rfl, exec_ask rfl, exec_tempFiles, clear]
  dsimp only
  rw [size]
  split
  next => exact ⟨rfl, same⟩
  next =>
    split
    next complete =>
      have read := @serve_readFile outside site
      cases held : site.file with
      | none =>
        unfold TransferSite.size at complete
        rw [held] at complete
        exact absurd complete.symm (Nat.ne_of_gt positive)
      | some content =>
        have length : site.size = content.length := by
          unfold TransferSite.size
          rw [held]
          rfl
        rw [held] at read same
        unfold completeInPlace Transfer.verifyInPlace
        rw [exec_ask read, same, Option.getD_some, length]
        split <;> exact ⟨rfl, same.trans held.symm⟩
    next =>
      rw [exec_pure_bind, exec_get]
      generalize (if 0 < site.size then _ else none : Option RangeRequest) = range
      have got := @serve_get outside site target.url range
      cases answered : outside (.get target.url range) with
      | error failure =>
        rw [answered] at got
        rw [exec_ask_raised got]
        exact ⟨rfl, same⟩
      | ok response =>
        rw [answered] at got
        rw [exec_ask got]
        have received := @receive_agrees sha256 unicode target outside host
          { site with response := some response } response same
        rw [size] at received
        exact received

end

end EvoBlue.Source
