import EvoBlue.Guarantees.InstallSteps

/-!
# What a download brings

Which bytes come in is settled by what lies under the temporary path and by what the
servers send. `deliverSources` reads it off these, chunk by chunk, file by file and source
by source; it knows no database, no clock and no cancellation. `record` goes along the
arrivals with the row of the operation and the checks for a cancellation.
-/

namespace EvoBlue.Guarantees

open EvoBlue.Kernel EvoBlue.Source

/-! ## Arrivals -/

inductive Arrival where
  /-- The file, or the whole download, starts again from nothing. -/
  | anew
  /-- A chunk is written: the bytes counted with it, and what lies on the disk then. -/
  | chunk (counted : Nat) (files : FileTree)

/-- What comes in, what it leaves on the disk, how many requests were answered, and how it ends. -/
structure Delivery (α : Type) where
  arrivals : List Arrival := []
  files : FileTree
  requests : Nat
  ends : Except InstallError α

namespace Delivery

variable {α β : Type}

def andThen (first : Delivery α) (next : α → FileTree → Nat → Delivery β) : Delivery β :=
  match first.ends with
  | .error error => { first with ends := .error error }
  | .ok value =>
    let rest := next value first.files first.requests
    { rest with arrivals := first.arrivals ++ rest.arrivals }

theorem andThen_return (first : Delivery α) :
    (first.andThen fun value files requests => { files, requests, ends := .ok value }) = first := by
  obtain ⟨arrivals, files, requests, ends⟩ := first
  cases ends with
  | ok value =>
    unfold andThen
    dsimp only
    rw [List.append_nil]
  | error error => rfl

/-- After a failure of the source, the next one, with everything anew. -/
def orNext (first : Delivery α) (next : Nat → Delivery α) : Delivery α :=
  match first.ends with
  | .ok _ => first
  | .error error =>
    if isSourceFailure error then
      let later := next first.requests
      { later with arrivals := first.arrivals ++ .anew :: later.arrivals }
    else first

end Delivery

section

variable (sha256 : Bytes → String) (unicode : UnicodeData)
  (answers : Nat → Except TransferFailure HttpResponse) (target : DownloadTarget) (completed : Nat)

/-- The chunks are written to the file, which holds `content`, down to the first too large one. -/
def deliverChunks (requests : Nat) : FileTree → Bytes → List Bytes → Delivery Bytes
  | files, content, [] => { files, requests, ends := .ok content }
  | files, content, chunk :: rest =>
    if target.expectedSizeBytes < content.length + chunk.length then
      { files, requests, ends := .error (.download "RESPONSE_TOO_LARGE") }
    else
      let grown := files.append target.name chunk
      let later := deliverChunks requests grown (content ++ chunk) rest
      { later with
        arrivals := .chunk (completed + (content ++ chunk).length) grown :: later.arrivals }

def checkDigest (content : Bytes) : Except InstallError Unit :=
  if sha256 content ≠ target.expectedSha256 then .error (.download "SHA256_MISMATCH") else .ok ()

def checkBody (broken : Option TransferFailure) (content : Bytes) : Except InstallError Unit :=
  match broken with
  | some failure => .error failure.error
  | none =>
    if content.length ≠ target.expectedSizeBytes then .error (.download "SIZE_MISMATCH")
    else checkDigest sha256 target content

def deliverBody (response : HttpResponse) (files : FileTree) (requests : Nat) (content : Bytes) :
    Delivery Unit :=
  (deliverChunks target completed requests files content response.chunks).andThen
    fun content files requests =>
      { files, requests, ends := checkBody sha256 target response.broken content }

/-- A response goes on with the file or starts it again; `restart` is what then comes first. -/
def deliverResponse (restart : List Arrival) (response : HttpResponse) (files : FileTree)
    (requests : Nat) : Delivery Unit :=
  let existing := existingBytes files target.name
  if response.status = 206 then
    match validateContentRange unicode response.contentRange existing target.expectedSizeBytes with
    | .error error => { files, requests, ends := .error error }
    | .ok () =>
      match files.content target.name with
      | none => { files, requests, ends := .error .unexpected }
      | some content => deliverBody sha256 target completed response files requests content
  else if response.status = 200 then
    let body := deliverBody sha256 target completed response (files.put target.name []) requests []
    if 0 < existing then { body with arrivals := restart ++ body.arrivals } else body
  else { files, requests, ends := .error (.download "DOWNLOAD_FAILED") }

/-- One file; nothing is asked of the server when all of it is there. -/
def deliverFile (restart : List Arrival) (files : FileTree) (requests : Nat) : Delivery Unit :=
  let existing := existingBytes files target.name
  match files.obstruction target.name with
  | some error => { files, requests, ends := .error error }
  | none =>
    if target.expectedSizeBytes < existing then
      { files, requests, ends := .error (.download "INVALID_CONTENT_RANGE") }
    else if existing = target.expectedSizeBytes then
      { files, requests, ends := checkDigest sha256 target ((files.content target.name).getD []) }
    else
      match answers requests with
      | .error failure => { files, requests := requests + 1, ends := .error failure.error }
      | .ok response =>
        deliverResponse sha256 unicode target completed restart response files (requests + 1)

end

section

variable (config : InstallConfig) (answers : Nat → Except TransferFailure HttpResponse)

def setTarget (source : DownloadSource) (file : ModelFile) : DownloadTarget where
  url := withoutSlashes source.url ++ "/" ++ file.sourcePath.getD ""
  name := file.name
  expectedSha256 := file.sha256
  expectedSizeBytes := file.sizeBytes

/-- The files of a set; one that starts again does not take back what was counted. -/
def deliverFiles (source : DownloadSource) :
    (completed : Nat) → List ModelFile → FileTree → (requests : Nat) → Delivery Unit
  | _, [], files, requests => { files, requests, ends := .ok () }
  | completed, file :: rest, files, requests =>
    (deliverFile config.sha256 config.unicode answers (setTarget source file) completed [] files
      requests).andThen fun _ => deliverFiles source (completed + file.sizeBytes) rest

def archiveTarget (source : DownloadSource) : DownloadTarget where
  url := source.url
  name := ""
  expectedSha256 := source.sha256
  expectedSizeBytes := source.sizeBytes

def deliverFrom (source : DownloadSource) (files : FileTree) (requests : Nat) : Delivery Unit :=
  if config.manifest.isFileSet then
    deliverFiles config answers source 0 config.manifest.files files requests
  else
    deliverFile config.sha256 config.unicode answers (archiveTarget source) 0 [.anew] files requests

/-- The sources, each with an empty directory after one that failed. -/
def deliverSources (source : DownloadSource) (files : FileTree) (requests : Nat) :
    List DownloadSource → Delivery Unit
  | [] => deliverFrom config answers source files requests
  | next :: rest =>
    (deliverFrom config answers source files requests).orNext fun requests =>
      deliverSources next [] requests rest

end

/-! ## No cancellation -/

section

variable {unicode : UnicodeData}

theorem validateContentRange_error {value : Option Text} {start total : Nat} {error : InstallError}
    (raised : validateContentRange unicode value start total = .error error) : error ≠ .cancelled := by
  rintro rfl
  unfold validateContentRange at raised
  repeat' split at raised
  all_goals cases raised

theorem obstruction_error {files : FileTree} {name : String} {error : InstallError}
    (raised : files.obstruction name = some error) : error ≠ .cancelled := by
  rintro rfl
  unfold FileTree.obstruction at raised
  dsimp only at raised
  split at raised
  · cases raised
  · split at raised <;> cases raised

variable {α β : Type} {sha256 : Bytes → String} {answers : Nat → Except TransferFailure HttpResponse}
  {target : DownloadTarget} {completed : Nat}

theorem andThen_uncancelled {first : Delivery α} {next : α → FileTree → Nat → Delivery β}
    (starts : first.ends ≠ .error .cancelled)
    (goes : ∀ value files requests, (next value files requests).ends ≠ .error .cancelled) :
    (first.andThen next).ends ≠ .error .cancelled := by
  unfold Delivery.andThen
  cases ends : first.ends with
  | ok value => exact goes value first.files first.requests
  | error error =>
    rw [ends] at starts
    rintro ⟨⟩
    exact starts rfl

theorem deliverChunks_uncancelled (chunks : List Bytes) (requests : Nat) (files : FileTree)
    (content : Bytes) :
    (deliverChunks target completed requests files content chunks).ends ≠ .error .cancelled := by
  induction chunks generalizing files content with
  | nil => rintro ⟨⟩
  | cons chunk rest ih =>
    unfold deliverChunks
    split
    · rintro ⟨⟩
    · exact ih _ _

theorem checkDigest_uncancelled (content : Bytes) :
    checkDigest sha256 target content ≠ .error .cancelled := by
  unfold checkDigest
  split <;> rintro ⟨⟩

theorem deliverBody_uncancelled (response : HttpResponse) (files : FileTree) (requests : Nat)
    (content : Bytes) :
    (deliverBody sha256 target completed response files requests content).ends ≠
      .error .cancelled := by
  refine andThen_uncancelled (deliverChunks_uncancelled _ _ _ _) ?_
  intro content files requests
  unfold checkBody
  cases response.broken with
  | some failure => cases failure <;> rintro ⟨⟩
  | none =>
    dsimp only
    split
    · rintro ⟨⟩
    · exact checkDigest_uncancelled content

theorem deliverResponse_uncancelled (restart : List Arrival) (response : HttpResponse)
    (files : FileTree) (requests : Nat) :
    (deliverResponse sha256 unicode target completed restart response files requests).ends ≠
      .error .cancelled := by
  unfold deliverResponse
  dsimp only
  split
  · split
    next error raised =>
      rintro ⟨⟩
      exact validateContentRange_error raised rfl
    · split
      · rintro ⟨⟩
      · exact deliverBody_uncancelled _ _ _ _
  · split
    · split <;> exact deliverBody_uncancelled _ _ _ _
    · rintro ⟨⟩

theorem deliverFile_uncancelled (restart : List Arrival) (files : FileTree) (requests : Nat) :
    (deliverFile sha256 unicode answers target completed restart files requests).ends ≠
      .error .cancelled := by
  unfold deliverFile
  dsimp only
  split
  next error obstructed =>
    rintro ⟨⟩
    exact obstruction_error obstructed rfl
  · split
    · rintro ⟨⟩
    · split
      · exact checkDigest_uncancelled _
      · split
        next failure _ => cases failure <;> rintro ⟨⟩
        · exact deliverResponse_uncancelled _ _ _ _

variable {config : InstallConfig}

theorem deliverFiles_uncancelled (source : DownloadSource) (list : List ModelFile) (completed : Nat)
    (files : FileTree) (requests : Nat) :
    (deliverFiles config answers source completed list files requests).ends ≠ .error .cancelled := by
  induction list generalizing completed files requests with
  | nil => rintro ⟨⟩
  | cons file rest ih =>
    exact andThen_uncancelled (deliverFile_uncancelled _ _ _) fun _ _ _ => ih _ _ _

theorem deliverSources_uncancelled (sources : List DownloadSource) (source : DownloadSource)
    (files : FileTree) (requests : Nat) :
    (deliverSources config answers source files requests sources).ends ≠ .error .cancelled := by
  have from_source : ∀ source files requests,
      (deliverFrom config answers source files requests).ends ≠ .error .cancelled := by
    intro source files requests
    unfold deliverFrom
    split
    · exact deliverFiles_uncancelled _ _ _ _ _
    · exact deliverFile_uncancelled _ _ _
  induction sources generalizing source files requests with
  | nil => exact from_source source files requests
  | cons next rest ih =>
    unfold deliverSources Delivery.orNext
    cases ends : (deliverFrom config answers source files requests).ends with
    | ok =>
      dsimp only
      rw [ends]
      rintro ⟨⟩
    | error error =>
      dsimp only
      split
      · exact ih next [] _
      · exact from_source source files requests

end

/-! ## The record -/

/-- A count that can be recorded. -/
def Savable (expected recorded bytes : Int) : Prop := recorded ≤ bytes ∧ bytes ≤ expected

instance (expected recorded bytes : Int) : Decidable (Savable expected recorded bytes) :=
  inferInstanceAs (Decidable (_ ∧ _))

inductive Recording where
  /-- All of it is in, after so many checks and with so many bytes recorded. -/
  | through (checks : Nat) (recorded : Int)
  /-- The cancellation is noticed, with so many bytes recorded and these files on the disk. -/
  | cancelled (recorded : Int) (files : FileTree)
  /-- A count that is due cannot be recorded. -/
  | refused

/-- The arrivals in their order. At each chunk a cancellation is looked for, and the count is
recorded when it has grown by the interval or the download is complete. -/
def record (config : InstallConfig) (cancels : Nat → Bool) (expected : Int) :
    (checks : Nat) → (recorded : Int) → List Arrival → Recording
  | checks, recorded, [] => .through checks recorded
  | checks, _, .anew :: rest => record config cancels expected checks 0 rest
  | checks, recorded, .chunk counted files :: rest =>
    if cancels checks then .cancelled recorded files
    else if progressInterval ≤ (counted : Int) - recorded ∨ counted = expectedSize config then
      if Savable expected recorded counted then
        record config cancels expected (checks + 1) counted rest
      else .refused
    else record config cancels expected (checks + 1) recorded rest

/-- What an operation goes on with. A partial that is too large or behind its record is thrown
away. -/
def partialKept (config : InstallConfig) (row : ModelDownload) (files : FileTree) : FileTree :=
  if expectedSize config < downloadedBytes config files ∨
      (downloadedBytes config files : Int) < row.downloadedBytes then []
  else files

/-- How the download of an operation goes. -/
def course (config : InstallConfig) (outside : World) (row : ModelDownload) (files : FileTree) :
    Recording :=
  if row.status = .pending ∨ row.status = .downloading then
    let kept := partialKept config row files
    if (downloadedBytes config kept : Int) ≤ row.expectedSizeBytes then
      record config outside.cancels row.expectedSizeBytes 0 (downloadedBytes config kept)
        (deliverSources config outside.answers config.manifest.primary kept 0
          config.manifest.sources.tail).arrivals
    else .refused
  else .through 0 row.downloadedBytes

section

variable {config : InstallConfig} {cancels : Nat → Bool} {expected : Int}

theorem record_append (first second : List Arrival) (checks : Nat) (recorded : Int) :
    record config cancels expected checks recorded (first ++ second) =
      match record config cancels expected checks recorded first with
      | .through checks recorded => record config cancels expected checks recorded second
      | ended => ended := by
  induction first generalizing checks recorded with
  | nil => rfl
  | cons arrival rest ih =>
    cases arrival with
    | anew => exact ih checks 0
    | chunk counted files =>
      simp only [List.cons_append, record]
      split
      · rfl
      · split
        · split
          · exact ih (checks + 1) counted
          · rfl
        · exact ih (checks + 1) recorded

end

end EvoBlue.Guarantees
