import EvoBlue.Source.StageHandlers

/-!
# Transcriptions that are taken up again

What `SherpaOnnxProvider.transcribe` and `WhisperCppProvider.transcribe` make of an
audio file: a list of units of work, of which those whose key is already checkpointed
are skipped. `attempt` runs `TranscribingHandler`, from the lookup of the audio on,
against one job's artifacts. An attempt that is interrupted leaves the checkpoints
it saved, and the next one starts from them.
-/

namespace EvoBlue.Source

open EvoBlue.Kernel

/-- One unit of work: its interval, and the stripped text and the language recognized in it. -/
structure AsrUnit where
  start : Time
  stop : Time
  text : String
  language : String
  deriving DecidableEq, Repr

def AsrUnit.segment (unit : AsrUnit) : Segment := ⟨unit.start, unit.stop, unit.text⟩

/-- The thousandths a boundary is written with, half to even. -/
def thousandths (boundary : Time) : Nat :=
  let scaled := boundary * 1000
  let below := scaled.floor
  let rest := scaled - below
  (if rest < mkRat 1 2 ∨ rest = mkRat 1 2 ∧ below % 2 = 0 then below else below + 1).toNat

/-- `f"{boundary:.3f}"`. -/
def fixedThree (boundary : Time) : String :=
  let digits := toString (thousandths boundary % 1000)
  s!"{thousandths boundary / 1000}." ++ String.ofList (List.replicate (3 - digits.length) '0') ++ digits

def segmentKey (segment : Segment) : String := s!"{fixedThree segment.start}:{fixedThree segment.stop}"

/-- A deterministic provider on one audio file. -/
structure AsrProvider where
  providerId : String
  units : List AsrUnit
  /-- `_validate_monotonic`; it holds of every part of the units too. -/
  ordered : units.Pairwise fun earlier later => earlier.start ≤ later.start
  /-- The language it reports once it has worked on these units. -/
  detect : List AsrUnit → String

namespace AsrProvider

/-- `SherpaOnnxProvider`: the language of the first unit that has one. -/
def sherpaOnnx (providerId : String) (units : List AsrUnit)
    (ordered : units.Pairwise fun earlier later => earlier.start ≤ later.start) : AsrProvider where
  providerId := providerId
  units := units
  ordered := ordered
  detect worked := ((worked.map (·.language)).find? fun language => language ≠ "").getD ""

/-- `WhisperCppProvider`: the language of the whole file, whatever is skipped. -/
def whisperCpp (units : List AsrUnit) (language : String)
    (ordered : units.Pairwise fun earlier later => earlier.start ≤ later.start) : AsrProvider where
  providerId := "whisper-cpp-base"
  units := units
  ordered := ordered
  detect _ := language

variable (key : Segment → String) (provider : AsrProvider)

/-- The units that are not skipped. -/
def worked (resumeKeys : List String) : List AsrUnit :=
  provider.units.filter fun unit => !resumeKeys.contains (key unit.segment)

/-- The segments of some units; one without text is none. -/
def segmentsOf (units : List AsrUnit) : List Segment :=
  (units.filter fun unit => unit.text ≠ "").map (·.segment)

/-- The segments of the whole file. -/
def segments : List Segment := segmentsOf provider.units

def transcribe (resumeKeys : List String) : Transcription :=
  let worked := provider.worked key resumeKeys
  { reported := segmentsOf worked
    result := .ok
      { segments := segmentsOf worked
        detectedLanguage := provider.detect worked
        providerId := provider.providerId } }

end AsrProvider

/-! ## Attempts -/

/-- The artifacts of the job a transcription reads. -/
structure TranscriptionInputs where
  audio : JobArtifact
  relativePath : String
  contentHash : String
  content : Bytes
  located : audio.relativePath = some relativePath
  hashed : audio.contentHash = some contentHash
  /-- The row a checkpoint is stored in. -/
  checkpointRow : JobArtifact

section

variable (env : HandlerEnv) (provider : AsrProvider) (inputs : TranscriptionInputs)

/-- What a lookup finds. -/
def TranscriptionInputs.find (payload : Option String) (artifactType : String) : Option JobArtifact :=
  if artifactType = audioArtifactType then some inputs.audio
  else if artifactType = asrSegmentArtifactType then
    payload.map fun payload => { inputs.checkpointRow with payloadJson := some payload }
  else none

/-- Run the stage until it ends or, after so many checkpoints, is interrupted. Returns the
payload of the checkpoint, and the end if it came to one. -/
def attempt : (saves : Option Nat) → (payload : Option String) → Stage →
    Option String × Option HandlerExit
  | _, payload, .done exit => (payload, some exit)
  | saves, payload, .ask (.getArtifact artifactType _) next =>
    attempt saves payload (next (inputs.find payload artifactType))
  | saves, payload, .ask .commit next => attempt saves payload (next ())
  | saves, payload, .ask (.readFile _ _) next => attempt saves payload (next inputs.content)
  | saves, payload, .ask (.transcribe _ _ _ resumeKeys) next =>
    attempt saves payload (next (provider.transcribe env.segmentKey resumeKeys))
  | some 0, payload, .ask (.saveArtifactInline _ _ _ _ _) _ => (payload, none)
  | some (saves + 1), _, .ask (.saveArtifactInline _ _ _ _ saved) next =>
    attempt (some saves) (some saved) (next ())
  | none, _, .ask (.saveArtifactInline _ _ _ _ saved) next => attempt none (some saved) (next ())
  | _, payload, .ask _ _ => (payload, none)

/-- The checkpoint after attempts that were cut at these points, from none. -/
def checkpointAfter (job : Job) (cuts : List Nat) : Option String :=
  cuts.foldl (fun payload saves =>
    (attempt env provider inputs (some saves) payload
      (transcribeAudio env job provider.providerId)).1) none

/-- How the attempt ends that comes after these and is not interrupted. -/
def exitAfter (job : Job) (cuts : List Nat) : Option HandlerExit :=
  (attempt env provider inputs none (checkpointAfter env provider inputs job cuts)
    (transcribeAudio env job provider.providerId)).2

end

/-! ## What an attempt does -/

section

variable {env : HandlerEnv} {provider : AsrProvider} {inputs : TranscriptionInputs} {job : Job}

/-- The checkpoint holds these segments. -/
def Stores (env : HandlerEnv) (payload : Option String) (stored : List Segment) : Prop :=
  (match payload with
    | some payload => env.segmentsFromJson payload
    | none => some []) = some stored

/-- The checkpoint once the first `count` of `reported` are saved. -/
def saved (env : HandlerEnv) (payload : Option String) (stored reported : List Segment)
    (count : Nat) : Option String :=
  if reported.take count = [] then payload
  else some (env.segmentsToJson (stored ++ reported.take count))

theorem saved_cons (payload : Option String) (stored : List Segment) (segment : Segment)
    (reported : List Segment) (count : Nat) :
    saved env (some (env.segmentsToJson (stored ++ [segment]))) (stored ++ [segment]) reported count =
      saved env payload stored (segment :: reported) (count + 1) := by
  unfold saved
  rw [List.take_succ_cons, if_neg (List.cons_ne_nil _ _)]
  split
  next none_left => rw [none_left]
  next => rw [List.append_assoc, List.singleton_append]

/-- An attempt is interrupted after `count` checkpoints when more were to come. -/
theorem attempt_cut (fingerprint : String) (payload : Option String) (stored reported : List Segment)
    (rest : Unit → Stage) (silent : ∀ payload saves, (attempt env provider inputs saves payload
      (rest ())).1 = payload) (count : Nat) :
    (attempt env provider inputs (some count) payload
      (checkpointSegments env fingerprint stored reported >>= rest)).1 =
        saved env payload stored reported count := by
  induction reported generalizing payload stored count with
  | nil =>
    rw [checkpointSegments, Process.done_bind, silent]
    simp [saved]
  | cons segment reported ih =>
    cases count with
    | zero => rfl
    | succ count =>
      rw [← saved_cons payload, ← ih]
      rfl

theorem attempt_whole (fingerprint : String) (payload : Option String) (stored reported : List Segment)
    (rest : Unit → Stage) :
    attempt env provider inputs none payload
      (checkpointSegments env fingerprint stored reported >>= rest) =
        attempt env provider inputs none (saved env payload stored reported reported.length)
          (rest ()) := by
  induction reported generalizing payload stored with
  | nil => rfl
  | cons segment reported ih =>
    rw [List.length_cons, ← saved_cons payload, ← ih]
    rfl

/-- The transcript of stored segments and of what is worked on now. -/
def transcriptFrom (key : Segment → String) (provider : AsrProvider) (job : Job)
    (stored : List Segment) : Transcript :=
  let worked := provider.worked key (stored.map key)
  { segments := stored ++ AsrProvider.segmentsOf worked
    language :=
      if provider.detect worked ≠ "" then provider.detect worked else job.language.getD ""
    source := s!"{provider.providerId}-asr" }

/-- The end of a stage that transcribed. -/
def transcriptExit (env : HandlerEnv) (job : Job) (transcript : Transcript) : HandlerExit :=
  .returned (.success .cleaningTranscript none
    (some (inlineArtifact "transcribing" transcriptArtifactType (stageFingerprint env job.url)
      (env.transcriptToJson transcript))) none)

/-- What remains of the stage once the checkpoint is read. -/
theorem attempt_read {saves : Option Nat} {payload : Option String} {stored : List Segment}
    (stores : Stores env payload stored) :
    attempt env provider inputs saves payload (transcribeAudio env job provider.providerId) =
      attempt env provider inputs saves payload
        (checkpointSegments env (stageFingerprint env job.url) stored
            (AsrProvider.segmentsOf (provider.worked env.segmentKey (stored.map env.segmentKey))) >>=
          fun _ => .done (transcriptExit env job
            (transcriptFrom env.segmentKey provider job stored))) := by
  have audio : inputs.find payload audioArtifactType = some inputs.audio := if_pos rfl
  have checkpoint : (inputs.find payload asrSegmentArtifactType).bind (·.payloadJson) = payload := by
    unfold TranscriptionInputs.find
    rw [if_neg (by decide), if_pos rfl]
    cases payload <;> rfl
  unfold transcribeAudio
  simp only [Await.getArtifact, Process.call, Process.ask_bind, Process.done_bind, attempt, audio,
    Option.bind_some, inputs.located, inputs.hashed, checkpoint, Await.readFile]
  unfold Stores at stores
  cases payload with
  | none =>
    obtain rfl := Option.some.inj stores
    rfl
  | some payload =>
    simp only [stores]
    rfl

theorem checkpoint_step {saves : Nat} {payload : Option String} {stored : List Segment}
    (stores : Stores env payload stored) :
    (attempt env provider inputs (some saves) payload
      (transcribeAudio env job provider.providerId)).1 =
        saved env payload stored (AsrProvider.segmentsOf
          (provider.worked env.segmentKey (stored.map env.segmentKey))) saves := by
  rw [attempt_read stores]
  refine attempt_cut _ _ _ _ _ (fun payload saves => ?_) _
  rfl

theorem exit_step {payload : Option String} {stored : List Segment}
    (stores : Stores env payload stored) :
    (attempt env provider inputs none payload
      (transcribeAudio env job provider.providerId)).2 =
        some (transcriptExit env job (transcriptFrom env.segmentKey provider job stored)) := by
  rw [attempt_read stores, attempt_whole]
  rfl

end

end EvoBlue.Source
