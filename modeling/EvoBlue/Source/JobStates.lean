/-!
# Job states and the transition table

`jobs/states.py` and `jobs/transitions.py`: the canonical states, the sets the
worker and the API layer share, and `ALLOWED_TRANSITIONS` as the source builds
it.
-/

namespace EvoBlue.Source

inductive JobStatus where
  | queued
  | fetchingMetadata
  | fetchingSubtitles
  | downloadingAudio
  | transcribing
  | waitingForModel
  | cleaningTranscript
  | chunking
  | summarizingChunks
  | generatingReport
  | indexing
  | retryWait
  | completed
  | failed
  | cancelled
  deriving DecidableEq, Repr

namespace JobStatus

def all : List JobStatus :=
  [.queued, .fetchingMetadata, .fetchingSubtitles, .downloadingAudio, .transcribing,
    .waitingForModel, .cleaningTranscript, .chunking, .summarizingChunks, .generatingReport,
    .indexing, .retryWait, .completed, .failed, .cancelled]

/-- The member's value, as it is stored and sent. -/
def value : JobStatus → String
  | .queued => "queued"
  | .fetchingMetadata => "fetching_metadata"
  | .fetchingSubtitles => "fetching_subtitles"
  | .downloadingAudio => "downloading_audio"
  | .transcribing => "transcribing"
  | .waitingForModel => "waiting_for_model"
  | .cleaningTranscript => "cleaning_transcript"
  | .chunking => "chunking"
  | .summarizingChunks => "summarizing_chunks"
  | .generatingReport => "generating_report"
  | .indexing => "indexing"
  | .retryWait => "retry_wait"
  | .completed => "completed"
  | .failed => "failed"
  | .cancelled => "cancelled"

end JobStatus

/-- `TERMINAL_JOB_STATUSES`. -/
def terminalJobStatuses : List JobStatus := [.completed, .failed, .cancelled]

/-- `RUNNING_STATES`: the states a job occupies while it executes a stage. -/
def runningStates : List JobStatus :=
  JobStatus.all.filter fun status =>
    !terminalJobStatuses.contains status &&
      !([.queued, .retryWait, .waitingForModel] : List JobStatus).contains status

namespace JobStatus

def isTerminal (status : JobStatus) : Bool := terminalJobStatuses.contains status

def isRunning (status : JobStatus) : Bool := runningStates.contains status

end JobStatus

/-- `_LINEAR_CHAIN`. -/
def linearChain : List (JobStatus × JobStatus) :=
  [(.queued, .fetchingMetadata),
    (.fetchingMetadata, .fetchingSubtitles),
    (.fetchingSubtitles, .downloadingAudio),
    (.fetchingSubtitles, .cleaningTranscript),
    (.downloadingAudio, .transcribing),
    (.transcribing, .waitingForModel),
    (.waitingForModel, .transcribing),
    (.transcribing, .cleaningTranscript),
    (.cleaningTranscript, .chunking),
    (.chunking, .summarizingChunks),
    (.summarizingChunks, .generatingReport),
    (.generatingReport, .indexing),
    (.indexing, .completed)]

/-- The targets `_build_allowed` collects for one state: `retry_wait` is
overwritten at the end, every other state accumulates. -/
def allowedTransitions (src : JobStatus) : List JobStatus :=
  if src = .retryWait then runningStates ++ [.failed, .cancelled]
  else
    (linearChain.filter fun edge => edge.1 = src).map (·.2) ++
      (if src.isRunning then [.retryWait, .failed] else []) ++
      (if src = .queued then [.failed, .cancelled] else []) ++
      (if src = .waitingForModel then [.transcribing, .failed, .cancelled] else [])

def isValidTransition (src dst : JobStatus) : Bool := (allowedTransitions src).contains dst

/-- A terminal state has no successor. -/
theorem isValidTransition_terminal {src : JobStatus} (terminal : src.isTerminal = true)
    (dst : JobStatus) : isValidTransition src dst = false := by
  cases src <;> first | contradiction | (cases dst <;> rfl)

theorem isTerminal_not_running {status : JobStatus} (terminal : status.isTerminal = true) :
    status.isRunning = false := by
  cases status <;> first | contradiction | rfl

end EvoBlue.Source
