import EvoBlue.Source.JobMoves

/-!
# One active job a request

No constraint of the schema keeps two active jobs of one request apart. It
rests on two facts: a submission looks for an active job and inserts its own
under one write lock, and no operation brings a finished job back.

A caller may be cancelled at any await, before its transaction committed or
after; it then learns nothing of what it did.
-/

namespace EvoBlue.Guarantees

open EvoBlue.Kernel EvoBlue.Source

inductive JobEvent where
  | performed (op : JobOp)
  | interrupted (op : JobOp) (committed : Bool)
  deriving DecidableEq, Repr

variable (env : SubmitEnv)

def eventStep (db : JobsDb) : JobEvent → JobsDb
  | .performed op => jobStep env db op
  | .interrupted op committed => if committed then jobStep env db op else db

/-- At most one job of a request is not finished. -/
def SoleActive (db : JobsDb) : Prop :=
  ∀ a ∈ db.jobs, ∀ b ∈ db.jobs, a.status.isTerminal = false → b.status.isTerminal = false →
    a.requestFingerprint = b.requestFingerprint → a = b

/-- The fingerprint of the request a submission makes. -/
def requestOf (submission : Submission) (ref : VideoRef) : String :=
  computeRequestFingerprint env.sha256 ref.url submission.mode submission.asr submission.language
    submission.configFingerprint

/-- The job is the active one of the request, or a recently completed one while
the request has none. -/
def ReusableFor (db : JobsDb) (submission : Submission) (job : Job) : Prop :=
  ∃ ref, env.detectVideo submission.url = .ok ref ∧ job ∈ db.jobs ∧
    job.requestFingerprint = requestOf env submission ref ∧
    (job.status.isTerminal = false ∨
      job.status = .completed ∧ submission.now - submission.reuseWindowSeconds ≤ job.updatedAt ∧
        ∀ other ∈ db.jobs, other.requestFingerprint = requestOf env submission ref →
          other.status.isTerminal = true)

/-! ## What a submission finds -/

theorem mem_of_latestBy {key : Job → Time} {rows : List Job} {job : Job}
    (latest : latestBy key rows = some job) : job ∈ rows :=
  List.mem_mergeSort.1 (List.mem_of_mem_head? latest)

theorem latestBy_none {key : Job → Time} {rows : List Job} (none : latestBy key rows = none) :
    rows = [] := by
  have empty := List.head?_eq_none_iff.1 none
  have length := @List.length_mergeSort _ (fun a b => decide (key b ≤ key a)) rows
  rw [empty] at length
  exact List.eq_nil_of_length_eq_zero length.symm

variable {db : JobsDb} {fingerprint : String} {now window : Time}

theorem findReusable_some {job : Job} (found : db.findReusable fingerprint now window = some job) :
    job ∈ db.jobs ∧ job.requestFingerprint = fingerprint ∧
      (job.status.isTerminal = false ∨
        job.status = .completed ∧ now - window ≤ job.updatedAt ∧
          ∀ other ∈ db.jobs, other.requestFingerprint = fingerprint →
            other.status.isTerminal = true) := by
  unfold JobsDb.findReusable at found
  split at found
  next active latest =>
    cases found
    have mem := List.mem_filter.1 (mem_of_latestBy latest)
    simp only [Bool.and_eq_true, decide_eq_true_eq, Bool.not_eq_true'] at mem
    exact ⟨mem.1, mem.2.1, .inl mem.2.2⟩
  next none =>
    have mem := List.mem_filter.1 (mem_of_latestBy found)
    simp only [Bool.and_eq_true, decide_eq_true_eq] at mem
    refine ⟨mem.1, mem.2.1.1, .inr ⟨mem.2.1.2, mem.2.2, fun other memOther same => ?_⟩⟩
    have absent := List.filter_eq_nil_iff.1 (latestBy_none none) other memOther
    simpa [same] using absent

theorem findReusable_none (none : db.findReusable fingerprint now window = none) :
    ∀ other ∈ db.jobs, other.requestFingerprint = fingerprint → other.status.isTerminal = true := by
  unfold JobsDb.findReusable at none
  split at none
  next => cases none
  next noActive =>
    intro other mem same
    have absent := List.filter_eq_nil_iff.1 (latestBy_none noActive) other mem
    simpa [same] using absent

/-- A submission hands out a job the lookup found, adds a job where the lookup
found none, or raises. -/
theorem submitVideo_outcome (db : JobsDb) (submission : Submission) :
    let result := exec env (.submitVideo submission) db
    (∃ error, result = (.error error, db)) ∨
      ∃ ref, env.detectVideo submission.url = .ok ref ∧
        ((∃ job, db.findReusable (requestOf env submission ref) submission.now
              submission.reuseWindowSeconds = some job ∧
            result = (.ok (.submitted job true), db)) ∨
          db.findReusable (requestOf env submission ref) submission.now
              submission.reuseWindowSeconds = none ∧
            ∃ added, added = submittedJob submission (requestOf env submission ref) ref.url ∧
              result = (.ok (.submitted (added db.nextJobId) false), db.withJob added)) := by
  intro result
  have ran : result = exec.reply (fun created => .submitted created.1 created.2)
      (Tx.atomically (submitVideo env submission) db) := rfl
  unfold submitVideo at ran
  cases detected : env.detectVideo submission.url with
  | error errorCode =>
    rw [detected] at ran
    exact .inl ⟨_, ran⟩
  | ok ref =>
    rw [detected] at ran
    have entered : result = exec.reply (fun created => .submitted created.1 created.2)
        (((reuseOrAdd submission (requestOf env submission ref) ref.url).run
            ⟨db, db, .immediate, false⟩).1,
          ((reuseOrAdd submission (requestOf env submission ref) ref.url).run
            ⟨db, db, .immediate, false⟩).2.durable) := ran
    unfold reuseOrAdd at entered
    rw [Tx.read_bind_run, Tx.begun_immediate] at entered
    cases reusable : db.findReusable (requestOf env submission ref) submission.now
        submission.reuseWindowSeconds with
    | some existing =>
      rw [reusable] at entered
      exact .inr ⟨ref, rfl, .inl ⟨existing, reusable, entered⟩⟩
    | none =>
      rw [reusable] at entered
      unfold addJob at entered
      rw [Tx.bind_assoc_run, Tx.read_bind_run, Tx.begun_immediate] at entered
      simp only at entered
      cases taken : db.findJob submission.newJobId with
      | some other =>
        simp only [submittedJob, taken, Option.isSome_some, if_true, Tx.bind_assoc_run,
          Tx.rollback_bind_run, Tx.raise_bind_run] at entered
        exact .inl ⟨_, entered⟩
      | none =>
        have created : (db.withJob (submittedJob submission (requestOf env submission ref)
            ref.url)).findJob submission.newJobId =
              some (submittedJob submission (requestOf env submission ref) ref.url db.nextJobId) := by
          rw [JobsDb.findJob_withJob, taken]
          simp [submittedJob]
        simp only [submittedJob, taken, Option.isSome_none, Bool.false_eq_true, if_false,
          Tx.write_bind_run, Tx.begun_immediate, Tx.commit_bind_run, Tx.committed_wrote] at entered
        rw [Tx.bind_of_ok (getRequired_closed _ _ _ created)] at entered
        exact .inr ⟨ref, rfl, .inr ⟨reusable, _, rfl, entered⟩⟩

theorem reused_reusable {submission : Submission} {job : Job}
    (replied : (exec env (.submitVideo submission) db).1 = .ok (.submitted job true)) :
    ReusableFor env db submission job := by
  rcases submitVideo_outcome env db submission with
    ⟨error, raised⟩ | ⟨ref, detected, ⟨existing, found, reused⟩ | ⟨_, added, _, created⟩⟩
  · rw [raised] at replied
    cases replied
  · rw [reused] at replied
    cases replied
    exact ⟨ref, detected, findReusable_some found⟩
  · rw [created] at replied
    cases replied

/-! ## No finished job comes back -/

theorem not_terminal_of_valid {src dst : JobStatus} (valid : isValidTransition src dst = true) :
    src.isTerminal = false := by
  cases terminal : src.isTerminal with
  | false => rfl
  | true =>
    rw [isValidTransition_terminal terminal] at valid
    cases valid

theorem not_terminal_of_claimable {row : Job} {now : Time} (claimable : isClaimable row now = true) :
    row.status.isTerminal = false := by
  cases terminal : row.status.isTerminal with
  | false => rfl
  | true => simp [isClaimable, terminal] at claimable

/-- A job that is active after an operation was active before, and is still
the job of its request. -/
theorem moved_active {op : JobOp} {row after : Job} (moved : Moved op row after) :
    after.requestFingerprint = row.requestFingerprint ∧
      (after.status.isTerminal = false → row.status.isTerminal = false) := by
  cases moved with
  | same => exact ⟨rfl, id⟩
  | claimed owner leaseSeconds claimable =>
    exact ⟨rfl, fun _ => not_terminal_of_claimable claimable⟩
  | claimedNext owner leaseSeconds claimable =>
    exact ⟨rfl, fun _ => not_terminal_of_claimable (claimableWhere_isClaimable claimable)⟩
  | recovered stale => exact ⟨rfl, id⟩
  | advanced leaseSeconds stage progress valid held =>
    exact ⟨rfl, fun _ => not_terminal_of_valid valid⟩
  | committed leaseSeconds artifact progress valid held =>
    exact ⟨rfl, fun _ => not_terminal_of_valid valid⟩
  | failedOrRetried errorCode nextRetryAt errorDetail valid held =>
    exact ⟨rfl, fun _ => not_terminal_of_valid valid⟩
  | cancelled held => exact ⟨rfl, fun active => by cases active⟩
  | cancelRequested now active =>
    refine ⟨?_, fun _ => active⟩
    unfold cancelRequestedRow
    split <;> rfl
  | resumed now waits =>
    simp only [isResumable, Bool.and_eq_true, decide_eq_true_eq] at waits
    exact ⟨rfl, fun _ => by rw [waits.1.1]; rfl⟩
  | landed now dangling => exact ⟨rfl, fun active => by cases active⟩
  | exhausted now spent => exact ⟨rfl, fun active => by cases active⟩
  | pinned providerId modelId modelVersion recommendationModelId held => exact ⟨rfl, id⟩
  | renewed leaseSeconds held => exact ⟨rfl, id⟩

/-- Where a job of the tables after an operation comes from. -/
theorem jobStep_origin (keyed : db.Keyed) (op : JobOp) {after : Job}
    (mem : after ∈ (jobStep env db op).jobs) :
    (∃ row ∈ db.jobs, row.jobId = after.jobId ∧ Moved op row after) ∨
      ∃ submission, op = .submitVideo submission := by
  have keyedAfter := jobStep_keyed env keyed op
  have foundAfter := keyedAfter.findJob_of_mem mem
  have effect := exec_effect env keyed op
  cases found : db.findJob after.jobId with
  | none =>
    obtain ⟨submission, _, _, same, _⟩ := effect.unknown found foundAfter
    exact .inr ⟨submission, same⟩
  | some row =>
    obtain ⟨moved', found', moved⟩ := effect.moved keyed found
    obtain rfl : moved' = after := Option.some.inj (found'.symm.trans foundAfter)
    exact .inl ⟨row, JobsDb.mem_of_findJob found, JobsDb.jobId_of_findJob found, moved⟩

theorem submitted_soleActive (sole : SoleActive db) (submission : Submission) :
    SoleActive (exec env (.submitVideo submission) db).2 := by
  rcases submitVideo_outcome env db submission with
    ⟨error, raised⟩ | ⟨ref, _, ⟨existing, _, reused⟩ | ⟨none, added, rfl, created⟩⟩
  · rw [raised]
    exact sole
  · rw [reused]
    exact sole
  · rw [created]
    have finished := findReusable_none none
    intro a memA b memB activeA activeB same
    simp only [JobsDb.withJob, List.mem_append, List.mem_singleton] at memA memB
    rcases memA with oldA | rfl <;> rcases memB with oldB | rfl
    · exact sole a oldA b oldB activeA activeB same
    · rw [finished a oldA same] at activeA
      cases activeA
    · rw [finished b oldB same.symm] at activeB
      cases activeB
    · rfl

/-- One operation keeps the active jobs apart. -/
theorem jobStep_soleActive (keyed : db.Keyed) (sole : SoleActive db) (op : JobOp) :
    SoleActive (jobStep env db op) := by
  have keyedAfter := jobStep_keyed env keyed op
  by_cases submits : ∃ submission, op = .submitVideo submission
  · obtain ⟨submission, rfl⟩ := submits
    exact submitted_soleActive env sole submission
  · intro a memA b memB activeA activeB same
    obtain ⟨rowA, memRowA, idA, movedA⟩ := (jobStep_origin env keyed op memA).resolve_right submits
    obtain ⟨rowB, memRowB, idB, movedB⟩ := (jobStep_origin env keyed op memB).resolve_right submits
    have factsA := moved_active movedA
    have factsB := moved_active movedB
    have rows : rowA = rowB := by
      refine sole rowA memRowA rowB memRowB (factsA.2 activeA) (factsB.2 activeB) ?_
      rw [← factsA.1, ← factsB.1, same]
    refine keyedAfter.eq_of_jobId memA memB ?_
    rw [← idA, ← idB, rows]

theorem eventStep_soleActive (event : JobEvent) (kept : db.Keyed ∧ SoleActive db) :
    (eventStep env db event).Keyed ∧ SoleActive (eventStep env db event) := by
  have performed : ∀ op, (jobStep env db op).Keyed ∧ SoleActive (jobStep env db op) := fun op =>
    ⟨jobStep_keyed env kept.1 op, jobStep_soleActive env kept.1 kept.2 op⟩
  cases event with
  | performed op => exact performed op
  | interrupted op committed =>
    cases committed with
    | false => exact kept
    | true => exact performed op

/-- After every run, a request has at most one active job, and a submission that
reuses a job hands out the active one, or a recent completed one while there is none. -/
theorem no_duplicate_submission (events : List JobEvent) :
    SoleActive (run (eventStep env) {} events) ∧
      ∀ submission job,
        (exec env (.submitVideo submission) (run (eventStep env) {} events)).1 =
            .ok (.submitted job true) →
          ReusableFor env (run (eventStep env) {} events) submission job := by
  have kept := @run_invariant _ _ (eventStep env) (fun db => db.Keyed ∧ SoleActive db)
    (fun _ event kept => eventStep_soleActive env event kept) {}
    ⟨.empty, fun _ mem => nomatch mem⟩ events
  exact ⟨kept.2, fun submission job replied => reused_reusable env replied⟩

/-- The second submission of a request hands out the job of the first. -/
example : (exec sampleEnv (.submitVideo (sampleSubmission "job-2" 5))
    (run (eventStep sampleEnv) {} [.performed (.submitVideo (sampleSubmission "job-1" 0))])).1 =
      .ok (.submitted (submittedJob (sampleSubmission "job-1" 0)
        "ffdefcaecb6392907e33482f936a20ea4dad68b3e4c08fd640512decd4d23ff0"
        "https://www.bilibili.com/video/BV1GJ411x7h7" 1) true) := by
  decide +kernel

end EvoBlue.Guarantees
