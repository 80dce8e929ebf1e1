import EvoBlue.Source.JobEffects

/-!
# What may be claimed

`claim_job` asks `_is_claimable` in Python, `claim_next_job` selects by `_claimable_where` in
SQL. The Python rule lets every status through that it does not name, and so also a job that
is parked until its model is installed; nothing else tells the two apart.
-/

namespace EvoBlue.Guarantees

open EvoBlue.Kernel EvoBlue.Source

/-- No lease, or one that has run out. -/
def LeaseFree (row : Job) (now : Time) : Prop :=
  ∀ expiry, row.leaseExpiresAt = some expiry → expiry ≤ now

/-- A job that waits for its model, with attempts left and nobody at work on it. -/
def ParkedFree (row : Job) (now : Time) : Prop :=
  row.status = .waitingForModel ∧ row.attempt < row.maxAttempts ∧ LeaseFree row now

theorem leaseFree_iff (row : Job) (now : Time) :
    (match row.leaseExpiresAt with
      | some expiry => decide (expiry ≤ now)
      | none => true) = true ↔ LeaseFree row now := by
  unfold LeaseFree
  cases row.leaseExpiresAt with
  | none => simp
  | some expiry => simp

/-- The Python rule is the SQL rule and the parked jobs. -/
theorem isClaimable_iff (row : Job) (now : Time) :
    isClaimable row now = true ↔ claimableWhere now row = true ∨ ParkedFree row now := by
  constructor
  · intro claimable
    unfold isClaimable at claimable
    split at claimable
    · cases claimable
    next spent =>
      have spare : row.attempt < row.maxAttempts := by omega
      split at claimable
      · cases claimable
      next final =>
        split at claimable
        next queued => exact .inl (by simp [claimableWhere, spare, queued])
        next unqueued =>
          split at claimable
          next waits => exact .inl (by simp [claimableWhere, spare, waits, claimable])
          next other =>
            by_cases parked : row.status = .waitingForModel
            · exact .inr ⟨parked, spare, (leaseFree_iff row now).1 claimable⟩
            · have running : row.status.isRunning = true := by
                revert final unqueued other parked
                cases row.status <;> decide
              exact .inl (by simp [claimableWhere, spare, running, claimable])
  · rintro (selected | ⟨parked, spare, free⟩)
    · exact claimableWhere_isClaimable selected
    · unfold isClaimable
      rw [if_neg (by omega), parked]
      exact (leaseFree_iff row now).2 free

/-- The SQL rule leaves parked jobs out. -/
theorem not_where_of_parked {row : Job} {now : Time} (parked : ParkedFree row now) :
    claimableWhere now row = false := by
  unfold claimableWhere
  rw [parked.1]
  simp [JobStatus.isRunning, runningStates, terminalJobStatuses, JobStatus.all]

theorem rules_agree_iff (row : Job) (now : Time) :
    (isClaimable row now = true ↔ claimableWhere now row = true) ↔ ¬ ParkedFree row now := by
  constructor
  · intro agree parked
    have selected := agree.1 ((isClaimable_iff row now).2 (.inr parked))
    rw [not_where_of_parked parked] at selected
    cases selected
  · intro other
    rw [isClaimable_iff]
    exact or_iff_left other

/-! ## The order -/

theorem claimOrder_trans {a b c : Job} (first : claimOrder a b = true)
    (second : claimOrder b c = true) : claimOrder a c = true := by
  simp only [claimOrder, Bool.or_eq_true, Bool.and_eq_true, decide_eq_true_eq] at *
  rcases first with older | ⟨same, earlier⟩
  · rcases second with later | ⟨same, _⟩
    · exact .inl (lt_trans older later)
    · exact .inl (same ▸ older)
  · rcases second with later | ⟨same', later⟩
    · exact .inl (same ▸ later)
    · exact .inr ⟨same.trans same', le_trans earlier later⟩

theorem claimOrder_total (a b : Job) : (claimOrder a b || claimOrder b a) = true := by
  simp only [claimOrder, Bool.or_eq_true, Bool.and_eq_true, decide_eq_true_eq]
  rcases lt_trichotomy a.createdAt b.createdAt with older | same | newer
  · exact .inl (.inl older)
  · rcases le_total a.id b.id with earlier | later
    · exact .inl (.inr ⟨same, earlier⟩)
    · exact .inr (.inr ⟨same.symm, later⟩)
  · exact .inr (.inl newer)

theorem claimOrder_refl (row : Job) : claimOrder row row = true := by
  have total := claimOrder_total row row
  rwa [Bool.or_self] at total

/-- The first of some sorted rows is the least of them all. -/
theorem least_of_sorted {rows rest : List Job} {row other : Job} {limit : Nat}
    (sorted : rows.Pairwise fun a b => claimOrder a b = true)
    (first : rows.take limit = row :: rest) (mem : other ∈ rows) : claimOrder row other = true := by
  cases rows with
  | nil => cases mem
  | cons head tail =>
    cases limit with
    | zero => cases first
    | succ limit =>
      rw [List.take_succ_cons] at first
      obtain ⟨rfl, _⟩ := List.cons.inj first
      rcases List.mem_cons.1 mem with rfl | later
      · exact claimOrder_refl other
      · exact (List.pairwise_cons.1 sorted).1 other later

/-- The first candidate is the oldest of the rows that may be picked. -/
theorem claimCandidates_least {db : JobsDb} {now : Time} {row : Job} {rest : List Job}
    (candidates : db.claimCandidates now = row :: rest) {other : Job} (mem : other ∈ db.jobs)
    (selected : claimableWhere now other = true) : claimOrder row other = true := by
  unfold JobsDb.claimCandidates at candidates
  have sorted : ((db.jobs.filter (claimableWhere now)).mergeSort claimOrder).Pairwise
      fun a b => claimOrder a b = true := by
    apply List.pairwise_mergeSort
    · exact fun _ _ _ => claimOrder_trans
    · exact claimOrder_total
  apply least_of_sorted sorted candidates
  exact List.mem_mergeSort.2 (List.mem_filter.2 ⟨mem, selected⟩)

/-! ## Both functions -/

/-- `claim_next_job` answers with the oldest row of the SQL rule, or with none if there is none. -/
def PicksOldest (db : JobsDb) (now : Time) : Prop :=
  ∀ owner leaseSeconds, match (Tx.atomically (claimNextJob owner leaseSeconds now) db).1 with
    | .error _ => False
    | .ok none => ∀ row ∈ db.jobs, claimableWhere now row = false
    | .ok (some claimed) => ∃ row ∈ db.jobs, claimableWhere now row = true ∧
        claimed = claimChange row owner leaseSeconds now row ∧
        ∀ other ∈ db.jobs, claimableWhere now other = true → claimOrder row other = true

structure ClaimsAgree (db : JobsDb) (now : Time) : Prop where
  rules : ∀ row ∈ db.jobs, isClaimable row now = true ↔ claimableWhere now row = true
  claimed : ∀ row ∈ db.jobs, ∀ owner leaseSeconds,
    (∃ claimed, (Tx.atomically (claimJob none row.jobId owner leaseSeconds now) db).1 =
      .ok (some claimed)) ↔ claimableWhere now row = true
  picked : PicksOldest db now

section

variable {db : JobsDb} {now : Time}

/-- `claim_job` follows the Python rule. -/
theorem claimJob_succeeds_iff (keyed : db.Keyed) {row : Job} (mem : row ∈ db.jobs) (owner : String)
    (leaseSeconds : Time) :
    (∃ claimed, (Tx.atomically (claimJob none row.jobId owner leaseSeconds now) db).1 =
      .ok (some claimed)) ↔ isClaimable row now = true := by
  have ran : (Tx.atomically (claimJob none row.jobId owner leaseSeconds now) db).1 =
      if isClaimable row now then .ok (some (claimChange row owner leaseSeconds now row))
      else .ok none := by
    have claim : (claimJob none row.jobId owner leaseSeconds now).run
        ⟨db, db, .immediate, false⟩ = _ :=
      claimJob_found keyed (keyed.findJob_of_mem mem) rfl owner leaseSeconds now
    unfold claimJob at claim ⊢
    rw [Tx.ensureImmediate_inside] at claim
    rw [Tx.atomically_guarded, claim]
    split <;> rfl
  rw [ran]
  split
  next claimable => simp [claimable]
  next refused => simp [refused]

theorem picksOldest (keyed : db.Keyed) : PicksOldest db now := by
  intro owner leaseSeconds
  rw [claimNextJob_apply keyed]
  cases candidates : db.claimCandidates now with
  | nil => exact JobsDb.claimCandidates_nil candidates
  | cons row rest =>
    obtain ⟨mem, selected⟩ := JobsDb.mem_claimCandidates
      (show row ∈ db.claimCandidates now by simp [candidates])
    exact ⟨row, mem, selected, rfl, fun _ => claimCandidates_least candidates⟩

/-- The two rules agree on a table, and the two functions with them, exactly when no parked job
has attempts left and a free lease; `claim_next_job` picks the oldest row in any case. -/
theorem claims_agree_iff (keyed : db.Keyed) :
    PicksOldest db now ∧ (ClaimsAgree db now ↔ ∀ row ∈ db.jobs, ¬ ParkedFree row now) := by
  refine ⟨picksOldest keyed, fun agree row mem => ?_, fun none => ?_⟩
  · exact (rules_agree_iff row now).1 (agree.rules row mem)
  · have rules : ∀ row ∈ db.jobs, isClaimable row now = true ↔ claimableWhere now row = true :=
      fun row mem => (rules_agree_iff row now).2 (none row mem)
    refine ⟨rules, fun row mem owner leaseSeconds => ?_, picksOldest keyed⟩
    rw [claimJob_succeeds_iff keyed mem]
    exact rules row mem

end

/-! ## A parked job, and others -/

/-- It waits for its model; the park has released its lease. -/
def parkedRow : Job where
  id := 1
  jobId := "job-1"
  requestFingerprint := "r"
  url := "https://www.bilibili.com/video/BV1"
  mode := "auto"
  asr := "auto"
  language := none
  configFingerprint := "c"
  status := .waitingForModel
  stage := some .waitingForModel
  attempt := 1
  createdAt := 10
  updatedAt := 20

def parkedTable : JobsDb := { jobs := [parkedRow], nextJobId := 2 }

theorem parkedTable_keyed : parkedTable.Keyed where
  ids := by decide
  jobIds := by decide
  fresh := by decide
  artifactKeys := by decide
  artifactIds := by decide
  artifactFresh := by decide

/-- A queued job, one whose retry is due, one whose worker has died, and one that runs. -/
def busyTable : JobsDb where
  jobs :=
    [{ parkedRow with status := .queued, stage := none, attempt := 0 },
      { parkedRow with
        id := 2, jobId := "job-2", status := .retryWait, stage := none, nextRetryAt := some 90 },
      { parkedRow with
        id := 3, jobId := "job-3", status := .transcribing, stage := some .transcribing,
        leaseOwner := some "worker-a", leaseExpiresAt := some 80 },
      { parkedRow with
        id := 4, jobId := "job-4", status := .chunking, stage := some .chunking,
        leaseOwner := some "worker-b", leaseExpiresAt := some 160 }]
  nextJobId := 5

theorem claims_agree_iff_busy : PicksOldest busyTable 100 ∧ ClaimsAgree busyTable 100 ∧
    (∀ row ∈ busyTable.jobs, ¬ ParkedFree row 100) ∧
    busyTable.jobs.map (isClaimable · 100) = [true, true, true, false] := by
  have keyed : busyTable.Keyed := by constructor <;> decide
  have unparked : ∀ row ∈ busyTable.jobs, ¬ ParkedFree row 100 := by
    simp [busyTable, parkedRow, ParkedFree]
  obtain ⟨picks, agree⟩ : PicksOldest busyTable 100 ∧ _ := claims_agree_iff keyed
  exact ⟨picks, agree.2 unparked, unparked, by decide +kernel⟩

/-- `claim_job` takes the parked job, which `claim_next_job` would never pick. -/
theorem parked_job_claimed : parkedTable.Keyed ∧ ¬ ClaimsAgree parkedTable 100 ∧
    isClaimable parkedRow 100 = true ∧ claimableWhere 100 parkedRow = false := by
  have parked : ParkedFree parkedRow 100 := ⟨rfl, by decide, fun _ leased => nomatch leased⟩
  have mem : parkedRow ∈ parkedTable.jobs := List.mem_singleton_self _
  refine ⟨parkedTable_keyed, fun agree => ?_, (isClaimable_iff _ _).2 (.inr parked),
    not_where_of_parked parked⟩
  exact (rules_agree_iff parkedRow 100).1 (agree.rules parkedRow mem) parked

end EvoBlue.Guarantees
