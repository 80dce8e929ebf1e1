import EvoBlue.Source.RunCounts

/-!
# The list a run works from

A run takes the list of its files once, and all it claims later it claims for files of that
list. Files that come while it goes on change nothing of what it knows.
-/

namespace EvoBlue.Source

open EvoBlue.Kernel

variable {env : ReportEnv} {disk : Disk} {phase : RunPhase} {progress next : Progress}

/-! ## Directories that grow -/

/-- Every file of the directory is still there. -/
structure Disk.Grows (disk later : Disk) : Prop where
  usable : later.usable = disk.usable
  files : ∀ path content, disk.dir.find path = some content → later.dir.find path = some content

theorem mem_collect_find {rel : Text} : rel ∈ collect env.unicode disk.dir ↔
    isCollected env.unicode rel = true ∧ ∃ content, disk.dir.find rel = some content := by
  rw [mem_collect]
  constructor
  · intro there
    obtain ⟨collected, content, mem⟩ := there
    exact ⟨collected, content, Directory.find_of_mem mem⟩
  · intro there
    obtain ⟨collected, content, found⟩ := there
    exact ⟨collected, content, Directory.mem_of_find found⟩

theorem Disk.Grows.collected {later : Disk} (grows : disk.Grows later) {rel : Text}
    (mem : rel ∈ collect env.unicode disk.dir) : rel ∈ collect env.unicode later.dir := by
  obtain ⟨collected, content, found⟩ := mem_collect_find.1 mem
  exact mem_collect_find.2 ⟨collected, content, grows.files _ _ found⟩

/-- A file that was there reads as it did. -/
theorem Disk.Grows.outcome {later : Disk} (grows : disk.Grows later) {rel : Text}
    (mem : rel ∈ collect env.unicode disk.dir) : outcomeOf env later rel = outcomeOf env disk rel := by
  obtain ⟨-, content, found⟩ := mem_collect_find.1 mem
  unfold outcomeOf scanFile
  rw [found, grows.files _ _ found, grows.usable]

theorem Disk.Grows.outcomes {later : Disk} (grows : disk.Grows later) {rels : List Text}
    (there : ∀ rel ∈ rels, rel ∈ collect env.unicode disk.dir) :
    rels.map (outcomeOf env later) = rels.map (outcomeOf env disk) :=
  List.map_congr_left fun rel mem => grows.outcome (there rel mem)

/-- What carries an id among the enumerated files. -/
theorem carries_of_outcome {rel jobId : Text} (mem : rel ∈ collect env.unicode disk.dir)
    (carried : (outcomeOf env disk rel).carries jobId = true) :
    ∃ raw parsed, Carries env disk rel raw parsed ∧ parsed.analysisId = jobId := by
  have path := outcomeOf_relPath env disk rel
  cases found : outcomeOf env disk rel with
  | mk relPath result =>
    rw [found] at path carried
    obtain rfl : relPath = rel := path
    cases result with
    | unreadable => cases carried
    | rejected code => cases carried
    | readable raw parsed =>
      obtain ⟨file, decoded⟩ := outcomeOf_readable.1 found
      exact ⟨raw, parsed, ⟨mem, file, decoded⟩, (carries_readable relPath raw parsed jobId).1 carried⟩

theorem outcome_of_carries {rel : Text} {raw : Bytes} {parsed : ParsedReport}
    (carries : Carries env disk rel raw parsed) :
    (outcomeOf env disk rel).carries parsed.analysisId = true := by
  rw [outcomeOf_readable.2 carries.2]
  exact (carries_readable rel raw parsed _).2 rfl

/-! ## Claims -/

/-- Every id is claimed by the first scanned file that carries it. -/
def ClaimsFollow (env : ReportEnv) (disk : Disk) (progress : Progress) : Prop :=
  ∀ jobId, (progress.claimOf jobId).map (·.relPath) =
    (winnerOf (progress.scanned.map (outcomeOf env disk)) jobId).map (·.relPath)

theorem FileStep.scanned_eq {outcome : FileOutcome} (step : FileStep env progress outcome next) :
    next.scanned = progress.scanned ++ [outcome.relPath] := by
  cases step with
  | quarantined => rfl
  | duplicate => rfl
  | unchanged free => rfl
  | indexed free => rfl

theorem ClaimsFollow.free {jobId : Text} (follow : ClaimsFollow env disk progress)
    (free : progress.claimOf jobId = none) :
    winnerOf (progress.scanned.map (outcomeOf env disk)) jobId = none := by
  have same := follow jobId
  rw [free, Option.map_none] at same
  exact Option.map_eq_none_iff.1 same.symm

/-- One more file. -/
theorem ClaimsFollow.file {rel : Text} {db after : IndexDb}
    (follow : ClaimsFollow env disk progress)
    (scanned : next.scanned = progress.scanned ++ [rel])
    (effect : FileEffect env progress next (outcomeOf env disk rel) db after) :
    ClaimsFollow env disk next := by
  intro jobId
  rw [scanned, List.map_append, List.map_singleton, winnerOf_concat]
  have path := outcomeOf_relPath env disk rel
  have claimedBy : ∀ raw parsed, (outcomeOf env disk rel).result = .readable raw parsed →
      progress.claimOf parsed.analysisId = none →
      next.claims = progress.claims ++ [claimFor env (outcomeOf env disk rel).relPath raw parsed] →
      (next.claimOf jobId).map (·.relPath) =
        ((winnerOf (progress.scanned.map (outcomeOf env disk)) jobId).or
          (if (outcomeOf env disk rel).carries jobId then some (outcomeOf env disk rel)
            else none)).map (·.relPath) := by
    intro raw parsed read free claims
    have carried : (outcomeOf env disk rel).carries jobId = decide (parsed.analysisId = jobId) := by
      unfold FileOutcome.carries
      rw [read]
    have nextClaim : next.claimOf jobId =
        (progress.claim (claimFor env (outcomeOf env disk rel).relPath raw parsed)).claimOf jobId := by
      unfold Progress.claimOf Progress.claim
      rw [claims]
    rw [nextClaim, Reconciled.claimOf_claim, carried]
    by_cases own : parsed.analysisId = jobId
    · rw [← own, free, follow.free free]
      simp [claimFor]
    · rw [show (claimFor env (outcomeOf env disk rel).relPath raw parsed).analysisId =
        parsed.analysisId from rfl, if_neg own, Option.or_none, follow jobId]
      simp [own]
  cases effect with
  | quiet claims same taken =>
    have nextClaim : next.claimOf jobId = progress.claimOf jobId := by
      unfold Progress.claimOf
      rw [claims]
    rw [nextClaim, follow jobId]
    cases carried : (outcomeOf env disk rel).carries jobId with
    | false => simp
    | true =>
      unfold FileOutcome.carries at carried
      split at carried
      next raw parsed read =>
        have held := taken raw parsed read
        rw [of_decide_eq_true carried] at held
        obtain ⟨claim, found⟩ := Option.isSome_iff_exists.1 held
        have won := follow jobId
        rw [found] at won
        obtain ⟨winner, first, -⟩ := Option.map_eq_some_iff.1 won.symm
        rw [first]
        rfl
      next => cases carried
  | kept raw parsed read free claims same unchanged => exact claimedBy raw parsed read free claims
  | stored raw parsed read free claims indexable views => exact claimedBy raw parsed read free claims

/-- In a sorted list the least carrier of an id claims it. -/
theorem ClaimsFollow.least {rel : Text} {raw : Bytes} {parsed : ParsedReport}
    (follow : ClaimsFollow env disk progress) (sorted : progress.scanned.Pairwise (· ≤ ·))
    (there : ∀ other ∈ progress.scanned, other ∈ collect env.unicode disk.dir)
    (mem : rel ∈ progress.scanned) (won : IsWinner env disk rel raw parsed) :
    (progress.claimOf parsed.analysisId).map (·.relPath) = some rel := by
  have carried := outcome_of_carries won.1
  obtain ⟨winner, first⟩ := winnerOf_isSome (List.mem_map_of_mem (f := outcomeOf env disk) mem) carried
  have ordered : (progress.scanned.map (outcomeOf env disk)).Pairwise
      fun a b => a.relPath ≤ b.relPath := by
    rw [List.pairwise_map]
    exact sorted.imp fun le => by
      rw [outcomeOf_relPath, outcomeOf_relPath]
      exact le
  have below := winnerOf_le ordered first (List.mem_map_of_mem mem) carried
  rw [outcomeOf_relPath] at below
  obtain ⟨memWinner, carriedWinner⟩ := winnerOf_mem first
  obtain ⟨other, memOther, rfl⟩ := List.mem_map.1 memWinner
  rw [outcomeOf_relPath] at below
  obtain ⟨otherRaw, otherParsed, carries, named⟩ :=
    carries_of_outcome (there other memOther) carriedWinner
  have above := won.2 other otherRaw otherParsed carries named
  rw [follow, first, Option.map_some, outcomeOf_relPath, le_antisymm below above]

/-! ## Phases -/

/-- The list, once it is taken and as long as it counts. -/
def RunPhase.listed : RunPhase → Option (List Text)
  | .scan progress left => some (progress.scanned ++ left.flatten)
  | .reconcile progress outcomes left =>
    some (progress.scanned ++ (outcomes.map (·.relPath) ++ left.flatten))
  | .recheck progress | .absence progress => some progress.scanned
  | _ => none

/-- The absence pass is still to come. -/
def RunPhase.pending : RunPhase → Bool
  | .begin | .collect | .scan _ _ | .reconcile _ _ _ | .recheck _ | .absence _ => true
  | _ => false

/-- The claims of a phase, and what its read phase has found. -/
def RunPhase.Knows (env : ReportEnv) (disk : Disk) : RunPhase → Prop
  | .scan progress _ | .recheck progress | .absence progress => ClaimsFollow env disk progress
  | .reconcile progress outcomes _ => ClaimsFollow env disk progress ∧
    outcomes = (outcomes.map (·.relPath)).map (outcomeOf env disk)
  | _ => True

/-- What the run knows of its files is what is in them. -/
structure PhaseFollows (env : ReportEnv) (disk : Disk) (phase : RunPhase) : Prop where
  sorted : ∀ files ∈ phase.listed, files.Pairwise (· ≤ ·)
  there : ∀ files ∈ phase.listed, ∀ rel ∈ files, rel ∈ collect env.unicode disk.dir
  knows : phase.Knows env disk

theorem PhaseFollows.unlisted (none : phase.listed = none) (knows : phase.Knows env disk) :
    PhaseFollows env disk phase := by
  refine ⟨?_, ?_, knows⟩ <;> rw [none] <;> exact fun files mem => nomatch mem

/-- A phase with the list of the one before. -/
theorem PhaseFollows.relisted {later : RunPhase} (follows : PhaseFollows env disk phase)
    (same : later.listed = phase.listed) (knows : later.Knows env disk) :
    PhaseFollows env disk later := by
  refine ⟨?_, ?_, knows⟩ <;> rw [same]
  · exact follows.sorted
  · exact follows.there

/-- Files that come change nothing of it. -/
theorem PhaseFollows.grown {later : Disk} (follows : PhaseFollows env disk phase)
    (grows : disk.Grows later) : PhaseFollows env later phase := by
  obtain ⟨sorted, there, knows⟩ := follows
  refine ⟨sorted, fun files listed rel mem => grows.collected (there files listed rel mem), ?_⟩
  have scanned : ∀ progress : Progress, ClaimsFollow env disk progress →
      (∀ rel ∈ progress.scanned, rel ∈ collect env.unicode disk.dir) →
      ClaimsFollow env later progress := by
    intro progress follow within jobId
    rw [grows.outcomes within, follow]
  cases phase with
  | scan progress left =>
    exact scanned progress knows fun rel mem => there _ rfl rel (List.mem_append_left _ mem)
  | reconcile progress outcomes left =>
    refine ⟨scanned progress knows.1 fun rel mem => there _ rfl rel (List.mem_append_left _ mem), ?_⟩
    rw [grows.outcomes]
    · exact knows.2
    · exact fun rel mem => there _ rfl rel (List.mem_append_right _ (List.mem_append_left _ mem))
  | recheck progress => exact scanned progress knows fun rel mem => there _ rfl rel mem
  | absence progress => exact scanned progress knows fun rel mem => there _ rfl rel mem
  | _ => trivial

/-- Reconciling the files of a batch. -/
theorem ClaimsFollow.files {now : Time} {rels : List Text} {db after : IndexDb}
    (follow : ClaimsFollow env disk progress) (formed : db.WellFormed) (issues : db.IssuesFormed)
    (ran : (reconcileFiles env now progress (rels.map (outcomeOf env disk))).run db =
      (.ok next, after)) :
    ClaimsFollow env disk next ∧ next.scanned = progress.scanned ++ rels ∧ after.WellFormed ∧
      after.IssuesFormed := by
  induction rels generalizing progress db with
  | nil =>
    cases ran
    exact ⟨follow, (List.append_nil _).symm, formed, issues⟩
  | cons rel rels ih =>
    obtain ⟨middle, middleDb, first, rest⟩ := Script.bind_returned ran
    obtain ⟨formedMiddle, issuesMiddle, effect⟩ := reconcileFile_effect formed issues first
    have scanned := (reconcileFile_step first).scanned_eq
    rw [outcomeOf_relPath] at scanned
    obtain ⟨followNext, scannedNext, formedNext, issuesNext⟩ :=
      ih (follow.file scanned effect) formedMiddle issuesMiddle rest
    refine ⟨followNext, ?_, formedNext, issuesNext⟩
    rw [scannedNext, scanned, List.append_assoc, List.singleton_append]

/-- Every step of a run keeps to the list. -/
theorem phaseStep_follows {purge : Bool} {now : Time} {db : IndexDb} (formed : db.WellFormed)
    (issues : db.IssuesFormed) (follows : PhaseFollows env disk phase) :
    PhaseFollows env disk (phaseStep env purge now disk db phase).1 := by
  cases phase with
  | begin =>
    unfold phaseStep
    dsimp only
    split <;> exact .unlisted rfl trivial
  | collect =>
    unfold phaseStep
    dsimp only
    have whole : (RunPhase.scan {} (chunks (collect env.unicode disk.dir))).listed =
        some (collect env.unicode disk.dir) := by
      change some ([] ++ (chunks (collect env.unicode disk.dir)).flatten) = _
      rw [chunks_flatten, List.nil_append]
    refine ⟨?_, ?_, fun jobId => rfl⟩ <;> rw [whole] <;> intro files listed <;> cases listed
    · exact collect_sorted env.unicode disk.dir
    · exact fun rel mem => mem
  | scan progress left =>
    cases left with
    | nil =>
      apply follows.relisted
      · exact (congrArg some (List.append_nil _)).symm
      · exact follows.knows
    | cons rels left =>
      unfold phaseStep
      dsimp only
      cases scanned : scanFiles env disk rels with
      | error raised => exact .unlisted rfl trivial
      | ok outcomes =>
        obtain ⟨-, rfl⟩ := scanFiles_ok.1 scanned
        have paths := map_outcomeOf_relPath env disk rels
        apply follows.relisted
        · change some (progress.scanned ++ ((rels.map (outcomeOf env disk)).map (·.relPath) ++
            left.flatten)) = _
          rw [paths]
          rfl
        · refine ⟨follows.knows, ?_⟩
          rw [paths]
  | reconcile progress outcomes left =>
    obtain ⟨follow, read⟩ := follows.knows
    unfold phaseStep
    dsimp only
    cases ran : (reconcileFiles env now progress outcomes).transaction db with
    | mk result after =>
      cases result with
      | error raised => exact .unlisted rfl trivial
      | ok next =>
        have returned := Script.transaction_returned.1 ran
        rw [read] at returned
        obtain ⟨followNext, scanned, -, -⟩ := follow.files formed issues returned
        apply follows.relisted
        · change some (next.scanned ++ left.flatten) = _
          rw [scanned, List.append_assoc]
          rfl
        · exact followNext
  | recheck progress =>
    unfold phaseStep
    dsimp only
    split
    · exact follows.relisted rfl follows.knows
    · exact .unlisted rfl trivial
  | absence progress =>
    unfold phaseStep
    dsimp only
    split <;> exact .unlisted rfl trivial
  | verify counters => exact .unlisted rfl trivial
  | finish counters consistent => exact .unlisted rfl trivial
  | parking raised => exact .unlisted rfl trivial
  | done counters consistent => exact .unlisted rfl trivial
  | failed raised => exact .unlisted rfl trivial

/-- And leaves the index well formed. -/
theorem phaseStep_formed {purge : Bool} {now : Time} {db : IndexDb} (formed : db.WellFormed)
    (issues : db.IssuesFormed) (knows : phase.Knows env disk) :
    (phaseStep env purge now disk db phase).2.WellFormed ∧
      (phaseStep env purge now disk db phase).2.IssuesFormed := by
  have restated : ∀ status, (show IndexDb from { db with status }).WellFormed ∧
      (show IndexDb from { db with status }).IssuesFormed := by
    intro status
    exact ⟨(show db.SameIndex { db with status } from ⟨rfl, rfl, rfl⟩).wellFormed formed,
      issues.of_issues rfl rfl⟩
  cases phase with
  | begin =>
    unfold phaseStep
    dsimp only
    split
    · exact restated _
    · exact ⟨formed, issues⟩
  | collect => exact ⟨formed, issues⟩
  | scan progress left =>
    cases left with
    | nil => exact ⟨formed, issues⟩
    | cons rels left =>
      unfold phaseStep
      dsimp only
      split <;> exact ⟨formed, issues⟩
  | reconcile progress outcomes left =>
    obtain ⟨follow, read⟩ := knows
    unfold phaseStep
    dsimp only
    cases ran : (reconcileFiles env now progress outcomes).transaction db with
    | mk result after =>
      cases result with
      | error raised =>
        rw [Script.transaction_raised ran]
        exact ⟨formed, issues⟩
      | ok next =>
        have returned := Script.transaction_returned.1 ran
        rw [read] at returned
        exact (follow.files formed issues returned).2.2
  | recheck progress =>
    unfold phaseStep
    dsimp only
    split <;> exact ⟨formed, issues⟩
  | absence progress =>
    unfold phaseStep
    dsimp only
    cases ran : (markAbsent env progress purge now).transaction db with
    | mk result after =>
      cases result with
      | error raised =>
        rw [Script.transaction_raised ran]
        exact ⟨formed, issues⟩
      | ok counters =>
        obtain ⟨-, passed⟩ := markAbsent_returned formed issues (Script.transaction_returned.1 ran)
        exact ⟨passed.formed, passed.issues⟩
  | verify counters => exact ⟨formed, issues⟩
  | finish counters consistent => exact restated _
  | parking raised => exact restated _
  | done counters consistent => exact ⟨formed, issues⟩
  | failed raised => exact ⟨formed, issues⟩

end EvoBlue.Source
