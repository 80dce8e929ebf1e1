import EvoBlue.Kernel.Runs
import EvoBlue.Source.AbsencePass
import EvoBlue.Source.RebuildBatches

/-!
# Undisturbed runs of the rescan

A run in which nothing else acts is a list of clock readings, one for each step. It
works through the enumerated files in order, so at every step it has reconciled a
prefix of them; it ends after as many steps as its phase ranks, and it ends well
when every file can be scanned and fits.
-/

namespace EvoBlue.Source

open EvoBlue.Kernel

/-- A run of the rescan in which nothing else acts. -/
def undisturbed (env : ReportEnv) (purge : Bool) (disk : Disk) (db : IndexDb) (nows : List Time) :
    RunPhase × IndexDb :=
  run (fun state now => phaseStep env purge now disk state.2 state.1) (.begin, db) nows

/-! ## The enumerated files -/

theorem chunksFrom_flatten {size fuel : Nat} (positive : 0 < size) {items : List Text}
    (enough : items.length ≤ fuel) : (chunksFrom size fuel items).flatten = items := by
  induction fuel generalizing items with
  | zero =>
    rw [List.length_eq_zero_iff.1 (Nat.le_zero.1 enough)]
    rfl
  | succ fuel ih =>
    cases items with
    | nil => rfl
    | cons item rest =>
      have shorter : ((item :: rest).drop size).length ≤ fuel := by
        simp only [List.length_drop, List.length_cons] at enough ⊢
        omega
      change (item :: rest).take size ++ (chunksFrom size fuel ((item :: rest).drop size)).flatten = _
      rw [ih shorter, List.take_append_drop]

theorem chunks_flatten (items : List Text) : (chunks items).flatten = items :=
  chunksFrom_flatten (by decide) (Nat.le_refl _)

theorem collect_perm (unicode : UnicodeData) (dir : Directory) :
    (collect unicode dir).Perm ((dir.files.map (·.1)).filter (isCollected unicode)) :=
  List.mergeSort_perm _ _

theorem mem_collect {unicode : UnicodeData} {dir : Directory} {rel : Text} :
    rel ∈ collect unicode dir ↔
      isCollected unicode rel = true ∧ ∃ content, (rel, content) ∈ dir.files := by
  rw [(collect_perm unicode dir).mem_iff, List.mem_filter, and_comm]
  simp

theorem collect_nodup (unicode : UnicodeData) (dir : Directory) : (collect unicode dir).Nodup :=
  (collect_perm unicode dir).nodup_iff.2 (dir.distinct.filter _)

theorem length_collect_le (unicode : UnicodeData) (dir : Directory) :
    (collect unicode dir).length ≤ dir.files.length := by
  have mapped : (dir.files.map (·.1)).length = dir.files.length := List.length_map _
  rw [(collect_perm unicode dir).length_eq, ← mapped]
  exact List.length_filter_le _ _

theorem collect_sorted (unicode : UnicodeData) (dir : Directory) :
    (collect unicode dir).Pairwise (· ≤ ·) := by
  have sorted : (collect unicode dir).Pairwise fun a b => decide (a ≤ b) = true := by
    apply List.pairwise_mergeSort
    · intro a b c first second
      simp only [decide_eq_true_eq] at first second ⊢
      exact le_trans first second
    · intro a b
      simp only [Bool.or_eq_true, decide_eq_true_eq]
      exact le_total a b
  exact sorted.imp fun ordered => of_decide_eq_true ordered

/-- What scanning a file gives, when it gives anything. -/
def outcomeOf (env : ReportEnv) (disk : Disk) (rel : Text) : FileOutcome :=
  match scanFile env disk rel with
  | .ok outcome => outcome
  | .error _ => ⟨rel, .unreadable⟩

/-- Scanning the file raises nothing. -/
def Scans (env : ReportEnv) (disk : Disk) (rel : Text) : Prop :=
  scanFile env disk rel = .ok (outcomeOf env disk rel)

theorem scans_of_ok {env : ReportEnv} {disk : Disk} {rel : Text} {outcome : FileOutcome}
    (scanned : scanFile env disk rel = .ok outcome) :
    Scans env disk rel ∧ outcome = outcomeOf env disk rel := by
  unfold Scans outcomeOf
  rw [scanned]
  exact ⟨rfl, rfl⟩

theorem outcomeOf_relPath (env : ReportEnv) (disk : Disk) (rel : Text) :
    (outcomeOf env disk rel).relPath = rel := by
  unfold outcomeOf
  split
  next outcome scanned =>
    unfold scanFile at scanned
    split at scanned
    next raw _ =>
      split at scanned <;> cases scanned <;> rfl
    next =>
      split at scanned <;> cases scanned
      rfl
  next => rfl

theorem map_outcomeOf_relPath (env : ReportEnv) (disk : Disk) (rels : List Text) :
    (rels.map (outcomeOf env disk)).map (·.relPath) = rels := by
  rw [List.map_map]
  exact List.map_id'' (fun rel => outcomeOf_relPath env disk rel) rels

theorem scanFiles_ok {env : ReportEnv} {disk : Disk} {rels : List Text}
    {outcomes : List FileOutcome} :
    scanFiles env disk rels = .ok outcomes ↔
      (∀ rel ∈ rels, Scans env disk rel) ∧ outcomes = rels.map (outcomeOf env disk) := by
  unfold scanFiles
  induction rels generalizing outcomes with
  | nil => simp [pure, Except.pure, eq_comm]
  | cons rel rels ih =>
    rw [List.mapM_cons]
    cases scanned : scanFile env disk rel with
    | error raised =>
      constructor
      · intro ok
        cases ok
      · rintro ⟨every, _⟩
        have one := every rel (by simp)
        rw [Scans, scanned] at one
        cases one
    | ok outcome =>
      obtain ⟨scans, same⟩ := scans_of_ok scanned
      subst same
      cases rest : rels.mapM (scanFile env disk) with
      | error raised =>
        constructor
        · intro ok
          cases ok
        · rintro ⟨every, _⟩
          have others := (@ih (rels.map (outcomeOf env disk))).2
            ⟨fun other mem => every other (List.mem_cons_of_mem _ mem), rfl⟩
          rw [rest] at others
          cases others
      | ok tail =>
        obtain ⟨every, sameTail⟩ := ih.1 rest
        subst sameTail
        constructor
        · intro ok
          cases ok
          exact ⟨List.forall_mem_cons.2 ⟨scans, every⟩, rfl⟩
        · rintro ⟨_, rfl⟩
          rfl

/-! ## Winners -/

/-- The file at `rel` is enumerated and parses. -/
def Carries (env : ReportEnv) (disk : Disk) (rel : Text) (raw : Bytes) (parsed : ParsedReport) :
    Prop :=
  rel ∈ collect env.unicode disk.dir ∧ disk.dir.find rel = some (.bytes raw) ∧
    decodeReportBytes env.toReaderEnv raw = .ok parsed

/-- The least path that carries its analysis id. -/
def IsWinner (env : ReportEnv) (disk : Disk) (rel : Text) (raw : Bytes) (parsed : ParsedReport) :
    Prop :=
  Carries env disk rel raw parsed ∧ ∀ otherRel otherRaw otherParsed,
    Carries env disk otherRel otherRaw otherParsed →
    otherParsed.analysisId = parsed.analysisId → rel ≤ otherRel

/-- What scanning all enumerated files gives, in order. -/
def runOutcomes (env : ReportEnv) (disk : Disk) : List FileOutcome :=
  (collect env.unicode disk.dir).map (outcomeOf env disk)

theorem outcomeOf_readable {env : ReportEnv} {disk : Disk} {rel : Text} {raw : Bytes}
    {parsed : ParsedReport} :
    outcomeOf env disk rel = ⟨rel, .readable raw parsed⟩ ↔
      disk.dir.find rel = some (.bytes raw) ∧
        decodeReportBytes env.toReaderEnv raw = .ok parsed := by
  unfold outcomeOf scanFile
  split
  next outcome scanned =>
    split at scanned
    next data found =>
      rw [found]
      split at scanned
      next report decoded =>
        cases scanned
        simp only [FileOutcome.mk.injEq, FileResult.readable.injEq, true_and, Option.some.injEq,
          FileContent.bytes.injEq]
        constructor
        · rintro ⟨rfl, rfl⟩
          exact ⟨rfl, decoded⟩
        · rintro ⟨rfl, same⟩
          rw [decoded] at same
          cases same
          exact ⟨rfl, rfl⟩
      next code decoded =>
        cases scanned
        simp only [FileOutcome.mk.injEq, reduceCtorEq, and_false, Option.some.injEq,
          FileContent.bytes.injEq, false_iff]
        rintro ⟨rfl, same⟩
        rw [decoded] at same
        cases same
      next => cases scanned
      next => cases scanned
    next unread =>
      split at scanned
      next =>
        cases scanned
        simp only [FileOutcome.mk.injEq, reduceCtorEq, and_false, false_iff]
        rintro ⟨found, _⟩
        exact unread raw found
      next => cases scanned
  next raised scanned =>
    simp only [FileOutcome.mk.injEq, reduceCtorEq, and_false, false_iff]
    rintro ⟨found, decoded⟩
    simp only [found, decoded] at scanned
    cases scanned

theorem mem_runOutcomes {env : ReportEnv} {disk : Disk} {rel : Text} {raw : Bytes}
    {parsed : ParsedReport} :
    ⟨rel, .readable raw parsed⟩ ∈ runOutcomes env disk ↔ Carries env disk rel raw parsed := by
  unfold runOutcomes Carries
  rw [← outcomeOf_readable, List.mem_map]
  constructor
  · rintro ⟨other, mem, same⟩
    have path := outcomeOf_relPath env disk other
    rw [same] at path
    simp only at path
    subst path
    exact ⟨mem, same⟩
  · rintro ⟨mem, same⟩
    exact ⟨rel, mem, same⟩

theorem runOutcomes_sorted (env : ReportEnv) (disk : Disk) :
    (runOutcomes env disk).Pairwise fun a b => a.relPath ≤ b.relPath := by
  unfold runOutcomes
  rw [List.pairwise_map]
  exact (collect_sorted env.unicode disk.dir).imp fun ordered => by
    rw [outcomeOf_relPath, outcomeOf_relPath]
    exact ordered

theorem winnerOf_le {outcomes : List FileOutcome}
    (sorted : outcomes.Pairwise fun a b => a.relPath ≤ b.relPath) {jobId : Text}
    {winner other : FileOutcome} (won : winnerOf outcomes jobId = some winner)
    (mem : other ∈ outcomes) (carried : other.carries jobId = true) :
    winner.relPath ≤ other.relPath := by
  obtain ⟨_, earlier, later, rfl, none⟩ := List.find?_eq_some_iff_append.1 won
  rcases List.mem_append.1 mem with before | after
  · have lost := none other before
    rw [carried] at lost
    cases lost
  · rcases List.mem_cons.1 after with rfl | after
    · exact le_refl _
    · exact List.rel_of_pairwise_cons (List.pairwise_append.1 sorted).2.1 after

/-- The run's winners are the least paths. -/
theorem winnerOf_run {env : ReportEnv} {disk : Disk} {rel : Text} {raw : Bytes}
    {parsed : ParsedReport} :
    winnerOf (runOutcomes env disk) parsed.analysisId = some ⟨rel, .readable raw parsed⟩ ↔
      IsWinner env disk rel raw parsed := by
  have sorted := runOutcomes_sorted env disk
  constructor
  · intro won
    refine ⟨mem_runOutcomes.1 (winnerOf_mem won).1, ?_⟩
    intro otherRel otherRaw otherParsed carries same
    exact winnerOf_le sorted won (mem_runOutcomes.2 carries)
      ((carries_readable _ _ _ _).2 same)
  · rintro ⟨carries, least⟩
    have mem := mem_runOutcomes.2 carries
    have carried := (carries_readable rel raw parsed parsed.analysisId).2 rfl
    obtain ⟨⟨winRel, result⟩, won⟩ := winnerOf_isSome mem carried
    obtain ⟨memWinner, winnerCarries⟩ := winnerOf_mem won
    have below : winRel ≤ rel := winnerOf_le sorted won mem carried
    cases result with
    | unreadable => cases winnerCarries
    | rejected code => cases winnerCarries
    | readable winRaw winParsed =>
      have winner := mem_runOutcomes.1 memWinner
      have above := least winRel winRaw winParsed winner
        ((carries_readable _ _ _ _).1 winnerCarries)
      obtain rfl : winRel = rel := le_antisymm below above
      have sameRaw := winner.2.1.symm.trans carries.2.1
      simp only [Option.some.injEq, FileContent.bytes.injEq] at sameRaw
      subst sameRaw
      have sameParsed := winner.2.2.symm.trans carries.2.2
      simp only [Except.ok.injEq] at sameParsed
      rw [won, sameParsed]

theorem winnerOf_run_none {env : ReportEnv} {disk : Disk} {jobId : Text} :
    winnerOf (runOutcomes env disk) jobId = none ↔
      ∀ rel raw parsed, Carries env disk rel raw parsed → parsed.analysisId ≠ jobId := by
  constructor
  · intro none rel raw parsed carries same
    have lost := List.find?_eq_none.1 none _ (mem_runOutcomes.2 carries)
    exact lost ((carries_readable _ _ _ _).2 same)
  · intro none
    refine List.find?_eq_none.2 fun outcome mem carried => ?_
    obtain ⟨rel, result⟩ := outcome
    cases result with
    | unreadable => cases carried
    | rejected code => cases carried
    | readable raw parsed =>
      exact none rel raw parsed (mem_runOutcomes.1 mem) ((carries_readable _ _ _ _).1 carried)

/-! ## The invariant -/

/-- The files `paths` are scanned and reconciled. -/
structure HasReconciled (env : ReportEnv) (disk : Disk) (before : IndexDb) (paths : List Text)
    (progress : Progress) (db : IndexDb) : Prop where
  usable : disk.usable = true
  scans : ∀ rel ∈ paths, Scans env disk rel
  kept : Reconciled env before (paths.map (outcomeOf env disk)) progress db

/-- All enumerated files are reconciled, and the absence pass was made. -/
def HasPassed (env : ReportEnv) (purge : Bool) (disk : Disk) (before : IndexDb)
    (counters : Counters) (db : IndexDb) : Prop :=
  ∃ progress middle,
    HasReconciled env disk before (collect env.unicode disk.dir) progress middle ∧
    Passed progress purge middle counters db

/-- Where an undisturbed run stands in each of its phases. -/
def Underway (env : ReportEnv) (purge : Bool) (disk : Disk) (before : IndexDb) :
    RunPhase × IndexDb → Prop
  | (.begin, db) => db = before
  | (.collect, db) => HasReconciled env disk before [] {} db
  | (.scan progress left, db) => ∃ paths,
    paths ++ left.flatten = collect env.unicode disk.dir ∧
    HasReconciled env disk before paths progress db
  | (.reconcile progress outcomes left, db) => ∃ paths next,
    paths ++ (next ++ left.flatten) = collect env.unicode disk.dir ∧
    outcomes = next.map (outcomeOf env disk) ∧ (∀ rel ∈ next, Scans env disk rel) ∧
    HasReconciled env disk before paths progress db
  | (.recheck progress, db) | (.absence progress, db) =>
    HasReconciled env disk before (collect env.unicode disk.dir) progress db
  | (.verify counters, db) =>
    BindsPaths env.maxVariables (collect env.unicode disk.dir) before ∧
      HasPassed env purge disk before counters db
  | (.finish counters consistent, db) | (.done counters consistent, db) =>
    BindsPaths env.maxVariables (collect env.unicode disk.dir) before ∧
      HasPassed env purge disk before counters db ∧ consistent = true
  | (.parking _, _) | (.failed _, _) => True

variable {env : ReportEnv} {purge : Bool} {disk : Disk} {before : IndexDb}

theorem HasReconciled.scanned_eq {paths : List Text} {progress : Progress}
    {db : IndexDb} (kept : HasReconciled env disk before paths progress db) : progress.scanned = paths := by
  rw [kept.kept.scanned, map_outcomeOf_relPath]

/-- What the sweep can bind does not depend on the files that were reconciled. -/
theorem HasReconciled.binds_iff {paths : List Text} {progress : Progress} {db : IndexDb}
    (kept : HasReconciled env disk before paths progress db) (maxVariables : Nat) :
    BindsPaths maxVariables progress.scanned db ↔ BindsPaths maxVariables paths before := by
  have elsewhere := kept.kept.elsewhere
  rw [map_outcomeOf_relPath] at elsewhere
  rw [kept.scanned_eq]
  constructor
  · rintro ⟨few, spare, encodable⟩
    refine ⟨few, fun code path isOpen apart => ?_, encodable⟩
    exact spare code path ((elsewhere code path apart).2 isOpen) apart
  · rintro ⟨few, spare, encodable⟩
    refine ⟨few, fun code path isOpen apart => ?_, encodable⟩
    exact spare code path ((elsewhere code path apart).1 isOpen) apart

theorem distinct_front {paths next left : List Text}
    (split : paths ++ (next ++ left) = collect env.unicode disk.dir) :
    ((paths.map (outcomeOf env disk) ++ next.map (outcomeOf env disk)).map (·.relPath)).Nodup := by
  rw [List.map_append, map_outcomeOf_relPath, map_outcomeOf_relPath]
  have whole := collect_nodup env.unicode disk.dir
  rw [← split, ← List.append_assoc] at whole
  exact (List.nodup_append.1 whole).1

/-- A change of the rebuild state only. -/
theorem Reconciled.restated {outcomes : List FileOutcome} {progress : Progress} {db : IndexDb}
    (kept : Reconciled env before outcomes progress db) (status : IndexStatus) :
    Reconciled env before outcomes progress { db with status } where
  formed :=
    (show db.SameIndex { db with status } from ⟨rfl, rfl, rfl⟩).wellFormed kept.formed
  issues := kept.issues.of_issues rfl rfl
  scanned := kept.scanned
  claimed := kept.claimed
  unclaimed := kept.unclaimed
  winners := kept.winners
  encodable := kept.encodable
  marked := kept.marked
  elsewhere := kept.elsewhere
  calm := kept.calm
  allWin := kept.allWin

theorem Passed.restated {progress : Progress} {db after : IndexDb} {counted : Counters}
    (passed : Passed progress purge db counted after) (status : IndexStatus) :
    Passed progress purge db counted { after with status } where
  formed :=
    (show after.SameIndex { after with status } from ⟨rfl, rfl, rfl⟩).wellFormed passed.formed
  issues := passed.issues.of_issues rfl rfl
  counts := passed.counts
  views := passed.views
  opens := passed.opens
  quiet := passed.quiet

theorem underway_step (formed : before.WellFormed) (issues : before.IssuesFormed) (now : Time)
    (state : RunPhase × IndexDb) (at_ : Underway env purge disk before state) :
    Underway env purge disk before (phaseStep env purge now disk state.2 state.1) := by
  obtain ⟨phase, db⟩ := state
  cases phase with
  | begin =>
    obtain rfl : db = before := at_
    simp only [phaseStep]
    split
    next usable =>
      exact ⟨usable, fun rel mem => absurd mem List.not_mem_nil,
        (reconciled_nil env formed issues).restated _⟩
    next => trivial
  | collect => exact ⟨[], by rw [chunks_flatten]; rfl, at_⟩
  | scan progress left =>
    obtain ⟨paths, split, kept⟩ := at_
    cases left with
    | nil =>
      rw [List.flatten_nil, List.append_nil] at split
      subst split
      exact kept
    | cons rels left =>
      simp only [phaseStep]
      cases scanned : scanFiles env disk rels with
      | error raised => trivial
      | ok outcomes =>
        obtain ⟨scans, same⟩ := scanFiles_ok.1 scanned
        rw [List.flatten_cons] at split
        exact ⟨paths, rels, split, same, scans, kept⟩
  | reconcile progress outcomes left =>
    obtain ⟨paths, next, split, rfl, scans, kept⟩ := at_
    simp only [phaseStep]
    split
    next => trivial
    next after ran =>
      have returned := Script.transaction_returned.1 ran
      have reconciled := kept.kept.files_returned now (distinct_front split) returned
      rw [← List.map_append] at reconciled
      exact ⟨paths ++ next, by rw [List.append_assoc, split], kept.usable,
        List.forall_mem_append.2 ⟨kept.scans, scans⟩, reconciled⟩
  | recheck progress =>
    simp only [phaseStep]
    split
    next => exact at_
    next => trivial
  | absence progress =>
    simp only [phaseStep]
    split
    next => trivial
    next counted after ran =>
      rw [Script.transaction_returned] at ran
      obtain ⟨binds, passed⟩ := markAbsent_returned at_.kept.formed at_.kept.issues ran
      exact ⟨(at_.binds_iff _).1 binds, progress, db, at_, passed⟩
  | verify counters =>
    obtain ⟨binds, progress, middle, reconciled, passed⟩ := at_
    exact ⟨binds, ⟨progress, middle, reconciled, passed⟩, passed.formed.ftsConsistent⟩
  | finish counters consistent =>
    obtain ⟨binds, ⟨progress, middle, reconciled, passed⟩, rfl⟩ := at_
    exact ⟨binds, ⟨progress, middle, reconciled, passed.restated _⟩, rfl⟩
  | parking raised => trivial
  | done counters consistent => exact at_
  | failed raised => trivial

theorem underway_run (formed : before.WellFormed) (issues : before.IssuesFormed)
    (nows : List Time) :
    Underway env purge disk before (undisturbed env purge disk before nows) := by
  have begins : Underway env purge disk before (.begin, before) := rfl
  exact run_invariant (fun state now kept => underway_step formed issues now state kept) begins nows

/-! ## How a run ends -/

/-- The steps left at most. -/
def rank (env : ReportEnv) (disk : Disk) : RunPhase → Nat
  | .begin => 2 * (chunks (collect env.unicode disk.dir)).length + 7
  | .collect => 2 * (chunks (collect env.unicode disk.dir)).length + 6
  | .reconcile _ _ left => 2 * left.length + 6
  | .scan _ left => 2 * left.length + 5
  | .recheck _ => 4
  | .absence _ => 3
  | .verify _ => 2
  | .finish _ _ | .parking _ => 1
  | .done _ _ | .failed _ => 0

/-- What the run asks of the directory it works on. -/
structure RunFits (env : ReportEnv) (disk : Disk) (before : IndexDb) : Prop where
  usable : disk.usable = true
  scans : ∀ rel ∈ collect env.unicode disk.dir, Scans env disk rel
  files : FilesFit env before (runOutcomes env disk)
  few : (collect env.unicode disk.dir).length ≤ env.maxVariables
  spare : ∀ code path, before.HasOpen code path → path ∉ collect env.unicode disk.dir →
    (collect env.unicode disk.dir).length < env.maxVariables

/-- No exception was raised. -/
def Smooth : RunPhase → Prop
  | .parking _ | .failed _ => False
  | _ => True

theorem rank_step (env : ReportEnv) (purge : Bool) (disk : Disk) (now : Time)
    (state : RunPhase × IndexDb) :
    rank env disk (phaseStep env purge now disk state.2 state.1).1 ≤ rank env disk state.1 - 1 := by
  obtain ⟨phase, db⟩ := state
  cases phase with
  | begin =>
    simp only [phaseStep]
    split <;> simp [rank]
  | collect => simp [phaseStep, rank]
  | scan progress left =>
    cases left with
    | nil => simp [phaseStep, rank]
    | cons rels left =>
      simp only [phaseStep]
      split
      · simp [rank]
      · simp only [rank, List.length_cons]
        omega
  | reconcile progress outcomes left =>
    simp only [phaseStep]
    split
    · simp [rank]
    · simp [rank]
  | recheck progress =>
    simp only [phaseStep]
    split <;> simp [rank]
  | absence progress =>
    simp only [phaseStep]
    split <;> simp [rank]
  | verify counters => simp [phaseStep, rank]
  | finish counters consistent => simp [phaseStep, rank]
  | parking raised => simp [phaseStep, rank]
  | done counters consistent => simp [phaseStep, rank]
  | failed raised => simp [phaseStep, rank]

/-- With enough clock readings a run is over. -/
theorem undisturbed_over {nows : List Time} (enough : rank env disk .begin ≤ nows.length) :
    rank env disk (undisturbed env purge disk before nows).1 = 0 := by
  have ranked : rank env disk (undisturbed env purge disk before nows).1 ≤
      rank env disk .begin - nows.length :=
    @run_rank _ _ _ (fun state : RunPhase × IndexDb => rank env disk state.1)
      (fun state now => rank_step env purge disk now state) (.begin, before) nows
  omega

theorem smooth_step (fits : RunFits env disk before) (now : Time) (state : RunPhase × IndexDb)
    (underway : Underway env purge disk before state) (smooth : Smooth state.1) :
    Smooth (phaseStep env purge now disk state.2 state.1).1 := by
  obtain ⟨phase, db⟩ := state
  cases phase with
  | begin =>
    simp only [phaseStep, if_pos fits.usable]
    trivial
  | collect => trivial
  | scan progress left =>
    obtain ⟨paths, split, kept⟩ := underway
    cases left with
    | nil => trivial
    | cons rels left =>
      have scanned : scanFiles env disk rels = .ok (rels.map (outcomeOf env disk)) := by
        refine scanFiles_ok.2 ⟨fun rel mem => fits.scans rel ?_, rfl⟩
        rw [← split]
        simp [mem]
      simp only [phaseStep, scanned]
      trivial
  | reconcile progress outcomes left =>
    obtain ⟨paths, next, split, rfl, scans, kept⟩ := underway
    have files : FilesFit env before
        (paths.map (outcomeOf env disk) ++ next.map (outcomeOf env disk)) := by
      have all := fits.files
      unfold runOutcomes at all
      rw [← split, ← List.append_assoc, List.map_append, List.map_append] at all
      exact all.of_append
    obtain ⟨progress', after, ran⟩ := kept.kept.files_returns now (distinct_front split) files
    simp only [phaseStep, Script.transaction_returned.2 ran]
    trivial
  | recheck progress =>
    simp only [phaseStep, if_pos fits.usable]
    trivial
  | absence progress =>
    have binds : BindsPaths env.maxVariables progress.scanned db := by
      rw [underway.binds_iff]
      refine ⟨fits.few, fits.spare, fun path mem => ?_⟩
      have encodable := fits.files.1 _ (List.mem_map_of_mem mem)
      rw [outcomeOf_relPath] at encodable
      exact encodable
    obtain ⟨counted, after, ran, _⟩ :=
      (markAbsent_run underway.kept.formed underway.kept.issues env progress purge now).1 binds
    simp only [phaseStep, Script.transaction_returned.2 ran]
    trivial
  | verify counters => trivial
  | finish counters consistent => trivial
  | parking raised => exact smooth
  | done counters consistent => trivial
  | failed raised => exact smooth

/-- A run that fits is done once it has had its steps. -/
theorem undisturbed_done (formed : before.WellFormed) (issues : before.IssuesFormed)
    (fits : RunFits env disk before) {nows : List Time}
    (enough : rank env disk .begin ≤ nows.length) :
    ∃ counters after, undisturbed env purge disk before nows = (.done counters true, after) ∧
      HasPassed env purge disk before counters after := by
  have begins : Underway env purge disk before (.begin, before) ∧ Smooth .begin :=
    ⟨rfl, trivial⟩
  have ends : Underway env purge disk before (undisturbed env purge disk before nows) ∧
      Smooth (undisturbed env purge disk before nows).1 :=
    @run_invariant _ _ _ (fun state => Underway env purge disk before state ∧ Smooth state.1)
      (fun state now kept => ⟨underway_step formed issues now state kept.1,
        smooth_step fits now state kept.1 kept.2⟩) _ begins nows
  have finished := @undisturbed_over env purge disk before nows enough
  generalize undisturbed env purge disk before nows = state at ends finished
  obtain ⟨phase, db⟩ := state
  cases phase with
  | done counters consistent =>
    obtain ⟨-, passed, rfl⟩ := ends.1
    exact ⟨counters, db, rfl, passed⟩
  | failed raised => exact absurd ends.2 id
  | _ => simp [rank] at finished

/-- A run that is done asked nothing that did not hold. -/
theorem fits_of_done (formed : before.WellFormed) (issues : before.IssuesFormed)
    {nows : List Time} {counters : Counters} {consistent : Bool} {after : IndexDb}
    (done : undisturbed env purge disk before nows = (.done counters consistent, after)) :
    RunFits env disk before ∧ HasPassed env purge disk before counters after ∧
      consistent = true := by
  have underway := @underway_run env purge disk before formed issues nows
  rw [done] at underway
  obtain ⟨binds, passed, consistent⟩ := underway
  refine ⟨?_, passed, consistent⟩
  obtain ⟨progress, middle, kept, _⟩ := passed
  exact ⟨kept.usable, kept.scans, kept.kept.fits, binds.few, binds.spare⟩

/-! ## What a run leaves -/

namespace HasPassed

variable {counters : Counters} {after : IndexDb}

theorem formed (passed : HasPassed env purge disk before counters after) :
    after.WellFormed ∧ after.IssuesFormed := by
  obtain ⟨_, _, _, passed⟩ := passed
  exact ⟨passed.formed, passed.issues⟩

/-- A winner's document survives the absence pass. -/
theorem winner (passed : HasPassed env purge disk before counters after) {rel : Text} {raw : Bytes}
    {parsed : ParsedReport} (won : IsWinner env disk rel raw parsed) :
    WinnerStored env before after rel raw parsed := by
  obtain ⟨progress, middle, ⟨_, _, kept⟩, passed⟩ := passed
  have wins := winnerOf_run.2 won
  have stored := kept.winners rel raw parsed wins
  have claimed := kept.claimed parsed.analysisId
  rw [show winnerOf ((collect env.unicode disk.dir).map (outcomeOf env disk)) parsed.analysisId =
    some ⟨rel, .readable raw parsed⟩ from wins, Option.map_some] at claimed
  have stays : ∀ seen, middle.view parsed.analysisId = some seen →
      seen.columns.relativePath = rel → after.view parsed.analysisId = some seen := by
    intro seen known same
    rw [passed.views, known, Option.bind_some, absentView, claimed, same, if_pos rfl]
  unfold WinnerStored at stored ⊢
  rcases stored with ⟨unchanged, same⟩ | ⟨changed, indexable, indexed⟩
  · obtain ⟨seen, known, path, _⟩ := unchanged
    exact .inl ⟨⟨seen, known, path, ‹_›⟩, by rw [stays seen (same.trans known) path, known]⟩
  · exact .inr ⟨changed, indexable, stays _ indexed rfl⟩

/-- A document no enumerated file carries leaves history and search. -/
theorem absent (passed : HasPassed env purge disk before counters after) {jobId : Text}
    (none : ∀ rel raw parsed, Carries env disk rel raw parsed → parsed.analysisId ≠ jobId) :
    (∀ seen, after.view jobId = some seen → ∃ old, before.view jobId = some old ∧
      seen = old.missing) ∧
    (purge = false → after.view jobId = (before.view jobId).map DocView.missing) := by
  obtain ⟨progress, middle, ⟨_, _, kept⟩, passed⟩ := passed
  have lost : winnerOf ((collect env.unicode disk.dir).map (outcomeOf env disk)) jobId = .none :=
    winnerOf_run_none.2 none
  have unclaimed := (kept.first_iff jobId).2 lost
  have leaves : ∀ old, absentView progress purge jobId old =
      if purge && !progress.scanned.contains old.columns.relativePath then .none
      else some old.missing := by
    intro old
    rw [absentView, unclaimed]
    rfl
  rw [passed.views, kept.unclaimed jobId lost]
  constructor
  · intro seen known
    obtain ⟨old, stored, known⟩ := Option.bind_eq_some_iff.1 known
    rw [leaves] at known
    split at known
    · cases known
    · exact ⟨old, stored, (Option.some.inj known).symm⟩
  · rintro rfl
    cases before.view jobId with
    | none => rfl
    | some old => exact leaves old

/-- Nothing is open on a path that is not enumerated. -/
theorem swept (passed : HasPassed env purge disk before counters after) {code : IssueCode}
    {path : Text} (isOpen : after.HasOpen code path) : path ∈ collect env.unicode disk.dir := by
  obtain ⟨progress, middle, kept, passed⟩ := passed
  rw [← kept.scanned_eq]
  exact ((passed.opens code path).1 isOpen).1

/-- Every file has left its mark among the issues. -/
theorem marked (passed : HasPassed env purge disk before counters after) {outcome : FileOutcome}
    (mem : outcome ∈ runOutcomes env disk) : Marked (runOutcomes env disk) after outcome := by
  obtain ⟨progress, middle, ⟨_, _, kept⟩, passed⟩ := passed
  have scanned : outcome.relPath ∈ progress.scanned := by
    rw [kept.scanned]
    exact List.mem_map_of_mem mem
  have old : Marked (runOutcomes env disk) middle outcome := kept.marked outcome mem
  obtain ⟨rel, result⟩ := outcome
  cases result with
  | unreadable => exact (passed.opens _ _).2 ⟨scanned, old⟩
  | rejected code => exact (passed.opens _ _).2 ⟨scanned, old⟩
  | readable raw parsed => exact (passed.opens _ _).trans ((and_iff_right scanned).trans old)

end HasPassed

end EvoBlue.Source
