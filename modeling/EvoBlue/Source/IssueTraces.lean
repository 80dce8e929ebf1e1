import Mathlib.Data.Set.Insert
import EvoBlue.Source.RebuildRuns

/-!
# The issues a run leaves open

What one file of a rescan does to the codes open on its path is a function on sets of
codes: recording a code inserts it, resolving one takes it out. A run applies the
function of each enumerated file once, and the absence pass closes what is open
elsewhere.
-/

namespace EvoBlue.Source

open EvoBlue.Kernel

namespace IndexDb

/-- The codes open on a path. -/
def openCodes (db : IndexDb) (path : Text) : Set IssueCode := {code | db.HasOpen code path}

/-- `uq_index_issues_open`: no issue is open twice. -/
def OpenOnce (db : IndexDb) : Prop :=
  ∀ code path, (db.issues.countP fun row => row.isOpen code path) ≤ 1

theorem openOnce_empty : ({} : IndexDb).OpenOnce := fun _ _ => by simp

theorem OpenOnce.recorded {db : IndexDb} (once : db.OpenOnce) (code : IssueCode) (path : Text)
    (now : Time) : (db.recorded code path now).OpenOnce := by
  intro otherCode otherPath
  have one := once otherCode otherPath
  unfold IndexDb.recorded
  split
  next found _ =>
    have same : (fun row : IssueRow => row.isOpen otherCode otherPath) ∘ (fun row =>
        if row.id = found.id then { row with lastSeenAt := now } else row) =
        fun row => row.isOpen otherCode otherPath := by
      funext row
      simp only [Function.comp_apply]
      split <;> rfl
    simp only [List.countP_map, same]
    exact one
  next none =>
    simp only [List.countP_append, List.countP_singleton]
    split
    next opens =>
      simp only [IssueRow.isOpen, Option.isNone_none, Bool.and_true, Bool.and_eq_true,
        decide_eq_true_eq] at opens
      obtain ⟨rfl, rfl⟩ := opens
      have closed : (db.issues.countP fun row => row.isOpen code path) = 0 := by
        rw [List.countP_eq_zero]
        exact List.find?_eq_none.1 none
      omega
    next => omega

theorem OpenOnce.resolved {db : IndexDb} (once : db.OpenOnce) (closes : IssueRow → Bool)
    (now : Time) : (db.resolved closes now).OpenOnce := by
  intro code path
  have fewer : (db.resolved closes now).issues.countP (fun row => row.isOpen code path) ≤
      db.issues.countP fun row => row.isOpen code path := by
    unfold IndexDb.resolved
    simp only [List.countP_map]
    apply List.countP_mono_left
    intro row _ opens
    simp only [Function.comp_apply] at opens
    split at opens
    · simp [IssueRow.isOpen] at opens
    · exact opens
  exact fewer.trans (once code path)

end IndexDb

/-! ## One path -/

/-- What happens to the issues while those of `rel` are written: the codes open there
change as `change` says, and nothing else does. -/
structure SetsIssues (rel : Text) (change : Set IssueCode → Set IssueCode) (db after : IndexDb) :
    Prop where
  formed : after.IssuesFormed
  once : db.OpenOnce → after.OpenOnce
  here : after.openCodes rel = change (db.openCodes rel)
  others : ∀ path, path ≠ rel → after.openCodes path = db.openCodes path

variable {rel : Text} {first last : Set IssueCode → Set IssueCode} {db middle after : IndexDb}

theorem SetsIssues.trans (one : SetsIssues rel first db middle)
    (two : SetsIssues rel last middle after) : SetsIssues rel (last ∘ first) db after where
  formed := two.formed
  once := two.once ∘ one.once
  here := by rw [two.here, one.here, Function.comp_apply]
  others := fun path apart => (two.others path apart).trans (one.others path apart)

/-- What happens to the documents is nothing to the issues. -/
theorem SetsIssues.of_issues (sets : SetsIssues rel first db middle)
    (issues : after.issues = middle.issues) (next : after.nextIssueId = middle.nextIssueId) :
    SetsIssues rel first db after where
  formed := sets.formed.of_issues issues next
  once := by
    intro once code path
    rw [issues]
    exact sets.once once code path
  here := by
    rw [← sets.here]
    simp only [IndexDb.openCodes, IndexDb.HasOpen, issues]
  others := by
    intro path apart
    rw [← sets.others path apart]
    simp only [IndexDb.openCodes, IndexDb.HasOpen, issues]

theorem recordIndexIssue_sets (formed : db.IssuesFormed) {code : IssueCode} {now : Time} {id : Nat}
    (ran : (recordIndexIssue code rel now).run db = (.ok id, after)) :
    SetsIssues rel (insert code) db after := by
  obtain ⟨id', recorded⟩ := recordIndexIssue_run code rel now db
  rw [ran] at recorded
  split at recorded
  · cases recorded
    refine ⟨formed.recorded code rel now, fun once => once.recorded code rel now, ?_, ?_⟩
    · ext other
      simp only [IndexDb.openCodes, Set.mem_ofPred_eq, IndexDb.recorded_open, and_true,
        Set.mem_insert_iff]
      exact or_comm
    · intro path apart
      ext other
      simp only [IndexDb.openCodes, Set.mem_ofPred_eq, IndexDb.recorded_open, apart, and_false,
        or_false]
  · cases recorded

theorem resolveIndexIssue_sets (formed : db.IssuesFormed) {code : IssueCode} {now : Time}
    {count : Nat} (ran : (resolveIndexIssue code rel now).run db = (.ok count, after)) :
    SetsIssues rel (· \ {code}) db after := by
  obtain ⟨count', resolved⟩ := resolveIndexIssue_run code rel now db
  rw [ran] at resolved
  split at resolved
  · cases resolved
    refine ⟨formed.resolved _ now, fun once => once.resolved _ now, ?_, ?_⟩
    · ext other
      simp only [IndexDb.openCodes, Set.mem_ofPred_eq, formed.resolved_issue, and_true,
        Set.mem_sdiff, Set.mem_singleton_iff]
    · intro path apart
      ext other
      simp only [IndexDb.openCodes, Set.mem_ofPred_eq, formed.resolved_issue, apart, and_false,
        not_false_eq_true, and_true]
  · cases resolved

/-- Issues of some codes of the reader. -/
def markdownCodes (codes : List MdCode) : Set IssueCode := {code | ∃ md ∈ codes, code = .markdown md}

theorem markdownCodes_cons (code : MdCode) (codes : List MdCode) :
    markdownCodes (code :: codes) = insert (.markdown code) (markdownCodes codes) := by
  ext other
  simp only [markdownCodes, Set.mem_ofPred_eq, Set.mem_insert_iff, List.mem_cons]
  constructor
  · rintro ⟨md, rfl | mem, same⟩
    · exact .inl same
    · exact .inr ⟨md, mem, same⟩
  · rintro (same | ⟨md, mem, same⟩)
    · exact ⟨code, .inl rfl, same⟩
    · exact ⟨md, .inr mem, same⟩

/-- The reader's codes but one, and the duplicate, are all codes but one. -/
theorem mem_otherCodes {code : MdCode} {other : IssueCode} :
    other ∈ markdownCodes (mdDiagnosticCodes.filter fun md => md ≠ code) ↔
      other ≠ .duplicateAnalysisId ∧ other ≠ .markdown code := by
  unfold markdownCodes
  cases other with
  | duplicateAnalysisId => simp
  | markdown md =>
    have listed : md ∈ mdDiagnosticCodes := by cases md <;> decide
    simp [listed]

theorem resolveCodes_sets {codes : List MdCode} {now : Time} (formed : db.IssuesFormed)
    (ran : (resolveCodes rel now codes).run db = (.ok (), after)) :
    SetsIssues rel (· \ markdownCodes codes) db after := by
  induction codes generalizing db with
  | nil =>
    cases ran
    refine ⟨formed, id, ?_, fun _ _ => rfl⟩
    simp [markdownCodes]
  | cons code codes ih =>
    obtain ⟨count, middle, one, ran⟩ := Script.bind_returned ran
    have sets := resolveIndexIssue_sets formed one
    have both := sets.trans (ih sets.formed ran)
    rw [markdownCodes_cons]
    refine ⟨both.formed, both.once, both.here.trans ?_, both.others⟩
    ext other
    simp only [Function.comp_apply, Set.mem_sdiff, Set.mem_singleton_iff, Set.mem_insert_iff, not_or,
      and_assoc]

/-- The codes of a file that parsed, duplicates aside. -/
def contentCodes (parsed : ParsedReport) : Set IssueCode :=
  {code | code = .markdown .emptyBody ∧ parsed.hasAnalysisContent = false}

theorem settleIssues_sets {parsed : ParsedReport} {now : Time} (formed : db.IssuesFormed)
    (ran : (settleIssues rel parsed now).run db = (.ok (), after)) :
    SetsIssues rel (fun _ => contentCodes parsed) db after := by
  have body : ∃ change middle, SetsIssues rel change db middle ∧
      (∀ codes, (IssueCode.markdown .emptyBody ∈ change codes ↔ parsed.hasAnalysisContent = false)) ∧
      (do
        resolveCodes rel now (mdDiagnosticCodes.filter fun code => code ≠ .emptyBody)
        let _ ← resolveIndexIssue .duplicateAnalysisId rel now
        return : IndexScript Unit).run middle = (.ok (), after) := by
    unfold settleIssues at ran
    split at ran
    next content =>
      obtain ⟨count, middle, one, ran⟩ := Script.bind_returned ran
      exact ⟨_, middle, resolveIndexIssue_sets formed one, by simp [content], ran⟩
    next empty =>
      obtain ⟨id, middle, one, ran⟩ := Script.bind_returned ran
      exact ⟨_, middle, recordIndexIssue_sets formed one, by simp [empty], ran⟩
  obtain ⟨change, middle, sets, isEmpty, ran⟩ := body
  obtain ⟨_, later, others, ran⟩ := Script.bind_returned ran
  obtain ⟨count, last, duplicate, ran⟩ := Script.bind_returned ran
  cases ran
  have cleared := resolveCodes_sets sets.formed others
  have all := (sets.trans cleared).trans (resolveIndexIssue_sets cleared.formed duplicate)
  refine ⟨all.formed, all.once, all.here.trans ?_, all.others⟩
  ext other
  simp only [Function.comp_apply, Set.mem_sdiff, Set.mem_singleton_iff, mem_otherCodes,
    contentCodes, Set.mem_ofPred_eq]
  constructor
  · rintro ⟨⟨mem, kept⟩, notDuplicate⟩
    have isBody : other = .markdown .emptyBody := by
      by_contra different
      exact kept ⟨notDuplicate, different⟩
    subst isBody
    exact ⟨rfl, (isEmpty _).1 mem⟩
  · rintro ⟨rfl, empty⟩
    exact ⟨⟨(isEmpty _).2 empty, fun both => both.2 rfl⟩, by simp⟩

/-! ## One file -/

/-- The codes a file leaves open on its path, where `before` was open. -/
def leavesOpen (result : FileResult) (loses : Prop) (before : Set IssueCode) : Set IssueCode :=
  match result with
  -- nothing is resolved on the path of a file that cannot be read
  | .unreadable => insert (.markdown .frontmatterInvalid) before
  -- and no duplicate on the path of one that does not parse
  | .rejected code => insert (.markdown code) (before ∩ {.duplicateAnalysisId})
  | .readable _ parsed => contentCodes parsed ∪ {code | code = .duplicateAnalysisId ∧ loses}

theorem upserted_sets (sets : SetsIssues rel first db middle) (entry : EntryColumns)
    (texts : FtsTexts) (now : Time) :
    SetsIssues rel first db (middle.upserted entry texts now) :=
  sets.of_issues (IndexDb.upserted_issues _ _ _ _).1 (IndexDb.upserted_nextIssueId _ _ _ _)

/-- An earlier file has claimed the analysis id of this one. -/
def Taken (progress : Progress) : FileResult → Prop
  | .readable _ parsed => (progress.claimOf parsed.analysisId).isSome = true
  | _ => False

theorem reconcileFile_sets {env : ReportEnv} {now : Time} {progress next : Progress}
    {outcome : FileOutcome} (wellFormed : db.WellFormed) (formed : db.IssuesFormed)
    (encodable : Encodable outcome.relPath)
    (ran : (reconcileFile env now progress outcome).run db = (.ok next, after)) :
    SetsIssues outcome.relPath (leavesOpen outcome.result (Taken progress outcome.result)) db
      after := by
  obtain ⟨rel, result⟩ := outcome
  unfold reconcileFile at ran
  cases result with
  | unreadable =>
    obtain ⟨id, middle, one, ran⟩ := Script.bind_returned ran
    cases ran
    exact recordIndexIssue_sets formed one
  | rejected code =>
    obtain ⟨id, middle, one, ran⟩ := Script.bind_returned ran
    obtain ⟨_, later, others, ran⟩ := Script.bind_returned ran
    cases ran
    have recorded := recordIndexIssue_sets formed one
    have both := recorded.trans (resolveCodes_sets recorded.formed others)
    refine ⟨both.formed, both.once, both.here.trans ?_, both.others⟩
    ext other
    simp only [Function.comp_apply, leavesOpen, Set.mem_sdiff, mem_otherCodes, Set.mem_insert_iff,
      Set.mem_inter_iff, Set.mem_singleton_iff]
    by_cases same : other = .markdown code
    · simp [same]
    · simp [same]
  | readable raw parsed =>
    unfold reconcileParsed at ran
    obtain ⟨_, middle, settled, ran⟩ := Script.bind_returned ran
    have sets := settleIssues_sets formed settled
    obtain ⟨other, again, touches, _⟩ := settleIssues_touches formed encodable parsed now
    have middleFormed : middle.WellFormed := by
      rw [settled] at again
      cases again
      exact touches.effect.same.wellFormed wellFormed
    cases claimed : progress.claimOf parsed.analysisId with
    | some winner =>
      have taken : (progress.scan rel).claimOf parsed.analysisId = some winner := claimed
      simp only [taken] at ran
      obtain ⟨id, later, recorded, ran⟩ := Script.bind_returned ran
      cases ran
      have both := sets.trans (recordIndexIssue_sets sets.formed recorded)
      refine ⟨both.formed, both.once, both.here.trans ?_, both.others⟩
      ext other
      simp [leavesOpen, Taken, claimed]
    | none =>
      have free : (progress.scan rel).claimOf parsed.analysisId = none := claimed
      simp only [free] at ran
      have settledHere : SetsIssues rel (leavesOpen (.readable raw parsed)
          (Taken progress (.readable raw parsed))) db middle := by
        refine ⟨sets.formed, sets.once, sets.here.trans ?_, sets.others⟩
        ext other
        simp [leavesOpen, Taken, claimed]
      obtain ⟨doc, later, looked, decided⟩ := Script.bind_returned ran
      have unread : later = middle := by
        have selected := selectDocument_run parsed.analysisId middle
        rw [show (selectDocument parsed.analysisId).run middle = _ from looked] at selected
        split at selected <;> cases selected
        rfl
      rw [unread] at decided
      split at decided
      next =>
        cases decided
        exact settledHere
      next =>
        obtain ⟨id, last, indexed, done⟩ := Script.bind_returned decided
        cases done
        have stored := @indexReport_run env.unicode middle middleFormed
          (rescanColumns env rel raw parsed) (bodyTexts parsed) now
        by_cases indexable : Indexable env rel raw parsed
        · have returned := stored.1 indexable
          rw [show (indexReport env.unicode (rescanColumns env rel raw parsed) (bodyTexts parsed)
            now).run middle = _ from indexed] at returned
          cases returned
          exact upserted_sets settledHere _ _ _
        · obtain ⟨raised, other, error⟩ := stored.2 indexable
          rw [show (indexReport env.unicode (rescanColumns env rel raw parsed) (bodyTexts parsed)
            now).run middle = _ from indexed] at error
          cases error

/-! ## The files of a run -/

/-- Another file carries the analysis id of this one first. -/
def Loses (outcomes : List FileOutcome) (outcome : FileOutcome) : Prop :=
  match outcome.result with
  | .readable _ parsed => winnerOf outcomes parsed.analysisId ≠ some outcome
  | _ => False

/-- The issues once the files `outcomes` are reconciled. -/
structure OpensKept (before : IndexDb) (outcomes : List FileOutcome) (db : IndexDb) : Prop where
  once : before.OpenOnce → db.OpenOnce
  files : ∀ outcome ∈ outcomes, db.openCodes outcome.relPath =
    leavesOpen outcome.result (Loses outcomes outcome) (before.openCodes outcome.relPath)
  elsewhere : ∀ path, path ∉ outcomes.map (·.relPath) → db.openCodes path = before.openCodes path

theorem opensKept_nil (before : IndexDb) : OpensKept before [] before :=
  ⟨id, fun _ mem => (nomatch mem), fun _ _ => rfl⟩

theorem OpensKept.of_issues {before : IndexDb} {outcomes : List FileOutcome}
    (opens : OpensKept before outcomes db) (issues : after.issues = db.issues) :
    OpensKept before outcomes after where
  once := by
    intro once code path
    rw [issues]
    exact opens.once once code path
  files := by
    intro outcome mem
    rw [← opens.files outcome mem]
    simp only [IndexDb.openCodes, IndexDb.HasOpen, issues]
  elsewhere := by
    intro path apart
    rw [← opens.elsewhere path apart]
    simp only [IndexDb.openCodes, IndexDb.HasOpen, issues]

theorem loses_concat {outcomes : List FileOutcome} {earlier : FileOutcome} (mem : earlier ∈ outcomes)
    (outcome : FileOutcome) : Loses (outcomes ++ [outcome]) earlier ↔ Loses outcomes earlier := by
  obtain ⟨rel, result⟩ := earlier
  cases result with
  | unreadable => rfl
  | rejected code => rfl
  | readable raw parsed =>
    obtain ⟨winner, won⟩ := winnerOf_isSome mem ((carries_readable rel raw parsed _).2 rfl)
    unfold Loses
    simp only [won, winnerOf_concat_of_some won outcome]

theorem taken_iff_loses {outcomes : List FileOutcome} {progress : Progress} {outcome : FileOutcome}
    (claims : ∀ jobId, progress.claimOf jobId = none ↔ winnerOf outcomes jobId = none)
    (apart : outcome.relPath ∉ outcomes.map (·.relPath)) :
    Taken progress outcome.result ↔ Loses (outcomes ++ [outcome]) outcome := by
  obtain ⟨rel, result⟩ := outcome
  cases result with
  | unreadable => rfl
  | rejected code => rfl
  | readable raw parsed =>
    unfold Taken Loses
    simp only
    have first := claims parsed.analysisId
    have own := (carries_readable rel raw parsed parsed.analysisId).2 rfl
    rw [winnerOf_concat, own, if_pos rfl]
    cases won : winnerOf outcomes parsed.analysisId with
    | none =>
      rw [first.2 won]
      simp
    | some winner =>
      have taken : progress.claimOf parsed.analysisId ≠ none := by
        rw [Ne, first, won]
        simp
      have other : winner ≠ ⟨rel, .readable raw parsed⟩ := by
        rintro rfl
        exact apart (List.mem_map_of_mem (winnerOf_mem won).1)
      simp [Option.isSome_iff_ne_none, taken, other]

theorem OpensKept.file {env : ReportEnv} {before : IndexDb} {outcomes : List FileOutcome}
    {progress next : Progress} {outcome : FileOutcome} {now : Time}
    (opens : OpensKept before outcomes db) (kept : Reconciled env before outcomes progress db)
    (apart : outcome.relPath ∉ outcomes.map (·.relPath)) (encodable : Encodable outcome.relPath)
    (ran : (reconcileFile env now progress outcome).run db = (.ok next, after)) :
    OpensKept before (outcomes ++ [outcome]) after := by
  have sets := reconcileFile_sets kept.formed kept.issues encodable ran
  refine ⟨sets.once ∘ opens.once, ?_, ?_⟩
  · intro other mem
    rcases List.mem_append.1 mem with earlier | new
    · have elsewhere : other.relPath ≠ outcome.relPath := by
        intro same
        exact apart (same ▸ List.mem_map_of_mem earlier)
      rw [sets.others _ elsewhere, opens.files other earlier]
      simp only [loses_concat earlier]
    · rw [List.mem_singleton.1 new, sets.here, opens.elsewhere _ apart]
      simp only [taken_iff_loses kept.first_iff apart]
  · intro path away
    simp only [List.map_append, List.map_cons, List.map_nil, List.mem_append, List.mem_singleton,
      not_or] at away
    rw [sets.others path away.2, opens.elsewhere path away.1]

theorem OpensKept.files_returned {env : ReportEnv} {before : IndexDb}
    {outcomes left : List FileOutcome} {progress next : Progress} {now : Time}
    (opens : OpensKept before outcomes db) (kept : Reconciled env before outcomes progress db)
    (distinct : ((outcomes ++ left).map (·.relPath)).Nodup)
    (ran : (reconcileFiles env now progress left).run db = (.ok next, after)) :
    OpensKept before (outcomes ++ left) after := by
  induction left generalizing outcomes progress db with
  | nil =>
    rw [List.append_nil]
    cases ran
    exact opens
  | cons outcome rest ih =>
    unfold reconcileFiles at ran
    obtain ⟨middle, middleDb, first, ran⟩ := Script.bind_returned ran
    have apart := Reconciled.apart_of_nodup distinct
    have same : outcomes ++ outcome :: rest = (outcomes ++ [outcome]) ++ rest := by simp
    rcases kept.file apart now with ⟨_, next', after', returned, stepped⟩ |
      ⟨_, raised, after', error⟩
    · rw [first] at returned
      cases returned
      have encodable := stepped.encodable outcome (by simp)
      have opened := opens.file kept apart encodable first
      rw [same] at distinct ⊢
      exact ih opened stepped distinct ran
    · rw [first] at error
      cases error

/-! ## A run -/

/-- The absence pass closes what is open on paths that were not scanned. -/
theorem markAbsent_opens {env : ReportEnv} {progress : Progress} {purge : Bool} {now : Time}
    {counters : Counters} (formed : db.WellFormed)
    (ran : (markAbsent env progress purge now).run db = (.ok counters, after)) :
    (db.OpenOnce → after.OpenOnce) ∧
      ∀ path, after.openCodes path = {code | path ∈ progress.scanned ∧ code ∈ db.openCodes path} := by
  obtain ⟨paths, same, listed, ran⟩ := Script.bind_returned ran
  obtain ⟨counted, marked, all, ran⟩ := Script.bind_returned ran
  obtain ⟨count, swept, closed, done⟩ := Script.bind_returned ran
  cases done
  obtain ⟨paths', listed', perm⟩ := listDocumentPaths_run db
  rw [listed] at listed'
  cases listed'
  obtain ⟨distinct, stored⟩ := storedAt_of_perm formed perm
  obtain ⟨_, marked', all', _, keeps, _⟩ :=
    markAll_run formed progress purge now distinct stored progress.counters
  rw [all] at all'
  cases all'
  have resolved := resolveIssuesForAbsentPaths_returned closed
  subst resolved
  have onceMarked : db.OpenOnce → marked.OpenOnce := by
    intro once code path
    rw [keeps.issues]
    exact once code path
  refine ⟨fun once => (onceMarked once).resolved _ now, fun path => ?_⟩
  ext code
  refine IndexDb.resolved_open.trans ?_
  rw [keeps.issues]
  change _ ↔ path ∈ progress.scanned ∧ ∃ row ∈ db.issues, row.isOpen code path = true
  constructor
  · rintro ⟨row, mem, isOpen, kept⟩
    have parts := isOpen
    simp only [IssueRow.isOpen, Bool.and_eq_true, decide_eq_true_eq] at parts
    simp only [sweeps, parts.2, parts.1.2, Bool.true_and, Bool.not_eq_false',
      List.contains_iff_mem] at kept
    exact ⟨kept, row, mem, isOpen⟩
  · rintro ⟨scanned, row, mem, isOpen⟩
    have parts := isOpen
    simp only [IssueRow.isOpen, Bool.and_eq_true, decide_eq_true_eq] at parts
    exact ⟨row, mem, isOpen, by simp [sweeps, parts.1.2, scanned]⟩

/-- The codes open on a path after a run. -/
def openAfter (env : ReportEnv) (disk : Disk) (before : IndexDb) (path : Text) : Set IssueCode :=
  {code | path ∈ collect env.unicode disk.dir ∧
    code ∈ leavesOpen (outcomeOf env disk path).result
      (Loses (runOutcomes env disk) (outcomeOf env disk path)) (before.openCodes path)}

/-- The issues in each phase of an undisturbed run. -/
def OpensUnderway (env : ReportEnv) (disk : Disk) (before : IndexDb) : RunPhase × IndexDb → Prop
  | (.begin, _) | (.parking _, _) | (.failed _, _) => True
  | (.collect, db) => OpensKept before [] db
  | (.scan progress _, db) | (.reconcile progress _ _, db) | (.recheck progress, db)
  | (.absence progress, db) =>
    OpensKept before (progress.scanned.map (outcomeOf env disk)) db
  | (.verify _, db) | (.finish _ _, db) | (.done _ _, db) =>
    (before.OpenOnce → db.OpenOnce) ∧ ∀ path, db.openCodes path = openAfter env disk before path

variable {env : ReportEnv} {purge : Bool} {disk : Disk} {before : IndexDb}

theorem opensUnderway_step (now : Time) (state : RunPhase × IndexDb)
    (underway : Underway env purge disk before state)
    (opens : OpensUnderway env disk before state) :
    OpensUnderway env disk before (phaseStep env purge now disk state.2 state.1) := by
  obtain ⟨phase, db⟩ := state
  cases phase with
  | begin =>
    obtain rfl : db = before := underway
    simp only [phaseStep]
    split
    · exact (opensKept_nil db).of_issues rfl
    · trivial
  | collect => exact opens
  | scan progress left =>
    cases left with
    | nil => exact opens
    | cons rels left =>
      simp only [phaseStep]
      cases scanFiles env disk rels with
      | error raised => trivial
      | ok outcomes => exact opens
  | reconcile progress outcomes left =>
    obtain ⟨paths, next, split, rfl, scans, kept⟩ := underway
    simp only [phaseStep]
    split
    next => trivial
    next after ran =>
      have returned := Script.transaction_returned.1 ran
      have opened : OpensKept before (progress.scanned.map (outcomeOf env disk)) db := opens
      rw [kept.scanned_eq] at opened
      have reconciled := kept.kept.files_returned now (distinct_front split) returned
      have more := opened.files_returned kept.kept (distinct_front split) returned
      have scanned := reconciled.scanned
      rw [← List.map_append] at more scanned
      rw [map_outcomeOf_relPath] at scanned
      unfold OpensUnderway
      dsimp only
      rw [scanned]
      exact more
  | recheck progress =>
    simp only [phaseStep]
    split
    · exact opens
    · trivial
  | absence progress =>
    simp only [phaseStep]
    split
    next => trivial
    next counted after ran =>
      rw [Script.transaction_returned] at ran
      have opened : OpensKept before (progress.scanned.map (outcomeOf env disk)) db := opens
      obtain ⟨once, swept⟩ := markAbsent_opens underway.kept.formed ran
      rw [underway.scanned_eq] at opened swept
      refine ⟨once ∘ opened.once, fun path => ?_⟩
      rw [swept]
      ext code
      refine and_congr_right fun mem => ?_
      have here := opened.files (outcomeOf env disk path) (List.mem_map_of_mem mem)
      rw [outcomeOf_relPath] at here
      rw [here]
      rfl
  | verify counters => exact opens
  | finish counters consistent => exact opens
  | parking raised => trivial
  | done counters consistent => exact opens
  | failed raised => trivial

/-- A run that is done has applied each file's function once. -/
theorem opens_after_run (formed : before.WellFormed) (issues : before.IssuesFormed)
    {nows : List Time} {counters : Counters} {consistent : Bool} {after : IndexDb}
    (ran : undisturbed env purge disk before nows = (.done counters consistent, after)) :
    (before.OpenOnce → after.OpenOnce) ∧
      ∀ path, after.openCodes path = openAfter env disk before path := by
  have begins : Underway env purge disk before (.begin, before) ∧
      OpensUnderway env disk before (.begin, before) := ⟨rfl, trivial⟩
  have both := run_invariant
    (fun state now (kept : Underway env purge disk before state ∧
        OpensUnderway env disk before state) =>
      And.intro (underway_step formed issues now state kept.1)
        (opensUnderway_step now state kept.1 kept.2)) begins nows
  have ended := both.2
  unfold undisturbed at ran
  rw [ran] at ended
  exact ended

end EvoBlue.Source
