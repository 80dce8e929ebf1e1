import EvoBlue.Source.IssueEffects
import EvoBlue.Source.Rebuild

/-!
# What a batch of the rescan does

Each file of a batch is rejected, loses its analysis id to an earlier file, or wins
it. Only a winner touches documents: it finds its document unchanged, or indexes it.
Everything else a file does is to the issues on its own path.
-/

namespace EvoBlue.Source

open EvoBlue.Kernel

/-! ## Issues of one path -/

/-- What may happen to the database while the issues of `rel` are written. -/
structure TouchesIssues (rel : Text) (db after : IndexDb) : Prop where
  effect : IssueEffect db after
  formed : after.IssuesFormed
  others : ∀ code path, path ≠ rel → (after.HasOpen code path ↔ db.HasOpen code path)

theorem TouchesIssues.trans {rel : Text} {db middle after : IndexDb}
    (first : TouchesIssues rel db middle) (last : TouchesIssues rel middle after) :
    TouchesIssues rel db after where
  effect := first.effect.trans last.effect
  formed := last.formed
  others := fun code path apart => (last.others code path apart).trans (first.others code path apart)

theorem recordIndexIssue_touches {db : IndexDb} (formed : db.IssuesFormed) {rel : Text}
    (encodable : Encodable rel) (code : IssueCode) (now : Time) :
    ∃ id after, (recordIndexIssue code rel now).run db = (.ok id, after) ∧
      TouchesIssues rel db after ∧
      ∀ other, after.HasOpen other rel ↔ db.HasOpen other rel ∨ other = code := by
  obtain ⟨id, ran⟩ := recordIndexIssue_run code rel now db
  rw [if_pos encodable] at ran
  refine ⟨id, _, ran, ⟨db.recorded_effect code rel now, formed.recorded code rel now, ?_⟩, ?_⟩
  · intro other path apart
    rw [IndexDb.recorded_open]
    simp [apart]
  · intro other
    rw [IndexDb.recorded_open]
    simp

theorem resolveIndexIssue_touches {db : IndexDb} (formed : db.IssuesFormed) {rel : Text}
    (encodable : Encodable rel) (code : IssueCode) (now : Time) :
    ∃ count after, (resolveIndexIssue code rel now).run db = (.ok count, after) ∧
      TouchesIssues rel db after ∧
      ∀ other, after.HasOpen other rel ↔ db.HasOpen other rel ∧ other ≠ code := by
  obtain ⟨count, ran⟩ := resolveIndexIssue_run code rel now db
  rw [if_pos encodable] at ran
  refine ⟨count, _, ran, ⟨db.resolved_effect _ now, formed.resolved _ now, ?_⟩, ?_⟩
  · intro other path apart
    rw [formed.resolved_issue]
    simp [apart]
  · intro other
    rw [formed.resolved_issue]
    simp

theorem resolveCodes_touches {rel : Text} (encodable : Encodable rel) (now : Time)
    (codes : List MdCode) {db : IndexDb} (formed : db.IssuesFormed) :
    ∃ after, (resolveCodes rel now codes).run db = (.ok (), after) ∧
      TouchesIssues rel db after ∧
      ∀ code, (∀ other ∈ codes, code ≠ .markdown other) →
        (after.HasOpen code rel ↔ db.HasOpen code rel) := by
  induction codes generalizing db with
  | nil => exact ⟨db, rfl, ⟨.rfl, formed, fun _ _ _ => Iff.rfl⟩, fun _ _ => Iff.rfl⟩
  | cons first codes ih =>
    obtain ⟨count, middle, ran, touches, closed⟩ :=
      resolveIndexIssue_touches formed encodable (.markdown first) now
    obtain ⟨after, rest, restTouches, kept⟩ := ih touches.formed
    refine ⟨after, (Script.bind_of_ok ran _).trans rest, touches.trans restTouches, ?_⟩
    intro code apart
    rw [kept code fun other mem => apart other (List.mem_cons_of_mem _ mem), closed]
    simp [apart first]

theorem settleIssues_touches {db : IndexDb} (formed : db.IssuesFormed) {rel : Text}
    (encodable : Encodable rel) (parsed : ParsedReport) (now : Time) :
    ∃ after, (settleIssues rel parsed now).run db = (.ok (), after) ∧
      TouchesIssues rel db after ∧ ¬ after.HasOpen .duplicateAnalysisId rel := by
  have begins : ∃ middle, TouchesIssues rel db middle ∧
      (settleIssues rel parsed now).run db = (do
        resolveCodes rel now (mdDiagnosticCodes.filter fun code => code ≠ .emptyBody)
        let _ ← resolveIndexIssue .duplicateAnalysisId rel now
        return : IndexScript Unit).run middle := by
    unfold settleIssues
    split
    next =>
      obtain ⟨count, middle, ran, touches, _⟩ :=
        resolveIndexIssue_touches formed encodable (.markdown .emptyBody) now
      exact ⟨middle, touches, Script.bind_of_ok ran _⟩
    next =>
      obtain ⟨id, middle, ran, touches, _⟩ :=
        recordIndexIssue_touches formed encodable (.markdown .emptyBody) now
      exact ⟨middle, touches, Script.bind_of_ok ran _⟩
  obtain ⟨middle, touches, ran⟩ := begins
  obtain ⟨later, resolved, laterTouches, _⟩ := resolveCodes_touches encodable now
    (mdDiagnosticCodes.filter fun code => code ≠ .emptyBody) touches.formed
  obtain ⟨count, after, closed, closedTouches, open_iff⟩ :=
    resolveIndexIssue_touches laterTouches.formed encodable .duplicateAnalysisId now
  refine ⟨after, ?_, (touches.trans laterTouches).trans closedTouches, ?_⟩
  · rw [ran, Script.bind_of_ok resolved, Script.bind_of_ok closed]
    rfl
  · rw [open_iff]
    simp

/-! ## One file -/

/-- The document is stored, active, at this path and with this hash. -/
def Unchanged (db : IndexDb) (jobId rel contentHash : Text) : Prop :=
  ∃ seen, db.view jobId = some seen ∧ seen.columns.relativePath = rel ∧
    seen.columns.contentHash = contentHash ∧ seen.docStatus = .active

/-- The columns the rescan gives a file. -/
def rescanColumns (env : ReportEnv) (rel : Text) (raw : Bytes) (parsed : ParsedReport) :
    EntryColumns :=
  indexColumns parsed parsed.analysisId rel (env.sha256 raw) (some raw.length) .rebuild

/-- The index texts of a file. -/
def rescanTexts (env : ReportEnv) (rel : Text) (raw : Bytes) (parsed : ParsedReport) : FtsTexts :=
  ftsRowValues env.unicode (rescanColumns env rel raw parsed) (bodyTexts parsed)

/-- Every text the statements of an upsert bind can be encoded. -/
def Bindable (unicode : UnicodeData) (columns : EntryColumns) (body : FtsBodyTexts) : Prop :=
  ∀ t ∈ entryTexts columns ++ ftsTexts (ftsRowValues unicode columns body), Encodable t

/-- The entry passes its checks, and what it binds can be encoded. -/
def Indexable (env : ReportEnv) (rel : Text) (raw : Bytes) (parsed : ParsedReport) : Prop :=
  (rescanColumns env rel raw parsed).accepted env.unicode = true ∧
    Bindable env.unicode (rescanColumns env rel raw parsed) (bodyTexts parsed)

theorem unchanged_iff {db : IndexDb} {jobId rel contentHash : Text} :
    ((db.findDocument jobId).map fun row => row.relativePath = rel &&
      row.contentHash = contentHash && row.docStatus = .active) = some true ↔
      Unchanged db jobId rel contentHash := by
  unfold Unchanged IndexDb.view
  cases db.findDocument jobId with
  | none => simp
  | some row => simp [and_assoc]

theorem TouchesIssues.unchanged {rel : Text} {db after : IndexDb}
    (touches : TouchesIssues rel db after) {jobId other contentHash : Text} :
    Unchanged after jobId other contentHash ↔ Unchanged db jobId other contentHash := by
  unfold Unchanged
  simp only [touches.effect.same.view]

/-- A stored document has an id that can be encoded. -/
theorem Unchanged.encodable {db : IndexDb} (formed : db.WellFormed) {jobId rel contentHash : Text}
    (unchanged : Unchanged db jobId rel contentHash) : Encodable jobId := by
  obtain ⟨seen, known, _⟩ := unchanged
  obtain ⟨row, found, _⟩ := Option.map_eq_some_iff.1 known
  obtain ⟨mem, rfl⟩ := IndexDb.findDocument_spec found
  exact formed.stored row mem row.jobId (by simp [entryTexts])

theorem buildEntry_run (unicode : UnicodeData) (columns : EntryColumns) (db : IndexDb) :
    if checked : columns.accepted unicode = true then
      (buildEntry unicode columns).run db = (.ok { columns with checked }, db)
    else (buildEntry unicode columns).run db = (.error .valueError, db) := by
  unfold buildEntry
  split <;> rfl

/-- A report is indexed when its entry passes the checks and can be bound. -/
theorem indexReport_run {unicode : UnicodeData} {db : IndexDb} (formed : db.WellFormed)
    (columns : EntryColumns) (body : FtsBodyTexts) (now : Time) :
    (columns.accepted unicode = true ∧ Bindable unicode columns body →
      (indexReport unicode columns body now).run db =
        (.ok (db.documentId columns.jobId),
          db.upserted columns (ftsRowValues unicode columns body) now)) ∧
    (¬ (columns.accepted unicode = true ∧ Bindable unicode columns body) →
      ∃ raised after, (indexReport unicode columns body now).run db = (.error raised, after)) := by
  have built := buildEntry_run unicode columns db
  unfold indexReport
  split at built
  next checked =>
    have stored := upsertReportDocument_run formed (⟨columns, checked⟩ : ReportIndexEntry unicode)
      body now
    rw [Script.bind_of_ok built, stored]
    constructor
    · intro indexable
      exact if_pos indexable.2
    · intro refused
      exact ⟨_, _, if_neg fun bound => refused ⟨checked, bound⟩⟩
  next unchecked =>
    refine ⟨fun indexable => absurd indexable.1 unchecked, fun _ => ?_⟩
    rw [Script.bind_of_error built]
    exact ⟨_, _, rfl⟩

/-- A parsed file whose analysis id is claimed loses. -/
theorem reconcileParsed_loser {env : ReportEnv} {db : IndexDb} (issues : db.IssuesFormed)
    (now : Time) {progress : Progress} {rel : Text} (encodable : Encodable rel) (raw : Bytes)
    {parsed : ParsedReport} {winner : Claim} (claimed : progress.claimOf parsed.analysisId = some winner) :
    ∃ after, (reconcileParsed env now progress rel raw parsed).run db =
        (.ok progress.duplicate, after) ∧
      TouchesIssues rel db after ∧ after.HasOpen .duplicateAnalysisId rel := by
  obtain ⟨middle, settled, touches, _⟩ := settleIssues_touches issues encodable parsed now
  obtain ⟨id, after, recorded, laterTouches, open_iff⟩ :=
    recordIndexIssue_touches touches.formed encodable .duplicateAnalysisId now
  refine ⟨after, ?_, touches.trans laterTouches, (open_iff _).2 (.inr rfl)⟩
  unfold reconcileParsed
  rw [Script.bind_of_ok settled]
  simp only [claimed]
  rw [Script.bind_of_ok recorded]
  rfl

/-- The claim of a winner. -/
def claimFor (env : ReportEnv) (rel : Text) (raw : Bytes) (parsed : ParsedReport) : Claim :=
  ⟨parsed.analysisId, rel, parsed.analyzedAt.timestamp, env.sha256 raw⟩

/-- The first parsed file of its analysis id wins: its document is unchanged or indexed. -/
theorem reconcileParsed_winner {env : ReportEnv} {db : IndexDb} (formed : db.WellFormed)
    (issues : db.IssuesFormed) (now : Time) {progress : Progress} {rel : Text}
    (encodable : Encodable rel) (raw : Bytes) {parsed : ParsedReport}
    (unclaimed : progress.claimOf parsed.analysisId = none) :
    ∃ middle, TouchesIssues rel db middle ∧ ¬ middle.HasOpen .duplicateAnalysisId rel ∧
      (Unchanged db parsed.analysisId rel (env.sha256 raw) →
        (reconcileParsed env now progress rel raw parsed).run db =
          (.ok (progress.claim (claimFor env rel raw parsed)).unchanged, middle)) ∧
      (¬ Unchanged db parsed.analysisId rel (env.sha256 raw) → Indexable env rel raw parsed →
        (reconcileParsed env now progress rel raw parsed).run db =
          (.ok (progress.claim (claimFor env rel raw parsed)).indexed,
            middle.upserted (rescanColumns env rel raw parsed)
              (rescanTexts env rel raw parsed) now)) ∧
      (¬ Unchanged db parsed.analysisId rel (env.sha256 raw) → ¬ Indexable env rel raw parsed →
        ∃ raised after,
          (reconcileParsed env now progress rel raw parsed).run db = (.error raised, after)) := by
  obtain ⟨middle, settled, touches, closed⟩ := settleIssues_touches issues encodable parsed now
  have middleFormed := touches.effect.same.wellFormed formed
  have indexed := @indexReport_run env.unicode middle middleFormed
    (rescanColumns env rel raw parsed) (bodyTexts parsed) now
  refine ⟨middle, touches, closed, ?_⟩
  rw [← touches.unchanged]
  by_cases known : Encodable parsed.analysisId
  · have looked : (getReportDocument parsed.analysisId).run middle =
        (.ok (middle.findDocument parsed.analysisId), middle) := by
      unfold getReportDocument
      rw [selectDocument_run, if_pos known]
    unfold reconcileParsed
    rw [Script.bind_of_ok settled]
    simp only [unclaimed]
    rw [Script.bind_of_ok looked]
    refine ⟨fun unchanged => ?_, fun changed indexable => ?_, fun changed unindexable => ?_⟩
    · rw [if_pos (unchanged_iff.2 unchanged)]
      rfl
    · rw [if_neg fun same => changed (unchanged_iff.1 same)]
      exact Script.bind_of_ok (indexed.1 indexable) _
    · rw [if_neg fun same => changed (unchanged_iff.1 same)]
      obtain ⟨raised, after, error⟩ := indexed.2 unindexable
      exact ⟨raised, after, Script.bind_of_error error _⟩
  · refine ⟨fun unchanged => absurd (unchanged.encodable middleFormed) known,
      fun _ indexable => absurd (indexable.2 parsed.analysisId ?_) known, fun _ _ => ?_⟩
    · exact List.mem_append_left _ (by simp [entryTexts, rescanColumns, indexColumns])
    · have looked : (getReportDocument parsed.analysisId).run middle =
          (.error .unicodeEncodeError, middle) := by
        unfold getReportDocument
        rw [selectDocument_run, if_neg known]
      unfold reconcileParsed
      rw [Script.bind_of_ok settled]
      simp only [unclaimed]
      rw [Script.bind_of_error looked]
      exact ⟨_, _, rfl⟩

theorem recordIndexIssue_raises {rel : Text} (unencodable : ¬ Encodable rel) (code : IssueCode)
    (now : Time) (db : IndexDb) :
    (recordIndexIssue code rel now).run db = (.error .unicodeEncodeError, db) := by
  obtain ⟨id, ran⟩ := recordIndexIssue_run code rel now db
  rw [ran, if_neg unencodable]

/-- A path that cannot be encoded ends the batch. -/
theorem reconcileFile_raises (env : ReportEnv) (now : Time) (progress : Progress)
    {outcome : FileOutcome} (unencodable : ¬ Encodable outcome.relPath) (db : IndexDb) :
    ∃ raised after, (reconcileFile env now progress outcome).run db = (.error raised, after) := by
  have records := fun code => recordIndexIssue_raises unencodable code now db
  unfold reconcileFile
  split
  next => exact ⟨_, _, Script.bind_of_error (records _) _⟩
  next => exact ⟨_, _, Script.bind_of_error (records _) _⟩
  next raw parsed _ =>
    have settling : (settleIssues outcome.relPath parsed now).run db =
        (.error .unicodeEncodeError, db) := by
      unfold settleIssues
      split
      next =>
        obtain ⟨count, ran⟩ :=
          resolveIndexIssue_run (.markdown .emptyBody) outcome.relPath now db
        rw [if_neg unencodable] at ran
        exact Script.bind_of_error ran _
      next => exact Script.bind_of_error (records _) _
    exact ⟨_, _, Script.bind_of_error settling _⟩

/-- A file that could not be read, or that the reader rejected, opens its own issue. -/
theorem reconcileFile_quarantined (env : ReportEnv) (now : Time) (progress : Progress) {rel : Text}
    (encodable : Encodable rel) {db : IndexDb} (issues : db.IssuesFormed) {result : FileResult}
    {code : MdCode} (bad : result = .rejected code ∨
      (result = .unreadable ∧ code = .frontmatterInvalid)) :
    ∃ after, (reconcileFile env now progress ⟨rel, result⟩).run db =
        (.ok (progress.scan rel).quarantine, after) ∧
      TouchesIssues rel db after ∧ after.HasOpen (.markdown code) rel := by
  obtain ⟨id, middle, recorded, touches, open_iff⟩ :=
    recordIndexIssue_touches issues encodable (.markdown code) now
  have opened : middle.HasOpen (.markdown code) rel := (open_iff _).2 (.inr rfl)
  rcases bad with rfl | ⟨rfl, rfl⟩
  · obtain ⟨after, resolved, laterTouches, kept⟩ := resolveCodes_touches encodable now
      (mdDiagnosticCodes.filter fun other => other ≠ code) touches.formed
    refine ⟨after, ?_, touches.trans laterTouches, (kept _ ?_).2 opened⟩
    · unfold reconcileFile
      simp only
      rw [Script.bind_of_ok recorded, Script.bind_of_ok resolved]
      rfl
    · intro other mem same
      cases same
      simp at mem
  · refine ⟨middle, ?_, touches, opened⟩
    unfold reconcileFile
    simp only
    rw [Script.bind_of_ok recorded]
    rfl

/-! ## Any file, any progress -/

/-- What reconciling one file does, whatever was reconciled before: a file that does
not win leaves the documents alone, and a winner claims its id and keeps or stores
its document. -/
inductive FileEffect (env : ReportEnv) (progress next : Progress) (outcome : FileOutcome)
    (db after : IndexDb) : Prop where
  | quiet (claims : next.claims = progress.claims) (same : db.SameIndex after)
      (taken : ∀ raw parsed, outcome.result = .readable raw parsed →
        (progress.claimOf parsed.analysisId).isSome = true)
  | kept (raw : Bytes) (parsed : ParsedReport) (read : outcome.result = .readable raw parsed)
      (free : progress.claimOf parsed.analysisId = none)
      (claims : next.claims =
        progress.claims ++ [claimFor env outcome.relPath raw parsed])
      (same : db.SameIndex after)
      (unchanged : Unchanged db parsed.analysisId outcome.relPath (env.sha256 raw))
  | stored (raw : Bytes) (parsed : ParsedReport) (read : outcome.result = .readable raw parsed)
      (free : progress.claimOf parsed.analysisId = none)
      (claims : next.claims =
        progress.claims ++ [claimFor env outcome.relPath raw parsed])
      (indexable : Indexable env outcome.relPath raw parsed)
      (views : ∀ jobId, after.view jobId = if jobId = parsed.analysisId then
        some ⟨rescanColumns env outcome.relPath raw parsed, .active,
          [rescanTexts env outcome.relPath raw parsed]⟩ else db.view jobId)

theorem upserted_hasOpen (db : IndexDb) (entry : EntryColumns) (texts : FtsTexts) (now : Time)
    (code : IssueCode) (path : Text) :
    (db.upserted entry texts now).HasOpen code path ↔ db.HasOpen code path := by
  unfold IndexDb.HasOpen
  rw [(IndexDb.upserted_issues db entry texts now).1]

/-- What a winner's upsert leaves. -/
theorem upserted_winner {env : ReportEnv} {db : IndexDb} (formed : db.WellFormed)
    (issues : db.IssuesFormed) (now : Time) {rel : Text} {raw : Bytes} {parsed : ParsedReport}
    (indexable : Indexable env rel raw parsed) :
    let after := db.upserted (rescanColumns env rel raw parsed) (rescanTexts env rel raw parsed) now
    after.WellFormed ∧ after.IssuesFormed ∧
      ∀ jobId, after.view jobId = if jobId = parsed.analysisId then
        some ⟨rescanColumns env rel raw parsed, .active, [rescanTexts env rel raw parsed]⟩
        else db.view jobId := by
  have named := EntryColumns.accepted_named indexable.1
  exact ⟨formed.upserted named indexable.2 now,
    issues.of_issues (IndexDb.upserted_issues _ _ _ _).1 (IndexDb.upserted_nextIssueId _ _ _ _),
    formed.view_upserted named _ now⟩

theorem reconcileFile_effect {env : ReportEnv} {db after : IndexDb} (formed : db.WellFormed)
    (issues : db.IssuesFormed) {now : Time} {progress next : Progress} {outcome : FileOutcome}
    (ran : (reconcileFile env now progress outcome).run db = (.ok next, after)) :
    after.WellFormed ∧ after.IssuesFormed ∧ FileEffect env progress next outcome db after := by
  have encodable : Encodable outcome.relPath := by
    by_contra unencodable
    obtain ⟨raised, middle, error⟩ := reconcileFile_raises env now progress unencodable db
    rw [ran] at error
    cases error
  obtain ⟨rel, result⟩ := outcome
  have quarantines : ∀ code, (result = .rejected code ∨
      (result = .unreadable ∧ code = .frontmatterInvalid)) →
      after.WellFormed ∧ after.IssuesFormed ∧
        FileEffect env progress next ⟨rel, result⟩ db after := by
    intro code bad
    obtain ⟨middle, returned, touches, _⟩ :=
      reconcileFile_quarantined env now progress encodable issues bad
    rw [ran] at returned
    cases returned
    refine ⟨touches.effect.same.wellFormed formed, touches.formed,
      .quiet rfl touches.effect.same ?_⟩
    rintro raw parsed rfl
    rcases bad with rejected | ⟨unreadable, _⟩
    · cases rejected
    · cases unreadable
  cases result with
  | unreadable => exact quarantines .frontmatterInvalid (.inr ⟨rfl, rfl⟩)
  | rejected code => exact quarantines code (.inl rfl)
  | readable raw parsed =>
    cases claimed : (progress.scan rel).claimOf parsed.analysisId with
    | some winner =>
      obtain ⟨middle, returned, touches, _⟩ :=
        @reconcileParsed_loser env db issues now (progress.scan rel) rel encodable raw parsed winner
          claimed
      rw [show (reconcileParsed env now (progress.scan rel) rel raw parsed).run db = _ from ran]
        at returned
      cases returned
      refine ⟨touches.effect.same.wellFormed formed, touches.formed,
        .quiet rfl touches.effect.same ?_⟩
      rintro raw' parsed' ⟨⟩
      exact Option.isSome_iff_exists.2 ⟨winner, claimed⟩
    | none =>
      obtain ⟨middle, touches, _, asUnchanged, asIndexed, asRefused⟩ :=
        reconcileParsed_winner formed issues now encodable raw claimed
      have run : (reconcileParsed env now (progress.scan rel) rel raw parsed).run db =
        (.ok next, after) := ran
      rw [run] at asUnchanged asIndexed asRefused
      by_cases unchanged : Unchanged db parsed.analysisId rel (env.sha256 raw)
      · cases asUnchanged unchanged
        exact ⟨touches.effect.same.wellFormed formed, touches.formed,
          .kept raw parsed rfl claimed rfl touches.effect.same unchanged⟩
      · by_cases indexable : Indexable env rel raw parsed
        · cases asIndexed unchanged indexable
          obtain ⟨formedAfter, issuesAfter, views⟩ := upserted_winner
            (touches.effect.same.wellFormed formed) touches.formed now indexable
          refine ⟨formedAfter, issuesAfter, .stored raw parsed rfl claimed rfl indexable ?_⟩
          intro jobId
          rw [views, touches.effect.same.view]
        · obtain ⟨raised, middle', error⟩ := asRefused unchanged indexable
          cases error

/-! ## The files of a batch -/

namespace FileOutcome

def carries (outcome : FileOutcome) (jobId : Text) : Bool :=
  match outcome.result with
  | .readable _ parsed => parsed.analysisId = jobId
  | _ => false

end FileOutcome

/-- The first of some files that carries an analysis id. -/
def winnerOf (outcomes : List FileOutcome) (jobId : Text) : Option FileOutcome :=
  outcomes.find? fun outcome => outcome.carries jobId

theorem winnerOf_concat (outcomes : List FileOutcome) (outcome : FileOutcome) (jobId : Text) :
    winnerOf (outcomes ++ [outcome]) jobId =
      (winnerOf outcomes jobId).or (if outcome.carries jobId then some outcome else none) := by
  unfold winnerOf
  rw [List.find?_append]
  cases carried : outcome.carries jobId <;> simp [carried]

theorem winnerOf_mem {outcomes : List FileOutcome} {jobId : Text} {outcome : FileOutcome}
    (won : winnerOf outcomes jobId = some outcome) :
    outcome ∈ outcomes ∧ outcome.carries jobId = true := by
  have carried := List.find?_some won
  exact ⟨List.mem_of_find?_eq_some won, by simpa using carried⟩

theorem winnerOf_isSome {outcomes : List FileOutcome} {jobId : Text} {outcome : FileOutcome}
    (mem : outcome ∈ outcomes) (carried : outcome.carries jobId = true) :
    ∃ winner, winnerOf outcomes jobId = some winner := by
  cases won : winnerOf outcomes jobId with
  | some winner => exact ⟨winner, rfl⟩
  | none =>
    have none := List.find?_eq_none.1 won outcome mem
    rw [carried] at none
    exact absurd rfl none

/-- A file that wins among some files still wins among more. -/
theorem winnerOf_concat_of_some {outcomes : List FileOutcome} {jobId : Text}
    {winner : FileOutcome} (won : winnerOf outcomes jobId = some winner) (outcome : FileOutcome) :
    winnerOf (outcomes ++ [outcome]) jobId = some winner := by
  rw [winnerOf_concat, won, Option.some_or]

/-- The issue a file that does not win leaves open on its path; a winner leaves no
open duplicate. -/
def Marked (outcomes : List FileOutcome) (db : IndexDb) (outcome : FileOutcome) : Prop :=
  match outcome.result with
  | .unreadable => db.HasOpen (.markdown .frontmatterInvalid) outcome.relPath
  | .rejected code => db.HasOpen (.markdown code) outcome.relPath
  | .readable _ parsed =>
    db.HasOpen .duplicateAnalysisId outcome.relPath ↔
      winnerOf outcomes parsed.analysisId ≠ some outcome

/-- A winner's document: left as it was, or indexed afresh. -/
def WinnerStored (env : ReportEnv) (before db : IndexDb) (rel : Text) (raw : Bytes)
    (parsed : ParsedReport) : Prop :=
  (Unchanged before parsed.analysisId rel (env.sha256 raw) ∧
    db.view parsed.analysisId = before.view parsed.analysisId) ∨
  (¬ Unchanged before parsed.analysisId rel (env.sha256 raw) ∧ Indexable env rel raw parsed ∧
    db.view parsed.analysisId =
      some ⟨rescanColumns env rel raw parsed, .active, [rescanTexts env rel raw parsed]⟩)

/-- Every winner finds its document unchanged. -/
def Calm (env : ReportEnv) (before : IndexDb) (outcomes : List FileOutcome) : Prop :=
  ∀ rel raw parsed, winnerOf outcomes parsed.analysisId = some ⟨rel, .readable raw parsed⟩ →
    Unchanged before parsed.analysisId rel (env.sha256 raw)

/-- Every file is parsed and wins. -/
def AllWin (outcomes : List FileOutcome) : Prop :=
  ∀ outcome ∈ outcomes, ∃ raw parsed, outcome.result = .readable raw parsed ∧
    winnerOf outcomes parsed.analysisId = some outcome

/-- Where a run stands once the files `outcomes` are reconciled. -/
structure Reconciled (env : ReportEnv) (before : IndexDb) (outcomes : List FileOutcome)
    (progress : Progress) (db : IndexDb) : Prop where
  formed : db.WellFormed
  issues : db.IssuesFormed
  scanned : progress.scanned = outcomes.map (·.relPath)
  claimed : ∀ jobId,
    (progress.claimOf jobId).map (·.relPath) = (winnerOf outcomes jobId).map (·.relPath)
  unclaimed : ∀ jobId, winnerOf outcomes jobId = none → db.view jobId = before.view jobId
  winners : ∀ rel raw parsed,
    winnerOf outcomes parsed.analysisId = some ⟨rel, .readable raw parsed⟩ →
      WinnerStored env before db rel raw parsed
  encodable : ∀ outcome ∈ outcomes, Encodable outcome.relPath
  marked : ∀ outcome ∈ outcomes, Marked outcomes db outcome
  elsewhere : ∀ code path, path ∉ outcomes.map (·.relPath) →
    (db.HasOpen code path ↔ before.HasOpen code path)
  calm : Calm env before outcomes → db.documents = before.documents ∧ db.fts = before.fts ∧
    progress.counters.unchanged = progress.claims.length ∧ progress.counters.indexed = 0
  allWin : AllWin outcomes → progress.claims.length = outcomes.length

theorem reconciled_nil (env : ReportEnv) {before : IndexDb} (formed : before.WellFormed)
    (issues : before.IssuesFormed) : Reconciled env before [] {} before where
  formed := formed
  issues := issues
  scanned := rfl
  claimed := fun _ => rfl
  unclaimed := fun _ _ => rfl
  winners := fun _ _ _ won => by cases won
  encodable := fun _ mem => by cases mem
  marked := fun _ mem => by cases mem
  elsewhere := fun _ _ _ => Iff.rfl
  calm := fun _ => ⟨rfl, rfl, rfl, rfl⟩
  allWin := fun _ => rfl

theorem carries_readable (rel : Text) (raw : Bytes) (parsed : ParsedReport) (jobId : Text) :
    FileOutcome.carries ⟨rel, .readable raw parsed⟩ jobId = true ↔ parsed.analysisId = jobId := by
  simp [FileOutcome.carries]

/-- The marks of earlier files survive what happens on another path. -/
theorem Marked.concat {outcomes : List FileOutcome} {db after : IndexDb} {earlier : FileOutcome}
    (marked : Marked outcomes db earlier) (mem : earlier ∈ outcomes) (outcome : FileOutcome)
    (others : ∀ code, after.HasOpen code earlier.relPath ↔ db.HasOpen code earlier.relPath) :
    Marked (outcomes ++ [outcome]) after earlier := by
  obtain ⟨rel, result⟩ := earlier
  cases result with
  | unreadable => exact (others _).2 marked
  | rejected code => exact (others _).2 marked
  | readable raw parsed =>
    obtain ⟨winner, won⟩ := winnerOf_isSome mem ((carries_readable rel raw parsed _).2 rfl)
    unfold Marked at marked ⊢
    simp only at marked ⊢
    rw [others, marked, won, winnerOf_concat_of_some won]

theorem Calm.of_concat {env : ReportEnv} {before : IndexDb} {outcomes : List FileOutcome}
    {outcome : FileOutcome} (calm : Calm env before (outcomes ++ [outcome])) :
    Calm env before outcomes :=
  fun rel raw parsed won => calm rel raw parsed (winnerOf_concat_of_some won outcome)

theorem AllWin.of_concat {outcomes : List FileOutcome} {outcome : FileOutcome}
    (all : AllWin (outcomes ++ [outcome])) : AllWin outcomes := by
  intro earlier mem
  obtain ⟨raw, parsed, read, won⟩ := all earlier (List.mem_append_left _ mem)
  obtain ⟨rel, result⟩ := earlier
  obtain rfl : result = .readable raw parsed := read
  obtain ⟨winner, already⟩ := winnerOf_isSome mem ((carries_readable rel raw parsed _).2 rfl)
  rw [winnerOf_concat_of_some already] at won
  exact ⟨raw, parsed, rfl, already.trans won⟩

/-- What may be asked of a file for the run to go on. -/
def FileFits (env : ReportEnv) (before : IndexDb) (outcomes : List FileOutcome)
    (outcome : FileOutcome) : Prop :=
  Encodable outcome.relPath ∧ ∀ raw parsed, outcome.result = .readable raw parsed →
    winnerOf outcomes parsed.analysisId = none →
    Unchanged before parsed.analysisId outcome.relPath (env.sha256 raw) ∨
      Indexable env outcome.relPath raw parsed

namespace Reconciled

variable {env : ReportEnv} {before db after : IndexDb} {outcomes : List FileOutcome}
  {progress next : Progress} {outcome : FileOutcome}

theorem marked_concat (kept : Reconciled env before outcomes progress db)
    (apart : outcome.relPath ∉ outcomes.map (·.relPath))
    (others : ∀ code path, path ≠ outcome.relPath → (after.HasOpen code path ↔ db.HasOpen code path))
    (own : Marked (outcomes ++ [outcome]) after outcome) :
    ∀ earlier ∈ outcomes ++ [outcome], Marked (outcomes ++ [outcome]) after earlier := by
  intro earlier mem
  rcases List.mem_append.1 mem with old | new
  · refine (kept.marked earlier old).concat old outcome fun code => others code _ ?_
    intro same
    exact apart (same ▸ List.mem_map_of_mem old)
  · rw [List.mem_singleton.1 new]
    exact own

theorem encodable_concat (kept : Reconciled env before outcomes progress db)
    (own : Encodable outcome.relPath) :
    ∀ earlier ∈ outcomes ++ [outcome], Encodable earlier.relPath := by
  intro earlier mem
  rcases List.mem_append.1 mem with old | new
  · exact kept.encodable earlier old
  · rw [List.mem_singleton.1 new]
    exact own

theorem elsewhere_concat (kept : Reconciled env before outcomes progress db)
    (others : ∀ code path, path ≠ outcome.relPath → (after.HasOpen code path ↔ db.HasOpen code path))
    (code : IssueCode) (path : Text) (apart : path ∉ (outcomes ++ [outcome]).map (·.relPath)) :
    after.HasOpen code path ↔ before.HasOpen code path := by
  rw [List.map_append, List.mem_append, not_or] at apart
  rw [others code path fun same => apart.2 (by simp [same])]
  exact kept.elsewhere code path apart.1

/-- A file that does not win changes issues only. -/
theorem quiet (kept : Reconciled env before outcomes progress db)
    (apart : outcome.relPath ∉ outcomes.map (·.relPath))
    (encodable : Encodable outcome.relPath)
    (loses : ∀ jobId, winnerOf outcomes jobId = none → outcome.carries jobId = false)
    (touches : TouchesIssues outcome.relPath db after)
    (own : Marked (outcomes ++ [outcome]) after outcome)
    (claims : next.claims = progress.claims)
    (scanned : next.scanned = progress.scanned ++ [outcome.relPath])
    (counters : next.counters.unchanged = progress.counters.unchanged ∧
      next.counters.indexed = progress.counters.indexed) :
    Reconciled env before (outcomes ++ [outcome]) next after where
  formed := touches.effect.same.wellFormed kept.formed
  issues := touches.formed
  scanned := by rw [scanned, kept.scanned, List.map_append, List.map_cons, List.map_nil]
  claimed := by
    intro jobId
    have sameClaim : next.claimOf jobId = progress.claimOf jobId := by
      unfold Progress.claimOf
      rw [claims]
    rw [sameClaim, kept.claimed jobId, winnerOf_concat]
    cases won : winnerOf outcomes jobId with
    | some winner => rfl
    | none => simp [loses jobId won]
  unclaimed := by
    intro jobId none
    rw [winnerOf_concat] at none
    rw [touches.effect.same.view]
    exact kept.unclaimed jobId (Option.or_eq_none_iff.1 none).1
  winners := by
    intro rel raw parsed won
    have already : winnerOf outcomes parsed.analysisId = some ⟨rel, .readable raw parsed⟩ := by
      cases old : winnerOf outcomes parsed.analysisId with
      | some winner => rw [← won, winnerOf_concat_of_some old]
      | none =>
        rw [winnerOf_concat, old, loses _ old] at won
        cases won
    have stored := kept.winners rel raw parsed already
    unfold WinnerStored at stored ⊢
    rw [touches.effect.same.view]
    exact stored
  encodable := kept.encodable_concat encodable
  marked := kept.marked_concat apart touches.others own
  elsewhere := kept.elsewhere_concat touches.others
  calm := by
    intro calm
    obtain ⟨documents, fts, unchanged, indexed⟩ := kept.calm calm.of_concat
    obtain ⟨sameDocuments, sameFts, _⟩ := touches.effect.same
    exact ⟨sameDocuments.trans documents, sameFts.trans fts, by rw [counters.1, unchanged, claims],
      counters.2.trans indexed⟩
  allWin := by
    intro all
    obtain ⟨raw, parsed, read, won⟩ := all outcome (List.mem_append_right _ (by simp))
    obtain ⟨rel, result⟩ := outcome
    obtain rfl : result = .readable raw parsed := read
    cases old : winnerOf outcomes parsed.analysisId with
    | none =>
      have lost := loses _ old
      rw [(carries_readable rel raw parsed _).2 rfl] at lost
      cases lost
    | some winner =>
      rw [winnerOf_concat_of_some old] at won
      cases won
      exact absurd (List.mem_map_of_mem (winnerOf_mem old).1) apart

theorem claimOf_claim (progress : Progress) (claim : Claim) (jobId : Text) :
    (progress.claim claim).claimOf jobId =
      (progress.claimOf jobId).or (if claim.analysisId = jobId then some claim else none) := by
  unfold Progress.claimOf Progress.claim
  rw [List.find?_append]
  by_cases same : claim.analysisId = jobId <;> simp [same]

/-- A winner claims its analysis id and stores its document. -/
theorem wins {rel : Text} {raw : Bytes} {parsed : ParsedReport}
    (kept : Reconciled env before outcomes progress db)
    (apart : rel ∉ outcomes.map (·.relPath)) (encodable : Encodable rel)
    (first : winnerOf outcomes parsed.analysisId = none)
    (formed : after.WellFormed) (issues : after.IssuesFormed)
    (others : ∀ code path, path ≠ rel → (after.HasOpen code path ↔ db.HasOpen code path))
    (closed : ¬ after.HasOpen .duplicateAnalysisId rel)
    (views : ∀ jobId, jobId ≠ parsed.analysisId → after.view jobId = db.view jobId)
    (stored : WinnerStored env before after rel raw parsed)
    (claims : next.claims = progress.claims ++ [claimFor env rel raw parsed])
    (scanned : next.scanned = progress.scanned ++ [rel])
    (calm : Unchanged before parsed.analysisId rel (env.sha256 raw) →
      after.documents = db.documents ∧ after.fts = db.fts ∧
        next.counters.unchanged = progress.counters.unchanged + 1 ∧
        next.counters.indexed = progress.counters.indexed) :
    Reconciled env before (outcomes ++ [⟨rel, .readable raw parsed⟩]) next after := by
  have now : winnerOf (outcomes ++ [⟨rel, .readable raw parsed⟩]) parsed.analysisId =
      some ⟨rel, .readable raw parsed⟩ := by
    rw [winnerOf_concat, first, (carries_readable rel raw parsed _).2 rfl]
    rfl
  have elsewhere : ∀ jobId, jobId ≠ parsed.analysisId →
      winnerOf (outcomes ++ [⟨rel, .readable raw parsed⟩]) jobId = winnerOf outcomes jobId := by
    intro jobId different
    have lost : FileOutcome.carries ⟨rel, .readable raw parsed⟩ jobId = false := by
      simp [FileOutcome.carries, Ne.symm different]
    rw [winnerOf_concat, lost]
    simp
  refine ⟨formed, issues, ?_, ?_, ?_, ?_, kept.encodable_concat encodable,
    kept.marked_concat apart others ?_, kept.elsewhere_concat others, ?_, ?_⟩
  · rw [scanned, kept.scanned, List.map_append, List.map_cons, List.map_nil]
  · intro jobId
    have nextClaim : next.claimOf jobId =
        (progress.claim (claimFor env rel raw parsed)).claimOf jobId := by
      unfold Progress.claimOf Progress.claim
      rw [claims]
    rw [nextClaim, claimOf_claim]
    by_cases same : jobId = parsed.analysisId
    · subst same
      have free := kept.claimed parsed.analysisId
      rw [first, Option.map_none, Option.map_eq_none_iff] at free
      rw [free, now]
      simp [claimFor]
    · rw [elsewhere jobId same, ← kept.claimed jobId]
      simp [claimFor, Ne.symm same]
  · intro jobId none
    have different : jobId ≠ parsed.analysisId := by
      rintro rfl
      rw [now] at none
      cases none
    rw [views jobId different]
    rw [elsewhere jobId different] at none
    exact kept.unclaimed jobId none
  · intro otherRel otherRaw otherParsed won
    by_cases same : otherParsed.analysisId = parsed.analysisId
    · rw [same, now] at won
      cases won
      exact stored
    · rw [elsewhere _ same] at won
      have old := kept.winners otherRel otherRaw otherParsed won
      unfold WinnerStored at old ⊢
      rw [views _ same]
      exact old
  · unfold Marked
    simp only
    rw [now]
    simpa using closed
  · intro calmed
    obtain ⟨documents, fts, unchanged, indexed⟩ := kept.calm calmed.of_concat
    obtain ⟨sameDocuments, sameFts, unchangedNext, indexedNext⟩ := calm (calmed rel raw parsed now)
    refine ⟨sameDocuments.trans documents, sameFts.trans fts, ?_, indexedNext.trans indexed⟩
    rw [unchangedNext, unchanged, claims, List.length_append, List.length_singleton]
  · intro all
    rw [claims, List.length_append, List.length_append, kept.allWin all.of_concat]
    rfl

theorem first_iff (kept : Reconciled env before outcomes progress db) (jobId : Text) :
    progress.claimOf jobId = none ↔ winnerOf outcomes jobId = none := by
  have same := kept.claimed jobId
  rw [← Option.map_eq_none_iff (f := fun claim : Claim => claim.relPath), same,
    Option.map_eq_none_iff]

/-- Documents are looked up before the run changed them. -/
theorem unchanged_iff (kept : Reconciled env before outcomes progress db) {jobId : Text}
    (first : winnerOf outcomes jobId = none) {rel contentHash : Text} :
    Unchanged db jobId rel contentHash ↔ Unchanged before jobId rel contentHash := by
  unfold Unchanged
  rw [kept.unclaimed jobId first]

/-- Reconciling one more file goes on exactly when the file fits. -/
theorem file (kept : Reconciled env before outcomes progress db)
    (apart : outcome.relPath ∉ outcomes.map (·.relPath)) (now : Time) :
    (FileFits env before outcomes outcome ∧ ∃ next after,
      (reconcileFile env now progress outcome).run db = (.ok next, after) ∧
      Reconciled env before (outcomes ++ [outcome]) next after) ∨
    (¬ FileFits env before outcomes outcome ∧ ∃ raised after,
      (reconcileFile env now progress outcome).run db = (.error raised, after)) := by
  by_cases encodable : Encodable outcome.relPath
  swap
  · exact .inr ⟨fun fits => encodable fits.1, reconcileFile_raises env now progress encodable db⟩
  obtain ⟨rel, result⟩ := outcome
  simp only at encodable apart
  have quarantines : ∀ code, (result = .rejected code ∨
      (result = .unreadable ∧ code = .frontmatterInvalid)) →
      FileFits env before outcomes ⟨rel, result⟩ ∧ ∃ next after,
        (reconcileFile env now progress ⟨rel, result⟩).run db = (.ok next, after) ∧
        Reconciled env before (outcomes ++ [⟨rel, result⟩]) next after := by
    intro code bad
    obtain ⟨after, ran, touches, opened⟩ :=
      reconcileFile_quarantined env now progress encodable kept.issues bad
    have unread : ∀ raw parsed, result ≠ .readable raw parsed := by
      rintro raw parsed rfl
      rcases bad with rejected | ⟨unreadable, _⟩
      · cases rejected
      · cases unreadable
    refine ⟨⟨encodable, fun raw parsed read => absurd read (unread raw parsed)⟩, _, after, ran,
      kept.quiet apart encodable (fun jobId _ => ?_) touches ?_ rfl rfl ⟨rfl, rfl⟩⟩
    · rcases bad with rfl | ⟨rfl, _⟩ <;> rfl
    · rcases bad with rfl | ⟨rfl, rfl⟩ <;> exact opened
  cases result with
  | unreadable => exact .inl (quarantines .frontmatterInvalid (.inr ⟨rfl, rfl⟩))
  | rejected code => exact .inl (quarantines code (.inl rfl))
  | readable raw parsed =>
    cases claimed : (progress.scan rel).claimOf parsed.analysisId with
    | some winner =>
      have taken : winnerOf outcomes parsed.analysisId ≠ none := by
        rw [ne_eq, ← kept.first_iff, show progress.claimOf _ = some winner from claimed]
        simp
      obtain ⟨after, ran, touches, opened⟩ :=
        reconcileParsed_loser kept.issues now encodable raw claimed
      refine .inl ⟨⟨encodable, ?_⟩, _, after, ran, kept.quiet apart encodable ?_ touches ?_ rfl rfl
        ⟨rfl, rfl⟩⟩
      · rintro raw' parsed' ⟨⟩ first
        exact absurd first taken
      · intro jobId first
        by_contra carried
        rw [Bool.not_eq_false, carries_readable] at carried
        exact taken (carried ▸ first)
      · unfold Marked
        simp only
        obtain ⟨winner', won⟩ := Option.ne_none_iff_exists'.1 taken
        rw [winnerOf_concat_of_some won]
        refine ⟨fun _ same => ?_, fun _ => opened⟩
        cases same
        exact apart (List.mem_map_of_mem (winnerOf_mem won).1)
    | none =>
      have first : winnerOf outcomes parsed.analysisId = none := (kept.first_iff _).1 claimed
      obtain ⟨middle, touches, closed, asUnchanged, asIndexed, asRefused⟩ :=
        reconcileParsed_winner kept.formed kept.issues now encodable raw claimed
      rw [kept.unchanged_iff first] at asUnchanged asIndexed asRefused
      have middleFormed := touches.effect.same.wellFormed kept.formed
      by_cases unchanged : Unchanged before parsed.analysisId rel (env.sha256 raw)
      · refine .inl ⟨⟨encodable, ?_⟩, _, middle, asUnchanged unchanged, kept.wins apart encodable
          first middleFormed touches.formed touches.others closed
          (fun jobId _ => touches.effect.same.view jobId) (.inl ⟨unchanged, ?_⟩) rfl rfl
          fun _ => ⟨touches.effect.same.1, touches.effect.same.2.1, rfl, rfl⟩⟩
        · rintro raw' parsed' ⟨⟩ _
          exact .inl unchanged
        · rw [touches.effect.same.view, kept.unclaimed _ first]
      · by_cases indexable : Indexable env rel raw parsed
        · obtain ⟨formedAfter, issuesAfter, views⟩ :=
            upserted_winner middleFormed touches.formed now indexable
          have opens := upserted_hasOpen middle (rescanColumns env rel raw parsed)
            (rescanTexts env rel raw parsed) now
          refine .inl ⟨⟨encodable, ?_⟩, _, _, asIndexed unchanged indexable, kept.wins apart
            encodable first formedAfter issuesAfter
            (fun code path other => (opens code path).trans (touches.others code path other))
            (fun opened => closed ((opens _ _).1 opened)) (fun jobId different => ?_)
            (.inr ⟨unchanged, indexable, ?_⟩) rfl rfl fun same => absurd same unchanged⟩
          · rintro raw' parsed' ⟨⟩ _
            exact .inr indexable
          · rw [views, if_neg different, touches.effect.same.view]
          · rw [views, if_pos rfl]
        · refine .inr ⟨?_, asRefused unchanged indexable⟩
          rintro ⟨_, fits⟩
          exact (fits raw parsed rfl first).elim unchanged indexable

end Reconciled

/-! ## A whole batch -/

/-- What may be asked of all files of a run. -/
def FilesFit (env : ReportEnv) (before : IndexDb) (outcomes : List FileOutcome) : Prop :=
  (∀ outcome ∈ outcomes, Encodable outcome.relPath) ∧ ∀ rel raw parsed,
    winnerOf outcomes parsed.analysisId = some ⟨rel, .readable raw parsed⟩ →
    Unchanged before parsed.analysisId rel (env.sha256 raw) ∨ Indexable env rel raw parsed

theorem winnerOf_append_of_none {outcomes : List FileOutcome} {jobId : Text}
    (first : winnerOf outcomes jobId = none) {outcome : FileOutcome}
    (carried : outcome.carries jobId = true) (rest : List FileOutcome) :
    winnerOf (outcomes ++ outcome :: rest) jobId = some outcome := by
  unfold winnerOf at first ⊢
  rw [List.find?_append, first, Option.none_or]
  simp [carried]

theorem FilesFit.file {env : ReportEnv} {before : IndexDb} {outcomes rest : List FileOutcome}
    {outcome : FileOutcome} (fits : FilesFit env before (outcomes ++ outcome :: rest)) :
    FileFits env before outcomes outcome := by
  refine ⟨fits.1 outcome (by simp), ?_⟩
  obtain ⟨rel, result⟩ := outcome
  rintro raw parsed rfl first
  exact fits.2 rel raw parsed
    (winnerOf_append_of_none first ((carries_readable rel raw parsed _).2 rfl) rest)

theorem FilesFit.of_append {env : ReportEnv} {before : IndexDb}
    {outcomes rest : List FileOutcome} (fits : FilesFit env before (outcomes ++ rest)) :
    FilesFit env before outcomes := by
  refine ⟨fun outcome mem => fits.1 outcome (List.mem_append_left _ mem), ?_⟩
  intro rel raw parsed won
  refine fits.2 rel raw parsed ?_
  unfold winnerOf at won ⊢
  rw [List.find?_append, won, Option.some_or]

namespace Reconciled

variable {env : ReportEnv} {before db after : IndexDb} {outcomes : List FileOutcome}
  {progress next : Progress}

/-- What a run asked of the files it has reconciled held. -/
theorem fits (kept : Reconciled env before outcomes progress db) : FilesFit env before outcomes :=
  ⟨kept.encodable, fun rel raw parsed won => by
    rcases kept.winners rel raw parsed won with ⟨unchanged, _⟩ | ⟨_, indexable, _⟩
    · exact .inl unchanged
    · exact .inr indexable⟩

theorem apart_of_nodup {outcome : FileOutcome} {rest : List FileOutcome}
    (distinct : ((outcomes ++ outcome :: rest).map (·.relPath)).Nodup) :
    outcome.relPath ∉ outcomes.map (·.relPath) := by
  rw [List.map_append, List.nodup_append] at distinct
  intro mem
  exact distinct.2.2 _ mem _ (by simp) rfl

theorem files_returned (kept : Reconciled env before outcomes progress db) (now : Time)
    {left : List FileOutcome} (distinct : ((outcomes ++ left).map (·.relPath)).Nodup)
    (ran : (reconcileFiles env now progress left).run db = (.ok next, after)) :
    Reconciled env before (outcomes ++ left) next after := by
  induction left generalizing outcomes progress db with
  | nil =>
    rw [List.append_nil]
    cases ran
    exact kept
  | cons outcome rest ih =>
    unfold reconcileFiles at ran
    obtain ⟨middle, middleDb, first, ran⟩ := Script.bind_returned ran
    rcases kept.file (apart_of_nodup distinct) now with ⟨_, next', after', returned, stepped⟩ |
      ⟨_, raised, after', error⟩
    · rw [first] at returned
      cases returned
      have same : outcomes ++ outcome :: rest = (outcomes ++ [outcome]) ++ rest := by simp
      rw [same] at distinct ⊢
      exact ih stepped distinct ran
    · rw [first] at error
      cases error

theorem files_returns (kept : Reconciled env before outcomes progress db) (now : Time)
    {left : List FileOutcome} (distinct : ((outcomes ++ left).map (·.relPath)).Nodup)
    (fits : FilesFit env before (outcomes ++ left)) :
    ∃ next after, (reconcileFiles env now progress left).run db = (.ok next, after) := by
  induction left generalizing outcomes progress db with
  | nil => exact ⟨progress, db, rfl⟩
  | cons outcome rest ih =>
    rcases kept.file (apart_of_nodup distinct) now with ⟨_, next', after', returned, stepped⟩ |
      ⟨unfit, _⟩
    · have same : outcomes ++ outcome :: rest = (outcomes ++ [outcome]) ++ rest := by simp
      rw [same] at distinct fits
      obtain ⟨next, after, ran⟩ := ih stepped distinct fits
      exact ⟨next, after, (Script.bind_of_ok returned _).trans ran⟩
    · exact absurd fits.file unfit

end Reconciled

end EvoBlue.Source
