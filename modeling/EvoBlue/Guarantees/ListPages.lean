import EvoBlue.Source.JobListing

/-!
# Pages of the unified view

Whatever the tables hold and whatever is asked for, the pages of the unified view,
put one behind the other, are one listing: the unfinished jobs, then the reports of
the others. Nothing is lost between two pages and nothing comes twice, and every page
knows the length of the whole.
-/

namespace EvoBlue.Guarantees

open EvoBlue.Kernel EvoBlue.Source

/-- Active jobs precede failed and cancelled ones; each group by creation, then id, descending. -/
def JobPrecedes (a b : Job) : Prop :=
  (a.status.isTerminal = false ∧ b.status.isTerminal = true) ∨
    (a.status.isTerminal = b.status.isTerminal ∧
      (b.createdAt < a.createdAt ∨ b.createdAt = a.createdAt ∧ b.id < a.id))

def ReportPrecedes (a b : ReportRow) : Prop :=
  b.analyzedAt < a.analyzedAt ∨ b.analyzedAt = a.analyzedAt ∧ b.id < a.id

/-! ## Order -/

theorem terminalRank_lt {a b : Job} :
    terminalRank a < terminalRank b ↔ a.status.isTerminal = false ∧ b.status.isTerminal = true := by
  unfold terminalRank
  cases a.status.isTerminal <;> cases b.status.isTerminal <;> simp

theorem terminalRank_eq {a b : Job} :
    terminalRank a = terminalRank b ↔ a.status.isTerminal = b.status.isTerminal := by
  unfold terminalRank
  cases a.status.isTerminal <;> cases b.status.isTerminal <;> simp

/-- Sorting rows with distinct ids by a total order that ends in the id. -/
theorem strict_of_sorted {α : Type} {id : α → Nat} {before : α → α → Bool} {Precedes : α → α → Prop}
    {rows : List α} (distinct : (rows.map id).Nodup)
    (sorted : rows.Pairwise fun a b => before a b = true)
    (strict : ∀ a b, before a b = true → id a ≠ id b → Precedes a b) : rows.Pairwise Precedes := by
  have unequal : rows.Pairwise fun a b => id a ≠ id b := List.pairwise_map.1 distinct
  refine (sorted.and unequal).imp fun both => ?_
  exact strict _ _ both.1 both.2

theorem jobBefore_trans (a b c : Job) (first : jobBefore a b = true) (second : jobBefore b c = true) :
    jobBefore a c = true := by
  simp only [jobBefore, Bool.or_eq_true, Bool.and_eq_true, decide_eq_true_eq] at first second ⊢
  rcases first with first | ⟨rank, first⟩ <;> rcases second with second | ⟨rank', second⟩
  · left; omega
  · left; omega
  · left; omega
  · right
    refine ⟨rank.trans rank', ?_⟩
    rcases first with first | ⟨time, first⟩ <;> rcases second with second | ⟨time', second⟩
    · exact .inl (second.trans first)
    · exact .inl (time' ▸ first)
    · exact .inl (time ▸ second)
    · exact .inr ⟨time'.trans time, by omega⟩

theorem jobBefore_total (a b : Job) : (jobBefore a b || jobBefore b a) = true := by
  simp only [jobBefore, Bool.or_eq_true, Bool.and_eq_true, decide_eq_true_eq]
  rcases Nat.lt_trichotomy (terminalRank a) (terminalRank b) with less | same | more
  · exact .inl (.inl less)
  · rcases lt_trichotomy a.createdAt b.createdAt with older | equal | newer
    · exact .inr (.inr ⟨same.symm, .inl older⟩)
    · rcases Nat.le_total a.id b.id with small | large
      · exact .inr (.inr ⟨same.symm, .inr ⟨equal, small⟩⟩)
      · exact .inl (.inr ⟨same, .inr ⟨equal.symm, large⟩⟩)
    · exact .inl (.inr ⟨same, .inl newer⟩)
  · exact .inr (.inl more)

theorem jobBefore_strict (a b : Job) (before : jobBefore a b = true) (distinct : a.id ≠ b.id) :
    JobPrecedes a b := by
  simp only [jobBefore, Bool.or_eq_true, Bool.and_eq_true, decide_eq_true_eq, terminalRank_lt,
    terminalRank_eq] at before
  rcases before with rank | ⟨group, newer | ⟨time, id⟩⟩
  · exact .inl rank
  · exact .inr ⟨group, .inl newer⟩
  · exact .inr ⟨group, .inr ⟨time, by omega⟩⟩

theorem reportBefore_trans (a b c : ReportRow) (first : reportBefore a b = true)
    (second : reportBefore b c = true) : reportBefore a c = true := by
  simp only [reportBefore, Bool.or_eq_true, Bool.and_eq_true, decide_eq_true_eq] at first second ⊢
  rcases first with first | ⟨time, first⟩ <;> rcases second with second | ⟨time', second⟩
  · exact .inl (second.trans first)
  · exact .inl (time' ▸ first)
  · exact .inl (time ▸ second)
  · exact .inr ⟨time'.trans time, by omega⟩

theorem reportBefore_total (a b : ReportRow) : (reportBefore a b || reportBefore b a) = true := by
  simp only [reportBefore, Bool.or_eq_true, Bool.and_eq_true, decide_eq_true_eq]
  rcases lt_trichotomy a.analyzedAt b.analyzedAt with older | equal | newer
  · exact .inr (.inl older)
  · rcases Nat.le_total a.id b.id with small | large
    · exact .inr (.inr ⟨equal, small⟩)
    · exact .inl (.inr ⟨equal.symm, large⟩)
  · exact .inl (.inl newer)

theorem reportBefore_strict (a b : ReportRow) (before : reportBefore a b = true)
    (distinct : a.id ≠ b.id) : ReportPrecedes a b := by
  simp only [reportBefore, Bool.or_eq_true, Bool.and_eq_true, decide_eq_true_eq] at before
  rcases before with newer | ⟨time, id⟩
  · exact .inl newer
  · exact .inr ⟨time, by omega⟩

/-! ## One page -/

section

variable (unicode : UnicodeData) (snapshot : Snapshot) (request : UnifiedRequest)

theorem slice_append {α : Type} (limit offset : Nat) (front back : List α) :
    slice limit offset (front ++ back) =
      slice limit offset front ++
        slice (limit - (slice limit offset front).length) (offset - front.length) back := by
  unfold slice
  rw [List.drop_append, List.take_append, List.length_take, List.length_drop]
  congr 2
  omega

theorem slice_past {α : Type} {limit offset : Nat} {rows : List α} (past : rows.length ≤ offset) :
    slice limit offset rows = [] := by
  unfold slice
  rw [List.drop_eq_nil_of_le past, List.take_nil]

theorem slice_clipped {α : Type} (limit offset : Nat) (rows : List α) :
    slice (min limit (rows.length - offset)) offset rows = slice limit offset rows := by
  unfold slice
  rw [List.take_eq_take_iff, List.length_drop]
  omega

theorem map_slice {α β : Type} (f : α → β) (limit offset : Nat) (rows : List α) :
    (slice limit offset rows).map f = slice limit offset (rows.map f) := by
  simp [slice]

theorem unifiedJobs_total (limit offset : Nat) :
    (unifiedJobs unicode snapshot request limit offset).2 =
      (matchingJobs unicode request.platform request.query none (some "non_completed")
        snapshot.jobs).length :=
  ((List.mergeSort_perm _ _).length_eq).symm

theorem unifiedHistory_total (limit offset : Nat) :
    (unifiedHistory unicode snapshot request limit offset).2 =
      (matchingReports unicode request.platform request.query none none
        (unfinishedJobIds snapshot.jobs) snapshot.index).length :=
  ((List.mergeSort_perm _ _).length_eq).symm

/-- A page is the window of the whole listing it was asked for. -/
theorem unified_page_items :
    (jobsUnifiedList unicode snapshot request).items =
      slice request.limit request.offset (unifiedListing unicode snapshot request) := by
  have segments := slice_append request.limit request.offset
    (matchingJobs unicode request.platform request.query none (some "non_completed")
      snapshot.jobs |>.map jobItem)
    (matchingReports unicode request.platform request.query none none
      (unfinishedJobIds snapshot.jobs) snapshot.index |>.map historyItem)
  unfold unifiedListing
  rw [segments, ← map_slice, ← map_slice, List.length_map, List.length_map]
  unfold jobsUnifiedList
  simp only [unifiedJobs_total]
  have jobsPage : (if request.offset < (matchingJobs unicode request.platform request.query none
        (some "non_completed") snapshot.jobs).length then
      (unifiedJobs unicode snapshot request (min request.limit ((matchingJobs unicode
        request.platform request.query none (some "non_completed") snapshot.jobs).length -
          request.offset)) request.offset).1
      else []) = slice request.limit request.offset (matchingJobs unicode request.platform
        request.query none (some "non_completed") snapshot.jobs) := by
    split
    next => exact slice_clipped _ _ _
    next past => exact (slice_past (by omega)).symm
  rw [jobsPage]
  congr 2
  have start : ∀ jobsTotal : Nat, (if request.offset < jobsTotal then 0
      else request.offset - jobsTotal) = request.offset - jobsTotal := by
    intro jobsTotal
    split <;> omega
  rw [start]
  split
  next => rfl
  next full =>
    have none_left : request.limit - (slice request.limit request.offset (matchingJobs unicode
        request.platform request.query none (some "non_completed") snapshot.jobs)).length = 0 := by
      omega
    rw [none_left]
    simp [slice]

/-- Every page knows both segments. -/
theorem unified_page_totals :
    (jobsUnifiedList unicode snapshot request).jobsTotal =
      (matchingJobs unicode request.platform request.query none (some "non_completed")
        snapshot.jobs).length ∧
    (jobsUnifiedList unicode snapshot request).historyTotal =
      (matchingReports unicode request.platform request.query none none
        (unfinishedJobIds snapshot.jobs) snapshot.index).length ∧
    (jobsUnifiedList unicode snapshot request).total =
      (jobsUnifiedList unicode snapshot request).jobsTotal +
        (jobsUnifiedList unicode snapshot request).historyTotal := by
  refine ⟨unifiedJobs_total unicode snapshot request 1 0, ?_, rfl⟩
  unfold jobsUnifiedList
  simp only
  generalize (if request.offset < (unifiedJobs unicode snapshot request 1 0).2 then _ else []) = jobs
  split
  · exact unifiedHistory_total unicode snapshot request (request.limit - jobs.length) _
  · exact unifiedHistory_total unicode snapshot request 1 0

end

/-! ## All pages -/

/-- The rows of the first `n` pages of a list, put one behind the other. -/
theorem slices_eq_take {α : Type} (limit : Nat) (rows : List α) (n : Nat) :
    ((List.range n).flatMap fun k => slice limit (k * limit) rows) = rows.take (n * limit) := by
  induction n with
  | zero => simp
  | succ n ih =>
    rw [List.range_succ, List.flatMap_append, ih, Nat.succ_mul, List.take_add]
    simp [slice]

/-- The pages of one request, from the first one on. -/
def firstPages (unicode : UnicodeData) (snapshot : Snapshot) (request : UnifiedRequest) (n : Nat) :
    List UnifiedJobListItem :=
  (List.range n).flatMap fun k =>
    (jobsUnifiedList unicode snapshot { request with offset := k * request.limit }).items

theorem firstPages_eq (unicode : UnicodeData) (snapshot : Snapshot) (request : UnifiedRequest)
    (n : Nat) : firstPages unicode snapshot request n =
      (unifiedListing unicode snapshot request).take (n * request.limit) := by
  unfold firstPages
  rw [← slices_eq_take]
  congr 1
  funext k
  exact unified_page_items unicode snapshot { request with offset := k * request.limit }

section

variable {unicode : UnicodeData} {platform query : Option Text}

theorem jobListed_iff {job : Job} :
    jobListed unicode platform query none (some "non_completed") job = true ↔
      job.status ≠ .completed ∧
        jobSelected unicode platform query (job.title.map text) (some (text job.url))
          (job.platform.map text) = true := by
  simp [jobListed]

theorem reportListed_iff {jobs : JobsDb} {row : ReportRow} :
    reportListed unicode platform query none none (unfinishedJobIds jobs) row = true ↔
      (row.docStatus = .active ∨ row.docStatus = .stale) ∧
        reportSelected unicode platform query row.title row.sourceUrl row.platform = true ∧
        ∀ job ∈ jobs.jobs, job.status ≠ .completed → text job.jobId ≠ row.analysisId := by
  simp only [reportListed, Bool.and_eq_true, Bool.or_eq_true, decide_eq_true_eq, Bool.not_eq_true',
    Option.all_none, and_true, and_assoc]
  refine and_congr Iff.rfl (and_congr Iff.rfl ?_)
  rw [← Bool.not_eq_true, List.contains_iff_mem]
  simp [unfinishedJobIds]

/-- The job rows are unfinished, the history rows are not among them. -/
theorem unifiedListing_nodup (snapshot : Snapshot) (request : UnifiedRequest) :
    ((unifiedListing unicode snapshot request).map (·.jobId)).Nodup := by
  have jobs : ((matchingJobs unicode request.platform request.query none (some "non_completed")
      snapshot.jobs).map fun job => text job.jobId).Nodup := by
    refine ((List.mergeSort_perm _ _).map _).nodup_iff.2 ?_
    have distinct := snapshot.keyed.jobIds.sublist (List.Sublist.map _ (List.filter_sublist
      (p := jobListed unicode request.platform request.query none (some "non_completed"))))
    have renamed := distinct.map text_injective
    rwa [List.map_map] at renamed
  have reports : ((matchingReports unicode request.platform request.query none none
      (unfinishedJobIds snapshot.jobs) snapshot.index).map fun row => row.jobId).Nodup := by
    refine ((List.mergeSort_perm _ _).map _).nodup_iff.2 ?_
    exact snapshot.formed.jobs.sublist (List.Sublist.map _ List.filter_sublist)
  unfold unifiedListing
  rw [List.map_append, List.map_map, List.map_map]
  refine List.nodup_append.2 ⟨jobs, reports, ?_⟩
  intro jobId memJobs other memReports same
  obtain ⟨job, memJob, rfl⟩ := List.mem_map.1 memJobs
  obtain ⟨row, memRow, rfl⟩ := List.mem_map.1 memReports
  obtain ⟨memJob, listed⟩ := List.mem_filter.1 ((List.mergeSort_perm _ _).mem_iff.1 memJob)
  obtain ⟨memRow, shown⟩ := List.mem_filter.1 ((List.mergeSort_perm _ _).mem_iff.1 memRow)
  have apart := (reportListed_iff.1 shown).2.2 job memJob (jobListed_iff.1 listed).1
  rw [snapshot.formed.named row memRow] at apart
  exact apart same

end

/-- For every snapshot and every filter, whatever the limit. The pages are one listing:
the unfinished jobs the filter selects, each once and in order, then the reports it selects
that belong to no unfinished job. No job comes twice, and every page, wherever it starts,
gives the length of the whole. SQLite binds no offset from 2^63 on. -/
theorem unified_pages (unicode : UnicodeData) (snapshot : Snapshot) (request : UnifiedRequest) :
    ∃ (jobs : List Job) (reports : List ReportRow),
      jobs.Perm (snapshot.jobs.jobs.filter fun job => job.status ≠ .completed ∧
        jobSelected unicode request.platform request.query (job.title.map text)
          (some (text job.url)) (job.platform.map text)) ∧
      jobs.Pairwise JobPrecedes ∧
      reports.Perm (snapshot.index.documents.filter fun row =>
        (row.docStatus = .active ∨ row.docStatus = .stale) ∧
        reportSelected unicode request.platform request.query row.title row.sourceUrl
          row.platform ∧
        ∀ job ∈ snapshot.jobs.jobs, job.status ≠ .completed → text job.jobId ≠ row.analysisId) ∧
      reports.Pairwise ReportPrecedes ∧
      ((jobs.map jobItem ++ reports.map historyItem).map (·.jobId)).Nodup ∧
      (∀ n, n * request.limit < 2 ^ 63 → firstPages unicode snapshot request n =
        (jobs.map jobItem ++ reports.map historyItem).take (n * request.limit)) ∧
      (∀ n, n * request.limit < 2 ^ 63 → (jobs.map jobItem ++ reports.map historyItem).length ≤ n →
        firstPages unicode snapshot request n = jobs.map jobItem ++ reports.map historyItem) ∧
      ∀ offset < 2 ^ 63,
        let page := jobsUnifiedList unicode snapshot { request with offset }
        page.total = page.jobsTotal + page.historyTotal ∧
          page.total = (jobs.map jobItem ++ reports.map historyItem).length := by
  refine ⟨matchingJobs unicode request.platform request.query none (some "non_completed")
      snapshot.jobs, matchingReports unicode request.platform request.query none none
      (unfinishedJobIds snapshot.jobs) snapshot.index, ?_, ?_, ?_, ?_,
    unifiedListing_nodup snapshot request,
    fun n _ => firstPages_eq unicode snapshot request n, ?_, ?_⟩
  · refine (List.mergeSort_perm _ _).trans (List.Perm.of_eq (List.filter_congr fun job _ => ?_))
    rw [Bool.eq_iff_iff, jobListed_iff, decide_eq_true_eq]
  · refine @strict_of_sorted _ Job.id _ _ _ ?_ (List.pairwise_mergeSort jobBefore_trans
      jobBefore_total _) jobBefore_strict
    refine ((List.mergeSort_perm _ _).map _).nodup_iff.2 ?_
    exact snapshot.keyed.ids.sublist (List.Sublist.map _ List.filter_sublist)
  · refine (List.mergeSort_perm _ _).trans (List.Perm.of_eq (List.filter_congr fun row _ => ?_))
    rw [Bool.eq_iff_iff, reportListed_iff, decide_eq_true_eq]
  · refine @strict_of_sorted _ ReportRow.id _ _ _ ?_ (List.pairwise_mergeSort reportBefore_trans
      reportBefore_total _) reportBefore_strict
    refine ((List.mergeSort_perm _ _).map _).nodup_iff.2 ?_
    exact snapshot.formed.ids.sublist (List.Sublist.map _ List.filter_sublist)
  · intro n _ enough
    rw [firstPages_eq]
    refine List.take_of_length_le (Nat.le_trans enough ?_)
    exact Nat.le_mul_of_pos_right n request.positive
  · intro offset _
    obtain ⟨jobs, history, total⟩ := unified_page_totals unicode snapshot { request with offset }
    refine ⟨total, ?_⟩
    rw [total, jobs, history, List.length_append, List.length_map, List.length_map]

end EvoBlue.Guarantees
