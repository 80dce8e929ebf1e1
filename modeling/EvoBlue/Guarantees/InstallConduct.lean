import EvoBlue.Source.InstallPhases

/-!
# An install keeps to its phases

Read off the text of `install_model`, whatever it is answered: it promotes only what it
staged for an operation that is `installing`, completes only what it promoted, and never
ends between the two.
-/

namespace EvoBlue.Guarantees

open EvoBlue.Kernel EvoBlue.Source

/-- The attempt works on the operation in hand, and leaves it in hand. -/
def Stays {α : Type} (config : InstallConfig) (operationId : String) (post : α → Prop)
    (attempt : ModelTask α) : Prop :=
  attempt.Follows (installPhases config) (fun after value => after = .holding operationId ∧ post value)
    (fun after _ => after = .holding operationId) (.holding operationId)

section

variable {α β : Type} {config : InstallConfig} {operationId : String} {post : α → Prop}

theorem stays_pure {value : α} (holds : post value) :
    Stays config operationId post (pure value) := ⟨rfl, holds⟩

theorem stays_throw (error : InstallError) : Stays config operationId post (throw error) := rfl

theorem stays_bind {middle : β → Prop} {first : ModelTask β} {next : β → ModelTask α}
    (starts : Stays config operationId middle first)
    (goes : ∀ value, middle value → Stays config operationId post (next value)) :
    Stays config operationId post (first >>= next) := by
  apply Attempt.follows_bind starts
  rintro after value ⟨rfl, holds⟩
  exact goes value holds

theorem stays_quiet {call : ModelCall} (quiet : call.isQuiet = true)
    {next : ModelAnswer call → ModelTask α}
    (goes : ∀ answer, Stays config operationId post (next answer)) :
    Stays config operationId post (Attempt.call call >>= next) := by
  apply phases_quiet _ quiet
  · exact goes
  · rfl

theorem stays_orRaise {result : Except InstallError β} {next : β → ModelTask α}
    (goes : ∀ value, Stays config operationId post (next value)) :
    Stays config operationId post (ModelTask.orRaise result >>= next) := by
  cases result with
  | ok value => exact goes value
  | error error => exact stays_throw error

/-- Of what is raised nothing is known; the handler goes on with the operation in hand. -/
theorem stays_tryCatch {body : ModelTask α} {handle : InstallError → ModelTask α}
    (tries : Stays config operationId post body)
    (handles : ∀ error, Stays config operationId post (handle error)) :
    Stays config operationId post (tryCatch body handle) := by
  apply Attempt.follows_tryCatch tries
  rintro after error rfl
  exact handles error

/-- An update without a target leaves its row in hand. -/
theorem stays_update {op : ℚ → ModelOp} (names : ∀ now, (op now).updates = some operationId)
    (open_ : ∀ now, (op now).isComplete = false) (still : ∀ now, (op now).target = none) :
    Stays config operationId (fun row => row.operationId = operationId) (ModelTask.perform op) := by
  apply phases_update (.inl rfl) names open_
  · exact fun _ row _ named _ _ => ⟨rfl, named⟩
  · intro now _ _ _ target
    rw [still now] at target
    cases target
  · intro _ same
    cases same
  · exact fun _ => rfl

/-! ## Downloads -/

/-- So do the hooks. -/
structure HooksStay {σ : Type} (config : InstallConfig) (operationId : String)
    (hooks : DownloadHooks σ) : Prop where
  progress : ∀ memory bytes, Stays config operationId (fun _ => True) (hooks.progress memory bytes)
  restart : ∀ memory, Stays config operationId (fun _ => True) (hooks.onRestart memory)
  headers : ∀ memory etag lastModified,
    Stays config operationId (fun _ => True) (hooks.onHeaders memory etag lastModified)

section

variable {σ : Type} {sha256 : Bytes → String} {unicode : UnicodeData} {target : DownloadTarget}
  {hooks : DownloadHooks σ}

theorem writeChunks_stays (stay : HooksStay config operationId hooks) (chunks : List Bytes)
    (content : Bytes) (memory : σ) :
    Stays config operationId (fun _ => True) (writeChunks target hooks content memory chunks) := by
  induction chunks generalizing content memory with
  | nil => exact stays_pure trivial
  | cons chunk rest ih =>
    unfold writeChunks
    split
    · exact stays_throw _
    · apply stays_quiet rfl
      intro _
      apply stays_bind (stay.progress memory _)
      intro memory _
      exact ih _ memory

theorem openTarget_stays (stay : HooksStay config operationId hooks) (response : HttpResponse)
    (existing : Nat) (memory : σ) :
    Stays config operationId (fun _ => True)
      (openTarget unicode target hooks response existing memory) := by
  unfold openTarget
  split
  · apply stays_orRaise
    exact fun _ => stays_pure trivial
  · split
    · split
      · apply stays_bind (stay.restart memory)
        exact fun _ _ => stays_pure trivial
      · exact stays_pure trivial
    · exact stays_throw _

theorem filePrefix_stays (appends : Bool) :
    Stays config operationId (fun _ => True) (filePrefix target appends) := by
  cases appends with
  | false =>
    apply stays_quiet rfl
    exact fun _ => stays_pure trivial
  | true =>
    apply stays_quiet rfl
    intro (files : FileTree)
    cases files.content target.name with
    | none => exact stays_throw _
    | some content => exact stays_pure trivial

theorem receive_stays (stay : HooksStay config operationId hooks) (response : HttpResponse)
    (existing : Nat) (memory : σ) :
    Stays config operationId (fun _ => True)
      (receive sha256 unicode target hooks response existing memory) := by
  unfold receive
  apply stays_bind (openTarget_stays stay response existing memory)
  rintro ⟨appends, restarted, memory⟩ _
  apply stays_bind (stay.headers memory _ _)
  intro memory _
  apply stays_bind (filePrefix_stays appends)
  intro content _
  unfold receiveBody
  apply stays_bind (writeChunks_stays stay response.chunks content memory)
  rintro ⟨content, memory⟩ _
  dsimp only
  split
  · exact stays_throw _
  · split
    · exact stays_throw _
    · split
      · exact stays_throw _
      · exact stays_pure trivial

theorem downloadResumable_stays (stay : HooksStay config operationId hooks)
    (etag lastModified : Option String) (memory : σ) :
    Stays config operationId (fun _ => True)
      (downloadResumable sha256 unicode target hooks etag lastModified memory) := by
  unfold downloadResumable
  apply stays_quiet rfl
  intro (files : FileTree)
  unfold checkObstruction
  split
  · exact stays_throw _
  · dsimp only [pure_bind]
    split
    · exact stays_throw _
    · split
      · unfold completeInPlace
        split
        · exact stays_throw _
        · exact stays_pure trivial
      · apply stays_quiet rfl
        intro answer
        apply stays_orRaise
        exact fun response => receive_stays stay response _ memory

end

theorem saveProgress_stays (bytes : Int) (tempPath etag lastModified : Option String) :
    Stays config operationId (fun row => row.operationId = operationId)
      (saveProgress operationId bytes tempPath etag lastModified) :=
  stays_update (fun _ => rfl) (fun _ => rfl) fun _ => rfl

theorem restartDownloadOf_stays :
    Stays config operationId (fun row => row.operationId = operationId)
      (restartDownloadOf operationId) :=
  stays_update (fun _ => rfl) (fun _ => rfl) fun _ => rfl

theorem persistProgress_stays (lastPersisted : Int) (bytes : Nat) :
    Stays config operationId (fun _ => True)
      (persistProgress config operationId lastPersisted bytes) := by
  unfold persistProgress
  apply stays_quiet rfl
  intro cancelled
  split
  · exact stays_throw _
  · split
    · apply stays_bind (saveProgress_stays _ _ _ _)
      exact fun _ _ => stays_pure trivial
    · exact stays_pure trivial

theorem archiveHooks_stay : HooksStay config operationId (archiveHooks config operationId) where
  progress := persistProgress_stays
  restart _ := stays_bind restartDownloadOf_stays fun _ _ => stays_pure trivial
  headers _ _ _ := stays_bind (saveProgress_stays _ _ _ _) fun _ _ => stays_pure trivial

theorem fileHooks_stay (completed : Nat) :
    HooksStay config operationId (fileHooks config operationId completed) where
  progress lastPersisted bytes := persistProgress_stays lastPersisted (completed + bytes)
  restart _ := stays_pure trivial
  headers _ _ _ := stays_pure trivial

theorem downloadFiles_stays (sourceUrl : String) (files : List ModelFile) (completed : Nat)
    (lastPersisted : Int) :
    Stays config operationId (fun _ => True)
      (downloadFiles config operationId sourceUrl completed lastPersisted files) := by
  induction files generalizing completed lastPersisted with
  | nil => exact stays_pure trivial
  | cons file rest ih =>
    unfold downloadFiles
    apply stays_bind (downloadResumable_stays (fileHooks_stay completed) none none lastPersisted)
    rintro ⟨outcome, lastPersisted⟩ _
    exact ih _ lastPersisted

theorem downloadFrom_stays (source : DownloadSource) (etag lastModified : Option String)
    (lastPersisted : Int) :
    Stays config operationId (fun _ => True)
      (downloadFrom config operationId source etag lastModified lastPersisted) := by
  unfold downloadFrom
  split
  · apply stays_bind (downloadFiles_stays _ _ _ _)
    exact fun _ _ => stays_pure trivial
  · apply stays_bind (downloadResumable_stays archiveHooks_stay etag lastModified lastPersisted)
    rintro ⟨outcome, lastPersisted⟩ _
    exact stays_pure trivial

theorem downloadSources_stays (sources : List DownloadSource) (source : DownloadSource)
    (etag lastModified : Option String) (lastPersisted : Int) :
    Stays config operationId (fun _ => True)
      (downloadSources config operationId source etag lastModified lastPersisted sources) := by
  induction sources generalizing source etag lastModified lastPersisted with
  | nil => exact downloadFrom_stays source etag lastModified lastPersisted
  | cons next rest ih =>
    unfold downloadSources
    apply stays_tryCatch (downloadFrom_stays source etag lastModified lastPersisted)
    intro error
    split
    · apply stays_quiet rfl
      intro _
      apply stays_bind (stays_update (fun _ => rfl) (fun _ => rfl) fun _ => rfl)
      exact fun operation _ => ih next _ _ 0
    · exact stays_throw error

theorem reconcilePartial_stays {operation : ModelDownload}
    (named : operation.operationId = operationId) :
    Stays config operationId (fun row => row.operationId = operationId)
      (reconcilePartial config operation) := by
  subst named
  unfold reconcilePartial
  apply stays_quiet rfl
  intro (files : FileTree)
  dsimp only
  split
  · apply stays_quiet rfl
    exact fun _ => restartDownloadOf_stays
  · split
    · exact saveProgress_stays _ _ _ _
    · split
      · apply stays_quiet rfl
        exact fun _ => restartDownloadOf_stays
      · exact stays_pure rfl

end

/-! ## The statuses -/

section

variable {config : InstallConfig} {operationId : String} {phase : InstallPhase}
  {operation : ModelDownload}

/-- One status after the other, with the operation in hand. -/
abbrev Drives (config : InstallConfig) (operationId : String)
    (post : InstallPhase → ModelDownload → Prop) (phase : InstallPhase)
    (attempt : ModelTask ModelDownload) : Prop :=
  attempt.Follows (installPhases config) post (fun after _ => Handled operationId after) phase

/-- What stays with the operation in hand may raise with it in hand. -/
theorem drives_of_stays {post : ModelDownload → Prop} {attempt : ModelTask ModelDownload}
    (stays : Stays config operationId post attempt) :
    Drives config operationId (fun after value => after = .holding operationId ∧ post value)
      (.holding operationId) attempt := by
  apply Attempt.follows_mono stays
  · exact fun _ _ ended => ended
  · exact fun _ _ same => .inl same

theorem advanceTo_drives {toStatus : ModelDownloadStatus} (columns : DownloadColumns) :
    Drives config operationId (fun after row => InHand after row ∧ row.operationId = operationId ∧
      row.status = toStatus) (.holding operationId) (advanceTo operationId toStatus columns) := by
  apply phases_update (.inl rfl) (fun _ => rfl) fun _ => rfl
  · rintro now row _ rfl status other
    have set : row.status = toStatus := status toStatus rfl
    refine ⟨.holding ?_, rfl, set⟩
    rw [set]
    intro installing
    subst installing
    exact other rfl
  · rintro now row _ rfl target status
    refine ⟨.staging status, rfl, ?_⟩
    cases target
    exact status
  · intro _ same
    cases same
  · exact fun _ => .inl rfl

theorem beginDownload_drives (hand : InHand phase operation)
    (named : operation.operationId = operationId) :
    Drives config operationId (fun after row => InHand after row ∧ row.operationId = operationId)
      phase (beginDownload config operation) := by
  unfold beginDownload
  split
  next pending =>
    obtain rfl := hand.held (by rw [pending]; exact ModelDownloadStatus.noConfusion)
    rw [named]
    apply Attempt.follows_mono (advanceTo_drives _)
    · exact fun _ _ ⟨hand, named, _⟩ => ⟨hand, named⟩
    · exact fun _ _ handled => handled
  · exact Attempt.follows_pure ⟨hand, named⟩

theorem runDownload_drives (hand : InHand phase operation)
    (named : operation.operationId = operationId) :
    Drives config operationId (fun after row => InHand after row ∧ row.operationId = operationId)
      phase (runDownload config operation) := by
  unfold runDownload
  split
  next downloading =>
    obtain rfl := hand.held (by rw [downloading]; exact ModelDownloadStatus.noConfusion)
    rw [named]
    apply Attempt.follows_bind (drives_of_stays (reconcilePartial_stays named))
    rintro _ current ⟨rfl, same⟩
    rw [same]
    apply Attempt.follows_bind
    · apply Attempt.follows_mono (downloadSources_stays _ _ _ _ _)
      · exact fun _ _ ended => ended
      · exact fun _ _ same => .inl same
    · rintro _ outcome ⟨rfl, _⟩
      apply Attempt.follows_bind (drives_of_stays (saveProgress_stays _ _ _ _))
      rintro _ _ ⟨rfl, _⟩
      apply Attempt.follows_mono (advanceTo_drives _)
      · exact fun _ _ ⟨hand, named, _⟩ => ⟨hand, named⟩
      · exact fun _ _ handled => handled
  · exact Attempt.follows_pure ⟨hand, named⟩

theorem runVerify_drives (hand : InHand phase operation)
    (named : operation.operationId = operationId) :
    Drives config operationId (fun after row => InHand after row ∧ row.operationId = operationId)
      phase (runVerify config operation) := by
  unfold runVerify
  split
  next verifying =>
    obtain rfl := hand.held (by rw [verifying]; exact ModelDownloadStatus.noConfusion)
    rw [named]
    apply phases_quiet rfl rfl
    intro (files : FileTree)
    cases verifyTemp config files with
    | error error => exact Attempt.follows_throw (.inl rfl)
    | ok _ =>
      apply Attempt.follows_mono (advanceTo_drives _)
      · exact fun _ _ ⟨hand, named, _⟩ => ⟨hand, named⟩
      · exact fun _ _ handled => handled
  · exact Attempt.follows_pure ⟨hand, named⟩

/-- After the promotion there is only the record to write. -/
theorem complete_drives (installedPath : String) :
    Drives config operationId (fun after _ => after.isPlain = true) (.promoted operationId)
      (ModelTask.perform fun now => .complete operationId config.manifest.modelId
        config.manifest.version installedPath now) := by
  unfold ModelTask.perform
  apply Attempt.follows_call InstallAllowed.time
  intro now after moved
  cases moved with
  | quiet plain => cases plain
  | time =>
    apply Attempt.follows_call InstallAllowed.complete
    intro reply after moved
    cases moved with
    | quiet plain => cases plain
    | unchanged handled => obtain same | same := handled <;> cases same
    | completed => exact rfl

theorem runInstall_drives (hand : InHand phase operation)
    (named : operation.operationId = operationId) :
    Drives config operationId (fun after _ => after.isPlain = true) phase
      (runInstall config operation) := by
  subst named
  unfold runInstall
  split
  next installing =>
    cases hand with
    | holding earlier => exact absurd installing earlier
    | staging _ =>
      apply phases_quiet rfl rfl
      intro (files : FileTree)
      cases ready : stageTemp config files with
      | error error => exact Attempt.follows_throw (.inr rfl)
      | ok staged =>
        apply Attempt.follows_call (InstallAllowed.promote ready)
        intro promoted after moved
        cases moved with
        | quiet _ quiet => cases quiet
        | promoted => exact complete_drives _
        | notPromoted error => exact Attempt.follows_throw (.inr rfl)
    | resuming _ files =>
      apply Attempt.follows_call InstallAllowed.readAgain
      intro again after moved
      cases moved with
      | quiet plain => cases plain
      | readAgain ready =>
        rw [ready]
        apply Attempt.follows_call (InstallAllowed.promoteAgain ready)
        intro promoted after moved
        cases moved with
        | quiet plain => cases plain
        | promotedAgain => exact complete_drives _
  next earlier =>
    obtain rfl := hand.held earlier
    exact Attempt.follows_pure rfl

theorem driveOperation_drives (hand : InHand phase operation) :
    Drives config operation.operationId (fun after _ => after.isPlain = true) phase
      (driveOperation config operation) := by
  unfold driveOperation
  apply Attempt.follows_bind (beginDownload_drives hand rfl)
  rintro after current ⟨hand, named⟩
  apply Attempt.follows_bind (runDownload_drives hand named)
  rintro after current ⟨hand, named⟩
  apply Attempt.follows_bind (runVerify_drives hand named)
  rintro after current ⟨hand, named⟩
  exact runInstall_drives hand named

/-! ## The end -/

/-- An end at which no promotion waits for its record. -/
abbrev EndsPlain {α : Type} (config : InstallConfig) (phase : InstallPhase) (attempt : ModelTask α) :
    Prop :=
  attempt.Follows (installPhases config) (fun after _ => after.isPlain = true)
    (fun after _ => after.isPlain = true) phase

/-- The update of a handler, from either phase it may run in. -/
theorem handler_update {op : ℚ → ModelOp} (handled : Handled operationId phase)
    (names : ∀ now, (op now).updates = some operationId)
    (open_ : ∀ now, (op now).isComplete = false)
    (other : ∀ now, (op now).target ≠ some .installing) :
    (ModelTask.perform op).Follows (installPhases config) (fun after _ => Handled operationId after)
      (fun after _ => after.isPlain = true) phase := by
  apply phases_update handled names open_
  · exact fun _ _ _ _ _ _ => .inl rfl
  · exact fun now _ _ _ target _ => absurd target (other now)
  · exact fun _ _ => .inl rfl
  · exact fun _ => handled.plain

theorem markTerminal_plain (handled : Handled operationId phase) {toStatus : ModelDownloadStatus}
    (ends : toStatus = .failed ∨ toStatus = .cancelled) (errorCode : String) :
    EndsPlain config phase (markTerminal operationId toStatus errorCode) := by
  unfold markTerminal
  apply phases_quiet handled.plain rfl
  intro (operation : Option ModelDownload)
  cases operation with
  | none => exact Attempt.follows_throw handled.plain
  | some operation =>
    dsimp only
    split
    · exact Attempt.follows_pure handled.plain
    · apply Attempt.follows_mono (handler_update handled (fun _ => rfl) (fun _ => rfl) ?_)
      · exact fun _ _ handled => handled.plain
      · exact fun _ _ plain => plain
      · intro _ target
        obtain rfl | rfl := ends <;> cases target

theorem endFailed_plain (handled : Handled operationId phase) (error : InstallError) :
    EndsPlain config phase (endFailed operationId error) := by
  cases error with
  | download code | archive =>
    apply phases_quiet handled.plain rfl
    exact fun _ => markTerminal_plain handled (.inl rfl) _
  | _ => exact markTerminal_plain handled (.inl rfl) _

theorem endCancelled_plain (handled : Handled operationId phase) :
    EndsPlain config phase (endCancelled config operationId) := by
  unfold endCancelled
  apply phases_quiet handled.plain rfl
  intro (current : Option ModelDownload)
  split
  · apply phases_quiet handled.plain rfl
    intro (files : FileTree)
    apply Attempt.follows_bind (handler_update handled (fun _ => rfl) (fun _ => rfl) ?_)
    · exact fun after _ handled => markTerminal_plain handled (.inr rfl) _
    · intro _ target
      cases target
  · exact markTerminal_plain handled (.inr rfl) _

theorem finishOperation_plain (hand : InHand phase operation) :
    EndsPlain config phase (finishOperation config operation) := by
  apply Attempt.follows_tryCatch (driveOperation_drives hand)
  intro after error handled
  unfold endOperation
  split
  · exact endCancelled_plain handled
  · exact endFailed_plain handled _

/-! ## The beginning -/

theorem newDownload_isFor (prior : Option ModelDownload) (now : ℚ) :
    (newDownload config prior now).IsFor config :=
  ⟨rfl, rfl, Int.natCast_pos.2 config.manifest.primary.positive⟩

/-- With no operation under way one is created, or none is in hand. -/
theorem createOperation_follows (prior : Option ModelDownload) :
    (tryCatch (ModelTask.perform fun now => .create (newDownload config prior now))
      (reuseOperation config)).Follows (installPhases config) InHand
      (fun after _ => after.isPlain = true) .vacant := by
  apply @Attempt.follows_tryCatch _ _ _ _ _ _ _ _ _ (fun after _ => after = .vacant)
  · unfold ModelTask.perform
    apply phases_quiet rfl rfl
    intro now
    apply Attempt.follows_call (InstallAllowed.create (newDownload_isFor prior now))
    intro reply after moved
    cases moved with
    | quiet _ quiet => cases quiet
    | refused error => exact Attempt.follows_throw rfl
    | unchanged handled => obtain same | same := handled <;> cases same
    | created pending =>
      apply Attempt.follows_pure
      apply InHand.holding
      rw [pending]
      exact ModelDownloadStatus.noConfusion
  · rintro _ error rfl
    unfold reuseOperation
    split
    · apply Attempt.follows_call InstallAllowed.findAgain
      intro existing after moved
      cases moved with
      | quiet _ quiet => cases quiet
      | still => exact Attempt.follows_throw rfl
    · exact Attempt.follows_throw rfl

/-- The operation in hand is one of the manifest's version. -/
theorem getOrCreateOperation_follows (looks : phase = .idle ∨ ∃ files, phase = .pending files) :
    (getOrCreateOperation config).Follows (installPhases config) InHand
      (fun after _ => after.isPlain = true) phase := by
  unfold getOrCreateOperation
  obtain rfl | ⟨files, rfl⟩ := looks
  · apply Attempt.follows_call InstallAllowed.find
    intro active after moved
    cases moved with
    | quiet _ quiet => cases quiet
    | none =>
      apply phases_quiet rfl rfl
      exact createOperation_follows
    | other other =>
      dsimp only
      rw [if_pos other]
      exact Attempt.follows_throw rfl
    | found same hand =>
      dsimp only
      rw [if_neg (not_not_intro same)]
      exact Attempt.follows_pure hand
  · apply Attempt.follows_call InstallAllowed.findPending
    intro active after moved
    cases moved with
    | quiet plain => cases plain
    | resumed same installing =>
      dsimp only
      rw [if_neg (not_not_intro same)]
      exact Attempt.follows_pure (.resuming installing files)

/-- While the files of an earlier run wait for their record, no version counts as installed. -/
theorem alreadyActive_follows (looks : phase = .idle ∨ ∃ files, phase = .pending files) :
    (alreadyActive config).Follows (installPhases config)
      (fun after existing => after = phase ∧ (existing.isSome = true → phase.isPlain = true))
      (fun after _ => after.isPlain = true) phase := by
  unfold alreadyActive
  obtain rfl | ⟨files, rfl⟩ := looks
  · apply phases_quiet rfl rfl
    intro (active : Option ActiveModel)
    split
    · apply phases_quiet rfl rfl
      intro (installed : Option ModelInstall)
      cases installed with
      | none => exact Attempt.follows_pure ⟨rfl, fun _ => rfl⟩
      | some install =>
        apply phases_quiet rfl rfl
        exact fun _ => Attempt.follows_pure ⟨rfl, fun _ => rfl⟩
    · exact Attempt.follows_pure ⟨rfl, fun _ => rfl⟩
  · apply Attempt.follows_call InstallAllowed.active
    intro active after moved
    cases moved with
    | quiet plain => cases plain
    | active =>
      split
      · apply Attempt.follows_call InstallAllowed.installed
        intro installed after moved
        cases moved with
        | quiet plain => cases plain
        | notInstalled => exact Attempt.follows_pure ⟨rfl, fun existing => nomatch existing⟩
      · exact Attempt.follows_pure ⟨rfl, fun existing => nomatch existing⟩

/-- The whole task. -/
theorem installModel_follows (looks : phase = .idle ∨ ∃ files, phase = .pending files)
    (releasable : isReleasable config.catalog config.manifest = true) :
    EndsPlain config phase (installModel config) := by
  unfold installModel
  rw [if_pos releasable]
  apply Attempt.follows_bind (alreadyActive_follows looks)
  rintro _ existing ⟨rfl, plain⟩
  cases existing with
  | some existing => exact Attempt.follows_pure (plain rfl)
  | none =>
    apply Attempt.follows_bind (getOrCreateOperation_follows looks)
    intro after operation hand
    exact finishOperation_plain hand

end

end EvoBlue.Guarantees
