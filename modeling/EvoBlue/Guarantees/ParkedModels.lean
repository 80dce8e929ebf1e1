import EvoBlue.Source.PipelineRows

/-!
# Parked jobs can be woken

A job parked for a model names the model, and an install of that model finds it.
The one way out is a provider that disappears between the pin of its route and
the second look at the registry.
-/

namespace EvoBlue.Guarantees

open EvoBlue.Kernel EvoBlue.Source EvoBlue.Source.Pipeline

/-- The recommendation is a model of the built-in catalog. -/
def Wakeable (recommended : Option String) : Prop :=
  ∃ modelId ∈ recommended, (providerOfModel modelId).isSome = true

def isParking (outcome : StageOutcome) : Bool :=
  outcome.errorCode.isNone && outcome.target = some .waitingForModel

/-- The handler is about to park its job. -/
def parks : Stage → Bool
  | .done (.returned outcome) => isParking outcome
  | _ => false

/-- The answer says that a provider is gone, and the handler parks its job for it. -/
def parksLookup : (call : Call) → (Answer call → Stage) → Answer call → Bool
  | .getProvider _, next, answer => !answer && parks (next answer)
  | _, _, _ => false

/-- The recommendation that is pinned after a call. -/
def pinnedAfter (pinned : Option (Option String)) : Call → Option (Option String)
  | .pinJobAsrRoute _ _ _ recommendationModelId => some recommendationModelId
  | _ => pinned

/-- With no lookup that parks, the handler parks only with a recommendation of the
catalog pinned; `pinned` is what it has pinned so far. -/
def ParksKnown : Stage → Option (Option String) → Prop
  | .done exit, pinned => ∀ outcome, exit = .returned outcome → isParking outcome = true →
      ∃ recommended ∈ pinned, Wakeable recommended
  | .ask call next, pinned => ∀ answer, parksLookup call next answer = false →
      ParksKnown (next answer) (pinnedAfter pinned call)

/-! ## The handlers -/

theorem parksKnown_bind {α : Type} {post : α → Prop} {first : Await α} {next : α → Stage}
    {pinned : Option (Option String)}
    (silent : first.Keeps (fun call => ∀ known, pinnedAfter known call = known) (fun _ _ => True)
      post)
    (goes : ∀ value, post value → ParksKnown (next value) pinned) :
    ParksKnown (first >>= next) pinned := by
  induction first with
  | done value => exact goes value silent
  | ask call rest ih =>
    intro answer _
    rw [silent.1 pinned]
    exact ih answer (silent.2 answer trivial)

/-- A handler that never parks. -/
theorem parksKnown_of_yields {stage : Stage}
    (yields : stage.Yields (fun _ _ => True) fun outcome => isParking outcome = false)
    (pinned : Option (Option String)) : ParksKnown stage pinned := by
  induction stage generalizing pinned with
  | done exit =>
    intro outcome returned parking
    rw [yields outcome returned] at parking
    cases parking
  | ask call next ih => exact fun answer _ => ih answer (yields.2 answer trivial) _

section

variable {env : HandlerEnv} {job : Job}

theorem not_parking_of_returnable (stage : job.status ≠ .transcribing) {outcome : StageOutcome}
    (returnable : Returnable env job outcome) : isParking outcome = false := by
  refine Bool.eq_false_iff.2 fun parking => ?_
  simp only [isParking, Bool.and_eq_true, Option.isNone_iff_eq_none, decide_eq_true_eq] at parking
  rcases returnable with failed | ⟨_, _, target, targeted, listed, _⟩
  · rw [parking.1] at failed
    cases failed
  · rw [parking.2] at targeted
    cases targeted
    cases registers : outcome.artifact.map (·.artifactType) with
    | some artifactType =>
      rw [registers] at listed
      cases stageProducts_artifact listed
    | none =>
      rw [registers] at listed
      rcases stageProducts_plain listed with h | ⟨h, _⟩ | h
      · cases h
      · exact stage h
      · cases h

theorem transcribeAudio_unparked (providerId : String) :
    (transcribeAudio env job providerId).Yields (fun _ _ => True)
      fun outcome => isParking outcome = false := by
  refine Stage.yields_call fun audio _ => ?_
  split
  · refine Stage.yields_call fun content _ => Stage.yields_call fun checkpoint _ => ?_
    refine Stage.yields_orRaise fun completed _ => Stage.yields_call fun _ _ => ?_
    refine Stage.yields_call fun transcription _ => Stage.yields_bind fun _ => ?_
    unfold transcribed
    split
    next error _ =>
      refine Stage.yields_returned ?_
      have failed := asrOutcome_error error
      unfold isParking
      cases reported : (asrOutcome error).errorCode with
      | none => rw [reported] at failed; cases failed
      | some errorCode => rfl
    · exact Stage.yields_returned rfl
  · exact Stage.yields_returned rfl

/-- A decision can be parked on: it needs no model, or its model is in the catalog. -/
def OptionKnown (option : ProviderOption) : Prop :=
  option.installed = true ∨ (providerOfModel option.modelId).isSome = true

theorem customOptions_known (providerIds : List String) :
    (customOptions providerIds).Keeps (fun call => ∀ known, pinnedAfter known call = known)
      (fun _ _ => True) fun options => ∀ option ∈ options, OptionKnown option := by
  induction providerIds with
  | nil => exact fun _ mem => nomatch mem
  | cons providerId rest ih =>
    refine Process.keeps_call_bind (fun _ => rfl) fun registered _ => ?_
    cases registered with
    | false => exact ih
    | true =>
      refine Process.keeps_call_bind (fun _ => rfl) fun capabilities _ => ?_
      refine Process.keeps_bind ih fun options known option mem => ?_
      rcases List.mem_cons.1 mem with rfl | later
      · exact .inl rfl
      · exact known option later

theorem providerOptions_known :
    providerOptions.Keeps (fun call => ∀ known, pinnedAfter known call = known)
      (fun _ _ => True) fun options => ∀ option ∈ options, OptionKnown option := by
  refine Process.keeps_call_bind (fun _ => rfl) fun installedIds _ => ?_
  refine Process.keeps_call_bind (fun _ => rfl) fun installedModels _ => ?_
  refine Process.keeps_bind (customOptions_known _) fun custom known option mem => ?_
  rcases List.mem_append.1 mem with builtin | later
  · refine .inr ?_
    rw [(builtinOptions_known builtin).1]
    rfl
  · exact known option later

theorem transcribingHandler_parksKnown (asrProviderId : String) :
    ParksKnown (transcribingHandler env asrProviderId job) none := by
  refine parksKnown_bind providerOptions_known fun options known => ?_
  split
  · exact parksKnown_of_yields (Stage.yields_returned rfl) _
  next routed chosen =>
    obtain ⟨option, mem, rfl⟩ := routeAsr_from chosen
    intro _ _ _ _
    change ParksKnown (EvoBlue.Source.routed env job (decision option))
      (some (if (decision option).recommendation then some (decision option).modelId else none))
    unfold EvoBlue.Source.routed
    cases ready : option.installed with
    | false =>
      have model := (known option mem).resolve_left (by rw [ready]; decide)
      simp only [decision, ready]
      rintro _ ⟨⟩ _
      exact ⟨_, rfl, option.modelId, rfl, model⟩
    | true =>
      simp only [decision, ready]
      intro registered present
      cases registered with
      | false => cases present
      | true => exact parksKnown_of_yields (transcribeAudio_unparked _) _

theorem productionHandler_parksKnown {asrProviderId : String} {handler : Stage}
    (handles : productionHandler env asrProviderId job = some handler) :
    ParksKnown handler none := by
  by_cases stage : job.status = .transcribing
  · unfold productionHandler at handles
    rw [stage] at handles
    cases handles
    exact transcribingHandler_parksKnown asrProviderId
  · refine parksKnown_of_yields ?_ none
    refine Process.keeps_mono ?_ (productionHandler_yields handles)
    exact fun exit returns outcome returned => not_parking_of_returnable stage (returns outcome returned)

end

/-! ## The invariant -/

variable {config : PipelineConfig} {pipeline : Pipeline}

/-- While the owner holds the lease of the job, this is what the row recommends. -/
def Recommends (jobs : JobsDb) (owner jobId : String) (pinned : Option (Option String)) : Prop :=
  ∀ recommended ∈ pinned, ∀ row, jobs.findJob jobId = some row → row.leaseOwner = some owner →
    row.asrRecommendationModelId = recommended

/-- What a worker knows of the recommendation of its job. -/
def WorkerKnows (jobs : JobsDb) (owner : String) : WorkerStage → Prop
  | .handling job rest => ∃ pinned, Recommends jobs owner job.jobId pinned ∧ ParksKnown rest pinned
  | .returned job outcome => isParking outcome = true →
      ∃ recommended, Recommends jobs owner job.jobId (some recommended) ∧ Wakeable recommended
  | .failing _ _ _ => True

/-- A parked job waits for a model of the catalog, and a resume for that model selects it. -/
def CanBeWoken (row : Job) : Prop :=
  row.status = .waitingForModel →
    ∃ modelId, row.asrRecommendationModelId = some modelId ∧
      (providerOfModel modelId).isSome = true ∧ isResumable modelId row = true

structure ParkedKnown (config : PipelineConfig) (pipeline : Pipeline) : Prop where
  formed : PipelineFormed config pipeline
  rows : ∀ row ∈ pipeline.db.jobs.jobs, CanBeWoken row
  workers : ∀ owner run, pipeline.workers owner = some run →
    WorkerKnows pipeline.db.jobs owner run.stage

def lookupMisses (providers : List String) : (call : Call) → (Answer call → Stage) → Bool
  | .getProvider providerId, next => !providers.contains providerId && parks (next false)
  | _, _ => false

/-- The event is the handler's second look at the registry, and the provider whose
route was pinned is no longer there. -/
def providerVanished (pipeline : Pipeline) : PipelineEvent → Bool
  | .answer owner _ _ =>
    match pipeline.workers owner with
    | some ⟨.handling _ (.ask call next), _⟩ => lookupMisses pipeline.providers call next
    | _ => false
  | _ => false

/-- The recommendation of a leased job is changed by its own worker alone. -/
theorem rowMove_recommendation {owner : String} {run : WorkerRun} {event : PipelineEvent}
    {row after : Job} (working : pipeline.workers owner = some run)
    (unsettled : Unsettled owner run event) (moved : RowMove config pipeline event row after)
    (owned : after.leaseOwner = some owner) :
    after.asrRecommendationModelId = row.asrRecommendationModelId ∨
      ∃ now outside job call next, event = .answer owner now outside ∧
        run.stage = .handling job (.ask call next) ∧ ∃ pinned, pinnedAfter pinned call ≠ pinned := by
  cases moved with
  | unchanged => exact .inl rfl
  | claimed => exact .inl rfl
  | recovered => exact .inl rfl
  | cancelRequested now active =>
    unfold cancelRequestedRow
    split <;> exact .inl rfl
  | resumed => cases owned
  | landed => exact .inl rfl
  | exhausted => exact .inl rfl
  | @pinned actor now outside job _ providerId modelId modelVersion recommendationModelId next
      snapshot asking own held =>
    have holder : row.leaseOwner = some actor := by
      simp only [pinGuard, Bool.and_eq_true, decide_eq_true_eq] at held
      exact held.1.2
    have same : row.leaseOwner = some owner := owned
    rw [holder] at same
    cases same
    rw [asking] at working
    cases working
    exact .inr ⟨now, outside, job, _, next, rfl, rfl, none, by simp [pinnedAfter]⟩
  | renewed => exact .inl rfl
  | @settled actor dueNow now job _ displayed view outcome snapshot returned own shown =>
    obtain ⟨_, _, _, _, _, _, _, _, _, _, same⟩ :=
      outcomeValues_frame view row config.leaseSeconds dueNow now outcome displayed
    obtain ⟨title, platform, subtitleProbe, frame⟩ :=
      displayedRow_frame (outcomeDisplay outcome) row
    rw [same, shown, frame]
    exact .inl rfl
  | broken => exact .inl rfl

/-- What a worker knows of the recommendation stays true while it pins none itself. -/
theorem recommends_step (keyed : pipeline.db.jobs.Keyed) {owner : String} {run : WorkerRun}
    {event : PipelineEvent} (working : pipeline.workers owner = some run)
    (unsettled : Unsettled owner run event)
    (unpinned : ∀ now outside job call next, event = .answer owner now outside →
      run.stage = .handling job (.ask call next) → ∀ pinned, pinnedAfter pinned call = pinned)
    {jobId : String} {pinned : Option (Option String)}
    (recommends : Recommends pipeline.db.jobs owner jobId pinned) :
    Recommends (pipeline.step config event).db.jobs owner jobId pinned := by
  intro recommended known after found owned
  cases before : pipeline.db.jobs.findJob jobId with
  | none =>
    obtain ⟨submission, fingerprint, url, id, _, rfl⟩ := step_unknown keyed before found
    cases owned
  | some row =>
    obtain ⟨moved, foundMoved, move⟩ := @step_moved config _ keyed event _ _ before
    rw [found] at foundMoved
    cases foundMoved
    obtain ⟨held, _⟩ := move.tenant working unsettled owned
    rcases rowMove_recommendation working unsettled move owned with
      same | ⟨now, outside, job, call, next, answers, asking, known, pins⟩
    · exact same.trans (recommends recommended known row before held)
    · exact absurd (unpinned now outside job call next answers asking known) pins

/-- A pin that succeeds is what the row recommends. -/
theorem pinned_findJob (keyed : pipeline.db.jobs.Keyed) {owner : String} {job : Job} {now : Time}
    {providerId modelId modelVersion : String} {recommendationModelId : Option String}
    (given : replyDone (operate config pipeline.db (.pinJobAsrRoute job.jobId owner now providerId
      modelId modelVersion recommendationModelId)).1 = some ()) :
    ∀ row, (operate config pipeline.db (.pinJobAsrRoute job.jobId owner now providerId modelId
        modelVersion recommendationModelId)).2.jobs.findJob job.jobId = some row →
      row.asrRecommendationModelId = recommendationModelId := by
  have effect := exec_effect config.submit keyed (.pinJobAsrRoute job.jobId owner now providerId
    modelId modelVersion recommendationModelId)
  unfold operate at given ⊢
  simp only at given ⊢
  generalize (exec config.submit (.pinJobAsrRoute job.jobId owner now providerId modelId
    modelVersion recommendationModelId) pipeline.db.jobs).1 = reply at effect given
  generalize (exec config.submit (.pinJobAsrRoute job.jobId owner now providerId modelId
    modelVersion recommendationModelId) pipeline.db.jobs).2 = after at effect
  generalize named : job.jobId = jobId at effect
  intro row found
  cases effect with
  | raised => cases given
  | pinned mem _ _ _ _ held computed =>
    subst computed
    have written := JobsDb.findJob_modified (keyed.findJob_of_mem mem)
      (fun row => (rfl : (pinnedRow providerId modelId modelVersion recommendationModelId now
        row).jobId = row.jobId))
    rw [written] at found
    cases found
    rfl

theorem answered_recommends (keyed : pipeline.db.jobs.Keyed) {owner : String} {job : Job}
    {call : Call} {next : Answer call → Stage} {snapshot : Option PipelineDb} {now : Time}
    {outside : ∀ call, Answer call} {value : Answer call}
    (working : pipeline.workers owner = some ⟨.handling job (.ask call next), snapshot⟩)
    (given : (answerCall config pipeline owner job snapshot now outside call).answer = some value)
    {pinned : Option (Option String)}
    (recommends : Recommends pipeline.db.jobs owner job.jobId pinned) :
    Recommends (pipeline.step config (.answer owner now outside)).db.jobs owner job.jobId
      (pinnedAfter pinned call) := by
  by_cases silent : ∀ known, pinnedAfter known call = known
  · rw [silent pinned]
    refine recommends_step keyed working (.inr ⟨job, _, rfl⟩) ?_ recommends
    rintro _ _ _ _ _ _ ⟨⟩ known
    exact silent known
  · cases call with
    | pinJobAsrRoute providerId modelId modelVersion recommendationModelId =>
      have stepped : (pipeline.step config (.answer owner now outside)).db.jobs = (operate config
          pipeline.db (.pinJobAsrRoute job.jobId owner now providerId modelId modelVersion
            recommendationModelId)).2.jobs := by
        rw [@step_jobs config pipeline (.answer owner now outside) rfl]
        simp only [eventOp, working, answerOp, callOp]
        rfl
      rintro _ ⟨⟩ row found _
      rw [stepped] at found
      exact pinned_findJob keyed given row found
    | _ => exact absurd (fun _ => rfl) silent

theorem rowMove_canBeWoken (known : ParkedKnown config pipeline) {event : PipelineEvent}
    {row after : Job} (mem : row ∈ pipeline.db.jobs.jobs)
    (moved : RowMove config pipeline event row after) : CanBeWoken after := by
  intro waits
  have before := known.rows row mem
  cases moved with
  | unchanged => exact before waits
  | claimed free claimable =>
    have running := ((known.formed.rows row mem).claimStatus claimable).1
    change (claimStatus row).1 = .waitingForModel at waits
    rw [waits] at running
    cases running
  | recovered => exact before waits
  | cancelRequested now active =>
    unfold cancelRequestedRow at waits ⊢
    split at waits
    · cases waits
    next busy =>
      refine absurd ?_ busy
      change row.status = .waitingForModel at waits
      simp [isIdle, waits]
  | pinned _ _ held =>
    simp only [pinGuard, Bool.and_eq_true, decide_eq_true_eq] at held
    have transcribing := held.1.1.2
    change row.status = .waitingForModel at waits
    rw [transcribing] at waits
    cases waits
  | renewed => exact before waits
  | @settled owner dueNow now job _ displayed view outcome snapshot returned own shown viewed held =>
    obtain ⟨_, _, handled, _, returnable⟩ := known.formed.workers owner _ returned
    obtain ⟨noError, target, uncancelled⟩ :=
      (outcomeValues_end returnable _ _ _ _ _ _).waiting waits
    obtain ⟨recommended, recommends, wakeable⟩ :=
      known.workers owner _ returned (by simp [isParking, noError, target])
    have found := known.formed.keyed.findJob_of_mem mem
    rw [own] at found
    have same := recommends recommended rfl row found (leaseGuard_iff.1 held).2.2.1
    obtain ⟨_, _, _, _, _, _, _, _, _, _, kept⟩ :=
      outcomeValues_frame view row config.leaseSeconds dueNow now outcome displayed
    obtain ⟨title, platform, subtitleProbe, frame⟩ :=
      displayedRow_frame (outcomeDisplay outcome) row
    obtain ⟨modelId, rfl, inCatalog⟩ := wakeable
    rw [kept, shown, frame] at waits ⊢
    exact ⟨modelId, same, inCatalog, by simpa [isResumable, same, uncancelled] using waits⟩
  | _ => cases waits

/-- Unless the event is the look that misses its provider, the answer does not park the job. -/
theorem parksLookup_of_present {owner : String} {now : Time} {outside : ∀ call, Answer call}
    {job : Job} {call : Call} {next : Answer call → Stage} {snapshot : Option PipelineDb}
    {value : Answer call}
    (working : pipeline.workers owner = some ⟨.handling job (.ask call next), snapshot⟩)
    (given : (answerCall config pipeline owner job snapshot now outside call).answer = some value)
    (present : providerVanished pipeline (.answer owner now outside) = false) :
    parksLookup call next value = false := by
  simp only [providerVanished, working] at present
  cases call with
  | getProvider providerId =>
    cases given
    cases registered : pipeline.providers.contains providerId with
    | true => rfl
    | false =>
      simp only [lookupMisses, registered] at present
      simpa only [parksLookup] using present
  | _ => rfl

theorem workerKnows_step (known : ParkedKnown config pipeline) {event : PipelineEvent}
    (present : providerVanished pipeline event = false) {owner : String} {run : WorkerRun}
    (works : (pipeline.step config event).workers owner = some run) :
    WorkerKnows (pipeline.step config event).db.jobs owner run.stage := by
  have keyed := known.formed.keyed
  have moves := @step_worker config _ keyed owner event
  rw [works] at moves
  cases moves with
  | unchanged working quiet =>
    have before := known.workers owner run working
    have keeps : ∀ {jobId pinned}, Recommends pipeline.db.jobs owner jobId pinned →
        Recommends (pipeline.step config event).db.jobs owner jobId pinned := by
      intro jobId pinned recommends
      refine recommends_step keyed working quiet.unsettled ?_ recommends
      intro now outside job call next answers asking
      exact absurd asking (quiet.unanswered now outside answers job call next)
    rcases run with ⟨stage, snapshot⟩
    cases stage with
    | handling job rest =>
      obtain ⟨pinned, recommends, parks⟩ := before
      exact ⟨pinned, keeps recommends, parks⟩
    | returned job outcome =>
      intro parking
      obtain ⟨recommended, recommends, wakeable⟩ := before parking
      exact ⟨recommended, keeps recommends, wakeable⟩
    | failing job loaded detail => trivial
  | begun found begins =>
    unfold beginStage at begins
    split at begins
    · cases begins
    · split at begins
      next handler handles =>
        cases begins
        exact ⟨none, fun _ absent => (nomatch absent), productionHandler_parksKnown handles⟩
      next =>
        cases begins
        trivial
  | answered working given =>
    obtain ⟨pinned, recommends, parks⟩ := known.workers owner _ working
    exact ⟨_, answered_recommends keyed working given recommends,
      parks _ (parksLookup_of_present working given present)⟩
  | broke => trivial
  | @refreshed job row outcome snapshot working found =>
    obtain ⟨pinned, recommends, parks⟩ := known.workers owner _ working
    intro parking
    obtain ⟨recommended, pins, wakeable⟩ := parks outcome rfl parking
    refine ⟨recommended, ?_, wakeable⟩
    rw [JobsDb.jobId_of_findJob found]
    cases pins
    refine recommends_step keyed working (.inr ⟨job, _, rfl⟩) ?_ recommends
    intro now outside job call next answers
    cases answers

theorem parkedKnown_step (known : ParkedKnown config pipeline) {event : PipelineEvent}
    (present : providerVanished pipeline event = false) :
    ParkedKnown config (pipeline.step config event) where
  formed := formed_step known.formed event
  rows := by
    intro after mem
    have found := (formed_step known.formed event).keyed.findJob_of_mem mem
    cases before : pipeline.db.jobs.findJob after.jobId with
    | none =>
      obtain ⟨submission, fingerprint, url, id, _, rfl⟩ :=
        step_unknown known.formed.keyed before found
      exact fun waits => nomatch waits
    | some row =>
      obtain ⟨moved, foundMoved, move⟩ := @step_moved config _ known.formed.keyed event _ _ before
      rw [found] at foundMoved
      cases foundMoved
      exact rowMove_canBeWoken known (JobsDb.mem_of_findJob before) move
  workers _ _ works := workerKnows_step known present works

/-- In every run in which no provider vanishes between the pin of its route and
the handler's second look at the registry, every job that waits for a model, in
every state the run reaches, recommends a model of the catalog, and is selected
by a resume for it. -/
theorem parked_jobs_wakeable (config : PipelineConfig) (events : List PipelineEvent)
    (present : Meets (step config) (fun pipeline event => providerVanished pipeline event = false)
      {} events) :
    ∀ row ∈ (after config events).db.jobs.jobs, CanBeWoken row := by
  refine (@run_of_meets _ _ (step config) _ (ParkedKnown config) ?_ _ _ ?_ present).rows
  · exact fun _ _ present known => parkedKnown_step known present
  · exact ⟨formed_empty config, fun _ mem => (nomatch mem), fun _ _ works => nomatch works⟩

/-- The sample job waits for a model, and an install wakes it. -/
theorem parked_jobs_wakeable_sample :
    Meets (step sampleConfig) (fun pipeline event => providerVanished pipeline event = false) {}
      ([.submitVideo (sampleSubmission "job-1" 0), .claim "worker-a" 1] ++
        sampleWork "worker-a" 2) ∧
    ∀ row ∈ (after sampleConfig ([.submitVideo (sampleSubmission "job-1" 0),
      .claim "worker-a" 1] ++ sampleWork "worker-a" 2)).db.jobs.jobs, CanBeWoken row := by
  have present : Meets (step sampleConfig) (fun pipeline event =>
      providerVanished pipeline event = false) {} ([.submitVideo (sampleSubmission "job-1" 0),
        .claim "worker-a" 1] ++ sampleWork "worker-a" 2) := by
    decide +kernel
  exact ⟨present, parked_jobs_wakeable sampleConfig _ present⟩

/-- The model is installed when the handler reads its options and pins the route,
and uninstalled before it looks for the provider again. -/
def vanishingProvider : List PipelineEvent :=
  [.submitVideo (sampleSubmission "job-1" 0), .install "sensevoice-small-int8",
    .register ["sherpa-onnx-standard"], .claim "worker-a" 1] ++
    sampleStage "worker-a" 1 2 ++ sampleStage "worker-a" 1 2 ++ sampleStage "worker-a" 2 2 ++
    List.replicate 4 (.answer "worker-a" 3 sampleAnswers) ++
    [.uninstall "sensevoice-small-int8", .register []] ++ sampleStage "worker-a" 1 4

theorem vanished_provider_parks_for_good :
    ¬ ∀ config events, ∀ row ∈ (after config events).db.jobs.jobs, CanBeWoken row := by
  intro stated
  have parked : ∃ row ∈ (after sampleConfig vanishingProvider).db.jobs.jobs,
      row.status = .waitingForModel ∧ row.asrRecommendationModelId = none := by
    decide +kernel
  obtain ⟨row, mem, waits, unknown⟩ := parked
  obtain ⟨modelId, named, _⟩ := stated sampleConfig vanishingProvider row mem waits
  rw [unknown] at named
  cases named

end EvoBlue.Guarantees
