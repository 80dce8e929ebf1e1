import EvoBlue.Kernel.Process

/-!
# Processes that follow a protocol

A protocol says, phase by phase, which calls are allowed and which answers lead to which
phase. `Follows` reads off the text of a process that it makes no other call, whatever it
is answered, and that it ends in a value that fits the phase it is then in. The phase may
be as little as a flag or as much as the state of the world; run against a world that
answers as the protocol has it, the process ends as it promised.

A process that may raise is one whose value is an exception or a result; the rules for
`bind` and `tryCatch` follow the exception.
-/

namespace EvoBlue.Kernel

/-- The calls of a phase, and the phases that answers lead to. -/
structure Protocol (Call : Type) (Answer : Call → Type) (μ : Type) where
  allowed : μ → Call → Prop
  moves : μ → ∀ call, Answer call → μ → Prop

namespace Process

variable {Call : Type} {Answer : Call → Type} {μ α β : Type}

def Follows (protocol : Protocol Call Answer μ) (post : μ → α → Prop) :
    μ → Process Call Answer α → Prop
  | phase, .done value => post phase value
  | phase, .ask call next => protocol.allowed phase call ∧
      ∀ answer after, protocol.moves phase call answer after → (next answer).Follows protocol post after

variable {protocol : Protocol Call Answer μ} {phase : μ}

theorem follows_mono {post weaker : μ → α → Prop}
    (implies : ∀ after value, post after value → weaker after value)
    {process : Process Call Answer α} (follows : process.Follows protocol post phase) :
    process.Follows protocol weaker phase := by
  induction process generalizing phase with
  | done value => exact implies phase value follows
  | ask call next ih =>
    refine ⟨follows.1, fun answer after moved => ?_⟩
    exact ih answer (follows.2 answer after moved)

theorem follows_bind {middle : μ → α → Prop} {post : μ → β → Prop}
    {first : Process Call Answer α} {next : α → Process Call Answer β}
    (starts : first.Follows protocol middle phase)
    (goes : ∀ after value, middle after value → (next value).Follows protocol post after) :
    (first >>= next).Follows protocol post phase := by
  induction first generalizing phase with
  | done value => exact goes phase value starts
  | ask call rest ih =>
    refine ⟨starts.1, fun answer after moved => ?_⟩
    exact ih answer (starts.2 answer after moved)

/-! ## Runs against a world -/

variable {σ : Type}

/-- Value and world when every call is answered by the world. -/
def exec (answer : ∀ call, σ → Answer call × σ) : Process Call Answer α → σ → α × σ
  | .done value, world => (value, world)
  | .ask call next, world =>
    (next (answer call world).1).exec answer (answer call world).2

variable {answer : ∀ call, σ → Answer call × σ}

theorem exec_bind (first : Process Call Answer α) (next : α → Process Call Answer β) (world : σ) :
    (first >>= next).exec answer world =
      (next (first.exec answer world).1).exec answer (first.exec answer world).2 := by
  induction first generalizing world with
  | done value => rfl
  | ask call rest ih => exact ih _ _

/-- Against any world whose answers are moves of the protocol, as seen through `view`, the
process ends as it promised. -/
theorem exec_of_follows {view : σ → μ} {post : μ → α → Prop}
    (answers : ∀ call world, protocol.moves (view world) call (answer call world).1
      (view (answer call world).2))
    {process : Process Call Answer α} {before : σ}
    (follows : process.Follows protocol post (view before)) :
    post (view (process.exec answer before).2) (process.exec answer before).1 := by
  induction process generalizing before with
  | done value => exact follows
  | ask call next ih => exact ih _ (follows.2 _ _ (answers call before))

/-- The calls of a run, each with the world it is made in. -/
def moments (answer : ∀ call, σ → Answer call × σ) : Process Call Answer α → σ → List (σ × Call)
  | .done _, _ => []
  | .ask call next, world =>
    (world, call) :: (next (answer call world).1).moments answer (answer call world).2

/-- Every call of the run is one the protocol allows in the phase it is made in. -/
theorem allowed_of_follows {view : σ → μ} {post : μ → α → Prop}
    (answers : ∀ call world, protocol.moves (view world) call (answer call world).1
      (view (answer call world).2))
    {process : Process Call Answer α} {before : σ}
    (follows : process.Follows protocol post (view before)) :
    ∀ moment ∈ process.moments answer before, protocol.allowed (view moment.1) moment.2 := by
  induction process generalizing before with
  | done value =>
    intro moment mem
    cases mem
  | ask call next ih =>
    intro moment mem
    rcases List.mem_cons.1 mem with rfl | later
    · exact follows.1
    · exact ih _ (follows.2 _ _ (answers call before)) moment later

end Process

/-! ## Exceptions -/

/-- A process that may raise. -/
abbrev Attempt (Call : Type) (Answer : Call → Type) (ε α : Type) :=
  ExceptT ε (Process Call Answer) α

namespace Attempt

variable {Call : Type} {Answer : Call → Type} {μ ε α β : Type}

/-- One call, which does not raise by itself. -/
def call (call : Call) : Attempt Call Answer ε (Answer call) :=
  ExceptT.mk (.ask call fun answer => .done (.ok answer))

/-- An exception ends the run of a sequence. -/
theorem exec_bind {σ : Type} (answer : ∀ call, σ → Answer call × σ) (first : Attempt Call Answer ε β)
    (next : β → Attempt Call Answer ε α) (world : σ) :
    (first >>= next).run.exec answer world =
      match first.run.exec answer world with
      | (.ok value, after) => (next value).run.exec answer after
      | (.error error, after) => (.error error, after) := by
  refine (Process.exec_bind first.run _ world).trans ?_
  rcases first.run.exec answer world with ⟨_ | _, _⟩ <;> rfl

/-- An exception goes to the handler. -/
theorem exec_tryCatch {σ : Type} (answer : ∀ call, σ → Answer call × σ)
    (body : Attempt Call Answer ε α) (handle : ε → Attempt Call Answer ε α) (world : σ) :
    (tryCatch body handle).run.exec answer world =
      match body.run.exec answer world with
      | (.ok value, after) => (.ok value, after)
      | (.error error, after) => (handle error).run.exec answer after := by
  refine (Process.exec_bind body.run _ world).trans ?_
  rcases body.run.exec answer world with ⟨_ | _, _⟩ <;> rfl

/-- One call that may raise; what it raises is raised. -/
def ask {Reply : Call → Type} (call : Call) :
    Attempt Call (fun call => Except ε (Reply call)) ε (Reply call) := ExceptT.mk (.ask call .done)

theorem exec_ask {σ : Type} {Reply : Call → Type}
    (answer : ∀ call, σ → Except ε (Reply call) × σ) (asked : Call) (world : σ) :
    (Attempt.ask asked).run.exec answer world = answer asked world := rfl

/-- A result is a value of `post`, an exception one of `raises`. -/
def Ends (post : μ → α → Prop) (raises : μ → ε → Prop) (phase : μ) : Except ε α → Prop
  | .ok value => post phase value
  | .error error => raises phase error

/-- The calls follow the protocol, and so do the ends. -/
def Follows (protocol : Protocol Call Answer μ) (post : μ → α → Prop) (raises : μ → ε → Prop)
    (phase : μ) (attempt : Attempt Call Answer ε α) : Prop :=
  Process.Follows protocol (Ends post raises) phase attempt.run

variable {protocol : Protocol Call Answer μ} {phase : μ} {post weaker : μ → α → Prop}
  {raises weakerRaises : μ → ε → Prop}

theorem follows_pure {value : α} (holds : post phase value) :
    (pure value : Attempt Call Answer ε α).Follows protocol post raises phase := holds

theorem follows_throw {error : ε} (holds : raises phase error) :
    (throw error : Attempt Call Answer ε α).Follows protocol post raises phase := holds

theorem follows_mono {attempt : Attempt Call Answer ε α}
    (follows : attempt.Follows protocol post raises phase)
    (implies : ∀ after value, post after value → weaker after value)
    (raised : ∀ after error, raises after error → weakerRaises after error) :
    attempt.Follows protocol weaker weakerRaises phase := by
  refine Process.follows_mono ?_ follows
  intro after result ended
  cases result with
  | ok value => exact implies after value ended
  | error error => exact raised after error ended

/-- In sequence; what the first part raises is raised. -/
theorem follows_bind {middle : μ → β → Prop} {first : Attempt Call Answer ε β}
    {next : β → Attempt Call Answer ε α} (starts : first.Follows protocol middle raises phase)
    (goes : ∀ after value, middle after value → (next value).Follows protocol post raises after) :
    (first >>= next).Follows protocol post raises phase := by
  refine Process.follows_bind starts ?_
  intro after result ended
  cases result with
  | ok value => exact goes after value ended
  | error error => exact ended

/-- One call, then the rest. -/
theorem follows_call {asked : Call} {next : Answer asked → Attempt Call Answer ε α}
    (permitted : protocol.allowed phase asked)
    (goes : ∀ answer after, protocol.moves phase asked answer after →
      (next answer).Follows protocol post raises after) :
    (Attempt.call asked >>= next).Follows protocol post raises phase := ⟨permitted, goes⟩

theorem follows_ask {Reply : Call → Type}
    {protocol : Protocol Call (fun call => Except ε (Reply call)) μ} {asked : Call}
    {post : μ → Reply asked → Prop} (permitted : protocol.allowed phase asked)
    (replied : ∀ reply after, protocol.moves phase asked (.ok reply) after → post after reply)
    (raised : ∀ error after, protocol.moves phase asked (.error error) after → raises after error) :
    (Attempt.ask asked).Follows protocol post raises phase := by
  refine ⟨permitted, fun answer after moved => ?_⟩
  cases answer with
  | ok reply => exact replied reply after moved
  | error error => exact raised error after moved

/-- What the body raises is handled. -/
theorem follows_tryCatch {caught : μ → ε → Prop} {body : Attempt Call Answer ε α}
    {handle : ε → Attempt Call Answer ε α} (tries : body.Follows protocol post caught phase)
    (handles : ∀ after error, caught after error →
      (handle error).Follows protocol post raises after) :
    (tryCatch body handle).Follows protocol post raises phase := by
  refine Process.follows_bind tries ?_
  intro after result ended
  cases result with
  | ok value => exact ended
  | error error => exact handles after error ended

end Attempt

end EvoBlue.Kernel
