/-!
# Processes

A process makes one call at a time and goes on with its answer, so that other
processes may act between any two of its calls. What a process does whatever it
is answered is read off its text: `Keeps` speaks of the calls it makes, of what
it may rely on in their answers, and of the values it ends with.
-/

namespace EvoBlue.Kernel

inductive Process (Call : Type) (Answer : Call → Type) (α : Type) where
  | done (value : α)
  | ask (call : Call) (next : Answer call → Process Call Answer α)

namespace Process

variable {Call : Type} {Answer : Call → Type} {α β : Type}

/-- One call. -/
def call (call : Call) : Process Call Answer (Answer call) := .ask call .done

protected def bind (first : Process Call Answer α) (next : α → Process Call Answer β) :
    Process Call Answer β :=
  match first with
  | .done value => next value
  | .ask call rest => .ask call fun answer => (rest answer).bind next

instance : Monad (Process Call Answer) where
  pure := .done
  bind := Process.bind

@[simp] theorem pure_eq (value : α) : (pure value : Process Call Answer α) = .done value := rfl

@[simp] theorem done_bind (value : α) (next : α → Process Call Answer β) :
    (.done value : Process Call Answer α) >>= next = next value := rfl

@[simp] theorem ask_bind (call : Call) (rest : Answer call → Process Call Answer α)
    (next : α → Process Call Answer β) :
    .ask call rest >>= next = .ask call fun answer => rest answer >>= next := rfl

/-- The value, when the process is done. -/
def result : Process Call Answer α → Option α
  | .done value => some value
  | .ask _ _ => none

theorem done_of_result {process : Process Call Answer α} {value : α}
    (ended : process.result = some value) : process = .done value := by
  cases process with
  | done other =>
    cases ended
    rfl
  | ask => cases ended

/-- The calls are all `allowed`, and with answers that are all `possible` the
process ends in a value of `post`. -/
def Keeps (allowed : Call → Prop) (possible : ∀ call, Answer call → Prop) (post : α → Prop) :
    Process Call Answer α → Prop
  | .done value => post value
  | .ask call next => allowed call ∧
      ∀ answer, possible call answer → (next answer).Keeps allowed possible post

variable {allowed : Call → Prop} {possible : ∀ call, Answer call → Prop}

theorem keeps_mono {post weaker : α → Prop} (implies : ∀ value, post value → weaker value)
    {process : Process Call Answer α} (keeps : process.Keeps allowed possible post) :
    process.Keeps allowed possible weaker := by
  induction process with
  | done value => exact implies value keeps
  | ask call next ih => exact ⟨keeps.1, fun answer may => ih answer (keeps.2 answer may)⟩

/-- In sequence, what the first part ends with is what the second starts from. -/
theorem keeps_bind {middle : α → Prop} {post : β → Prop} {first : Process Call Answer α}
    {next : α → Process Call Answer β} (starts : first.Keeps allowed possible middle)
    (goes : ∀ value, middle value → (next value).Keeps allowed possible post) :
    (first >>= next).Keeps allowed possible post := by
  induction first with
  | done value => exact goes value starts
  | ask call rest ih => exact ⟨starts.1, fun answer may => ih answer (starts.2 answer may)⟩

/-- One call, then the rest. -/
theorem keeps_call_bind {post : β → Prop} {call : Call} {next : Answer call → Process Call Answer β}
    (permitted : allowed call)
    (goes : ∀ answer, possible call answer → (next answer).Keeps allowed possible post) :
    (Process.call call >>= next).Keeps allowed possible post := ⟨permitted, goes⟩

end Process

end EvoBlue.Kernel
