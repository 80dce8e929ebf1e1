import Mathlib.Data.Set.Basic
import EvoBlue.Kernel.Protocol

/-!
# What a process knows

A process that runs beside others sees more and more of what happened. `Upholds` is the
protocol whose phases are the facts known so far: the calls are those the facts permit,
and an answer is relied on as far as the facts known by then bear it out. Facts are never
lost, so what is upheld with some facts is upheld with more.
-/

namespace EvoBlue.Kernel

/-- What the calls of a process have to do with facts. -/
structure Trust (Call : Type) (Answer : Call → Type) (Fact : Type) where
  /-- The call is one that these facts permit. -/
  permits : Set Fact → Call → Prop
  /-- The answer is one that these facts bear out. -/
  reliable : Set Fact → ∀ call, Answer call → Prop
  /-- What the answer itself makes a fact. -/
  learns : ∀ call, Answer call → Set Fact
  permits_mono : ∀ {facts more : Set Fact} {call : Call}, facts ⊆ more → permits facts call →
    permits more call

namespace Trust

variable {Call : Type} {Answer : Call → Type} {Fact : Type}

def protocol (trust : Trust Call Answer Fact) : Protocol Call Answer (Set Fact) where
  allowed := trust.permits
  moves facts call answer more :=
    facts ⊆ more ∧ trust.reliable more call answer ∧ trust.learns call answer ⊆ more

end Trust

namespace Process

variable {Call : Type} {Answer : Call → Type} {Fact α β : Type}

/-- The calls are permitted, and with answers that can be relied on the process ends
in a value of `post`, whatever else becomes known on the way. -/
def Upholds (trust : Trust Call Answer Fact) (post : Set Fact → α → Prop) (facts : Set Fact)
    (process : Process Call Answer α) : Prop :=
  process.Follows trust.protocol post facts

/-- What is so stays so. -/
def Lasts (post : Set Fact → α → Prop) : Prop :=
  ∀ ⦃facts more value⦄, facts ⊆ more → post facts value → post more value

variable {trust : Trust Call Answer Fact} {facts more : Set Fact}

theorem upholds_mono {post : Set Fact → α → Prop} (lasts : Lasts post) (known : facts ⊆ more)
    {process : Process Call Answer α} (upholds : process.Upholds trust post facts) :
    process.Upholds trust post more := by
  cases process with
  | done value => exact lasts known upholds
  | ask call next =>
    constructor
    · exact trust.permits_mono known upholds.1
    · intro answer later moved
      exact upholds.2 answer later ⟨known.trans moved.1, moved.2⟩

theorem upholds_bind {middle : Set Fact → α → Prop} {post : Set Fact → β → Prop}
    {first : Process Call Answer α} {next : α → Process Call Answer β}
    (starts : first.Upholds trust middle facts)
    (goes : ∀ later value, facts ⊆ later → middle later value →
      (next value).Upholds trust post later) :
    (first >>= next).Upholds trust post facts := by
  induction first generalizing facts with
  | done value => exact goes facts value subset_rfl starts
  | ask call rest ih =>
    refine ⟨starts.1, fun answer later moved => ?_⟩
    apply ih answer (starts.2 answer later moved)
    intro last value known ended
    exact goes last value (moved.1.trans known) ended

/-- One call, then the rest. -/
theorem upholds_call {post : Set Fact → β → Prop} {call : Call}
    {next : Answer call → Process Call Answer β} (permitted : trust.permits facts call)
    (goes : ∀ later, facts ⊆ later → ∀ answer, trust.reliable later call answer →
      trust.learns call answer ⊆ later → (next answer).Upholds trust post later) :
    (Process.call call >>= next).Upholds trust post facts :=
  ⟨permitted, fun answer later moved => goes later moved.1 answer moved.2.1 moved.2.2⟩

/-- An answer that comes is one to go on with. -/
theorem upholds_answered {post : Set Fact → α → Prop} {call : Call}
    {next : Answer call → Process Call Answer α} (upholds : (ask call next).Upholds trust post facts)
    (known : facts ⊆ more) {answer : Answer call} (reliable : trust.reliable more call answer)
    (learned : trust.learns call answer ⊆ more) : (next answer).Upholds trust post more :=
  upholds.2 answer more ⟨known, reliable, learned⟩

end Process

end EvoBlue.Kernel
