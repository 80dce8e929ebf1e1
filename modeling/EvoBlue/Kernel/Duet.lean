import EvoBlue.Kernel.Protocol
import EvoBlue.Kernel.Runs

/-!
# Two processes in one world

Either process may make its next call at any time. When each follows a protocol, and a
relation between the two phases and the world is kept by every call the protocols allow,
that relation holds after every schedule, and each process goes on as its protocol has it.
-/

namespace EvoBlue.Kernel

/-- What the two processes have left to do, and the world they share. -/
structure Duet (CallA : Type) (AnswerA : CallA → Type) (α : Type) (CallB : Type)
    (AnswerB : CallB → Type) (β σ : Type) where
  first : Process CallA AnswerA α
  second : Process CallB AnswerB β
  world : σ

/-- Whose call is next, and what comes from outside the world then. -/
inductive Turn (ω : Type) where
  | first (outside : ω)
  | second (outside : ω)

section

variable {CallA : Type} {AnswerA : CallA → Type} {α : Type} {CallB : Type}
  {AnswerB : CallB → Type} {β σ ω μ ν : Type}

/-- A process that is done takes no more turns. -/
def Duet.step (serveA : ω → ∀ call, σ → AnswerA call × σ) (serveB : ω → ∀ call, σ → AnswerB call × σ)
    (duet : Duet CallA AnswerA α CallB AnswerB β σ) :
    Turn ω → Duet CallA AnswerA α CallB AnswerB β σ
  | .first outside =>
    match duet.first with
    | .done _ => duet
    | .ask call next =>
      { duet with
        first := next (serveA outside call duet.world).1
        world := (serveA outside call duet.world).2 }
  | .second outside =>
    match duet.second with
    | .done _ => duet
    | .ask call next =>
      { duet with
        second := next (serveB outside call duet.world).1
        world := (serveB outside call duet.world).2 }

/-- The second process makes only calls that are clear in the world they are made in. -/
def Duet.Clear (clear : σ → CallB → Prop) (duet : Duet CallA AnswerA α CallB AnswerB β σ) :
    Turn ω → Prop
  | .first _ => True
  | .second _ =>
    match duet.second with
    | .done _ => True
    | .ask call _ => clear duet.world call

instance Duet.Clear.decidable (clear : σ → CallB → Prop) [∀ world call, Decidable (clear world call)]
    (duet : Duet CallA AnswerA α CallB AnswerB β σ) (turn : Turn ω) :
    Decidable (duet.Clear clear turn) :=
  match turn with
  | .first _ => .isTrue trivial
  | .second _ =>
    match duet with
    | ⟨_, .done _, _⟩ => .isTrue trivial
    | ⟨_, .ask call _, world⟩ => inferInstanceAs (Decidable (clear world call))

variable {serveA : ω → ∀ call, σ → AnswerA call × σ} {serveB : ω → ∀ call, σ → AnswerB call × σ}
  {protocolA : Protocol CallA AnswerA μ} {protocolB : Protocol CallB AnswerB ν}
  {postA : μ → α → Prop} {postB : ν → β → Prop} {joint : μ → ν → σ → Prop}

/-- Both processes follow their protocols, from phases that fit the world. -/
def Duet.InStep (protocolA : Protocol CallA AnswerA μ) (protocolB : Protocol CallB AnswerB ν)
    (postA : μ → α → Prop) (postB : ν → β → Prop) (joint : μ → ν → σ → Prop)
    (duet : Duet CallA AnswerA α CallB AnswerB β σ) : Prop :=
  ∃ phaseA phaseB, joint phaseA phaseB duet.world ∧ duet.first.Follows protocolA postA phaseA ∧
    duet.second.Follows protocolB postB phaseB

/-- Step lemma: one call of either process. -/
theorem Duet.inStep_step {clear : σ → CallB → Prop}
    (movesA : ∀ phaseA phaseB world call outside, joint phaseA phaseB world →
      protocolA.allowed phaseA call → ∃ after,
        protocolA.moves phaseA call (serveA outside call world).1 after ∧
        joint after phaseB (serveA outside call world).2)
    (movesB : ∀ phaseA phaseB world call outside, joint phaseA phaseB world →
      protocolB.allowed phaseB call → clear world call → ∃ after,
        protocolB.moves phaseB call (serveB outside call world).1 after ∧
        joint phaseA after (serveB outside call world).2)
    (duet : Duet CallA AnswerA α CallB AnswerB β σ) (turn : Turn ω) (admitted : duet.Clear clear turn)
    (inStep : duet.InStep protocolA protocolB postA postB joint) :
    (duet.step serveA serveB turn).InStep protocolA protocolB postA postB joint := by
  obtain ⟨phaseA, phaseB, fits, followsA, followsB⟩ := inStep
  obtain ⟨first, second, world⟩ := duet
  cases turn with
  | first outside =>
    cases first with
    | done value => exact ⟨phaseA, phaseB, fits, followsA, followsB⟩
    | ask call next =>
      obtain ⟨after, moved, fitsAfter⟩ := movesA phaseA phaseB world call outside fits followsA.1
      exact ⟨after, phaseB, fitsAfter, followsA.2 _ after moved, followsB⟩
  | second outside =>
    cases second with
    | done value => exact ⟨phaseA, phaseB, fits, followsA, followsB⟩
    | ask call next =>
      obtain ⟨after, moved, fitsAfter⟩ :=
        movesB phaseA phaseB world call outside fits followsB.1 admitted
      exact ⟨phaseA, after, fitsAfter, followsA, followsB.2 _ after moved⟩

/-- Run lemma: at the end both processes are where their protocols let them end. -/
theorem Duet.run_ends {clear : σ → CallB → Prop}
    (movesA : ∀ phaseA phaseB world call outside, joint phaseA phaseB world →
      protocolA.allowed phaseA call → ∃ after,
        protocolA.moves phaseA call (serveA outside call world).1 after ∧
        joint after phaseB (serveA outside call world).2)
    (movesB : ∀ phaseA phaseB world call outside, joint phaseA phaseB world →
      protocolB.allowed phaseB call → clear world call → ∃ after,
        protocolB.moves phaseB call (serveB outside call world).1 after ∧
        joint phaseA after (serveB outside call world).2)
    {start : Duet CallA AnswerA α CallB AnswerB β σ}
    (begins : start.InStep protocolA protocolB postA postB joint) {turns : List (Turn ω)}
    (meets : Meets (Duet.step serveA serveB) (Duet.Clear clear) start turns) {valueA : α} {valueB : β}
    (endedA : (run (Duet.step serveA serveB) start turns).first = .done valueA)
    (endedB : (run (Duet.step serveA serveB) start turns).second = .done valueB) :
    ∃ phaseA phaseB, joint phaseA phaseB (run (Duet.step serveA serveB) start turns).world ∧
      postA phaseA valueA ∧ postB phaseB valueB := by
  have inStep := run_of_meets (Duet.inStep_step movesA movesB) begins meets
  obtain ⟨phaseA, phaseB, fits, followsA, followsB⟩ := inStep
  rw [endedA] at followsA
  rw [endedB] at followsB
  exact ⟨phaseA, phaseB, fits, followsA, followsB⟩

end

end EvoBlue.Kernel
