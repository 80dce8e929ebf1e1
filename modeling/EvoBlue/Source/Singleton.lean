import EvoBlue.Kernel.Json
import EvoBlue.Kernel.Runs
import Mathlib.Algebra.Order.Ring.Rat

/-!
# The lock file of the engine

`try_acquire_lock` of `runtime/singleton.py`: create the file exclusively, or read the one
that is there, judge it by the process it names and by its age, and unlink it when it is
stale. Every access to the file is a step of its own, between which other processes act.
The comment of the source leaves it at that: the mutex and the port are authoritative.
-/

namespace EvoBlue.Source

open EvoBlue.Kernel

def exitAlreadyRunning : Nat := 3

def lockPayloadKeys : List Text := [text "pid", text "port", text "started_at", text "version"]

/-- `_STEAL_GRACE_SECONDS`. -/
def stealGrace : ℚ := 5

/-- One process at the door. -/
structure Contender where
  pid : Int
  port : Int
  /-- `time.time()` as JSON spells it. -/
  startedAt : Text
  version : Text

def Contender.payload (contender : Contender) : Json :=
  .object [(text "pid", .int contender.pid), (text "port", .int contender.port),
    (text "started_at", .float contender.startedAt), (text "version", .str contender.version)]

inductive LockReadError where
  /-- `OSError` or `JSONDecodeError`; an empty file is one. -/
  | caught
  /-- `UnicodeDecodeError`, an integer too long to convert, or too deep nesting. -/
  | escapes
  deriving DecidableEq, Repr

variable {ι : Type}

/-- The file under the name of the lock, and which call created it, if one did. -/
structure LockFile (ι : Type) where
  creator : Option ι
  contents : Except LockReadError Json
  mtime : ℚ

/-- `key not in payload`. -/
def hasKey (payload : Json) (key : Text) : Bool := (payload.get key).isSome

/-- `_read_lock` of what decoded: an object with all keys. -/
def lockPayload (value : Json) : Option Json :=
  if lockPayloadKeys.all (hasKey value) then some value else none

/-- `isinstance(pid_value, int)`, of which `bool` is a subclass. -/
def pidValue (payload : Json) : Option Int :=
  match payload.get (text "pid") with
  | some (.int pid) => some pid
  | some (.bool flag) => some (if flag then 1 else 0)
  | _ => none

/-- Where a call of `try_acquire_lock` stands; `seen` is the file it last read, if there was
one, by its creator. -/
inductive LockPosition (ι : Type) where
  | creating
  | reading
  | judging (existing : Option Json) (seen : Option (Option ι))
  | unlinking (seen : Option (Option ι))
  | writing
  | returned (code : Option Nat)
  | raised

structure LockState (ι : Type) where
  lock : Option (LockFile ι)
  position : ι → LockPosition ι := fun _ => .creating

/-- One file step of one call, with the clock, what the system says of processes (all the
contenders are alive), and whether an unlink goes through. -/
structure LockMove (contenders : ι → Contender) where
  who : ι
  now : ℚ
  alive : Int → Bool
  live : ∀ i, alive (contenders i).pid = true
  unlinks : Bool := true

def lockAge (now : ℚ) (file : LockFile ι) : ℚ := max 0 (now - file.mtime)

/-- `_pid_alive` of the process the payload names, if it names one. -/
def namesLive (alive : Int → Bool) (existing : Option Json) : Bool :=
  (existing.bind pidValue).any alive

variable [DecidableEq ι]

def LockState.goes (state : LockState ι) (who : ι) (position : LockPosition ι) : LockState ι :=
  { state with position := Function.update state.position who position }

def lockStep (contenders : ι → Contender) (state : LockState ι) (move : LockMove contenders) :
    LockState ι :=
  match state.position move.who with
  | .creating =>
    match state.lock with
    | none =>
      { state.goes move.who .writing with lock := some ⟨some move.who, .error .caught, move.now⟩ }
    | some _ => state.goes move.who .reading
  | .reading =>
    match state.lock with
    | none => state.goes move.who (.judging none none)
    | some file =>
      match file.contents with
      | .ok value => state.goes move.who (.judging (lockPayload value) (some file.creator))
      | .error .caught => state.goes move.who (.judging none (some file.creator))
      | .error .escapes => state.goes move.who .raised
  | .judging existing seen =>
    match state.lock with
    -- `stat` raises `FileNotFoundError`
    | none => state.goes move.who .raised
    | some file =>
      if namesLive move.alive existing then
        state.goes move.who (.returned (some exitAlreadyRunning))
      else if lockAge move.now file < stealGrace then
        state.goes move.who (.returned (some exitAlreadyRunning))
      else state.goes move.who (.unlinking seen)
  | .unlinking _ =>
    if move.unlinks then { state.goes move.who .creating with lock := none }
    else state.goes move.who .creating
  | .writing =>
    match state.lock with
    | some file =>
      -- the descriptor is of the file this call created
      if file.creator = some move.who then
        { state.goes move.who (.returned none) with
          lock := some ⟨file.creator, .ok (contenders move.who).payload, move.now⟩ }
      else state.goes move.who (.returned none)
    | none => state.goes move.who (.returned none)
  | .returned code => state.goes move.who (.returned code)
  | .raised => state.goes move.who .raised

end EvoBlue.Source
