import EvoBlue.Kernel.Runs
import EvoBlue.Source.ModelArchives

/-!
# The trash of a model

`uninstall` and `cleanup_trash` of `asr/service.py` for one model, down to what may fail in
them: the process may end after any step, and the clean-up at the next start has the names in
the trash and the records to go by.
-/

namespace EvoBlue.Source

open EvoBlue.Kernel

/-- One model: whether it has an install record, its directory, and the directories under
`.trash/<model_id>`. -/
structure ModelShelf where
  record : Bool
  directory : Option FileTree
  trash : List (Text × FileTree)

/-- Where an uninstall stands; `moved` is the name in the trash. -/
inductive UninstallPosition where
  | checking
  | moving
  | deleting (moved : Option Text)
  | restoring (moved : Text)
  | reclaiming (moved : Option Text)
  | returned
  | raised

/-- What the system says to one step of an uninstall. -/
structure UninstallMoment where
  /-- `uuid.uuid4().hex[:8]`. -/
  name : Text
  /-- A download is under way. -/
  active : Bool := false
  moves : Bool := true
  commits : Bool := true
  restores : Bool := true
  /-- What `rmtree` leaves: of a directory, if it does, the files it did not come to. -/
  leaves : Text → Option (String → Bool) := fun _ => none

/-- `os.replace` onto this name: only an empty directory gives way. -/
def isFree (trash : List (Text × FileTree)) (name : Text) : Bool :=
  trash.all fun entry => entry.1 ≠ name || entry.2 = []

def putTrash (trash : List (Text × FileTree)) (name : Text) (files : FileTree) :
    List (Text × FileTree) :=
  trash.filter (fun entry => entry.1 ≠ name) ++ [(name, files)]

def reclaimTrash (leaves : Text → Option (String → Bool)) (trash : List (Text × FileTree)) :
    List (Text × FileTree) :=
  trash.filterMap fun entry =>
    (leaves entry.1).map fun left => (entry.1, entry.2.filter fun file => left file.1)

/-- One step of `uninstall`. -/
def uninstallStep (state : ModelShelf × UninstallPosition) (moment : UninstallMoment) :
    ModelShelf × UninstallPosition :=
  match state with
  | (shelf, .checking) => (shelf, if moment.active then .raised else .moving)
  | (shelf, .moving) =>
    match shelf.directory with
    | none => (shelf, .deleting none)
    | some files =>
      if moment.moves && isFree shelf.trash moment.name then
        ({ shelf with directory := none, trash := putTrash shelf.trash moment.name files },
          .deleting (some moment.name))
      else (shelf, .raised)
  | (shelf, .deleting moved) =>
    if moment.commits then ({ shelf with record := false }, .reclaiming moved)
    else
      match moved with
      | some name => (shelf, .restoring name)
      | none => (shelf, .raised)
  | (shelf, .restoring name) =>
    match shelf.trash.find? fun entry => entry.1 = name with
    | some entry =>
      if moment.restores then
        ({ shelf with
            directory := some entry.2
            trash := shelf.trash.filter fun other => other.1 ≠ name },
          .raised)
      else (shelf, .raised)
    | none => (shelf, .raised)
  | (shelf, .reclaiming moved) =>
    match moved with
    | some _ => ({ shelf with trash := reclaimTrash moment.leaves shelf.trash }, .returned)
    | none => (shelf, .returned)
  | (shelf, .returned) => (shelf, .returned)
  | (shelf, .raised) => (shelf, .raised)

/-- An uninstall that ends where the moments end, if not before. -/
def uninstallUpTo (shelf : ModelShelf) (moments : List UninstallMoment) : ModelShelf :=
  (run uninstallStep (shelf, .checking) moments).1

/-- The uninstalls of a history, each of which may have been cut short. -/
def afterUninstalls (shelf : ModelShelf) (attempts : List (List UninstallMoment)) : ModelShelf :=
  run uninstallUpTo shelf attempts

/-! ## Cleaning up -/

/-- `sorted(p for p in model_entry.iterdir())`. -/
def sortedTrash (trash : List (Text × FileTree)) : List (Text × FileTree) :=
  trash.mergeSort fun a b => a.1 ≤ b.1

/-- One entry of a model that has a record: it is restored, or removed where the directory is
there. -/
def cleanupEntry (shelf : ModelShelf) (entry : Text × FileTree) : ModelShelf :=
  match shelf.directory with
  | some _ => { shelf with trash := shelf.trash.filter fun other => other.1 ≠ entry.1 }
  | none =>
    { shelf with
      directory := some entry.2
      trash := shelf.trash.filter fun other => other.1 ≠ entry.1 }

/-- `cleanup_trash`, for one model. -/
def cleanupTrash (shelf : ModelShelf) : ModelShelf :=
  if shelf.record then run cleanupEntry shelf (sortedTrash shelf.trash)
  else { shelf with trash := [] }

end EvoBlue.Source
