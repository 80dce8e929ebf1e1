import EvoBlue.Guarantees.SettingsStores

/-!
# The directory after the database is gone

The settings row keeps the report directory as it was entered, the pointer file as one line,
which is stripped when it is read. The two name the same directory exactly when the path has
no blank at either end and no carriage return.
-/

namespace EvoBlue.Guarantees

open EvoBlue.Kernel EvoBlue.Source

/-! ## Read back -/

/-- A path that its pointer file keeps. -/
structure Survives (path : Text) : Prop where
  lines : cp '\r' ∉ path
  front : ∀ c ∈ path.head?, isSpace c = false
  back : ∀ c ∈ path.getLast?, isSpace c = false

theorem universalNewlines_clean (t : Text) : cp '\r' ∉ universalNewlines t := by
  fun_induction universalNewlines t with
  | case1 => exact List.not_mem_nil
  | case2 => decide
  | case3 c other => simpa using fun same => other same.symm
  | case4 rest ih =>
    intro mem
    rcases List.mem_cons.1 mem with line | later
    · exact absurd line (by decide)
    · exact ih later
  | case5 d rest other ih =>
    intro mem
    rcases List.mem_cons.1 mem with line | later
    · exact absurd line (by decide)
    · exact ih later
  | case6 c d rest other ih =>
    intro mem
    rcases List.mem_cons.1 mem with same | later
    · exact other same.symm
    · exact ih later

theorem universalNewlines_eq_self {t : Text} (clean : cp '\r' ∉ t) : universalNewlines t = t := by
  fun_induction universalNewlines t with
  | case1 => rfl
  | case2 => exact absurd List.mem_cons_self clean
  | case3 => rfl
  | case4 => exact absurd List.mem_cons_self clean
  | case5 => exact absurd List.mem_cons_self clean
  | case6 c d rest other ih => rw [ih fun later => clean (List.mem_cons_of_mem _ later)]

theorem isSpace_newline : isSpace (cp '\n') = true := by decide

/-- Whatever survives is read back. -/
theorem reread_of_survives {directory : Text} (survives : Survives (pathText directory)) :
    rereadPointer (some (pathText directory)) = some (pathText directory) := by
  obtain ⟨lines, front, back⟩ := survives
  have some_ := pathText_ne_nil directory
  have clean : cp '\r' ∉ pathText directory ++ [cp '\n'] := by
    intro mem
    rcases List.mem_append.1 mem with inside | last
    · exact lines inside
    · exact absurd (List.mem_singleton.1 last) (by decide)
  have stripped : strip (pathText directory ++ [cp '\n']) = pathText directory := by
    have kept : (pathText directory ++ [cp '\n']).dropWhile isSpace =
        pathText directory ++ [cp '\n'] := by
      cases path : pathText directory with
      | nil => exact absurd path some_
      | cons c rest =>
        rw [path] at front
        simp [front c rfl]
    have ended : (pathText directory).rdropWhile isSpace = pathText directory := by
      rw [List.rdropWhile_eq_self_iff]
      intro nonempty space
      rw [back _ (List.getLast?_eq_some_getLast nonempty)] at space
      cases space
    unfold strip
    rw [kept, List.rdropWhile_concat_pos _ _ _ isSpace_newline, ended]
  unfold rereadPointer readPointerText pointerText
  simp only [universalNewlines_eq_self clean, stripped, if_neg some_, pathText_pathText]

/-- Whatever is read back survives. -/
theorem survives_of_reread {directory : Text}
    (kept : rereadPointer (some (pathText directory)) = some (pathText directory)) :
    Survives (pathText directory) := by
  generalize pathText directory = path at kept
  unfold rereadPointer readPointerText pointerText at kept
  simp only at kept
  split at kept
  · cases kept
  next some_ =>
    have same : pathText (strip (universalNewlines (path ++ [cp '\n']))) = path := Option.some.inj kept
    have lines : cp '\r' ∉ path := by
      intro mem
      have counted := countP_pathText (p := fun c => c = cp '\r') (by decide) (by decide)
        (strip (universalNewlines (path ++ [cp '\n'])))
      rw [same] at counted
      have inPath : 0 < path.countP fun c => c = cp '\r' :=
        List.countP_pos_iff.2 ⟨_, mem, by simp⟩
      have inLine : 0 < (strip (universalNewlines (path ++ [cp '\n']))).countP fun c => c = cp '\r' := by
        omega
      obtain ⟨c, memStrip, isReturn⟩ := List.countP_pos_iff.1 inLine
      obtain ⟨before, after, whole, _, _⟩ := strip_split (universalNewlines (path ++ [cp '\n']))
      apply universalNewlines_clean (path ++ [cp '\n'])
      rw [whole, ← of_decide_eq_true isReturn]
      exact List.mem_append_right _ (List.mem_append_left _ memStrip)
    have clean : cp '\r' ∉ path ++ [cp '\n'] := by
      intro mem
      rcases List.mem_append.1 mem with inside | last
      · exact lines inside
      · exact absurd (List.mem_singleton.1 last) (by decide)
    rw [universalNewlines_eq_self clean] at same some_
    -- The path has as many blanks as its stripped line, so only the line end was stripped.
    obtain ⟨before, after, whole, blankBefore, blankAfter⟩ := strip_split (path ++ [cp '\n'])
    have counted := countP_pathText (p := isSpace) (by decide) (by decide)
      (strip (path ++ [cp '\n']))
    rw [same] at counted
    have total := congrArg (List.countP isSpace) whole
    rw [List.countP_append, List.countP_append, List.countP_append,
      List.countP_eq_length.2 blankBefore, List.countP_eq_length.2 blankAfter,
      List.countP_singleton, isSpace_newline] at total
    have short : before.length + after.length ≤ 1 := by
      simp only [if_true] at total
      omega
    have last : after = [cp '\n'] := by
      have ends := congrArg List.getLast? whole
      rw [List.getLast?_append, List.getLast?_append] at ends
      cases after with
      | nil =>
        have visible := (strip_ends (path ++ [cp '\n'])).2 (cp '\n') (by
          simpa [List.getLast?_append, Option.or_of_isSome, some_] using ends.symm)
        rw [isSpace_newline] at visible
        cases visible
      | cons c rest =>
        have alone : rest = [] := by
          simp only [List.length_cons] at short
          exact List.length_eq_zero_iff.1 (by omega)
        subst alone
        simpa using ends.symm
    have none : before = [] := by
      subst last
      simp only [List.length_singleton] at short
      exact List.length_eq_zero_iff.1 (by omega)
    subst none last
    have stripped : strip (path ++ [cp '\n']) = path := (List.append_cancel_right whole).symm
    obtain ⟨front, back⟩ := strip_ends (path ++ [cp '\n'])
    rw [stripped] at front back
    exact ⟨lines, front, back⟩

/-! ## Saves -/

/-- A request to save the settings, and how the save goes. -/
structure DirectorySave where
  fate : SaveFate
  request : AppSettingsUpdate
  token : Text
  now : Time

section

variable (server : SettingsServer)

def saveDirectory (world : SettingsWorld) (save : DirectorySave) : SettingsWorld :=
  ((settingsPut server save.fate save.request save.token save.now).run world).2

/-- The save gets to its transaction, the pointer written, and its row becomes durable. -/
def Commits (world : SettingsWorld) (save : DirectorySave) : Prop :=
  ((prepareSave server save.fate save.request save.token).run world).1.isOk = true ∧
    save.fate.transaction.durable = true

/-- The directory of the settings row. -/
def savedDirectory (world : SettingsWorld) : Option Text := world.row.bind (·.reportDirectory)

/-- The pointer file is the one that was written for the directory of the row. -/
def Mirrors (world : SettingsWorld) : Prop :=
  readReportPointer world.pointer = some (rereadPointer (pointerValue (savedDirectory world)))

/-- Without its database the engine finds the directory it had; a cleared one is the fallback. -/
def RecoversDirectory (world : SettingsWorld) : Prop :=
  ∀ fallback, resolveReportRoot none (some world.pointer) fallback =
      resolveReportRoot (savedDirectory world) (some world.pointer) fallback ∧
    (pointerValue (savedDirectory world) = none →
      resolveReportRoot (savedDirectory world) (some world.pointer) fallback =
        some (fallback.map pathText))

end

section

variable {server : SettingsServer}

/-- A committed save writes the directory it puts in the row, and no other. -/
theorem mirrors_save (has : server.hasPointerFile = true) {world : SettingsWorld}
    {save : DirectorySave} (commits : Commits server world save)
    (told : lateFailure save.fate.transaction = false) (mirrors : Mirrors world) :
    Mirrors (saveDirectory server world save) ∧ savedDirectory (saveDirectory server world save) =
      reportDirectoryValue save.request world.row := by
  obtain ⟨fate, request, token, now⟩ := save
  obtain ⟨prepared, durable⟩ := commits
  have kept : compensates fate.transaction = false := by
    rw [compensates_eq, durable, told]
    rfl
  have done := @settingsPut_world server fate request token now world
  unfold saveDirectory
  simp only at done durable told ⊢
  generalize ((settingsPut server fate request token now).run world).2 = last at done
  rcases done with ⟨⟨raised, after, refused⟩, _⟩ | ⟨previous, entered, _, moved, only, ended⟩
  · rw [refused] at prepared
    cases prepared
  · have row : entered.row = world.row := by rw [only]
    have directory : savedDirectory last = reportDirectoryValue request world.row := by
      have after := directory_after row ended
      rwa [if_pos durable] at after
    refine ⟨?_, directory⟩
    unfold Mirrors
    rw [directory, ended.kept (.inl kept)]
    unfold PointerMoved at moved
    split at moved
    next carries =>
      obtain ⟨_, bytes, _, _, written, file⟩ := moved
      rw [file]
      exact readReportPointer_written written
    next without =>
      have absent : request.reportDirectory = none := by
        simpa [carriesPointer, has] using without
      have same : reportDirectoryValue request world.row = savedDirectory world := by
        simp [reportDirectoryValue, merged, absent, savedDirectory]
      rw [moved.2, same]
      exact mirrors

/-- What the pointer file is good for. -/
theorem recovers_of_mirrors {world : SettingsWorld} (mirrors : Mirrors world) :
    RecoversDirectory world ↔ ∀ path, pointerValue (savedDirectory world) = some path →
      Survives path := by
  have reads : readReportPointer world.pointer =
      some (rereadPointer (pointerValue (savedDirectory world))) := mirrors
  unfold RecoversDirectory resolveReportRoot
  simp only [reads]
  cases value : pointerValue (savedDirectory world) with
  | none => simp [pointerValue, rereadPointer, readPointerText, pointerText, universalNewlines, strip]
  | some path =>
    obtain ⟨directory, rfl⟩ : ∃ directory, path = pathText directory := by
      unfold pointerValue at value
      split at value
      · cases value
      next directory _ =>
        split at value
        · cases value
        · exact ⟨directory, (Option.some.inj value).symm⟩
    constructor
    · rintro recovers path ⟨⟩
      apply survives_of_reread
      have found := (recovers none).1
      simpa [pointerValue] using found
    · intro survives fallback
      rw [reread_of_survives (survives _ rfl)]
      simp [pointerValue]

/-- After any committed saves, no commit taken for a rollback: the engine recovers its directory
if, and only if, the path of the last one survives its pointer file. -/
theorem recovers_directory_iff (has : server.hasPointerFile = true) {start : SettingsWorld}
    (mirrors : Mirrors start) {saves : List DirectorySave}
    (commits : Meets (saveDirectory server) (Commits server) start saves)
    (told : ∀ save ∈ saves, lateFailure save.fate.transaction = false) :
    RecoversDirectory (run (saveDirectory server) start saves) ↔
      ∀ path, pointerValue (savedDirectory (run (saveDirectory server) start saves)) = some path →
        Survives path := by
  apply recovers_of_mirrors
  induction saves generalizing start with
  | nil => exact mirrors
  | cons save saves ih =>
    have after := (mirrors_save has commits.1 (told save List.mem_cons_self) mirrors).1
    exact ih after commits.2 fun later mem => told later (List.mem_cons_of_mem _ mem)

end

/-- Reports shall go to this directory. -/
def directorySave (directory : String) : DirectorySave where
  fate := { transaction := undisturbedCommit }
  request := { reportDirectory := some (some (text directory)) }
  token := text "0123456789ab"
  now := 1

theorem recovers_directory_iff_moved :
    RecoversDirectory (run (saveDirectory sampleServer) {}
        [directorySave "/srv/a ", directorySave "/srv/b"]) ↔
      ∀ path, pointerValue (savedDirectory (run (saveDirectory sampleServer) {}
        [directorySave "/srv/a ", directorySave "/srv/b"])) = some path → Survives path := by
  refine @recovers_directory_iff sampleServer rfl {} rfl _ ?_ ?_
  · exact ⟨⟨by decide, by decide⟩, ⟨by decide, by decide⟩, trivial⟩
  · intro save mem
    simp only [List.mem_cons, List.not_mem_nil, or_false] at mem
    obtain rfl | rfl := mem <;> decide

/-- A directory whose name ends with a blank: the pointer file names another one. -/
theorem trailing_blank_lost :
    Commits sampleServer {} (directorySave "/srv/a ") ∧
    resolveReportRoot (some (text "/srv/a ")) (some (some [])) none =
      some (some (text "/srv/a ")) ∧
    savedDirectory (saveDirectory sampleServer {} (directorySave "/srv/a ")) =
      some (text "/srv/a ") ∧
    resolveReportRoot none (some (saveDirectory sampleServer {} (directorySave "/srv/a ")).pointer)
      none = some (some (text "/srv/a")) ∧
    ¬ RecoversDirectory (saveDirectory sampleServer {} (directorySave "/srv/a ")) := by
  have saved : savedDirectory (saveDirectory sampleServer {} (directorySave "/srv/a ")) =
      some (text "/srv/a ") := by decide
  have pointed : resolveReportRoot none
      (some (saveDirectory sampleServer {} (directorySave "/srv/a ")).pointer) none =
      some (some (text "/srv/a")) := by decide
  refine ⟨⟨by decide, by decide⟩, by decide, saved, pointed, fun recovers => ?_⟩
  have same := (recovers none).1
  rw [pointed, saved] at same
  exact absurd same (by decide)

end EvoBlue.Guarantees
