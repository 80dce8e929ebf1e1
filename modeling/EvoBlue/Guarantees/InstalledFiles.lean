import EvoBlue.Source.ModelHost

/-!
# What is installed is what the manifest declares

Whatever an archive holds and whatever was downloaded, files that are staged without an
error are the declared ones, with their sizes and digests, and so is a version directory
that a promotion leaves.
-/

namespace EvoBlue.Guarantees

open EvoBlue.Kernel EvoBlue.Source

/-- Name, size and digest of a declared file. -/
def declaredEntry (file : ModelFile) : String × Nat × String :=
  (file.name, file.sizeBytes, file.sha256)

/-- The declared files and no others. -/
def Installed (sha256 : Bytes → String) (manifest : ModelManifest) (files : FileTree) : Prop :=
  ∀ entry, entry ∈ files.signature sha256 ↔ entry ∈ manifest.files.map declaredEntry

/-- So far there are only declared files. -/
def OnlyDeclared (sha256 : Bytes → String) (manifest : ModelManifest) (files : FileTree) : Prop :=
  ∀ file ∈ files, ∃ declared ∈ manifest.files,
    declaredEntry declared = (file.1, file.2.length, sha256 file.2)

section

variable {sha256 : Bytes → String} {manifest : ModelManifest} {staging after : Staging}

theorem mem_put {files : FileTree} {name : String} {content : Bytes} {file : String × Bytes}
    (mem : file ∈ files.put name content) : file ∈ files ∨ file = (name, content) := by
  rcases List.mem_append.1 mem with old | new
  · exact .inl (List.mem_filter.1 old).1
  · exact .inr (List.mem_singleton.1 new)

theorem names_put {files : FileTree} {name other : String} {content : Bytes}
    (there : other ∈ files.names ∨ other = name) : other ∈ (files.put name content).names := by
  unfold FileTree.names FileTree.put
  rw [List.map_append]
  by_cases same : other = name
  · subst same
    exact List.mem_append_right _ (List.mem_singleton_self _)
  · obtain ⟨file, mem, rfl⟩ := List.mem_map.1 (there.resolve_right same)
    refine List.mem_append_left _ (List.mem_map_of_mem (List.mem_filter.2 ⟨mem, ?_⟩))
    exact decide_eq_true same

/-- A file is copied only with its size and its digest. -/
theorem streamCopy_declared {file : ModelFile} (declared : file ∈ manifest.files)
    {read : Bytes × Bool} (only : OnlyDeclared sha256 manifest staging.files)
    (copied : streamCopy sha256 manifest staging file read = .ok after) :
    OnlyDeclared sha256 manifest after.files ∧
      (∀ name, name ∈ staging.files.names ∨ name = file.name → name ∈ after.files.names) := by
  unfold streamCopy at copied
  split at copied
  · cases copied
  · split at copied
    · cases copied
    · split at copied
      · cases copied
      · split at copied
        next => cases copied
        next matched =>
          cases copied
          have size : read.1.length = file.sizeBytes :=
            Decidable.byContradiction fun other => matched (.inl other)
          have digest : sha256 read.1 = file.sha256 :=
            Decidable.byContradiction fun other => matched (.inr other)
          constructor
          · intro copy mem
            rcases mem_put mem with old | rfl
            · exact only copy old
            · refine ⟨file, declared, ?_⟩
              unfold declaredEntry
              rw [size, digest]
          · exact fun name there => names_put there

theorem file_mem {name : String} {file : ModelFile} (found : manifest.file name = some file) :
    file ∈ manifest.files := List.mem_of_find?_eq_some found

theorem checkRoot_files {root : Option String} (checked : checkRoot staging root = .ok after) :
    after.files = staging.files := by
  unfold checkRoot at checked
  repeat' split at checked
  all_goals cases checked
  all_goals rfl

theorem registerMember_declared {name : String} {root : Option String} {file : ModelFile}
    (registered : registerMember manifest staging name root = .ok (file, after)) :
    file ∈ manifest.files ∧ after.files = staging.files := by
  unfold registerMember at registered
  split at registered
  · cases registered
  next found =>
    split at registered
    · cases registered
    · cases checked : checkRoot staging root with
      | error error =>
        rw [checked] at registered
        cases registered
      | ok rooted =>
        rw [checked] at registered
        cases registered
        exact ⟨file_mem found, checkRoot_files checked⟩

/-- One member leaves only declared files. -/
theorem extractMember_declared {member : Member} (only : OnlyDeclared sha256 manifest staging.files)
    (extracted : extractMember sha256 manifest staging member = .ok after) :
    OnlyDeclared sha256 manifest after.files := by
  unfold extractMember at extracted
  split at extracted
  · cases extracted
  · cases extracted
  · cases extracted
  · cases unsafe? : rejectUnsafe member.name.toList with
    | error error =>
      rw [unsafe?] at extracted
      cases extracted
    | ok _ =>
      rw [unsafe?] at extracted
      cases extracted
      exact only
  · cases target : memberTarget member.name.toList with
    | error error =>
      rw [target] at extracted
      cases extracted
    | ok named =>
      obtain ⟨name, root⟩ := named
      cases registered : registerMember manifest staging name root with
      | error error =>
        rw [target] at extracted
        change (registerMember manifest staging name root >>= _) = _ at extracted
        rw [registered] at extracted
        cases extracted
      | ok entry =>
        obtain ⟨file, rooted⟩ := entry
        rw [target] at extracted
        change (registerMember manifest staging name root >>= _) = _ at extracted
        rw [registered] at extracted
        change (if file.sizeBytes < member.size then _ else _) = _ at extracted
        obtain ⟨declared, kept⟩ := registerMember_declared registered
        rw [← kept] at only
        split at extracted
        · cases extracted
        · split at extracted
          · cases extracted
            exact only
          · exact (streamCopy_declared declared only extracted).1

/-- So do all of them, by induction on the members. -/
theorem extractMembers_declared (broken : Bool) (members : List Member) {left : Nat}
    (only : OnlyDeclared sha256 manifest staging.files)
    (extracted : extractMembers sha256 manifest broken left staging members = .ok after) :
    OnlyDeclared sha256 manifest after.files := by
  induction members generalizing left staging with
  | nil =>
    unfold extractMembers at extracted
    split at extracted
    · cases extracted
    · cases extracted
      exact only
  | cons member rest ih =>
    cases left with
    | zero =>
      unfold extractMembers at extracted
      cases extracted
    | succ left =>
      unfold extractMembers at extracted
      cases one : extractMember sha256 manifest staging member with
      | error error =>
        rw [one] at extracted
        cases extracted
      | ok next =>
        rw [one] at extracted
        exact ih (extractMember_declared only one) extracted

/-- With every declared name there, the declared files are. -/
theorem installed_of_names {files : FileTree} (only : OnlyDeclared sha256 manifest files)
    (names : ∀ file ∈ manifest.files, file.name ∈ files.names) : Installed sha256 manifest files := by
  intro entry
  constructor
  · intro mem
    obtain ⟨file, memFile, rfl⟩ := List.mem_map.1 mem
    obtain ⟨declared, memDeclared, same⟩ := only file memFile
    exact List.mem_map.2 ⟨declared, memDeclared, same⟩
  · intro mem
    obtain ⟨declared, memDeclared, rfl⟩ := List.mem_map.1 mem
    obtain ⟨file, memFile, named⟩ := List.mem_map.1 (names declared memDeclared)
    obtain ⟨other, memOther, same⟩ := only file memFile
    have one : other = declared := by
      apply List.inj_on_of_nodup_map manifest.fileNames memOther memDeclared
      exact (congrArg Prod.fst same).trans named
    rw [← one, same]
    exact List.mem_map_of_mem memFile

theorem checkMissing_installed {staged : FileTree}
    (only : OnlyDeclared sha256 manifest staging.files)
    (checked : checkMissing manifest staging = .ok staged) : Installed sha256 manifest staged := by
  unfold checkMissing at checked
  split at checked
  next complete =>
    cases checked
    apply installed_of_names only
    intro file mem
    have there := List.all_eq_true.1 complete file mem
    simpa using there
  · cases checked

theorem onlyDeclared_nil : OnlyDeclared sha256 manifest [] := fun _ mem => nomatch mem

theorem extractAndVerify_installed {read : ArchiveFormat → Bytes → ArchiveReading} {archive : Bytes}
    {staged : FileTree} (extracted : extractAndVerify sha256 manifest read archive = .ok staged) :
    Installed sha256 manifest staged := by
  have unpacked : ∀ reading : ArchiveReading, (extractMembers sha256 manifest reading.broken
      maxArchiveMembers {} reading.members >>= fun staging => checkMissing manifest staging) =
      .ok staged → Installed sha256 manifest staged := by
    intro reading done
    cases members : extractMembers sha256 manifest reading.broken maxArchiveMembers {}
        reading.members with
    | error error =>
      rw [members] at done
      cases done
    | ok staging =>
      rw [members] at done
      exact checkMissing_installed (extractMembers_declared _ _ onlyDeclared_nil members) done
  unfold extractAndVerify at extracted
  split at extracted
  · split at extracted
    next file single =>
      have declared : file ∈ manifest.files := by
        rw [single]
        exact List.mem_singleton_self _
      cases copied : streamCopy sha256 manifest {} file (archive, false) with
      | error error =>
        rw [copied] at extracted
        cases extracted
      | ok copy =>
        rw [copied] at extracted
        exact checkMissing_installed (streamCopy_declared declared onlyDeclared_nil copied).1 extracted
    · cases extracted
  · exact unpacked _ extracted
  · exact unpacked _ extracted
  · exact unpacked _ extracted
  · cases extracted

/-- A directory with the signature of the declared files holds them. -/
theorem installed_of_alike {files staged : FileTree} (installed : Installed sha256 manifest staged)
    (alike : files.alike sha256 staged = true) : Installed sha256 manifest files := by
  unfold FileTree.alike at alike
  rw [Bool.and_eq_true, List.all_eq_true, List.all_eq_true] at alike
  intro entry
  rw [← installed entry]
  constructor
  · exact fun mem => List.contains_iff_mem.1 (alike.1 entry mem)
  · exact fun mem => List.contains_iff_mem.1 (alike.2 entry mem)

/-- The files of a set are copied one after the other. -/
theorem copyFiles_declared {downloaded : FileTree} (files : List ModelFile)
    (declared : ∀ file ∈ files, file ∈ manifest.files)
    (only : OnlyDeclared sha256 manifest staging.files)
    (copied : copyFiles sha256 manifest downloaded staging files = .ok after) :
    OnlyDeclared sha256 manifest after.files ∧
      ∀ name, name ∈ staging.files.names ∨ (∃ file ∈ files, file.name = name) →
        name ∈ after.files.names := by
  induction files generalizing staging with
  | nil =>
    cases copied
    refine ⟨only, fun name there => there.resolve_right ?_⟩
    rintro ⟨_, absent, _⟩
    cases absent
  | cons file rest ih =>
    unfold copyFiles at copied
    split at copied
    · cases copied
    next content _ =>
      cases one : streamCopy sha256 manifest staging file (content, false) with
      | error error =>
        rw [one] at copied
        cases copied
      | ok next =>
        rw [one] at copied
        obtain ⟨onlyNext, namesNext⟩ := streamCopy_declared (declared file List.mem_cons_self) only one
        obtain ⟨onlyAfter, names⟩ :=
          ih (fun other mem => declared other (List.mem_cons_of_mem _ mem)) onlyNext copied
        refine ⟨onlyAfter, fun name there => names name ?_⟩
        rcases there with old | ⟨other, mem, rfl⟩
        · exact .inl (namesNext name (.inl old))
        · rcases List.mem_cons.1 mem with rfl | later
          · exact .inl (namesNext _ (.inr rfl))
          · exact .inr ⟨other, later, rfl⟩

theorem stageFileSet_installed {downloaded staged : FileTree}
    (copied : stageFileSet sha256 manifest downloaded = .ok staged) :
    Installed sha256 manifest staged := by
  unfold stageFileSet at copied
  split at copied
  · cases copied
  · cases ran : copyFiles sha256 manifest downloaded {}
        (manifest.files.mergeSort fun a b => decide (a.name ≤ b.name)) with
    | error error =>
      rw [ran] at copied
      cases copied
    | ok staging =>
      rw [ran] at copied
      cases copied
      obtain ⟨only, names⟩ := copyFiles_declared _ (fun file mem => List.mem_mergeSort.1 mem)
        onlyDeclared_nil ran
      apply installed_of_names only
      intro file mem
      exact names file.name (.inr ⟨file, List.mem_mergeSort.2 mem, rfl⟩)

end

section

variable {config : InstallConfig} {files staged : FileTree}

theorem stageTemp_installed (done : stageTemp config files = .ok staged) :
    Installed config.sha256 config.manifest staged := by
  unfold stageTemp at done
  split at done
  · exact stageFileSet_installed done
  · split at done
    · cases done
    · exact extractAndVerify_installed done

/-- A promotion leaves the declared files, those that it brought or the same ones. -/
theorem promote_installed {existing : Option FileTree}
    (installed : Installed config.sha256 config.manifest staged)
    (promoted : promote config.sha256 existing staged = .ok files) :
    Installed config.sha256 config.manifest files := by
  unfold promote at promoted
  split at promoted
  · cases promoted
    exact installed
  · split at promoted
    next alike =>
      cases promoted
      exact installed_of_alike installed alike
    · cases promoted

end

end EvoBlue.Guarantees
