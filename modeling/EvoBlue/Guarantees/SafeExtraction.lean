import EvoBlue.Guarantees.InstalledFiles
import EvoBlue.Source.ArchiveCalls

/-!
# Unpacking touches nothing else

Whatever an archive holds, `install_archive` writes below its staging directory and nowhere else,
reads only members that are plain files and not more of them than the manifest allows, and the
version directory is as it was until it holds the declared files.
-/

namespace EvoBlue.Guarantees

open EvoBlue.Kernel EvoBlue.Source

section

variable (sha256 : Bytes → String) (manifest : ModelManifest) (before : UnpackSite)

/-- Nothing outside the staging directory has changed, and not too much was read. -/
structure Confined (site : UnpackSite) : Prop where
  elsewhere : site.elsewhere = before.elsewhere
  dest : site.dest = before.dest
  taken : site.taken ≤ manifest.installedSizeBytes + chunkSize

/-- What is read is a plain file. -/
def ReadsPlainFile : UnpackCall → Prop
  | .read (some header) _ => header.kind = .file
  | _ => True

/-- What is promised of an unpacking: of its calls, each with the files it is made over, and of
its end. -/
structure UnpacksSafely (moments : List ((UnpackSite × Nat) × UnpackCall))
    (result : Except InstallError Unit) (left : UnpackSite) : Prop where
  confined : ∀ moment ∈ moments, Confined manifest before moment.1.1
  elsewhere : left.elsewhere = before.elsewhere
  taken : left.taken ≤ manifest.installedSizeBytes + chunkSize
  plain : ∀ world header bytes, (world, .read (some header) bytes) ∈ moments → header.kind = .file
  raised : ∀ error, result = .error error → left.dest = before.dest
  returned : result = .ok () → ∃ files, left.dest = some files ∧ Installed sha256 manifest files

/-- A call is made within bounds, and answered as the outside has it. -/
def unpacking : Protocol UnpackCall UnpackAnswer UnpackSite where
  allowed site call := Confined manifest before site ∧ ReadsPlainFile call
  moves site call answer after := ∃ now, site.serve sha256 now call = (answer, after)

end

/-! ## Names -/

theorem slug_chars {part : List Char} (slug : isSlug part = true) :
    ∀ c ∈ part, isSlugChar c = true ∨ c = '\n' := by
  have alike : ∀ (first : Char) (rest : List Char),
      (first.isAlphanum && rest.all isSlugChar) = true →
      ∀ c ∈ first :: rest, isSlugChar c = true := by
    intro first rest shape c mem
    simp only [Bool.and_eq_true, List.all_eq_true] at shape
    cases List.mem_cons.1 mem with
    | inl same => simp [isSlugChar, same, shape.1]
    | inr later => exact shape.2 c later
  unfold isSlug at slug
  dsimp only at slug
  split at slug
  next => cases slug
  next first rest line =>
    intro c mem
    by_cases ended : part.getLast? = some '\n'
    · rw [if_pos ended] at line
      obtain ⟨front, rfl⟩ := List.getLast?_eq_some_iff.1 ended
      rw [List.dropLast_concat] at line
      rw [line] at mem
      cases List.mem_append.1 mem with
      | inl inside => exact .inl (alike first rest slug c inside)
      | inr last => exact .inr (List.mem_singleton.1 last)
    · rw [if_neg ended] at line
      rw [line] at mem
      exact .inl (alike first rest slug c mem)

/-- A slug is a name, and none of the two special ones. -/
theorem slug_named {part : List Char} (slug : isSlug part = true) :
    part ≠ [] ∧ part ≠ ['.'] ∧ part ≠ ['.', '.'] := by
  refine ⟨?_, ?_, ?_⟩ <;> (rintro rfl; revert slug; decide)

theorem descend_slugs {place parts : List (List Char)} (slugs : ∀ part ∈ parts, isSlug part = true) :
    below.descend place parts = some (place ++ parts) := by
  induction parts generalizing place with
  | nil => rw [List.append_nil]; rfl
  | cons part rest ih =>
    obtain ⟨nonempty, here, up⟩ := slug_named (slugs part List.mem_cons_self)
    rw [below.descend, if_neg (not_or.2 ⟨nonempty, here⟩), if_neg up,
      ih fun other mem => slugs other (List.mem_cons_of_mem _ mem), List.append_assoc]
    rfl

theorem pathParts_normalized {name : List Char} (normalized : '\\' ∉ name) :
    pathParts name = name.splitOn '/' := by
  unfold pathParts
  congr 1
  conv_rhs => rw [← List.map_id name]
  apply List.map_congr_left
  intro c mem
  apply if_neg
  rintro rfl
  exact normalized mem

theorem relative_not_absolute {name : List Char} (normalized : '\\' ∉ name)
    (relative : isRelativePath name = true) : isAbsolutePath name = false := by
  unfold isRelativePath at relative
  rw [pathParts_normalized normalized, Bool.and_eq_true, List.all_eq_true] at relative
  have slugs := relative.2
  unfold isAbsolutePath
  split
  next rest =>
    rw [List.splitOn_cons_eq_if_modifyHead, if_pos (by decide)] at slugs
    exact absurd (slugs [] List.mem_cons_self) (by decide)
  next => exact absurd List.mem_cons_self normalized
  next letter rest _ _ =>
    by_contra drive
    rw [Bool.not_eq_false] at drive
    have notSlash : (letter == '/') = false := by
      by_contra same
      rw [Bool.not_eq_false, beq_iff_eq] at same
      rw [same] at drive
      revert drive
      decide
    obtain ⟨first, others, split⟩ := List.exists_cons_of_ne_nil (List.splitOn_ne_nil '/' rest)
    rw [List.splitOn_cons_eq_if_modifyHead, List.splitOn_cons_eq_if_modifyHead, notSlash, split] at slugs
    have slug := slugs (letter :: ':' :: first) (by simp)
    have colon := slug_chars slug ':' (by simp)
    revert colon
    decide
  next => rfl

/-- A declared name is a place below the directory, and the place has this name. -/
theorem below_declared (file : ModelFile) :
    ∃ place, below file.name.toList = some place ∧ joinPath place = file.name := by
  have relative := file.relative
  refine ⟨pathParts file.name.toList, ?_, ?_⟩
  · unfold below
    rw [relative_not_absolute file.normalized relative, if_neg Bool.false_ne_true]
    unfold isRelativePath at relative
    rw [Bool.and_eq_true, List.all_eq_true] at relative
    exact descend_slugs relative.2
  · unfold joinPath
    rw [pathParts_normalized file.normalized]
    have joined : ['/'].intercalate (file.name.toList.splitOn '/') = file.name.toList :=
      List.intercalate_splitOn '/'
    unfold List.intercalate at joined
    rw [joined, String.ofList_toList]

/-! ## Calls -/

/-- What `Staging` and the names of the archive are to the pure functions. -/
def asMember (member : ArchiveMember) : Member where
  name := member.header.name
  kind := member.header.kind
  size := member.header.size
  content := member.chunks.map fun chunks => (chunkBytes chunks, false)

theorem append_put (files : FileTree) (name : String) (content bytes : Bytes) :
    (files.put name content).append name bytes = files.put name (content ++ bytes) := by
  unfold FileTree.append FileTree.put
  rw [List.map_append]
  congr 1
  · conv_rhs => rw [← List.map_id (files.filter _)]
    apply List.map_congr_left
    intro file mem
    exact if_neg (of_decide_eq_true (List.mem_filter.1 mem).2)
  · simp

section

variable {sha256 : Bytes → String} {manifest : ModelManifest} {before site : UnpackSite} {α : Type}
  {post : UnpackSite → α → Prop}

/-- A call that an operation refuses changes nothing. -/
theorem perform_raised {call : UnpackCall} {error : InstallError} {after : UnpackSite}
    (refused : site.perform sha256 call = (.error error, after)) : after = site := by
  unfold UnpackSite.perform at refused
  cases call with
  | makeDirs name =>
    dsimp only at refused
    split at refused
    · exact (Prod.mk.inj refused).2.symm
    · cases (Prod.mk.inj refused).1
  | openFile name =>
    dsimp only at refused
    unfold UnpackSite.create at refused
    split at refused
    · split at refused
      · exact (Prod.mk.inj refused).2.symm
      · cases (Prod.mk.inj refused).1
    · cases (Prod.mk.inj refused).1
  | _ => cases (Prod.mk.inj refused).1

/-- One call. One that raises leaves everything within bounds. -/
theorem follows_unpack {call : UnpackCall} (confined : Confined manifest before site)
    (plain : ReadsPlainFile call) (torn : ∀ count, Confined manifest before (site.afterFailure count call)) :
    (Unpack.ask call).Follows (unpacking sha256 manifest before)
      (fun after reply => site.perform sha256 call = (.ok reply, after))
      (fun left _ => Confined manifest before left) site := by
  have permitted : (unpacking sha256 manifest before).allowed site call := ⟨confined, plain⟩
  apply Attempt.follows_ask permitted
  · rintro reply after ⟨now, served⟩
    unfold UnpackSite.serve at served
    split at served
    next => cases (Prod.mk.inj served).1
    next => exact served
  · rintro error after ⟨now, served⟩
    unfold UnpackSite.serve at served
    split at served
    next =>
      obtain ⟨_, rfl⟩ := Prod.mk.inj served
      exact torn now.torn
    next =>
      rw [perform_raised served]
      exact confined

/-- One call, then the rest. -/
theorem follows_unpack_bind {call : UnpackCall} {next : UnpackReply call → Unpack α}
    (confined : Confined manifest before site) (plain : ReadsPlainFile call)
    (torn : ∀ count, Confined manifest before (site.afterFailure count call))
    (goes : ∀ reply after, site.perform sha256 call = (.ok reply, after) →
      (next reply).Follows (unpacking sha256 manifest before) post
        (fun left _ => Confined manifest before left) after) :
    (Unpack.ask call >>= next).Follows (unpacking sha256 manifest before) post
      (fun left _ => Confined manifest before left) site :=
  Attempt.follows_bind (follows_unpack confined plain torn) fun after reply => goes reply after

theorem follows_unpackOrRaise {β : Type} {result : Except InstallError β} {next : β → Unpack α}
    (confined : Confined manifest before site)
    (goes : ∀ value, result = .ok value → (next value).Follows (unpacking sha256 manifest before) post
      (fun left _ => Confined manifest before left) site) :
    (Unpack.orRaise result >>= next).Follows (unpacking sha256 manifest before) post
      (fun left _ => Confined manifest before left) site := by
  cases result with
  | ok value => exact goes value rfl
  | error error => exact confined

/-! ## One file -/

/-- The staging directory holds what the pure functions have staged, and what was read is what
the budget has counted. -/
structure Staged (manifest : ModelManifest) (before : UnpackSite) (staging : Staging) (site : UnpackSite) :
    Prop where
  elsewhere : site.elsewhere = before.elsewhere
  dest : site.dest = before.dest
  files : site.staging = staging.files
  taken : site.taken = staging.spent
  spent : staging.spent ≤ manifest.installedSizeBytes

theorem Staged.confined {staging : Staging} (staged : Staged manifest before staging site) :
    Confined manifest before site where
  elsewhere := staged.elsewhere
  dest := staged.dest
  taken := by
    have spent := staged.spent
    rw [← staged.taken] at spent
    omega

/-- In the loop of the copy: the file in the staging directory is what is hashed. -/
structure Copying (manifest : ModelManifest) (before : UnpackSite) (staging : Staging) (file : ModelFile)
    (size : Nat) (hashed : Bytes) (spent : Nat) (site : UnpackSite) : Prop where
  elsewhere : site.elsewhere = before.elsewhere
  dest : site.dest = before.dest
  files : site.staging = staging.files.put file.name hashed
  counted : size = hashed.length
  budget : spent = staging.spent + size
  taken : site.taken = spent
  fits : spent ≤ manifest.installedSizeBytes
  small : size ≤ file.sizeBytes

namespace Copying

variable {staging : Staging} {file : ModelFile} {size spent : Nat} {hashed : Bytes} {chunk : Chunk}

theorem confined (copying : Copying manifest before staging file size hashed spent site) :
    Confined manifest before site where
  elsewhere := copying.elsewhere
  dest := copying.dest
  taken := by
    have fits := copying.fits
    rw [← copying.taken] at fits
    omega

/-- A chunk is read before it is counted. -/
theorem read (copying : Copying manifest before staging file size hashed spent site) :
    Confined manifest before { site with taken := site.taken + chunk.bytes.length } where
  elsewhere := copying.elsewhere
  dest := copying.dest
  taken := by
    have fits := copying.fits
    have short := chunk.short
    rw [← copying.taken] at fits
    dsimp only
    omega

/-- A declared file is written in the staging directory. -/
theorem append_declared (file : ModelFile) (bytes : Bytes) :
    site.append file.name bytes = { site with staging := site.staging.append file.name bytes } := by
  obtain ⟨place, inside, named⟩ := below_declared file
  unfold UnpackSite.append
  rw [inside]
  dsimp only
  rw [named]

theorem write (copying : Copying manifest before staging file size hashed spent site)
    (small : size + chunk.bytes.length ≤ file.sizeBytes)
    (fits : spent + chunk.bytes.length ≤ manifest.installedSizeBytes) :
    Copying manifest before staging file (size + chunk.bytes.length) (hashed ++ chunk.bytes)
      (spent + chunk.bytes.length)
      ({ site with taken := site.taken + chunk.bytes.length }.append file.name chunk.bytes) := by
  rw [append_declared]
  refine ⟨copying.elsewhere, copying.dest, ?_, ?_, ?_, ?_, fits, small⟩
  · dsimp only
    rw [copying.files, append_put]
  · rw [List.length_append, copying.counted]
  · rw [copying.budget, Nat.add_assoc]
  · dsimp only
    rw [copying.taken]

end Copying

/-- The chunks are read, checked and written one after the other. -/
theorem follows_copyChunks {source : Option MemberHeader} {staging : Staging} {file : ModelFile}
    {size spent : Nat} {hashed : Bytes} (chunks : List Chunk)
    (plain : ∀ header, source = some header → header.kind = .file)
    (copying : Copying manifest before staging file size hashed spent site) :
    (Unpack.copyChunks manifest source file size hashed spent chunks).Follows
      (unpacking sha256 manifest before)
      (fun after result => Copying manifest before staging file result.1 result.2.1 result.2.2 after ∧
        result.2.1 = hashed ++ chunkBytes chunks)
      (fun left _ => Confined manifest before left) site := by
  have reads (bytes : Bytes) : ReadsPlainFile (.read source bytes) := by
    cases source with
    | none => trivial
    | some header => exact plain header rfl
  induction chunks generalizing size hashed spent site with
  | nil =>
    apply follows_unpack_bind copying.confined (reads [])
    · exact fun _ => copying.confined
    rintro _ after ⟨⟩
    exact Attempt.follows_pure ⟨⟨copying.elsewhere, copying.dest, copying.files, copying.counted,
      copying.budget, copying.taken, copying.fits, copying.small⟩, (List.append_nil _).symm⟩
  | cons chunk rest ih =>
    unfold Unpack.copyChunks
    apply follows_unpack_bind copying.confined (reads chunk.bytes)
    · exact fun _ => copying.confined
    rintro _ after ⟨⟩
    have read := @Copying.read _ _ _ _ _ _ _ _ chunk copying
    split
    next => exact Attempt.follows_throw read
    next small =>
      split
      next => exact Attempt.follows_throw read
      next fits =>
        apply follows_unpack_bind read
        · trivial
        · intro count
          change Confined manifest before (UnpackSite.append _ file.name _)
          rw [Copying.append_declared]
          exact ⟨read.elsewhere, read.dest, read.taken⟩
        rintro _ after ⟨⟩
        refine Attempt.follows_mono (ih (copying.write (not_lt.1 small) (not_lt.1 fits))) ?_
          fun _ _ raised => raised
        rintro after result ⟨copied, same⟩
        refine ⟨copied, same.trans ?_⟩
        rw [List.append_assoc]
        rfl

theorem makeDirs_returned {file : ModelFile} {after : UnpackSite}
    (made : site.perform sha256 (.makeDirs file.name) = (.ok (), after)) :
    after = site ∧ site.staging.obstruction file.name = none := by
  obtain ⟨place, inside, named⟩ := below_declared file
  unfold UnpackSite.perform at made
  dsimp only at made
  rw [inside, Option.bind_some, named] at made
  cases obstructed : site.staging.obstruction file.name with
  | none =>
    rw [obstructed] at made
    exact ⟨(Prod.mk.inj made).2.symm, rfl⟩
  | some error =>
    rw [obstructed] at made
    cases (Prod.mk.inj made).1

theorem openFile_returned {file : ModelFile} {after : UnpackSite}
    (opened : site.perform sha256 (.openFile file.name) = (.ok (), after)) :
    after = { site with staging := site.staging.put file.name [] } := by
  obtain ⟨place, inside, named⟩ := below_declared file
  change site.create file.name = _ at opened
  unfold UnpackSite.create at opened
  rw [inside] at opened
  dsimp only at opened
  rw [named] at opened
  split at opened
  · cases (Prod.mk.inj opened).1
  · exact (Prod.mk.inj opened).2.symm

/-- A copy ends as the pure one does. -/
theorem follows_streamCopy {source : Option MemberHeader} {staging : Staging} {file : ModelFile}
    {chunks : List Chunk} (plain : ∀ header, source = some header → header.kind = .file)
    (staged : Staged manifest before staging site) :
    (Unpack.streamCopy sha256 manifest source staging file chunks).Follows
      (unpacking sha256 manifest before)
      (fun after result => streamCopy sha256 manifest staging file (chunkBytes chunks, false) = .ok result ∧
        Staged manifest before result after)
      (fun left _ => Confined manifest before left) site := by
  unfold Unpack.streamCopy
  apply follows_unpack_bind staged.confined
  · trivial
  · exact fun _ => staged.confined
  intro _ made performed
  obtain ⟨rfl, clear⟩ := makeDirs_returned performed
  apply follows_unpack_bind staged.confined
  · trivial
  · exact fun _ => staged.confined
  intro _ opened performed
  have begun : Copying manifest before staging file 0 [] staging.spent opened := by
    rw [openFile_returned performed]
    refine ⟨staged.elsewhere, staged.dest, ?_, rfl, rfl, staged.taken, staged.spent, Nat.zero_le _⟩
    dsimp only
    rw [staged.files]
  apply Attempt.follows_bind (follows_copyChunks chunks plain begun)
  rintro after ⟨size, hashed, spent⟩ ⟨copied, whole⟩
  dsimp only at copied whole ⊢
  rw [List.nil_append] at whole
  subst whole
  apply follows_unpack_bind copied.confined
  · trivial
  · exact fun _ => copied.confined
  rintro _ closed ⟨⟩
  split
  next => exact Attempt.follows_throw copied.confined
  next complete =>
    split
    next => exact Attempt.follows_throw copied.confined
    next digest =>
      rw [Decidable.not_not] at complete digest
      refine Attempt.follows_pure ⟨?_, copied.elsewhere, copied.dest, copied.files, copied.taken, copied.fits⟩
      have counted := copied.counted
      have budget := copied.budget
      have fits := copied.fits
      rw [staged.files] at clear
      unfold streamCopy
      rw [clear]
      dsimp only
      have same : (chunkBytes chunks).length = file.sizeBytes := counted.symm.trans complete
      rw [if_neg (by omega), if_neg Bool.false_ne_true, if_neg (not_or.2 ⟨not_not.2 same, not_not.2 digest⟩),
        budget, counted]

/-! ## The archive -/

theorem registerMember_spent {staging after : Staging} {name : String} {root : Option String}
    {file : ModelFile} (registered : registerMember manifest staging name root = .ok (file, after)) :
    after.spent = staging.spent := by
  unfold registerMember at registered
  split at registered
  · cases registered
  · split at registered
    · cases registered
    · cases checked : checkRoot staging root with
      | error error =>
        rw [checked] at registered
        cases registered
      | ok rooted =>
        rw [checked] at registered
        cases registered
        unfold checkRoot at checked
        repeat' split at checked
        all_goals cases checked
        all_goals rfl

theorem registered_staged {staging after : Staging} {name : String} {root : Option String}
    {file : ModelFile} (staged : Staged manifest before staging site)
    (registered : registerMember manifest staging name root = .ok (file, after)) :
    Staged manifest before after site := by
  have spent := registerMember_spent registered
  refine ⟨staged.elsewhere, staged.dest, ?_, ?_, ?_⟩
  · rw [staged.files, (registerMember_declared registered).2]
  · rw [staged.taken, spent]
  · rw [spent]
    exact staged.spent

theorem extractMember_dir {staging : Staging} {member : ArchiveMember} (kind : member.header.kind = .dir)
    (safe : rejectUnsafe member.header.name.toList = .ok ()) :
    extractMember sha256 manifest staging (asMember member) = .ok staging := by
  unfold extractMember
  rw [show (asMember member).kind = .dir from kind]
  change (rejectUnsafe member.header.name.toList).map _ = _
  rw [safe]
  rfl

/-- A plain file under a declared name, small enough. -/
theorem extractMember_file {staging rooted : Staging} {member : ArchiveMember} {name : String}
    {root : Option String} {file : ModelFile} (kind : member.header.kind = .file)
    (named : memberTarget member.header.name.toList = .ok (name, root))
    (registered : registerMember manifest staging name root = .ok (file, rooted))
    (small : ¬ file.sizeBytes < member.header.size) :
    extractMember sha256 manifest staging (asMember member) =
      match member.chunks with
      | none => .ok rooted
      | some chunks => streamCopy sha256 manifest rooted file (chunkBytes chunks, false) := by
  unfold extractMember
  rw [show (asMember member).kind = .file from kind]
  change (memberTarget member.header.name.toList >>= _) = _
  rw [named]
  change (registerMember manifest staging name root >>= _) = _
  rw [registered]
  change (if file.sizeBytes < member.header.size then _ else _) = _
  rw [if_neg small]
  unfold asMember
  cases member.chunks <;> rfl

theorem follows_extractMember {staging : Staging} {member : ArchiveMember}
    (staged : Staged manifest before staging site) :
    (Unpack.extractMember sha256 manifest staging member).Follows (unpacking sha256 manifest before)
      (fun after result => extractMember sha256 manifest staging (asMember member) = .ok result ∧
        Staged manifest before result after)
      (fun left _ => Confined manifest before left) site := by
  unfold Unpack.extractMember
  cases kind : member.header.kind with
  | link | special | unsupported => exact Attempt.follows_throw staged.confined
  | dir =>
    apply follows_unpackOrRaise staged.confined
    intro _ safe
    exact Attempt.follows_pure ⟨extractMember_dir kind safe, staged⟩
  | file =>
    apply follows_unpackOrRaise staged.confined
    rintro ⟨name, root⟩ named
    apply follows_unpackOrRaise staged.confined
    rintro ⟨file, rooted⟩ registered
    have stagedAfter := registered_staged staged registered
    dsimp only
    split
    next => exact Attempt.follows_throw stagedAfter.confined
    next small =>
      have pure_ := @extractMember_file sha256 _ _ _ _ _ _ _ kind named registered small
      rw [pure_]
      apply follows_unpack_bind stagedAfter.confined
      · trivial
      · exact fun _ => stagedAfter.confined
      rintro _ opened ⟨⟩
      cases member.chunks with
      | none => exact Attempt.follows_pure ⟨rfl, stagedAfter⟩
      | some chunks =>
        apply follows_streamCopy _ stagedAfter
        rintro header ⟨⟩
        exact kind

/-- A call that reads or writes nothing. -/
theorem follows_idle {call : UnpackCall} {next : UnpackReply call → Unpack α}
    (confined : Confined manifest before site) (plain : ReadsPlainFile call)
    (still : ∀ count, site.afterFailure count call = site)
    (quiet : ∀ reply after, site.perform sha256 call = (.ok reply, after) → after = site)
    (goes : ∀ reply, (next reply).Follows (unpacking sha256 manifest before) post
      (fun left _ => Confined manifest before left) site) :
    (Unpack.ask call >>= next).Follows (unpacking sha256 manifest before) post
      (fun left _ => Confined manifest before left) site := by
  apply follows_unpack_bind confined plain
  · intro count
    rw [still]
    exact confined
  · intro reply after performed
    rw [quiet reply after performed]
    exact goes reply

theorem follows_nextMember {next : Unpack α} (confined : Confined manifest before site)
    (goes : next.Follows (unpacking sha256 manifest before) post
      (fun left _ => Confined manifest before left) site) :
    (Unpack.ask .nextMember >>= fun _ => next).Follows (unpacking sha256 manifest before) post
      (fun left _ => Confined manifest before left) site := by
  apply follows_idle confined
  · trivial
  · exact fun _ => rfl
  · rintro _ after ⟨⟩
    rfl
  · exact fun _ => goes

/-- So do all of them, by induction on the members. -/
theorem follows_extractMembers (members : List ArchiveMember) {left : Nat} {staging : Staging}
    (staged : Staged manifest before staging site) :
    (Unpack.extractMembers sha256 manifest left staging members).Follows (unpacking sha256 manifest before)
      (fun after result =>
        extractMembers sha256 manifest false left staging (members.map asMember) = .ok result ∧
          Staged manifest before result after)
      (fun left _ => Confined manifest before left) site := by
  induction members generalizing left staging site with
  | nil =>
    unfold Unpack.extractMembers
    apply follows_nextMember staged.confined
    refine Attempt.follows_pure ⟨?_, staged⟩
    unfold extractMembers
    rfl
  | cons member rest ih =>
    cases left with
    | zero =>
      unfold Unpack.extractMembers
      apply follows_nextMember staged.confined
      exact Attempt.follows_throw staged.confined
    | succ left =>
      unfold Unpack.extractMembers
      apply follows_nextMember staged.confined
      apply Attempt.follows_bind (follows_extractMember staged)
      rintro after staging' ⟨one, stagedOne⟩
      refine Attempt.follows_mono (ih stagedOne) ?_ fun _ _ raised => raised
      rintro after result ⟨all, stagedAll⟩
      refine ⟨?_, stagedAll⟩
      rw [List.map_cons, extractMembers]
      rw [one]
      exact all

/-- The archive as the pure functions read it. -/
def asReading (archive : ArchiveFile) : ArchiveReading := ⟨archive.members.map asMember, false⟩

theorem follows_extractAndVerify {archive : ArchiveFile} (staged : Staged manifest before {} site) :
    (Unpack.extractAndVerify sha256 manifest archive).Follows (unpacking sha256 manifest before)
      (fun after tree => extractAndVerify sha256 manifest (fun _ _ => asReading archive)
        (chunkBytes archive.chunks) = .ok tree ∧ after.staging = tree ∧ Confined manifest before after)
      (fun left _ => Confined manifest before left) site := by
  have verified {staging : Staging} {after : UnpackSite} (stagedAll : Staged manifest before staging after)
      {tree : Except InstallError FileTree} (same : tree = checkMissing manifest staging) :
      (Unpack.orRaise (checkMissing manifest staging)).Follows (unpacking sha256 manifest before)
        (fun left found => tree = .ok found ∧ left.staging = found ∧ Confined manifest before left)
        (fun left _ => Confined manifest before left) after := by
    subst same
    cases checked : checkMissing manifest staging with
    | error error => exact Attempt.follows_throw stagedAll.confined
    | ok found =>
      refine Attempt.follows_pure ⟨rfl, ?_, stagedAll.confined⟩
      rw [stagedAll.files]
      unfold checkMissing at checked
      split at checked
      · cases checked
        rfl
      · cases checked
  have unpacked : (do
      Unpack.ask .openArchive
      let staging ← Unpack.extractMembers sha256 manifest maxArchiveMembers {} archive.members
      Unpack.orRaise (checkMissing manifest staging)).Follows (unpacking sha256 manifest before)
      (fun after tree => (extractMembers sha256 manifest false maxArchiveMembers {}
          (archive.members.map asMember) >>= checkMissing manifest) = Except.ok tree ∧
          after.staging = tree ∧ Confined manifest before after)
      (fun left _ => Confined manifest before left) site := by
    apply follows_idle staged.confined
    · trivial
    · exact fun _ => rfl
    · rintro _ after ⟨⟩
      rfl
    · intro _
      apply Attempt.follows_bind (follows_extractMembers archive.members staged)
      rintro after staging ⟨all, stagedAll⟩
      apply verified stagedAll
      rw [all]
      rfl
  unfold Unpack.extractAndVerify extractAndVerify
  cases manifest.archiveFormat with
  | raw =>
    dsimp only
    cases filesAre : manifest.files with
    | nil => exact absurd filesAre manifest.filed
    | cons file rest =>
      cases rest with
      | cons => exact Attempt.follows_throw staged.confined
      | nil =>
        dsimp only
        apply follows_idle staged.confined
        · trivial
        · exact fun _ => rfl
        · rintro _ after ⟨⟩
          rfl
        · intro _
          apply Attempt.follows_bind (follows_streamCopy (by rintro header ⟨⟩) staged)
          rintro after staging ⟨copied, stagedAll⟩
          apply verified stagedAll
          rw [copied]
          rfl
  | tarBz2 | tarGz | zip => exact unpacked
  | fileSet => exact Attempt.follows_throw staged.confined

/-! ## The promotion -/

/-- The version directory holds the declared files, and nothing else has changed. -/
def Promoted (sha256 : Bytes → String) (manifest : ModelManifest) (before site : UnpackSite) : Prop :=
  site.elsewhere = before.elsewhere ∧ site.taken ≤ manifest.installedSizeBytes + chunkSize ∧
    ∃ files, site.dest = some files ∧ Installed sha256 manifest files

/-- A staging directory is removed, or left. -/
theorem follows_removeStaging {keeps : UnpackSite → Prop}
    (confined : Confined manifest before site) (kept : keeps site)
    (removed : keeps { site with staging := [] }) :
    Unpack.removeStaging.Follows (unpacking sha256 manifest before) (fun after _ => keeps after)
      (fun left _ => Confined manifest before left) site := by
  unfold Unpack.removeStaging
  have permitted : (unpacking sha256 manifest before).allowed site .removeStaging := ⟨confined, trivial⟩
  apply Attempt.follows_call permitted
  rintro answer after ⟨now, served⟩
  unfold UnpackSite.serve at served
  split at served
  · rw [← (Prod.mk.inj served).2]
    exact Attempt.follows_pure kept
  · rw [← (Prod.mk.inj served).2]
    exact Attempt.follows_pure removed

theorem follows_promotion (confined : Confined manifest before site)
    (installed : Installed sha256 manifest site.staging) :
    Unpack.promote.Follows (unpacking sha256 manifest before)
      (fun after _ => Promoted sha256 manifest before after)
      (fun left _ => Confined manifest before left) site := by
  unfold Unpack.promote
  apply follows_unpack_bind confined
  · trivial
  · exact fun _ => confined
  rintro there asked ⟨⟩
  cases present : site.dest with
  | none =>
    refine Attempt.follows_mono (follows_unpack confined ?_ fun _ => confined) ?_ fun _ _ raised => raised
    · trivial
    · rintro after _ ⟨⟩
      exact ⟨confined.elsewhere, confined.taken, _, rfl, installed⟩
  | some files =>
    apply follows_unpack_bind confined
    · trivial
    · exact fun _ => confined
    rintro staged left ⟨⟩
    apply follows_unpack_bind confined
    · trivial
    · exact fun _ => confined
    rintro signature left ⟨⟩
    rw [present, Option.getD_some]
    split
    next alike =>
      rw [Bool.and_comm] at alike
      have promoted := installed_of_alike installed alike
      exact follows_removeStaging confined ⟨confined.elsewhere, confined.taken, files, present, promoted⟩
        ⟨confined.elsewhere, confined.taken, files, present, promoted⟩
    next => exact Attempt.follows_throw confined

/-- `install_archive`, whatever happens at its calls. -/
theorem follows_installArchive {archive : ArchiveFile} (confined : Confined manifest before site)
    (fresh : site.taken = 0) :
    (Unpack.installArchive sha256 manifest archive).Follows (unpacking sha256 manifest before)
      (fun after _ => Promoted sha256 manifest before after)
      (fun left _ => Confined manifest before left) site := by
  unfold Unpack.installArchive
  apply follows_idle confined
  · trivial
  · exact fun _ => rfl
  · rintro _ after ⟨⟩
    rfl
  intro _
  apply follows_unpack_bind confined
  · trivial
  · exact fun _ => confined
  rintro _ made ⟨⟩
  have staged : Staged manifest before {} { site with staging := [] } :=
    ⟨confined.elsewhere, confined.dest, rfl, fresh, Nat.zero_le _⟩
  apply @Attempt.follows_tryCatch _ _ _ _ _ _ _ _ _ fun left _ => Confined manifest before left
  · apply Attempt.follows_bind (follows_extractAndVerify staged)
    rintro after tree ⟨extracted, rfl, confinedAfter⟩
    exact follows_promotion confinedAfter (extractAndVerify_installed extracted)
  · intro left error confinedLeft
    apply Attempt.follows_bind (follows_removeStaging confinedLeft confinedLeft
      ⟨confinedLeft.elsewhere, confinedLeft.dest, confinedLeft.taken⟩)
    intro after _ confinedAfter
    exact Attempt.follows_throw confinedAfter

end

/-- Whatever the archive holds and whatever happens at each call, an unpacking is safe. -/
theorem unpacking_is_safe (sha256 : Bytes → String) (manifest : ModelManifest) (archive : ArchiveFile)
    (dest : Option FileTree) (elsewhere : FileTree) (outside : Nat → UnpackCircumstance) :
    let unpack := (Unpack.installArchive sha256 manifest archive).run
    let ended := unpack.exec (UnpackSite.serveNext sha256 outside) ({ dest, elsewhere }, 0)
    UnpacksSafely sha256 manifest { dest, elsewhere }
      (unpack.moments (UnpackSite.serveNext sha256 outside) ({ dest, elsewhere }, 0)) ended.1 ended.2.1 := by
  intro unpack ended
  let watch := unpacking sha256 manifest { dest, elsewhere }
  have answers (call : UnpackCall) (world : UnpackSite × Nat) : watch.moves world.1 call
      (UnpackSite.serveNext sha256 outside call world).1 (UnpackSite.serveNext sha256 outside call world).2.1 :=
    ⟨outside world.2, rfl⟩
  have follows := @follows_installArchive sha256 manifest { dest, elsewhere } { dest, elsewhere } archive
    ⟨rfl, rfl, Nat.zero_le _⟩ rfl
  have allowed := @Process.allowed_of_follows _ _ _ _ watch _ _ Prod.fst _ answers _ (_, 0) follows
  have ends := @Process.exec_of_follows _ _ _ _ watch _ _ Prod.fst _ answers _ (_, 0) follows
  change Attempt.Ends _ _ ended.2.1 ended.1 at ends
  generalize ended = finished at ends
  obtain ⟨result, left, number⟩ := finished
  have plain (world : UnpackSite × Nat) (header : MemberHeader) (bytes : Bytes)
      (mem : (world, .read (some header) bytes) ∈
        unpack.moments (UnpackSite.serveNext sha256 outside) ({ dest, elsewhere }, 0)) :
      header.kind = .file := (allowed (world, .read (some header) bytes) mem).2
  have confined : ∀ moment ∈ unpack.moments (UnpackSite.serveNext sha256 outside) ({ dest, elsewhere }, 0),
      Confined manifest { dest, elsewhere } moment.1.1 := fun moment mem => (allowed moment mem).1
  cases result with
  | ok =>
    obtain ⟨same, taken, files, there, installed⟩ := ends
    exact ⟨confined, same, taken, plain, nofun, fun _ => ⟨files, there, installed⟩⟩
  | error error => exact ⟨confined, ends.elsewhere, ends.taken, plain, fun _ _ => ends.dest, nofun⟩

/-- A model of one file of two bytes. -/
def smallManifest : ModelManifest where
  modelId := "small"
  version := "1"
  compressedSizeBytes := 9
  installedSizeBytes := 2
  redistribution := .mirrorApproved
  archiveFormat := .zip
  sources := [⟨"https://github.com/small.zip", .upstream, "d", 9, by decide⟩]
  files := [⟨"a.bin", none, 2, "d", by decide, by decide, by decide⟩]
  sourced := by decide
  filed := by decide
  sourceSizes := by decide
  sourceDigests := by decide
  installedSize := by decide
  fileNames := by decide
  fileSetPaths := by decide
  fileSetSize := by decide
  upstream := by decide

/-- The file under a root directory is installed; one that climbs out of it is refused. -/
example :
    let unpack (filename : String) :=
      (Unpack.installArchive (fun _ => "d") smallManifest
        ⟨[], [⟨.zip filename 0 2, some [⟨[1, 2], by decide, by decide⟩]⟩]⟩).run.exec
        (UnpackSite.serveNext (fun _ => "d") fun _ => {}) ({ dest := none, elsewhere := [] }, 0)
    (unpack "root/a.bin").2.1.dest = some [("a.bin", [1, 2])] ∧
      (unpack "root/../a.bin").1 = .error .archive := by decide +kernel
end EvoBlue.Guarantees
