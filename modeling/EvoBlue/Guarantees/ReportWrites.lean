import EvoBlue.Source.WriteCalls

/-!
# A report write clobbers nothing

Whatever fails on the way, a write touches no file that was there, except the target, and
that only when it holds what the caller last wrote. The temporary file and the conflict
copy have fresh names, and a refusal comes before the first change.
-/

namespace EvoBlue.Guarantees

open EvoBlue.Kernel EvoBlue.Source EvoBlue.Source.ReportWrite

/-- The target holds what the caller knows as its own. -/
def Known (sha256 : Bytes → Text) (previousHash : Option Text) (dir : Directory) (final : Text) : Prop :=
  ∃ old, dir.find final = some (.bytes old) ∧ previousHash = some (sha256 old)

/-- Every file that was there is as it was, but for a known target. -/
def Spares (sha256 : Bytes → Text) (previousHash : Option Text) (final : Text)
    (dir after : Directory) : Prop :=
  ∀ path, (dir.find path).isSome → after.find path = dir.find path ∨
    path = final ∧ Known sha256 previousHash dir final

/-- The names a write makes up are of no file. -/
structure FreshNames (dir : Directory) (final suffix uuid : Text) : Prop where
  conflict : dir.find (conflictPath final suffix) = none
  temp : dir.find (tempPath final uuid) = none
  conflictTemp : dir.find (tempPath (conflictPath final suffix) uuid) = none

/-- But for the temporary file, the directory is as it was. -/
def Pending (dir : Directory) (tmp : Text) (after : Directory) : Prop :=
  ∀ path, path ≠ tmp → after.find path = dir.find path

section

variable {sha256 : Bytes → Text} {previousHash : Option Text} {final suffix uuid tmp : Text}
  {dir after : Directory}

theorem spares_refl : Spares sha256 previousHash final dir dir := by
  intro path _
  exact .inl rfl

theorem pending_put (pending : Pending dir tmp after) (content : FileContent) :
    Pending dir tmp (after.put tmp content) := by
  intro path other
  rw [Directory.find_put, if_neg other]
  exact pending path other

theorem spares_of_pending (pending : Pending dir tmp after) (fresh : dir.find tmp = none) :
    Spares sha256 previousHash final dir after := by
  intro path there
  left
  apply pending
  intro same
  rw [same, fresh] at there
  cases there

theorem written_put (dir : Directory) (tmp : Text) (content : Bytes) : (dir.put tmp (.bytes content)).written tmp = content := by
  unfold Directory.written
  rw [Directory.find_put, if_pos rfl]

/-! ## The calls -/

/-- A call is made while all is spared, and answered as the outside has it. -/
def writing (sha256 : Bytes → Text) (previousHash : Option Text) (final : Text) (dir : Directory) :
    Protocol WriteCall WriteAnswer Directory where
  allowed now _ := Spares sha256 previousHash final dir now
  moves now call answer after := ∃ circumstance, now.serve circumstance call = (answer, after)

/-- What a call left that succeeded, and what one that raised. -/
theorem follows_writeCall {call : WriteCall} (spares : Spares sha256 previousHash final dir after)
    (torn : ∀ count, Spares sha256 previousHash final dir (after.afterFailure count call)) :
    (ReportWrite.ask call).Follows (writing sha256 previousHash final dir)
      (fun left reply => after.perform call = (.ok reply, left))
      (fun left error => error = .osError ∧ Spares sha256 previousHash final dir left) after := by
  apply Attempt.follows_ask
  · exact spares
  · intro reply left ⟨circumstance, served⟩
    unfold Directory.serve at served
    split at served
    · cases (Prod.mk.inj served).1
    · exact served
  · intro error left ⟨circumstance, served⟩
    unfold Directory.serve at served
    split at served
    · obtain ⟨raised, same⟩ := Prod.mk.inj served
      cases raised
      rw [← same]
      exact ⟨rfl, torn circumstance.torn⟩
    · cases call with
      | readBytes path =>
        unfold Directory.perform at served
        dsimp only at served
        split at served
        · cases (Prod.mk.inj served).1
        · obtain ⟨raised, same⟩ := Prod.mk.inj served
          cases raised
          rw [← same]
          exact ⟨rfl, spares⟩
      | _ => cases (Prod.mk.inj served).1

/-- A path that may be replaced: of no file, or the known target. -/
def Replaceable (sha256 : Bytes → Text) (previousHash : Option Text) (final : Text) (dir : Directory)
    (path : Text) : Prop :=
  dir.find path = none ∨ path = final ∧ Known sha256 previousHash dir final

/-- The temporary file takes the place of a replaceable one. -/
theorem follows_publish {data : Bytes} {result : ReportWriteResult}
    (replaceable : Replaceable sha256 previousHash final dir result.path)
    (fresh : dir.find (tempPath result.path uuid) = none) :
    (publish uuid data result).Follows (writing sha256 previousHash final dir)
      (fun left value => value = result ∧ left.find result.path = some (.bytes data) ∧
        Spares sha256 previousHash final dir left)
      (fun left error => error = .osError ∧ Spares sha256 previousHash final dir left) dir := by
  unfold publish
  apply Attempt.follows_bind (follows_writeCall spares_refl fun _ => spares_refl)
  intro opened _ performed
  cases performed
  have empty := written_put dir (tempPath result.path uuid) []
  have still : Pending dir (tempPath result.path uuid) dir := fun path _ => rfl
  have pending := pending_put still (.bytes [])
  apply Attempt.follows_bind (follows_writeCall (spares_of_pending pending fresh) fun count =>
    spares_of_pending (pending_put pending _) fresh)
  intro wrote _ performed
  cases performed
  rw [empty, List.nil_append]
  have filled := written_put (dir.put (tempPath result.path uuid) (.bytes []))
    (tempPath result.path uuid) data
  have complete := pending_put pending (.bytes data)
  apply Attempt.follows_bind (follows_writeCall (spares_of_pending complete fresh) fun count =>
    spares_of_pending complete fresh)
  intro synced _ performed
  cases performed
  apply Attempt.follows_bind (follows_writeCall (spares_of_pending complete fresh) fun count =>
    spares_of_pending complete fresh)
  intro left _ performed
  cases performed
  rw [filled]
  apply Attempt.follows_pure
  refine ⟨rfl, ?_, ?_⟩
  · rw [Directory.find_put, if_pos rfl]
  · intro path there
    rw [Directory.find_put, Directory.find_erase]
    by_cases target : path = result.path
    · right
      rcases replaceable with absent | known
      · rw [target, absent] at there
        cases there
      · exact ⟨target.trans known.1, known.2⟩
    · have other : path ≠ tempPath result.path uuid := by
        intro same
        rw [same, fresh] at there
        cases there
      rw [if_neg target, if_neg other]
      exact .inl (complete path other)

/-- What holds when a write returns. -/
def Delivers (sha256 : Bytes → Text) (previousHash : Option Text) (final : Text) (dir : Directory)
    (data : Bytes) (left : Directory) (result : ReportWriteResult) : Prop :=
  left.find result.path = some (.bytes data) ∧ Spares sha256 previousHash final dir left

/-- What holds when it raises. -/
def Refuses (sha256 : Bytes → Text) (previousHash : Option Text) (final : Text) (dir left : Directory)
    (error : WriteError) : Prop :=
  (error = .conflict → left = dir) ∧ Spares sha256 previousHash final dir left

theorem refuses_of_osError {left : Directory} {error : WriteError}
    (failed : error = .osError ∧ Spares sha256 previousHash final dir left) :
    Refuses sha256 previousHash final dir left error := by
  refine ⟨fun refused => ?_, failed.2⟩
  rw [failed.1] at refused
  cases refused

theorem follows_published {data : Bytes} {result : ReportWriteResult}
    (replaceable : Replaceable sha256 previousHash final dir result.path)
    (fresh : dir.find (tempPath result.path uuid) = none) :
    (publish uuid data result).Follows (writing sha256 previousHash final dir)
      (Delivers sha256 previousHash final dir data) (Refuses sha256 previousHash final dir) dir := by
  apply Attempt.follows_mono (follows_publish replaceable fresh)
  · intro left value ⟨same, there, spares⟩
    rw [same]
    exact ⟨there, spares⟩
  · intro left error failed
    exact refuses_of_osError failed

theorem follows_overwrite (injective : Function.Injective sha256)
    (fresh : FreshNames dir final suffix uuid) {data : Bytes} :
    (overwrite sha256 previousHash suffix uuid final data).Follows
      (writing sha256 previousHash final dir) (Delivers sha256 previousHash final dir data)
      (Refuses sha256 previousHash final dir) dir := by
  unfold overwrite
  apply Attempt.follows_bind (Attempt.follows_mono
    (follows_writeCall spares_refl fun _ => spares_refl) (fun _ _ => id)
    fun _ _ => refuses_of_osError)
  intro read existing performed
  unfold Directory.perform at performed
  dsimp only at performed
  split at performed
  next content there =>
    obtain ⟨same, unchanged⟩ := Prod.mk.inj performed
    cases same
    rw [← unchanged]
    split
    next identical =>
      apply Attempt.follows_pure
      refine ⟨?_, spares_refl⟩
      rw [← injective identical]
      exact there
    next =>
      cases known : previousHash with
      | none =>
        apply Attempt.follows_throw
        exact ⟨fun _ => rfl, spares_refl⟩
      | some hash =>
        dsimp only
        split
        next =>
          apply follows_published
          · exact .inl fresh.conflict
          · exact fresh.conflictTemp
        next own =>
          apply follows_published
          · refine .inr ⟨rfl, existing, there, ?_⟩
            rw [Decidable.not_not.1 own]
          · exact fresh.temp
  next => cases (Prod.mk.inj performed).1

theorem follows_writeReport (injective : Function.Injective sha256) {root : List Text}
    {filename : Text} (inside : resolveFrom root filename = .ok final)
    (fresh : FreshNames dir final suffix uuid) (content : Text) (previousHash : Option Text) :
    (writeReport sha256 root filename content previousHash suffix uuid).Follows
      (writing sha256 previousHash final dir)
      (fun left result => ∃ data, encodeUtf8 content = some data ∧
        Delivers sha256 previousHash final dir data left result)
      (Refuses sha256 previousHash final dir) dir := by
  have raised : ∀ left error, error = WriteError.osError ∧ Spares sha256 previousHash final dir left →
      Refuses sha256 previousHash final dir left error := fun _ _ => refuses_of_osError
  unfold writeReport
  rw [inside]
  dsimp only
  apply Attempt.follows_bind (Attempt.follows_mono
    (follows_writeCall spares_refl fun _ => spares_refl) (fun _ _ => id) raised)
  intro made _ performed
  cases performed
  cases encoded : encodeUtf8 content with
  | none =>
    apply Attempt.follows_throw
    refine ⟨fun refused => ?_, spares_refl⟩
    cases refused
  | some data =>
    apply Attempt.follows_bind (Attempt.follows_mono
      (follows_writeCall spares_refl fun _ => spares_refl) (fun _ _ => id) raised)
    intro looked there performed
    cases performed
    have delivered : ∀ left (result : ReportWriteResult),
        Delivers sha256 previousHash final dir data left result →
        ∃ data', some data = some data' ∧ Delivers sha256 previousHash final dir data' left result :=
      fun left result delivers => ⟨data, rfl, delivers⟩
    split
    next =>
      exact Attempt.follows_mono (follows_overwrite injective fresh) delivered fun _ _ => id
    next absent =>
      apply Attempt.follows_mono (follows_published _ fresh.temp) delivered fun _ _ => id
      left
      simpa using absent

/-! ## Runs -/

theorem serveNext_moves (outside : Nat → WriteCircumstance) (call : WriteCall)
    (world : Directory × Nat) :
    (writing sha256 previousHash final dir).moves world.1 call
      (Directory.serveNext outside call world).1 (Directory.serveNext outside call world).2.1 :=
  ⟨outside world.2, rfl⟩

/-- With SHA-256 injective and fresh names, a write to any name inside the directory, over any
directory and whatever fails: if it returns, the file at its path holds the content; files
of another hash than the known one are as they were; a file that changed is the target with
the known hash; a refusal changes nothing; and at no call on the way is it otherwise. -/
theorem report_writes_clobber_nothing (injective : Function.Injective sha256) {root : List Text}
    {filename : Text} (inside : resolveFrom root filename = .ok final)
    (fresh : FreshNames dir final suffix uuid) (content : Text) (outside : Nat → WriteCircumstance) :
    let write := (writeReport sha256 root filename content previousHash suffix uuid).run
    let ended := write.exec (Directory.serveNext outside) (dir, 0)
    (∀ result, ended.1 = .ok result → ∃ data, encodeUtf8 content = some data ∧
      ended.2.1.find result.path = some (.bytes data)) ∧
    (∀ path old, dir.find path = some (.bytes old) → previousHash ≠ some (sha256 old) →
      ended.2.1.find path = some (.bytes old)) ∧
    (∀ path, (dir.find path).isSome → ended.2.1.find path ≠ dir.find path →
      path = final ∧ ∃ old, dir.find final = some (.bytes old) ∧ previousHash = some (sha256 old)) ∧
    (ended.1 = .error .conflict → ended.2.1 = dir) ∧
    ∀ moment ∈ write.moments (Directory.serveNext outside) (dir, 0),
      Spares sha256 previousHash final dir moment.1.1 := by
  intro write ended
  have follows := follows_writeReport injective inside fresh content previousHash
  have end_ := @Process.exec_of_follows _ _ _ _ _ _ _ (fun world : Directory × Nat => world.1) _
    (serveNext_moves outside) _ (dir, 0) follows
  have spares : Spares sha256 previousHash final dir ended.2.1 := by
    revert end_
    change Attempt.Ends _ _ ended.2.1 ended.1 → _
    cases ended.1 with
    | ok result => exact fun ⟨_, _, _, spares⟩ => spares
    | error error => exact fun ⟨_, spares⟩ => spares
  refine ⟨?_, ?_, ?_, ?_, ?_⟩
  · intro result returned
    change Attempt.Ends _ _ ended.2.1 ended.1 at end_
    rw [returned] at end_
    obtain ⟨data, encoded, there, _⟩ := end_
    exact ⟨data, encoded, there⟩
  · intro path old there other
    rcases spares path (by rw [there]; rfl) with same | ⟨target, known, found, own⟩
    · rw [same, there]
    · rw [target, found] at there
      cases there
      exact absurd own other
  · intro path there changed
    exact (spares path there).resolve_left changed
  · intro refused
    change Attempt.Ends _ _ ended.2.1 ended.1 at end_
    rw [refused] at end_
    exact end_.1 rfl
  · exact @Process.allowed_of_follows _ _ _ _ _ _ _ (fun world : Directory × Nat => world.1) _
      (serveNext_moves outside) _ (dir, 0) follows

end

/-! ## An edited report -/

def firstBytes : Bytes := [0x76, 0x31]

def secondBytes : Bytes := [0x76, 0x32]

/-- The digests of two contents, and an injective spelling of all others. -/
def twoDigests (data : Bytes) : Text :=
  if data = firstBytes then
    text "3bfc269594ef649228e9a74bab00f042efc91d5acc6fbee31a382e80d42388fe"
  else if data = secondBytes then
    text "fb04dcb6970e4c3d1873de51fd5a50d7bb46b3383113602665c350ec40b5f990"
  else cp '-' :: data.map fun byte => codePoint byte.toNat

theorem twoDigests_injective : Function.Injective twoDigests := by
  intro one other same
  have spelled : Function.Injective fun byte : UInt8 => codePoint byte.toNat := by
    intro a b equal
    have values := congrArg Fin.val equal
    have small (byte : UInt8) : byte.toNat < 0x110000 := by
      have := byte.toNat_lt
      omega
    rw [val_codePoint (small a), val_codePoint (small b)] at values
    exact UInt8.toNat_inj.1 values
  have apart : text "3bfc269594ef649228e9a74bab00f042efc91d5acc6fbee31a382e80d42388fe" ≠
      text "fb04dcb6970e4c3d1873de51fd5a50d7bb46b3383113602665c350ec40b5f990" := by decide
  have dash (data : Bytes) : (cp '-' :: data.map fun byte => codePoint byte.toNat).head? =
      some (cp '-') := rfl
  have first : (text "3bfc269594ef649228e9a74bab00f042efc91d5acc6fbee31a382e80d42388fe").head? ≠
      some (cp '-') := by decide
  have second : (text "fb04dcb6970e4c3d1873de51fd5a50d7bb46b3383113602665c350ec40b5f990").head? ≠
      some (cp '-') := by decide
  unfold twoDigests at same
  split at same
  next isFirst =>
    split at same
    next isFirst' => rw [isFirst, isFirst']
    next =>
      split at same
      · exact absurd same apart
      · rw [same] at first
        exact absurd (dash other) first
  next =>
    split at same
    next isSecond =>
      split at same
      · exact absurd same.symm apart
      · split at same
        next isSecond' => rw [isSecond, isSecond']
        next =>
          rw [same] at second
          exact absurd (dash other) second
    next =>
      split at same
      · rw [← same] at first
        exact absurd (dash one) first
      · split at same
        · rw [← same] at second
          exact absurd (dash one) second
        · exact spelled.list_map (List.cons.inj same).2

/-- One report. -/
def oneReport : Directory := ⟨[(text "report.md", .bytes firstBytes)], by simp⟩

/-- A report that somebody edited stays when it is written again. -/
theorem edited_report_stays :
    ((writeReport twoDigests [text "reports"] (text "./report.md") (text "v2") (some (text "old"))
        (text "1a2b3c4d") (text "77")).run.exec (Directory.serveNext fun _ => {}) (oneReport, 0)).2.1.find
      (text "report.md") = some (.bytes firstBytes) := by
  have inside : resolveFrom [text "reports"] (text "./report.md") = .ok (text "report.md") := by decide
  have fresh : FreshNames oneReport (text "report.md") (text "1a2b3c4d") (text "77") :=
    ⟨by decide, by decide, by decide⟩
  apply (report_writes_clobber_nothing twoDigests_injective inside fresh (text "v2") fun _ => {}).2.1
  · decide
  · decide

end EvoBlue.Guarantees
