import EvoBlue.Source.ClientBackups

/-!
# The shelf of backups

Every backup call prunes the shelf by names, and a name begins with a reading of the
clock. A backup that is made while five names on the shelf are greater, after the
clock was set back or in one second with greater digits, is removed by the call that
made it. And a target may read like the sentinel of an absent one.
-/

namespace EvoBlue.Guarantees

open EvoBlue.Kernel EvoBlue.Source

/-! ## Names -/

theorem length_padded {width n : Nat} (small : n < 10 ^ width) (positive : 0 < width) :
    (DateTime.padded width n).length = width := by
  have fits : (decimalText n).length ≤ width := by
    unfold decimalText text
    rw [List.length_map, Nat.toString_eq_repr, Nat.repr_eq_ofList_toDigits, String.toList_ofList]
    exact (Nat.length_toDigits_le_iff (by omega) positive).2 small
  unfold DateTime.padded
  simp only [List.length_append, List.length_replicate]
  omega

theorem padded_decimal (unicode : UnicodeData) (width n : Nat) :
    (DateTime.padded width n).all (isUnicodeDigit unicode) = true := by
  rw [List.all_eq_true]
  intro c mem
  unfold DateTime.padded at mem
  rcases List.mem_append.1 mem with zero | digit
  · rw [List.eq_of_mem_replicate zero]
    rfl
  · simp [isUnicodeDigit, decimalText_digits digit]

theorem hexDigit_lower : ∀ n < 16, isLowerHex (Json.hexDigit n) = true := by decide +kernel

theorem hexText_lower (random : TwoBytes) : (hexText random).all isLowerHex = true := by
  have first := random.1.toNat_lt
  have second := random.2.toNat_lt
  simp only [hexText, List.all_cons, List.all_nil, Bool.and_true, Bool.and_eq_true]
  exact ⟨hexDigit_lower _ (by omega), hexDigit_lower _ (by omega), hexDigit_lower _ (by omega),
    hexDigit_lower _ (by omega)⟩

theorem length_backupSuffix : backupSuffix.length = 16 := rfl

theorem matchesTimestamp_of {unicode : UnicodeData} {date clock digits : Text}
    (eight : date.length = 8) (dateDigits : date.all (isUnicodeDigit unicode) = true)
    (six : clock.length = 6) (clockDigits : clock.all (isUnicodeDigit unicode) = true)
    (four : digits.length = 4) (hex : digits.all isLowerHex = true) :
    matchesTimestamp unicode
      (backupSuffix ++ (date ++ (text "T" ++ (clock ++ (text "Z-" ++ digits))))) = true := by
  have one : (text "T").length = 1 := rfl
  have two : (text "Z-").length = 2 := rfl
  have whole : backupSuffix.take 16 = backupSuffix := rfl
  have past : ∀ n, 16 ≤ n → backupSuffix.drop n = [] :=
    fun n far => List.drop_eq_nil_of_le far
  unfold matchesTimestamp
  simp [whole, past, List.take_append, List.drop_append, List.drop_eq_nil_of_le,
    length_backupSuffix, eight, six, four, one, two, -List.all_eq_true, dateDigits, clockDigits,
    hex]

theorem stamp_timestamp (unicode : UnicodeData) (moment : Moment) (random : TwoBytes) :
    matchesTimestamp unicode
      (backupSuffix ++ (moment.stamp ++ (text "-" ++ hexText random))) = true := by
  obtain ⟨lower, upper, _, month, _, day, hour, minute, second, _⟩ := moment.time.inRange
  have days : moment.time.day < 100 := by
    have long : Calendar.daysInMonth moment.time.year moment.time.month ≤ 31 := by
      unfold Calendar.daysInMonth
      split <;> (try split) <;> omega
    omega
  have split : backupSuffix ++ (moment.stamp ++ (text "-" ++ hexText random)) =
      backupSuffix ++ ((DateTime.padded 4 moment.time.year ++ DateTime.padded 2 moment.time.month ++
        DateTime.padded 2 moment.time.day) ++ (text "T" ++ ((DateTime.padded 2 moment.time.hour ++
        DateTime.padded 2 moment.time.minute ++ DateTime.padded 2 moment.time.second) ++
        (text "Z-" ++ hexText random)))) := by
    have mark : text "Z-" = text "Z" ++ text "-" := rfl
    rw [mark]
    simp only [Moment.stamp, List.append_assoc]
  rw [split]
  apply matchesTimestamp_of
  · simp only [List.length_append]
    rw [length_padded (by omega) (by omega), length_padded (by omega) (by omega),
      length_padded (by omega) (by omega)]
  · simp only [List.all_append, padded_decimal, Bool.and_self]
  · simp only [List.length_append]
    rw [length_padded (by omega) (by omega), length_padded (by omega) (by omega),
      length_padded (by omega) (by omega)]
  · simp only [List.all_append, padded_decimal, Bool.and_self]
  · rfl
  · exact hexText_lower random

theorem slash_not_stamp (moment : Moment) : cp '/' ∉ moment.stamp := by
  have padded : ∀ width n, cp '/' ∉ DateTime.padded width n := by
    intro width n mem
    have digit := List.all_eq_true.1
      (padded_decimal ⟨fun _ c _ => [c], fun _ => none, fun t => t⟩ width n) _ mem
    revert digit
    decide
  have letters : cp '/' ∉ text "T" ∧ cp '/' ∉ text "Z" := by decide
  unfold Moment.stamp
  simp only [List.mem_append, padded, letters, or_self, not_false_eq_true]

theorem slash_not_hex (random : TwoBytes) : cp '/' ∉ hexText random := by
  intro mem
  have digit := List.all_eq_true.1 (hexText_lower random) _ mem
  revert digit
  decide

/-- What `create_backup` writes is one of the backups. -/
theorem backupName_isBackup (unicode : UnicodeData) (target : Text) (moment : Moment)
    (random : TwoBytes) : isBackupName unicode target (backupName target moment random) = true := by
  have form := stamp_timestamp unicode moment random
  have spelled : backupName target moment random =
      target ++ (backupSuffix ++ (moment.stamp ++ (text "-" ++ hexText random))) := by
    simp only [backupName, List.append_assoc]
  have long : (backupSuffix ++ (moment.stamp ++ (text "-" ++ hexText random))).length = 37 := by
    have parts := form
    simp only [matchesTimestamp, Bool.and_eq_true, decide_eq_true_eq] at parts
    exact parts.1.1.1.1.1.1
  have start : (target ++ backupSuffix).isPrefixOf (backupName target moment random) = true := by
    rw [List.isPrefixOf_iff_prefix]
    exact ⟨moment.stamp ++ (text "-" ++ hexText random), by
      rw [spelled, List.append_assoc]⟩
  have ending : hasTimestamp unicode (backupName target moment random) = true := by
    unfold hasTimestamp
    rw [spelled, List.length_append, long, Nat.add_sub_cancel, List.drop_left, form]
    rfl
  rw [isBackupName, start, ending]
  rfl

/-- The target is not a backup of itself. -/
theorem target_not_backup (unicode : UnicodeData) (target : Text) :
    isBackupName unicode target target = false := by
  have longer : (target ++ backupSuffix).isPrefixOf target = false := by
    rw [Bool.eq_false_iff, Ne, List.isPrefixOf_iff_prefix]
    intro start
    have short := start.length_le
    rw [List.length_append, length_backupSuffix] at short
    omega
  rw [isBackupName, longer]
  rfl

theorem backupName_ne (target : Text) (moment : Moment) (random : TwoBytes) :
    backupName target moment random ≠ target := by
  intro same
  have made := backupName_isBackup ⟨fun _ c _ => [c], fun _ => none, fun t => t⟩ target moment random
  rw [same, target_not_backup] at made
  cases made

/-! ## One backup -/

/-- How many backups on the shelf have a greater name. -/
def greaterNames (env : BackupEnv) (target : Text) (dir : ConfigDir) (name : Text) : Nat :=
  countGreater (backupNames env.unicode target dir) name

/-- What a backup of a target in this state holds. -/
def captureOf (state : Option Bytes) : Bytes := state.getD sentinelPayload

section

variable {env : BackupEnv} {target : Text} {moment : Moment} {random : TwoBytes} {dir : ConfigDir}

theorem backupNames_nodup : (backupNames env.unicode target dir).Nodup :=
  dir.keys_nodup.filter _

theorem backupNames_insert (fresh : dir.lookup (backupName target moment random) = none)
    (data : Bytes) :
    backupNames env.unicode target (dir.insert (backupName target moment random) data) =
      backupName target moment random :: backupNames env.unicode target dir := by
  unfold backupNames
  rw [keys_insert_fresh fresh, List.filter_cons, backupName_isBackup, if_pos rfl]

/-- The new backup is there and holds what the target held, if and only if fewer than
five backups have a greater name. -/
theorem createBackup_holds_iff (fresh : dir.lookup (backupName target moment random) = none) :
    (createBackup env target moment random dir).2.lookup
        (createBackup env target moment random dir).1.name =
      some (captureOf (dir.lookup target)) ↔
    greaterNames env target dir (backupName target moment random) < backupRetention := by
  have distinct := @backupNames_nodup env target
    (dir.insert (backupName target moment random) (captureOf (dir.lookup target)))
  have dropped := mem_dropped_iff distinct backupRetention (backupName target moment random)
  rw [backupNames_insert fresh, countGreater_cons_self] at dropped
  simp only [List.mem_cons, true_or, true_and] at dropped
  rw [← backupNames_insert fresh (captureOf (dir.lookup target))] at dropped
  rw [← not_iff_not, not_lt]
  unfold greaterNames
  rw [← dropped]
  constructor
  · intro lost
    by_contra kept
    refine lost ((lookup_eraseAll_of_notMem kept _).trans ?_)
    exact AList.lookup_insert _
  · intro gone
    have absent := lookup_eraseAll_of_mem gone
      (dir.insert (backupName target moment random) (captureOf (dir.lookup target)))
    intro held
    cases absent.symm.trans held

/-- A backup changes nothing about its target. -/
theorem createBackup_target :
    (createBackup env target moment random dir).2.lookup target = dir.lookup target := by
  have apart : target ∉ (backupPaths env.unicode target (dir.insert
      (backupName target moment random) (captureOf (dir.lookup target)))).drop backupRetention := by
    intro mem
    have listed := mem_descending.1 (List.mem_of_mem_drop mem)
    have backup := (List.mem_filter.1 listed).2
    rw [target_not_backup] at backup
    cases backup
  refine (lookup_eraseAll_of_notMem apart _).trans ?_
  exact AList.lookup_insert_ne (backupName_ne target moment random).symm

theorem backupNames_prune :
    (backupNames env.unicode target (prune env.unicode target dir)).length ≤ backupRetention := by
  apply length_kept_le (backupNames_nodup)
  intro name mem
  obtain ⟨there, backup⟩ := List.mem_filter.1 mem
  obtain ⟨before, kept⟩ := mem_keys_eraseAll there
  exact ⟨List.mem_filter.2 ⟨before, backup⟩, kept⟩

/-- At most five are on the shelf after a backup. -/
theorem createBackup_count :
    (backupNames env.unicode target (createBackup env target moment random dir).2).length ≤
      backupRetention := by
  unfold createBackup
  exact backupNames_prune

/-! ## Going back -/

theorem isSentinel_iff {data : Bytes} : isSentinel data = true ↔ data = sentinelPayload := by
  simp [isSentinel]

theorem resolveBackup_iff {name : Text} : resolveBackup env.unicode target name dir = .ok () ↔
    (name ≠ [] ∧ cp '/' ∉ name ∧ name ≠ text ".") ∧ name ≠ target ∧
      isBackupName env.unicode target name = true ∧ ∃ data, dir.lookup name = some data := by
  unfold resolveBackup isBackupName
  rw [← Option.isSome_iff_exists, Bool.and_eq_true]
  split
  next refused =>
    simp only [reduceCtorEq, false_iff]
    tauto
  next spelled =>
    split
    next unknown =>
      simp only [reduceCtorEq, false_iff]
      rintro ⟨_, apart, ⟨start, stamped⟩, there⟩
      rw [start, stamped] at unknown
      simp [apart, Option.isSome_iff_ne_none.1 there] at unknown
    next known =>
      simp only [not_or, Bool.not_eq_false, Option.isNone_iff_eq_none,
        ← Option.isSome_iff_ne_none] at known
      simp only [true_iff]
      exact ⟨by tauto, known.1, ⟨known.2.2.1, known.2.1⟩, known.2.2.2⟩

/-- What the target holds once a backup with these bytes has been restored. -/
def restoredDir (target : Text) (data : Bytes) (dir : ConfigDir) : ConfigDir :=
  if isSentinel data then dir.erase target else dir.insert target data

theorem restore_eq {name : Text} {data : Bytes}
    (resolved : resolveBackup env.unicode target name dir = .ok ())
    (there : dir.lookup name = some data) :
    restore env target name moment random dir =
      .ok (⟨name, backupName target moment random, isSentinel data⟩,
        restoredDir target data (createBackup env target moment random dir).2) := by
  unfold restore restoredDir
  rw [resolved, there]
  change (if isSentinel data = true then _ else _) = _
  cases isSentinel data <;> rfl

theorem restore_ok {name : Text} {result : RestoreResult} {after : ConfigDir}
    (returned : restore env target name moment random dir = .ok (result, after)) :
    resolveBackup env.unicode target name dir = .ok () := by
  unfold restore at returned
  cases resolved : resolveBackup env.unicode target name dir with
  | error raised =>
    rw [resolved] at returned
    cases returned
  | ok => rfl

/-- The target is back as it was when the backup was made, unless it held the sentinel. -/
theorem restoredDir_target_iff (captured : Option Bytes) :
    (restoredDir target (captureOf captured) dir).lookup target = captured ↔
      captured ≠ some sentinelPayload := by
  unfold restoredDir captureOf
  cases captured with
  | none =>
    have sentinel : isSentinel sentinelPayload = true := isSentinel_iff.2 rfl
    simp [sentinel, AList.lookup_erase]
  | some data =>
    by_cases same : data = sentinelPayload
    · subst same
      have sentinel : isSentinel sentinelPayload = true := isSentinel_iff.2 rfl
      simp [sentinel, AList.lookup_erase]
    · have content : isSentinel data = false := by
        rw [Bool.eq_false_iff]
        exact fun sentinel => same (isSentinel_iff.1 sentinel)
      simp [content, same, AList.lookup_insert]

theorem restoredDir_other {name : Text} (apart : name ≠ target) (data : Bytes) :
    (restoredDir target data dir).lookup name = dir.lookup name := by
  unfold restoredDir
  split
  · exact AList.lookup_erase_ne apart
  · exact AList.lookup_insert_ne apart

theorem restoredDir_count (data : Bytes) :
    (backupNames env.unicode target (restoredDir target data dir)).length ≤
      (backupNames env.unicode target dir).length := by
  unfold restoredDir backupNames
  split
  · exact ((keys_erase_sublist dir target).filter _).length_le
  · have fewer := (keys_insert_sublist dir target data).filter (isBackupName env.unicode target)
    rw [List.filter_cons, target_not_backup, if_neg (by decide)] at fewer
    exact fewer.length_le

/-- The safety backup can be restored itself. -/
theorem safety_resolves {name : Text} {data : Bytes} {after : ConfigDir}
    (resolved : resolveBackup env.unicode target name dir = .ok ())
    (there : after.lookup (backupName target moment random) = some data) :
    resolveBackup env.unicode target (backupName target moment random) after = .ok () := by
  obtain ⟨⟨_, plain, _⟩, _, backup, _⟩ := resolveBackup_iff.1 resolved
  have start : target ++ backupSuffix <+: name := by
    unfold isBackupName at backup
    rw [Bool.and_eq_true, List.isPrefixOf_iff_prefix] at backup
    exact backup.1
  have noSlash : cp '/' ∉ target :=
    fun mem => plain (start.subset (List.mem_append_left _ mem))
  have made := backupName_isBackup env.unicode target moment random
  apply resolveBackup_iff.2
  refine ⟨⟨?_, ?_, ?_⟩, backupName_ne target moment random, made, data, there⟩
  · simp [backupName, backupSuffix, text]
  · unfold backupName
    simp only [List.mem_append, not_or]
    exact ⟨⟨⟨⟨noSlash, by decide⟩, slash_not_stamp moment⟩, by decide⟩, slash_not_hex random⟩
  · intro dot
    have long := congrArg List.length dot
    unfold backupName at long
    simp only [List.length_append, length_backupSuffix] at long
    have one : (text ".").length = 1 := rfl
    omega

end

/-! ## The law -/

/-- A restore that returned has put back what the backup captured, its safety backup is
there, and restoring that, at any later reading of the clock, undoes the restore. -/
structure RestoreKeeps (env : BackupEnv) (target : Text) (captured : Option Bytes)
    (before : ConfigDir) (result : RestoreResult) (after : ConfigDir) (later : Moment)
    (again : TwoBytes) : Prop where
  back : after.lookup target = captured
  safety : after.lookup result.safetyBackup = some (captureOf (before.lookup target))
  undone : ∃ undo final, restore env target result.safetyBackup later again after =
    .ok (undo, final) ∧ final.lookup target = before.lookup target

/-- A backup is kept if and only if fewer than five names on the shelf are greater, and a
restore that returns can be undone if and only if, besides, neither the captured state
nor the present one reads like the sentinel. At most five backups remain in any case. -/
theorem backups_reversible_iff (env : BackupEnv) (target : Text) (dir : ConfigDir)
    (moment : Moment) (random : TwoBytes)
    (fresh : dir.lookup (backupName target moment random) = none) :
    (((createBackup env target moment random dir).2.lookup
          (createBackup env target moment random dir).1.name =
        some (captureOf (dir.lookup target)) ↔
      greaterNames env target dir (backupName target moment random) < backupRetention) ∧
    (backupNames env.unicode target (createBackup env target moment random dir).2).length ≤
      backupRetention) ∧
    ∀ name captured result after later again,
      dir.lookup name = some (captureOf captured) →
      restore env target name moment random dir = .ok (result, after) →
      (RestoreKeeps env target captured dir result after later again ↔
        greaterNames env target dir (backupName target moment random) < backupRetention ∧
          captured ≠ some sentinelPayload ∧ dir.lookup target ≠ some sentinelPayload) ∧
      (backupNames env.unicode target after).length ≤ backupRetention := by
  refine ⟨⟨createBackup_holds_iff fresh, createBackup_count⟩, ?_⟩
  intro name captured result after later again there returned
  have resolved := restore_ok returned
  rw [restore_eq resolved there] at returned
  cases returned
  have onShelf := @createBackup_holds_iff env target moment random dir fresh
  have kept : (restoredDir target (captureOf captured)
      (createBackup env target moment random dir).2).lookup (backupName target moment random) =
      (createBackup env target moment random dir).2.lookup
        (createBackup env target moment random dir).1.name :=
    restoredDir_other (backupName_ne target moment random) _
  have undoes : ∀ {undo final}, restore env target (backupName target moment random) later again
      (restoredDir target (captureOf captured)
        (createBackup env target moment random dir).2) = .ok (undo, final) →
      greaterNames env target dir (backupName target moment random) < backupRetention →
      (final.lookup target = dir.lookup target ↔ dir.lookup target ≠ some sentinelPayload) := by
    intro undo final undone few
    rw [restore_eq (restore_ok undone) (kept.trans (onShelf.2 few))] at undone
    cases undone
    exact restoredDir_target_iff _
  constructor
  · constructor
    · intro keeps
      have few := onShelf.1 (kept.symm.trans keeps.safety)
      obtain ⟨undo, final, undone, same⟩ := keeps.undone
      exact ⟨few, (restoredDir_target_iff captured).1 keeps.back, (undoes undone few).1 same⟩
    · rintro ⟨few, plain, present⟩
      have safety := kept.trans (onShelf.2 few)
      have undone := @restore_eq env target later again _ _ _ (safety_resolves resolved safety) safety
      exact ⟨(restoredDir_target_iff captured).2 plain, safety, _, _, undone,
        (undoes undone few).2 present⟩
  · exact (restoredDir_count _).trans createBackup_count

/-! ## Two shelves -/

def sampleBackupEnv : BackupEnv where
  unicode := ⟨fun _ c _ => [c], fun _ => none, fun t => t⟩
  sha256 _ := text "e3b0c44298fc1c149afbf4c8996fb92427ae41e4649b934ca495991b7852b855"

def mcpJson : Text := text "mcp.json"

/-- New year's midnight. -/
def newYear (year : Nat) (inRange : 1970 ≤ year ∧ year ≤ 9999) : Moment where
  time :=
    { year, month := 1, day := 1, offset := some 0
      inRange := by
        have days : Calendar.daysInMonth year 1 = 31 := rfl
        simp only [days]
        refine ⟨by omega, by omega, by omega, by omega, by omega, by omega, by omega, by omega,
          by omega, by omega, ?_⟩
        simp }
  utc := rfl
  sinceEpoch := inRange.1

/-- A target, and as many backups of it from one second. -/
def sampleShelf (moment : Moment) (content : Bytes) (backups : List Bytes) : ConfigDir :=
  (backups.zipIdx.map fun (data, i) =>
    (⟨backupName mcpJson moment (0, UInt8.ofNat i), data⟩ : Sigma fun _ : Text => Bytes)).toAList.insert
      mcpJson content

theorem backups_reversible_iff_once :
    ∃ result after, restore sampleBackupEnv mcpJson
        (backupName mcpJson (newYear 2026 (by omega)) (0, 0)) (newYear 2027 (by omega)) (0, 0)
        (sampleShelf (newYear 2026 (by omega)) [1] [[2]]) = .ok (result, after) ∧
      RestoreKeeps sampleBackupEnv mcpJson (some [2])
        (sampleShelf (newYear 2026 (by omega)) [1] [[2]]) result after (newYear 2027 (by omega))
        (0, 1) := by
  have there : (sampleShelf (newYear 2026 (by omega)) [1] [[2]]).lookup
      (backupName mcpJson (newYear 2026 (by omega)) (0, 0)) = some (captureOf (some [2])) := by
    decide +kernel
  have resolved : resolveBackup sampleBackupEnv.unicode mcpJson
      (backupName mcpJson (newYear 2026 (by omega)) (0, 0))
      (sampleShelf (newYear 2026 (by omega)) [1] [[2]]) = .ok () := by
    decide +kernel
  have returned := @restore_eq sampleBackupEnv mcpJson (newYear 2027 (by omega)) (0, 0) _ _ _
    resolved there
  have law := (backups_reversible_iff sampleBackupEnv mcpJson
    (sampleShelf (newYear 2026 (by omega)) [1] [[2]]) (newYear 2027 (by omega)) (0, 0)
    (by decide +kernel)).2 _ (some [2]) _ _ (newYear 2027 (by omega)) (0, 1) there returned
  exact ⟨_, _, returned, law.1.2 ⟨by decide +kernel, by decide +kernel, by decide +kernel⟩⟩

/-- The clock was set back: of six backups the one just made has the least name. -/
theorem new_backup_pruned :
    ¬ ∀ (env : BackupEnv) (target : Text) (dir : ConfigDir) (moment : Moment) (random : TwoBytes),
      dir.lookup (backupName target moment random) = none →
        (createBackup env target moment random dir).2.lookup
          (createBackup env target moment random dir).1.name =
        some (captureOf (dir.lookup target)) := by
  intro law
  have fresh : (sampleShelf (newYear 2030 (by omega)) [1] [[2], [3], [4], [5], [6]]).lookup
      (backupName mcpJson (newYear 2026 (by omega)) (0, 0)) = none := by
    decide +kernel
  have few := (createBackup_holds_iff fresh).1 (law sampleBackupEnv _ _ _ _ fresh)
  revert few
  decide +kernel

end EvoBlue.Guarantees
