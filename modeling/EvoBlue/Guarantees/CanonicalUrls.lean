import EvoBlue.Source.Detector
import EvoBlue.Guarantees.ActiveSubmissions

/-!
# Canonical URLs

The ids a URL resolves to are made of letters, digits, `_` and `-`, so a canonical URL is
split where it was put together, and detection finds the same video in it. Jobs keep the
canonical URL they were submitted with.
-/

namespace EvoBlue.Guarantees

open EvoBlue.Kernel EvoBlue.Source

/-! ## Ids -/

/-- A code point of an id. -/
def isIdChar (c : CodePoint) : Bool := isAlphanumeric c || c = cp '_' || c = cp '-'

theorem isIdChar_bounds {c : CodePoint} (allowed : isIdChar c = true) :
    c.val = 0x2d ∨ 0x30 ≤ c.val ∧ c.val ≤ 0x39 ∨ 0x41 ≤ c.val ∧ c.val ≤ 0x5a ∨ c.val = 0x5f ∨
      0x61 ≤ c.val ∧ c.val ≤ 0x7a := by
  simp only [isIdChar, isAlphanumeric, isAlpha, isUpper, isDigit, Bool.or_eq_true,
    Bool.and_eq_true, decide_eq_true_eq, Fin.ext_iff, cp_val, Char.reduceToNat] at allowed
  omega

theorem isIdChar_ne {c : CodePoint} (allowed : isIdChar c = true) {mark : Char}
    (other : isIdChar (cp mark) = false) : c ≠ cp mark := by
  intro same
  rw [same, other] at allowed
  cases allowed

/-- The ids that detection accepts for a platform. -/
def isVideoId : Platform → Text → Bool
  | .youtube => isYoutubeId
  | .bilibili => isBilibiliId

theorem isVideoId_chars {platform : Platform} {videoId : Text}
    (accepted : isVideoId platform videoId = true) : ∀ c ∈ videoId, isIdChar c = true := by
  intro c mem
  cases platform with
  | youtube =>
    simp only [isVideoId, isYoutubeId, Bool.and_eq_true] at accepted
    exact List.all_eq_true.1 accepted.2 c mem
  | bilibili =>
    simp only [isVideoId, isBilibiliId, Bool.and_eq_true, decide_eq_true_eq] at accepted
    rw [← List.take_append_drop 2 videoId, accepted.1.2] at mem
    rcases List.mem_append.1 mem with front | back
    · have prefixed : (text "BV").all isIdChar = true := by decide
      exact List.all_eq_true.1 prefixed c front
    · have plain := List.all_eq_true.1 accepted.2 c back
      simp [isIdChar, plain]

theorem isVideoId_ne_nil {platform : Platform} {videoId : Text}
    (accepted : isVideoId platform videoId = true) : videoId ≠ [] := by
  intro empty
  rw [empty] at accepted
  cases platform <;> revert accepted <;> decide

theorem text_videoId {platform : Platform} {videoId : Text}
    (accepted : isVideoId platform videoId = true) : text (plainString videoId) = videoId := by
  apply text_plainString
  intro c mem
  have bounds := isIdChar_bounds (isVideoId_chars accepted c mem)
  simp only [isSurrogate, Bool.and_eq_false_iff, decide_eq_false_iff_not]
  omega

/-! ## Canonical URLs -/

def canonicalHost : Platform → Text
  | .youtube => text "www.youtube.com"
  | .bilibili => text "www.bilibili.com"

def canonicalRest : Platform → Text → Text
  | .youtube, videoId => text "/watch" ++ cp '?' :: (text "v" ++ cp '=' :: videoId)
  | .bilibili, videoId => text "/video/" ++ videoId

theorem canonicalUrl_eq (platform : Platform) (videoId : Text) : canonicalUrl platform videoId =
    text "https" ++ text "://" ++ canonicalHost platform ++ canonicalRest platform videoId := by
  cases platform with
  | youtube =>
    have front : text "https://www.youtube.com/watch?v=" = text "https" ++ text "://" ++
        text "www.youtube.com" ++ (text "/watch" ++ cp '?' :: (text "v" ++ [cp '='])) := by decide
    simp only [canonicalUrl, canonicalHost, canonicalRest, front, List.append_assoc, List.cons_append,
      List.nil_append]
  | bilibili =>
    have front : text "https://www.bilibili.com/video/" = text "https" ++ text "://" ++
        text "www.bilibili.com" ++ text "/video/" := by decide
    simp only [canonicalUrl, canonicalHost, canonicalRest, front, List.append_assoc]

theorem canonicalUrl_printable {platform : Platform} {videoId : Text}
    (accepted : isVideoId platform videoId = true) :
    ∀ c ∈ canonicalUrl platform videoId, 0x20 < c.val ∧ c.val < 0x7f := by
  have idPart : ∀ c ∈ videoId, 0x20 < c.val ∧ c.val < 0x7f := by
    intro c mem
    have bounds := isIdChar_bounds (isVideoId_chars accepted c mem)
    omega
  have fixed : ∀ platform : Platform, (canonicalUrl platform []).all
      (fun c => decide (0x20 < c.val ∧ c.val < 0x7f)) = true := by
    intro platform
    cases platform <;> decide +kernel
  intro c mem
  have whole : canonicalUrl platform videoId = canonicalUrl platform [] ++ videoId := by
    cases platform <;> simp [canonicalUrl]
  rw [whole] at mem
  rcases List.mem_append.1 mem with front | back
  · exact of_decide_eq_true (List.all_eq_true.1 (fixed platform) c front)
  · exact idPart c back

theorem canonicalUrl_spelled {platform : Platform} {videoId : Text}
    (accepted : isVideoId platform videoId = true) :
    HttpSpelling (canonicalUrl platform videoId) (text "https") (canonicalHost platform)
      (canonicalRest platform videoId) where
  whole := canonicalUrl_eq platform videoId
  scheme := .inr rfl
  host := by cases platform <;> decide
  brackets := by
    left
    cases platform <;> decide
  authority := by
    have clean : (canonicalHost platform).all (fun c => !netlocEnds c) = true := by
      cases platform <;> decide
    intro c mem
    simpa using List.all_eq_true.1 clean c mem
  rest := by
    intro c first
    cases platform <;> cases first <;> decide
  printable := canonicalUrl_printable accepted

theorem not_mem_videoId {platform : Platform} {videoId : Text}
    (accepted : isVideoId platform videoId = true) (mark : Char)
    (other : isIdChar (cp mark) = false) : cp mark ∉ videoId := by
  intro mem
  rw [isVideoId_chars accepted _ mem] at other
  cases other

theorem pathWithoutParams_plain {path : Text} (plain : cp ';' ∉ path) :
    pathWithoutParams path = path := by
  have parts : path.rdropWhile (fun c => c ≠ cp '/') ++ path.rtakeWhile (fun c => c ≠ cp '/') =
      path := List.rdropWhile_append_rtakeWhile
  have kept : (path.rtakeWhile fun c => c ≠ cp '/').takeWhile (fun c => c ≠ cp ';') =
      path.rtakeWhile fun c => c ≠ cp '/' := by
    rw [List.takeWhile_eq_self_iff]
    intro c mem
    have inside : c ∈ path := (List.rtakeWhile_suffix _ path).subset mem
    rw [decide_eq_true_eq]
    exact fun same => plain (same ▸ inside)
  have lengths := congrArg List.length parts
  rw [List.length_append] at lengths
  unfold pathWithoutParams
  simp only [kept]
  have front : path.take (path.length - (path.rtakeWhile fun c => c ≠ cp '/').length) =
      path.rdropWhile fun c => c ≠ cp '/' := by
    calc path.take (path.length - (path.rtakeWhile fun c => c ≠ cp '/').length)
        = ((path.rdropWhile fun c => c ≠ cp '/') ++ path.rtakeWhile fun c => c ≠ cp '/').take
            (path.length - (path.rtakeWhile fun c => c ≠ cp '/').length) := by rw [parts]
      _ = path.rdropWhile fun c => c ≠ cp '/' := List.take_left' (by omega)
  rw [front, parts]

/-- Where the canonical URL is split again. -/
theorem urlparse_canonical (unicode : UnicodeData) {platform : Platform} {videoId : Text}
    (accepted : isVideoId platform videoId = true) :
    urlparse unicode (canonicalUrl platform videoId) = some
      { scheme := text "https"
        netloc := canonicalHost platform
        path := (splitAtMark '?' (canonicalRest platform videoId)).1
        query := (splitAtMark '?' (canonicalRest platform videoId)).2
        fragment := [] } := by
  have noHash : cp '#' ∉ canonicalRest platform videoId := by
    have absent := not_mem_videoId accepted '#' (by decide)
    cases platform <;> simp only [canonicalRest, List.mem_append, List.mem_cons, absent, or_false] <;>
      decide
  have noParams : cp ';' ∉ (splitAtMark '?' (canonicalRest platform videoId)).1 := by
    have absent := not_mem_videoId accepted ';' (by decide)
    cases platform with
    | youtube =>
      have noMark : cp '?' ∉ text "/watch" := by decide
      rw [canonicalRest, splitAtMark_append noMark]
      change cp ';' ∉ text "/watch"
      decide
    | bilibili =>
      have noMark : cp '?' ∉ text "/video/" ++ videoId := by
        have unmarked := not_mem_videoId accepted '?' (by decide)
        simp only [List.mem_append, unmarked, or_false]
        decide
      rw [canonicalRest, splitAtMark_absent noMark]
      simp only [List.mem_append, absent, or_false]
      decide
  unfold urlparse
  rw [urlsplit_spelled unicode (canonicalUrl_spelled accepted), splitAtMark_absent noHash]
  simp only [Option.map_some, or_true, if_true, pathWithoutParams_plain noParams]

theorem lower_canonicalHost (unicode : UnicodeData) (platform : Platform) :
    lower unicode (canonicalHost platform) = canonicalHost platform := by
  apply lowerAfter_plain
  have ascii : (canonicalHost platform).all (fun c => isAscii c && !isUpper c) = true := by
    cases platform <;> decide
  intro c mem
  simpa using List.all_eq_true.1 ascii c mem

theorem hostname_canonical (unicode : UnicodeData) (platform : Platform) {parsed : SplitUrl}
    (host : parsed.netloc = canonicalHost platform) :
    parsed.hostname unicode = some (canonicalHost platform) := by
  have info : (hostInfo (canonicalHost platform)).1 = canonicalHost platform := by
    cases platform <;> decide
  have some_ : canonicalHost platform ≠ [] := by
    cases platform <;> decide
  have scopeless : breakOn [cp '%'] (canonicalHost platform) = none := by
    cases platform <;> decide
  unfold SplitUrl.hostname
  rw [host, info]
  simp only [if_neg some_, scopeless, lower_canonicalHost]

/-- A path of a first part and an id. -/
theorem urlParts_bilibili {parsed : SplitUrl} {videoId : Text}
    (accepted : isVideoId .bilibili videoId = true) (path : parsed.path = text "/video/" ++ videoId) :
    urlParts parsed = [text "video", videoId] := by
  have slashless := not_mem_videoId accepted '/' (by decide)
  have first : cp '/' ∉ text "video" := by decide
  have parted : text "/video/" ++ videoId = [] ++ cp '/' :: (text "video" ++ cp '/' :: videoId) := by
    have spelled : text "/video/" = cp '/' :: (text "video" ++ [cp '/']) := by decide
    rw [spelled]
    simp only [List.cons_append, List.append_assoc, List.nil_append]
  have single : videoId.splitOn (cp '/') = [videoId] := by
    apply List.splitOn_eq_singleton_of_beq_eq_false
    intro c mem
    exact beq_eq_false_iff_ne.2 fun same => slashless (same ▸ mem)
  unfold urlParts
  rw [path, parted, List.splitOn_append_cons_self_of_not_mem List.not_mem_nil,
    List.splitOn_append_cons_self_of_not_mem first, single]
  have named : text "video" ≠ [] := by decide
  simp [named, isVideoId_ne_nil accepted]

/-- The query of a watch page. -/
theorem parseQs_watch {videoId : Text} (accepted : isVideoId .youtube videoId = true) :
    parseQs (text "v" ++ cp '=' :: videoId) (text "v") = [videoId] := by
  apply parseQs_single
  · exact isVideoId_ne_nil accepted
  · have single : text "v" = [cp 'v'] := by decide
    intro c mem
    rw [single, List.mem_singleton] at mem
    rw [mem]
    decide
  · intro c mem
    have allowed := isVideoId_chars accepted c mem
    exact ⟨isIdChar_ne allowed (by decide), isIdChar_ne allowed (by decide),
      isIdChar_ne allowed (by decide)⟩

/-- Detection finds the video of a canonical URL. -/
theorem detectVideo_canonical (env : DetectorEnv) {platform : Platform} {videoId : Text}
    (accepted : isVideoId platform videoId = true) :
    detectVideo env (canonicalUrl platform videoId) = .ok (videoRef platform videoId) := by
  unfold detectVideo
  rw [urlparse_canonical env.unicode accepted]
  dsimp only
  rw [hostname_canonical env.unicode platform rfl]
  dsimp only
  rw [lower_canonicalHost, if_neg (by simp)]
  cases platform with
  | youtube =>
    have noMark : cp '?' ∉ text "/watch" := by decide
    have listed : canonicalHost .youtube ∈ youtubeHosts := by decide
    have full : canonicalHost .youtube ≠ text "youtu.be" := by decide
    rw [if_pos listed, canonicalRest, splitAtMark_append noMark]
    have parts : ∀ parsed : SplitUrl, parsed.path = text "/watch" → urlParts parsed = [text "watch"] := by
      intro parsed path
      unfold urlParts
      rw [path]
      decide
    unfold youtubeVideoId
    rw [parts _ rfl, parseQs_watch accepted]
    simp [full, show isYoutubeId videoId = true from accepted, Except.map]
  | bilibili =>
    have unlisted : canonicalHost .bilibili ∉ youtubeHosts := by decide
    have listed : canonicalHost .bilibili ∈ bilibiliHosts := by decide
    have noMark : cp '?' ∉ text "/video/" ++ videoId := by
      have unmarked := not_mem_videoId accepted '?' (by decide)
      simp only [List.mem_append, unmarked, or_false]
      decide
    rw [if_neg unlisted, if_pos listed, canonicalRest, splitAtMark_absent noMark]
    unfold bilibiliVideoId
    rw [urlParts_bilibili accepted rfl]
    simp [show isBilibiliId videoId = true from accepted, Except.map]

/-! ## Accepted URLs -/

theorem youtubeVideoId_accepted {parsed : SplitUrl} {hostname videoId : Text}
    (found : youtubeVideoId parsed hostname = .ok videoId) : isVideoId .youtube videoId = true := by
  unfold youtubeVideoId at found
  dsimp only at found
  split at found
  · cases found
  · split at found
    next accepted =>
      cases found
      exact accepted
    · cases found

theorem bilibiliVideoId_accepted {parsed : SplitUrl} {videoId : Text}
    (found : bilibiliVideoId parsed = .ok videoId) : isVideoId .bilibili videoId = true := by
  unfold bilibiliVideoId at found
  split at found
  · split at found
    · split at found
      next accepted =>
        cases found
        exact accepted
      · cases found
    · cases found
  · cases found

/-- What detection returns is the reference to a video with an id of its platform. -/
theorem detectVideo_ok {env : DetectorEnv} {url : Text} {ref : VideoRef}
    (detected : detectVideo env url = .ok ref) :
    ∃ platform videoId, isVideoId platform videoId = true ∧ ref = videoRef platform videoId := by
  unfold detectVideo at detected
  split at detected
  · cases detected
  · split at detected
    · cases detected
    · split at detected
      · cases detected
      · dsimp only at detected
        split at detected
        next parsed _ _ hostname _ _ _ =>
          cases found : youtubeVideoId parsed hostname with
          | error error =>
            rw [found] at detected
            cases detected
          | ok videoId =>
            rw [found] at detected
            cases detected
            exact ⟨.youtube, videoId, youtubeVideoId_accepted found, rfl⟩
        · split at detected
          next parsed _ _ hostname _ _ _ _ =>
            cases found : bilibiliVideoId parsed with
            | error error =>
              rw [found] at detected
              cases detected
            | ok videoId =>
              rw [found] at detected
              cases detected
              exact ⟨.bilibili, videoId, bilibiliVideoId_accepted found, rfl⟩
          · cases detected

theorem text_url {platform : Platform} {videoId : Text}
    (accepted : isVideoId platform videoId = true) :
    text (videoRef platform videoId).url = canonicalUrl platform videoId := by
  apply text_plainString
  intro c mem
  have printable := canonicalUrl_printable accepted c mem
  simp only [isSurrogate, Bool.and_eq_false_iff, decide_eq_false_iff_not]
  omega

/-- The canonical URL of an accepted URL is accepted, as the same video. -/
theorem detectVideo_again {env : DetectorEnv} {url : Text} {ref : VideoRef}
    (detected : detectVideo env url = .ok ref) : detectVideo env (text ref.url) = .ok ref := by
  obtain ⟨platform, videoId, accepted, same⟩ := detectVideo_ok detected
  rw [same, text_url accepted]
  exact detectVideo_canonical env accepted

/-- Canonical URLs tell videos apart. -/
theorem canonicalUrls_apart {env : DetectorEnv} {one other : Text} {oneRef otherRef : VideoRef}
    (oneDetected : detectVideo env one = .ok oneRef)
    (otherDetected : detectVideo env other = .ok otherRef) :
    oneRef.url = otherRef.url ↔
      oneRef.platform = otherRef.platform ∧ oneRef.videoId = otherRef.videoId := by
  constructor
  · intro same
    have again := detectVideo_again oneDetected
    rw [same, detectVideo_again otherDetected] at again
    cases again
    exact ⟨rfl, rfl⟩
  · intro ⟨platforms, ids⟩
    obtain ⟨onePlatform, oneId, oneAccepted, oneSame⟩ := detectVideo_ok oneDetected
    obtain ⟨otherPlatform, otherId, otherAccepted, otherSame⟩ := detectVideo_ok otherDetected
    rw [oneSame, otherSame] at ids platforms ⊢
    have sameId : oneId = otherId := by
      rw [← text_videoId oneAccepted, ← text_videoId otherAccepted]
      exact congrArg text ids
    have values : onePlatform.value = otherPlatform.value := platforms
    have samePlatform : onePlatform = otherPlatform := by
      cases onePlatform <;> cases otherPlatform <;> first | rfl | (revert values; decide)
    rw [sameId, samePlatform]

/-! ## Jobs -/

section

variable (env : DetectorEnv) (sha256 : String → String)

/-- Detection accepts the URL of a job, which is the canonical one. -/
def Detectable (job : Job) : Prop := ∃ ref, env.detect job.url = .ok ref ∧ ref.url = job.url

theorem moved_url {op : JobOp} {row after : Job} (moved : Moved op row after) :
    after.url = row.url := by
  cases moved with
  | cancelRequested =>
    unfold cancelRequestedRow
    split <;> rfl
  | _ => rfl

theorem submitted_detectable {db : JobsDb} (kept : ∀ job ∈ db.jobs, Detectable env job)
    (submission : Submission) :
    ∀ job ∈ (exec (env.submits sha256) (.submitVideo submission) db).2.jobs, Detectable env job := by
  rcases submitVideo_outcome (env.submits sha256) db submission with
    ⟨error, raised⟩ | ⟨ref, detected, ⟨existing, _, reused⟩ | ⟨none, added, same, created⟩⟩
  · rw [raised]
    exact kept
  · rw [reused]
    exact kept
  · rw [created]
    intro job mem
    simp only [JobsDb.withJob, List.mem_append, List.mem_singleton] at mem
    rcases mem with old | new
    · exact kept job old
    · have resolved : detectVideo env (text submission.url) = .ok ref := by
        cases outcome : detectVideo env (text submission.url) with
        | error error =>
          simp [DetectorEnv.submits, DetectorEnv.detect, outcome, Except.mapError] at detected
        | ok found =>
          simp [DetectorEnv.submits, DetectorEnv.detect, outcome, Except.mapError] at detected
          rw [detected]
      rw [new, same]
      exact ⟨ref, detectVideo_again resolved, rfl⟩

theorem eventStep_detectable {db : JobsDb} (event : JobEvent)
    (kept : db.Keyed ∧ ∀ job ∈ db.jobs, Detectable env job) :
    (eventStep (env.submits sha256) db event).Keyed ∧
      ∀ job ∈ (eventStep (env.submits sha256) db event).jobs, Detectable env job := by
  have performed : ∀ op, (jobStep (env.submits sha256) db op).Keyed ∧
      ∀ job ∈ (jobStep (env.submits sha256) db op).jobs, Detectable env job := by
    intro op
    constructor
    · exact jobStep_keyed _ kept.1 op
    · intro job mem
      by_cases submits : ∃ submission, op = .submitVideo submission
      · obtain ⟨submission, same⟩ := submits
        rw [same] at mem
        exact submitted_detectable env sha256 kept.2 submission job mem
      · obtain ⟨row, memRow, _, moved⟩ :=
          (jobStep_origin (env.submits sha256) kept.1 op mem).resolve_right submits
        unfold Detectable
        rw [moved_url moved]
        exact kept.2 row memRow
  cases event with
  | performed op => exact performed op
  | interrupted op committed =>
    cases committed with
    | false => exact kept
    | true => exact performed op

/-- After every run of the job tables, detection accepts the URL of every job. -/
theorem detectable_jobs (events : List JobEvent) :
    ∀ job ∈ (run (eventStep (env.submits sha256)) {} events).jobs, Detectable env job := by
  have kept := @run_invariant _ _ (eventStep (env.submits sha256))
    (fun db => db.Keyed ∧ ∀ job ∈ db.jobs, Detectable env job)
    (fun _ event kept => eventStep_detectable env sha256 event kept) {}
    ⟨.empty, fun _ mem => nomatch mem⟩ events
  exact kept.2

end

/-- Detection returns the same reference for the canonical URL of whatever it accepts; two
accepted URLs have one canonical URL exactly when they are the same video of the same
platform; and in every run of the job tables the URL of every job is accepted again. -/
theorem canonical_urls_are_fixed (env : DetectorEnv) (sha256 : String → String) :
    (∀ url ref, detectVideo env url = .ok ref → detectVideo env (text ref.url) = .ok ref) ∧
      (∀ one other oneRef otherRef, detectVideo env one = .ok oneRef →
        detectVideo env other = .ok otherRef →
        (oneRef.url = otherRef.url ↔
          oneRef.platform = otherRef.platform ∧ oneRef.videoId = otherRef.videoId)) ∧
      ∀ events, ∀ job ∈ (run (eventStep (env.submits sha256)) {} events).jobs,
        ∃ ref, env.detect job.url = .ok ref ∧ ref.url = job.url := by
  refine ⟨?_, ?_, ?_⟩
  · intro url ref detected
    exact detectVideo_again detected
  · intro one other oneRef otherRef oneDetected otherDetected
    exact canonicalUrls_apart oneDetected otherDetected
  · intro events
    exact detectable_jobs env sha256 events

/-- Detection where only ASCII letters have a lower case. -/
def asciiDetector : DetectorEnv where
  unicode := { lowerAt := fun _ c _ => [c], decimal := fun _ => none, nfkc := id }
  urlErrorText _ := ""

/-- A short link leads to the watch page, and so does the watch page. -/
theorem canonical_url_of_short_link :
    detectVideo asciiDetector (text "HTTP://YouTu.be/dQw4w9WgXcQ;x?t=1") =
        .ok (videoRef .youtube (text "dQw4w9WgXcQ")) ∧
      detectVideo asciiDetector (text (videoRef .youtube (text "dQw4w9WgXcQ")).url) =
        .ok (videoRef .youtube (text "dQw4w9WgXcQ")) := by
  have detected : detectVideo asciiDetector (text "HTTP://YouTu.be/dQw4w9WgXcQ;x?t=1") =
      .ok (videoRef .youtube (text "dQw4w9WgXcQ")) := by
    decide +kernel
  constructor
  · exact detected
  · apply (canonical_urls_are_fixed asciiDetector id).1
    exact detected

end EvoBlue.Guarantees
