import EvoBlue.Source.TransferCalls

/-!
# The bytes of a download

Whatever the server sends and wherever the download breaks off, the file never outgrows the
expected size, the body of a response goes behind the bytes it continues, and a download that
returns leaves the expected bytes. The values the callback is told are sizes of the file.
-/

namespace EvoBlue.Guarantees

open EvoBlue.Kernel EvoBlue.Source

/-- A `Content-Range` of the bytes of a resource of `total` from `start` on. -/
def NamesRange (unicode : UnicodeData) (header : Text) (start total : Nat) : Prop :=
  ∃ blanks first last size,
    strip header = text "bytes" ++ (blanks ++ (first ++ cp '-' :: (last ++ cp '/' :: size))) ∧
    blanks ≠ [] ∧ (∀ c ∈ blanks, isSpace c = true) ∧
    readInt unicode first = some (start : Int) ∧ readInt unicode size = some (total : Int)

section

variable (unicode : UnicodeData) (target : DownloadTarget) (entry : Option Bytes)

/-- What stays of the file under the body of a response: all of it when the response is its rest,
nothing when it is the whole. -/
inductive Keeps : HttpResponse → Bytes → Prop
  | rest {response : HttpResponse} {header : Text} {content : Bytes} (status : response.status = 206)
      (sent : response.contentRange = some header)
      (names : NamesRange unicode header content.length target.expectedSizeBytes)
      (present : entry = some content) : Keeps response content
  | whole {response : HttpResponse} (status : response.status = 200) : Keeps response []

/-- The chunk is the next one of the body, and the file holds what was there and the chunks
before it. -/
def WritesNext (site : TransferSite) (chunk : Bytes) : Prop :=
  ∃ response kept written rest, site.response = some response ∧
    Keeps unicode target entry response kept ∧ response.chunks = written ++ chunk :: rest ∧
    site.file = some (kept ++ written.flatten)

/-- The value is the size of the file, and none before was larger. -/
def TellsSize (site : TransferSite) (size : Nat) : Prop :=
  site.size = size ∧ ∀ earlier ∈ site.told, earlier ≤ size

/-- The file is not larger than expected, unless nobody has touched it. -/
def Bounded (site : TransferSite) : Prop := site.size ≤ target.expectedSizeBytes ∨ site.file = entry

def Proper (site : TransferSite) : TransferCall → Prop
  | .write chunk => WritesNext unicode target entry site chunk
  | .progress size => TellsSize site size
  | _ => True

/-- What is promised of a download: of its calls, each with the file it is made over, and of its
end. -/
structure DownloadsSafely (sha256 : Bytes → String) (moments : List ((TransferSite × Nat) × TransferCall))
    (result : Except InstallError DownloadOutcome) (left : TransferSite) : Prop where
  bounded : ∀ moment ∈ moments, Bounded target entry moment.1.1
  boundedAtEnd : Bounded target entry left
  writes : ∀ world chunk, (world, .write chunk) ∈ moments →
    WritesNext unicode target entry world.1 chunk
  tells : ∀ world size, (world, .progress size) ∈ moments → TellsSize world.1 size
  delivers : ∀ outcome, result = .ok outcome → ∃ content, left.file = some content ∧
    content.length = target.expectedSizeBytes ∧ sha256 content = target.expectedSha256

/-- A call is made over a file within bounds, and answered as the outside has it. -/
def transferring : Protocol TransferCall TransferAnswer TransferSite where
  allowed site call := Bounded target entry site ∧ Proper unicode target entry site call
  moves site call answer after := ∃ now, site.serve now call = (answer, after)

end

/-! ## The header -/

theorem matchContentRange_spec {unicode : UnicodeData} {value first last size : Text}
    (matched : matchContentRange unicode value = some (first, last, size)) :
    ∃ blanks, value = text "bytes" ++ (blanks ++ (first ++ cp '-' :: (last ++ cp '/' :: size))) ∧
      blanks ≠ [] ∧ ∀ c ∈ blanks, isSpace c = true := by
  unfold matchContentRange at matched
  split at matched
  next named =>
    obtain ⟨rest, rfl⟩ := List.isPrefixOf_iff_prefix.1 named
    rw [show 5 = (text "bytes").length from by decide, List.drop_left] at matched
    dsimp only at matched
    split at matched
    next => cases matched
    next shape =>
      simp only [not_or, Decidable.not_not] at shape
      obtain ⟨blank, _, dash, _, slash⟩ := shape
      split at matched
      next =>
        rw [Option.some.injEq, Prod.mk.injEq, Prod.mk.injEq] at matched
        obtain ⟨rfl, rfl, rfl⟩ := matched
        refine ⟨rest.takeWhile isSpace, ?_, ?_, fun c mem => List.mem_takeWhile_imp mem⟩
        · congr 1
          obtain ⟨afterDash, split⟩ := List.head?_eq_some_iff.1 dash
          rw [split, List.drop_one, List.tail_cons] at slash ⊢
          obtain ⟨afterSlash, splitAgain⟩ := List.head?_eq_some_iff.1 slash
          rw [splitAgain, List.drop_one, List.tail_cons, ← splitAgain, List.takeWhile_append_dropWhile,
            ← split, List.takeWhile_append_dropWhile, List.takeWhile_append_dropWhile]
        · intro none
          have whole := List.takeWhile_append_dropWhile (p := isSpace) (l := rest)
          rw [none, List.nil_append] at whole
          exact blank (congrArg List.length whole.symm)
      next => cases matched
  next => cases matched

theorem namesRange_of_validated {unicode : UnicodeData} {value : Option Text} {start total : Nat}
    (validated : validateContentRange unicode value start total = .ok ()) :
    ∃ header, value = some header ∧ NamesRange unicode header start total := by
  unfold validateContentRange at validated
  dsimp only at validated
  split at validated
  next => cases validated
  next first last size matched =>
    obtain ⟨header, rfl, matched⟩ := Option.bind_eq_some_iff.1 matched
    obtain ⟨blanks, split, some_, spaces⟩ := matchContentRange_spec matched
    split at validated
    next => cases validated
    split at validated
    next => cases validated
    next readFirst =>
      split at validated
      next => cases validated
      next same =>
        rw [Decidable.not_not] at same
        split at validated
        next => cases validated
        next readSize =>
          split at validated
          next => cases validated
          next sameSize =>
            rw [Decidable.not_not] at sameSize
            exact ⟨header, rfl, blanks, first, last, size, split, some_, spaces, same ▸ readFirst,
              sameSize ▸ readSize⟩

/-! ## One call -/

section

variable {unicode : UnicodeData} {target : DownloadTarget} {entry : Option Bytes} {α : Type}
  {post : TransferSite → α → Prop} {site : TransferSite}

/-- One call. One that raises leaves the file within bounds. -/
theorem follows_asked {call : TransferCall} (bounded : Bounded target entry site)
    (proper : Proper unicode target entry site call)
    (torn : ∀ count, Bounded target entry (site.afterFailure count call)) :
    (Transfer.ask call).Follows (transferring unicode target entry)
      (fun after reply => ∃ response, site.perform response call = (.ok reply, after))
      (fun left _ => Bounded target entry left) site := by
  have permitted : (transferring unicode target entry).allowed site call := ⟨bounded, proper⟩
  apply Attempt.follows_ask permitted
  · rintro reply after ⟨now, served⟩
    unfold TransferSite.serve at served
    split at served
    next => cases (Prod.mk.inj served).1
    next => exact ⟨now.response, served⟩
  · rintro error after ⟨now, served⟩
    unfold TransferSite.serve at served
    split at served
    next =>
      obtain ⟨_, rfl⟩ := Prod.mk.inj served
      exact torn now.torn
    next =>
      have same : after = site := by
        cases call with
        | readFile =>
          unfold TransferSite.perform at served
          dsimp only at served
          split at served
          · cases (Prod.mk.inj served).1
          · exact (Prod.mk.inj served).2.symm
        | _ => cases (Prod.mk.inj served).1
      rw [same]
      exact bounded

/-- One call, then the rest. -/
theorem follows_ask {call : TransferCall} {next : TransferReply call → Transfer α}
    (bounded : Bounded target entry site) (proper : Proper unicode target entry site call)
    (torn : ∀ count, Bounded target entry (site.afterFailure count call))
    (goes : ∀ response reply after, site.perform response call = (.ok reply, after) →
      (next reply).Follows (transferring unicode target entry) post
        (fun left _ => Bounded target entry left) after) :
    (Transfer.ask call >>= next).Follows (transferring unicode target entry) post
      (fun left _ => Bounded target entry left) site := by
  apply Attempt.follows_bind (follows_asked bounded proper torn)
  rintro after reply ⟨response, performed⟩
  exact goes response reply after performed

/-- The file is as it was, and nobody was told of progress. -/
structure Untouched (entry : Option Bytes) (site : TransferSite) : Prop where
  file : site.file = entry
  told : site.told = []

theorem Untouched.bounded (untouched : Untouched entry site) : Bounded target entry site :=
  .inr untouched.file

/-- Nothing written to it yet, a call that changes no file leaves it so. -/
theorem follows_ask_untouched {call : TransferCall} {next : TransferReply call → Transfer α}
    (untouched : Untouched entry site) (proper : Proper unicode target entry site call)
    (still : ∀ count, site.afterFailure count call = site)
    (goes : ∀ response reply after, site.perform response call = (.ok reply, after) →
      (next reply).Follows (transferring unicode target entry) post
        (fun left _ => Bounded target entry left) after) :
    (Transfer.ask call >>= next).Follows (transferring unicode target entry) post
      (fun left _ => Bounded target entry left) site := by
  apply follows_ask untouched.bounded proper _ goes
  intro count
  rw [still]
  exact untouched.bounded

/-! ## The body -/

/-- In the loop over the chunks: the file is what was kept and the chunks so far, the size is its
size, and what is hashed is what is in it. -/
structure Receiving (unicode : UnicodeData) (target : DownloadTarget) (entry : Option Bytes)
    (response : HttpResponse) (written : List Bytes) (size : Nat) (hashed : Bytes)
    (site : TransferSite) : Prop where
  got : site.response = some response
  keeps : ∃ kept, Keeps unicode target entry response kept ∧ hashed = kept ++ written.flatten
  file : site.file = some hashed
  counted : size = hashed.length
  fits : size ≤ target.expectedSizeBytes
  told : ∀ earlier ∈ site.told, earlier ≤ size

namespace Receiving

variable {response : HttpResponse} {written rest : List Bytes} {size : Nat} {hashed chunk : Bytes}

theorem site_size (receiving : Receiving unicode target entry response written size hashed site) :
    site.size = size := by
  unfold TransferSite.size
  rw [receiving.file, receiving.counted]
  rfl

theorem bounded (receiving : Receiving unicode target entry response written size hashed site) :
    Bounded target entry site := by
  left
  rw [receiving.site_size]
  exact receiving.fits

theorem writesNext (receiving : Receiving unicode target entry response written size hashed site)
    (split : response.chunks = written ++ chunk :: rest) :
    WritesNext unicode target entry site chunk := by
  obtain ⟨kept, keeps, rfl⟩ := receiving.keeps
  exact ⟨response, kept, written, rest, receiving.got, keeps, split, receiving.file⟩

/-- One chunk more. -/
theorem write (receiving : Receiving unicode target entry response written size hashed site)
    (fits : size + chunk.length ≤ target.expectedSizeBytes) :
    Receiving unicode target entry response (written ++ [chunk]) (size + chunk.length)
      (hashed ++ chunk) { site with file := site.file.map (· ++ chunk) } where
  got := receiving.got
  keeps := by
    obtain ⟨kept, keeps, rfl⟩ := receiving.keeps
    exact ⟨kept, keeps, by simp⟩
  file := by
    dsimp only
    rw [receiving.file]
    rfl
  counted := by
    rw [List.length_append, receiving.counted]
  fits := fits
  told := fun earlier mem => (receiving.told earlier mem).trans (Nat.le_add_right _ _)

/-- A write that breaks off leaves a part of the chunk. -/
theorem torn (receiving : Receiving unicode target entry response written size hashed site)
    (fits : size + chunk.length ≤ target.expectedSizeBytes) (count : Nat) :
    Bounded target entry (site.afterFailure count (.write chunk)) := by
  left
  have part : (chunk.take count).length ≤ chunk.length := List.length_take_le' ..
  have whole := receiving.counted
  change ((site.file.map (· ++ chunk.take count)).getD []).length ≤ _
  rw [receiving.file, Option.map_some, Option.getD_some, List.length_append]
  omega

theorem tell (receiving : Receiving unicode target entry response written size hashed site) :
    Receiving unicode target entry response written size hashed
      { site with told := size :: site.told } where
  got := receiving.got
  keeps := receiving.keeps
  file := receiving.file
  counted := receiving.counted
  fits := receiving.fits
  told := by
    intro earlier mem
    rcases List.mem_cons.1 mem with rfl | before
    · exact le_refl _
    · exact receiving.told earlier before

end Receiving

/-- The chunks are written one after the other, and the callback is told the size after each. -/
theorem follows_writeBody {response : HttpResponse} {written rest : List Bytes} {size : Nat}
    {hashed : Bytes} (split : response.chunks = written ++ rest)
    (receiving : Receiving unicode target entry response written size hashed site) :
    (Transfer.writeBody target size hashed rest).Follows (transferring unicode target entry)
      (fun after result => Receiving unicode target entry response response.chunks result.1 result.2 after)
      (fun left _ => Bounded target entry left) site := by
  induction rest generalizing written size hashed site with
  | nil =>
    rw [List.append_nil] at split
    rw [split]
    exact Attempt.follows_pure receiving
  | cons chunk rest ih =>
    unfold Transfer.writeBody
    split
    next => exact Attempt.follows_throw receiving.bounded
    next fits =>
      rw [not_lt] at fits
      apply follows_ask receiving.bounded
      · exact receiving.writesNext split
      · exact receiving.torn fits
      rintro _ _ after ⟨⟩
      have wrote := receiving.write fits
      apply follows_ask wrote.bounded
      · exact ⟨wrote.site_size, wrote.told⟩
      · exact fun _ => wrote.tell.bounded
      rintro _ _ after ⟨⟩
      apply ih _ wrote.tell
      rw [split, List.append_assoc]
      rfl

/-- What a download returns with. -/
def Delivered (sha256 : Bytes → String) (target : DownloadTarget) (entry : Option Bytes)
    (left : TransferSite) : Prop :=
  Bounded target entry left ∧ ∃ content, left.file = some content ∧
    content.length = target.expectedSizeBytes ∧ sha256 content = target.expectedSha256

variable {sha256 : Bytes → String}

theorem follows_receiveBody_calls {response : HttpResponse} {restarted : Bool} {size : Nat} {hashed : Bytes}
    (receiving : Receiving unicode target entry response [] size hashed site) :
    (Transfer.receiveBody sha256 target response restarted size hashed).Follows
      (transferring unicode target entry) (fun left _ => Delivered sha256 target entry left)
      (fun left _ => Bounded target entry left) site := by
  unfold Transfer.receiveBody
  apply Attempt.follows_bind (follows_writeBody rfl receiving)
  rintro after ⟨size, hashed⟩ received
  dsimp only at received ⊢
  split
  · exact Attempt.follows_throw received.bounded
  · apply follows_ask received.bounded
    · trivial
    · exact fun _ => received.bounded
    rintro _ _ after ⟨⟩
    split
    next => exact Attempt.follows_throw received.bounded
    next complete =>
      rw [Decidable.not_not] at complete
      split
      next => exact Attempt.follows_throw received.bounded
      next digest =>
        rw [Decidable.not_not] at digest
        exact Attempt.follows_pure
          ⟨received.bounded, hashed, received.file, received.counted.symm.trans complete, digest⟩

/-! ## The response -/

/-- What reading the file returns. -/
theorem readFile_returned {response : HttpResponse} {content : Bytes} {after : TransferSite}
    (performed : site.perform response .readFile = (.ok content, after)) :
    after = site ∧ site.file = some content := by
  unfold TransferSite.perform at performed
  dsimp only at performed
  split at performed
  next held found =>
    obtain ⟨same, rfl⟩ := Prod.mk.inj performed
    exact ⟨rfl, found.trans (congrArg some (Except.ok.inj same))⟩
  next => cases (Prod.mk.inj performed).1

/-- After the status: what is kept is a prefix to be read, or nothing. -/
def Chosen (unicode : UnicodeData) (target : DownloadTarget) (entry : Option Bytes)
    (response : HttpResponse) (append : Bool) (size : Nat) : Prop :=
  if append then
    response.status = 206 ∧ size = (entry.getD []).length ∧ ∃ header,
      response.contentRange = some header ∧ NamesRange unicode header size target.expectedSizeBytes
  else response.status = 200 ∧ size = 0

theorem follows_chooseMode {response : HttpResponse} {existing : Nat}
    (untouched : Untouched entry site) (got : site.response = some response)
    (local_ : existing = (entry.getD []).length) :
    (Transfer.chooseMode unicode target response existing).Follows (transferring unicode target entry)
      (fun after result => (Untouched entry after ∧ after.response = some response) ∧
        Chosen unicode target entry response result.1 result.2.2)
      (fun left _ => Bounded target entry left) site := by
  unfold Transfer.chooseMode
  split
  next status =>
    split
    next => exact Attempt.follows_throw untouched.bounded
    next validated =>
      exact Attempt.follows_pure ⟨⟨untouched, got⟩, status, local_, namesRange_of_validated validated⟩
  next =>
    split
    next status =>
      split
      · apply follows_ask_untouched untouched
        · trivial
        · exact fun _ => rfl
        rintro _ _ after ⟨⟩
        exact Attempt.follows_pure ⟨⟨untouched, got⟩, status, rfl⟩
      · exact Attempt.follows_pure ⟨⟨untouched, got⟩, status, rfl⟩
    next => exact Attempt.follows_throw untouched.bounded

/-- The file is opened for the body of the response. -/
theorem receiving_of_opened {response : HttpResponse} {append : Bool} {size : Nat} {hashed : Bytes}
    (untouched : Untouched entry site) (got : site.response = some response)
    (chosen : Chosen unicode target entry response append size)
    (read : hashed = if append then entry.getD [] else []) (present : append → entry.isSome)
    (fits : (entry.getD []).length ≤ target.expectedSizeBytes) :
    Receiving unicode target entry response [] size hashed
      { site with file := some (if append then site.file.getD [] else []) } := by
  have told : ∀ earlier ∈ site.told, earlier ≤ size := by
    rw [untouched.told]
    simp
  cases append with
  | true =>
    obtain ⟨content, rfl⟩ := Option.isSome_iff_exists.1 (present rfl)
    obtain ⟨status, rfl, header, sent, names⟩ := chosen
    rw [if_pos rfl] at read
    refine ⟨got, ⟨content, .rest status sent names rfl, by simp [read]⟩, ?_, by rw [read], fits, told⟩
    dsimp only
    rw [untouched.file, read]
    rfl
  | false =>
    obtain ⟨status, rfl⟩ := chosen
    subst read
    exact ⟨got, ⟨[], .whole status, rfl⟩, rfl, rfl, Nat.zero_le _, told⟩

theorem follows_receive_calls {response : HttpResponse} {existing : Nat} (untouched : Untouched entry site)
    (got : site.response = some response) (local_ : existing = (entry.getD []).length)
    (fits : existing ≤ target.expectedSizeBytes) :
    (Transfer.receive sha256 unicode target response existing).Follows
      (transferring unicode target entry) (fun left _ => Delivered sha256 target entry left)
      (fun left _ => Bounded target entry left) site := by
  unfold Transfer.receive
  apply Attempt.follows_bind (follows_chooseMode untouched got local_)
  rintro after ⟨append, restarted, size⟩ ⟨⟨untouched, got⟩, chosen⟩
  apply follows_ask_untouched untouched
  · trivial
  · exact fun _ => rfl
  rintro _ _ after ⟨⟩
  have hashes : (Transfer.hashPrefix append).Follows (transferring unicode target entry)
      (fun left hashed => left = after ∧ hashed = (if append then entry.getD [] else []) ∧
        (append → entry.isSome)) (fun left _ => Bounded target entry left) after := by
    unfold Transfer.hashPrefix
    cases append with
    | false => exact Attempt.follows_pure ⟨rfl, rfl, nofun⟩
    | true =>
      refine Attempt.follows_mono (follows_asked untouched.bounded ?_ fun _ => untouched.bounded) ?_
        fun _ _ raised => raised
      · trivial
      · rintro left content ⟨_, performed⟩
        obtain ⟨rfl, found⟩ := readFile_returned performed
        rw [untouched.file] at found
        rw [found]
        exact ⟨rfl, rfl, fun _ => rfl⟩
  apply Attempt.follows_bind hashes
  rintro left hashed ⟨rfl, read, present⟩
  apply follows_ask untouched.bounded
  · trivial
  · exact fun _ => untouched.bounded
  rintro _ _ opened ⟨⟩
  exact follows_receiveBody_calls (receiving_of_opened untouched got chosen read present (local_ ▸ fits))

theorem follows_verifyInPlace {existing : Nat} (untouched : Untouched entry site)
    (complete : (entry.getD []).length = target.expectedSizeBytes) :
    (Transfer.verifyInPlace sha256 target existing).Follows (transferring unicode target entry)
      (fun left _ => Delivered sha256 target entry left) (fun left _ => Bounded target entry left) site := by
  unfold Transfer.verifyInPlace
  apply follows_ask_untouched untouched
  · trivial
  · exact fun _ => rfl
  intro _ content after performed
  obtain ⟨rfl, found⟩ := readFile_returned performed
  split
  next => exact Attempt.follows_throw untouched.bounded
  next digest =>
    rw [Decidable.not_not] at digest
    refine Attempt.follows_pure ⟨untouched.bounded, content, found, ?_, digest⟩
    rw [← complete, ← untouched.file, found]
    rfl

theorem follows_download (etag lastModified : Option String) (untouched : Untouched entry site) :
    (Transfer.downloadResumable sha256 unicode target etag lastModified).Follows
      (transferring unicode target entry) (fun left _ => Delivered sha256 target entry left)
      (fun left _ => Bounded target entry left) site := by
  unfold Transfer.downloadResumable
  apply follows_ask_untouched untouched
  · trivial
  · exact fun _ => rfl
  rintro _ _ after ⟨⟩
  apply follows_ask_untouched untouched
  · trivial
  · exact fun _ => rfl
  rintro _ _ after ⟨⟩
  have size : site.size = (entry.getD []).length := by
    rw [← untouched.file]
    rfl
  split
  next => exact Attempt.follows_throw untouched.bounded
  next fits =>
    split
    next complete => exact follows_verifyInPlace untouched (size.symm.trans complete)
    next =>
      apply follows_ask_untouched untouched
      · trivial
      · exact fun _ => rfl
      rintro response _ after ⟨⟩
      exact follows_receive_calls ⟨untouched.file, untouched.told⟩ rfl size (not_lt.1 fits)

end

/-- Whatever was there and whatever happens at each of its calls, a download is safe. -/
theorem download_is_safe (sha256 : Bytes → String) (unicode : UnicodeData) (target : DownloadTarget)
    (etag lastModified : Option String) (entry : Option Bytes) (outside : Nat → Circumstance) :
    let download := (Transfer.downloadResumable sha256 unicode target etag lastModified).run
    let ended := download.exec (TransferSite.serveNext outside) (⟨entry, [], none⟩, 0)
    DownloadsSafely unicode target entry sha256
      (download.moments (TransferSite.serveNext outside) (⟨entry, [], none⟩, 0)) ended.1 ended.2.1 := by
  intro download ended
  let watch := transferring unicode target entry
  have answers (call : TransferCall) (world : TransferSite × Nat) : watch.moves world.1 call
      (TransferSite.serveNext outside call world).1 (TransferSite.serveNext outside call world).2.1 :=
    ⟨outside world.2, rfl⟩
  have follows := @follows_download unicode target entry ⟨entry, [], none⟩ sha256 etag lastModified
    ⟨rfl, rfl⟩
  have allowed := @Process.allowed_of_follows _ _ _ _ watch _ _ Prod.fst _ answers _ (_, 0) follows
  have ends := @Process.exec_of_follows _ _ _ _ watch _ _ Prod.fst _ answers _ (_, 0) follows
  change Attempt.Ends _ _ ended.2.1 ended.1 at ends
  generalize ended = finished at ends
  obtain ⟨result, left, number⟩ := finished
  constructor
  · exact fun moment mem => (allowed moment mem).1
  · cases result with
    | ok outcome => exact ends.1
    | error error => exact ends
  · exact fun world chunk mem => (allowed _ mem).2
  · exact fun world size mem => (allowed _ mem).2
  · rintro outcome rfl
    exact ends.2

/-- Two bytes are there, and a server sends the other three in two chunks. -/
example :
    let response : HttpResponse :=
      { status := 206, contentRange := some (text "bytes 2-4/5"), chunks := [[3], [4, 5]] }
    let ended := (Transfer.downloadResumable (fun data => if data = [1, 2, 3, 4, 5] then "d" else "")
      ⟨fun _ c _ => [c], fun _ => none, fun t => t⟩ ⟨"", "", "d", 5⟩ none none).run.exec
      (TransferSite.serveNext fun _ => { response }) (⟨some [1, 2], [], none⟩, 0)
    ended.1.toOption.map (·.downloadedBytes) = some 5 ∧ ended.2.1.file = some [1, 2, 3, 4, 5] ∧
      ended.2.1.told = [5, 3] := by decide +kernel

end EvoBlue.Guarantees
