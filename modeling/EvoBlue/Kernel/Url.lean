import EvoBlue.Kernel.Text

/-!
# Splitting URLs

The generic URL splitter: scheme, network location, path, query and fragment.
It raises on a malformed bracketed host, and on a network location whose
compatibility normalization brings in a delimiter.
-/

namespace EvoBlue.Kernel

/-! ## Hosts in brackets -/

/-- A decimal octet without leading zeros. -/
def isOctet (t : Text) : Bool :=
  t ≠ [] && t.all isDigit && t.length ≤ 3 && (t = [cp '0'] || t.head? ≠ some (cp '0')) &&
    t.foldl (fun value c => value * 10 + (c.val - 0x30)) 0 ≤ 255

def isIPv4 (t : Text) : Bool :=
  let octets := t.splitOn (cp '.')
  octets.length = 4 && octets.all isOctet

/-- One to four hexadecimal digits. -/
def isHextet (t : Text) : Bool :=
  t ≠ [] && t.length ≤ 4 && t.all fun c => (hexValue c).isSome

/-- The colon-separated parts of an address, a dotted ending spelled as two of them. -/
def hextetParts (t : Text) : Option (List Text) :=
  let parts := t.splitOn (cp ':')
  if parts.length < 3 then none
  else
    match parts.getLast? with
    | some last =>
      if last.contains (cp '.') then
        if isIPv4 last then some (parts.dropLast ++ [text "0", text "0"]) else none
      else some parts
    | none => none

def isIPv6Address (t : Text) : Bool :=
  match hextetParts t with
  | none => false
  | some parts =>
    let inner := (List.range parts.length).filter fun i =>
      1 ≤ i ∧ i + 1 < parts.length ∧ parts[i]? = some []
    match inner with
    | [] => parts.length = 8 && parts.all isHextet
    | [skip] =>
      -- An empty end is the outer half of the `::` itself.
      let before := if parts.head? = some [] then (parts.take skip).tail else parts.take skip
      let after := parts.drop (skip + 1)
      let after := if parts.getLast? = some [] then after.dropLast else after
      (parts.head? ≠ some [] || before = []) && (parts.getLast? ≠ some [] || after = []) &&
        parts.length ≤ 9 && before.length + after.length < 8 && before.all isHextet &&
        after.all isHextet
    | _ => false

/-- An IPv6 address, perhaps with a scope id. -/
def isIPv6 (t : Text) : Bool :=
  match breakOn [cp '%'] t with
  | none => isIPv6Address t
  | some (address, scope) =>
    scope ≠ [] && !scope.contains (cp '%') && isIPv6Address address

/-- `v`, hexadecimal digits, a point, and at least one more code point up to a line's end. -/
def isIPvFuture (t : Text) : Bool :=
  match t with
  | [] => false
  | v :: rest =>
    let digits := rest.takeWhile fun c => (hexValue c).isSome
    let address := rest.drop digits.length
    v = cp 'v' && digits ≠ [] && address.head? = some (cp '.') && address.tail ≠ [] &&
      !address.tail.contains (cp '\n')

def isBracketedHost (host : Text) : Bool :=
  if host.head? = some (cp 'v') then isIPvFuture host else isIPv6 host && !isIPv4 host

/-! ## The splitter -/

structure SplitUrl where
  scheme : Text := []
  netloc : Text := []
  path : Text := []
  query : Text := []
  fragment : Text := []
  deriving DecidableEq, Repr

def isSchemeChar (c : CodePoint) : Bool :=
  isAlpha c || isDigit c || c = cp '+' || c = cp '-' || c = cp '.'

/-- The scheme, in lower case, and what follows it. -/
def splitScheme (url : Text) : Text × Text :=
  match breakOn [cp ':'] url with
  | some (scheme, rest) =>
    if scheme ≠ [] ∧ (url.head?.map isAlpha) = some true ∧ scheme.all isSchemeChar then
      (lowerAscii scheme, rest)
    else ([], url)
  | none => ([], url)

/-- Everything before a delimiter, and what follows it. -/
def splitAtMark (mark : Char) (url : Text) : Text × Text :=
  (breakOn [cp mark] url).getD (url, [])

theorem splitAtMark_append {mark : Char} {before after : Text} (absent : cp mark ∉ before) :
    splitAtMark mark (before ++ cp mark :: after) = (before, after) := by
  have found := @breakOn_append _ _ (cp mark) [] before after absent
  simp only [List.append_assoc, List.cons_append, List.nil_append] at found
  unfold splitAtMark
  rw [found]
  rfl

theorem splitAtMark_absent {mark : Char} {whole : Text} (absent : cp mark ∉ whole) :
    splitAtMark mark whole = (whole, []) := by
  have skipped := @breakOn_skip _ _ (cp mark) [] whole [] absent
  rw [List.append_nil] at skipped
  unfold splitAtMark
  rw [skipped]
  rfl

def netlocEnds (c : CodePoint) : Bool := c = cp '/' || c = cp '?' || c = cp '#'

/-- The network location after `//`, and what follows it. -/
def splitNetloc (url : Text) : Text × Text :=
  match breakOn (text "//") url with
  | some ([], rest) =>
    let netloc := rest.takeWhile fun c => !netlocEnds c
    (netloc, rest.drop netloc.length)
  | _ => ([], url)

/-- No bracket, or a bracketed host that is one. -/
def bracketsFit (netloc : Text) : Bool :=
  match netloc.contains (cp '['), netloc.contains (cp ']') with
  | false, false => true
  | true, true =>
    isBracketedHost (splitAtMark ']' (splitAtMark '[' netloc).2).1
  | _, _ => false

/-- Normalization form KC brings no delimiter into the network location. -/
def netlocFits (unicode : UnicodeData) (netloc : Text) : Bool :=
  let marks := [cp '@', cp ':', cp '#', cp '?']
  let plain := netloc.filter fun c => !marks.contains c
  netloc.all isAscii || unicode.nfkc plain = plain ||
    (unicode.nfkc plain).all fun c => c ≠ cp '/' && !marks.contains c

/-- `urlsplit`; `none` is its `ValueError`. -/
def urlsplit (unicode : UnicodeData) (url : Text) : Option SplitUrl :=
  let url := url.dropWhile fun c => c.val ≤ 0x20
  let url := url.filter fun c => c ≠ cp '\t' ∧ c ≠ cp '\r' ∧ c ≠ cp '\n'
  let (scheme, rest) := splitScheme url
  let (netloc, rest) := splitNetloc rest
  let (rest, fragment) := splitAtMark '#' rest
  let (path, query) := splitAtMark '?' rest
  if bracketsFit netloc && netlocFits unicode netloc then
    some { scheme, netloc, path, query, fragment }
  else none

/-! ## Host and port -/

/-- The host and the port as the network location spells them. -/
def hostInfo (netloc : Text) : Text × Text :=
  let hostinfo := netloc.rtakeWhile fun c => c ≠ cp '@'
  if hostinfo.contains (cp '[') then
    let (hostname, rest) := splitAtMark ']' (splitAtMark '[' hostinfo).2
    (hostname, (splitAtMark ':' rest).2)
  else splitAtMark ':' hostinfo

/-- The host in lower case, but for the scope id of an address. -/
def SplitUrl.hostname (unicode : UnicodeData) (url : SplitUrl) : Option Text :=
  let hostname := (hostInfo url.netloc).1
  if hostname = [] then none
  else
    match breakOn [cp '%'] hostname with
    | none => some (lower unicode hostname)
    | some (address, scope) => some (lower unicode address ++ cp '%' :: scope)

/-- The port, if there is one; `none` is the `ValueError` of one that is no port. -/
def SplitUrl.port (url : SplitUrl) : Option (Option Nat) :=
  let port := (hostInfo url.netloc).2
  if port = [] then some none
  else if port.all isDigit ∧ port.length ≤ 4300 then
    let value := port.foldl (fun value c => value * 10 + (c.val - 0x30)) 0
    if value ≤ 65535 then some (some value) else none
  else none

/-- An absolute HTTP or HTTPS URL. -/
def SplitUrl.isAbsoluteHttp (url : SplitUrl) : Bool :=
  (url.scheme = text "http" || url.scheme = text "https") && url.netloc ≠ []

/-! ## Schemes -/

/-- A code point of a scheme, in lower case. -/
theorem lowerAscii_schemeChar {d : CodePoint} (allowed : isSchemeChar d = true) :
    let c := if isUpper d then codePoint (d.val + 32) else d
    c.val < 0x80 ∧ ¬ (0x41 ≤ c.val ∧ c.val ≤ 0x5a) ∧ c.val ≠ 0x3a := by
  have values : d.val ≤ 0x5a ∧ 0x41 ≤ d.val ∨ d.val ≤ 0x7a ∧ 0x61 ≤ d.val ∨
      d.val ≤ 0x39 ∧ 0x30 ≤ d.val ∨ d.val = 0x2b ∨ d.val = 0x2d ∨ d.val = 0x2e := by
    simp only [isSchemeChar, isAlpha, isUpper, isDigit, Bool.or_eq_true, Bool.and_eq_true,
      decide_eq_true_eq, Fin.ext_iff, cp_val, Char.reduceToNat] at allowed
    omega
  intro c
  by_cases upper : isUpper d = true
  · have raised : c.val = d.val + 32 := by
      simp only [c, upper, if_true]
      exact val_codePoint (by omega)
    simp only [isUpper, Bool.and_eq_true, decide_eq_true_eq] at upper
    omega
  · have same : c = d := by simp [c, upper]
    simp only [isUpper, Bool.and_eq_true, decide_eq_true_eq] at upper
    rw [same]
    omega

/-- The scheme of a split URL is spelled in lower-case ASCII, without a colon. -/
theorem splitScheme_clean {url : Text} {c : CodePoint} (mem : c ∈ (splitScheme url).1) :
    (isAscii c = true ∧ isUpper c = false) ∧ c ≠ cp ':' := by
  unfold splitScheme at mem
  split at mem
  next scheme rest broken =>
    split at mem
    next clean =>
      obtain ⟨d, memD, rfl⟩ := List.mem_map.1 mem
      obtain ⟨ascii, lower, colon⟩ :=
        lowerAscii_schemeChar (List.all_eq_true.1 clean.2.2 d memD)
      refine ⟨⟨by simpa [isAscii] using ascii, ?_⟩, fun same => colon ?_⟩
      · simpa [isUpper] using lower
      · rw [same]
        rfl
    · cases mem
  · cases mem

theorem urlsplit_scheme_clean {unicode : UnicodeData} {url : Text} {parsed : SplitUrl}
    (done : urlsplit unicode url = some parsed) {c : CodePoint} (mem : c ∈ parsed.scheme) :
    (isAscii c = true ∧ isUpper c = false) ∧ c ≠ cp ':' := by
  unfold urlsplit at done
  simp only at done
  split at done
  · cases done
    exact splitScheme_clean mem
  · cases done

/-! ## Validated URLs -/

/-- Brackets stand around an address, and nowhere else. -/
def Bracketed (authority : Text) : Prop :=
  (cp '[' ∉ authority ∧ cp ']' ∉ authority) ∨
    ∃ user address port, authority = user ++ cp '[' :: (address ++ cp ']' :: port) ∧
      cp '[' ∉ user ∧ cp ']' ∉ address ∧ isBracketedHost address = true

/-- How a validated HTTP(S) URL is spelled: in printable ASCII, with a host. -/
structure HttpSpelling (url scheme authority rest : Text) : Prop where
  whole : url = scheme ++ text "://" ++ authority ++ rest
  scheme : scheme = text "http" ∨ scheme = text "https"
  host : authority ≠ []
  brackets : Bracketed authority
  authority : ∀ c ∈ authority, netlocEnds c = false
  rest : ∀ c ∈ rest.head?, netlocEnds c = true
  printable : ∀ c ∈ url, 0x20 < c.val ∧ c.val < 0x7f

def IsHttpUrl (url : Text) : Prop := ∃ scheme authority rest, HttpSpelling url scheme authority rest

theorem bracketsFit_of_bracketed {authority : Text} (brackets : Bracketed authority) :
    bracketsFit authority = true := by
  unfold bracketsFit
  rcases brackets with ⟨opening, closing⟩ | ⟨user, address, port, rfl, opening, closing, host⟩
  · have none : authority.contains (cp '[') = false ∧ authority.contains (cp ']') = false := by
      simp [opening, closing]
    rw [none.1, none.2]
  · have both : (user ++ cp '[' :: (address ++ cp ']' :: port)).contains (cp '[') = true ∧
        (user ++ cp '[' :: (address ++ cp ']' :: port)).contains (cp ']') = true := by
      simp
    rw [both.1, both.2]
    dsimp only
    rw [splitAtMark_append opening, splitAtMark_append closing]
    exact host

/-- How a validated URL is split. -/
theorem urlsplit_spelled (unicode : UnicodeData) {url scheme authority rest : Text}
    (spelled : HttpSpelling url scheme authority rest) :
    urlsplit unicode url = some
      { scheme
        netloc := authority
        path := (splitAtMark '?' (splitAtMark '#' rest).1).1
        query := (splitAtMark '?' (splitAtMark '#' rest).1).2
        fragment := (splitAtMark '#' rest).2 } := by
  have front : url.dropWhile (fun c => c.val ≤ 0x20) = url := by
    cases url with
    | nil => rfl
    | cons c url =>
      have bound := (spelled.printable c List.mem_cons_self).1
      rw [List.dropWhile_cons_of_neg]
      simpa using bound
  have clean : url.filter (fun c => c ≠ cp '\t' ∧ c ≠ cp '\r' ∧ c ≠ cp '\n') = url := by
    rw [List.filter_eq_self]
    intro c mem
    have bound := (spelled.printable c mem).1
    have apart : ∀ d : CodePoint, d.val ≤ 0x20 → c ≠ d := by
      rintro d small rfl
      omega
    rw [decide_eq_true_eq]
    exact ⟨apart _ (by decide), apart _ (by decide), apart _ (by decide)⟩
  have separator : text "://" = cp ':' :: text "//" := by decide
  have broken : splitScheme url = (scheme, text "//" ++ authority ++ rest) := by
    have noColon : cp ':' ∉ scheme := by
      rcases spelled.scheme with rfl | rfl <;> decide
    have found := @breakOn_append _ _ (cp ':') [] scheme (text "//" ++ authority ++ rest) noColon
    have whole : url = scheme ++ [cp ':'] ++ (text "//" ++ authority ++ rest) := by
      rw [spelled.whole, separator]
      simp
    have fits : scheme ≠ [] ∧ (url.head?.map isAlpha) = some true ∧ scheme.all isSchemeChar := by
      rw [whole]
      rcases spelled.scheme with rfl | rfl
      · exact ⟨by decide, by rfl, by decide⟩
      · exact ⟨by decide, by rfl, by decide⟩
    have lower : lowerAscii scheme = scheme := by
      rcases spelled.scheme with rfl | rfl <;> decide
    rw [← whole] at found
    unfold splitScheme
    rw [found]
    dsimp only
    rw [if_pos fits, lower]
  have located : splitNetloc (text "//" ++ authority ++ rest) = (authority, rest) := by
    have found := breakOn_start (text "//") (authority ++ rest)
    have taken : (authority ++ rest).takeWhile (fun c => !netlocEnds c) = authority := by
      rw [List.takeWhile_append_of_pos fun c mem => by rw [spelled.authority c mem]; rfl]
      cases rest with
      | nil => rw [List.takeWhile_nil, List.append_nil]
      | cons c rest =>
        have ends := spelled.rest c rfl
        rw [List.takeWhile_cons_of_neg (by simpa using ends), List.append_nil]
    unfold splitNetloc
    rw [List.append_assoc, found]
    simp only [taken, List.drop_left]
  have ascii : netlocFits unicode authority = true := by
    have small : authority.all isAscii = true := by
      rw [List.all_eq_true]
      intro c mem
      have there : c ∈ url := by
        rw [spelled.whole]
        simp [mem]
      have bound := (spelled.printable c there).2
      unfold isAscii
      rw [decide_eq_true_eq]
      omega
    unfold netlocFits
    dsimp only
    rw [small]
    rfl
  have fits := bracketsFit_of_bracketed spelled.brackets
  unfold urlsplit
  dsimp only
  rw [front, clean, broken]
  dsimp only
  rw [located]
  dsimp only
  rw [fits, ascii]
  rfl

/-- A validated URL is split without an error, into an absolute HTTP(S) URL. -/
theorem urlsplit_httpUrl (unicode : UnicodeData) {url : Text} (http : IsHttpUrl url) :
    ∃ parts, urlsplit unicode url = some parts ∧ parts.isAbsoluteHttp = true := by
  obtain ⟨scheme, authority, rest, spelled⟩ := http
  refine ⟨_, urlsplit_spelled unicode spelled, ?_⟩
  unfold SplitUrl.isAbsoluteHttp
  rcases spelled.scheme with rfl | rfl <;> simp [spelled.host]

end EvoBlue.Kernel
