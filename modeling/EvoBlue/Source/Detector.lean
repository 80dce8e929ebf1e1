import EvoBlue.Kernel.QueryString
import EvoBlue.Source.StageHandlers

/-!
# Detecting a video

`platforms/detector.py`: the platform and the video id of a URL, and the canonical URL of
the video. Ids are ASCII, so the reference a URL resolves to is made of plain strings.
-/

namespace EvoBlue.Source

open EvoBlue.Kernel

inductive Platform where
  | youtube
  | bilibili
  deriving DecidableEq, Repr

def Platform.value : Platform → String
  | .youtube => "youtube"
  | .bilibili => "bilibili"

/-- What detection takes from elsewhere: the Unicode tables, and the text of the `ValueError`
that `urlparse` raises for a URL. -/
structure DetectorEnv where
  unicode : UnicodeData
  urlErrorText : Text → String

/-- `_YOUTUBE_HOSTS`. -/
def youtubeHosts : List Text :=
  [text "youtube.com", text "www.youtube.com", text "m.youtube.com", text "youtu.be"]

/-- `_BILIBILI_HOSTS`. -/
def bilibiliHosts : List Text := [text "bilibili.com", text "www.bilibili.com", text "m.bilibili.com"]

def isAlphanumeric (c : CodePoint) : Bool := isAlpha c || isDigit c

/-- `_YOUTUBE_ID_RE.fullmatch`. -/
def isYoutubeId (videoId : Text) : Bool :=
  videoId.length = 11 && videoId.all fun c => isAlphanumeric c || c = cp '_' || c = cp '-'

/-- `_BILIBILI_BV_RE.fullmatch`. -/
def isBilibiliId (videoId : Text) : Bool :=
  videoId.length = 12 && videoId.take 2 = text "BV" && (videoId.drop 2).all isAlphanumeric

def canonicalUrl : Platform → Text → Text
  | .youtube, videoId => text "https://www.youtube.com/watch?v=" ++ videoId
  | .bilibili, videoId => text "https://www.bilibili.com/video/" ++ videoId

/-- `_splitparams`: the path up to the first `;` behind its last slash. -/
def pathWithoutParams (path : Text) : Text :=
  let last := path.rtakeWhile fun c => c ≠ cp '/'
  path.take (path.length - last.length) ++ last.takeWhile fun c => c ≠ cp ';'

/-- `urlparse`, without the params; `none` is its `ValueError`. They are split off for the
schemes `http` and `https`, and others are refused. -/
def urlparse (unicode : UnicodeData) (url : Text) : Option SplitUrl :=
  (urlsplit unicode url).map fun parsed =>
    if parsed.scheme = text "http" ∨ parsed.scheme = text "https" then
      { parsed with path := pathWithoutParams parsed.path }
    else parsed

/-- `[p for p in parsed.path.split("/") if p]`. -/
def urlParts (parsed : SplitUrl) : List Text := (parsed.path.splitOn (cp '/')).filter (· ≠ [])

def invalidUrl (message : String) : Except CodedError Text := .error ⟨"INVALID_URL", message⟩

/-- `_youtube_video_id`. -/
def youtubeVideoId (parsed : SplitUrl) (hostname : Text) : Except CodedError Text :=
  let parts := urlParts parsed
  let videoId :=
    if hostname = text "youtu.be" ∧ parts ≠ [] then parts[0]?
    else if parts[0]? = some (text "shorts") ∧ 2 ≤ parts.length then parts[1]?
    else (parseQs parsed.query (text "v")).head?
  match videoId with
  | none => invalidUrl "YouTube URL is missing a video id"
  | some videoId =>
    if isYoutubeId videoId then .ok videoId
    else invalidUrl "YouTube URL has an invalid video id"

/-- `_bilibili_video_id`. -/
def bilibiliVideoId (parsed : SplitUrl) : Except CodedError Text :=
  match urlParts parsed with
  | first :: videoId :: _ =>
    if first = text "video" then
      if isBilibiliId videoId then .ok videoId
      else invalidUrl "Bilibili URL has an invalid video id"
    else invalidUrl "Bilibili URL is missing a video id"
  | _ => invalidUrl "Bilibili URL is missing a video id"

/-- The reference to a video. -/
def videoRef (platform : Platform) (videoId : Text) : VideoRef where
  platform := platform.value
  videoId := plainString videoId
  url := plainString (canonicalUrl platform videoId)

/-- `detect_video`. -/
def detectVideo (env : DetectorEnv) (url : Text) : Except CodedError VideoRef :=
  match urlparse env.unicode url with
  | none => .error ⟨"INVALID_URL", "invalid URL: " ++ env.urlErrorText url⟩
  | some parsed =>
    match parsed.hostname env.unicode with
    | none => .error ⟨"INVALID_URL", "URL must be http(s)"⟩
    | some hostname =>
      if parsed.scheme ≠ text "http" ∧ parsed.scheme ≠ text "https" then
        .error ⟨"INVALID_URL", "URL must be http(s)"⟩
      else
        let host := lower env.unicode hostname
        if host ∈ youtubeHosts then (youtubeVideoId parsed hostname).map (videoRef .youtube)
        else if host ∈ bilibiliHosts then (bilibiliVideoId parsed).map (videoRef .bilibili)
        else .error ⟨"UNSUPPORTED_PLATFORM", "unsupported platform host: " ++ plainString host⟩

/-- `detect_video` of a string. -/
def DetectorEnv.detect (env : DetectorEnv) (url : String) : Except CodedError VideoRef :=
  detectVideo env (text url)

/-- A submission detects videos so. -/
def DetectorEnv.submits (env : DetectorEnv) (sha256 : String → String) : SubmitEnv where
  detectVideo url := (env.detect url).mapError (·.errorCode)
  sha256 := sha256

end EvoBlue.Source
