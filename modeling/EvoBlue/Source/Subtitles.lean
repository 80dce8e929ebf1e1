import EvoBlue.Kernel.Floats
import EvoBlue.Kernel.Lines
import EvoBlue.Source.Search
import EvoBlue.Source.StageHandlers

/-!
# Subtitles

The parsers of `transcript/parser.py`, the subtitle path of `platforms/yt_dlp_adapter.py`
that calls them, and what the stage makes of it. Times are the numbers written in the file.
-/

namespace EvoBlue.Source

open EvoBlue.Kernel

/-- What a parser raises: `ValueError`, `IndexError` or `OverflowError`. -/
inductive ParseError where
  | value (message : String)
  | index
  | overflow
  deriving DecidableEq, Repr

structure TimedText where
  start : FloatValue
  stop : FloatValue
  text : Text
  deriving DecidableEq, Repr

/-- What the parsers take from the language: the Unicode tables, `repr`, and what `int` and
`float` say of a text they do not read. -/
structure ParserEnv where
  unicode : UnicodeData
  repr : Text → String
  intError : Text → String
  floatError : Text → String

section

variable (env : ParserEnv)

def parseInt (t : Text) : Except ParseError Int :=
  match readInt env.unicode t with
  | some value => .ok value
  | none => .error (.value (env.intError t))

def parseFloat (t : Text) : Except ParseError FloatValue :=
  match readFloat env.unicode t with
  | some value => .ok value
  | none => .error (.value (env.floatError t))

/-- An `int` plus a `float`: the first is converted, which may be too much for it. -/
def addFloat (whole : Int) (seconds : FloatValue) : Except ParseError FloatValue :=
  if floatLimit ≤ whole.natAbs then .error .overflow
  else
    match seconds with
    | .finite value => .ok (.ofRat (whole + value))
    | other => .ok other

/-- `_parse_timestamp`. -/
def parseTimestamp (value : Text) : Except ParseError FloatValue :=
  match (replaceAll [cp ','] [cp '.'] (strip value)).splitOn (cp ':') with
  | [hours, minutes, seconds] => do
    let hours ← parseInt env hours
    let minutes ← parseInt env minutes
    let seconds ← parseFloat env seconds
    addFloat (hours * 3600 + minutes * 60) seconds
  | [minutes, seconds] => do
    let minutes ← parseInt env minutes
    let seconds ← parseFloat env seconds
    addFloat (minutes * 60) seconds
  | _ => .error (.value ("invalid timestamp: " ++ env.repr value))

/-! ## The two parsers -/

/-- `str.splitlines()`. -/
def textLines (t : Text) : List Text := (splitLines t).map fun line => line.rdropWhile isLineEnd

def isBlankLine (line : Text) : Bool := strip line = []

/-- `" ".join` of the lines of one cue, stripped. -/
def cueText (words : List Text) : Text := [cp ' '].intercalate (words.map strip)

/-- The loop of both parsers, which differ in what they read behind the arrow. -/
def parseCues (parseEnd : Text → Except ParseError FloatValue) :
    List Text → Except ParseError (List TimedText)
  | [] => .ok []
  | line :: rest =>
    match breakOn (text "-->") (strip line) with
    | some (startStr, endStr) => do
      let start ← parseTimestamp env startStr
      let stop ← parseEnd endStr
      let segments ← parseCues parseEnd (rest.dropWhile fun line => !isBlankLine line)
      pure (⟨start, stop, cueText (rest.takeWhile fun line => !isBlankLine line)⟩ :: segments)
    | none => parseCues parseEnd rest
termination_by lines => lines.length
decreasing_by
  · have shorter := List.length_dropWhile_le (fun line => !isBlankLine line) rest
    simp only [List.length_cons]
    omega
  · simp

/-- Behind the arrow of VTT settings may follow the time. -/
def parseVttEnd (endStr : Text) : Except ParseError FloatValue :=
  match (splitWords (strip endStr)).head? with
  | some word => parseTimestamp env word
  | none => .error .index

def parseSrtEnd (endStr : Text) : Except ParseError FloatValue := parseTimestamp env (strip endStr)

def parseVtt (t : Text) : Except ParseError (List TimedText) :=
  parseCues env (parseVttEnd env) (textLines t)

def parseSrt (t : Text) : Except ParseError (List TimedText) :=
  parseCues env (parseSrtEnd env) (textLines t)

/-- `YtDlpAdapter._parse`. -/
def parseSubtitles (raw ext : Text) : Except ParseError (List TimedText) :=
  if ext = text "srt" then parseSrt env raw else parseVtt env raw

end

/-! ## The adapter -/

/-- One format of the subtitles in one language. -/
structure SubtitleEntry where
  url : Option Text
  ext : Option Text

/-- What `yt_dlp` extracts, under its keys: per language the formats, if any. -/
structure SubtitleInfo where
  subtitles : List (Text × Option (List SubtitleEntry))
  automaticCaptions : List (Text × Option (List SubtitleEntry))

def preferredLangs : List Text := [text "zh-Hans", text "zh-CN", text "zh", text "en"]

def supportedSubtitleExts : List Text := [text "vtt", text "srt"]

/-- `_pick_from`. -/
def pickFrom (entries : Option (List SubtitleEntry)) (lang : Text) : Option (Text × Text × Text) :=
  (entries.getD []).findSome? fun entry =>
    match entry.url, entry.ext with
    | some url, some ext =>
      if url ≠ [] ∧ ext ∈ supportedSubtitleExts then some (url, ext, lang) else none
    | _, _ => none

/-- `_pick_subtitle_url`. -/
def pickSubtitleUrl (info : SubtitleInfo) : Option (Text × Text × Text) :=
  [info.subtitles, info.automaticCaptions].findSome? fun subs =>
    (preferredLangs.findSome? fun lang => pickFrom ((subs.lookup lang).join) lang).or
      (subs.findSome? fun item => pickFrom item.2 item.1)

/-- How `fetch_transcript` ends. -/
inductive FetchedTranscript where
  | transcript (segments : List TimedText) (language : Text) (source : String)
  | adapterError (error : StageError)
  | raised (error : ParseError)

/-- `YtDlpAdapter.fetch_transcript`, with what the extraction and the download say. -/
def ytDlpTranscript (env : ParserEnv) (extracted : Except StageError SubtitleInfo)
    (download : Text → Except StageError Text) (ref : VideoRef) : FetchedTranscript :=
  match extracted with
  | .error error => .adapterError error
  | .ok info =>
    match pickSubtitleUrl info with
    | none => .adapterError ⟨⟨"SUBTITLE_MISSING", "no supported subtitles available"⟩, false⟩
    | some (url, ext, lang) =>
      match download url with
      | .error error => .adapterError error
      | .ok raw =>
        match parseSubtitles env raw ext with
        | .error (.value message) =>
          .adapterError ⟨⟨"SUBTITLE_MISSING", "subtitle format invalid: " ++ message⟩, false⟩
        | .error error => .raised error
        | .ok [] => .adapterError ⟨⟨"SUBTITLE_MISSING", "subtitle text was empty"⟩, false⟩
        | .ok segments => .transcript segments lang (ref.platform ++ "-subtitle")

/-- The answer the stage gets; `none` is an exception other than `AdapterError`. -/
def FetchedTranscript.answer (instant : FloatValue → Time) :
    FetchedTranscript → Option (Except StageError Transcript)
  | .transcript segments language source =>
    some (.ok ⟨segments.map fun segment =>
      ⟨instant segment.start, instant segment.stop, plainString segment.text⟩,
      plainString language, source⟩)
  | .adapterError error => some (.error error)
  | .raised _ => none

/-- `FetchingSubtitlesHandler.execute` after `fetch_transcript` has ended. -/
def subtitlesFetched (env : HandlerEnv) (job : Job)
    (answer : Option (Except StageError Transcript)) : Stage :=
  match fetchingSubtitlesHandler env job with
  | .ask (.fetchTranscript _) next =>
    match answer with
    | some answer => next answer
    | none => Stage.raised
  | other => other

end EvoBlue.Source
