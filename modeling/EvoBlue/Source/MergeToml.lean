import EvoBlue.Kernel.Lines
import EvoBlue.Source.MergeJson

/-!
# Merging an entry into a TOML file

`application/client_config/merge_toml.py` and `render_toml_entry`. The decisions are
taken from what `tomllib` parses; the edit replaces a span of text that a line scanner
of its own finds.
-/

namespace EvoBlue.Source

open EvoBlue.Kernel

/-- What `tomllib` returns. -/
inductive TomlValue where
  | str (value : Text)
  /-- A number, a boolean, a date or a time. -/
  | scalar (spelled : Text)
  | array (items : List TomlValue)
  | table (members : List (Text × TomlValue))

abbrev TomlTable := List (Text × TomlValue)

namespace TomlValue

mutual

/-- How deep arrays and tables nest. -/
def nesting : TomlValue → Nat
  | .array items => nestingItems items + 1
  | .table members => nestingMembers members + 1
  | _ => 0

def nestingItems : List TomlValue → Nat
  | [] => 0
  | item :: items => max (nesting item) (nestingItems items)

def nestingMembers : TomlTable → Nat
  | [] => 0
  | (_, value) :: members => max (nesting value) (nestingMembers members)

end

mutual

/-- `==`. -/
def same (scalars : Text → Text → Bool) : TomlValue → TomlValue → Bool
  | .str s, .str t => s = t
  | .scalar s, .scalar t => scalars s t
  | .array items, .array others => sameItems scalars items others
  | .table members, .table others =>
    members.length = others.length && sameMembers scalars members others
  | _, _ => false

def sameItems (scalars : Text → Text → Bool) : List TomlValue → List TomlValue → Bool
  | [], [] => true
  | item :: items, other :: others => same scalars item other && sameItems scalars items others
  | _, _ => false

def sameMembers (scalars : Text → Text → Bool) : TomlTable → TomlTable → Bool
  | [], _ => true
  | (key, value) :: members, others =>
    (match Dict.get key others with
      | some other => same scalars value other
      | none => false) && sameMembers scalars members others

end

end TomlValue

/-- What `tomllib.loads` raises. -/
inductive TomlFault where
  /-- `TOMLDecodeError`, with its text. -/
  | decode (message : Text)
  | valueError
  | recursionError

/-- What the module takes from the interpreter and `tomllib`. -/
structure TomlEnv where
  loads : Text → Except TomlFault TomlTable
  /-- Values nest at most this deep in what `_clone` walks. -/
  cloneDepth : Nat
  scalarEqual : Text → Text → Bool
  /-- `str` of a value. -/
  shown : TomlValue → Text
  /-- `str.isalnum` of a character that is not ASCII. -/
  alnum : CodePoint → Bool

namespace MergeToml

open MergeJson (managedKeys)

def tableRoot : Text := text "mcp_servers"

def quoteMark : CodePoint := cp '"'

def apostrophe : CodePoint := codePoint 0x27

def payloadTable (payload : EntryPayload) : TomlTable :=
  [(text "command", .str payload.command), (text "args", .array (payload.args.map .str))] ++
    if payload.env.isEmpty then []
    else [(text "env",
      .table ((Dict.ofPairs payload.env).map fun pair => (pair.1, .str pair.2)))]

def renderTomlEntry (key : Text) (payload : EntryPayload) : Text :=
  (text "\n").intercalate
    ([text "[mcp_servers." ++ key ++ text "]",
      text "command = " ++ Json.dumpsStr payload.command,
      text "args = " ++ Json.dumpsStrings payload.args] ++
    if payload.env.isEmpty then []
    else [[], text "[mcp_servers." ++ key ++ text ".env]"] ++
      payload.env.map fun pair => pair.1 ++ text " = " ++ Json.dumpsStr pair.2) ++ text "\n"

/-! ## The scanner -/

structure ScanState where
  depth : Nat := 0
  /-- The delimiter of the multi-line string the scanner is in. -/
  inMultiline : Option Text := none
  deriving DecidableEq

structure Header where
  path : List Text
  lineStart : Nat
  lineEnd : Nat
  deriving DecidableEq

/-- `line.find(sub, start)`. -/
def findFrom (sub line : Text) (start : Nat) : Option Nat :=
  (breakOn sub (line.drop start)).map fun found => start + found.1.length

/-- How many code points the rest of a single-line string takes. -/
def stringSpan (quote : CodePoint) : Text → Nat
  | [] => 0
  | [_] => 1
  | c :: d :: rest =>
    if quote = quoteMark ∧ c = cp '\\' then 2 + stringSpan quote rest
    else if c = quote then 1
    else 1 + stringSpan quote (d :: rest)

/-- `_string_end`. -/
def stringEnd (line : Text) (start : Nat) : Nat :=
  match line.drop start with
  | [] => line.length
  | quote :: rest => start + 1 + stringSpan quote rest

/-- `str.isalnum` of one character. -/
def isAlnum (env : TomlEnv) (c : CodePoint) : Bool :=
  if isAscii c then isDigit c || isAlpha c else env.alnum c

/-- The loop of `_parse_key_path`; a pass takes at least one code point. -/
def keySegments (env : TomlEnv) : (fuel : Nat) → (segments : List Text) → Text → Option (List Text)
  | 0, _, _ => none
  | fuel + 1, segments, rest =>
    match rest.dropWhile fun c => c = cp '.' || isSpace c with
    | [] => if segments = [] then none else some segments
    | c :: rest =>
      if c = quoteMark ∨ c = apostrophe then
        match breakOn [c] rest with
        | none => none
        | some (segment, after) =>
          if after ≠ [] ∧ after.head? ≠ some (cp '.') then none
          else keySegments env fuel (segments ++ [segment]) after
      else
        let bare := fun c => isAlnum env c || c = cp '_' || c = cp '-'
        if bare c = false then none
        else keySegments env fuel (segments ++ [(c :: rest).takeWhile bare])
          ((c :: rest).dropWhile bare)

/-- `_parse_key_path`. -/
def parseKeyPath (env : TomlEnv) (raw : Text) : Option (List Text) :=
  let outer := strip raw
  let inner :=
    if outer.head? = some (cp '[') ∧ outer.getLast? = some (cp ']') then
      strip (outer.drop 1).dropLast
    else outer
  keySegments env (inner.length + 1) [] inner

/-- What a line gives once the scanner is through with it. -/
def lineResult (state : ScanState) (candidate : Option (List Text)) :
    Option (List Text) × ScanState :=
  (if state.depth = 0 ∧ state.inMultiline = none then candidate else none, state)

/-- The loop of `_scan_line`; a pass takes at least one code point. -/
def scanLoop (env : TomlEnv) (line : Text) : (fuel i : Nat) → ScanState → (seenNonWs : Bool) →
    (candidateStart : Option Nat) → (candidate : Option (List Text)) →
    Option (List Text) × ScanState
  | 0, _, state, _, _, candidate => lineResult state candidate
  | fuel + 1, i, state, seenNonWs, candidateStart, candidate =>
    match line.drop i with
    | [] => lineResult state candidate
    | ch :: rest =>
      if List.replicate 3 quoteMark <+: ch :: rest ∨ List.replicate 3 apostrophe <+: ch :: rest then
        let delimiter := (ch :: rest).take 3
        match findFrom delimiter line (i + 3) with
        | none => (none, { state with inMultiline := some delimiter })
        | some closer => scanLoop env line fuel (closer + 3) state true candidateStart candidate
      else if ch = quoteMark ∨ ch = apostrophe then
        scanLoop env line fuel (stringEnd line i) state true candidateStart candidate
      else if ch = cp '#' then lineResult state candidate
      else if ch = cp '[' then
        let candidateStart :=
          if state.depth = 0 ∧ seenNonWs = false ∧ candidateStart = none then some (i + 1)
          else candidateStart
        scanLoop env line fuel (i + 1) { state with depth := state.depth + 1 } true candidateStart
          candidate
      else if ch = cp ']' then
        let state := { state with depth := state.depth - 1 }
        match candidateStart, candidate with
        | some start, none =>
          if state.depth = 0 then
            match parseKeyPath env ((line.take i).drop start) with
            -- header-shaped, but no header
            | none => scanLoop env line fuel (i + 1) state true none none
            | some path => scanLoop env line fuel (i + 1) state true candidateStart (some path)
          else scanLoop env line fuel (i + 1) state true candidateStart none
        | _, _ => scanLoop env line fuel (i + 1) state true candidateStart candidate
      -- anything after the closing bracket: not a header
      else if candidate.isSome ∧ isSpace ch = false then
        scanLoop env line fuel (i + 1) state true none none
      else
        scanLoop env line fuel (i + 1) state (seenNonWs || !isSpace ch) candidateStart candidate

/-- `_scan_line`. -/
def scanLine (env : TomlEnv) (line : Text) (state : ScanState) : Option (List Text) × ScanState :=
  match state.inMultiline with
  | some delimiter =>
    match findFrom delimiter line 0 with
    | none => (none, state)
    | some closer =>
      let line := line.drop (closer + 3)
      scanLoop env line (line.length + 1) 0 { state with inMultiline := none } false none none
  | none => scanLoop env line (line.length + 1) 0 state false none none

/-- `str.rstrip("\r\n")`. -/
def rstripEnds (line : Text) : Text := line.rdropWhile fun c => c = cp '\r' || c = cp '\n'

/-- The loop of `_scan_headers`. -/
def headersFrom (env : TomlEnv) : (offset : Nat) → ScanState → List Text → List Header
  | _, _, [] => []
  | offset, state, rawLine :: lines =>
    let (path, state) := scanLine env (rstripEnds rawLine) state
    let later := headersFrom env (offset + rawLine.length) state lines
    match path with
    | some path =>
      if state.depth = 0 ∧ state.inMultiline = none then
        ⟨path, offset, offset + rawLine.length⟩ :: later
      else later
    | none => later

/-- `_scan_headers`. -/
def scanHeaders (env : TomlEnv) (original : Text) : List Header :=
  headersFrom env 0 {} (splitLines original)

/-- The header is that of a table in our subtree. -/
def ownSubtree (key : Text) (path : List Text) : Prop := path.take 2 = [tableRoot, key]

instance (key : Text) (path : List Text) : Decidable (ownSubtree key path) :=
  inferInstanceAs (Decidable (_ = _))

/-- Where the subtree ends, given the later headers. -/
def subtreeEnd (key : Text) (length : Nat) : List Header → Nat
  | [] => length
  | later :: headers =>
    if ownSubtree key later.path then subtreeEnd key length headers else later.lineStart

/-- The loop of `_find_span`. -/
def spanAmong (key : Text) (length : Nat) : List Header → Option (Header × Nat)
  | [] => none
  | header :: headers =>
    if ownSubtree key header.path ∧ header.path.length = 2 then
      some (header, subtreeEnd key length headers)
    else spanAmong key length headers

/-- `_find_span`. -/
def findSpan (env : TomlEnv) (original key : Text) : Except ConfigError (Header × Nat) :=
  match spanAmong key original.length (scanHeaders env original) with
  | some found => .ok found
  | none =>
    .error (.unsupported (text "entry exists in parse but has no [mcp_servers.<key>] header " ++
      text "(dotted-key definition is unsupported)"))

/-! ## Editing text -/

def countCrlf : Text → Nat
  | [] => 0
  | c :: rest =>
    (if c = cp '\r' ∧ rest.head? = some (cp '\n') then 1 else 0) + countCrlf rest

/-- `_dominant_newline`. -/
def dominantNewline (t : Text) : Text :=
  if countCrlf t > t.count (cp '\n') - countCrlf t then text "\r\n" else text "\n"

/-- `block.replace("\n", newline)`. -/
def adapt (original block : Text) : Text := replaceAll (text "\n") (dominantNewline original) block

/-- `_append_block`. -/
def appendBlock (original block : Text) : Text :=
  let newline := dominantNewline original
  let adapted := adapt original (block.rdropWhile fun c => c = cp '\n')
  if original = [] then adapted ++ newline
  else
    let base := if original.getLast? = some (cp '\n') then original else original ++ newline
    base ++ newline ++ adapted ++ newline

/-- `_replace_span`. -/
def replaceSpan (env : TomlEnv) (original key block : Text) : Except ConfigError Text := do
  let (span, stop) ← findSpan env original key
  return original.take span.lineStart ++ adapt original block ++ original.drop stop

/-! ## Proofs of the code -/

/-- `_parse`. -/
def parse (env : TomlEnv) (t : Text) : Except ConfigError TomlTable :=
  match env.loads t with
  | .ok doc => .ok doc
  | .error (.decode message) =>
    .error (.unsupported (text "target toml does not parse: " ++ message))
  | .error .valueError => .error .valueError
  | .error .recursionError => .error .recursionError

/-- `_prune`, which clones first. -/
def prune (env : TomlEnv) (doc : TomlTable) (key : Text) : Except ConfigError TomlTable :=
  if env.cloneDepth < TomlValue.nesting (.table doc) then .error .recursionError
  else
    match Dict.get tableRoot doc with
    | some (.table servers) =>
      if (Dict.pop key servers).isEmpty then .ok (Dict.pop tableRoot doc)
      else .ok (Dict.set tableRoot (.table (Dict.pop key servers)) doc)
    | _ => .ok doc

/-- `servers.get(key)`, of a registry that is a table. -/
def entryOf (doc : TomlTable) (key : Text) : Option TomlValue :=
  match Dict.get tableRoot doc with
  | some (.table servers) => Dict.get key servers
  | _ => none

/-- The comparison of two documents without the entry. -/
def proveRest (env : TomlEnv) (originalText key : Text) (merged : TomlTable) (message : Text) :
    Except ConfigError Unit := do
  let before ← parse env originalText
  let rest ← prune env before key
  let restAfter ← prune env merged key
  if TomlValue.same env.scalarEqual (.table rest) (.table restAfter) = false then
    .error (.write message)
  else .ok ()

def proveMerge (env : TomlEnv) (originalText mergedText key : Text) (expected : TomlTable) :
    Except ConfigError Unit := do
  let merged ← parse env mergedText
  if (entryOf merged key).any (fun entry => entry.same env.scalarEqual (.table expected)) = false then
    .error (.write (text "post-merge proof failed: entry does not equal the target payload"))
  else
    proveRest env originalText key merged <|
      text "post-merge proof failed: something outside the entry changed"

def proveRemoval (env : TomlEnv) (originalText mergedText key : Text) : Except ConfigError Unit := do
  let merged ← parse env mergedText
  if (entryOf merged key).isSome then
    .error (.write (text "post-removal proof failed: entry still present"))
  else
    proveRest env originalText key merged <|
      text "post-removal proof failed: something outside the entry changed"

/-! ## The operations -/

def readEntry (env : TomlEnv) (original key : Text) : Except ConfigError (Option TomlTable) := do
  let doc ← parse env original
  match entryOf doc key with
  | some (.table entry) => return some entry
  | _ => return none

def entryIsAddressable (env : TomlEnv) (original key : Text) : Bool :=
  (findSpan env original key).isOk

/-- `str(k) for k in current`. -/
def iterated (env : TomlEnv) : TomlValue → Except ConfigError (List Text)
  | .table members => .ok (Dict.keys members)
  | .array items => .ok (items.map env.shown)
  | .str value => .ok (value.map fun c => [c])
  | .scalar _ => .error .typeError

/-- The keys of an entry that this tool does not manage. -/
def extraKeys (names : List Text) : List Text :=
  (names.filter fun name => name ∉ managedKeys).mergeSort fun a b => a ≤ b

def mergeToml (env : TomlEnv) (original key : Text) (payload : EntryPayload) (force : Bool) :
    Except ConfigError MergeOutcome := do
  let parsed ← parse env original
  let expected := payloadTable payload
  match entryOf parsed key with
  | none =>
    let merged := appendBlock original (renderTomlEntry key payload)
    proveMerge env original merged key expected
    return ⟨merged, true⟩
  | some current =>
    let _ ← findSpan env original key
    if current.same env.scalarEqual (.table expected) then return ⟨original, false⟩
    else
      let names ← iterated env current
      if extraKeys names ≠ [] ∧ force = false then
        .error (.conflict
          (text "existing entry carries unmanaged keys; restore or force to replace: " ++
            (text ", ").intercalate (extraKeys names))
          (extraKeys names))
      else
        let merged ← replaceSpan env original key (renderTomlEntry key payload)
        proveMerge env original merged key expected
        return ⟨merged, true⟩

def removeEntryToml (env : TomlEnv) (original key : Text) : Except ConfigError MergeOutcome := do
  let _ ← parse env original
  let (span, stop) ← findSpan env original key
  let merged := original.take span.lineStart ++ original.drop stop
  proveRemoval env original merged key
  return ⟨merged, true⟩

end MergeToml

end EvoBlue.Source
