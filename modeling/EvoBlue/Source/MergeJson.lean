import EvoBlue.Kernel.JsonDocs

/-!
# Merging an entry into a JSON registry

`application/client_config/merge_json.py`. The entry of this tool is one key of the
object `mcpServers`; it is assigned in the parsed document, which is written again and
compared with the original.
-/

namespace EvoBlue.Source

open EvoBlue.Kernel

/-- `UnsupportedConfigError`, `EntryConflictError`, `ConfigWriteError`, and what the
interpreter raises. -/
inductive ConfigError where
  | unsupported (message : Text)
  | conflict (message : Text) (extraKeys : List Text)
  | write (message : Text)
  | valueError
  | typeError
  | recursionError
  deriving DecidableEq

structure EntryPayload where
  command : Text
  args : List Text
  env : List (Text × Text) := []

structure MergeOutcome where
  text : Text
  changed : Bool
  deriving DecidableEq

/-- What the module takes from the interpreter and its `json`. -/
structure JsonEnv where
  /-- Containers nest at most this deep in what `json.loads` accepts. -/
  readDepth : Nat
  /-- The same for an indented `json.dumps`. -/
  writeDepth : Nat
  /-- The same for `_clone`. -/
  cloneDepth : Nat
  /-- `repr` of the float a literal spells. -/
  float : Text → Text
  floatEquality : Json.FloatEquality
  /-- `str` of the `JSONDecodeError` that a text raises. -/
  decodeMessage : Text → Text
  /-- `repr` of a string. -/
  reprText : Text → Text

/-- A dictionary of documents. -/
abbrev Members := List (Text × Json)

namespace MergeJson

def managedKeys : List Text := [text "command", text "args", text "env"]

def serversKey : Text := text "mcpServers"

def payloadEntry (payload : EntryPayload) : Members :=
  [(text "command", .str payload.command), (text "args", .array (payload.args.map Json.str))] ++
    if payload.env.isEmpty then []
    else [(text "env",
      .object ((Dict.ofPairs payload.env).map fun pair => (pair.1, Json.str pair.2)))]

/-! ## Reading -/

/-- The loop of `_reject_duplicates`. -/
def rejectFrom (seen : Members) : Members → Except Text Members
  | [] => .ok seen
  | (key, value) :: pairs =>
    if key ∈ Dict.keys seen then .error (text "target json has a duplicate key: " ++ key)
    else rejectFrom (Dict.set key value seen) pairs

/-- `_reject_duplicates`. -/
def rejectDuplicates (pairs : Members) : Except Text Members := rejectFrom [] pairs

def decoder (env : JsonEnv) : Json.Decoder Text where
  depth := env.readDepth
  float := env.float
  pairs := rejectDuplicates

/-- `_parse`. -/
def parse (env : JsonEnv) (original : Text) : Except ConfigError Members :=
  if original.head? = some (codePoint 0xfeff) then
    .error (.unsupported (text "target json has a BOM; clients reject it too"))
  else if strip original = [] then .error (.unsupported (text "target json is empty"))
  else
    match Json.loadsWith (decoder env) original with
    | .error (.hook message) => .error (.unsupported message)
    | .error (.json .decode) =>
      .error (.unsupported (text "target json does not parse: " ++ env.decodeMessage original))
    | .error (.json .integerTooLong) => .error .valueError
    -- `Json.loadsWith_enough`: there is always fuel
    | .error (.json .recursion) | .error (.json .outOfFuel) => .error .recursionError
    | .ok (.object doc) => .ok doc
    | .ok _ => .error (.unsupported (text "target json root is not an object"))

/-- `_effective_entry`. -/
def effectiveEntry (entry : Members) : Members :=
  entry.filter fun (key, value) =>
    match value with
    | .bool false => key ≠ text "disabled"
    | _ => true

def readEntry (env : JsonEnv) (original key : Text) : Except ConfigError (Option Members) := do
  let doc ← parse env original
  match Dict.get serversKey doc with
  | some (.object servers) =>
    match Dict.get key servers with
    | some (.object entry) => return some (effectiveEntry entry)
    | _ => return none
  | _ => return none

/-! ## Proofs of the code -/

/-- `==` of two dictionaries. -/
def equal (env : JsonEnv) (one other : Members) : Bool :=
  Json.same env.floatEquality (.object one) (.object other)

/-- What `_prune` leaves of a document. -/
def pruned (doc : Members) (key : Text) : Members :=
  match Dict.get serversKey doc with
  | some (.object servers) =>
    if (Dict.pop key servers).isEmpty then Dict.pop serversKey doc
    else Dict.set serversKey (.object (Dict.pop key servers)) doc
  | _ => doc

/-- `_prune`, which clones first. -/
def prune (env : JsonEnv) (doc : Members) (key : Text) : Except ConfigError Members :=
  if env.cloneDepth < Json.nesting (.object doc) then .error .recursionError
  else .ok (pruned doc key)

/-- The keys of the registry, if there is one. -/
def registryKeys (doc : Members) : List Text :=
  match Dict.get serversKey doc with
  | some (.object servers) => Dict.keys servers
  | _ => []

/-- `_prove_intact`. -/
def proveIntact (env : JsonEnv) (before after : Members) (key : Text) (removing : Bool) :
    Except ConfigError Unit := do
  let rest ← prune env before key
  let restAfter ← prune env after key
  if equal env rest restAfter = false then
    .error (.write (text "post-merge proof failed: something outside the entry changed"))
  else
    let beforeKeys := registryKeys before
    let expectedKeys :=
      if removing then beforeKeys.filter fun name => name ≠ key
      else if key ∈ beforeKeys then beforeKeys else beforeKeys ++ [key]
    if registryKeys after ≠ expectedKeys then
      .error (.write (text "post-merge proof failed: registry order changed"))
    else .ok ()

/-- The entry of the merged document is the payload's. -/
def hasEntry (env : JsonEnv) (doc : Members) (key : Text) (expected : Members) : Bool :=
  match Dict.get serversKey doc with
  | some (.object servers) =>
    match Dict.get key servers with
    | some entry => Json.same env.floatEquality entry (.object expected)
    | none => false
  | _ => false

def proveMerge (env : JsonEnv) (originalText mergedText key : Text) (expected : Members) :
    Except ConfigError Unit := do
  let before ← parse env originalText
  let after ← parse env mergedText
  if hasEntry env after key expected = false then
    .error (.write (text "post-merge proof failed: entry does not equal the target payload"))
  else proveIntact env before after key false

def proveRemoval (env : JsonEnv) (originalText mergedText key : Text) : Except ConfigError Unit := do
  let before ← parse env originalText
  let after ← parse env mergedText
  if key ∈ registryKeys after then
    .error (.write (text "post-removal proof failed: entry still present"))
  else proveIntact env before after key true

/-! ## Writing -/

/-- `json.dumps(doc, indent=…, ensure_ascii=False) + "\n"`. -/
def dumps (env : JsonEnv) (indent : Nat) (doc : Members) : Except ConfigError Text :=
  if env.writeDepth < Json.nesting (.object doc) then .error .recursionError
  else .ok (Json.write indent 0 (.object doc) ++ text "\n")

/-- The registry a merge assigns in; it is made when there is none. -/
def registry (doc : Members) : Except ConfigError Members :=
  match Dict.get serversKey doc with
  | none | some .null => .ok []
  | some (.object servers) => .ok servers
  | some _ => .error (.unsupported (serversKey ++ text " is not an object"))

/-- The keys of an entry that this tool does not manage. -/
def extraKeys (entry : Members) : List Text :=
  ((Dict.keys entry).filter fun key => key ∉ managedKeys).mergeSort fun a b => a ≤ b

/-- Whether the entry has to be assigned. -/
def toAssign (env : JsonEnv) (key : Text) (expected : Members) (force : Bool) :
    Option Json → Except ConfigError Bool
  | none | some .null => .ok true
  | some (.object entry) =>
    if equal env entry expected then .ok false
    else if equal env (effectiveEntry entry) expected then .ok false
    else if extraKeys (effectiveEntry entry) ≠ [] ∧ force = false then
      .error (.conflict
        (text "existing entry carries unmanaged keys; restore or force to replace: " ++
          (text ", ").intercalate (extraKeys (effectiveEntry entry)))
        (extraKeys (effectiveEntry entry)))
    else .ok true
  | some _ =>
    .error (.unsupported (text "existing entry " ++ env.reprText key ++ text " is not an object"))

def mergeJson (env : JsonEnv) (original key : Text) (payload : EntryPayload) (indent : Nat)
    (force : Bool) : Except ConfigError MergeOutcome := do
  let doc ← parse env original
  let servers ← registry doc
  let expected := payloadEntry payload
  let assigns ← toAssign env key expected force (Dict.get key servers)
  if assigns = false then return ⟨original, false⟩
  else
    let merged := Dict.set serversKey (.object (Dict.set key (.object expected) servers)) doc
    let mergedText ← dumps env indent merged
    proveMerge env original mergedText key expected
    return ⟨mergedText, true⟩

def removeEntryJson (env : JsonEnv) (original key : Text) (indent : Nat) :
    Except ConfigError MergeOutcome := do
  let doc ← parse env original
  match Dict.get serversKey doc with
  | some (.object servers) =>
    if key ∈ Dict.keys servers then
      let mergedText ← dumps env indent (Dict.set serversKey (.object (Dict.pop key servers)) doc)
      proveRemoval env original mergedText key
      return ⟨mergedText, true⟩
    else return ⟨original, false⟩
  | _ => return ⟨original, false⟩

end MergeJson

end EvoBlue.Source
