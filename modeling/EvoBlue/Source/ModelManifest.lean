import Mathlib.Data.List.Nodup
import EvoBlue.Source.ModelStore

/-!
# Model manifests

`asr/manifest.py`: what a manifest declares of a model version, with the checks of its
validators that the installer relies on as fields, and the gate `is_releasable`. The
catalog of approved sources is a parameter.
-/

namespace EvoBlue.Source

inductive SourceKind where
  | chinaPrimary
  | upstream
  | cdn
  deriving DecidableEq, Repr

def SourceKind.value : SourceKind → String
  | .chinaPrimary => "china-primary"
  | .upstream => "upstream"
  | .cdn => "cdn"

structure DownloadSource where
  url : String
  kind : SourceKind
  sha256 : String
  sizeBytes : Nat
  positive : 0 < sizeBytes
  deriving DecidableEq

/-! ## File names -/

def isSlugChar (c : Char) : Bool := c.isAlphanum || c = '.' || c = '_' || c = '-'

/-- `_SLUG_RE.match`; `$` matches before a last newline too. -/
def isSlug (part : List Char) : Bool :=
  let line := if part.getLast? = some '\n' then part.dropLast else part
  match line with
  | [] => false
  | first :: rest => first.isAlphanum && rest.all isSlugChar

/-- `value.replace("\\", "/").split("/")`. -/
def pathParts (value : List Char) : List (List Char) :=
  (value.map fun c => if c = '\\' then '/' else c).splitOn '/'

/-- What `_validate_relative_path` lets through; a slug has neither of the names `.` and `..`. -/
def isRelativePath (value : List Char) : Bool :=
  decide ((pathParts value).length ≤ 8) && (pathParts value).all isSlug

/-- One declared file; the validator has put `/` for `\` in its paths. -/
structure ModelFile where
  name : String
  sourcePath : Option String := none
  sizeBytes : Nat
  sha256 : String
  positive : 0 < sizeBytes
  relative : isRelativePath name.toList = true
  normalized : '\\' ∉ name.toList
  deriving DecidableEq

/-! ## Manifests -/

inductive Redistribution where
  | upstreamOnly
  | mirrorApproved
  | blocked
  deriving DecidableEq, Repr

inductive ArchiveFormat where
  | tarBz2
  | tarGz
  | zip
  | raw
  | fileSet
  deriving DecidableEq, Repr

/-- A validated `ModelManifest`. -/
structure ModelManifest where
  modelId : String
  version : String
  compressedSizeBytes : Nat
  installedSizeBytes : Nat
  redistribution : Redistribution
  archiveFormat : ArchiveFormat
  sources : List DownloadSource
  files : List ModelFile
  sourced : sources ≠ []
  filed : files ≠ []
  sourceSizes : ∀ source ∈ sources, source.sizeBytes = compressedSizeBytes
  sourceDigests : ∀ source ∈ sources, ∀ other ∈ sources, source.sha256 = other.sha256
  installedSize : (files.map (·.sizeBytes)).sum = installedSizeBytes
  fileNames : (files.map (·.name)).Nodup
  fileSetPaths : archiveFormat = .fileSet → ∀ file ∈ files, file.sourcePath.isSome = true
  fileSetSize : archiveFormat = .fileSet → compressedSizeBytes = installedSizeBytes
  upstream : redistribution = .upstreamOnly → ∀ source ∈ sources, source.kind = .upstream

namespace ModelManifest

variable (manifest : ModelManifest)

def isFileSet : Bool := manifest.archiveFormat = .fileSet

/-- `manifest.sources[0]`. -/
def primary : DownloadSource := manifest.sources.head manifest.sourced

/-- The declared file of this name. -/
def file (name : String) : Option ModelFile := manifest.files.find? fun file => file.name = name

end ModelManifest

structure ApprovedSource where
  url : String
  kind : SourceKind
  sha256 : String
  sizeBytes : Nat
  deriving DecidableEq

def DownloadSource.approval (source : DownloadSource) : ApprovedSource :=
  ⟨source.url, source.kind, source.sha256, source.sizeBytes⟩

/-- `APPROVED_CATALOG.get((model_id, version))`. -/
abbrev ApprovedCatalog := String → String → Option (List ApprovedSource)

def isReleasable (catalog : ApprovedCatalog) (manifest : ModelManifest) : Bool :=
  manifest.redistribution ≠ .blocked &&
    match catalog manifest.modelId manifest.version with
    | none => false
    | some approved => manifest.sources.all fun source => approved.contains source.approval

end EvoBlue.Source
