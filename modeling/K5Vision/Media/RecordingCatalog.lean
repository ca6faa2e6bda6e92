import K5Vision.Identity.UuidText
import K5Vision.Library.JsonText
import K5Vision.Media.Coordinators
import Mathlib.Data.String.Basic

/-!
# The recording catalog

`BoundedRecordingCatalog` of `operator_recording_catalog.py`, the loader `_load_recording_pair` of
`operator_playback.py` that playback, timelines and exports open a recording with, and the
`parse_recording_descriptor` that both of them use.

The catalog goes from the names in the recording directory to ids, the loader from an id to the two
names of its pair.  A directory is what `lstat` and `read_bytes` find under its names; names are told
apart by their case, as on a POSIX file system.  What the field types of the model make of the
object that `json.loads` returns is a parameter.
-/

namespace K5Vision.Media.Catalog

open Identity Library

/-! ## Descriptors -/

/-- A descriptor with the ids that it is about. -/
structure StoredDescriptor extends RecordingStreamDescriptor where
  recordingId : Uuid
  sourceId : Uuid

/-- The interpreter and the libraries. -/
structure DescriptorReader where
  unicode : UnicodeTable
  /-- How deep `json.loads` lets arrays and objects be nested. -/
  depth : ℕ
  /-- The values of the fields, when every field has the type that the model declares. -/
  modelFields : List (Text × Json) → Option StoredDescriptor

inductive RecordingDescriptorErrorCode
  | tooLarge
  | malformed
  | unsupportedVersion
  | invalidDescriptor
  deriving DecidableEq, Repr

structure RecordingDescriptorError where
  code : RecordingDescriptorErrorCode
  message : String
  deriving DecidableEq, Repr

inductive ParseFailure
  | error (error : RecordingDescriptorError)
  | recursion
  deriving DecidableEq, Repr

def maxDescriptorBytes : ℕ := 4096

/-- `raw.get("schema_version") != "1"`, negated. -/
def hasSupportedVersion (fields : List (Text × Json)) : Bool :=
  match fields.lookup (codePoints "schema_version") with
  | some (.string text) => text = codePoints "1"
  | _ => false

/-- `RecordingStreamDescriptor.model_validate`; `none` is a `ValidationError`. -/
def modelValidate (reader : DescriptorReader) (fields : List (Text × Json)) :
    Option StoredDescriptor :=
  (reader.modelFields fields).filter fun descriptor => descriptor.validate.toBool

def parseRecordingDescriptor (reader : DescriptorReader) (encoded : ByteArray) :
    Except ParseFailure StoredDescriptor :=
  if maxDescriptorBytes < encoded.size then
    .error (.error ⟨.tooLarge, "recording descriptor exceeds size limit"⟩)
  else
    match String.fromUTF8? encoded with
    | none => .error (.error ⟨.malformed, "recording descriptor is malformed"⟩)
    | some decoded =>
        match loads reader.depth (codePoints decoded) with
        | .error .decodeError => .error (.error ⟨.malformed, "recording descriptor is malformed"⟩)
        | .error .recursion => .error .recursion
        | .ok (.object fields) =>
            if !hasSupportedVersion fields then
              .error (.error ⟨.unsupportedVersion,
                "recording descriptor schema version is unsupported"⟩)
            else
              match modelValidate reader fields with
              | none =>
                  .error (.error ⟨.invalidDescriptor, "recording descriptor failed validation"⟩)
              | some descriptor => .ok descriptor
        | .ok _ => .error (.error ⟨.malformed, "recording descriptor must be a JSON object"⟩)

/-! ## The recording directory -/

/-- A regular file.  `bytes` is `none` when it cannot be read. -/
structure StoredFile where
  size : ℕ
  bytes : Option ByteArray
  size_eq : ∀ read, bytes = some read → read.size = size

inductive Node
  | file (file : StoredFile)
  | other

/-- The entries of the recording directory, in the order in which the system lists them. -/
abbrev RecordingRoot := Table Text Node

/-- `lstat`; `none` is a `FileNotFoundError`, as is everything when the directory is missing. -/
def lstat (root : Option RecordingRoot) (name : Text) : Option Node :=
  root.bind fun entries => entries.find? name

def recordingName (id : Uuid) : Text := id.text ++ codePoints ".k5r"

def descriptorName (id : Uuid) : Text := id.text ++ codePoints ".k5d"

/-! ## The loader -/

/-- How `_load_recording_pair` ends other than by returning. -/
inductive LoadFailure
  | error (code : OperatorPlaybackErrorCode) (message : String)
  | recursion
  deriving DecidableEq, Repr

/-- `_load_recording_pair`; the path that it returns is that of `recordingName`. -/
def loadRecordingPair (reader : DescriptorReader) (root : Option RecordingRoot) (id : Uuid) :
    Except LoadFailure StoredDescriptor :=
  match lstat root (recordingName id), lstat root (descriptorName id) with
  | some (.file recording), some (.file stored) =>
      if ¬ (1 ≤ stored.size ∧ stored.size ≤ maxDescriptorBytes) then
        .error (.error .recordingInvalid "recording metadata is invalid")
      else
        match stored.bytes with
        | none => .error (.error .recordingInvalid "recording metadata is invalid")
        | some bytes =>
            match parseRecordingDescriptor reader bytes with
            | .error .recursion => .error .recursion
            | .error (.error _) =>
                .error (.error .recordingInvalid "recording metadata is invalid")
            | .ok descriptor =>
                if descriptor.recordingId ≠ id ∨ recording.size ≠ descriptor.fileBytes then
                  .error (.error .recordingInvalid "recording metadata is invalid")
                else .ok descriptor
  | some _, some _ => .error (.error .recordingInvalid "recording metadata is unavailable")
  | _, _ => .error (.error .recordingNotFound "recording was not found")

/-! ## The catalog -/

/-- `RecordingCatalogEntry`, with the bounds of its fields. -/
structure RecordingCatalogEntry where
  recordingId : Uuid
  sourceId : Uuid
  startedAtUtc : Datetime
  endedAtUtc : Datetime
  durationMs : ℕ
  packetCount : ℕ
  payloadBytes : ℕ
  fits : durationMs ≤ 7 * 24 * 60 * 60 * 1000 ∧ (1 ≤ packetCount ∧ packetCount ≤ 1000000) ∧
    12 ≤ payloadBytes ∧ payloadBytes ≤ 8 * 1024 * 1024 * 1024

/-- `_entry`; `none` is a `ValidationError`. -/
def entryOf (descriptor : StoredDescriptor) : Option RecordingCatalogEntry :=
  if h : descriptor.durationMs ≤ 7 * 24 * 60 * 60 * 1000 ∧
      (1 ≤ descriptor.packetCount ∧ descriptor.packetCount ≤ 1000000) ∧
        12 ≤ descriptor.payloadBytes ∧ descriptor.payloadBytes ≤ 8 * 1024 * 1024 * 1024 then
    some ⟨descriptor.recordingId, descriptor.sourceId, descriptor.startedAtUtc,
      descriptor.endedAtUtc, descriptor.durationMs, descriptor.packetCount,
      descriptor.payloadBytes, h⟩
  else none

/-- The arguments of the constructor, in the bounds that it checks. -/
structure CatalogConfig where
  maxEntries : ℕ
  maxScanFiles : ℕ
  entries_fit : 1 ≤ maxEntries ∧ maxEntries ≤ 10000
  scan_fits : 1 ≤ maxScanFiles ∧ maxScanFiles ≤ 20000

inductive CandidateFailure
  | rejected
  | recursion
  deriving DecidableEq, Repr

/-- Whether `glob("*.k5d")` finds a name. -/
def isDescriptorName (name : Text) : Bool := (codePoints ".k5d").isSuffixOf name

/-- `path.stem` of a name that ends with `.k5d`: a name that is nothing else is its own stem. -/
def stem (name : Text) : Text := if name.length ≤ 4 then name else name.take (name.length - 4)

/-- The body of the loop of `recover`. -/
def candidate (reader : DescriptorReader) (root : RecordingRoot) (name : Text) :
    Except CandidateFailure RecordingCatalogEntry :=
  match Uuid.ofText reader.unicode (stem name) with
  | none => .error .rejected
  | some id =>
      match root.find? name, root.find? (recordingName id) with
      | some (.file stored), some (.file recording) =>
          if ¬ (1 ≤ stored.size ∧ stored.size ≤ maxDescriptorBytes) then .error .rejected
          else
            match stored.bytes with
            | none => .error .rejected
            | some bytes =>
                match parseRecordingDescriptor reader bytes with
                | .error .recursion => .error .recursion
                | .error (.error _) => .error .rejected
                | .ok descriptor =>
                    if descriptor.recordingId ≠ id ∨ descriptor.packetCount < 1 ∨
                        recording.size ≠ descriptor.fileBytes then .error .rejected
                    else
                      match entryOf descriptor with
                      | none => .error .rejected
                      | some entry => .ok entry
      | _, _ => .error .rejected

/-- What the loop of `recover` has so far. -/
structure CatalogScan where
  recovered : List RecordingCatalogEntry
  rejected : ℕ
  truncated : Bool

/-- The loop of `recover`; `none` is a `RecursionError` that it lets through. -/
def scanCandidates (reader : DescriptorReader) (config : CatalogConfig) (root : RecordingRoot)
    (scan : CatalogScan) : List Text → Option CatalogScan
  | [] => some scan
  | name :: names =>
      if config.maxEntries ≤ scan.recovered.length then some { scan with truncated := true }
      else
        match candidate reader root name with
        | .ok entry =>
            scanCandidates reader config root
              { scan with recovered := scan.recovered ++ [entry] } names
        | .error .rejected =>
            scanCandidates reader config root { scan with rejected := scan.rejected + 1 } names
        | .error .recursion => none

structure RecordingCatalogSnapshot where
  recoveredEntries : ℕ
  rejectedEntries : ℕ
  scanTruncated : Bool
  fits : recoveredEntries ≤ 10000 ∧ rejectedEntries ≤ 20000

/-- What a catalog holds behind `recover`. -/
structure RecordingCatalog where
  entries : List RecordingCatalogEntry
  snapshot : RecordingCatalogSnapshot

/-- The key of the order of the entries, newest first. -/
def notOlder (first second : RecordingCatalogEntry) : Bool :=
  second.startedAtUtc.micros < first.startedAtUtc.micros ||
    second.startedAtUtc.micros = first.startedAtUtc.micros &&
      second.recordingId.str ≤ first.recordingId.str

/-- The names that `glob` lists, as far as `islice` takes them. -/
def limited (config : CatalogConfig) (root : RecordingRoot) : List Text :=
  (root.keys.filter isDescriptorName).take (config.maxScanFiles + 1)

def candidates (config : CatalogConfig) (root : RecordingRoot) : List Text :=
  ((limited config root).take config.maxScanFiles).mergeSort fun first second => first ≤ second

/-- `recover`; `root` is `none` when the recording directory is missing, and the result is `none`
when the call raises. -/
def recover (reader : DescriptorReader) (config : CatalogConfig) (root : Option RecordingRoot) :
    Option RecordingCatalog :=
  match root with
  | none => some ⟨[], ⟨0, 0, false, by decide⟩⟩
  | some root =>
      let truncated : Bool := config.maxScanFiles < (limited config root).length
      match scanCandidates reader config root ⟨[], 0, truncated⟩ (candidates config root) with
      | none => none
      | some scan =>
          let entries := scan.recovered.mergeSort notOlder
          if h : entries.length ≤ 10000 ∧ scan.rejected ≤ 20000 then
            some ⟨entries, ⟨entries.length, scan.rejected, scan.truncated, h⟩⟩
          else none

/-- `page`, from the entries that `recover` has left. -/
def RecordingCatalog.page (catalog : RecordingCatalog) (sourceId : Option Uuid) (limit : ℕ) :
    List RecordingCatalogEntry :=
  match sourceId with
  | none => catalog.entries.take limit
  | some sourceId => (catalog.entries.filter fun entry => entry.sourceId = sourceId).take limit

end K5Vision.Media.Catalog
