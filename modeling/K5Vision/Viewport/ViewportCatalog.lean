import K5Vision.Library.JsonWriter
import K5Vision.Library.Utf8
import K5Vision.Viewport.ClientProjection

/-!
# The catalog of viewports

`media/viewport_catalog.py`: a catalog of layouts under view identifiers, its serializer and its
parser.

The models of pydantic write and read themselves.  Their JSON is written here field by field; a
text is read by pydantic's reader of JSON (`ModelReader.read`), and what it makes of an integer
that is not written in plain digits is its own (`ModelReader.lax`).
-/

namespace K5Vision.Viewport

open Library

def maxCatalogViews : ℕ := 64

def maxCatalogBytes : ℕ := 262144

inductive ViewportCatalogErrorCode
  | invalidConfiguration
  | invalidPayload
  | payloadLimit
  | viewNotFound
  | incompatibleLayout
  deriving DecidableEq, Repr

structure ViewportCatalogError where
  code : ViewportCatalogErrorCode
  message : String
  deriving DecidableEq, Repr

structure ViewportCatalogEntry where
  viewId : ℕ
  layout : ViewportLayout
  id_lt : viewId < maxCatalogViews
  deriving DecidableEq

/-- The bound of `views`, and `validate_unique_views`. -/
def viewsFit (views : List ViewportCatalogEntry) : Prop :=
  views.length ≤ maxCatalogViews ∧ (views.map ViewportCatalogEntry.viewId).Nodup

instance (views : List ViewportCatalogEntry) : Decidable (viewsFit views) :=
  inferInstanceAs (Decidable (_ ∧ _))

structure ViewportCatalog where
  views : List ViewportCatalogEntry
  fits : viewsFit views
  deriving DecidableEq

/-! ## The constructors of the models -/

def ViewportPlacement.make (logicalSlot : ℤ) (geometry : ViewportGeometry) :
    Option ViewportPlacement :=
  if h : 0 ≤ logicalSlot ∧ logicalSlot.toNat ≤ maxSlot then
    some ⟨logicalSlot.toNat, geometry, h.2⟩
  else none

def ViewportCatalogEntry.make (viewId : ℤ) (layout : ViewportLayout) :
    Option ViewportCatalogEntry :=
  if h : 0 ≤ viewId ∧ viewId.toNat < maxCatalogViews then some ⟨viewId.toNat, layout, h.2⟩
  else none

def ViewportCatalog.make (views : List ViewportCatalogEntry) : Option ViewportCatalog :=
  if h : viewsFit views then some ⟨views, h⟩ else none

/-! ## Writing -/

/-- The fields that name the version; they are left out with the other defaults. -/
def versionFields (defaults : Bool) : List (Text × Json) :=
  if defaults then [(codePoints "schema_version", .string (codePoints "1"))] else []

def numberField (name : String) (value : ℤ) : Text × Json :=
  (codePoints name, .number (decimal value.toNat))

/-- `z_index`, whose default is zero. -/
def zIndexFields (defaults : Bool) (zIndex : ℤ) : List (Text × Json) :=
  if defaults ∨ zIndex ≠ 0 then [numberField "z_index" zIndex] else []

def ViewportGeometry.json (defaults : Bool) (geometry : ViewportGeometry) : Json :=
  .object (versionFields defaults ++ [numberField "x" geometry.x, numberField "y" geometry.y,
    numberField "width" geometry.width, numberField "height" geometry.height] ++
    zIndexFields defaults geometry.zIndex)

def ViewportPlacement.json (defaults : Bool) (placement : ViewportPlacement) : Json :=
  .object (versionFields defaults ++ [numberField "logical_slot" placement.logicalSlot,
    (codePoints "geometry", placement.geometry.json defaults)])

def ViewportLayout.json (defaults : Bool) (layout : ViewportLayout) : Json :=
  .object (versionFields defaults ++
    [(codePoints "placements", .array (layout.placements.map (ViewportPlacement.json defaults)))])

def ViewportCatalogEntry.json (defaults : Bool) (entry : ViewportCatalogEntry) : Json :=
  .object (versionFields defaults ++ [numberField "view_id" entry.viewId,
    (codePoints "layout", entry.layout.json defaults)])

def ViewportCatalog.json (defaults : Bool) (catalog : ViewportCatalog) : Json :=
  .object (versionFields defaults ++
    [(codePoints "views", .array (catalog.views.map (ViewportCatalogEntry.json defaults)))])

def ViewportCatalog.dump (catalog : ViewportCatalog) : Text := (catalog.json true).write

/-! ## Reading -/

structure ModelReader where
  read : Text → Option Json
  lax : Json → Option ℤ

def ModelReader.Reads (reader : ModelReader) : Prop :=
  ∀ json : Json, json.Readable 200 → reader.read json.write = some json

def ModelReader.integer (reader : ModelReader) : Json → Option ℤ
  | .number literal =>
      match naturalOf literal with
      | some n => some n
      | none => reader.lax (.number literal)
  | json => reader.lax json

def modelFields (names : List String) : Json → Option (List (Text × Json))
  | .object fields =>
      if fields.all fun field => (names.map codePoints).contains field.1 then some fields else none
  | _ => none

/-- A field; the last one with a name counts. -/
def fieldOf (name : String) (fields : List (Text × Json)) : Option Json :=
  (fields.reverse.find? fun field => field.1 = codePoints name).map Prod.snd

def readVersion (fields : List (Text × Json)) : Option Unit :=
  match fieldOf "schema_version" fields with
  | none => some ()
  | some (.string text) => if text = codePoints "1" then some () else none
  | some _ => none

def readArray {α : Type} (readItem : Json → Option α) : Json → Option (List α)
  | .array items => items.mapM readItem
  | _ => none

section Readers

variable (reader : ModelReader)

def readGeometry (json : Json) : Option ViewportGeometry := do
  let fields ← modelFields ["schema_version", "x", "y", "width", "height", "z_index"] json
  readVersion fields
  let x ← (fieldOf "x" fields).bind reader.integer
  let y ← (fieldOf "y" fields).bind reader.integer
  let width ← (fieldOf "width" fields).bind reader.integer
  let height ← (fieldOf "height" fields).bind reader.integer
  let zIndex ← ((fieldOf "z_index" fields).map reader.integer).getD (some 0)
  ViewportGeometry.make x y width height zIndex

def readPlacement (json : Json) : Option ViewportPlacement := do
  let fields ← modelFields ["schema_version", "logical_slot", "geometry"] json
  readVersion fields
  let logicalSlot ← (fieldOf "logical_slot" fields).bind reader.integer
  let geometry ← (fieldOf "geometry" fields).bind (readGeometry reader)
  ViewportPlacement.make logicalSlot geometry

def readLayout (json : Json) : Option ViewportLayout := do
  let fields ← modelFields ["schema_version", "placements"] json
  readVersion fields
  let placements ← (fieldOf "placements" fields).bind (readArray (readPlacement reader))
  ViewportLayout.make placements

def readEntry (json : Json) : Option ViewportCatalogEntry := do
  let fields ← modelFields ["schema_version", "view_id", "layout"] json
  readVersion fields
  let viewId ← (fieldOf "view_id" fields).bind reader.integer
  let layout ← (fieldOf "layout" fields).bind (readLayout reader)
  ViewportCatalogEntry.make viewId layout

/-- The catalog that a value describes; without `views` it is empty. -/
def readCatalog (json : Json) : Option ViewportCatalog := do
  let fields ← modelFields ["schema_version", "views"] json
  readVersion fields
  let views ← ((fieldOf "views" fields).map (readArray (readEntry reader))).getD (some [])
  ViewportCatalog.make views

end Readers

def validateJson (reader : ModelReader) (text : Text) : Option ViewportCatalog :=
  (reader.read text).bind (readCatalog reader)

/-! ## Catalogs and their bytes -/

def sortViews (entries : List ViewportCatalogEntry) : List ViewportCatalogEntry :=
  entries.mergeSort fun a b => a.viewId ≤ b.viewId

def entriesInvalid : ViewportCatalogError :=
  ⟨.invalidConfiguration, "viewport catalog entries are invalid"⟩

def payloadExceedsLimit : ViewportCatalogError :=
  ⟨.payloadLimit, "viewport catalog payload exceeds limit"⟩

def payloadInvalid : ViewportCatalogError :=
  ⟨.invalidPayload, "viewport catalog payload is invalid"⟩

def buildViewportCatalog (entries : List ViewportCatalogEntry) :
    Except ViewportCatalogError ViewportCatalog :=
  if maxCatalogViews < entries.length then .error entriesInvalid
  else
    match ViewportCatalog.make (sortViews entries) with
    | none => .error entriesInvalid
    | some catalog => .ok catalog

inductive CatalogFailure
  | catalog (error : ViewportCatalogError)
  | unencodable
  deriving DecidableEq, Repr

def serializeViewportCatalog (catalog : ViewportCatalog) : Except CatalogFailure (List UInt8) :=
  match buildViewportCatalog catalog.views with
  | .error error => .error (.catalog error)
  | .ok canonical =>
      match encodeUtf8 canonical.dump with
      | none => .error .unencodable
      | some payload =>
          if maxCatalogBytes < payload.length then .error (.catalog payloadExceedsLimit)
          else .ok payload

inductive Payload
  | text (text : Text)
  | bytes (bytes : List UInt8)

/-- `parse_viewport_catalog` of what is encoded. -/
def parseEncoded (reader : ModelReader) (encoded : List UInt8) :
    Except CatalogFailure ViewportCatalog :=
  if maxCatalogBytes < encoded.length then .error (.catalog payloadExceedsLimit)
  else
    match (decodeUtf8 encoded).bind (validateJson reader) with
    | none => .error (.catalog payloadInvalid)
    | some catalog => (buildViewportCatalog catalog.views).mapError .catalog

def parseViewportCatalog (reader : ModelReader) : Payload → Except CatalogFailure ViewportCatalog
  | .bytes encoded => parseEncoded reader encoded
  | .text text =>
      match encodeUtf8 text with
      | none => .error .unencodable
      | some encoded => parseEncoded reader encoded

end K5Vision.Viewport
