import K5Vision.Library.PercentText
import K5Vision.Library.UrlSplit
import K5Vision.Library.Utf8
import K5Vision.Library.XmlTree
import K5Vision.Operator.TimeServers
import Mathlib.Data.List.Infix

/-!
# Replies to a discovery of cameras

`_xml_with_namespace_contexts`, `_is_onvif_video_transmitter` and `_discovery_candidates` of
`operator_onvif.py`.  A reply comes from any device on the network.  Its document is read once as a
stream of events, and what is in scope is put together on the way: the declarations that await
their element (`pending`), those in scope (`current`), and those to go back to (`stack`).

The reader of documents, the normal form NFKC and the decoder with replacements belong to the
platform.
-/

namespace K5Vision.Devices.OnvifDiscovery

open Library Identity Operator.TimeServers

def network : Text := codePoints "http://www.onvif.org/ver10/network/wsdl"

def maxResponse : ℕ := 1024 * 1024

inductive DiscoveryFailure
  | onvif (code : String)
  | undecodable
  | malformed
  /-- The `IndexError` of `stack.pop()`. -/
  | unbalanced
  deriving DecidableEq, Repr

/-- What the platform gives: the events of a document and whether it came to its end, the normal
form of texts, and a decoder that replaces what is not UTF-8. -/
structure Platform where
  iterparse : List UInt8 → List XmlEvent × Bool
  nfkc : Text → Text
  decode : List UInt8 → Text

/-! ## Texts -/

/-- `\s` and `str.isspace` of a code point. -/
def isSpaceCode (c : ℕ) : Bool := isSpace (Char.ofNat c)

def splitWords (text : Text) : List Text := (text.splitOnP isSpaceCode).filter (· ≠ [])

/-- `bytes.decode("utf-8-sig")`. -/
def decodeSig (body : List UInt8) : Option Text :=
  decodeUtf8 (if body.take 3 = [0xef, 0xbb, 0xbf] then body.drop 3 else body)

/-- A letter without its case, as `re.IGNORECASE` compares it; two letters `i` are not in ASCII. -/
def foldLetter (c : ℕ) : ℕ :=
  if 65 ≤ c ∧ c ≤ 90 then c + 32 else if c = 0x130 ∨ c = 0x131 then 105 else c

/-- `<!\s*(?:DOCTYPE|ENTITY)`, at the start of a text. -/
def startsDeclaration (text : Text) : Bool :=
  if text.take 2 = [60, 33] then
    let name := ((text.drop 2).dropWhile isSpaceCode).map foldLetter
    name.take 7 = codePoints "doctype" || name.take 6 = codePoints "entity"
  else false

/-- `re.search` for a declaration of a document type or an entity. -/
def hasDeclaration : Text → Bool
  | [] => false
  | c :: text => startsDeclaration (c :: text) || hasDeclaration text

def checkBody (body : List UInt8) : Except DiscoveryFailure Unit :=
  if maxResponse < body.length ∨ 0 ∈ body then .error (.onvif "invalid_response")
  else
    match decodeSig body with
    | none => .error .undecodable
    | some text => if hasDeclaration text then .error (.onvif "invalid_response") else .ok ()

/-! ## The scan -/

/-- The variables of `_xml_with_namespace_contexts`. -/
structure Scan where
  contexts : ℕ → Option Bindings
  current : Bindings
  stack : List Bindings
  pending : Bindings
  root : Option Element
  depth : ℤ
  count : ℕ

def Scan.initial : Scan := ⟨fun _ => none, .none, [], .none, none, -1, 0⟩

def scanEvent (scan : Scan) : XmlEvent → Except DiscoveryFailure Scan
  | .startNs name uri => .ok { scan with pending := scan.pending.declare (name, uri) }
  | .start element =>
      if 8192 < scan.count + 1 ∨ 48 < scan.depth + 1 then .error (.onvif "invalid_response")
      else
        let current := scan.current.override scan.pending
        .ok { contexts := Function.update scan.contexts element.id (some current)
              current
              stack := scan.current :: scan.stack
              pending := .none
              root := scan.root.or (some element)
              depth := scan.depth + 1
              count := scan.count + 1 }
  | .finish =>
      match scan.stack with
      | [] => .error .unbalanced
      | current :: stack => .ok { scan with depth := scan.depth - 1, current, stack }

def xmlWithNamespaceContexts (platform : Platform) (body : List UInt8) :
    Except DiscoveryFailure (Element × (ℕ → Option Bindings)) := do
  checkBody body
  let scan ← (platform.iterparse body).1.foldlM scanEvent Scan.initial
  if (platform.iterparse body).2 then
    match scan.root with
    | none => .error (.onvif "invalid_response")
    | some root => .ok (root, scan.contexts)
  else .error .malformed

/-! ## Candidates -/

def localName (element : Element) : Text := (rpartition 125 element.tag).2

def textOf (element : Element) (name : Text) : Text :=
  match element.iter.find? fun item => localName item = name with
  | none => []
  | some item => stripText (item.text.getD [])

def isTransmitterName (namespaces : Bindings) (qname : Text) : Bool :=
  match partition 58 qname with
  | (front, some localPart) =>
      localPart = codePoints "NetworkVideoTransmitter" && namespaces front = some network
  | (localPart, none) =>
      localPart = codePoints "NetworkVideoTransmitter" && namespaces [] = some network

def isOnvifVideoTransmitter (item : Element) (contexts : ℕ → Option Bindings) : Bool :=
  match item.children.find? fun child => localName child = codePoints "Types" with
  | none => false
  | some types =>
      (splitWords (types.text.getD [])).any
        (isTransmitterName ((contexts types.id).getD .none))

/-- `_ip`; `none` is its `OnvifError` or `ValueError`. -/
def ip (value : Text) : Option Text :=
  if 37 ∈ value then none
  else
    match readAddress value with
    | none => none
    | some address => if rejected address then none else some (writeAddress address)

def label (value fallback : Text) : Text :=
  let value := stripText value
  if value = [] ∨ 128 < value.length ∨ codePoints "://" <:+: value ∨ 64 ∈ value then fallback
  else if value.any fun c => c < 32 || c = 127 then fallback
  else value

def defaultPort (parsed : SplitUrl) : ℕ := if parsed.scheme = codePoints "https" then 443 else 80

/-- `_endpoint`; `none` is its `OnvifError` or `ValueError`. -/
def endpoint (platform : Platform) (value host : Text) : Option Text :=
  if value = [] ∨ 4096 < value.length ∨ (value.any fun c => c ≤ 32 || c = 127) then none
  else do
    let parsed ← urlsplit platform.nfkc value
    if ¬ (parsed.scheme = codePoints "http" ∨ parsed.scheme = codePoints "https") then none
    else
      let own ← ip parsed.hostname
      if own ≠ host ∨ parsed.username.isSome ∨ parsed.password.isSome ∨ parsed.fragment ≠ [] then
        none
      else
        let port ← parsed.port
        let port := port.getD (defaultPort parsed)
        if ¬ (1 ≤ port ∧ port ≤ 65535) ∨ hasBareEscape value then none else some value

structure Candidate where
  host : Text
  port : ℕ
  secure : Bool
  name : Text
  deriving DecidableEq, Repr

/-- One turn of the loop over `XAddrs`; `none` continues with the next. -/
def candidateAt (platform : Platform) (sender name address : Text) : Option Candidate := do
  let parsed ← urlsplit platform.nfkc address
  let host ← ip parsed.hostname
  let own ← ip sender
  if host ≠ own then none
  else
    let _ ← endpoint platform address host
    let port ← parsed.port
    some { host
           port := if port.getD 0 = 0 then defaultPort parsed else port.getD 0
           secure := parsed.scheme = codePoints "https"
           name := label name host }

/-- The name in the first scope that has one. -/
def scopeName (platform : Platform) (item : Element) : Text :=
  let named (scope : Text) : Option Text :=
    (scope.dropPrefix? (codePoints "onvif://www.onvif.org/name/")).map fun rest =>
      unquote platform.decode rest
  ((splitWords (textOf item (codePoints "Scopes"))).findSome? named).getD []

def candidatesOf (platform : Platform) (sender : Text) (item : Element) : List Candidate :=
  ((splitWords (textOf item (codePoints "XAddrs"))).take 8).filterMap
    (candidateAt platform sender (scopeName platform item))

def discoveryCandidates (platform : Platform) (body : List UInt8) (sender : Text) :
    Except DiscoveryFailure (List Candidate) := do
  let (root, contexts) ← xmlWithNamespaceContexts platform body
  let matched := root.iter.filter fun item => localName item = codePoints "ProbeMatch"
  let admitted := matched.filter fun item => isOnvifVideoTransmitter item contexts
  return admitted.flatMap (candidatesOf platform sender)

end K5Vision.Devices.OnvifDiscovery
