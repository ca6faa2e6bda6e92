import K5Vision.Devices.OnvifDiscovery
import K5Vision.Library.Fallible

/-!
# What is in scope in a reply, and what it offers

Every element of a document gets the declarations in scope on it, and a candidate comes from a
`ProbeMatch` alone whose `Types` name a transmitter of the ONVIF network namespace.

## Strategy

The scan of one element's events is told from any state in front of it (`scan_events`): within the
bounds it leaves `current`, `stack` and `depth` as they were, empties `pending`, counts the elements
and records what is in scope on each of them; out of bounds it raises.  This is an induction on the
tree, over an element and a list of elements at once.  The records of the whole document are the
declarations along the paths to its elements (`mem_scopes_of_path`), and as no two elements have one
identity, each is found under its own (`record_apply`).
-/

namespace K5Vision.Devices.OnvifDiscovery

open Library Identity Operator.TimeServers

/-! ## The scan of an element -/

/-- The contexts with some records behind them. -/
def record (contexts : ℕ → Option Bindings) (records : List (ℕ × Bindings)) : ℕ → Option Bindings :=
  records.foldl (fun contexts entry => Function.update contexts entry.1 (some entry.2)) contexts

theorem record_append (contexts : ℕ → Option Bindings) (first second : List (ℕ × Bindings)) :
    record contexts (first ++ second) = record (record contexts first) second :=
  List.foldl_append

theorem record_of_not_mem {records : List (ℕ × Bindings)} {id : ℕ}
    (h : id ∉ records.map Prod.fst) (contexts : ℕ → Option Bindings) :
    record contexts records id = contexts id := by
  induction records generalizing contexts with
  | nil => rfl
  | cons entry records ih =>
      rw [List.map_cons, List.mem_cons, not_or] at h
      have hrest := ih h.2 (Function.update contexts entry.1 (some entry.2))
      rw [Function.update_of_ne h.1] at hrest
      exact hrest

theorem record_apply {records : List (ℕ × Bindings)} (hnodup : (records.map Prod.fst).Nodup)
    {entry : ℕ × Bindings} (h : entry ∈ records) (contexts : ℕ → Option Bindings) :
    record contexts records entry.1 = some entry.2 := by
  induction records generalizing contexts with
  | nil => cases h
  | cons first records ih =>
      rw [List.map_cons, List.nodup_cons] at hnodup
      rcases List.mem_cons.mp h with rfl | hlater
      · have hrest := record_of_not_mem hnodup.1
          (Function.update contexts entry.1 (some entry.2))
        rw [Function.update_self] at hrest
        exact hrest
      · exact ih hnodup.2 hlater _

/-- Behind the events of some elements next to each other. -/
def Scan.after (scan : Scan) (elements : List Element) : Scan :=
  { scan with
    contexts := record scan.contexts (Element.scopesAll scan.current elements)
    root := scan.root.or elements.head?
    count := scan.count + (Element.iterAll elements).length }

def Scan.Fits (scan : Scan) (elements : List Element) : Prop :=
  scan.depth + Element.heightAll elements ≤ 48 ∧
    scan.count + (Element.iterAll elements).length ≤ 8192

instance (scan : Scan) (elements : List Element) : Decidable (scan.Fits elements) :=
  inferInstanceAs (Decidable (_ ∧ _))

theorem scan_declared (declared : List (Text × Text)) (scan : Scan) :
    (declared.map fun declaration => XmlEvent.startNs declaration.1 declaration.2).foldlM
      scanEvent scan = .ok { scan with pending := declared.foldl .declare scan.pending } := by
  induction declared generalizing scan with
  | nil => rfl
  | cons declaration declared ih =>
      rw [List.map_cons, List.foldlM_cons]
      exact ih _

/-- Behind the start of an element whose declarations were read. -/
def Scan.inside (scan : Scan) (element : Element) : Scan where
  contexts := Function.update scan.contexts element.id
    (some (scan.current.override element.declaration))
  current := scan.current.override element.declaration
  stack := scan.current :: scan.stack
  pending := .none
  root := scan.root.or (some element)
  depth := scan.depth + 1
  count := scan.count + 1

theorem fits_singleton (scan : Scan) (element : Element) : scan.Fits [element] ↔
    (scan.depth + 1 ≤ 48 ∧ scan.count + 1 ≤ 8192) ∧
      (scan.inside element).Fits element.children := by
  obtain ⟨id, tag, text, declared, children⟩ := element
  simp only [Scan.Fits, Scan.inside, Element.heightAll, Element.height, Element.iterAll,
    Element.iter, List.append_nil, List.length_cons]
  omega

theorem fits_cons (scan : Scan) (element : Element) (elements : List Element)
    (hdepth : scan.depth ≤ 48) : scan.Fits (element :: elements) ↔
      scan.Fits [element] ∧ (scan.after [element]).Fits elements := by
  simp only [Scan.Fits, Scan.after, Element.heightAll, Element.iterAll, List.append_nil,
    List.length_append]
  omega

theorem after_cons (scan : Scan) (element : Element) (elements : List Element) :
    (scan.after [element]).after elements = scan.after (element :: elements) := by
  have hroot : (scan.root.or (some element)).or elements.head? = scan.root.or (some element) := by
    cases scan.root <;> rfl
  simp only [Scan.after, Element.scopesAll, Element.iterAll, List.append_nil, record_append,
    List.head?_cons, List.length_append, Nat.add_assoc, hroot]

theorem finish_inside (scan : Scan) (element : Element) (hpending : scan.pending = .none) :
    scanEvent ((scan.inside element).after element.children) .finish =
      .ok (scan.after [element]) := by
  obtain ⟨id, tag, text, declared, children⟩ := element
  have hroot : (scan.root.or (some ⟨id, tag, text, declared, children⟩)).or children.head? =
      scan.root.or (some ⟨id, tag, text, declared, children⟩) := by
    cases scan.root <;> rfl
  have hdepth : scan.depth + 1 - 1 = scan.depth := by omega
  have hcount : scan.count + 1 + (Element.iterAll children).length =
      scan.count + ((Element.iterAll children).length + 1) := by omega
  simp only [scanEvent, Scan.inside, Scan.after, Element.scopesAll, Element.scopes,
    Element.iterAll, Element.iter, List.append_nil, List.length_cons, List.head?_cons, hroot,
    hdepth, hcount, hpending]
  rfl

mutual

theorem scan_events : ∀ (element : Element) (scan : Scan), scan.pending = .none →
    scan.depth ≤ 48 → scan.count ≤ 8192 →
    element.events.foldlM scanEvent scan =
      if scan.Fits [element] then .ok (scan.after [element])
      else .error (.onvif "invalid_response")
  | ⟨id, tag, text, declared, children⟩, scan, hpending, hdepth, hcount => by
      have hstart : scanEvent { scan with pending := declared.foldl .declare scan.pending }
          (.start ⟨id, tag, text, declared, children⟩) =
            if 8192 < scan.count + 1 ∨ 48 < scan.depth + 1 then .error (.onvif "invalid_response")
            else .ok (scan.inside ⟨id, tag, text, declared, children⟩) := by
        rw [hpending]
        rfl
      rw [Element.events, List.foldlM_append, scan_declared, ok_bind, List.foldlM_cons,
        hstart, if_congr (fits_singleton scan _) rfl rfl]
      by_cases hroom : 8192 < scan.count + 1 ∨ 48 < scan.depth + 1
      · rw [if_pos hroom, if_neg fun hfits => by omega]
        rfl
      rw [if_neg hroom, ok_bind, List.foldlM_append,
        scan_eventsAll children (scan.inside ⟨id, tag, text, declared, children⟩) rfl
          (show scan.depth + 1 ≤ 48 by omega) (show scan.count + 1 ≤ 8192 by omega)]
      by_cases hfits : (scan.inside ⟨id, tag, text, declared, children⟩).Fits children
      · rw [if_pos hfits, if_pos ⟨⟨by omega, by omega⟩, hfits⟩, ok_bind,
          List.foldlM_cons, finish_inside scan ⟨id, tag, text, declared, children⟩ hpending]
        rfl
      · rw [if_neg hfits, if_neg fun hboth => hfits hboth.2]
        rfl

theorem scan_eventsAll : ∀ (elements : List Element) (scan : Scan), scan.pending = .none →
    scan.depth ≤ 48 → scan.count ≤ 8192 →
    (Element.eventsAll elements).foldlM scanEvent scan =
      if scan.Fits elements then .ok (scan.after elements)
      else .error (.onvif "invalid_response")
  | [], scan, hpending, hdepth, hcount => by
      have hfits : scan.Fits [] := ⟨by simpa [Element.heightAll] using hdepth, hcount⟩
      have hafter : scan.after [] = scan := by
        simp only [Scan.after, Element.scopesAll, record, List.foldl_nil, List.head?_nil,
          Option.or_none, Element.iterAll, List.length_nil, Nat.add_zero]
      rw [if_pos hfits, hafter]
      rfl
  | element :: elements, scan, hpending, hdepth, hcount => by
      rw [Element.eventsAll, List.foldlM_append, scan_events element scan hpending hdepth hcount,
        if_congr (fits_cons scan element elements hdepth) rfl rfl]
      by_cases hfirst : scan.Fits [element]
      · have hroom : scan.depth ≤ 48 ∧ (scan.after [element]).count ≤ 8192 := by
          refine ⟨hdepth, ?_⟩
          exact hfirst.2
        rw [if_pos hfirst, ok_bind,
          scan_eventsAll elements (scan.after [element]) hpending hroom.1 hroom.2, after_cons]
        by_cases hrest : (scan.after [element]).Fits elements
        · rw [if_pos hrest, if_pos ⟨hfirst, hrest⟩]
        · rw [if_neg hrest, if_neg fun hboth => hrest hboth.2]
      · rw [if_neg hfirst, if_neg fun hboth => hfirst hboth.1]
        rfl

end

/-! ## The document of a reply -/

/-- The reader reports a whole document with this root; no two elements have one identity. -/
structure IsDocument (platform : Platform) (body : List UInt8) (root : Element) : Prop where
  events : platform.iterparse body = (root.events, true)
  nodup_ids : (root.iter.map Element.id).Nodup

/-- The reader comes to the end of whole documents alone. -/
def Platform.Reads (platform : Platform) : Prop :=
  ∀ body, (platform.iterparse body).2 = true → ∃ root, IsDocument platform body root

/-- A body passes the checks in front of the parser, and its document is within the bounds. -/
structure Bounded (body : List UInt8) (root : Element) : Prop where
  body : checkBody body = .ok ()
  depth : root.height ≤ 49
  count : root.iter.length ≤ 8192

variable {platform : Platform} {body : List UInt8} {root : Element}

theorem fits_initial : Scan.initial.Fits [root] ↔ root.height ≤ 49 ∧ root.iter.length ≤ 8192 := by
  simp only [Scan.Fits, Scan.initial, Element.heightAll, Element.iterAll, List.append_nil]
  omega

theorem xmlWithNamespaceContexts_eq (hdocument : IsDocument platform body root)
    (hbody : checkBody body = .ok ()) : xmlWithNamespaceContexts platform body =
      if root.height ≤ 49 ∧ root.iter.length ≤ 8192 then
        .ok (root, record (fun _ => none) (root.scopes .none))
      else .error (.onvif "invalid_response") := by
  have hscan := scan_events root Scan.initial rfl (by decide) (by decide)
  rw [if_congr fits_initial rfl rfl] at hscan
  rw [xmlWithNamespaceContexts, hbody, ok_bind, hdocument.events]
  dsimp only
  rw [hscan]
  by_cases hfits : root.height ≤ 49 ∧ root.iter.length ≤ 8192
  · rw [if_pos hfits, if_pos hfits, ok_bind, if_pos rfl]
    simp only [Scan.after, Scan.initial, Element.scopesAll, List.append_nil, List.head?_cons,
      Option.none_or]
  · rw [if_neg hfits, if_neg hfits]
    rfl

theorem record_scopes (hdocument : IsDocument platform body root) {path : List Element}
    {element : Element} (hpath : Element.Path root path element) :
    record (fun _ => none) (root.scopes .none) element.id = some (Element.bound path) := by
  have hnodup : ((root.scopes .none).map Prod.fst).Nodup := by
    rw [Element.map_fst_scopes]
    exact hdocument.nodup_ids
  exact record_apply hnodup (Element.mem_scopes_of_path hpath) _

theorem xmlWithNamespaceContexts_ok (hreads : platform.Reads) {contexts : ℕ → Option Bindings}
    (h : xmlWithNamespaceContexts platform body = .ok (root, contexts)) :
    IsDocument platform body root ∧
      contexts = record (fun _ => none) (root.scopes .none) := by
  obtain ⟨⟨⟩, hbody, hread⟩ := bind_ok h
  obtain ⟨scan, -, hroot⟩ := bind_ok hread
  have hended : (platform.iterparse body).2 = true := by
    by_contra hnot
    rw [if_neg hnot] at hroot
    cases hroot
  obtain ⟨whole, hdocument⟩ := hreads body hended
  rw [xmlWithNamespaceContexts_eq hdocument hbody] at h
  split at h
  · cases h
    exact ⟨hdocument, rfl⟩
  · cases h

/-! ## The names of types -/

/-- A token names something in a namespace: alone, in the default namespace, or behind a colon and
a prefix, where the empty one is that of the default namespace too. -/
def Denotes (scope : Bindings) (token uri name : Text) : Prop :=
  58 ∉ token ∧ token = name ∧ scope [] = some uri ∨
    ∃ front, 58 ∉ front ∧ token = front ++ 58 :: name ∧ scope front = some uri

/-- A token is a qualified name of XML for something in a namespace: its prefix is not empty. -/
def DenotesQName (scope : Bindings) (token uri name : Text) : Prop :=
  58 ∉ token ∧ token = name ∧ scope [] = some uri ∨
    ∃ front, front ≠ [] ∧ 58 ∉ front ∧ token = front ++ 58 :: name ∧ scope front = some uri

def transmitter : Text := codePoints "NetworkVideoTransmitter"

theorem isTransmitterName_iff (scope : Bindings) (token : Text) :
    isTransmitterName scope token = true ↔ Denotes scope token network transmitter := by
  rw [isTransmitterName, Denotes]
  rcases partition_cases 58 token with ⟨hplain, hsplit⟩ | ⟨front, rest, rfl, hfront, hsplit⟩
  · rw [hsplit]
    simp only [Bool.and_eq_true, decide_eq_true_eq]
    constructor
    · rintro ⟨hname, hscope⟩
      exact .inl ⟨hplain, hname, hscope⟩
    · rintro (⟨-, hname, hscope⟩ | ⟨front, -, rfl, -⟩)
      · exact ⟨hname, hscope⟩
      · exact absurd (by simp) hplain
  · rw [hsplit]
    simp only [Bool.and_eq_true, decide_eq_true_eq]
    constructor
    · rintro ⟨rfl, hscope⟩
      exact .inr ⟨front, hfront, rfl, hscope⟩
    rintro (⟨hplain, -, -⟩ | ⟨other, hother, heq, hscope⟩)
    · exact absurd (by simp) hplain
    · have hparts := (partition_append hother transmitter).symm.trans
        (heq ▸ partition_append hfront rest)
      cases hparts
      exact ⟨rfl, hscope⟩

theorem isOnvifVideoTransmitter_iff (item : Element) (contexts : ℕ → Option Bindings) :
    isOnvifVideoTransmitter item contexts = true ↔
      ∃ types, item.children.find? (fun child => localName child = codePoints "Types") =
          some types ∧
        ∃ token ∈ splitWords (types.text.getD []),
          Denotes ((contexts types.id).getD .none) token network transmitter := by
  rw [isOnvifVideoTransmitter]
  cases item.children.find? fun child => localName child = codePoints "Types" with
  | none => simp
  | some types => simp only [List.any_eq_true, isTransmitterName_iff, Option.some.injEq,
      exists_eq_left']

/-! ## Candidates -/

theorem host_of_candidateAt {sender name address : Text} {candidate : Candidate}
    (h : candidateAt platform sender name address = some candidate) :
    ∃ sent, readAddress sender = some sent ∧ candidate.host = writeAddress sent := by
  obtain ⟨parsed, -, h⟩ := Option.bind_eq_some_iff.mp h
  obtain ⟨host, -, h⟩ := Option.bind_eq_some_iff.mp h
  obtain ⟨own, hown, h⟩ := Option.bind_eq_some_iff.mp h
  have hhost : candidate.host = own := by
    split at h
    · cases h
    rename_i heq
    obtain ⟨-, -, h⟩ := Option.bind_eq_some_iff.mp h
    obtain ⟨port, -, h⟩ := Option.bind_eq_some_iff.mp h
    cases h
    exact not_not.mp heq
  rw [hhost]
  unfold ip at hown
  split at hown
  · cases hown
  cases hread : readAddress sender with
  | none =>
      rw [hread] at hown
      cases hown
  | some sent =>
      rw [hread] at hown
      dsimp only at hown
      split at hown
      · cases hown
      · cases hown
        exact ⟨sent, rfl, rfl⟩

/-- A `ProbeMatch` whose first `Types` name an ONVIF transmitter where they stand. -/
def Offers (root item : Element) : Prop :=
  item ∈ root.iter ∧ localName item = codePoints "ProbeMatch" ∧
    ∃ types path, item.children.find? (fun child => localName child = codePoints "Types") =
        some types ∧ Element.Path root path types ∧
      ∃ token ∈ splitWords (types.text.getD []),
        Denotes (Element.bound path) token network transmitter

theorem offers_of_admitted (hdocument : IsDocument platform body root) {item : Element}
    (hitem : item ∈ root.iter) (hname : localName item = codePoints "ProbeMatch")
    (h : isOnvifVideoTransmitter item (record (fun _ => none) (root.scopes .none)) = true) :
    Offers root item := by
  obtain ⟨types, htypes, token, htoken, hdenotes⟩ := (isOnvifVideoTransmitter_iff _ _).mp h
  obtain ⟨path, hpath⟩ := Element.exists_path_of_mem_iter root .root hitem
  have hinside : Element.Path root (types :: path) types :=
    hpath.child (List.mem_of_find?_eq_some htypes)
  rw [record_scopes hdocument hinside, Option.getD_some] at hdenotes
  exact ⟨hitem, hname, types, types :: path, htypes, hinside, token, htoken, hdenotes⟩

section Replies

/-- `<Q:E xmlns:Q="…"><Q:ProbeMatch><Q:Types>token</Q:Types><Q:XAddrs>http://10.0.0.2/</…>`, with
`front` for the prefix `Q`; the empty one is that of the default namespace. -/
def reply (front token : Text) : Element :=
  let tag (name : String) : Text := 123 :: (network ++ 125 :: codePoints name)
  ⟨0, tag "E", none, [(front, network)],
    [⟨1, tag "ProbeMatch", none, [],
      [⟨2, tag "Types", some token, [], []⟩,
        ⟨3, tag "XAddrs", some (codePoints "http://10.0.0.2/"), [], []⟩]⟩]⟩

/-- The document of a reply, with the colon behind its prefix. -/
def replyBody (declared : String) (colon token : Text) : List UInt8 :=
  let named (opening name : String) : Text := codePoints opening ++ colon ++ codePoints name
  (named "<" "E xmlns" ++ codePoints declared ++ codePoints "=\"" ++ network ++
    codePoints "\">" ++ named "<" "ProbeMatch>" ++ named "<" "Types>" ++ token ++
    named "</" "Types>" ++ named "<" "XAddrs>" ++ codePoints "http://10.0.0.2/" ++
    named "</" "XAddrs>" ++ named "</" "ProbeMatch>" ++ named "</" "E>").map UInt8.ofNat

/-- A platform that reads one document. -/
def reading (body : List UInt8) (root : Element) : Platform where
  iterparse other := if other = body then (root.events, true) else ([], false)
  nfkc := id
  decode bytes := bytes.map UInt8.toNat

theorem isDocument_reading (body : List UInt8) {root : Element}
    (hnodup : (root.iter.map Element.id).Nodup) : IsDocument (reading body root) body root :=
  ⟨if_pos rfl, hnodup⟩

theorem reads_reading (body : List UInt8) {root : Element}
    (hnodup : (root.iter.map Element.id).Nodup) : (reading body root).Reads := by
  intro other hended
  by_cases hother : other = body
  · exact ⟨root, hother ▸ isDocument_reading body hnodup⟩
  · have hnone : (reading body root).iterparse other = ([], false) := if_neg hother
    rw [hnone] at hended
    cases hended

/-- The prefix `dn` is bound outside, on the root. -/
def prefixedBody : List UInt8 :=
  replyBody ":dn" (codePoints "dn:") (codePoints "dn:NetworkVideoTransmitter")

def prefixedReply : Element := reply (codePoints "dn") (codePoints "dn:NetworkVideoTransmitter")

def bareBody : List UInt8 := replyBody "" [] (codePoints ":NetworkVideoTransmitter")

def bareReply : Element := reply [] (codePoints ":NetworkVideoTransmitter")

end Replies

end K5Vision.Devices.OnvifDiscovery
