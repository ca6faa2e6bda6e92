import K5Vision.Library.IpAddress

/-!
# Splitting addresses of resources

`urlsplit` of Python's `urllib.parse`, and what its result says of user, host and port.  Both rest
on the partition of a text at its first or its last separator (`partition_cases`).
-/

namespace Library

/-! ## Partitions -/

/-- `text.partition(sep)`: what stands in front of the first separator, and behind it. -/
def partition (sep : ℕ) (text : Text) : Text × Option Text :=
  match text.dropWhile fun c => c ≠ sep with
  | [] => (text, none)
  | _ :: rest => (text.takeWhile (fun c => c ≠ sep), some rest)

/-- `text.rpartition(sep)`: what stands in front of the last separator, and behind it. -/
def rpartition (sep : ℕ) (text : Text) : Option Text × Text :=
  match partition sep text.reverse with
  | (behind, front) => (front.map List.reverse, behind.reverse)

variable {sep : ℕ} {text front rest : Text}

theorem partition_of_not_mem (h : sep ∉ text) : partition sep text = (text, none) := by
  have hdrop : text.dropWhile (fun c => c ≠ sep) = [] := by
    rw [List.dropWhile_eq_nil_iff]
    intro c hc
    exact decide_eq_true fun heq => h (heq ▸ hc)
  rw [partition, hdrop]

theorem partition_append (h : sep ∉ front) (rest : Text) :
    partition sep (front ++ sep :: rest) = (front, some rest) := by
  have hplain : ∀ c ∈ front, decide (c ≠ sep) = true := by
    intro c hc
    exact decide_eq_true fun heq => h (heq ▸ hc)
  have hdrop : (front ++ sep :: rest).dropWhile (fun c => c ≠ sep) = sep :: rest := by
    rw [List.dropWhile_append_of_pos hplain, List.dropWhile_cons_of_neg (by simp)]
  have htake : (front ++ sep :: rest).takeWhile (fun c => c ≠ sep) = front := by
    rw [List.takeWhile_append_of_pos hplain, List.takeWhile_cons_of_neg (by simp), List.append_nil]
  rw [partition, hdrop]
  simp only [htake]

theorem partition_cases (sep : ℕ) (text : Text) : sep ∉ text ∧ partition sep text = (text, none) ∨
      ∃ front rest, text = front ++ sep :: rest ∧ sep ∉ front ∧
        partition sep text = (front, some rest) := by
  by_cases h : sep ∈ text
  · obtain ⟨front, rest, rfl, hfront⟩ := List.eq_append_cons_of_mem h
    exact .inr ⟨front, rest, rfl, hfront, partition_append hfront rest⟩
  · exact .inl ⟨h, partition_of_not_mem h⟩

/-! ## `urlsplit` -/

/-- The fields of `SplitResult`. -/
structure SplitUrl where
  scheme : Text
  netloc : Text
  path : Text
  query : Text
  fragment : Text
  deriving DecidableEq, Repr

def isAsciiAlpha (c : ℕ) : Bool := 65 ≤ c && c ≤ 90 || 97 ≤ c && c ≤ 122

def isAsciiDigit (c : ℕ) : Bool := 48 ≤ c && c ≤ 57

def isSchemeChar (c : ℕ) : Bool := isAsciiAlpha c || isAsciiDigit c || [43, 45, 46].contains c

def lowerAscii (text : Text) : Text := text.map fun c => if 65 ≤ c ∧ c ≤ 90 then c + 32 else c

/-- The scheme in front of the first colon, and what is left. -/
def splitScheme (url : Text) : Text × Text :=
  match partition 58 url with
  | (front, some rest) =>
      if front.head?.any isAsciiAlpha && front.all isSchemeChar then (lowerAscii front, rest)
      else ([], url)
  | (_, none) => ([], url)

/-- Where an authority ends: at `/`, `?` and `#`. -/
def endsNetloc (c : ℕ) : Bool := [47, 63, 35].contains c

def bracketedHostAdmitted (host : Text) : Bool :=
  if host.head? = some 118 then
    match partition 46 host.tail with
    | (version, some rest) => version ≠ [] && version.all (fun c => (hexDigitValue c).isSome) &&
        rest ≠ [] && !rest.contains 10
    | (_, none) => false
  else
    match readAddress host with
    | some (.v6 _ _) => true
    | _ => false

def bracketsAdmitted (netloc : Text) : Bool :=
  if !netloc.contains 91 && !netloc.contains 93 then true
  else if !netloc.contains 91 || !netloc.contains 93 then false
  else
    let hostinfo := (rpartition 64 netloc).2
    match partition 91 hostinfo with
    | (before, some bracketed) =>
        match partition 93 bracketed with
        | (host, behind) => before = [] && (behind.getD []).head?.all (fun c => c = 58) &&
            bracketedHostAdmitted host
    | (_, none) => bracketedHostAdmitted (partition 58 hostinfo).1

/-- `_checknetloc`, with the normal form NFKC of Unicode. -/
def netlocNormal (nfkc : Text → Text) (netloc : Text) : Bool :=
  let plain := netloc.filter fun c => !([64, 58, 35, 63].contains c)
  netloc.all (fun c => c < 128) || nfkc plain = plain ||
    [47, 63, 35, 64, 58].all fun c => !(nfkc plain).contains c

def splitTail (scheme netloc url : Text) : SplitUrl :=
  let (url, fragment) := partition 35 url
  let (path, query) := partition 63 url
  ⟨scheme, netloc, path, query.getD [], fragment.getD []⟩

/-- `urlsplit(url)`; `none` is its `ValueError`. -/
def urlsplit (nfkc : Text → Text) (url : Text) : Option SplitUrl :=
  let url := (url.dropWhile fun c => c ≤ 32).filter fun c => !([9, 10, 13].contains c)
  let (scheme, url) := splitScheme url
  if url.take 2 = [47, 47] then
    let netloc := (url.drop 2).takeWhile fun c => !endsNetloc c
    if bracketsAdmitted netloc && netlocNormal nfkc netloc then
      some (splitTail scheme netloc ((url.drop 2).dropWhile fun c => !endsNetloc c))
    else none
  else some (splitTail scheme [] url)

/-! ## Users, hosts and ports -/

namespace SplitUrl

variable (url : SplitUrl)

/-- `_userinfo`: the user, and the password behind a colon. -/
def userInfo : Option (Text × Option Text) := (rpartition 64 url.netloc).1.map (partition 58)

def username : Option Text := url.userInfo.map (·.1)

def password : Option Text := url.userInfo.bind (·.2)

/-- `_hostinfo`: the host, and the text of the port. -/
def hostInfo : Text × Option Text :=
  let hostinfo := (rpartition 64 url.netloc).2
  let (host, port) :=
    match partition 91 hostinfo with
    | (_, some bracketed) =>
        match partition 93 bracketed with
        | (host, behind) => (host, (partition 58 (behind.getD [])).2)
    | (_, none) => partition 58 hostinfo
  (host, port.filter fun text => text ≠ [])

/-- `hostname`: a zone keeps its case. -/
def hostname : Text :=
  match partition 37 url.hostInfo.1 with
  | (host, none) => lowerAscii host
  | (host, some zone) => lowerAscii host ++ 37 :: zone

/-- `port`; `none` is its `ValueError`. -/
def port : Option (Option ℕ) :=
  match url.hostInfo.2 with
  | none => some none
  | some text =>
      if text.all isAsciiDigit then
        let port := numberOf 10 (text.filterMap hexDigitValue)
        if port ≤ 65535 then some (some port) else none
      else none

end SplitUrl

end Library
