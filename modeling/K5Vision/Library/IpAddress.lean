import K5Vision.Library.Texts
import Mathlib.Data.List.Induction

/-!
# Addresses and their texts

`IPv4Address` and `IPv6Address` of Python's `ipaddress` module: what their constructors read, and
what `str` writes.  A text of version 6 may leave out one run of zero groups, may end in the text
of an address of version 4 and may name a scope; `str` leaves out the longest run, in lower case.
Reading what was written gives the address back (`readAddress_writeAddress`).
-/

namespace Library

/-! ## Version 4 -/

def readOctet (text : Text) : Option ℕ :=
  if text = [] ∨ text.any (fun c => c < 48 || 57 < c) ∨ 3 < text.length ∨
      text ≠ [48] ∧ text.head? = some 48 then none
  else
    let value := numberOf 10 (text.filterMap hexDigitValue)
    if 255 < value then none else some value

def readV4 (text : Text) : Option (BitVec 32) :=
  if 47 ∈ text then none
  else
    match (text.splitOn 46).mapM readOctet with
    | none => none
    | some octets => if octets.length ≠ 4 then none else some (BitVec.ofNat 32 (numberOf 256 octets))

def writeOctet (octet : ℕ) : Text := (shortest (digitsOf 10 3 octet)).map hexCode

def writeV4 (value : BitVec 32) : Text :=
  [46].intercalate ((digitsOf 256 4 value.toNat).map writeOctet)

/-! ## Version 6 -/

def readHextet (text : Text) : Option ℕ :=
  if text = [] ∨ text.any (fun c => (hexDigitValue c).isNone) ∨ 4 < text.length then none
  else some (numberOf 16 (text.filterMap hexDigitValue))

/-- `"%x"` of a group. -/
def writeHextet (hextet : ℕ) : Text := (shortest (digitsOf 16 4 hextet)).map hexCode

/-- The groups before and behind the ones that are left out. -/
def readSkipped (high low : List Text) : Option ℕ :=
  if 8 ≤ high.length + low.length then none
  else
    match high.mapM readHextet, low.mapM readHextet with
    | some high, some low =>
        some (numberOf 65536 (high ++ List.replicate (8 - (high.length + low.length)) 0 ++ low))
    | _, _ => none

/-- The parts of a text between its colons, without the first and the last one.  An empty part
stands for the groups that are left out; there may be one, and the ends may be empty only beside
it. -/
def readParts (first : Text) (interior : List Text) (last : Text) : Option ℕ :=
  match interior.dropWhile fun part => part ≠ [] with
  | [] =>
      if interior.length ≠ 6 then none
      else ((first :: interior ++ [last]).mapM readHextet).map (numberOf 65536)
  | _ :: after =>
      let before := interior.takeWhile fun part => part ≠ []
      if [] ∈ after ∨ first = [] ∧ before ≠ [] ∨ last = [] ∧ after ≠ [] then none
      else
        readSkipped (if first = [] then [] else first :: before)
          (if last = [] then [] else after ++ [last])

/-- An ending in the text of an address of version 4, as two groups. -/
def convertSuffix (parts : List Text) : Option (List Text) :=
  match parts.getLast? with
  | none => none
  | some last =>
      if 46 ∈ last then
        (readV4 last).map fun value =>
          parts.dropLast ++ [writeHextet (value.toNat / 65536), writeHextet (value.toNat % 65536)]
      else some parts

/-- `_ip_int_from_string` of version 6. -/
def readGroups (text : Text) : Option ℕ :=
  let parts := text.splitOn 58
  if parts.length < 3 then none
  else
    match convertSuffix parts with
    | none => none
    | some parts =>
        if 9 < parts.length then none
        else
          match parts with
          | first :: rest =>
              match rest.getLast? with
              | some last => readParts first rest.dropLast last
              | none => none
          | [] => none

/-- What may stand behind `%`. -/
structure Scope where
  text : Text
  valid : text ≠ [] ∧ 37 ∉ text ∧ 47 ∉ text
  deriving DecidableEq

/-- An address of either version. -/
inductive IpAddress
  | v4 (value : BitVec 32)
  | v6 (value : BitVec 128) (scope : Option Scope)
  deriving DecidableEq

def readV6 (text : Text) : Option IpAddress :=
  if 47 ∈ text then none
  else
    match text.dropWhile fun c => c ≠ 37 with
    | [] => (readGroups text).map fun value => .v6 (BitVec.ofNat 128 value) none
    | _ :: scope =>
        if h : scope ≠ [] ∧ 37 ∉ scope ∧ 47 ∉ scope then
          (readGroups (text.takeWhile fun c => c ≠ 37)).map fun value =>
            .v6 (BitVec.ofNat 128 value) (some ⟨scope, h⟩)
        else none

def readAddress (text : Text) : Option IpAddress :=
  match readV4 text with
  | some value => some (.v4 value)
  | none => readV6 text

/-- The state of `_compress_hextets`: the longest run of zeros so far and the current one. -/
structure RunScan where
  bestStart : ℕ
  bestLength : ℕ
  start : ℕ
  length : ℕ

/-- One turn of its loop. -/
def scanRun (scan : RunScan) (hextet : ℕ × ℕ) : RunScan :=
  if hextet.1 = 0 then
    let start := if scan.length = 0 then hextet.2 else scan.start
    if scan.bestLength < scan.length + 1 then
      ⟨start, scan.length + 1, start, scan.length + 1⟩
    else { scan with start := start, length := scan.length + 1 }
  else { scan with start := 0, length := 0 }

def longestRun (hextets : List ℕ) : RunScan := hextets.zipIdx.foldl scanRun ⟨0, 0, 0, 0⟩

def compressHextets (hextets : List ℕ) : List Text :=
  let scan := longestRun hextets
  let texts := hextets.map writeHextet
  if 1 < scan.bestLength then
    let last := scan.bestStart + scan.bestLength
    let behind := texts.drop last ++ if last = texts.length then [[]] else []
    let skipped := texts.take scan.bestStart ++ [] :: behind
    if scan.bestStart = 0 then [] :: skipped else skipped
  else texts

/-- `_string_from_ip_int` of version 6. -/
def writeGroups (value : BitVec 128) : Text :=
  [58].intercalate (compressHextets (digitsOf 65536 8 value.toNat))

def writeAddress : IpAddress → Text
  | .v4 value => writeV4 value
  | .v6 value none => writeGroups value
  | .v6 value (some scope) => writeGroups value ++ 37 :: scope.text

example : writeAddress (.v6 0xfe800000000000000000000000000001 none) = codePoints "fe80::1" := by
  decide +kernel

/-! ## Reading groups back -/

theorem mapM_map_of_inverse {α β : Type*} {write : α → β} {read : β → Option α} {l : List α}
    (h : ∀ a ∈ l, read (write a) = some a) : (l.map write).mapM read = some l := by
  induction l with
  | nil => rfl
  | cons a l ih =>
      rw [List.forall_mem_cons] at h
      rw [List.map_cons, List.mapM_cons, h.1, ih h.2]
      rfl

theorem readOctet_writeOctet : ∀ octet < 256, readOctet (writeOctet octet) = some octet := by
  decide +kernel

theorem mem_writeHextet {hextet c : ℕ} (h : c ∈ writeHextet hextet) : ∃ d < 16, c = hexCode d := by
  obtain ⟨digit, hdigit, rfl⟩ := List.mem_map.mp h
  rcases mem_shortest hdigit with rfl | hmem
  · exact ⟨0, by decide, rfl⟩
  · exact ⟨digit, digitsOf_lt (by decide) digit hmem, rfl⟩

theorem writeHextet_ne_nil (hextet : ℕ) : writeHextet hextet ≠ [] := by
  simp [writeHextet, shortest_ne_nil]

theorem readHextet_writeHextet {hextet : ℕ} (h : hextet < 65536) :
    readHextet (writeHextet hextet) = some hextet := by
  have hdigits : ∀ digit ∈ shortest (digitsOf 16 4 hextet), digit < 16 := by
    intro digit hdigit
    rcases mem_shortest hdigit with rfl | hmem
    · decide
    · exact digitsOf_lt (by decide) digit hmem
  have hlength : (writeHextet hextet).length ≤ 4 := by
    have hne : digitsOf 16 4 hextet ≠ [] := List.length_pos_iff.mp (by simp)
    simpa [writeHextet] using length_shortest_le hne
  have hhex : ¬ (writeHextet hextet).any (fun c => (hexDigitValue c).isNone) := by
    rw [Bool.not_eq_true, List.any_eq_false]
    intro c hc
    obtain ⟨digit, hdigit, rfl⟩ := mem_writeHextet hc
    simp [hexDigitValue_hexCode digit hdigit]
  have hvalue : numberOf 16 ((writeHextet hextet).filterMap hexDigitValue) = hextet := by
    rw [writeHextet, filterMap_hexCode hdigits, numberOf_shortest, numberOf_digitsOf,
      Nat.mod_eq_of_lt (by simpa using h)]
  rw [readHextet, if_neg, hvalue]
  exact not_or.mpr ⟨writeHextet_ne_nil hextet, not_or.mpr ⟨hhex, by omega⟩⟩

/-! ## Version 4 -/

theorem mem_writeOctet : ∀ octet < 256, ∀ c ∈ writeOctet octet, 48 ≤ c ∧ c ≤ 57 := by
  decide +kernel

/-- The texts of version 4 have digits and points, and are read back. -/
theorem readV4_writeV4 (value : BitVec 32) : readV4 (writeV4 value) = some value := by
  have hoctets : ∀ octet ∈ digitsOf 256 4 value.toNat, octet < 256 := digitsOf_lt (by decide)
  have hparts : ∀ part ∈ (digitsOf 256 4 value.toNat).map writeOctet,
      ∀ c ∈ part, 48 ≤ c ∧ c ≤ 57 := by
    intro part hpart
    obtain ⟨octet, hoctet, rfl⟩ := List.mem_map.mp hpart
    exact mem_writeOctet octet (hoctets octet hoctet)
  have hne : (digitsOf 256 4 value.toNat).map writeOctet ≠ [] :=
    List.length_pos_iff.mp (by simp)
  have hsplit : (writeV4 value).splitOn 46 = (digitsOf 256 4 value.toNat).map writeOctet := by
    refine List.splitOn_intercalate 46 ?_ hne
    intro part hpart hpoint
    have hrange := hparts part hpart 46 hpoint
    omega
  have hslash : 47 ∉ writeV4 value := by
    intro hmem
    rcases mem_intercalate hmem with heq | ⟨part, hpart, hc⟩
    · cases heq
    · have hrange := hparts part hpart 47 hc
      omega
  rw [readV4, if_neg hslash, hsplit,
    mapM_map_of_inverse fun octet hoctet => readOctet_writeOctet octet (hoctets octet hoctet)]
  simp only [length_digitsOf, ne_eq, not_true, if_false, numberOf_digitsOf]
  rw [Nat.mod_eq_of_lt (by simpa using value.isLt)]
  simp

/-! ## Version 6 -/

structure RunsFound (hextets : List ℕ) (scan : RunScan) : Prop where
  best_le : scan.bestStart + scan.bestLength ≤ hextets.length
  best_zero : ∀ i, scan.bestStart ≤ i → i < scan.bestStart + scan.bestLength →
    hextets[i]? = some 0
  current : scan.length ≠ 0 → scan.start + scan.length = hextets.length ∧
    ∀ i, scan.start ≤ i → i < hextets.length → hextets[i]? = some 0

theorem runsFound_scanRun {hextets : List ℕ} {scan : RunScan} (h : RunsFound hextets scan)
    (hextet : ℕ) : RunsFound (hextets ++ [hextet]) (scanRun scan (hextet, hextets.length)) := by
  have hkept (i : ℕ) (hi : hextets[i]? = some 0) : (hextets ++ [hextet])[i]? = some 0 := by
    rw [List.getElem?_append_left (List.getElem?_eq_some_iff.mp hi).1]
    exact hi
  have hbest : scan.bestStart + scan.bestLength ≤ (hextets ++ [hextet]).length := by
    have := h.best_le
    simp
    omega
  unfold scanRun
  by_cases hzero : hextet = 0
  · subst hzero
    -- the current run goes on, or begins here
    have hstart : (if scan.length = 0 then hextets.length else scan.start) + (scan.length + 1) =
        (hextets ++ [0]).length := by
      simp only [List.length_append, List.length_singleton]
      split_ifs with hempty
      · omega
      · have := (h.current hempty).1
        omega
    have hrun : ∀ i, (if scan.length = 0 then hextets.length else scan.start) ≤ i →
        i < (hextets ++ [0]).length → (hextets ++ [0])[i]? = some 0 := by
      intro i hfrom hto
      simp only [List.length_append, List.length_singleton] at hto
      rcases Nat.lt_succ_iff_lt_or_eq.mp hto with hlt | rfl
      · split_ifs at hfrom with hempty
        · omega
        · exact hkept i ((h.current hempty).2 i hfrom hlt)
      · simp
    simp only [if_true]
    generalize (if scan.length = 0 then hextets.length else scan.start) = start at hstart hrun ⊢
    split_ifs with hlonger
    · exact ⟨hstart.le, fun i hfrom hto => hrun i hfrom (hstart ▸ hto), fun _ => ⟨hstart, hrun⟩⟩
    · exact ⟨hbest, fun i hfrom hto => hkept i (h.best_zero i hfrom hto), fun _ => ⟨hstart, hrun⟩⟩
  · simp only [if_neg hzero]
    exact ⟨hbest, fun i hfrom hto => hkept i (h.best_zero i hfrom hto), fun hne => absurd rfl hne⟩

theorem runsFound_longestRun (hextets : List ℕ) : RunsFound hextets (longestRun hextets) := by
  induction hextets using List.reverseRecOn with
  | nil => exact ⟨le_rfl, fun i _ hto => by simp [longestRun] at hto, fun hne => absurd rfl hne⟩
  | append_singleton hextets hextet ih =>
      have hnext : longestRun (hextets ++ [hextet]) =
          scanRun (longestRun hextets) (hextet, hextets.length) := by
        simp [longestRun, List.zipIdx_append]
      rw [hnext]
      exact runsFound_scanRun ih hextet

theorem eq_around_run {hextets : List ℕ} {scan : RunScan} (h : RunsFound hextets scan) :
    hextets.take scan.bestStart ++ List.replicate scan.bestLength 0 ++
      hextets.drop (scan.bestStart + scan.bestLength) = hextets := by
  have hrun : (hextets.drop scan.bestStart).take scan.bestLength =
      List.replicate scan.bestLength 0 := by
    refine List.eq_replicate_iff.mpr ⟨?_, ?_⟩
    · have := h.best_le
      simp
      omega
    intro hextet hmem
    obtain ⟨i, hi⟩ := List.mem_iff_getElem?.mp hmem
    rw [List.getElem?_take, List.getElem?_drop] at hi
    split_ifs at hi with hlt
    have hzero := h.best_zero (scan.bestStart + i) (by omega) (by omega)
    rw [hzero] at hi
    exact (Option.some.inj hi).symm
  rw [← hrun, List.append_assoc, ← List.drop_drop, List.take_append_drop, List.take_append_drop]

/-! ### The parts -/

theorem readParts_skip {first last : Text} {before after : List Text}
    (hbefore : [] ∉ before) (hafter : [] ∉ after) (hfirst : first = [] → before = [])
    (hlast : last = [] → after = []) :
    readParts first (before ++ [] :: after) last =
      readSkipped (if first = [] then [] else first :: before)
        (if last = [] then [] else after ++ [last]) := by
  have hnonempty : ∀ part ∈ before, (decide (part ≠ [])) = true := by
    intro part hpart
    exact decide_eq_true fun heq => hbefore (heq ▸ hpart)
  have hdrop : (before ++ [] :: after).dropWhile (fun part => part ≠ []) = [] :: after := by
    rw [List.dropWhile_append_of_pos hnonempty]
    rfl
  have htake : (before ++ [] :: after).takeWhile (fun part => part ≠ []) = before := by
    rw [List.takeWhile_append_of_pos hnonempty]
    simp
  unfold readParts
  rw [hdrop, htake]
  simp only
  rw [if_neg]
  simp only [not_or, not_and, not_not]
  exact ⟨hafter, hfirst, hlast⟩

theorem readParts_whole {first last : Text} {interior : List Text} (hinterior : [] ∉ interior)
    (hlength : interior.length = 6) : readParts first interior last =
      ((first :: interior ++ [last]).mapM readHextet).map (numberOf 65536) := by
  have hdrop : interior.dropWhile (fun part => part ≠ []) = [] := by
    rw [List.dropWhile_eq_nil_iff]
    intro part hpart
    exact decide_eq_true fun heq => hinterior (heq ▸ hpart)
  unfold readParts
  rw [hdrop]
  simp [hlength]

theorem readGroups_intercalate {first last : Text} {interior : List Text}
    (hcolon : ∀ part ∈ first :: (interior ++ [last]), 58 ∉ part) (hpoint : 46 ∉ last)
    (hlength : 1 ≤ interior.length ∧ interior.length ≤ 7) :
    readGroups ([58].intercalate (first :: (interior ++ [last]))) =
      readParts first interior last := by
  have hsplit : ([58].intercalate (first :: (interior ++ [last]))).splitOn 58 =
      first :: (interior ++ [last]) :=
    List.splitOn_intercalate 58 hcolon (by simp)
  have hsuffix : convertSuffix (first :: (interior ++ [last])) =
      some (first :: (interior ++ [last])) := by
    have hgetLast : (first :: (interior ++ [last])).getLast? = some last := by
      rw [← List.cons_append, List.getLast?_concat]
    simp only [convertSuffix, hgetLast, if_neg hpoint]
  have hshort : ¬ (first :: (interior ++ [last])).length < 3 := by
    simp
    omega
  have hlong : ¬ 9 < (first :: (interior ++ [last])).length := by
    simp
    omega
  unfold readGroups
  simp only [hsplit, hsuffix, if_neg hshort, if_neg hlong, List.getLast?_concat,
    List.dropLast_concat]

/-- What `readSkipped` makes of the groups around those that are left out. -/
theorem readSkipped_map {high low : List ℕ} (hhigh : ∀ n ∈ high, n < 65536)
    (hlow : ∀ n ∈ low, n < 65536) (hlength : high.length + low.length < 8) :
    readSkipped (high.map writeHextet) (low.map writeHextet) =
      some (numberOf 65536 (high ++ List.replicate (8 - (high.length + low.length)) 0 ++ low)) := by
  have hroom : ¬ 8 ≤ (high.map writeHextet).length + (low.map writeHextet).length := by
    simpa using hlength
  rw [readSkipped, if_neg hroom,
    mapM_map_of_inverse fun n hn => readHextet_writeHextet (hhigh n hn),
    mapM_map_of_inverse fun n hn => readHextet_writeHextet (hlow n hn)]

theorem mem_hextets {hextets : List ℕ} {part : Text} (h : part ∈ hextets.map writeHextet) :
    part ≠ [] ∧ 58 ∉ part ∧ 46 ∉ part := by
  obtain ⟨hextet, -, rfl⟩ := List.mem_map.mp h
  have hnot {c : ℕ} (hc : c ≤ 47 ∨ c = 58) : c ∉ writeHextet hextet := by
    intro hmem
    obtain ⟨digit, hdigit, heq⟩ := mem_writeHextet hmem
    have hrange := hexCode_range digit hdigit
    omega
  exact ⟨writeHextet_ne_nil hextet, hnot (by omega), hnot (by omega)⟩

theorem readGroups_skip (first last : Text) (before after : List Text)
    (hparts : ∀ part ∈ before ++ after, part ≠ [] ∧ 58 ∉ part) (hcolon : 58 ∉ first ∧ 58 ∉ last)
    (hpoint : 46 ∉ last) (hfirst : first = [] → before = []) (hlast : last = [] → after = [])
    (hlength : before.length + after.length ≤ 6) :
    readGroups ([58].intercalate (first :: (before ++ [] :: after ++ [last]))) =
      readSkipped (if first = [] then [] else first :: before)
        (if last = [] then [] else after ++ [last]) := by
  have hbefore : [] ∉ before := fun hmem => (hparts [] (by simp [hmem])).1 rfl
  have hafter : [] ∉ after := fun hmem => (hparts [] (by simp [hmem])).1 rfl
  rw [readGroups_intercalate ?_ hpoint ?_, readParts_skip hbefore hafter hfirst hlast]
  · intro part hpart
    simp only [List.mem_cons, List.mem_append, List.not_mem_nil, or_false] at hpart
    rcases hpart with rfl | (hmem | rfl | hmem) | rfl
    · exact hcolon.1
    · exact (hparts part (by simp [hmem])).2
    · simp
    · exact (hparts part (by simp [hmem])).2
    · exact hcolon.2
  · simp
    omega

theorem readGroups_compressed {high low : List ℕ} (hhigh : ∀ n ∈ high, n < 65536)
    (hlow : ∀ n ∈ low, n < 65536) (hlength : high.length + low.length < 7) :
    readGroups ([58].intercalate ((if high = [] then [[]] else []) ++ (high.map writeHextet ++
        [] :: (low.map writeHextet ++ if low = [] then [[]] else [])))) =
      some (numberOf 65536
        (high ++ List.replicate (8 - (high.length + low.length)) 0 ++ low)) := by
  rw [← readSkipped_map hhigh hlow (by omega)]
  have hparts {hextet : ℕ} : writeHextet hextet ≠ [] ∧ 58 ∉ writeHextet hextet ∧
      46 ∉ writeHextet hextet :=
    mem_hextets (List.mem_map_of_mem (List.mem_singleton_self hextet))
  have hall (hextets others : List ℕ) : ∀ part ∈ hextets.map writeHextet ++ others.map writeHextet,
      part ≠ [] ∧ 58 ∉ part := by
    intro part hpart
    rcases List.mem_append.mp hpart with hmem | hmem
    · exact ⟨(mem_hextets hmem).1, (mem_hextets hmem).2.1⟩
    · exact ⟨(mem_hextets hmem).1, (mem_hextets hmem).2.1⟩
  -- the first part is empty or the first group, the last one is empty or the last group
  rcases high with _ | ⟨first, before⟩ <;> rcases low.eq_nil_or_concat with rfl | ⟨after, last, rfl⟩
  · have hskip := readGroups_skip [] [] [] [] (by simp) (by simp) (by simp) (by simp) (by simp)
      (by simp)
    simpa using hskip
  · have hskip := readGroups_skip [] (writeHextet last) [] (after.map writeHextet) (hall [] after) ⟨by simp, hparts.2.1⟩ hparts.2.2 (by simp)
      (fun heq => absurd heq hparts.1) (by simp at hlength ⊢; omega)
    simpa [hparts.1] using hskip
  · have hskip := readGroups_skip (writeHextet first) [] (before.map writeHextet) [] (hall before []) ⟨hparts.2.1, by simp⟩
      (by simp) (fun heq => absurd heq hparts.1) (by simp) (by simp at hlength ⊢; omega)
    simpa [hparts.1] using hskip
  have hskip := readGroups_skip (writeHextet first) (writeHextet last)
    (before.map writeHextet) (after.map writeHextet) (hall before after)
    ⟨hparts.2.1, hparts.2.1⟩ hparts.2.2 (fun heq => absurd heq hparts.1)
    (fun heq => absurd heq hparts.1) (by simp at hlength ⊢; omega)
  simpa [hparts.1] using hskip

theorem readGroups_whole {hextets : List ℕ} (h : ∀ n ∈ hextets, n < 65536)
    (hlength : hextets.length = 8) :
    readGroups ([58].intercalate (hextets.map writeHextet)) = some (numberOf 65536 hextets) := by
  obtain ⟨first, interior, last, rfl⟩ : ∃ first interior last,
      hextets = first :: (interior ++ [last]) := by
    rcases hextets with _ | ⟨first, rest⟩
    · simp at hlength
    · rcases rest.eq_nil_or_concat with rfl | ⟨interior, last, rfl⟩
      · simp at hlength
      · exact ⟨first, interior, last, by simp⟩
  have hinterior : (interior.map writeHextet).length = 6 := by
    simp at hlength ⊢
    omega
  have hparts : ∀ part ∈ (first :: (interior ++ [last])).map writeHextet,
      part ≠ [] ∧ 58 ∉ part ∧ 46 ∉ part := fun part hpart => mem_hextets hpart
  have hread := mapM_map_of_inverse fun n hn => readHextet_writeHextet (h n hn)
  simp only [List.map_cons, List.map_append, List.map_nil] at hparts hread ⊢
  rw [readGroups_intercalate (fun part hpart => (hparts part hpart).2.1)
    (hparts (writeHextet last) (by simp)).2.2 (by omega),
    readParts_whole (fun hmem => (hparts [] (by simp [hmem])).1 rfl) hinterior, List.cons_append,
    hread, Option.map_some]

theorem compressHextets_eq (hextets : List ℕ) : compressHextets hextets =
    let scan := longestRun hextets
    let high := hextets.take scan.bestStart
    let low := hextets.drop (scan.bestStart + scan.bestLength)
    if 1 < scan.bestLength then
      (if high = [] then [[]] else []) ++ (high.map writeHextet ++
        [] :: (low.map writeHextet ++ if low = [] then [[]] else []))
    else hextets.map writeHextet := by
  have hbest := (runsFound_longestRun hextets).best_le
  unfold compressHextets
  simp only [List.length_map]
  generalize longestRun hextets = scan at hbest ⊢
  by_cases hrun : 1 < scan.bestLength
  · have hhigh : hextets.take scan.bestStart = [] ↔ scan.bestStart = 0 := by
      rw [List.take_eq_nil_iff, or_iff_left_iff_imp]
      intro hnil
      rw [hnil] at hbest
      simp at hbest
      omega
    have hlow : hextets.drop (scan.bestStart + scan.bestLength) = [] ↔
        scan.bestStart + scan.bestLength = hextets.length := by
      rw [List.drop_eq_nil_iff]
      omega
    simp only [if_pos hrun, hhigh, hlow, List.map_take, List.map_drop]
    split_ifs <;> simp
  · rw [if_neg hrun, if_neg hrun]

theorem readGroups_writeGroups (value : BitVec 128) :
    readGroups (writeGroups value) = some value.toNat := by
  have hdigits : ∀ n ∈ digitsOf 65536 8 value.toNat, n < 65536 := digitsOf_lt (by decide)
  have hvalue : numberOf 65536 (digitsOf 65536 8 value.toNat) = value.toNat := by
    rw [numberOf_digitsOf, Nat.mod_eq_of_lt (by simpa using value.isLt)]
  have hlength : (digitsOf 65536 8 value.toNat).length = 8 := length_digitsOf _ _ _
  unfold writeGroups
  generalize digitsOf 65536 8 value.toNat = hextets at hdigits hvalue hlength ⊢
  rw [← hvalue, compressHextets_eq]
  by_cases hrun : 1 < (longestRun hextets).bestLength
  · simp only [if_pos hrun]
    have hfound := runsFound_longestRun hextets
    have hbest := hfound.best_le
    have hhigh : (hextets.take (longestRun hextets).bestStart).length =
        (longestRun hextets).bestStart := by
      rw [List.length_take]
      omega
    have hlow : (hextets.drop
        ((longestRun hextets).bestStart + (longestRun hextets).bestLength)).length =
        8 - ((longestRun hextets).bestStart + (longestRun hextets).bestLength) := by
      rw [List.length_drop, hlength]
    rw [readGroups_compressed (fun n hn => hdigits n (List.mem_of_mem_take hn))
      (fun n hn => hdigits n (List.mem_of_mem_drop hn)) (by omega)]
    have hskipped : 8 - ((hextets.take (longestRun hextets).bestStart).length +
        (hextets.drop ((longestRun hextets).bestStart + (longestRun hextets).bestLength)).length) =
        (longestRun hextets).bestLength := by
      omega
    rw [hskipped, eq_around_run hfound]
  · simp only [if_neg hrun]
    exact readGroups_whole hdigits hlength

/-! ## Addresses -/

theorem mem_compressHextets {hextets : List ℕ} {part : Text} (h : part ∈ compressHextets hextets) :
    part = [] ∨ ∃ hextet, part = writeHextet hextet := by
  have hwritten {part : Text} (hmem : part ∈ hextets.map writeHextet) :
      ∃ hextet, part = writeHextet hextet := by
    obtain ⟨hextet, -, heq⟩ := List.mem_map.mp hmem
    exact ⟨hextet, heq.symm⟩
  unfold compressHextets at h
  simp only at h
  split_ifs at h
  all_goals try simp only [List.mem_cons, List.mem_append, List.not_mem_nil, or_false] at h
  · rcases h with heq | hmem | heq | hmem | heq
    · exact .inl heq
    · exact .inr (hwritten (List.mem_of_mem_take hmem))
    · exact .inl heq
    · exact .inr (hwritten (List.mem_of_mem_drop hmem))
    · exact .inl heq
  · rcases h with heq | hmem | heq | hmem
    · exact .inl heq
    · exact .inr (hwritten (List.mem_of_mem_take hmem))
    · exact .inl heq
    · exact .inr (hwritten (List.mem_of_mem_drop hmem))
  · rcases h with hmem | heq | hmem | heq
    · exact .inr (hwritten (List.mem_of_mem_take hmem))
    · exact .inl heq
    · exact .inr (hwritten (List.mem_of_mem_drop hmem))
    · exact .inl heq
  · rcases h with hmem | heq | hmem
    · exact .inr (hwritten (List.mem_of_mem_take hmem))
    · exact .inl heq
    · exact .inr (hwritten (List.mem_of_mem_drop hmem))
  · exact .inr (hwritten h)

theorem mem_writeGroups {value : BitVec 128} {c : ℕ} (h : c ∈ writeGroups value) :
    48 ≤ c ∧ c ≤ 58 ∨ 97 ≤ c ∧ c ≤ 102 := by
  rcases mem_intercalate h with heq | ⟨part, hpart, hc⟩
  · omega
  rcases mem_compressHextets hpart with rfl | ⟨hextet, rfl⟩
  · simp at hc
  · obtain ⟨digit, hdigit, rfl⟩ := mem_writeHextet hc
    have hrange := hexCode_range digit hdigit
    omega

theorem colon_mem_writeGroups (value : BitVec 128) : 58 ∈ writeGroups value := by
  by_contra hnot
  have hread := readGroups_writeGroups value
  simp [readGroups, List.splitOn_eq_singleton hnot] at hread

theorem exists_of_mapM_eq_some {α β : Type*} {read : α → Option β} {l : List α} {values : List β}
    (h : l.mapM read = some values) : ∀ a ∈ l, ∃ b, read a = some b := by
  induction l generalizing values with
  | nil => simp
  | cons a l ih =>
      rw [List.mapM_cons] at h
      cases hread : read a with
      | none => simp [hread] at h
      | some b =>
          cases hrest : l.mapM read with
          | none => simp [hread, hrest] at h
          | some rest => exact List.forall_mem_cons.mpr ⟨⟨b, hread⟩, ih hrest⟩

theorem mem_of_readV4 {text : Text} {value : BitVec 32} (h : readV4 text = some value) {c : ℕ}
    (hc : c ∈ text) : c = 46 ∨ 48 ≤ c ∧ c ≤ 57 := by
  unfold readV4 at h
  split_ifs at h
  cases hoctets : (text.splitOn 46).mapM readOctet with
  | none => simp [hoctets] at h
  | some octets =>
      have hjoined : [46].intercalate (text.splitOn 46) = text := List.intercalate_splitOn 46
      rw [← hjoined] at hc
      rcases mem_intercalate hc with heq | ⟨part, hpart, hmem⟩
      · exact .inl heq
      obtain ⟨octet, hoctet⟩ := exists_of_mapM_eq_some hoctets part hpart
      unfold readOctet at hoctet
      split_ifs at hoctet with hbad
      rw [not_or, not_or] at hbad
      have hdigits := hbad.2.1
      rw [Bool.not_eq_true, List.any_eq_false] at hdigits
      have hdigit := hdigits c hmem
      simp only [Bool.or_eq_true, decide_eq_true_eq, not_or, Nat.not_lt] at hdigit
      exact .inr hdigit

theorem readV4_eq_none {text : Text} (h : 58 ∈ text) : readV4 text = none := by
  cases hread : readV4 text with
  | none => rfl
  | some value =>
      have hcolon := mem_of_readV4 hread h
      omega

theorem readAddress_writeAddress (address : IpAddress) :
    readAddress (writeAddress address) = some address := by
  unfold readAddress
  cases address with
  | v4 value => rw [writeAddress, readV4_writeV4]
  | v6 value scope =>
      have hnot {c : ℕ} (hc : c ≤ 47) : c ∉ writeGroups value := by
        intro hmem
        have hrange := mem_writeGroups hmem
        omega
      have hplain : ∀ c ∈ writeGroups value, (decide (c ≠ 37)) = true := by
        intro c hc
        exact decide_eq_true fun heq => hnot (by omega) (heq ▸ hc)
      cases scope with
      | none =>
          have hdrop : (writeGroups value).dropWhile (fun c => c ≠ 37) = [] :=
            List.dropWhile_eq_nil_iff.mpr hplain
          rw [writeAddress, readV4_eq_none (colon_mem_writeGroups value)]
          simp only [readV6, if_neg (hnot (le_refl 47)), hdrop, readGroups_writeGroups,
            Option.map_some, BitVec.ofNat_toNat, BitVec.setWidth_eq]
      | some scope =>
          have hslash : 47 ∉ writeGroups value ++ 37 :: scope.text := by
            simp [hnot, scope.valid.2.2]
          have hcolon : 58 ∈ writeGroups value ++ 37 :: scope.text := by
            simp [colon_mem_writeGroups]
          have hdrop : (writeGroups value ++ 37 :: scope.text).dropWhile (fun c => c ≠ 37) =
              37 :: scope.text := by
            rw [List.dropWhile_append_of_pos hplain]
            rfl
          have htake : (writeGroups value ++ 37 :: scope.text).takeWhile (fun c => c ≠ 37) =
              writeGroups value := by
            rw [List.takeWhile_append_of_pos hplain]
            simp
          rw [writeAddress, readV4_eq_none hcolon]
          simp only [readV6, if_neg hslash, hdrop, htake, dif_pos scope.valid,
            readGroups_writeGroups, Option.map_some, BitVec.ofNat_toNat, BitVec.setWidth_eq]

end Library
