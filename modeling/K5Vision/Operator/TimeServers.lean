import K5Vision.Library.AddressSpelling
import K5Vision.Identity.Users
import Mathlib.Data.List.DropRight

/-!
# Names of time servers

`normalize_servers` of `operator_time_admin.py`: the names are brought to one spelling, addresses
through `ipaddress`, host names in lower case and without the point at the end.  An address is
refused if it is unspecified or a group's, but a text with a point at the end is no address: it
passes as the name of a host and loses its point then (`rejectedBeforePoint`).

## Strategy

An accepted value is an address or a host name (`normalizeServer_eq_ok_iff`).  The text written of
an address is read back as this address.  A host name that is an address without its point is one
of version 4, whose only text it is (`writeV4_of_readV4`), so it stays what it is unless it is
refused.  The loop keeps the names of all values, without repetition
(`normalizeInto_eq_ok_iff`).
-/

namespace K5Vision.Operator.TimeServers

open Library Identity

/-! ## Texts -/

/-- `str.strip()`. -/
def stripText (text : Text) : Text :=
  let space := fun c => isSpace (Char.ofNat c)
  ((text.dropWhile space).reverse.dropWhile space).reverse

/-- `str.rstrip(".")`. -/
def rstripPoints (text : Text) : Text := text.rdropWhile (· == 46)

/-- `[A-Za-z0-9]`. -/
def isAlphanumeric (c : ℕ) : Bool := (48 ≤ c && c ≤ 57) || (65 ≤ c && c ≤ 90) || (97 ≤ c && c ≤ 122)

/-- `[A-Za-z0-9](?:[A-Za-z0-9-]{0,61}[A-Za-z0-9])?`. -/
def isLabel (label : Text) : Bool :=
  label.head?.any isAlphanumeric && label.getLast?.any isAlphanumeric &&
    label.all (fun c => isAlphanumeric c || c == 45) && label.length ≤ 63

def withoutPoint (text : Text) : Text := if text.getLast? = some 46 then text.dropLast else text

/-- `_SERVER.fullmatch`. -/
def matchesServer (text : Text) : Bool :=
  1 ≤ text.length && text.length ≤ 253 && ((withoutPoint text).splitOn 46).all isLabel

/-! ## Addresses -/

def isMulticast : IpAddress → Bool
  | .v4 value => value.toNat / 2 ^ 28 == 14
  | .v6 value _ => value.toNat / 2 ^ 120 == 255

def isUnspecified : IpAddress → Bool
  | .v4 value => value == 0
  | .v6 value _ => value == 0

def rejected (address : IpAddress) : Bool := isMulticast address || isUnspecified address

/-! ## The servers -/

/-- One turn of the loop, up to the comparison with the names before. -/
def normalizeServer (value : Text) : Except String Text :=
  if value = [] ∨ 37 ∈ value ∨ value ≠ stripText value ∨ 253 < value.length then
    .error "NTP server refused"
  else
    match readAddress value with
    | none =>
        if !matchesServer value || 58 ∈ value then .error "NTP server refused"
        else .ok (rstripPoints (lower value))
    | some address =>
        if rejected address then .error "NTP address refused" else .ok (writeAddress address)

local instance lawfulText : LawfulBEq Text := inferInstance

def normalizeInto : List Text → List Text → Except String (List Text)
  | [], result => .ok result
  | value :: rest, result =>
      match normalizeServer value with
      | .error message => .error message
      | .ok normalized =>
          if normalized ∈ result then .error "Duplicate NTP server"
          else normalizeInto rest (result ++ [normalized])

/-- `normalize_servers` of a list of strings. -/
def normalizeServers (values : List Text) (allowEmpty : Bool) : Except String (List Text) :=
  if 4 < values.length || values.isEmpty && !allowEmpty then .error "NTP server list refused"
  else normalizeInto values []

/-- A spelling of a text that does without letter case, points at the end and space around. -/
def spelling (text : Text) : Text := rstripPoints (lower (stripText text))

/-- The text denotes an address that is refused, in some spelling. -/
def denotesRejected (text : Text) : Bool := (readAddress (spelling text)).any rejected

/-- An address of version 4 that is refused, with a point behind it. -/
def rejectedBeforePoint (value : Text) : Bool :=
  value.getLast? == some 46 && (readV4 value.dropLast).any fun address => rejected (.v4 address)

/-! ## The texts of names -/

variable {text value normalized : Text}

theorem stripText_eq_self (h : ∀ c ∈ text, 33 ≤ c ∧ c ≤ 122) : stripText text = text := by
  have hspace : ∀ c < 123, 33 ≤ c → isSpace (Char.ofNat c) = false := by decide
  have hnone : ∀ c ∈ text, isSpace (Char.ofNat c) = false := by
    intro c hc
    have := h c hc
    exact hspace c (by omega) this.1
  simp only [stripText]
  rw [dropWhile_of_not hnone, dropWhile_of_not fun c hc => hnone c (List.mem_reverse.mp hc),
    List.reverse_reverse]

theorem rstripPoints_eq_self (h : text.getLast? ≠ some 46) : rstripPoints text = text := by
  refine List.rdropWhile_eq_self_iff.mpr ?_
  intro hne hpoint
  refine h ?_
  rw [List.getLast?_eq_some_getLast hne]
  exact congrArg some (beq_iff_eq.mp hpoint)

theorem rstripPoints_concat (text : Text) : rstripPoints (text ++ [46]) = rstripPoints text :=
  List.rdropWhile_concat_pos _ _ _ rfl

theorem lower_lower (text : Text) : lower (lower text) = lower text := by
  refine lower_eq_self ?_
  intro c hc
  obtain ⟨other, -, rfl⟩ := List.mem_map.mp hc
  unfold lowerCode
  split <;> omega

theorem isLabel_lower (label : Text) : isLabel (lower label) = isLabel label := by
  have hcode : ∀ c, isAlphanumeric (lowerCode c) = isAlphanumeric c := by
    intro c
    unfold isAlphanumeric lowerCode
    grind
  have hhyphen : ∀ c, (lowerCode c == 45) = (c == 45) := by
    intro c
    rw [Bool.eq_iff_iff, beq_iff_eq, beq_iff_eq, lowerCode_eq_iff (by decide)]
  simp only [isLabel, lower, List.head?_map, List.getLast?_map, Option.any_map, List.all_map,
    List.length_map, Function.comp_def, hcode, hhyphen]

def IsHost (text : Text) : Prop := (text.splitOn 46).all isLabel = true

theorem IsHost.lower (h : IsHost text) : IsHost (lower text) := by
  unfold IsHost at h ⊢
  rw [splitOn_lower (by decide), List.all_map]
  simpa only [Function.comp_def, isLabel_lower] using h

theorem IsHost.ne_nil (h : IsHost text) : text ≠ [] := by
  rintro rfl
  cases h

theorem IsHost.getLast? (h : IsHost text) : text.getLast? ≠ some 46 := by
  intro hlast
  obtain ⟨front, rfl⟩ := List.getLast?_eq_some_iff.mp hlast
  unfold IsHost at h
  rw [List.splitOn_append_cons_self, List.all_append] at h
  cases (Bool.and_eq_true _ _ ▸ h).2

theorem IsHost.mem (h : IsHost text) {c : ℕ} (hc : c ∈ text) : 45 ≤ c ∧ c ≤ 122 ∧ c ≠ 58 := by
  have hjoined : [46].intercalate (text.splitOn 46) = text := List.intercalate_splitOn 46
  rw [← hjoined] at hc
  rcases mem_intercalate hc with rfl | ⟨label, hlabel, hmem⟩
  · decide
  have hall := List.all_eq_true.mp h label hlabel
  simp only [isLabel, Bool.and_eq_true, List.all_eq_true] at hall
  have hcode := hall.1.2 c hmem
  simp only [isAlphanumeric, Bool.or_eq_true, Bool.and_eq_true, decide_eq_true_eq,
    beq_iff_eq] at hcode
  omega

theorem withoutPoint_eq_self (h : text.getLast? ≠ some 46) : withoutPoint text = text := if_neg h

theorem matchesServer_iff : matchesServer text = true ↔
    text.length ≤ 253 ∧ IsHost (withoutPoint text) := by
  unfold matchesServer
  rw [Bool.and_eq_true, Bool.and_eq_true, decide_eq_true_eq, decide_eq_true_eq]
  refine ⟨fun h => ⟨h.1.2, h.2⟩, fun h => ⟨⟨?_, h.1⟩, h.2⟩⟩
  refine List.length_pos_iff.mpr ?_
  rintro rfl
  exact IsHost.ne_nil h.2 rfl

theorem eq_withoutPoint (text : Text) : text = withoutPoint text ∨
    text = withoutPoint text ++ [46] ∧ text.getLast? = some 46 ∧
      withoutPoint text = text.dropLast := by
  by_cases hlast : text.getLast? = some 46
  · refine .inr ⟨?_, hlast, if_pos hlast⟩
    obtain ⟨front, rfl⟩ := List.getLast?_eq_some_iff.mp hlast
    rw [withoutPoint, if_pos hlast, List.dropLast_concat]
  · exact .inl (withoutPoint_eq_self hlast).symm

theorem rstripPoints_lower (h : IsHost (withoutPoint text)) :
    rstripPoints (lower text) = lower (withoutPoint text) := by
  have hself := rstripPoints_eq_self h.lower.getLast?
  rcases eq_withoutPoint text with heq | ⟨heq, -, -⟩
  · rw [← heq] at hself ⊢
    exact hself
  · conv_lhs => rw [heq]
    rw [Library.lower, List.map_append]
    exact (rstripPoints_concat _).trans hself

/-! ## One server -/

structure IsName (value : Text) : Prop where
  nonempty : value ≠ []
  noScope : 37 ∉ value
  stripped : stripText value = value
  length : value.length ≤ 253

/-- An accepted value is an address or the name of a host. -/
theorem normalizeServer_eq_ok_iff : normalizeServer value = .ok normalized ↔ IsName value ∧
    ((∃ address, readAddress value = some address ∧ rejected address = false ∧
        normalized = writeAddress address) ∨
      readAddress value = none ∧ IsHost (withoutPoint value) ∧ 58 ∉ value ∧
        normalized = lower (withoutPoint value)) := by
  unfold normalizeServer
  constructor
  case mp =>
    intro h
    by_cases hname : value = [] ∨ 37 ∈ value ∨ value ≠ stripText value ∨ 253 < value.length
    · rw [if_pos hname] at h
      cases h
    rw [if_neg hname] at h
    simp only [not_or, not_not, Nat.not_lt] at hname
    obtain ⟨hne, hscope, hstrip, hlength⟩ := hname
    refine ⟨⟨hne, hscope, hstrip.symm, hlength⟩, ?_⟩
    cases haddress : readAddress value with
    | none =>
        rw [haddress] at h
        dsimp only at h
        split at h
        · cases h
        rename_i hhost
        simp only [Bool.or_eq_true, Bool.not_eq_true', decide_eq_true_eq, not_or,
          Bool.not_eq_false] at hhost
        have hname := (matchesServer_iff.mp hhost.1).2
        refine .inr ⟨rfl, hname, hhost.2, ?_⟩
        rw [← rstripPoints_lower hname]
        exact (Except.ok.inj h).symm
    | some address =>
        rw [haddress] at h
        dsimp only at h
        split at h
        · cases h
        rename_i hrejected
        exact .inl ⟨address, rfl, eq_false_of_ne_true hrejected, (Except.ok.inj h).symm⟩
  case mpr =>
    rintro ⟨hname, hcases⟩
    have hchecks : ¬ (value = [] ∨ 37 ∈ value ∨ value ≠ stripText value ∨ 253 < value.length) := by
      simp only [not_or, not_not, Nat.not_lt]
      exact ⟨hname.nonempty, hname.noScope, hname.stripped.symm, hname.length⟩
    rw [if_neg hchecks]
    rcases hcases with ⟨address, haddress, hrejected, rfl⟩ | ⟨haddress, hhost, hcolon, rfl⟩
    · rw [haddress]
      dsimp only
      rw [if_neg (by rw [hrejected]; exact Bool.false_ne_true)]
    have hmatches := matchesServer_iff.mpr ⟨hname.length, hhost⟩
    rw [haddress]
    dsimp only
    rw [if_neg (by simp [hmatches, hcolon]), rstripPoints_lower hhost]

theorem readAddress_spelling {address : IpAddress} (hname : IsName value)
    (h : readAddress value = some address) : readAddress (spelling value) = some address := by
  have hpoint : (lower value).getLast? ≠ some 46 := by
    intro hlast
    obtain ⟨front, hfront⟩ := List.getLast?_eq_some_iff.mp hlast
    have hscope : 37 ∉ front := by
      intro hmem
      refine hname.noScope ((mem_lower_iff (by decide)).mp ?_)
      rw [hfront]
      exact List.mem_append_left _ hmem
    have hread := readAddress_lower hname.noScope
    rw [hfront, readAddress_concat_point hscope, h] at hread
    cases hread
  rw [spelling, hname.stripped, rstripPoints_eq_self hpoint, readAddress_lower hname.noScope, h]

theorem isName_writeAddress {address : IpAddress} (hname : IsName value)
    (h : readAddress value = some address) : IsName (writeAddress address) := by
  have hread := readAddress_writeAddress address
  have htext : (∀ c ∈ writeAddress address, 46 ≤ c ∧ c ≤ 102) ∧
      (writeAddress address).length ≤ 253 := by
    rcases readAddress_cases hname.noScope h with ⟨v4, -, rfl⟩ | ⟨-, v6, rfl⟩
    · refine ⟨?_, (length_writeV4_le v4).trans (by decide)⟩
      intro c hc
      have := mem_of_readV4 (readV4_writeV4 v4) hc
      omega
    · refine ⟨?_, (length_writeGroups_le v6).trans (by decide)⟩
      intro c hc
      have := mem_writeGroups hc
      omega
  obtain ⟨hcodes, hlength⟩ := htext
  constructor
  case nonempty =>
    intro hnil
    rw [hnil] at hread
    cases hread
  case noScope =>
    intro hmem
    have := hcodes 37 hmem
    omega
  case stripped =>
    refine stripText_eq_self ?_
    intro c hc
    have := hcodes c hc
    omega
  case length => exact hlength

theorem isName_lower (h : IsHost text) (hlength : text.length ≤ 253) : IsName (lower text) := by
  constructor
  case nonempty => exact h.lower.ne_nil
  case noScope =>
    intro hmem
    have := h.lower.mem hmem
    omega
  case stripped =>
    refine stripText_eq_self ?_
    intro c hc
    have := h.lower.mem hc
    omega
  case length => rwa [length_lower]

/-- The name of a host is its own spelling once it is normalized. -/
theorem spelling_lower (h : IsHost text) (hlength : text.length ≤ 253) :
    spelling (lower text) = lower text := by
  rw [spelling, (isName_lower h hlength).stripped, lower_lower,
    rstripPoints_eq_self h.lower.getLast?]

/-- A name that is read as an address of version 4 is written without letters. -/
theorem eq_of_readV4_lower {v4 : BitVec 32} (h : readV4 (lower text) = some v4) :
    lower text = text := by
  refine lower_eq_self ?_
  intro c hc hletter
  have := mem_of_readV4 h (List.mem_map_of_mem hc)
  rw [lowerCode, if_pos hletter] at this
  omega

theorem normalizeServer_stable (h : normalizeServer value = .ok normalized)
    (hpoint : rejectedBeforePoint value = false) :
    normalizeServer normalized = .ok normalized ∧ denotesRejected value = false ∧
      denotesRejected normalized = false := by
  obtain ⟨hname, ⟨address, haddress, hrejected, rfl⟩ | ⟨hnone, hhost, hcolon, rfl⟩⟩ :=
    normalizeServer_eq_ok_iff.mp h
  · -- an address
    have hwritten := isName_writeAddress hname haddress
    have hread := readAddress_writeAddress address
    refine ⟨normalizeServer_eq_ok_iff.mpr ⟨hwritten, .inl ⟨address, hread, hrejected, rfl⟩⟩, ?_, ?_⟩
    · rw [denotesRejected, readAddress_spelling hname haddress, Option.any_some, hrejected]
    · rw [denotesRejected, readAddress_spelling hwritten hread, Option.any_some, hrejected]
  -- the name of a host
  have hlength : (withoutPoint value).length ≤ 253 := by
    refine le_trans ?_ hname.length
    unfold withoutPoint
    split
    · exact List.dropLast_sublist value |>.length_le
    · exact le_rfl
  have hlower := isName_lower hhost hlength
  have hself := spelling_lower hhost hlength
  have hspelling : spelling value = lower (withoutPoint value) := by
    rw [spelling, hname.stripped, rstripPoints_lower hhost]
  have hcolon' : 58 ∉ lower (withoutPoint value) :=
    fun hmem => (hhost.lower.mem hmem).2.2 rfl
  rw [denotesRejected, denotesRejected, hself, hspelling]
  cases haddress : readAddress (lower (withoutPoint value)) with
  | none =>
      have hpointless := withoutPoint_eq_self hhost.lower.getLast?
      refine ⟨normalizeServer_eq_ok_iff.mpr ⟨hlower, .inr ⟨haddress, ?_, hcolon', ?_⟩⟩, rfl, rfl⟩
      · rw [hpointless]
        exact hhost.lower
      · rw [hpointless, lower_lower]
  | some address =>
      obtain ⟨v4, hv4, rfl⟩ | ⟨hmem, -⟩ := readAddress_cases hlower.noScope haddress
      · -- its only text, and the value has a point behind it
        have hsame := eq_of_readV4_lower hv4
        rw [hsame] at hv4 haddress ⊢
        rcases eq_withoutPoint value with heq | ⟨-, hlast, hfront⟩
        · rw [← heq, hnone] at haddress
          cases haddress
        have hrejected : rejected (.v4 v4) = false := by
          rw [rejectedBeforePoint, hlast, ← hfront, hv4] at hpoint
          exact hpoint
        refine ⟨normalizeServer_eq_ok_iff.mpr ⟨hsame ▸ hlower, .inl ⟨_, haddress, hrejected,
          (writeV4_of_readV4 hv4).symm⟩⟩, hrejected, hrejected⟩
      · exact absurd hmem hcolon'

theorem denotesRejected_of_point (hname : IsName value) (h : rejectedBeforePoint value = true) :
    denotesRejected value = true := by
  obtain ⟨hlast, hfront⟩ := Bool.and_eq_true _ _ ▸ h
  obtain ⟨front, rfl⟩ := List.getLast?_eq_some_iff.mp (beq_iff_eq.mp hlast)
  rw [List.dropLast_concat] at hfront
  obtain ⟨v4, hread, hrejected⟩ := (Option.any_eq_true _ _).mp hfront
  have hpoint : front.getLast? ≠ some 46 := by
    intro hend
    obtain ⟨rest, rfl⟩ := List.getLast?_eq_some_iff.mp hend
    rw [readV4_concat_point] at hread
    cases hread
  have hlower : lower (front ++ [46]) = front ++ [46] := by
    refine lower_eq_self ?_
    intro c hc
    rcases List.mem_append.mp hc with hmem | hmem
    · have := mem_of_readV4 hread hmem
      omega
    · have := List.mem_singleton.mp hmem
      omega
  have haddress : readAddress front = some (.v4 v4) := by
    rw [readAddress, hread]
  rw [denotesRejected, spelling, hname.stripped, hlower, rstripPoints_concat,
    rstripPoints_eq_self hpoint, haddress]
  exact hrejected

/-! ## The list -/

theorem normalizeInto_eq_ok_iff {values before result : List Text} (hnodup : before.Nodup) :
    normalizeInto values before = .ok result ↔ ∃ names,
      List.Forall₂ (fun value name => normalizeServer value = .ok name) values names ∧
        result = before ++ names ∧ result.Nodup := by
  induction values generalizing before with
  | nil =>
      simp only [normalizeInto, List.forall₂_nil_left_iff, exists_eq_left, List.append_nil,
        Except.ok.injEq]
      exact ⟨fun heq => ⟨heq.symm, heq ▸ hnodup⟩, fun h => h.1.symm⟩
  | cons value rest ih =>
      unfold normalizeInto
      cases hvalue : normalizeServer value with
      | error message => simp [List.forall₂_cons_left_iff, hvalue]
      | ok name =>
          dsimp only
          by_cases hmem : name ∈ before
          · rw [if_pos hmem]
            constructor
            · intro h
              cases h
            rintro ⟨names, hnames, rfl, hresult⟩
            -- the name would be there twice
            obtain ⟨first, others, hfirst, -, rfl⟩ := List.forall₂_cons_left_iff.mp hnames
            obtain rfl : name = first := Except.ok.inj (hvalue.symm.trans hfirst)
            exact absurd rfl ((List.nodup_append.mp hresult).2.2 name hmem name List.mem_cons_self)
          · have hnext : (before ++ [name]).Nodup := by
              refine List.nodup_append.mpr ⟨hnodup, List.nodup_singleton _, ?_⟩
              intro other hother last hlast
              rw [List.mem_singleton.mp hlast]
              exact fun heq => hmem (heq ▸ hother)
            rw [if_neg hmem, ih hnext]
            constructor
            case mp =>
              rintro ⟨names, hnames, rfl, hresult⟩
              refine ⟨name :: names, .cons hvalue hnames, ?_, hresult⟩
              rw [List.append_assoc, List.singleton_append]
            case mpr =>
              rintro ⟨names, hnames, rfl, hresult⟩
              obtain ⟨first, others, hfirst, hothers, rfl⟩ := List.forall₂_cons_left_iff.mp hnames
              obtain rfl : name = first := Except.ok.inj (hvalue.symm.trans hfirst)
              refine ⟨others, hothers, ?_, hresult⟩
              rw [List.append_assoc, List.singleton_append]

variable {values result : List Text} {allowEmpty : Bool}

theorem normalizeServers_eq_ok_iff : normalizeServers values allowEmpty = .ok result ↔
    (values.length ≤ 4 ∧ (values = [] → allowEmpty = true)) ∧
      List.Forall₂ (fun value name => normalizeServer value = .ok name) values result ∧
        result.Nodup := by
  unfold normalizeServers
  have hinto : normalizeInto values [] = .ok result ↔
      List.Forall₂ (fun value name => normalizeServer value = .ok name) values result ∧
        result.Nodup := by
    rw [normalizeInto_eq_ok_iff List.nodup_nil]
    constructor
    · rintro ⟨names, hnames, rfl, hresult⟩
      exact ⟨hnames, hresult⟩
    · rintro ⟨hnames, hresult⟩
      exact ⟨result, hnames, rfl, hresult⟩
  rw [← hinto]
  by_cases hrefused : (decide (4 < values.length) || values.isEmpty && !allowEmpty) = true
  · rw [if_pos hrefused]
    constructor
    · intro h
      cases h
    rintro ⟨⟨hlength, hempty⟩, -⟩
    exfalso
    simp only [Bool.or_eq_true, decide_eq_true_eq, Bool.and_eq_true, List.isEmpty_iff,
      Bool.not_eq_true'] at hrefused
    rcases hrefused with hlong | ⟨hnil, hnot⟩
    · omega
    · rw [hempty hnil] at hnot
      cases hnot
  · rw [if_neg hrefused]
    refine ⟨fun h => ⟨?_, h⟩, fun h => h.2⟩
    simp only [Bool.or_eq_true, decide_eq_true_eq, Bool.and_eq_true, List.isEmpty_iff,
      Bool.not_eq_true', not_or, not_and, Bool.not_eq_false, Nat.not_lt] at hrefused
    exact hrefused

theorem exists_name
    (h : List.Forall₂ (fun value name => normalizeServer value = .ok name) values result) :
    (∀ value ∈ values, ∃ name ∈ result, normalizeServer value = .ok name) ∧
      ∀ name ∈ result, ∃ value ∈ values, normalizeServer value = .ok name := by
  induction h with
  | nil => simp
  | cons hvalue _ ih =>
      obtain ⟨hvalues, hnames⟩ := ih
      constructor
      · refine List.forall_mem_cons.mpr ⟨⟨_, List.mem_cons_self, hvalue⟩, ?_⟩
        intro value hmem
        obtain ⟨name, hname, hok⟩ := hvalues value hmem
        exact ⟨name, List.mem_cons_of_mem _ hname, hok⟩
      · refine List.forall_mem_cons.mpr ⟨⟨_, List.mem_cons_self, hvalue⟩, ?_⟩
        intro name hmem
        obtain ⟨value, hvalue, hok⟩ := hnames name hmem
        exact ⟨value, List.mem_cons_of_mem _ hvalue, hok⟩

/-- The names of accepted servers are normalized, without repetition and denote no address that is
refused, exactly if no value is such an address of version 4 with a point behind it. -/
theorem normalize_servers_stable (h : normalizeServers values allowEmpty = .ok result) :
    (normalizeServers result allowEmpty = .ok result ∧ result.Nodup ∧
        ∀ server ∈ values ++ result, denotesRejected server = false) ↔
      ∀ value ∈ values, rejectedBeforePoint value = false := by
  obtain ⟨⟨hlength, hempty⟩, hnames, hnodup⟩ := normalizeServers_eq_ok_iff.mp h
  obtain ⟨hvalues, hresult⟩ := exists_name hnames
  constructor
  case mp =>
    rintro ⟨-, -, hdenotes⟩ value hvalue
    by_contra hpoint
    obtain ⟨name, -, hok⟩ := hvalues value hvalue
    have hrejected := denotesRejected_of_point (normalizeServer_eq_ok_iff.mp hok).1
      (eq_true_of_ne_false hpoint)
    rw [hdenotes value (List.mem_append_left _ hvalue)] at hrejected
    cases hrejected
  case mpr =>
    intro hpoint
    have hstable : ∀ name ∈ result, normalizeServer name = .ok name ∧
        denotesRejected name = false := by
      intro name hname
      obtain ⟨value, hvalue, hok⟩ := hresult name hname
      obtain ⟨hagain, -, hdenotes⟩ := normalizeServer_stable hok (hpoint value hvalue)
      exact ⟨hagain, hdenotes⟩
    have hlengths := hnames.length_eq
    refine ⟨normalizeServers_eq_ok_iff.mpr ⟨⟨by omega, ?_⟩, ?_, hnodup⟩, hnodup, ?_⟩
    · rintro rfl
      exact hempty (List.length_eq_zero_iff.mp hlengths)
    · exact List.forall₂_same.mpr fun name hname => (hstable name hname).1
    intro server hserver
    rcases List.mem_append.mp hserver with hvalue | hname
    · obtain ⟨name, -, hok⟩ := hvalues server hvalue
      exact (normalizeServer_stable hok (hpoint server hvalue)).2.1
    · exact (hstable server hname).2

theorem normalize_servers_stable_three :
    normalizeServers (["time.example", "192.0.2.1", "2001:db8::1"].map codePoints) false =
      .ok (["time.example", "192.0.2.1", "2001:db8::1"].map codePoints) := by
  have hok : normalizeServers (["TIME.Example.", "192.0.2.1", "2001:0db8::1"].map codePoints)
      false = .ok (["time.example", "192.0.2.1", "2001:db8::1"].map codePoints) := by
    decide +kernel
  exact ((normalize_servers_stable hok).mpr (by decide +kernel)).1

/-- An unspecified address with a point behind it is accepted, and loses the point. -/
theorem normalize_servers_not_stable :
    normalizeServers [codePoints "0.0.0.0."] false = .ok [codePoints "0.0.0.0"] ∧
      normalizeServers [codePoints "0.0.0.0"] false = .error "NTP address refused" ∧
      denotesRejected (codePoints "0.0.0.0.") = true := by
  decide +kernel

end K5Vision.Operator.TimeServers
