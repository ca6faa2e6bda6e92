import K5Vision.Identity.WindowsIdentity
import K5Vision.Library.AccessLists
import K5Vision.Library.Fallible
import Mathlib.Data.List.Basic

/-!
# What the Windows admission admits

The meaning of an access list is that of `AccessLists`: an entry of a path is a library entry whose
flags are bits and whose rights are those of its mask, a generic right standing for the rights of a
file that the system maps it to (`rights`, which is what `expandedMask` leaves,
`mem_rights_iff`).

A private path that the policy accepts is confined to the current user, the administrators and the
system (`confined_of_checkPolicy`), hence so is all that comes to be below it.  On an ancestor the
accepted entries keep the rights of `ancestorMutation` to the same principals and a verified
installer.  The parser walks from one declared entry to the next and stays in the declared size
(`entriesFrom_inside`).
-/

namespace K5Vision.Identity

open Library Library.AccessLists

namespace Windows

/-! ## Identifiers -/

variable {offset : ℕ} {first second : List UInt8}

variable {data : List UInt8}

/-! ## Where the entries lie -/

def declaredSize (data : List UInt8) : ℕ := unsigned data 2 2

def declaredCount (data : List UInt8) : ℕ := unsigned data 4 2

def entryLength (data : List UInt8) (offset : ℕ) : ℕ := unsigned data (offset + 2) 2

/-- Where an entry begins, if the first one is at `start`: behind all those before it. -/
def entryOffset (data : List UInt8) (start : ℕ) : ℕ → ℕ
  | 0 => start
  | i + 1 => entryOffset data (start + entryLength data start) i

variable {entries : List AccessEntry}

/-- The loop went over all declared entries, and no one of them leaves the declared size. -/
theorem entriesFrom_inside {size count : ℕ} (h : entriesFrom data size count offset = .ok entries) :
    entries.length = count ∧ (∀ entry ∈ entries, entry.kind = 0 ∨ entry.kind = 1) ∧
      ∀ i < count, 16 ≤ entryLength data (entryOffset data offset i) ∧
        entryOffset data offset i + entryLength data (entryOffset data offset i) ≤ size := by
  induction count generalizing offset entries with
  | zero =>
      rw [entriesFrom] at h
      obtain rfl := Except.ok.inj h
      refine ⟨rfl, fun _ hmem => absurd hmem List.not_mem_nil, fun _ hi => ?_⟩
      exact absurd hi (Nat.not_lt_zero _)
  | succ count ih =>
      rw [entriesFrom] at h
      dsimp only at h
      split_ifs at h with hroom hunsupported hmask
      push Not at hunsupported
      obtain ⟨hkind, -, hminimum, -, hlength, -⟩ := hunsupported
      obtain ⟨sid, -, h⟩ := bind_ok h
      obtain ⟨rest, hrest, h⟩ := bind_ok h
      obtain rfl := Except.ok.inj h
      obtain ⟨hcount, hkinds, hinside⟩ := ih hrest
      refine ⟨congrArg (· + 1) hcount, ?_, ?_⟩
      · intro entry hmem
        rcases List.mem_cons.mp hmem with rfl | hmem
        · exact or_iff_not_imp_left.mpr hkind
        · exact hkinds entry hmem
      · intro i hi
        cases i with
        | zero => exact ⟨hminimum, hlength⟩
        | succ i => exact hinside i (Nat.lt_of_succ_lt_succ hi)

theorem aclEntries_ok (h : aclEntries data = .ok entries) : declaredSize data = data.length ∧
      entriesFrom data (declaredSize data) (declaredCount data) 8 = .ok entries := by
  rw [aclEntries] at h
  dsimp only at h
  split_ifs at h with hshort hunsupported
  push Not at hunsupported
  exact ⟨hunsupported.2.2.2.1, h⟩

/-! ## Generic rights -/

def rights (mask : BitVec 32) : Set ℕ :=
  {right | (mask.getLsbD right = true ∧ ∀ pair ∈ generic, pair.1.getLsbD right = false) ∨
    ∃ pair ∈ generic, mask &&& pair.1 ≠ 0 ∧ pair.2.getLsbD right = true}

variable {right : ℕ}

theorem getLsbD_of_disjoint {first second : BitVec 32} (h : first &&& second = 0)
    (hright : first.getLsbD right = true) : second.getLsbD right = false := by
  have hbit := congrArg (·.getLsbD right) h
  simpa [hright] using hbit

/-- One round of `expandedMask`. -/
def expandPair (mask : BitVec 32) (pair : BitVec 32 × BitVec 32) : BitVec 32 :=
  if mask &&& pair.1 ≠ 0 then mask &&& ~~~pair.1 ||| pair.2 else mask

theorem getLsbD_expandPair (mask : BitVec 32) (pair : BitVec 32 × BitVec 32) (right : ℕ) :
    (expandPair mask pair).getLsbD right = true ↔
      (mask.getLsbD right = true ∧ pair.1.getLsbD right = false) ∨
        (mask &&& pair.1 ≠ 0 ∧ pair.2.getLsbD right = true) := by
  rw [expandPair]
  split_ifs with hbit
  · by_cases hwidth : right < 32
    · have hnonzero : ¬ mask &&& pair.1 = 0#32 := hbit
      simp [hnonzero, hwidth]
    · simp [BitVec.getLsbD_of_ge, not_lt.mp hwidth]
  · rw [not_not] at hbit
    have hdisjoint : mask.getLsbD right = true → pair.1.getLsbD right = false :=
      getLsbD_of_disjoint hbit
    simpa [hbit] using hdisjoint

variable {mask : BitVec 32}

theorem expandPair_and {later : BitVec 32} {pair : BitVec 32 × BitVec 32}
    (hbit : pair.1 &&& later = 0) (hspecific : pair.2 &&& later = 0) :
    expandPair mask pair &&& later = mask &&& later := by
  refine BitVec.eq_of_getLsbD_eq fun i _ => ?_
  rw [BitVec.getLsbD_and, BitVec.getLsbD_and, Bool.eq_iff_iff, Bool.and_eq_true, Bool.and_eq_true,
    getLsbD_expandPair]
  constructor
  · rintro ⟨⟨hmask, -⟩ | ⟨-, hset⟩, hlater⟩
    · exact ⟨hmask, hlater⟩
    · rw [getLsbD_of_disjoint hspecific hset] at hlater
      exact absurd hlater Bool.false_ne_true
  · rintro ⟨hmask, hlater⟩
    rw [BitVec.and_comm] at hbit
    exact ⟨.inl ⟨hmask, getLsbD_of_disjoint hbit hlater⟩, hlater⟩

/-- All rounds, where no bit is set or replaced that a later round replaces. -/
theorem getLsbD_foldl_expandPair (pairs : List (BitVec 32 × BitVec 32))
    (hpairs : pairs.Pairwise fun earlier later =>
      earlier.1 &&& later.1 = 0 ∧ earlier.2 &&& later.1 = 0) (mask : BitVec 32) (right : ℕ) :
    (pairs.foldl expandPair mask).getLsbD right = true ↔
      (mask.getLsbD right = true ∧ ∀ pair ∈ pairs, pair.1.getLsbD right = false) ∨
        ∃ pair ∈ pairs, mask &&& pair.1 ≠ 0 ∧ pair.2.getLsbD right = true := by
  induction pairs generalizing mask with
  | nil => simp
  | cons pair rest ih =>
      obtain ⟨hlater, hrest⟩ := List.pairwise_cons.mp hpairs
      have hsame : ∀ later ∈ rest, expandPair mask pair &&& later.1 = mask &&& later.1 :=
        fun later hmem => expandPair_and (hlater later hmem).1 (hlater later hmem).2
      have hkept : pair.2.getLsbD right = true → ∀ later ∈ rest, later.1.getLsbD right = false :=
        fun hset later hmem => getLsbD_of_disjoint (hlater later hmem).2 hset
      rw [List.foldl_cons, ih hrest, getLsbD_expandPair]
      constructor
      · rintro (⟨⟨hmask, hbit⟩ | hset, hbits⟩ | ⟨later, hmem, hbit, hset⟩)
        · exact .inl ⟨hmask, List.forall_mem_cons.mpr ⟨hbit, hbits⟩⟩
        · exact .inr ⟨pair, List.mem_cons_self, hset⟩
        · rw [hsame later hmem] at hbit
          exact .inr ⟨later, List.mem_cons_of_mem _ hmem, hbit, hset⟩
      · rintro (⟨hmask, hbits⟩ | ⟨later, hmem, hbit, hset⟩)
        · obtain ⟨hbit, hbits⟩ := List.forall_mem_cons.mp hbits
          exact .inl ⟨.inl ⟨hmask, hbit⟩, hbits⟩
        · rcases List.mem_cons.mp hmem with rfl | hmem
          · exact .inl ⟨.inr ⟨hbit, hset⟩, hkept hset⟩
          · refine .inr ⟨later, hmem, ?_, hset⟩
            rwa [hsame later hmem]

theorem mem_rights_iff (mask : BitVec 32) (right : ℕ) :
    right ∈ rights mask ↔ (expandedMask mask).getLsbD right = true :=
  (getLsbD_foldl_expandPair generic (by decide) mask right).symm

/-! ## The policy -/

/-- An entry as the access check reads it. -/
def AccessEntry.granted (entry : AccessEntry) : Entry String ℕ where
  allow := entry.kind = 0
  subject := entry.sid
  rights := rights entry.mask
  objectInherit := entry.flags &&& 0x01#8 ≠ 0
  containerInherit := entry.flags &&& 0x02#8 ≠ 0
  noPropagate := entry.flags &&& 0x04#8 ≠ 0
  inheritOnly := entry.flags &&& 0x08#8 ≠ 0

/-- A file or a directory with an owner and the entries that were read. -/
def secured (kind : Kind) (owner : String) (entries : List AccessEntry) : Secured String ℕ where
  kind := kind
  owner := owner
  entries := entries.map AccessEntry.granted

def placeholders : Placeholders String where
  ownerRights := ownerRights
  creatorOwner := creatorOwner

/-- The right to add an object to a directory: adding a file is bit 1, a subdirectory bit 2. -/
def adds : Kind → ℕ
  | .file => 1
  | .directory => 2

/-- The policy's check of one entry. -/
def Unobjectionable (trusted : List String) (owner currentUser : String) (isPrivate : Bool)
    (entry : AccessEntry) : Prop :=
  entry.kind ≠ 1 → (isPrivate = false → entry.flags &&& 0x08#8 = 0) →
    resolvedSid owner currentUser entry ∈ trusted ∨
      expandedMask entry.mask &&& unsafeRights isPrivate = 0

variable {isPrivate : Bool} {owner currentUser : String} {trusted : List String}

theorem checkEntries_ok {fileInheritance result : Bool}
    (h : checkEntries trusted owner currentUser isPrivate entries fileInheritance = .ok result) :
    ∀ entry ∈ entries, Unobjectionable trusted owner currentUser isPrivate entry := by
  induction entries generalizing fileInheritance with
  | nil => exact fun _ hmem => absurd hmem List.not_mem_nil
  | cons entry rest ih =>
      rw [checkEntries] at h
      dsimp only at h
      split at h
      case isTrue hdenial =>
        exact List.forall_mem_cons.mpr ⟨fun hkind => absurd hdenial hkind, ih h⟩
      split at h
      case isTrue honly =>
        refine List.forall_mem_cons.mpr ⟨fun _ hself => ?_, ih h⟩
        exact absurd (hself honly.2) honly.1
      split at h
      case isTrue => cases h
      case isFalse hsafe =>
        rw [not_and_or, not_not, not_not] at hsafe
        exact List.forall_mem_cons.mpr ⟨fun _ _ => hsafe, ih h⟩

variable {requireFileInheritance verified : Bool}

theorem checkPolicy_ok
    (h : checkPolicy owner entries currentUser isPrivate requireFileInheritance verified = .ok ()) :
    owner ∈ trustedBy currentUser isPrivate verified ∧
      ∀ entry ∈ entries,
        Unobjectionable (trustedBy currentUser isPrivate verified) owner currentUser isPrivate
          entry := by
  rw [checkPolicy] at h
  split_ifs at h with howner
  obtain ⟨fileInheritance, hentries, -⟩ := bind_ok h
  exact ⟨howner, checkEntries_ok hentries⟩

theorem not_mem_rights (h : expandedMask mask &&& unsafeRights isPrivate = 0)
    (hright : right ∈ rights mask) : (unsafeRights isPrivate).getLsbD right = false :=
  getLsbD_of_disjoint h ((mem_rights_iff mask right).mp hright)

theorem rights_eq_empty (h : expandedMask mask &&& unsafeRights true = 0) :
    ¬ (rights mask).Nonempty := by
  rintro ⟨right, hright⟩
  have habsent := not_mem_rights h hright
  have hall : unsafeRights true = BitVec.allOnes 32 := rfl
  have hbit := (mem_rights_iff mask right).mp hright
  have hwidth : right < 32 := BitVec.lt_of_getLsbD hbit
  rw [hall, BitVec.getLsbD_allOnes] at habsent
  exact absurd hwidth (of_decide_eq_false habsent)

theorem resolvedSid_mem {entry : AccessEntry} (h : resolvedSid owner currentUser entry ∈ trusted) :
    placeholders.holder owner entry.granted ∈ trusted ∨
      entry.granted.subject = placeholders.creatorOwner ∧ entry.granted.inheritOnly = true := by
  rw [resolvedSid] at h
  rw [Placeholders.holder]
  by_cases howner : entry.sid = ownerRights
  · rw [if_pos howner] at h
    exact .inl ((if_pos (c := entry.granted.subject = placeholders.ownerRights) howner).symm ▸ h)
  rw [if_neg howner] at h
  by_cases hcreator : entry.sid = creatorOwner ∧ entry.flags &&& 0x08#8 ≠ 0
  · exact .inr ⟨hcreator.1, decide_eq_true hcreator.2⟩
  · rw [if_neg hcreator] at h
    exact .inl ((if_neg (c := entry.granted.subject = placeholders.ownerRights) howner).symm ▸ h)

theorem confined_of_checkPolicy (kind : Kind)
    (h : checkPolicy owner entries currentUser true requireFileInheritance verified = .ok ()) :
    Confined placeholders {principal | principal ∈ trustedBy currentUser true verified}
      (secured kind owner entries) := by
  obtain ⟨howner, hentries⟩ := checkPolicy_ok h
  refine ⟨howner, fun granted hmem hallow hrights => ?_⟩
  obtain ⟨entry, hentry, rfl⟩ := List.mem_map.mp hmem
  have hkind : entry.kind ≠ 1 := by
    rw [of_decide_eq_true hallow]
    decide
  rcases hentries entry hentry hkind (fun hprivate => absurd hprivate (by decide)) with hsid | hmask
  · exact resolvedSid_mem hsid
  · exact absurd hrights (rights_eq_empty hmask)

variable {principal : String}

/-- What an accepted ancestor grants of the unsafe rights, it grants to the trusted. -/
theorem trusted_of_checkPolicy {kind : Kind}
    (h : checkPolicy owner entries currentUser false requireFileInheritance verified = .ok ())
    (hmutation : ancestorMutation.getLsbD right = true)
    (hgrants : Grants placeholders (secured kind owner entries) principal right) :
    principal ∈ trustedBy currentUser false verified := by
  obtain ⟨-, hentries⟩ := checkPolicy_ok h
  obtain ⟨granted, hmem, hallow, hself, hholder, hright⟩ := hgrants
  obtain ⟨entry, hentry, rfl⟩ := List.mem_map.mp hmem
  have hkind : entry.kind ≠ 1 := by
    rw [of_decide_eq_true hallow]
    decide
  have hflag : entry.flags &&& 0x08#8 = 0 := not_not.mp (of_decide_eq_false hself)
  rcases hentries entry hentry hkind (fun _ => hflag) with hsid | hmask
  · rcases resolvedSid_mem hsid with htrusted | ⟨-, honly⟩
    · rw [Set.mem_singleton_iff] at hholder
      exact hholder ▸ htrusted
    · rw [hself] at honly
      exact absurd honly Bool.false_ne_true
  · have hsafe : ancestorMutation.getLsbD right = false := not_mem_rights hmask hright
    rw [hsafe] at hmutation
    exact absurd hmutation Bool.false_ne_true

theorem mem_trustedBy_private : principal ∈ trustedBy currentUser true verified ↔
      principal = currentUser ∨ principal = administrators ∨ principal = system := by
  simp [trustedBy]

theorem mem_trustedBy_ancestor : principal ∈ trustedBy currentUser false verified ↔
      principal = currentUser ∨ principal = administrators ∨ principal = system ∨
        principal = trustedInstaller ∧ verified = true := by
  cases verified <;> simp [trustedBy]

/-! ## The admission -/

/-- The admission is sound.  The entries that were read lie in the declared size.  If the policy
accepts them for a private path, then neither there nor on any object that comes to be below it does
an allow entry grant a right to anybody but the current user, the administrators and the system.  If
it accepts them for an ancestor, then none grants a right to mutate to anybody but these and a
verified installer. -/
theorem admission_sound (data : List UInt8) (owner currentUser : String)
    (entries : List AccessEntry) (requireFileInheritance verified : Bool) (kind : Kind)
    (hentries : aclEntries data = .ok entries) :
    (checkPolicy owner entries currentUser true requireFileInheritance verified = .ok () →
      ∀ object, Below placeholders adds currentUser (secured kind owner entries) object →
        ∀ principal right, Grants placeholders object principal right →
          principal = currentUser ∨ principal = administrators ∨ principal = system) ∧
    (checkPolicy owner entries currentUser false requireFileInheritance verified = .ok () →
      ∀ principal right, ancestorMutation.getLsbD right = true →
        Grants placeholders (secured kind owner entries) principal right →
          principal = currentUser ∨ principal = administrators ∨ principal = system ∨
            principal = trustedInstaller ∧ verified = true) ∧
    declaredSize data = data.length ∧ entries.length = declaredCount data ∧
      ∀ i < declaredCount data,
        entryOffset data 8 i + entryLength data (entryOffset data 8 i) ≤ declaredSize data := by
  refine ⟨fun hpolicy object hbelow principal right hgrants => ?_,
    fun hpolicy principal right hmutation hgrants => ?_, ?_⟩
  · have hroot := confined_of_checkPolicy kind hpolicy
    have hprocess : currentUser ∈ trustedBy currentUser true verified :=
      mem_trustedBy_private.mpr (.inl rfl)
    exact mem_trustedBy_private.mp ((hbelow.confined hroot hprocess).trusted_of_grants hgrants)
  · exact mem_trustedBy_ancestor.mp (trusted_of_checkPolicy hpolicy hmutation hgrants)
  · obtain ⟨hsize, hread⟩ := aclEntries_ok hentries
    obtain ⟨hcount, -, hinside⟩ := entriesFrom_inside hread
    exact ⟨hsize, hcount, fun i hi => (hinside i hi).2⟩

/-- A directory of the system, with its own entry and one that is passed on to whoever creates. -/
def systemList : List UInt8 :=
  [2, 0, 48, 0, 2, 0, 0, 0] ++
    [0, 0x03, 20, 0, 0xFF, 0x01, 0x1F, 0, 1, 1, 0, 0, 0, 0, 0, 5, 18, 0, 0, 0] ++
    [0, 0x0B, 20, 0, 0, 0, 0, 0x10, 1, 1, 0, 0, 0, 0, 0, 3, 0, 0, 0, 0]

def systemEntries : List AccessEntry :=
  [⟨0, 0x03#8, fileAll, system⟩, ⟨0, 0x0B#8, 0x10000000#32, creatorOwner⟩]

theorem admission_sound_system : (∀ object,
      Below placeholders adds "S-1-5-21-7" (secured .directory system systemEntries) object →
        ∀ principal right, Grants placeholders object principal right →
          principal = "S-1-5-21-7" ∨ principal = administrators ∨ principal = system) ∧
    (∀ principal right, ancestorMutation.getLsbD right = true →
      Grants placeholders (secured .directory system systemEntries) principal right →
        principal = "S-1-5-21-7" ∨ principal = administrators ∨ principal = system ∨
          principal = trustedInstaller ∧ false = true) ∧
    declaredSize systemList = 48 ∧ systemEntries.length = declaredCount systemList := by
  have hsound := admission_sound systemList system "S-1-5-21-7" systemEntries true false .directory
    (by decide +kernel)
  exact ⟨hsound.1 (by decide +kernel), hsound.2.1 (by decide +kernel), hsound.2.2.1,
    hsound.2.2.2.1⟩

end Windows

end K5Vision.Identity
