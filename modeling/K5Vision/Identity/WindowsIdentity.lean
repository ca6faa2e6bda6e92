import K5Vision.Library.BigEndian
import Mathlib.Data.Nat.Notation

/-!
# Windows admission of the identity state

The security descriptor of a path as the admission reads it: an identifier becomes its text
(`sidBytes`), an access list its entries (`aclEntries`), and the policy accepts an owner with these
entries or refuses them (`checkPolicy`).  Flags and masks are as wide as the list stores them.
-/

namespace K5Vision.Identity

open Library

namespace Windows

def administrators : String := "S-1-5-32-544"

def system : String := "S-1-5-18"

def ownerRights : String := "S-1-3-4"

def creatorOwner : String := "S-1-3-0"

def trustedInstaller : String := "S-1-5-80-956008885-3418522649-1831038044-1853292631-2271478464"

/-- Delete, write the list or the owner, delete a child, write attributes, and the system list. -/
def ancestorMutation : BitVec 32 := 0x010D0150#32

def fileAll : BitVec 32 := 0x001F01FF#32

def generic : List (BitVec 32 × BitVec 32) :=
  [(0x80000000#32, 0x00120089#32), (0x40000000#32, 0x00120116#32),
    (0x20000000#32, 0x001200A0#32), (0x10000000#32, fileAll)]

structure WindowsIdentitySecurityError where
  message : String
  deriving DecidableEq

structure AccessEntry where
  kind : ℕ
  flags : BitVec 8
  mask : BitVec 32
  sid : String
  deriving DecidableEq

/-! ## Reading -/

/-- The unsigned number in the `width` bytes at an offset. -/
def unsigned (data : List UInt8) (offset width : ℕ) : ℕ :=
  ofLittleEndian ((data.drop offset).take width)

def sidNumbers (data : List UInt8) : List ℕ :=
  1 :: ofBigEndian ((data.take 8).drop 2) ::
    (List.range (unsigned data 1 1)).map fun i => unsigned data (8 + 4 * i) 4

def sidBytes (data : List UInt8) : Except WindowsIdentitySecurityError String :=
  if data.length < 8 ∨ unsigned data 0 1 ≠ 1 ∨ 15 < unsigned data 1 1 ∨
      data.length ≠ 8 + unsigned data 1 1 * 4 then
    .error ⟨"unsupported Windows security identifier"⟩
  else
    .ok (String.intercalate "-" ("S" :: (sidNumbers data).map toString))

/-- The loop of `aclEntries`, with `count` entries to go. -/
def entriesFrom (data : List UInt8) (size : ℕ) :
    ℕ → ℕ → Except WindowsIdentitySecurityError (List AccessEntry)
  | 0, _ => .ok []
  | count + 1, offset =>
    if offset + 16 > size then
      .error ⟨"invalid Windows identity ACL entry"⟩
    else
      let kind := unsigned data offset 1
      let flags := BitVec.ofNat 8 (unsigned data (offset + 1) 1)
      let length := unsigned data (offset + 2) 2
      let mask := BitVec.ofNat 32 (unsigned data (offset + 4) 4)
      if (kind ≠ 0 ∧ kind ≠ 1) ∨ flags &&& ~~~0x1F#8 ≠ 0 ∨ length < 16 ∨ length % 4 ≠ 0 ∨
          offset + length > size ∨ (flags &&& 0x08#8 ≠ 0 ∧ flags &&& 0x03#8 = 0) then
        .error ⟨"unsupported Windows identity ACL entry"⟩
      else if mask &&& ~~~(fileAll ||| 0xF1000000#32) ≠ 0 then
        .error ⟨"unsupported Windows identity access mask"⟩
      else do
        let sid ← sidBytes ((data.take (offset + length)).drop (offset + 8))
        let rest ← entriesFrom data size count (offset + length)
        return ⟨kind, flags, mask, sid⟩ :: rest

def aclEntries (data : List UInt8) : Except WindowsIdentitySecurityError (List AccessEntry) :=
  if data.length < 8 then
    .error ⟨"invalid Windows identity ACL"⟩
  else
    let revision := unsigned data 0 1
    let reserved := unsigned data 1 1
    let size := unsigned data 2 2
    let count := unsigned data 4 2
    let reserved2 := unsigned data 6 2
    if (revision ≠ 2 ∧ revision ≠ 4) ∨ reserved ≠ 0 ∨ reserved2 ≠ 0 ∨ size ≠ data.length ∨
        size % 4 ≠ 0 ∨ count > 4096 then
      .error ⟨"unsupported Windows identity ACL"⟩
    else
      entriesFrom data size count 8

/-! ## The policy -/

def expandedMask (mask : BitVec 32) : BitVec 32 :=
  generic.foldl (fun mask (bit, specific) =>
    if mask &&& bit ≠ 0 then mask &&& ~~~bit ||| specific else mask) mask

/-- The principals that the policy lets have every right. -/
def trustedBy (currentUser : String) (isPrivate trustedInstallerVerified : Bool) : List String :=
  [currentUser, administrators, system] ++
    if !isPrivate && trustedInstallerVerified then [trustedInstaller] else []

/-- The principal that the policy takes an entry to be for. -/
def resolvedSid (owner currentUser : String) (entry : AccessEntry) : String :=
  if entry.sid = ownerRights then owner
  else if entry.sid = creatorOwner ∧ entry.flags &&& 0x08#8 ≠ 0 then currentUser
  else entry.sid

/-- The rights that nobody else may have. -/
def unsafeRights (isPrivate : Bool) : BitVec 32 :=
  if isPrivate then 0xFFFFFFFF#32 else ancestorMutation

/-- The loop of `checkPolicy`: whether files inherit an entry, if none of them is unsafe. -/
def checkEntries (trusted : List String) (owner currentUser : String) (isPrivate : Bool) :
    List AccessEntry → Bool → Except WindowsIdentitySecurityError Bool
  | [], fileInheritance => .ok fileInheritance
  | entry :: rest, fileInheritance =>
    if entry.kind = 1 then
      checkEntries trusted owner currentUser isPrivate rest fileInheritance
    else if entry.flags &&& 0x08#8 ≠ 0 ∧ isPrivate = false then
      checkEntries trusted owner currentUser isPrivate rest fileInheritance
    else
      let sid := resolvedSid owner currentUser entry
      let mask := expandedMask entry.mask
      if sid ∉ trusted ∧ mask &&& unsafeRights isPrivate ≠ 0 then
        .error ⟨"Windows identity path grants unsafe access"⟩
      else
        checkEntries trusted owner currentUser isPrivate rest
          (if sid ∈ trusted ∧ entry.flags &&& 0x01#8 ≠ 0 ∧ mask &&& 0x03#32 = 0x03#32 then true
            else fileInheritance)

def checkPolicy (owner : String) (entries : List AccessEntry) (currentUser : String)
    (isPrivate requireFileInheritance trustedInstallerVerified : Bool) :
    Except WindowsIdentitySecurityError Unit :=
  let trusted := trustedBy currentUser isPrivate trustedInstallerVerified
  if owner ∉ trusted then
    .error ⟨"Windows identity path has unsupported ownership"⟩
  else do
    let fileInheritance ← checkEntries trusted owner currentUser isPrivate entries false
    if requireFileInheritance && !fileInheritance then
      .error ⟨"Windows identity directory lacks private file inheritance"⟩
    else
      .ok ()

end Windows

end K5Vision.Identity
