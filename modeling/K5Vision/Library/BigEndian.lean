import Mathlib.Data.List.Induction
import Mathlib.Tactic.Ring

/-!
# Fixed-width big-endian numbers

`toBigEndian width n` is the last `width` base-256 digits of `n`, most
significant first; `ofBigEndian` reads digits of any number.  The two are
inverse to each other on the numbers below `256 ^ width` and on the byte
strings of length `width`.  `ofLittleEndian` reads the digits from the other end.
-/

namespace Library

/-- The number whose base-256 digits are `bytes`, most significant first. -/
def ofBigEndian (bytes : List UInt8) : ℕ :=
  bytes.foldl (fun acc byte => acc * 256 + byte.toNat) 0

/-- The last `width` base-256 digits of `n`, most significant first. -/
def toBigEndian : ℕ → ℕ → List UInt8
  | 0, _ => []
  | width + 1, n => toBigEndian width (n / 256) ++ [UInt8.ofNat n]

@[simp] theorem ofBigEndian_nil : ofBigEndian [] = 0 := rfl

@[simp] theorem ofBigEndian_snoc (bytes : List UInt8) (byte : UInt8) :
    ofBigEndian (bytes ++ [byte]) = ofBigEndian bytes * 256 + byte.toNat := by
  simp [ofBigEndian]

@[simp] theorem length_toBigEndian (width n : ℕ) : (toBigEndian width n).length = width := by
  induction width generalizing n with
  | zero => rfl
  | succ width ih => simp [toBigEndian, ih]

@[simp] theorem ofBigEndian_toBigEndian {width n : ℕ} (hn : n < 256 ^ width) :
    ofBigEndian (toBigEndian width n) = n := by
  induction width generalizing n with
  | zero =>
      have hzero : n = 0 := by simpa using hn
      rw [hzero]
      rfl
  | succ width ih =>
      have hdiv : n / 256 < 256 ^ width := by
        rw [Nat.div_lt_iff_lt_mul (by norm_num)]
        simpa [pow_succ] using hn
      rw [toBigEndian, ofBigEndian_snoc, ih hdiv, UInt8.toNat_ofNat']
      omega

theorem toBigEndian_ofBigEndian {width : ℕ} {bytes : List UInt8} (hlength : bytes.length = width) :
    toBigEndian width (ofBigEndian bytes) = bytes := by
  subst hlength
  induction bytes using List.reverseRecOn with
  | nil => rfl
  | append_singleton bytes byte ih =>
      have hbyte : byte.toNat < 256 := byte.toNat_lt
      have hdiv : (ofBigEndian bytes * 256 + byte.toNat) / 256 = ofBigEndian bytes := by omega
      have hlast : UInt8.ofNat (ofBigEndian bytes * 256 + byte.toNat) = byte := by
        apply UInt8.toNat_inj.mp
        rw [UInt8.toNat_ofNat']
        omega
      rw [List.length_append, List.length_singleton, toBigEndian, ofBigEndian_snoc, hdiv, ih, hlast]

/-- The number whose base-256 digits are `bytes`, least significant first. -/
def ofLittleEndian (bytes : List UInt8) : ℕ := ofBigEndian bytes.reverse

end Library
