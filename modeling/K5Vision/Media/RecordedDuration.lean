import K5Vision.Media.OperatorRecording
import K5Vision.Media.PlaybackRead

/-!
# The milliseconds a descriptor loses

The recorder counts `d` milliseconds and stores an end that lies `1000 * d`
microseconds behind the start.  The validator recovers `d` as the truncated
product of `d / 1000`, rounded to 53 bits, and `1000`, rounded again.

Scaled by `2 ^ (52 - k)`, with `2 ^ k ≤ d < 2 ^ (k + 1)`, the first rounding is
one of `128 D / 125` or of `64 D / 125` to an integer `M`, where `D` is `d` scaled.
In the first case the second rounding always comes back to `D`.  In the second
the product is `D - (64 D - 125 M) / 64`, which is below `D` by more than a half
when the first rounding went down by more than `32 / 125`, and then the second
one stops below `d`.
-/

namespace K5Vision.Media

open Library

/-- The durations the validator computes one millisecond too short. -/
def LosesMillisecond (d : ℕ) : Prop :=
  125 * 2 ^ Nat.log 2 d ≤ 64 * d ∧
    33 ≤ d * 2 ^ (58 - Nat.log 2 d) % 125 ∧ d * 2 ^ (58 - Nat.log 2 d) % 125 ≤ 62

instance (d : ℕ) : Decidable (LosesMillisecond d) := inferInstanceAs (Decidable (_ ∧ _))

/-! ## The two roundings -/

section Binade

variable {k d : ℕ}

theorem roundHalfEven_div_125 (n : ℕ) : ∃ r : ℤ, 125 * roundHalfEven ((n : ℚ) / (125 : ℕ)) = n - r ∧
      (n % 125 ≤ 62 ∧ r = n % 125 ∨ 63 ≤ n % 125 ∧ r = n % 125 - 125) := by
  by_cases hr : n % 125 ≤ 62
  · refine ⟨n % 125, ?_, Or.inl ⟨hr, rfl⟩⟩
    rw [roundHalfEven_div_of_lt (by omega)]
    omega
  · refine ⟨n % 125 - 125, ?_, Or.inr ⟨by omega, rfl⟩⟩
    rw [roundHalfEven_div_of_gt (by norm_num) (by omega)]
    omega

theorem two_zpow_sub (hk : k ≤ 52) : (2 : ℚ) ^ ((52 : ℤ) - k) = ((2 ^ (52 - k) : ℕ) : ℚ) := by
  have hcast : ((52 - k : ℕ) : ℤ) = (52 : ℤ) - k := by omega
  rw [← hcast, zpow_natCast]
  push_cast
  rfl

theorem two_zpow_shift (a b : ℤ) : (2 : ℚ) ^ (a + b) = 2 ^ a * 2 ^ b :=
  zpow_add₀ (by norm_num) a b

theorem totalSeconds_lower (hk : k ≤ 25) (hlow : 2 ^ k ≤ d) (hcase : 64 * d < 125 * 2 ^ k) :
    totalSeconds (d * 1000 : ℕ) =
      roundHalfEven (((128 * (d * 2 ^ (52 - k)) : ℕ) : ℚ) / (125 : ℕ)) * 2 ^ ((k : ℤ) - 62) := by
  have hlow' : (2 : ℚ) ^ k ≤ d := by exact_mod_cast hlow
  have hcase' : (64 : ℚ) * d < 125 * 2 ^ k := by exact_mod_cast hcase
  have hvalue : (((d * 1000 : ℕ) : ℤ) : ℚ) / ((1000000 : ℤ) : ℚ) = d / 1000 := by
    push_cast
    ring
  rw [totalSeconds, trueDivide, hvalue, roundToPrecision_eq_of_mem_binade 53 (e := (k : ℤ) - 10)]
  · have hscale : (2 : ℚ) ^ (((53 : ℕ) : ℤ) - 1 - ((k : ℤ) - 10)) = 2 ^ ((52 : ℤ) - k) * 1024 := by
      rw [show ((53 : ℕ) : ℤ) - 1 - ((k : ℤ) - 10) = (52 - k) + 10 by push_cast; ring,
        two_zpow_shift]
      norm_num
    rw [hscale, two_zpow_sub (by omega)]
    congr 2
    · push_cast
      congr 1
      ring
    · push_cast
      ring
  · rw [show (k : ℤ) - 10 = k + (-10) by ring, two_zpow_shift, zpow_natCast]
    norm_num
    linarith
  · rw [show (k : ℤ) - 10 + 1 = k + (-9) by ring, two_zpow_shift, zpow_natCast]
    norm_num
    linarith

theorem totalSeconds_upper (hk : k ≤ 25) (hhigh : d < 2 ^ (k + 1)) (hcase : 125 * 2 ^ k ≤ 64 * d) :
    totalSeconds (d * 1000 : ℕ) =
      roundHalfEven (((d * 2 ^ (58 - k) : ℕ) : ℚ) / (125 : ℕ)) * 2 ^ ((k : ℤ) - 61) := by
  have hhigh' : (d : ℚ) < 2 ^ k * 2 := by exact_mod_cast hhigh
  have hcase' : (125 : ℚ) * 2 ^ k ≤ 64 * d := by exact_mod_cast hcase
  have hvalue : (((d * 1000 : ℕ) : ℤ) : ℚ) / ((1000000 : ℤ) : ℚ) = d / 1000 := by
    push_cast
    ring
  rw [totalSeconds, trueDivide, hvalue, roundToPrecision_eq_of_mem_binade 53 (e := (k : ℤ) - 9)]
  · have hscale : (2 : ℚ) ^ (((53 : ℕ) : ℤ) - 1 - ((k : ℤ) - 9)) = 2 ^ ((52 : ℤ) - k) * 512 := by
      rw [show ((53 : ℕ) : ℤ) - 1 - ((k : ℤ) - 9) = (52 - k) + 9 by push_cast; ring,
        two_zpow_shift]
      norm_num
    have hpow : 2 ^ (58 - k) = 2 ^ (52 - k) * 64 := by
      rw [show 58 - k = (52 - k) + 6 by omega, pow_add]
      norm_num
    rw [hscale, two_zpow_sub (by omega), hpow]
    congr 2
    · push_cast
      congr 1
      ring
    · push_cast
      ring
  · rw [show (k : ℤ) - 9 = k + (-9) by ring, two_zpow_shift, zpow_natCast]
    norm_num
    linarith
  · rw [show (k : ℤ) - 9 + 1 = k + (-8) by ring, two_zpow_shift, zpow_natCast]
    norm_num
    have : (0 : ℚ) < 2 ^ k := by positivity
    linarith

theorem truncate_rounded_eq_iff (hk : k ≤ 25) {z : ℚ} (hlow : 2 ^ k ≤ z) (hhigh : z < 2 ^ (k + 1)) :
    truncate (roundToPrecision 53 z) = d ↔
      ((d * 2 ^ (52 - k) : ℕ) : ℤ) ≤ roundHalfEven (z * (2 ^ (52 - k) : ℕ)) ∧
        roundHalfEven (z * (2 ^ (52 - k) : ℕ)) < ((d * 2 ^ (52 - k) : ℕ) : ℤ) + (2 ^ (52 - k) : ℕ) := by
  have hround : roundToPrecision 53 z =
      roundHalfEven (z * (2 ^ (52 - k) : ℕ)) / ((2 ^ (52 - k) : ℕ) : ℚ) := by
    rw [roundToPrecision_eq_of_mem_binade 53 (e := (k : ℤ)) (by exact_mod_cast hlow)
      (by exact_mod_cast hhigh), ← two_zpow_sub (by omega), div_eq_mul_inv, ← zpow_neg]
    congr 3
    push_cast
    ring
  have hpos : (0 : ℚ) < ((2 ^ (52 - k) : ℕ) : ℚ) := by positivity
  have hz : (0 : ℤ) ≤ roundHalfEven (z * (2 ^ (52 - k) : ℕ)) := by
    have hzero : roundHalfEven ((0 : ℤ) : ℚ) = 0 := roundHalfEven_intCast 0
    rw [← hzero]
    apply roundHalfEven_mono
    have : (0 : ℚ) ≤ z := le_trans (by positivity) hlow
    push_cast
    positivity
  have hnonneg : 0 ≤ roundToPrecision 53 z := by
    rw [hround]
    exact div_nonneg (by exact_mod_cast hz) hpos.le
  rw [truncate, if_pos hnonneg, Int.floor_eq_iff, hround, le_div_iff₀ hpos, div_lt_iff₀ hpos]
  constructor
  · rintro ⟨hle, hlt⟩
    refine ⟨by exact_mod_cast hle, ?_⟩
    have hlt' : (roundHalfEven (z * (2 ^ (52 - k) : ℕ)) : ℚ) <
        (((d * 2 ^ (52 - k) : ℕ) : ℤ) + (2 ^ (52 - k) : ℕ) : ℤ) := by
      refine hlt.trans_eq ?_
      push_cast
      ring
    exact_mod_cast hlt'
  · rintro ⟨hle, hlt⟩
    refine ⟨by exact_mod_cast hle, ?_⟩
    have hlt' : (roundHalfEven (z * (2 ^ (52 - k) : ℕ)) : ℚ) <
        (((d * 2 ^ (52 - k) : ℕ) : ℤ) + (2 ^ (52 - k) : ℕ) : ℤ) := by exact_mod_cast hlt
    refine hlt'.trans_eq ?_
    push_cast
    ring

theorem scale_mul_pow (hk : k ≤ 25) : 2 ^ k * 2 ^ (52 - k) = 2 ^ 52 := by
  rw [← pow_add]
  congr 1
  omega

theorem product_mul_scale (hk : k ≤ 25) (M : ℤ) {n j : ℕ} (hn : n = 52 + j) :
    (M : ℚ) * 2 ^ ((k : ℤ) - n) * 1000 * (2 ^ (52 - k) : ℕ) = M * 1000 / 2 ^ j := by
  have hexp : (k : ℤ) - n = -((52 : ℤ) - k) + -j := by omega
  have hpos : ((2 ^ (52 - k) : ℕ) : ℚ) ≠ 0 := by positivity
  rw [hexp, two_zpow_shift, zpow_neg, zpow_neg, two_zpow_sub (by omega), zpow_natCast]
  field_simp

/-- The second rounding and the truncation come back to `d` from a product that
lies at most half a unit below it. -/
theorem truncate_product_eq_iff (hk : k ≤ 25) (hhigh : d < 2 ^ (k + 1)) {z δ : ℚ}
    (hz : z * (2 ^ (52 - k) : ℕ) = (d * 2 ^ (52 - k) : ℕ) - δ)
    (hlow : (2 ^ 52 : ℚ) ≤ (d * 2 ^ (52 - k) : ℕ) - δ) (hδ : -1 < δ ∧ δ < 1) :
    truncate (roundToPrecision 53 z) = d ↔ δ ≤ 1 / 2 := by
  have hscale := scale_mul_pow hk
  have heven : Even ((d * 2 ^ (52 - k) : ℕ) : ℤ) := by
    rw [Int.even_coe_nat]
    exact ((Nat.even_pow.mpr ⟨even_two, by omega⟩).mul_left d)
  have hlarge : (2 : ℤ) ≤ (2 ^ (52 - k) : ℕ) := by
    exact_mod_cast Nat.pow_le_pow_right (n := 2) (by norm_num) (by omega : 1 ≤ 52 - k)
  have hroom : d * 2 ^ (52 - k) + 2 ^ (52 - k) ≤ 2 ^ 53 := by
    calc d * 2 ^ (52 - k) + 2 ^ (52 - k) = (d + 1) * 2 ^ (52 - k) := by ring
      _ ≤ 2 ^ (k + 1) * 2 ^ (52 - k) := Nat.mul_le_mul_right _ hhigh
      _ = 2 * (2 ^ k * 2 ^ (52 - k)) := by ring
      _ = 2 ^ 53 := by rw [hscale]; norm_num
  have hscaleQ : (2 : ℚ) ^ k * (2 ^ (52 - k) : ℕ) = 2 ^ 52 := by exact_mod_cast hscale
  have hroomQ : ((d * 2 ^ (52 - k) : ℕ) : ℚ) + (2 ^ (52 - k) : ℕ) ≤ 2 ^ 53 := by
    exact_mod_cast hroom
  have hlargeQ : (2 : ℚ) ≤ (2 ^ (52 - k) : ℕ) := by exact_mod_cast hlarge
  have hpos : (0 : ℚ) < (2 ^ (52 - k) : ℕ) := by linarith
  have hzlow : 2 ^ k ≤ z := by
    refine le_of_mul_le_mul_right ?_ hpos
    rw [hscaleQ, hz]
    exact hlow
  have hzhigh : z < 2 ^ (k + 1) := by
    refine lt_of_mul_lt_mul_right ?_ hpos.le
    calc z * (2 ^ (52 - k) : ℕ) = (d * 2 ^ (52 - k) : ℕ) - δ := hz
      _ < 2 ^ 53 := by linarith [hδ.1]
      _ = 2 ^ k * (2 ^ (52 - k) : ℕ) * 2 := by rw [hscaleQ]; norm_num
      _ = 2 ^ (k + 1) * (2 ^ (52 - k) : ℕ) := by rw [pow_succ, mul_right_comm]
  have hupper : roundHalfEven (z * (2 ^ (52 - k) : ℕ)) ≤ ((d * 2 ^ (52 - k) : ℕ) : ℤ) + 1 := by
    have hone := roundHalfEven_intCast (K := ℚ) (((d * 2 ^ (52 - k) : ℕ) : ℤ) + 1)
    rw [← hone, hz]
    apply roundHalfEven_mono
    push_cast
    linarith [hδ.1]
  rw [truncate_rounded_eq_iff hk hzlow hzhigh]
  have hlower := le_roundHalfEven_sub_iff heven hδ.2
  rw [Int.cast_natCast, ← hz] at hlower
  rw [hlower]
  exact ⟨And.left, fun h => ⟨h, by linarith⟩⟩

theorem expectedMilliseconds_lower (hk : k ≤ 25) (hlow : 2 ^ k ≤ d) (hhigh : d < 2 ^ (k + 1))
    (hcase : 64 * d < 125 * 2 ^ k) : expectedMilliseconds (d * 1000 : ℕ) = d := by
  obtain ⟨r, hr, hcases⟩ := roundHalfEven_div_125 (128 * (d * 2 ^ (52 - k)))
  rw [expectedMilliseconds, floatMul, totalSeconds_lower hk hlow hcase]
  generalize roundHalfEven (((128 * (d * 2 ^ (52 - k)) : ℕ) : ℚ) / (125 : ℕ)) = M at hr
  have hbound : -62 ≤ r ∧ r ≤ 62 := by omega
  have hrQ : (125 : ℚ) * M = 128 * (d * 2 ^ (52 - k) : ℕ) - r := by exact_mod_cast hr
  have hboundQ : (-62 : ℚ) ≤ r ∧ (r : ℚ) ≤ 62 := by exact_mod_cast hbound
  have hstart : (2 ^ 52 : ℚ) ≤ (d * 2 ^ (52 - k) : ℕ) - (r : ℚ) / 128 := by
    have hscale := scale_mul_pow hk
    rcases hlow.eq_or_lt with heq | hlt
    · -- a power of two: the first rounding went up
      rw [← heq, hscale] at hcases ⊢
      have hneg : (r : ℚ) ≤ 0 := by
        have : r ≤ 0 := by omega
        exact_mod_cast this
      push_cast
      linarith
    · have hnext : 2 ^ 52 + 1 ≤ d * 2 ^ (52 - k) := by
        calc 2 ^ 52 + 1 ≤ 2 ^ k * 2 ^ (52 - k) + 2 ^ (52 - k) := by
              rw [hscale]
              exact Nat.add_le_add_left Nat.one_le_two_pow _
          _ = (2 ^ k + 1) * 2 ^ (52 - k) := by ring
          _ ≤ d * 2 ^ (52 - k) := Nat.mul_le_mul_right _ hlt
      have hnextQ : (2 ^ 52 + 1 : ℚ) ≤ (d * 2 ^ (52 - k) : ℕ) := by exact_mod_cast hnext
      linarith [hboundQ.2]
  refine (truncate_product_eq_iff hk hhigh (δ := (r : ℚ) / 128) ?_ hstart ?_).mpr ?_
  · calc _ = (M : ℚ) * 1000 / 2 ^ 10 := product_mul_scale hk M (n := 62) rfl
      _ = (d * 2 ^ (52 - k) : ℕ) - (r : ℚ) / 128 := by linarith
  · constructor <;> linarith [hboundQ.1, hboundQ.2]
  · linarith [hboundQ.2]

/-- In the upper binade they come back to `d` unless the first one went down by
more than `32 / 125`. -/
theorem expectedMilliseconds_upper (hk : k ≤ 25) (hhigh : d < 2 ^ (k + 1))
    (hcase : 125 * 2 ^ k ≤ 64 * d) :
    expectedMilliseconds (d * 1000 : ℕ) = d ↔
      ¬ (33 ≤ d * 2 ^ (58 - k) % 125 ∧ d * 2 ^ (58 - k) % 125 ≤ 62) := by
  obtain ⟨r, hr, hcases⟩ := roundHalfEven_div_125 (d * 2 ^ (58 - k))
  rw [expectedMilliseconds, floatMul, totalSeconds_upper hk hhigh hcase]
  generalize roundHalfEven (((d * 2 ^ (58 - k) : ℕ) : ℚ) / (125 : ℕ)) = M at hr
  have hpow : d * 2 ^ (58 - k) = 64 * (d * 2 ^ (52 - k)) := by
    rw [show 58 - k = (52 - k) + 6 by omega, pow_add]
    ring
  have hbound : -62 ≤ r ∧ r ≤ 62 := by omega
  have hrQ : (125 : ℚ) * M = 64 * (d * 2 ^ (52 - k) : ℕ) - r := by
    rw [hpow] at hr
    exact_mod_cast hr
  have hboundQ : (-62 : ℚ) ≤ r ∧ (r : ℚ) ≤ 62 := by exact_mod_cast hbound
  have hstart : (2 ^ 52 : ℚ) ≤ (d * 2 ^ (52 - k) : ℕ) - (r : ℚ) / 64 := by
    have hnext : 125 * 2 ^ 52 ≤ 64 * (d * 2 ^ (52 - k)) := by
      calc 125 * 2 ^ 52 = 125 * 2 ^ k * 2 ^ (52 - k) := by rw [mul_assoc, scale_mul_pow hk]
        _ ≤ 64 * d * 2 ^ (52 - k) := Nat.mul_le_mul_right _ hcase
        _ = 64 * (d * 2 ^ (52 - k)) := by ring
    have hnextQ : (125 * 2 ^ 52 : ℚ) ≤ 64 * (d * 2 ^ (52 - k) : ℕ) := by exact_mod_cast hnext
    linarith [hboundQ.2]
  have hproduct : (M : ℚ) * 2 ^ ((k : ℤ) - 61) * 1000 * (2 ^ (52 - k) : ℕ) =
      (d * 2 ^ (52 - k) : ℕ) - (r : ℚ) / 64 := by
    calc _ = (M : ℚ) * 1000 / 2 ^ 9 := product_mul_scale hk M (n := 61) rfl
      _ = (d * 2 ^ (52 - k) : ℕ) - (r : ℚ) / 64 := by linarith
  rw [truncate_product_eq_iff hk hhigh hproduct hstart
    ⟨by linarith [hboundQ.1], by linarith [hboundQ.2]⟩]
  have hhalf : (r : ℚ) / 64 ≤ 1 / 2 ↔ r ≤ 32 := by
    rw [div_le_iff₀ (by norm_num)]
    norm_num
    exact_mod_cast Iff.rfl
  rw [hhalf]
  omega

end Binade

/-- **What the validator recovers.**  For the durations below `2 ^ 26`
milliseconds, it is the duration exactly when it loses no millisecond. -/
theorem expectedMilliseconds_eq_iff {d : ℕ} (hd : d < 2 ^ 26) :
    expectedMilliseconds (d * 1000 : ℕ) = d ↔ ¬ LosesMillisecond d := by
  rcases Nat.eq_zero_or_pos d with rfl | hpos
  · refine ⟨fun _ => by decide, fun _ => ?_⟩
    simp [expectedMilliseconds, floatMul, totalSeconds, trueDivide, truncate]
  have hlow : 2 ^ Nat.log 2 d ≤ d := Nat.pow_log_le_self 2 hpos.ne'
  have hhigh : d < 2 ^ (Nat.log 2 d + 1) := Nat.lt_pow_succ_log_self (by norm_num) d
  have hk : Nat.log 2 d ≤ 25 := by
    have := Nat.log_lt_of_lt_pow hpos.ne' hd
    omega
  unfold LosesMillisecond
  by_cases hcase : 125 * 2 ^ Nat.log 2 d ≤ 64 * d
  · rw [expectedMilliseconds_upper hk hhigh hcase]
    exact not_congr (iff_and_self.mpr fun _ => hcase)
  · exact ⟨fun _ h => hcase h.1, fun _ =>
      expectedMilliseconds_lower hk hlow hhigh (not_le.mp hcase)⟩

/-! ## The descriptor of a finalized recording -/

/-- What `_millisecond_utc_now()` returns: a UTC instant at a whole millisecond. -/
structure Datetime.IsUtcMillisecond (instant : Datetime) : Prop where
  utc : instant.utcOffset = some 0
  whole : instant.micros % 1000 = 0
  nonneg : 0 ≤ instant.micros

/-- The counters of a sink that finalized at least one packet. -/
structure FinalizedCounters (sink : FramedAtomicRecordingSink) : Prop where
  packets_pos : 0 < sink.packets
  packets_le : sink.packets ≤ 1000000
  payloadBytes_le : sink.payloadBytes ≤ 8 * 1024 * 1024 * 1024
  payloadBytes_ge : sink.packets * 12 ≤ sink.payloadBytes
  fileBytes_eq : sink.fileBytes = 8 + sink.packets * 8 + sink.payloadBytes

theorem twelve_mul_length_le {ps : List Packet} (h : ∀ p ∈ ps, isRtpV2 p = true) :
    ps.length * 12 ≤ payloadTotal ps := by
  induction ps with
  | nil => exact Nat.zero_le _
  | cons p rest ih =>
      have hp := twelve_le_length_of_isRtpV2 (h p List.mem_cons_self)
      have hrest := ih fun q hq => h q (List.mem_cons_of_mem p hq)
      rw [List.length_cons, payloadTotal_cons]
      omega

theorem finalizedCounters_of_recorded {attempt : FramedAtomicRecordingSink.Attempt}
    (h : attempt.Recorded) (hne : attempt.accepted ≠ []) : FinalizedCounters attempt.sink := by
  have hcount := h.fits.count
  have htotal := h.fits.total
  have htwelve := twelve_mul_length_le h.fits.valid
  have hpackets := attempt.sink.limits.maxPackets_mem.2
  have hpayload := attempt.sink.limits.maxPayloadBytes_mem.2
  have hpos := List.length_pos_iff.mpr hne
  refine ⟨?_, ?_, ?_, ?_, ?_⟩
  · rwa [h.packets_eq]
  · rw [h.packets_eq]
    omega
  · rw [h.payloadBytes_eq]
    omega
  · rwa [h.packets_eq, h.payloadBytes_eq]
  have hmagic : magic.length = 8 := rfl
  rw [h.fileBytes_eq, h.file_eq, recordingFile, List.length_append, length_framed, h.packets_eq,
    h.payloadBytes_eq, hmagic, recordHeaderSize]
  ring

theorem recordedDurationMs_lt (first last : ℕ) : recordedDurationMs first last < 2 ^ 26 := by
  have hdelta : rtpDelta first last < 2 ^ 32 := by
    have := Int.emod_lt_of_pos ((last : ℤ) - first) (by decide : (0 : ℤ) < rtpModulus)
    rw [rtpDelta]
    simp only [rtpModulus] at this ⊢
    omega
  rw [recordedDurationMs]
  omega

theorem validateTimestamp_eq_ok {instant : Datetime} (hutc : instant.utcOffset = some 0)
    (hwhole : instant.micros % 1000 = 0) :
    RecordingStreamDescriptor.validateTimestamp instant = .ok () := by
  unfold RecordingStreamDescriptor.validateTimestamp
  rw [if_neg (not_not.mpr hutc), if_neg]
  omega

def Datetime.after (instant : Datetime) (d : ℕ) : Datetime :=
  { instant with micros := instant.micros + d * 1000 }

section Build

variable {payloadType first : ℕ} {counters : FramedAtomicRecordingSink} {started : Datetime}

theorem validate_recordedDescriptor (last : ℕ) (hcounters : FinalizedCounters counters)
    (hpayload : 96 ≤ payloadType ∧ payloadType ≤ 127) (hfirst : first < 2 ^ 32)
    (hstarted : started.IsUtcMillisecond) :
    (recordedDescriptor payloadType first last counters started
        (started.after (recordedDurationMs first last))).validate =
      if expectedMilliseconds (recordedDurationMs first last * 1000 : ℕ) =
          recordedDurationMs first last then .ok ()
      else .error "recording duration does not match timestamps" := by
  have hd := recordedDurationMs_lt first last
  set d := recordedDurationMs first last with hdef
  have hrange : (recordedDescriptor payloadType first last counters started
      (started.after d)).fieldsInRange = true := by
    have hpackets := hcounters.packets_le
    have hbytes := hcounters.payloadBytes_le
    have hfile := hcounters.fileBytes_eq
    simp only [RecordingStreamDescriptor.fieldsInRange, recordedDescriptor, ← hdef,
      RecordingStreamDescriptor.maxDurationMs, RecordingStreamDescriptor.maxPackets,
      RecordingStreamDescriptor.maxPayloadBytes, RecordingStreamDescriptor.formatMagicBytes,
      RecordingStreamDescriptor.maxFileBytes, RecordingStreamDescriptor.recordOverheadBytes,
      Bool.and_eq_true, decide_eq_true_eq]
    omega
  have hstart := validateTimestamp_eq_ok hstarted.utc hstarted.whole
  have hend : RecordingStreamDescriptor.validateTimestamp (started.after d) = .ok () := by
    refine validateTimestamp_eq_ok hstarted.utc ?_
    have := hstarted.whole
    simp only [Datetime.after]
    omega
  have hspan : (started.after d).micros - started.micros = (d * 1000 : ℕ) := by
    simp only [Datetime.after]
    push_cast
    ring
  have hpackets : counters.packets ≠ 0 := hcounters.packets_pos.ne'
  have hbytes : ¬ counters.payloadBytes < counters.packets * 12 :=
    not_lt.mpr hcounters.payloadBytes_ge
  have hfile : counters.fileBytes = RecordingStreamDescriptor.formatMagicBytes +
      counters.packets * RecordingStreamDescriptor.recordOverheadBytes + counters.payloadBytes :=
    hcounters.fileBytes_eq
  have horder : ¬ (started.after d).micros < started.micros := by omega
  rw [RecordingStreamDescriptor.validate, hrange]
  unfold RecordingStreamDescriptor.validateContract
  simp only [recordedDescriptor, hstart, hend, hspan, ← hdef]
  push_cast
  by_cases hexact : expectedMilliseconds (d * 1000) = d
  · rw [if_pos hexact]
    simp only [horder, hexact, hpayload, hfile, hpackets, hbytes, if_false, ne_eq,
      not_true_eq_false, and_self]
    rfl
  · rw [if_neg hexact]
    simp only [horder, if_false]
    rw [if_pos fun h => hexact h.symm]
    rfl

theorem addMilliseconds_eq (hstarted : started.IsUtcMillisecond) (d : ℕ) :
    started.addMilliseconds d =
      if started.micros + d * 1000 < datetimeRange then some (started.after d) else none := by
  have hnonneg := hstarted.nonneg
  unfold Datetime.addMilliseconds Datetime.after
  by_cases hrange : started.micros + d * 1000 < datetimeRange
  · rw [if_pos hrange, if_pos ⟨by omega, hrange⟩]
  · rw [if_neg hrange, if_neg fun h => hrange h.2]

theorem buildDescriptor_eq (last : ℕ) (hcounters : FinalizedCounters counters)
    (hpayload : 96 ≤ payloadType ∧ payloadType ≤ 127) (hfirst : first < 2 ^ 32)
    (hstarted : started.IsUtcMillisecond) :
    buildDescriptor payloadType first last counters started =
      if started.micros + recordedDurationMs first last * 1000 < datetimeRange then
        if LosesMillisecond (recordedDurationMs first last) then
          .error (.descriptor "recording duration does not match timestamps")
        else .ok (recordedDescriptor payloadType first last counters started
          (started.after (recordedDurationMs first last)))
      else .error .overflow := by
  have hexact := expectedMilliseconds_eq_iff (recordedDurationMs_lt first last)
  have hvalid := validate_recordedDescriptor last hcounters hpayload hfirst hstarted
  rw [buildDescriptor, addMilliseconds_eq hstarted]
  by_cases hrange : started.micros + recordedDurationMs first last * 1000 < datetimeRange
  · rw [if_pos hrange, if_pos hrange]
    simp only
    by_cases hloses : LosesMillisecond (recordedDurationMs first last)
    · rw [if_neg fun h => hexact.mp h hloses] at hvalid
      rw [hvalid, if_pos hloses]
    · rw [if_pos (hexact.mpr hloses)] at hvalid
      rw [hvalid, if_neg hloses]
  · rw [if_neg hrange, if_neg hrange]

end Build

open FramedAtomicRecordingSink in
/-- **When the recorder's descriptor passes its own validator.**  For any sink that
finalized at least one packet, any timestamps and any start, the descriptor is
built exactly when the end is a `datetime` and the duration loses no millisecond
in the validator's arithmetic. -/
theorem descriptor_built_iff (limits : FramedLimits) (calls : List Call)
    (hstate : (Attempt.run limits calls).sink.state = .finalized)
    (hne : (Attempt.run limits calls).accepted ≠ []) {payloadType first last : ℕ}
    (hpayload : 96 ≤ payloadType ∧ payloadType ≤ 127) (hfirst : first < 2 ^ 32)
    {started : Datetime} (hstarted : started.IsUtcMillisecond) :
    ((∃ descriptor, buildDescriptor payloadType first last (Attempt.run limits calls).sink started =
        .ok descriptor) ↔
      started.micros + recordedDurationMs first last * 1000 < datetimeRange ∧
        ¬ LosesMillisecond (recordedDurationMs first last)) ∧
      (expectedMilliseconds (recordedDurationMs first last * 1000 : ℕ) =
        recordedDurationMs first last ↔ ¬ LosesMillisecond (recordedDurationMs first last)) := by
  have hrecorded := (Attempt.invariant_run limits calls).recorded (Or.inr hstate)
  rw [buildDescriptor_eq last (finalizedCounters_of_recorded hrecorded hne) hpayload hfirst hstarted]
  refine ⟨?_, expectedMilliseconds_eq_iff (recordedDurationMs_lt first last)⟩
  split_ifs with hrange hloses
  · simp [hloses]
  · simp [hrange, hloses]
  · simp [hrange]

def firstInstant : Datetime := ⟨0, some 0⟩

theorem isUtcMillisecond_firstInstant : firstInstant.IsUtcMillisecond := ⟨rfl, rfl, le_rfl⟩

theorem run_recordCalls_barePackets (first last : ℕ) :
    (FramedAtomicRecordingSink.Attempt.run .default (FramedAtomicRecordingSink.Attempt.recordCalls
        ([first, last].map barePacket))).sink.state = .finalized ∧
      (FramedAtomicRecordingSink.Attempt.run .default (FramedAtomicRecordingSink.Attempt.recordCalls
        ([first, last].map barePacket))).accepted ≠ [] := by
  obtain ⟨hstate, haccepted⟩ := FramedAtomicRecordingSink.Attempt.run_recordCalls
    (fits_barePackets [first, last] (by simp))
  rw [haccepted]
  exact ⟨hstate, by simp⟩

open FramedAtomicRecordingSink in
/-- A recording of one second keeps its descriptor. -/
theorem descriptor_built_one_second : ∃ descriptor, buildDescriptor 96 0 90000
      (Attempt.run .default (Attempt.recordCalls ([0, 90000].map barePacket))).sink firstInstant =
        .ok descriptor := by
  obtain ⟨hstate, hne⟩ := run_recordCalls_barePackets 0 90000
  exact (descriptor_built_iff .default _ hstate hne (by decide) (by decide)
    isUtcMillisecond_firstInstant).1.mpr (by decide)

open FramedAtomicRecordingSink in
/-- A recording of 1001 milliseconds loses its descriptor. -/
theorem descriptor_refused_1001 :
    (Attempt.run .default (Attempt.recordCalls ([0, 90090].map barePacket))).sink.state =
        .finalized ∧
      recordedDurationMs 0 90090 = 1001 ∧
      buildDescriptor 96 0 90090
          (Attempt.run .default (Attempt.recordCalls ([0, 90090].map barePacket))).sink
          firstInstant =
        .error (.descriptor "recording duration does not match timestamps") := by
  obtain ⟨hstate, hne⟩ := run_recordCalls_barePackets 0 90090
  have hrecorded := (Attempt.invariant_run .default _).recorded (Or.inr hstate)
  refine ⟨hstate, by decide, ?_⟩
  rw [buildDescriptor_eq 90090 (finalizedCounters_of_recorded hrecorded hne) (by decide) (by decide)
    isUtcMillisecond_firstInstant, if_pos (by decide), if_pos (by decide)]

end K5Vision.Media
