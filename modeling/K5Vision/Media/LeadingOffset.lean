import Mathlib.Data.Int.Basic
import Mathlib.Data.List.Basic
import Mathlib.Order.Bounds.Basic
import Mathlib.Tactic.Linarith
import Mathlib.Tactic.Ring

/-!
# The first sample behind an edit

The loop of `_leading_video_offset` of `operator_export_validator.py`: the decoding times and the
composition offsets of a track come in runs, and the two lists of runs are gone through together,
every overlap in closed form.

## Strategy

A turn takes the samples of an overlap, and finds the first of them that is not before the edit
(`Found.block`).  What is left of the offsets goes on behind them (`offsetsLeft`), so that by
induction on the samples of a run, and then on the runs, all samples are seen (`whileSamples_spec`,
`forRuns_spec`).
-/

namespace K5Vision.Media.LeadingOffset

/-- Runs of samples that have one value. -/
abbrev Runs := List (ℕ × ℤ)

def samplesOf (runs : Runs) : ℕ := (runs.map Prod.fst).sum

/-- The tables of a track, as `_runs` accepts them, with the same number of samples. -/
structure Tables where
  timing : Runs
  composition : Option Runs
  timing_ne : timing ≠ []
  timing_pos : ∀ run ∈ timing, 0 < run.1 ∧ 0 < run.2
  composition_pos : ∀ runs ∈ composition, ∀ run ∈ runs, 0 < run.1
  totals : ∀ runs ∈ composition, samplesOf timing = samplesOf runs

/-- The offsets; without a table of them there is one run of zeros. -/
def Tables.offsets (tables : Tables) : Runs :=
  tables.composition.getD [(samplesOf tables.timing, 0)]

/-! ## The loop -/

/-- The variables of the loop; `later` are the runs of offsets behind `index`. -/
structure Walk where
  remaining : ℕ
  offset : ℤ
  later : Runs
  dts : ℤ
  firstPts : Option ℤ

/-- How many samples of a run are before the cutoff, in front of the first that is not. -/
def stepTo (cutoff pts delta : ℤ) : ℤ := max 0 ((cutoff - pts + delta - 1) / delta)

def Walk.turn (cutoff delta : ℤ) (take : ℕ) (walk : Walk) : Walk :=
  let pts := walk.dts + walk.offset
  let step := stepTo cutoff pts delta
  let candidate := pts + step * delta
  let walk := { walk with
    firstPts := if step < take then some ((walk.firstPts.map (min · candidate)).getD candidate)
      else walk.firstPts
    dts := walk.dts + take * delta
    remaining := walk.remaining - take }
  match walk.later with
  | (samples, offset) :: later =>
      if walk.remaining = 0 then { walk with remaining := samples, offset, later } else walk
  | [] => walk

/-- `while samples`; `none` has not come to its end. -/
def whileSamples (cutoff delta : ℤ) : ℕ → ℕ → Walk → Option Walk
  | _, 0, walk => some walk
  | 0, _ + 1, _ => none
  | fuel + 1, samples, walk =>
      let take := min samples walk.remaining
      whileSamples cutoff delta fuel (samples - take) (walk.turn cutoff delta take)

/-- `for samples, delta in timing`. -/
def forRuns (cutoff : ℤ) (fuel : ℕ) : Runs → Walk → Option Walk
  | [], walk => some walk
  | (samples, delta) :: timing, walk =>
      (whileSamples cutoff delta fuel samples walk).bind (forRuns cutoff fuel timing)

/-- The first presentation time behind the edit; the error is the `ValueError`. -/
def firstPts (tables : Tables) (cutoff : ℤ) (fuel : ℕ) : Option (Except Unit ℤ) :=
  match tables.offsets with
  | [] => some (.error ())
  | (remaining, offset) :: later =>
      (forRuns cutoff fuel tables.timing ⟨remaining, offset, later, 0, none⟩).map fun walk =>
        match walk.firstPts with
        | none => .error ()
        | some first => .ok first

/-! ## The samples one by one -/

def runTimes (dts delta : ℤ) (samples : ℕ) : List ℤ :=
  (List.range samples).map fun i : ℕ => dts + i * delta

def decodeTimes : ℤ → Runs → List ℤ
  | _, [] => []
  | dts, (samples, delta) :: timing =>
      runTimes dts delta samples ++ decodeTimes (dts + samples * delta) timing

def expand (runs : Runs) : List ℤ := runs.flatMap fun run => List.replicate run.1 run.2

def Tables.presentationTimes (tables : Tables) : List ℤ :=
  (decodeTimes 0 tables.timing).zipWith (· + ·) (expand tables.offsets)

theorem runTimes_add (dts delta : ℤ) (first second : ℕ) : runTimes dts delta (first + second) =
      runTimes dts delta first ++ runTimes (dts + first * delta) delta second := by
  simp only [runTimes, List.range_add, List.map_append, List.map_map]
  congr 1
  refine List.map_congr_left fun i _ => ?_
  simp only [Function.comp_apply, Nat.cast_add]
  ring

@[simp] theorem length_runTimes (dts delta : ℤ) (samples : ℕ) :
    (runTimes dts delta samples).length = samples := by simp [runTimes]

theorem length_expand (runs : Runs) : (expand runs).length = samplesOf runs := by
  simp [expand, samplesOf, List.length_flatMap]

/-! ## What was found -/

/-- Of the samples so far, the first one that is not before the cutoff. -/
def Found (cutoff : ℤ) (seen : List ℤ) : Option ℤ → Prop
  | none => ∀ pts ∈ seen, pts < cutoff
  | some first => IsLeast {pts | pts ∈ seen ∧ cutoff ≤ pts} first

theorem stepTo_le_iff {cutoff pts delta : ℤ} (hdelta : 0 < delta) {i : ℤ} (hi : 0 ≤ i) :
    stepTo cutoff pts delta ≤ i ↔ cutoff ≤ pts + i * delta := by
  rw [stepTo, max_le_iff, and_iff_right hi, ← Int.lt_add_one_iff, Int.ediv_lt_iff_lt_mul hdelta,
    Int.add_mul]
  constructor <;> intro h <;> linarith

theorem mem_runTimes {pts dts delta : ℤ} {samples : ℕ} :
    pts ∈ runTimes dts delta samples ↔ ∃ i : ℕ, i < samples ∧ dts + i * delta = pts := by
  simp [runTimes]

theorem Found.block {cutoff : ℤ} {seen : List ℤ} {first : Option ℤ} (h : Found cutoff seen first)
    {delta : ℤ} (hdelta : 0 < delta) (pts : ℤ) (take : ℕ) :
    Found cutoff (seen ++ runTimes pts delta take)
      (if stepTo cutoff pts delta < take then
        some ((first.map (min · (pts + stepTo cutoff pts delta * delta))).getD
          (pts + stepTo cutoff pts delta * delta))
      else first) := by
  have hstep : 0 ≤ stepTo cutoff pts delta := le_max_left ..
  have hlater : ∀ i : ℕ, cutoff ≤ pts + i * delta ↔ stepTo cutoff pts delta ≤ i := fun i =>
    (stepTo_le_iff hdelta (Int.natCast_nonneg i)).symm
  have hreached : cutoff ≤ pts + stepTo cutoff pts delta * delta :=
    (stepTo_le_iff hdelta hstep).mp le_rfl
  generalize stepTo cutoff pts delta = step at *
  split_ifs with hinside
  · -- the candidate is a sample of the overlap, and the least one that counts
    have hmem : pts + step * delta ∈ runTimes pts delta take :=
      mem_runTimes.mpr ⟨step.toNat, by omega, by rw [Int.toNat_of_nonneg hstep]⟩
    have hleast : ∀ p ∈ runTimes pts delta take, cutoff ≤ p → pts + step * delta ≤ p := by
      intro p hp hle
      obtain ⟨i, -, rfl⟩ := mem_runTimes.mp hp
      have hmul := Int.mul_le_mul_of_nonneg_right ((hlater i).mp hle) hdelta.le
      omega
    cases first with
    | none =>
        refine ⟨⟨List.mem_append_right _ hmem, hreached⟩, fun p ⟨hp, hle⟩ => ?_⟩
        rcases List.mem_append.mp hp with hold | hnew
        · exact absurd (h p hold) (not_lt.mpr hle)
        · exact hleast p hnew hle
    | some first =>
        have hbest := h.1.2
        have hchoice : min first (pts + step * delta) ∈ seen ++ runTimes pts delta take := by
          rcases min_choice first (pts + step * delta) with heq | heq <;> rw [heq]
          · exact List.mem_append_left _ h.1.1
          · exact List.mem_append_right _ hmem
        refine ⟨⟨hchoice, le_min hbest hreached⟩, fun p ⟨hp, hle⟩ => ?_⟩
        · rcases List.mem_append.mp hp with hold | hnew
          · exact (min_le_left ..).trans (h.2 ⟨hold, hle⟩)
          · exact (min_le_right ..).trans (hleast p hnew hle)
  · have hnone : ∀ p ∈ runTimes pts delta take, p < cutoff := by
      intro p hp
      obtain ⟨i, hi, rfl⟩ := mem_runTimes.mp hp
      refine not_le.mp fun hle => ?_
      have hcount := (hlater i).mp hle
      omega
    cases first with
    | none =>
        intro p hp
        rcases List.mem_append.mp hp with hold | hnew
        · exact h p hold
        · exact hnone p hnew
    | some first =>
        refine ⟨⟨List.mem_append_left _ h.1.1, h.1.2⟩, fun p ⟨hp, hle⟩ => ?_⟩
        rcases List.mem_append.mp hp with hold | hnew
        · exact h.2 ⟨hold, hle⟩
        · exact absurd (hnone p hnew) (not_lt.mpr hle)

/-! ## The walk -/

def Walk.offsetsLeft (walk : Walk) : List ℤ :=
  List.replicate walk.remaining walk.offset ++ expand walk.later

/-- No run of offsets is empty, and the present one is only at the end. -/
structure Walk.Ready (walk : Walk) : Prop where
  present : walk.remaining = 0 → walk.later = []
  later : ∀ run ∈ walk.later, 0 < run.1

/-- What the samples of some runs do to a walk, from which they take as many offsets. -/
structure Passed (cutoff : ℤ) (seen times : List ℤ) (start walk : Walk) : Prop where
  found : Found cutoff (seen ++ times.zipWith (· + ·) start.offsetsLeft) walk.firstPts
  left : walk.offsetsLeft = start.offsetsLeft.drop times.length
  ready : walk.Ready

theorem zipWith_runTimes (dts delta offset : ℤ) (later : List ℤ) {take remaining : ℕ}
    (htake : take ≤ remaining) :
    (runTimes dts delta take).zipWith (· + ·) (List.replicate remaining offset ++ later) =
      runTimes (dts + offset) delta take := by
  refine List.ext_getElem (by simp; omega) fun i hi _ => ?_
  have hlt : i < take := by simp at hi; omega
  simp only [List.getElem_zipWith, runTimes, List.getElem_map, List.getElem_range]
  rw [List.getElem_append_left (by simp; omega), List.getElem_replicate]
  ring

theorem Walk.Ready.turn {walk : Walk} (hready : walk.Ready) (cutoff delta : ℤ) (take : ℕ) :
    (walk.turn cutoff delta take).Ready := by
  obtain ⟨remaining, offset, later, dts, first⟩ := walk
  cases later with
  | nil => exact ⟨fun _ => rfl, hready.later⟩
  | cons run later =>
      have hrun := hready.later run List.mem_cons_self
      by_cases hend : remaining - take = 0
      · simp only [Walk.turn, hend, if_true]
        exact ⟨fun h => absurd h hrun.ne', fun r hr => hready.later r (List.mem_cons_of_mem _ hr)⟩
      · simp only [Walk.turn, hend, if_false]
        exact ⟨fun h => absurd h hend, hready.later⟩

theorem offsetsLeft_turn (cutoff delta : ℤ) {walk : Walk} {take : ℕ}
    (htake : take ≤ walk.remaining) :
    (walk.turn cutoff delta take).offsetsLeft = walk.offsetsLeft.drop take := by
  obtain ⟨remaining, offset, later, dts, first⟩ := walk
  have hdrop : ∀ offsets : List ℤ, (List.replicate remaining offset ++ offsets).drop take =
      List.replicate (remaining - take) offset ++ offsets := fun offsets => by
    rw [List.drop_append_of_le_length (by simpa using htake), List.drop_replicate]
  cases later with
  | nil => exact (hdrop _).symm
  | cons run later =>
      by_cases hend : remaining - take = 0
      · simp [Walk.turn, Walk.offsetsLeft, hend, hdrop, expand]
      · simp [Walk.turn, Walk.offsetsLeft, hend, hdrop]

theorem turn_spec {cutoff delta : ℤ} (hdelta : 0 < delta) {walk : Walk} (hready : walk.Ready)
    {seen : List ℤ} (hfound : Found cutoff seen walk.firstPts) (take : ℕ)
    (htake : take ≤ walk.remaining) :
    Passed cutoff seen (runTimes walk.dts delta take) walk (walk.turn cutoff delta take) ∧
      (walk.turn cutoff delta take).dts = walk.dts + take * delta := by
  have hblock := hfound.block hdelta (walk.dts + walk.offset) take
  have hfields : (walk.turn cutoff delta take).firstPts = (if
      stepTo cutoff (walk.dts + walk.offset) delta < take then
        some ((walk.firstPts.map (min · (walk.dts + walk.offset +
          stepTo cutoff (walk.dts + walk.offset) delta * delta))).getD
          (walk.dts + walk.offset + stepTo cutoff (walk.dts + walk.offset) delta * delta))
      else walk.firstPts) ∧ (walk.turn cutoff delta take).dts = walk.dts + take * delta := by
    unfold Walk.turn
    dsimp only
    split
    · split <;> exact ⟨rfl, rfl⟩
    · exact ⟨rfl, rfl⟩
  refine ⟨⟨?_, ?_, hready.turn ..⟩, hfields.2⟩
  · rwa [hfields.1, Walk.offsetsLeft, zipWith_runTimes _ _ _ _ htake]
  · rw [offsetsLeft_turn cutoff delta htake, length_runTimes]

theorem Passed.trans {cutoff : ℤ} {seen first second : List ℤ} {start walk last : Walk}
    (h : Passed cutoff seen first start walk)
    (hnext : Passed cutoff (seen ++ first.zipWith (· + ·) start.offsetsLeft) second walk last)
    (hlen : first.length ≤ start.offsetsLeft.length) :
    Passed cutoff seen (first ++ second) start last := by
  have hsplit : (first ++ second).zipWith (· + ·) start.offsetsLeft =
      first.zipWith (· + ·) start.offsetsLeft ++ second.zipWith (· + ·) walk.offsetsLeft := by
    conv_lhs => rw [← List.take_append_drop first.length start.offsetsLeft]
    rw [List.zipWith_append (by simp [hlen]), h.left]
    congr 1
    conv_rhs => rw [← List.take_append_drop first.length start.offsetsLeft]
    rw [← List.append_nil first, List.zipWith_append (by simp [hlen])]
    simp
  refine ⟨?_, ?_, hnext.ready⟩
  · rw [hsplit, ← List.append_assoc]
    exact hnext.found
  · rw [hnext.left, h.left, List.drop_drop, List.length_append]

theorem length_offsetsLeft (walk : Walk) :
    walk.offsetsLeft.length = walk.remaining + samplesOf walk.later := by
  simp [Walk.offsetsLeft, length_expand]

/-- The samples of a run; the induction is on the fuel, of which a turn needs one for each of its
samples at most. -/
theorem whileSamples_spec {cutoff delta : ℤ} (hdelta : 0 < delta) (fuel samples : ℕ)
    {walk : Walk} {seen : List ℤ} (hready : walk.Ready) (hfound : Found cutoff seen walk.firstPts)
    (hleft : samples ≤ walk.offsetsLeft.length) (hfuel : samples ≤ fuel) :
    ∃ last, whileSamples cutoff delta fuel samples walk = some last ∧
      Passed cutoff seen (runTimes walk.dts delta samples) walk last ∧
      last.dts = walk.dts + samples * delta := by
  induction fuel generalizing samples walk seen with
  | zero =>
      obtain rfl : samples = 0 := by omega
      exact ⟨walk, rfl, ⟨by simpa [runTimes] using hfound, by simp, hready⟩, by simp⟩
  | succ fuel ih =>
      cases samples with
      | zero => exact ⟨walk, rfl, ⟨by simpa [runTimes] using hfound, by simp, hready⟩, by simp⟩
      | succ samples =>
          -- as offsets are left, the present run of them is not empty
          have hpresent : 0 < walk.remaining := by
            rw [length_offsetsLeft] at hleft
            refine Nat.pos_of_ne_zero fun h0 => ?_
            simp [h0, hready.present h0, samplesOf] at hleft
          obtain ⟨take, htake⟩ : ∃ take, take = min (samples + 1) walk.remaining := ⟨_, rfl⟩
          obtain ⟨hturn, hdts⟩ := turn_spec hdelta hready hfound take (by omega)
          obtain ⟨last, hlast, hrest, hend⟩ := ih (samples + 1 - take) hturn.ready
            hturn.found (by rw [hturn.left, List.length_drop, length_runTimes]; omega) (by omega)
          have hsum : take + (samples + 1 - take) = samples + 1 := by omega
          refine ⟨last, by rw [whileSamples, ← htake, hlast]; omega, ?_, ?_⟩
          · rw [← hsum, runTimes_add, ← hdts]
            exact hturn.trans hrest (by rw [length_runTimes]; omega)
          · rw [hend, hdts, add_assoc, ← add_mul, ← Nat.cast_add, hsum]

theorem forRuns_spec (cutoff : ℤ) (fuel : ℕ) (timing : Runs) {walk : Walk} (seen : List ℤ)
    (hdelta : ∀ run ∈ timing, 0 < run.2) (hready : walk.Ready)
    (hfound : Found cutoff seen walk.firstPts)
    (hleft : samplesOf timing ≤ walk.offsetsLeft.length) (hfuel : samplesOf timing ≤ fuel) :
    ∃ last, forRuns cutoff fuel timing walk = some last ∧
      Passed cutoff seen (decodeTimes walk.dts timing) walk last := by
  induction timing generalizing walk seen with
  | nil => exact ⟨walk, rfl, by simpa [decodeTimes] using hfound, by simp [decodeTimes], hready⟩
  | cons run timing ih =>
      obtain ⟨samples, delta⟩ := run
      have hsum : samplesOf ((samples, delta) :: timing) = samples + samplesOf timing := rfl
      obtain ⟨next, hnext, hpassed, hdts⟩ := whileSamples_spec (hdelta _ List.mem_cons_self) fuel
        samples hready hfound (by omega) (by omega)
      obtain ⟨last, hlast, hrest⟩ := ih _ (fun r hr => hdelta r (List.mem_cons_of_mem _ hr))
        hpassed.ready hpassed.found
        (by rw [hpassed.left, List.length_drop, length_runTimes]; omega) (by omega)
      refine ⟨last, by rw [forRuns, hnext, Option.bind_some, hlast], ?_⟩
      rw [decodeTimes, ← hdts]
      exact hpassed.trans hrest (by rw [length_runTimes]; omega)

/-! ## The whole track -/

theorem Tables.samplesOf_offsets (tables : Tables) :
    samplesOf tables.offsets = samplesOf tables.timing := by
  cases hruns : tables.composition with
  | none => simp [Tables.offsets, hruns, samplesOf]
  | some runs => simp [Tables.offsets, hruns, tables.totals runs hruns]

theorem Tables.samples_pos (tables : Tables) : 0 < samplesOf tables.timing := by
  obtain ⟨run, timing, htiming⟩ := List.exists_cons_of_ne_nil tables.timing_ne
  have hrun := (tables.timing_pos run (by simp [htiming])).1
  simp only [htiming, samplesOf, List.map_cons, List.sum_cons]
  omega

theorem Tables.offsets_pos (tables : Tables) : ∀ run ∈ tables.offsets, 0 < run.1 := by
  cases hruns : tables.composition with
  | none => simpa [Tables.offsets, hruns] using tables.samples_pos
  | some runs => simpa [Tables.offsets, hruns] using tables.composition_pos runs hruns

/-- The loop ends; it finds the first presentation time of all samples that is not before the
edit, and refuses the track exactly when every sample is before it. -/
theorem first_pts_of_all_samples (tables : Tables) (cutoff : ℤ) :
    ∃ enough, ∀ more, ∃ result, firstPts tables cutoff (enough + more) = some result ∧
      (∀ first, result = .ok first ↔
        IsLeast {pts | pts ∈ tables.presentationTimes ∧ cutoff ≤ pts} first) ∧
      (result = .error () ↔ ∀ pts ∈ tables.presentationTimes, pts < cutoff) := by
  refine ⟨samplesOf tables.timing, fun more => ?_⟩
  have htotal := tables.samplesOf_offsets
  have hpos := tables.samples_pos
  have hruns := tables.offsets_pos
  cases hoffsets : tables.offsets with
  | nil => simp [hoffsets, samplesOf] at htotal hpos; omega
  | cons run later =>
      obtain ⟨remaining, offset⟩ := run
      rw [hoffsets] at htotal hruns
      have hsum : samplesOf ((remaining, offset) :: later) = remaining + samplesOf later := rfl
      have hready : Walk.Ready ⟨remaining, offset, later, 0, none⟩ :=
        ⟨fun h => absurd h (hruns _ List.mem_cons_self).ne',
          fun r hr => hruns r (List.mem_cons_of_mem _ hr)⟩
      obtain ⟨last, hlast, hpassed⟩ := forRuns_spec cutoff (samplesOf tables.timing + more)
        tables.timing [] (fun run hrun => (tables.timing_pos run hrun).2) hready
        (by simp [Found]) (by rw [length_offsetsLeft]; simp only; omega) (by omega)
      have hfound : Found cutoff tables.presentationTimes last.firstPts := by
        simpa [Tables.presentationTimes, hoffsets, expand, Walk.offsetsLeft] using hpassed.found
      rw [firstPts, hoffsets]
      simp only [hlast, Option.map_some]
      cases hfirst : last.firstPts with
      | none =>
          rw [hfirst] at hfound
          refine ⟨.error (), rfl, fun first => ⟨nofun, fun hleast => ?_⟩, fun _ => hfound, fun _ => rfl⟩
          exact absurd (hfound first hleast.1.1) (not_lt.mpr hleast.1.2)
      | some least =>
          rw [hfirst] at hfound
          refine ⟨.ok least, rfl, fun first => ⟨?_, fun hleast => ?_⟩, nofun, fun hbefore => ?_⟩
          · rintro ⟨⟩
            exact hfound
          · rw [hfound.unique hleast]
          · exact absurd (hbefore least hfound.1.1) (not_lt.mpr hfound.1.2)

/-- Two samples that change their places: the second in the order of decoding is the first shown
behind the edit. -/
example : firstPts ⟨[(3, 10)], some [(1, 25), (2, -5)], by decide, by decide, by decide, by decide⟩
    4 9 = some (.ok 5) := by decide

end K5Vision.Media.LeadingOffset
