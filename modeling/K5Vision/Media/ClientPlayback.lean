import K5Vision.Media.ExportCoverage
import Mathlib.Tactic.Linarith
import Mathlib.Tactic.NormNum

/-!
# The recordings as the web client has them

`app.js`: the spans of a loaded history, in the milliseconds of JavaScript, with the clip that is
selected for an export (`playbackSelection`) and the chunks that are played one after the other
(`chunkAt`, `nextChunkStart`).

## Strategy

A client's span begins no earlier than the recorder's, and ends at most half a microsecond later
(`within_reach`).  So a gap of the recorder's spans is one of the client's, and the loop of
`coverageEnd`, which is a `sweep`, does not get over it: a clip that the client accepts is covered
(`selection_covered`).
-/

namespace K5Vision.Media.ClientPlayback

open Library OperatorExports

/-! ## The spans of a history -/

/-- An entry of `state.spans`, of those that the filter keeps. -/
structure LoadedSpan where
  start : ℚ
  ends : ℚ
  nonempty : start < ends
  deriving DecidableEq

def LoadedSpan.Contains (span : LoadedSpan) (position : ℚ) : Prop :=
  span.start ≤ position ∧ position < span.ends

instance (span : LoadedSpan) (position : ℚ) : Decidable (span.Contains position) :=
  inferInstanceAs (Decidable (_ ∧ _))

/-- `state.spans`. -/
structure LoadedSpans where
  list : List LoadedSpan
  sorted : list.Pairwise fun first second => first.start ≤ second.start

/-- `Date.parse`, of a timestamp with microseconds. -/
def dateParse (startedAt : ℤ) : ℤ := startedAt / 1000

def spanStartMilliseconds (startedAt : ℤ) : ℤ :=
  dateParse startedAt + if startedAt % 1000 = 0 then 0 else 1

/-- A span of the answer, clamped to the loaded window. -/
def loadSpan (start finish : ℤ) (span : MediaPlaybackSpan) : Option LoadedSpan :=
  let originalStart : ℚ := spanStartMilliseconds span.startedAt
  let originalEnd : ℚ := dateParse span.startedAt + span.durationSeconds * 1000
  if h : max originalStart start < min originalEnd finish then some ⟨_, _, h⟩ else none

/-- The spans that `performHistoryLoad` leaves, for the window between two instants. -/
def loadSpans (start finish : ℤ) (spans : List MediaPlaybackSpan) : LoadedSpans where
  list := (spans.filterMap (loadSpan start finish)).insertionSort fun first second =>
    first.start ≤ second.start
  sorted := by
    have htotal : Std.Total fun first second : LoadedSpan => first.start ≤ second.start :=
      ⟨fun _ _ => le_total _ _⟩
    have htrans : IsTrans LoadedSpan fun first second => first.start ≤ second.start :=
      ⟨fun _ _ _ => le_trans⟩
    exact List.pairwise_insertionSort _ _

def LoadedSpans.spanAt (spans : LoadedSpans) (position : ℚ) : Option LoadedSpan :=
  spans.list.find? fun span => span.Contains position

theorem mem_of_spanAt {spans : LoadedSpans} {position : ℚ} {span : LoadedSpan}
    (h : spans.spanAt position = some span) : span ∈ spans.list ∧ span.Contains position := by
  refine ⟨List.mem_of_find?_eq_some h, ?_⟩
  simpa using List.find?_some h

def extendEnd : ℚ → List LoadedSpan → ℚ
  | ends, [] => ends
  | ends, span :: rest =>
      if ends + 1 < span.start then ends
      else extendEnd (if ends < span.ends then span.ends else ends) rest

def LoadedSpans.coverageEnd (spans : LoadedSpans) (start : ℚ) : Option ℚ :=
  (spans.spanAt start).map fun first => extendEnd first.ends spans.list

/-! ## The selection of a clip -/

structure SelectionError where
  message : String
  deriving DecidableEq

def unselected : SelectionError := ⟨"Choose an available recording first."⟩

/-- The result of `playbackSelection`. -/
structure Clip where
  start : ℤ
  duration : ℤ
  deriving DecidableEq

/-- `playbackSelection`, of what is in the fields: `none` for a time that is not finite, and for a
length that is no integer. -/
def LoadedSpans.playbackSelection (spans : LoadedSpans) (selected : Bool)
    (start duration : Option ℤ) : Except SelectionError Clip :=
  if !selected then .error unselected
  else
    match start.bind fun start => (spans.coverageEnd start).map fun ends => (start, ends) with
    | none => .error ⟨"Choose a clip start inside recorded footage."⟩
    | some (start, ends) =>
        match duration.filter fun seconds => 1 ≤ seconds ∧ seconds ≤ 3600 with
        | none => .error ⟨"Choose a clip length from 1 to 3600 seconds."⟩
        | some seconds =>
            if ends < start + seconds * 1000 then
              .error ⟨"The selected clip crosses a recording gap or ends after available footage."⟩
            else .ok ⟨start, seconds⟩

theorem extendEnd_eq (ends : ℚ) (spans : List LoadedSpan) :
    extendEnd ends spans = sweep 1 ends (spans.map fun span => (span.start, span.ends)) := by
  induction spans generalizing ends with
  | nil => rfl
  | cons span rest ih =>
      have hmax : (if ends < span.ends then span.ends else ends) = max ends span.ends := by
        rw [max_def_lt]
      rw [extendEnd, ih, hmax]
      rfl

variable {start finish : ℤ} {spans : List MediaPlaybackSpan} {loaded : LoadedSpan}

theorem exists_of_mem_loadSpans (h : loaded ∈ (loadSpans start finish spans).list) :
    ∃ span ∈ spans, loadSpan start finish span = some loaded :=
  List.mem_filterMap.mp ((List.perm_insertionSort _ _).mem_iff.mp h)

/-- The span of the client is in that of the recorder, but for the rounding of its end. -/
theorem within_reach {span : MediaPlaybackSpan} (h : loadSpan start finish span = some loaded) :
    (span.startedAt : ℚ) ≤ loaded.start * 1000 ∧ loaded.ends * 1000 ≤ span.endsAt + 1 / 2 := by
  unfold loadSpan at h
  dsimp only at h
  split_ifs at h
  cases h
  have hparse : dateParse span.startedAt * 1000 ≤ span.startedAt := by
    unfold dateParse
    omega
  have hceil : span.startedAt ≤ spanStartMilliseconds span.startedAt * 1000 := by
    unfold spanStartMilliseconds dateParse
    split_ifs <;> omega
  have hround : span.durationSeconds * 1000000 ≤ secondsDelta span.durationSeconds + 1 / 2 := by
    rw [secondsDelta]
    exact le_roundHalfEven_add_half _
  constructor
  · have hcast : (span.startedAt : ℚ) ≤ spanStartMilliseconds span.startedAt * 1000 := by
      exact_mod_cast hceil
    have hclamp : (spanStartMilliseconds span.startedAt : ℚ) ≤ max _ (start : ℚ) := le_max_left ..
    dsimp only
    linarith
  · have hcast : (dateParse span.startedAt : ℚ) * 1000 ≤ span.startedAt := by exact_mod_cast hparse
    have hclamp := min_le_left (dateParse span.startedAt + span.durationSeconds * 1000)
      (finish : ℚ)
    rw [MediaPlaybackSpan.endsAt]
    push_cast
    linarith

theorem apart_of_gap {opens closes first last : ℤ}
    (hgap : IsGap (spans.map MediaPlaybackSpan.reach) opens closes first last)
    (hlong : first + 1 < last) (h : loaded ∈ (loadSpans start finish spans).list) :
    loaded.ends * 1000 ≤ first + 1 / 2 ∨ (last : ℚ) ≤ loaded.start * 1000 := by
  obtain ⟨span, hmem, hload⟩ := exists_of_mem_loadSpans h
  obtain ⟨hstart, hends⟩ := within_reach hload
  have hvalid : span.startedAt ≤ span.endsAt := reach_valid span
  by_cases hbefore : span.endsAt ≤ first
  · have hcast : (span.endsAt : ℚ) ≤ first := by exact_mod_cast hbefore
    exact .inl (hends.trans (by linarith))
  · by_cases hbehind : last ≤ span.startedAt
    · have hcast : (last : ℚ) ≤ span.startedAt := by exact_mod_cast hbehind
      exact .inr (hcast.trans hstart)
    · -- otherwise an instant of the gap is in the span
      have hlast : max span.startedAt (first + 1) < last := max_lt (by omega) hlong
      have hends : max span.startedAt (first + 1) ≤ span.endsAt := max_le hvalid (by omega)
      exact absurd ⟨le_max_left .., hends⟩ (hgap.uncovered _
        (lt_max_of_lt_right (lt_add_one first)) hlast span.reach (List.mem_map_of_mem hmem))

theorem playbackSelection_ok {spans : LoadedSpans} {selected : Bool} {start duration : Option ℤ}
    {clip : Clip} (h : spans.playbackSelection selected start duration = .ok clip) :
    (∃ ends, spans.coverageEnd clip.start = some ends ∧
      (clip.start + clip.duration * 1000 : ℚ) ≤ ends) ∧ 1 ≤ clip.duration ∧ clip.duration ≤ 3600 := by
  unfold LoadedSpans.playbackSelection at h
  split at h
  · cases h
  split at h
  · cases h
  rename_i opens ends hopens
  split at h
  · cases h
  rename_i seconds hseconds
  split at h
  · cases h
  rename_i hinside
  cases h
  obtain ⟨-, hlength⟩ := Option.filter_eq_some_iff.mp hseconds
  obtain ⟨found, -, hfound⟩ := Option.bind_eq_some_iff.mp hopens
  obtain ⟨reached, hreached, heq⟩ := Option.map_eq_some_iff.mp hfound
  cases heq
  exact ⟨⟨ends, hreached, not_lt.mp hinside⟩, of_decide_eq_true hlength⟩

/-- What the client selects passes the check of `create`, on the spans that the client has loaded:
their order, the rounding to milliseconds and the window make no difference. -/
theorem selection_covered {selected : Bool} {clipStart duration : Option ℤ} {clip : Clip}
    (h : (loadSpans start finish spans).playbackSelection selected clipStart duration = .ok clip) :
    validDuration (some clip.duration) = some (clip.duration : ℚ) ∧
      ¬ cursorAfter (clip.start * 1000) (sortedSpans spans) <
        clip.start * 1000 + secondsDelta clip.duration - millisecond := by
  obtain ⟨⟨ends, hcoverage, hinside⟩, hone, hmax⟩ := playbackSelection_ok h
  constructor
  · have hlow : (1 : ℚ) ≤ clip.duration := by exact_mod_cast hone
    have hhigh : (clip.duration : ℚ) ≤ maxExportSeconds := by
      rw [maxExportSeconds]
      exact_mod_cast hmax
    simp [validDuration, Option.filter, hlow, hhigh]
  rw [cursorAfter_lt_iff, not_not]
  intro first last hgap
  by_contra hlong
  have hlength : first + 1001 ≤ last := by
    unfold millisecond at hlong
    omega
  have hlater : (first : ℚ) + 1001 ≤ last := by exact_mod_cast hlength
  have hopens : (clip.start : ℚ) * 1000 ≤ first := by exact_mod_cast hgap.opens_le
  obtain ⟨found, hfound, rfl⟩ := Option.map_eq_some_iff.mp hcoverage
  obtain ⟨hmem, hcontains⟩ := mem_of_spanAt hfound
  have hreached : found.ends ≤ (first + 1 / 2) / 1000 := by
    rcases apart_of_gap hgap (by omega) hmem with hends | hstart
    · linarith
    · linarith [hcontains.1]
  -- the gap of the client's spans, which the loop does not get over
  have hapart : IsGap ((loadSpans start finish spans).list.map fun span => (span.start, span.ends))
      ((first + 1 / 2) / 1000) (last / 1000) ((first + 1 / 2) / 1000) (last / 1000) := by
    refine ⟨le_rfl, le_rfl, ?_⟩
    rintro instant hfirst hlast span hspan ⟨hbegins, hends⟩
    obtain ⟨loaded, hloaded, rfl⟩ := List.mem_map.mp hspan
    dsimp only at hbegins hends
    rcases apart_of_gap hgap (by omega) hloaded with hbefore | hbehind
    · linarith
    · linarith
  have hsweep : extendEnd found.ends (loadSpans start finish spans).list ≤
      (first + 1 / 2) / 1000 := by
    rw [extendEnd_eq]
    refine sweep_le_of_gap one_pos (fun span hspan => ⟨hspan, ?_⟩) hapart (by linarith) hreached
    obtain ⟨loaded, -, rfl⟩ := List.mem_map.mp hspan
    exact loaded.nonempty.le
  have hcloses : last ≤ clip.start * 1000 + clip.duration * 1000000 := by
    have hdelta : secondsDelta clip.duration = clip.duration * 1000000 := by
      rw [secondsDelta, ← roundHalfEven_intCast (K := ℚ) (clip.duration * 1000000)]
      push_cast
      rfl
    exact hdelta ▸ hgap.le_closes
  have hcast : (last : ℚ) ≤ clip.start * 1000 + clip.duration * 1000000 := by
    exact_mod_cast hcloses
  linarith

def touching : List MediaPlaybackSpan :=
  [⟨1000500, 2, by norm_num [maxSpanSeconds]⟩, ⟨500, 1, by norm_num [maxSpanSeconds]⟩]

theorem selection_covered_touching : validDuration (some 2) = some 2 ∧
      ¬ cursorAfter (2 * 1000) (sortedSpans touching) < 2 * 1000 + secondsDelta 2 - millisecond := by
  have hselected : (loadSpans 0 10000 touching).playbackSelection true (some 2) (some 2) =
      .ok ⟨2, 2⟩ := by decide +kernel
  simpa using selection_covered hselected

/-! ## Continuous playback -/

def playbackChunkSeconds : ℚ := 120

/-- The result of `chunkAt`; its URL has the beginning and the length. -/
structure Chunk where
  start : ℚ
  ends : ℚ
  seekOffset : ℚ

/-- `chunkAt`, of a camera whose media are there. -/
def LoadedSpans.chunkAt (spans : LoadedSpans) (position : ℚ) : Except SelectionError Chunk :=
  match spans.spanAt position with
  | none => .error ⟨"No playable recording at this time."⟩
  | some span =>
      let start :=
        if span.ends - position < 1000 then max span.start (span.ends - 1000) else position
      if span.ends - start < 1000 then
        .error ⟨"This recording is shorter than one second and cannot be played."⟩
      else
        .ok ⟨start, min span.ends (start + playbackChunkSeconds * 1000),
          (position - start) / 1000⟩

def LoadedSpans.nextChunkStart (spans : LoadedSpans) (ends : ℚ) : Option ℚ :=
  if (spans.coverageEnd ends).isSome then some ends
  else
    match spans.list.find? fun span => ends ≤ span.start ∧ 1000 ≤ span.ends - span.start with
    | none => none
    | some next => if next.start - ends ≤ 1 then some next.start else none

inductive Progress
  | playing (position : ℚ)
  /-- Behind the chunk that ends here there is no next one. -/
  | passed (ends : ℚ)
  | failed (position : ℚ) (error : SelectionError)
  deriving DecidableEq

/-- A playback from a position, for so many chunks: `advancePlayback` at the end of each.  A chunk
stands beside the position that it was asked for. -/
def LoadedSpans.playback (spans : LoadedSpans) : ℕ → ℚ → List (ℚ × Chunk) × Progress
  | 0, position => ([], .playing position)
  | chunks + 1, position =>
      match spans.chunkAt position with
      | .error error => ([], .failed position error)
      | .ok chunk =>
          match spans.nextChunkStart chunk.ends with
          | none => ([(position, chunk)], .passed chunk.ends)
          | some next =>
              let later := spans.playback chunks next
              ((position, chunk) :: later.1, later.2)

variable {loadedSpans : LoadedSpans} {position next : ℚ} {chunk : Chunk}

/-- The chunk is inside a span, and has the position. -/
structure Serves (spans : LoadedSpans) (position : ℚ) (chunk : Chunk) : Prop where
  inside : ∃ span ∈ spans.list, span.start ≤ chunk.start ∧ chunk.ends ≤ span.ends
  start_le : chunk.start ≤ position
  lt_ends : position < chunk.ends

theorem clamped_lt_iff (start ends : ℚ) :
    ends - max start (ends - 1000) < 1000 ↔ ends - start < 1000 := by
  constructor
  · intro hshort
    by_contra hlong
    rw [max_eq_right (by linarith)] at hshort
    linarith
  · intro hshort
    rwa [max_eq_left (by linarith)]

theorem serves_of_chunkAt (h : loadedSpans.chunkAt position = .ok chunk) :
    Serves loadedSpans position chunk := by
  unfold LoadedSpans.chunkAt at h
  split at h
  · cases h
  rename_i span hspan
  obtain ⟨hmem, hbegins, hends⟩ := mem_of_spanAt hspan
  have hlimit : (1000 : ℚ) < playbackChunkSeconds * 1000 := by norm_num [playbackChunkSeconds]
  dsimp only at h
  split_ifs at h with hshort hrefused
  · -- the last second of the span
    rw [clamped_lt_iff, not_lt] at hrefused
    rw [max_eq_right (by linarith)] at h
    cases h
    exact ⟨⟨span, hmem, le_sub_comm.mp hrefused, min_le_left ..⟩, (sub_lt_comm.mp hshort).le,
      lt_min hends (by linarith)⟩
  · cases h
    exact ⟨⟨span, hmem, hbegins, min_le_left ..⟩, le_rfl, lt_min hends (by linarith)⟩

/-- A position has no chunk only where the first span that has it is too short, or none has. -/
theorem short_of_chunkAt {error : SelectionError} (h : loadedSpans.chunkAt position = .error error)
    {span : LoadedSpan} (hspan : loadedSpans.spanAt position = some span) :
    span.ends - span.start < 1000 := by
  unfold LoadedSpans.chunkAt at h
  rw [hspan] at h
  dsimp only at h
  split_ifs at h with hshort hrefused
  exact (clamped_lt_iff ..).mp hrefused

theorem spanAt_of_nextChunkStart (h : loadedSpans.nextChunkStart position = some next) :
    position ≤ next ∧ ∃ span, loadedSpans.spanAt next = some span := by
  unfold LoadedSpans.nextChunkStart at h
  split_ifs at h with hcovered
  · cases h
    rw [LoadedSpans.coverageEnd, Option.isSome_map] at hcovered
    exact ⟨le_rfl, Option.isSome_iff_exists.mp hcovered⟩
  split at h
  · cases h
  rename_i span hspan
  split_ifs at h
  cases h
  have hlater := of_decide_eq_true (List.find?_some (p := fun span : LoadedSpan =>
    position ≤ span.start ∧ 1000 ≤ span.ends - span.start) hspan)
  refine ⟨hlater.1, Option.isSome_iff_exists.mp (List.find?_isSome.mpr ⟨span, ?_⟩)⟩
  exact ⟨List.mem_of_find?_eq_some hspan, decide_eq_true ⟨le_rfl, span.nonempty⟩⟩

/-- Nothing comes next only where no span has the end that is reached, and the spans behind it that
can be played begin more than a millisecond later. -/
theorem free_of_nextChunkStart (h : loadedSpans.nextChunkStart position = none) :
    (∀ span ∈ loadedSpans.list, ¬ span.Contains position) ∧
      ∀ span ∈ loadedSpans.list, position ≤ span.start → 1000 ≤ span.ends - span.start →
        position + 1 < span.start := by
  unfold LoadedSpans.nextChunkStart at h
  split_ifs at h with hcovered
  refine ⟨by simpa [LoadedSpans.coverageEnd, LoadedSpans.spanAt] using hcovered, ?_⟩
  intro span hspan hlater hlong
  split at h
  · next hnone => exact absurd (decide_eq_true ⟨hlater, hlong⟩) (List.find?_eq_none.mp hnone span hspan)
  next first hfirst =>
    -- the list is sorted, so that no other one that counts begins earlier
    obtain ⟨-, before, behind, hlist, hbefore⟩ := List.find?_eq_some_iff_append.mp hfirst
    have hleast : first.start ≤ span.start := by
      have hsorted := loadedSpans.sorted
      rw [hlist, List.pairwise_append, List.pairwise_cons] at hsorted
      rw [hlist] at hspan
      rcases List.mem_append.mp hspan with hearly | hlate
      · exact absurd (hbefore span hearly) (by simpa using ⟨hlater, hlong⟩)
      · rcases List.mem_cons.mp hlate with rfl | hbehind
        · exact le_rfl
        · exact hsorted.2.1.1 span hbehind
    split_ifs at h with hnear
    linarith

structure PlaybackGoesOn (spans : LoadedSpans) (position : ℚ) (chunks : List (ℚ × Chunk))
    (progress : Progress) : Prop where
  serves : ∀ played ∈ chunks, position ≤ played.1 ∧ Serves spans played.1 played.2
  increasing : (chunks.map fun played => played.2.ends).Pairwise (· < ·)
  passed : ∀ ends, progress = .passed ends → (∀ span ∈ spans.list, ¬ span.Contains ends) ∧
    ∀ span ∈ spans.list, ends ≤ span.start → 1000 ≤ span.ends - span.start →
      ends + 1 < span.start
  failed : ∀ asked error, progress = .failed asked error → ∃ span,
    spans.spanAt asked = some span ∧ span.ends - span.start < 1000

/-- From a position in a span each chunk serves the position that it was asked for, and ends behind
the ones before it; the playback is over only where nothing to play begins within a millisecond,
and fails only where the first span that has the position is too short. -/
theorem playback_goes_on (spans : LoadedSpans) (chunks : ℕ) {position : ℚ} {span : LoadedSpan}
    (h : spans.spanAt position = some span) :
    PlaybackGoesOn spans position (spans.playback chunks position).1
      (spans.playback chunks position).2 := by
  induction chunks generalizing position span with
  | zero => exact ⟨nofun, .nil, nofun, nofun⟩
  | succ chunks ih =>
      rw [LoadedSpans.playback]
      cases hchunk : spans.chunkAt position with
      | error error =>
          refine ⟨nofun, .nil, nofun, ?_⟩
          rintro _ _ ⟨⟩
          exact ⟨span, h, short_of_chunkAt hchunk h⟩
      | ok chunk =>
          have hserves := serves_of_chunkAt hchunk
          dsimp only
          cases hnext : spans.nextChunkStart chunk.ends with
          | none =>
              refine ⟨?_, List.pairwise_singleton .., ?_, nofun⟩
              · simpa using hserves
              · rintro _ ⟨⟩
                exact free_of_nextChunkStart hnext
          | some next =>
              obtain ⟨hlater, found, hfound⟩ := spanAt_of_nextChunkStart hnext
              have hrest := ih hfound
              refine ⟨?_, List.pairwise_cons.mpr ⟨?_, hrest.increasing⟩, hrest.passed, hrest.failed⟩
              · intro played hplayed
                rcases List.mem_cons.mp hplayed with rfl | hbehind
                · exact ⟨le_rfl, hserves⟩
                · obtain ⟨hle, hplays⟩ := hrest.serves played hbehind
                  exact ⟨hserves.lt_ends.le.trans (hlater.trans hle), hplays⟩
              · intro ends hends
                obtain ⟨played, hplayed, rfl⟩ := List.mem_map.mp hends
                obtain ⟨hle, hplays⟩ := hrest.serves played hplayed
                exact (hlater.trans hle).trans_lt hplays.lt_ends

def interrupted : LoadedSpans where
  list := [⟨0, 5000, by norm_num⟩, ⟨5000, 5500, by norm_num⟩, ⟨5500, 10000, by norm_num⟩]
  sorted := by norm_num

theorem playback_goes_on_interrupted : PlaybackGoesOn interrupted 0
    (interrupted.playback 2 0).1 (interrupted.playback 2 0).2 := by
  have hinside : interrupted.spanAt 0 = some ⟨0, 5000, by norm_num⟩ := by decide +kernel
  exact playback_goes_on interrupted 2 hinside

/-- The second half of the ten seconds is not played, though footage is there all the time. -/
theorem playback_stops_interrupted : ¬ ∀ (spans : LoadedSpans) (chunks : ℕ) (position asked : ℚ)
    (error : SelectionError), (spans.playback chunks position).2 = .failed asked error →
      ∀ span ∈ spans.list, ¬ span.Contains asked := by
  intro hclaim
  have hfailed : (interrupted.playback 2 0).2 = .failed 5000
      ⟨"This recording is shorter than one second and cannot be played."⟩ := by decide +kernel
  exact hclaim interrupted 2 0 5000 _ hfailed ⟨5000, 5500, by norm_num⟩ (by simp [interrupted])
    ⟨le_rfl, by norm_num⟩

end K5Vision.Media.ClientPlayback
