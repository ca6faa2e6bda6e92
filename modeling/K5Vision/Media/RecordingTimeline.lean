import K5Vision.Library.Machine
import K5Vision.Media.ClientPlayback
import Mathlib.Data.Prod.Lex

/-!
# The timeline of the web client

`timeline.js`: the part of a history that is visible, and the ranges of recordings and gaps that are
drawn for it.  Times are exact rationals; dragging is left out, and so is what only the page sees.
-/

namespace K5Vision.Media.RecordingTimeline

open Library ClientPlayback

/-! ## Drawing -/

def maxDate : ℚ := 8640000000000000

def validTime (value : ℚ) : Bool := decide (|value| ≤ maxDate)

/-- A span as it is handed over. -/
structure Span where
  start : ℚ
  ends : ℚ

def Span.valid (span : Span) : Bool := validTime span.start && validTime span.ends

def Span.Contains (span : Span) (instant : ℚ) : Prop := span.start ≤ instant ∧ instant < span.ends

def clip (first last start ends : ℚ) : Option LoadedSpan :=
  if h : max first start < min last ends then some ⟨_, _, h⟩ else none

/-- A range that is drawn, of recordings or of a gap. -/
structure Range where
  part : LoadedSpan
  available : Bool
  deriving DecidableEq

/-- `addRange`, for the window between two instants. -/
def addRange (windowStart windowEnd start ends : ℚ) (available : Bool) : List Range :=
  (clip windowStart windowEnd start ends).toList.map fun part => ⟨part, available⟩

/-- The gaps that `renderWindow` adds, from the cursor on. -/
def gaps (windowStart windowEnd : ℚ) : ℚ → List LoadedSpan → List Range
  | cursor, [] => addRange windowStart windowEnd cursor windowEnd false
  | cursor, span :: rest =>
      addRange windowStart windowEnd cursor span.start false ++
        gaps windowStart windowEnd (max cursor span.ends) rest

/-- By their starts, and by their ends where these are the same. -/
def Before (first second : LoadedSpan) : Prop :=
  toLex (first.start, first.ends) ≤ toLex (second.start, second.ends)

instance : DecidableRel Before := fun _ _ => inferInstanceAs (Decidable (toLex _ ≤ toLex _))

/-- The `intervals` that `setData` keeps of the spans. -/
def intervalsOf (start ends : ℚ) (spans : List Span) : LoadedSpans where
  list := ((spans.filter Span.valid).filterMap fun span =>
    clip start ends span.start span.ends).insertionSort Before
  sorted := by
    have htotal : Std.Total Before := ⟨fun _ _ => le_total _ _⟩
    have htrans : IsTrans LoadedSpan Before := ⟨fun _ _ _ => le_trans⟩
    exact (List.pairwise_insertionSort Before _).imp fun h => Prod.Lex.monotone_fst _ _ h

structure Timeline where
  fullStart : ℚ
  fullEnd : ℚ
  windowStart : ℚ
  windowEnd : ℚ
  intervals : LoadedSpans
  current : Option ℚ
  ranges : List Range

namespace Timeline

def renderWindow (timeline : Timeline) (start ends : ℚ) : Timeline :=
  let visible := timeline.intervals.list.filter fun span => start < span.ends ∧ span.start < ends
  { timeline with
    windowStart := start
    windowEnd := ends
    ranges := gaps start ends start visible ++
      visible.flatMap fun span => addRange start ends span.start span.ends true }

def mathRound (value : ℚ) : ℤ := ⌊value + 1 / 2⌋

def setViewport (timeline : Timeline) (duration : ℚ) (center : Option ℚ) : Timeline :=
  if duration ≤ 0 then timeline
  else
    let full := timeline.fullEnd - timeline.fullStart
    let length := max (min 60000 full) (min full duration)
    let anchor := (center.filter validTime).getD ((timeline.windowStart + timeline.windowEnd) / 2)
    let start :=
      max timeline.fullStart (min (timeline.fullEnd - length) (mathRound (anchor - length / 2)))
    timeline.renderWindow start (start + length)

/-- `setData`, with the playhead that it finds; `none` where it clears the timeline. -/
def setData (current : Option ℚ) (start ends : ℚ) (spans : List Span) : Option Timeline :=
  if !validTime start || !validTime ends || decide (ends ≤ start) then none
  else
    let kept := current.filter fun value => validTime value && start ≤ value && value ≤ ends
    let intervals := intervalsOf start ends spans
    some (renderWindow ⟨start, ends, start, ends, intervals, some (kept.getD start), []⟩ start ends)

def setPlayhead (timeline : Timeline) (value : ℚ) : Timeline :=
  if !validTime value || value < timeline.fullStart || timeline.fullEnd < value then timeline
  else
    let timeline := { timeline with current := some value }
    if value < timeline.windowStart ∨ timeline.windowEnd < value then
      timeline.setViewport (timeline.windowEnd - timeline.windowStart) (some value)
    else timeline

inductive Event
  | zoomIn
  | zoomOut
  | fit
  | panLeft
  | panRight
  | scale (duration : ℚ)
  | playhead (value : ℚ)

def step (timeline : Timeline) : Event → Timeline
  | .zoomIn =>
      timeline.setViewport ((timeline.windowEnd - timeline.windowStart) / 2) timeline.current
  | .zoomOut =>
      timeline.setViewport ((timeline.windowEnd - timeline.windowStart) * 2) timeline.current
  | .fit => timeline.renderWindow timeline.fullStart timeline.fullEnd
  | .panLeft =>
      timeline.setViewport (timeline.windowEnd - timeline.windowStart) (some timeline.windowStart)
  | .panRight =>
      timeline.setViewport (timeline.windowEnd - timeline.windowStart) (some timeline.windowEnd)
  | .scale duration => timeline.setViewport duration timeline.current
  | .playhead value => timeline.setPlayhead value

def machine : Machine Timeline Event := ⟨step, fun _ _ => True⟩

end Timeline

/-! ## Ranges -/

section Ranges

variable {first last start ends instant cursor : ℚ} {available : Bool} {range : Range}
  {spans : List LoadedSpan}

theorem exists_clip_iff (hlow : first ≤ instant) (hhigh : instant < last) :
    (∃ part ∈ clip first last start ends, part.Contains instant) ↔
      start ≤ instant ∧ instant < ends := by
  unfold clip
  split_ifs with h
  · simp [LoadedSpan.Contains, hlow, hhigh]
  · refine ⟨by simp, fun hcontains => absurd ?_ h⟩
    exact (max_le hlow hcontains.1).trans_lt (lt_min hhigh hcontains.2)

theorem mem_addRange (h : range ∈ addRange first last start ends available) :
    range.available = available ∧ first ≤ range.part.start ∧ range.part.ends ≤ last := by
  unfold addRange clip at h
  split_ifs at h with hpart
  · rw [List.mem_singleton.mp h]
    exact ⟨rfl, le_max_left .., min_le_left ..⟩
  · cases h

theorem exists_addRange_iff (hlow : first ≤ instant) (hhigh : instant < last) :
    (∃ range ∈ addRange first last start ends available, range.part.Contains instant) ↔
      start ≤ instant ∧ instant < ends := by
  rw [← exists_clip_iff hlow hhigh]
  simp [addRange]

theorem mem_gaps (h : range ∈ gaps first last cursor spans) :
    range.available = false ∧ first ≤ range.part.start ∧ range.part.ends ≤ last := by
  induction spans generalizing cursor with
  | nil => exact mem_addRange h
  | cons span rest ih =>
      rcases List.mem_append.mp h with hspan | hrest
      · exact mem_addRange hspan
      · exact ih hrest

/-- An instant behind the cursor is in a gap where no span has it.  The spans behind one that begins
after the instant begin after it, too. -/
theorem exists_gap_iff (hsorted : spans.Pairwise fun first second => first.start ≤ second.start)
    (hlow : first ≤ instant) (hhigh : instant < last) :
    (∃ range ∈ gaps first last cursor spans, range.part.Contains instant) ↔
      cursor ≤ instant ∧ ∀ span ∈ spans, ¬ span.Contains instant := by
  induction spans generalizing cursor with
  | nil =>
      rw [gaps, exists_addRange_iff hlow hhigh]
      simp [hhigh]
  | cons span rest ih =>
      obtain ⟨hspan, hrest⟩ := List.pairwise_cons.mp hsorted
      simp only [gaps, List.mem_append, or_and_right, exists_or, exists_addRange_iff hlow hhigh,
        ih hrest, List.forall_mem_cons, max_le_iff]
      constructor
      · rintro (⟨hcursor, hbefore⟩ | ⟨⟨hcursor, hbehind⟩, hnone⟩)
        · refine ⟨hcursor, fun hown => absurd hown.1 (not_le.mpr hbefore), ?_⟩
          intro other hother hcontains
          exact absurd ((hspan other hother).trans hcontains.1) (not_le.mpr hbefore)
        · exact ⟨hcursor, fun hown => absurd hown.2 (not_lt.mpr hbehind), hnone⟩
      · rintro ⟨hcursor, hown, hnone⟩
        rcases lt_or_ge instant span.start with hbefore | hstart
        · exact .inl ⟨hcursor, hbefore⟩
        · exact .inr ⟨⟨hcursor, not_lt.mp fun hends => hown ⟨hstart, hends⟩⟩, hnone⟩

/-- The spans with valid times have the instants of the intervals. -/
theorem exists_interval_iff {spans : List Span} (hlow : first ≤ instant) (hhigh : instant < last) :
    (∃ interval ∈ (intervalsOf first last spans).list, interval.Contains instant) ↔
      ∃ span ∈ spans, span.valid = true ∧ span.Contains instant := by
  simp only [intervalsOf, List.mem_insertionSort, List.mem_filterMap, List.mem_filter,
    Span.Contains, ← exists_clip_iff hlow hhigh]
  constructor
  · rintro ⟨interval, ⟨span, ⟨hspan, hvalid⟩, hclip⟩, hcontains⟩
    exact ⟨span, hspan, hvalid, interval, hclip, hcontains⟩
  · rintro ⟨span, hspan, hvalid, interval, hclip, hcontains⟩
    exact ⟨interval, ⟨span, ⟨hspan, hvalid⟩, hclip⟩, hcontains⟩

end Ranges

/-! ## Runs -/

/-- The window of a history with its spans, and what is drawn for it. -/
structure Shown (start ends : ℚ) (spans : List Span) (timeline : Timeline) : Prop where
  inside : start ≤ timeline.windowStart ∧ timeline.windowEnd ≤ ends
  length : min 60000 (ends - start) ≤ timeline.windowEnd - timeline.windowStart ∧
    timeline.windowEnd - timeline.windowStart ≤ ends - start
  ranges : ∀ range ∈ timeline.ranges,
    timeline.windowStart ≤ range.part.start ∧ range.part.ends ≤ timeline.windowEnd
  recorded : ∀ instant, timeline.windowStart ≤ instant → instant < timeline.windowEnd →
    ((∃ range ∈ timeline.ranges, range.available = true ∧ range.part.Contains instant) ↔
      ∃ span ∈ spans, span.valid = true ∧ span.Contains instant)
  gap : ∀ instant, timeline.windowStart ≤ instant → instant < timeline.windowEnd →
    ((∃ range ∈ timeline.ranges, range.available = false ∧ range.part.Contains instant) ↔
      ¬ ∃ span ∈ spans, span.valid = true ∧ span.Contains instant)

namespace Timeline

variable {timeline : Timeline} {start ends : ℚ} {spans : List Span}

/-- What the steps leave as `setData` has made it, and the window. -/
structure Inv (start ends : ℚ) (spans : List Span) (timeline : Timeline) : Prop where
  valid : validTime start = true ∧ validTime ends = true ∧ start < ends
  full : timeline.fullStart = start ∧ timeline.fullEnd = ends
  intervals : timeline.intervals = intervalsOf start ends spans
  inside : start ≤ timeline.windowStart ∧ timeline.windowEnd ≤ ends
  length : min 60000 (ends - start) ≤ timeline.windowEnd - timeline.windowStart
  drawn : (timeline.renderWindow timeline.windowStart timeline.windowEnd).ranges = timeline.ranges

theorem Inv.renderWindow (h : Inv start ends spans timeline) {first last : ℚ}
    (hfirst : start ≤ first) (hlast : last ≤ ends)
    (hlength : min 60000 (ends - start) ≤ last - first) :
    Inv start ends spans (timeline.renderWindow first last) :=
  ⟨h.valid, h.full, h.intervals, ⟨hfirst, hlast⟩, hlength, rfl⟩

theorem Inv.setViewport (h : Inv start ends spans timeline) (duration : ℚ) (center : Option ℚ) :
    Inv start ends spans (timeline.setViewport duration center) := by
  unfold Timeline.setViewport
  split_ifs with hduration
  · exact h
  dsimp only
  rw [h.full.1, h.full.2]
  have hlength : max (min 60000 (ends - start)) (min (ends - start) duration) ≤ ends - start :=
    max_le (min_le_right ..) (min_le_left ..)
  refine h.renderWindow (le_max_left ..) ?_ ?_
  · rw [← le_sub_iff_add_le]
    exact max_le (by linarith) (min_le_left ..)
  · rw [add_sub_cancel_left]
    exact le_max_left ..

def Has (timeline : Timeline) (value : ℚ) : Prop :=
  timeline.windowStart ≤ value ∧ value ≤ timeline.windowEnd

/-- A window that is not the full one is so long that it has its center, for all the rounding. -/
theorem Inv.has_setViewport (h : Inv start ends spans timeline) {value : ℚ}
    (hvalid : validTime value = true) (hstart : start ≤ value) (hends : value ≤ ends)
    (hsmaller : timeline.windowEnd - timeline.windowStart < ends - start) :
    (timeline.setViewport (timeline.windowEnd - timeline.windowStart) (some value)).Has value := by
  have hminute : 60000 ≤ timeline.windowEnd - timeline.windowStart := by
    rcases min_le_iff.mp h.length with hminute | hfull
    · exact hminute
    · exact absurd hsmaller (not_lt.mpr hfull)
  unfold Timeline.setViewport
  rw [if_neg (by linarith)]
  dsimp only
  rw [h.full.1, h.full.2, min_eq_right hsmaller.le, max_eq_right h.length, Option.filter_some,
    if_pos hvalid, Option.getD_some]
  generalize timeline.windowEnd - timeline.windowStart = length at *
  have hlow := Int.floor_le (value - length / 2 + 1 / 2)
  have hhigh := Int.lt_floor_add_one (value - length / 2 + 1 / 2)
  simp only [Timeline.renderWindow, mathRound]
  constructor
  · exact max_le hstart ((min_le_right ..).trans (by linarith))
  · rw [← sub_le_iff_le_add]
    exact le_max_of_le_right (le_min (by linarith) (by linarith))

theorem validTime_of_mem {value : ℚ} (hstart : validTime start = true)
    (hends : validTime ends = true) (hlow : start ≤ value) (hhigh : value ≤ ends) :
    validTime value = true := by
  simp only [validTime, decide_eq_true_eq, abs_le] at *
  exact ⟨hstart.1.trans hlow, hhigh.trans hends.2⟩

theorem Inv.setPlayhead (h : Inv start ends spans timeline) (value : ℚ) :
    Inv start ends spans (timeline.setPlayhead value) ∧
      (start ≤ value → value ≤ ends → (timeline.setPlayhead value).Has value) := by
  obtain ⟨rfl, rfl⟩ := h.full
  have hmoved : Inv _ _ spans { timeline with current := some value } := { h with }
  unfold Timeline.setPlayhead
  dsimp only
  split_ifs with houtside hhidden
  · refine ⟨h, fun hstart hends => ?_⟩
    have hvalid := validTime_of_mem h.valid.1 h.valid.2.1 hstart hends
    simp [hvalid, hstart.not_gt, hends.not_gt] at houtside
  · refine ⟨hmoved.setViewport _ _, fun hstart hends => hmoved.has_setViewport
      (validTime_of_mem h.valid.1 h.valid.2.1 hstart hends) hstart hends ?_⟩
    rcases hhidden with hbefore | hbehind
    · exact (sub_lt_sub_left (hstart.trans_lt hbefore) _).trans_le (sub_le_sub_right h.inside.2 _)
    · exact (sub_lt_sub_right (hbehind.trans_le hends) _).trans_le (sub_le_sub_left h.inside.1 _)
  · rw [not_or, not_lt, not_lt] at hhidden
    exact ⟨hmoved, fun _ _ => hhidden⟩

theorem Inv.step (h : Inv start ends spans timeline) (event : Event) :
    Inv start ends spans (timeline.step event) := by
  cases event with
  | fit =>
      refine h.renderWindow h.full.1.ge h.full.2.le ?_
      rw [h.full.1, h.full.2]
      exact min_le_right ..
  | playhead value => exact (h.setPlayhead value).1
  | _ => exact h.setViewport _ _

theorem inv_setData {current : Option ℚ} (h : setData current start ends spans = some timeline) :
    Inv start ends spans timeline := by
  unfold setData at h
  split_ifs at h with hinvalid
  cases h
  simp only [Bool.or_eq_true, not_or, Bool.not_eq_true, Bool.not_eq_false', decide_eq_false_iff_not,
    not_le] at hinvalid
  exact ⟨⟨hinvalid.1.1, hinvalid.1.2, hinvalid.2⟩, ⟨rfl, rfl⟩, rfl, ⟨le_rfl, le_rfl⟩,
    min_le_right .., rfl⟩

/-- What is drawn for the intervals that are visible. -/
theorem Inv.shown (h : Inv start ends spans timeline) : Shown start ends spans timeline := by
  have hvisible : ∀ instant, timeline.windowStart ≤ instant → instant < timeline.windowEnd →
      ((∃ interval ∈ timeline.intervals.list.filter fun interval =>
        timeline.windowStart < interval.ends ∧ interval.start < timeline.windowEnd,
          interval.Contains instant) ↔
        ∃ span ∈ spans, span.valid = true ∧ span.Contains instant) := by
    intro instant hlow hhigh
    rw [← exists_interval_iff (h.inside.1.trans hlow) (hhigh.trans_le h.inside.2), h.intervals]
    simp only [List.mem_filter, decide_eq_true_eq]
    constructor
    · rintro ⟨interval, ⟨hmem, -⟩, hcontains⟩
      exact ⟨interval, hmem, hcontains⟩
    · rintro ⟨interval, hmem, hcontains⟩
      exact ⟨interval, ⟨hmem, hlow.trans_lt hcontains.2, hcontains.1.trans_lt hhigh⟩, hcontains⟩
  have hsorted := timeline.intervals.sorted.filter fun interval =>
    timeline.windowStart < interval.ends ∧ interval.start < timeline.windowEnd
  refine ⟨h.inside, ⟨h.length, by linarith [h.inside.1, h.inside.2]⟩, ?_,
    fun instant hlow hhigh => ?_, fun instant hlow hhigh => ?_⟩
  all_goals rw [← h.drawn, Timeline.renderWindow]
  · intro range hrange
    rcases List.mem_append.mp hrange with hgap | hrecorded
    · exact (mem_gaps hgap).2
    · obtain ⟨interval, -, hdrawn⟩ := List.mem_flatMap.mp hrecorded
      exact (mem_addRange hdrawn).2
  · rw [← hvisible instant hlow hhigh]
    constructor
    · rintro ⟨range, hrange, havailable, hcontains⟩
      rcases List.mem_append.mp hrange with hgap | hrecorded
      · rw [(mem_gaps hgap).1] at havailable
        cases havailable
      · obtain ⟨interval, hinterval, hdrawn⟩ := List.mem_flatMap.mp hrecorded
        exact ⟨interval, hinterval, (exists_addRange_iff hlow hhigh).mp ⟨range, hdrawn, hcontains⟩⟩
    · rintro ⟨interval, hinterval, hcontains⟩
      obtain ⟨range, hdrawn, hinside⟩ := (exists_addRange_iff hlow hhigh).mpr hcontains
      exact ⟨range, List.mem_append_right _ (List.mem_flatMap.mpr ⟨interval, hinterval, hdrawn⟩),
        (mem_addRange hdrawn).1, hinside⟩
  · rw [← hvisible instant hlow hhigh, not_exists]
    have hgaps := (exists_gap_iff hsorted hlow hhigh).trans (and_iff_right hlow)
    simp only [not_and]
    rw [← hgaps]
    constructor
    · rintro ⟨range, hrange, havailable, hcontains⟩
      rcases List.mem_append.mp hrange with hgap | hrecorded
      · exact ⟨range, hgap, hcontains⟩
      · obtain ⟨interval, -, hdrawn⟩ := List.mem_flatMap.mp hrecorded
        rw [(mem_addRange hdrawn).1] at havailable
        cases havailable
    · rintro ⟨range, hgap, hcontains⟩
      exact ⟨range, List.mem_append_left _ hgap, (mem_gaps hgap).1, hcontains⟩

/-- In every run the window is inside of the history, and as long as it may be; what is drawn are
its recordings and its gaps; and a playhead that is set is inside of the window. -/
theorem timeline_exact {current : Option ℚ} {final : Timeline} {events : List Event}
    (hdata : setData current start ends spans = some timeline)
    (hrun : machine.Reaches timeline events final) :
    Shown start ends spans final ∧
      ∀ value, start ≤ value → value ≤ ends → (final.step (.playhead value)).Has value := by
  have hinv : Inv start ends spans final :=
    hrun.invariant (fun _ event hinv _ => hinv.step event) (inv_setData hdata)
  exact ⟨hinv.shown, fun value => (hinv.setPlayhead value).2⟩

/-- Two spans, of which one is inside of the other. -/
theorem timeline_exact_nested :
    ∃ timeline, setData none 0 400000 [⟨20000, 90000⟩, ⟨30000, 60000⟩] = some timeline ∧
      Shown 0 400000 [⟨20000, 90000⟩, ⟨30000, 60000⟩] (timeline.step .zoomIn) := by
  obtain ⟨timeline, hdata⟩ :
      ∃ timeline, setData none 0 400000 [⟨20000, 90000⟩, ⟨30000, 60000⟩] = some timeline := ⟨_, rfl⟩
  have hrun : machine.Reaches timeline [.zoomIn] (timeline.step .zoomIn) := ⟨trivial, rfl⟩
  exact ⟨timeline, hdata, (timeline_exact hdata hrun).1⟩

/-- A span that ends behind the last date is dropped, and a gap is drawn for it. -/
theorem gap_where_recorded :
    (Span.mk 0 (maxDate + 1)).Contains 0 ∧
      (setData none 0 1000 [⟨0, maxDate + 1⟩]).map (fun timeline =>
        timeline.ranges.map fun range => (range.part.start, range.part.ends, range.available)) =
          some [(0, 1000, false)] := by
  refine ⟨by norm_num [Span.Contains, maxDate], ?_⟩
  decide +kernel

end Timeline

end K5Vision.Media.RecordingTimeline
