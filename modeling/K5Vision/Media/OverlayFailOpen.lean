import K5Vision.Media.AnalyticsOverlay

/-!
# The overlay fails open

Whatever the provider does, the consumer gets every frame once and in order, as it is or with the
boxes of one completed call on a frame that is not too old.

## Strategy

`Sound` relates a delivery to the history it keeps: a task that has not ended is the current one,
the latest observations are those of a task that has returned them, and every call of the consumer
is `Fair`.  Tasks are only added, and change only when they end (`Grows`), so that what was true of
an ended task stays true.  The parts of `overlayConsumer` keep `Sound` one after the other; between
them one processed frame is not yet counted as shown, which is what `pending` counts.
-/

namespace K5Vision.Media.Overlay

open Library

/-! ## Tasks -/

/-- Ended tasks stay as they are. -/
def Grows (before after : List ProviderTask) : Prop :=
  ∀ task ∈ before, task.ending.isSome → task ∈ after

theorem Grows.refl (tasks : List ProviderTask) : Grows tasks tasks := fun _ h _ => h

theorem grows_append (tasks others : List ProviderTask) : Grows tasks (tasks ++ others) :=
  fun _ h _ => List.mem_append_left _ h

theorem grows_modify {tasks : List ProviderTask} {number : ℕ} {current : ProviderTask}
    (hcurrent : tasks[number]? = some current) (hrunning : current.ending = none)
    (change : ProviderTask → ProviderTask) : Grows tasks (tasks.modify number change) := by
  intro task hmem hended
  obtain ⟨index, hindex⟩ := List.mem_iff_getElem?.mp hmem
  have hne : number ≠ index := by
    rintro rfl
    rw [hcurrent, Option.some.injEq] at hindex
    rw [← hindex, hrunning] at hended
    exact Bool.false_ne_true hended
  refine List.mem_iff_getElem?.mpr ⟨index, ?_⟩
  simp [hne, hindex]

/-- A task has returned what makes these observations, on a frame of this time. -/
def Completed (config : DeliveryConfig) (tasks : List ProviderTask)
    (observations : List DetectionOverlayObservation) (elapsed : ℕ) : Prop :=
  ∃ task ∈ tasks, ∃ values, task.ending = some (.returned values) ∧
    adaptDetections config.renderer.maxBoxes values = .ok observations ∧
    task.frame.sourceElapsedMs = elapsed

theorem Completed.grows {config : DeliveryConfig} {tasks others : List ProviderTask}
    {observations : List DetectionOverlayObservation} {elapsed : ℕ}
    (h : Completed config tasks observations elapsed) (hgrows : Grows tasks others) :
    Completed config others observations elapsed := by
  obtain ⟨task, hmem, values, hending, hrest⟩ := h
  exact ⟨task, hgrows task hmem (by rw [hending]; rfl), values, hending, hrest⟩

/-- The consumer gets what was delivered, or the delivered frame with the boxes of a completed call
on a frame that is at most `maxStaleMs` older. -/
def Fair (config : DeliveryConfig) (tasks : List ProviderTask) (call : ConsumerCall) : Prop :=
  call.given = call.delivered ∨
  ∃ frame observations elapsed result after,
    call.delivered = some frame ∧ Completed config tasks observations elapsed ∧
    elapsed ≤ frame.sourceElapsedMs ∧ frame.sourceElapsedMs - elapsed ≤ config.maxStaleMs ∧
    config.renderer.render call.memory frame observations = (.ok result, after) ∧
    call.given = some result.frame

theorem Fair.grows {config : DeliveryConfig} {tasks others : List ProviderTask}
    {call : ConsumerCall} (h : Fair config tasks call) (hgrows : Grows tasks others) :
    Fair config others call := by
  rcases h with hsame | ⟨frame, observations, elapsed, result, after, hframe, hdone, hrest⟩
  · exact .inl hsame
  · exact .inr ⟨frame, observations, elapsed, result, after, hframe, hdone.grows hgrows, hrest⟩

/-! ## What a delivery keeps -/

namespace OverlayDelivery

def InFlight (delivery : OverlayDelivery) (number : ℕ) : Prop :=
  ∃ task, delivery.tasks[number]? = some task ∧ task.ending = none

structure Sound (config : DeliveryConfig) (pending : ℕ) (delivery : OverlayDelivery) : Prop where
  single : ∀ number, delivery.InFlight number → delivery.providerTask = some number
  latest : ∀ observations elapsed, delivery.latest = some (observations, elapsed) →
    Completed config delivery.tasks observations elapsed
  fair : ∀ call ∈ delivery.calls, Fair config delivery.tasks call
  counted : delivery.processedFrames =
    delivery.overlayFrames + delivery.passthroughFrames + pending

variable {config : DeliveryConfig} {pending : ℕ} {delivery : OverlayDelivery}

theorem sound_new : Sound config 0 new where
  single number h := by
    obtain ⟨task, htask, _⟩ := h
    exact nomatch htask
  latest _ _ h := nomatch h
  fair _ h := absurd h List.not_mem_nil
  counted := rfl

theorem Sound.free (h : Sound config pending delivery)
    (hended : delivery.providerTask = none ∨ delivery.taskEnding.isSome) (number : ℕ) :
    ¬ delivery.InFlight number := by
  intro hflight
  have hcurrent := h.single number hflight
  obtain ⟨task, htask, hrunning⟩ := hflight
  rcases hended with hnone | hsome
  · exact nomatch hcurrent.symm.trans hnone
  have hending : delivery.taskEnding = none := by
    simp [taskEnding, hcurrent, htask, hrunning]
  rw [hending] at hsome
  exact Bool.false_ne_true hsome

theorem taskEnding_eq_some {task : ProviderTask} {ending : ProviderEnd}
    (h : delivery.taskEnding = some (task, ending)) :
    task ∈ delivery.tasks ∧ task.ending = some ending := by
  simp only [taskEnding, Option.bind_eq_bind, Option.bind_eq_some_iff, Option.pure_def,
    Option.some.injEq, Prod.mk.injEq] at h
  obtain ⟨number, _, other, hother, last, hlast, rfl, rfl⟩ := h
  exact ⟨List.mem_of_getElem? hother, hlast⟩

theorem completed_of_collected {task : ProviderTask} {ending : ProviderEnd}
    {observations : List DetectionOverlayObservation} {elapsed : ℕ}
    (hmem : task ∈ delivery.tasks) (hending : task.ending = some ending)
    (h : collected config.renderer.maxBoxes task.frame ending = some (observations, elapsed)) :
    Completed config delivery.tasks observations elapsed := by
  cases ending with
  | returned values =>
      unfold collected at h
      dsimp only at h
      cases hadapt : adaptDetections config.renderer.maxBoxes values with
      | error error =>
          rw [hadapt] at h
          exact nomatch h
      | ok found =>
          rw [hadapt] at h
          obtain ⟨hfound, helapsed⟩ := Prod.mk.inj (Option.some.inj h)
          exact ⟨task, hmem, values, hending, hfound ▸ hadapt, helapsed⟩
  | raised => exact nomatch h
  | cancelled => exact nomatch h

theorem harvestProvider_sound (h : Sound config pending delivery) :
    Sound config pending (delivery.harvestProvider config) := by
  unfold harvestProvider
  cases hending : delivery.taskEnding with
  | none => exact h
  | some found =>
      obtain ⟨task, ending⟩ := found
      have hfree := h.free (.inr (by rw [hending]; rfl))
      obtain ⟨hmem, htask⟩ := taskEnding_eq_some hending
      dsimp only
      cases hcollected : collected config.renderer.maxBoxes task.frame ending with
      | none =>
          exact ⟨fun number hflight => absurd hflight (hfree number), h.latest, h.fair, h.counted⟩
      | some result =>
          refine ⟨fun number hflight => absurd hflight (hfree number), ?_, h.fair, h.counted⟩
          intro observations elapsed hlatest
          rw [Option.some.inj hlatest] at hcollected
          exact completed_of_collected hmem htask hcollected

theorem submitProvider_sound (h : Sound config pending delivery)
    (hnone : delivery.providerTask = none) (frame : PresentationVideoFrame) :
    Sound config pending (delivery.submitProvider frame) := by
  have hgrows := grows_append delivery.tasks [⟨frame, none⟩]
  refine ⟨fun number hflight => ?_, fun observations elapsed hlatest =>
    (h.latest observations elapsed hlatest).grows hgrows,
    fun call hcall => (h.fair call hcall).grows hgrows, h.counted⟩
  obtain ⟨task, htask, hrunning⟩ := hflight
  -- every earlier task has ended, so that this is the new one
  have hlast : number = delivery.tasks.length := by
    by_contra hne
    rcases Nat.lt_or_gt_of_ne hne with hlt | hgt
    · have hold : delivery.tasks[number]? = some task := by
        rw [← htask]
        exact (List.getElem?_append_left hlt).symm
      exact h.free (.inl hnone) number ⟨task, hold, hrunning⟩
    · have hout : (delivery.tasks ++ [⟨frame, none⟩])[number]? = none := by
        rw [List.getElem?_eq_none]
        rw [List.length_append, List.length_singleton]
        omega
      exact nomatch hout.symm.trans htask
  rw [hlast]
  rfl

theorem offerFrame_sound (h : Sound config pending delivery) (frame : PresentationVideoFrame) :
    Sound config pending (delivery.offerFrame config frame) := by
  unfold offerFrame
  split_ifs with hbusy hmore
  · exact ⟨h.single, h.latest, h.fair, h.counted⟩
  · exact submitProvider_sound h (Option.not_isSome_iff_eq_none.mp hbusy) frame
  · exact ⟨h.single, h.latest, h.fair, h.counted⟩

/-- Observations that may be shown are those of a completed call on a frame that is not too old. -/
theorem currentObservations_sound (h : Sound config pending delivery)
    (frame : PresentationVideoFrame) :
    Sound config pending (delivery.currentObservations config frame).2 ∧
    ∀ observations, (delivery.currentObservations config frame).1 = some observations →
      ∃ elapsed, Completed config (delivery.currentObservations config frame).2.tasks observations
          elapsed ∧
        elapsed ≤ frame.sourceElapsedMs ∧
        frame.sourceElapsedMs - elapsed ≤ config.maxStaleMs := by
  unfold currentObservations
  cases hlatest : delivery.latest with
  | none => exact ⟨h, fun _ hnone => nomatch hnone⟩
  | some found =>
      obtain ⟨observations, elapsed⟩ := found
      dsimp only
      split_ifs with hstale
      · have hkept : ∀ shown time, some (observations, elapsed) = some (shown, time) →
            Completed config delivery.tasks shown time := fun shown time heq =>
          h.latest shown time (hlatest.trans heq)
        exact ⟨⟨h.single, hkept, h.fair, h.counted⟩, fun _ hnone => nomatch hnone⟩
      · refine ⟨h, fun shown hshown => ⟨elapsed, ?_, by omega, by omega⟩⟩
        rw [← Option.some.inj hshown]
        exact h.latest observations elapsed hlatest

/-- A fair call of the consumer, behind which one frame more is counted as shown. -/
theorem callConsumer_sound {counted : OverlayDelivery} {memory : Memory}
    {delivered given : Option PresentationVideoFrame}
    (h : Sound config pending counted)
    (hfair : Fair config counted.tasks ⟨delivered, given, memory⟩) :
    Sound config pending (counted.callConsumer memory delivered given) := by
  refine ⟨h.single, h.latest, fun call hcall => ?_, h.counted⟩
  rcases List.mem_append.mp hcall with hold | hnew
  · exact h.fair call hold
  · rw [List.mem_singleton.mp hnew]
    exact hfair

theorem passThrough_sound (h : Sound config (pending + 1) delivery) (memory : Memory)
    (frame : PresentationVideoFrame) :
    Sound config pending (delivery.passThrough memory frame) := by
  refine callConsumer_sound ⟨h.single, h.latest, h.fair, ?_⟩ (.inl rfl)
  have hcounted := h.counted
  show delivery.processedFrames =
    delivery.overlayFrames + (delivery.passthroughFrames + 1) + pending
  omega

theorem showOverlay_sound (h : Sound config (pending + 1) delivery) (memory : Memory)
    {frame : PresentationVideoFrame} {observations : List DetectionOverlayObservation}
    {elapsed : ℕ} (hdone : Completed config delivery.tasks observations elapsed)
    (hle : elapsed ≤ frame.sourceElapsedMs)
    (hfresh : frame.sourceElapsedMs - elapsed ≤ config.maxStaleMs) :
    Sound config pending (delivery.showOverlay config memory frame observations) := by
  have hcounted := h.counted
  unfold showOverlay
  rcases hrender : config.renderer.render memory frame observations with ⟨outcome, after⟩
  cases outcome with
  | error error =>
      refine passThrough_sound ?_ memory frame
      exact ⟨h.single, h.latest, h.fair, h.counted⟩
  | ok rendered =>
      have hfair : Fair config delivery.tasks ⟨some frame, some rendered.frame, memory⟩ :=
        .inr ⟨frame, observations, elapsed, rendered, after, rfl, hdone, hle, hfresh, hrender, rfl⟩
      dsimp only
      split_ifs with hboxes
      · refine callConsumer_sound ⟨h.single, h.latest, h.fair, ?_⟩ hfair
        show delivery.processedFrames =
          delivery.overlayFrames + 1 + delivery.passthroughFrames + pending
        omega
      · refine callConsumer_sound ⟨h.single, h.latest, h.fair, ?_⟩ hfair
        show delivery.processedFrames =
          delivery.overlayFrames + (delivery.passthroughFrames + 1) + pending
        omega

theorem overlayConsumer_sound (h : Sound config 0 delivery) (memory : Memory)
    (delivered : Option PresentationVideoFrame) :
    Sound config 0 (delivery.overlayConsumer config memory delivered) := by
  unfold overlayConsumer
  cases delivered with
  | none => exact callConsumer_sound h (.inl rfl)
  | some frame =>
      have hharvested := harvestProvider_sound h
      have hprocessed : Sound config 1 { delivery.harvestProvider config with
          processedFrames := (delivery.harvestProvider config).processedFrames + 1 } :=
        ⟨hharvested.single, hharvested.latest, hharvested.fair, congrArg (· + 1) hharvested.counted⟩
      have hoffered := offerFrame_sound hprocessed frame
      obtain ⟨hcurrent, hshown⟩ := currentObservations_sound hoffered frame
      dsimp only
      rcases hfound : OverlayDelivery.currentObservations config frame
        (OverlayDelivery.offerFrame config frame { delivery.harvestProvider config with
          processedFrames := (delivery.harvestProvider config).processedFrames + 1 })
        with ⟨shown, current⟩
      rw [hfound] at hcurrent hshown
      cases shown with
      | none => exact passThrough_sound hcurrent memory frame
      | some observations =>
          obtain ⟨elapsed, hdone, hle, hfresh⟩ := hshown observations rfl
          exact showOverlay_sound hcurrent memory hdone hle hfresh

/-! ## Runs -/

theorem endTask_sound (h : Sound config pending delivery) {number : ℕ} {ending : ProviderEnd}
    {current : ProviderTask} (hcurrent : delivery.tasks[number]? = some current)
    (hrunning : current.ending = none) : Sound config pending (delivery.endTask number ending) := by
  have hgrows := grows_modify hcurrent hrunning fun task => { task with ending := some ending }
  refine ⟨fun other hflight => ?_, fun observations elapsed hlatest =>
    (h.latest observations elapsed hlatest).grows hgrows,
    fun call hcall => (h.fair call hcall).grows hgrows, h.counted⟩
  obtain ⟨task, htask, hopen⟩ := hflight
  have hne : number ≠ other := by
    rintro rfl
    simp [endTask, hcurrent] at htask
    rw [← htask] at hopen
    exact nomatch hopen
  refine h.single other ⟨task, ?_, hopen⟩
  simpa [endTask, hne] using htask

theorem stopRun_sound (h : Sound config pending delivery) :
    Sound config pending (delivery.stopRun config) := by
  have hharvested := harvestProvider_sound h
  unfold stopRun
  split
  · exact ⟨h.single, h.latest, h.fair, h.counted⟩
  · exact ⟨hharvested.single, hharvested.latest, hharvested.fair, hharvested.counted⟩
  · exact ⟨h.single, h.latest, h.fair, h.counted⟩

theorem step_sound {event : Event} (h : Sound config 0 delivery)
    (hevent : delivery.admissible event) : Sound config 0 (delivery.step config event) := by
  cases event with
  | run =>
      unfold step
      dsimp only
      split_ifs
      · exact ⟨h.single, h.latest, h.fair, h.counted⟩
      · exact h
  | frame memory delivered => exact overlayConsumer_sound h memory delivered
  | ended number ending =>
      obtain ⟨current, hcurrent, hrunning⟩ := hevent
      exact endTask_sound h hcurrent hrunning
  | stop => exact stopRun_sound h
  | awaited interrupted =>
      cases interrupted with
      | true => exact ⟨h.single, h.latest, h.fair, h.counted⟩
      | false =>
          have hfree := h.free (.inr (hevent.2 rfl))
          exact ⟨fun number hflight => absurd hflight (hfree number), h.latest, h.fair, h.counted⟩

/-! ### What was delivered -/

def Event.delivered : Event → Option (Option PresentationVideoFrame)
  | .frame _ delivered => some delivered
  | _ => none

def deliveries (delivery : OverlayDelivery) : List (Option PresentationVideoFrame) :=
  delivery.calls.map ConsumerCall.delivered

@[simp] theorem calls_harvestProvider :
    (delivery.harvestProvider config).calls = delivery.calls := by
  unfold harvestProvider
  cases delivery.taskEnding with
  | none => rfl
  | some found =>
      dsimp only
      cases collected config.renderer.maxBoxes found.1.frame found.2 <;> rfl

@[simp] theorem calls_offerFrame (frame : PresentationVideoFrame) :
    (delivery.offerFrame config frame).calls = delivery.calls := by
  unfold offerFrame
  split_ifs <;> rfl

@[simp] theorem calls_currentObservations (frame : PresentationVideoFrame) :
    (delivery.currentObservations config frame).2.calls = delivery.calls := by
  unfold currentObservations
  cases delivery.latest with
  | none => rfl
  | some found =>
      dsimp only
      split_ifs <;> rfl

theorem deliveries_callConsumer (memory : Memory)
    (delivered given : Option PresentationVideoFrame) :
    (delivery.callConsumer memory delivered given).deliveries =
      delivery.deliveries ++ [delivered] :=
  List.map_append

theorem deliveries_showOverlay (memory : Memory) (frame : PresentationVideoFrame)
    (observations : List DetectionOverlayObservation) :
    (delivery.showOverlay config memory frame observations).deliveries =
      delivery.deliveries ++ [some frame] := by
  unfold showOverlay
  cases (config.renderer.render memory frame observations).1 with
  | error error => exact deliveries_callConsumer _ _ _
  | ok rendered =>
      dsimp only
      split_ifs <;> exact deliveries_callConsumer _ _ _

theorem deliveries_overlayConsumer (memory : Memory) (delivered : Option PresentationVideoFrame) :
    (delivery.overlayConsumer config memory delivered).deliveries =
      delivery.deliveries ++ [delivered] := by
  unfold overlayConsumer
  cases delivered with
  | none => exact deliveries_callConsumer _ _ _
  | some frame =>
      dsimp only
      rcases hfound : OverlayDelivery.currentObservations config frame
        (OverlayDelivery.offerFrame config frame { delivery.harvestProvider config with
          processedFrames := (delivery.harvestProvider config).processedFrames + 1 })
        with ⟨shown, current⟩
      have hcalls : current.calls = delivery.calls := by
        have hsame := congrArg (fun found => found.2.calls) hfound
        simpa using hsame.symm
      have hbefore : current.deliveries = delivery.deliveries := congrArg (List.map _) hcalls
      cases shown with
      | none => exact (deliveries_callConsumer _ _ _).trans (congrArg (· ++ _) hbefore)
      | some observations => exact (deliveries_showOverlay _ _ _).trans (congrArg (· ++ _) hbefore)

theorem deliveries_step (event : Event) : (delivery.step config event).deliveries =
      delivery.deliveries ++ event.delivered.toList := by
  cases event with
  | run =>
      unfold step
      dsimp only
      split_ifs <;> exact (List.append_nil _).symm
  | frame memory delivered => exact deliveries_overlayConsumer memory delivered
  | ended number ending => exact (List.append_nil _).symm
  | stop =>
      have hcalls : (delivery.stopRun config).calls = delivery.calls := by
        unfold stopRun
        split
        · rfl
        · exact calls_harvestProvider
        · rfl
      exact (congrArg (List.map _) hcalls).trans (List.append_nil _).symm
  | awaited interrupted => cases interrupted <;> exact (List.append_nil _).symm

/-- The consumer is called once for everything that is delivered, in order, with what was delivered
or with the boxes of one completed call on a frame that is not too old; one call of the provider
is in flight at most; and every processed frame is counted as shown in one way. -/
theorem overlay_fails_open (config : DeliveryConfig) {events : List Event}
    {final : OverlayDelivery} (h : (machine config).Reaches new events final) :
    final.deliveries = events.filterMap Event.delivered ∧
    (∀ call ∈ final.calls, Fair config final.tasks call) ∧
    (∀ first second, final.InFlight first → final.InFlight second → first = second) ∧
    final.processedFrames = final.overlayFrames + final.passthroughFrames := by
  have hstep : ∀ past state event,
      Sound config 0 state ∧ state.deliveries = past.filterMap Event.delivered →
      (machine config).admissible state event →
      Sound config 0 ((machine config).step state event) ∧
        ((machine config).step state event).deliveries =
          (past ++ [event]).filterMap Event.delivered := by
    rintro past state event ⟨hsound, hpast⟩ hevent
    refine ⟨step_sound hsound hevent, (deliveries_step event).trans ?_⟩
    rw [hpast, List.filterMap_append]
    cases hdelivered : event.delivered <;> simp [hdelivered]
  obtain ⟨hsound, hdelivered⟩ := @Machine.Reaches.history _ _ (machine config) _ _ _
    (fun past state => Sound config 0 state ∧ state.deliveries = past.filterMap Event.delivered)
    hstep h ⟨sound_new, rfl⟩
  refine ⟨hdelivered, hsound.fair, fun first second hfirst hsecond => ?_, hsound.counted⟩
  exact Option.some.inj ((hsound.single first hfirst).symm.trans (hsound.single second hsecond))

/-! ### Two frames -/

def onePixel : PresentationVideoFrame :=
  ⟨⟨0, 0, 4⟩, 1, 1, 4, 0, by decide, by decide, by decide, by decide⟩

def oneTask : DeliveryConfig :=
  ⟨smallRenderer, 1, 1, by decide, by decide⟩

def twoFrames : List Event :=
  [.run, .frame [[1, 2, 3, 4]] (some onePixel), .ended 0 (.returned ⟨true, [], .stops⟩),
    .frame [[1, 2, 3, 4]] (some onePixel), .stop]

theorem overlay_fails_open_two :
    (twoFrames.foldl (step oneTask) new).deliveries = twoFrames.filterMap Event.delivered ∧
    (twoFrames.foldl (step oneTask) new).processedFrames =
      (twoFrames.foldl (step oneTask) new).overlayFrames +
        (twoFrames.foldl (step oneTask) new).passthroughFrames := by
  have hreaches : (machine oneTask).Reaches new twoFrames (twoFrames.foldl (step oneTask) new) :=
    ⟨trivial, rfl, ⟨_, rfl, rfl⟩, rfl, rfl, rfl⟩
  obtain ⟨hdelivered, _, _, hcounted⟩ := overlay_fails_open oneTask hreaches
  exact ⟨hdelivered, hcounted⟩

end OverlayDelivery

end K5Vision.Media.Overlay
