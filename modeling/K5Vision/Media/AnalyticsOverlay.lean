import K5Vision.Identity.Users
import K5Vision.Library.Machine
import K5Vision.Media.DetectionOverlay

/-!
# Optional analytics over a live delivery

`BoundedAnalyticsOverlayDelivery` of `media/analytics_overlay_delivery.py`, with the adapter of
`media/analytics_detection_adapter.py`.  The wrapped runner delivers frames; the provider works on
one of them at a time, in a task of its own, and what it finds is drawn on later frames.

The delivery goes on at the events of its environment: a frame of the runner, the end of the
provider call, the end of the runner.  What a frame does up to the call of the consumer is one
step, since nothing is awaited in it.
-/

namespace K5Vision.Media.Overlay

open Library

/-! ## Detections -/

inductive Number
  | finite (value : ℚ)
  /-- An integer that `math.isfinite` raises `OverflowError` for. -/
  | overflowing
  /-- Not of type `int` or `float`, or not finite. -/
  | invalid
  deriving DecidableEq

/-- A detection of a producer; `none` is an attribute that is not a string. -/
structure TrackedDetection where
  trackId : Option String
  category : Option String
  confidence : Number
  xMin : Number
  yMin : Number
  xMax : Number
  yMax : Number

inductive DetectionError
  | overlay (message : String)
  | other
  deriving DecidableEq, Repr

/-- A number of an observation, checked under its name. -/
def unitNumber (name : String) : Number → Except DetectionError {value : ℚ // 0 ≤ value ∧ value ≤ 1}
  | .overflowing => .error .other
  | .invalid => .error (.overlay s!"overlay {name} must be finite")
  | .finite value =>
      if h : 0 ≤ value ∧ value ≤ 1 then .ok ⟨value, h⟩
      else .error (.overlay s!"overlay {name} must be within [0, 1]")

def checkedCategory :
    Option String → Except DetectionError {text : String // 1 ≤ text.length ∧ text.length ≤ 64}
  | none => .error (.overlay "overlay category must be a string")
  | some category =>
      if h : 1 ≤ (Identity.strip category).length ∧ (Identity.strip category).length ≤ 64 then
        .ok ⟨Identity.strip category, h⟩
      else .error (.overlay "overlay category must contain 1-64 characters")

def DetectionOverlayObservation.new (value : TrackedDetection) :
    Except DetectionError DetectionOverlayObservation := do
  let category ← checkedCategory value.category
  let confidence ← unitNumber "confidence" value.confidence
  let xMin ← unitNumber "x_min" value.xMin
  let yMin ← unitNumber "y_min" value.yMin
  let xMax ← unitNumber "x_max" value.xMax
  let yMax ← unitNumber "y_max" value.yMax
  if area : xMin.1 < xMax.1 ∧ yMin.1 < yMax.1 then
    .ok ⟨category.1, confidence.1, xMin.1, yMin.1, xMax.1, yMax.1, category.2, confidence.2,
      ⟨xMin.2.1, area.1, xMax.2.2⟩, ⟨yMin.2.1, area.2, yMax.2.2⟩⟩
  else .error (.overlay "overlay box must have positive normalized area")

inductive Ending
  | stops
  | typeError
  | raises
  deriving DecidableEq, Repr

/-- What a provider returns: the items of its iteration, with `none` for one whose attributes raise,
and how it ends. -/
structure DetectionValues where
  iterable : Bool
  items : List (Option TrackedDetection)
  ending : Ending

/-- One turn of the loop of the adapter. -/
def adaptDetection : Option TrackedDetection → Except DetectionError DetectionOverlayObservation
  | none => .error (.overlay "analytics detection value is invalid")
  | some value =>
      if value.trackId.all fun trackId => trackId.isEmpty || decide (128 < trackId.length) then
        .error (.overlay "analytics detection value is invalid")
      else
        match DetectionOverlayObservation.new value with
        | .ok observation => .ok observation
        | .error (.overlay _) => .error (.overlay "analytics detection value is invalid")
        | .error .other => .error .other

/-- `adapt_analytics_tracked_detections`; one item more than the bound is taken. -/
def adaptDetections (maxObservations : ℕ) (values : DetectionValues) :
    Except DetectionError (List DetectionOverlayObservation) :=
  if !values.iterable then .error (.overlay "analytics detections must be iterable")
  else if maxObservations < values.items.length then
    .error (.overlay "analytics detection count exceeds configured bound")
  else
    match values.ending with
    | .typeError => .error (.overlay "analytics detections must be iterable")
    | .raises => .error .other
    | .stops => values.items.mapM adaptDetection

/-! ## The delivery -/

inductive ProviderEnd
  | returned (values : DetectionValues)
  | raised
  | cancelled

/-- A task of the provider, and how it ended. -/
structure ProviderTask where
  frame : PresentationVideoFrame
  ending : Option ProviderEnd

/-- `_collect`, once the provider has ended; `none` where it raises. -/
def collected (maxObservations : ℕ) (frame : PresentationVideoFrame) :
    ProviderEnd → Option (List DetectionOverlayObservation × ℕ)
  | .returned values =>
      match adaptDetections maxObservations values with
      | .ok observations => some (observations, frame.sourceElapsedMs)
      | .error _ => none
  | .raised => none
  | .cancelled => none

inductive DeliveryPhase
  | idle
  | running
  /-- The runner has ended, and the task is cancelled and awaited. -/
  | stopping
  | finished
  deriving DecidableEq, Repr

structure DeliveryConfig where
  renderer : BoundedDetectionOverlayRenderer
  maxFrames : ℕ
  maxStaleMs : ℕ
  frames_valid : 1 ≤ maxFrames ∧ maxFrames ≤ 1000000
  stale_valid : 1 ≤ maxStaleMs ∧ maxStaleMs ≤ 5000

/-- A call of the consumer: what the runner delivered, what the consumer got, and the memory that
the frame was rendered from.  `none` is no `PresentationVideoFrame`, and is handed on as it is. -/
structure ConsumerCall where
  delivered : Option PresentationVideoFrame
  given : Option PresentationVideoFrame
  memory : Memory

structure OverlayDelivery where
  phase : DeliveryPhase
  processedFrames : ℕ
  overlayFrames : ℕ
  passthroughFrames : ℕ
  providerSubmissions : ℕ
  providerCompletions : ℕ
  analyticsFailures : ℕ
  busyBypasses : ℕ
  capacityBypasses : ℕ
  staleBypasses : ℕ
  renderedBoxes : ℕ
  providerTask : Option ℕ
  /-- `_latest_observations` and `_latest_source_elapsed_ms`. -/
  latest : Option (List DetectionOverlayObservation × ℕ)
  tasks : List ProviderTask
  calls : List ConsumerCall

namespace OverlayDelivery

variable (config : DeliveryConfig)

def new : OverlayDelivery := ⟨.idle, 0, 0, 0, 0, 0, 0, 0, 0, 0, 0, none, none, [], []⟩

def taskEnding (delivery : OverlayDelivery) : Option (ProviderTask × ProviderEnd) := do
  let number ← delivery.providerTask
  let task ← delivery.tasks[number]?
  let ending ← task.ending
  return (task, ending)

def harvestProvider (delivery : OverlayDelivery) : OverlayDelivery :=
  match delivery.taskEnding with
  | none => delivery
  | some (task, ending) =>
      match collected config.renderer.maxBoxes task.frame ending with
      | none =>
          { delivery with
            providerTask := none, analyticsFailures := delivery.analyticsFailures + 1 }
      | some found =>
          { delivery with
            providerTask := none, providerCompletions := delivery.providerCompletions + 1,
            latest := some found }

def submitProvider (frame : PresentationVideoFrame) (delivery : OverlayDelivery) :
    OverlayDelivery :=
  { delivery with
    providerSubmissions := delivery.providerSubmissions + 1,
    providerTask := some delivery.tasks.length,
    tasks := delivery.tasks ++ [⟨frame, none⟩] }

/-- A frame for the provider, if it is free and may take more. -/
def offerFrame (frame : PresentationVideoFrame) (delivery : OverlayDelivery) : OverlayDelivery :=
  if delivery.providerTask.isSome then
    { delivery with busyBypasses := delivery.busyBypasses + 1 }
  else if delivery.providerSubmissions < config.maxFrames then delivery.submitProvider frame
  else { delivery with capacityBypasses := delivery.capacityBypasses + 1 }

def currentObservations (frame : PresentationVideoFrame) (delivery : OverlayDelivery) :
    Option (List DetectionOverlayObservation) × OverlayDelivery :=
  match delivery.latest with
  | none => (none, delivery)
  | some (observations, elapsed) =>
      let age : ℤ := frame.sourceElapsedMs - elapsed
      if age < 0 ∨ age > config.maxStaleMs then
        (none, { delivery with staleBypasses := delivery.staleBypasses + 1 })
      else (some observations, delivery)

def callConsumer (memory : Memory) (delivered given : Option PresentationVideoFrame)
    (delivery : OverlayDelivery) : OverlayDelivery :=
  { delivery with calls := delivery.calls ++ [⟨delivered, given, memory⟩] }

def passThrough (memory : Memory) (frame : PresentationVideoFrame) (delivery : OverlayDelivery) :
    OverlayDelivery :=
  { delivery with passthroughFrames := delivery.passthroughFrames + 1 }.callConsumer memory
    (some frame) (some frame)

def showOverlay (memory : Memory) (frame : PresentationVideoFrame)
    (observations : List DetectionOverlayObservation) (delivery : OverlayDelivery) :
    OverlayDelivery :=
  match (config.renderer.render memory frame observations).1 with
  | .error _ =>
      { delivery with analyticsFailures := delivery.analyticsFailures + 1 }.passThrough memory frame
  | .ok rendered =>
      let boxes := rendered.snapshot.renderedBoxes
      let counted := { delivery with renderedBoxes := delivery.renderedBoxes + boxes }
      if boxes ≠ 0 then
        { counted with overlayFrames := counted.overlayFrames + 1 }.callConsumer memory
          (some frame) (some rendered.frame)
      else
        { counted with passthroughFrames := counted.passthroughFrames + 1 }.callConsumer memory
          (some frame) (some rendered.frame)

/-- `overlay_consumer`, up to the call of the consumer. -/
def overlayConsumer (memory : Memory) (delivered : Option PresentationVideoFrame)
    (delivery : OverlayDelivery) : OverlayDelivery :=
  match delivered with
  | none => delivery.callConsumer memory none none
  | some frame =>
      let harvested := delivery.harvestProvider config
      let offered := { harvested with
        processedFrames := harvested.processedFrames + 1 }.offerFrame config frame
      match offered.currentObservations config frame with
      | (none, current) => current.passThrough memory frame
      | (some observations, current) => current.showOverlay config memory frame observations

/-! ## Events -/

inductive Event
  | run
  /-- The runner delivers a frame, or something else. -/
  | frame (memory : Memory) (delivered : Option PresentationVideoFrame)
  | ended (number : ℕ) (ending : ProviderEnd)
  | stop
  /-- The cancelled task was awaited; or that was cancelled in turn. -/
  | awaited (interrupted : Bool)

def endTask (number : ℕ) (ending : ProviderEnd) (delivery : OverlayDelivery) : OverlayDelivery :=
  { delivery with tasks := delivery.tasks.modify number fun task => { task with
    ending := some ending } }

def stopRun (delivery : OverlayDelivery) : OverlayDelivery :=
  match delivery.providerTask, delivery.taskEnding with
  | none, _ => { delivery with phase := .finished }
  | some _, some _ => { delivery.harvestProvider config with phase := .finished }
  | some _, none => { delivery with phase := .stopping }

def step (delivery : OverlayDelivery) : Event → OverlayDelivery
  | .run => if delivery.phase = .idle then { delivery with phase := .running } else delivery
  | .frame memory delivered => delivery.overlayConsumer config memory delivered
  | .ended number ending => delivery.endTask number ending
  | .stop => delivery.stopRun config
  | .awaited interrupted =>
      if interrupted then { delivery with phase := .finished }
      else { delivery with phase := .finished, providerTask := none }

/-- Frames come while the runner runs, which ends once; a task ends once; and one that is awaited
has ended. -/
def admissible (delivery : OverlayDelivery) : Event → Prop
  | .run => True
  | .frame _ _ => delivery.phase = .running
  | .ended number _ => ∃ task, delivery.tasks[number]? = some task ∧ task.ending = none
  | .stop => delivery.phase = .running
  | .awaited interrupted => delivery.phase = .stopping ∧
      (interrupted = false → delivery.taskEnding.isSome)

def machine : Machine OverlayDelivery Event := ⟨step config, admissible⟩

end OverlayDelivery

end K5Vision.Media.Overlay
