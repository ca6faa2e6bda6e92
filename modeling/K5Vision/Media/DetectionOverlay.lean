import K5Vision.Library.Canvas
import K5Vision.Media.RecordingDescriptor

/-!
# Detection overlays

`BoundedDetectionOverlayRenderer` of `media/detection_overlay.py`: the outlines of detected boxes,
drawn into a copy of a `PresentationVideoFrame` of `media/presentation_frame.py`.

A payload is a view of a buffer in memory, and the copy is a new buffer, so that what the renderer
writes can be told from what it was given.  Coordinates are rationals; a product with a dimension is
a product of floats.
-/

namespace K5Vision.Media.Overlay

open Library

/-! ## Frames -/

abbrev Memory := List (List UInt8)

/-- A `memoryview` of bytes of a buffer. -/
structure MemoryView where
  buffer : ℕ
  start : ℕ
  length : ℕ
  deriving DecidableEq

def Memory.bytes (memory : Memory) (view : MemoryView) : List UInt8 :=
  ((memory.getD view.buffer []).drop view.start).take view.length

/-- The bytes of the view are there, as they are for every `memoryview`. -/
def Memory.Backs (memory : Memory) (view : MemoryView) : Prop :=
  (memory.bytes view).length = view.length

instance (memory : Memory) (view : MemoryView) : Decidable (memory.Backs view) :=
  inferInstanceAs (Decidable (_ = _))

def maxDimension : ℕ := 16384

def maxFrameBytes : ℕ := 128 * 1024 * 1024

def maxSourceElapsedMs : ℕ := 2147483647

inductive PresentationFrameErrorCode
  | invalidTiming
  | invalidGeometry
  | invalidStride
  | invalidPayload
  | unsupportedFormat
  deriving DecidableEq, Repr

/-- `BGRX` is the only pixel format there is. -/
structure PresentationVideoFrame where
  payload : MemoryView
  width : ℕ
  height : ℕ
  strideBytes : ℕ
  sourceElapsedMs : ℕ
  timing : sourceElapsedMs ≤ maxSourceElapsedMs
  geometry : (1 ≤ width ∧ width ≤ maxDimension) ∧ 1 ≤ height ∧ height ≤ maxDimension
  stride : width * 4 ≤ strideBytes ∧ strideBytes ≤ maxFrameBytes
  length : (1 ≤ strideBytes * height ∧ strideBytes * height ≤ maxFrameBytes) ∧
    payload.length = strideBytes * height

def PresentationVideoFrame.new (payload : MemoryView)
    (width height strideBytes sourceElapsedMs : ℕ) :
    Except PresentationFrameErrorCode PresentationVideoFrame :=
  if timing : sourceElapsedMs ≤ maxSourceElapsedMs then
    if geometry : (1 ≤ width ∧ width ≤ maxDimension) ∧ 1 ≤ height ∧ height ≤ maxDimension then
      if stride : width * 4 ≤ strideBytes ∧ strideBytes ≤ maxFrameBytes then
        if length : (1 ≤ strideBytes * height ∧ strideBytes * height ≤ maxFrameBytes) ∧
            payload.length = strideBytes * height then
          .ok ⟨payload, width, height, strideBytes, sourceElapsedMs, timing, geometry, stride,
            length⟩
        else .error .invalidPayload
      else .error .invalidStride
    else .error .invalidGeometry
  else .error .invalidTiming

/-! ## Observations and results -/

def maxBoxes : ℕ := 512

def maxBorderWidth : ℕ := 8

def maxPixelWrites : ℕ := 16384 * 16384

/-- `DetectionOverlayObservation`, which no instance gets past `__post_init__` without. -/
structure DetectionOverlayObservation where
  category : String
  confidence : ℚ
  xMin : ℚ
  yMin : ℚ
  xMax : ℚ
  yMax : ℚ
  category_length : 1 ≤ category.length ∧ category.length ≤ 64
  confidence_unit : 0 ≤ confidence ∧ confidence ≤ 1
  x_unit : 0 ≤ xMin ∧ xMin < xMax ∧ xMax ≤ 1
  y_unit : 0 ≤ yMin ∧ yMin < yMax ∧ yMax ≤ 1
  deriving DecidableEq

structure DetectionOverlaySnapshot where
  inputObservations : ℕ
  renderedBoxes : ℕ
  confidenceFiltered : ℕ
  pixelWrites : ℕ
  deriving DecidableEq, Repr

def DetectionOverlaySnapshot.Valid (snapshot : DetectionOverlaySnapshot) : Prop :=
  snapshot.inputObservations ≤ maxBoxes ∧ snapshot.renderedBoxes ≤ maxBoxes ∧
    snapshot.confidenceFiltered ≤ maxBoxes ∧ snapshot.pixelWrites ≤ maxPixelWrites

instance (snapshot : DetectionOverlaySnapshot) : Decidable snapshot.Valid :=
  inferInstanceAs (Decidable (_ ∧ _))

structure DetectionOverlayResult where
  frame : PresentationVideoFrame
  snapshot : DetectionOverlaySnapshot

/-- What `render` raises. -/
inductive OverlayError
  | overlay (message : String)
  | frame (code : PresentationFrameErrorCode)
  | snapshot
  deriving DecidableEq, Repr

structure BoundedDetectionOverlayRenderer where
  maxBoxes : ℕ
  borderWidth : ℕ
  minimumConfidence : ℚ
  boxes_valid : 1 ≤ maxBoxes ∧ maxBoxes ≤ Overlay.maxBoxes
  border_valid : 1 ≤ borderWidth ∧ borderWidth ≤ maxBorderWidth
  confidence_valid : 0 ≤ minimumConfidence ∧ minimumConfidence ≤ 1

def smallRenderer : BoundedDetectionOverlayRenderer :=
  ⟨1, 1, 0, by decide, by decide, by decide⟩

/-! ## Drawing -/

structure PixelBounds where
  left : ℕ
  top : ℕ
  right : ℕ
  bottom : ℕ
  deriving DecidableEq, Repr

/-- `min(size - 1, int(low * size))`; `low` is not negative. -/
def lowBound (low : ℚ) (size : ℕ) : ℕ := min (size - 1) (truncate (floatMul low size)).toNat

/-- `min(size - 1, max(first, math.ceil(high * size) - 1))`. -/
def highBound (first : ℕ) (high : ℚ) (size : ℕ) : ℕ :=
  min (size - 1) (max first (⌈floatMul high size⌉ - 1).toNat)

def pixelBounds (observation : DetectionOverlayObservation) (width height : ℕ) : PixelBounds :=
  let left := lowBound observation.xMin width
  let top := lowBound observation.yMin height
  ⟨left, top, highBound left observation.xMax width, highBound top observation.yMax height⟩

def overlayColour : List UInt8 := [0x00, 0xff, 0x00, 0x00]

def writePixel (buffer : List UInt8) (strideBytes x y : ℕ) : List UInt8 :=
  overwrite (y * strideBytes + x * 4) overlayColour buffer

/-- The copy that is drawn into, and the count of its writes. -/
structure Drawing where
  rendered : List UInt8
  pixelWrites : ℕ

def Drawing.write (strideBytes x y : ℕ) (drawing : Drawing) : Drawing :=
  ⟨writePixel drawing.rendered strideBytes x y, drawing.pixelWrites + 1⟩

def drawRows (strideBytes x0 y0 x1 y1 : ℕ) (drawing : Drawing) : Drawing :=
  (List.range' x0 (x1 + 1 - x0)).foldl (fun drawing x =>
    if y1 ≠ y0 then (drawing.write strideBytes x y0).write strideBytes x y1
    else drawing.write strideBytes x y0) drawing

def drawSides (strideBytes x0 y0 x1 y1 : ℕ) (drawing : Drawing) : Drawing :=
  (List.range' (y0 + 1) (y1 - (y0 + 1))).foldl (fun drawing y =>
    if x1 ≠ x0 then (drawing.write strideBytes x0 y).write strideBytes x1 y
    else drawing.write strideBytes x0 y) drawing

/-- The nested outlines of a box, until one is empty.  Where an inset exceeds `right` or `bottom`
the difference is zero here, which is below `left + inset` or `top + inset` too. -/
def drawInsets (strideBytes : ℕ) (bounds : PixelBounds) : List ℕ → Drawing → Drawing
  | [], drawing => drawing
  | inset :: rest, drawing =>
      let x0 := bounds.left + inset
      let x1 := bounds.right - inset
      let y0 := bounds.top + inset
      let y1 := bounds.bottom - inset
      if x0 > x1 ∨ y0 > y1 then drawing
      else
        drawInsets strideBytes bounds rest
          (drawSides strideBytes x0 y0 x1 y1 (drawRows strideBytes x0 y0 x1 y1 drawing))

def drawBoxes (frame : PresentationVideoFrame) (borderWidth : ℕ)
    (active : List DetectionOverlayObservation) (drawing : Drawing) : Drawing :=
  active.foldl (fun drawing observation =>
    drawInsets frame.strideBytes (pixelBounds observation frame.width frame.height)
      (List.range borderWidth) drawing) drawing

/-- The observations that are drawn. -/
def BoundedDetectionOverlayRenderer.active (renderer : BoundedDetectionOverlayRenderer)
    (observations : List DetectionOverlayObservation) : List DetectionOverlayObservation :=
  observations.filter fun item => renderer.minimumConfidence ≤ item.confidence

def DetectionOverlayResult.new (frame : PresentationVideoFrame)
    (snapshot : DetectionOverlaySnapshot) : Except OverlayError DetectionOverlayResult :=
  if snapshot.Valid then .ok ⟨frame, snapshot⟩ else .error .snapshot

/-- `render`, from the memory to the memory behind it. -/
def BoundedDetectionOverlayRenderer.render (renderer : BoundedDetectionOverlayRenderer)
    (memory : Memory) (frame : PresentationVideoFrame)
    (observations : List DetectionOverlayObservation) :
    Except OverlayError DetectionOverlayResult × Memory :=
  if renderer.maxBoxes < observations.length then
    (.error (.overlay "overlay observation count exceeds configured bound"), memory)
  else
    let active := renderer.active observations
    if active.isEmpty then
      (DetectionOverlayResult.new frame ⟨observations.length, 0, observations.length, 0⟩, memory)
    else
      let drawing := drawBoxes frame renderer.borderWidth active ⟨memory.bytes frame.payload, 0⟩
      let after := memory ++ [drawing.rendered]
      match PresentationVideoFrame.new ⟨memory.length, 0, drawing.rendered.length⟩ frame.width
          frame.height frame.strideBytes frame.sourceElapsedMs with
      | .error code => (.error (.frame code), after)
      | .ok output =>
          (DetectionOverlayResult.new output ⟨observations.length, active.length,
            observations.length - active.length, drawing.pixelWrites⟩, after)

end K5Vision.Media.Overlay
