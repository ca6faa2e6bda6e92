import K5Vision.Media.DetectionOverlay
import Mathlib.Data.List.GetD

/-!
# What an overlay changes

The renderer paints the outlines of its boxes into a copy, and nothing else.

## Strategy

`Draws` says what some writes come to: which pixels they paint (`Paints`), and how many they are at
most.  Its rules follow the loops of the renderer, from one pixel to the two rows and the two sides
of an outline, to the nested outlines of a box and to all boxes; the regions add up.  The break of
the loop over the insets loses nothing, since the outlines behind an empty one are empty too.
-/

namespace K5Vision.Media.Overlay

open Library

/-! ## Regions -/

/-- The pixel lies on the outline of the box at an inset. -/
def OnOutline (bounds : PixelBounds) (inset : ℕ) (pixel : ℕ × ℕ) : Prop :=
  (bounds.left + inset ≤ pixel.1 ∧ pixel.1 + inset ≤ bounds.right) ∧
  (bounds.top + inset ≤ pixel.2 ∧ pixel.2 + inset ≤ bounds.bottom) ∧
  (pixel.1 = bounds.left + inset ∨ pixel.1 + inset = bounds.right ∨
    pixel.2 = bounds.top + inset ∨ pixel.2 + inset = bounds.bottom)

/-- The pixel lies on one of the nested outlines of an accepted box. -/
def BoundedDetectionOverlayRenderer.OnOutlines (renderer : BoundedDetectionOverlayRenderer)
    (frame : PresentationVideoFrame) (observations : List DetectionOverlayObservation)
    (pixel : ℕ × ℕ) : Prop :=
  ∃ observation ∈ renderer.active observations, ∃ inset ∈ List.range renderer.borderWidth,
    OnOutline (pixelBounds observation frame.width frame.height) inset pixel

theorem highBound_lt {first size : ℕ} {high : ℚ} (hsize : 1 ≤ size) :
    highBound first high size < size :=
  lt_of_le_of_lt (min_le_left _ _) (by omega)

theorem pixelBounds_lt (observation : DetectionOverlayObservation)
    (frame : PresentationVideoFrame) :
    (pixelBounds observation frame.width frame.height).right < frame.width ∧
      (pixelBounds observation frame.width frame.height).bottom < frame.height :=
  ⟨highBound_lt frame.geometry.1.1, highBound_lt frame.geometry.2.1⟩

/-! ## Writes -/

/-- The copy has the size of the frame. -/
def Sized (frame : PresentationVideoFrame) (drawing : Drawing) : Prop :=
  drawing.rendered.length = frame.strideBytes * frame.height

/-- A region was painted, with some writes. -/
structure Draws (frame : PresentationVideoFrame) (region : ℕ × ℕ → Prop) (budget : ℕ)
    (before after : Drawing) : Prop where
  paints : Paints frame.strideBytes overlayColour region before.rendered after.rendered
  writes : after.pixelWrites ≤ before.pixelWrites + budget

section Draws

variable {frame : PresentationVideoFrame} {region others : ℕ × ℕ → Prop} {budget more : ℕ}
  {before between after : Drawing}

theorem Draws.sized (h : Draws frame region budget before after) (hsized : Sized frame before) :
    Sized frame after :=
  h.paints.length.trans hsized

theorem Draws.congr (h : Draws frame region budget before after)
    (hsame : ∀ pixel, region pixel ↔ others pixel) (hle : budget ≤ more) :
    Draws frame others more before after :=
  ⟨h.paints.congr hsame, h.writes.trans (Nat.add_le_add_left hle _)⟩

theorem Draws.refl (hempty : ∀ pixel, ¬ region pixel) : Draws frame region budget before before :=
  ⟨Paints.refl hempty, Nat.le_add_right _ _⟩

theorem Draws.trans (h : Draws frame region budget before between)
    (hnext : Draws frame others more between after) :
    Draws frame (fun pixel => region pixel ∨ others pixel) (budget + more) before after := by
  refine ⟨h.paints.trans hnext.paints, ?_⟩
  have hfirst := h.writes
  have hsecond := hnext.writes
  omega

theorem Draws.foldl {ι : Type} {items : List ι} {step : Drawing → ι → Drawing}
    {regions : ι → ℕ × ℕ → Prop}
    (hstep : ∀ item ∈ items, ∀ drawing, Sized frame drawing →
      Draws frame (regions item) budget drawing (step drawing item))
    (hsized : Sized frame before) :
    Draws frame (fun pixel => ∃ item ∈ items, regions item pixel) (budget * items.length) before
      (items.foldl step before) := by
  induction items generalizing before with
  | nil => exact Draws.refl fun pixel ⟨item, hitem, _⟩ => absurd hitem List.not_mem_nil
  | cons item rest ih =>
      have hfirst := hstep item List.mem_cons_self before hsized
      have hrest := ih (fun other hother => hstep other (List.mem_cons_of_mem _ hother))
        (hfirst.sized hsized)
      refine (hfirst.trans hrest).congr (fun pixel => ?_) ?_
      · rw [List.exists_mem_cons_iff]
      · rw [List.length_cons, Nat.mul_succ, Nat.add_comm]

theorem write_draws {x y : ℕ} (hx : x < frame.width) (hy : y < frame.height)
    (hsized : Sized frame before) :
    Draws frame (fun pixel => pixel = (x, y)) 1 before (before.write frame.strideBytes x y) := by
  have hrow : (x + 1) * 4 ≤ frame.strideBytes := (Nat.mul_le_mul_right 4 hx).trans frame.stride.1
  have hrows : (y + 1) * frame.strideBytes ≤ before.rendered.length := by
    rw [hsized, Nat.mul_comm]
    exact Nat.mul_le_mul_left _ hy
  have hcolour : 0 < overlayColour.length := by decide
  exact ⟨paints_cell hcolour hrow hrows, le_rfl⟩

theorem write_pair {x x' y y' : ℕ} {twice : Prop} [Decidable twice]
    (htwice : ¬ twice → (x', y') = (x, y)) (hx : x < frame.width) (hy : y < frame.height)
    (hx' : x' < frame.width) (hy' : y' < frame.height) (hsized : Sized frame before) :
    Draws frame (fun pixel => pixel = (x, y) ∨ pixel = (x', y')) 2 before
      (if twice then (before.write frame.strideBytes x y).write frame.strideBytes x' y'
        else before.write frame.strideBytes x y) := by
  have hfirst := write_draws hx hy hsized
  split_ifs with h
  · exact hfirst.trans (write_draws hx' hy' (hfirst.sized hsized))
  · refine hfirst.congr (fun pixel => ?_) (Nat.le_succ 1)
    rw [htwice h, or_self]

/-! ## Outlines -/

section Outline

variable {x0 y0 x1 y1 : ℕ}

theorem drawRows_draws (x0 : ℕ) (hx : x1 < frame.width) (hy : y1 < frame.height) (hle : y0 ≤ y1)
    (hsized : Sized frame before) :
    Draws frame (fun pixel => (x0 ≤ pixel.1 ∧ pixel.1 ≤ x1) ∧ (pixel.2 = y0 ∨ pixel.2 = y1))
      (2 * frame.width) before (drawRows frame.strideBytes x0 y0 x1 y1 before) := by
  have hrow : ∀ x ∈ List.range' x0 (x1 + 1 - x0), ∀ drawing, Sized frame drawing →
      Draws frame (fun pixel => pixel = (x, y0) ∨ pixel = (x, y1)) 2 drawing
        (if y1 ≠ y0 then
          (drawing.write frame.strideBytes x y0).write frame.strideBytes x y1
        else drawing.write frame.strideBytes x y0) := by
    intro x hmem drawing hdrawing
    have hin := List.mem_range'_1.mp hmem
    exact write_pair (fun hsame => by rw [not_not.mp hsame]) (by omega) (by omega) (by omega) hy
      hdrawing
  refine (Draws.foldl hrow hsized).congr (fun pixel => ?_) ?_
  · constructor
    · rintro ⟨x, hmem, rfl | rfl⟩
      · have hin := List.mem_range'_1.mp hmem
        exact ⟨⟨hin.1, by omega⟩, .inl rfl⟩
      · have hin := List.mem_range'_1.mp hmem
        exact ⟨⟨hin.1, by omega⟩, .inr rfl⟩
    · obtain ⟨x, y⟩ := pixel
      rintro ⟨⟨hlow, hhigh⟩, hrows⟩
      refine ⟨x, List.mem_range'_1.mpr ⟨hlow, by omega⟩, ?_⟩
      rcases hrows with htop | hbottom
      · exact .inl (Prod.ext rfl htop)
      · exact .inr (Prod.ext rfl hbottom)
  · rw [List.length_range']
    omega

theorem drawSides_draws (y0 : ℕ) (hx : x1 < frame.width) (hy : y1 < frame.height) (hle : x0 ≤ x1)
    (hsized : Sized frame before) :
    Draws frame (fun pixel => (pixel.1 = x0 ∨ pixel.1 = x1) ∧ y0 < pixel.2 ∧ pixel.2 < y1)
      (2 * frame.height) before (drawSides frame.strideBytes x0 y0 x1 y1 before) := by
  have hside : ∀ y ∈ List.range' (y0 + 1) (y1 - (y0 + 1)), ∀ drawing, Sized frame drawing →
      Draws frame (fun pixel => pixel = (x0, y) ∨ pixel = (x1, y)) 2 drawing
        (if x1 ≠ x0 then
          (drawing.write frame.strideBytes x0 y).write frame.strideBytes x1 y
        else drawing.write frame.strideBytes x0 y) := by
    intro y hmem drawing hdrawing
    have hin := List.mem_range'_1.mp hmem
    exact write_pair (fun hsame => by rw [not_not.mp hsame]) (by omega) (by omega) hx (by omega)
      hdrawing
  refine (Draws.foldl hside hsized).congr (fun pixel => ?_) ?_
  · constructor
    · rintro ⟨y, hmem, rfl | rfl⟩
      · have hin := List.mem_range'_1.mp hmem
        exact ⟨.inl rfl, by omega, by omega⟩
      · have hin := List.mem_range'_1.mp hmem
        exact ⟨.inr rfl, by omega, by omega⟩
    · obtain ⟨x, y⟩ := pixel
      rintro ⟨hsides, hlow, hhigh⟩
      refine ⟨y, List.mem_range'_1.mpr ⟨hlow, by omega⟩, ?_⟩
      rcases hsides with hleft | hright
      · exact .inl (Prod.ext hleft rfl)
      · exact .inr (Prod.ext hright rfl)
  · rw [List.length_range']
    omega

end Outline

/-- The writes of an outline are at most twice the sides of the largest image. -/
def outlineBudget : ℕ := 2 * maxDimension + 2 * maxDimension

theorem outline_draws {bounds : PixelBounds} {inset : ℕ} (hx : bounds.right < frame.width)
    (hy : bounds.bottom < frame.height) (hcolumns : bounds.left + inset ≤ bounds.right - inset)
    (hrows : bounds.top + inset ≤ bounds.bottom - inset) (hsized : Sized frame before) :
    Draws frame (OnOutline bounds inset) outlineBudget before
      (drawSides frame.strideBytes (bounds.left + inset) (bounds.top + inset)
        (bounds.right - inset) (bounds.bottom - inset)
        (drawRows frame.strideBytes (bounds.left + inset) (bounds.top + inset)
          (bounds.right - inset) (bounds.bottom - inset) before)) := by
  have hright : bounds.right - inset < frame.width := by omega
  have hbottom : bounds.bottom - inset < frame.height := by omega
  have hends := drawRows_draws (bounds.left + inset) hright hbottom hrows hsized
  have hsides := drawSides_draws (bounds.top + inset) hright hbottom hcolumns (hends.sized hsized)
  refine (hends.trans hsides).congr (fun pixel => ?_) ?_
  · unfold OnOutline
    omega
  have hwidth := frame.geometry.1.2
  have hheight := frame.geometry.2.2
  unfold outlineBudget
  omega

theorem not_onOutline {bounds : PixelBounds} {inset later : ℕ} (hle : inset ≤ later)
    (hempty : bounds.left + inset > bounds.right - inset ∨
      bounds.top + inset > bounds.bottom - inset) (pixel : ℕ × ℕ) :
    ¬ OnOutline bounds later pixel := by
  unfold OnOutline
  omega

theorem drawInsets_draws {bounds : PixelBounds} {insets : List ℕ} (hx : bounds.right < frame.width)
    (hy : bounds.bottom < frame.height) (hsorted : insets.Pairwise (· ≤ ·))
    (hsized : Sized frame before) :
    Draws frame (fun pixel => ∃ inset ∈ insets, OnOutline bounds inset pixel)
      (outlineBudget * insets.length) before
      (drawInsets frame.strideBytes bounds insets before) := by
  induction insets generalizing before with
  | nil => exact Draws.refl fun pixel ⟨inset, hinset, _⟩ => absurd hinset List.not_mem_nil
  | cons inset rest ih =>
      obtain ⟨hfirst, hrest⟩ := List.pairwise_cons.mp hsorted
      unfold drawInsets
      dsimp only
      split_ifs with hempty
      · refine Draws.refl fun pixel ⟨later, hlater, hon⟩ => ?_
        rcases List.mem_cons.mp hlater with rfl | hmem
        · exact not_onOutline le_rfl hempty pixel hon
        · exact not_onOutline (hfirst later hmem) hempty pixel hon
      · obtain ⟨hcolumns, hrows⟩ := not_or.mp hempty
        have houtline := outline_draws hx hy (not_lt.mp hcolumns) (not_lt.mp hrows) hsized
        refine (houtline.trans (ih hrest (houtline.sized hsized))).congr (fun pixel => ?_) ?_
        · rw [List.exists_mem_cons_iff]
        · rw [List.length_cons, Nat.mul_succ, Nat.add_comm]

theorem drawBoxes_draws {borderWidth : ℕ} {active : List DetectionOverlayObservation}
    (hsized : Sized frame before) :
    Draws frame (fun pixel => ∃ observation ∈ active, ∃ inset ∈ List.range borderWidth,
        OnOutline (pixelBounds observation frame.width frame.height) inset pixel)
      (outlineBudget * borderWidth * active.length) before
      (drawBoxes frame borderWidth active before) := by
  refine Draws.foldl (fun observation _ drawing hdrawing => ?_) hsized
  obtain ⟨hx, hy⟩ := pixelBounds_lt observation frame
  refine (drawInsets_draws hx hy List.pairwise_le_range hdrawing).congr (fun _ => Iff.rfl) ?_
  rw [List.length_range]

end Draws

/-! ## What is rendered -/

def pixelBytes (bytes : List UInt8) (strideBytes x y : ℕ) : List UInt8 :=
  (bytes.drop (y * strideBytes + x * 4)).take 4

def rowPadding (bytes : List UInt8) (strideBytes width y : ℕ) : List UInt8 :=
  (bytes.drop (y * strideBytes + width * 4)).take (strideBytes - width * 4)

/-- What a rendered frame is, beside the frame it was made of: every buffer there was is as before,
and in the payload exactly the pixels on the outlines of the accepted boxes, all of them in the
image, have the overlay colour; the other pixels and what is behind the rows are as in the input. -/
structure Rendered (renderer : BoundedDetectionOverlayRenderer) (memory : Memory)
    (frame : PresentationVideoFrame) (observations : List DetectionOverlayObservation)
    (result : DetectionOverlayResult) (after : Memory) : Prop where
  untouched : after.take memory.length = memory
  input : after.bytes frame.payload = memory.bytes frame.payload
  geometry : result.frame.width = frame.width ∧ result.frame.height = frame.height ∧
    result.frame.strideBytes = frame.strideBytes
  length : (after.bytes result.frame.payload).length = (memory.bytes frame.payload).length
  inside : ∀ pixel, renderer.OnOutlines frame observations pixel →
    pixel.1 < frame.width ∧ pixel.2 < frame.height
  painted : ∀ x y, renderer.OnOutlines frame observations (x, y) →
    pixelBytes (after.bytes result.frame.payload) frame.strideBytes x y = overlayColour
  kept : ∀ x y, x < frame.width → ¬ renderer.OnOutlines frame observations (x, y) →
    pixelBytes (after.bytes result.frame.payload) frame.strideBytes x y =
      pixelBytes (memory.bytes frame.payload) frame.strideBytes x y
  padding : ∀ y, rowPadding (after.bytes result.frame.payload) frame.strideBytes frame.width y =
    rowPadding (memory.bytes frame.payload) frame.strideBytes frame.width y
  writes : result.snapshot.pixelWrites ≤ maxPixelWrites

theorem onOutlines_lt {renderer : BoundedDetectionOverlayRenderer} {frame : PresentationVideoFrame}
    {observations : List DetectionOverlayObservation} {pixel : ℕ × ℕ}
    (h : renderer.OnOutlines frame observations pixel) :
    pixel.1 < frame.width ∧ pixel.2 < frame.height := by
  obtain ⟨observation, _, inset, _, hon⟩ := h
  obtain ⟨hx, hy⟩ := pixelBounds_lt observation frame
  unfold OnOutline at hon
  omega

theorem slice_congr {bytes others : List UInt8} {start size : ℕ}
    (h : ∀ k < size, bytes[start + k]? = others[start + k]?) :
    (bytes.drop start).take size = (others.drop start).take size := by
  refine List.ext_getElem? fun k => ?_
  rw [List.getElem?_take, List.getElem?_take]
  split_ifs with hk
  · rw [List.getElem?_drop, List.getElem?_drop]
    exact h k hk
  · rfl

section Pixels

variable {frame : PresentationVideoFrame} {region : ℕ × ℕ → Prop} {bytes after : List UInt8}

theorem pixelBytes_painted (h : Paints frame.strideBytes overlayColour region bytes after)
    (hlength : bytes.length = frame.strideBytes * frame.height) {x y : ℕ} (hx : x < frame.width)
    (hy : y < frame.height) (hregion : region (x, y)) :
    pixelBytes after frame.strideBytes x y = overlayColour := by
  have hrows : (y + 1) * frame.strideBytes ≤ bytes.length := by
    rw [hlength, Nat.mul_comm]
    exact Nat.mul_le_mul_left _ hy
  refine List.ext_getElem? fun k => ?_
  unfold pixelBytes
  rw [List.getElem?_take]
  split_ifs with hk
  · rw [List.getElem?_drop]
    exact h.getElem?_cell ((Nat.mul_le_mul_right 4 hx).trans frame.stride.1) hrows hregion hk
  · exact (List.getElem?_eq_none (not_lt.mp hk)).symm

theorem pixelBytes_kept (h : Paints frame.strideBytes overlayColour region bytes after)
    {x y : ℕ} (hregion : ¬ region (x, y)) (hx : x < frame.width) :
    pixelBytes after frame.strideBytes x y = pixelBytes bytes frame.strideBytes x y := by
  refine slice_congr fun k hk => ?_
  exact h.getElem?_other ((Nat.mul_le_mul_right 4 hx).trans frame.stride.1) hregion hk

theorem rowPadding_kept (h : Paints frame.strideBytes overlayColour region bytes after)
    (hregion : ∀ pixel, region pixel → pixel.1 < frame.width) (y : ℕ) :
    rowPadding after frame.strideBytes frame.width y =
      rowPadding bytes frame.strideBytes frame.width y := by
  refine slice_congr fun k hk => ?_
  rw [Nat.add_assoc]
  exact h.getElem?_padding hregion (by decide) (Nat.le_add_right _ _) (by omega)

end Pixels

theorem Memory.bytes_append {memory : Memory} {view : MemoryView} (added : List UInt8)
    (h : view.buffer < memory.length) :
    Memory.bytes (memory ++ [added]) view = memory.bytes view := by
  unfold Memory.bytes
  rw [List.getD_append _ _ _ _ h]

theorem Memory.bytes_last (memory : Memory) (added : List UInt8) :
    Memory.bytes (memory ++ [added]) ⟨memory.length, 0, added.length⟩ = added := by
  unfold Memory.bytes
  rw [List.getD_append_right _ _ _ _ le_rfl, Nat.sub_self, List.drop_zero]
  exact List.take_length

theorem buffer_lt {memory : Memory} {frame : PresentationVideoFrame}
    (h : memory.Backs frame.payload) : frame.payload.buffer < memory.length := by
  by_contra hout
  have hnone : memory.bytes frame.payload = [] := by
    unfold Memory.bytes
    rw [List.getD_eq_default _ _ (not_lt.mp hout), List.drop_nil, List.take_nil]
  have hlength : (memory.bytes frame.payload).length = frame.payload.length := h
  rw [hnone, frame.length.2, List.length_nil] at hlength
  have hpos := frame.length.1.1
  omega

theorem new_same (frame : PresentationVideoFrame) {payload : MemoryView}
    (h : payload.length = frame.strideBytes * frame.height) :
    PresentationVideoFrame.new payload frame.width frame.height frame.strideBytes
      frame.sourceElapsedMs =
      .ok { frame with payload := payload, length := ⟨frame.length.1, h⟩ } := by
  unfold PresentationVideoFrame.new
  rw [dif_pos frame.timing, dif_pos frame.geometry, dif_pos frame.stride,
    dif_pos ⟨frame.length.1, h⟩]

theorem budget_le {renderer : BoundedDetectionOverlayRenderer} {boxes : ℕ}
    (h : boxes ≤ renderer.maxBoxes) :
    outlineBudget * renderer.borderWidth * boxes ≤ maxPixelWrites := by
  have hborder : outlineBudget * renderer.borderWidth ≤ outlineBudget * maxBorderWidth :=
    Nat.mul_le_mul_left _ renderer.border_valid.2
  have hboxes : boxes ≤ maxBoxes := h.trans renderer.boxes_valid.2
  calc outlineBudget * renderer.borderWidth * boxes
      ≤ outlineBudget * maxBorderWidth * maxBoxes := Nat.mul_le_mul hborder hboxes
    _ = maxPixelWrites := by decide

section Render

variable {renderer : BoundedDetectionOverlayRenderer} {memory : Memory}
  {frame : PresentationVideoFrame} {observations : List DetectionOverlayObservation}

theorem active_length_le : (renderer.active observations).length ≤ observations.length :=
  List.length_filter_le _ _

theorem rendered_same {snapshot : DetectionOverlaySnapshot}
    (hnone : renderer.active observations = []) (hwrites : snapshot.pixelWrites ≤ maxPixelWrites) :
    Rendered renderer memory frame observations ⟨frame, snapshot⟩ memory := by
  have hempty : ∀ pixel, ¬ renderer.OnOutlines frame observations pixel := by
    rintro pixel ⟨observation, hmem, _⟩
    rw [hnone] at hmem
    exact List.not_mem_nil hmem
  exact ⟨List.take_length, rfl, ⟨rfl, rfl, rfl⟩, rfl, fun pixel h => absurd h (hempty pixel),
    fun x y h => absurd h (hempty (x, y)), fun _ _ _ _ => rfl, fun _ => rfl, hwrites⟩

theorem rendered_drawing (hbacked : memory.Backs frame.payload) {drawing : Drawing} {budget : ℕ}
    (hdraws : Draws frame (renderer.OnOutlines frame observations) budget
      ⟨memory.bytes frame.payload, 0⟩ drawing)
    {result : DetectionOverlayResult} (hframe : result.frame.width = frame.width ∧
      result.frame.height = frame.height ∧ result.frame.strideBytes = frame.strideBytes)
    (hpayload : result.frame.payload = ⟨memory.length, 0, drawing.rendered.length⟩)
    (hwrites : result.snapshot.pixelWrites ≤ maxPixelWrites) :
    Rendered renderer memory frame observations result (memory ++ [drawing.rendered]) := by
  have hsize : (memory.bytes frame.payload).length = frame.strideBytes * frame.height :=
    Eq.trans hbacked frame.length.2
  have hout : Memory.bytes (memory ++ [drawing.rendered]) result.frame.payload =
      drawing.rendered := by
    rw [hpayload]
    exact Memory.bytes_last memory drawing.rendered
  have hinside : ∀ pixel, renderer.OnOutlines frame observations pixel →
      pixel.1 < frame.width ∧ pixel.2 < frame.height := fun _ => onOutlines_lt
  refine ⟨List.take_left, Memory.bytes_append _ (buffer_lt hbacked), hframe, ?_, hinside, ?_, ?_,
    ?_, hwrites⟩
  · rw [hout]
    exact hdraws.paints.length
  · intro x y hon
    rw [hout]
    exact pixelBytes_painted hdraws.paints hsize (hinside _ hon).1 (hinside _ hon).2 hon
  · intro x y hx hoff
    rw [hout]
    exact pixelBytes_kept hdraws.paints hoff hx
  · intro y
    rw [hout]
    exact rowPadding_kept hdraws.paints (fun pixel hon => (hinside pixel hon).1) y

/-- Rendering fails for too many observations only.  It leaves every buffer as it is, and its frame
differs from the input exactly in the pixels on the outlines of the accepted boxes. -/
theorem render_paints_outlines (renderer : BoundedDetectionOverlayRenderer) (memory : Memory)
    (frame : PresentationVideoFrame) (observations : List DetectionOverlayObservation)
    (hbacked : memory.Backs frame.payload) :
    (renderer.maxBoxes < observations.length →
      renderer.render memory frame observations =
        (.error (.overlay "overlay observation count exceeds configured bound"), memory)) ∧
    (observations.length ≤ renderer.maxBoxes → ∃ result after,
      renderer.render memory frame observations = (.ok result, after) ∧
        Rendered renderer memory frame observations result after) := by
  refine ⟨fun hmany => if_pos hmany, fun hfew => ?_⟩
  have hcount : observations.length ≤ maxBoxes := hfew.trans renderer.boxes_valid.2
  have hactive : (renderer.active observations).length ≤ observations.length := active_length_le
  unfold BoundedDetectionOverlayRenderer.render
  rw [if_neg (not_lt.mpr hfew)]
  dsimp only
  split_ifs with hnone
  · have hvalid : (⟨observations.length, 0, observations.length, 0⟩ :
        DetectionOverlaySnapshot).Valid := ⟨hcount, Nat.zero_le _, hcount, Nat.zero_le _⟩
    refine ⟨⟨frame, _⟩, memory, Prod.ext (if_pos hvalid) rfl, ?_⟩
    exact rendered_same (List.isEmpty_iff.mp hnone) (Nat.zero_le _)
  obtain ⟨drawing, hdrawing⟩ : ∃ drawing, drawing = drawBoxes frame renderer.borderWidth
    (renderer.active observations) ⟨memory.bytes frame.payload, 0⟩ := ⟨_, rfl⟩
  have hsized : Sized frame ⟨memory.bytes frame.payload, 0⟩ := Eq.trans hbacked frame.length.2
  have hdraws : Draws frame (renderer.OnOutlines frame observations)
      (outlineBudget * renderer.borderWidth * (renderer.active observations).length)
      ⟨memory.bytes frame.payload, 0⟩ drawing := hdrawing ▸ drawBoxes_draws hsized
  rw [← hdrawing]
  have hwrites : drawing.pixelWrites ≤ maxPixelWrites :=
    hdraws.writes.trans ((Nat.zero_add _).le.trans (budget_le (hactive.trans hfew)))
  have hpayload : (⟨memory.length, 0, drawing.rendered.length⟩ : MemoryView).length =
      frame.strideBytes * frame.height := hdraws.sized hsized
  have hvalid : (⟨observations.length, (renderer.active observations).length,
      observations.length - (renderer.active observations).length, drawing.pixelWrites⟩ :
      DetectionOverlaySnapshot).Valid :=
    ⟨hcount, hactive.trans hcount, (Nat.sub_le _ _).trans hcount, hwrites⟩
  rw [new_same frame hpayload]
  refine ⟨⟨_, _⟩, memory ++ [drawing.rendered], Prod.ext (if_pos hvalid) rfl, ?_⟩
  exact rendered_drawing hbacked hdraws ⟨rfl, rfl, rfl⟩ rfl hwrites

end Render

/-! ## A frame of two pixels -/

def smallFrame : PresentationVideoFrame :=
  ⟨⟨0, 0, 12⟩, 2, 1, 12, 0, Nat.zero_le _, by decide, by decide, by decide⟩

def wholeImage : DetectionOverlayObservation :=
  ⟨"person", 1, 0, 0, 1, 1, by decide, by decide, by decide, by decide⟩

theorem render_paints_outlines_small : ∃ result after,
    smallRenderer.render [List.replicate 12 7] smallFrame [wholeImage] = (.ok result, after) ∧
      Rendered smallRenderer [List.replicate 12 7] smallFrame [wholeImage] result after :=
  (render_paints_outlines smallRenderer [List.replicate 12 7] smallFrame [wholeImage]
    (by decide)).2 (by decide)

end K5Vision.Media.Overlay
