import Mathlib.Algebra.Order.Group.Int
import Mathlib.Data.Int.Basic
import Mathlib.Tactic.Linarith

/-!
# Fitting an image into a target

`_aspect_fit` and `_copy_to_target` of `media/windows_presentation_surface.py`: the image is centred
in the target without a change of its shape, and four bars around it are cleared.

## Strategy

The rectangle of the image lies inside the target (`fits_aspectFit`), from which alone it follows
that the bars and the rectangle tile the target (`countP_tiles`).  What is handed to GDI is a part
of these areas, and all of them that have a pixel where the blit succeeds.
-/

namespace K5Vision.Media.Surface

/-- The size of an image or of a target, as `blit` admits it. -/
structure Size where
  width : ℤ
  height : ℤ
  width_pos : 0 < width
  height_pos : 0 < height

/-- A rectangle of pixels. -/
structure Area where
  x : ℤ
  y : ℤ
  width : ℤ
  height : ℤ
  deriving DecidableEq, Repr

def Area.has (area : Area) (pixel : ℤ × ℤ) : Bool :=
  area.x ≤ pixel.1 && pixel.1 < area.x + area.width &&
    (area.y ≤ pixel.2 && pixel.2 < area.y + area.height)

theorem Area.has_iff {area : Area} {pixel : ℤ × ℤ} : area.has pixel = true ↔
    area.x ≤ pixel.1 ∧ pixel.1 < area.x + area.width ∧
      area.y ≤ pixel.2 ∧ pixel.2 < area.y + area.height := by
  simp only [Area.has, Bool.and_eq_true, decide_eq_true_eq, and_assoc]

def Size.area (size : Size) : Area := ⟨0, 0, size.width, size.height⟩

def aspectFit (source target : Size) : Area :=
  let fitted : ℤ × ℤ :=
    if target.width * source.height ≤ target.height * source.width then
      (target.width, max 1 (source.height * target.width / source.width))
    else (max 1 (source.width * target.height / source.height), target.height)
  ⟨(target.width - fitted.1) / 2, (target.height - fitted.2) / 2, fitted.1, fitted.2⟩

/-- The letterbox regions of `_copy_to_target`. -/
def bars (fit : Area) (target : Size) : List Area :=
  [⟨0, 0, target.width, fit.y⟩,
    ⟨0, fit.y + fit.height, target.width, target.height - fit.y - fit.height⟩,
    ⟨0, fit.y, fit.x, fit.height⟩,
    ⟨fit.x + fit.width, fit.y, target.width - fit.x - fit.width, fit.height⟩]

structure Gdi where
  patBlt : Area → Bool
  bitBlt : Bool
  setMode : Bool
  stretchBlt : Bool
  resetMode : Bool

/-- The loop over the bars: the areas that are handed over, and whether it comes to its end. -/
def clearBars (gdi : Gdi) : List Area → List Area × Bool
  | [] => ([], true)
  | bar :: rest =>
      if bar.width = 0 ∨ bar.height = 0 then clearBars gdi rest
      else if gdi.patBlt bar then (bar :: (clearBars gdi rest).1, (clearBars gdi rest).2)
      else ([bar], false)

/-- `_copy_to_target`: the areas that are handed over, and what it returns. -/
def copyToTarget (gdi : Gdi) (source target : Size) : List Area × Bool :=
  let fit := aspectFit source target
  let cleared := clearBars gdi (bars fit target)
  if !cleared.2 then cleared
  else if fit.width = source.width ∧ fit.height = source.height then
    (cleared.1 ++ [fit], gdi.bitBlt)
  else if !gdi.setMode then (cleared.1, false)
  else (cleared.1 ++ [fit], gdi.stretchBlt && gdi.resetMode)

/-! ## The rectangle of the image -/

/-- A rectangle with a pixel inside a target. -/
structure Area.Fits (fit : Area) (target : Size) : Prop where
  width : 0 < fit.width
  height : 0 < fit.height
  left : 0 ≤ fit.x
  top : 0 ≤ fit.y
  right : fit.x + fit.width ≤ target.width
  bottom : fit.y + fit.height ≤ target.height

/-- A side that follows from the other one by the shape of the source is off by less than one
pixel. -/
def SideWithin (side wanted other whole : ℤ) : Prop := |side * other - wanted * whole| < other

theorem sideWithin_max {wanted other whole : ℤ} (hwanted : 0 < wanted) (hother : 0 < other)
    (hwhole : 0 < whole) : SideWithin (max 1 (wanted * whole / other)) wanted other whole := by
  have hdivided := Int.mul_ediv_add_emod (wanted * whole) other
  have hless := Int.emod_lt_of_pos (wanted * whole) hother
  have hrest := Int.emod_nonneg (wanted * whole) hother.ne'
  have hproduct : 0 < wanted * whole := Int.mul_pos hwanted hwhole
  rw [SideWithin, abs_lt]
  rcases le_total 1 (wanted * whole / other) with hone | hnone
  · rw [max_eq_right hone, Int.mul_comm _ other]
    constructor <;> linarith
  have hzero : 0 ≤ wanted * whole / other := Int.ediv_nonneg hproduct.le hother.le
  rw [max_eq_left hnone, one_mul]
  constructor
  · nlinarith
  · linarith

/-- One side is that of the target, and the other one follows the shape of the source. -/
def KeepsShape (fit : Area) (source target : Size) : Prop :=
  fit.width = target.width ∧
      SideWithin fit.height source.height source.width target.width ∨
    fit.height = target.height ∧
      SideWithin fit.width source.width source.height target.height

theorem keepsShape_aspectFit (source target : Size) :
    KeepsShape (aspectFit source target) source target := by
  unfold aspectFit
  split
  · exact .inl ⟨rfl, sideWithin_max source.height_pos source.width_pos target.width_pos⟩
  · exact .inr ⟨rfl, sideWithin_max source.width_pos source.height_pos target.height_pos⟩

theorem max_ediv_le {wanted other whole bound : ℤ} (hother : 0 < other) (hbound : 0 < bound)
    (h : wanted * whole ≤ bound * other) : max 1 (wanted * whole / other) ≤ bound :=
  max_le hbound (Int.ediv_le_of_le_mul hother h)

theorem fits_aspectFit (source target : Size) : (aspectFit source target).Fits target := by
  have hwidth := target.width_pos
  have hheight := target.height_pos
  unfold aspectFit
  split
  · rename_i hwide
    have hle : max 1 (source.height * target.width / source.width) ≤ target.height :=
      max_ediv_le source.width_pos hheight (by rwa [Int.mul_comm source.height])
    have hpos := le_max_left 1 (source.height * target.width / source.width)
    constructor <;> dsimp only <;> omega
  · rename_i htall
    have hle : max 1 (source.width * target.height / source.height) ≤ target.width :=
      max_ediv_le source.height_pos hwidth
        (by rw [Int.mul_comm source.width]; exact (not_le.mp htall).le)
    have hpos := le_max_left 1 (source.width * target.height / source.height)
    constructor <;> dsimp only <;> omega

/-! ## The tiles -/

theorem countP_tiles {fit : Area} {target : Size} (h : fit.Fits target) (pixel : ℤ × ℤ) :
    (bars fit target ++ [fit]).countP (·.has pixel) = if target.area.has pixel then 1 else 0 := by
  obtain ⟨hwidth, hheight, hleft, htop, hright, hbottom⟩ := h
  simp only [bars, List.cons_append, List.nil_append, List.countP_cons, List.countP_nil, Size.area,
    Area.has_iff]
  -- a pixel of two areas, or of the target and of none, is out of the bounds of `h`
  split_ifs <;> omega

theorem countP_clearBars (gdi : Gdi) (areas : List Area) (pixel : ℤ × ℤ) :
    (clearBars gdi areas).1.countP (·.has pixel) ≤ areas.countP (·.has pixel) ∧
      ((clearBars gdi areas).2 = true →
        (clearBars gdi areas).1.countP (·.has pixel) = areas.countP (·.has pixel)) := by
  induction areas with
  | nil => exact ⟨le_rfl, fun _ => rfl⟩
  | cons bar rest ih =>
      rw [clearBars]
      split_ifs with hempty hdone
      · have hnone : bar.has pixel = false := by
          rw [← Bool.not_eq_true, Area.has_iff]
          omega
        rwa [List.countP_cons_of_neg (by rw [hnone]; exact Bool.false_ne_true)]
      · rw [List.countP_cons, List.countP_cons]
        exact ⟨Nat.add_le_add_right ih.1 _, fun hall => by rw [ih.2 hall]⟩
      · rw [List.countP_cons, List.countP_cons, List.countP_nil]
        exact ⟨Nat.add_le_add_right (Nat.zero_le _) _, nofun⟩

end K5Vision.Media.Surface
