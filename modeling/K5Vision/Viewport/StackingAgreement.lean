import K5Vision.Viewport.TargetLayout

/-!
# What is seen and what is hit

The windows of an open layout are those of its placements, in their order, whatever layouts there
were before (`inv_reaches`).  So the last placement at a point is seen, and the highest one is hit:
that is the same if and only if the placements are listed by their levels (`seen_is_hit_iff`).
-/

namespace K5Vision.Viewport

open Library

/-! ## Opened targets -/

def targetOf (shown : ViewportPlacement × ℕ) : ℕ × ℕ := (shown.1.logicalSlot, shown.2)

def windowOf (shown : ViewportPlacement × ℕ) : NativeWindow where
  handle := shown.2
  x := shown.1.geometry.x
  y := shown.1.geometry.y
  width := shown.1.geometry.width
  height := shown.1.geometry.height

variable {desktop : Desktop} {targets : Targets}

theorem openTargetMap_ok {opening : ℕ → OpenAnswer} {closing : ℕ → CloseAnswer}
    {placements : List ViewportPlacement} {opened : Targets} {after : Desktop}
    (h : openTargetMap opening closing placements targets desktop = (.ok opened, after)) :
    opened = targets ++ (placements.zipIdx desktop.next).map targetOf ∧
      after.windows = desktop.windows ++ (placements.zipIdx desktop.next).map windowOf ∧
        after.next = desktop.next + placements.length := by
  induction placements generalizing targets desktop with
  | nil =>
      cases h
      simp
  | cons placement rest ih =>
      unfold openTargetMap at h
      split at h
      · obtain ⟨rfl, hwindows, hnext⟩ := ih h
        refine ⟨?_, ?_, ?_⟩
        · simp [Desktop.createTarget, targetOf]
        · rw [hwindows]
          simp [Desktop.createTarget, windowOf]
        · rw [hnext, List.length_cons]
          simp only [Desktop.createTarget]
          omega
      · cases h

theorem closeTarget_true {answers : ℕ → CloseAnswer} :
    (targets.foldl (closeTarget answers) (true, desktop)).1 = true := by
  induction targets generalizing desktop with
  | nil => rfl
  | cons target rest ih =>
      rw [List.foldl_cons]
      cases hanswer : answers target.2 <;> simp only [closeTarget, hanswer] <;> exact ih

theorem closeTargets_false {answers : ℕ → CloseAnswer}
    (h : (targets.foldl (closeTarget answers) (false, desktop)).1 = false) :
    (targets.foldl (closeTarget answers) (false, desktop)).2.windows =
        desktop.windows.filter (fun window => window.handle ∉ targets.map Prod.snd) ∧
      (targets.foldl (closeTarget answers) (false, desktop)).2.next = desktop.next := by
  induction targets generalizing desktop with
  | nil => simp
  | cons target rest ih =>
      rw [List.foldl_cons] at h ⊢
      cases hanswer : answers target.2 with
      | closed =>
          have hclosed : closeTarget answers (false, desktop) target =
              (false, desktop.destroyTarget target.2) := by
            simp [closeTarget, hanswer]
          rw [hclosed] at h ⊢
          obtain ⟨hwindows, hnext⟩ := ih h
          refine ⟨?_, hnext⟩
          rw [hwindows, Desktop.destroyTarget, List.filter_filter]
          refine List.filter_congr fun window _ => ?_
          rw [Bool.eq_iff_iff]
          simp only [Bool.and_eq_true, decide_eq_true_eq, List.map_cons, List.mem_cons, not_or]
          exact and_comm
      | raised stays =>
          have hraised : ∃ closing, closeTarget answers (false, desktop) target = (true, closing) := by
            simp [closeTarget, hanswer]
          obtain ⟨closing, hclosing⟩ := hraised
          rw [hclosing, closeTarget_true] at h
          cases h

/-! ## Runs -/

/-- The windows are those of the placements, in their order. -/
structure Shown (s : TargetLayout) (base : ℕ) : Prop where
  targets : s.targets = (s.layout.placements.zipIdx base).map targetOf
  windows : s.desktop.windows = (s.layout.placements.zipIdx base).map windowOf
  bound : base + s.layout.placements.length ≤ s.desktop.next

structure TargetLayout.Inv (s : TargetLayout) : Prop where
  ready : s.state = .ready → s.desktop.windows = []
  shown : s.state = .open → ∃ base, Shown s base

variable {s : TargetLayout}

theorem inv_of_ended (h : s.state = .failed ∨ s.state = .closed) : s.Inv := by
  constructor <;> intro hstate <;> rcases h with h | h <;> rw [h] at hstate <;> cases hstate

theorem inv_create (layout : ViewportLayout) (maxPresentations next : ℕ) :
    (TargetLayout.create layout maxPresentations next).Inv :=
  ⟨fun _ => rfl, nofun⟩

theorem TargetLayout.Inv.open (h : s.Inv) (opening : ℕ → OpenAnswer) (closing : ℕ → CloseAnswer) :
    (s.open opening closing).2.Inv := by
  unfold TargetLayout.open
  split_ifs with hopen hready
  · exact h
  · exact h
  cases hopened : openTargetMap opening closing s.layout.placements [] s.desktop with
  | mk result after =>
      cases result with
      | ok targets =>
          obtain ⟨htargets, hwindows, hnext⟩ := openTargetMap_ok hopened
          refine ⟨nofun, fun _ => ⟨s.desktop.next, ⟨htargets, ?_, hnext.ge⟩⟩⟩
          rw [h.ready (not_not.mp hready)] at hwindows
          exact hwindows
      | error answer => cases answer <;> exact inv_of_ended (.inl rfl)

theorem fail_inv (s : TargetLayout) (closing : ℕ → CloseAnswer) : (s.fail closing).Inv :=
  inv_of_ended (.inl rfl)

/-- The windows of the layout that was shown before are gone, and no others. -/
theorem windows_replaced {placements others : List ViewportPlacement} {base next : ℕ}
    (hbound : base + placements.length ≤ next) :
    ((placements.zipIdx base).map windowOf ++ (others.zipIdx next).map windowOf).filter
        (fun window => window.handle ∉ ((placements.zipIdx base).map targetOf).reverse.map Prod.snd) =
      (others.zipIdx next).map windowOf := by
  have hold : ∀ shown ∈ placements.zipIdx base, base ≤ shown.2 ∧ shown.2 < next := by
    intro shown hshown
    have hplace := List.mk_mem_zipIdx_iff_le_and_getElem?_sub.mp hshown
    have hlt := (List.getElem?_eq_some_iff.mp hplace.2).1
    exact ⟨hplace.1, by omega⟩
  have hnew : ∀ shown ∈ others.zipIdx next, next ≤ shown.2 := by
    intro shown hshown
    exact (List.mk_mem_zipIdx_iff_le_and_getElem?_sub.mp hshown).1
  rw [List.filter_append, List.filter_eq_nil_iff.mpr, List.nil_append, List.filter_eq_self.mpr]
  · intro window hwindow
    obtain ⟨shown, hshown, rfl⟩ := List.mem_map.mp hwindow
    simp only [decide_eq_true_eq, List.map_reverse, List.mem_reverse, List.map_map, List.mem_map]
    rintro ⟨prior, hprior, hsame⟩
    have hbefore := (hold prior hprior).2
    have hafter := hnew shown hshown
    simp only [Function.comp, targetOf, windowOf] at hsame
    omega
  · intro window hwindow
    obtain ⟨shown, hshown, rfl⟩ := List.mem_map.mp hwindow
    simp only [decide_eq_true_eq, not_not, List.map_reverse, List.mem_reverse, List.map_map]
    exact List.mem_map.mpr ⟨shown, hshown, rfl⟩

theorem TargetLayout.Inv.relayout (h : s.Inv) (layout : ViewportLayout) (opening : ℕ → OpenAnswer)
    (closing : ℕ → CloseAnswer) : (s.relayout layout opening closing).2.Inv := by
  unfold TargetLayout.relayout
  split_ifs with hopen hslots
  · exact h
  · exact h
  cases hopened : openTargetMap opening closing layout.placements [] s.desktop with
  | mk result after =>
      cases result with
      | error answer => cases answer <;> exact fail_inv _ closing
      | ok targets =>
          dsimp only
          split_ifs with hclosed
          · exact fail_inv _ closing
          obtain ⟨base, hshown⟩ := h.shown (not_not.mp hopen)
          obtain ⟨htargets, hwindows, hnext⟩ := openTargetMap_ok hopened
          obtain ⟨hkept, hsame⟩ := closeTargets_false (Bool.eq_false_iff.mpr hclosed)
          refine ⟨fun hready => ?_, fun _ => ⟨s.desktop.next, ⟨htargets, ?_, ?_⟩⟩⟩
          · rw [not_not.mp hopen] at hready
            cases hready
          · refine hkept.trans ?_
            rw [hwindows, hshown.targets, hshown.windows]
            exact windows_replaced hshown.bound
          · exact (hsame.trans hnext).ge

theorem TargetLayout.Inv.present (h : s.Inv) (logicalSlot : ℕ) (answer : PresentAnswer)
    (closing : ℕ → CloseAnswer) : (s.present logicalSlot answer closing).2.Inv := by
  unfold TargetLayout.present
  split_ifs
  · exact h
  · exact fail_inv s closing
  · cases answer with
    | presented =>
        refine ⟨h.ready, fun hopen => ?_⟩
        obtain ⟨base, hshown⟩ := h.shown hopen
        exact ⟨base, ⟨hshown.targets, hshown.windows, hshown.bound⟩⟩
    | deferred => exact h
    | cancelled => exact fail_inv s closing
    | failed => exact fail_inv s closing
  · exact h

theorem TargetLayout.Inv.close (h : s.Inv) (closing : ℕ → CloseAnswer) :
    (s.close closing).2.Inv := by
  unfold TargetLayout.close
  dsimp only
  split_ifs
  · exact h
  · exact inv_of_ended (.inl rfl)
  · exact inv_of_ended (.inr rfl)

theorem inv_reaches {layout : ViewportLayout} {maxPresentations next : ℕ}
    {events : List TargetLayout.Event}
    (h : TargetLayout.machine.Reaches (.create layout maxPresentations next) events s) :
    s.Inv := by
  refine h.invariant (fun state event hinv _ => ?_) (inv_create layout maxPresentations next)
  cases event with
  | «open» opening closing => exact hinv.open opening closing
  | relayout layout opening closing => exact hinv.relayout layout opening closing
  | present logicalSlot answer closing => exact hinv.present logicalSlot answer closing
  | close closing => exact hinv.close closing

/-! ## What is seen at a point -/

def lastCovering (layout : ViewportLayout) (x y : ℤ) : Option ViewportPlacement :=
  layout.placements.reverse.find? fun placement => geometryContains placement.geometry x y

variable {s : TargetLayout} {base : ℕ}

theorem find?_eq_some_of_unique {α : Type} {p : α → Bool} {items : List α} {item : α}
    (hmem : item ∈ items) (hitem : p item = true)
    (hunique : ∀ other ∈ items, p other = true → other = item) : items.find? p = some item := by
  cases hfind : items.find? p with
  | none => exact absurd hitem (List.find?_eq_none.mp hfind item hmem)
  | some other => rw [hunique other (List.mem_of_find?_eq_some hfind) (List.find?_some hfind)]

theorem slotOf_shown (h : Shown s base) {shown : ViewportPlacement × ℕ}
    (hshown : shown ∈ s.layout.placements.zipIdx base) :
    s.slotOf shown.2 = some shown.1.logicalSlot := by
  have hfound : (s.targets.find? fun target => target.2 = shown.2) = some (targetOf shown) := by
    rw [h.targets]
    refine find?_eq_some_of_unique (List.mem_map_of_mem hshown) (by simp [targetOf]) ?_
    intro other hother hsame
    obtain ⟨candidate, hcandidate, rfl⟩ := List.mem_map.mp hother
    have hhandle : candidate.2 = shown.2 := of_decide_eq_true hsame
    have hplace := (List.mk_mem_zipIdx_iff_le_and_getElem?_sub.mp hshown).2
    have hplace' := (List.mk_mem_zipIdx_iff_le_and_getElem?_sub.mp hcandidate).2
    rw [hhandle, hplace] at hplace'
    rw [Prod.ext (Option.some.inj hplace').symm hhandle]
  rw [TargetLayout.slotOf, hfound]
  rfl

/-- The last placement that covers a point is seen there. -/
theorem seenAt_shown (h : Shown s base) (x y : ℤ) :
    s.seenAt x y = (lastCovering s.layout x y).map ViewportPlacement.logicalSlot := by
  have hplacements : lastCovering s.layout x y =
      ((s.layout.placements.zipIdx base).reverse.find? fun shown =>
        geometryContains shown.1.geometry x y).map Prod.fst := by
    have hreverse : s.layout.placements.reverse =
        (s.layout.placements.zipIdx base).reverse.map Prod.fst := by
      rw [List.map_reverse, List.zipIdx_map_fst]
    rw [lastCovering, hreverse, List.find?_map]
    rfl
  have hwindow : s.desktop.topmost x y =
      ((s.layout.placements.zipIdx base).reverse.find? fun shown =>
        geometryContains shown.1.geometry x y).map windowOf := by
    rw [Desktop.topmost, h.windows, ← List.map_reverse, List.find?_map]
    rfl
  rw [TargetLayout.seenAt, hwindow, hplacements]
  cases hfind : (s.layout.placements.zipIdx base).reverse.find? fun shown =>
      geometryContains shown.1.geometry x y with
  | none => rfl
  | some shown =>
      exact slotOf_shown h (List.mem_reverse.mp (List.mem_of_find?_eq_some hfind))

theorem createdKeys_shown (h : Shown s base) :
    s.createdKeys = s.layout.placements.zipIdx.map stackKey := by
  have hkey : ∀ shown ∈ s.layout.placements.zipIdx base,
      ((s.slotOf (windowOf shown).handle).bind fun slot =>
        (s.layout.placements.zipIdx.find? fun candidate => candidate.1.logicalSlot = slot).map
          stackKey) = some (stackKey (shown.1, shown.2 - base)) := by
    intro shown hshown
    have hplace := (List.mk_mem_zipIdx_iff_le_and_getElem?_sub.mp hshown).2
    have hmem : (shown.1, shown.2 - base) ∈ s.layout.placements.zipIdx :=
      List.mk_mem_zipIdx_iff_getElem?.mpr hplace
    have hfound : (s.layout.placements.zipIdx.find? fun candidate =>
        candidate.1.logicalSlot = shown.1.logicalSlot) = some (shown.1, shown.2 - base) := by
      refine find?_eq_some_of_unique hmem (by simp) ?_
      intro other hother hslot
      have hat : s.layout.placements[other.2]? = some other.1 :=
        List.mk_mem_zipIdx_iff_getElem?.mp hother
      have hindex : other.2 = shown.2 - base := by
        rw [← idxOf_slot hat, ← idxOf_slot hplace]
        congr 1
        simpa using hslot
      rw [hindex, hplace] at hat
      exact Prod.ext (Option.some.inj hat).symm hindex
    rw [show (windowOf shown).handle = shown.2 from rfl, slotOf_shown h hshown, Option.bind_some,
      hfound]
    rfl
  rw [TargetLayout.createdKeys, h.windows, List.filterMap_map]
  refine (List.filterMap_eq_map_iff_forall_eq_some.mpr hkey).trans ?_
  rw [List.zipIdx_eq_map_add, List.map_map]
  refine List.map_congr_left fun indexed _ => ?_
  simp

/-! ## The highest and the last placement -/

/-- The placements are listed by their levels. -/
def ViewportLayout.ListedByLevel (layout : ViewportLayout) : Prop :=
  layout.placements.Pairwise fun first second => first.geometry.zIndex ≤ second.geometry.zIndex

theorem pairwise_stackKey_iff (layout : ViewportLayout) :
    (layout.placements.zipIdx.map stackKey).Pairwise (· < ·) ↔ layout.ListedByLevel := by
  rw [ViewportLayout.ListedByLevel, List.pairwise_iff_getElem, List.pairwise_iff_getElem]
  simp only [List.length_map, List.length_zipIdx, List.getElem_map, List.getElem_zipIdx,
    stackKey_lt, Nat.zero_add]
  refine forall_congr' fun i => forall_congr' fun j => forall_congr' fun hi => forall_congr' fun hj =>
    forall_congr' fun hij => ?_
  simp only [hij, and_true]
  exact le_iff_lt_or_eq.symm

/-- Where the placements are listed by their levels, the last one at a point is hit. -/
theorem lastCovering_selected {layout : ViewportLayout} (h : layout.ListedByLevel) (x y : ℤ) :
    (lastCovering layout x y).map ViewportPlacement.logicalSlot =
      (selectPointerDrag layout x y).map PointerDrag.logicalSlot := by
  have htop := topmost_selected layout x y
  unfold selectPointerDrag
  cases hlast : lastCovering layout x y with
  | none =>
      cases hselected : layout.placements.zipIdx.foldl (selectPlacement x y) none with
      | none => rfl
      | some top =>
          rw [hselected] at htop
          obtain ⟨hmem, hcovers, -⟩ := htop
          have hplaced := List.mem_of_getElem? (List.mem_zipIdx_iff_getElem?.mp hmem)
          exact absurd hcovers (List.find?_eq_none.mp hlast top.1 (List.mem_reverse.mpr hplaced))
  | some last =>
      obtain ⟨hlastCovers, after, before, hsplit, hafter⟩ := List.find?_eq_some_iff_append.mp hlast
      have hplacements : layout.placements = before.reverse ++ last :: after.reverse := by
        rw [← List.reverse_reverse layout.placements, hsplit]
        simp
      have hat : layout.placements[before.length]? = some last := by simp [hplacements]
      have hlastMem : (last, before.length) ∈ layout.placements.zipIdx :=
        List.mk_mem_zipIdx_iff_getElem?.mpr hat
      cases hselected : layout.placements.zipIdx.foldl (selectPlacement x y) none with
      | none =>
          rw [hselected] at htop
          exact absurd hlastCovers (htop _ hlastMem)
      | some top =>
          rw [hselected] at htop
          obtain ⟨hmem, hcovers, hmax⟩ := htop
          have htopAt := List.mem_zipIdx_iff_getElem?.mp hmem
          have hle : stackKey top ≤ stackKey (last, before.length) := by
            rcases Nat.lt_trichotomy top.2 before.length with hlt | heq | hgt
            · obtain ⟨hi, hget⟩ := List.getElem?_eq_some_iff.mp htopAt
              obtain ⟨hj, hget'⟩ := List.getElem?_eq_some_iff.mp hat
              have hlevel := List.pairwise_iff_getElem.mp h top.2 before.length hi hj hlt
              rw [hget, hget'] at hlevel
              exact (stackKey_lt.mpr (hlevel.lt_or_eq.imp_right fun heq => ⟨heq, hlt⟩)).le
            · rw [heq, hat] at htopAt
              have hsame : top = (last, before.length) := Prod.ext (Option.some.inj htopAt).symm heq
              exact hsame ▸ le_refl _
            -- no placement behind the last one covers the point
            rw [hplacements, List.getElem?_append_right (by simpa using hgt.le)] at htopAt
            obtain ⟨n, hn⟩ : ∃ n, top.2 - before.reverse.length = n + 1 :=
              ⟨top.2 - before.reverse.length - 1, by rw [List.length_reverse]; omega⟩
            rw [hn, List.getElem?_cons_succ] at htopAt
            have hbehind := hafter top.1 (List.mem_reverse.mp (List.mem_of_getElem? htopAt))
            rw [show geometryContains top.1.geometry x y = true from hcovers] at hbehind
            cases hbehind
          have hsame := hle.antisymm (hmax _ hlastMem hlastCovers)
          rw [eq_of_stackKey hmem hlastMem hsame]
          rfl

/-! ## The claim -/

namespace TargetLayout

/-- The windows are created in the order in which the placements are stacked. -/
def CreatedInOrder (s : TargetLayout) : Prop :=
  s.createdKeys.length = s.layout.placements.length ∧ s.createdKeys.Pairwise (· < ·)

/-- What is seen at a point is hit there. -/
def SeenIsHit (s : TargetLayout) : Prop :=
  ∀ x y, s.seenAt x y = (selectPointerDrag s.layout x y).map PointerDrag.logicalSlot

/-- A slot that was brought to the front is seen wherever it is. -/
def FrontIsSeen (s : TargetLayout) : Prop :=
  ∀ layout edit, edit.action = .bringToFront → applyViewportStack layout edit = .ok s.layout →
    ∀ placement ∈ s.layout.placements, placement.logicalSlot = edit.logicalSlot →
      ∀ x y, geometryContains placement.geometry x y = true → s.seenAt x y = some edit.logicalSlot

/-- An open layout is seen as it is hit, and its windows are created in the order of the stack, if
and only if its placements are listed by their levels. -/
theorem seen_is_hit_iff {layout : ViewportLayout} {maxPresentations next : ℕ} {events : List Event}
    {s : TargetLayout} (h : machine.Reaches (.create layout maxPresentations next) events s)
    (hopen : s.state = .open) :
    (s.CreatedInOrder ∧ s.SeenIsHit ∧ s.FrontIsSeen) ↔ s.layout.ListedByLevel := by
  obtain ⟨base, hshown⟩ := (inv_reaches h).shown hopen
  have hkeys := createdKeys_shown hshown
  constructor
  · rintro ⟨⟨-, hsorted⟩, -, -⟩
    rw [hkeys] at hsorted
    exact (pairwise_stackKey_iff s.layout).mp hsorted
  intro hlisted
  have hseen : s.SeenIsHit := by
    intro x y
    rw [seenAt_shown hshown, lastCovering_selected hlisted]
  refine ⟨⟨by rw [hkeys]; simp, ?_⟩, hseen, ?_⟩
  · rw [hkeys]
    exact (pairwise_stackKey_iff s.layout).mpr hlisted
  · intro prior edit haction hedit placement hplaced hslot x y hcovers
    rw [hseen x y]
    exact broughtToFront_selected haction hedit hplaced hslot hcovers

end TargetLayout

/-! ## Two overlapping placements -/

def originTile (logicalSlot : ℕ) (zIndex : ℤ) (hslot : logicalSlot ≤ maxSlot)
    (hfits : geometryFits 0 0 100 100 zIndex) : ViewportPlacement :=
  ⟨logicalSlot, ⟨0, 0, 100, 100, zIndex, hfits⟩, hslot⟩

theorem fits_back : geometryFits 0 0 100 100 0 := by decide

def overlapping : ViewportLayout :=
  ⟨[originTile 0 0 (by decide) fits_back, originTile 1 0 (by decide) fits_back], by decide,
    by decide, by decide⟩

def firstInFront : ViewportLayout :=
  ⟨[originTile 0 1 (by decide) (by decide), originTile 1 0 (by decide) fits_back], by decide,
    by decide, by decide⟩

def openOverlapping : List TargetLayout.Event :=
  [.open (fun _ => .opened) fun _ => .closed]

def relayoutOverlapping : List TargetLayout.Event :=
  openOverlapping ++ [.relayout firstInFront (fun _ => .opened) fun _ => .closed]

def layoutAfter (events : List TargetLayout.Event) : TargetLayout :=
  events.foldl TargetLayout.machine.step (.create overlapping 100000 1)

theorem reaches_layoutAfter (events : List TargetLayout.Event) :
    TargetLayout.machine.Reaches (.create overlapping 100000 1) events (layoutAfter events) :=
  Machine.reaches_foldl (fun _ _ _ => trivial) _

/-- The later of two placements on one level is seen and hit. -/
theorem seen_is_hit_overlapping :
    (layoutAfter openOverlapping).CreatedInOrder ∧ (layoutAfter openOverlapping).SeenIsHit ∧
      (layoutAfter openOverlapping).FrontIsSeen :=
  (TargetLayout.seen_is_hit_iff (reaches_layoutAfter openOverlapping) rfl).mpr
    (show overlapping.ListedByLevel by
      unfold ViewportLayout.ListedByLevel
      decide)

/-- The first placement is brought to the front, and the second one is still seen. -/
theorem front_is_hidden :
    TargetLayout.machine.Reaches (.create overlapping 100000 1) relayoutOverlapping
        (layoutAfter relayoutOverlapping) ∧
      (layoutAfter relayoutOverlapping).state = .open ∧
        ¬(layoutAfter relayoutOverlapping).SeenIsHit ∧
          ¬(layoutAfter relayoutOverlapping).FrontIsSeen := by
  have hseen : (layoutAfter relayoutOverlapping).seenAt 50 50 = some 1 := by decide +kernel
  have hlayout : (layoutAfter relayoutOverlapping).layout = firstInFront := rfl
  have hhit : (selectPointerDrag firstInFront 50 50).map PointerDrag.logicalSlot = some 0 := by
    decide +kernel
  have hedit : applyViewportStack overlapping ⟨0, .bringToFront, by decide⟩ = .ok firstInFront := by
    decide +kernel
  refine ⟨reaches_layoutAfter relayoutOverlapping, rfl, ?_, ?_⟩
  · intro hagrees
    have hsame := hagrees 50 50
    rw [hseen, hlayout, hhit] at hsame
    cases hsame
  · intro hfront
    have hshown := hfront overlapping ⟨0, .bringToFront, by decide⟩ rfl hedit _ List.mem_cons_self
      rfl 50 50 (by decide +kernel)
    rw [hseen] at hshown
    cases hshown

end K5Vision.Viewport
