import Mathlib.Data.List.Basic

/-!
# Loops that wait for their inputs

A loop takes one input after the other until its state is as wanted, or an input ends it by an
error; where the inputs run out it is still waiting, and has no result.  `Uses` says of a list of
inputs that the loop takes exactly these, whatever comes behind them (`Uses.waitLoop_append`).
-/

namespace Library

variable {σ ι ε : Type*}

/-- The loop `while not done(state): state = body(state, next input)`. -/
def waitLoop (done : σ → Bool) (body : σ → ι → Except ε σ) (state : σ) :
    List ι → Option (Except ε σ)
  | [] => if done state then some (.ok state) else none
  | input :: rest =>
      if done state then some (.ok state)
      else
        match body state input with
        | .error error => some (.error error)
        | .ok next => waitLoop done body next rest

/-- The inputs lead the loop from one state to another where it ends, and none of them is left
over. -/
inductive Uses (done : σ → Bool) (body : σ → ι → Except ε σ) : σ → List ι → σ → Prop
  | stop {state : σ} (h : done state = true) : Uses done body state [] state
  | turn {state next final : σ} {input : ι} {rest : List ι} (h : done state = false)
      (hturn : body state input = .ok next) (hrest : Uses done body next rest final) :
      Uses done body state (input :: rest) final

section

variable {done : σ → Bool} {body : σ → ι → Except ε σ} {state final : σ}

theorem waitLoop_of_done (h : done state = true) (inputs : List ι) :
    waitLoop done body state inputs = some (.ok state) := by
  cases inputs with
  | nil => rw [waitLoop, if_pos h]
  | cons input rest => rw [waitLoop, if_pos h]

/-- What comes behind the inputs that a loop uses is not looked at. -/
theorem Uses.waitLoop_append {used : List ι} (h : Uses done body state used final)
    (rest : List ι) : waitLoop done body state (used ++ rest) = some (.ok final) := by
  induction h with
  | stop hdone => exact waitLoop_of_done hdone rest
  | turn hdone hturn _ ih =>
      rw [List.cons_append, waitLoop, if_neg (by simp [hdone]), hturn]
      exact ih

end

end Library
