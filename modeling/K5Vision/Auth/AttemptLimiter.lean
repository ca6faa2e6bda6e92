import K5Vision.Auth.AccountSecurityService
import K5Vision.Library.SlidingWindow

/-!
# The limiters of attempts

`_prune` and `_budget` of `operator_identity_security.py`: ten attempts with a second factor in 300
seconds for one account, kept in one table of fixed capacity for all of them.  Each request prunes
the table for everybody, and reads the clock again before its own attempt is counted; all of it
happens under the lock of the service.  What `_prune` does to the challenges and the enrolments is
not here.

`_UserRateLimiter` of `user_admin_api.py` has one queue for all its requests.

Times are exact: the difference of a float that `time.monotonic()` returns and 300 is one.
-/

namespace K5Vision.Auth

open Library Identity

/-! ## Attempts by account -/

def attemptLimit : ℕ := 10

abbrev Attempts := Table Uuid (List ℚ)

namespace Attempts

variable (attempts : Attempts)

def queue (userId : Uuid) : List ℚ := (attempts.find? userId).getD []

/-- `_prune`: a queue goes when it is empty, or its last attempt is stale. -/
def prune (now : ℚ) : Attempts :=
  attempts.keep fun row =>
    match row.2.getLast? with
    | none => false
    | some last => !decide (last ≤ now - lifetime)

/-- What `_budget` raises. -/
def limited : String := "Account authentication temporarily limited"

/-- `_budget`, with the readings of the clock in `_prune` and behind it. -/
def budget (userId : Uuid) (prunedAt now : ℚ) : Except String Unit × Attempts :=
  let pruned := attempts.prune prunedAt
  if userId ∉ pruned.keys ∧ capacity ≤ pruned.rows.length then (.error limited, pruned)
  else
    let queue := expire (now - lifetime) (pruned.queue userId)
    if attemptLimit ≤ queue.length then (.error limited, pruned.upsert userId queue)
    else (.ok (), pruned.upsert userId (queue ++ [now]))

end Attempts

/-- The table, the last reading of the clock, and the attempts that were admitted. -/
structure AttemptLog where
  attempts : Attempts
  clock : ℚ
  admitted : List (Uuid × ℚ)

namespace AttemptLog

inductive Event
  | prune (now : ℚ)
  | attempt (userId : Uuid) (prunedAt now : ℚ)

def create (clock : ℚ) : AttemptLog := ⟨.empty, clock, []⟩

def step (log : AttemptLog) : Event → AttemptLog
  | .prune now => { log with attempts := log.attempts.prune now, clock := now }
  | .attempt userId prunedAt now =>
      let (outcome, attempts) := log.attempts.budget userId prunedAt now
      { attempts := attempts
        clock := now
        admitted := match outcome with
          | .ok _ => log.admitted ++ [(userId, now)]
          | .error _ => log.admitted }

/-- Requests one after the other, under a clock that does not go back. -/
def machine : Machine AttemptLog Event where
  step := step
  admissible log event :=
    match event with
    | .prune now => log.clock ≤ now
    | .attempt _ prunedAt now => log.clock ≤ prunedAt ∧ prunedAt ≤ now

/-- When the attempts of an account were admitted. -/
def instants (log : AttemptLog) (userId : Uuid) : List ℚ :=
  (log.admitted.filter fun attempt => attempt.1 = userId).map Prod.snd

/-! ## What the table remembers -/

/-- The queues keep what is inside its window, in order. -/
structure Inv (log : AttemptLog) : Prop where
  keeps : ∀ userId,
    Keeps (log.clock - lifetime) (log.instants userId) (log.attempts.queue userId)
  sorted : ∀ userId, (log.attempts.queue userId).Pairwise (· ≤ ·)
  past : ∀ userId, ∀ instant ∈ log.attempts.queue userId, instant ≤ log.clock
  capacity : log.attempts.rows.length ≤ capacity
  windows : ∀ userId, AtMost attemptLimit (lifetime : ℚ) (log.instants userId)

theorem inv_create (clock : ℚ) : Inv (create clock) where
  keeps _ := .nil _
  sorted _ := .nil
  past _ _ := nofun
  capacity := Nat.zero_le _
  windows _ := atMost_nil _ _

theorem le_getLast? {queue : List ℚ} (hsorted : queue.Pairwise (· ≤ ·)) {last : ℚ}
    (hlast : queue.getLast? = some last) : ∀ instant ∈ queue, instant ≤ last := by
  obtain ⟨front, rfl⟩ := List.getLast?_eq_some_iff.mp hlast
  intro instant hmem
  rcases List.mem_append.mp hmem with hfront | hend
  · exact (List.pairwise_append.mp hsorted).2.2 instant hfront last (List.mem_singleton_self _)
  · exact (List.mem_singleton.mp hend).le

theorem queue_prune (attempts : Attempts) (now : ℚ) (userId : Uuid)
    (hsorted : (attempts.queue userId).Pairwise (· ≤ ·)) :
    (attempts.prune now).queue userId = attempts.queue userId ∨
      (attempts.prune now).queue userId = [] ∧
        ∀ instant ∈ attempts.queue userId, instant ≤ now - lifetime := by
  unfold Attempts.queue at hsorted ⊢
  cases hfind : attempts.find? userId with
  | none =>
      refine .inl ?_
      cases hpruned : (attempts.prune now).find? userId with
      | none => rfl
      | some queue =>
          rw [Attempts.prune, Table.find?_keep, hfind] at hpruned
          cases hpruned.1
  | some queue =>
      rw [hfind] at hsorted
      by_cases hkeep : (attempts.prune now).find? userId = some queue
      · rw [hkeep]
        exact .inl rfl
      have hnone : (attempts.prune now).find? userId = none := by
        cases hpruned : (attempts.prune now).find? userId with
        | none => rfl
        | some other =>
            have hother := hpruned
            rw [Attempts.prune, Table.find?_keep, hfind] at hother
            rw [hpruned, ← hother.1] at hkeep
            exact absurd rfl hkeep
      rw [hnone]
      refine .inr ⟨rfl, ?_⟩
      cases hlast : queue.getLast? with
      | none =>
          rw [List.getLast?_eq_none_iff] at hlast
          subst hlast
          exact nofun
      | some last =>
          have hstale : last ≤ now - lifetime := by
            by_contra hfresh
            refine hkeep ?_
            rw [Attempts.prune, Table.find?_keep]
            refine ⟨hfind, ?_⟩
            rw [hlast]
            simpa using hfresh
          exact fun instant hmem => (le_getLast? hsorted hlast instant hmem).trans hstale

variable {log : AttemptLog}

theorem Inv.prune (h : Inv log) {now : ℚ} (hclock : log.clock ≤ now) :
    Inv { log with attempts := log.attempts.prune now, clock := now } := by
  have hcutoff : log.clock - lifetime ≤ now - lifetime := sub_le_sub_right hclock _
  have hqueue := fun userId => queue_prune log.attempts now userId (h.sorted userId)
  refine ⟨fun userId => ?_, fun userId => ?_, fun userId => ?_, ?_, h.windows⟩
  · have hkeeps := (h.keeps userId).mono hcutoff
    rcases hqueue userId with hsame | ⟨hgone, hstale⟩
    · rwa [← hsame] at hkeeps
    · change Keeps _ _ ((log.attempts.prune now).queue userId)
      rw [hgone]
      exact hkeeps.forget hstale
  · change ((log.attempts.prune now).queue userId).Pairwise _
    rcases hqueue userId with hsame | ⟨hgone, -⟩
    · rw [hsame]
      exact h.sorted userId
    · rw [hgone]
      exact .nil
  · change ∀ instant ∈ (log.attempts.prune now).queue userId, instant ≤ now
    rcases hqueue userId with hsame | ⟨hgone, -⟩
    · rw [hsame]
      exact fun instant hmem => (h.past userId instant hmem).trans hclock
    · rw [hgone]
      exact nofun
  · exact (List.length_filter_le ..).trans h.capacity

theorem queue_upsert (attempts : Attempts) (userId other : Uuid) (queue : List ℚ) :
    Attempts.queue (attempts.upsert userId queue) other =
      if other = userId then queue else attempts.queue other := by
  rw [Attempts.queue, Table.find?_upsert]
  split_ifs <;> rfl

theorem length_upsert {attempts : Attempts} {userId : Uuid}
    (h : ¬ (userId ∉ attempts.keys ∧ capacity ≤ attempts.rows.length))
    (hle : attempts.rows.length ≤ capacity) (queue : List ℚ) :
    (attempts.upsert userId queue).rows.length ≤ capacity := by
  by_cases hkey : userId ∈ attempts.keys
  · rw [Table.upsert, dif_pos hkey]
    simpa [Table.modify] using hle
  have hroom : attempts.rows.length < capacity := by
    by_contra hfull
    exact h ⟨hkey, not_lt.mp hfull⟩
  exact (Table.length_upsert_le ..).trans hroom

theorem Inv.upsert (h : Inv log) {userId : Uuid} {now : ℚ} (hclock : log.clock ≤ now)
    (hroom : ¬ (userId ∉ log.attempts.keys ∧ Auth.capacity ≤ log.attempts.rows.length))
    {queue : List ℚ} {admitted : List (Uuid × ℚ)}
    (hothers : ∀ other, other ≠ userId →
      instants { log with admitted := admitted } other = log.instants other)
    (hkeeps : Keeps (now - lifetime) (instants { log with admitted := admitted } userId) queue)
    (hsorted : queue.Pairwise (· ≤ ·)) (hpast : ∀ instant ∈ queue, instant ≤ now)
    (hwindows : AtMost attemptLimit (lifetime : ℚ)
      (instants { log with admitted := admitted } userId)) :
    Inv ⟨log.attempts.upsert userId queue, now, admitted⟩ := by
  have hcutoff : log.clock - lifetime ≤ now - lifetime := sub_le_sub_right hclock _
  refine ⟨fun other => ?_, fun other => ?_, fun other => ?_, length_upsert hroom h.capacity queue,
    fun other => ?_⟩
  · change Keeps (now - lifetime) (instants { log with admitted := admitted } other)
      (Attempts.queue (log.attempts.upsert userId queue) other)
    rw [queue_upsert]
    by_cases heq : other = userId
    · rw [if_pos heq, heq]
      exact hkeeps
    · rw [if_neg heq, hothers other heq]
      exact (h.keeps other).mono hcutoff
  · change (Attempts.queue (log.attempts.upsert userId queue) other).Pairwise _
    rw [queue_upsert]
    by_cases heq : other = userId
    · rwa [if_pos heq]
    · rw [if_neg heq]
      exact h.sorted other
  · change ∀ instant ∈ Attempts.queue (log.attempts.upsert userId queue) other, instant ≤ now
    rw [queue_upsert]
    by_cases heq : other = userId
    · rwa [if_pos heq]
    · rw [if_neg heq]
      exact fun instant hmem => (h.past other instant hmem).trans hclock
  · change AtMost _ _ (instants { log with admitted := admitted } other)
    by_cases heq : other = userId
    · rwa [heq]
    · rw [hothers other heq]
      exact h.windows other

theorem instants_concat (log : AttemptLog) (userId other : Uuid) (now : ℚ) :
    instants { log with admitted := log.admitted ++ [(userId, now)] } other =
      log.instants other ++ if userId = other then [now] else [] := by
  by_cases heq : userId = other
  · simp [instants, heq]
  · simp [instants, heq]

theorem Inv.attempt (h : Inv log) {userId : Uuid} {prunedAt now : ℚ}
    (hclock : log.clock ≤ prunedAt) (hnow : prunedAt ≤ now) :
    Inv (log.step (.attempt userId prunedAt now)) := by
  have hpruned := h.prune hclock
  have hcutoff : prunedAt - lifetime ≤ now - lifetime := sub_le_sub_right hnow _
  simp only [step, Attempts.budget]
  by_cases hroom : userId ∉ (log.attempts.prune prunedAt).keys ∧
      Auth.capacity ≤ (log.attempts.prune prunedAt).rows.length
  · rw [if_pos hroom]
    refine ⟨fun other => (hpruned.keeps other).mono hcutoff, hpruned.sorted, ?_,
      hpruned.capacity, hpruned.windows⟩
    exact fun other instant hmem => (hpruned.past other instant hmem).trans hnow
  rw [if_neg hroom]
  have hkeeps := ((hpruned.keeps userId).mono hcutoff).expire
  have hsub : (expire (now - lifetime) ((log.attempts.prune prunedAt).queue userId)).Sublist
      ((log.attempts.prune prunedAt).queue userId) := (List.dropWhile_suffix _).sublist
  have hsorted := (hpruned.sorted userId).sublist hsub
  have hpast : ∀ instant ∈
      expire (now - lifetime) ((log.attempts.prune prunedAt).queue userId), instant ≤ now :=
    fun instant hmem => (hpruned.past userId instant (hsub.subset hmem)).trans hnow
  by_cases hfull : attemptLimit ≤
      (expire (now - lifetime) ((log.attempts.prune prunedAt).queue userId)).length
  · rw [if_pos hfull]
    exact hpruned.upsert hnow hroom (fun _ _ => rfl) hkeeps hsorted hpast (h.windows userId)
  rw [if_neg hfull]
  have hself := (instants_concat log userId userId now).trans
    (congrArg (log.instants userId ++ ·) (if_pos rfl))
  refine hpruned.upsert hnow hroom (fun other hne => ?_) ?_ ?_ ?_ ?_
  · refine (instants_concat log userId other now).trans ?_
    rw [if_neg hne.symm, List.append_nil]
    rfl
  · exact hself ▸ hkeeps.push now
  · refine List.pairwise_append.mpr ⟨hsorted, List.pairwise_singleton _ _, ?_⟩
    intro instant hmem last hlast
    rw [List.mem_singleton.mp hlast]
    exact hpast instant hmem
  · intro instant hmem
    rcases List.mem_append.mp hmem with hold | hlast
    · exact hpast instant hold
    · exact (List.mem_singleton.mp hlast).le
  · exact hself ▸ (h.windows userId).push hkeeps (not_le.mp hfull)

theorem Inv.step (h : Inv log) {event : Event} (hevent : machine.admissible log event) :
    Inv (log.step event) := by
  cases event with
  | prune now => exact h.prune hevent
  | attempt userId prunedAt now => exact h.attempt hevent.1 hevent.2

/-- No window of 300 seconds has more than ten admitted attempts of an account, those that are still
inside their window are in the table, as often as they were admitted, and the table is not larger
than its capacity. -/
structure Limited (log : AttemptLog) : Prop where
  windows : ∀ userId opens,
    (log.instants userId).countP (fun instant => opens < instant ∧ instant ≤ opens + 300) ≤ 10 ∧
      (log.instants userId).countP (fun instant => opens ≤ instant ∧ instant < opens + 300) ≤ 10
  remembered : ∀ userId instant, log.clock - 300 < instant →
    (log.attempts.queue userId).count instant = (log.instants userId).count instant
  capacity : log.attempts.rows.length ≤ 1024

/-- Whatever the order of the requests. -/
theorem attempts_limited {clock : ℚ} {events : List Event}
    (h : machine.Reaches (create clock) events log) : Limited log := by
  have hstep : ∀ (state : AttemptLog) event, Inv state → machine.admissible state event →
      Inv (machine.step state event) := fun _ _ hinv hevent => hinv.step hevent
  have hinv : Inv log := h.invariant hstep (inv_create clock)
  refine ⟨fun userId => hinv.windows userId, fun userId instant hfresh => ?_, hinv.capacity⟩
  refine ((hinv.keeps userId).countP_eq fun other hstale => ?_).symm
  exact beq_false_of_ne (hstale.trans_lt hfresh).ne

/-- Eleven attempts of one account and one of another, the last of the eleven when the first is
stale. -/
def busyEvents : List Event :=
  (List.replicate 10 (.attempt 7 2 2)) ++ [.attempt 7 3 3, .attempt 8 4 4, .attempt 7 302 302]

theorem attempts_limited_sample : Limited (busyEvents.foldl step (create 0)) ∧
      (busyEvents.foldl step (create 0)).admitted =
        List.replicate 10 (7, 2) ++ [(8, 4), (7, 302)] := by
  have hreaches : machine.Reaches (create 0) busyEvents (busyEvents.foldl step (create 0)) := by
    refine ⟨⟨?_, ?_⟩, ⟨?_, ?_⟩, ⟨?_, ?_⟩, ⟨?_, ?_⟩, ⟨?_, ?_⟩, ⟨?_, ?_⟩, ⟨?_, ?_⟩, ⟨?_, ?_⟩,
      ⟨?_, ?_⟩, ⟨?_, ?_⟩, ⟨?_, ?_⟩, ⟨?_, ?_⟩, ⟨?_, ?_⟩, rfl⟩
    all_goals decide +kernel
  exact ⟨attempts_limited hreaches, by decide +kernel⟩

end AttemptLog

/-! ## One queue for all -/

/-- `_UserRateLimiter`, with a limit that its owner has checked. -/
structure UserRateLimiter where
  limit : ℕ
  windowSeconds : ℚ
  events : List ℚ
  limit_pos : 0 < limit

namespace UserRateLimiter

/-- `consume`: `none` where the request is admitted, else after how many seconds to ask again. -/
def consume (limiter : UserRateLimiter) (now : ℚ) : Option ℤ × UserRateLimiter :=
  let events := expire (now - limiter.windowSeconds) limiter.events
  match events with
  | first :: rest =>
      if limiter.limit ≤ (first :: rest).length then
        (some (max 1 ⌈limiter.windowSeconds - (now - first)⌉), { limiter with events := events })
      else (none, { limiter with events := events ++ [now] })
  | [] => (none, { limiter with events := [now] })

/-- A limiter, the last reading of the clock, and when requests were admitted. -/
structure Log where
  limiter : UserRateLimiter
  clock : ℚ
  admitted : List ℚ

def machine : Machine Log ℚ where
  step log now :=
    { limiter := (log.limiter.consume now).2
      clock := now
      admitted := match (log.limiter.consume now).1 with
        | none => log.admitted ++ [now]
        | some _ => log.admitted }
  admissible log now := log.clock ≤ now

theorem consume_cases (limiter : UserRateLimiter) (now : ℚ) : ((limiter.consume now).1 = none ∧
        (expire (now - limiter.windowSeconds) limiter.events).length < limiter.limit ∧
        (limiter.consume now).2 = { limiter with
          events := expire (now - limiter.windowSeconds) limiter.events ++ [now] }) ∨
      ∃ seconds, (limiter.consume now).1 = some seconds ∧ 1 ≤ seconds ∧
        (limiter.consume now).2 = { limiter with
          events := expire (now - limiter.windowSeconds) limiter.events } := by
  unfold consume
  cases hevents : expire (now - limiter.windowSeconds) limiter.events with
  | nil => exact .inl ⟨rfl, limiter.limit_pos, rfl⟩
  | cons first rest =>
      simp only
      by_cases hfull : limiter.limit ≤ (first :: rest).length
      · rw [if_pos hfull]
        exact .inr ⟨_, rfl, le_max_left _ _, rfl⟩
      · rw [if_neg hfull]
        exact .inl ⟨rfl, not_le.mp hfull, rfl⟩

def twice : Log := ⟨⟨2, 60, [], Nat.two_pos⟩, 0, []⟩

end UserRateLimiter

end K5Vision.Auth
