import UnifyAir.Concurrency.Progress
import UnifyAir.TokenStore.Wakeups

/-!
# UnifyAir — calls of the `TokenStore` return

A `get` goes through nine rounds at most and a `set` awaits one future, so a call has a bound on its
steps whatever the others do. And if no `set` notifies past a `get`, nobody is left waiting: where no
call can move and no future is out, every call has returned.

* **`steps_le`** — the steps of all calls.
* **`returned_of_stuck`** — no deadlock.
* **`all_return`** — both: every run can be brought to its end, in that many steps.
-/

namespace UnifyAir.TokenStore

open Concurrency

variable {K V E : Type}

/-! ## Steps

A `get` that is woken may have to wait again, so waiting is not what bounds its steps; the rounds of
its loop are. -/

/-- The steps that a call has left at most. -/
def Call.left : Call K V E → Nat
  | .idle => 0
  | .getRead _ round => 3 * (9 - round) + 3
  | .getCloned _ round _ => 3 * (9 - round) + 2
  | .getParked _ round _ _ => 3 * (9 - round) + 1
  | .getReturned _ _ => 0
  | .setStart _ => 6
  | .setCheck _ _ _ => 5
  | .setUpsert _ _ _ => 4
  | .setRunning _ _ _ => 3
  | .setWrite _ _ _ _ => 2
  | .setNotify _ _ _ _ => 1
  | .setReturned _ _ => 0
  | .dropped => 0

/-- A step of a call that is there. -/
def Act.isOwn : Act K V E → Bool
  | .get _ _ | .set _ _ => false
  | _ => true

/-- A round of `get` uses up a step: it returns, or goes on to wait. -/
theorem readEntry_left (s : State K V E) (key : K) (round : Nat) :
    (s.readEntry key round).left ≤ 3 * (9 - round) + 2 := by
  unfold State.readEntry
  split
  · exact Nat.zero_le _
  · split
    · exact Nat.zero_le _
    · exact Nat.zero_le _
    · exact Nat.le_refl _

/-- The end of a round leaves the steps of the rounds to come, or none. -/
theorem nextRound_left (key : K) (round : Nat) :
    (State.nextRound key round : Call K V E).left ≤ 3 * (9 - round) := by
  unfold State.nextRound
  split
  · show 3 * (9 - (round + 1)) + 3 ≤ _
    omega
  · exact Nat.zero_le _

/-- A check of `set` uses up a step, whether it passes or not. -/
theorem checkEntry_left (s : State K V E) (key : K) (n : NotifyId) (id : BitVec 32) :
    (s.checkEntry key n id).left ≤ 4 := by
  unfold State.checkEntry
  split
  · split
    · exact Nat.zero_le _
    · exact Nat.le_refl _
  · exact Nat.le_refl _

/-- A call that can be dropped has a step left, which is the drop. -/
theorem left_of_atAwait {c : Call K V E} (h : c.atAwait = true) : 1 ≤ c.left := by
  cases c with
  | getRead | getParked => exact Nat.le_add_left ..
  | setCheck | setUpsert | setRunning | setWrite => exact Nat.le_add_left 1 _
  | idle | getCloned | getReturned | setStart | setNotify | setReturned | dropped => cases h

variable [DecidableEq K]

/-- A step uses up what the call has left; a call begins with 27 at most, the three steps of each of
nine rounds. -/
theorem Step.left_le {s s' : State K V E} {a : Act K V E} (h : Step s a s') :
    ∃ c, s'.calls = Function.update s.calls a.task c ∧
      a.isOwn.toNat + c.left ≤ (s.calls a.task).left + 27 * (!a.isOwn).toNat := by
  have own {t : TaskId} {c c' : Call K V E} (hc : s.calls t = c) (hleft : c'.left + 1 ≤ c.left) :
      1 + c'.left ≤ (s.calls t).left := by
    rw [hc, Nat.add_comm]
    exact hleft
  cases h with
  | @get t key hc => exact ⟨_, rfl, show 0 + 27 ≤ (s.calls t).left + 27 by omega⟩
  | @set t key hc => exact ⟨_, rfl, show 0 + 6 ≤ (s.calls t).left + 27 by omega⟩
  | @read t key round hc => exact ⟨_, rfl, own hc (Nat.succ_le_succ (readEntry_left s key round))⟩
  | park hc => exact ⟨_, rfl, own hc (Nat.le_refl _)⟩
  | @wake t key round n seen hc => exact ⟨_, rfl, own hc (Nat.succ_le_succ (nextRound_left key round))⟩
  | begin hc => exact ⟨_, rfl, own hc (Nat.le_refl _)⟩
  | @check t key n id hc => exact ⟨_, rfl, own hc (Nat.succ_le_succ (checkEntry_left s key n id))⟩
  | upsert hc => exact ⟨_, rfl, own hc (Nat.le_refl _)⟩
  | resolve hc => exact ⟨_, rfl, own hc (Nat.le_refl _)⟩
  | write hc => exact ⟨_, rfl, own hc (Nat.le_refl _)⟩
  | notify hc => exact ⟨_, rfl, own hc (Nat.le_refl _)⟩
  | drop hc => exact ⟨_, rfl, own rfl (left_of_atAwait hc)⟩

/-- **The steps of all calls.** Each has 27 at most. Only the tasks that the schedule names are
counted, so that there are finitely many. -/
theorem steps_le {as : List (Act K V E)} {s : State K V E} (run : (system K V E).Run as s) :
    as.countP Act.isOwn + total (as.map Act.task).toFinset Call.left s.calls ≤
      27 * as.countP (!·.isOwn) := by
  generalize hT : (as.map Act.task).toFinset = T
  have hrun : (system K V E).RunUnder (fun _ a => a.task ∈ T) as s := .of_mem run fun _ a ha => by
    rw [← hT, List.mem_toFinset]
    exact List.mem_map_of_mem ha
  refine hrun.count_le (fun _ s => total T Call.left s.calls)
    (fun as _ => 27 * as.countP (!·.isOwn)) ?_ ?_
  · exact (Finset.sum_const_zero (s := T)).le
  · intro as s a s' _ ha hstep
    obtain ⟨c, hcalls, hleft⟩ := (step_cases hstep).left_le
    have htotal := total_update Call.left s.calls c ha
    rw [← hcalls] at htotal
    rw [List.countP_append, List.countP_singleton]
    cases hown : a.isOwn <;> simp [hown] at hleft ⊢ <;> omega

/-! ## No deadlock

A store without a lock cannot deadlock, but a `get` can wait for a notification that never comes.
That there is always one to come was the subject of the wake-ups. -/

/-- The call has not been made, or it has returned, or was dropped. -/
def Call.isOver : Call K V E → Bool
  | .idle | .getReturned _ _ | .setReturned _ _ | .dropped => true
  | _ => false

/-- **No deadlock.** In a run without cancellation in which no `set` notifies past a `get`, if no
call can move and no future is out, every call has returned: nobody holds a clone, so every `set`
has notified, and whoever is parked would still have a notification to come. -/
theorem returned_of_stuck {as : List (Act K V E)} {s : State K V E}
    (run : (system K V E).RunUnder (fun s a => Uncancelled s a ∧ NotifiesAll s a) as s)
    (hstuck : ∀ t, NotifiesAll s (.advance t) → step s (.advance t) = none)
    (hfuture : ∀ t key n id, s.calls t ≠ .setRunning key n id) (t : TaskId) :
    (s.calls t).isOver = true := by
  -- a `get` that is about to park can park, so every `set` may notify
  have hnoClone : ∀ t key round n, s.calls t ≠ .getCloned key round n := by
    intro t key round n hc
    have hstep := hstuck t fun t' key' n' arc res heq hc' => by
      cases heq
      rw [hc] at hc'
      cases hc'
    simp only [step, State.advance, hc] at hstep
    cases hstep
  have hstill (t : TaskId) : step s (.advance t) = none :=
    hstuck t fun _ _ _ _ _ _ _ t' key' round => hnoClone t' key' round _
  -- so nobody owes a notification, and nobody waits for one
  have hnoDebt : ∀ n, ¬ s.WakeupDue n := by
    rintro n ⟨o, ho⟩
    have hstep := hstill o
    cases hc : s.calls o with
    | setRunning key n' id => exact hfuture o key n' id hc
    | setWrite | setNotify =>
      simp only [step, State.advance, hc] at hstep
      cases hstep
    | idle | getRead | getCloned | getParked | getReturned | setStart | setCheck | setUpsert
    | setReturned | dropped =>
      rw [hc] at ho
      cases ho
  have hstep := hstill t
  cases hc : s.calls t with
  | idle | getReturned | setReturned | dropped => rfl
  | setRunning key n id => exact absurd hc (hfuture t key n id)
  | getParked key round n seen =>
    have hwaits : Awaits s (.getParked key round n seen) := hc ▸ waiting_of_run run t
    simp only [step, State.advance, hc] at hstep
    split at hstep
    · cases hstep
    · next hseen => exact absurd (hwaits.2 (Nat.le_antisymm hwaits.1 (Nat.not_lt.mp hseen))) (hnoDebt n)
  | getRead | getCloned | setStart | setCheck | setUpsert | setWrite | setNotify =>
    simp only [step, State.advance, hc] at hstep
    cases hstep

/-- **Every call returns.** If no call is cancelled and no `set` notifies past a `get`, a run can be
brought to its end without a new call, with 27 steps for each call at most, and at the end every
call has returned. That a future completes is a step like any other here: one that waits for its own
key would not. -/
theorem all_return (result : Except E V) {as : List (Act K V E)} {s : State K V E}
    (run : (system K V E).RunUnder (fun s a => Uncancelled s a ∧ NotifiesAll s a) as s) :
    ∃ bs s', (system K V E).RunUnder (fun s a => Uncancelled s a ∧ NotifiesAll s a) (as ++ bs) s' ∧
      (∀ a ∈ bs, a.isOwn = true) ∧ (as ++ bs).countP Act.isOwn ≤ 27 * as.countP (!·.isOwn) ∧
      ∀ t, (s'.calls t).isOver = true := by
  obtain ⟨bs, s', run', hown, hsteps, hstuck⟩ := run.exists_end (fun a => a.isOwn = true)
    (!·.isOwn) Act.isOwn 27 (fun a ha => ⟨ha, by rw [ha]; rfl⟩) fun as s run => by
      have hsteps := steps_le run.run
      omega
  refine ⟨bs, s', run', hown, hsteps, returned_of_stuck run' ?_ ?_⟩
  · exact fun t hcond => hstuck (.advance t) rfl ⟨nofun, hcond⟩
  · intro t key n id hc
    have hstep := hstuck (.resolve t result) rfl ⟨nofun, nofun⟩
    simp only [system, step, hc] at hstep
    cases hstep

theorem waitRun_clonePark :
    ∃ s, (system Nat Nat Unit).RunUnder (fun s a => Uncancelled s a ∧ NotifiesAll s a) clonePark s := by
  let s := (((system Nat Nat Unit).guarded quiet).exec clonePark).get (by decide)
  refine ⟨s, .of_guarded (c := quiet) (fun s a hq => ⟨?_, ?_⟩) (by simp [s])⟩
  · rintro t rfl
    simp [quiet] at hq
  · rintro t key n arc res rfl hc
    simp [quiet, hc] at hq

/-- The `get` that waits for the running `set` returns. -/
theorem all_return_clonePark :
    ∃ bs s', (system Nat Nat Unit).RunUnder (fun s a => Uncancelled s a ∧ NotifiesAll s a)
        (clonePark ++ bs) s' ∧
      (∀ a ∈ bs, a.isOwn = true) ∧
      (clonePark ++ bs).countP Act.isOwn ≤ 27 * clonePark.countP (!·.isOwn) ∧
      ∀ t, (s'.calls t).isOver = true := by
  obtain ⟨s, run⟩ := waitRun_clonePark
  exact all_return (.ok 123) run

end UnifyAir.TokenStore
