import UnifyAir.TokenStore.Updates

/-!
# UnifyAir — wake-ups of waiting `get`s in the `TokenStore`

A `get` that finds `Updating(n)` clones `n` out of the map, lets go of the map and only then
creates the `Notified` it waits on. `notify_waiters` wakes the `Notified`s that exist and
stores no permit, so a `set` that notifies between the two passes the `get` by. No call is
cancelled here (`Uncancelled`).

* **`no_lost_wakeup_iff_notifies_all`** — a parked `get` has its wake-up still to come as
  long as no `set` notifies past a `get` that has cloned its `Notify` and not yet created
  its `Notified`; and any such notification is followed by a step that strands the `get`.
* **`wakeup_lost`** — the schedule in which it happens.
-/

namespace UnifyAir.TokenStore

open Concurrency

variable {K V E : Type}

/-- The `Notify` a `set` with an installed entry will still call `notify_waiters` on. -/
def Call.owes : Call K V E → Option NotifyId
  | .setRunning _ n _ | .setWrite _ n _ _ | .setNotify _ n _ _ => some n
  | _ => none

/-- A `set` that still has to write its result still has to notify as well. -/
theorem Call.owes_of_updates {c : Call K V E} {key : K} {n : NotifyId}
    (h : c.updates = some (key, n)) : c.owes = some n := by
  cases c with
  | setRunning | setWrite => cases h; rfl
  | idle | getRead | getCloned | getParked | getReturned | setStart | setCheck | setUpsert
  | setNotify | setReturned | dropped => cases h

/-- What it has to notify is the `Notify` that it has made. -/
theorem Call.notify_of_owes {c : Call K V E} {n : NotifyId} (h : c.owes = some n) :
    c.notify = some n := by
  cases c with
  | setRunning | setWrite | setNotify => cases h; rfl
  | idle | getRead | getCloned | getParked | getReturned | setStart | setCheck | setUpsert
  | setReturned | dropped => cases h

/-- The `set` that owns `n` has not yet called `notify_waiters`. -/
def State.WakeupDue (s : State K V E) (n : NotifyId) : Prop := ∃ o, (s.calls o).owes = some n

/-- The `get` call `t` waits on a `Notified` of `n` that has not been notified. -/
def State.ParkedOn (s : State K V E) (t : TaskId) (n : NotifyId) : Prop :=
  ∃ key round seen, s.calls t = .getParked key round n seen ∧ ¬ seen < s.notified n

/-- Every parked `get` has a wake-up coming. -/
def NoLostWakeup (s : State K V E) : Prop := ∀ t n, s.ParkedOn t n → s.WakeupDue n

/-- No call is cancelled. -/
def Uncancelled (_ : State K V E) (a : Act K V E) : Prop := ∀ t, a ≠ .drop t

/-- The condition on a step: a `set` calls `notify_waiters` only when no `get` holds a clone
of its `Notify` without a `Notified` made from it. -/
def NotifiesAll (s : State K V E) (a : Act K V E) : Prop :=
  ∀ t key n arc res, a = .advance t → s.calls t = .setNotify key n arc res →
    ∀ t' key' round, s.calls t' ≠ .getCloned key' round n

/-! ## The invariant

Behind a `get` that waits there is a `set` that will notify it. This is first known when the `get`
reads the entry, which is owned, and has to be kept until the `get` is woken. -/

/-- What a waiting `get` can rely on. -/
def Awaits (s : State K V E) : Call K V E → Prop
  | .getCloned _ _ n => s.WakeupDue n
  | .getParked _ _ n seen => seen ≤ s.notified n ∧ (seen = s.notified n → s.WakeupDue n)
  | _ => True

def Waiting (s : State K V E) : Prop := ∀ t, Awaits s (s.calls t)

/-- A `get` that is parked and not notified has seen as many notifications as there have been, so
one is still due. -/
theorem Waiting.noLostWakeup {s : State K V E} (h : Waiting s) : NoLostWakeup s := by
  rintro t n ⟨key, round, seen, hc, hseen⟩
  have haw : Awaits s (.getParked key round n seen) := hc ▸ h t
  exact haw.2 (Nat.le_antisymm haw.1 (Nat.not_lt.mp hseen))

/-- What a `get` relies on stays there when nothing is notified and no debt is paid. Counts and
debts are all that it relies on. -/
theorem Awaits.keep {s s' : State K V E} (hnot : s'.notified = s.notified)
    (hdue : ∀ n, s.WakeupDue n → s'.WakeupDue n) {c : Call K V E} (h : Awaits s c) :
    Awaits s' c := by
  cases c with
  | getCloned => exact hdue _ h
  | getParked key round n seen =>
    refine ⟨hnot ▸ h.1, fun heq => hdue n (h.2 ?_)⟩
    rw [heq, hnot]
  | idle | getRead | getReturned | setStart | setCheck | setUpsert | setRunning | setWrite
  | setNotify | setReturned | dropped => trivial

/-- One call moves to `c`, nothing is notified and `t` pays no debt. This is every step but the one
that notifies. -/
theorem Waiting.move {s s' : State K V E} (h : Waiting s) {t : TaskId} {c : Call K V E}
    (hcalls : s'.calls = Function.update s.calls t c) (hnot : s'.notified = s.notified)
    (hpay : ∀ n, (s.calls t).owes = some n → c.owes = some n) (hc : Awaits s c) : Waiting s' := by
  have hdue : ∀ n, s.WakeupDue n → s'.WakeupDue n := by
    rintro n ⟨o, ho⟩
    refine ⟨o, ?_⟩
    rw [hcalls]
    exact to_update (fun c : Call K V E => c.owes = some n) (hpay n) ho
  intro t'
  rw [hcalls]
  exact to_update (Awaits s') (fun _ => hc.keep hnot hdue) ((h t').keep hnot hdue)

/-- An entry a `get` reads as `Updating(n)` is owned, so `n` will be notified. Here the invariant on
entries is put to use for those that wait. -/
theorem Owned.readEntry {s : State K V E} (h : Owned s) (key : K) (round : Nat) :
    Awaits s (s.readEntry key round) := by
  unfold State.readEntry
  split
  · trivial
  · next arc ts hentry =>
    split
    · trivial
    · trivial
    · next n hstate =>
      have hupd : s.UpdatingBy key n := ⟨arc, ts.id, by rw [hentry, ← hstate]⟩
      obtain ⟨o, ho⟩ := h key n hupd
      exact ⟨o, Call.owes_of_updates ho⟩

/-- `notify_waiters` wakes who has parked, and nobody is about to. The debt of this `set` is paid
with it, and no one else relied on that. -/
theorem Waiting.notify {s : State K V E} (h : Waiting s) {t : TaskId} {key : K} {n : NotifyId}
    {arc : ArcId} {res : Except (StoreError E) Unit} (hc : s.calls t = .setNotify key n arc res)
    (hall : ∀ t' key' round, s.calls t' ≠ .getCloned key' round n) :
    Waiting (s.notifyWaiters t key n arc res) := by
  have hdue : ∀ m, m ≠ n → s.WakeupDue m → (s.notifyWaiters t key n arc res).WakeupDue m := by
    rintro m hm ⟨o, ho⟩
    have hot : o ≠ t := by
      rintro rfl
      simp only [hc, Call.owes, Option.some.injEq] at ho
      exact hm ho.symm
    exact ⟨o, by simpa only [State.notifyWaiters, Function.update_of_ne hot] using ho⟩
  intro t'
  by_cases ht : t' = t
  · subst ht
    simp only [State.notifyWaiters, Function.update_self]
    trivial
  have hsame : (s.notifyWaiters t key n arc res).calls t' = s.calls t' :=
    Function.update_of_ne ht ..
  have hold := h t'
  rw [hsame]
  cases hcall : s.calls t' with
  | getCloned key' round m =>
    rw [hcall] at hold
    exact hdue m (fun hm => hall t' key' round (hm ▸ hcall)) hold
  | getParked key' round m seen =>
    rw [hcall] at hold
    by_cases hm : m = n
    · -- counted before this call of `notify_waiters`, so ready now
      subst hm
      have hcount : (s.notifyWaiters t key m arc res).notified m = s.notified m + 1 :=
        Function.update_self ..
      have hle : seen ≤ s.notified m := hold.1
      exact ⟨by omega, fun heq => by omega⟩
    · have hcount : (s.notifyWaiters t key n arc res).notified m = s.notified m :=
        Function.update_of_ne hm ..
      refine ⟨hcount ▸ hold.1, fun heq => hdue m hm (hold.2 ?_)⟩
      rw [heq, hcount]
  | idle | getRead | getReturned | setStart | setCheck | setUpsert | setRunning | setWrite
  | setNotify | setReturned | dropped => trivial

theorem checkEntry_awaits (s : State K V E) (key : K) (n : NotifyId) (id : BitVec 32) :
    Awaits s (s.checkEntry key n id) := by
  unfold State.checkEntry
  split
  · split <;> trivial
  · trivial

/-- A `get` between two rounds relies on nothing, for it will look at the map again. -/
theorem nextRound_awaits (s : State K V E) (key : K) (round : Nat) :
    Awaits s (State.nextRound key round) := by
  unfold State.nextRound
  split <;> trivial

variable [DecidableEq K]

/-- Every step that meets the conditions keeps everybody who waits covered. That nobody is dropped
matters for debts: a `set` that is dropped never pays. -/
theorem Waiting.step {s s' : State K V E} {a : Act K V E} (h : Waiting s) (howned : Owned s)
    (hun : Uncancelled s a) (hcond : NotifiesAll s a) (hstep : Step s a s') : Waiting s' := by
  -- only the step that notifies could leave somebody behind, and it has to notify all
  cases hstep with
  | get hc | set hc => exact h.move rfl rfl (by rw [hc]; nofun) trivial
  | @read t key round hc =>
    exact h.move rfl rfl (by rw [hc]; nofun) (howned.readEntry key round)
  | @park t key round n hc =>
    have hdue : Awaits s (.getCloned key round n) := hc ▸ h t
    exact h.move rfl rfl (by rw [hc]; nofun) ⟨Nat.le_refl _, fun _ => hdue⟩
  | wake hc hn => exact h.move rfl rfl (by rw [hc]; nofun) (nextRound_awaits s _ _)
  | begin hc => exact h.move rfl rfl (by rw [hc]; nofun) trivial
  | check hc => exact h.move rfl rfl (by rw [hc]; nofun) (checkEntry_awaits s _ _ _)
  | upsert hc => exact h.move rfl rfl (by rw [hc]; nofun) trivial
  | resolve hc | write hc => exact h.move rfl rfl (by rw [hc]; exact fun _ hn => hn) trivial
  | @notify t key n arc res hc => exact h.notify hc (hcond t key n arc res rfl hc)
  | @drop t hc => exact absurd rfl (hun t)

/-- So it is in every state of such a run, where entries are owned since nothing is dropped. -/
theorem waiting_of_run {as : List (Act K V E)} {s : State K V E}
    (run : (system K V E).RunUnder (fun s a => Uncancelled s a ∧ NotifiesAll s a) as s) :
    Waiting s := by
  refine run.invariant (fun _ => trivial) ?_
  intro as s a s' run hwait hcond hstep
  have howned : Owned s :=
    owned_of_run (run.mono fun _ _ h t _ _ hdrop => absurd hdrop (h.1 t))
  exact hwait.step howned hcond.1 hcond.2 (step_cases hstep)

/-! ## No lost wake-up

The window is between the clone of a `Notify` and the `Notified` made of it. A notification inside
it wakes nobody, and no permit is left for the `get` that comes late. -/

/-- A `set` that notifies past a `get` with a clone of its `Notify` strands that `get`: it parks on
a count that has just moved on, and nobody will move it again. -/
theorem stranded_of_clone {s : State K V E} (hheld : Held (Call.notify ∘ s.calls) s.nextNotify)
    {t t' : TaskId} {key key' : K} {round : Nat} {n : NotifyId} {arc : ArcId}
    {res : Except (StoreError E) Unit} (hc : s.calls t = .setNotify key n arc res)
    (hc' : s.calls t' = .getCloned key' round n) :
    ∃ s₁ s₂, step s (.advance t) = some s₁ ∧ step s₁ (.advance t') = some s₂ ∧
      ¬ NoLostWakeup s₂ := by
  have hne : t' ≠ t := by rintro rfl; rw [hc] at hc'; cases hc'
  let s₁ := s.notifyWaiters t key n arc res
  have hc₁ : s₁.calls t' = .getCloned key' round n := (Function.update_of_ne hne ..).trans hc'
  let s₂ := s₁.setCall t' (.getParked key' round n (s₁.notified n))
  refine ⟨s₁, s₂, by simp only [step, State.advance, hc, s₁],
    by simp only [step, State.advance, hc₁, s₂], fun hno => ?_⟩
  have hpark : s₂.ParkedOn t' n :=
    ⟨key', round, s₁.notified n, Function.update_self .., Nat.lt_irrefl _⟩
  obtain ⟨o, ho⟩ := hno t' n hpark
  -- whoever still owed a notification of `n` would have been `t` itself
  -- nobody is left who could notify: not the waiting call, not `t`, and no third one
  by_cases hot' : o = t'
  · subst hot'; simp [s₂, State.setCall, Call.owes] at ho
  by_cases hot : o = t
  · subst hot
    simp [s₂, State.setCall, Function.update_of_ne hne.symm, s₁, State.notifyWaiters,
      Call.owes] at ho
  · simp only [s₂, State.setCall, Function.update_of_ne hot', s₁, State.notifyWaiters,
      Function.update_of_ne hot] at ho
    exact hot (hheld.unique o t n (Call.notify_of_owes ho) (by simp [hc, Call.notify]))

/-- **No lost wake-up, exactly while every `set` notifies all it has to.** In every run
without cancellation in which no `set` notifies while a `get` holds a clone of its `Notify`
without a `Notified`, every parked `get` has its wake-up coming; and in any run without
cancellation, a step that breaks the condition is followed by one that leaves a `get` parked
with no wake-up to come. -/
theorem no_lost_wakeup_iff_notifies_all :
    (∀ (as : List (Act K V E)) s,
      (system K V E).RunUnder (fun s a => Uncancelled s a ∧ NotifiesAll s a) as s →
        NoLostWakeup s) ∧
    (∀ (as : List (Act K V E)) s a, (system K V E).RunUnder Uncancelled as s →
      ¬ NotifiesAll s a →
      ∃ s₁ b s₂, Uncancelled s a ∧ Uncancelled s₁ b ∧ step s a = some s₁ ∧
        step s₁ b = some s₂ ∧ ¬ NoLostWakeup s₂) := by
  refine ⟨fun as s run => (waiting_of_run run).noLostWakeup, ?_⟩
  intro as s a run hcond
  simp only [NotifiesAll, not_forall, not_not] at hcond
  obtain ⟨t, key, n, arc, res, rfl, hc, t', key', round, hc'⟩ := hcond
  obtain ⟨s₁, s₂, h₁, h₂, hlost⟩ := stranded_of_clone (notify_held run.run) hc hc'
  exact ⟨s₁, .advance t', s₂, nofun, nofun, h₁, h₂, hlost⟩

/-- A `get` on key 7 clones the `Notify` of a running `set`; the `set` ends; the `get` parks. -/
def cloneNotifyPark : List (Act Nat Nat Unit) :=
  [.set 0 7, .advance 0, .advance 0, .advance 0, .get 1 7, .advance 1, .resolve 0 (.ok 123),
    .advance 0, .advance 0, .advance 1]

/-- The `get` waits for a `set` that has returned. It took its clone before the notification and
made its `Notified` after it, so that there is nothing that would wake it. -/
theorem wakeup_lost :
    ∃ s, (system Nat Nat Unit).RunUnder Uncancelled cloneNotifyPark s ∧ s.ParkedOn 1 0 ∧
      s.calls 0 = .setReturned 7 (.ok ⟨1⟩) ∧ ¬ NoLostWakeup s := by
  let s := ((system Nat Nat Unit).exec cloneNotifyPark).get (by decide)
  have hrun : (system Nat Nat Unit).Run cloneNotifyPark s := System.run_of_exec (by simp [s])
  have hpark : s.ParkedOn 1 0 := ⟨7, 1, 1, rfl, Nat.lt_irrefl 1⟩
  refine ⟨s, .of_mem hrun fun _ a ha t hdrop => by simp [hdrop, cloneNotifyPark] at ha, hpark, rfl,
    fun hno => ?_⟩
  obtain ⟨o, ho⟩ := hno 1 0 hpark
  -- of the three kinds of calls none owes a notification
  by_cases h₀ : o = 0
  · subst h₀; cases ho
  by_cases h₁ : o = 1
  · subst h₁; cases ho
  · rw [calls_idle_of_absent hrun
      (by simp [cloneNotifyPark, Act.task, Ne.symm h₀, Ne.symm h₁])] at ho
    cases ho

/-- A `get` on key 7 that parks before the running `set` ends. -/
def clonePark : List (Act Nat Nat Unit) :=
  [.set 0 7, .advance 0, .advance 0, .advance 0, .get 1 7, .advance 1, .advance 1]

/-- Nothing is dropped and nothing notified. -/
def quiet (s : State Nat Nat Unit) : Act Nat Nat Unit → Bool
  | .advance t => match s.calls t with
    | .setNotify .. => false
    | _ => true
  | .drop _ => false
  | _ => true

/-- No `set` has notified yet, so the condition is met, and the notification is still to come. -/
theorem no_lost_wakeup_clonePark :
    ∃ s, (system Nat Nat Unit).Run clonePark s ∧ s.ParkedOn 1 0 ∧ NoLostWakeup s := by
  let s := (((system Nat Nat Unit).guarded quiet).exec clonePark).get (by decide)
  have hunder : (system Nat Nat Unit).RunUnder (fun s a => Uncancelled s a ∧ NotifiesAll s a)
      clonePark s := by
    refine .of_guarded (c := quiet) (fun s a hq => ⟨?_, ?_⟩) (by simp [s])
    · rintro t rfl
      simp [quiet] at hq
    · rintro t key n arc res rfl hc
      simp [quiet, hc] at hq
  exact ⟨s, hunder.run, ⟨7, 1, 0, rfl, Nat.lt_irrefl 0⟩,
    no_lost_wakeup_iff_notifies_all.1 _ _ hunder⟩

end UnifyAir.TokenStore
