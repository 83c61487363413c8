import UnifyAir.Concurrency.Allocation
import UnifyAir.TokenStore.Entries

/-!
# UnifyAir — who answers for an `Updating` entry of the `TokenStore`

A `set` installs `Updating(n)` with a `Notify` of its own and is expected to replace it by a
result. Nothing but that call ever does so: another `set` returns early as long as the entry
is there, so an entry whose `set` is gone stays `Updating` for good.

* **`notify_held`** — no two `set`s share a `Notify`.
* **`Owned`** — every `Updating(n)` entry has a live `set` that created `n` and has not yet
  written its result.
* **`never_stuck_iff_drops_safe`** — a run keeps `Owned`, and with it the admission of a new
  `set` on a key nobody updates, exactly when no `set` is dropped while its own `Updating`
  entry is in the map.
* **`stuck_after_drop`** — the schedule of one `set` dropped on its future.
-/

namespace UnifyAir.TokenStore

open Concurrency

variable {K V E : Type}

/-! ## Each `set` has a `Notify` of its own

A `Notify` is known by the `set` that made it, and this is how an entry in the map is traced back to
its call. The rules of `Concurrency.Held` do the counting. -/

/-- The `Notify` a live `set` has created. -/
def Call.notify : Call K V E → Option NotifyId
  | .setCheck _ n _ | .setUpsert _ n _ | .setRunning _ n _ | .setWrite _ n _ _
  | .setNotify _ n _ _ => some n
  | _ => none

/-- A check keeps the `Notify` that the call has made, if the call goes on at all. -/
theorem checkEntry_notify {s : State K V E} {key : K} {n m : NotifyId} {id : BitVec 32}
    (h : (s.checkEntry key n id).notify = some m) : n = m := by
  unfold State.checkEntry at h
  split at h
  · split at h <;> simp_all [Call.notify]
  · simpa [Call.notify] using h

/-- A `get` makes no `Notify`; it clones those of others. -/
theorem readEntry_notify (s : State K V E) (key : K) (round : Nat) :
    (s.readEntry key round).notify = none := by
  unfold State.readEntry
  split
  · rfl
  · split <;> rfl

theorem nextRound_notify (key : K) (round : Nat) :
    (State.nextRound key round : Call K V E).notify = none := by
  unfold State.nextRound
  split <;> rfl

section

variable [DecidableEq K]

/-- A step gives no call a `Notify` it did not have, but for the new one of `begin`. So all that the
counter has to be compared with is one step. -/
theorem Step.notify_kept {s s' : State K V E} {a : Act K V E} (h : Step s a s') :
    (∀ o n, (s'.calls o).notify = some n → (s.calls o).notify = some n) ∧
        s'.nextNotify = s.nextNotify ∨
      ∃ t, Call.notify ∘ s'.calls
          = Function.update (Call.notify ∘ s.calls) t (some s.nextNotify) ∧
        s'.nextNotify = s.nextNotify + 1 := by
  -- what the call that moves goes by afterwards, it went by before
  have moved : ∀ {t : TaskId} {c : Call K V E},
      (∀ n, c.notify = some n → (s.calls t).notify = some n) →
      ∀ o n, (Function.update s.calls t c o).notify = some n → (s.calls o).notify = some n := by
    intro t c hc o n ho
    exact of_update (fun c : Call K V E => c.notify = some n) (hc n) ho
  -- a new `Notify` is made by `set` alone, and goes to it
  cases h with
  | @begin t key hc =>
    refine Or.inr ⟨t, ?_, rfl⟩
    simp only [State.begin, Function.comp_update]
    rfl
  | @read t key round hc =>
    exact Or.inl ⟨moved fun n hn => by simp [readEntry_notify] at hn, rfl⟩
  | @wake t key round n seen hc hn =>
    exact Or.inl ⟨moved fun n hn => by simp [nextRound_notify] at hn, rfl⟩
  | @check t key n id hc =>
    exact Or.inl ⟨moved fun m hm => by rw [hc, ← checkEntry_notify hm]; rfl, rfl⟩
  | upsert hc | resolve hc | write hc =>
    exact Or.inl ⟨moved fun m hm => by rw [hc]; exact hm, rfl⟩
  | get | set | park | notify | drop => exact Or.inl ⟨moved nofun, rfl⟩

/-- No two live `set`s share a `Notify`, since each takes the next one of a counter that only grows.
-/
theorem notify_held {as : List (Act K V E)} {s : State K V E} (run : (system K V E).Run as s) :
    Held (Call.notify ∘ s.calls) s.nextNotify := by
  refine run.invariant (P := fun s => Held (Call.notify ∘ s.calls) s.nextNotify) (.none _) ?_
  intro as s a s' _ hheld _ hstep
  rcases (step_cases hstep).notify_kept with ⟨hkeep, hnext⟩ | ⟨t, hcalls, hnext⟩
  · rw [hnext]; exact hheld.keep hkeep
  · rw [hnext, hcalls]; exact hheld.alloc t

end

/-! ## Owned entries

An `Updating` entry is a promise that somebody will write a result. Its owner is the `set` that made
it, recognised by the `Notify` in the entry. -/

/-- The key and the `Notify` of a `set` that has installed its `Updating` entry and not yet
written its result. -/
def Call.updates : Call K V E → Option (K × NotifyId)
  | .setRunning key n _ | .setWrite key n _ _ => some (key, n)
  | _ => none

/-- A `set` that has installed its entry has made a `Notify`, the one in the entry. -/
theorem Call.notify_of_updates {c : Call K V E} {key : K} {n : NotifyId}
    (h : c.updates = some (key, n)) : c.notify = some n := by
  cases c with
  | setRunning | setWrite => cases h; rfl
  | idle | getRead | getCloned | getParked | getReturned | setStart | setCheck | setUpsert
  | setNotify | setReturned | dropped => cases h

/-- The entry of `key` is `Updating(n)`. -/
def State.UpdatingBy (s : State K V E) (key : K) (n : NotifyId) : Prop :=
  ∃ arc id, s.entry key = some (arc, ⟨id, .updating n⟩)

/-- Every `Updating(n)` entry has a live `set` that created `n` and still has to write its
result. -/
def Owned (s : State K V E) : Prop :=
  ∀ key n, s.UpdatingBy key n → ∃ o, (s.calls o).updates = some (key, n)

/-- A step that adds no `Updating` entry and takes no `set` out of its update. Whoever owned an
entry owns it still. -/
theorem Owned.keep {s s' : State K V E} (h : Owned s)
    (hentry : ∀ key n, s'.UpdatingBy key n → s.UpdatingBy key n)
    (hcalls : ∀ o key n, s'.UpdatingBy key n → (s.calls o).updates = some (key, n) →
      (s'.calls o).updates = some (key, n)) : Owned s' := by
  intro key n hupd
  obtain ⟨o, ho⟩ := h key n (hentry key n hupd)
  exact ⟨o, hcalls o key n hupd ho⟩

/-- The key a live `set` works on. -/
def Call.setKey : Call K V E → Option K
  | .setStart key | .setCheck key _ _ | .setUpsert key _ _ | .setRunning key _ _
  | .setWrite key _ _ _ | .setNotify key _ _ _ => some key
  | _ => none

theorem Call.setKey_of_updates {c : Call K V E} {key : K} {n : NotifyId}
    (h : c.updates = some (key, n)) : c.setKey = some key := by
  cases c with
  | setRunning | setWrite => cases h; rfl
  | idle | getRead | getCloned | getParked | getReturned | setStart | setCheck | setUpsert
  | setNotify | setReturned | dropped => cases h

/-! ## Every step keeps its entries owned

The steps that need care are the three that touch the map or end an update: an upsert brings an
entry and its owner, a write takes both away, and a drop takes the owner away and leaves the entry.
-/

/-- A step that only moves a call that updates nothing. It owned no entry, so none is missing its
owner. -/
theorem Owned.setCall {s : State K V E} (h : Owned s) {t : TaskId} (c : Call K V E)
    (hc : (s.calls t).updates = none) : Owned (s.setCall t c) := by
  refine h.keep (fun _ _ hupd => hupd) fun o key n _ ho => ?_
  have hot : o ≠ t := fun hot => by simp [hot, hc] at ho
  simpa only [State.setCall, Function.update_of_ne hot] using ho

/-- The condition on a step: a `set` is not dropped while its own `Updating` entry is in the
map. -/
def DropsSafe (s : State K V E) (a : Act K V E) : Prop :=
  ∀ t key n, a = .drop t → (s.calls t).updates = some (key, n) → ¬ s.UpdatingBy key n

variable [DecidableEq K]

/-- Every step that meets the condition keeps every entry owned. The condition is used for drops
alone. -/
theorem Owned.step {as : List (Act K V E)} {s s' : State K V E} {a : Act K V E}
    (hsrc : Sourced as s) (h : Owned s) (hcond : DropsSafe s a) (hstep : Step s a s') :
    Owned s' := by
  cases hstep with
  | get hc | set hc | read hc | park hc | wake hc | check hc => exact h.setCall _ (by rw [hc]; rfl)
  | @begin t key hc => exact h.setCall (s := s) _ (by rw [hc]; rfl)
  | @notify t key n arc res hc => exact h.setCall (s := s) _ (by rw [hc]; rfl)
  | @upsert t key n id hc =>
    rintro key' n' ⟨arc, id', hentry⟩
    by_cases hk : key' = key
    · -- the new entry is the one `t` answers for
      subst hk
      rw [upsert_entry_self] at hentry
      cases hentry
      exact ⟨t, by simp [State.upsert, Call.updates]⟩
    · rw [upsert_entry_of_ne hsrc t n id hk] at hentry
      obtain ⟨o, ho⟩ := h key' n' ⟨arc, id', hentry⟩
      have hot : o ≠ t := fun hot => by simp [hot, hc, Call.updates] at ho
      exact ⟨o, by simpa only [State.upsert, Function.update_of_ne hot] using ho⟩
  | @resolve t key n id res hc =>
    refine h.keep (fun key' n' hupd => ?_) fun o key' n' _ ho => ?_
    · obtain ⟨arc, id', hentry⟩ := hupd
      rw [entry_of_grown hsrc (s.resolveFuture t key n id res) rfl (List.prefix_append _ _) key']
        at hentry
      exact ⟨arc, id', hentry⟩
    · refine to_update (fun c : Call K V E => c.updates = some (key', n')) (fun hold => ?_) ho
      rw [hc] at hold
      exact hold
  | @write t key n arc res hc =>
    -- the key that was written is no longer `Updating`
    have hne : ∀ key' n', (s.write t key n arc res).UpdatingBy key' n' → key' ≠ key := by
      rintro key' n' ⟨arc', id', hentry⟩ rfl
      exact write_not_updating hsrc hc ⟨arc', _, hentry, rfl⟩
    refine h.keep (fun key' n' hupd => ?_) fun o key' n' hupd ho => ?_
    · have hk := hne key' n' hupd
      obtain ⟨arc', id', hentry⟩ := hupd
      rw [write_entry_of_ne s t n arc res hk] at hentry
      exact ⟨arc', id', hentry⟩
    · -- `t` updated `key`, so the owner of another key's entry is another call
      have hot : o ≠ t := by
        rintro rfl
        simp only [hc, Call.updates, Option.some.injEq, Prod.mk.injEq] at ho
        exact hne key' n' hupd ho.1.symm
      simpa only [State.write, Function.update_of_ne hot] using ho
  | @drop t hc =>
    refine h.keep (fun _ _ hupd => hupd) fun o key n hupd ho => ?_
    have hot : o ≠ t := by
      rintro rfl
      exact hcond o key n rfl ho hupd
    simpa only [State.setCall, Function.update_of_ne hot] using ho

theorem owned_init : Owned (system K V E).init := by
  rintro key n ⟨arc, id, hentry⟩
  cases hentry

/-- As long as drops are safe, every `Updating` entry has its owner. -/
theorem owned_of_run {as : List (Act K V E)} {s : State K V E}
    (run : (system K V E).RunUnder DropsSafe as s) : Owned s := by
  refine run.invariant owned_init ?_
  intro as s a s' run howned hcond hstep
  exact howned.step (sourced_of_run run.run) hcond (step_cases hstep)

/-! ## Never stuck

What follows for callers: a key that nobody works on can be updated again. And the condition is
exact, for an entry whose owner was dropped is never owned again. -/

/-- A `set` on `key` by a task that is idle now passes its check. -/
def State.Admits (s : State K V E) (t : TaskId) (key : K) : Prop :=
  ∃ s₁ s₂ s₃ n id, step s (.set t key) = some s₁ ∧ step s₁ (.advance t) = some s₂ ∧
    step s₂ (.advance t) = some s₃ ∧ s₃.calls t = .setUpsert key n id

/-- No entry is stuck: an `Updating` entry is owned, and a key no live `set` works on has no
`Updating` entry and admits a new `set`. -/
def NeverStuck (s : State K V E) : Prop :=
  Owned s ∧ ∀ key, (∀ o, (s.calls o).setKey ≠ some key) →
    ¬ s.Updating key ∧ ∀ t, s.calls t = .idle → s.Admits t key

/-- A `set` on a key with no `Updating` entry passes its check. Three steps of it are taken, with
nobody else in between. -/
theorem admits_of_not_updating {s : State K V E} {t : TaskId} {key : K} (hidle : s.calls t = .idle)
    (hfree : ¬ s.Updating key) : s.Admits t key := by
  let s₁ := s.setCall t (.setStart key)
  let s₂ := s₁.begin t key
  let id := s.tokenCounter.increment.1
  have hc₁ : s₁.calls t = .setStart key := Function.update_self ..
  have hc₂ : s₂.calls t = .setCheck key s.nextNotify id := Function.update_self ..
  have hpass : s₂.checkEntry key s.nextNotify id = .setUpsert key s.nextNotify id := by
    unfold State.checkEntry
    split
    · next arc ts hentry =>
      split
      · next hupd => exact absurd ⟨arc, ts, hentry, hupd⟩ hfree
      · rfl
    · rfl
  -- three steps of a call that nobody disturbs
  refine ⟨s₁, s₂, s₂.setCall t (.setUpsert key s.nextNotify id), s.nextNotify, id, ?_, ?_, ?_, ?_⟩
  · simp only [step, hidle, s₁]
  · simp only [step, State.advance, hc₁, s₂]
  · simp only [step, State.advance, hc₂, hpass]
  · simp only [State.setCall, Function.update_self]

/-- If every entry has its owner then a key without a live `set` has none, and admits a new `set`.
-/
theorem Owned.neverStuck {s : State K V E} (h : Owned s) : NeverStuck s := by
  refine ⟨h, fun key hnone => ?_⟩
  have hfree : ¬ s.Updating key := by
    rintro ⟨arc, ⟨id, state⟩, hentry, hupd⟩
    cases state with
    | updating n =>
      obtain ⟨o, ho⟩ := h key n ⟨arc, id, hentry⟩
      exact hnone o (Call.setKey_of_updates ho)
    | ready | failed => simp [TokenState.isUpdating] at hupd
  exact ⟨hfree, fun t hidle => admits_of_not_updating hidle hfree⟩

/-- A drop that breaks the condition leaves an entry without an owner: another owner would have the
same `Notify`, and no two `set`s share one. -/
theorem dropsSafe_of_owned {as : List (Act K V E)} {s s' : State K V E} {a : Act K V E}
    (run : (system K V E).Run as s) (hstep : step s a = some s') (h : Owned s') :
    DropsSafe s a := by
  rintro t key n rfl hupdates hupd
  have hs' : s' = s.setCall t .dropped := by
    simp only [step] at hstep
    split at hstep
    · exact (Option.some.inj hstep).symm
    · cases hstep
  subst hs'
  obtain ⟨o, ho⟩ := h key n hupd
  -- the one who answers for the key is this call or another one
  by_cases hot : o = t
  · subst hot
    simp [State.setCall, Call.updates] at ho
  · -- the other owner would share the `Notify` of `t`
    simp only [State.setCall, Function.update_of_ne hot] at ho
    exact hot ((notify_held run).unique o t n (Call.notify_of_updates ho)
      (Call.notify_of_updates hupdates))

/-- **Never stuck, exactly while drops are safe.** In a run of the store no entry is ever stuck in
`Updating` if and only if no step of the run drops a `set` while its own `Updating` entry is in the
map. It is the rule for an invariant that a condition keeps and that is lost without it. -/
theorem never_stuck_iff_drops_safe {as : List (Act K V E)} {s : State K V E}
    (run : (system K V E).Run as s) :
    (∀ pre t, pre <+: as → (system K V E).Run pre t → NeverStuck t) ↔
      (system K V E).RunUnder DropsSafe as s := by
  refine System.runUnder_iff_always owned_init.neverStuck ?_ ?_ run
  · intro as s a s' run hnever hcond hstep
    exact (hnever.1.step (sourced_of_run run) hcond (step_cases hstep)).neverStuck
  · intro as s a s' run _ hstep hnever
    exact dropsSafe_of_owned run hstep hnever.1

/-- A `set` on key 7 that is dropped while it awaits its future. -/
def setDropped : List (Act Nat Nat Unit) :=
  [.set 0 7, .advance 0, .advance 0, .advance 0, .drop 0]

/-- No `set` works on key 7 any more, its entry is `Updating`, and a new `set` is turned away. -/
theorem stuck_after_drop :
    ∃ s s', (system Nat Nat Unit).Run setDropped s ∧ s.UpdatingBy 7 0 ∧
      (∀ o, (s.calls o).setKey ≠ some 7) ∧ ¬ NeverStuck s ∧
      (system Nat Nat Unit).Run (setDropped ++ [.set 1 7, .advance 1, .advance 1]) s' ∧
      s'.calls 1 = .setReturned 7 (.error (.updateAlredyInProgress 1)) := by
  let s := ((system Nat Nat Unit).exec setDropped).get (by decide)
  let s' := ((system Nat Nat Unit).exec
    (setDropped ++ [.set 1 7, .advance 1, .advance 1])).get (by decide)
  have hrun : (system Nat Nat Unit).Run setDropped s := System.run_of_exec (by simp [s])
  have hupd : s.UpdatingBy 7 0 := ⟨0, 1, rfl⟩
  have hnone : ∀ o, (s.calls o).setKey ≠ some 7 := by
    intro o
    by_cases ho : o = 0
    · subst ho
      exact show (none : Option Nat) ≠ some 7 by decide
    · rw [calls_idle_of_absent hrun (t := o) (by simp [setDropped, Act.task, Ne.symm ho])]
      simp [Call.setKey]
  refine ⟨s, s', hrun, hupd, hnone, fun h => ?_, System.run_of_exec (by simp [s']), rfl⟩
  exact (h.2 7 hnone).1 ⟨0, _, rfl, rfl⟩

/-- A `set` on key 7 that is dropped in `upsert_async`. -/
def setDroppedEarly : List (Act Nat Nat Unit) :=
  [.set 0 7, .advance 0, .advance 0] ++ [.drop 0]

/-- A drop is safe as long as nothing has been installed, so that this one leaves nothing behind. -/
theorem never_stuck_setDroppedEarly :
    ∃ s, (system Nat Nat Unit).Run setDroppedEarly s ∧ s.calls 0 = .dropped ∧ NeverStuck s := by
  let s₀ := ((system Nat Nat Unit).exec [.set 0 7, .advance 0, .advance 0]).get (by decide)
  have hrun₀ : (system Nat Nat Unit).Run [.set 0 7, .advance 0, .advance 0] s₀ :=
    System.run_of_exec (by simp [s₀])
  have hunder₀ : (system Nat Nat Unit).RunUnder DropsSafe _ s₀ :=
    .of_mem hrun₀ fun _ a ha t _ _ hdrop => by simp [hdrop] at ha
  have hunder : (system Nat Nat Unit).RunUnder DropsSafe setDroppedEarly
      (s₀.setCall 0 .dropped) := by
    refine .snoc hunder₀ (fun t key n hdrop hupdates => ?_) rfl
    cases hdrop
    cases hupdates
  exact ⟨_, hunder.run, rfl, (never_stuck_iff_drops_safe hunder.run).mpr hunder _ _
    (List.prefix_refl _) hunder.run⟩

end UnifyAir.TokenStore
