import UnifyAir.Manager.Delivery
import UnifyAir.Manager.Places

/-!
# UnifyAir — what `change_id` does to the contexts of a manager

`change_id` takes a context queue out of the map, inserts it under the new id, and when that id
is taken inserts it under the old one again, without a look at the result. Between two of
these steps any other call may use the keys.

* **`conserved_iff_restores_free`** — no context is lost, exactly in the runs whose restoring
  inserts all find the old id free.
* **`lost_by_restore`** — an `add_context` under the old id slips in, and the context of the
  failed `change_id` is gone.
* **`keyed_iff_own_ids`** — every context is under its own id, exactly in the runs in which no
  context is stored under a new id: `change_id` writes the key and not the context.
* **`unkeyed_after_change_id`** — a single `change_id`.
-/

namespace UnifyAir.Manager

open Concurrency

variable {K T O : Type}

/-- A call that is not under way: it has not been made, or it has returned or panicked. A call
dropped by its caller has not returned. -/
def Call.over : Call K T O → Bool
  | .idle | .withReturned _ | .recvPanicked | .addReturned _ | .addPanicked | .changeReturned _ =>
    true
  | _ => false

/-- A call that is over has nothing in its hands. -/
theorem inHand_of_over {c : Call K T O} (h : c.over = true) : c.inHand = none := by
  cases c <;> first | rfl | cases h

variable [DecidableEq K] [Identifiable T K]

/-! ## The calls of a step

What a step can do to a call, for the calls that this module is about. Each lemma is an inversion of
`Step` at one program counter. -/

theorem Step.dropped_stays {s s' : State K T O} {a : Act K T O} (h : Step s a s') {t : TaskId}
    (ht : s.calls t = .dropped) : s'.calls t = .dropped := by
  cases h with
  | lockProcessor | stop | pop | start | complete | send | again | exit | panic | mutate
  | dropGuard => exact ht
  | drop => exact to_update (fun c : Call K T O => c = .dropped) (fun _ => rfl) ht
  | withContext hc | addContext hc | changeId hc | read hc | schedule hc | lockCaller hc
  | pushBack hc | load hc | storeActive hc | spawn hc | unlockCaller hc | receive hc
  | addFailed hc | addStored hc | changeMissing hc | changeRemoved hc | changeConflict hc
  | changeStored hc | restoreFailed hc | restored hc =>
    refine to_update (fun c : Call K T O => c = .dropped) (fun hd => ?_) ht
    rw [hd] at hc
    cases hc

/-- A queue to be added was to be added before the step, or has just been made. No other call leads
there. -/
theorem Step.addInsert_new {s s' : State K T O} {a : Act K T O} (h : Step s a s') {t : TaskId}
    {id : K} {q : QueueId} (ht : s'.calls t = .addInsert id q) :
    s.calls t = .addInsert id q ∨ ∃ ctx, a = .addContext t ctx ∧ s.calls t = .idle ∧
      s' = s.newQueue t ctx ∧ id = Identifiable.id ctx ∧ q = s.nextQueue := by
  have hempty : ∀ {t' : TaskId} {c : Call K T O} {P : Prop}, c.inHand = none →
      Function.update s.calls t' c t = .addInsert id q → s.calls t = .addInsert id q ∨ P := by
    intro t' c P hc hupd
    rcases update_cases hupd with ⟨-, rfl⟩ | ⟨-, hold⟩
    · cases hc
    · exact Or.inl hold
  -- only `add_context` puts a new queue into a hand for its insert
  cases h with
  | lockProcessor | stop | pop | start | complete | send | again | exit | panic | mutate
  | dropGuard => exact Or.inl ht
  | @addContext t' ctx hc =>
    rcases update_cases ht with ⟨rfl, hnew⟩ | ⟨-, hold⟩
    · cases hnew
      exact Or.inr ⟨ctx, rfl, hc, rfl, rfl, rfl⟩
    · exact Or.inl hold
  | changeRemoved | changeConflict =>
    rcases update_cases ht with ⟨-, hnew⟩ | ⟨-, hold⟩
    · cases hnew
    · exact Or.inl hold
  | read => exact hempty (readQueue_inHand ..) ht
  | load => exact hempty (loadActive_inHand ..) ht
  | receive _ hrecv => exact hempty (receive_inHand hrecv) ht
  | @addFailed _ id q => exact hempty (by rw [insertFailed_eq s id q]; rfl) ht
  | withContext | changeId | schedule | lockCaller | pushBack | storeActive | spawn | unlockCaller
  | addStored | changeMissing | changeStored | restoreFailed | restored | drop =>
    exact hempty rfl ht

/-- The insert of an `add_context` call, under a free id and under one that is taken. In the second
case the call still has the queue in its hand, and the branch that hands it back is not reached. -/
theorem Step.addInsert_cases {s s' : State K T O} {t : TaskId} {id : K} {q : QueueId}
    (h : Step s (.caller t) s') (hc : s.calls t = .addInsert id q) :
    (s.queues id = none ∧ s' = s.store t id q (.addReturned (.ok ()))) ∨
      (s.queues id ≠ none ∧ s' = s.setCall t .addPanicked) := by
  cases h with
  | addStored hc' hkey =>
    rw [hc] at hc'
    cases hc'
    exact .inl ⟨hkey, rfl⟩
  | addFailed hc' hkey =>
    rw [hc] at hc'
    cases hc'
    refine .inr ⟨?_, by rw [insertFailed_eq]⟩
    rw [hkey]
    exact Option.some_ne_none _
  | read hc' | schedule hc' | lockCaller hc' | pushBack hc' | load hc' | storeActive hc'
  | spawn hc' | unlockCaller hc' | receive hc' | changeMissing hc' | changeRemoved hc'
  | changeConflict hc' | changeStored hc' | restoreFailed hc' | restored hc' =>
    rw [hc] at hc'
    cases hc'

/-- An `add_context` call that returns `Ok` has put its queue under its id. -/
theorem Step.stored_of_added {s s' : State K T O} {t : TaskId} {id : K} {q : QueueId}
    (h : Step s (.caller t) s') (hc : s.calls t = .addInsert id q)
    (hret : s'.calls t = .addReturned (.ok ())) : s'.queues id = some q := by
  rcases h.addInsert_cases hc with ⟨-, rfl⟩ | ⟨-, rfl⟩
  · exact Function.update_self ..
  · have hpanic : (s.setCall t .addPanicked).calls t = .addPanicked := Function.update_self ..
    rw [hpanic] at hret
    cases hret

/-- A call with a queue in its hands that returns an error is a `change_id` call at its
restoring insert. -/
theorem Step.restoring_of_failed {s s' : State K T O} {t : TaskId} {old : K} {q : QueueId}
    {err : ContextError K T} (h : Step s (.caller t) s')
    (hhand : (s.calls t).inHand = some (old, q))
    (hret : s'.calls t = .changeReturned (.error err)) :
    (∃ new, s.calls t = .changeRestore old new q) ∧
      (s.queues old = none → s'.queues old = some q) := by
  have hret' : ∀ {c : Call K T O}, Function.update s.calls t c t = .changeReturned (.error err) →
      c = .changeReturned (.error err) := by
    intro c hupd
    rwa [Function.update_self] at hupd
  -- of all calls only one that restores returns this way with a queue in its hand
  cases h with
  | read hc | schedule hc | lockCaller hc | pushBack hc | load hc | storeActive hc | spawn hc
  | unlockCaller hc | receive hc | changeMissing hc | changeRemoved hc =>
    rw [hc] at hhand
    cases hhand
  | @addFailed _ id q' => cases (insertFailed_eq s id q').symm.trans (hret' hret)
  | addStored | changeConflict | changeStored => cases hret' hret
  -- the old key is taken, so nothing is promised
  | @restoreFailed _ oldId newId q' other hc hkey =>
    rw [hc] at hhand
    cases hhand
    exact ⟨⟨newId, hc⟩, fun hnone => by rw [hkey] at hnone; cases hnone⟩
  | @restored _ oldId newId q' hc =>
    rw [hc] at hhand
    cases hhand
    exact ⟨⟨newId, hc⟩, fun _ => Function.update_self ..⟩

/-! ## Conservation

A queue that was added is at some place until a call loses it. The drop of a call is set apart, and
a failed insert loses a queue that was never added; what is left is the restoring insert. -/

/-- The queue `q` was put into the map by an `add_context` that returned `Ok`. -/
def AddedOk (as : List (Act K T O)) (q : QueueId) : Prop :=
  ∃ pre t id mid mid', pre ++ [.caller t] <+: as ∧ (system K T O).Run pre mid ∧
    mid.calls t = .addInsert id q ∧ (system K T O).step mid (.caller t) = some mid' ∧
    mid'.calls t = .addReturned (.ok ())

/-- No context is lost: when all calls have returned, each queue that was added is under
exactly one key; and when the last step has ended a `change_id` with an error, the queue it had
taken out is under its old key. -/
structure Conserved (as : List (Act K T O)) (s : State K T O) : Prop where
  added : (∀ t, (s.calls t).over = true) → ∀ q, AddedOk as q → ∃! id, s.queues id = some q
  restored : ∀ pre t mid old q err, as = pre ++ [.caller t] → (system K T O).Run pre mid →
    (mid.calls t).inHand = some (old, q) → s.calls t = .changeReturned (.error err) →
    s.queues old = some q

/-- The key under which the next step of a call restores a context. -/
def State.restoring (s : State K T O) : Act K T O → Option K
  | .caller t => match s.calls t with
    | .changeRestore oldId _ _ => some oldId
    | _ => none
  | _ => none

/-- The restoring insert of a `change_id` finds the old key still free. -/
def RestoresFree (s : State K T O) (a : Act K T O) : Prop :=
  ∀ id ∈ s.restoring a, s.queues id = none

instance (s : State K T O) (a : Act K T O) : Decidable (RestoresFree s a) :=
  inferInstanceAs (Decidable (∀ id ∈ s.restoring a, s.queues id = none))

omit [DecidableEq K] [Identifiable T K] in
/-- A step that restores is that of a `change_id` call. -/
theorem restoring_eq_some {s : State K T O} {a : Act K T O} {old : K}
    (h : old ∈ s.restoring a) :
    ∃ t new q, a = .caller t ∧ s.calls t = .changeRestore old new q := by
  unfold State.restoring at h
  split at h
  · next t =>
    split at h
    · next old' new q hc => cases h; exact ⟨t, new, q, rfl, hc⟩
    · cases h
  · cases h

/-- A queue that was added is somewhere, and is not to be added any more. -/
def Kept (as : List (Act K T O)) (s : State K T O) : Prop :=
  ∀ q, AddedOk as q → (∃ t, s.calls t = .dropped) ∨
    (∃ p, s.queueAt p = some q) ∧ ∀ t id, s.calls t ≠ .addInsert id q

/-- A queue was added before the last step, or is added by it. -/
theorem AddedOk.snoc {as : List (Act K T O)} {s s' : State K T O} {a : Act K T O} {q : QueueId}
    (run : (system K T O).Run as s) (hstep : (system K T O).step s a = some s')
    (h : AddedOk (as ++ [a]) q) : AddedOk as q ∨ ∃ id, s'.queues id = some q := by
  obtain ⟨pre, t, id, mid, mid', hpre, hmid, hc, hnext, hret⟩ := h
  rcases List.prefix_concat_iff.mp hpre with heq | hpre
  · obtain ⟨rfl, hlast⟩ := List.append_inj' heq rfl
    cases hlast
    obtain rfl := hmid.eq run
    obtain rfl := Option.some.inj (hnext.symm.trans hstep)
    have hcall : Step mid (.caller t) mid' := step_cases hstep
    exact Or.inr ⟨id, hcall.stored_of_added hc hret⟩
  · exact Or.inl ⟨pre, t, id, mid, mid', hpre, hmid, hc, hnext, hret⟩

/-- A step keeps what was added at some place. `Transfer.stays` lists the ways to lose a queue, and
each is excluded or leaves a dropped call behind. -/
theorem Kept.step {as : List (Act K T O)} {s s' : State K T O} {a : Act K T O} (h : Kept as s)
    (run : (system K T O).Run as s) (hcond : RestoresFree s a)
    (hstep : (system K T O).step s a = some s') : Kept (as ++ [a]) s' := by
  have hmove := (step_cases hstep).transfer
  have hheld := held_of_run run
  have hheld' := hmove.held hheld
  intro q hadded
  rcases hadded.snoc run hstep with hold | ⟨id, hkey⟩
  · -- a queue that is kept, which this step may move
    rcases h q hold with ⟨t, hdropped⟩ | ⟨⟨p, hp⟩, hnew⟩
    · exact Or.inl ⟨t, (step_cases hstep).dropped_stays hdropped⟩
    rcases hmove.stays hp with hplace | ⟨t, rfl, rfl | ⟨id, -, hc, -⟩ | ⟨old, new, other, ha, hc, hkey⟩⟩
    · refine Or.inr ⟨hplace, fun t id ht => ?_⟩
      rcases (step_cases hstep).addInsert_new ht with hc | ⟨-, -, -, -, -, rfl⟩
      · exact hnew t id hc
      · exact absurd (hheld.lt p _ hp) (Nat.lt_irrefl _)
    · -- the call that had it was dropped
      have hdrop : Step s (.drop t) s' := step_cases hstep
      cases hdrop
      exact Or.inl ⟨t, Function.update_self ..⟩
    · exact absurd hc (hnew t id)
    · rw [hcond old (by simp [State.restoring, ha, hc])] at hkey
      cases hkey
  · -- the queue is added by this very step
    have hplace : s'.queueAt (.key id) = some q := queueAt_key.trans hkey
    refine Or.inr ⟨⟨.key id, hplace⟩, fun t id' ht => ?_⟩
    have hhand : s'.queueAt (.call t) = some q := by
      simp [State.queueAt, State.named, ht, Call.inHand]
    cases hheld'.unique _ _ q hplace hhand

theorem kept_of_run {as : List (Act K T O)} {s : State K T O}
    (run : (system K T O).RunUnder RestoresFree as s) : Kept as s := by
  refine run.history (fun q hadded => ?_) fun as s a s' run h hcond hstep =>
    h.step run.run hcond hstep
  obtain ⟨pre, t, _, _, _, hpre, -⟩ := hadded
  have hlen := hpre.length_le
  simp at hlen

/-- When all calls have returned no queue is in a call's hands, so those that were added are under a
key; and under one key only, since a queue has one place. -/
theorem conserved_of_run {as : List (Act K T O)} {s : State K T O}
    (run : (system K T O).RunUnder RestoresFree as s) : Conserved as s := by
  have hheld := held_of_run run.run
  refine ⟨fun hover q hadded => ?_, fun pre t mid old q err has hmid hhand hret => ?_⟩
  · rcases kept_of_run run q hadded with ⟨t, ht⟩ | ⟨⟨p, hp⟩, -⟩
    · have := hover t
      rw [ht] at this
      cases this
    · -- in the map, or in the hand of a call; but the calls are over
      cases p with
      | key id =>
        refine ⟨id, queueAt_key.symm.trans hp, fun id' hid' => ?_⟩
        exact Place.key.inj (hheld.unique _ _ q (queueAt_key.trans hid') hp)
      | call t =>
        obtain ⟨k, hk⟩ := exists_named hp
        have hnone := inHand_of_over (hover t)
        rw [State.named, hnone] at hk
        cases hk
  · subst has
    obtain ⟨mid', hmid', hcond, hstep⟩ := run.unsnoc
    obtain rfl := hmid'.eq hmid
    have hcall : Step mid' (.caller t) s := step_cases hstep
    obtain ⟨⟨new, hc⟩, hrestored⟩ := hcall.restoring_of_failed hhand hret
    exact hrestored (hcond old (by simp [State.restoring, hc]))

/-- **No context is lost, exactly when the old id stays free.** In a run of the manager contexts are
conserved in every state if and only if every restoring insert finds its old key free. -/
theorem conserved_iff_restores_free {as : List (Act K T O)} {s : State K T O}
    (run : (system K T O).Run as s) :
    (∀ pre t, pre <+: as → (system K T O).Run pre t → Conserved pre t) ↔
      (system K T O).RunUnder RestoresFree as s := by
  refine System.Run.always_iff (fun as s hunder => conserved_of_run hunder) ?_ run
  intro as s a s' run hstep hcons old hold
  obtain ⟨t, new, q, rfl, hc⟩ := restoring_eq_some hold
  by_contra hkey
  obtain ⟨other, hother⟩ := Option.ne_none_iff_exists'.mp hkey
  have hhand : s.named (.call t) = some (old, q) := by simp [State.named, hc, Call.inHand]
  have hnext : (system K T O).step s (.caller t) = some (s.setCall t
      (.changeReturned (.error (.contextChangeError .newIdAlreadyExists old new)))) := by
    simp [system, step, State.callStep, hc, State.changeRestore, hother]
  obtain rfl := Option.some.inj (hnext.symm.trans hstep)
  -- the insert has left the map alone, so the queue was under its key before
  have hkept : s.queues old = some q :=
    hcons.restored as t s old q _ rfl run.run hhand (Function.update_self ..)
  cases (held_of_run run.run).unique (.key old) (.call t) q (queueAt_key.trans hkept)
    (queueAt_of_named hhand)

/-- While a `change_id` from 5 to 6 is under way, with the id 6 taken, an `add_context` under
5 slips in between its two inserts. -/
def addBeforeRestore : List (Act Nat Nat Nat) :=
  [.addContext 0 5, .caller 0, .addContext 1 6, .caller 1, .changeId 2 5 6, .caller 2,
    .addContext 3 5, .caller 3, .caller 2, .caller 2]

/-- All calls have returned, and the context that was added first is under no key. `change_id` has
reported that the new id exists, and nothing else. -/
theorem lost_by_restore :
    ∃ s, (system Nat Nat Nat).Run addBeforeRestore s ∧ (∀ t, (s.calls t).over = true) ∧
      AddedOk addBeforeRestore 0 ∧ (∀ id, s.queues id ≠ some 0) ∧
      ¬ Conserved addBeforeRestore s := by
  let s := ((system Nat Nat Nat).exec addBeforeRestore).get (by decide)
  have hrun : (system Nat Nat Nat).Run addBeforeRestore s := System.run_of_exec (by simp [s])
  have hover : ∀ t, (s.calls t).over = true
    | 0 | 1 | 2 | 3 | _ + 4 => rfl
  have hadded : AddedOk addBeforeRestore 0 := by
    let mid := ((system Nat Nat Nat).exec [.addContext 0 5]).get (by decide)
    let mid' := ((system Nat Nat Nat).exec [.addContext 0 5, .caller 0]).get (by decide)
    exact ⟨[.addContext 0 5], 0, 5, mid, mid', by decide, System.run_of_exec (by simp [mid]), rfl,
      rfl, rfl⟩
  have hlost : ∀ id, s.queues id ≠ some 0
    | 0 | 1 | 2 | 3 | 4 | 5 | 6 => by decide
    | _ + 7 => nofun
  refine ⟨s, hrun, hover, hadded, hlost, fun hcons => ?_⟩
  obtain ⟨id, hid, -⟩ := hcons.added hover 0 hadded
  exact hlost id hid

/-- The same without the `add_context` in between. -/
def changeAndRestore : List (Act Nat Nat Nat) :=
  [.addContext 0 5, .caller 0, .addContext 1 6, .caller 1, .changeId 2 5 6, .caller 2, .caller 2,
    .caller 2]

/-- With nobody in between, the context is back under its old key. -/
theorem conserved_changeAndRestore :
    ∃ s, (system Nat Nat Nat).Run changeAndRestore s ∧ s.queues 5 = some 0 ∧
      Conserved changeAndRestore s := by
  let s := (((system Nat Nat Nat).guarded fun s a => decide (RestoresFree s a)).exec
    changeAndRestore).get (by decide)
  have hrun : (system Nat Nat Nat).RunUnder RestoresFree changeAndRestore s :=
    .of_decide (by simp [s])
  exact ⟨s, hrun.run, rfl,
    (conserved_iff_restores_free hrun.run).mpr hrun _ _ (List.prefix_refl _) hrun.run⟩

/-! ## Keys and ids

`change_id` changes the key of a context and never its `id`. A context in the hands of a call goes
by the key that it was taken from, so the invariant is about names and not about keys alone. -/

/-- Each context in the map is under its own id. -/
def Keyed (s : State K T O) : Prop :=
  ∀ k q, s.queues k = some q → ∃ ctx, s.inner q = some ctx ∧ Identifiable.id ctx = k

/-- Each context in the map or in the hands of a call goes by its own id. -/
def Named (s : State K T O) : Prop :=
  ∀ p k q, s.named p = some (k, q) → ∃ ctx, s.inner q = some ctx ∧ Identifiable.id ctx = k

/-- A closure does not alter the id of its context. -/
def KeepsIds (s : State K T O) : Act K T O → Prop
  | .mutate q ctx => ∀ ctx₀ ∈ s.inner q, Identifiable.id ctx = Identifiable.id ctx₀
  | _ => True

/-- The old and the new id of a `change_id` whose next step stores its context. -/
def State.rekeying (s : State K T O) : Act K T O → Option (K × K)
  | .caller t => match s.calls t with
    | .changeInsert oldId newId _ =>
      if s.queues newId = none then some (oldId, newId) else none
    | _ => none
  | _ => none

/-- A `change_id` stores no context under an id other than the old one. -/
def StoresOwnId (s : State K T O) (a : Act K T O) : Prop :=
  ∀ ids ∈ s.rekeying a, ids.2 = ids.1

instance (s : State K T O) (a : Act K T O) : Decidable (StoresOwnId s a) :=
  inferInstanceAs (Decidable (∀ ids ∈ s.rekeying a, ids.2 = ids.1))

instance (s : State K T O) : (a : Act K T O) → Decidable (KeepsIds s a)
  | .mutate q ctx =>
    inferInstanceAs (Decidable (∀ ctx₀ ∈ s.inner q, Identifiable.id ctx = Identifiable.id ctx₀))
  | .withContext .. | .addContext .. | .changeId .. | .caller .. | .drop .. | .proc ..
  | .complete .. | .panic .. | .dropGuard .. => .isTrue trivial

omit [DecidableEq K] [Identifiable T K] in
/-- The step that stores a context under a new id. It is the insert of a `change_id` that finds the
new key free; all other steps re-key nothing. -/
theorem mem_rekeying {s : State K T O} {a : Act K T O} {oldId newId : K} :
    (oldId, newId) ∈ s.rekeying a ↔ ∃ t q, a = .caller t ∧ s.calls t = .changeInsert oldId newId q ∧
      s.queues newId = none := by
  constructor
  · -- a call in the state before its insert, with the new key free
    intro h
    unfold State.rekeying at h
    split at h
    · next t =>
      split at h
      · next old new q hc =>
        split at h
        · next hfree => cases h; exact ⟨t, q, rfl, hc, hfree⟩
        · cases h
      · cases h
    · cases h
  · rintro ⟨t, q, rfl, hc, hfree⟩
    simp [State.rekeying, hc, hfree]

/-- A transfer keeps every context under its own id, if closures keep ids and no context is stored
under another one. -/
theorem Transfer.named {s s' : State K T O} {a : Act K T O} (h : Transfer s s' a)
    (hnamed : Named s) (hheld : Held s.queueAt s.nextQueue) (hkeeps : KeepsIds s a)
    (hown : StoresOwnId s a) : Named s' := by
  intro p k q hp
  -- a queue is written, made, moved or lost; only the first two have to do with its context
  cases h with
  | still hsame _ hinner =>
    rw [hsame] at hp
    rw [hinner]
    exact hnamed p k q hp
  | @written q₀ ctx ha hsame _ hinner =>
    subst ha
    rw [hsame] at hp
    obtain ⟨ctx₀, hctx₀, hid⟩ := hnamed p k q hp
    rw [hinner]
    by_cases hq : q = q₀
    · subst hq
      exact ⟨ctx, Function.update_self .., (hkeeps ctx₀ hctx₀).trans hid⟩
    · exact ⟨ctx₀, by rwa [Function.update_of_ne hq], hid⟩
  | @made t ctx _ hnew _ hinner =>
    rw [hnew] at hp
    rw [hinner]
    rcases update_cases hp with ⟨-, hmade⟩ | ⟨-, hold⟩
    · cases hmade
      exact ⟨ctx, Function.update_self .., rfl⟩
    · have hlt : q < s.nextQueue := hheld.lt p q (queueAt_of_named hold)
      rw [Function.update_of_ne (Nat.ne_of_lt hlt)]
      exact hnamed p k q hold
  | @moved p₀ p' k₀ k' q₀ hfrom _ hmove _ hinner hid =>
    rw [hmove] at hp
    rw [hinner]
    rcases update_cases hp with ⟨-, hmoved⟩ | ⟨-, hp⟩
    · cases hmoved
      -- the name has not changed on the way
      have hsame : k = k₀ := by
        rcases hid with hsame | ⟨t, ha, hc, hfree⟩
        · exact hsame
        · exact hown (k₀, k) (mem_rekeying.mpr ⟨t, q, ha, hc, hfree⟩)
      subst hsame
      exact hnamed p₀ k q hfrom
    · rcases update_cases hp with ⟨-, hnone⟩ | ⟨-, hold⟩
      · cases hnone
      · exact hnamed p k q hold
  | lost _ hgone _ hinner =>
    rw [hgone] at hp
    rw [hinner]
    rcases update_cases hp with ⟨-, hnone⟩ | ⟨-, hold⟩
    · cases hnone
    · exact hnamed p k q hold

theorem named_of_run {as : List (Act K T O)} {s : State K T O}
    (run : (system K T O).RunUnder (fun s a => KeepsIds s a ∧ StoresOwnId s a) as s) :
    Named s := by
  refine run.invariant (fun p k q hp => ?_) fun as s a s' run h hcond hstep =>
    (step_cases hstep).transfer.named h (held_of_run run.run) hcond.1 hcond.2
  cases p <;> cases hp

omit [DecidableEq K] in
theorem Named.keyed {s : State K T O} (h : Named s) : Keyed s :=
  fun k q hq => h (.key k) k q (named_key.mpr ⟨hq, rfl⟩)

/-- **Contexts are under their own ids, exactly without a successful re-keying.** In a run of the
manager whose closures keep the ids of their contexts, every context is under its own id in every
state if and only if no `change_id` stores a context under a new id. -/
theorem keyed_iff_own_ids {as : List (Act K T O)} {s : State K T O}
    (run : (system K T O).RunUnder KeepsIds as s) :
    (∀ pre t, pre <+: as → (system K T O).Run pre t → Keyed t) ↔
      (system K T O).RunUnder (fun s a => KeepsIds s a ∧ StoresOwnId s a) as s := by
  refine run.always_iff (C := StoresOwnId) (P := fun _ t => Keyed t)
    (fun as s h => (named_of_run h).keyed) ?_
  rintro as s a s' run - hstep hkeyed ⟨oldId, newId⟩ hids
  obtain ⟨t, q, rfl, hc, hfree⟩ := mem_rekeying.mp hids
  have hhand : s.named (.call t) = some (oldId, q) := by simp [State.named, hc, Call.inHand]
  obtain ⟨ctx, hctx, hid⟩ := named_of_run run _ _ _ hhand
  have hnext : (system K T O).step s (.caller t) =
      some (s.store t newId q (.changeReturned (.ok ()))) := by
    simp [system, step, State.callStep, hc, State.changeInsert, hfree]
  obtain rfl := Option.some.inj (hnext.symm.trans hstep)
  obtain ⟨ctx', hctx', hid'⟩ := hkeyed newId q (Function.update_self ..)
  -- nobody has written the context
  have hsame : ctx' = ctx := Option.some.inj (hctx'.symm.trans hctx)
  subst hsame
  exact hid'.symm.trans hid

/-- The context with the id 5 is re-keyed to 6. -/
def changeFiveToSix : List (Act Nat Nat Nat) :=
  [.addContext 0 5, .caller 0, .changeId 1 5 6, .caller 1, .caller 1]

/-- `change_id` has returned `Ok`, and the context under 6 still has the id 5. -/
theorem unkeyed_after_change_id :
    ∃ s, (system Nat Nat Nat).RunUnder KeepsIds changeFiveToSix s ∧
      s.calls 1 = .changeReturned (.ok ()) ∧ s.queues 6 = some 0 ∧ s.inner 0 = some 5 ∧
      ¬ Keyed s := by
  let s := (((system Nat Nat Nat).guarded fun s a => decide (KeepsIds s a)).exec
    changeFiveToSix).get (by decide)
  have hrun : (system Nat Nat Nat).RunUnder KeepsIds changeFiveToSix s := .of_decide (by simp [s])
  refine ⟨s, hrun, rfl, rfl, rfl, fun hkeyed => ?_⟩
  obtain ⟨ctx, hctx, hid⟩ := hkeyed 6 0 rfl
  cases hctx
  cases hid

/-- The context with the id 5 is written once, and an attempt to give it the id 6 fails. -/
def writeAndKeep : List (Act Nat Nat Nat) :=
  [.addContext 0 5, .caller 0, .addContext 1 6, .caller 1, .withContext 2 5] ++
    List.replicate 8 (.caller 2) ++ List.replicate 3 (.proc 0) ++ [.mutate 0 5, .changeId 3 5 6] ++
    List.replicate 3 (.caller 3)

/-- A closure writes the context and a `change_id` fails; the context under 5 still has the id 5. -/
theorem keyed_writeAndKeep :
    ∃ s, (system Nat Nat Nat).RunUnder KeepsIds writeAndKeep s ∧ s.queues 5 = some 0 ∧ Keyed s := by
  let s := (((system Nat Nat Nat).guarded fun s a =>
    decide (KeepsIds s a ∧ StoresOwnId s a)).exec writeAndKeep).get (by decide)
  have hrun : (system Nat Nat Nat).RunUnder (fun s a => KeepsIds s a ∧ StoresOwnId s a)
      writeAndKeep s := .of_decide (by simp [s])
  have hkeeps := hrun.mono fun _ _ hcond => hcond.1
  exact ⟨s, hkeeps, rfl, (keyed_iff_own_ids hkeeps).mpr hrun _ _ (List.prefix_refl _) hrun.run⟩

end UnifyAir.Manager
