import UnifyAir.Concurrency.Allocation
import UnifyAir.Manager.Calls

/-!
# UnifyAir — where the context queues of a `ContextManager` are

`add_context` and `change_id` hand context queues around: a queue is under a key of the map,
or in the hands of a call that has made it or taken it out. `State.named` is what is at each
of these places: the queue, and the id it goes by there.

* **`Step.transfer`** — a step leaves the places alone, puts a new queue into the hands of a
  call, passes one queue from one place to another, or loses the queue of a call.
* **`held_of_run`** — a queue is at one place at most, whatever the interleaving.
-/

namespace UnifyAir.Manager

open Concurrency

variable {K T O : Type}

/-- Where a context queue can be: under a key of the map, or in the hands of a call. -/
inductive Place (K : Type) where
  | key (id : K)
  | call (t : TaskId)
  deriving DecidableEq

/-- The queue a call has in its hands, with the id it goes by: the key it is to be inserted
under, or the key it was taken from. -/
def Call.inHand : Call K T O → Option (K × QueueId)
  | .addInsert id q | .changeInsert id _ q | .changeRestore id _ q => some (id, q)
  | _ => none

/-- What is at a place. -/
def State.named (s : State K T O) : Place K → Option (K × QueueId)
  | .key id => (s.queues id).map fun q => (id, q)
  | .call t => (s.calls t).inHand

/-- The queue at a place. -/
def State.queueAt (s : State K T O) (p : Place K) : Option QueueId := (s.named p).map Prod.snd

theorem named_key {s : State K T O} {id k : K} {q : QueueId} :
    s.named (.key id) = some (k, q) ↔ s.queues id = some q ∧ k = id := by
  cases hq : s.queues id with
  | none => simp [State.named, hq]
  | some q' => simp [State.named, hq, and_comm, eq_comm]

/-- The queue at a key is the one in the map. -/
theorem queueAt_key {s : State K T O} {id : K} : s.queueAt (.key id) = s.queues id := by
  simp only [State.queueAt, State.named, Option.map_map]
  exact Option.map_id_apply ..

theorem queueAt_of_named {s : State K T O} {p : Place K} {k : K} {q : QueueId}
    (h : s.named p = some (k, q)) : s.queueAt p = some q := by
  simp [State.queueAt, h]

/-- A queue at a place goes by some name there. -/
theorem exists_named {s : State K T O} {p : Place K} {q : QueueId} (h : s.queueAt p = some q) :
    ∃ k, s.named p = some (k, q) := by
  obtain ⟨⟨k, q'⟩, hp, rfl⟩ := Option.map_eq_some_iff.mp h
  exact ⟨k, hp⟩

/-- A call that looks an id up takes nothing out of the map. -/
theorem readQueue_inHand (s : State K T O) (id : K) : (s.readQueue id).inHand = none := by
  unfold State.readQueue
  split <;> rfl

theorem loadActive_inHand (s : State K T O) (q : QueueId) (rx : ChanId) :
    (s.loadActive q rx).inHand = none := by
  unfold State.loadActive
  split <;> rfl

/-- A call with its output has no queue in its hands. -/
theorem receive_inHand {s : State K T O} {rx : ChanId} {c : Call K T O}
    (h : s.receive rx = some c) : c.inHand = none := by
  unfold State.receive at h
  split at h <;> cases h <;> rfl

variable [DecidableEq K]

/-! ## What a step does to the places

The map and the calls together are one table of places. Each lemma says how a function of the spec
changes that table. -/

theorem named_call {s s' : State K T O} {t : TaskId} {c : Call K T O}
    (hqueues : s'.queues = s.queues) (hcalls : s'.calls = Function.update s.calls t c) :
    s'.named = Function.update s.named (.call t) c.inHand := by
  funext p
  cases p with
  | key id => simp [State.named, hqueues]
  | call t' =>
    by_cases ht : t' = t
    · subst ht; simp [State.named, hcalls]
    · simp [State.named, hcalls, ht]

/-- A call moves with the same queue in its hands, or with none before and after. -/
theorem named_call_same {s s' : State K T O} {t : TaskId} {c : Call K T O}
    (hqueues : s'.queues = s.queues) (hcalls : s'.calls = Function.update s.calls t c)
    (hc : c.inHand = (s.calls t).inHand) : s'.named = s.named := by
  rw [named_call hqueues hcalls, hc]
  exact Function.update_eq_self (Place.call t) s.named

/-- An insert passes the queue from the call to the key. -/
theorem named_store (s : State K T O) (t : TaskId) (id : K) (q : QueueId) (c : Call K T O) :
    (s.store t id q c).named =
      Function.update (Function.update s.named (.call t) c.inHand) (.key id) (some (id, q)) := by
  funext p
  cases p with
  | key id' =>
    by_cases hid : id' = id
    · subst hid; simp [State.named, State.store]
    · simp [State.named, State.store, hid]
  | call t' =>
    by_cases ht : t' = t
    · subst ht; simp [State.named, State.store]
    · simp [State.named, State.store, ht]

/-- A removal passes it from the key to the call. -/
theorem named_unstore (s : State K T O) (t : TaskId) (id : K) (c : Call K T O) :
    (s.unstore t id c).named =
      Function.update (Function.update s.named (.key id) none) (.call t) c.inHand := by
  funext p
  cases p with
  | key id' =>
    by_cases hid : id' = id
    · subst hid; simp [State.named, State.unstore]
    · simp [State.named, State.unstore, hid]
  | call t' =>
    by_cases ht : t' = t
    · subst ht; simp [State.named, State.unstore]
    · simp [State.named, State.unstore, ht]

variable [Identifiable T K]

/-- A step as it shows in the places and the contexts. -/
inductive Transfer (s s' : State K T O) (a : Act K T O) : Prop where
  | still (hnamed : s'.named = s.named) (hnext : s'.nextQueue = s.nextQueue)
      (hinner : s'.inner = s.inner)
  | written {q : QueueId} {ctx : T} (ha : a = .mutate q ctx) (hnamed : s'.named = s.named)
      (hnext : s'.nextQueue = s.nextQueue)
      (hinner : s'.inner = Function.update s.inner q (some ctx))
  | made {t : TaskId} {ctx : T} (hfree : s.named (.call t) = none)
      (hnamed : s'.named =
        Function.update s.named (.call t) (some (Identifiable.id ctx, s.nextQueue)))
      (hnext : s'.nextQueue = s.nextQueue + 1)
      (hinner : s'.inner = Function.update s.inner s.nextQueue (some ctx))
  -- the id changes with the insert of a `change_id` call, and only there
  | moved {p p' : Place K} {k k' : K} {q : QueueId} (hp : s.named p = some (k, q))
      (hfree : s.named p' = none)
      (hnamed : s'.named = Function.update (Function.update s.named p none) p' (some (k', q)))
      (hnext : s'.nextQueue = s.nextQueue) (hinner : s'.inner = s.inner)
      (hid : k' = k ∨ ∃ t, a = .caller t ∧ s.calls t = .changeInsert k k' q ∧ s.queues k' = none)
  -- a call is dropped, or its insert fails and nobody looks at what it hands back
  | lost {t : TaskId} {k : K} {q : QueueId} (hp : s.named (.call t) = some (k, q))
      (hnamed : s'.named = Function.update s.named (.call t) none)
      (hnext : s'.nextQueue = s.nextQueue) (hinner : s'.inner = s.inner)
      (hcause : a = .drop t ∨ (∃ id other, s.calls t = .addInsert id q ∧ s.queues id = some other) ∨
        ∃ oldId newId other, a = .caller t ∧ s.calls t = .changeRestore oldId newId q ∧
          s.queues oldId = some other)

/-- Every step is a transfer. The last possibility, a queue that is lost, has three causes: a failed
insert, a failed restore, and a drop. -/
theorem Step.transfer {s s' : State K T O} {a : Act K T O} (h : Step s a s') :
    Transfer s s' a := by
  cases h with
  | withContext hc | changeId hc => exact .still (named_call_same rfl rfl (by rw [hc]; rfl)) rfl rfl
  | @addContext t ctx hc =>
    exact .made (by simp [State.named, hc, Call.inHand])
      (named_call (c := .addInsert (Identifiable.id ctx) s.nextQueue) rfl rfl) rfl rfl
  | read hc =>
    exact .still (named_call_same rfl rfl (by rw [hc]; exact readQueue_inHand ..)) rfl rfl
  | load hc =>
    exact .still (named_call_same rfl rfl (by rw [hc]; exact loadActive_inHand ..)) rfl rfl
  | receive hc hrecv =>
    exact .still (named_call_same rfl rfl (by rw [hc]; exact receive_inHand hrecv)) rfl rfl
  | schedule hc | lockCaller hc | pushBack hc | storeActive hc | spawn hc | unlockCaller hc =>
    exact .still (named_call_same rfl rfl (by rw [hc]; rfl)) rfl rfl
  | @addFailed t id q other hc hkey =>
    have hp : s.named (.call t) = some (id, q) := by simp [State.named, hc, Call.inHand]
    rw [insertFailed_eq]
    exact .lost hp (named_call (c := .addPanicked) rfl rfl) rfl rfl
      (Or.inr (Or.inl ⟨id, other, hc, hkey⟩))
  | @addStored t id q hc hkey =>
    have hp : s.named (.call t) = some (id, q) := by simp [State.named, hc, Call.inHand]
    exact .moved hp (by simp [State.named, hkey]) (named_store ..) rfl rfl (Or.inl rfl)
  | changeMissing hc hkey => exact .still (named_call_same rfl rfl (by rw [hc]; rfl)) rfl rfl
  | @changeRemoved t oldId newId q hc hkey =>
    exact .moved (named_key.mpr ⟨hkey, rfl⟩) (by simp [State.named, hc, Call.inHand])
      (named_unstore ..) rfl rfl (Or.inl rfl)
  | changeConflict hc hkey => exact .still (named_call_same rfl rfl (by rw [hc]; rfl)) rfl rfl
  | @changeStored t oldId newId q hc hkey =>
    have hp : s.named (.call t) = some (oldId, q) := by simp [State.named, hc, Call.inHand]
    exact .moved hp (by simp [State.named, hkey]) (named_store ..) rfl rfl
      (Or.inr ⟨t, rfl, hc, hkey⟩)
  | @restoreFailed t oldId newId q other hc hkey =>
    have hp : s.named (.call t) = some (oldId, q) := by simp [State.named, hc, Call.inHand]
    exact .lost hp (named_call (c := .changeReturned _) rfl rfl) rfl rfl
      (Or.inr (Or.inr ⟨oldId, newId, other, rfl, hc, hkey⟩))
  | @restored t oldId newId q hc hkey =>
    have hp : s.named (.call t) = some (oldId, q) := by simp [State.named, hc, Call.inHand]
    exact .moved hp (by simp [State.named, hkey]) (named_store ..) rfl rfl (Or.inl rfl)
  -- a drop loses what the call had in its hands, if anything
  | @drop t hc =>
    cases hand : (s.calls t).inHand with
    | none => exact .still (named_call_same rfl rfl hand.symm) rfl rfl
    | some kq =>
      exact .lost hand (named_call (c := .dropped) rfl rfl) rfl rfl (Or.inl rfl)
  | lockProcessor | stop | pop | start | complete | send | again | exit | panic | dropGuard =>
    exact .still rfl rfl rfl
  | mutate hguard => exact .written rfl rfl rfl rfl

/-! ## One place for a queue

A new queue gets a new number, and a transfer never copies. So `Concurrency.Held` applies. -/

omit [DecidableEq K] [Identifiable T K] in
/-- A place has a queue when it has a name for one. -/
theorem queueAt_eq (s : State K T O) : s.queueAt = Option.map Prod.snd ∘ s.named := rfl

/-- A transfer keeps each queue at one place at most. It is moved from a place to another one, which
was empty before, or it is made with a number that no queue has. -/
theorem Transfer.held {s s' : State K T O} {a : Act K T O} (h : Transfer s s' a)
    (hheld : Held s.queueAt s.nextQueue) : Held s'.queueAt s'.nextQueue := by
  cases h with
  | still hnamed hnext | written _ hnamed hnext =>
    rw [queueAt_eq, hnamed, hnext]
    exact hheld
  | made _ hnamed hnext =>
    rw [queueAt_eq, hnamed, hnext, Function.comp_update]
    exact hheld.alloc _
  | @moved p p' k k' q hp _ hnamed hnext =>
    rw [queueAt_eq, hnamed, hnext, Function.comp_update, Function.comp_update]
    exact hheld.move (queueAt_of_named hp) p'
  | @lost t k q hp hnamed hnext =>
    rw [queueAt_eq, hnamed, hnext, Function.comp_update]
    refine hheld.keep fun p n hn => ?_
    rcases update_cases hn with ⟨-, hnone⟩ | ⟨-, hold⟩
    · cases hnone
    · exact hold

/-- A queue stays at some place, unless a call loses it. Which call and how is said, so that a
condition on the steps can rule it out. -/
theorem Transfer.stays {s s' : State K T O} {a : Act K T O} (h : Transfer s s' a) {p : Place K}
    {q : QueueId} (hq : s.queueAt p = some q) :
    (∃ p', s'.queueAt p' = some q) ∨ ∃ t, p = .call t ∧
      (a = .drop t ∨ (∃ id other, s.calls t = .addInsert id q ∧ s.queues id = some other) ∨
        ∃ oldId newId other, a = .caller t ∧ s.calls t = .changeRestore oldId newId q ∧
          s.queues oldId = some other) := by
  have hne : ∀ {p' : Place K}, s.named p' = none → p ≠ p' := by
    rintro p' hnone rfl
    simp [State.queueAt, hnone] at hq
  cases h with
  | still hnamed | written _ hnamed => exact Or.inl ⟨p, by rw [queueAt_eq, hnamed]; exact hq⟩
  | made hfree hnamed =>
    refine Or.inl ⟨p, ?_⟩
    rw [State.queueAt, hnamed, Function.update_of_ne (hne hfree)]
    exact hq
  -- the queue that moves is at its new place, and the others are where they were
  | @moved p₀ p' k k' q₀ hp hfree hnamed =>
    left
    by_cases hpp : p = p₀
    · subst hpp
      rw [queueAt_of_named hp, Option.some.injEq] at hq
      exact ⟨p', by simp [State.queueAt, hnamed, hq]⟩
    · refine ⟨p, ?_⟩
      rw [State.queueAt, hnamed, Function.update_of_ne (hne hfree), Function.update_of_ne hpp]
      exact hq
  | @lost t k q₀ hp hnamed _ _ hcause =>
    by_cases hpt : p = .call t
    · subst hpt
      rw [queueAt_of_named hp, Option.some.injEq] at hq
      subst hq
      exact Or.inr ⟨t, rfl, hcause⟩
    · refine Or.inl ⟨p, ?_⟩
      rw [State.queueAt, hnamed, Function.update_of_ne hpt]
      exact hq

/-- In every run a queue is at one place at most. By induction on the run. -/
theorem held_of_run {as : List (Act K T O)} {s : State K T O} (run : (system K T O).Run as s) :
    Held s.queueAt s.nextQueue := by
  refine run.invariant (P := fun s => Held s.queueAt s.nextQueue) ⟨?_, ?_⟩ ?_
  · rintro (id | t) n hn <;> cases hn
  · rintro (id | t) p' n hn <;> cases hn
  · intro as s a s' _ hheld _ hstep
    exact (step_cases hstep).transfer.held hheld

end UnifyAir.Manager
