import UnifyAir.Manager.Rekeying

/-!
# UnifyAir — adding a context

`add_context` makes a queue for its context and inserts a clone of the `Arc` under the id of the
context. When the id is taken the clone comes back, and the error path takes the context out of it
with `Arc::into_inner`, which asks for the only reference. The safety comment there counts the
clone and not the variable it was cloned from, which lives until `add_context` returns.

* **`untouched_of_run`** — until it is inserted, the queue of an `add_context` holds the context it
  was made for, and nobody else has come near it.
* **`all_or_nothing_iff`** — the calls of a run are all or nothing exactly when none of them finds
  its id taken.
-/

namespace UnifyAir.Manager

open Concurrency

variable {K T O : Type}

/-- The queue that a `with_context` call has read from the map. -/
def Call.withQueue : Call K T O → Option QueueId
  | .withSchedule q | .pushLock q _ | .pushBack q _ | .pushLoad q _ | .pushStore q _
  | .pushSpawn q _ | .pushUnlock q _ | .awaitRx q _ => some q
  | _ => none

/-- The queue that a `process_queue` task is on. -/
def Proc.onQueue : Proc O → Option QueueId
  | .unspawned => none
  | .lockWait q | .locked q | .popped q _ | .running q _ | .sending q _ _ | .iterEnd q
  | .exiting q | .finished q | .panicked q => some q

/-- A queue as `ContextQueue::new` leaves it: no call and no processor has it, and its fields but
the context are new. -/
structure Untouched (s : State K T O) (q : QueueId) : Prop where
  calls : ∀ t, (s.calls t).withQueue ≠ some q
  procs : ∀ p, (s.procs p).onQueue ≠ some q
  guarded : s.guarded q = false
  queue : s.queue q = []
  lock : s.lock q = none
  inactive : s.processorActive q = false

section Untouched

variable {s s' : State K T O} {q : QueueId}

/-- A call that has a queue in its hands has another one than the untouched. -/
theorem Untouched.call_ne {t : TaskId} {c : Call K T O} {q' : QueueId} (h : Untouched s q)
    (hc : s.calls t = c) (hq' : c.withQueue = some q') : q' ≠ q := fun heq =>
  h.calls t (by rw [hc, hq', heq])

theorem Untouched.proc_ne {p : ProcId} {proc : Proc O} {q' : QueueId} (h : Untouched s q)
    (hp : s.procs p = proc) (hq' : proc.onQueue = some q') : q' ≠ q := fun heq =>
  h.procs p (by rw [hp, hq', heq])

theorem calls_update {f : TaskId → Call K T O} {t : TaskId} {c : Call K T O}
    (h : ∀ t, (f t).withQueue ≠ some q) (hc : c.withQueue ≠ some q) :
    ∀ t', (Function.update f t c t').withQueue ≠ some q := fun t' =>
  to_update (fun c : Call K T O => c.withQueue ≠ some q) (fun _ => hc) (h t')

theorem procs_update {f : ProcId → Proc O} {p : ProcId} {proc : Proc O}
    (h : ∀ p, (f p).onQueue ≠ some q) (hp : proc.onQueue ≠ some q) :
    ∀ p', (Function.update f p proc p').onQueue ≠ some q := fun p' =>
  to_update (fun proc : Proc O => proc.onQueue ≠ some q) (fun _ => hp) (h p')

/-- A lookup does not find what no key leads to. -/
theorem readQueue_withQueue {id : K} (hmap : ∀ id, s.queues id ≠ some q) :
    (s.readQueue id).withQueue ≠ some q := by
  unfold State.readQueue
  cases hq : s.queues id with
  | none => exact nofun
  | some q' => exact fun heq => hmap id (hq.trans heq)

end Untouched

variable [DecidableEq K] [Identifiable T K]

/-- A step leaves alone what nobody has and no key of the map leads to. A long case split with one
idea: whoever writes a table of a queue has that queue, so it is another one. -/
theorem Step.untouched {s s' : State K T O} {a : Act K T O} (h : Step s a s') {q : QueueId}
    (hq : Untouched s q) (hmap : ∀ id, s.queues id ≠ some q) : Untouched s' q := by
  have hcall : ∀ {t : TaskId} {c : Call K T O}, c.withQueue ≠ some q →
      Untouched (s.setCall t c) q := fun hc =>
    { hq with calls := calls_update hq.calls hc }
  have hsome : ∀ {q' : QueueId}, q' ≠ q → some q' ≠ some q := fun hne heq =>
    hne (Option.some.inj heq)
  -- a table of another queue is written
  have hother : ∀ {β : Type} {f : QueueId → β} {x : β} {q' : QueueId}, q' ≠ q →
      Function.update f q' x q = f q := fun hne => Function.update_of_ne hne.symm ..
  -- steps that have no queue, and then those that have one, which is another
  cases h with
  | withContext | changeId | addStored | changeMissing | changeRemoved | changeConflict
  | changeStored | restoreFailed | restored | drop | addContext =>
    exact { hq with calls := calls_update hq.calls nofun }
  | read => exact hcall (readQueue_withQueue hmap)
  | @addFailed _ id q' =>
    rw [insertFailed_eq]
    exact hcall nofun
  | @schedule t q' hc =>
    have hne := hq.call_ne hc rfl
    exact { hq with calls := calls_update hq.calls (hsome hne) }
  | @lockCaller t q' rx hc =>
    have hne := hq.call_ne hc rfl
    exact { hq with
      calls := calls_update hq.calls (hsome hne)
      lock := (hother hne).trans hq.lock }
  -- the steps of a call that has a queue in its hands
  | @pushBack t q' rx hc =>
    have hne := hq.call_ne hc rfl
    exact { hq with
      calls := calls_update hq.calls (hsome hne)
      queue := (hother hne).trans hq.queue }
  | @load t q' rx hc =>
    have hne := hq.call_ne hc rfl
    refine hcall fun heq => hne ?_
    unfold State.loadActive at heq
    split at heq <;> exact Option.some.inj heq
  | @storeActive t q' rx hc =>
    have hne := hq.call_ne hc rfl
    exact { hq with
      calls := calls_update hq.calls (hsome hne)
      inactive := (hother hne).trans hq.inactive }
  | @spawn t q' rx hc =>
    have hne := hq.call_ne hc rfl
    exact { hq with
      calls := calls_update hq.calls (hsome hne)
      procs := procs_update hq.procs (hsome hne) }
  | @unlockCaller t q' rx hc =>
    have hne := hq.call_ne hc rfl
    exact { hq with
      calls := calls_update hq.calls (hsome hne)
      lock := (hother hne).trans hq.lock }
  | @receive t q' rx c hc hrecv =>
    refine hcall fun heq => ?_
    unfold State.receive at hrecv
    split at hrecv <;> cases hrecv <;> cases heq
  -- the steps of a processor, which is on a queue
  | @lockProcessor p q' hp =>
    have hne := hq.proc_ne hp rfl
    exact { hq with
      procs := procs_update hq.procs (hsome hne)
      lock := (hother hne).trans hq.lock }
  | @stop p q' hp =>
    have hne := hq.proc_ne hp rfl
    exact { hq with
      procs := procs_update hq.procs (hsome hne)
      inactive := (hother hne).trans hq.inactive }
  | @pop p q' f rest hp =>
    have hne := hq.proc_ne hp rfl
    exact { hq with
      procs := procs_update hq.procs (hsome hne)
      queue := (hother hne).trans hq.queue }
  | @start p q' f hp =>
    have hne := hq.proc_ne hp rfl
    exact { hq with
      procs := procs_update hq.procs (hsome hne)
      guarded := (hother hne).trans hq.guarded }
  | @complete p q' f output hp =>
    have hne := hq.proc_ne hp rfl
    exact { hq with procs := procs_update hq.procs (hsome hne) }
  | @send p q' f output hp =>
    have hne := hq.proc_ne hp rfl
    exact { hq with procs := procs_update hq.procs (hsome hne) }
  | @again p q' hp =>
    have hne := hq.proc_ne hp rfl
    exact { hq with
      procs := procs_update hq.procs (hsome hne)
      lock := (hother hne).trans hq.lock }
  | @exit p q' hp =>
    have hne := hq.proc_ne hp rfl
    exact { hq with
      procs := procs_update hq.procs (hsome hne)
      lock := (hother hne).trans hq.lock }
  | @panic p q' f hp =>
    have hne := hq.proc_ne hp rfl
    exact { hq with
      procs := procs_update hq.procs (hsome hne)
      lock := (hother hne).trans hq.lock }
  | mutate => exact { hq with }
  | @dropGuard q' hguard =>
    have hne : q' ≠ q := fun heq => by
      rw [heq, hq.guarded] at hguard
      cases hguard
    exact { hq with guarded := (hother hne).trans hq.guarded }

/-- The context of an untouched queue stays, unless the queue is only being made. -/
theorem Step.inner_untouched {s s' : State K T O} {a : Act K T O} (h : Step s a s') {q : QueueId}
    (hq : Untouched s q) (hlt : q < s.nextQueue) : s'.inner q = s.inner q := by
  cases h with
  | addContext => exact Function.update_of_ne (Nat.ne_of_lt hlt) ..
  | @mutate q' ctx hguard =>
    have hne : q ≠ q' := fun heq => by
      rw [← heq, hq.guarded] at hguard
      cases hguard
    exact Function.update_of_ne hne ..
  | _ => rfl

/-- A call that has begun does not become idle again. The actions of calls name the task, so only
the ones of this task need a look. -/
theorem Step.ne_idle {s s' : State K T O} {a : Act K T O} (h : Step s a s') {t : TaskId}
    (ht : s.calls t ≠ .idle) : s'.calls t ≠ .idle := by
  have hmoved : ∀ {t' : TaskId} {c : Call K T O}, c ≠ .idle →
      Function.update s.calls t' c t ≠ .idle := fun hc =>
    to_update (fun c : Call K T O => c ≠ .idle) (fun _ => hc) ht
  cases h with
  | lockProcessor | stop | pop | start | complete | send | again | exit | panic | mutate
  | dropGuard => exact ht
  | @read _ id =>
    refine hmoved ?_
    unfold State.readQueue
    split <;> exact nofun
  | load =>
    refine hmoved ?_
    unfold State.loadActive
    split <;> exact nofun
  | @receive _ _ _ c _ hrecv =>
    refine hmoved ?_
    unfold State.receive at hrecv
    split at hrecv <;> cases hrecv <;> exact nofun
  | @addFailed _ id q =>
    rw [insertFailed_eq]
    exact hmoved nofun
  | withContext | addContext | changeId | schedule | lockCaller | pushBack | storeActive | spawn
  | unlockCaller | addStored | changeMissing | changeRemoved | changeConflict | changeStored
  | restoreFailed | restored | drop => exact hmoved nofun

/-- A call that was made is not idle any more. -/
theorem ne_idle_of_mem {as : List (Act K T O)} {s : State K T O} (run : (system K T O).Run as s)
    {t : TaskId} {ctx : T} (h : .addContext t ctx ∈ as) : s.calls t ≠ .idle := by
  refine run.history (P := fun as s => ∀ ctx, .addContext t ctx ∈ as → s.calls t ≠ .idle) nofun
    ?_ ctx h
  intro as s a s' _ ih _ hstep ctx hmem
  have hs : Step s a s' := step_cases hstep
  rcases List.mem_append.mp hmem with hold | hlast
  · exact hs.ne_idle (ih ctx hold)
  · obtain rfl := List.mem_singleton.mp hlast
    cases hs with
    | addContext =>
      show Function.update s.calls t _ t ≠ _
      rw [Function.update_self]
      exact nofun

/-- Before its insert, an `add_context` call has its own context in a queue of its own. -/
def Adding (as : List (Act K T O)) (s : State K T O) : Prop :=
  ∀ t id q, s.calls t = .addInsert id q → Untouched s q ∧
    ∃ ctx, (∀ c, .addContext t c ∈ as ↔ c = ctx) ∧ s.inner q = some ctx ∧
      id = Identifiable.id ctx

omit [DecidableEq K] [Identifiable T K] in
theorem untouched_new (q : QueueId) : Untouched (State.new K T O) q where
  calls _ h := by cases h
  procs _ h := by cases h
  guarded := rfl
  queue := rfl
  lock := rfl
  inactive := rfl

omit [DecidableEq K] [Identifiable T K] in
/-- The queue of an `add_context` call is in its hands, and nowhere else. -/
theorem lt_and_not_key {s : State K T O} (hheld : Held s.queueAt s.nextQueue) {t : TaskId} {id : K}
    {q : QueueId} (hc : s.calls t = .addInsert id q) :
    q < s.nextQueue ∧ ∀ id, s.queues id ≠ some q := by
  have hat : s.queueAt (.call t) = some q := by
    rw [State.queueAt, State.named, hc]
    rfl
  exact ⟨hheld.lt _ q hat, fun id hid => by cases hheld.unique _ _ q (queueAt_key.trans hid) hat⟩

/-- Queues that nobody has made yet, and queues about to be inserted, are untouched. By induction on
the run, for both at once: the second kind comes out of the first. -/
theorem untouched_of_run {as : List (Act K T O)} {s : State K T O}
    (run : (system K T O).Run as s) :
    (∀ q, s.nextQueue ≤ q → Untouched s q) ∧ Adding as s := by
  refine run.history (P := fun as s => (∀ q, s.nextQueue ≤ q → Untouched s q) ∧ Adding as s)
    ⟨fun q _ => untouched_new q, fun t id q h => by cases h⟩ ?_
  intro as s a s' run ⟨hfresh, hadding⟩ _ hstep
  have h : Step s a s' := step_cases hstep
  have hheld := held_of_run run
  have hkey : ∀ q, s.nextQueue ≤ q → ∀ id, s.queues id ≠ some q := fun q hle id hid =>
    Nat.not_lt.mpr hle (hheld.lt (.key id) q (queueAt_key.trans hid))
  have hnext : s.nextQueue ≤ s'.nextQueue := by
    cases h.transfer with
    | still _ hnext | written _ _ hnext | moved _ _ _ hnext | lost _ _ hnext =>
      exact Nat.le_of_eq hnext.symm
    | made _ _ hnext => rw [hnext]; exact Nat.le_succ _
  refine ⟨fun q hle => h.untouched (hfresh q (Nat.le_trans hnext hle))
    (hkey q (Nat.le_trans hnext hle)), fun t id q ht => ?_⟩
  rcases h.addInsert_new ht with hc | ⟨ctx, rfl, hidle, rfl, rfl, rfl⟩
  · obtain ⟨huntouched, ctx, hmem, hinner, hid⟩ := hadding t id q hc
    obtain ⟨hlt, hmap⟩ := lt_and_not_key hheld hc
    refine ⟨h.untouched huntouched hmap, ctx, fun c => ?_, ?_, hid⟩
    · rw [List.mem_append, List.mem_singleton, hmem]
      refine or_iff_left fun hlast => ?_
      subst hlast
      cases h with
      | addContext hidle => rw [hc] at hidle; cases hidle
    · rw [h.inner_untouched huntouched hlt]
      exact hinner
  · -- the call has just begun, and its queue was not made yet
    refine ⟨h.untouched (hfresh _ (Nat.le_refl _)) (hkey _ (Nat.le_refl _)), ctx, fun c => ?_,
      Function.update_self .., rfl⟩
    have hnone : .addContext t c ∉ as := fun hmem => ne_idle_of_mem run hmem hidle
    rw [List.mem_append, List.mem_singleton]
    constructor
    · intro hmem
      cases hmem.resolve_left hnone
      rfl
    · intro heq
      rw [heq]
      exact .inr rfl

/-! ## All or nothing

An insert under a free id puts in the context that the call was made with, since its queue is
untouched. Under a taken id the call panics, and the context is neither inserted nor handed back. -/

/-- What the insert of an `add_context` call for `ctx` is to do. -/
inductive AllOrNothing (s s' : State K T O) (t : TaskId) (ctx : T) : Prop where
  | added {q : QueueId} (hkey : s.queues (Identifiable.id ctx) = none)
      (hqueues : s'.queues = Function.update s.queues (Identifiable.id ctx) (some q))
      (hinner : s'.inner q = some ctx) (huntouched : Untouched s' q)
      (hcalls : s'.calls t = .addReturned (.ok ()))
  | refused (hkey : s.queues (Identifiable.id ctx) ≠ none) (hqueues : s'.queues = s.queues)
      (hinner : s'.inner = s.inner)
      (hcalls : s'.calls t =
        .addReturned (.error (.contextAlreadyExists (Identifiable.id ctx) ctx)))

/-- If the last step of the run is the insert of an `add_context` call, it is all or nothing. -/
def AddsAllOrNothing (as : List (Act K T O)) (s' : State K T O) : Prop :=
  ∀ pre s t ctx id q, as = pre ++ [.caller t] → (system K T O).Run pre s →
    .addContext t ctx ∈ pre → s.calls t = .addInsert id q → AllOrNothing s s' t ctx

/-- The id that the next step of an `add_context` call inserts under. -/
def State.adding (s : State K T O) : Act K T O → Option K
  | .caller t => match s.calls t with
    | .addInsert id _ => some id
    | _ => none
  | _ => none

/-- An `add_context` call does not find its id taken. -/
def AddsFree (s : State K T O) (a : Act K T O) : Prop := ∀ id ∈ s.adding a, s.queues id = none

instance (s : State K T O) (a : Act K T O) : Decidable (AddsFree s a) :=
  inferInstanceAs (Decidable (∀ id ∈ s.adding a, s.queues id = none))

omit [DecidableEq K] [Identifiable T K] in
/-- The step that inserts is that of an `add_context` call. -/
theorem mem_adding {s : State K T O} {a : Act K T O} {id : K} :
    id ∈ s.adding a ↔ ∃ t q, a = .caller t ∧ s.calls t = .addInsert id q := by
  constructor
  · intro h
    unfold State.adding at h
    split at h
    · next t =>
      split at h
      · next id' q hc =>
        cases h
        exact ⟨t, q, rfl, hc⟩
      · cases h
    · cases h
  · rintro ⟨t, q, rfl, hc⟩
    simp [State.adding, hc]

/-- The insert of an `add_context` call that finds its id free. -/
theorem allOrNothing_of_free {as : List (Act K T O)} {s s' : State K T O} {t : TaskId} {ctx : T}
    {id : K} {q : QueueId} (run : (system K T O).Run as s) (hmem : .addContext t ctx ∈ as)
    (hc : s.calls t = .addInsert id q) (hstep : Step s (.caller t) s')
    (hfree : s.queues id = none) : AllOrNothing s s' t ctx := by
  obtain ⟨huntouched, ctx', hctx, hinner, rfl⟩ := (untouched_of_run run).2 t id q hc
  obtain rfl := (hctx ctx).mp hmem
  have huntouched' := hstep.untouched huntouched (lt_and_not_key (held_of_run run) hc).2
  rcases hstep.addInsert_cases hc with ⟨-, rfl⟩ | ⟨htaken, -⟩
  · exact .added hfree rfl hinner huntouched' (Function.update_self ..)
  · exact (htaken hfree).elim

/-- With its id taken the call panics, so it neither returns `Ok` nor hands anything back. -/
theorem not_allOrNothing_of_taken {s s' : State K T O} {t : TaskId} {ctx : T} {id : K}
    {q : QueueId} (hc : s.calls t = .addInsert id q) (hstep : Step s (.caller t) s')
    (htaken : s.queues id ≠ none) : ¬ AllOrNothing s s' t ctx := by
  have hpanic : s'.calls t = .addPanicked := by
    rcases hstep.addInsert_cases hc with ⟨hfree, -⟩ | ⟨-, rfl⟩
    · exact (htaken hfree).elim
    · exact Function.update_self ..
  intro h
  cases h with
  | added _ _ _ _ hcalls => rw [hpanic] at hcalls; cases hcalls
  | refused _ _ _ hcalls => rw [hpanic] at hcalls; cases hcalls

/-- **All or nothing, exactly under free ids.** Every `add_context` of a run inserts its context or
hands it back if and only if none of them finds its id taken. The context would be handed back in an
error, which the code never reaches. -/
theorem all_or_nothing_iff {as : List (Act K T O)} {s : State K T O}
    (run : (system K T O).Run as s) :
    (∀ pre t, pre <+: as → (system K T O).Run pre t → AddsAllOrNothing pre t) ↔
      (system K T O).RunUnder AddsFree as s := by
  refine System.Run.always_iff ?_ ?_ run
  · rintro as s' hunder pre s t ctx id q rfl run hmem hc
    obtain ⟨s₁, hunder₁, hfree, hstep⟩ := hunder.unsnoc
    obtain rfl := hunder₁.eq run
    exact allOrNothing_of_free run hmem hc (step_cases hstep)
      (hfree id (mem_adding.mpr ⟨t, q, rfl, hc⟩))
  · intro as s a s' hunder hstep hall id hid
    obtain ⟨t, q, rfl, hc⟩ := mem_adding.mp hid
    obtain ⟨-, ctx, hctx, -⟩ := (untouched_of_run hunder.run).2 t id q hc
    by_contra htaken
    exact not_allOrNothing_of_taken hc (step_cases hstep) htaken
      (hall as s t ctx id q rfl hunder.run ((hctx ctx).mpr rfl) hc)

/-- Two contexts with the id 5. -/
def addTwice : List (Act Nat Nat Nat) :=
  [.addContext 0 5, .caller 0, .addContext 1 5, .caller 1]

/-- **The second of them.** The call panics, and its context is gone. -/
theorem second_add_panics :
    ∃ s, (system Nat Nat Nat).Run addTwice s ∧ s.calls 1 = .addPanicked ∧
      ¬ AddsAllOrNothing addTwice s := by
  let s := ((system Nat Nat Nat).exec addTwice).get (by decide)
  let s₀ := ((system Nat Nat Nat).exec [.addContext 0 5, .caller 0, .addContext 1 5]).get
    (by decide)
  have hrun : (system Nat Nat Nat).Run addTwice s := System.run_of_exec (by simp [s])
  have hrun₀ : (system Nat Nat Nat).Run [.addContext 0 5, .caller 0, .addContext 1 5] s₀ :=
    System.run_of_exec (by simp [s₀])
  refine ⟨s, hrun, rfl, fun hall => ?_⟩
  cases hall _ s₀ 1 5 5 1 rfl hrun₀ (by decide) rfl with
  | added _ _ _ _ hcalls => cases hcalls
  | refused _ _ _ hcalls => cases hcalls

/-- Two contexts with ids of their own. -/
def addBoth : List (Act Nat Nat Nat) :=
  [.addContext 0 5, .addContext 1 6, .caller 1, .caller 0]

/-- With ids of their own both contexts are inserted, in the order of the inserts and not of the
calls. -/
theorem all_or_nothing_addBoth :
    ∃ s, (system Nat Nat Nat).Run addBoth s ∧ s.queues 5 = some 0 ∧ AddsAllOrNothing addBoth s := by
  let s := (((system Nat Nat Nat).guarded fun s a => decide (AddsFree s a)).exec addBoth).get
    (by decide)
  have hrun : (system Nat Nat Nat).RunUnder AddsFree addBoth s := .of_decide (by simp [s])
  exact ⟨s, hrun.run, rfl, (all_or_nothing_iff hrun.run).mpr hrun _ _ (List.prefix_refl _) hrun.run⟩

end UnifyAir.Manager
