import UnifyAir.Concurrency.Allocation
import UnifyAir.Manager.Serial

/-!
# UnifyAir — contexts are worked on one closure at a time

`schedule_and_wait` makes a oneshot channel, wraps its closure and the sender into a future,
pushes the future, and waits on the receiver. `Delivery` ties channels to closures: whoever
waits on a channel is the call whose closure the future with the sender runs, so what arrives
is the output of that closure.

* **`delivery_of_run`** — the invariant, in every run, panics included.
* **`context_serialised`** — what `ContextQueue` is for: one processor and one closure at a
  time for every context, in the order of the appends, no closure stranded, and the right
  output to each caller.
-/

namespace UnifyAir.Manager

open Concurrency

variable {K T O : Type}

/-- The channel a call waits on or is going to wait on. -/
def Call.rx : Call K T O → Option ChanId
  | .pushLock _ rx | .pushBack _ rx | .pushLoad _ rx | .pushStore _ rx | .pushSpawn _ rx
  | .pushUnlock _ rx | .awaitRx _ rx => some rx
  | _ => none

/-- The future a processor has in hand. -/
def Proc.future : Proc O → Option QueuedFuture
  | .popped _ f | .running _ f | .sending _ f _ => some f
  | _ => none

/-- The future `f` is on a list or in the hand of a processor. -/
def State.Pending (s : State K T O) (f : QueuedFuture) : Prop :=
  (∃ q, f ∈ s.queue q) ∨ ∃ p, (s.procs p).future = some f

/-- The closure of call `t` has completed with `output`. -/
def State.Completed (s : State K T O) (t : TaskId) (output : O) : Prop :=
  ∃ q, Event.completed q t output ∈ s.log

structure Delivery (s : State K T O) : Prop where
  held : Held (Call.rx ∘ s.calls) s.nextChan
  tx_lt : ∀ f, s.Pending f → f.tx < s.nextChan
  closure_of_rx : ∀ f t, s.Pending f → (s.calls t).rx = some f.tx → f.closure = t
  sending : ∀ p q f output, s.procs p = .sending q f output → s.Completed f.closure output
  unused : ∀ ch, s.nextChan ≤ ch → s.chans ch = .empty
  sent : ∀ ch output t, s.chans ch = .sent output → (s.calls t).rx = some ch →
    s.Completed t output
  returned : ∀ t output, s.calls t = .withReturned (.ok output) → s.Completed t output

/-- What has completed stays so, as the history only grows. -/
theorem State.Completed.mono {s s' : State K T O} (hlog : s.log ⊆ s'.log) {t : TaskId}
    {output : O} (h : s.Completed t output) : s'.Completed t output := by
  obtain ⟨q, hmem⟩ := h
  exact ⟨q, hlog hmem⟩

/-! ## Steps that pass no output on

Two rules cover all steps that neither make a channel nor write one: a call moves, or a processor
does. Their hypotheses are what the cases of the main induction have to check. -/

/-- A call moves that keeps or gives up its channel and returns no output. -/
theorem Delivery.call {s s' : State K T O} (h : Delivery s) {t : TaskId} {c : Call K T O}
    (hcalls : s'.calls = Function.update s.calls t c) (hqueue : s'.queue = s.queue)
    (hprocs : ∀ p f, (s'.procs p).future = some f → (s.procs p).future = some f)
    (hsending : ∀ p q f output, s'.procs p = .sending q f output → s.procs p = .sending q f output)
    (hchans : s'.chans = s.chans) (hnext : s'.nextChan = s.nextChan) (hlog : s'.log = s.log)
    (hrx : ∀ ch, c.rx = some ch → (s.calls t).rx = some ch)
    (hret : ∀ output, c = .withReturned (.ok output) → s.Completed t output) : Delivery s' := by
  have hsub : s.log ⊆ s'.log := by rw [hlog]; exact List.Subset.refl _
  have hrx' : ∀ t' ch, (s'.calls t').rx = some ch → (s.calls t').rx = some ch := by
    intro t' ch hch
    rw [hcalls] at hch
    exact of_update (fun c : Call K T O => c.rx = some ch) (hrx ch) hch
  have hpend : ∀ f, s'.Pending f → s.Pending f := by
    rintro f (⟨q, hq⟩ | ⟨p, hp⟩)
    · exact Or.inl ⟨q, hqueue ▸ hq⟩
    · exact Or.inr ⟨p, hprocs p f hp⟩
  exact
    { held := hnext ▸ h.held.keep hrx'
      tx_lt := fun f hf => hnext ▸ h.tx_lt f (hpend f hf)
      closure_of_rx := fun f t' hf ht' => h.closure_of_rx f t' (hpend f hf) (hrx' t' _ ht')
      sending := fun p q f output hp =>
        (h.sending p q f output (hsending p q f output hp)).mono hsub
      unused := fun ch hch => by rw [hchans]; exact h.unused ch (hnext ▸ hch)
      sent := fun ch output t' hch ht' =>
        (h.sent ch output t' (hchans ▸ hch) (hrx' t' ch ht')).mono hsub
      returned := fun t' output ht' => by
        rw [hcalls] at ht'
        rcases update_cases ht' with ⟨rfl, hc⟩ | ⟨-, hold⟩
        · exact (hret output hc).mono hsub
        · exact (h.returned t' output hold).mono hsub }

/-- A processor moves that takes up no new future but from its list. -/
theorem Delivery.proc {s s' : State K T O} (h : Delivery s) {p : ProcId} {proc : Proc O}
    (hcalls : s'.calls = s.calls) (hprocs : s'.procs = Function.update s.procs p proc)
    (hqueue : ∀ q f, f ∈ s'.queue q → s.Pending f) (hchans : s'.chans = s.chans)
    (hnext : s'.nextChan = s.nextChan) (hlog : s.log ⊆ s'.log)
    (hfuture : ∀ f, proc.future = some f → s.Pending f)
    (hsending : ∀ q f output, proc = .sending q f output → s'.Completed f.closure output) :
    Delivery s' := by
  have hpend : ∀ f, s'.Pending f → s.Pending f := by
    rintro f (⟨q, hq⟩ | ⟨p', hp'⟩)
    · exact hqueue q f hq
    · rw [hprocs] at hp'
      -- the processor that moves, and the others
      rcases update_cases (rfl : Function.update s.procs p proc p' = _) with
        ⟨-, hnew⟩ | ⟨-, hold⟩
      · exact hfuture f (hnew ▸ hp')
      · exact Or.inr ⟨p', hold ▸ hp'⟩
  exact
    { held := by rw [hcalls, hnext]; exact h.held
      tx_lt := fun f hf => hnext ▸ h.tx_lt f (hpend f hf)
      closure_of_rx := fun f t hf ht => h.closure_of_rx f t (hpend f hf) (hcalls ▸ ht)
      sending := fun p' q f output hp' => by
        rw [hprocs] at hp'
        rcases update_cases hp' with ⟨-, hproc⟩ | ⟨-, hold⟩
        · exact hsending q f output hproc
        · exact (h.sending p' q f output hold).mono hlog
      unused := fun ch hch => by rw [hchans]; exact h.unused ch (hnext ▸ hch)
      sent := fun ch output t hch ht => (h.sent ch output t (hchans ▸ hch) (hcalls ▸ ht)).mono hlog
      returned := fun t output ht => (h.returned t output (hcalls ▸ ht)).mono hlog }

/-! ## A new channel, a new future, an output sent

The three steps that do: they make a channel, hand its sender to a future, and use the sender up. -/

/-- A call makes its channel. The channel is new, so it is in nobody else's hands, and no future,
sent output or returned result can be about it yet. -/
theorem Delivery.schedule {s : State K T O} (h : Delivery s) {t : TaskId} {q : QueueId}
    (hc : s.calls t = .withSchedule q) : Delivery (s.schedule t q) := by
  have hcalls : Call.rx ∘ (s.schedule t q).calls
      = Function.update (Call.rx ∘ s.calls) t (some s.nextChan) := by
    simp only [State.schedule, Function.comp_update]
    rfl
  -- the new channel belongs to `t`, the others to whom they belonged
  have hrx : ∀ t' ch, ((s.schedule t q).calls t').rx = some ch →
      t' = t ∧ ch = s.nextChan ∨ (s.calls t').rx = some ch := by
    intro t' ch hch
    have hch' : Function.update (Call.rx ∘ s.calls) t (some s.nextChan) t' = some ch := by
      rw [← hcalls]; exact hch
    -- the new channel is this call's, and no future knows it yet
    rcases update_cases hch' with ⟨rfl, hnew⟩ | ⟨-, hold⟩
    · cases hnew; exact Or.inl ⟨rfl, rfl⟩
    · exact Or.inr hold
  refine ⟨hcalls ▸ h.held.alloc t, fun f hf => Nat.lt_succ_of_lt (h.tx_lt f hf),
    fun f t' hf ht' => ?_, h.sending, fun ch hch => h.unused ch (Nat.le_of_succ_le hch),
    fun ch output t' hch ht' => ?_, fun t' output ht' => ?_⟩
  · rcases hrx t' f.tx ht' with ⟨-, hnew⟩ | hold
    · exact absurd (h.tx_lt f hf) (by rw [hnew]; exact Nat.lt_irrefl _)
    · exact h.closure_of_rx f t' hf hold
  · rcases hrx t' ch ht' with ⟨-, rfl⟩ | hold
    · have hempty := h.unused s.nextChan (Nat.le_refl _)
      change s.chans s.nextChan = .sent output at hch
      rw [hempty] at hch
      cases hch
    · exact h.sent ch output t' hch hold
  · rcases update_cases ht' with ⟨-, hnew⟩ | ⟨-, hold⟩
    · cases hnew
    · exact h.returned t' output hold

/-- A call pushes the future with its own closure and the sender of its own channel. This is where
the two are tied together. -/
theorem Delivery.pushBack {s : State K T O} (h : Delivery s) {t : TaskId} {q : QueueId}
    {rx : ChanId} (hc : s.calls t = .pushBack q rx) : Delivery (s.pushBack t q rx) := by
  have hown : (s.calls t).rx = some rx := by rw [hc]; rfl
  have hlog : s.log ⊆ (s.pushBack t q rx).log := List.subset_append_left _ _
  have hrx : ∀ t' ch, ((s.pushBack t q rx).calls t').rx = some ch → (s.calls t').rx = some ch := by
    intro t' ch hch
    refine of_update (fun c : Call K T O => c.rx = some ch) (fun hnew => ?_) hch
    rw [hown]
    exact hnew
  have hpend : ∀ f, (s.pushBack t q rx).Pending f → f = ⟨t, rx⟩ ∨ s.Pending f := by
    rintro f (⟨q', hq'⟩ | hproc)
    · by_cases hqq : q' = q
      · subst hqq
        simp only [State.pushBack, Function.update_self, List.mem_append,
          List.mem_singleton] at hq'
        rcases hq' with hold | hnew
        · exact Or.inr (Or.inl ⟨q', hold⟩)
        · exact Or.inl hnew
      · simp only [State.pushBack, Function.update_of_ne hqq] at hq'
        exact Or.inr (Or.inl ⟨q', hq'⟩)
    · exact Or.inr (Or.inr hproc)
  -- the new future has the channel of its own call
  refine ⟨h.held.keep hrx, fun f hf => ?_, fun f t' hf ht' => ?_,
    fun p q' f output hp => (h.sending p q' f output hp).mono hlog, h.unused,
    fun ch output t' hch ht' => (h.sent ch output t' hch (hrx t' ch ht')).mono hlog,
    fun t' output ht' => ?_⟩
  · rcases hpend f hf with rfl | hold
    · exact h.held.lt t rx hown
    · exact h.tx_lt f hold
  · rcases hpend f hf with rfl | hold
    · exact h.held.unique t t' rx hown (hrx t' rx ht')
    · exact h.closure_of_rx f t' hold (hrx t' _ ht')
  · rcases update_cases ht' with ⟨-, hnew⟩ | ⟨-, hold⟩
    · cases hnew
    · exact (h.returned t' output hold).mono hlog

/-- The sender of `f` is used up, with or without a value. The channel belongs to the call whose
closure `f` runs. -/
theorem Delivery.resolve {s s' : State K T O} (h : Delivery s) {p : ProcId} {proc : Proc O}
    {f : QueuedFuture} {chan : Chan O} (hcalls : s'.calls = s.calls)
    (hprocs : s'.procs = Function.update s.procs p proc) (hqueue : s'.queue = s.queue)
    (hchans : s'.chans = Function.update s.chans f.tx chan) (hnext : s'.nextChan = s.nextChan)
    (hlog : s'.log = s.log) (hpend : s.Pending f) (hfuture : proc.future = none)
    (hchan : ∀ output, chan = .sent output → s.Completed f.closure output) : Delivery s' := by
  have hmoved : Delivery { s' with chans := s.chans } :=
    h.proc hcalls hprocs (fun q g hg => Or.inl ⟨q, hqueue ▸ hg⟩) rfl hnext
      (hlog ▸ List.Subset.refl _) (fun g hg => by rw [hfuture] at hg; cases hg)
      (fun q g output hg => by rw [hg] at hfuture; cases hfuture)
  -- only what is said of the channel of `f` has to be looked at
  refine ⟨hmoved.held, hmoved.tx_lt, hmoved.closure_of_rx, hmoved.sending, fun ch hch => ?_,
    fun ch output t hch ht => ?_, hmoved.returned⟩
  · have hne : ch ≠ f.tx := by
      rintro rfl
      exact absurd (h.tx_lt f hpend) (Nat.not_lt.mpr (hnext ▸ hch))
    rw [hchans, Function.update_of_ne hne]
    exact h.unused ch (hnext ▸ hch)
  · rw [hchans] at hch
    rcases update_cases hch with ⟨rfl, hnew⟩ | ⟨-, hold⟩
    · have hclosure := h.closure_of_rx f t hpend (hcalls ▸ ht)
      exact hclosure ▸ (hchan output hnew).mono (hlog ▸ List.Subset.refl _)
    · exact hmoved.sent ch output t hold ht

/-! ## Every step keeps it

What the functions of the spec return, as far as it matters here: which channel, and no output of
their own. -/

theorem delivery_new : Delivery (State.new K T O) := by
  have hpend : ∀ f, ¬ (State.new K T O).Pending f := by
    rintro f (⟨q, hq⟩ | ⟨p, hp⟩)
    · cases hq
    · cases hp
  exact ⟨.none _, fun f hf => absurd hf (hpend f), fun f _ hf => absurd hf (hpend f), nofun,
    fun _ _ => rfl, nofun, nofun⟩

theorem readQueue_rx (s : State K T O) (id : K) : (s.readQueue id).rx = none := by
  unfold State.readQueue
  split <;> rfl

theorem readQueue_ne_ok (s : State K T O) (id : K) (output : O) :
    s.readQueue id ≠ .withReturned (.ok output) := by
  unfold State.readQueue
  split <;> nofun

theorem insertFailed_rx (s : State K T O) (id : K) (q : QueueId) :
    (s.insertFailed id q).rx = none := by
  unfold State.insertFailed
  split <;> rfl

theorem insertFailed_ne_ok (s : State K T O) (id : K) (q : QueueId) (output : O) :
    s.insertFailed id q ≠ .withReturned (.ok output) := by
  unfold State.insertFailed
  split <;> nofun

/-- A look at the flag keeps the channel of the call. -/
theorem loadActive_rx (s : State K T O) (q : QueueId) (rx : ChanId) :
    (s.loadActive q rx : Call K T O).rx = some rx := by
  unfold State.loadActive
  split <;> rfl

theorem loadActive_ne_ok (s : State K T O) (q : QueueId) (rx : ChanId) (output : O) :
    s.loadActive q rx ≠ .withReturned (.ok output) := by
  unfold State.loadActive
  split <;> nofun

theorem Delivery.setCall {s : State K T O} (h : Delivery s) {t : TaskId} {c : Call K T O}
    (hrx : ∀ ch, c.rx = some ch → (s.calls t).rx = some ch)
    (hret : ∀ output, c = .withReturned (.ok output) → s.Completed t output) :
    Delivery (s.setCall t c) :=
  h.call rfl rfl (fun _ _ hp => hp) (fun _ _ _ _ hp => hp) rfl rfl rfl hrx hret

/-- What arrives on a call's channel is the output of its closure. -/
theorem Delivery.receive {s : State K T O} (h : Delivery s) {t : TaskId} {q : QueueId} {rx : ChanId}
    {c : Call K T O} (hc : s.calls t = .awaitRx q rx) (hrecv : s.receive rx = some c) :
    Delivery (s.setCall t c) := by
  unfold State.receive at hrecv
  split at hrecv
  · cases hrecv
  · -- the channel is the call's own, so its closure has completed with this
    next output hsent =>
    cases hrecv
    refine h.setCall nofun fun output' hret => ?_
    cases hret
    exact h.sent rx output t hsent (by rw [hc]; rfl)
  · cases hrecv
    exact h.setCall nofun nofun

/-! ## Processors and lists

The results about the serial queue, in terms of processors and lists of futures. Who is live at a
queue can only be a processor, and who has popped a job has the future in hand. -/

/-- The processor is a live `process_queue` task of queue `q`. -/
def Proc.liveOn (q : QueueId) : Proc O → Bool
  | .lockWait q' | .locked q' | .popped q' _ | .running q' _ | .sending q' _ _ | .iterEnd q'
  | .exiting q' => q' = q
  | _ => false

/-- A processor is live on a queue exactly when its phase there is. -/
theorem Proc.phase_live (q : QueueId) (proc : Proc O) :
    (proc.phase q).live = proc.liveOn q := by
  cases proc with
  | unspawned => rfl
  | lockWait q' | locked q' | popped q' | running q' | sending q' | iterEnd q' | exiting q'
  | finished q' | panicked q' =>
    by_cases hq : q' = q <;> simp [Proc.phase, Proc.liveOn, hq, SerialQueue.Phase.live]

theorem exists_liveOn {s : State K T O} {q : QueueId} {w : Holder}
    (hw : ((view s q).phase w).live = true) : ∃ p, (s.procs p).liveOn q = true := by
  cases w with
  | processor p => exact ⟨p, (Proc.phase_live q _).symm.trans hw⟩
  | caller t =>
    exfalso
    change ((s.calls t).phase q).live = true at hw
    cases hc : s.calls t with
    | pushBack q' | pushLoad q' | pushStore q' | pushSpawn q' | pushUnlock q' | awaitRx q' =>
      by_cases hq : q' = q <;> simp [hc, Call.phase, hq, SerialQueue.Phase.live] at hw
    | idle | withRead | withSchedule | pushLock | withReturned | recvPanicked | addInsert
    | addReturned | addPanicked | changeRemove | changeInsert | changeRestore | changeReturned
    | dropped => simp [hc, Call.phase, SerialQueue.Phase.live] at hw

/-- Who has popped a job has the future in hand. -/
theorem Proc.phase_popped {q : QueueId} {proc : Proc O} {job : Holder}
    (h : proc.phase q = .popped job) : ∃ f, proc = .popped q f ∧ job = .caller f.closure := by
  cases proc with
  | popped q' f =>
    by_cases hq : q' = q
    · subst hq
      simp only [Proc.phase, if_true, SerialQueue.Phase.popped.injEq] at h
      exact ⟨f, rfl, h.symm⟩
    · simp [Proc.phase, hq] at h
  | unspawned => cases h
  | lockWait q' | locked q' | running q' | sending q' | iterEnd q' | exiting q' | finished q'
  | panicked q' => by_cases hq : q' = q <;> simp [Proc.phase, hq] at h

theorem Call.phase_ne_popped (q : QueueId) (c : Call K T O) (job : Holder) :
    c.phase q ≠ .popped job := by
  cases c with
  | pushBack q' | pushLoad q' | pushStore q' | pushSpawn q' | pushUnlock q' | awaitRx q' =>
    by_cases hq : q' = q <;> simp [Call.phase, hq]
  | idle | withRead | withSchedule | pushLock | withReturned | recvPanicked | addInsert
  | addReturned | addPanicked | changeRemove | changeInsert | changeRestore | changeReturned
  | dropped => simp [Call.phase]

/-- What has been appended to queue `q` is what was started, then what a processor has taken
off the list and not yet started, then the list. -/
def State.Accounted (s : State K T O) (q : QueueId) : Prop :=
  ∃ hand, s.appended q = s.started q ++ hand ++ (s.queue q).map (·.closure) ∧
    ∀ t ∈ hand, ∃ p tx, s.procs p = .popped q ⟨t, tx⟩

/-- The appends of a queue are those in the history. -/
theorem mem_appended {s : State K T O} {q : QueueId} {t : TaskId} :
    t ∈ s.appended q ↔ Event.appended q t ∈ s.log := by
  simp only [State.appended, List.mem_filterMap]
  constructor
  · rintro ⟨e, he, hon⟩
    cases e with
    | appended q' t' =>
      simp only [Event.appendedOn, Option.ite_none_right_eq_some, Option.some.injEq] at hon
      obtain ⟨rfl, rfl⟩ := hon
      exact he
    | started | completed => cases hon
  · exact fun hmem => ⟨_, hmem, by simp [Event.appendedOn]⟩

/-- In order means accounted for: the one job between the starts and the list is in the hand of a
processor. -/
theorem accounted_of_ordered {s : State K T O} {q : QueueId}
    (h : SerialQueue.Ordered (view s q)) : s.Accounted q := by
  have hinj : Function.Injective (List.map Holder.caller) :=
    List.map_injective_iff.mpr fun _ _ heq => Holder.caller.inj heq
  obtain ⟨hand, harr, hsome, hnone⟩ := h.account
  change (s.appended q).map Holder.caller
    = (s.started q).map Holder.caller ++ hand ++ (s.queue q).map (fun f => Holder.caller f.closure)
    at harr
  -- a processor may have one future in its hand that was neither started nor left
  by_cases hpop : ∃ w job, (view s q).phase w = .popped job
  · obtain ⟨w, job, hw⟩ := hpop
    cases w with
    | caller t => exact absurd hw (Call.phase_ne_popped q _ _)
    | processor p =>
      obtain ⟨f, hp, hjob⟩ := Proc.phase_popped hw
      have hhand : hand = [Holder.caller f.closure] := hjob ▸ hsome _ _ hw
      refine ⟨[f.closure], hinj ?_, fun t ht => ⟨p, f.tx, ?_⟩⟩
      · rw [harr, hhand]
        simp
      · rw [List.mem_singleton] at ht
        rw [hp, ht]
  · have hempty : hand = [] := hnone fun w job hw => hpop ⟨w, job, hw⟩
    refine ⟨[], hinj ?_, nofun⟩
    rw [harr, hempty]
    simp

/-! ## Whole runs

The two inductions, and no assumption on panics in either. -/

variable [DecidableEq K] [Identifiable T K]

/-- Every step keeps the delivery. Each case names the rule that it is an instance of; what is left
to say in it is which future, channel or output the step is about. -/
theorem Delivery.step {s s' : State K T O} {a : Act K T O} (h : Delivery s)
    (hstep : Step s a s') : Delivery s' := by
  -- steps of calls first, then of processors, then of contexts
  cases hstep with
  | withContext | changeId | changeMissing | changeConflict | restoreFailed | drop =>
    exact h.setCall (by rintro _ ⟨⟩) (by rintro _ ⟨⟩)
  | read => exact h.setCall (by simp [readQueue_rx]) fun _ heq => (readQueue_ne_ok _ _ _ heq).elim
  | addFailed =>
    exact h.setCall (by simp [insertFailed_rx]) fun _ heq => (insertFailed_ne_ok _ _ _ _ heq).elim
  | load hc =>
    refine h.setCall (fun ch hch => ?_) fun _ heq => (loadActive_ne_ok _ _ _ _ heq).elim
    rw [loadActive_rx] at hch
    rw [hc]
    exact hch
  | receive hc hrecv => exact h.receive hc hrecv
  | addContext | addStored | changeRemoved | changeStored | restored =>
    exact h.call rfl rfl (fun _ _ hp => hp) (fun _ _ _ _ hp => hp) rfl rfl rfl
      (by rintro _ ⟨⟩) (by rintro _ ⟨⟩)
  | schedule hc => exact h.schedule hc
  | lockCaller hc | storeActive hc | unlockCaller hc =>
    exact h.call rfl rfl (fun _ _ hp => hp) (fun _ _ _ _ hp => hp) rfl rfl rfl
      (by rw [hc]; exact fun _ hch => hch) (by rintro _ ⟨⟩)
  | pushBack hc => exact h.pushBack hc
  | @spawn t q rx hc =>
    -- the new processor has no future in hand
    refine h.call rfl rfl (fun p f hp => ?_) (fun p q' f output hp => ?_) rfl rfl rfl
      (by rw [hc]; exact fun _ hch => hch) (by rintro _ ⟨⟩)
    · by_cases hpp : p = s.nextProc
      · subst hpp; simp [State.spawnProcessor, Proc.future] at hp
      · simpa only [State.spawnProcessor, Function.update_of_ne hpp] using hp
    · rcases update_cases hp with ⟨-, hnew⟩ | ⟨-, hold⟩
      · cases hnew
      · exact hold
  | lockProcessor | stop | again | exit =>
    exact h.proc rfl rfl (fun q _ hf => Or.inl ⟨q, hf⟩) rfl rfl (List.Subset.refl _)
      (by rintro _ ⟨⟩) (by rintro _ _ _ ⟨⟩)
  | @pop p q f rest hp hqueue =>
    have hmem : ∀ g, g = f ∨ g ∈ rest → s.Pending g := fun g hg =>
      Or.inl ⟨q, by rw [hqueue]; exact List.mem_cons.mpr hg⟩
    refine h.proc rfl rfl (fun q' g hg => ?_) rfl rfl (List.Subset.refl _)
      (fun g hg => hmem g (Or.inl (Option.some.inj hg).symm)) (by rintro _ _ _ ⟨⟩)
    by_cases hqq : q' = q
    · subst hqq
      simp only [State.popFront, Function.update_self] at hg
      exact hmem g (Or.inr hg)
    · simp only [State.popFront, Function.update_of_ne hqq] at hg
      exact Or.inl ⟨q', hg⟩
  | @start p q f hp hguard =>
    exact h.proc rfl rfl (fun q _ hf => Or.inl ⟨q, hf⟩) rfl rfl (List.subset_append_left _ _)
      (fun g hg => Or.inr ⟨p, by rw [hp]; exact hg⟩) (by rintro _ _ _ ⟨⟩)
  -- the output is on record with its closure before anybody has it
  | @complete p q f output hp =>
    refine h.proc rfl rfl (fun q _ hf => Or.inl ⟨q, hf⟩) rfl rfl (List.subset_append_left _ _)
      (fun g hg => Or.inr ⟨p, by rw [hp]; exact hg⟩) (fun q' g output' heq => ?_)
    cases heq
    exact ⟨q, List.mem_append_right _ (List.mem_singleton_self _)⟩
  | @send p q f output hp =>
    refine h.resolve rfl rfl rfl rfl rfl rfl (Or.inr ⟨p, by rw [hp]; rfl⟩) rfl fun o heq => ?_
    cases heq
    exact h.sending p q f output hp
  -- a channel that is closed has sent nothing
  | @panic p q f hp =>
    exact h.resolve rfl rfl rfl rfl rfl rfl (Or.inr ⟨p, by rw [hp]; rfl⟩) rfl
      (by rintro _ ⟨⟩)
  | mutate | dropGuard =>
    exact ⟨h.held, h.tx_lt, h.closure_of_rx, h.sending, h.unused, h.sent, h.returned⟩

theorem delivery_of_run {as : List (Act K T O)} {s : State K T O}
    (run : (system K T O).Run as s) : Delivery s :=
  run.invariant delivery_new fun _ _ _ _ _ h _ hstep => h.step (step_cases hstep)

/-! ## Serialisation

The serial queue gives the order, the delivery gives the outputs. -/

/-- **Work on a context is serialised.** In every run without a panicking closure, for every
context queue: at most one `process_queue` task is live; no two closures run at the same
time; closures start in the order of their appends, each appended once, and what is appended
is started, in hand or on the list, whatever became of its caller; an unlocked list with
futures on it has a live processor; and what `schedule_and_wait` returns is the output of the
closure it was given. -/
theorem context_serialised {as : List (Act K T O)} {s : State K T O}
    (run : (system K T O).RunUnder NoPanic as s) :
    (∀ q p p', (s.procs p).liveOn q = true → (s.procs p').liveOn q = true → p = p') ∧
    (∀ q p p' f f', s.procs p = .running q f → s.procs p' = .running q f' → p = p' ∧ f = f') ∧
    (∀ q, s.started q <+: s.appended q ∧ (s.appended q).Nodup ∧ s.Accounted q) ∧
    (∀ q, s.lock q = none → s.queue q ≠ [] → ∃ p, (s.procs p).liveOn q = true) ∧
    (∀ t output, s.calls t = .withReturned (.ok output) → s.Completed t output) := by
  have hserial := serial_of_run run
  have hone : ∀ q p p', (s.procs p).liveOn q = true → (s.procs p').liveOn q = true → p = p' := by
    intro q p p' hp hp'
    have heq := (hserial q).1.worker_unique (.processor p) (.processor p')
      ((Proc.phase_live q _).trans hp) ((Proc.phase_live q _).trans hp')
    exact Holder.processor.inj heq
  refine ⟨hone, fun q p p' f f' hp hp' => ?_, fun q => ⟨?_, ?_, ?_⟩, fun q hfree hqueue => ?_,
    (delivery_of_run run.run).returned⟩
  · -- who runs a closure is live, so there is one of them
    have hpp : p = p' := hone q p p' (by simp [hp, Proc.liveOn]) (by simp [hp', Proc.liveOn])
    subst hpp
    rw [hp] at hp'
    cases hp'
    exact ⟨rfl, rfl⟩
  · -- what was started is the beginning of what was appended
    obtain ⟨hand, happ, -⟩ := accounted_of_ordered (hserial q).2
    exact ⟨hand ++ (s.queue q).map (·.closure), by rw [happ, List.append_assoc]⟩
  · exact List.Nodup.of_map _ (hserial q).2.arrived_nodup
  · exact accounted_of_ordered (hserial q).2
  · -- a list with futures on it has somebody to serve it
    obtain ⟨w, hw⟩ := (hserial q).1.worker_of_job hfree (by simpa [view] using hqueue)
    exact exists_liveOn hw

/-- For traces: a context that is its own id. -/
instance : Identifiable Nat Nat where
  id n := n

/-- Two calls push onto the context with id 5, and the second is dropped while it waits. The
processor the first has spawned runs both closures, and the first call returns. -/
def twoCalls : List (Act Nat Nat Nat) :=
  [.addContext 0 5, .caller 0, .withContext 1 5] ++ List.replicate 8 (.caller 1) ++
    [.withContext 2 5] ++ List.replicate 6 (.caller 2) ++ [.drop 2] ++
    List.replicate 3 (.proc 0) ++ [.mutate 0 5, .dropGuard 0, .complete 0 7] ++
    List.replicate 5 (.proc 0) ++ [.caller 1]

/-- The closure of the dropped call runs all the same, after the first one. -/
theorem context_serialised_twoCalls :
    ∃ s, (system Nat Nat Nat).RunUnder NoPanic twoCalls s ∧ s.calls 2 = .dropped ∧
      s.started 0 = [1, 2] ∧ s.started 0 <+: s.appended 0 ∧ s.Completed 1 7 := by
  let s := ((system Nat Nat Nat).exec twoCalls).get (by decide)
  have hrun : (system Nat Nat Nat).RunUnder NoPanic twoCalls s := by
    refine .of_mem (System.run_of_exec (by simp [s])) fun _ a ha p => ?_
    have hno : ∀ a ∈ twoCalls, a ≠ .panic p := by simp [twoCalls]
    exact hno a ha
  obtain ⟨-, -, hqueues, -, hreturned⟩ := context_serialised hrun
  exact ⟨s, hrun, rfl, rfl, (hqueues 0).1, hreturned 1 7 rfl⟩

end UnifyAir.Manager
