import UnifyAir.TokenStore.Spec

/-!
# UnifyAir — what one step of the `TokenStore` can do

`Step` lists the transitions of `step` with their guards, one constructor each, and
`step_cases` inverts the step function into it once. Every invariant of the store is proved
by cases on `Step`, so none of them unfolds `step` again.

A step moves exactly one call, the one its action names (`Step.calls_other`).
-/

namespace UnifyAir.TokenStore

open Concurrency

variable {K V E : Type} [DecidableEq K]

/-- The transitions of the store. -/
inductive Step (s : State K V E) : Act K V E → State K V E → Prop where
  | get {t : TaskId} {key : K} (hc : s.calls t = .idle) :
      Step s (.get t key) (s.setCall t (.getRead key 1))
  | set {t : TaskId} {key : K} (hc : s.calls t = .idle) :
      Step s (.set t key) (s.setCall t (.setStart key))
  | read {t : TaskId} {key : K} {round : Nat} (hc : s.calls t = .getRead key round) :
      Step s (.advance t) (s.setCall t (s.readEntry key round))
  | park {t : TaskId} {key : K} {round : Nat} {n : NotifyId}
      (hc : s.calls t = .getCloned key round n) :
      Step s (.advance t) (s.setCall t (.getParked key round n (s.notified n)))
  | wake {t : TaskId} {key : K} {round : Nat} {n : NotifyId} {seen : Nat}
      (hc : s.calls t = .getParked key round n seen) (hn : seen < s.notified n) :
      Step s (.advance t) (s.setCall t (State.nextRound key round))
  | begin {t : TaskId} {key : K} (hc : s.calls t = .setStart key) :
      Step s (.advance t) (s.begin t key)
  | check {t : TaskId} {key : K} {n : NotifyId} {id : BitVec 32}
      (hc : s.calls t = .setCheck key n id) :
      Step s (.advance t) (s.setCall t (s.checkEntry key n id))
  | upsert {t : TaskId} {key : K} {n : NotifyId} {id : BitVec 32}
      (hc : s.calls t = .setUpsert key n id) :
      Step s (.advance t) (s.upsert t key n id)
  | resolve {t : TaskId} {key : K} {n : NotifyId} {id : BitVec 32} {res : Except E V}
      (hc : s.calls t = .setRunning key n id) :
      Step s (.resolve t res) (s.resolveFuture t key n id res)
  | write {t : TaskId} {key : K} {n : NotifyId} {arc : ArcId} {res : Except (StoreError E) Unit}
      (hc : s.calls t = .setWrite key n arc res) :
      Step s (.advance t) (s.write t key n arc res)
  | notify {t : TaskId} {key : K} {n : NotifyId} {arc : ArcId} {res : Except (StoreError E) Unit}
      (hc : s.calls t = .setNotify key n arc res) :
      Step s (.advance t) (s.notifyWaiters t key n arc res)
  | drop {t : TaskId} (hc : (s.calls t).atAwait = true) :
      Step s (.drop t) (s.setCall t .dropped)

/-- The steps that a call takes by itself. Which one it is, is decided by where the call stands. -/
theorem advance_cases {s s' : State K V E} {t : TaskId} (h : s.advance t = some s') :
    Step s (.advance t) s' := by
  unfold State.advance at h
  cases hc : s.calls t with
  | getRead key round =>
    simp only [hc, Option.some.injEq] at h; subst h; exact .read hc
  | getCloned key round n =>
    simp only [hc, Option.some.injEq] at h; subst h; exact .park hc
  | getParked key round n seen =>
    simp only [hc] at h
    split at h
    · next hn => simp only [Option.some.injEq] at h; subst h; exact .wake hc hn
    · cases h
  | setStart key =>
    simp only [hc, Option.some.injEq] at h; subst h; exact .begin hc
  | setCheck key n id =>
    simp only [hc, Option.some.injEq] at h; subst h; exact .check hc
  | setUpsert key n id =>
    simp only [hc, Option.some.injEq] at h; subst h; exact .upsert hc
  | setWrite key n arc res =>
    simp only [hc, Option.some.injEq] at h; subst h; exact .write hc
  | setNotify key n arc res =>
    simp only [hc, Option.some.injEq] at h; subst h; exact .notify hc
  | idle | getReturned | setRunning | setReturned | dropped =>
    simp [hc] at h

/-- The inversion of the step function: a step that is enabled is one of the transitions, with all
that is to be known of the call before it. -/
theorem step_cases {s s' : State K V E} {a : Act K V E} (h : step s a = some s') :
    Step s a s' := by
  cases a with
  | get t key =>
    simp only [step] at h
    split at h
    · next hc => simp only [Option.some.injEq] at h; subst h; exact .get hc
    · cases h
  | set t key =>
    simp only [step] at h
    split at h
    · next hc => simp only [Option.some.injEq] at h; subst h; exact .set hc
    · cases h
  | advance t => exact advance_cases h
  | resolve t res =>
    simp only [step] at h
    split at h
    · next hc => simp only [Option.some.injEq] at h; subst h; exact .resolve hc
    · cases h
  | drop t =>
    simp only [step] at h
    split at h
    · next hc => simp only [Option.some.injEq] at h; subst h; exact .drop hc
    · cases h

/-! ## A step moves one call

Calls share the map, the heap and the counts of the `Notify`s, and nothing else. So an invariant
about calls has to be looked at for the call that moves, and for what it does to the shared parts.
-/

/-- The call an action is about. -/
def Act.task : Act K V E → TaskId
  | .get t _ | .set t _ | .advance t | .resolve t _ | .drop t => t

/-- A step leaves all calls alone but the one that its action names. -/
theorem Step.calls_other {s s' : State K V E} {a : Act K V E} (h : Step s a s') {t : TaskId}
    (ht : t ≠ a.task) : s'.calls t = s.calls t := by
  cases h <;> exact Function.update_of_ne ht ..

/-- A call nobody has made is idle. It is the frame rule, applied to a call that no action names. -/
theorem calls_idle_of_absent {as : List (Act K V E)} {s : State K V E}
    (run : (system K V E).Run as s) {t : TaskId} (ht : ∀ a ∈ as, a.task ≠ t) :
    s.calls t = .idle := by
  have hframe : ∀ s a s' t, (system K V E).step s a = some s' → t ≠ a.task →
      s'.calls t = s.calls t := fun _ _ _ _ hstep => (step_cases hstep).calls_other
  exact run.untouched hframe ht

/-! ## A call stays a call of its kind

A call does not change its key while it is under way, so what is known of the key when the call was
made holds until it returns. -/

/-- The operations of the store. -/
inductive Op where
  | get
  | set
  deriving DecidableEq, Repr

/-- Which operation a call is, and on which key. -/
def Call.op : Call K V E → Option (Op × K)
  | .getRead key _ | .getCloned key _ _ | .getParked key _ _ _ | .getReturned key _ =>
    some (.get, key)
  | .setStart key | .setCheck key _ _ | .setUpsert key _ _ | .setRunning key _ _
  | .setWrite key _ _ _ | .setNotify key _ _ _ | .setReturned key _ => some (.set, key)
  | .idle | .dropped => none

omit [DecidableEq K] in
/-- The call that was moved stands where it was moved to. -/
@[simp] theorem setCall_calls_self (s : State K V E) (t : TaskId) (c : Call K V E) :
    (s.setCall t c).calls t = c :=
  Function.update_self ..

omit [DecidableEq K] in
/-- A round of `get` stays a `get` on its key, whatever it finds. -/
theorem readEntry_op (s : State K V E) (key : K) (round : Nat) :
    (s.readEntry key round).op = some (.get, key) := by
  unfold State.readEntry
  split
  · rfl
  · split <;> rfl

omit [DecidableEq K] in
theorem nextRound_op (key : K) (round : Nat) :
    (State.nextRound key round : Call K V E).op = some (.get, key) := by
  unfold State.nextRound
  split <;> rfl

omit [DecidableEq K] in
/-- A check of `set` stays a `set` on its key, whether it passes or not. -/
theorem checkEntry_op (s : State K V E) (key : K) (n : NotifyId) (id : BitVec 32) :
    (s.checkEntry key n id).op = some (.set, key) := by
  unfold State.checkEntry
  split
  · split <;> rfl
  · rfl

/-- A call that advances or whose future resolves is the operation it was. Only being made and being
dropped change that. -/
theorem Step.op_eq {s s' : State K V E} {a : Act K V E} (h : Step s a s')
    (ha : (∃ t, a = .advance t) ∨ ∃ t res, a = .resolve t res) (t : TaskId) :
    (s'.calls t).op = (s.calls t).op := by
  cases h with
  | get => rcases ha with ⟨_, ha⟩ | ⟨_, _, ha⟩ <;> cases ha
  | set => rcases ha with ⟨_, ha⟩ | ⟨_, _, ha⟩ <;> cases ha
  | drop => rcases ha with ⟨_, ha⟩ | ⟨_, _, ha⟩ <;> cases ha
  | read hc => exact update_view Call.op (by rw [readEntry_op, hc]; rfl) t
  | wake hc hn => exact update_view Call.op (by rw [nextRound_op, hc]; rfl) t
  | check hc => exact update_view Call.op (by rw [checkEntry_op, hc]; rfl) t
  | park hc | begin hc | upsert hc | resolve hc | write hc | notify hc =>
    exact update_view Call.op (by rw [hc]; rfl) t

/-! ## A call is made once

A call that has begun is never idle again, so its first action in a schedule is its only beginning.
-/

omit [DecidableEq K] in
theorem ne_idle_of_op {c : Call K V E} {op : Op × K} (h : c.op = some op) : c ≠ .idle := by
  intro hc
  rw [hc] at h
  cases h

/-- The call that a step moves is not idle after it, even if it has returned or was dropped. -/
theorem Step.task_ne_idle {s s' : State K V E} {a : Act K V E} (h : Step s a s') :
    s'.calls a.task ≠ .idle := by
  have moved : ∀ {t : TaskId} {c : Call K V E}, c ≠ .idle →
      Function.update s.calls t c t ≠ .idle := by
    intro t c hc
    rw [Function.update_self]
    exact hc
  cases h with
  | read => exact moved (ne_idle_of_op (readEntry_op ..))
  | wake => exact moved (ne_idle_of_op (nextRound_op ..))
  | check => exact moved (ne_idle_of_op (checkEntry_op ..))
  | get | set | park | begin | upsert | resolve | write | notify | drop => exact moved nofun

/-- A call that an action of the schedule names is not idle. Induction on the run: an earlier action
left the call not idle, and a later step of others leaves it alone. -/
theorem not_idle_of_mem {as : List (Act K V E)} {s : State K V E}
    (run : (system K V E).Run as s) {a : Act K V E} (ha : a ∈ as) : s.calls a.task ≠ .idle := by
  refine run.history (P := fun as s => ∀ a ∈ as, s.calls a.task ≠ .idle) nofun ?_ a ha
  intro as s b s' _ ih _ hstep a ha
  have hb : Step s b s' := step_cases hstep
  by_cases htask : a.task = b.task
  · rw [htask]
    exact hb.task_ne_idle
  · rw [hb.calls_other htask]
    refine ih a ((List.mem_append.mp ha).resolve_right fun hlast => htask ?_)
    rw [List.mem_singleton.mp hlast]

/-- A `set` call has one key: a second beginning would need an idle call. So what is known of the
key of a call is known for all of the run. -/
theorem set_once {as : List (Act K V E)} {s : State K V E} (run : (system K V E).Run as s)
    {t : TaskId} {key key' : K} (h : Act.set t key ∈ as) (h' : Act.set t key' ∈ as) :
    key = key' := by
  refine run.history (P := fun as _ => ∀ key key', Act.set t key ∈ as → Act.set t key' ∈ as →
    key = key') nofun ?_ key key' h h'
  intro as s a s' run ih _ hstep key key' h h'
  -- the last action is a `set` of `t` only when no earlier one is
  have hfresh : ∀ {key key'}, Act.set t key ∈ as → a ≠ .set t key' := by
    rintro key key' hmem rfl
    have hset : Step s (.set t key') s' := step_cases hstep
    cases hset with
    | set hc => exact not_idle_of_mem run hmem hc
  simp only [List.mem_append, List.mem_singleton] at h h'
  rcases h with h | h <;> rcases h' with h' | h'
  · exact ih key key' h h'
  · exact absurd h'.symm (hfresh h)
  · exact absurd h.symm (hfresh h')
  · cases h.trans h'.symm
    rfl

end UnifyAir.TokenStore
