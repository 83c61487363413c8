import UnifyAir.Manager.Steps

/-!
# UnifyAir — a `ContextManager` as its users see it

A task that uses the manager sees its own calls and what is in the map. `Progress` is a step
of the manager reduced to that, for a manager whose ids nobody changes: no call moves, a
`with_context` call moves on, or an `add_context` call ends, with its queue in the map or
with a panic.

* **`Step.progress`** — every step that begins no call is one of these.
* **`Progress.queues_mono`**, **`Progress.with_stays`** — an entry of the map stays, and a
  `with_context` call on an id in the map stays with the queue of that id.
-/

namespace UnifyAir.Manager

variable {K T O : Type}

/-- Steps of calls and processors that are there already, by closures that do not write. -/
def Act.isProgress : Act K T O → Bool
  | .caller _ | .proc _ | .complete _ _ | .panic _ | .dropGuard _ => true
  | _ => false

/-- A `change_id` call. -/
def Call.isChange : Call K T O → Bool
  | .changeRemove _ _ | .changeInsert _ _ _ | .changeRestore _ _ _ => true
  | _ => false

/-- A `with_context(id, ..)` call that finds, or has found, the queue `q`. -/
def Call.onQueue (id : K) (q : QueueId) : Call K T O → Prop
  | .withRead id' => id' = id
  | .withSchedule q' | .pushLock q' _ | .pushBack q' _ | .pushLoad q' _ | .pushStore q' _
  | .pushSpawn q' _ | .pushUnlock q' _ | .awaitRx q' _ => q' = q
  | .withReturned (.ok _) | .recvPanicked => True
  | _ => False

/-- A `with_context` call that has not ended. -/
def Call.isWith : Call K T O → Bool
  | .withRead _ | .withSchedule _ | .pushLock _ _ | .pushBack _ _ | .pushLoad _ _
  | .pushStore _ _ | .pushSpawn _ _ | .pushUnlock _ _ | .awaitRx _ _ => true
  | _ => false

/-- A step as it shows in the calls, the map and the list of appends. -/
inductive Progress [DecidableEq K] (s s' : State K T O) : Prop where
  | quiet (hcalls : s'.calls = s.calls) (hqueues : s'.queues = s.queues)
      (hlog : ∀ q t, .appended q t ∈ s'.log → Event.appended q t ∈ s.log)
  | moved {t : TaskId} {c : Call K T O} (hwith : (s.calls t).isWith = true)
      (hcalls : s'.calls = Function.update s.calls t c) (hqueues : s'.queues = s.queues)
      (hstays : ∀ id q, s.queues id = some q → (s.calls t).onQueue id q → c.onQueue id q)
      (hchange : c.isChange = false)
      (hlog : ∀ q t', .appended q t' ∈ s'.log →
        Event.appended q t' ∈ s.log ∨ t' = t ∧ ∃ rx, s.calls t = .pushBack q rx)
  | stored {t : TaskId} {id : K} {q : QueueId} (hc : s.calls t = .addInsert id q)
      (hkey : s.queues id = none)
      (hcalls : s'.calls = Function.update s.calls t (.addReturned (.ok ())))
      (hqueues : s'.queues = Function.update s.queues id (some q)) (hlog : s'.log = s.log)
  | refused {t : TaskId} {id : K} {q other : QueueId} (hc : s.calls t = .addInsert id q)
      (hkey : s.queues id = some other)
      (hcalls : s'.calls = Function.update s.calls t .addPanicked)
      (hqueues : s'.queues = s.queues) (hlog : s'.log = s.log)

/-- The error path of `add_context` always panics: the `Arc` that comes back is one of two, so
`Arc::into_inner` has nothing to give. -/
theorem insertFailed_eq (s : State K T O) (id : K) (q : QueueId) :
    s.insertFailed id q = .addPanicked := by
  simp [State.insertFailed, arcIntoInner]

variable [DecidableEq K]

theorem Progress.ofMove {s s' : State K T O} {t : TaskId} {c : Call K T O}
    (hwith : (s.calls t).isWith = true) (hcalls : s'.calls = Function.update s.calls t c)
    (hqueues : s'.queues = s.queues)
    (hstays : ∀ id q, s.queues id = some q → (s.calls t).onQueue id q → c.onQueue id q)
    (hchange : c.isChange = false) (hlog : s'.log = s.log) : Progress s s' :=
  .moved hwith hcalls hqueues hstays hchange fun _ _ hmem => Or.inl (hlog ▸ hmem)

/-- A call looks its id up. If the id is in the map the call goes on with the queue under it, which
is what staying means here. -/
theorem Progress.read (s : State K T O) {t : TaskId} {id : K} (hc : s.calls t = .withRead id) :
    Progress s (s.setCall t (s.readQueue id)) := by
  refine .ofMove (by rw [hc]; rfl) rfl rfl (fun id' q hkey hon => ?_) ?_ rfl
  · rw [hc] at hon
    cases hon
    simp [State.readQueue, hkey, Call.onQueue]
  · unfold State.readQueue
    split <;> rfl

/-- A call gets what is on its channel, and is over. -/
theorem Progress.receive {s : State K T O} {t : TaskId} {q : QueueId} {rx : ChanId}
    {c : Call K T O} (hc : s.calls t = .awaitRx q rx) (hrecv : s.receive rx = some c) :
    Progress s (s.setCall t c) := by
  have hwith : (s.calls t).isWith = true := by rw [hc]; rfl
  unfold State.receive at hrecv
  split at hrecv
  · cases hrecv
  · cases hrecv
    exact .ofMove hwith rfl rfl (fun _ _ _ _ => trivial) rfl rfl
  · cases hrecv
    exact .ofMove hwith rfl rfl (fun _ _ _ _ => trivial) rfl rfl

/-- A call looks at the flag of its queue. Whichever way it goes on, it is the same queue. -/
theorem Progress.load (s : State K T O) {t : TaskId} {q : QueueId} {rx : ChanId}
    (hc : s.calls t = .pushLoad q rx) : Progress s (s.setCall t (s.loadActive q rx)) := by
  have hwith : (s.calls t).isWith = true := by rw [hc]; rfl
  refine .ofMove hwith rfl rfl (fun id q' hkey hon => ?_) ?_ rfl
  · rw [hc] at hon
    unfold State.loadActive
    split <;> exact hon
  · unfold State.loadActive
    split <;> rfl

/-- A call pushes its future. This is the one step that appends anything. -/
theorem Progress.pushBack (s : State K T O) {t : TaskId} {q : QueueId} {rx : ChanId}
    (hc : s.calls t = .pushBack q rx) : Progress s (s.pushBack t q rx) := by
  refine .moved (by rw [hc]; rfl) rfl rfl (fun _ _ _ hon => ?_) rfl fun q' t' hmem => ?_
  · rw [hc] at hon; exact hon
  · rcases List.mem_append.mp hmem with hold | hnew
    · exact Or.inl hold
    · rw [List.mem_singleton] at hnew
      cases hnew
      exact Or.inr ⟨rfl, rx, hc⟩

variable [Identifiable T K]

/-- Every step that begins no call. The steps of processors do not show in the calls; those of
`change_id` are excluded by the hypothesis. -/
theorem Step.progress {s s' : State K T O} {a : Act K T O} (h : Step s a s')
    (hact : a.isProgress = true) (hchange : ∀ t, (s.calls t).isChange = false) :
    Progress s s' := by
  have hstuck : ∀ t c, s.calls t = c → c.isChange = true → False := by
    intro t c hc htrue
    rw [← hc, hchange t] at htrue
    cases htrue
  -- one case for each step of a call; what is not a call's step is quiet
  cases h with
  | withContext | addContext | changeId | drop | mutate => cases hact
  | read hc => exact .read s hc
  | load hc => exact .load s hc
  | receive hc hrecv => exact .receive hc hrecv
  | pushBack hc => exact .pushBack s hc
  | schedule hc | lockCaller hc | storeActive hc | spawn hc | unlockCaller hc =>
    refine .ofMove (by rw [hc]; rfl) rfl rfl (fun _ _ _ hon => ?_) rfl rfl
    rw [hc] at hon
    exact hon
  | addFailed hc hkey =>
    rw [insertFailed_eq]
    exact .refused hc hkey rfl rfl rfl
  | addStored hc hkey => exact .stored hc hkey rfl rfl rfl
  | changeMissing hc | changeRemoved hc | changeConflict hc | changeStored hc
  | restoreFailed hc | restored hc => exact (hstuck _ _ hc rfl).elim
  | lockProcessor | stop | pop | send | again | exit | panic | dropGuard =>
    exact .quiet rfl rfl fun _ _ hmem => hmem
  | start | complete =>
    refine .quiet rfl rfl fun q t hmem => ?_
    rcases List.mem_append.mp hmem with hold | hnew
    · exact hold
    · rw [List.mem_singleton] at hnew; cases hnew

/-- Such a step makes no queue and writes no context, since a queue is made by the call that begins
and a context is written by its closure. -/
theorem Step.contexts_eq {s s' : State K T O} {a : Act K T O} (h : Step s a s')
    (hact : a.isProgress = true) : s'.inner = s.inner ∧ s'.nextQueue = s.nextQueue := by
  cases h with
  | withContext | addContext | changeId | drop | mutate => cases hact
  | read | load | receive | pushBack | schedule | lockCaller | storeActive | spawn | unlockCaller
  | addFailed | addStored | changeMissing | changeRemoved | changeConflict | changeStored
  | restoreFailed | restored | lockProcessor | stop | pop | send | again | exit | panic
  | dropGuard | start | complete => exact ⟨rfl, rfl⟩

/-- Such a step moves no call but the one it names. -/
theorem Step.calls_other {s s' : State K T O} {a : Act K T O} (h : Step s a s')
    (hact : a.isProgress = true) {t : TaskId} (ht : a ≠ .caller t) : s'.calls t = s.calls t := by
  have hne : ∀ t', Act.caller t' ≠ (.caller t : Act K T O) → t ≠ t' := by
    rintro t' hcaller rfl
    exact hcaller rfl
  cases h with
  | withContext | addContext | changeId | drop | mutate => cases hact
  | read | load | receive | pushBack | schedule | lockCaller | storeActive | spawn | unlockCaller
  | addFailed | addStored | changeMissing | changeRemoved | changeConflict | changeStored
  | restoreFailed | restored => exact Function.update_of_ne (hne _ ht) ..
  | lockProcessor | stop | pop | send | again | exit | panic | dropGuard | start | complete => rfl

namespace Progress

omit [Identifiable T K]

variable {s s' : State K T O}

/-- An entry of the map stays: an insert goes under a free id, and nothing is removed. -/
theorem queues_mono (h : Progress s s') {id : K} {q : QueueId} (hq : s.queues id = some q) :
    s'.queues id = some q := by
  cases h with
  | quiet _ hqueues | moved _ _ hqueues | refused _ _ _ hqueues => rw [hqueues]; exact hq
  | @stored t id' q' hc hkey hcalls hqueues =>
    have hne : id ≠ id' := by
      rintro rfl
      rw [hkey] at hq
      cases hq
    rw [hqueues, Function.update_of_ne hne]
    exact hq

/-- A call moves only if it is a `with_context` or an `add_context` under way. -/
theorem calls_still (h : Progress s s') {t : TaskId} (hwith : (s.calls t).isWith = false)
    (hadd : ∀ id q, s.calls t ≠ .addInsert id q) : s'.calls t = s.calls t := by
  -- a step of another call, or of none
  cases h with
  | quiet hcalls => rw [hcalls]
  | @moved t' c hwith' hcalls =>
    have hne : t ≠ t' := by
      rintro rfl
      rw [hwith] at hwith'
      cases hwith'
    rw [hcalls, Function.update_of_ne hne]
  | @stored t' id q hc hkey hcalls | @refused t' id q _ hc hkey hcalls =>
    have hne : t ≠ t' := by
      rintro rfl
      exact hadd id q hc
    rw [hcalls, Function.update_of_ne hne]

/-- A `with_context` call on an id in the map stays with the queue of that id. -/
theorem with_stays (h : Progress s s') {t : TaskId} {id : K} {q : QueueId}
    (hq : s.queues id = some q) (hon : (s.calls t).onQueue id q) :
    (s'.calls t).onQueue id q := by
  -- a call that is on its queue leaves it only by returning
  cases h with
  | quiet hcalls => rw [hcalls]; exact hon
  | @moved t' c _ hcalls _ hstays =>
    by_cases ht : t = t'
    · subst ht
      rw [hcalls, Function.update_self]
      exact hstays id q hq hon
    · rw [hcalls, Function.update_of_ne ht]
      exact hon
  | @stored t' id' q' hc hkey hcalls | @refused t' id' q' _ hc hkey hcalls =>
    have hne : t ≠ t' := by
      rintro rfl
      rw [hc] at hon
      exact hon
    rw [hcalls, Function.update_of_ne hne]
    exact hon

/-- What becomes of an `add_context` call: it waits, or its queue is in the map, or it has panicked.
The panic is the insert under an id that is taken, as the code has it. -/
theorem add_ends (h : Progress s s') {t : TaskId} {id : K} {q : QueueId}
    (hc : s.calls t = .addInsert id q) :
    s'.calls t = .addInsert id q ∨
      s'.calls t = .addReturned (.ok ()) ∧ s'.queues id = some q ∨
      s'.calls t = .addPanicked := by
  -- of an insert there are two ends, and this call makes one of them
  cases h with
  | quiet hcalls => rw [hcalls]; exact Or.inl hc
  | @moved t' c hwith hcalls =>
    have hne : t ≠ t' := by
      rintro rfl
      rw [hc] at hwith
      cases hwith
    rw [hcalls, Function.update_of_ne hne]
    exact Or.inl hc
  | @stored t' id' q' hc' hkey hcalls hqueues =>
    by_cases ht : t = t'
    · subst ht
      rw [hc] at hc'
      cases hc'
      rw [hcalls, hqueues, Function.update_self, Function.update_self]
      exact Or.inr (Or.inl ⟨rfl, rfl⟩)
    · rw [hcalls, Function.update_of_ne ht]
      exact Or.inl hc
  | @refused t' id' q' _ hc' hkey hcalls =>
    by_cases ht : t = t'
    · subst ht
      rw [hcalls, Function.update_self]
      exact Or.inr (Or.inr rfl)
    · rw [hcalls, Function.update_of_ne ht]
      exact Or.inl hc

/-- An entry of the map was there, or an `add_context` call has put it there. -/
theorem queues_new (h : Progress s s') {id : K} {q : QueueId} (hq : s'.queues id = some q) :
    s.queues id = some q ∨ ∃ t, s.calls t = .addInsert id q ∧ s.queues id = none ∧
      s'.calls t = .addReturned (.ok ()) := by
  -- only an insert that is not refused writes the map
  cases h with
  | quiet _ hqueues | moved _ _ hqueues | refused _ _ _ hqueues =>
    rw [hqueues] at hq
    exact Or.inl hq
  | @stored t id' q' hc hkey hcalls hqueues =>
    rw [hqueues] at hq
    by_cases hid : id = id'
    · subst hid
      rw [Function.update_self] at hq
      cases hq
      exact Or.inr ⟨t, hc, hkey, by rw [hcalls, Function.update_self]⟩
    · rw [Function.update_of_ne hid] at hq
      exact Or.inl hq

/-- An append was there, or a call has just made it. -/
theorem appended_new (h : Progress s s') {q : QueueId} {t : TaskId}
    (hmem : Event.appended q t ∈ s'.log) :
    Event.appended q t ∈ s.log ∨ ∃ rx, s.calls t = .pushBack q rx := by
  cases h with
  | quiet _ _ hlog => exact Or.inl (hlog q t hmem)
  | moved _ _ _ _ _ hlog =>
    rcases hlog q t hmem with hold | ⟨rfl, hnew⟩
    · exact Or.inl hold
    · exact Or.inr hnew
  | stored _ _ _ _ hlog | refused _ _ _ _ hlog => exact Or.inl (hlog ▸ hmem)

theorem no_change (h : Progress s s') (hchange : ∀ t, (s.calls t).isChange = false) (t : TaskId) :
    (s'.calls t).isChange = false := by
  -- no step makes a call one of `change_id`
  cases h with
  | quiet hcalls => rw [hcalls]; exact hchange t
  | @moved t' c _ hcalls _ _ hc =>
    by_cases ht : t = t'
    · subst ht; rw [hcalls, Function.update_self]; exact hc
    · rw [hcalls, Function.update_of_ne ht]; exact hchange t
  | @stored t' id q _ _ hcalls | @refused t' id q _ _ _ hcalls =>
    by_cases ht : t = t'
    · subst ht; rw [hcalls, Function.update_self]; rfl
    · rw [hcalls, Function.update_of_ne ht]; exact hchange t

end Progress

end UnifyAir.Manager
