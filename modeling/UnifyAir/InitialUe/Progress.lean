import UnifyAir.InitialUe.Winner
import UnifyAir.Manager.Completion
import UnifyAir.Manager.Progress

/-!
# UnifyAir — the InitialUEMessage handlers come to an end

A handler takes six steps of its own and makes two calls, and both calls end. So all handlers of a
gNB come to an end, and where they have, every RAN UE NGAP ID that a message has brought has its UE
context: one of the handlers with this id has succeeded, and only one.

* **`steps_le`** — the steps of handlers and their calls.
* **`over_of_stuck`** — no deadlock.
* **`served_of_run`** — an id is in the map, or a handler is on the way to it.
* **`servedBy_of_succeeded`** — what a handler succeeds with.
* **`handlers_end`** — every run can be brought to its end, where each id has one winner.
-/

namespace UnifyAir.InitialUe

open Concurrency
open Manager (TaskId QueueId)
open Ngap (ConnId)

/-! ## Steps

What a handler has left covers its own steps and those of the calls that it will make. A message
brings 44 with it, of which 38 are for its two calls. -/

/-- A handler is spawned. -/
def Act.isReceive : Act → Bool
  | .receive _ _ => true
  | _ => false

/-- The handler that moves. -/
def Act.handler : Act → Option HandlerId
  | .receive h _ | .check h | .alloc h | .add h | .added h | .schedule h | .returned h => some h
  | .manager _ => none

/-- A handler that is there moves. -/
def Act.isOwn : Act → Bool
  | .check _ | .alloc _ | .add _ | .added _ | .schedule _ | .returned _ => true
  | _ => false

/-- What a handler has left: its own steps, and 19 for each call that it will make. -/
def Handler.left : Handler → Nat
  | .check _ => 44
  | .alloc _ => 43
  | .add _ _ => 42
  | .adding _ => 22
  | .schedule _ => 21
  | .scheduling _ => 1
  | .idle | .succeeded _ | .failed _ | .aborted _ | .unreachable _ => 0

/-- A check that finds the id free leaves 43 of the 44. -/
theorem checkContext_left (s : State) (request : InitialUeMessage) :
    (s.checkContext request).left ≤ 43 := by
  unfold State.checkContext
  split
  · exact Nat.zero_le _
  · exact Nat.le_refl _

theorem onAdded_left {w : Work} {c : Manager.Call RanUeNgapId UeContext Unit} {handler : Handler}
    (h : onAdded w c = some handler) : handler.left ≤ 21 := by
  unfold onAdded at h
  split at h <;> cases h
  · exact Nat.zero_le _
  · exact Nat.zero_le _
  · exact Nat.le_refl _
  · exact Nat.zero_le _

theorem onReturned_left {w : Work} {c : Manager.Call RanUeNgapId UeContext Unit} {handler : Handler}
    (h : onReturned w c = some handler) : handler.left = 0 := by
  unfold onReturned at h
  split at h <;> cases h <;> rfl

/-- A step uses up what its handler has left; a handler is spawned with 44. A call of the manager is
paid for by the step that begins it, with the 19 that it may take. -/
theorem Step.left_le {gnb : ConnId} {s s' : State} {a : Act} (h : Step gnb s a s') :
    (a.handler = none ∧ a.isOwn = false ∧ a.isCall = false ∧ s'.handlers = s.handlers) ∨
      ∃ id handler, a.handler = some id ∧ s'.handlers = Function.update s.handlers id handler ∧
        a.isOwn.toNat + handler.left + 19 * a.isCall.toNat ≤
          (s.handlers id).left + 44 * a.isReceive.toNat := by
  -- a handler that is spawned has 44 steps before it, and each step of it takes one
  cases h with
  | manager => exact .inl ⟨rfl, rfl, rfl, rfl⟩
  | receive hh =>
    refine .inr ⟨_, _, rfl, rfl, ?_⟩
    rw [hh]
    exact Nat.le_refl 44
  | check hh =>
    refine .inr ⟨_, _, rfl, rfl, ?_⟩
    rw [hh]
    exact Nat.add_le_add_left (checkContext_left ..) 1
  | alloc hh | add hh | schedule hh =>
    refine .inr ⟨_, _, rfl, rfl, ?_⟩
    rw [hh]
    simp [Act.isOwn, Act.isCall, Handler.left]
  | added hh hres =>
    refine .inr ⟨_, _, rfl, rfl, ?_⟩
    rw [hh]
    exact Nat.add_le_add_left (onAdded_left hres) 1
  | returned hh hres =>
    refine .inr ⟨_, _, rfl, rfl, ?_⟩
    rw [hh, onReturned_left hres]
    exact Nat.le_refl 1

/-- A handler that moves is there, or is just being spawned, and is there afterwards. So the
messages that were received are counted by the handlers that are there. -/
theorem Step.spawned {gnb : ConnId} {s s' : State} {a : Act} (h : Step gnb s a s') :
    (a.handler = none ∧ s'.handlers = s.handlers) ∨
      ∃ id handler, a.handler = some id ∧ s'.handlers = Function.update s.handlers id handler ∧
        handler ≠ .idle ∧ (s.handlers id = .idle ↔ ∃ request, a = .receive id request) := by
  have there {id : HandlerId} {handler : Handler} (hh : s.handlers id = handler)
      (hne : handler ≠ .idle) (ha : a.isReceive = false) :
      s.handlers id = .idle ↔ ∃ request, a = .receive id request := by
    refine iff_of_false (hh ▸ hne) ?_
    rintro ⟨request, rfl⟩
    cases ha
  -- a handler that is there stays there
  cases h with
  | manager => exact .inl ⟨rfl, rfl⟩
  | @receive id request hh =>
    exact .inr ⟨id, _, rfl, rfl, Handler.noConfusion, iff_of_true hh ⟨request, rfl⟩⟩
  | @check id request hh =>
    refine .inr ⟨id, _, rfl, rfl, fun hidle => ?_, there hh Handler.noConfusion rfl⟩
    unfold State.checkContext at hidle
    split at hidle <;> cases hidle
  | alloc hh | add hh | schedule hh =>
    exact .inr ⟨_, _, rfl, rfl, Handler.noConfusion, there hh Handler.noConfusion rfl⟩
  | added hh hres =>
    refine .inr ⟨_, _, rfl, rfl, ?_, there hh Handler.noConfusion rfl⟩
    rintro rfl
    unfold onAdded at hres
    split at hres <;> cases hres
  | returned hh hres =>
    refine .inr ⟨_, _, rfl, rfl, ?_, there hh Handler.noConfusion rfl⟩
    rintro rfl
    unfold onReturned at hres
    split at hres <;> cases hres

/-- A handler that is there has been spawned, and stays. By induction on the run, with
`Step.spawned` for its last step. -/
theorem ne_idle_iff {gnb : ConnId} {as : List Act} {s : State} (run : (system gnb).Run as s)
    (h : HandlerId) : s.handlers h ≠ .idle ↔ ∃ request, .receive h request ∈ as := by
  -- by the last step; it spawns this handler, or is of another one
  induction run with
  | nil => exact iff_of_false (fun hne => hne rfl) (by rintro ⟨_, hmem⟩; cases hmem)
  | @snoc as s s' a run _ hstep ih =>
    have hmem : (∃ request, .receive h request ∈ as ++ [a]) ↔
        s.handlers h ≠ .idle ∨ ∃ request, a = .receive h request := by
      rw [ih]
      simp only [List.mem_append, List.mem_singleton, exists_or, eq_comm]
    rw [hmem]
    rcases (step_cases hstep).spawned with ⟨hnone, hhandlers⟩ |
      ⟨id, handler, hid, hhandlers, hne, hidle⟩
    · rw [hhandlers]
      refine (or_iff_left ?_).symm
      rintro ⟨request, rfl⟩
      cases hnone
    · rw [hhandlers]
      by_cases heq : h = id
      · subst heq
        rw [Function.update_self]
        exact iff_of_true hne (not_or_of_imp hidle.mp)
      · rw [Function.update_of_ne heq]
        refine (or_iff_left ?_).symm
        rintro ⟨request, rfl⟩
        exact heq (Option.some.inj hid)

/-- Whom an action spawns. -/
def Act.received : Act → Option HandlerId
  | .receive h _ => some h
  | _ => none

/-- No handler is spawned twice. A handler is spawned in a place that is idle, and by `ne_idle_iff`
the places that were spawned before are not. -/
theorem received_nodup {gnb : ConnId} {as : List Act} {s : State} (run : (system gnb).Run as s) :
    (as.filterMap Act.received).Nodup := by
  induction run with
  | nil => exact List.nodup_nil
  | @snoc as s s' a run _ hstep ih =>
    rw [List.filterMap_append]
    -- a handler is spawned from a place that is idle, so it was not spawned before
    cases hreceived : a.received with
    | none =>
      rw [List.filterMap_cons_none hreceived, List.filterMap_nil, List.append_nil]
      exact ih
    | some h =>
      rw [List.filterMap_cons_some hreceived, List.filterMap_nil]
      refine ih.append (List.nodup_singleton h) ?_
      rw [List.disjoint_singleton, List.mem_filterMap]
      rintro ⟨a', hmem, ha'⟩
      cases step_cases hstep with
      | @receive h' request hh =>
        cases hreceived
        cases a' with
        | receive _ request' =>
          cases ha'
          exact (ne_idle_iff run h).mpr ⟨request', hmem⟩ hh
        | check | alloc | add | added | schedule | returned | manager => cases ha'
      | check | alloc | add | added | schedule | returned | manager => cases hreceived

/-- The steps of the handlers, with 19 for each call that they make. This is counted down from what
the messages have brought, so that no step needs to be looked at twice. -/
theorem own_le {gnb : ConnId} {as : List Act} {s : State} (run : (system gnb).Run as s) :
    as.countP Act.isOwn + 19 * as.countP Act.isCall ≤ 44 * as.countP Act.isReceive := by
  let T := (as.filterMap Act.handler).toFinset
  have hrun : (system gnb).RunUnder (fun _ a => ∀ h, a.handler = some h → h ∈ T) as s := by
    refine .of_mem run fun _ a ha h hh => ?_
    exact List.mem_toFinset.mpr (List.mem_filterMap.mpr ⟨a, ha, hh⟩)
  have hcount : as.countP Act.isOwn + (total T Handler.left s.handlers + 19 * as.countP Act.isCall) ≤
      44 * as.countP Act.isReceive := by
    -- each handler brings its 44 steps, and a call of the manager 19
    refine hrun.count_le (fun as s => total T Handler.left s.handlers + 19 * as.countP Act.isCall)
      (fun as _ => 44 * as.countP Act.isReceive) ?_ ?_
    · exact (Finset.sum_const_zero (s := T)).le
    · intro as s a s' _ hmem hstep
      have hcalls : (as ++ [a]).countP Act.isCall = as.countP Act.isCall + a.isCall.toNat := by
        rw [List.countP_append, List.countP_singleton]
        cases a.isCall <;> rfl
      have hreceives : (as ++ [a]).countP Act.isReceive =
          as.countP Act.isReceive + a.isReceive.toNat := by
        rw [List.countP_append, List.countP_singleton]
        cases a.isReceive <;> rfl
      rw [hcalls, hreceives]
      rcases (step_cases hstep).left_le with ⟨-, hown, hcall, hhandlers⟩ |
        ⟨id, handler, hid, hhandlers, hleft⟩
      · rw [hown, hcall, hhandlers]
        simp only [Bool.toNat_false]
        omega
      · have htotal := total_update Handler.left s.handlers handler (hmem id hid)
        rw [hhandlers]
        omega
  omega

/-- What is not a new message is a step of a handler or of the manager. -/
theorem countP_not_receive (as : List Act) :
    as.countP (!·.isReceive) = as.countP Act.isOwn + as.countP Act.isManager := by
  induction as with
  | nil => rfl
  | cons a as ih =>
    rw [List.countP_cons, List.countP_cons, List.countP_cons, ih]
    cases a <;> simp [Act.isReceive, Act.isOwn, Act.isManager] <;> omega

/-- **The steps of the handlers and their calls.** Each has 44 at most. -/
theorem steps_le {gnb : ConnId} {as : List Act} {s : State}
    (run : (system gnb).RunUnder NoNasPanic as s) :
    as.countP (!·.isReceive) ≤ 44 * as.countP Act.isReceive := by
  obtain ⟨bs, hbs, hmoves, hcalls⟩ := manager_of_run run
  have hmoved := Manager.moves_le hbs
  have hmove : bs.countP Manager.Act.isProgress ≤ bs.countP Manager.Act.isMove := by
    refine List.countP_mono_left fun b _ hb => ?_
    cases b with
    | caller | proc | complete | panic | dropGuard => rfl
    | withContext | addContext | changeId | drop | mutate => cases hb
  have hcall : bs.countP Manager.Act.isCall ≤ bs.countP (!·.isProgress) := by
    refine List.countP_mono_left fun b _ hb => ?_
    cases b with
    | withContext | addContext | changeId => rfl
    | caller | proc | complete | panic | dropGuard | drop | mutate => cases hb
  have hown := own_le run.run
  rw [countP_not_receive]
  omega

/-! ## No deadlock

A handler waits for its calls only. The calls do not wait for handlers, so if nothing moves they
have ended, and then the handlers have too. -/

/-- The handler has not been spawned, or it has ended. -/
def Handler.isOver : Handler → Bool
  | .idle | .succeeded _ | .failed _ | .aborted _ | .unreachable _ => true
  | _ => false

/-- Where no call and no processor can move, every call of the manager has ended. This is
`over_of_stuck` of the manager, whose closures here complete on their own. -/
theorem calls_over_of_stuck {gnb : ConnId} {as : List Act} {s : State}
    (run : (system gnb).RunUnder NoNasPanic as s)
    (hstuck : ∀ a, a.isReceive = false → NoNasPanic s a → step gnb s a = none) (t : TaskId) :
    (s.manager.calls t).isOver = true := by
  have hmanager : ∀ b : Manager.Act RanUeNgapId UeContext Unit, b.isProgress = true →
      (∀ p, b ≠ .panic p) → Manager.step s.manager b = none := by
    intro b hb hquiet
    have hstep := hstuck (.manager b) rfl fun p heq => hquiet p (Act.manager.inj heq)
    simp only [step, hb, if_true, Option.map_eq_none_iff] at hstep
    exact hstep
  obtain ⟨bs, hbs, -⟩ := manager_of_run run
  refine (Manager.over_of_stuck hbs ?_ ?_ ?_ ?_).1 t
  · exact fun t => hmanager (.caller t) rfl fun _ h => by cases h
  · exact fun p => hmanager (.proc p) rfl fun _ h => by cases h
  · intro p q f hp
    have hstep := hmanager (.complete p ()) rfl fun _ h => by cases h
    simp only [Manager.step, hp] at hstep
    cases hstep
  · intro q
    refine Bool.eq_false_iff.mpr fun hguard => ?_
    have hstep := hmanager (.dropGuard q) rfl fun _ h => by cases h
    simp only [Manager.step, hguard, if_true] at hstep
    cases hstep

/-- **No deadlock.** Where no handler, no call and no processor can move, every handler has ended. A
handler that waits for a call waits for one that has ended, so it could go on; the others can go on
by themselves. -/
theorem over_of_stuck {gnb : ConnId} {as : List Act} {s : State}
    (run : (system gnb).RunUnder NoNasPanic as s)
    (hstuck : ∀ a, a.isReceive = false → NoNasPanic s a → step gnb s a = none) (h : HandlerId) :
    (s.handlers h).isOver = true := by
  have hfits := (settled_of_run run.run).fits h
  have hcalls := calls_over_of_stuck run hstuck
  have still (a : Act) (ha : a.isReceive = false) (hm : a.isManager = false) :
      step gnb s a = none := by
    refine hstuck a ha ?_
    rintro p rfl
    cases hm
  -- each state of a handler that is under way has a step that can be taken
  cases hh : s.handlers h with
  | idle | succeeded | failed | aborted | unreachable => rfl
  | check request =>
    have hstep := still (.check h) rfl rfl
    simp only [step, hh] at hstep
    cases hstep
  | alloc request =>
    have hstep := still (.alloc h) rfl rfl
    simp only [step, hh] at hstep
    cases hstep
  | add request ctx =>
    have hstep := still (.add h) rfl rfl
    rw [hh] at hfits
    simp only [step, hh, State.beginAdd, Manager.step, hfits.1] at hstep
    cases hstep
  | adding w =>
    -- `add_context` has ended, so the handler sees its result
    have hstep := still (.added h) rfl rfl
    have hover := hcalls (addCall h)
    rw [hh] at hfits
    rcases hfits.1 with hins | ⟨hok, -⟩ | hpanic
    · rw [hins] at hover
      cases hover
    · simp only [step, hh, hok] at hstep
      cases hstep
    · simp only [step, hh, hpanic] at hstep
      cases hstep
  | schedule w =>
    have hstep := still (.schedule h) rfl rfl
    rw [hh] at hfits
    simp only [step, hh, State.beginWith, Manager.step, hfits.2.2] at hstep
    cases hstep
  | scheduling w =>
    -- its `with_context` is on the queue of the id, and has ended
    have hstep := still (.returned h) rfl rfl
    have hover := hcalls (withCall h)
    rw [hh] at hfits
    have hon := OnOwnQueue.call hfits
    simp only [step, hh, Option.map_eq_none_iff] at hstep
    cases hcall : s.manager.calls (withCall h) with
    | withReturned res =>
      rw [hcall] at hstep
      cases res <;> cases hstep
    | recvPanicked =>
      rw [hcall] at hstep
      cases hstep
    | idle | addReturned | addPanicked | changeReturned | dropped =>
      rw [hcall] at hon
      exact hon.elim
    | withRead | withSchedule | pushLock | pushBack | pushLoad | pushStore | pushSpawn | pushUnlock
    | awaitRx | addInsert | changeRemove | changeInsert | changeRestore =>
      rw [hcall] at hover
      cases hover

/-! ## A winner for every id

An id that a message has brought is served in the end. The invariant says that the handler of the
message is on its way to the insert or the id is taken; and an insert that fails finds it taken. -/

/-- A handler is on the way to insert the id of its message. -/
def State.OnTheWay (s : State) (h : HandlerId) (request : InitialUeMessage) : Prop :=
  match s.handlers h with
  | .check r | .alloc r | .add r _ => r = request
  | .adding w =>
    w.request = request ∧ s.manager.calls (addCall h) = .addInsert w.request.ranUeNgapId w.queue
  | _ => False

/-- The id of a message is in the map. -/
def State.Taken (s : State) (request : InitialUeMessage) : Prop :=
  ∃ q, s.manager.queues request.ranUeNgapId = some q

/-- Who brought an id is on the way to insert it, or the id is in the map; what is in the map was
inserted by the `add_context` of its handler. -/
structure Served (as : List Act) (s : State) : Prop where
  taken : ∀ h request, .receive h request ∈ as → s.OnTheWay h request ∨ s.Taken request
  inserted : ∀ id q, s.manager.queues id = some q → ∃ h w, (s.handlers h).work = some w ∧
    w.queue = q ∧ w.request.ranUeNgapId = id ∧
    s.manager.calls (addCall h) = .addReturned (.ok ())

/-- A handler moves, and the map stays. Either it is still on its way to the id, or the id has been
taken by somebody, and then it stays taken: nothing is ever removed here. -/
theorem Served.move {as : List Act} {a : Act} {s s' : State} (hs : Served as s) {h : HandlerId}
    {handler : Handler} (hhandlers : s'.handlers = Function.update s.handlers h handler)
    (hqueues : s'.manager.queues = s.manager.queues)
    (hcalls : ∀ h', h' ≠ h → s'.manager.calls (addCall h') = s.manager.calls (addCall h'))
    (hreceived : ∀ h' request, a = .receive h' request → s'.OnTheWay h' request)
    (hway : ∀ request, s.OnTheWay h request → s'.OnTheWay h request ∨ s.Taken request)
    (hwork : ∀ w, (s.handlers h).work = some w → handler.work = some w ∧
      s'.manager.calls (addCall h) = s.manager.calls (addCall h)) : Served (as ++ [a]) s' := by
  have htaken {request : InitialUeMessage} (htk : s.Taken request) : s'.Taken request := by
    unfold State.Taken
    rw [hqueues]
    exact htk
  refine ⟨fun h' request hmem => ?_, fun id q hq => ?_⟩
  · rw [List.mem_append, List.mem_singleton] at hmem
    rcases hmem with hmem | ha
    · rcases hs.taken h' request hmem with hon | htk
      · by_cases heq : h' = h
        · subst heq
          exact (hway request hon).imp_right htaken
        · left
          unfold State.OnTheWay at hon ⊢
          rw [hhandlers, Function.update_of_ne heq, hcalls h' heq]
          exact hon
      · exact .inr (htaken htk)
    · exact .inl (hreceived h' request ha.symm)
  · rw [hqueues] at hq
    obtain ⟨h', w, hw, hqueue, hid, hok⟩ := hs.inserted id q hq
    refine ⟨h', w, ?_, hqueue, hid, ?_⟩
    · rw [hhandlers]
      exact to_update (fun handler : Handler => handler.work = some w) (fun hw => (hwork w hw).1) hw
    · by_cases heq : h' = h
      · subst heq
        rw [(hwork w hw).2]
        exact hok
      · rw [hcalls h' heq]
        exact hok

/-- What becomes of an insert: the id is in the map after it, whoever put it there. If the id was
free it is this handler's queue, else it was there before. -/
theorem insert_ends {m m' : UeManager} (hp : Manager.Progress m m') {t : TaskId}
    {id : RanUeNgapId} {q : QueueId} (hc : m.calls t = .addInsert id q) :
    m'.calls t = .addInsert id q ∨ ∃ q', m'.queues id = some q' := by
  cases hp with
  | quiet hcalls =>
    rw [hcalls]
    exact .inl hc
  | @moved t' c hwith hcalls =>
    have hne : t ≠ t' := by
      rintro rfl
      rw [hc] at hwith
      cases hwith
    rw [hcalls, Function.update_of_ne hne]
    exact .inl hc
  | @stored t' id' q' hc' hkey hcalls hqueues =>
    by_cases ht : t = t'
    · subst ht
      rw [hc] at hc'
      cases hc'
      rw [hqueues, Function.update_self]
      exact .inr ⟨q, rfl⟩
    · rw [hcalls, Function.update_of_ne ht]
      exact .inl hc
  | @refused t' id' q' other hc' hkey hcalls hqueues =>
    by_cases ht : t = t'
    · subst ht
      rw [hc] at hc'
      cases hc'
      rw [hqueues]
      exact .inr ⟨other, hkey⟩
    · rw [hcalls, Function.update_of_ne ht]
      exact .inl hc

/-- A call or a processor of the manager moves, and the handlers stay. Only an insert writes the
map, and it makes an id taken that was not. -/
theorem Served.progress {as : List Act} {b : Manager.Act RanUeNgapId UeContext Unit} {s : State}
    {m : UeManager} (hs : Served as s) (hsettled : Settled s)
    (hp : Manager.Progress s.manager m) :
    Served (as ++ [.manager b]) { s with manager := m } := by
  refine ⟨fun h request hmem => ?_, fun id q hq => ?_⟩
  · rw [List.mem_append, List.mem_singleton] at hmem
    rcases hmem with hmem | ha
    · rcases hs.taken h request hmem with hon | ⟨q, hq⟩
      · unfold State.OnTheWay at hon ⊢
        dsimp only
        split at hon
        · exact .inl hon
        · exact .inl hon
        · exact .inl hon
        · next w hh =>
          obtain ⟨rfl, hins⟩ := hon
          exact (insert_ends hp hins).imp_left fun hins => ⟨rfl, hins⟩
        · exact hon.elim
      · exact .inr ⟨q, hp.queues_mono hq⟩
    · cases ha
  · rcases hp.queues_new hq with hold | ⟨t, hc, -, hok⟩
    · obtain ⟨h, w, hw, hqueue, hid, hcall⟩ := hs.inserted id q hold
      exact ⟨h, w, hw, hqueue, hid, call_rests hp hcall rfl nofun⟩
    · obtain ⟨h, w, rfl, hh, hid, hqueue⟩ := hsettled.insert_owner hc
      refine ⟨h, w, ?_, hqueue, hid, hok⟩
      show (s.handlers h).work = some w
      rw [hh]
      rfl

/-- Every step keeps every id served or on its way. A check that fails has found the id in the map.
-/
theorem Served.step {gnb : ConnId} {as : List Act} {a : Act} {s s' : State} (hs : Served as s)
    (hnum : Numbered gnb s) (hsettled : Settled s) (hstep : Step gnb s a s') :
    Served (as ++ [a]) s' := by
  have noWay {h : HandlerId} {handler : Handler} (hh : s.handlers h = handler)
      (hnone : handler.work.isSome = true ∧ (∀ w, handler ≠ .adding w)) {request : InitialUeMessage}
      (hon : s.OnTheWay h request) : False := by
    unfold State.OnTheWay at hon
    rw [hh] at hon
    cases handler with
    | idle | check | alloc | add | failed => exact absurd hnone.1 Bool.false_ne_true
    | adding w => exact hnone.2 w rfl
    | schedule | scheduling | succeeded | aborted | unreachable => exact hon
  have old {b : Act} (hb : b.isReceive = false) {t : State} :
      ∀ h request, b = .receive h request → t.OnTheWay h request := by
    rintro h request rfl
    cases hb
  cases hstep with
  | @receive h request hh =>
    refine hs.move rfl rfl (fun _ _ => rfl) ?_ (fun r hon => ?_) fun w hw => ?_
    · rintro h' request' ⟨⟩
      unfold State.OnTheWay
      simp [State.setHandler]
    · unfold State.OnTheWay at hon
      rw [hh] at hon
      exact hon.elim
    · rw [hh] at hw
      cases hw
  | @check h request hh =>
    refine hs.move rfl rfl (fun _ _ => rfl) (old rfl) (fun r hon => ?_) fun w hw => ?_
    · unfold State.OnTheWay at hon ⊢
      rw [hh] at hon
      subst hon
      simp only [State.setHandler, Function.update_self, State.checkContext]
      cases hkey : s.manager.queues request.ranUeNgapId with
      | some q => exact .inr ⟨q, hkey⟩
      | none => exact .inl rfl
    · rw [hh] at hw
      cases hw
  | @alloc h request hh =>
    refine hs.move rfl rfl (fun _ _ => rfl) (old rfl) (fun r hon => .inl ?_) fun w hw => ?_
    · unfold State.OnTheWay at hon ⊢
      rw [hh] at hon
      simpa [State.allocate] using hon
    · rw [hh] at hw
      cases hw
  | @add h request ctx hh hidle =>
    have hctx : ctx.ranUeNgapId = request.ranUeNgapId := by
      rw [(hnum.made h request ctx (by rw [hh]; rfl)).1]
      rfl
    refine hs.move rfl rfl (fun h' heq => ?_) (old rfl) (fun r hon => .inl ?_) fun w hw => ?_
    · exact Function.update_of_ne (fun hcall => heq (addCall_inj.mp hcall)) ..
    · unfold State.OnTheWay at hon ⊢
      rw [hh] at hon
      subst hon
      simp [Manager.State.newQueue, Manager.Identifiable.id, hctx]
    · rw [hh] at hw
      cases hw
  | @added h w handler hh hres =>
    refine hs.move rfl rfl (fun _ _ => rfl) (old rfl) (fun r hon => ?_) fun w' hw => ⟨?_, rfl⟩
    · unfold State.OnTheWay at hon
      rw [hh] at hon
      rw [hon.2] at hres
      cases hres
    · rw [hh] at hw
      cases hw
      exact (onAdded_fits (hh ▸ hsettled.fits h) hres).1
  | @schedule h w hh hidle =>
    refine hs.move rfl rfl (fun h' _ => ?_) (old rfl) (fun r hon => ?_) fun w' hw => ⟨?_, ?_⟩
    · exact Function.update_of_ne (withCall_ne_addCall h h').symm ..
    · exact (noWay hh ⟨rfl, fun _ heq => by cases heq⟩ hon).elim
    · rw [hh] at hw
      exact hw
    · exact Function.update_of_ne (withCall_ne_addCall h h).symm ..
  | @returned h w handler hh hres =>
    have hown : Fits s.manager s.captured h (.scheduling w) := hh ▸ hsettled.fits h
    refine hs.move rfl rfl (fun _ _ => rfl) (old rfl) (fun r hon => ?_) fun w' hw => ⟨?_, rfl⟩
    · exact (noWay hh ⟨rfl, fun _ heq => by cases heq⟩ hon).elim
    · rw [hh] at hw
      cases hw
      exact (onReturned_fits hown hres).1
  | manager hact hm =>
    exact hs.progress hsettled ((Manager.step_cases hm).progress hact hsettled.noChange)

theorem served_of_run {gnb : ConnId} {as : List Act} {s : State} (run : (system gnb).Run as s) :
    Served as s := by
  refine run.history (P := Served) ⟨nofun, fun _ _ hq => by cases hq⟩ ?_
  intro as s a s' run hs _ hstep
  exact hs.step (numbered_of_run run) (settled_of_run run) (step_cases hstep)

/-- What the calls of a handler say when it has ended. -/
def Results (m : UeManager) (h : HandlerId) : Handler → Prop
  | .succeeded _ => m.calls (withCall h) = .withReturned (.ok ())
  | .aborted _ => m.calls (addCall h) = .addPanicked ∨ m.calls (withCall h) = .recvPanicked
  | _ => True

/-- One handler moves, and the calls of the others stay. What a handler says of its calls it says of
its own two, so nobody else's move changes it. -/
theorem results_move {s s' : State} (hs : ∀ h, Results s.manager h (s.handlers h))
    {h h₀ : HandlerId} {handler : Handler}
    (hhandlers : s'.handlers = Function.update s.handlers h₀ handler)
    (hnew : Results s'.manager h₀ handler)
    (hcalls : ∀ h, h ≠ h₀ → s'.manager.calls (addCall h) = s.manager.calls (addCall h) ∧
      s'.manager.calls (withCall h) = s.manager.calls (withCall h)) :
    Results s'.manager h (s'.handlers h) := by
  rw [hhandlers]
  by_cases heq : h = h₀
  · subst heq
    rw [Function.update_self]
    exact hnew
  · rw [Function.update_of_ne heq]
    obtain ⟨hadd, hwith⟩ := hcalls h heq
    have hold := hs h
    unfold Results at hold ⊢
    rw [hadd, hwith]
    exact hold

/-- A handler that has ended has ended with what its calls have returned. The cases are the ways in
which `add_context` and `with_context` can return, with what the handler makes of each. -/
theorem results_of_run {gnb : ConnId} {as : List Act} {s : State} (run : (system gnb).Run as s)
    (h : HandlerId) : Results s.manager h (s.handlers h) := by
  induction run generalizing h with
  | nil => trivial
  | @snoc as s s' a run _ hstep ih =>
    cases step_cases hstep with
    | receive | alloc => exact results_move ih rfl trivial fun _ _ => ⟨rfl, rfl⟩
    | @check h₀ request =>
      refine results_move ih rfl ?_ fun _ _ => ⟨rfl, rfl⟩
      unfold State.checkContext
      split <;> trivial
    | @add h₀ =>
      refine results_move ih rfl trivial fun h' hne => ⟨?_, ?_⟩
      · exact Function.update_of_ne (fun hcall => hne (addCall_inj.mp hcall)) ..
      · exact Function.update_of_ne (withCall_ne_addCall h' h₀) ..
    | @schedule h₀ =>
      refine results_move ih rfl trivial fun h' hne => ⟨?_, ?_⟩
      · exact Function.update_of_ne (withCall_ne_addCall h₀ h').symm ..
      · exact Function.update_of_ne (fun hcall => hne (withCall_inj.mp hcall)) ..
    | added hh hres =>
      refine results_move ih rfl ?_ fun _ _ => ⟨rfl, rfl⟩
      unfold onAdded at hres
      split at hres
      · cases hres
        trivial
      · cases hres
        trivial
      · cases hres
        trivial
      · next hpanic =>
        cases hres
        exact .inl hpanic
      · cases hres
    | returned hh hres =>
      refine results_move ih rfl ?_ fun _ _ => ⟨rfl, rfl⟩
      unfold onReturned at hres
      split at hres
      · cases hres
        trivial
      · next hok =>
        cases hres
        exact hok
      · next hpanic =>
        cases hres
        exact .inr hpanic
      · cases hres
    | @manager b m hact hm =>
      have hp := (Manager.step_cases hm).progress hact (settled_of_run run).noChange
      have hold := ih h
      show Results m h (s.handlers h)
      cases hhandler : s.handlers h with
      | succeeded w =>
        rw [hhandler] at hold
        exact call_rests hp hold rfl fun _ _ heq => by cases heq
      | aborted w =>
        rw [hhandler] at hold
        exact hold.imp (fun hadd => call_rests hp hadd rfl fun _ _ heq => by cases heq)
          fun hwith => call_rests hp hwith rfl fun _ _ heq => by cases heq
      | idle | check | alloc | add | adding | schedule | scheduling | failed | unreachable => trivial

theorem addPanicked_of_aborted {gnb : ConnId} {as : List Act} {s : State}
    (run : (system gnb).RunUnder NoNasPanic as s) {h : HandlerId} {w : Work}
    (hh : s.handlers h = .aborted w) : s.manager.calls (addCall h) = .addPanicked := by
  have hresults := results_of_run run.run h
  rw [hh] at hresults
  obtain ⟨bs, hbs, -⟩ := manager_of_run run
  exact hresults.resolve_right ((Manager.noClosed_of_run hbs).2 _)

/-- The UE context of an id is the one that a handler has made of its message, and `handle_nas` has
run on it once, with the PDU of this message. -/
structure State.ServedBy (s : State) (id : RanUeNgapId) (h : HandlerId) (w : Work) : Prop where
  ranUeNgapId : w.request.ranUeNgapId = id
  stored : s.manager.queues id = some w.queue
  inner : s.manager.inner w.queue = some w.ctx
  started : s.manager.started w.queue = [withCall h]
  pdu : s.captured (withCall h) = some w.request.nasPdu

/-- **What a handler succeeds with.** Its queue is stored under its id, and the one closure that was
started there is its own. That no other was is the winner's invariant; that its own was is what `Ok`
means. -/
theorem servedBy_of_succeeded {gnb : ConnId} {as : List Act} {s : State}
    (run : (system gnb).RunUnder NoNasPanic as s) {h : HandlerId} {w : Work}
    (hh : s.handlers h = .succeeded w) : s.ServedBy w.request.ranUeNgapId h w := by
  have hsettled := settled_of_run run.run
  have hown : OnOwnQueue s.manager s.captured h w := by
    have hfits := hsettled.fits h
    rw [hh] at hfits
    exact hfits
  have hwork : (s.handlers h).work = some w := by
    rw [hh]
    rfl
  refine ⟨rfl, hown.stored, hsettled.inner h w hwork, ?_, hown.pdu⟩
  -- its closure was started, on the queue of its own work
  have hreturned : s.manager.calls (withCall h) = .withReturned (.ok ()) := by
    have hresults := results_of_run run.run h
    rw [hh] at hresults
    exact hresults
  obtain ⟨bs, hbs, -⟩ := manager_of_run run
  obtain ⟨q, happended, hstarted⟩ := Manager.started_of_returned hbs hreturned
  obtain ⟨h', w', hcall, hwork', hq, -⟩ := hsettled.scheduled q _ happended
  obtain rfl := withCall_inj.mp hcall
  obtain rfl : w = w' := Option.some.inj (hwork.symm.trans hwork')
  subst hq
  -- nothing else is started there
  obtain ⟨h', w', -, -, -, hnone | ⟨hone, -⟩⟩ := nas_handled_once run hown.stored
  · rw [hnone] at hstarted
    cases hstarted
  · rw [hone] at hstarted ⊢
    rw [List.mem_singleton.mp hstarted]

/-- **A winner for every id.** Where all handlers have ended and no PDU has panicked, each id that a
message has brought has one handler that has succeeded, and only one. -/
theorem one_winner_of_over {gnb : ConnId} {as : List Act} {s : State}
    (run : (system gnb).RunUnder NoNasPanic as s) (hover : ∀ h, (s.handlers h).isOver = true)
    {h : HandlerId} {request : InitialUeMessage} (hmem : .receive h request ∈ as) :
    ∃! h', ∃ w, s.handlers h' = .succeeded w ∧ w.request.ranUeNgapId = request.ranUeNgapId := by
  have hserved := served_of_run run.run
  have hsettled := settled_of_run run.run
  -- all handlers are over, so nobody is on the way any more
  have htaken : s.Taken request := by
    refine (hserved.taken h request hmem).resolve_left fun hon => ?_
    have hh := hover h
    unfold State.OnTheWay at hon
    split at hon
    · next heq => rw [heq] at hh; cases hh
    · next heq => rw [heq] at hh; cases hh
    · next heq => rw [heq] at hh; cases hh
    · next heq => rw [heq] at hh; cases hh
    · exact hon
  obtain ⟨q, hq⟩ := htaken
  obtain ⟨h', w, hw, hqueue, hid, hok⟩ := hserved.inserted _ q hq
  -- `add_context` has inserted its queue, so the handler has not panicked
  have hwon : s.handlers h' = .succeeded w := by
    have hfits := hsettled.fits h'
    have hh := hover h'
    -- over are those that have succeeded, that have failed, and that have panicked
    cases hhandler : s.handlers h' with
    | idle | check | alloc | add | failed =>
      rw [hhandler] at hw
      cases hw
    | succeeded w' =>
      rw [hhandler] at hw
      cases hw
      rfl
    | adding | schedule | scheduling =>
      rw [hhandler] at hh
      cases hh
    | unreachable =>
      rw [hhandler] at hfits
      exact hfits.elim
    | aborted w' =>
      rw [addPanicked_of_aborted run hhandler] at hok
      cases hok
  refine ⟨h', ⟨w, hwon, hid⟩, ?_⟩
  rintro h'' ⟨w'', hwon'', hid''⟩
  have hown : Fits s.manager s.captured h'' (.succeeded w'') := hwon'' ▸ hsettled.fits h''
  have hstored := OnOwnQueue.stored hown
  rw [hid'', hq] at hstored
  refine hsettled.held.unique h'' h' q ?_ ?_
  · show (s.handlers h'').queue = some q
    rw [hwon'', Option.some.inj hstored]
    rfl
  · show (s.handlers h').queue = some q
    rw [hwon, ← hqueue]
    rfl

/-- **Handlers end, and every id is served.** If no PDU panics, a run can be brought to its end
without a new message, with 44 steps for each message at most. Then every handler has ended; of the
handlers with one id exactly one has succeeded, and of the PDUs with this id just that of its message
has been handled, once. -/
theorem handlers_end {gnb : ConnId} {as : List Act} {s : State}
    (run : (system gnb).RunUnder NoNasPanic as s) :
    ∃ bs s', (system gnb).RunUnder NoNasPanic (as ++ bs) s' ∧ (∀ a ∈ bs, a.isReceive = false) ∧
      (as ++ bs).countP (!·.isReceive) ≤ 44 * as.countP Act.isReceive ∧
      (∀ h, (s'.handlers h).isOver = true) ∧
      (∀ h request, .receive h request ∈ as → ∃! h', ∃ w, s'.handlers h' = .succeeded w ∧
        w.request.ranUeNgapId = request.ranUeNgapId) ∧
      ∀ h w, s'.handlers h = .succeeded w → s'.ServedBy w.request.ranUeNgapId h w := by
  obtain ⟨bs, s', run', hold, hsteps, hstuck⟩ := run.exists_end (fun a => a.isReceive = false)
    Act.isReceive (!·.isReceive) 44 (fun a ha => ⟨by rw [ha]; rfl, ha⟩) fun _ _ run => steps_le run
  have hover := over_of_stuck run' hstuck
  refine ⟨bs, s', run', hold, hsteps, hover, fun h request hmem => ?_, fun h w hh => ?_⟩
  · exact one_winner_of_over run' hover (List.mem_append_left _ hmem)
  · exact servedBy_of_succeeded run' hh

/-- Two messages with id 7, both of which find the id free. -/
def bothCheck : List Act :=
  [.receive 0 (ueMessage 7 0x41), .receive 1 (ueMessage 7 0x42), .check 0, .check 1]

/-- Both find the id free, and one of them serves it in the end. -/
theorem handlers_end_bothCheck :
    ∃ bs s', (system 0).RunUnder NoNasPanic (bothCheck ++ bs) s' ∧
      (∀ h, (s'.handlers h).isOver = true) ∧
      ∃ h w, s'.handlers h = .succeeded w ∧ s'.ServedBy 7 h w := by
  let s := ((system 0).exec bothCheck).get (by decide)
  have hrun : (system 0).RunUnder NoNasPanic bothCheck s := by
    refine .of_mem (System.run_of_exec (by simp [s])) fun _ a ha p => ?_
    have hno : ∀ a ∈ bothCheck, a ≠ .manager (.panic p) := by simp [bothCheck]
    exact hno a ha
  obtain ⟨bs, s', run', -, -, hover, hwon, hserved⟩ := handlers_end hrun
  obtain ⟨h, ⟨w, hh, hid⟩, -⟩ := hwon 0 (ueMessage 7 0x41) (List.mem_cons_self ..)
  have hown := hserved h w hh
  rw [hid] at hown
  exact ⟨bs, s', run', hover, h, w, hh, hown⟩

end UnifyAir.InitialUe
