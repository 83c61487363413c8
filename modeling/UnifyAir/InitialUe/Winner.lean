import UnifyAir.InitialUe.Increments
import UnifyAir.Manager.Delivery

/-!
# UnifyAir — one winner per RAN UE NGAP ID

Handlers of messages with the same RAN UE NGAP ID race for the entry of that id. Each makes a
queue of its own in `add_context`, and only one `insert_async` finds the id free; the others
panic in `add_context`. Entries of the map stay, so the winner's `with_context` finds its own
queue, and no other handler ever gets as far as `with_context` on that id.

`Fits` says how far the calls of a handler have come, `Settled` ties the map and the appends
of the manager to the handlers.

* **`settled_of_run`** — the invariant.
* **`initial_ue_one_winner`** — at most one handler per id succeeds, and what the manager holds
  and schedules under that id is all from its message.
* **`manager_of_run`**, **`nas_handled_once`** — the manager of a gNB makes a run of its own, so
  the work on UE contexts is serialised, and a UE context handles one NAS PDU, once.
-/

namespace UnifyAir.InitialUe

open Concurrency
open Manager (TaskId QueueId Event)
open Ngap (ConnId)

abbrev UeManager := Manager.State RanUeNgapId UeContext Unit

def Handler.work : Handler → Option Work
  | .adding w | .schedule w | .scheduling w | .succeeded w | .aborted w | .unreachable w => some w
  | _ => none

def Handler.queue (handler : Handler) : Option QueueId := handler.work.map (·.queue)

/-- The queue of `w` is the entry of its id, and the `with_context` call of handler `h`, with
the PDU of the message in its closure, is on that queue. -/
structure OnOwnQueue (m : UeManager) (captured : TaskId → Option NasPdu) (h : HandlerId)
    (w : Work) : Prop where
  added : m.calls (addCall h) = .addReturned (.ok ())
  stored : m.queues w.request.ranUeNgapId = some w.queue
  pdu : captured (withCall h) = some w.request.nasPdu
  call : (m.calls (withCall h)).onQueue w.request.ranUeNgapId w.queue

/-- The `add_context` call of handler `h`. -/
def AddFits (m : UeManager) (h : HandlerId) (w : Work) : Prop :=
  m.calls (addCall h) = .addInsert w.request.ranUeNgapId w.queue ∨
  m.calls (addCall h) = .addReturned (.ok ()) ∧
    m.queues w.request.ranUeNgapId = some w.queue ∨
  m.calls (addCall h) = .addPanicked

/-- How far the calls of handler `h` have come. -/
def Fits (m : UeManager) (captured : TaskId → Option NasPdu) (h : HandlerId) : Handler → Prop
  | .idle | .check _ | .alloc _ | .add _ _ =>
    m.calls (addCall h) = .idle ∧ m.calls (withCall h) = .idle
  | .adding w => AddFits m h w ∧ m.calls (withCall h) = .idle
  | .schedule w => m.calls (addCall h) = .addReturned (.ok ()) ∧
    m.queues w.request.ranUeNgapId = some w.queue ∧ m.calls (withCall h) = .idle
  | .scheduling w | .succeeded w => OnOwnQueue m captured h w
  | .aborted w =>
    m.calls (addCall h) = .addPanicked ∧ m.calls (withCall h) = .idle ∨ OnOwnQueue m captured h w
  | .failed err =>
    (∃ request, err = .ueContextAlreadyExists (.initialUeMessage request)) ∧
      m.calls (addCall h) = .idle ∧ m.calls (withCall h) = .idle
  | .unreachable _ => False

structure Settled (s : State) : Prop where
  held : Held (Handler.queue ∘ s.handlers) s.manager.nextQueue
  fits : ∀ h, Fits s.manager s.captured h (s.handlers h)
  noChange : ∀ t, (s.manager.calls t).isChange = false
  inner : ∀ h w, (s.handlers h).work = some w → s.manager.inner w.queue = some w.ctx
  owned : ∀ id q, s.manager.queues id = some q →
    ∃ h w, (s.handlers h).work = some w ∧ w.queue = q ∧ w.request.ranUeNgapId = id
  scheduled : ∀ q t, Event.appended q t ∈ s.manager.log →
    ∃ h w, t = withCall h ∧ (s.handlers h).work = some w ∧ w.queue = q ∧
      s.captured t = some w.request.nasPdu

/-- The two calls of a handler are even and odd, so the calls of different kinds differ. -/
theorem withCall_ne_addCall (h h' : Nat) : withCall h ≠ addCall h' := by
  change ¬ @Eq Nat (2 * h + 1) (2 * h')
  omega

theorem addCall_inj {h h' : Nat} : addCall h = addCall h' ↔ h = h' := by
  change @Eq Nat (2 * h) (2 * h') ↔ h = h'
  omega

theorem withCall_inj {h h' : Nat} : withCall h = withCall h' ↔ h = h' := by
  change @Eq Nat (2 * h + 1) (2 * h' + 1) ↔ h = h'
  omega

theorem call_of_task (t : Nat) : ∃ h, t = addCall h ∨ t = withCall h := by
  refine ⟨t / 2, ?_⟩
  change @Eq Nat t (2 * (t / 2)) ∨ @Eq Nat t (2 * (t / 2) + 1)
  omega

/-! ## The calls of one handler

What a handler knows of its two calls survives the steps of the manager. `Manager.Progress` is all
that is used of these, so the manager's queues and processors do not appear. -/

section Calls

variable {m m' : UeManager} {captured : TaskId → Option NasPdu} {h : HandlerId}

/-- A call that is not under way stays where it is. -/
theorem call_rests (hp : Manager.Progress m m') {t : TaskId}
    {c : Manager.Call RanUeNgapId UeContext Unit} (hc : m.calls t = c) (hwith : c.isWith = false)
    (hadd : ∀ id q, c ≠ .addInsert id q) : m'.calls t = c := by
  subst hc
  exact hp.calls_still hwith hadd

/-- An `add_context` call waits, or has ended in one of two ways and stays there. -/
theorem AddFits.progress {w : Work} (hp : Manager.Progress m m') (hfits : AddFits m h w) :
    AddFits m' h w := by
  rcases hfits with hins | ⟨hok, hstored⟩ | hpanic
  · exact hp.add_ends hins
  · exact Or.inr (Or.inl ⟨call_rests hp hok rfl nofun, hp.queues_mono hstored⟩)
  · exact Or.inr (Or.inr (call_rests hp hpanic rfl nofun))

/-- A `with_context` call on the handler's own queue stays on it, as the entry of the id stays. -/
theorem OnOwnQueue.progress {w : Work} (hp : Manager.Progress m m')
    (hown : OnOwnQueue m captured h w) : OnOwnQueue m' captured h w where
  added := call_rests hp hown.added rfl nofun
  stored := hp.queues_mono hown.stored
  pdu := hown.pdu
  call := hp.with_stays hown.stored hown.call

/-- Calls and processors of the manager move, and the handler stays. Its calls go on as far as they
may, and what it has found out about them remains true, because a call that has returned rests. -/
theorem Fits.progress {handler : Handler} (hp : Manager.Progress m m')
    (hfits : Fits m captured h handler) : Fits m' captured h handler := by
  have hidle : ∀ t, m.calls t = .idle → m'.calls t = .idle := fun t hc =>
    call_rests hp hc rfl nofun
  -- a call that has returned does not move any more
  cases handler with
  | idle | check | alloc | add => exact ⟨hidle _ hfits.1, hidle _ hfits.2⟩
  | adding w => exact ⟨hfits.1.progress hp, hidle _ hfits.2⟩
  | schedule w =>
    obtain ⟨hok, hstored, hwith⟩ := hfits
    exact ⟨call_rests hp hok rfl nofun, hp.queues_mono hstored, hidle _ hwith⟩
  | scheduling w | succeeded w => exact OnOwnQueue.progress hp hfits
  | aborted w =>
    rcases hfits with ⟨hpanic, hwith⟩ | hown
    · exact Or.inl ⟨call_rests hp hpanic rfl nofun, hidle _ hwith⟩
    · exact Or.inr (hown.progress hp)
  | failed err => exact ⟨hfits.1, hidle _ hfits.2.1, hidle _ hfits.2.2⟩
  | unreachable w => exact hfits

/-- Other calls do not matter: what a handler knows depends on its own two calls, the map and its
own PDU. -/
theorem Fits.frame {captured' : TaskId → Option NasPdu} {handler : Handler}
    (hfits : Fits m captured h handler) (hadd : m'.calls (addCall h) = m.calls (addCall h))
    (hwith : m'.calls (withCall h) = m.calls (withCall h)) (hqueues : m'.queues = m.queues)
    (hpdu : captured' (withCall h) = captured (withCall h)) : Fits m' captured' h handler := by
  have hown : ∀ w, OnOwnQueue m captured h w → OnOwnQueue m' captured' h w := fun w hown =>
    ⟨by rw [hadd]; exact hown.added, by rw [hqueues]; exact hown.stored,
      by rw [hpdu]; exact hown.pdu, by rw [hwith]; exact hown.call⟩
  -- only the two calls of the handler are spoken of, and the queue of its work
  cases handler with
  | idle | check | alloc | add | failed => simpa only [Fits, hadd, hwith] using hfits
  | adding | schedule => simpa only [Fits, AddFits, hadd, hwith, hqueues] using hfits
  | scheduling w | succeeded w => exact hown w hfits
  | aborted w =>
    rcases hfits with hpanic | how
    · exact Or.inl (by rw [hadd, hwith]; exact hpanic)
    · exact Or.inr (hown w how)
  | unreachable w => exact hfits

/-- Where the `add_context` call of a handler can be, by where the handler stands. Later proofs ask
who can be at an insert, and this is the answer. -/
theorem Fits.add_call {handler : Handler} (hfits : Fits m captured h handler) :
    (∃ w, handler = .adding w ∧
      m.calls (addCall h) = .addInsert w.request.ranUeNgapId w.queue) ∨
    m.calls (addCall h) = .idle ∨ m.calls (addCall h) = .addReturned (.ok ()) ∨
    m.calls (addCall h) = .addPanicked := by
  -- its `add_context` is before, in, or behind the insert
  cases handler with
  | idle | check | alloc | add => exact Or.inr (Or.inl hfits.1)
  | adding w =>
    rcases hfits.1 with hins | ⟨hok, -⟩ | hpanic
    · exact Or.inl ⟨w, rfl, hins⟩
    · exact Or.inr (Or.inr (Or.inl hok))
    · exact Or.inr (Or.inr (Or.inr hpanic))
  | schedule w => exact Or.inr (Or.inr (Or.inl hfits.1))
  | scheduling w | succeeded w => exact Or.inr (Or.inr (Or.inl (OnOwnQueue.added hfits)))
  | aborted w =>
    rcases hfits with ⟨hpanic, -⟩ | hown
    · exact Or.inr (Or.inr (Or.inr hpanic))
    · exact Or.inr (Or.inr (Or.inl hown.added))
  | failed err => exact Or.inr (Or.inl hfits.2.1)
  | unreachable w => exact hfits.elim

/-- Where its `with_context` call can be: on the queue of its own work, or not begun. -/
theorem Fits.with_call {handler : Handler} (hfits : Fits m captured h handler) :
    (∃ w, handler.work = some w ∧ OnOwnQueue m captured h w) ∨ m.calls (withCall h) = .idle := by
  cases handler with
  | idle | check | alloc | add | adding => exact Or.inr hfits.2
  | schedule w => exact Or.inr hfits.2.2
  | scheduling w | succeeded w => exact Or.inl ⟨w, rfl, hfits⟩
  | aborted w =>
    rcases hfits with ⟨-, hwith⟩ | hown
    · exact Or.inr hwith
    · exact Or.inl ⟨w, rfl, hown⟩
  | failed err => exact Or.inr hfits.2.2
  | unreachable w => exact hfits.elim

end Calls

/-! ## Whose calls they are

The other direction: a call of the manager at an insert or at an append belongs to a handler, with
the queue of that handler. -/

/-- Who is about to insert is a handler in `add_context`, with its own queue. No other call of the
system ever comes to an insert. -/
theorem Settled.insert_owner {s : State} (hs : Settled s) {t : TaskId} {id : RanUeNgapId}
    {q : QueueId} (hc : s.manager.calls t = .addInsert id q) :
    ∃ h w, t = addCall h ∧ s.handlers h = .adding w ∧ w.request.ranUeNgapId = id ∧
      w.queue = q := by
  obtain ⟨h, rfl | rfl⟩ := call_of_task t
  · -- of the two calls of a handler only `add_context` inserts
    rcases (hs.fits h).add_call with ⟨w, hh, hins⟩ | hidle | hok | hpanic
    · rw [hins] at hc
      cases hc
      exact ⟨h, w, rfl, hh, rfl, rfl⟩
    · rw [hidle] at hc; cases hc
    · rw [hok] at hc; cases hc
    · rw [hpanic] at hc; cases hc
  · rcases (hs.fits h).with_call with ⟨w, -, hown⟩ | hidle
    · have hcall := hown.call
      rw [hc] at hcall
      exact hcall.elim
    · rw [hidle] at hc; cases hc

/-- Who is about to append is the `with_context` call of a handler, on the handler's queue. -/
theorem Settled.push_owner {s : State} (hs : Settled s) {t : TaskId} {q : QueueId}
    {rx : Manager.ChanId} (hc : s.manager.calls t = .pushBack q rx) :
    ∃ h w, t = withCall h ∧ (s.handlers h).work = some w ∧ w.queue = q ∧
      s.captured t = some w.request.nasPdu := by
  obtain ⟨h, rfl | rfl⟩ := call_of_task t
  · -- and only `with_context` pushes
    rcases (hs.fits h).add_call with ⟨w, -, hins⟩ | hidle | hok | hpanic
    · rw [hins] at hc; cases hc
    · rw [hidle] at hc; cases hc
    · rw [hok] at hc; cases hc
    · rw [hpanic] at hc; cases hc
  · rcases (hs.fits h).with_call with ⟨w, hw, hown⟩ | hidle
    · have hcall := hown.call
      rw [hc] at hcall
      exact ⟨h, w, rfl, hw, Eq.symm hcall, hown.pdu⟩
    · rw [hidle] at hc; cases hc

/-! ## Steps

A step is one of the manager, or a handler moves with the work it has, or a handler begins a call.
The last two kinds change what belongs to whom. -/

theorem settled_new : Settled .new where
  held := .none _
  fits _ := ⟨rfl, rfl⟩
  noChange _ := rfl
  inner := nofun
  owned := nofun
  scheduled := nofun

/-- The manager moves. A new entry of the map and a new append are each traced to the handler whose
call makes them. -/
theorem Settled.progress {s : State} (hs : Settled s) {m : UeManager}
    (hp : Manager.Progress s.manager m) (hinner : m.inner = s.manager.inner)
    (hnext : m.nextQueue = s.manager.nextQueue) : Settled { s with manager := m } where
  held := by rw [hnext]; exact hs.held
  fits h := (hs.fits h).progress hp
  noChange := hp.no_change hs.noChange
  inner h w hw := by rw [hinner]; exact hs.inner h w hw
  owned id q hq := by
    rcases hp.queues_new hq with hold | ⟨t, hc, -, -⟩
    · exact hs.owned id q hold
    · obtain ⟨h, w, -, hh, hid, hqueue⟩ := hs.insert_owner hc
      exact ⟨h, w, by rw [hh]; rfl, hqueue, hid⟩
  scheduled q t hmem := by
    rcases hp.appended_new hmem with hold | ⟨rx, hc⟩
    · exact hs.scheduled q t hold
    · exact hs.push_owner hc

/-- A handler moves on with the work it had. The map, the appends and the PDUs stay, so only the
clause on this handler has to be shown again. -/
theorem Settled.move {s s' : State} (hs : Settled s) {h : HandlerId} {handler : Handler}
    (hmanager : s'.manager = s.manager) (hcaptured : s'.captured = s.captured)
    (hhandlers : s'.handlers = Function.update s.handlers h handler)
    (hwork : handler.work = (s.handlers h).work)
    (hfits : Fits s.manager s.captured h handler) : Settled s' := by
  have hworks : ∀ h', (s'.handlers h').work = (s.handlers h').work := by
    intro h'
    rw [hhandlers]
    exact update_view Handler.work hwork h'
  have hqueues : Handler.queue ∘ s'.handlers = Handler.queue ∘ s.handlers := by
    funext h'
    simp only [Function.comp, Handler.queue, hworks h']
  exact
    { held := by rw [hqueues, hmanager]; exact hs.held
      fits := fun h' => by
        rw [hmanager, hcaptured, hhandlers]
        by_cases heq : h' = h
        · subst heq; rw [Function.update_self]; exact hfits
        · rw [Function.update_of_ne heq]; exact hs.fits h'
      noChange := by rw [hmanager]; exact hs.noChange
      inner := fun h' w hw => by rw [hmanager]; exact hs.inner h' w (hworks h' ▸ hw)
      owned := fun id q hq => by
        obtain ⟨h', w, hw, hrest⟩ := hs.owned id q (hmanager ▸ hq)
        exact ⟨h', w, (hworks h').trans hw, hrest⟩
      scheduled := fun q t hmem => by
        obtain ⟨h', w, ht, hw, hqueue, hpdu⟩ := hs.scheduled q t (hmanager ▸ hmem)
        exact ⟨h', w, ht, (hworks h').trans hw, hqueue, hcaptured ▸ hpdu⟩ }

/-- A handler begins `add_context`. It takes a queue that nobody has, with its UE context in it, and
from now on its work is that queue; the works of the others are older than it. -/
theorem Settled.beginAdd {s : State} (hs : Settled s) {h : HandlerId} {request : InitialUeMessage}
    {ctx : UeContext} (hh : s.handlers h = .add request ctx)
    (hkey : ctx.ranUeNgapId = request.ranUeNgapId) :
    Settled
      { s with
        manager := s.manager.newQueue (addCall h) ctx
        handlers :=
          Function.update s.handlers h (.adding ⟨request, ctx, s.manager.nextQueue⟩) } := by
  have hnone : (s.handlers h).work = none := by rw [hh]; rfl
  -- the work of the others is as it was
  have hother : ∀ h' w, (s.handlers h').work = some w → (Function.update s.handlers h
      (.adding ⟨request, ctx, s.manager.nextQueue⟩) h').work = some w := by
    intro h' w hw
    have hne : h' ≠ h := by
      rintro rfl
      rw [hnone] at hw
      cases hw
    rw [Function.update_of_ne hne]
    exact hw
  -- the six fields of the invariant, with the new queue as the handler's own
  refine
    { held := ?_
      fits := fun h' => ?_
      noChange := fun t => ?_
      inner := fun h' w hw => ?_
      owned := fun id q hq => ?_
      scheduled := fun q t hmem => ?_ }
  · rw [Function.comp_update]
    exact hs.held.alloc h
  · by_cases heq : h' = h
    · subst heq
      have hidle : s.manager.calls (withCall h') = .idle := by
        have hfits := hs.fits h'
        rw [hh] at hfits
        exact hfits.2
      simp only [Function.update_self]
      refine ⟨Or.inl ?_, ?_⟩
      · simp only [Manager.State.newQueue, Function.update_self]
        rw [← hkey]
        rfl
      · simp only [Manager.State.newQueue, Function.update_of_ne (withCall_ne_addCall h' h')]
        exact hidle
    · simp only [Function.update_of_ne heq]
      refine (hs.fits h').frame ?_ ?_ rfl rfl
      · exact Function.update_of_ne (fun hcall => heq (addCall_inj.mp hcall)) ..
      · exact Function.update_of_ne (withCall_ne_addCall h' h) ..
  · rcases update_cases (rfl : (s.manager.newQueue (addCall h) ctx).calls t = _) with
      ⟨-, hnew⟩ | ⟨-, hold⟩
    · rw [← hnew]; rfl
    · rw [← hold]; exact hs.noChange t
  · by_cases heq : h' = h
    · subst heq
      simp only [Function.update_self, Handler.work, Option.some.injEq] at hw
      subst hw
      exact Function.update_self ..
    · simp only [Function.update_of_ne heq] at hw
      have hlt : w.queue < s.manager.nextQueue :=
        hs.held.lt h' w.queue (by simp [Handler.queue, hw])
      exact (Function.update_of_ne (Nat.ne_of_lt hlt) ..).trans (hs.inner h' w hw)
  · obtain ⟨h', w, hw, hrest⟩ := hs.owned id q hq
    exact ⟨h', w, hother h' w hw, hrest⟩
  · obtain ⟨h', w, ht, hw, hrest⟩ := hs.scheduled q t hmem
    exact ⟨h', w, ht, hother h' w hw, hrest⟩

/-- A handler begins `with_context` on its id. The closure captures the PDU of its message, which
nobody else's call does, and the call is the second one of this handler. -/
theorem Settled.beginWith {s : State} (hs : Settled s) {h : HandlerId} {w : Work}
    (hh : s.handlers h = .schedule w) :
    Settled
      { s with
        manager := s.manager.setCall (withCall h) (.withRead w.request.ranUeNgapId)
        captured := Function.update s.captured (withCall h) (some w.request.nasPdu)
        handlers := Function.update s.handlers h (.scheduling w) } := by
  have hwork : (s.handlers h).work = some w := by rw [hh]; rfl
  have hworks : ∀ h', (Function.update s.handlers h (.scheduling w) h').work
      = (s.handlers h').work := update_view Handler.work hwork.symm
  obtain ⟨hok, hstored, -⟩ : Fits s.manager s.captured h (.schedule w) := hh ▸ hs.fits h
  -- the six fields of the invariant, with the PDU captured for the new call
  refine
    { held := ?_
      fits := fun h' => ?_
      noChange := fun t => ?_
      inner := fun h' w' hw' => hs.inner h' w' (hworks h' ▸ hw')
      owned := fun id q hq => ?_
      scheduled := fun q t hmem => ?_ }
  · refine hs.held.keep fun h' n hn => ?_
    simpa only [Function.comp, Handler.queue, hworks h'] using hn
  · by_cases heq : h' = h
    · subst heq
      simp only [Function.update_self]
      refine ⟨?_, hstored, Function.update_self .., ?_⟩
      · exact (Function.update_of_ne (withCall_ne_addCall h' h').symm ..).trans hok
      · simp only [Manager.State.setCall, Function.update_self]
        rfl
    · have hne : withCall h' ≠ withCall h := fun hcall => heq (withCall_inj.mp hcall)
      simp only [Function.update_of_ne heq]
      refine (hs.fits h').frame ?_ ?_ rfl ?_
      · exact Function.update_of_ne (withCall_ne_addCall h h').symm ..
      · exact Function.update_of_ne hne ..
      · exact Function.update_of_ne hne ..
  · rcases update_cases (rfl : (s.manager.setCall (withCall h)
        (.withRead w.request.ranUeNgapId)).calls t = _) with ⟨-, hnew⟩ | ⟨-, hold⟩
    · rw [← hnew]; rfl
    · rw [← hold]; exact hs.noChange t
  · obtain ⟨h', w', hw', hrest⟩ := hs.owned id q hq
    exact ⟨h', w', (hworks h').trans hw', hrest⟩
  · obtain ⟨h', w', rfl, hw', hqueue, hpdu⟩ := hs.scheduled q t hmem
    refine ⟨h', w', rfl, (hworks h').trans hw', hqueue, ?_⟩
    by_cases heq : h' = h
    · subst heq
      rw [hwork] at hw'
      cases hw'
      exact Function.update_self ..
    · exact (Function.update_of_ne (fun hcall => heq (withCall_inj.mp hcall)) ..).trans hpdu

/-! ## The ends of the two calls

What the calls come back with, given what the handler knows. The errors that the code provides for
do not occur here. -/

/-- `add_context` comes back with the queue stored, or panics: neither of its errors. -/
theorem onAdded_fits {m : UeManager} {captured : TaskId → Option NasPdu} {h : HandlerId} {w : Work}
    {handler : Handler} (hfits : Fits m captured h (.adding w))
    (hres : onAdded w (m.calls (addCall h)) = some handler) :
    handler.work = some w ∧ Fits m captured h handler := by
  obtain ⟨hins | ⟨hok, hstored⟩ | hpanic, hwith⟩ := hfits
  · rw [hins] at hres; cases hres
  · rw [hok] at hres
    cases hres
    exact ⟨rfl, hok, hstored, hwith⟩
  · rw [hpanic] at hres
    cases hres
    exact ⟨rfl, Or.inl ⟨hpanic, hwith⟩⟩

/-- `with_context` finds the handler's own queue: it does not come back with an error. -/
theorem onReturned_fits {m : UeManager} {captured : TaskId → Option NasPdu} {h : HandlerId}
    {w : Work} {handler : Handler} (hown : OnOwnQueue m captured h w)
    (hres : onReturned w (m.calls (withCall h)) = some handler) :
    handler.work = some w ∧ Fits m captured h handler := by
  have hcall := hown.call
  unfold onReturned at hres
  split at hres
  · next heq => rw [heq] at hcall; exact hcall.elim
  · cases hres; exact ⟨rfl, hown⟩
  · cases hres; exact ⟨rfl, Or.inr hown⟩
  · cases hres

/-- Every step keeps everything settled. That the UE context has the id of its message is from
`Numbered`, which is about the same run; the rest is the lemmas above, one for each kind of step. -/
theorem Settled.step {gnb : ConnId} {s s' : State} {a : Act} (hnum : Numbered gnb s)
    (hs : Settled s) (hstep : Step gnb s a s') : Settled s' := by
  -- each step is one of the handler alone, the begin of a call, or a step of the manager
  cases hstep with
  | @receive h request hh =>
    refine hs.move rfl rfl rfl (by rw [hh]; rfl) ?_
    have hfits := hs.fits h
    rwa [hh] at hfits
  | @check h request hh =>
    have hfits := hs.fits h
    rw [hh] at hfits
    unfold State.checkContext
    split
    · exact hs.move rfl rfl rfl (by rw [hh]; rfl) ⟨⟨request, rfl⟩, hfits⟩
    · exact hs.move rfl rfl rfl (by rw [hh]; rfl) hfits
  | @alloc h request hh =>
    refine hs.move rfl rfl rfl (by rw [hh]; rfl) ?_
    have hfits := hs.fits h
    rwa [hh] at hfits
  | @add h request ctx hh hidle =>
    refine hs.beginAdd hh ?_
    rw [(hnum.made h request ctx (by rw [hh]; rfl)).1]
    rfl
  | @added h w handler hh hres =>
    obtain ⟨hwork, hfits⟩ := onAdded_fits (hh ▸ hs.fits h) hres
    exact hs.move rfl rfl rfl (by rw [hwork, hh]; rfl) hfits
  | schedule hh hidle => exact hs.beginWith hh
  | @returned h w handler hh hres =>
    have hown : Fits s.manager s.captured h (.scheduling w) := hh ▸ hs.fits h
    obtain ⟨hwork, hfits⟩ := onReturned_fits hown hres
    exact hs.move rfl rfl rfl (by rw [hwork, hh]; rfl) hfits
  | manager hact hm =>
    have hstep := Manager.step_cases hm
    obtain ⟨hinner, hnext⟩ := hstep.contexts_eq hact
    exact hs.progress (hstep.progress hact hs.noChange) hinner hnext

theorem settled_of_run {gnb : ConnId} {as : List Act} {s : State}
    (run : (system gnb).Run as s) : Settled s :=
  run.invariant settled_new fun _ _ _ _ run hs _ hstep =>
    hs.step (numbered_of_run run) (step_cases hstep)

/-! ## The message of a handler

Needed to say for which message an id was served: the one that the loop spawned the handler for. -/

def Handler.request : Handler → Option InitialUeMessage
  | .check request | .alloc request | .add request _ => some request
  | handler => handler.work.map (·.request)

/-- A handler with work has the message of its work. -/
theorem Handler.request_of_work {handler : Handler} {w : Work} (h : handler.work = some w) :
    handler.request = some w.request := by
  cases handler with
  | idle | check | alloc | add | failed => cases h
  | adding | schedule | scheduling | succeeded | aborted | unreachable => cases h; rfl

/-- A handler works on the message it was spawned for. By induction on the run: a step gives a
handler no other message, and it is spawned by an action that names its message. -/
theorem request_received {gnb : ConnId} {as : List Act} {s : State} (run : (system gnb).Run as s) :
    ∀ h request, (s.handlers h).request = some request → .receive h request ∈ as := by
  refine run.history (P := fun as s => ∀ h request, (s.handlers h).request = some request →
    .receive h request ∈ as) nofun ?_
  intro as s a s' run hreq _ hstep
  have hs := settled_of_run run
  -- the handler that moves goes on with its message, or has just been spawned for it
  have hmoved : ∀ (h₀ : HandlerId) (handler : Handler),
      (∀ r, handler.request = some r → (s.handlers h₀).request = some r ∨ a = .receive h₀ r) →
      ∀ h r, (Function.update s.handlers h₀ handler h).request = some r →
        .receive h r ∈ as ++ [a] := by
    intro h₀ handler hhandler h r hr
    by_cases heq : h = h₀
    · subst heq
      rw [Function.update_self] at hr
      rcases hhandler r hr with hold | rfl
      · exact List.mem_append_left _ (hreq h r hold)
      · exact List.mem_append_right _ (List.mem_singleton_self _)
    · rw [Function.update_of_ne heq] at hr
      exact List.mem_append_left _ (hreq h r hr)
  -- a handler keeps the message it was spawned for
  cases step_cases hstep with
  | receive hh => exact hmoved _ _ fun r hr => by cases hr; exact Or.inr rfl
  | @check h request hh =>
    refine hmoved _ _ fun r hr => Or.inl ?_
    rw [hh]
    unfold State.checkContext at hr
    split at hr
    · cases hr
    · exact hr
  | alloc hh | add hh | schedule hh => exact hmoved _ _ fun r hr => Or.inl (by rw [hh]; exact hr)
  | @added h w handler hh hres =>
    obtain ⟨hwork, -⟩ := onAdded_fits (hh ▸ hs.fits h) hres
    refine hmoved _ _ fun r hr => Or.inl ?_
    rw [Handler.request_of_work hwork] at hr
    rw [hh]
    exact hr
  | @returned h w handler hh hres =>
    have hown : Fits s.manager s.captured h (.scheduling w) := hh ▸ hs.fits h
    obtain ⟨hwork, -⟩ := onReturned_fits hown hres
    refine hmoved _ _ fun r hr => Or.inl ?_
    rw [Handler.request_of_work hwork] at hr
    rw [hh]
    exact hr
  | manager => exact fun h r hr => List.mem_append_left _ (hreq h r hr)

/-! ## One winner

The invariant in terms of messages. Two winners of one id would both have their own queue under it.
-/

/-- Under the id of `request` the manager has a UE context with the cause and the 5G-S-TMSI of
`request` and the AMF UE NGAP ID handler `h` took, and the one call that has scheduled a PDU
on it is that of handler `h`, with the PDU of `request`. -/
def State.HoldsOnly (s : State) (h : HandlerId) (request : InitialUeMessage) : Prop :=
  ∃ q ctx, s.manager.queues request.ranUeNgapId = some q ∧ s.manager.inner q = some ctx ∧
    ctx.rrcEstablishmentCause = request.rrcEstablishmentCause ∧
    ctx.fiveGSTmsi = request.fiveGSTmsi.map .ofNgap ∧
    (h, ctx.amfUeNgapId) ∈ s.increments ∧
    ∀ t, Event.appended q t ∈ s.manager.log →
      t = withCall h ∧ s.captured t = some request.nasPdu

/-- What has been appended to the queue of a handler is that handler's PDU. The queue is in one
handler's work only. -/
theorem Settled.scheduled_own {s : State} (hs : Settled s) {h : HandlerId} {w : Work}
    (hwork : (s.handlers h).work = some w) {t : TaskId}
    (ht : Event.appended w.queue t ∈ s.manager.log) :
    t = withCall h ∧ s.captured t = some w.request.nasPdu := by
  obtain ⟨h', w', rfl, hw', hqueue, hpdu⟩ := hs.scheduled w.queue t ht
  have heq : h' = h := hs.held.unique h' h w.queue
    (by simp [Handler.queue, hw', hqueue]) (by simp [Handler.queue, hwork])
  subst heq
  rw [hwork] at hw'
  cases hw'
  exact ⟨rfl, hpdu⟩

/-- What the manager holds for a handler that has succeeded is from its message, and nothing else
has been scheduled there. -/
theorem Settled.holds_only {gnb : ConnId} {s : State} (hs : Settled s) (hnum : Numbered gnb s)
    {h : HandlerId} {w : Work} (hh : s.handlers h = .succeeded w) : s.HoldsOnly h w.request := by
  have hwork : (s.handlers h).work = some w := by rw [hh]; rfl
  have hown : Fits s.manager s.captured h (.succeeded w) := hh ▸ hs.fits h
  obtain ⟨hctx, hmem⟩ := hnum.made h w.request w.ctx (by rw [hh]; rfl)
  refine ⟨w.queue, w.ctx, OnOwnQueue.stored hown, hs.inner h w hwork, ?_, ?_, hmem,
    fun t ht => ?_⟩
  · rw [hctx]; rfl
  · rw [hctx]; rfl
  · exact hs.scheduled_own hwork ht

/-- A message with RAN UE NGAP ID `id` and a NAS PDU of one octet. -/
def ueMessage (id : RanUeNgapId) (octet : UInt8) : InitialUeMessage where
  ranUeNgapId := id
  nasPdu := [octet]
  rrcEstablishmentCause := 3
  fiveGSTmsi := some ⟨0x155, 0x15, 0xde, 0xad, 0xbe, 0xef⟩

/-- `handle_nas` does not panic. -/
def NoNasPanic (_ : State) (a : Act) : Prop := ∀ p, a ≠ .manager (.panic p)

/-- A handler makes a call. -/
def Act.isCall : Act → Bool
  | .add _ | .schedule _ => true
  | _ => false

/-- A call or a processor moves. -/
def Act.isManager : Act → Bool
  | .manager _ => true
  | _ => false

/-- The steps of the handlers and their calls are steps of the manager, or none. By induction on the
run, which builds the manager's schedule. -/
theorem manager_of_run {gnb : ConnId} {as : List Act} {s : State}
    (run : (system gnb).RunUnder NoNasPanic as s) :
    ∃ bs, (Manager.system RanUeNgapId UeContext Unit).RunUnder Manager.NoPanic bs s.manager ∧
      bs.countP Manager.Act.isProgress = as.countP Act.isManager ∧
      bs.countP (!·.isProgress) = as.countP Act.isCall := by
  induction run with
  | nil => exact ⟨[], .nil, rfl, rfl⟩
  | @snoc as s s' a run cond hstep ih =>
    obtain ⟨bs, hbs, hmoves, hcalls⟩ := ih
    have hnext : ∀ b m, Manager.step s.manager b = some m → (∀ p, b ≠ .panic p) →
        b.isProgress = a.isManager → (!b.isProgress) = a.isCall → ∃ bs,
        (Manager.system RanUeNgapId UeContext Unit).RunUnder Manager.NoPanic bs m ∧
          bs.countP Manager.Act.isProgress = (as ++ [a]).countP Act.isManager ∧
          bs.countP (!·.isProgress) = (as ++ [a]).countP Act.isCall := by
      intro b m hm hquiet hmove hcall
      refine ⟨bs ++ [b], .snoc hbs hquiet hm, ?_, ?_⟩
      · rw [List.countP_append, List.countP_append, hmoves, List.countP_singleton,
          List.countP_singleton, hmove]
      · rw [List.countP_append, List.countP_append, hcalls, List.countP_singleton,
          List.countP_singleton, hcall]
    -- the steps of handlers are none of the manager, but for the two that begin a call
    cases step_cases hstep with
    | receive | check | alloc | added | returned =>
      refine ⟨bs, hbs, ?_, ?_⟩
      · rw [List.countP_append, hmoves]
        rfl
      · rw [List.countP_append, hcalls]
        rfl
    | @add h request ctx hh hidle =>
      refine hnext (.addContext (addCall h) ctx) _ ?_ (by rintro p ⟨⟩) rfl rfl
      simp only [Manager.step, hidle]
    | @schedule h w hh hidle =>
      refine hnext (.withContext (withCall h) w.request.ranUeNgapId) _ ?_ (by rintro p ⟨⟩) rfl rfl
      simp only [Manager.step, hidle]
    | manager hact hm =>
      refine hnext _ _ hm (fun p heq => cond p (by rw [heq])) hact ?_
      rw [hact]
      rfl

/-- Under every id the manager has the UE context of one handler, and `handle_nas` runs on it at
most once, with the PDU of that handler's message. What is started was appended, and nobody else
appends there. -/
theorem nas_handled_once {gnb : ConnId} {as : List Act} {s : State}
    (run : (system gnb).RunUnder NoNasPanic as s) {id : RanUeNgapId} {q : QueueId}
    (hq : s.manager.queues id = some q) :
    ∃ h w, (s.handlers h).work = some w ∧ w.request.ranUeNgapId = id ∧
      s.manager.inner q = some w.ctx ∧
      (s.manager.started q = [] ∨
        s.manager.started q = [withCall h] ∧
          s.captured (withCall h) = some w.request.nasPdu) := by
  have hs := settled_of_run run.run
  obtain ⟨h, w, hw, rfl, hid⟩ := hs.owned id q hq
  obtain ⟨bs, hbs, -⟩ := manager_of_run run
  have hordered := (Manager.serial_of_run hbs w.queue).2
  obtain ⟨hand, happ, -⟩ := Manager.accounted_of_ordered hordered
  have hnodup : (s.manager.appended w.queue).Nodup := List.Nodup.of_map _ hordered.arrived_nodup
  -- what is started was appended, and only the handler's own call appends here
  have hstarted : ∀ t ∈ s.manager.started w.queue,
      t = withCall h ∧ s.captured t = some w.request.nasPdu := by
    intro t ht
    have hmem : t ∈ s.manager.appended w.queue := by
      rw [happ]
      exact List.mem_append_left _ (List.mem_append_left _ ht)
    exact hs.scheduled_own hw (Manager.mem_appended.mp hmem)
  refine ⟨h, w, hw, hid, hs.inner h w hw, ?_⟩
  have hrep := List.eq_replicate_of_mem fun t ht => (hstarted t ht).1
  have hlen : (s.manager.started w.queue).length ≤ 1 := by
    rw [happ, hrep] at hnodup
    exact List.nodup_replicate.mp hnodup.of_append_left.of_append_left
  -- it was started once, or not yet
  rcases Nat.le_one_iff_eq_zero_or_eq_one.mp hlen with hzero | hone
  · exact Or.inl (List.length_eq_zero_iff.mp hzero)
  · rw [hone] at hrep
    refine Or.inr ⟨hrep, (hstarted (withCall h) ?_).2⟩
    rw [hrep]
    exact List.mem_singleton_self _

end UnifyAir.InitialUe
