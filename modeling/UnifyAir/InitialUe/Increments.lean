import UnifyAir.InitialUe.Spec

/-!
# UnifyAir — the AMF UE NGAP IDs one gNB gives out

Each gNB context has a generator of its own. The `n`-th increment returns `n`, up to the
width of the counter, and a handler increments once; so its id is given by its *turn*, its
position among the handlers of the same gNB that have come to the generator.

* **`numbered_of_run`** — the invariant.
* **`Numbered.amf_eq_turn`** — the id of a UE context is the turn of the handler that made it,
  counted from one.
-/

namespace UnifyAir.InitialUe

open Concurrency
open Ngap (ConnId)

/-- The message of a handler that has made its UE context, and the context. -/
def Handler.made : Handler → Option (InitialUeMessage × UeContext)
  | .add request ctx => some (request, ctx)
  | .adding w | .schedule w | .scheduling w | .succeeded w | .aborted w | .unreachable w =>
    some (w.request, w.ctx)
  | _ => none

/-- The handler has not come to the generator. -/
def Handler.isBefore : Handler → Bool
  | .idle | .check _ | .alloc _ => true
  | _ => false

/-- The handlers that have come to the generator, in order. -/
def State.turns (s : State) : List HandlerId := s.increments.map Prod.fst

def State.turn (s : State) (h : HandlerId) : Nat := s.turns.idxOf h

structure Numbered (gnb : ConnId) (s : State) : Prop where
  made : ∀ h request ctx, (s.handlers h).made = some (request, ctx) →
    ctx = .ofRequest gnb request ctx.amfUeNgapId ∧ (h, ctx.amfUeNgapId) ∈ s.increments
  value : s.amfUeIdGenerator.value = BitVec.ofNat 64 (s.increments.length + 1)
  ids : ∀ i h n, s.increments[i]? = some (h, n) → n = BitVec.ofNat 64 (i + 1)
  before : ∀ h, (s.handlers h).isBefore = true → h ∉ s.turns
  nodup : s.turns.Nodup

/-- Nobody has come to the generator yet, and it stands at zero. -/
theorem numbered_new (gnb : ConnId) : Numbered gnb .new where
  made := nofun
  value := rfl
  ids := by simp [State.new]
  before := by simp [State.new, State.turns]
  nodup := List.nodup_nil

theorem Numbered.keep {gnb : ConnId} {s s' : State} (h : Numbered gnb s)
    (hgenerator : s'.amfUeIdGenerator = s.amfUeIdGenerator)
    (hincrements : s'.increments = s.increments)
    (hmade : ∀ id p, (s'.handlers id).made = some p → (s.handlers id).made = some p)
    (hbefore : ∀ id, (s'.handlers id).isBefore = true → (s.handlers id).isBefore = true) :
    Numbered gnb s' where
  made id request ctx hid := by rw [hincrements]; exact h.made id request ctx (hmade id _ hid)
  value := by rw [hgenerator, hincrements]; exact h.value
  ids := by rw [hincrements]; exact h.ids
  before id hid := by
    rw [State.turns, hincrements]
    exact h.before id (hbefore id hid)
  nodup := by rw [State.turns, hincrements]; exact h.nodup

/-- A handler moves on without having been at the generator, or after it. -/
theorem Numbered.move {gnb : ConnId} {s s' : State} (h : Numbered gnb s) {id : HandlerId}
    {handler : Handler} (hgenerator : s'.amfUeIdGenerator = s.amfUeIdGenerator)
    (hincrements : s'.increments = s.increments)
    (hhandlers : s'.handlers = Function.update s.handlers id handler)
    (hmade : ∀ p, handler.made = some p → (s.handlers id).made = some p)
    (hbefore : handler.isBefore = true → (s.handlers id).isBefore = true) : Numbered gnb s' := by
  refine h.keep hgenerator hincrements (fun id' p hp => ?_) fun id' hid' => ?_
  · rw [hhandlers] at hp
    exact of_update (fun handler : Handler => handler.made = some p) (hmade p) hp
  · rw [hhandlers] at hid'
    exact of_update (fun handler : Handler => handler.isBefore = true) hbefore hid'

/-- A handler takes an id. The counter, the history and the handler move together, and the new entry
of the history is the last one. -/
theorem Numbered.allocate {gnb : ConnId} {s : State} (h : Numbered gnb s) {id : HandlerId}
    {request : InitialUeMessage} (hh : s.handlers id = .alloc request) :
    Numbered gnb (s.allocate gnb id request) where
  made id' request' ctx hid' := by
    by_cases heq : id' = id
    · subst heq
      simp only [State.allocate, Function.update_self, Handler.made, Option.some.injEq,
        Prod.mk.injEq] at hid'
      obtain ⟨rfl, rfl⟩ := hid'
      exact ⟨rfl, List.mem_append_right _ (List.mem_singleton_self _)⟩
    · simp only [State.allocate, Function.update_of_ne heq] at hid'
      obtain ⟨hctx, hmem⟩ := h.made id' request' ctx hid'
      exact ⟨hctx, List.mem_append_left _ hmem⟩
  value := by
    simp only [State.allocate, Counter.increment, h.value, List.length_append,
      List.length_singleton]
    rw [← BitVec.ofNat_add]
  ids i id' n hi := by
    simp only [State.allocate, Counter.increment] at hi
    -- an old entry, the new one, or none
    rcases lt_trichotomy i s.increments.length with hlt | rfl | hgt
    · rw [List.getElem?_append_left hlt] at hi
      exact h.ids i id' n hi
    · rw [List.getElem?_append_right (Nat.le_refl _), Nat.sub_self] at hi
      cases hi
      exact h.value
    · rw [List.getElem?_eq_none (by simpa using Nat.succ_le_of_lt hgt)] at hi
      cases hi
  before id' hid' := by
    by_cases heq : id' = id
    · subst heq
      simp [State.allocate, Handler.isBefore] at hid'
    · simp only [State.allocate, Function.update_of_ne heq] at hid'
      have hold := h.before id' hid'
      simpa [State.turns, State.allocate, heq] using hold
  nodup := by
    have hnew : id ∉ s.turns := h.before id (by rw [hh]; rfl)
    simpa [State.turns, State.allocate, List.nodup_append] using ⟨h.nodup, fun a n hmem heq =>
      hnew (heq ▸ List.mem_map.mpr ⟨_, hmem, rfl⟩)⟩

/-- After `add_context` a handler has the UE context that it had before. -/
theorem onAdded_made {w : Work} {c : Manager.Call RanUeNgapId UeContext Unit} {handler : Handler}
    (h : onAdded w c = some handler) :
    handler.isBefore = false ∧ ∀ p, handler.made = some p → p = (w.request, w.ctx) := by
  unfold onAdded at h
  split at h <;> cases h <;> refine ⟨rfl, fun p hp => ?_⟩ <;> cases hp <;> rfl

theorem onReturned_made {w : Work} {c : Manager.Call RanUeNgapId UeContext Unit}
    {handler : Handler} (h : onReturned w c = some handler) :
    handler.isBefore = false ∧ ∀ p, handler.made = some p → p = (w.request, w.ctx) := by
  unfold onReturned at h
  split at h <;> cases h <;> refine ⟨rfl, fun p hp => ?_⟩ <;> cases hp <;> rfl

theorem checkContext_made (s : State) (request : InitialUeMessage) :
    (s.checkContext request).made = none := by
  unfold State.checkContext
  split <;> rfl

/-- Every step keeps the numbering. Only `alloc` comes to the generator; all others leave the list
of increments as it is, and give no context to a handler that had none. -/
theorem Numbered.step {gnb : ConnId} {s s' : State} {a : Act} (h : Numbered gnb s)
    (hstep : Step gnb s a s') : Numbered gnb s' := by
  -- the counter moves at `alloc` only
  cases hstep with
  | receive hh => exact h.move rfl rfl rfl nofun fun _ => by rw [hh]; rfl
  | check hh =>
    refine h.move rfl rfl rfl (fun p hp => ?_) fun _ => by rw [hh]; rfl
    rw [checkContext_made] at hp
    cases hp
  | alloc hh => exact h.allocate hh
  | add hh | schedule hh => exact h.move rfl rfl rfl (fun p hp => by rw [hh]; exact hp) nofun
  | added hh hres =>
    obtain ⟨hbefore, hmade⟩ := onAdded_made hres
    refine h.move rfl rfl rfl (fun p hp => ?_) fun htrue => by rw [hbefore] at htrue; cases htrue
    rw [hh, hmade p hp]
    rfl
  | returned hh hres =>
    obtain ⟨hbefore, hmade⟩ := onReturned_made hres
    refine h.move rfl rfl rfl (fun p hp => ?_) fun htrue => by rw [hbefore] at htrue; cases htrue
    rw [hh, hmade p hp]
    rfl
  | manager => exact h.keep rfl rfl (fun _ _ hp => hp) fun _ hid => hid

theorem numbered_of_run {gnb : ConnId} {as : List Act} {s : State}
    (run : (system gnb).Run as s) : Numbered gnb s :=
  run.invariant (numbered_new gnb) fun _ _ _ _ _ h _ hstep => h.step (step_cases hstep)

/-! ## Turns

The position of a handler in the history of the generator. Histories only grow at the end, so a
turn, once taken, stays. -/

variable {gnb : ConnId} {s : State}

/-- The id of a UE context is the turn of its handler, counted from one. A handler comes to the
generator once, so its position is the first one. -/
theorem Numbered.amf_eq_turn (h : Numbered gnb s) {id : HandlerId} {n : AmfUeNgapId}
    (hmem : (id, n) ∈ s.increments) :
    s.turn id < s.increments.length ∧ n = BitVec.ofNat 64 (s.turn id + 1) := by
  obtain ⟨i, hi, hget⟩ := List.mem_iff_getElem.mp hmem
  have hturn : s.turn id = i := by
    have hlt : i < s.turns.length := by simpa [State.turns] using hi
    have hid : s.turns[i] = id := by simp [State.turns, hget]
    rw [State.turn, ← hid, h.nodup.idxOf_getElem]
  rw [hturn]
  exact ⟨hi, h.ids i id n (by rw [List.getElem?_eq_getElem hi, hget])⟩

theorem turn_step {s' : State} {a : Act} (hstep : Step gnb s a s') {id : HandlerId}
    (hid : id ∈ s.turns) : s'.turn id = s.turn id := by
  cases hstep with
  | alloc =>
    simp only [State.turn, State.turns, State.allocate, List.map_append]
    exact List.idxOf_append_of_mem hid
  | receive | check | add | added | schedule | returned | manager => rfl

end UnifyAir.InitialUe
