import UnifyAir.Concurrency.Interleaving
import UnifyAir.InitialUe.Winner

/-!
# UnifyAir — AMF UE NGAP IDs across gNBs

Every gNB context has its own generator, and each generator starts at one. On one gNB the ids
of UE contexts differ as long as the counter does not wrap, but the `n`-th handler to come to
the generator of one gNB takes the same id as the `n`-th on another.

* **`idsUnique_iff_turnsApart`** — ids clash exactly when the turns of two handlers on
  different gNBs do.
* **`amf_ids_unique_iff_inserts_apart`** — so the ids stay unique in exactly the runs in which
  no UE context is stored while another gNB holds one of the same turn.
* **`insertsApart_of_one_gnb`** — as in every run with one gNB.
-/

namespace UnifyAir.InitialUe

open Concurrency
open Manager (QueueId)
open Ngap (ConnId)

/-- The gNBs of the AMF, each with its handlers. -/
def amf : System (ConnId → State) (ConnId × Act) := System.interleave system

/-- gNB `g` holds the UE context `ctx` under `id`. -/
def HeldAt (s : ConnId → State) (g : ConnId) (id : RanUeNgapId) (ctx : UeContext) : Prop :=
  ∃ q, (s g).manager.queues id = some q ∧ (s g).manager.inner q = some ctx

/-- An AMF UE NGAP ID identifies a UE context, whatever its gNB. -/
def IdsUnique (s : ConnId → State) : Prop :=
  ∀ g g' id id' ctx ctx', HeldAt s g id ctx → HeldAt s g' id' ctx' →
    ctx.amfUeNgapId = ctx'.amfUeNgapId → g = g' ∧ id = id'

def Act.isAlloc : Act → Bool
  | .alloc _ => true
  | _ => false

/-- How many ids a schedule takes, from all generators together. -/
def allocations (as : List (ConnId × Act)) : Nat := as.countP fun a => a.2.isAlloc

/-- The manager has the UE context of handler `h`. -/
def State.Holds (s : State) (h : HandlerId) : Prop :=
  ∃ w, (s.handlers h).work = some w ∧ s.manager.queues w.request.ranUeNgapId = some w.queue

/-- The action is the insert of handler `h`, and its id is free. -/
def State.Inserts (s : State) (a : Act) (h : HandlerId) : Prop :=
  a = .manager (.caller (addCall h)) ∧
    ∃ id q, s.manager.calls (addCall h) = .addInsert id q ∧ s.manager.queues id = none

/-- The condition on a step: no handler stores its UE context while another gNB holds one
whose handler had the same turn at its own generator. -/
def InsertsApart (s : ConnId → State) (a : ConnId × Act) : Prop :=
  ∀ h, (s a.1).Inserts a.2 h → ∀ g' h', g' ≠ a.1 → (s g').Holds h' →
    (s a.1).turn h ≠ (s g').turn h'

/-- Handlers with UE contexts on different gNBs have different turns. -/
def TurnsApart (s : ConnId → State) : Prop :=
  ∀ g g' h h', g ≠ g' → (s g).Holds h → (s g').Holds h' → (s g).turn h ≠ (s g').turn h'

/-! ## One gNB

Who holds a UE context and at which step it came about, for the handlers of one gNB. The turn of the
holder gives its AMF UE NGAP ID. -/

section OneGnb

variable {gnb : ConnId} {s s' : State} {a : Act} {h : HandlerId}

/-- A handler with work has made the UE context of it. -/
theorem Handler.made_of_work {handler : Handler} {w : Work} (hw : handler.work = some w) :
    handler.made = some (w.request, w.ctx) := by
  cases handler with
  | idle | check | alloc | add | failed => cases hw
  | adding | schedule | scheduling | succeeded | aborted | unreachable => cases hw; rfl

/-- So it has come to the generator, and its id is its turn. -/
theorem Numbered.turn_of_work (hnum : Numbered gnb s) {w : Work}
    (hw : (s.handlers h).work = some w) :
    h ∈ s.turns ∧ s.turn h < s.increments.length ∧
      w.ctx.amfUeNgapId = BitVec.ofNat 64 (s.turn h + 1) := by
  obtain ⟨-, hmem⟩ := hnum.made h w.request w.ctx (Handler.made_of_work hw)
  exact ⟨List.mem_map.mpr ⟨_, hmem, rfl⟩, hnum.amf_eq_turn hmem⟩

/-- Whoever holds a UE context has a handler that made it. -/
theorem Settled.owner_of_held (hs : Settled s) {id : RanUeNgapId} {q : QueueId} {ctx : UeContext}
    (hq : s.manager.queues id = some q) (hctx : s.manager.inner q = some ctx) :
    ∃ h w, (s.handlers h).work = some w ∧ w.request.ranUeNgapId = id ∧ w.queue = q ∧
      w.ctx = ctx := by
  obtain ⟨h, w, hw, rfl, rfl⟩ := hs.owned id q hq
  rw [hs.inner h w hw] at hctx
  cases hctx
  exact ⟨h, w, hw, rfl, rfl, rfl⟩

/-- A handler that is about to insert, with its work. -/
theorem Settled.work_of_inserts (hs : Settled s) (hins : s.Inserts a h) :
    ∃ w, (s.handlers h).work = some w ∧
      s.manager.calls (addCall h) = .addInsert w.request.ranUeNgapId w.queue ∧
      s.manager.queues w.request.ranUeNgapId = none := by
  obtain ⟨-, id, q, hc, hfree⟩ := hins
  obtain ⟨h', w, hcall, hh, rfl, rfl⟩ := hs.insert_owner hc
  obtain rfl := addCall_inj.mp hcall
  exact ⟨w, by rw [hh]; rfl, hc, hfree⟩

/-- The work of a handler goes on, or begins with a queue nobody has. In the second case the map has
not changed. -/
theorem Settled.work_new (hs : Settled s) (hstep : Step gnb s a s') {w : Work}
    (hw : (s'.handlers h).work = some w) :
    (s.handlers h).work = some w ∨
      w.queue = s.manager.nextQueue ∧ s'.manager.queues = s.manager.queues := by
  -- a handler that moves with the work it had
  have hmoved : ∀ (h₀ : HandlerId) (handler : Handler), handler.work = (s.handlers h₀).work →
      (Function.update s.handlers h₀ handler h).work = some w → (s.handlers h).work = some w := by
    intro h₀ handler hwork hupd
    rwa [update_view Handler.work hwork] at hupd
  -- a handler gets its work when it begins `add_context`, and keeps it
  cases hstep with
  | @receive h₀ request hh | @alloc h₀ request hh => exact Or.inl (hmoved h₀ _ (by rw [hh]; rfl) hw)
  | @schedule h₀ w₀ hh hidle => exact Or.inl (hmoved h₀ _ (by rw [hh]; rfl) hw)
  | @check h₀ request hh =>
    refine Or.inl (hmoved h₀ _ ?_ hw)
    rw [hh]
    unfold State.checkContext
    split <;> rfl
  | @add h₀ request ctx hh hidle =>
    by_cases heq : h = h₀
    · subst heq
      simp only [Function.update_self, Handler.work, Option.some.injEq] at hw
      subst hw
      exact Or.inr ⟨rfl, rfl⟩
    · simp only [Function.update_of_ne heq] at hw
      exact Or.inl hw
  | @added h₀ w₀ handler hh hres =>
    obtain ⟨hwork, -⟩ := onAdded_fits (hh ▸ hs.fits h₀) hres
    exact Or.inl (hmoved h₀ handler (by rw [hwork, hh]; rfl) hw)
  | @returned h₀ w₀ handler hh hres =>
    have hown : Fits s.manager s.captured h₀ (.scheduling w₀) := hh ▸ hs.fits h₀
    obtain ⟨hwork, -⟩ := onReturned_fits hown hres
    exact Or.inl (hmoved h₀ handler (by rw [hwork, hh]; rfl) hw)
  | manager => exact Or.inl hw

/-- A UE context is held because it was, or because it has just been inserted. The insert is a step
of the manager, and of the call that belongs to this very handler. -/
theorem Settled.holds_new (hs : Settled s) (hstep : Step gnb s a s') (hholds : s'.Holds h) :
    s.Holds h ∨ s.Inserts a h := by
  obtain ⟨w, hw', hstored⟩ := hholds
  -- its work is older than this step, or was made by it
  rcases hs.work_new hstep hw' with hw | ⟨hqueue, hsame⟩
  · cases hstep with
    | receive | check | alloc | added | returned | add | schedule => exact Or.inl ⟨w, hw, hstored⟩
    | @manager b m hact hm =>
      have hms := Manager.step_cases hm
      rcases (hms.progress hact hs.noChange).queues_new hstored with hold | ⟨t, hc, hfree, hc'⟩
      · exact Or.inl ⟨w, hw, hold⟩
      · -- the queue is that of `h`, so the insert is the one of `h`
        obtain ⟨h', w', rfl, hh', -, hqueue⟩ := hs.insert_owner hc
        have heq : h' = h := hs.held.unique h' h w.queue
          (by simp [Handler.queue, hh', Handler.work, hqueue]) (by simp [Handler.queue, hw])
        subst heq
        have hcaller : b = .caller (addCall h') := by
          by_contra hne
          rw [hms.calls_other hact hne, hc] at hc'
          cases hc'
        exact Or.inr ⟨by rw [hcaller], _, _, hc, hfree⟩
  · -- nobody can have stored a queue that was not there
    rw [hsame, hqueue] at hstored
    obtain ⟨h', w', hw', hq', -⟩ := hs.owned _ _ hstored
    have hlt := hs.held.lt h' w'.queue (by simp [Handler.queue, hw'])
    rw [hq'] at hlt
    exact absurd hlt (Nat.lt_irrefl _)

/-- An insert under a free id stores the UE context. -/
theorem Settled.holds_of_inserts (hs : Settled s) (hstep : Step gnb s a s')
    (hins : s.Inserts a h) : s'.Holds h := by
  obtain ⟨w, hw, hc, hfree⟩ := hs.work_of_inserts hins
  obtain ⟨rfl, -⟩ := hins
  cases hstep with
  | manager hact hm =>
    have hstored : Manager.step s.manager (.caller (addCall h))
        = some (s.manager.store (addCall h) w.request.ranUeNgapId w.queue
          (.addReturned (.ok ()))) := by
      simp [Manager.step, Manager.State.callStep, hc, Manager.State.addInsert, hfree]
    rw [hstored] at hm
    cases hm
    exact ⟨w, hw, Function.update_self ..⟩

theorem increments_step (hstep : Step gnb s a s') :
    s'.increments.length ≤ s.increments.length + (if a.isAlloc then 1 else 0) := by
  cases hstep with
  | alloc => simp [State.allocate, Act.isAlloc]
  | receive | check | add | added | schedule | returned | manager => exact Nat.le_add_right _ _

end OneGnb

/-! ## All gNBs

The gNBs run side by side and share nothing, so each component of a run is a run of one gNB. -/

variable {as : List (ConnId × Act)} {s : ConnId → State}

/-- What holds of the handlers of one gNB holds of each here. -/
theorem settled_of_amf (run : amf.Run as s) (g : ConnId) : Settled (s g) :=
  settled_of_run (run.component g)

theorem numbered_of_amf (run : amf.Run as s) (g : ConnId) : Numbered g (s g) :=
  numbered_of_run (run.component g)

/-- No generator has given out more ids than were taken from all of them. -/
theorem increments_le_allocations (run : amf.Run as s) :
    ∀ g, (s g).increments.length ≤ allocations as := by
  refine run.history (P := fun as s => ∀ g, (s g).increments.length ≤ allocations as)
    (fun _ => Nat.le_refl _) ?_
  rintro as s ⟨i, b⟩ s' _ hle _ hstep g
  obtain ⟨t, ht, rfl⟩ := System.interleave_cases hstep
  have hcount : allocations (as ++ [(i, b)]) = allocations as + (if b.isAlloc then 1 else 0) := by
    simp [allocations, List.countP_append, List.countP_singleton]
  rw [hcount]
  by_cases hg : g = i
  · subst hg
    rw [Function.update_self]
    exact (increments_step (step_cases ht)).trans (Nat.add_le_add_right (hle g) _)
  · rw [Function.update_of_ne hg]
    exact (hle g).trans (Nat.le_add_right _ _)

/-- Ids clash exactly when turns on different gNBs do. Below `2 ^ 64` an id gives its turn back; on
one gNB different handlers have different turns anyway. -/
theorem idsUnique_iff_turnsApart (run : amf.Run as s) (hfew : allocations as < 2 ^ 64) :
    IdsUnique s ↔ TurnsApart s := by
  constructor
  · rintro hunique g g' h h' hne ⟨w, hw, hstored⟩ ⟨w', hw', hstored'⟩ hturn
    obtain ⟨-, -, hamf⟩ := (numbered_of_amf run g).turn_of_work hw
    obtain ⟨-, -, hamf'⟩ := (numbered_of_amf run g').turn_of_work hw'
    have hheld : HeldAt s g w.request.ranUeNgapId w.ctx :=
      ⟨w.queue, hstored, (settled_of_amf run g).inner h w hw⟩
    have hheld' : HeldAt s g' w'.request.ranUeNgapId w'.ctx :=
      ⟨w'.queue, hstored', (settled_of_amf run g').inner h' w' hw'⟩
    exact hne (hunique _ _ _ _ _ _ hheld hheld' (by rw [hamf, hamf', hturn])).1
  · -- two ids are equal only if both counters gave them at the same turn
    rintro hapart g g' id id' ctx ctx' ⟨q, hq, hctx⟩ ⟨q', hq', hctx'⟩ hamf
    obtain ⟨h, w, hw, rfl, rfl, rfl⟩ := (settled_of_amf run g).owner_of_held hq hctx
    obtain ⟨h', w', hw', rfl, rfl, rfl⟩ := (settled_of_amf run g').owner_of_held hq' hctx'
    obtain ⟨hmem, hlt, hn⟩ := (numbered_of_amf run g).turn_of_work hw
    obtain ⟨-, hlt', hn'⟩ := (numbered_of_amf run g').turn_of_work hw'
    have hle := increments_le_allocations run g
    have hle' := increments_le_allocations run g'
    have hturn : (s g).turn h = (s g').turn h' := by
      rw [hn, hn'] at hamf
      have hval := congrArg BitVec.toNat hamf
      rw [BitVec.toNat_ofNat, BitVec.toNat_ofNat, Nat.mod_eq_of_lt (by omega),
        Nat.mod_eq_of_lt (by omega)] at hval
      exact Nat.succ.inj hval
    by_cases hg : g = g'
    · subst hg
      obtain rfl : h = h' := (List.idxOf_inj hmem).mp hturn
      rw [hw] at hw'
      cases hw'
      exact ⟨rfl, rfl⟩
    · exact absurd hturn (hapart g g' h h' hg ⟨w, hw, hq⟩ ⟨w', hw', hq'⟩)

/-! ## Steps

A clash comes about at an insert, and the condition looks at inserts. So the two agree step by step.
-/

/-- What is held after a step of gNB `i` was held before or has just been inserted there, and
by a handler with the same turn. -/
theorem holds_step {i g : ConnId} {b : Act} {t : State} {h : HandlerId} (run : amf.Run as s)
    (hstep : Step i (s i) b t) (hholds : (Function.update s i t g).Holds h) :
    ((s g).Holds h ∨ g = i ∧ (s i).Inserts b h) ∧
      (Function.update s i t g).turn h = (s g).turn h := by
  -- only the gNB that moves can have a new entry
  by_cases hg : g = i
  · subst hg
    rw [Function.update_self] at hholds ⊢
    have hs := settled_of_amf run g
    have hnum := numbered_of_amf run g
    rcases hs.holds_new hstep hholds with hold | hins
    · obtain ⟨w, hw, hstored⟩ := hold
      exact ⟨Or.inl ⟨w, hw, hstored⟩, turn_step hstep (hnum.turn_of_work hw).1⟩
    · obtain ⟨w, hw, -⟩ := hs.work_of_inserts hins
      exact ⟨Or.inr ⟨rfl, hins⟩, turn_step hstep (hnum.turn_of_work hw).1⟩
  · rw [Function.update_of_ne hg] at hholds ⊢
    exact ⟨Or.inl hholds, rfl⟩

theorem turnsApart_step {i : ConnId} {b : Act} {t : State} (run : amf.Run as s)
    (hapart : TurnsApart s) (hcond : InsertsApart s (i, b)) (hstep : Step i (s i) b t) :
    TurnsApart (Function.update s i t) := by
  intro g g' h h' hne hholds hholds'
  obtain ⟨hold | ⟨rfl, hins⟩, hturn⟩ := holds_step run hstep hholds
  · -- both were held before, or one of them was
    obtain ⟨hold' | ⟨rfl, hins'⟩, hturn'⟩ := holds_step run hstep hholds'
    · rw [hturn, hturn']
      exact hapart g g' h h' hne hold hold'
    · rw [hturn, hturn']
      exact (hcond h' hins' g h hne hold).symm
  · obtain ⟨hold' | ⟨rfl, -⟩, hturn'⟩ := holds_step run hstep hholds'
    · rw [hturn, hturn']
      exact hcond h hins g' h' hne.symm hold'
    · exact absurd rfl hne

/-- An insert that does not meet the condition makes two turns clash. -/
theorem insertsApart_of_step {i : ConnId} {b : Act} {t : State} (run : amf.Run as s)
    (hstep : Step i (s i) b t) (hapart : TurnsApart (Function.update s i t)) :
    InsertsApart s (i, b) := by
  intro h hins g' h' hne hholds'
  have hholds : (Function.update s i t i).Holds h := by
    rw [Function.update_self]
    exact (settled_of_amf run i).holds_of_inserts hstep hins
  have hother : (Function.update s i t g').Holds h' := by
    rw [Function.update_of_ne hne]
    exact hholds'
  obtain ⟨-, hturn⟩ := holds_step run hstep hholds
  obtain ⟨-, hturn'⟩ := holds_step run hstep hother
  rw [← hturn, ← hturn']
  exact hapart i g' h h' hne.symm hholds hother

theorem turnsApart_new : TurnsApart amf.init := by
  rintro g g' h h' - ⟨w, hw, -⟩
  cases hw

theorem allocations_mono {pre : List (ConnId × Act)} (hpre : pre <+: as) :
    allocations pre ≤ allocations as :=
  hpre.sublist.countP_le

/-- **When AMF UE NGAP IDs are unique.** In every run with fewer than `2 ^ 64` allocations, the ids
of all UE contexts of the AMF differ in every state the run passes through if and only if no step
stores a UE context while another gNB holds one whose handler had the same turn. The bound is the
width of the counter. -/
theorem amf_ids_unique_iff_inserts_apart (run : amf.Run as s)
    (hfew : allocations as < 2 ^ 64) :
    (∀ pre t, pre <+: as → amf.Run pre t → IdsUnique t) ↔ amf.RunUnder InsertsApart as s := by
  have hturns : (∀ pre t, pre <+: as → amf.Run pre t → TurnsApart t) ↔
      amf.RunUnder InsertsApart as s := by
    refine System.runUnder_iff_always turnsApart_new ?_ ?_ run
    · rintro as s ⟨i, b⟩ s' run hapart hcond hstep
      obtain ⟨t, ht, rfl⟩ := System.interleave_cases hstep
      exact turnsApart_step run hapart hcond (step_cases ht)
    · rintro as s ⟨i, b⟩ s' run - hstep hapart
      obtain ⟨t, ht, rfl⟩ := System.interleave_cases hstep
      exact insertsApart_of_step run (step_cases ht) hapart
  have hsame : ∀ pre t, pre <+: as → amf.Run pre t → (IdsUnique t ↔ TurnsApart t) :=
    fun pre t hpre ht =>
      idsUnique_iff_turnsApart ht (Nat.lt_of_le_of_lt (allocations_mono hpre) hfew)
  rw [← hturns]
  constructor
  · exact fun hall pre t hpre ht => (hsame pre t hpre ht).mp (hall pre t hpre ht)
  · exact fun hall pre t hpre ht => (hsame pre t hpre ht).mpr (hall pre t hpre ht)

/-- With one gNB no insert fails the condition: it speaks of two gNBs, and the other one has not
spawned a handler, so it holds nothing. -/
theorem insertsApart_of_one_gnb {g : ConnId} (run : amf.Run as s) (hone : ∀ a ∈ as, a.1 = g) :
    amf.RunUnder InsertsApart as s := by
  induction run with
  | nil => exact .nil
  | @snoc as s s' a run _ hstep ih =>
    refine .snoc (ih fun b hb => hone b (List.mem_append_left _ hb)) ?_ hstep
    rintro h - g' h' hne ⟨w, hw, -⟩
    -- the other gNB has done nothing
    have hnone : System.actionsOf g' as = [] := by
      refine List.filterMap_eq_nil_iff.mpr fun b hb => if_neg ?_
      rw [hone b (List.mem_append_left _ hb), ← hone a (by simp)]
      exact hne.symm
    have hidle := (run.component g').exec_eq
    rw [hnone] at hidle
    rw [← Option.some.inj hidle] at hw
    cases hw

/-- On gNB `g`, handler `h` takes a message with RAN UE NGAP ID `id` up to the insert of its
UE context. -/
def upToInsert (g : ConnId) (h : HandlerId) (id : RanUeNgapId) : List (ConnId × Act) :=
  [(g, .receive h (ueMessage id 0x41)), (g, .check h), (g, .alloc h), (g, .add h),
    (g, .manager (.caller (addCall h)))]

/-- One gNB with two messages: the ids are 1 and 2. -/
theorem amf_ids_unique_oneGnb :
    ∃ s, amf.Run (upToInsert 0 0 7 ++ upToInsert 0 1 8) s ∧
      HeldAt s 0 7 (.ofRequest 0 (ueMessage 7 0x41) 1) ∧
      HeldAt s 0 8 (.ofRequest 0 (ueMessage 8 0x41) 2) ∧ IdsUnique s := by
  let s := (amf.exec (upToInsert 0 0 7 ++ upToInsert 0 1 8)).get (by decide)
  have hrun : amf.Run (upToInsert 0 0 7 ++ upToInsert 0 1 8) s := System.run_of_exec (by simp [s])
  refine ⟨s, hrun, ⟨0, rfl, rfl⟩, ⟨1, rfl, rfl⟩, ?_⟩
  have hunder := insertsApart_of_one_gnb (g := 0) hrun (by decide)
  exact (amf_ids_unique_iff_inserts_apart hrun (by decide)).mpr hunder _ s (List.prefix_refl _) hrun

/-- Two gNBs, one message each: both UE contexts have the id 1. -/
theorem same_id_on_two_gnbs :
    ∃ s, amf.Run (upToInsert 0 0 7 ++ upToInsert 1 0 7) s ∧
      allocations (upToInsert 0 0 7 ++ upToInsert 1 0 7) < 2 ^ 64 ∧
      HeldAt s 0 7 (.ofRequest 0 (ueMessage 7 0x41) 1) ∧
      HeldAt s 1 7 (.ofRequest 1 (ueMessage 7 0x41) 1) ∧ ¬ IdsUnique s := by
  let s := (amf.exec (upToInsert 0 0 7 ++ upToInsert 1 0 7)).get (by decide)
  have hrun : amf.Run (upToInsert 0 0 7 ++ upToInsert 1 0 7) s := System.run_of_exec (by simp [s])
  have hheld : HeldAt s 0 7 (.ofRequest 0 (ueMessage 7 0x41) 1) := ⟨0, rfl, rfl⟩
  have hheld' : HeldAt s 1 7 (.ofRequest 1 (ueMessage 7 0x41) 1) := ⟨0, rfl, rfl⟩
  refine ⟨s, hrun, by decide, hheld, hheld', fun hunique => ?_⟩
  have hsame := (hunique 0 1 7 7 _ _ hheld hheld' rfl).1
  cases hsame

end UnifyAir.InitialUe
