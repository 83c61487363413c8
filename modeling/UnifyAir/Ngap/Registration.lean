import UnifyAir.Ngap.Spec

/-!
# UnifyAir — who owns an entry of `gnb_contexts`

`insert_async` and `remove_async` go by Global RAN Node ID, not by connection, and the
conflict check, the insert and the removal of different connections interleave freely. The
invariant `Registry` ties the map to the program counters: a connection between its insert
and the end of its loop task finds its own context under its id, and a context in the map
belongs to such a connection or to one whose loop task is over.

* **`registration_owned`** — one running loop per id, the stored context is the one of the
  running loop, and `close_ran_connection` removes the closing connection's own entry.
* **`no_stale_registration_iff_no_read_error`** — a run leaves no entry of a finished loop
  task behind exactly when no loop ends with a read error, since the `Err` arm of the spawned
  task does not call `close_ran_connection`.
* **`stale_after_read_error`** — the gNB that reconnects and is refused.
-/

namespace UnifyAir.Ngap

open Concurrency

variable {G : Type}

/-- The context a connection has filled in from its request. -/
def Conn.context : Conn G → Option (GnbContext G)
  | .evaluating _ ctx _ | .writing _ _ (.ok ctx) | .inserting ctx | .spawning ctx | .looping ctx
  | .closing ctx | .finished ctx | .insertPanicked ctx => some ctx
  | _ => none

/-- The context of a connection that has inserted it and whose loop task is not over. -/
def Conn.registered : Conn G → Option (GnbContext G)
  | .spawning ctx | .looping ctx | .closing ctx => some ctx
  | _ => none

/-- The map and the connections agree. -/
structure Registry (s : State G) : Prop where
  own : ∀ c ctx, (s.conns c).context = some ctx → ctx.tnla = c
  stored : ∀ c ctx, (s.conns c).registered = some ctx →
    s.gnbContexts ctx.globalRanNodeId = some ctx
  holder : ∀ g ctx, s.gnbContexts g = some ctx → ctx.globalRanNodeId = g ∧
    ((s.conns ctx.tnla).registered = some ctx ∨ s.conns ctx.tnla = .finished ctx)

/-- A registered connection has a context, the one that it inserted. -/
theorem Conn.context_of_registered {conn : Conn G} {ctx : GnbContext G}
    (h : conn.registered = some ctx) : conn.context = some ctx := by
  cases conn with
  | spawning | looping | closing => exact h
  | idle | reading | checking | evaluating | writing | inserting | finished | setupFailed
  | insertPanicked | panicked => cases h

/-! ## What a connection carries through setup

From the conflict check on a connection carries the context that it will insert. These lemmas say
for every function of the spec where it leads: still in setup, hence not registered, and with which
context. -/

/-- A connection before its insert. -/
def Conn.inSetup : Conn G → Bool
  | .idle | .reading _ | .checking _ _ | .evaluating _ _ _ | .writing _ _ _ | .inserting _
  | .setupFailed => true
  | _ => false

/-- A connection in setup has not inserted anything yet. -/
theorem Conn.registered_of_inSetup {conn : Conn G} (h : conn.inSetup = true) :
    conn.registered = none := by
  cases conn with
  | spawning | looping | closing => cases h
  | idle | reading | checking | evaluating | writing | inserting | finished | setupFailed
  | insertPanicked | panicked => rfl

/-- Nor has its loop task ended, since there is none. -/
theorem Conn.ne_finished_of_inSetup {conn : Conn G} (h : conn.inSetup = true)
    (ctx : GnbContext G) : conn ≠ .finished ctx := by
  rintro rfl; cases h

theorem Conn.ne_insertPanicked_of_inSetup {conn : Conn G} (h : conn.inSetup = true)
    (ctx : GnbContext G) : conn ≠ .insertPanicked ctx := by
  rintro rfl; cases h

/-- An attempt that failed is followed by another one or by the end of setup. -/
theorem retry_inSetup (attempt : Nat) : (retry attempt : Conn G).inSetup = true := by
  unfold retry; split <;> rfl

theorem onRead_inSetup (attempt : Nat) (outcome : SetupRead G) :
    (onRead attempt outcome).inSetup = true := by
  cases outcome with
  | error | closed => exact retry_inSetup attempt
  | undecodable | otherPdu | ngSetupRequest => rfl

/-- The answer of the handler leaves it there, whatever the result. -/
theorem respond_inSetup (attempt : Nat) (ctx : GnbContext G)
    (res : Except (NgapResponseError G) NgSetupResponse) :
    (respond attempt ctx res).inSetup = true := by
  cases res <;> rfl

/-- The write of the answer does too: past it the connection is about to insert, which it has not
done. -/
theorem onWritten_inSetup (attempt : Nat) (result : Except (NgapSetupError G) (GnbContext G))
    (written : Bool) : (onWritten attempt result written).inSetup = true := by
  cases written with
  | false => exact retry_inSetup attempt
  | true =>
    cases result with
    | ok => rfl
    | error => exact retry_inSetup attempt

theorem checkConflict_inSetup (s : State G) (c : ConnId) (attempt : Nat)
    (request : NgSetupRequest G) : (s.checkConflict c attempt request).inSetup = true := by
  unfold State.checkConflict
  split <;> rfl

@[simp] theorem retry_context (attempt : Nat) : (retry attempt : Conn G).context = none := by
  unfold retry; split <;> rfl

@[simp] theorem onRead_context (attempt : Nat) (outcome : SetupRead G) :
    (onRead attempt outcome).context = none := by
  cases outcome with
  | error | closed => exact retry_context attempt
  | undecodable | otherPdu | ngSetupRequest => rfl

/-- The handler hands on the context that it was given, or none. -/
theorem respond_context {attempt : Nat} {ctx ctx' : GnbContext G}
    {res : Except (NgapResponseError G) NgSetupResponse}
    (h : (respond attempt ctx res).context = some ctx') : ctx' = ctx := by
  cases res with
  | ok => cases h; rfl
  | error => cases h

/-- What the connection goes on with after the write is what the handler returned. -/
theorem onWritten_context {attempt : Nat} {result : Except (NgapSetupError G) (GnbContext G)}
    {written : Bool} {ctx : GnbContext G}
    (h : (onWritten attempt result written).context = some ctx) : result = .ok ctx := by
  cases written with
  | false => simp [onWritten] at h
  | true =>
    cases result with
    | ok => cases h; rfl
    | error => simp [onWritten] at h

/-- The context that the check makes names the connection that checks. -/
theorem checkConflict_context {s : State G} {c : ConnId} {attempt : Nat}
    {request : NgSetupRequest G} {ctx : GnbContext G}
    (h : (s.checkConflict c attempt request).context = some ctx) : ctx.tnla = c := by
  unfold State.checkConflict at h
  split at h
  · cases h
  · cases h; rfl

/-! ## Every step keeps the registry

Four ways to change the map or a connection cover all steps: a connection moves in setup, or moves
on while it is registered, or inserts, or closes. Only the last two touch `gnb_contexts`. -/

/-- A connection in setup moves without being registered. It was in nobody's entry before, and it is
in none after. -/
theorem Registry.setup {s : State G} (h : Registry s) {c : ConnId} {conn : Conn G}
    (hown : ∀ ctx, conn.context = some ctx → ctx.tnla = c)
    (hbefore : (s.conns c).inSetup = true) (hafter : conn.registered = none) :
    Registry (s.setConn c conn) where
  own c' ctx hctx := by
    by_cases hc : c' = c
    · subst hc
      exact hown ctx (by simpa only [State.setConn, Function.update_self] using hctx)
    · exact h.own c' ctx (by simpa only [State.setConn, Function.update_of_ne hc] using hctx)
  stored c' ctx hreg := by
    by_cases hc : c' = c
    · subst hc
      simp only [State.setConn, Function.update_self, hafter] at hreg
      cases hreg
    · exact h.stored c' ctx (by simpa only [State.setConn, Function.update_of_ne hc] using hreg)
  holder g ctx hmap := by
    obtain ⟨hg, hold⟩ := h.holder g ctx hmap
    -- the holder of an entry is registered or finished, and `c` was neither
    have hc : ctx.tnla ≠ c := by
      rintro rfl
      rcases hold with hreg | hdone
      · rw [Conn.registered_of_inSetup hbefore] at hreg; cases hreg
      · exact Conn.ne_finished_of_inSetup hbefore ctx hdone
    exact ⟨hg, by simpa only [State.setConn, Function.update_of_ne hc] using hold⟩

/-- A registered connection moves on with its context, or its loop task ends. In the second case its
entry stays, and its holder is a finished connection from now on. -/
theorem Registry.advance {s : State G} (h : Registry s) {c : ConnId} {conn : Conn G}
    {ctx : GnbContext G} (hbefore : (s.conns c).registered = some ctx)
    (hafter : conn.registered = some ctx ∨ conn = .finished ctx) : Registry (s.setConn c conn) where
  own c' ctx' hctx := by
    by_cases hc : c' = c
    · subst hc
      have hown := h.own c' ctx (Conn.context_of_registered hbefore)
      simp only [State.setConn, Function.update_self] at hctx
      rcases hafter with hreg | rfl
      · rw [Conn.context_of_registered hreg] at hctx; cases hctx; exact hown
      · cases hctx; exact hown
    · exact h.own c' ctx' (by simpa only [State.setConn, Function.update_of_ne hc] using hctx)
  stored c' ctx' hreg := by
    by_cases hc : c' = c
    · subst hc
      simp only [State.setConn, Function.update_self] at hreg
      rcases hafter with hreg' | rfl
      · rw [hreg'] at hreg; cases hreg; exact h.stored c' ctx hbefore
      · cases hreg
    · exact h.stored c' ctx' (by simpa only [State.setConn, Function.update_of_ne hc] using hreg)
  holder g ctx' hmap := by
    obtain ⟨hg, hold⟩ := h.holder g ctx' hmap
    refine ⟨hg, ?_⟩
    by_cases hc : ctx'.tnla = c
    · have hsame : ctx' = ctx := by
        rw [hc, hbefore] at hold
        rcases hold with hreg | hdone
        · exact (Option.some.inj hreg).symm
        · simp [hdone, Conn.registered] at hbefore
      subst hsame
      simpa only [State.setConn, hc, Function.update_self] using hafter
    · simpa only [State.setConn, Function.update_of_ne hc] using hold

variable [DecidableEq G]

/-- An insert under a free id. The id was free, so no other registered connection has it, by the
invariant; hence the new entry takes nothing away from anybody. -/
theorem Registry.insert {s : State G} (h : Registry s) {c : ConnId} {ctx : GnbContext G}
    (hc : s.conns c = .inserting ctx) (hkey : s.gnbContexts ctx.globalRanNodeId = none) :
    Registry (s.register c ctx) := by
  have hown : ctx.tnla = c := h.own c ctx (by rw [hc]; rfl)
  refine ⟨fun c' ctx' hctx => ?_, fun c' ctx' hreg => ?_, fun g ctx' hmap => ?_⟩
  · by_cases hcc : c' = c
    · subst hcc
      simp only [State.register, Function.update_self] at hctx
      cases hctx; exact hown
    · simp only [State.register, Function.update_of_ne hcc] at hctx
      exact h.own c' ctx' hctx
  · by_cases hcc : c' = c
    · subst hcc
      simp only [State.register, Function.update_self] at hreg
      cases hreg; exact Function.update_self ..
    · -- another registered connection has its context in the map, so under another id
      simp only [State.register, Function.update_of_ne hcc] at hreg
      have hstored := h.stored c' ctx' hreg
      have hg : ctx'.globalRanNodeId ≠ ctx.globalRanNodeId := fun hg => by
        rw [hg, hkey] at hstored; cases hstored
      exact (Function.update_of_ne hg ..).trans hstored
  · -- the new entry has its owner, and the others keep theirs
    rcases update_cases hmap with ⟨rfl, hctx⟩ | ⟨-, hold⟩
    · cases hctx
      exact ⟨rfl, Or.inl (by simp [State.register, hown, Conn.registered])⟩
    · obtain ⟨hg, hholder⟩ := h.holder g ctx' hold
      have hcc : ctx'.tnla ≠ c := by
        rintro rfl
        simp [hc, Conn.registered] at hholder
      exact ⟨hg, by simpa only [State.register, Function.update_of_ne hcc] using hholder⟩

/-- The removal of an id by the connection that closes. The entry under it is that connection's own,
which is what the invariant is for. -/
theorem Registry.close {s : State G} (h : Registry s) {c : ConnId} {ctx : GnbContext G}
    (hc : s.conns c = .closing ctx) : Registry (s.closeRanConnection c ctx) := by
  have hown : ctx.tnla = c := h.own c ctx (by rw [hc]; rfl)
  have hstored := h.stored c ctx (by rw [hc]; rfl)
  refine ⟨fun c' ctx' hctx => ?_, fun c' ctx' hreg => ?_, fun g ctx' hmap => ?_⟩
  · -- the connection that closes, and the others
    by_cases hcc : c' = c
    · subst hcc
      simp only [State.closeRanConnection, Function.update_self] at hctx
      cases hctx; exact hown
    · simp only [State.closeRanConnection, Function.update_of_ne hcc] at hctx
      exact h.own c' ctx' hctx
  · by_cases hcc : c' = c
    · subst hcc
      simp only [State.closeRanConnection, Function.update_self] at hreg
      cases hreg
    · -- the entry removed is the one of `c`, so not the one of `c'`
      simp only [State.closeRanConnection, Function.update_of_ne hcc] at hreg
      have hstored' := h.stored c' ctx' hreg
      have hg : ctx'.globalRanNodeId ≠ ctx.globalRanNodeId := fun hg => by
        rw [hg, hstored] at hstored'
        cases hstored'
        exact hcc ((h.own c' ctx (Conn.context_of_registered hreg)).symm.trans hown)
      exact (Function.update_of_ne hg ..).trans hstored'
  · -- what is left in the map is under another id, so it is held by somebody else
    rcases update_cases hmap with ⟨-, hnone⟩ | ⟨hg, hold⟩
    · cases hnone
    · obtain ⟨hid, hholder⟩ := h.holder g ctx' hold
      refine ⟨hid, ?_⟩
      have hcc : ctx'.tnla ≠ c := by
        rintro rfl
        simp only [hc, Conn.registered, Option.some.injEq, reduceCtorEq, or_false] at hholder
        subst hholder
        exact hg hid.symm
      simpa only [State.closeRanConnection, Function.update_of_ne hcc] using hholder

/-- Every step keeps the registry. Each case names the lemma above that it is an instance of. The
loop that ends by a read error keeps its entry, which the invariant allows. -/
theorem Registry.step {s s' : State G} {a : Act G} (h : Registry s) (hstep : Step s a s') :
    Registry s' := by
  cases hstep with
  | accept hc => exact h.setup nofun (by rw [hc]; rfl) rfl
  | read hc =>
    exact h.setup (by simp) (by rw [hc]; rfl) (Conn.registered_of_inSetup (onRead_inSetup _ _))
  | check hc =>
    exact h.setup (fun _ => checkConflict_context) (by rw [hc]; rfl)
      (Conn.registered_of_inSetup (checkConflict_inSetup _ _ _ _))
  | @evaluate c config attempt ctx list hc =>
    have hown : ctx.tnla = c := h.own c ctx (by rw [hc]; rfl)
    exact h.setup (fun ctx' hctx => respond_context hctx ▸ hown) (by rw [hc]; rfl)
      (Conn.registered_of_inSetup (respond_inSetup _ _ _))
  | @write c written attempt pdu result hc =>
    refine h.setup (fun ctx hctx => h.own c ctx ?_) (by rw [hc]; rfl)
      (Conn.registered_of_inSetup (onWritten_inSetup _ _ _))
    rw [hc, onWritten_context hctx]
    rfl
  | @insertPanic c ctx other hc hkey =>
    have hown : ctx.tnla = c := h.own c ctx (by rw [hc]; rfl)
    exact h.setup (fun ctx' hctx => by cases hctx; exact hown) (by rw [hc]; rfl) rfl
  | insert hc hkey => exact h.insert hc hkey
  | spawn hc => exact h.advance (by rw [hc]; rfl) (Or.inl rfl)
  -- a read error ends the loop task and leaves the entry behind
  | @loopRead c ctx outcome hc =>
    refine h.advance (show (s.conns c).registered = some ctx by rw [hc]; rfl) ?_
    cases outcome with
    | message | closed => exact Or.inl rfl
    | error => exact Or.inr rfl
  | close hc => exact h.close hc
  | panic hc => exact h.setup nofun (by rw [hc]; rfl) rfl

/-- By induction on the run: the registry holds in every state reached. -/
theorem registry_of_run {as : List (Act G)} {s : State G} (run : (system G).Run as s) :
    Registry s :=
  run.invariant ⟨nofun, nofun, nofun⟩ fun _ _ _ _ _ h _ hstep => h.step (step_cases hstep)

/-! ## Ownership

What the registry says in the words of the handlers, for runs of the system. -/

/-- **Ownership of registered contexts.** In every run: at most one loop runs per Global RAN
Node ID; the context stored under the id of a running loop is the loop's own; a stored
context belongs to a connection that inserted it; and `close_ran_connection` removes the
entry of the connection that closes. -/
theorem registration_owned {as : List (Act G)} {s : State G} (run : (system G).Run as s) :
    (∀ c c' ctx ctx', s.conns c = .looping ctx → s.conns c' = .looping ctx' →
      ctx.globalRanNodeId = ctx'.globalRanNodeId → c = c') ∧
    (∀ c ctx, s.conns c = .looping ctx → s.gnbContexts ctx.globalRanNodeId = some ctx) ∧
    (∀ g ctx, s.gnbContexts g = some ctx → ctx.globalRanNodeId = g ∧
      ((s.conns ctx.tnla).registered = some ctx ∨ s.conns ctx.tnla = .finished ctx)) ∧
    (∀ c s', step s (.close c) = some s' → ∃ ctx, s.conns c = .closing ctx ∧ ctx.tnla = c ∧
      s.gnbContexts ctx.globalRanNodeId = some ctx ∧
      s'.gnbContexts = Function.update s.gnbContexts ctx.globalRanNodeId none) := by
  have hreg := registry_of_run run
  have hstored : ∀ c ctx, s.conns c = .looping ctx →
      s.gnbContexts ctx.globalRanNodeId = some ctx := fun c ctx hc =>
    hreg.stored c ctx (by rw [hc]; rfl)
  refine ⟨fun c c' ctx ctx' hc hc' hid => ?_, hstored, hreg.holder, fun c s' hstep => ?_⟩
  · -- both contexts are stored under the same id, so they are one context of one connection
    have hsame : ctx = ctx' := by
      have h := hstored c ctx hc
      rw [hid, hstored c' ctx' hc'] at h
      exact (Option.some.inj h).symm
    have hown := hreg.own c ctx (by rw [hc]; rfl)
    have hown' := hreg.own c' ctx' (by rw [hc']; rfl)
    rw [← hown, ← hown', hsame]
  · -- only an ending loop removes an entry, and it removes its own
    cases step_cases hstep with
    | @close _ ctx hc =>
      exact ⟨ctx, hc, hreg.own c ctx (by rw [hc]; rfl), hreg.stored c ctx (by rw [hc]; rfl), rfl⟩

/-- A request of gNB `id` with one TA. -/
def gnbRequest (id : Nat) : NgSetupRequest Nat where
  globalRanNodeId := id
  ranNodeName := some "gnb"
  supportedTaList := ⟨⟨⟨0, 0, 1⟩, ⟨⟨⟨0x02, 0xF8, 0x39⟩, ⟨⟨1, none⟩, []⟩⟩, []⟩⟩, []⟩
  defaultPagingDrx := 0
  extendedRanNodeName := none

/-- An AMF that supports this TA. -/
def amfConfig : Configuration where
  name := "amf"
  servedGuamiList := default
  supportTaiList := [⟨⟨['2', '0', '8'], ['9', '3']⟩, ['0', '0', '0', '0', '0', '1'], none⟩]
  plmnSupportList := default

/-- Connection `c` sets up gNB `id` and starts its loop. -/
def setUp (c : ConnId) (id : Nat) : List (Act Nat) :=
  [.accept c, .read c (.ngSetupRequest (gnbRequest id)), .check c, .evaluate c amfConfig,
    .write c true, .insert c, .spawn c]

/-- Two gNBs are set up and the second one is closed by its peer. The first one runs its loop and
owns its entry. -/
theorem registration_owned_setUp :
    ∃ s, (system Nat).Run (setUp 0 5 ++ setUp 1 6 ++ [.loopRead 1 .closed]) s ∧
      s.conns 0 = .looping (.ofRequest 0 (gnbRequest 5)) ∧
      s.gnbContexts 5 = some (.ofRequest 0 (gnbRequest 5)) := by
  let s := ((system Nat).exec (setUp 0 5 ++ setUp 1 6 ++ [.loopRead 1 .closed])).get (by decide)
  have hrun : (system Nat).Run (setUp 0 5 ++ setUp 1 6 ++ [.loopRead 1 .closed]) s :=
    System.run_of_exec (by simp [s])
  have hloop : s.conns 0 = .looping (.ofRequest 0 (gnbRequest 5)) := rfl
  exact ⟨s, hrun, hloop, (registration_owned hrun).2.1 0 _ hloop⟩

/-! ## Stale registrations

The registry allows an entry whose holder is finished. Such an entry comes from a loop that ended
with an error, and from nothing else; it then refuses every later setup of its gNB. -/

/-- The next step of connection `c` refuses its request with `ConflictingRanId`. -/
def State.Refuses (s : State G) (c : ConnId) (g : G) : Prop :=
  ∃ s' attempt failure, step s (.check c) = some s' ∧
    s'.conns c = .writing attempt (.ngSetupFailure failure)
      (.error (.ngSetupError (.conflictingRanId g)))

/-- No stale registration: the context of a connection whose loop task is over is nowhere in
`gnb_contexts`, and whoever is refused is refused because of a connection that is not gone. -/
def NoStale (s : State G) : Prop :=
  (∀ c ctx, s.conns c = .finished ctx → ∀ g, s.gnbContexts g ≠ some ctx) ∧
  ∀ c g, s.Refuses c g → ∃ o ctx, (s.conns o).registered = some ctx ∧ ctx.globalRanNodeId = g

/-- The condition on a step: no loop reads an error. -/
def NoReadError (_ : State G) (a : Act G) : Prop := ∀ c, a ≠ .loopRead c .error

theorem refuses_stored {s : State G} {c : ConnId} {g : G} (h : s.Refuses c g) :
    ∃ ctx, s.gnbContexts g = some ctx := by
  obtain ⟨s', attempt, failure, hstep, hconn⟩ := h
  cases step_cases hstep with
  | @check _ attempt' request hc =>
    simp only [State.setConn, Function.update_self, State.checkConflict] at hconn
    split at hconn
    · next other hkey =>
      simp only [respond, conflict, Conn.writing.injEq, NgapPdu.ngSetupFailure.injEq,
        Except.error.injEq, NgapSetupError.ngSetupError.injEq,
        NgSetupError.conflictingRanId.injEq] at hconn
      exact ⟨other, hconn.2.2 ▸ hkey⟩
    · cases hconn

/-- Nothing is stale while no finished connection is in the map: the entry that refuses has a
holder, which is then registered. -/
theorem Registry.noStale {s : State G} (h : Registry s)
    (hfin : ∀ c ctx, s.conns c = .finished ctx → ∀ g, s.gnbContexts g ≠ some ctx) : NoStale s := by
  refine ⟨hfin, fun c g href => ?_⟩
  obtain ⟨ctx, hkey⟩ := refuses_stored href
  obtain ⟨hid, hreg | hdone⟩ := h.holder g ctx hkey
  · exact ⟨ctx.tnla, ctx, hreg, hid⟩
  · exact absurd hkey (hfin ctx.tnla ctx hdone g)

/-- A step without a read error leaves no context of a finished loop task in the map. A loop that
ends properly has closed its connection first. -/
theorem finished_step {s s' : State G} {a : Act G} (h : Registry s) (hcond : NoReadError s a)
    (hfin : ∀ c ctx, s.conns c = .finished ctx → ∀ g, s.gnbContexts g ≠ some ctx)
    (hstep : Step s a s') :
    ∀ c ctx, s'.conns c = .finished ctx → ∀ g, s'.gnbContexts g ≠ some ctx := by
  -- a connection that moves without ending its loop task
  have moved : ∀ {c : ConnId} {conn : Conn G}, (∀ ctx, conn ≠ .finished ctx) →
      ∀ c' ctx, (s.setConn c conn).conns c' = .finished ctx → ∀ g, s.gnbContexts g ≠ some ctx := by
    intro c conn hconn c' ctx hc'
    rcases update_cases hc' with ⟨-, hdone⟩ | ⟨-, hold⟩
    · exact absurd hdone (hconn ctx)
    · exact hfin c' ctx hold
  -- no step gives an entry to a connection that is finished
  cases hstep with
  | accept | spawn | panic | insertPanic => exact moved nofun
  | read => exact moved (Conn.ne_finished_of_inSetup (onRead_inSetup _ _))
  | check => exact moved (Conn.ne_finished_of_inSetup (checkConflict_inSetup _ _ _ _))
  | evaluate => exact moved (Conn.ne_finished_of_inSetup (respond_inSetup _ _ _))
  | write => exact moved (Conn.ne_finished_of_inSetup (onWritten_inSetup _ _ _))
  | @loopRead c ctx outcome hc =>
    cases outcome with
    | message | closed => exact moved nofun
    | error => exact absurd rfl (hcond c)
  | @insert c ctx hc hkey =>
    intro c' ctx' hc' g hmap
    have hcc : c' ≠ c := by
      rintro rfl
      simp [State.register] at hc'
    simp only [State.register, Function.update_of_ne hcc] at hc'
    rcases update_cases hmap with ⟨-, hctx⟩ | ⟨-, hold⟩
    · -- the inserted context carries another connection's id
      cases hctx
      have hown := h.own c ctx (by rw [hc]; rfl)
      have hown' := h.own c' ctx (by rw [hc']; rfl)
      exact hcc (hown'.symm.trans hown)
    · exact hfin c' ctx' hc' g hold
  -- the closing connection ends, and its own entry is the one that goes
  | @close c ctx hc =>
    intro c' ctx' hc' g hmap
    rcases update_cases hmap with ⟨-, hnone⟩ | ⟨hg, hold⟩
    · cases hnone
    rcases update_cases hc' with ⟨-, hdone⟩ | ⟨-, hfin'⟩
    · cases hdone
      exact hg (h.holder g ctx hold).1.symm
    · exact hfin c' ctx' hfin' g hold

/-- **No stale registration, exactly without read errors.** In a run, no state has a stale
registration if and only if no step of the run is a read error of a running loop. The first such
step leaves an entry behind, so the condition cannot be weakened. -/
theorem no_stale_registration_iff_no_read_error {as : List (Act G)} {s : State G}
    (run : (system G).Run as s) :
    (∀ pre t, pre <+: as → (system G).Run pre t → NoStale t) ↔
      ∀ c, Act.loopRead c .error ∉ as := by
  have hexact := System.runUnder_iff_always (C := NoReadError) (P := NoStale)
    (Registry.noStale (registry_of_run .nil) nofun)
    (fun as s a s' run hno hcond hstep =>
      ((registry_of_run run).step (step_cases hstep)).noStale
        (finished_step (registry_of_run run) hcond hno.1 (step_cases hstep)))
    (fun as s a s' run _ hstep hno => ?_) run
  · -- the condition on steps says that no action of the run is a read error
    rw [hexact]
    constructor
    · intro hunder c hmem
      have hnone := hunder.mem (Q := fun a : Act G => ∀ c, a ≠ .loopRead c .error)
        fun _ _ hcond => hcond
      exact hnone _ hmem c rfl
    · intro hnone
      exact .of_mem run fun _ a ha c heq => hnone c (heq ▸ ha)
  · -- the loop that reads an error ends with its context stored
    rintro c rfl
    have hloop : Step s (.loopRead c .error) s' := step_cases hstep
    cases hloop with
    | @loopRead _ ctx _ hc =>
      have hstored := (registry_of_run run).stored c ctx (by rw [hc]; rfl)
      exact hno.1 c ctx (Function.update_self ..) ctx.globalRanNodeId hstored

/-- Connection 0 sets up gNB 5 and reads an error; connection 1 asks for the same id. -/
def readErrorThenReconnect : List (Act Nat) :=
  setUp 0 5 ++ [.loopRead 0 .error, .accept 1, .read 1 (.ngSetupRequest (gnbRequest 5))]

/-- The gNB is refused because of its own dead connection. -/
theorem stale_after_read_error :
    ∃ s, (system Nat).Run readErrorThenReconnect s ∧
      s.conns 0 = .finished (.ofRequest 0 (gnbRequest 5)) ∧
      s.gnbContexts 5 = some (.ofRequest 0 (gnbRequest 5)) ∧ s.Refuses 1 5 ∧ ¬ NoStale s := by
  let s := ((system Nat).exec readErrorThenReconnect).get (by decide)
  have hrun : (system Nat).Run readErrorThenReconnect s := System.run_of_exec (by simp [s])
  have hdone : s.conns 0 = .finished (.ofRequest 0 (gnbRequest 5)) := rfl
  have hkey : s.gnbContexts 5 = some (.ofRequest 0 (gnbRequest 5)) := rfl
  refine ⟨s, hrun, hdone, hkey, ?_, fun hno => hno.1 0 _ hdone 5 hkey⟩
  exact ⟨_, 1, buildFailure newSemanticErrorCause, rfl, rfl⟩

/-- Connection 0 sets up gNB 5 and is closed by the gNB. -/
def setUpThenClose : List (Act Nat) :=
  setUp 0 5 ++ [.loopRead 0 .message, .loopRead 0 .closed, .close 0]

/-- A loop that its peer closes leaves nothing behind. -/
theorem no_stale_setUpThenClose :
    ∃ s, (system Nat).Run setUpThenClose s ∧
      s.conns 0 = .finished (.ofRequest 0 (gnbRequest 5)) ∧ NoStale s := by
  let s := ((system Nat).exec setUpThenClose).get (by decide)
  have hrun : (system Nat).Run setUpThenClose s := System.run_of_exec (by simp [s])
  refine ⟨s, hrun, rfl, (no_stale_registration_iff_no_read_error hrun).mpr ?_ _ _
    (List.prefix_refl _) hrun⟩
  intro c
  simp [setUpThenClose, setUp]

end UnifyAir.Ngap
