import UnifyAir.Concurrency.Admission
import UnifyAir.Ngap.Registration

/-!
# UnifyAir — NG Setup as check-then-act admission

`handle_request` asks `gnb_contexts` whether a Global RAN Node ID is taken; the insert comes
after the evaluation of the request and the write of the `NGSetupResponse`. The safety
comment on `insert_async(..).unwrap()` takes the check for enough. NG Setup is an instance of
the admission protocol — an id is occupied while it is in `gnb_contexts`, a connection is in
its window while it has passed the check and can still be accepted — and the `unwrap` is safe
as long as no connection inserts past the window of another one with the same id.

* **`admission_step`** — the simulation.
* **`inserts_safe_iff_inserts_alone`** — no `unwrap` panics under that condition, and from
  any step that breaks it some continuation panics.
* **`insert_panics`** — two connections of one gNB.
-/

namespace UnifyAir.Ngap

open Concurrency Concurrency.Admission

variable {G : Type}

/-- The id of a connection that has passed its conflict check, can still be accepted, and
has not inserted its context. -/
def Conn.pending : Conn G → Option G
  | .evaluating _ ctx list => if Convertible list then some ctx.globalRanNodeId else none
  | .writing _ _ (.ok ctx) => some ctx.globalRanNodeId
  | .inserting ctx => some ctx.globalRanNodeId
  | _ => none

/-- The condition on a step: a connection inserts its context only when no other connection
with the same id is pending. -/
def InsertsAlone (s : State G) (a : Act G) : Prop :=
  ∀ c ctx, a = .insert c → s.conns c = .inserting ctx →
    ∀ c', c' ≠ c → (s.conns c').pending ≠ some ctx.globalRanNodeId

/-! ## The connections as an admission protocol

A connection is mapped to its phase and `gnb_contexts` to the set of its ids; what a connection
carries besides is forgotten. Most steps leave the abstract state as it is. The abstract protocol
knows no check either: passing the check is how a connection enters its window, and the check
guarantees that the id is free then. -/

def phaseOf (conn : Conn G) : Phase G :=
  match conn.pending, conn.registered with
  | some g, _ => .window g
  | none, some ctx => .inside ctx.globalRanNodeId
  | none, none => .out

def toAdmission (s : State G) : Admission.State ConnId G where
  phase := phaseOf ∘ s.conns
  occupied := { g | (s.gnbContexts g).isSome }

/-- A connection is in its window exactly while it is pending. -/
theorem phaseOf_eq_window {conn : Conn G} {g : G} :
    phaseOf conn = .window g ↔ conn.pending = some g := by
  unfold phaseOf
  cases conn.pending with
  | some g' => simp
  | none => cases conn.registered <;> simp

/-- A connection that is neither pending nor registered is outside. -/
theorem phaseOf_out {conn : Conn G} (hpend : conn.pending = none) (hreg : conn.registered = none) :
    phaseOf conn = .out := by
  simp [phaseOf, hpend, hreg]

@[simp] theorem retry_pending (attempt : Nat) : (retry attempt : Conn G).pending = none := by
  unfold retry; split <;> rfl

@[simp] theorem onRead_pending (attempt : Nat) (outcome : SetupRead G) :
    (onRead attempt outcome).pending = none := by
  cases outcome with
  | error | closed => exact retry_pending attempt
  | undecodable | otherPdu | ngSetupRequest => rfl

theorem toAdmission_setConn (s : State G) (c : ConnId) (conn : Conn G) :
    toAdmission (s.setConn c conn)
      = { toAdmission s with phase := Function.update (toAdmission s).phase c (phaseOf conn) } := by
  unfold toAdmission State.setConn
  rw [Function.comp_update]

/-- A connection that stays in its phase. The abstract state does not move at all. -/
theorem admission_same {s : State G} {c : ConnId} {conn : Conn G}
    (h : phaseOf conn = phaseOf (s.conns c)) : toAdmission (s.setConn c conn) = toAdmission s := by
  rw [toAdmission_setConn, h]
  have hself : Function.update (toAdmission s).phase c (phaseOf (s.conns c))
      = (toAdmission s).phase := Function.update_eq_self c _
  rw [hself]

/-- A pending connection stays pending, or gives up. This covers the evaluation, the write and every
way in which setup can fail. -/
theorem admission_pending {s : State G} {c : ConnId} {conn : Conn G}
    (hreg : (s.conns c).registered = none) (hreg' : conn.registered = none)
    (h : ∀ g, conn.pending = some g → (s.conns c).pending = some g) :
    toAdmission (s.setConn c conn) = toAdmission s ∨
      Admission.Step (toAdmission s) (toAdmission (s.setConn c conn)) := by
  cases hpend : conn.pending with
  | some g =>
    left
    refine admission_same ?_
    rw [phaseOf_eq_window.mpr hpend, phaseOf_eq_window.mpr (h g hpend)]
  | none =>
    cases hold : (s.conns c).pending with
    | none => exact Or.inl (admission_same (by rw [phaseOf_out hpend hreg', phaseOf_out hold hreg]))
    | some g =>
      right
      rw [toAdmission_setConn, phaseOf_out hpend hreg']
      exact .withdraw c g (phaseOf_eq_window.mpr hold)

/-- Outside anybody else's window the id of an inserting connection is free: nobody could have
inserted it since the check. -/
theorem free_of_inserting {s : State G} (h : Exclusive (toAdmission s)) {c : ConnId}
    {ctx : GnbContext G} (hc : s.conns c = .inserting ctx) :
    s.gnbContexts ctx.globalRanNodeId = none := by
  have hfree := h.free_of_window c ctx.globalRanNodeId (phaseOf_eq_window.mpr (by rw [hc]; rfl))
  simpa [toAdmission] using hfree

variable [DecidableEq G]

/-- A connection that inserts its context goes inside, and its id is occupied from then on. -/
theorem toAdmission_register (s : State G) (c : ConnId) (ctx : GnbContext G) :
    toAdmission (s.register c ctx) =
      ⟨Function.update (toAdmission s).phase c (.inside ctx.globalRanNodeId),
        Insert.insert ctx.globalRanNodeId (toAdmission s).occupied⟩ := by
  have hocc : { g | ((s.register c ctx).gnbContexts g).isSome }
      = Insert.insert ctx.globalRanNodeId { g | (s.gnbContexts g).isSome } := by
    ext g
    by_cases hg : g = ctx.globalRanNodeId
    · subst hg; simp [State.register]
    · simp [State.register, hg]
  unfold toAdmission
  rw [hocc]
  simp only [State.register, Function.comp_update, phaseOf, Conn.pending, Conn.registered]

/-- A connection that is closed leaves, and its id is free again. -/
theorem toAdmission_closeRanConnection (s : State G) (c : ConnId) (ctx : GnbContext G) :
    toAdmission (s.closeRanConnection c ctx) =
      ⟨Function.update (toAdmission s).phase c .out,
        (toAdmission s).occupied \ {ctx.globalRanNodeId}⟩ := by
  have hocc : { g | ((s.closeRanConnection c ctx).gnbContexts g).isSome }
      = { g | (s.gnbContexts g).isSome } \ {ctx.globalRanNodeId} := by
    ext g
    by_cases hg : g = ctx.globalRanNodeId
    · subst hg; simp [State.closeRanConnection]
    · simp [State.closeRanConnection, hg]
  unfold toAdmission
  rw [hocc]
  simp only [State.closeRanConnection, Function.comp_update, phaseOf, Conn.pending,
    Conn.registered]

/-- **The simulation.** A step under the condition is none or one step of the protocol. The
condition is needed in the case of the insert alone, where it keeps everybody else with that id out
of its window. -/
theorem admission_step {s s' : State G} {a : Act G} (hcond : InsertsAlone s a)
    (hstep : Ngap.Step s a s') :
    toAdmission s' = toAdmission s ∨ Admission.Step (toAdmission s) (toAdmission s') := by
  cases hstep with
  | accept hc => exact admission_pending (by rw [hc]; rfl) rfl fun _ hg => by cases hg
  | read hc =>
    exact admission_pending (by rw [hc]; rfl) (Conn.registered_of_inSetup (onRead_inSetup _ _))
      (by simp)
  | @check c attempt request hc =>
    cases hkey : s.gnbContexts request.globalRanNodeId with
    | some other =>
      -- a conflict: the connection only answers
      refine admission_pending (by rw [hc]; rfl)
        (Conn.registered_of_inSetup (checkConflict_inSetup _ _ _ _)) fun g hg => ?_
      simp [State.checkConflict, hkey, respond, Conn.pending] at hg
    | none =>
      have hconn : s.checkConflict c attempt request
          = .evaluating attempt (.ofRequest c request) request.supportedTaList := by
        simp [State.checkConflict, hkey]
      rw [hconn]
      by_cases hconv : Convertible request.supportedTaList = true
      · -- past the check, with TAs that convert: the window opens
        right
        have hphase : phaseOf (.evaluating attempt (.ofRequest c request) request.supportedTaList)
            = .window request.globalRanNodeId := by
          rw [phaseOf_eq_window]
          simp [Conn.pending, hconv, GnbContext.ofRequest]
        rw [toAdmission_setConn, hphase]
        refine .check c request.globalRanNodeId ?_ ?_
        · simp [toAdmission, hc, phaseOf, Conn.pending, Conn.registered]
        · simp [toAdmission, hkey]
      · -- a request that nobody accepts opens no window
        refine admission_pending (by rw [hc]; rfl) rfl fun g hg => ?_
        simp [Conn.pending, hconv] at hg
  | @evaluate c config attempt ctx list hc =>
    refine admission_pending (by rw [hc]; rfl)
      (Conn.registered_of_inSetup (respond_inSetup _ _ _)) fun g hg => ?_
    cases hres : Ngap.evaluate (G := G) config list with
    | error err => simp [hres, respond, Conn.pending] at hg
    | ok resp =>
      -- only a request whose TAs convert is accepted
      simp only [hres, respond, Conn.pending] at hg
      simp [hc, Conn.pending, convertible_of_evaluate_ok hres, hg]
  -- a written response leads to the insert, and everything else out of the window
  | @write c written attempt pdu result hc =>
    refine admission_pending (by rw [hc]; rfl)
      (Conn.registered_of_inSetup (onWritten_inSetup _ _ _)) fun g hg => ?_
    cases result with
    | error err => cases written <;> simp [onWritten] at hg
    | ok ctx =>
      cases written with
      | false => simp [onWritten] at hg
      | true => rw [hc]; exact hg
  | insertPanic hc hkey => exact admission_pending (by rw [hc]; rfl) rfl fun _ hg => by cases hg
  | @insert c ctx hc hkey =>
    right
    rw [toAdmission_register]
    refine .enter c ctx.globalRanNodeId (phaseOf_eq_window.mpr (by rw [hc]; rfl)) ?_
    intro c' hne hwin
    exact hcond c ctx rfl hc c' hne (phaseOf_eq_window.mp hwin)
  | spawn hc => exact Or.inl (admission_same (by rw [hc]; rfl))
  | @loopRead c ctx outcome hc =>
    cases outcome with
    | message | closed => exact Or.inl (admission_same (by rw [hc]; rfl))
    -- the loop ends and the id stays occupied, with nobody inside
    | error =>
      right
      rw [toAdmission_setConn]
      exact .abandon c ctx.globalRanNodeId (by simp [toAdmission, hc, phaseOf, Conn.pending,
        Conn.registered])
  | @close c ctx hc =>
    right
    rw [toAdmission_closeRanConnection]
    exact .vacate c ctx.globalRanNodeId (by simp [toAdmission, hc, phaseOf, Conn.pending,
      Conn.registered])
  | panic hc => exact admission_pending (by rw [hc]; rfl) rfl fun _ hg => by cases hg

/-- What the protocol guarantees, pulled back along the simulation: an id in somebody's window is
occupied by nobody. -/
theorem exclusive_of_run {as : List (Act G)} {s : State G}
    (run : (system G).RunUnder InsertsAlone as s) : Exclusive (toAdmission s) := by
  refine run.invariant (P := fun s => Exclusive (toAdmission s)) (exclusive_of_out fun _ => rfl) ?_
  intro as s a s' _ hexcl hcond hstep
  rcases admission_step hcond (step_cases hstep) with heq | hadm
  · rw [heq]; exact hexcl
  · exact hexcl.step hadm

/-! ## The `unwrap` of the insert

The `unwrap` panics exactly when the id is in the map. Under the condition it never is; and a step
that breaks the condition leaves two connections with one id both able to get to their inserts, of
which the later one panics. -/

/-- No `unwrap` of an insert has panicked, and a connection that was accepted and answered
and inserts now is registered. -/
def InsertsSafe (s : State G) : Prop :=
  (∀ c ctx, s.conns c ≠ .insertPanicked ctx) ∧
  ∀ c ctx s', s.conns c = .inserting ctx → step s (.insert c) = some s' →
    s'.conns c = .spawning ctx ∧ s'.gnbContexts ctx.globalRanNodeId = some ctx

/-- A step under the condition makes no insert panic. The one case to exclude is an insert that
finds its id, and the id is free. -/
theorem not_insertPanicked_step {s s' : State G} {a : Act G} (hexcl : Exclusive (toAdmission s))
    (h : ∀ c ctx, s.conns c ≠ .insertPanicked ctx) (hstep : Ngap.Step s a s') :
    ∀ c ctx, s'.conns c ≠ .insertPanicked ctx := by
  have moved : ∀ {c : ConnId} {conn : Conn G}, (∀ ctx, conn ≠ .insertPanicked ctx) →
      ∀ c' ctx, Function.update s.conns c conn c' ≠ .insertPanicked ctx := by
    intro c conn hconn c' ctx hc'
    rcases update_cases hc' with ⟨-, hpanic⟩ | ⟨-, hold⟩
    · exact hconn ctx hpanic
    · exact h c' ctx hold
  cases hstep with
  | accept | insert | spawn | close | panic => exact moved nofun
  | read => exact moved (Conn.ne_insertPanicked_of_inSetup (onRead_inSetup _ _))
  | check => exact moved (Conn.ne_insertPanicked_of_inSetup (checkConflict_inSetup _ _ _ _))
  | evaluate => exact moved (Conn.ne_insertPanicked_of_inSetup (respond_inSetup _ _ _))
  | write => exact moved (Conn.ne_insertPanicked_of_inSetup (onWritten_inSetup _ _ _))
  | @loopRead c ctx outcome hc => cases outcome <;> exact moved nofun
  | insertPanic hc hkey =>
    rw [free_of_inserting hexcl hc] at hkey
    cases hkey

/-- One induction for the panics; the rest is read off the state. -/
theorem insertsSafe_of_run {as : List (Act G)} {s : State G}
    (run : (system G).RunUnder InsertsAlone as s) : InsertsSafe s := by
  refine ⟨run.invariant (P := fun s => ∀ c ctx, s.conns c ≠ .insertPanicked ctx) nofun ?_, ?_⟩
  · intro as s a s' run h _ hstep
    exact not_insertPanicked_step (exclusive_of_run run) h (step_cases hstep)
  · intro c ctx s' hc hstep
    simp only [step, hc, State.insert, free_of_inserting (exclusive_of_run run) hc,
      Option.some.injEq] at hstep
    subst hstep
    simp [State.register]

/-- A pending connection can be brought to its insert, by its own steps and without touching the
map. What is left of its setup is at most an evaluation and a write, and a configuration that
accepts it exists. -/
theorem pending_reaches_insert {as : List (Act G)} {s : State G} (run : (system G).Run as s)
    {c : ConnId} {g : G} (hpend : (s.conns c).pending = some g) :
    ∃ bs s' ctx, (system G).Run (as ++ bs) s' ∧ s'.conns c = .inserting ctx ∧
      ctx.globalRanNodeId = g ∧ s'.gnbContexts = s.gnbContexts := by
  -- from a written answer
  have write : ∀ {as : List (Act G)} {s : State G} {attempt : Nat} {pdu : NgapPdu}
      {ctx : GnbContext G}, (system G).Run as s → s.conns c = .writing attempt pdu (.ok ctx) →
      (system G).Run (as ++ [.write c true]) (s.setConn c (.inserting ctx)) := by
    intro as s attempt pdu ctx run hc
    exact run.snoc trivial (by simp [system, step, hc, onWritten])
  cases hc : s.conns c with
  | inserting ctx =>
    rw [hc] at hpend
    exact ⟨[], s, ctx, by simpa using run, hc, Option.some.inj hpend, rfl⟩
  | writing attempt pdu result =>
    cases result with
    | error err => rw [hc] at hpend; cases hpend
    | ok ctx =>
      rw [hc] at hpend
      exact ⟨_, _, ctx, write run hc, Function.update_self .., Option.some.inj hpend, rfl⟩
  | evaluating attempt ctx list =>
    have hconv : Convertible list = true ∧ ctx.globalRanNodeId = g := by
      simpa [hc, Conn.pending] using hpend
    -- a configuration that supports one of its TAs accepts it
    obtain ⟨config, resp, hok⟩ := exists_evaluate_ok (G := G) hconv.1
    let s₁ := s.setConn c (.writing attempt (.ngSetupResponse resp) (.ok ctx))
    have run₁ : (system G).Run (as ++ [.evaluate c config]) s₁ :=
      run.snoc trivial (by simp [system, step, hc, hok, respond, s₁])
    have hc₁ : s₁.conns c = .writing attempt (.ngSetupResponse resp) (.ok ctx) :=
      Function.update_self ..
    refine ⟨[.evaluate c config, .write c true], s₁.setConn c (.inserting ctx), ctx, ?_,
      Function.update_self .., hconv.2, rfl⟩
    simpa using write run₁ hc₁
  | idle | reading | checking | spawning | looping | closing | finished | setupFailed
  | insertPanicked | panicked => rw [hc] at hpend; cases hpend

theorem panics_of_present {as : List (Act G)} {s : State G} (run : (system G).Run as s)
    {c : ConnId} {ctx other : GnbContext G} (hc : s.conns c = .inserting ctx)
    (hkey : s.gnbContexts ctx.globalRanNodeId = some other) :
    ∃ s', (system G).Run (as ++ [.insert c]) s' ∧ ¬ InsertsSafe s' := by
  refine ⟨s.setConn c (.insertPanicked ctx), run.snoc trivial ?_, fun hsafe => ?_⟩
  · simp [system, step, hc, State.insert, hkey]
  · exact hsafe.1 c ctx (Function.update_self ..)

/-- **The `unwrap` is safe exactly while connections insert alone.** In every run in which no
connection inserts while another one with the same Global RAN Node ID is pending, every
accepted and answered connection is registered and no insert panics; and in any run, a step
that breaks the condition has a continuation in which an insert panics. -/
theorem inserts_safe_iff_inserts_alone :
    (∀ (as : List (Act G)) s, (system G).RunUnder InsertsAlone as s → InsertsSafe s) ∧
    (∀ (as : List (Act G)) s a, (system G).Run as s → ¬ InsertsAlone s a →
      ∃ bs s', (system G).Run (as ++ [a] ++ bs) s' ∧ ¬ InsertsSafe s') := by
  refine ⟨fun as s run => insertsSafe_of_run run, ?_⟩
  intro as s a run hcond
  simp only [InsertsAlone, not_forall, not_not] at hcond
  obtain ⟨c, ctx, rfl, hc, c', hne, hpend⟩ := hcond
  cases hkey : s.gnbContexts ctx.globalRanNodeId with
  -- `c` finds its own id taken, and panics itself
  | some other =>
    obtain ⟨s', run', hbad⟩ := panics_of_present run hc hkey
    exact ⟨[], s', by simpa using run', hbad⟩
  | none =>
    -- `c` gets in, and the pending connection is brought to its own insert
    have run₁ : (system G).Run (as ++ [.insert c]) (s.register c ctx) :=
      run.snoc trivial (by simp [system, step, hc, State.insert, hkey])
    have hpend₁ : ((s.register c ctx).conns c').pending = some ctx.globalRanNodeId := by
      simpa only [State.register, Function.update_of_ne hne] using hpend
    obtain ⟨bs, s₂, ctx', run₂, hc₂, hid, hmap⟩ := pending_reaches_insert run₁ hpend₁
    have hkey₂ : s₂.gnbContexts ctx'.globalRanNodeId = some ctx := by
      rw [hmap, hid]
      exact Function.update_self ..
    obtain ⟨s₃, run₃, hbad⟩ := panics_of_present run₂ hc₂ hkey₂
    exact ⟨bs ++ [.insert c'], s₃, by simpa only [List.append_assoc] using run₃, hbad⟩

/-- Two connections of gNB 5 that both pass the check before either inserts. -/
def twoSetups : List (Act Nat) :=
  [.accept 0, .accept 1, .read 0 (.ngSetupRequest (gnbRequest 5)),
    .read 1 (.ngSetupRequest (gnbRequest 5)), .check 0, .check 1, .evaluate 0 amfConfig,
    .evaluate 1 amfConfig, .write 0 true, .write 1 true, .insert 0, .insert 1]

/-- The second connection was accepted and answered, and its insert panics. The comment at the
`unwrap` takes this for impossible. -/
theorem insert_panics :
    ∃ s, (system Nat).Run twoSetups s ∧
      s.conns 1 = .insertPanicked (.ofRequest 1 (gnbRequest 5)) ∧ ¬ InsertsSafe s := by
  let s := ((system Nat).exec twoSetups).get (by decide)
  have hrun : (system Nat).Run twoSetups s := System.run_of_exec (by simp [s])
  have hpanic : s.conns 1 = .insertPanicked (.ofRequest 1 (gnbRequest 5)) := rfl
  exact ⟨s, hrun, hpanic, fun hsafe => hsafe.1 1 _ hpanic⟩

/-- The test for `InsertsAlone` among the connections `cs`. -/
def insertsAlone (cs : List ConnId) (s : State G) : Act G → Bool
  | .insert c => match s.conns c with
    | .inserting ctx =>
      cs.all fun c' => c' = c || (s.conns c').pending != some ctx.globalRanNodeId
    | _ => true
  | _ => true

/-- Other connections than `cs` need no test while they have not been accepted. -/
theorem insertsAlone_of_test {cs : List ConnId} {s : State G} {a : Act G}
    (hidle : ∀ c, c ∉ cs → s.conns c = .idle) (h : insertsAlone cs s a = true) :
    InsertsAlone s a := by
  rintro c ctx rfl hc c' hne hpend
  by_cases hc' : c' ∈ cs
  · simp only [insertsAlone, hc, List.all_eq_true] at h
    have htest := h c' hc'
    simp [hne, hpend] at htest
  · rw [hidle c' hc'] at hpend
    cases hpend

/-- Two connections of gNB 5: the second is read before the first inserts, and checked after. -/
def insertThenCheck : List (Act Nat) :=
  [.accept 0, .read 0 (.ngSetupRequest (gnbRequest 5)), .accept 1, .check 0,
    .read 1 (.ngSetupRequest (gnbRequest 5)), .evaluate 0 amfConfig, .write 0 true, .insert 0,
    .check 1]

/-- The first connection is registered, and the second, which checks after that, is refused. So the
condition is met although the two setups overlap. -/
theorem inserts_safe_insertThenCheck :
    ∃ s failure err, (system Nat).RunUnder InsertsAlone insertThenCheck s ∧
      s.conns 0 = .spawning (.ofRequest 0 (gnbRequest 5)) ∧
      s.gnbContexts 5 = some (.ofRequest 0 (gnbRequest 5)) ∧
      s.conns 1 = .writing 1 (.ngSetupFailure failure) (.error err) ∧ InsertsSafe s := by
  let s := (((system Nat).guarded (insertsAlone [0, 1])).exec insertThenCheck).get (by decide)
  have hunder : (system Nat).RunUnder InsertsAlone insertThenCheck s :=
    .of_guarded_tasks [0, 1] (fun _ _ _ _ hstep => (step_cases hstep).conns_other)
      (fun _ _ => insertsAlone_of_test) (by decide) (by simp [s])
  exact ⟨s, _, _, hunder, rfl, rfl, rfl, inserts_safe_iff_inserts_alone.1 _ _ hunder⟩

end UnifyAir.Ngap
