import UnifyAir.Concurrency.Admission
import UnifyAir.TokenStore.Entries

/-!
# UnifyAir — one update per key at a time in the `TokenStore`

`set` documents that it returns early when another update is in progress. It looks for an
`Updating` entry with `get_async`, lets go of the map, and installs its own entry with
`upsert_async`: a check and an act with a window between them. The store is therefore an
instance of the admission protocol — a key is *occupied* while its entry is `Updating`, a
`set` past its check is in its *window*, and a `set` between its upsert and its result is
*inside* — and it admits one update at a time as long as no `set` upserts past the window of
another one on the same key (`UpsertsAlone`).

* **`admission_step`** — the simulation: every step of the store is a step of the protocol or
  leaves its state alone.
* **`set_exclusive_iff_upserts_alone`** — one update per key under that condition, and a
  violation one step after the condition is broken.
* **`two_updates_in_flight`** — the schedule of two first `set`s on one key.
-/

namespace UnifyAir.TokenStore

open Concurrency Concurrency.Admission

variable {K V E : Type}

/-! ## The store as an admission protocol

The map shows which keys are occupied; it does not show who is in a window. This is what makes the
window dangerous, and why the condition is about calls. -/

/-- Where a `set` stands in the admission protocol. -/
def phaseOf : Call K V E → Phase K
  | .setUpsert key _ _ => .window key
  | .setRunning key _ _ | .setWrite key _ _ _ => .inside key
  | _ => .out

def toAdmission (s : State K V E) : Admission.State TaskId K where
  phase := phaseOf ∘ s.calls
  occupied := { key | s.Updating key }

/-- No `set` but `t` is between its check and its upsert of `key`. -/
def State.AloneAt (s : State K V E) (t : TaskId) (key : K) : Prop :=
  ∀ t' n id, t' ≠ t → s.calls t' ≠ .setUpsert key n id

/-- The condition on a step: a `set` upserts `key` only when no other `set` on `key` is
between its check and its upsert. -/
def UpsertsAlone (s : State K V E) (a : Act K V E) : Prop :=
  ∀ t key n id, a = .advance t → s.calls t = .setUpsert key n id → s.AloneAt t key

/-- The condition on calls is the one of the protocol. -/
theorem State.AloneAt.alone {s : State K V E} {t : TaskId} {key : K} (h : s.AloneAt t key) :
    Alone (toAdmission s) t key := by
  intro t' hne hphase
  simp only [toAdmission, Function.comp] at hphase
  cases hc : s.calls t' with
  | setUpsert key' n id =>
    simp only [hc, phaseOf, Phase.window.injEq] at hphase
    subst hphase
    exact h t' n id hne hc
  | idle | getRead | getCloned | getParked | getReturned | setStart | setCheck | setRunning
  | setWrite | setNotify | setReturned | dropped => simp [hc, phaseOf] at hphase

/-- A step that only moves calls moves no entry, so the protocol sees a change of phase at most. -/
theorem toAdmission_setCall (s : State K V E) (t : TaskId) (c : Call K V E) :
    toAdmission (s.setCall t c)
      = { toAdmission s with phase := Function.update (toAdmission s).phase t (phaseOf c) } := by
  unfold toAdmission State.setCall
  rw [Function.comp_update]
  rfl

/-- And none at all if the phase is the same. -/
theorem toAdmission_setCall_same {s : State K V E} {t : TaskId} {c : Call K V E}
    (h : phaseOf c = phaseOf (s.calls t)) : toAdmission (s.setCall t c) = toAdmission s := by
  rw [toAdmission_setCall, h]
  have hself : Function.update (toAdmission s).phase t (phaseOf (s.calls t))
      = (toAdmission s).phase := Function.update_eq_self t _
  rw [hself]

variable [DecidableEq K]

/-- `upsert_async` makes exactly its key `Updating`. Other keys have the entries they had. -/
theorem upsert_updating {as : List (Act K V E)} {s : State K V E} (h : Sourced as s) (t : TaskId)
    (key : K) (n : NotifyId) (id : BitVec 32) :
    { key' | (s.upsert t key n id).Updating key' } = insert key { key' | s.Updating key' } := by
  ext key'
  by_cases hk : key' = key
  · subst hk
    exact ⟨fun _ => Set.mem_insert _ _, fun _ => ⟨_, _, upsert_entry_self s t key' n id, rfl⟩⟩
  · rw [Set.mem_insert_iff, or_iff_right hk]
    simp only [Set.mem_ofPred_eq, State.Updating, upsert_entry_of_ne h t n id hk]

/-- `update_async` makes exactly its key not `Updating`. -/
theorem write_updating {as : List (Act K V E)} {s : State K V E} (h : Sourced as s) {t : TaskId}
    {key : K} {n : NotifyId} {arc : ArcId} {res : Except (StoreError E) Unit}
    (hc : s.calls t = .setWrite key n arc res) :
    { key' | (s.write t key n arc res).Updating key' } = { key' | s.Updating key' } \ {key} := by
  ext key'
  by_cases hk : key' = key
  · subst hk
    exact ⟨fun hu => absurd hu (write_not_updating h hc), fun hu => absurd rfl hu.2⟩
  · simp only [Set.mem_sdiff, Set.mem_ofPred_eq, Set.mem_singleton_iff, hk, not_false_eq_true,
      and_true, State.Updating, write_entry_of_ne s t n arc res hk]

/-- An upsert is the protocol's `enter`: the call is inside, and the key occupied. -/
theorem toAdmission_upsert {as : List (Act K V E)} {s : State K V E} (h : Sourced as s) (t : TaskId)
    (key : K) (n : NotifyId) (id : BitVec 32) :
    toAdmission (s.upsert t key n id) =
      ⟨Function.update (toAdmission s).phase t (.inside key),
        insert key (toAdmission s).occupied⟩ := by
  unfold toAdmission
  rw [upsert_updating h t key n id]
  simp only [State.upsert, Function.comp_update, phaseOf]

theorem toAdmission_write {as : List (Act K V E)} {s : State K V E} (h : Sourced as s) {t : TaskId}
    {key : K} {n : NotifyId} {arc : ArcId} {res : Except (StoreError E) Unit}
    (hc : s.calls t = .setWrite key n arc res) :
    toAdmission (s.write t key n arc res) =
      ⟨Function.update (toAdmission s).phase t .out, (toAdmission s).occupied \ {key}⟩ := by
  unfold toAdmission
  rw [write_updating h hc]
  simp only [State.write, Function.comp_update, phaseOf]

omit [DecidableEq K] in
/-- The future of a `set` call resolves while the call is inside. The result lies in the heap and is
seen by nobody yet. -/
theorem toAdmission_resolveFuture {as : List (Act K V E)} {s : State K V E} (h : Sourced as s)
    {t : TaskId} {key : K} {n : NotifyId} {id : BitVec 32} (res : Except E V)
    (hc : s.calls t = .setRunning key n id) :
    toAdmission (s.resolveFuture t key n id res) = toAdmission s := by
  have hocc : { key' | (s.resolveFuture t key n id res).Updating key' }
      = { key' | s.Updating key' } := by
    ext key'
    have hentry := entry_of_grown h (s.resolveFuture t key n id res) rfl
      (List.prefix_append _ _) key'
    simp only [Set.mem_ofPred_eq, State.Updating, hentry]
  have hphase : phaseOf ∘ (s.resolveFuture t key n id res).calls = phaseOf ∘ s.calls := by
    simp only [State.resolveFuture, Function.comp_update]
    rw [show phaseOf (.setWrite key n s.arcs.length (State.outcome res).2)
        = (phaseOf ∘ s.calls) t from by simp [hc, phaseOf]]
    exact Function.update_eq_self t _
  unfold toAdmission
  rw [hocc, hphase]

/-- **The simulation.** A step of the store that meets the condition is a step of the admission
protocol or leaves its state alone. The cases follow the transitions; a check is one of the protocol
only if it passes, and a drop is a withdrawal or leaves the key occupied, by where it finds the
call. -/
theorem admission_step {as : List (Act K V E)} {s s' : State K V E} {a : Act K V E}
    (h : Sourced as s) (hcond : UpsertsAlone s a) (hstep : TokenStore.Step s a s') :
    toAdmission s' = toAdmission s ∨ Admission.Step (toAdmission s) (toAdmission s') := by
  -- `get` never moves the admission; `set` does when it passes the check, enters and leaves
  cases hstep with
  | get hc => exact Or.inl (toAdmission_setCall_same (by rw [hc]; rfl))
  | set hc => exact Or.inl (toAdmission_setCall_same (by rw [hc]; rfl))
  | @read t key round hc =>
    refine Or.inl (toAdmission_setCall_same ?_)
    rw [hc]
    unfold State.readEntry
    split
    · rfl
    · split <;> rfl
  | park hc => exact Or.inl (toAdmission_setCall_same (by rw [hc]; rfl))
  | wake hc hn =>
    refine Or.inl (toAdmission_setCall_same ?_)
    rw [hc]
    unfold State.nextRound
    split <;> rfl
  | @begin t key hc => exact Or.inl (toAdmission_setCall_same (s := s) (by rw [hc]; rfl))
  | @check t key n id hc =>
    have hout : (toAdmission s).phase t = .out := by simp [toAdmission, hc, phaseOf]
    rw [toAdmission_setCall]
    by_cases hupd : s.Updating key
    · -- an update is in progress: the call returns and nothing moves
      obtain ⟨arc, ts, hentry, hts⟩ := hupd
      left
      rw [← toAdmission_setCall]
      exact toAdmission_setCall_same (by rw [hc]; simp [State.checkEntry, hentry, hts, phaseOf])
    · right
      have hpass : s.checkEntry key n id = .setUpsert key n id := by
        unfold State.checkEntry
        split
        · next arc ts hentry =>
          split
          · next hts => exact absurd ⟨arc, ts, hentry, hts⟩ hupd
          · rfl
        · rfl
      rw [hpass]
      exact .check t key hout hupd
  -- here a call enters, and the condition says that it is alone
  | @upsert t key n id hc =>
    right
    have hwin : (toAdmission s).phase t = .window key := by simp [toAdmission, hc, phaseOf]
    rw [toAdmission_upsert h]
    exact .enter t key hwin (hcond t key n id rfl hc).alone
  | @resolve t key n id res hc =>
    exact Or.inl (toAdmission_resolveFuture h res hc)
  | @write t key n arc res hc =>
    right
    have hin : (toAdmission s).phase t = .inside key := by simp [toAdmission, hc, phaseOf]
    rw [toAdmission_write h hc]
    exact .vacate t key hin
  | @notify t key n arc res hc =>
    exact Or.inl (toAdmission_setCall_same (s := s) (by rw [hc]; rfl))
  -- a call that is dropped withdraws from the window, or abandons what it has begun
  | @drop t hc =>
    rw [toAdmission_setCall]
    cases hcall : s.calls t with
    | setUpsert key n id =>
      exact Or.inr (.withdraw t key (by simp [toAdmission, hcall, phaseOf]))
    | setRunning key n id =>
      exact Or.inr (.abandon t key (by simp [toAdmission, hcall, phaseOf]))
    | setWrite key n arc res =>
      exact Or.inr (.abandon t key (by simp [toAdmission, hcall, phaseOf]))
    | idle | getRead | getCloned | getParked | getReturned | setStart | setCheck
    | setNotify | setReturned | dropped =>
      left
      rw [← toAdmission_setCall]
      exact toAdmission_setCall_same (by simp [hcall, phaseOf])

/-- What the protocol guarantees holds in every state that such runs lead to. -/
theorem exclusive_of_run {as : List (Act K V E)} {s : State K V E}
    (run : (system K V E).RunUnder UpsertsAlone as s) : Exclusive (toAdmission s) := by
  refine run.invariant (P := fun s => Exclusive (toAdmission s)) (exclusive_of_out fun _ => rfl) ?_
  intro as s a s' run hexcl hcond hstep
  rcases admission_step (sourced_of_run run.run) hcond (step_cases hstep) with heq | hadm
  · rw [heq]; exact hexcl
  · exact hexcl.step hadm

/-! ## One update per key

What the protocol guarantees, said of the store: futures in flight, and what a second `set` returns.
-/

/-- The future of the `set` call `t` on `key` is in flight. -/
def State.InFlight (s : State K V E) (t : TaskId) (key : K) : Prop :=
  ∃ n id, s.calls t = .setRunning key n id

/-- The `set` call `t` has installed its `Updating` entry and not yet written its result. -/
def State.Installed (s : State K V E) (t : TaskId) (key : K) : Prop :=
  s.InFlight t key ∨ ∃ n arc res, s.calls t = .setWrite key n arc res

/-- One update per key: no two futures on one key are in flight, and a `set` that checks a
key while another one's update is installed returns `UpdateAlredyInProgress` at once. -/
def OneUpdatePerKey (s : State K V E) : Prop :=
  (∀ t t' key, s.InFlight t key → s.InFlight t' key → t = t') ∧
  ∀ t o key n id s', s.calls t = .setCheck key n id → s.Installed o key →
    step s (.advance t) = some s' →
    ∃ id', s'.calls t = .setReturned key (.error (.updateAlredyInProgress id'))

omit [DecidableEq K] in
theorem State.Installed.phase {s : State K V E} {t : TaskId} {key : K} (h : s.Installed t key) :
    (toAdmission s).phase t = .inside key := by
  rcases h with ⟨n, id, hc⟩ | ⟨n, arc, res, hc⟩ <;> simp [toAdmission, hc, phaseOf]

/-- The guarantee of the protocol is the one that the store documents: two futures in flight would
be two tasks inside, and an installed entry is found by the check. -/
theorem oneUpdatePerKey_of_exclusive {s : State K V E} (h : Exclusive (toAdmission s)) :
    OneUpdatePerKey s := by
  refine ⟨fun t t' key ht ht' => ?_, fun t o key n id s' hc ho hstep => ?_⟩
  · exact h.inside_unique t t' key (State.Installed.phase (Or.inl ht))
      (State.Installed.phase (Or.inl ht'))
  · -- the other update occupies the key, so the check finds it
    obtain ⟨arc, ts, hentry, hupd⟩ := h.occupied_of_inside o key ho.phase
    simp only [step, State.advance, hc, Option.some.injEq] at hstep
    subst hstep
    refine ⟨ts.id, ?_⟩
    simp [State.setCall, State.checkEntry, hentry, hupd]

/-- Two `set`s on one key past their checks: both upsert, and both futures are in flight. Nothing
stops the second, since `upsert_async` does not look at what it replaces. -/
theorem overlap_of_two_windows {s : State K V E} {t t' : TaskId} {key : K} {n n' : NotifyId}
    {id id' : BitVec 32} (hne : t' ≠ t) (hc : s.calls t = .setUpsert key n id)
    (hc' : s.calls t' = .setUpsert key n' id') :
    ∃ s₁ s₂, step s (.advance t) = some s₁ ∧ step s₁ (.advance t') = some s₂ ∧
      ¬ OneUpdatePerKey s₂ := by
  have hc₁ : (s.upsert t key n id).calls t' = .setUpsert key n' id' := by
    simp only [State.upsert, Function.update_of_ne hne]; exact hc'
  refine ⟨s.upsert t key n id, (s.upsert t key n id).upsert t' key n' id', ?_, ?_, ?_⟩
  · simp only [step, State.advance, hc]
  · simp only [step, State.advance, hc₁]
  · -- both calls have their update under way now
    intro hone
    have hfl : ((s.upsert t key n id).upsert t' key n' id').InFlight t key :=
      ⟨n, id, by simp [State.upsert, Function.update_of_ne hne.symm]⟩
    have hfl' : ((s.upsert t key n id).upsert t' key n' id').InFlight t' key :=
      ⟨n', id', by simp [State.upsert]⟩
    exact hne (hone.1 t' t key hfl' hfl)

/-- **One update per key, exactly while no `set` upserts past another's window.** In every
run whose upserts are all made with no other `set` between its check and its upsert of the
same key, every state reached has one update per key; and from any state of any run, a step
that breaks the condition is followed by one that breaks the guarantee. -/
theorem set_exclusive_iff_upserts_alone :
    (∀ (as : List (Act K V E)) s, (system K V E).RunUnder UpsertsAlone as s → OneUpdatePerKey s) ∧
    (∀ (as : List (Act K V E)) s a, (system K V E).Run as s → ¬ UpsertsAlone s a →
      ∃ s₁ b s₂, step s a = some s₁ ∧ step s₁ b = some s₂ ∧ ¬ OneUpdatePerKey s₂) := by
  refine ⟨fun as s run => oneUpdatePerKey_of_exclusive (exclusive_of_run run), ?_⟩
  intro as s a _ hcond
  simp only [UpsertsAlone, State.AloneAt, not_forall, not_not] at hcond
  obtain ⟨t, key, n, id, rfl, hc, t', n', id', hne, hc'⟩ := hcond
  obtain ⟨s₁, s₂, h₁, h₂, hbroken⟩ := overlap_of_two_windows hne hc hc'
  exact ⟨s₁, .advance t', s₂, h₁, h₂, hbroken⟩

/-- Two `set`s on key 7 that both look before either writes. -/
def twoSets : List (Act Nat Nat Unit) :=
  [.set 0 7, .set 1 7, .advance 0, .advance 0, .advance 1, .advance 1, .advance 0, .advance 1]

/-- Both futures are in flight, although a `set` is to admit one update per key. -/
theorem two_updates_in_flight :
    ∃ s, (system Nat Nat Unit).Run twoSets s ∧ s.InFlight 0 7 ∧ s.InFlight 1 7 ∧
      ¬ OneUpdatePerKey s := by
  let s := ((system Nat Nat Unit).exec twoSets).get (by decide)
  have hrun : (system Nat Nat Unit).Run twoSets s := System.run_of_exec (by simp [s])
  have h₀ : s.InFlight 0 7 := ⟨0, 1, rfl⟩
  have h₁ : s.InFlight 1 7 := ⟨1, 2, rfl⟩
  exact ⟨s, hrun, h₀, h₁, fun hone => absurd (hone.1 0 1 7 h₀ h₁) (by decide)⟩

/-- The key that a `set` past its check is about to upsert. -/
def Call.windowKey : Call K V E → Option K
  | .setUpsert key _ _ => some key
  | _ => none

/-- The test for `UpsertsAlone` among the calls `ts`. -/
def upsertsAlone (ts : List TaskId) (s : State K V E) : Act K V E → Bool
  | .advance t => match (s.calls t).windowKey with
    | some key => ts.all fun t' => t' = t || (s.calls t').windowKey != some key
    | none => true
  | _ => true

/-- Other calls than `ts` need no test while they have not begun. -/
theorem upsertsAlone_of_test {ts : List TaskId} {s : State K V E} {a : Act K V E}
    (hidle : ∀ t, t ∉ ts → s.calls t = .idle) (h : upsertsAlone ts s a = true) :
    UpsertsAlone s a := by
  rintro t key n id rfl hc t' n' id' hne hc'
  by_cases ht' : t' ∈ ts
  · simp only [upsertsAlone, hc, Call.windowKey, List.all_eq_true] at h
    have htest := h t' ht'
    simp [hne, hc'] at htest
  · rw [hidle t' ht'] at hc'
    cases hc'

/-- A `set` on key 7 that comes upon the update of another one: its check is still to be made. -/
def updateThenSet : List (Act Nat Nat Unit) :=
  [.set 0 7, .set 1 7, .advance 0, .advance 1, .advance 0, .advance 0]

/-- The second `set` returns without running its future. -/
theorem set_exclusive_updateThenSet :
    ∃ s s' id, (system Nat Nat Unit).RunUnder UpsertsAlone updateThenSet s ∧ s.InFlight 0 7 ∧
      step s (.advance 1) = some s' ∧
      s'.calls 1 = .setReturned 7 (.error (.updateAlredyInProgress id)) := by
  let s := (((system Nat Nat Unit).guarded (upsertsAlone [0, 1])).exec updateThenSet).get
    (by decide)
  have hunder : (system Nat Nat Unit).RunUnder UpsertsAlone updateThenSet s :=
    .of_guarded_tasks [0, 1] (fun _ _ _ _ hstep => (step_cases hstep).calls_other)
      (fun _ _ => upsertsAlone_of_test) (by decide) (by simp [s])
  have hrunning : s.InFlight 0 7 := ⟨0, 1, rfl⟩
  obtain ⟨s', hstep⟩ : ∃ s', step s (.advance 1) = some s' := ⟨_, rfl⟩
  obtain ⟨id, hreturned⟩ := (set_exclusive_iff_upserts_alone.1 updateThenSet s hunder).2 1 0 7 _ _ s'
    rfl (.inl hrunning) hstep
  exact ⟨s, s', id, hunder, hrunning, hstep, hreturned⟩

end UnifyAir.TokenStore
