import UnifyAir.TokenStore.Entries

/-!
# UnifyAir — how calls of the `TokenStore` fail

A `get` fails when it reads a `Failed` entry; a `set` fails when it finds an update in progress,
or when its future does. A `Failed` entry is made by a future that failed: the result goes into a
new `Arc`, which its `set` holds until `update_async` puts it under the key.

* **`Step.failing`** — a call that has an error to return had it before the step, or is given it by
  one of these three.
* **`Step.holds`** — an `Arc` that is or will be the entry of a key was that before the step, or is
  made by it.
-/

namespace UnifyAir.TokenStore

open Concurrency

variable {K V E : Type}

/-- The call has an error to return. -/
def Call.Failing : Call K V E → Prop
  | .getReturned _ (.error _) | .setWrite _ _ _ (.error _) | .setNotify _ _ _ (.error _)
  | .setReturned _ (.error _) => True
  | _ => False

/-- What makes the call `t` fail. -/
inductive FailsAt (s : State K V E) (t : TaskId) : Act K V E → Prop where
  | read {key : K} {round : Nat} {arc : ArcId} {id : BitVec 32}
      (hc : s.calls t = .getRead key round) (hentry : s.entry key = some (arc, ⟨id, .failed⟩)) :
      FailsAt s t (.advance t)
  | check {key : K} {n : NotifyId} {id : BitVec 32} (hc : s.calls t = .setCheck key n id)
      (hupd : s.Updating key) : FailsAt s t (.advance t)
  | resolve {key : K} {n : NotifyId} {id : BitVec 32} {err : E}
      (hc : s.calls t = .setRunning key n id) : FailsAt s t (.resolve t (.error err))

/-- `arc` is the entry of `key`, or a `set` is about to make it that. -/
def State.Holds (s : State K V E) (key : K) (arc : ArcId) : Prop :=
  s.map key = some arc ∨ ∃ t n res, s.calls t = .setWrite key n arc res

/-- The call that was moved stands where it was moved to. -/
theorem failing_of_setCall {s : State K V E} {t : TaskId} {c : Call K V E}
    (h : ((s.setCall t c).calls t).Failing) : c.Failing := by
  rw [setCall_calls_self] at h
  exact h

/-- A round of `get` gives an error only for a `Failed` entry. -/
theorem readEntry_failing {s : State K V E} {key : K} {round : Nat}
    (h : (s.readEntry key round).Failing) : ∃ arc id, s.entry key = some (arc, ⟨id, .failed⟩) := by
  unfold State.readEntry at h
  split at h
  · cases h
  · next arc ts hentry =>
    obtain ⟨id, state⟩ := ts
    cases state with
    | failed => exact ⟨arc, id, hentry⟩
    | ready v => cases h
    | updating n => cases h

/-- A check of `set` gives an error only for an update in progress. -/
theorem checkEntry_failing {s : State K V E} {key : K} {n : NotifyId} {id : BitVec 32}
    (h : (s.checkEntry key n id).Failing) : s.Updating key := by
  unfold State.checkEntry at h
  split at h
  · next arc ts hentry =>
    split at h
    · next hupd => exact ⟨arc, ts, hentry, hupd⟩
    · cases h
  · cases h

/-- The end of a round is never an error, even where the rounds are used up. -/
theorem nextRound_not_failing (key : K) (round : Nat) :
    ¬ (State.nextRound key round : Call K V E).Failing := by
  unfold State.nextRound
  split <;> exact id

variable [DecidableEq K]

/-- A `get` that is about to read a `Failed` entry returns an error. There is nothing in `get` that
would look behind the entry. -/
theorem read_fails {s s' : State K V E} {t : TaskId} {key : K} {round : Nat} {arc : ArcId}
    {id : BitVec 32} (hc : s.calls t = .getRead key round)
    (hentry : s.entry key = some (arc, ⟨id, .failed⟩)) (hstep : step s (.advance t) = some s') :
    s'.calls t = .getReturned key (.error (.readError id)) := by
  simp only [step, State.advance, hc, Option.some.injEq] at hstep
  rw [← hstep, setCall_calls_self, State.readEntry, hentry]

/-- A `set` that is about to find an update in progress returns an error, whatever becomes of that
update. -/
theorem check_fails {s s' : State K V E} {t : TaskId} {key : K} {n : NotifyId} {id : BitVec 32}
    (hc : s.calls t = .setCheck key n id) (hupd : s.Updating key)
    (hstep : step s (.advance t) = some s') :
    ∃ err, s'.calls t = .setReturned key (.error err) := by
  obtain ⟨arc, ts, hentry, hts⟩ := hupd
  simp only [step, State.advance, hc, Option.some.injEq] at hstep
  refine ⟨.updateAlredyInProgress ts.id, ?_⟩
  rw [← hstep, setCall_calls_self, State.checkEntry, hentry]
  exact if_pos hts

/-- A `set` whose future has failed returns the error in its next two steps: the write of the
result, which changes nothing of it, and the wake-up of those that wait. -/
theorem resolve_fails {s s' : State K V E} {t : TaskId} {err : E}
    (hstep : step s (.resolve t (.error err)) = some s') :
    ∃ s₁ s₂ key, step s' (.advance t) = some s₁ ∧ step s₁ (.advance t) = some s₂ ∧
      s₂.calls t = .setReturned key (.error (.innerFutureError err)) := by
  simp only [step] at hstep
  split at hstep
  · next key n id hc =>
    obtain rfl : s.resolveFuture t key n id (.error err) = s' := Option.some.inj hstep
    let s₁ := (s.resolveFuture t key n id (.error err)).write t key n s.arcs.length
      (.error (.innerFutureError err))
    let s₂ := s₁.notifyWaiters t key n s.arcs.length (.error (.innerFutureError err))
    refine ⟨s₁, s₂, key, ?_, ?_, Function.update_self ..⟩
    · have hwrite : (s.resolveFuture t key n id (.error err)).calls t =
          .setWrite key n s.arcs.length (.error (.innerFutureError err)) := Function.update_self ..
      simp only [step, State.advance, hwrite]
      rfl
    · have hnotify : s₁.calls t =
          .setNotify key n s.arcs.length (.error (.innerFutureError err)) := Function.update_self ..
      simp only [step, State.advance, hnotify]
      rfl
  · cases hstep

/-- Where an error comes from: a call that has one to return had it before the step, or is given it
by one of the three steps of `FailsAt`. So the first cause of an error is in the run, and can be
named. -/
theorem Step.failing {s s' : State K V E} {a : Act K V E} (h : Step s a s') {t : TaskId}
    (hf : (s'.calls t).Failing) : (s.calls t).Failing ∨ FailsAt s t a := by
  -- the step moves one call, to `c`
  have moved : ∀ {t' : TaskId} {c : Call K V E}, s'.calls = Function.update s.calls t' c →
      (t = t' ∧ c.Failing) ∨ (s.calls t).Failing := by
    intro t' c hcalls
    rw [hcalls] at hf
    rcases update_cases (rfl : Function.update s.calls t' c t = _) with ⟨ht, hc⟩ | ⟨-, hold⟩
    · exact Or.inl ⟨ht, hc ▸ hf⟩
    · exact Or.inr (hold ▸ hf)
  -- a call comes to fail by what it reads, by the check, or by its own future
  cases h with
  | read hc =>
    rcases moved rfl with ⟨rfl, hread⟩ | hold
    · obtain ⟨arc, id, hentry⟩ := readEntry_failing hread
      exact Or.inr (.read hc hentry)
    · exact Or.inl hold
  | wake hc hn =>
    rcases moved rfl with ⟨rfl, hnext⟩ | hold
    · exact (nextRound_not_failing _ _ hnext).elim
    · exact Or.inl hold
  | check hc =>
    rcases moved rfl with ⟨rfl, hcheck⟩ | hold
    · exact Or.inr (.check hc (checkEntry_failing hcheck))
    · exact Or.inl hold
  | @resolve t' key n id res hc =>
    rcases moved rfl with ⟨rfl, hres⟩ | hold
    · cases res with
      | ok v => cases hres
      | error err => exact Or.inr (.resolve hc)
    · exact Or.inl hold
  | @write t' key n arc res hc | @notify t' key n arc res hc =>
    rcases moved rfl with ⟨rfl, hres⟩ | hold
    · rw [hc]
      cases res with
      | ok => cases hres
      | error err => exact Or.inl trivial
    · exact Or.inl hold
  | get | set | park | begin | upsert | drop =>
    rcases moved rfl with ⟨-, hnew⟩ | hold
    · cases hnew
    · exact Or.inl hold

/-- A `set` comes to its write from its future, with the result in a new `Arc`. This is the only way
for a result to come into being. -/
theorem Step.setWrite_cases {s s' : State K V E} {a : Act K V E} (h : Step s a s') {t : TaskId}
    {key : K} {n : NotifyId} {arc : ArcId} {res : Except (StoreError E) Unit}
    (hc : s'.calls t = .setWrite key n arc res) :
    s.calls t = .setWrite key n arc res ∨ ∃ id r, a = .resolve t r ∧
      s.calls t = .setRunning key n id ∧ arc = s.arcs.length ∧
      s'.arcs[arc]? = some ⟨id, (State.outcome r).1⟩ := by
  -- the step moves one call, to `c`
  have moved : ∀ {t' : TaskId} {c : Call K V E}, s'.calls = Function.update s.calls t' c →
      (t = t' ∧ c = .setWrite key n arc res) ∨ s.calls t = .setWrite key n arc res := by
    intro t' c hcalls
    rw [hcalls] at hc
    rcases update_cases hc with hnew | ⟨-, hold⟩
    · exact Or.inl hnew
    · exact Or.inr hold
  -- only the future that is resolved leads to a write
  cases h with
  | @read t' key' round hc' =>
    rcases moved rfl with ⟨-, hnew⟩ | hold
    · have hop := readEntry_op s key' round
      rw [hnew] at hop
      cases hop
    · exact Or.inl hold
  | @wake t' key' round n' seen hc' hn =>
    rcases moved rfl with ⟨-, hnew⟩ | hold
    · have hop := nextRound_op (V := V) (E := E) key' round
      rw [hnew] at hop
      cases hop
    · exact Or.inl hold
  | @check t' key' n' id hc' =>
    rcases moved rfl with ⟨-, hnew⟩ | hold
    · unfold State.checkEntry at hnew
      split at hnew
      · split at hnew <;> cases hnew
      · cases hnew
    · exact Or.inl hold
  | @resolve t' key' n' id r hc' =>
    rcases moved rfl with ⟨rfl, hnew⟩ | hold
    · cases hnew
      exact Or.inr ⟨id, r, rfl, hc', rfl, List.getElem?_concat_length⟩
    · exact Or.inl hold
  | get | set | park | begin | upsert | write | notify | drop =>
    rcases moved rfl with ⟨-, hnew⟩ | hold
    · cases hnew
    · exact Or.inl hold

/-- A key comes to an `Arc` by an upsert, or from the `set` that is about to write it. The second
has a result in it, the first has not. -/
theorem Step.map_cases {s s' : State K V E} {a : Act K V E} (h : Step s a s') {key : K}
    {arc : ArcId} (hmap : s'.map key = some arc) :
    s.Holds key arc ∨
      arc = s.arcs.length ∧ ∃ id n, s'.arcs[arc]? = some ⟨id, .updating n⟩ := by
  -- the map is written twice: with the update that begins, and with its result
  cases h with
  | @upsert t key' n id hc =>
    rcases update_cases hmap with ⟨-, heq⟩ | ⟨-, hold⟩
    · cases heq
      exact Or.inr ⟨rfl, id, n, List.getElem?_concat_length⟩
    · exact Or.inl (Or.inl hold)
  | @write t key' n arc' res hc =>
    left
    simp only [State.write] at hmap
    split at hmap
    · rcases update_cases hmap with ⟨rfl, heq⟩ | ⟨-, hold⟩
      · cases heq
        exact Or.inr ⟨t, n, res, hc⟩
      · exact Or.inl hold
    · exact Or.inl hmap
  | get | set | read | park | wake | begin | check | resolve | notify | drop =>
    exact Or.inl (Or.inl hmap)

/-- Where the `Arc` of a key comes from: it is or will be the entry of the key since before the
step, or it is a new cell, made by an upsert or by a future. -/
theorem Step.holds {s s' : State K V E} {a : Act K V E} (h : Step s a s') {key : K} {arc : ArcId}
    (hh : s'.Holds key arc) :
    s.Holds key arc ∨ arc = s.arcs.length ∧
      ((∃ id n, s'.arcs[arc]? = some ⟨id, .updating n⟩) ∨
        ∃ t n id r, a = .resolve t r ∧ s.calls t = .setRunning key n id ∧
          s'.arcs[arc]? = some ⟨id, (State.outcome r).1⟩) := by
  -- an entry is held by the map, or by a call that is about to put it there
  rcases hh with hmap | ⟨t, n, res, hc⟩
  · rcases h.map_cases hmap with hold | ⟨harc, hupd⟩
    · exact Or.inl hold
    · exact Or.inr ⟨harc, Or.inl hupd⟩
  · rcases h.setWrite_cases hc with hold | ⟨id, r, hact, hrunning, harc, hcell⟩
    · exact Or.inl (Or.inr ⟨t, n, res, hold⟩)
    · exact Or.inr ⟨harc, Or.inr ⟨t, n, id, r, hact, hrunning, hcell⟩⟩

omit [DecidableEq K] in
/-- What is held is in the heap, whether a key holds it already or a `set` will write it. -/
theorem Sourced.holds {as : List (Act K V E)} {s : State K V E} (h : Sourced as s) {key : K}
    {arc : ArcId} (hh : s.Holds key arc) : ∃ ts, s.arcs[arc]? = some ts := by
  rcases hh with hmap | ⟨t, n, res, hc⟩
  · obtain ⟨ts, hts, -⟩ := h.entries key arc hmap
    exact ⟨ts, hts⟩
  · have hcall := h.calls t
    rw [hc] at hcall
    obtain ⟨-, id, r, hcell, -⟩ := hcall
    exact ⟨_, hcell⟩

end UnifyAir.TokenStore
