import UnifyAir.TokenStore.Entries

/-!
# UnifyAir — a `get` of the `TokenStore` that finds nothing

`get` answers `Ok(None)` when it reads no entry, and once more behind its loop: after nine rounds
that each found an update in progress. Entries are never removed, so the second answer is given for
a key that has one all along. `StoreError::MaximumReadIterations`, which is there for it, is never
made.

* **`absence_iff_rounds_left`** — the `Ok(None)` answers of a run are true exactly when no `get`
  wakes from its ninth wait.
* **`none_after_nine_updates`** — nine updates back to back.
-/

namespace UnifyAir.TokenStore

open Concurrency

variable {K V E : Type}

/-- A round of `get` that answers `Ok(None)` has found no entry under its key. -/
theorem readEntry_none {s : State K V E} {key : K} {round : Nat} {key' : K}
    (h : s.readEntry key round = .getReturned key' (.ok none)) : s.entry key = none ∧ key' = key := by
  unfold State.readEntry at h
  split at h
  · next hentry =>
    cases h
    exact ⟨hentry, rfl⟩
  · split at h <;> cases h

/-- The end of a round answers `Ok(None)` only after the ninth: the source counts from 1 up to, and
not including, 10. -/
theorem nextRound_none {key key' : K} {round : Nat}
    (h : (State.nextRound key round : Call K V E) = .getReturned key' (.ok none)) :
    9 ≤ round ∧ key' = key := by
  unfold State.nextRound at h
  split at h
  · cases h
  · next hlast =>
    cases h
    exact ⟨by omega, rfl⟩

variable [DecidableEq K]

/-- A `get` that has returned stays so. No transition starts where it stands. -/
theorem Step.returned_stays {s s' : State K V E} {a : Act K V E} (h : Step s a s') {t : TaskId}
    {key : K} {res : Except (StoreError E) (Option TokenEntry)}
    (ht : s.calls t = .getReturned key res) : s'.calls t = .getReturned key res := by
  refine (h.calls_other fun heq => ?_).trans ht
  subst heq
  cases h with
  | get hc | set hc | read hc | park hc | wake hc | begin hc | check hc | upsert hc | resolve hc
  | write hc | notify hc => cases hc.symm.trans ht
  | drop hc => cases hc.symm.trans (congrArg Call.atAwait ht)

/-- Entries are never removed. An upsert puts one there, and a write replaces one. -/
theorem Step.map_stays {s s' : State K V E} {a : Act K V E} (h : Step s a s') {key : K}
    (hkey : s.map key ≠ none) : s'.map key ≠ none := by
  cases h with
  | upsert => exact to_update (fun m : Option ArcId => m ≠ none) (fun _ => Option.some_ne_none _) hkey
  | @write t key' n arc res =>
    show (if (s.map key').isSome then Function.update s.map key' (some arc) else s.map) key ≠ none
    split
    · exact to_update (fun m : Option ArcId => m ≠ none) (fun _ => Option.some_ne_none _) hkey
    · exact hkey
  | get | set | read | park | wake | begin | check | resolve | notify | drop => exact hkey

theorem Step.ne_idle {s s' : State K V E} {a : Act K V E} (h : Step s a s') {t : TaskId}
    (ht : s.calls t ≠ .idle) : s'.calls t ≠ .idle := by
  by_cases htask : t = a.task
  · rw [htask]
    exact h.task_ne_idle
  · rw [h.calls_other htask]
    exact ht

/-! ## Where `Ok(None)` comes from

The answer is given in two places of the code, and means two things. A true one was read in the map;
to speak of it the state at the time of that read is needed, which is a state of the run before. -/

/-- The call `t` read the map at a moment at which `key` had no entry. -/
def ReadAbsent (as : List (Act K V E)) (t : TaskId) (key : K) : Prop :=
  ∃ pre s round, pre ++ [.advance t] <+: as ∧ (system K V E).Run pre s ∧
    s.calls t = .getRead key round ∧ s.map key = none

/-- A read that was made in a schedule was made in every longer one. -/
theorem ReadAbsent.mono {as as' : List (Act K V E)} {t : TaskId} {key : K} (has : as <+: as')
    (h : ReadAbsent as t key) : ReadAbsent as' t key :=
  let ⟨pre, s, round, hpre, hread⟩ := h
  ⟨pre, s, round, hpre.trans has, hread⟩

/-- A call that read nothing has returned `Ok(None)`, and nothing else since. The state after the
read is found in the run, and what it returned there stays. -/
theorem returned_of_readAbsent {as : List (Act K V E)} {s : State K V E}
    (run : (system K V E).Run as s) {t : TaskId} {key : K} (h : ReadAbsent as t key) :
    s.calls t = .getReturned key (.ok none) := by
  obtain ⟨pre, s₀, round, ⟨rest, rfl⟩, run₀, hc, hnone⟩ := h
  obtain ⟨s₁, run₁⟩ := run.split
  obtain ⟨s₂, run₂, -, hstep⟩ := run₁.unsnoc
  obtain rfl := run₂.eq run₀
  have hret : s₁.calls t = .getReturned key (.ok none) := by
    simp only [system, step, State.advance, hc, Option.some.injEq] at hstep
    rw [← hstep, setCall_calls_self, State.readEntry, State.entry, hnone]
    rfl
  exact run₁.persists (Q := fun s => s.calls t = .getReturned key (.ok none))
    (fun _ _ _ hstep => (step_cases hstep).returned_stays) run hret

/-- The call `t` has returned `Ok(None)` for `key`. -/
def State.gaveNone (s : State K V E) (t : TaskId) (key : K) : Bool :=
  match s.calls t with
  | .getReturned key' (.ok none) => key' = key
  | _ => false

/-- The test for such an answer, which a long schedule can be checked with. -/
theorem gaveNone_iff {s : State K V E} {t : TaskId} {key : K} :
    s.gaveNone t key = true ↔ s.calls t = .getReturned key (.ok none) := by
  constructor
  · intro h
    unfold State.gaveNone at h
    split at h
    · next hc => rw [hc, of_decide_eq_true h]
    · cases h
  · intro h
    simp [State.gaveNone, h]

/-- The round whose wait a step ends. -/
def State.wakingRound (s : State K V E) : Act K V E → Option Nat
  | .advance t => match s.calls t with
    | .getParked _ round _ _ => some round
    | _ => none
  | _ => none

/-- The step does not end the ninth wait of a `get`. -/
def RoundsLeft (s : State K V E) (a : Act K V E) : Prop := ∀ round ∈ s.wakingRound a, round < 9

instance (s : State K V E) (a : Act K V E) : Decidable (RoundsLeft s a) :=
  inferInstanceAs (Decidable (∀ round ∈ s.wakingRound a, round < 9))

omit [DecidableEq K] in
/-- The rounds that a step wakes in are those of the parked call that moves, so there is one or
none. `RoundsLeft` asks of each that it is not the ninth. -/
theorem mem_wakingRound {s : State K V E} {a : Act K V E} {round : Nat} :
    round ∈ s.wakingRound a ↔
      ∃ t key n seen, a = .advance t ∧ s.calls t = .getParked key round n seen := by
  constructor
  · intro h
    unfold State.wakingRound at h
    split at h
    · next t =>
      split at h
      · next key round' n seen hc =>
        cases h
        exact ⟨t, key, n, seen, rfl, hc⟩
      · cases h
    · cases h
  · rintro ⟨t, key, n, seen, rfl, hc⟩
    simp [State.wakingRound, hc]

/-- A call with `Ok(None)` to return had it before the step, or reads no entry in it, or ends its
ninth wait in it. The second is a true answer and the third a false one. -/
theorem Step.returns_none {as : List (Act K V E)} {s s' : State K V E} {a : Act K V E}
    (run : (system K V E).Run as s) (h : Step s a s') {t : TaskId} {key : K}
    (ht : s'.calls t = .getReturned key (.ok none)) :
    s.calls t = .getReturned key (.ok none) ∨ ReadAbsent (as ++ [a]) t key ∨ ¬ RoundsLeft s a := by
  have moved : ∀ {t' : TaskId} {c : Call K V E}, s'.calls = Function.update s.calls t' c →
      (t = t' ∧ c = .getReturned key (.ok none)) ∨ s.calls t = .getReturned key (.ok none) := by
    intro t' c hcalls
    rw [hcalls] at ht
    rcases update_cases ht with hnew | ⟨-, hold⟩
    · exact .inl hnew
    · exact .inr hold
  cases h with
  | @read t' key' round hc =>
    rcases moved rfl with ⟨rfl, hread⟩ | hold
    · obtain ⟨hentry, rfl⟩ := readEntry_none hread
      -- an entry of the map is never dangling
      have hmap : s.map key = none := by
        cases hmap : s.map key with
        | none => rfl
        | some arc =>
          obtain ⟨ts, hts, -⟩ := (sourced_of_run run).entries key arc hmap
          rw [entry_eq_some.mpr ⟨hmap, hts⟩] at hentry
          cases hentry
      exact .inr (.inl ⟨as, s, round, List.prefix_refl _, run, hc, hmap⟩)
    · exact .inl hold
  | @wake t' key' round n seen hc hn =>
    rcases moved rfl with ⟨rfl, hnext⟩ | hold
    · have hlast := (nextRound_none hnext).1
      refine .inr (.inr fun hleft => ?_)
      have := hleft round (mem_wakingRound.mpr ⟨_, _, _, _, rfl, hc⟩)
      omega
    · exact .inl hold
  | check hc =>
    rcases moved rfl with ⟨-, hcheck⟩ | hold
    · have hop := checkEntry_op s _ _ _ ▸ congrArg Call.op hcheck
      cases hop
    · exact .inl hold
  | get | set | park | begin | upsert | resolve | write | notify | drop =>
    rcases moved rfl with ⟨-, hnew⟩ | hold
    · cases hnew
    · exact .inl hold

/-- The `Ok(None)` answers of a run are true: each call that gave one read the map while its key
had no entry, and none was made after there was one. -/
structure AbsenceTrue (as : List (Act K V E)) (s : State K V E) : Prop where
  read : ∀ t key, s.calls t = .getReturned key (.ok none) → ReadAbsent as t key
  later : ∀ pre rest s₀ t key, as = pre ++ rest → (system K V E).Run pre s₀ →
    s₀.map key ≠ none → .get t key ∈ rest → s.calls t ≠ .getReturned key (.ok none)

/-- A call is idle when it is made, and so it is in every state before that. -/
theorem idle_of_get {pre rest : List (Act K V E)} {s₀ s : State K V E}
    (run₀ : (system K V E).Run pre s₀) (run : (system K V E).Run (pre ++ rest) s) {t : TaskId}
    {key : K} (h : .get t key ∈ rest) : s₀.calls t = .idle := by
  obtain ⟨before, after, rfl⟩ := List.append_of_mem h
  have hsplit : pre ++ (before ++ .get t key :: after) =
      pre ++ before ++ [.get t key] ++ after := by simp
  rw [hsplit] at run
  obtain ⟨s₂, run₂⟩ := run.split
  obtain ⟨s₁, run₁, -, hstep⟩ := run₂.unsnoc
  have hget : Step s₁ (.get t key) s₂ := step_cases hstep
  by_contra hne
  have hne₁ := run₀.persists (Q := fun s => s.calls t ≠ .idle)
    (fun _ _ _ hstep => (step_cases hstep).ne_idle) run₁ hne
  cases hget with
  | get hc => exact hne₁ hc

/-- A call that is made when its key has an entry reads no absence. Its read would have to come
after the entry, which is never removed, or before the call. -/
theorem not_readAbsent_later {pre rest : List (Act K V E)} {s₀ s : State K V E}
    (run₀ : (system K V E).Run pre s₀) (run : (system K V E).Run (pre ++ rest) s) {t : TaskId}
    {key : K} (hkey : s₀.map key ≠ none) (hget : .get t key ∈ rest) :
    ¬ ReadAbsent (pre ++ rest) t key := by
  intro ⟨before, s₁, round, hbefore, run₁, hc, hnone⟩
  have hidle := idle_of_get run₀ run hget
  rcases List.prefix_or_prefix_of_prefix (List.prefix_append pre rest)
      ((List.prefix_append before _).trans hbefore) with ⟨more, rfl⟩ | ⟨more, rfl⟩
  · -- the read comes after the entry
    exact run₀.persists (Q := fun s => s.map key ≠ none)
      (fun _ _ _ hstep => (step_cases hstep).map_stays) run₁ hkey hnone
  · -- the read comes before the call
    refine run₁.persists (Q := fun s => s.calls t ≠ .idle)
      (fun _ _ _ hstep => (step_cases hstep).ne_idle) run₀ ?_ hidle
    rw [hc]
    exact nofun

/-- It is enough that all such answers were read. That none comes late follows. -/
theorem absenceTrue_of_read {as : List (Act K V E)} {s : State K V E}
    (run : (system K V E).Run as s)
    (h : ∀ t key, s.calls t = .getReturned key (.ok none) → ReadAbsent as t key) :
    AbsenceTrue as s where
  read := h
  later pre rest s₀ t key has run₀ hkey hget hret := by
    subst has
    exact not_readAbsent_later run₀ run hkey hget (h t key hret)

/-- **True absence, exactly with rounds left.** The `Ok(None)` answers of a run are true in every
state of it if and only if no `get` wakes from its ninth wait. The step that does so gives a false
answer at once: the call has read an entry in each of its rounds, and reads nothing in this one. -/
theorem absence_iff_rounds_left {as : List (Act K V E)} {s : State K V E}
    (run : (system K V E).Run as s) :
    (∀ pre t, pre <+: as → (system K V E).Run pre t → AbsenceTrue pre t) ↔
      (system K V E).RunUnder RoundsLeft as s := by
  refine System.Run.always_iff (fun as s hunder => absenceTrue_of_read hunder.run ?_) ?_ run
  · refine hunder.history (P := fun as s => ∀ t key, s.calls t = .getReturned key (.ok none) →
      ReadAbsent as t key) (fun t key h => by cases h) ?_
    intro as s a s' hunder ih hleft hstep t key ht
    rcases (step_cases hstep).returns_none hunder.run ht with hold | hread | hlast
    · exact (ih t key hold).mono (List.prefix_append _ _)
    · exact hread
    · exact (hlast hleft).elim
  · intro as s a s' hunder hstep htrue round hround
    obtain ⟨t, key, n, seen, rfl, hc⟩ := mem_wakingRound.mp hround
    by_contra hlast
    have hret : s'.calls t = .getReturned key (.ok none) := by
      have h : Step s (.advance t) s' := step_cases hstep
      cases h with
      | wake hc' =>
        cases hc.symm.trans hc'
        rw [setCall_calls_self, State.nextRound, if_neg (by omega)]
      | read hc' | park hc' | begin hc' | check hc' | upsert hc' | write hc' | notify hc' =>
        cases hc.symm.trans hc'
    -- no earlier step of the call read an absent entry, and this one reads nothing
    obtain ⟨pre, s₀, k, hpre, run₀, hread, hnone⟩ := htrue.read t key hret
    rcases List.prefix_concat_iff.mp hpre with heq | hpre
    · obtain rfl := (List.append_inj' heq rfl).1
      obtain rfl := run₀.eq hunder
      cases hc.symm.trans hread
    · have hold := returned_of_readAbsent hunder.run ⟨pre, s₀, k, hpre, run₀, hread, hnone⟩
      cases hc.symm.trans hold

/-- The `set` call `i` begins an update of key 5. -/
def startUpdate (i : TaskId) : List (Act Nat Nat Nat) :=
  [.set i 5, .advance i, .advance i, .advance i]

/-- The `get` call 0 reads the update of the call `i` and waits, the update ends with the value
`i`, and the `get` wakes. -/
def waitForUpdate (i : TaskId) : List (Act Nat Nat Nat) :=
  [.advance 0, .advance 0, .resolve i (.ok i), .advance i, .advance i, .advance 0]

/-- The `get` and its nine rounds, with the first update already begun. -/
def getDuringUpdates : List (Act Nat Nat Nat) :=
  .get 0 5 :: waitForUpdate 1 ++
    (List.range' 2 8).flatMap fun i => startUpdate i ++ waitForUpdate i

/-- **Nine updates.** The key has an entry before the `get` is made, all the updates succeed, and
the `get` answers that there is no entry. No update overlaps another: each begins when the one
before has ended. -/
theorem none_after_nine_updates :
    ∃ s, (system Nat Nat Nat).Run (startUpdate 1 ++ getDuringUpdates) s ∧
      ¬ AbsenceTrue (startUpdate 1 ++ getDuringUpdates) s := by
  let s₀ := ((system Nat Nat Nat).exec (startUpdate 1)).get (by decide)
  let s := ((system Nat Nat Nat).exec (startUpdate 1 ++ getDuringUpdates)).get
    (by decide +kernel)
  have hrun₀ : (system Nat Nat Nat).Run (startUpdate 1) s₀ := System.run_of_exec (by simp [s₀])
  refine ⟨s, System.run_of_exec (by simp [s]), fun htrue => ?_⟩
  have hentry : s₀.map 5 ≠ none := by decide
  have hget : .get 0 5 ∈ getDuringUpdates := List.mem_cons_self
  have hnone : s.gaveNone 0 5 = true := by decide +kernel
  exact htrue.later _ _ s₀ 0 5 rfl hrun₀ hentry hget (gaveNone_iff.mp hnone)

/-- A `get` of a key without an entry, and an update after it. -/
def getThenUpdate : List (Act Nat Nat Nat) :=
  [.get 0 5, .advance 0, .set 1 5, .advance 1, .advance 1, .advance 1]

theorem absence_true_getThenUpdate :
    ∃ s, (system Nat Nat Nat).Run getThenUpdate s ∧ s.calls 0 = .getReturned 5 (.ok none) ∧
      AbsenceTrue getThenUpdate s := by
  let s := (((system Nat Nat Nat).guarded fun s a => decide (RoundsLeft s a)).exec
    getThenUpdate).get (by decide)
  have hrun : (system Nat Nat Nat).RunUnder RoundsLeft getThenUpdate s := .of_decide (by simp [s])
  exact ⟨s, hrun.run, rfl,
    (absence_iff_rounds_left hrun.run).mpr hrun _ _ (List.prefix_refl _) hrun.run⟩

end UnifyAir.TokenStore
