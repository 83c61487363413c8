import UnifyAir.TokenStore.Steps

/-!
# UnifyAir — where the tokens of the `TokenStore` come from

Values travel from a caller's future through an `Arc` into the map and out to any number of
`get` calls, while other `set` calls replace the map entry, and both producers of a
`TokenEntry` use `new_unchecked`. The invariant ties every `Arc` that can still be reached
to the schedule that led to the state:

* **`EntryOk`** — an entry of the map points into the heap, and if it is `Ready(v)` then `v`
  is what a future passed to `set` on that key resolved to;
* **`CallOk`** — what each call holds: a `set` past its future holds an `Arc` with the result
  of its own future, and a returned call holds an entry that is `Ready`.

Both only talk about the past of the schedule and about heap cells that exist, so they
survive every step of the other calls (`CallOk.mono`, `EntryOk.mono`).
-/

namespace UnifyAir.TokenStore

open Concurrency

variable {K V E : Type}

/-- `v` is what the future of some `set` on `key` resolved to in the schedule `as`. -/
def Supplied (as : List (Act K V E)) (key : K) (v : V) : Prop :=
  ∃ o, Act.set o key ∈ as ∧ Act.resolve o (.ok v) ∈ as

/-- An entry of the map after the schedule `as`. -/
def EntryOk (as : List (Act K V E)) (arcs : List (TokenState V)) (key : K) (arc : ArcId) : Prop :=
  ∃ ts, arcs[arc]? = some ts ∧ ∀ v, ts.state = .ready v → Supplied as key v

/-- What call `t` may hold after the schedule `as`. -/
def CallOk (as : List (Act K V E)) (arcs : List (TokenState V)) (t : TaskId) :
    Call K V E → Prop
  | .setStart key | .setCheck key _ _ | .setUpsert key _ _ | .setRunning key _ _ =>
    Act.set t key ∈ as
  | .setWrite key _ arc res | .setNotify key _ arc res =>
    Act.set t key ∈ as ∧ ∃ id r, arcs[arc]? = some ⟨id, (State.outcome (E := E) r).1⟩ ∧
      res = (State.outcome r).2 ∧ Act.resolve t r ∈ as
  | .setReturned _ (.ok e) => ∃ v, e.get arcs = some v ∧ Act.resolve t (.ok v) ∈ as
  | .getReturned key (.ok (some e)) => ∃ v, e.get arcs = some v ∧ Supplied as key v
  | _ => True

/-- The invariant of a run: map and calls agree with the schedule. -/
structure Sourced (as : List (Act K V E)) (s : State K V E) : Prop where
  entries : ∀ key arc, s.map key = some arc → EntryOk as s.arcs key arc
  calls : ∀ t, CallOk as s.arcs t (s.calls t)

/-! ## The invariant survives a longer schedule and a larger heap

Nothing that the invariant says can be undone: it speaks of actions that are in the schedule, and of
heap cells that exist. So each step has to be looked at for the one call and the one entry it
writes. -/

/-- A cell of the heap is found again in every larger one. -/
theorem getElem?_of_grown {arcs arcs' : List (TokenState V)} (h : arcs <+: arcs') {arc : ArcId}
    {ts : TokenState V} (hts : arcs[arc]? = some ts) : arcs'[arc]? = some ts := by
  obtain ⟨hlt, hget⟩ := List.getElem?_eq_some_iff.mp hts
  rw [← hget]
  exact List.prefix_iff_getElem?.mp h arc hlt

theorem TokenEntry.get_of_grown {arcs arcs' : List (TokenState V)} (h : arcs <+: arcs')
    {e : TokenEntry} {v : V} (hv : e.get arcs = some v) : e.get arcs' = some v := by
  unfold TokenEntry.get at hv ⊢
  cases hts : arcs[e.arc]? with
  | none => simp [hts] at hv
  | some ts => rw [getElem?_of_grown h hts]; rw [hts] at hv; exact hv

/-- An entry that was made without a look at its state has a value if that state is `Ready`. -/
theorem TokenEntry.get_of_ready {arcs : List (TokenState V)} {arc : ArcId} {id : BitVec 32} {v : V}
    (h : arcs[arc]? = some ⟨id, .ready v⟩) : (TokenEntry.newUnchecked arc).get arcs = some v := by
  simp [TokenEntry.get, TokenEntry.newUnchecked, h]

section Mono

variable {as as' : List (Act K V E)} {arcs arcs' : List (TokenState V)}

/-- A value that was supplied stays so in a longer schedule. -/
theorem Supplied.mono (has : as ⊆ as') {key : K} {v : V} (h : Supplied as key v) :
    Supplied as' key v := by
  obtain ⟨o, hset, hres⟩ := h
  exact ⟨o, has hset, has hres⟩

/-- An entry of the map stays right while schedule and heap grow. -/
theorem EntryOk.mono (has : as ⊆ as') (harcs : arcs <+: arcs') {key : K} {arc : ArcId}
    (h : EntryOk as arcs key arc) : EntryOk as' arcs' key arc := by
  obtain ⟨ts, hts, hready⟩ := h
  exact ⟨ts, getElem?_of_grown harcs hts, fun v hv => (hready v hv).mono has⟩

/-- What a call may hold, it may hold later. Case by case, since each place has its own claim on
schedule and heap. -/
theorem CallOk.mono (has : as ⊆ as') (harcs : arcs <+: arcs') {t : TaskId} {c : Call K V E}
    (h : CallOk as arcs t c) : CallOk as' arcs' t c := by
  -- the actions grow and so do the entries; a call needs of them only what was there
  cases c with
  | setStart | setCheck | setUpsert | setRunning => exact has h
  | setWrite | setNotify =>
    obtain ⟨hset, id, r, hcell, hres, hact⟩ := h
    exact ⟨has hset, id, r, getElem?_of_grown harcs hcell, hres, has hact⟩
  | setReturned key res =>
    cases res with
    | error => trivial
    | ok e =>
      obtain ⟨v, hv, hact⟩ := h
      exact ⟨v, TokenEntry.get_of_grown harcs hv, has hact⟩
  | getReturned key res =>
    match res, h with
    | .error _, _ => trivial
    | .ok none, _ => trivial
    | .ok (some e), ⟨v, hv, hsup⟩ =>
      exact ⟨v, TokenEntry.get_of_grown harcs hv, hsup.mono has⟩
  | idle | getRead | getCloned | getParked | dropped => trivial

/-- One call moves, the others keep what they held. This closes the clause on calls for every step.
-/
theorem callOk_update (has : as ⊆ as') (harcs : arcs <+: arcs') {calls : TaskId → Call K V E}
    (h : ∀ t, CallOk as arcs t (calls t)) {t₀ : TaskId} {c : Call K V E}
    (hc : CallOk as' arcs' t₀ c) (t : TaskId) :
    CallOk as' arcs' t (Function.update calls t₀ c t) := by
  by_cases ht : t = t₀
  · subst ht; rw [Function.update_self]; exact hc
  · rw [Function.update_of_ne ht]; exact (h t).mono has harcs

end Mono

/-! ## Every step keeps the invariant

The value of an entry comes in with `resolve`, lies in the heap from then on, and is put into the
map by the `write` of the same call. -/

/-- A step that only moves one call: what is to be shown is that it may hold what it holds then. -/
theorem Sourced.setCall {as : List (Act K V E)} {s : State K V E} (h : Sourced as s)
    {a : Act K V E} {t : TaskId} {c : Call K V E} (hc : CallOk (as ++ [a]) s.arcs t c) :
    Sourced (as ++ [a]) (s.setCall t c) where
  entries key arc hkey :=
    (h.entries key arc hkey).mono (List.subset_append_left _ _) (List.prefix_refl _)
  calls := callOk_update (List.subset_append_left _ _) (List.prefix_refl _) h.calls hc

/-- What one round of `get` finds in the map is sourced. It is a `Ready` entry that the call
returns, and the map accounts for its value. -/
theorem Sourced.readEntry {as : List (Act K V E)} {s : State K V E} (h : Sourced as s)
    (t : TaskId) (key : K) (round : Nat) : CallOk as s.arcs t (s.readEntry key round) := by
  unfold State.readEntry State.entry
  cases hkey : s.map key with
  | none => trivial
  | some arc =>
    obtain ⟨⟨id, state⟩, hts, hready⟩ := h.entries key arc hkey
    simp only [hts, Option.bind_some, Option.map_some]
    cases state with
    | ready v => exact ⟨v, TokenEntry.get_of_ready hts, hready v rfl⟩
    | failed => trivial
    | updating n => trivial

/-- The result of a `set`'s own future is in the `Arc` it goes on with, at the end of the heap. -/
theorem resolveFuture_callOk {as : List (Act K V E)} {s : State K V E} {t : TaskId} {key : K}
    {n : NotifyId} {id : BitVec 32} {res : Except E V} (hset : Act.set t key ∈ as) :
    CallOk (as ++ [.resolve t res]) (s.arcs ++ [⟨id, (State.outcome res).1⟩]) t
      (.setWrite key n s.arcs.length (State.outcome res).2) := by
  refine ⟨List.mem_append_left _ hset, id, res, ?_, rfl, by simp⟩
  simp

/-- The end of a round holds nothing that has to be accounted for. -/
theorem nextRound_callOk (as : List (Act K V E)) (arcs : List (TokenState V)) (t : TaskId)
    (key : K) (round : Nat) : CallOk as arcs t (State.nextRound key round) := by
  unfold State.nextRound
  split <;> trivial

/-- A `set` past its check holds nothing yet but its key. -/
theorem checkEntry_callOk {as : List (Act K V E)} {s : State K V E} {t : TaskId} {key : K}
    (n : NotifyId) (id : BitVec 32) (hset : Act.set t key ∈ as) :
    CallOk as s.arcs t (s.checkEntry key n id) := by
  unfold State.checkEntry
  split
  · split
    · trivial
    · exact hset
  · exact hset

/-- The entry a `set` returns holds the result of its own future: the `Arc` has not been written
since, for nothing ever is. -/
theorem returned_callOk {as : List (Act K V E)} {arcs : List (TokenState V)} {t : TaskId} {key : K}
    {n : NotifyId} {arc : ArcId} {res : Except (StoreError E) Unit}
    (h : CallOk as arcs t (.setNotify key n arc res)) :
    CallOk as arcs t (.setReturned key (res.map fun _ => TokenEntry.newUnchecked arc)) := by
  obtain ⟨-, id, r, hcell, rfl, hact⟩ := h
  cases r with
  | ok v => exact ⟨v, TokenEntry.get_of_ready hcell, hact⟩
  | error err => trivial

variable [DecidableEq K]

/-- Replacing the entry of a key by the `Arc` of a finished `set` on that key. This is where a value
enters the map, and it is one that the future of this very call resolved to. -/
theorem Sourced.write {as : List (Act K V E)} {s : State K V E} (h : Sourced as s) {a : Act K V E}
    {t : TaskId} {key : K} {n : NotifyId} {arc : ArcId} {res : Except (StoreError E) Unit}
    (hc : s.calls t = .setWrite key n arc res) :
    Sourced (as ++ [a]) (s.write t key n arc res) := by
  have hsub : as ⊆ as ++ [a] := List.subset_append_left _ _
  have hown : CallOk as s.arcs t (.setWrite key n arc res) := hc ▸ h.calls t
  obtain ⟨hset, id, r, hcell, hres, hact⟩ := hown
  refine ⟨fun key' arc' hkey' => ?_, ?_⟩
  · -- the written entry holds the result of `t`'s future, the others are as before
    have hold : ∀ arc', s.map key' = some arc' → EntryOk (as ++ [a]) s.arcs key' arc' :=
      fun arc' h' => (h.entries key' arc' h').mono hsub (List.prefix_refl _)
    simp only [State.write] at hkey' ⊢
    split at hkey'
    · -- the key that is written, and the others
      rcases update_cases hkey' with ⟨rfl, harc⟩ | ⟨-, hmap⟩
      · cases harc
        refine ⟨_, hcell, fun v hv => ⟨t, hsub hset, hsub ?_⟩⟩
        cases r with
        | ok w => simp only [State.outcome, TokenStateInner.ready.injEq] at hv; exact hv ▸ hact
        | error err => simp [State.outcome] at hv
      · exact hold arc' hmap
    · exact hold arc' hkey'
  · exact callOk_update hsub (List.prefix_refl _) h.calls
      ⟨hsub hset, id, r, hcell, hres, hsub hact⟩

/-- Every step keeps the invariant. Only `upsert`, `resolve` and `write` touch map or heap; in the
first the new entry has no value. -/
theorem Sourced.step {as : List (Act K V E)} {s s' : State K V E} {a : Act K V E}
    (h : Sourced as s) (hstep : Step s a s') : Sourced (as ++ [a]) s' := by
  have hsub : as ⊆ as ++ [a] := List.subset_append_left _ _
  have hrefl : s.arcs <+: s.arcs := List.prefix_refl _
  -- what a call knows of its key it knows from its own `set`, or from the entry it has read
  cases hstep with
  | get hc => exact h.setCall trivial
  | set hc => exact h.setCall (List.mem_append_right _ (List.mem_singleton_self _))
  | @read t key round hc => exact h.setCall ((h.readEntry t key round).mono hsub hrefl)
  | park hc => exact h.setCall trivial
  | wake hc hn => exact h.setCall (nextRound_callOk _ _ _ _ _)
  | @begin t key hc =>
    have hset : Act.set t key ∈ as := by simpa [hc, CallOk] using h.calls t
    exact ⟨fun key' arc hkey => (h.entries key' arc hkey).mono hsub hrefl,
      callOk_update hsub hrefl h.calls (hsub hset)⟩
  | @check t key n id hc =>
    have hset : Act.set t key ∈ as := by simpa [hc, CallOk] using h.calls t
    exact h.setCall ((checkEntry_callOk n id hset).mono hsub hrefl)
  | @upsert t key n id hc =>
    have hset : Act.set t key ∈ as := by simpa [hc, CallOk] using h.calls t
    have hgrow : s.arcs <+: s.arcs ++ [⟨id, .updating n⟩] := List.prefix_append _ _
    refine ⟨fun key' arc hkey => ?_, callOk_update hsub hgrow h.calls (hsub hset)⟩
    rcases update_cases hkey with ⟨-, harc⟩ | ⟨-, hmap⟩
    · -- the new entry is `Updating`, so there is no value to account for
      cases harc
      exact ⟨⟨id, .updating n⟩, List.getElem?_concat_length, by nofun⟩
    · exact (h.entries key' arc hmap).mono hsub hgrow
  -- the result gets a cell of its own, and the call knows it by that
  | @resolve t key n id res hc =>
    have hset : Act.set t key ∈ as := by simpa [hc, CallOk] using h.calls t
    have hgrow : s.arcs <+: s.arcs ++ [⟨id, (State.outcome res).1⟩] := List.prefix_append _ _
    exact ⟨fun key' arc hkey => (h.entries key' arc hkey).mono hsub hgrow,
      callOk_update hsub hgrow h.calls (resolveFuture_callOk hset)⟩
  | write hc => exact h.write hc
  | @notify t key n arc res hc =>
    have hown : CallOk as s.arcs t (.setNotify key n arc res) := hc ▸ h.calls t
    exact ⟨fun key' arc' hkey => (h.entries key' arc' hkey).mono hsub hrefl,
      callOk_update hsub hrefl h.calls ((returned_callOk hown).mono hsub hrefl)⟩
  | drop hc => exact h.setCall trivial

/-- The invariant holds after every run, with whatever schedule led there. -/
theorem sourced_of_run {as : List (Act K V E)} {s : State K V E}
    (run : (system K V E).Run as s) : Sourced as s :=
  run.history ⟨by nofun, fun _ => trivial⟩
    fun _ _ _ _ _ h _ hstep => h.step (step_cases hstep)

/-! ## The heap never changes under a pointer

An `Arc` is never written again, so what was handed out keeps its value. -/

/-- A step adds to the heap at its end, or leaves it alone. -/
theorem Step.arcs_grow {s s' : State K V E} {a : Act K V E} (h : Step s a s') :
    s.arcs <+: s'.arcs := by
  cases h with
  | upsert | resolve => exact List.prefix_append _ _
  | get | set | read | park | wake | begin | check | write | notify | drop =>
    exact List.prefix_refl _

/-- So does any continuation of a run. Induction on the continuation, from its end. -/
theorem arcs_grow_of_run {as bs : List (Act K V E)} {s s' : State K V E}
    (run : (system K V E).Run as s) (run' : (system K V E).Run (as ++ bs) s') :
    s.arcs <+: s'.arcs := by
  induction bs using List.reverseRecOn generalizing s' with
  | nil =>
    rw [List.append_nil] at run'
    have heq : s = s' := run.eq run'
    exact heq ▸ List.prefix_refl _
  | append_singleton bs b ih =>
    rw [← List.append_assoc] at run'
    obtain ⟨t, hrun, -, hstep⟩ := run'.unsnoc
    exact (ih hrun).trans (step_cases hstep).arcs_grow

/-! ## Token provenance

What a `get` returns it has read from the map, so the invariant on the map, in the state before the
step, is enough. -/

/-- A `get` that returns an entry returns it from a map read in the state before the step. So what
it returns is accounted for by the map as it was then. -/
theorem Step.getReturned_of_ne {s s' : State K V E} {a : Act K V E} (h : Step s a s') {t : TaskId}
    {key : K} {e : TokenEntry} (hne : s.calls t ≠ s'.calls t)
    (hret : s'.calls t = .getReturned key (.ok (some e))) :
    s'.arcs = s.arcs ∧ ∃ round, s.readEntry key round = .getReturned key (.ok (some e)) := by
  -- the call that moved is `t`, and only a read ends in this form
  have moved : ∀ (t' : TaskId) {c : Call K V E}, s'.calls = Function.update s.calls t' c →
      c = .getReturned key (.ok (some e)) := by
    intro t' c hcalls
    rw [hcalls] at hret hne
    rcases update_cases hret with ⟨-, hc⟩ | ⟨ht, -⟩
    · exact hc
    · exact absurd (Function.update_of_ne ht c s.calls).symm hne
  -- a wakeup and a check end a call with other things
  cases h with
  | @read t' key' round hc =>
    have hread : s.readEntry key' round = _ := moved t' rfl
    have hkey : key' = key := by
      unfold State.readEntry at hread
      split at hread
      · cases hread
      · split at hread <;> cases hread
        rfl
    exact ⟨rfl, round, hkey ▸ hread⟩
  | @wake t' key' round n seen hc hn =>
    have hnext := moved t' rfl
    unfold State.nextRound at hnext
    split at hnext <;> cases hnext
  | @check t' key' n id hc =>
    have hcheck := moved t' rfl
    unfold State.checkEntry at hcheck
    split at hcheck
    · split at hcheck <;> cases hcheck
    · cases hcheck
  | get | set | park | begin | upsert | resolve | write | notify | drop => cases moved _ rfl

/-- **Token provenance.** In every run: an entry `get` returns on `key` holds a value that a
future passed to a `set` on `key` had resolved to before; an entry `set` returns holds what
its own future resolved to; what an entry holds never changes in any continuation of the
run; and no entry handed out leads to the `unreachable!()` of `TokenEntry::get`. -/
theorem token_provenance {as : List (Act K V E)} {s : State K V E}
    (run : (system K V E).Run as s) :
    (∀ a s' t key e, step s a = some s' → s.calls t ≠ s'.calls t →
      s'.calls t = .getReturned key (.ok (some e)) →
      ∃ v, e.get s'.arcs = some v ∧ Supplied as key v) ∧
    (∀ t key e, s.calls t = .setReturned key (.ok e) →
      ∃ v, e.get s.arcs = some v ∧ Act.resolve t (.ok v) ∈ as) ∧
    (∀ bs s' (e : TokenEntry) v, (system K V E).Run (as ++ bs) s' → e.get s.arcs = some v →
      e.get s'.arcs = some v) ∧
    (∀ t key e, s.calls t = .getReturned key (.ok (some e)) ∨ s.calls t = .setReturned key (.ok e) →
      e.get s.arcs ≠ none) := by
  have hsrc := sourced_of_run run
  -- at the step that returns, afterwards, and for the entry in any later state
  refine ⟨?_, ?_, ?_, ?_⟩
  · intro a s' t key e hstep hne hret
    obtain ⟨harcs, round, hread⟩ := (step_cases hstep).getReturned_of_ne hne hret
    have hok := hsrc.readEntry t key round
    rw [hread] at hok
    rw [harcs]
    exact hok
  · intro t key e hret
    have hok := hsrc.calls t
    rw [hret] at hok
    exact hok
  · intro bs s' e v run' hv
    exact TokenEntry.get_of_grown (arcs_grow_of_run run run') hv
  · intro t key e hret
    have hok := hsrc.calls t
    rcases hret with hret | hret <;> rw [hret] at hok <;> obtain ⟨v, hv, -⟩ := hok <;> simp [hv]

/-- One `set` on key 7 that resolves to 123, then a `get` on it. -/
def setThenGet : List (Act Nat Nat Unit) :=
  [.set 0 7, .advance 0, .advance 0, .advance 0, .resolve 0 (.ok 123), .advance 0, .advance 0,
    .get 1 7, .advance 1]

theorem token_provenance_setThenGet :
    ∃ s, (system Nat Nat Unit).Run setThenGet s ∧ s.calls 0 = .setReturned 7 (.ok ⟨1⟩) ∧
      s.calls 1 = .getReturned 7 (.ok (some ⟨1⟩)) ∧
      ∃ v, (⟨1⟩ : TokenEntry).get s.arcs = some v ∧ Act.resolve 0 (.ok v) ∈ setThenGet := by
  let s := ((system Nat Nat Unit).exec setThenGet).get (by decide)
  have hrun : (system Nat Nat Unit).Run setThenGet s := System.run_of_exec (by simp [s])
  exact ⟨s, hrun, rfl, rfl, (token_provenance hrun).2.1 0 7 ⟨1⟩ rfl⟩

end UnifyAir.TokenStore
