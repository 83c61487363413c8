import UnifyAir.Nrf.Tokens
import UnifyAir.TokenStore.Exclusion
import UnifyAir.TokenStore.Failures

/-!
# UnifyAir — when `get_token` fails

`get_token` returns the errors of `get` and of `set` as they are. `get` waits for an update, and
`set` puts its result over a `Failed` entry, so a caller could share another one's request and a
failed request could be made again. But of two first calls the second one's `set` finds the first
one's update and fails at once, and after a request has failed every `get` fails, so `set` is not
called again.

* **`fails_only_with_nrf`** — as long as no call reads a `Failed` entry from before it began, no
  call's `set` finds an update in progress, and every request that is made is sent, a call fails
  only when a request for its services that was sent and in flight during the call did.
* **`second_caller_fails`** — two concurrent first calls; the NRF grants the token.
* **`fails_without_request`** — a call after one whose request failed.
-/

namespace UnifyAir.Nrf

open Concurrency
open TokenStore (TaskId TokenEntry StoreError)

variable {N S R : Type}

namespace State

/-- The call has begun and has not ended. -/
def UnderWay (s : State N S R) (t : CallId) : Prop := ((s.calls t).inner t).isSome

/-- The `authenticaion_request` of `o` is in flight. -/
def InFlight (s : State N S R) (o : CallId) (auth : Authentication N S) : Prop :=
  s.calls o = .setting auth ∧ s.nfTokenStore.InFlight (setCall o) auth.targetServiceName

/-- The `get` of `t` is about to read a `Failed` entry that was made before `t` began. -/
def ReadsOldFailure (s : State N S R) (t : CallId) : Prop :=
  ∃ key round arc id, s.nfTokenStore.calls (getCall t) = .getRead key round ∧
    s.nfTokenStore.entry key = some (arc, ⟨id, .failed⟩) ∧ arc < s.since t

/-- The `set` of `t` is about to find an update in progress. -/
def FindsUpdate (s : State N S R) (t : CallId) : Prop :=
  ∃ key n id, s.nfTokenStore.calls (setCall t) = .setCheck key n id ∧ s.nfTokenStore.Updating key

end State

/-- The `authenticaion_request` of a call ends before anything is sent to the NRF. -/
def EndsUnsent (oasbi : Oasbi S) (s : State N S R) (t : CallId)
    (nrf : AccessTokenReq N → Exchange (AccessTokenRequestResponse R)) : Prop :=
  ∃ auth, s.calls t = .setting auth ∧ sends oasbi auth nrf = false

/-- The condition on a step: the `get` of a call does not read an old `Failed` entry, its `set` does
not find an update in progress, and its request is sent. -/
structure Unhindered (oasbi : Oasbi S) (s : State N S R) (a : Act N S R) : Prop where
  read : ∀ t, a = .advance t → ¬ s.ReadsOldFailure t
  check : ∀ t, a = .advance t → ¬ s.FindsUpdate t
  sent : ∀ t nrf, a = .resolve t nrf → ¬ EndsUnsent oasbi s t nrf

/-- A test for the condition. -/
def unhindered (oasbi : Oasbi S) (s : State N S R) : Act N S R → Bool
  | .advance t =>
    (match s.nfTokenStore.calls (getCall t) with
      | .getRead key _ => match s.nfTokenStore.entry key with
        | some (arc, ⟨_, .failed⟩) => s.since t ≤ arc
        | _ => true
      | _ => true) &&
    match s.nfTokenStore.calls (setCall t) with
    | .setCheck key _ _ => match s.nfTokenStore.entry key with
      | some (_, ts) => !ts.isUpdating
      | none => true
    | _ => true
  | .resolve t nrf => match s.calls t with
    | .setting auth => sends oasbi auth nrf
    | _ => true
  | _ => true

/-- The test decides the condition. It looks at the entry that a `get` reads, at the key that a
`set` checks and at what a request would send. -/
theorem unhindered_of_test {oasbi : Oasbi S} {s : State N S R} {a : Act N S R}
    (h : unhindered oasbi s a = true) : Unhindered oasbi s a where
  read t ha := by
    subst ha
    intro ⟨key, round, arc, id, hc, hentry, hlt⟩
    obtain ⟨hread, -⟩ := (Bool.and_eq_true _ _).mp h
    simp only [hc, hentry, decide_eq_true_eq] at hread
    exact absurd hlt (Nat.not_lt.mpr hread)
  check t ha := by
    subst ha
    intro ⟨key, n, id, hc, arc, ts, hentry, hupd⟩
    obtain ⟨-, hcheck⟩ := (Bool.and_eq_true _ _).mp h
    simp [hc, hentry, hupd] at hcheck
  sent t nrf ha := by
    subst ha
    intro ⟨auth, hc, hunsent⟩
    simp only [unhindered, hc, hunsent] at h
    cases h

variable [DecidableEq S] (oasbi : Oasbi S) (source : N)

/-- A request for `services` that is in flight in `s₀`, and in the schedule `as` is sent to the NRF
and fails. -/
def FailedRequest (as : List (Act N S R)) (s₀ : State N S R) (services : List S) : Prop :=
  ∃ o auth nrf err, s₀.InFlight o auth ∧ auth.targetServiceName = services ∧
    Act.resolve o nrf ∈ as ∧ sends oasbi auth nrf = true ∧
    authenticaionRequest oasbi auth nrf = .error err

/-- A request for `services` that was in flight during the call `t` failed. -/
def NrfFailed (as : List (Act N S R)) (t : CallId) (services : List S) : Prop :=
  ∃ pre s₀, pre <+: as ∧ (tokenSystem R oasbi source).Run pre s₀ ∧ s₀.UnderWay t ∧
    FailedRequest oasbi as s₀ services

variable {oasbi source}

omit [DecidableEq S] in
/-- A request that failed in a schedule failed in every longer one. -/
theorem FailedRequest.mono {as as' : List (Act N S R)} (has : as ⊆ as') {s₀ : State N S R}
    {services : List S} (h : FailedRequest oasbi as s₀ services) :
    FailedRequest oasbi as' s₀ services := by
  obtain ⟨o, auth, nrf, err, hflight, hservices, hmem, hsent, herr⟩ := h
  exact ⟨o, auth, nrf, err, hflight, hservices, has hmem, hsent, herr⟩

/-- The same for the prefix in which the caller was under way. -/
theorem NrfFailed.mono {as as' : List (Act N S R)} (has : as <+: as') {t : CallId}
    {services : List S} (h : NrfFailed oasbi source as t services) :
    NrfFailed oasbi source as' t services := by
  obtain ⟨pre, s₀, hpre, hrun, hway, hfailed⟩ := h
  exact ⟨pre, s₀, hpre.trans has, hrun, hway, hfailed.mono has.subset⟩

/-! ## Failed entries and who made them

A `get` fails when it reads a `Failed` entry. So every such entry, and every result that will become
one, is traced back to a request that was sent and failed. Whether the reader was under way by then
is seen from the index of the entry's `Arc`: calls remember how many there were when they began. -/

omit [DecidableEq S] in
/-- A call moves to where it is under way only from where it was. Other calls are not touched by the
step. -/
theorem underWay_of_setToken {s s' : State N S R} {t t' : CallId} {c : GetToken N S}
    (hcalls : s'.calls = Function.update s.calls t' c) (hc : (c.inner t').isSome → s.UnderWay t')
    (h : s'.UnderWay t) : s.UnderWay t := by
  unfold State.UnderWay at h
  rw [hcalls] at h
  rcases update_cases (rfl : Function.update s.calls t' c t = _) with ⟨rfl, hnew⟩ | ⟨-, hold⟩
  · rw [← hnew] at h
    exact hc h
  · rw [← hold] at h
    exact h

/-- A call that is under way after a step was so before, or has just begun. In the second case it
remembers the present size of the heap. -/
theorem Step.underWay {s s' : State N S R} {a : Act N S R} (h : Step oasbi source s a s')
    {t : CallId} (ht : s'.UnderWay t) :
    (s.UnderWay t ∧ s'.since t = s.since t) ∨ s'.since t = s.nfTokenStore.arcs.length := by
  -- a call is under way since it began, and only its own steps end it
  cases h with
  | @getToken t' target services store hc hstore =>
    rcases update_cases (rfl : Function.update s.since t' s.nfTokenStore.arcs.length t = _) with
      ⟨-, hnew⟩ | ⟨hne, hold⟩
    · exact Or.inr hnew.symm
    · refine Or.inl ⟨?_, hold.symm⟩
      have hcalls : (s.begin t' target services store).calls t = s.calls t :=
        Function.update_of_ne hne ..
      unfold State.UnderWay at ht
      rw [hcalls] at ht
      exact ht
  | advance | resolve | store => exact Or.inl ⟨ht, rfl⟩
  | request hc =>
    refine Or.inl ⟨underWay_of_setToken rfl (fun _ => ?_) ht, rfl⟩
    rw [State.UnderWay, hc]
    rfl
  | found | readFailed | answered | drop =>
    refine Or.inl ⟨underWay_of_setToken rfl ?_ ht, rfl⟩
    intro hnone
    cases hnone

/-- A request for `services` that failed, and the calls that began before the `Arc` of its result
was made were under way then. -/
def Blamed (oasbi : Oasbi S) (source : N) (as : List (Act N S R)) (s : State N S R)
    (services : List S) (arc : TokenStore.ArcId) : Prop :=
  ∃ pre s₀, pre <+: as ∧ (tokenSystem R oasbi source).Run pre s₀ ∧
    FailedRequest oasbi as s₀ services ∧ ∀ t, s.UnderWay t → s.since t ≤ arc → s₀.UnderWay t

/-- A step keeps the blame. Only a call that begins with the step is new among those under way, and
it begins after the `Arc` was made. -/
theorem Blamed.step {as : List (Act N S R)} {s s' : State N S R} {a : Act N S R}
    {services : List S} {arc : TokenStore.ArcId} (h : Blamed oasbi source as s services arc)
    (hlt : arc < s.nfTokenStore.arcs.length) (hstep : Step oasbi source s a s') :
    Blamed oasbi source (as ++ [a]) s' services arc := by
  obtain ⟨pre, s₀, hpre, hrun, hfailed, hway⟩ := h
  refine ⟨pre, s₀, hpre.trans (List.prefix_append _ _), hrun,
    hfailed.mono (List.subset_append_left _ _), fun t ht hsince => ?_⟩
  rcases hstep.underWay ht with ⟨hold, heq⟩ | heq
  · exact hway t hold (heq ▸ hsince)
  · -- a call that has just begun began after the `Arc` was made
    rw [heq] at hsince
    exact absurd hlt (Nat.not_lt.mpr hsince)

/-- Every `Failed` result that is or will be the entry of a key is that of a request. -/
def FailuresBlamed (oasbi : Oasbi S) (source : N) (as : List (Act N S R)) (s : State N S R) :
    Prop :=
  ∀ services arc id, s.nfTokenStore.Holds services arc →
    s.nfTokenStore.arcs[arc]? = some ⟨id, .failed⟩ → Blamed oasbi source as s services arc

omit [DecidableEq S] in
/-- A future's result is `Failed` only when the request is an error. -/
theorem map_eq_error {auth : Authentication N S}
    {res : Except NrfAuthorizationError R} (h : (TokenStore.State.outcome (res.map fun rsp =>
      (⟨rsp, auth⟩ : Token N S R))).1 = .failed) : ∃ err, res = .error err := by
  cases res with
  | ok rsp => cases h
  | error err => exact ⟨err, rfl⟩

/-- Every step keeps every `Failed` result traced. A new one comes about only where a future
resolves, and there the condition says that its request was sent. -/
theorem FailuresBlamed.step {as : List (Act N S R)} {s s' : State N S R} {a : Act N S R}
    (run : (tokenSystem R oasbi source).Run as s) (h : FailuresBlamed oasbi source as s)
    (hcond : Unhindered oasbi s a) (hstep : Step oasbi source s a s') :
    FailuresBlamed oasbi source (as ++ [a]) s' := by
  intro services arc id hholds hcell
  obtain ⟨bs, hsrc⟩ := sourced_of_tokens run
  -- what was held is in the heap already
  have hold : s.nfTokenStore.Holds services arc → s.nfTokenStore.arcs <+: s'.nfTokenStore.arcs →
      Blamed oasbi source (as ++ [a]) s' services arc := by
    intro hholds hgrow
    obtain ⟨ts, hts⟩ := hsrc.holds hholds
    obtain ⟨hlt, -⟩ := List.getElem?_eq_some_iff.mp hts
    have hcell' : s.nfTokenStore.arcs[arc]? = some ⟨id, .failed⟩ := by
      rw [hts, ← TokenStore.getElem?_of_grown hgrow hts, hcell]
    exact (h services arc id hholds hcell').step hlt hstep
  -- the store does not move, or does one step
  rcases hstep.store_cases with heq | ⟨b, hb, hresolve⟩
  · rw [heq] at hholds
    exact hold hholds (heq ▸ List.prefix_refl _)
  · have hb := TokenStore.step_cases hb
    -- what the map holds was there, or is the result of an update
    rcases hb.holds hholds with hheld | ⟨-, ⟨id', n, hupd⟩ | ⟨i, n, id', res, hact, hc, hres⟩⟩
    · exact hold hheld hb.arcs_grow
    · cases hupd.symm.trans hcell
    · -- the result of a request that fails in this step
      obtain ⟨o, auth, nrf, rfl, rfl, hset, rfl⟩ := hresolve i res hact
      obtain ⟨err, herr⟩ := map_eq_error
        (congrArg TokenStore.TokenState.state (Option.some.inj (hres.symm.trans hcell)))
      have hop := ((keyed_of_run run).of_setting hset).2
      rw [hc] at hop
      obtain rfl : services = auth.targetServiceName := congrArg Prod.snd (Option.some.inj hop)
      have hsent : sends oasbi auth nrf = true :=
        Bool.eq_true_of_not_eq_false fun hunsent => hcond.sent o nrf rfl ⟨auth, hset, hunsent⟩
      refine ⟨as, s, List.prefix_append _ _, run, ⟨o, auth, nrf, err, ⟨hset, n, id', hc⟩, rfl,
        by simp, hsent, herr⟩, fun t ht _ => ?_⟩
      cases hstep with
      | resolve => exact ht

/-- By induction on the run, starting from no entries at all. -/
theorem failuresBlamed_of_run {as : List (Act N S R)} {s : State N S R}
    (run : (tokenSystem R oasbi source).RunUnder (Unhindered oasbi) as s) :
    FailuresBlamed oasbi source as s := by
  refine run.history (P := FailuresBlamed oasbi source) ?_ ?_
  · intro services arc id hholds hcell
    cases hcell
  · exact fun as s a s' run h hcond hstep => h.step run.run hcond (step_cases hstep)

/-! ## Errors and their requests

The other half: an error in the hands of a call has its request. A `get` has it from a `Failed`
entry, a `set` from its own future. The two remaining sources of an error, an old entry and an
update in progress, are what the condition excludes. -/

/-- An error that the call `t` has returned, or that its `get` or `set` has to return, is that of
a request. -/
def ExcusedAt (oasbi : Oasbi S) (source : N) (as : List (Act N S R)) (t : CallId)
    (get set : StoreCall N S R) : GetToken N S → Prop
  | .getting _ services => get.Failing → NrfFailed oasbi source as t services
  | .setting auth => set.Failing → NrfFailed oasbi source as t auth.targetServiceName
  | .returned _ services (.error _) => NrfFailed oasbi source as t services
  | _ => True

def Excused (oasbi : Oasbi S) (source : N) (as : List (Act N S R)) (s : State N S R) : Prop :=
  ∀ t, ExcusedAt oasbi source as t (s.nfTokenStore.calls (getCall t))
    (s.nfTokenStore.calls (setCall t)) (s.calls t)

theorem ExcusedAt.mono {as as' : List (Act N S R)} (has : as <+: as') {t : CallId}
    {get set : StoreCall N S R} {c : GetToken N S} (h : ExcusedAt oasbi source as t get set c) :
    ExcusedAt oasbi source as' t get set c := by
  match c, h with
  | .getting .., h => exact fun hf => (h hf).mono has
  | .setting _, h => exact fun hf => (h hf).mono has
  | .returned _ _ (.error _), h => exact NrfFailed.mono has h
  | .idle, _ | .returned _ _ (.ok _), _ | .dropped, _ => trivial

/-- A `get` that reads a `Failed` entry from after its caller began. The entry's request was in
flight during the call, by the index of the `Arc`. -/
theorem nrfFailed_of_read {as : List (Act N S R)} {s : State N S R}
    (run : (tokenSystem R oasbi source).RunUnder (Unhindered oasbi) as s) {t : CallId} {target : N}
    {services : List S} (hc : s.calls t = .getting target services) {arc : TokenStore.ArcId}
    {id : BitVec 32} (hentry : s.nfTokenStore.entry services = some (arc, ⟨id, .failed⟩))
    (hsince : s.since t ≤ arc) :
    NrfFailed oasbi source as t services := by
  obtain ⟨hmap, hcell⟩ := TokenStore.entry_eq_some.mp hentry
  obtain ⟨pre, s₀, hpre, hrun, hfailed, hway⟩ :=
    failuresBlamed_of_run run services arc id (Or.inl hmap) hcell
  refine ⟨pre, s₀, hpre, hrun, hway t ?_ hsince, hfailed⟩
  rw [State.UnderWay, hc]
  rfl

/-- A `set` whose own request fails: it is in flight in the state before the step, and its caller is
under way. -/
theorem nrfFailed_of_resolve {as : List (Act N S R)} {s : State N S R}
    (run : (tokenSystem R oasbi source).Run as s) {t : CallId} {auth : Authentication N S}
    (hc : s.calls t = .setting auth)
    {nrf : AccessTokenReq N → Exchange (AccessTokenRequestResponse R)}
    {err : NrfAuthorizationError} (hsent : sends oasbi auth nrf = true)
    (herr : authenticaionRequest oasbi auth nrf = .error err)
    (hflight : s.nfTokenStore.InFlight (setCall t) auth.targetServiceName) :
    NrfFailed oasbi source (as ++ [.resolve t nrf]) t auth.targetServiceName := by
  refine ⟨as, s, List.prefix_append _ _, run, ?_, t, auth, nrf, err, ⟨hc, hflight⟩, rfl, by simp,
    hsent, herr⟩
  rw [State.UnderWay, hc]
  rfl

section Advance

variable {as : List (Act N S R)} {s : State N S R} {t : CallId} {store : Store N S R}

/-- The `get` of a call has an error only from a `Failed` entry that its caller waited for. The
entry is younger than the call, so the request it comes from failed while the call was under way. -/
theorem nrfFailed_of_get (run : (tokenSystem R oasbi source).RunUnder (Unhindered oasbi) as s)
    (hcond : ¬ s.ReadsOldFailure t) {target : N} {services : List S}
    (hc : s.calls t = .getting target services)
    (hold : (s.nfTokenStore.calls (getCall t)).Failing → NrfFailed oasbi source as t services)
    (hstore : TokenStore.Step s.nfTokenStore (.advance (getCall t)) store)
    (hf : (store.calls (getCall t)).Failing) : NrfFailed oasbi source as t services := by
  have hop := ((keyed_of_run run.run).of_getting hc).1
  -- it was about to fail before, or fails now: by what it has read, or by the check
  rcases hstore.failing hf with hfailing | hfails
  · exact hold hfailing
  · cases hfails with
    | @read key round arc id hread hentry =>
      rw [hread] at hop
      cases hop
      have hsince : s.since t ≤ arc := Nat.not_lt.mp fun hlt =>
        hcond ⟨services, round, arc, id, hread, hentry, hlt⟩
      exact nrfFailed_of_read run hc hentry hsince
    | check hcheck => rw [hcheck] at hop; cases hop

/-- The `set` of a call gets an error only when its future resolves; on the way there it could only
have found an update. -/
theorem nrfFailed_of_set (run : (tokenSystem R oasbi source).Run as s) (hcond : ¬ s.FindsUpdate t)
    {auth : Authentication N S} (hc : s.calls t = .setting auth)
    (hold : (s.nfTokenStore.calls (setCall t)).Failing →
      NrfFailed oasbi source as t auth.targetServiceName)
    (hstore : TokenStore.Step s.nfTokenStore (.advance (setCall t)) store)
    (hf : (store.calls (setCall t)).Failing) :
    NrfFailed oasbi source as t auth.targetServiceName := by
  have hop := ((keyed_of_run run).of_setting hc).2
  rcases hstore.failing hf with hfailing | hfails
  · exact hold hfailing
  · cases hfails with
    | read hread => rw [hread] at hop; cases hop
    | @check key n id hcheck hupd => exact absurd ⟨key, n, id, hcheck, hupd⟩ hcond

end Advance

/-- Every step that meets the condition keeps every error excused. The cases are the steps of the
client; within them, `get` and `set` move by one step of the store. -/
theorem Excused.step {as : List (Act N S R)} {s s' : State N S R} {a : Act N S R}
    (run : (tokenSystem R oasbi source).RunUnder (Unhindered oasbi) as s)
    (h : Excused oasbi source as s) (hcond : Unhindered oasbi s a) (hstep : Step oasbi source s a s') :
    Excused oasbi source (as ++ [a]) s' := by
  have hgrow : as <+: as ++ [a] := List.prefix_append _ _
  have hext : Excused oasbi source (as ++ [a]) s := fun t => (h t).mono hgrow
  -- a call that goes on to an error has come to know of a failure, and what is known stays
  cases hstep with
  | @getToken t target services store hc hstore =>
    cases TokenStore.step_cases hstore with
    | get =>
      refine forall_move hext (fun i hi _ => Function.update_of_ne hi ..) fun hf => ?_
      cases (TokenStore.failing_of_setCall hf : TokenStore.Call.Failing (.getRead services 1))
  | @advance t i store hi hstore =>
    have hstore := TokenStore.step_cases hstore
    have hcall := h t
    rcases inner_cases hi with ⟨target, services, hc, rfl⟩ | ⟨auth, hc, rfl⟩
    · rw [hc] at hcall
      exact forall_stay hext (fun j hj _ => hstore.calls_other hj) hc fun hf =>
        (nrfFailed_of_get run (hcond.read t rfl) hc hcall hstore hf).mono hgrow
    · rw [hc] at hcall
      exact forall_stay hext (fun j _ hj => hstore.calls_other hj) hc fun hf =>
        (nrfFailed_of_set run.run (hcond.check t rfl) hc hcall hstore hf).mono hgrow
  -- the answer of the NRF, or the failure to make a request of it
  | @resolve t nrf auth store hc hstore =>
    have hstore := TokenStore.step_cases hstore
    have hcall := hext t
    rw [hc] at hcall
    refine forall_stay hext (fun j _ hj => hstore.calls_other hj) hc fun hf => ?_
    rcases hstore.failing hf with hold | hfails
    · exact hcall hold
    · have hop := ((keyed_of_run run.run).of_setting hc).2
      have hsent : sends oasbi auth nrf = true :=
        Bool.eq_true_of_not_eq_false fun hunsent => hcond.sent t nrf rfl ⟨auth, hc, hunsent⟩
      cases hreq : authenticaionRequest oasbi auth nrf with
      | ok rsp => rw [hreq] at hfails; cases hfails
      | error err =>
        rw [hreq] at hfails
        cases hfails with
        | @resolve key n id err hrunning =>
          rw [hrunning] at hop
          cases hop
          exact nrfFailed_of_resolve run.run hc hsent hreq ⟨n, id, hrunning⟩
  | found => exact forall_move hext (fun _ _ _ => rfl) trivial
  | @request t target services key store hc hret hstore =>
    cases TokenStore.step_cases hstore with
    | set =>
      refine forall_move hext (fun i _ hi => Function.update_of_ne hi ..) fun hf => ?_
      cases (TokenStore.failing_of_setCall hf : TokenStore.Call.Failing (.setStart services))
  | @readFailed t target services key err hc hret =>
    have hcall := hext t
    rw [hc] at hcall
    exact forall_move hext (fun _ _ _ => rfl) (hcall (by rw [hret]; trivial))
  | @answered t auth key res hc hret =>
    have hcall := hext t
    rw [hc] at hcall
    refine forall_move hext (fun _ _ _ => rfl) ?_
    cases res with
    | ok entry => trivial
    | error err => exact hcall (by rw [hret]; trivial)
  -- a call that is dropped returns nothing
  | @drop t i store hi hstore =>
    refine forall_move hext (fun j hget hset => (TokenStore.step_cases hstore).calls_other ?_) trivial
    rcases inner_cases hi with ⟨_, _, _, rfl⟩ | ⟨_, _, rfl⟩
    · exact hget
    · exact hset
  | store => exact hext

theorem excused_of_run {as : List (Act N S R)} {s : State N S R}
    (run : (tokenSystem R oasbi source).RunUnder (Unhindered oasbi) as s) :
    Excused oasbi source as s := by
  refine run.history (P := Excused oasbi source) ?_ ?_
  · intro t
    trivial
  · exact fun _ _ _ _ run h hcond hstep => h.step run hcond (step_cases hstep)

/-! ## When `get_token` fails

The condition is exact in the following sense: a step that does not meet it ends its call with an
error, by the call's own next steps, whatever else is going on. -/

section Hindered

variable {s s' : State N S R} {t : CallId}

/-- The steps `bs` lead from `s` to where the call `t` has returned an error. -/
def State.Errs (oasbi : Oasbi S) (source : N) (s : State N S R) (t : CallId)
    (bs : List (Act N S R)) : Prop :=
  ∃ s' target services err, bs.foldlM (step oasbi source) s = some s' ∧
    s'.calls t = .returned target services (.error err)

/-- The error that `get` or `set` returns is that of its caller, in the next step of it. `get_token`
has a `?` behind both. -/
theorem errs_of_returned
    (hret : (∃ target services key err, s.calls t = .getting target services ∧
        s.nfTokenStore.calls (getCall t) = .getReturned key (.error err)) ∨
      ∃ auth key err, s.calls t = .setting auth ∧
        s.nfTokenStore.calls (setCall t) = .setReturned key (.error err)) :
    s.Errs oasbi source t [.resume t] := by
  rcases hret with ⟨target, services, key, err, hc, hget⟩ | ⟨auth, key, err, hc, hset⟩
  · refine ⟨s.setToken t (.returned target services (.error err)), target, services, err, ?_,
      Function.update_self ..⟩
    simp [step, State.resume, hc, hget]
  · refine ⟨s.setToken t (.returned auth.targetNfType auth.targetServiceName (.error err)),
      auth.targetNfType, auth.targetServiceName, err, ?_, Function.update_self ..⟩
    simp [step, State.resume, hc, hset]

/-- A `get` that reads an old `Failed` entry returns at once, and its caller with it. -/
theorem errs_of_readsOldFailure (hkeyed : Keyed s) (hread : s.ReadsOldFailure t)
    (hstep : step oasbi source s (.advance t) = some s') :
    s'.Errs oasbi source t [.resume t] := by
  obtain ⟨key, round, arc, id, hget, hentry, -⟩ := hread
  cases (step_cases hstep : Step oasbi source s (.advance t) s') with
  | @advance _ i store hi hstore =>
    rcases inner_cases hi with ⟨target, services, hc, rfl⟩ | ⟨auth, hc, rfl⟩
    · exact errs_of_returned
        (.inl ⟨target, services, key, _, hc, TokenStore.read_fails hget hentry hstore⟩)
    · -- the `get` of a call that awaits its `set` has returned
      obtain ⟨key', hret⟩ := (hkeyed.of_setting hc).1
      rw [hret] at hget
      cases hget

/-- A `set` that finds an update in progress returns at once, and its caller with it. -/
theorem errs_of_findsUpdate (hkeyed : Keyed s) (hcheck : s.FindsUpdate t)
    (hstep : step oasbi source s (.advance t) = some s') :
    s'.Errs oasbi source t [.resume t] := by
  obtain ⟨key, n, id, hset, hupd⟩ := hcheck
  cases (step_cases hstep : Step oasbi source s (.advance t) s') with
  | @advance _ i store hi hstore =>
    rcases inner_cases hi with ⟨target, services, hc, rfl⟩ | ⟨auth, hc, rfl⟩
    · -- the `set` of a call that awaits its `get` has not begun
      rw [(hkeyed.of_getting hc).2] at hset
      cases hset
    · obtain ⟨err, hret⟩ := TokenStore.check_fails hset hupd hstore
      exact errs_of_returned (.inr ⟨auth, key, err, hc, hret⟩)

/-- An `authenticaion_request` that ends before anything is sent. Its `set` has still to put the
`Failed` result away and to return, hence the two further steps. -/
theorem errs_of_endsUnsent {nrf : AccessTokenReq N → Exchange (AccessTokenRequestResponse R)}
    (hunsent : EndsUnsent oasbi s t nrf) (hstep : step oasbi source s (.resolve t nrf) = some s') :
    s'.Errs oasbi source t [.advance t, .advance t, .resume t] := by
  obtain ⟨auth, hc, hsends⟩ := hunsent
  obtain ⟨err, herr⟩ := error_of_not_sends oasbi hsends
  -- the future is resolved with an error; two steps of `set` and one of the call return it
  cases (step_cases hstep : Step oasbi source s (.resolve t nrf) s') with
  | @resolve _ _ auth' store hc' hstore =>
    obtain rfl : auth = auth' := by
      rw [hc] at hc'
      cases hc'
      rfl
    rw [herr] at hstore
    obtain ⟨store₁, store₂, key, hwrite, hnotify, hret⟩ := TokenStore.resolve_fails hstore
    have hstep₁ : step oasbi source (s.withStore store) (.advance t) =
        some (s.withStore store₁) := by
      simp only [step, State.withStore, hc, GetToken.inner]
      rw [hwrite]
      rfl
    have hstep₂ : step oasbi source (s.withStore store₁) (.advance t) =
        some (s.withStore store₂) := by
      simp only [step, State.withStore, hc, GetToken.inner]
      rw [hnotify]
      rfl
    have herrs : (s.withStore store₂).Errs oasbi source t [.resume t] :=
      errs_of_returned (.inr ⟨auth, key, _, hc, hret⟩)
    obtain ⟨s₃, target, services, err', hresume, hreturned⟩ := herrs
    refine ⟨s₃, target, services, err', ?_, hreturned⟩
    rw [List.foldlM_cons, hstep₁]
    show List.foldlM _ _ _ = _
    rw [List.foldlM_cons, hstep₂]
    exact hresume

/-- A step that does not meet the condition ends its call with an error: at once, or as soon as its
`set` has put the result away. One case for each of the three parts of the condition. -/
theorem errs_of_hindered {as : List (Act N S R)} {a : Act N S R}
    (run : (tokenSystem R oasbi source).Run as s) (hcond : ¬ Unhindered oasbi s a)
    (hstep : step oasbi source s a = some s') : ∃ t,
      (a = .advance t ∧ s'.Errs oasbi source t [.resume t]) ∨
      ∃ nrf, a = .resolve t nrf ∧
        s'.Errs oasbi source t [.advance t, .advance t, .resume t] := by
  have hkeyed := keyed_of_run run
  by_contra hnone
  push Not at hnone
  -- each of the three hindrances makes the call err, so in the run there was none
  refine hcond ⟨fun t ha hread => ?_, fun t ha hcheck => ?_, fun t nrf ha hunsent => ?_⟩
  · subst ha
    exact (hnone t).1 rfl (errs_of_readsOldFailure hkeyed hread hstep)
  · subst ha
    exact (hnone t).1 rfl (errs_of_findsUpdate hkeyed hcheck hstep)
  · subst ha
    exact (hnone t).2 nrf rfl (errs_of_endsUnsent hunsent hstep)

end Hindered

/-- **`get_token` fails only when the NRF does**, in every run in which no call reads a `Failed`
entry from before it began, no call's `set` finds an update in progress, and no call's request ends
before it is sent. A step that does one of these ends its call with an error, by the call's own next
steps. -/
theorem fails_only_with_nrf (oasbi : Oasbi S) (source : N) :
    (∀ (as : List (Act N S R)) s, (tokenSystem R oasbi source).RunUnder (Unhindered oasbi) as s →
      ∀ t target services err, s.calls t = .returned target services (.error err) →
        NrfFailed oasbi source as t services) ∧
    (∀ (as : List (Act N S R)) s a s', (tokenSystem R oasbi source).Run as s →
      ¬ Unhindered oasbi s a → step oasbi source s a = some s' → ∃ t,
        (a = .advance t ∧ s'.Errs oasbi source t [.resume t]) ∨
        ∃ nrf, a = .resolve t nrf ∧
          s'.Errs oasbi source t [.advance t, .advance t, .resume t]) := by
  refine ⟨?_, fun as s a s' run hcond hstep => errs_of_hindered run hcond hstep⟩
  intro as s run t target services err hret
  have hcall := excused_of_run run t
  rw [hret] at hcall
  exact hcall

/-- A call whose request the NRF refuses while another call waits for it. -/
def sharedFailure : List (Act Nat Nat Nat) :=
  [.getToken 0 1 [5], .advance 0, .resume 0, .advance 0, .advance 0, .advance 0,
    .getToken 1 1 [5], .advance 1, .advance 1, .resolve 0 refuse, .advance 0, .advance 0,
    .resume 0, .advance 1, .advance 1, .resume 1]

/-- Both calls fail with the one request: the first because its `set` does, the second because it
waited for the entry. -/
theorem fails_with_shared_request :
    ∃ s err err',
      (tokenSystem Nat digitOasbi 0).RunUnder (Unhindered digitOasbi) sharedFailure s ∧
      s.calls 0 = .returned 1 [5] (.error err) ∧ s.calls 1 = .returned 1 [5] (.error err') ∧
      NrfFailed digitOasbi 0 sharedFailure 0 [5] ∧ NrfFailed digitOasbi 0 sharedFailure 1 [5] := by
  let s := (((tokenSystem Nat digitOasbi 0).guarded (unhindered digitOasbi)).exec
    sharedFailure).get (by decide)
  have hunder : (tokenSystem Nat digitOasbi 0).RunUnder (Unhindered digitOasbi) sharedFailure s :=
    .of_guarded (fun _ _ => unhindered_of_test) (by simp [s])
  have hfails := (fails_only_with_nrf digitOasbi 0).1 sharedFailure s hunder
  exact ⟨s, _, _, hunder, rfl, rfl, hfails 0 1 [5] _ rfl, hfails 1 1 [5] _ rfl⟩

/-- Two first calls that both find no entry; the NRF grants the token. -/
def twoFirstCalls : List (Act Nat Nat Nat) :=
  [.getToken 0 1 [5], .getToken 1 1 [5], .advance 0, .advance 1, .resume 0, .resume 1,
    .advance 0, .advance 0, .advance 0, .advance 1, .advance 1, .resume 1,
    .resolve 0 (grant 7), .advance 0, .advance 0, .resume 0]

/-- A call whose request the NRF refuses, and one after it. -/
def afterFailure : List (Act Nat Nat Nat) :=
  [.getToken 0 1 [5], .advance 0, .resume 0, .advance 0, .advance 0, .advance 0,
    .resolve 0 refuse, .advance 0, .advance 0, .resume 0,
    .getToken 1 1 [5], .advance 1, .resume 1]

/-- **The second caller fails.** Every request of the run is granted. The second `set` finds the
update of the first, and its error goes to a caller for whom nothing failed. -/
theorem second_caller_fails :
    ∃ s err, (tokenSystem Nat digitOasbi 0).Run twoFirstCalls s ∧
      s.calls 0 = .returned 1 [5] (.ok ⟨1⟩) ∧ s.calls 1 = .returned 1 [5] (.error err) ∧
      ¬ NrfFailed digitOasbi 0 twoFirstCalls 1 [5] := by
  let s := ((tokenSystem Nat digitOasbi 0).exec twoFirstCalls).get (by decide)
  have hrun : (tokenSystem Nat digitOasbi 0).Run twoFirstCalls s :=
    System.run_of_exec (by simp [s])
  refine ⟨s, .updateAlredyInProgress 1, hrun, rfl, rfl, ?_⟩
  intro ⟨pre, s₀, _, _, _, o, auth, nrf, err, _, hservices, hmem, _, herr⟩
  -- the run has one request, and it succeeds
  obtain ⟨rfl, rfl⟩ : o = 0 ∧ nrf = grant 7 := by simpa [twoFirstCalls] using hmem
  have hgranted : authenticaionRequest digitOasbi auth (grant 7) = .ok 7 := by
    unfold authenticaionRequest accessTokenReq
    rw [hservices]
    rfl
  rw [hgranted] at herr
  cases herr

/-- The key of the future that a call of the store awaits. -/
def awaits : StoreCall N S R → Option (List S)
  | .setRunning key _ _ => some key
  | _ => none

omit [DecidableEq S] in
/-- A request in flight is awaited by the `set` of its call. -/
theorem awaits_of_inFlight {s : State N S R} {o : CallId} {auth : Authentication N S}
    (h : s.InFlight o auth) :
    awaits (s.nfTokenStore.calls (setCall o)) = some auth.targetServiceName := by
  obtain ⟨-, n, id, hc⟩ := h
  rw [hc]
  rfl

/-- **A call after a failed request fails.** The one request of the run is over when it begins. -/
theorem fails_without_request :
    ∃ s err, (tokenSystem Nat digitOasbi 0).Run afterFailure s ∧
      s.calls 1 = .returned 1 [5] (.error err) ∧
      ¬ NrfFailed digitOasbi 0 afterFailure 1 [5] := by
  let s := ((tokenSystem Nat digitOasbi 0).exec afterFailure).get (by decide)
  have hrun : (tokenSystem Nat digitOasbi 0).Run afterFailure s := System.run_of_exec (by simp [s])
  refine ⟨s, .readError 1, hrun, rfl, ?_⟩
  intro ⟨pre, s₀, hpre, hrun₀, hway, o, auth, nrf, err, hflight, hservices, hmem, _, _⟩
  obtain ⟨rfl, -⟩ : o = 0 ∧ nrf = refuse := by simpa [afterFailure] using hmem
  -- in no prefix of the run is the request in flight while the second call is under way
  have hapart : ∀ k < 14, ∀ s₀ ∈ (tokenSystem Nat digitOasbi 0).exec (afterFailure.take k),
      ((s₀.calls 1).inner 1).isSome → awaits (s₀.nfTokenStore.calls (setCall 0)) ≠ some [5] := by
    decide
  have hlen : pre.length < 14 := Nat.lt_succ_of_le hpre.length_le
  rw [List.prefix_iff_eq_take.mp hpre] at hrun₀
  exact hapart pre.length hlen s₀ hrun₀.exec_eq hway (hservices ▸ awaits_of_inFlight hflight)

end UnifyAir.Nrf
