import UnifyAir.OmniPath.Lifecycle

/-!
# UnifyAir — which instance is deregistered

Both arms of the `select!` in `NfApp::run` lead to `deregister_nf`, whether or not the
registration has come through, and `deregister_nf_instance` takes its id from the `NfConfig` of
the client: without a registration that is the default, the nil UUID.

* **`only_registered_iff_built_registered`** — every deregistration request names an id the NRF has
  accepted, exactly in the runs in which none is built before `register_nf` has returned `Ok`.
* **`default_deregistered`** — a registration that the NRF refuses.
-/

namespace UnifyAir.OmniPath

open Concurrency
open AppContext (AppContextInner)
open Nrf

/-- Every deregistration request names an id for which the NRF has accepted a registration. -/
def OnlyRegistered (s : State) : Prop := ∀ id ∈ s.deregistrations, id ∈ s.accepted

/-- The NRF does not accept a registration under the default id. -/
def DefaultNotAccepted (_ : State) : Act → Prop
  | .accept nfInstanceId => nfInstanceId ≠ .default
  | _ => True

/-- A deregistration request is built only after `register_nf` has returned `Ok`. -/
def BuiltRegistered (s : State) : Act → Prop
  | .deregister (.ok ()) => s.registered = true
  | _ => True

instance (s : State) : (a : Act) → Decidable (DefaultNotAccepted s a)
  | .accept nfInstanceId => inferInstanceAs (Decidable (nfInstanceId ≠ .default))
  | .initialized _ | .register _ | .answer _ | .started _ | .signal | .deregister _ | .authorize _
  | .deregistered _ => .isTrue trivial

instance (s : State) : (a : Act) → Decidable (BuiltRegistered s a)
  | .deregister (.ok ()) => inferInstanceAs (Decidable (s.registered = true))
  | .deregister (.error _) | .initialized _ | .register _ | .accept _ | .answer _ | .started _
  | .signal | .authorize _ | .deregistered _ => .isTrue trivial

/-- The client has the default config until `register_nf` returns `Ok`, and from then on an id
the NRF has accepted; that is the id it asks for a token with. -/
structure Configured (s : State) : Prop where
  unregistered : s.registered = false → s.app.nrfClient = .default
  accepted : s.registered = true → s.app.nrfClient.nfInstanceId ∈ s.accepted
  authorizing : ∀ ended id, s.run = .authorizing ended id →
    id = s.app.nrfClient.nfInstanceId ∧ s.registered = true

theorem configured_new (ctx : AppContextInner) : Configured (State.new ctx) :=
  ⟨fun _ => rfl, nofun, nofun⟩

/-! ## What a step does to the config

The client's config is written by a registration that goes through, and by nothing else. Until then
it has the default, with the nil UUID as its id. -/

variable {fromStr : List Char → Option NfInstanceId}

theorem registerNf_error {app : OmniPathApp} {exchange : Exchange RegisterNfInstanceResponse}
    {err : NrfError} {app' : OmniPathApp}
    (h : registerNf fromStr app (.ok ()) exchange = (.error err, app')) : app' = app := by
  simp only [registerNf, registerNfInstance] at h
  split at h
  · next hreg =>
    cases h
    split at hreg
    · cases hreg; rfl
    · split at hreg
      · cases hreg; rfl
      · cases hreg
  · cases h

/-- A registration that goes through stores the id it was accepted under. -/
theorem registerNf_accepted {app app' : OmniPathApp}
    {exchange : Exchange RegisterNfInstanceResponse}
    (h : registerNf fromStr app (.ok ()) exchange = (.ok (), app')) :
    acceptedAs fromStr app.appContext.getNfId exchange = some app'.nrfClient.nfInstanceId := by
  have hok : (registerNf fromStr app (.ok ()) exchange).1 = .ok () := congrArg Prod.fst h
  obtain ⟨-, status, response, nf, id, rfl, hres, hafter⟩ := registerNf_ok hok
  rw [congrArg Prod.snd h] at hafter
  subst hafter
  rcases registered_eq_ok hres with ⟨rfl, rfl⟩ | ⟨location, nfId, rfl, hid, rfl⟩
  · rfl
  · simp [acceptedAs, hid, NfConfig.ofAnswer, Except.toOption]

/-- A step that leaves the client and the NRF alone. -/
theorem Configured.frame {s s' : State} (h : Configured s) (happ : s'.app = s.app)
    (hreg : s'.registered = s.registered) (haccepted : s'.accepted = s.accepted)
    (hrun : ∀ ended id, s'.run = .authorizing ended id →
      id = s.app.nrfClient.nfInstanceId ∧ s.registered = true) : Configured s' where
  unregistered := by rw [happ, hreg]; exact h.unregistered
  accepted := by rw [happ, hreg, haccepted]; exact h.accepted
  authorizing := by rw [happ, hreg]; exact hrun

theorem Configured.registered_of_oauth {s : State} (h : Configured s)
    (hoauth : s.app.nrfClient.oauthEnabled = true) : s.registered = true := by
  cases hreg : s.registered with
  | true => rfl
  | false =>
    rw [h.unregistered hreg] at hoauth
    cases hoauth

/-- Every step keeps the config as it should be. An answer to the registration is the only case in
which it changes. -/
theorem Configured.step {s s' : State} {a : Act} (h : Configured s) (hstep : Step fromStr s a s') :
    Configured s' := by
  -- only an answer of the NRF changes what is configured
  cases hstep with
  | initialized | initializeFailed | register | registerFailed | started | signal
  | deregisterFailed | authorize | authorizeFailed | deregistered =>
    exact h.frame rfl rfl rfl nofun
  | accept =>
    exact ⟨h.unregistered, fun hreg => List.mem_append_left _ (h.accepted hreg), h.authorizing⟩
  | @deregister ended hrun =>
    unfold State.onDeregister
    split
    · next hoauth =>
      refine h.frame rfl rfl rfl fun ended' id heq => ?_
      cases heq
      exact ⟨rfl, h.registered_of_oauth hoauth⟩
    · exact h.frame rfl rfl rfl nofun
  | @answer exchange hrun haccepted =>
    unfold State.onAnswer
    split
    · next app hreg =>
      exact ⟨nofun, fun _ => haccepted _ (registerNf_accepted hreg), nofun⟩
    · next err app hreg =>
      obtain rfl := registerNf_error hreg
      exact h.frame rfl rfl rfl nofun

theorem configured_of_run {ctx : AppContextInner} {as : List Act} {s : State}
    (run : (system fromStr ctx).Run as s) : Configured s :=
  run.invariant (configured_new ctx) fun _ _ _ _ _ h _ hstep => h.step (step_cases hstep)

/-! ## Deregistrations

A deregistration names the id of the client at the time when the request is built, or when a token
was asked for. Both are the same, as nothing registers in between. -/

theorem onAnswer_histories (s : State) (exchange : Exchange RegisterNfInstanceResponse) :
    (s.onAnswer fromStr exchange).deregistrations = s.deregistrations ∧
      (s.onAnswer fromStr exchange).accepted = s.accepted := by
  unfold State.onAnswer
  split <;> exact ⟨rfl, rfl⟩

/-- A deregistration request in the history was there before the step, or it is sent by it with
the id of the client. -/
theorem Step.deregistrations {s s' : State} {a : Act} (h : Configured s)
    (hstep : Step fromStr s a s') {id : NfInstanceId} (hid : id ∈ s'.deregistrations) :
    id ∈ s.deregistrations ∨ id = s.app.nrfClient.nfInstanceId ∧
      (s.registered = true ∨ a = .deregister (.ok ())) := by
  have hsend : ∀ {ended : Ended} {nfInstanceId : NfInstanceId},
      id ∈ (s.sendDeregistration ended nfInstanceId).deregistrations →
      id ∈ s.deregistrations ∨ id = nfInstanceId := by
    intro ended nfInstanceId hmem
    rcases List.mem_append.mp hmem with hold | hnew
    · exact Or.inl hold
    · exact Or.inr (List.mem_singleton.mp hnew)
  cases hstep with
  | initialized | initializeFailed | register | registerFailed | accept | started | signal
  | deregisterFailed | authorizeFailed | deregistered => exact Or.inl hid
  | answer => exact Or.inl ((onAnswer_histories s _).1 ▸ hid)
  | @deregister ended hrun =>
    unfold State.onDeregister at hid
    split at hid
    · exact Or.inl hid
    · exact (hsend hid).imp_right fun heq => ⟨heq, Or.inr rfl⟩
  | @authorize ended nfInstanceId hrun =>
    obtain ⟨hsame, hreg⟩ := h.authorizing ended nfInstanceId hrun
    exact (hsend hid).imp_right fun heq => ⟨heq.trans hsame, Or.inl hreg⟩

/-- What the NRF has accepted after a step it had accepted before, or accepts in it. -/
theorem Step.accepted {s s' : State} {a : Act} (hstep : Step fromStr s a s') :
    s'.accepted = s.accepted ∨ ∃ id, a = .accept id ∧ s'.accepted = s.accepted ++ [id] := by
  cases hstep with
  | initialized | initializeFailed | register | registerFailed | started | signal
  | deregisterFailed | authorize | authorizeFailed | deregistered => exact Or.inl rfl
  | answer => exact Or.inl (onAnswer_histories s _).2
  | @accept id => exact Or.inr ⟨id, rfl, rfl⟩
  | deregister =>
    unfold State.onDeregister
    split <;> exact Or.inl rfl

theorem Step.accepted_mono {s s' : State} {a : Act} (hstep : Step fromStr s a s') :
    s.accepted ⊆ s'.accepted := by
  rcases hstep.accepted with hsame | ⟨id, -, hnew⟩
  · rw [hsame]; exact List.Subset.refl _
  · rw [hnew]; exact List.subset_append_left _ _

/-- If no step accepts the default id, it is not among those accepted. -/
theorem default_not_accepted {ctx : AppContextInner} {as : List Act} {s : State}
    (run : (system fromStr ctx).RunUnder DefaultNotAccepted as s) :
    NfInstanceId.default ∉ s.accepted := by
  refine run.invariant (P := fun s => NfInstanceId.default ∉ s.accepted) (by exact nofun) ?_
  intro as s a s' _ h hcond hstep
  rcases (step_cases hstep).accepted with hsame | ⟨id, rfl, hnew⟩
  · rwa [hsame]
  · rw [hnew, List.mem_append, List.mem_singleton]
    rintro (hold | rfl)
    · exact h hold
    · exact absurd rfl hcond

/-- After a registration the client has an accepted id, so a request that is built then names one.
-/
theorem onlyRegistered_of_run {ctx : AppContextInner} {as : List Act} {s : State}
    (run : (system fromStr ctx).RunUnder BuiltRegistered as s) : OnlyRegistered s := by
  refine run.invariant (P := OnlyRegistered) (by exact nofun) ?_
  intro as s a s' run h hcond hstep id hid
  have hmove : Step fromStr s a s' := step_cases hstep
  have hconf := configured_of_run run.run
  rcases hmove.deregistrations hconf hid with hold | ⟨rfl, hreg | rfl⟩
  · exact hmove.accepted_mono (h id hold)
  · exact hmove.accepted_mono (hconf.accepted hreg)
  · exact hmove.accepted_mono (hconf.accepted hcond)

/-- **Only registered instances are deregistered, exactly after a registration.** In a run in which
the NRF does not accept the default id, every deregistration request names an id that the NRF has
accepted before, if and only if none is built before `register_nf` has returned `Ok`. -/
theorem only_registered_iff_built_registered {ctx : AppContextInner} {as : List Act} {s : State}
    (run : (system fromStr ctx).RunUnder DefaultNotAccepted as s) :
    (∀ pre t, pre <+: as → (system fromStr ctx).Run pre t → OnlyRegistered t) ↔
      (system fromStr ctx).RunUnder (fun s a => DefaultNotAccepted s a ∧ BuiltRegistered s a) as s := by
  refine run.always_iff (C := BuiltRegistered) (P := fun _ t => OnlyRegistered t)
    (fun as s h => onlyRegistered_of_run (h.mono fun _ _ hcond => hcond.2)) ?_
  intro as s a s' run _ hstep honly
  cases a with
  | deregister res =>
    cases res with
    | error => trivial
    | ok =>
      show s.registered = true
      by_contra hreg
      have hmove : Step fromStr s (.deregister (.ok ())) s' := step_cases hstep
      have hconfig := (configured_of_run run.run).unregistered (Bool.eq_false_iff.mpr hreg)
      cases hmove with
      | @deregister ended =>
        -- the default config asks for no token, so the request goes out at once
        have hsent : s.onDeregister ended = s.sendDeregistration ended .default := by
          simp [State.onDeregister, hconfig, NfConfig.default]
        have hin : NfInstanceId.default ∈ (s.onDeregister ended).accepted :=
          honly _ (by simp [hsent, State.sendDeregistration])
        rw [hsent] at hin
        exact default_not_accepted (run.mono fun _ _ hcond => hcond.1) hin
  | initialized | register | accept | answer | started | signal | authorize | deregistered =>
    trivial

/-- The NRF is not available: it answers the registration with an error. -/
def refusedByNrf : List Act :=
  [.initialized (.ok ()), .register (.ok ()), .answer (.ok (503, .problem "unavailable")),
    .deregister (.ok ())]

/-- Nothing was ever accepted, and a deregistration of the nil UUID has been sent. The result of the
failed registration leads to `deregister_nf` like any other. -/
theorem default_deregistered :
    ∃ s, (system simpleUuid AppContext.emptyContext).RunUnder DefaultNotAccepted refusedByNrf s ∧
      s.accepted = [] ∧ s.deregistrations = [.default] ∧ ¬ OnlyRegistered s := by
  let s := (((system simpleUuid AppContext.emptyContext).guarded fun s a =>
    decide (DefaultNotAccepted s a)).exec refusedByNrf).get (by decide)
  have hrun : (system simpleUuid AppContext.emptyContext).RunUnder DefaultNotAccepted refusedByNrf s :=
    .of_decide (by simp [s])
  refine ⟨s, hrun, rfl, rfl, fun honly => ?_⟩
  have hmem : NfInstanceId.default ∈ s.accepted := honly _ (.head _)
  cases hmem

/-- The NRF creates a resource for the id 9, `start` ends, and the NF is deregistered. -/
def registerAndStop : List Act :=
  [.initialized (.ok ()), .register (.ok ()), .accept 9, .answer createdNine, .started (.ok ()),
    .deregister (.ok ()), .deregistered (.ok ())]

/-- After a registration under 9 it is 9 that is deregistered. -/
theorem only_registered_registerAndStop :
    ∃ s, (system simpleUuid AppContext.emptyContext).RunUnder DefaultNotAccepted registerAndStop s ∧
      s.run = .returned (.ok ()) ∧ s.deregistrations = [9] ∧ OnlyRegistered s := by
  let s := (((system simpleUuid AppContext.emptyContext).guarded fun s a =>
    decide (DefaultNotAccepted s a ∧ BuiltRegistered s a)).exec registerAndStop).get (by decide)
  have hrun : (system simpleUuid AppContext.emptyContext).RunUnder
      (fun s a => DefaultNotAccepted s a ∧ BuiltRegistered s a) registerAndStop s :=
    .of_decide (by simp [s])
  have hbase := hrun.mono fun _ _ hcond => hcond.1
  exact ⟨s, hbase, rfl, rfl,
    (only_registered_iff_built_registered hbase).mpr hrun _ _ (List.prefix_refl _) hrun.run⟩

end UnifyAir.OmniPath
