import UnifyAir.Concurrency.System

/-!
# UnifyAir — registration requests of one UE

`nas/handlers/registration_request.rs` and `nas/gmm.rs`. A registration request is stored in the
NAS context before it is checked, its UE security capability after; a request without one is
rejected in between, and leaves the capability of an earlier request beside it.

* **`capability_belongs_iff`** — the stored capability is that of the stored request in every state
  of a run exactly when no request without a capability is handled while there is one.
* **`stale_capability`** — an accepted request, and a rejected one after it.
* **`handled_of_machine`** — what the GMM state machine does to the contexts is to handle requests.
-/

namespace UnifyAir.Nas

open Concurrency

/-! ## Messages

The types that a registration request is read from. What the handler does not look at is left out,
and the security capability is a parameter, since it is only passed on. -/

/-- `NonEmptyString`. -/
structure NonEmptyString where
  text : List Char
  nonEmpty : text ≠ []
  deriving DecidableEq

/-- `NonEmptyString::new(text).ok()`. -/
def NonEmptyString.new (text : List Char) : Option NonEmptyString :=
  if h : text ≠ [] then some ⟨text, h⟩ else none

/-- `NonZeroU32`. -/
structure NonZeroU32 where
  value : UInt32
  nonZero : value ≠ 0
  deriving DecidableEq

/-- `NonZeroU32::new`. -/
def NonZeroU32.new (value : UInt32) : Option NonZeroU32 :=
  if h : value ≠ 0 then some ⟨value, h⟩ else none

/-- `MobileIdentity`, with the text or the number that the handler takes from it. -/
inductive MobileIdentity where
  | noIdentity
  | suci (text : List Char)
  | fiveGGuti (gutiString : List Char)
  | imei (text : List Char)
  | fiveGSTmsi (tmsi : UInt32)
  | imeisv (text : List Char)
  | macAddress (text : List Char)
  | eui64
  deriving DecidableEq, Repr

/-- `RegistrationType`. -/
inductive RegistrationType where
  | initialRegistration
  | mobilityRegistrationUpdating
  | periodicRegistrationUpdating
  | emergencyRegistration
  | snpnOnboardingRegistration
  | disasterRoamingMobilityRegistrationUpdating
  | disasterRoamingInitialRegistration
  deriving DecidableEq, Repr

/-- `NasRegistrationRequest`, as far as it is read. `C` is `UeSecurityCapability`. -/
structure NasRegistrationRequest (C : Type) where
  registrationType : RegistrationType
  mobileIdentity : MobileIdentity
  ueSecurityCapability : Option C
  deriving DecidableEq, Repr

/-- `FiveGmmCause`, by its number. -/
abbrev FiveGmmCause := UInt8

/-- `FiveGmmCause::protocol_error_unspecified`. -/
def FiveGmmCause.protocolErrorUnspecified : FiveGmmCause := 111

/-- `NasHandlerError`, as far as registration goes. -/
inductive NasHandlerError where
  | fiveGmmCauseError (cause : FiveGmmCause)
  deriving DecidableEq, Repr

/-! ## Contexts

What a request is stored in. Both contexts belong to one UE. -/

variable {C : Type}

/-- `NasContext`. -/
structure NasContext (C : Type) where
  registrationRequest : Option (NasRegistrationRequest C)
  ueSecurityCapability : Option C
  deriving DecidableEq

/-- `NasContext::new`. -/
def NasContext.new : NasContext C := ⟨none, none⟩

/-- `UeContext`, the part that a registration request fills. -/
structure UeContext where
  tmsi : Option NonZeroU32
  guti : Option NonEmptyString
  suci : Option NonEmptyString
  pei : Option NonEmptyString
  macAddr : Option NonEmptyString
  deriving DecidableEq

/-- `UeContext::new`. -/
def UeContext.new : UeContext := ⟨none, none, none, none, none⟩

/-- The two contexts of a UE. -/
structure Contexts (C : Type) where
  nas : NasContext C
  ue : UeContext
  deriving DecidableEq

/-- How a handler ends. It can come to a `todo!()`. -/
inductive Outcome where
  | ok
  | err (err : NasHandlerError)
  | panic
  deriving DecidableEq, Repr

/-! ## Handling a request

The handlers with their order of writes: first the request, then the mobile identity, and the
capability last. A request without a capability returns between these. -/

/-- Where the mobile identity goes; `none` at the `todo!()`. -/
def UeContext.identify (ue : UeContext) : MobileIdentity → Option UeContext
  | .noIdentity => some ue
  | .suci text => some { ue with suci := NonEmptyString.new text }
  | .fiveGGuti gutiString => some { ue with guti := NonEmptyString.new gutiString }
  | .imei text | .imeisv text => some { ue with pei := NonEmptyString.new text }
  | .fiveGSTmsi tmsi => some { ue with tmsi := NonZeroU32.new tmsi }
  | .macAddress text => some { ue with macAddr := NonEmptyString.new text }
  | .eui64 => none

/-- `initial_registration_handler`. -/
def initialRegistrationHandler (request : NasRegistrationRequest C) (s : Contexts C) :
    Outcome × Contexts C :=
  let nas := { s.nas with registrationRequest := some request }
  match s.ue.identify request.mobileIdentity with
  | none => (.panic, { s with nas })
  | some ue => match request.ueSecurityCapability with
    | some capability => (.ok, ⟨{ nas with ueSecurityCapability := some capability }, ue⟩)
    | none => (.err (.fiveGmmCauseError .protocolErrorUnspecified), ⟨nas, ue⟩)

/-- `NasRegistrationRequest::handle`. -/
def handle (request : NasRegistrationRequest C) (s : Contexts C) : Outcome × Contexts C :=
  match request.registrationType with
  | .initialRegistration => initialRegistrationHandler request s
  | .mobilityRegistrationUpdating | .periodicRegistrationUpdating | .emergencyRegistration
  | .snpnOnboardingRegistration | .disasterRoamingMobilityRegistrationUpdating
  | .disasterRoamingInitialRegistration => (.panic, s)

/-- One UE, whose requests are handled one after the other: initial registrations with any mobile
identity but an EUI-64, that is, those that come to no `todo!()`. -/
def handling : System (Contexts C) (NasRegistrationRequest C) where
  init := ⟨.new, .new⟩
  step s request := match handle request s with
    | (.panic, _) => none
    | (.ok, s') | (.err _, s') => some s'

/-- What the handler does to the NAS context if it comes to no `todo!()`: the request is stored, and
its capability if it has one. Whether the request is accepted makes no difference. -/
theorem handle_nas (request : NasRegistrationRequest C) (s : Contexts C) :
    (handle request s).1 = .panic ∨
      (handle request s).2.nas =
        ⟨some request, request.ueSecurityCapability.or s.nas.ueSecurityCapability⟩ := by
  obtain ⟨registrationType, mobileIdentity, capability⟩ := request
  -- only the initial registration does anything
  cases registrationType with
  | initialRegistration =>
    cases hue : s.ue.identify mobileIdentity with
    | none =>
      left
      simp only [handle, initialRegistrationHandler, hue]
    | some ue =>
      right
      cases capability <;> simp only [handle, initialRegistrationHandler, hue] <;> rfl
  | mobilityRegistrationUpdating | periodicRegistrationUpdating | emergencyRegistration
  | snpnOnboardingRegistration | disasterRoamingMobilityRegistrationUpdating
  | disasterRoamingInitialRegistration => exact .inl rfl

/-- A step handles the request and comes to no `todo!()`. -/
theorem handling_step {s s' : Contexts C} {request : NasRegistrationRequest C} :
    handling.step s request = some s' ↔
      (handle request s).1 ≠ .panic ∧ (handle request s).2 = s' := by
  show (match handle request s with
    | (.panic, _) => none
    | (.ok, s') | (.err _, s') => some s') = some s' ↔ _
  split
  · next heq => simp [heq]
  · next heq => simp [heq]
  · next heq => simp [heq]

theorem handling_nas {s s' : Contexts C} {request : NasRegistrationRequest C}
    (h : handling.step s request = some s') :
    s'.nas = ⟨some request, request.ueSecurityCapability.or s.nas.ueSecurityCapability⟩ := by
  obtain ⟨hpanic, rfl⟩ := handling_step.mp h
  exact (handle_nas request s).resolve_left hpanic

/-! ## Whose capability is stored

The request is replaced every time and the capability only by requests that have one. So a
capability outlives its request exactly when a request without one follows. -/

/-- The stored capability is the one that the stored request carried. -/
def NasContext.Belongs (nas : NasContext C) : Prop :=
  ∀ c, nas.ueSecurityCapability = some c →
    ∃ request, nas.registrationRequest = some request ∧ request.ueSecurityCapability = some c

/-- A request without a capability comes only while none is stored. -/
def BeforeCapability (s : Contexts C) (request : NasRegistrationRequest C) : Prop :=
  request.ueSecurityCapability = none → s.nas.ueSecurityCapability = none

instance (s : Contexts C) (request : NasRegistrationRequest C) :
    Decidable (BeforeCapability s request) :=
  decidable_of_iff
    (request.ueSecurityCapability.isNone = true → s.nas.ueSecurityCapability.isNone = true)
    (by simp [BeforeCapability])

/-- After a request is handled, exactly such requests leave a capability that is their own. The
other ones leave the capability that was stored before, beside a request it did not come with. -/
theorem belongs_iff {s s' : Contexts C} {request : NasRegistrationRequest C}
    (h : handling.step s request = some s') :
    s'.nas.Belongs ↔ BeforeCapability s request := by
  rw [handling_nas h]
  constructor
  · -- a capability that is stored needs a request that has one
    intro hbelongs hnone
    cases hstored : s.nas.ueSecurityCapability with
    | none => rfl
    | some c =>
      obtain ⟨request', heq, hc⟩ := hbelongs c (by rw [hnone, hstored]; rfl)
      cases heq
      cases hnone.symm.trans hc
  · intro hbefore c hc
    refine ⟨request, rfl, ?_⟩
    cases hown : request.ueSecurityCapability with
    | none =>
      rw [hown, hbefore hown] at hc
      cases hc
    | some c' =>
      rw [hown] at hc
      exact hc

/-- **The capability belongs to the request, exactly before there is one to lose.** In every state
of a run the stored capability is that of the stored request if and only if no request without a
capability is handled while there is one stored. -/
theorem capability_belongs_iff {as : List (NasRegistrationRequest C)} {s : Contexts C}
    (run : handling.Run as s) :
    (∀ pre t, pre <+: as → handling.Run pre t → t.nas.Belongs) ↔
      handling.RunUnder BeforeCapability as s :=
  System.runUnder_iff_always (P := fun s : Contexts C => s.nas.Belongs) (fun _ h => by cases h)
    (fun _ _ _ _ _ _ hbefore hstep => (belongs_iff hstep).mpr hbefore)
    (fun _ _ _ _ _ _ hstep hbelongs => (belongs_iff hstep).mp hbelongs) run

/-- A request with a SUCI and perhaps a capability. -/
def suciRequest (capability : Option Nat) : NasRegistrationRequest Nat where
  registrationType := .initialRegistration
  mobileIdentity := .suci "suci-0-001-01".toList
  ueSecurityCapability := capability

/-- A request without a capability does no harm as the first one. -/
theorem capability_belongs_twoRequests :
    ∃ s, handling.Run [suciRequest none, suciRequest (some 1), suciRequest (some 2)] s ∧
      s.nas.ueSecurityCapability = some 2 ∧ s.nas.Belongs := by
  let s := (((handling (C := Nat)).guarded fun s a => decide (BeforeCapability s a)).exec
    [suciRequest none, suciRequest (some 1), suciRequest (some 2)]).get (by decide)
  have hrun : handling.RunUnder BeforeCapability
      [suciRequest none, suciRequest (some 1), suciRequest (some 2)] s := .of_decide (by simp [s])
  exact ⟨s, hrun.run, rfl,
    (capability_belongs_iff hrun.run).mpr hrun _ _ (List.prefix_refl _) hrun.run⟩

/-- **A stale capability.** After an accepted request and a rejected one, the NAS context has the
second request and the capability of the first. -/
theorem stale_capability :
    ∃ s, handling.Run [suciRequest (some 1), suciRequest none] s ∧ ¬ s.nas.Belongs := by
  let s := ((handling (C := Nat)).exec [suciRequest (some 1), suciRequest none]).get (by decide)
  refine ⟨s, System.run_of_exec (by simp [s]), fun hbelongs => ?_⟩
  obtain ⟨request, hrequest, hc⟩ := hbelongs 1 rfl
  obtain rfl : suciRequest none = request := Option.some.inj hrequest
  cases hc

/-! ## The GMM state machine

The handler runs in the state `deregistered` and in no other. The machine is built from the state
functions of `gmm.rs`, superstates included. -/

/-- `State`. -/
inductive GmmState where
  | deregistered
  | unauthenticated
  | authenticated
  deriving DecidableEq, Repr

/-- `GmmMessage`, as far as the states tell messages apart. -/
inductive GmmMessage (C : Type) where
  | registrationRequest (request : NasRegistrationRequest C)
  | authenticationRequest
  | gmmStatus
  | other
  deriving DecidableEq, Repr

/-- `Response<State>`. -/
inductive Response where
  | handled
  | transition (target : GmmState)
  | super
  deriving DecidableEq, Repr

/-- `NasAuthenticationRequest::build`, whether it succeeds. It is not written yet, and may come to a
`todo!()`. -/
abbrev Build (C : Type) := NasContext C → UeContext → Outcome

/-- The superstate `registration_initiated`. -/
def registrationInitiated : GmmMessage C → Response
  | .gmmStatus => .handled
  | .registrationRequest _ | .authenticationRequest | .other => .super

/-- The state `unauthenticated`. -/
def unauthenticated : GmmMessage C → Response
  | .authenticationRequest => .transition .unauthenticated
  | .registrationRequest _ | .gmmStatus | .other => .super

/-- The state `deregistered`; `none` at a `todo!()`. -/
def deregistered (build : Build C) (s : Contexts C) : GmmMessage C → Option (Response × Contexts C)
  | .gmmStatus | .authenticationRequest | .other => some (.handled, s)
  | .registrationRequest request => match handle request s with
    | (.panic, _) => none
    | (.err _, s') => some (.handled, s')
    | (.ok, s') => match build s'.nas s'.ue with
      | .panic => none
      | .err _ => some (.handled, s')
      | .ok => some (unauthenticated (.authenticationRequest : GmmMessage C), s')

/-- The state of a UE's state machine. -/
structure Gmm (C : Type) where
  state : GmmState
  contexts : Contexts C
  deriving DecidableEq

/-- Where a response leads. What no state handles is dropped. -/
def Response.target (response : Response) (state : GmmState) : GmmState :=
  match response with
  | .transition target => target
  | .handled | .super => state

/-- The state machine under the messages that it gets. -/
def machine (build : Build C) : System (Gmm C) (GmmMessage C) where
  init := ⟨.deregistered, ⟨.new, .new⟩⟩
  step s message := match s.state with
    | .deregistered => (deregistered build s.contexts message).map fun (response, contexts) =>
      ⟨response.target .deregistered, contexts⟩
    | .unauthenticated => match unauthenticated message with
      | .super => some { s with state := (registrationInitiated message).target .unauthenticated }
      | response => some { s with state := response.target .unauthenticated }
    | .authenticated => none

/-- A message leaves the contexts of a UE alone, or it is a request that is handled. One case for
each state and kind of message. -/
theorem contexts_of_machine {build : Build C} {s s' : Gmm C} {message : GmmMessage C}
    (h : (machine build).step s message = some s') :
    s'.contexts = s.contexts ∨
      ∃ request, message = .registrationRequest request ∧
        handling.step s.contexts request = some s'.contexts := by
  obtain ⟨state, contexts⟩ := s
  -- registration requests are handled where nothing has begun, and nowhere else
  cases state with
  | deregistered =>
    obtain ⟨⟨response, contexts'⟩, hderegistered, rfl⟩ := Option.map_eq_some_iff.mp h
    cases message with
    | gmmStatus | authenticationRequest | other =>
      cases hderegistered
      exact .inl rfl
    | registrationRequest request =>
      refine .inr ⟨request, rfl, handling_step.mpr ?_⟩
      simp only [deregistered] at hderegistered
      -- the handler panics, returns an error, or is followed by `build`, which does one of the three
      split at hderegistered
      · cases hderegistered
      · next heq =>
        cases hderegistered
        simp [heq]
      · next heq =>
        split at hderegistered
        · cases hderegistered
        · cases hderegistered
          simp [heq]
        · cases hderegistered
          simp [heq]
  | unauthenticated =>
    cases message <;> cases h <;> exact .inl rfl
  | authenticated => cases h

/-- **The machine handles requests.** The contexts of a UE after any run of its state machine are
those after handling some of the requests among its messages. -/
theorem handled_of_machine {build : Build C} {messages : List (GmmMessage C)} {s : Gmm C}
    (run : (machine build).Run messages s) :
    ∃ requests, handling.Run requests s.contexts ∧
      (requests.map .registrationRequest).Sublist messages := by
  refine run.history (P := fun messages s => ∃ requests, handling.Run requests s.contexts ∧
    (requests.map .registrationRequest).Sublist messages) ⟨[], .nil, .slnil⟩ ?_
  intro messages s message s' _ ⟨requests, hrun, hsub⟩ _ hstep
  rcases contexts_of_machine hstep with hsame | ⟨request, rfl, hhandled⟩
  · rw [hsame]
    exact ⟨requests, hrun, hsub.trans (List.sublist_append_left _ _)⟩
  · refine ⟨requests ++ [request], .snoc hrun trivial hhandled, ?_⟩
    rw [List.map_append]
    exact hsub.append (List.Sublist.refl _)

end UnifyAir.Nas
