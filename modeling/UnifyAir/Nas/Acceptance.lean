import UnifyAir.Nas.Registration

/-!
# UnifyAir — the registration that a UE is left with

The GMM state machine of a UE handles every registration request until it has accepted one, and none
after that: the contexts of the UE stay what the accepted request has made of them. A machine comes
to `unauthenticated` in no other way, and to `authenticated` in none.

* **`step_deregistered`**, **`step_unauthenticated`** — what a message does in each state.
* **`registered_once`** — the state and the contexts of a UE after any messages.
-/

namespace UnifyAir.Nas

open Concurrency

variable {C : Type}

/-- A request that is handled, and for which an authentication request is built. -/
def Accepts (build : Build C) (s : Contexts C) (request : NasRegistrationRequest C) : Prop :=
  (handle request s).1 = .ok ∧ build (handle request s).2.nas (handle request s).2.ue = .ok

/-- A request that leaves the machine in `deregistered`. -/
def Rejects (build : Build C) (s : Contexts C) (request : NasRegistrationRequest C) : Prop :=
  ¬ Accepts build s request

/-- The request of a message. -/
def GmmMessage.request : GmmMessage C → Option (NasRegistrationRequest C)
  | .registrationRequest request => some request
  | .authenticationRequest | .gmmStatus | .other => none

/-- What `deregistered` makes of a request: it is handled, and accepted or not. A handler that
returns an error and a `build` that does both leave the UE where it is, with what was written to its
contexts. -/
theorem deregistered_request {build : Build C} {s s' : Contexts C} {response : Response}
    {request : NasRegistrationRequest C}
    (h : deregistered build s (.registrationRequest request) = some (response, s')) :
    handling.step s request = some s' ∧
      ((response = .handled ∧ Rejects build s request) ∨
        (response = .transition .unauthenticated ∧ Accepts build s request)) := by
  simp only [deregistered] at h
  split at h
  · cases h
  · next err t heq =>
    cases h
    refine ⟨handling_step.mpr (by simp [heq]), .inl ⟨rfl, fun haccepts => ?_⟩⟩
    have hok := haccepts.1
    rw [heq] at hok
    cases hok
  · next t heq =>
    split at h
    · cases h
    · next err hbuild =>
      cases h
      refine ⟨handling_step.mpr (by simp [heq]), .inl ⟨rfl, fun haccepts => ?_⟩⟩
      have hok := haccepts.2
      rw [heq, hbuild] at hok
      cases hok
    · next hbuild =>
      cases h
      refine ⟨handling_step.mpr (by simp [heq]), .inr ⟨rfl, ?_⟩⟩
      unfold Accepts
      rw [heq]
      exact ⟨rfl, hbuild⟩

/-- In `deregistered` a request is handled, and anything else is dropped. So a run that stays there
is a run of handled requests. -/
theorem step_deregistered {build : Build C} {s s' : Gmm C} {message : GmmMessage C}
    (hs : s.state = .deregistered) (h : (machine build).step s message = some s') :
    (message.request = none ∧ s' = s) ∨
      ∃ request, message = .registrationRequest request ∧
        handling.step s.contexts request = some s'.contexts ∧
        ((s'.state = .deregistered ∧ Rejects build s.contexts request) ∨
          (s'.state = .unauthenticated ∧ Accepts build s.contexts request)) := by
  obtain ⟨state, contexts⟩ := s
  cases hs
  obtain ⟨⟨response, contexts'⟩, hresponse, rfl⟩ := Option.map_eq_some_iff.mp h
  -- a message of another kind changes nothing
  cases message with
  | gmmStatus | authenticationRequest | other =>
    cases hresponse
    exact .inl ⟨rfl, rfl⟩
  | registrationRequest request =>
    obtain ⟨hhandled, ⟨rfl, hrejects⟩ | ⟨rfl, haccepts⟩⟩ := deregistered_request hresponse
    · exact .inr ⟨request, rfl, hhandled, .inl ⟨rfl, hrejects⟩⟩
    · exact .inr ⟨request, rfl, hhandled, .inr ⟨rfl, haccepts⟩⟩

theorem step_unauthenticated {build : Build C} {s s' : Gmm C} {message : GmmMessage C}
    (hs : s.state = .unauthenticated) (h : (machine build).step s message = some s') : s' = s := by
  obtain ⟨state, contexts⟩ := s
  cases hs
  cases message <;> cases h <;> rfl

/-- What a UE is left with after some messages. -/
inductive Registered (build : Build C) (messages : List (GmmMessage C)) (s : Gmm C) : Prop where
  /-- Every request was handled, and rejected. -/
  | deregistered (hstate : s.state = .deregistered)
      (hall : handling.RunUnder (Rejects build) (messages.filterMap GmmMessage.request) s.contexts)
  /-- All up to one that was accepted. -/
  | unauthenticated {before after : List (GmmMessage C)} {request : NasRegistrationRequest C}
      {t : Contexts C} (hstate : s.state = .unauthenticated)
      (hmessages : messages = before ++ .registrationRequest request :: after)
      (hbefore : handling.RunUnder (Rejects build) (before.filterMap GmmMessage.request) t)
      (haccepts : Accepts build t request) (hlast : handling.step t request = some s.contexts)

/-- **A UE is registered once.** After any messages, the contexts of a UE are those after all its
requests, each of them rejected; or those after its requests up to the first that is accepted, and
its machine is in `unauthenticated`. -/
theorem registered_once {build : Build C} {messages : List (GmmMessage C)} {s : Gmm C}
    (run : (machine build).Run messages s) : Registered build messages s := by
  refine run.history (P := Registered build) (.deregistered rfl .nil) ?_
  intro messages s message s' _ hs _ hstep
  -- before and after the first request that is accepted
  cases hs with
  | deregistered hstate hall =>
    rcases step_deregistered hstate hstep with ⟨hnone, rfl⟩ |
      ⟨request, rfl, hhandled, ⟨hstate', hrejects⟩ | ⟨hstate', haccepts⟩⟩
    · refine .deregistered hstate ?_
      rw [List.filterMap_append, List.filterMap_cons_none hnone, List.filterMap_nil,
        List.append_nil]
      exact hall
    · refine .deregistered hstate' ?_
      rw [List.filterMap_append]
      exact .snoc hall hrejects hhandled
    · exact .unauthenticated hstate' rfl hall haccepts hhandled
  | @unauthenticated before after request t hstate hmessages hbefore haccepts hlast =>
    obtain rfl := step_unauthenticated hstate hstep
    have hmore : messages ++ [message] =
        before ++ .registrationRequest request :: (after ++ [message]) := by
      rw [hmessages, List.append_assoc, List.cons_append]
    exact .unauthenticated hstate hmore hbefore haccepts hlast

/-- A request without a capability, which is rejected; one with a capability, which is accepted; and
one more. -/
def threeRequests : List (GmmMessage Nat) :=
  [.registrationRequest (suciRequest none), .gmmStatus, .registrationRequest (suciRequest (some 1)),
    .registrationRequest (suciRequest (some 2))]

/-- The UE is left with the second request. -/
theorem registered_once_threeRequests :
    ∃ s, (machine fun _ _ => .ok).Run threeRequests s ∧ s.state = .unauthenticated ∧
      s.contexts.nas.ueSecurityCapability = some 1 ∧
      Registered (fun _ _ => .ok) threeRequests s := by
  let s := ((machine fun _ _ => .ok).exec threeRequests).get (by decide)
  have hrun : (machine fun _ _ => .ok).Run threeRequests s := System.run_of_exec (by simp [s])
  exact ⟨s, hrun, rfl, rfl, registered_once hrun⟩

end UnifyAir.Nas
