import UnifyAir.OmniPath.Deregistration

/-!
# UnifyAir — what the result of a run says

Whether the signal comes first, or the registration and `start` come to an end, a run of an NF goes
on to `deregister_nf`, and its result is made of both parts. A run that was initialized asks the NRF
for one registration at most and for one deregistration at most, and it returns `Ok` only after the
NRF has confirmed the deregistration of the id that the client has.

* **`result_ok_iff`** — how the results of both parts become one.
* **`stage_of_run`** — what was sent and what has happened, by where a run stands.
* **`result_says`** — a run that has returned.
-/

namespace UnifyAir.OmniPath

open Concurrency
open AppContext (AppContextInner)
open Nrf

/-- A run returns `Ok` when its deregistration does and the `select!` has not ended with an error.
-/
theorem result_ok_iff (ended : Ended) (dregRes : Except OmniPathError Unit) :
    result ended dregRes = .ok () ↔
      dregRes = .ok () ∧ (ended = .signalled ∨ ended = .finished (.ok ())) := by
  unfold result
  split
  · cases dregRes with
    | error err => exact iff_of_false (fun h => by cases h) fun h => by cases h.1
    | ok => exact iff_of_true rfl ⟨rfl, .inl rfl⟩
  · exact iff_of_false (fun h => by cases h) fun h => by cases h.1
  · refine iff_of_false (fun h => by cases h) ?_
    rintro ⟨-, h | h⟩ <;> cases h
  · exact iff_of_false (fun h => by cases h) fun h => by cases h.1
  · exact iff_of_true rfl ⟨rfl, .inr rfl⟩

/-! ## What has happened

Three things are remembered of the actions of a run: the signal, the end of `start`, and the
confirmation. Each of them can happen once, and `Past` says which have. -/

/-- How the `select!` has ended, and whether the NRF has confirmed a deregistration. -/
structure Past (as : List Act) (ended : Option Ended) (confirmed : Bool) : Prop where
  signal : .signal ∈ as ↔ ended = some .signalled
  started : .started (.ok ()) ∈ as ↔ ended = some (.finished (.ok ()))
  confirmed : .deregistered (.ok ()) ∈ as ↔ confirmed = true

/-- The actions that are remembered. -/
def Act.isTold : Act → Bool
  | .signal | .started (.ok ()) | .deregistered (.ok ()) => true
  | _ => false

theorem mem_snoc_iff {as : List Act} {a b : Act} (hab : b ≠ a) : b ∈ as ++ [a] ↔ b ∈ as := by
  rw [List.mem_append, List.mem_singleton]
  exact or_iff_left hab

theorem Past.other {as : List Act} {ended : Option Ended} {confirmed : Bool} {a : Act}
    (h : Past as ended confirmed) (ha : a.isTold = false) : Past (as ++ [a]) ended confirmed := by
  have hne (b : Act) (hb : b.isTold = true) : b ≠ a := by
    rintro rfl
    rw [ha] at hb
    cases hb
  refine ⟨?_, ?_, ?_⟩
  · exact (mem_snoc_iff (hne _ rfl)).trans h.signal
  · exact (mem_snoc_iff (hne _ rfl)).trans h.started
  · exact (mem_snoc_iff (hne _ rfl)).trans h.confirmed

theorem Past.ends {as : List Act} {a : Act} (h : Past as none false) (ended : Ended)
    (hsignal : a = .signal ↔ ended = .signalled)
    (hstarted : a = .started (.ok ()) ↔ ended = .finished (.ok ()))
    (hconfirmed : a ≠ .deregistered (.ok ())) : Past (as ++ [a]) (some ended) false := by
  have hadd {b : Act} (hb : b ∈ as ↔ none = some ended) : b ∈ as ++ [a] ↔ a = b := by
    rw [List.mem_append, List.mem_singleton, or_iff_right (fun hmem => by cases hb.mp hmem)]
    exact eq_comm
  have hnone {b : Act} {e : Ended} (hb : b ∈ as ↔ none = some e) : b ∈ as ↔ none = some ended :=
    iff_of_false (fun hmem => by cases hb.mp hmem) fun heq => by cases heq
  refine ⟨?_, ?_, (mem_snoc_iff hconfirmed.symm).trans h.confirmed⟩
  · rw [hadd (hnone h.signal), hsignal, Option.some.injEq]
  · rw [hadd (hnone h.started), hstarted, Option.some.injEq]

theorem Past.answered {as : List Act} {ended : Option Ended} (h : Past as ended false)
    (res : Except NrfError Unit) : Past (as ++ [.deregistered res]) ended res.toBool := by
  cases res with
  | error err => exact h.other rfl
  | ok =>
    refine ⟨?_, ?_, iff_of_true (List.mem_append_right _ (List.mem_singleton_self _)) rfl⟩
    · exact (mem_snoc_iff (fun heq => by cases heq)).trans h.signal
    · exact (mem_snoc_iff (fun heq => by cases heq)).trans h.started

/-! ## Where a run stands

The invariant has one case for each state of a run, with what was sent by then. Numbers of requests
come out of the order of the states, since each is passed at most once. -/

/-- A run that has returned. -/
structure Returned (as : List Act) (s : State) (res : Except NfError Unit) : Prop where
  registrations : s.registrations.length ≤ 1
  deregistrations : s.deregistrations.length ≤ 1
  ok_iff : res = .ok () ↔
    .deregistered (.ok ()) ∈ as ∧ (.signal ∈ as ∨ .started (.ok ()) ∈ as)
  confirmed : .deregistered (.ok ()) ∈ as → s.deregistrations = [s.app.nrfClient.nfInstanceId]

/-- What was sent, and what has happened. -/
def Stage (as : List Act) (s : State) : Run → Prop
  | .initializing | .selecting .registering =>
    Past as none false ∧ s.registrations = [] ∧ s.deregistrations = []
  | .selecting .inFlight | .selecting .starting =>
    Past as none false ∧ s.registrations.length = 1 ∧ s.deregistrations = []
  | .deregistering ended | .authorizing ended _ =>
    Past as (some ended) false ∧ s.registrations.length ≤ 1 ∧ s.deregistrations = []
  | .deregisterInFlight ended =>
    Past as (some ended) false ∧ s.registrations.length ≤ 1 ∧
      s.deregistrations = [s.app.nrfClient.nfInstanceId]
  | .returned res => Returned as s res

theorem returned_finish {as : List Act} {s : State} {ended : Ended} {confirmed : Bool}
    (hpast : Past as (some ended) confirmed) (hregistrations : s.registrations.length ≤ 1)
    (hderegistrations : s.deregistrations.length ≤ 1) {res : Except NrfError Unit}
    (hres : res = .ok () ↔ confirmed = true)
    (hconfirmed : confirmed = true → s.deregistrations = [s.app.nrfClient.nfInstanceId]) :
    Returned as (s.finish ended res) (result ended (res.mapError .nrfError)) := by
  have hmapped : res.mapError OmniPathError.nrfError = .ok () ↔ res = .ok () := by
    cases res with
    | error err => exact iff_of_false (fun h => by cases h) fun h => by cases h
    | ok => exact iff_of_true rfl rfl
  refine ⟨hregistrations, hderegistrations, ?_, fun hmem => hconfirmed (hpast.confirmed.mp hmem)⟩
  rw [result_ok_iff, hmapped, hres, hpast.confirmed, hpast.signal, hpast.started, Option.some.injEq,
    Option.some.injEq]

theorem returned_unsent {as : List Act} {s : State} {ended : Ended}
    (hpast : Past as (some ended) false) (hregistrations : s.registrations.length ≤ 1)
    (hderegistrations : s.deregistrations = []) (err : NrfError) :
    Returned as (s.finish ended (.error err)) (result ended (.error (.nrfError err))) := by
  have hfew : s.deregistrations.length ≤ 1 := by
    rw [hderegistrations]
    exact Nat.zero_le _
  have hres : (.error err : Except NrfError Unit) = .ok () ↔ false = true :=
    iff_of_false (fun heq => by cases heq) Bool.false_ne_true
  exact returned_finish hpast hregistrations hfew hres fun heq => absurd heq Bool.false_ne_true

/-- The NRF accepts a registration. This may come at any time after the request, also when nobody
waits for it any more, and no stage depends on when. -/
theorem Stage.accept {as : List Act} {s : State} {nfInstanceId : NfInstanceId}
    (h : Stage as s s.run) :
    Stage (as ++ [.accept nfInstanceId]) { s with accepted := s.accepted ++ [nfInstanceId] }
      s.run := by
  -- the NRF accepts only what was sent, so there is a request in flight or one was given up
  cases hrun : s.run with
  | initializing | deregistering | authorizing | deregisterInFlight =>
    rw [hrun] at h
    exact ⟨h.1.other rfl, h.2⟩
  | selecting main =>
    rw [hrun] at h
    cases main <;> exact ⟨h.1.other rfl, h.2⟩
  | returned res =>
    rw [hrun] at h
    have hsame {b : Act} (hb : b.isTold = true) : b ∈ as ++ [.accept nfInstanceId] ↔ b ∈ as :=
      mem_snoc_iff (by rintro rfl; cases hb)
    refine ⟨h.registrations, h.deregistrations, ?_, fun hmem => ?_⟩
    · rw [hsame rfl, hsame rfl, hsame rfl]
      exact h.ok_iff
    · exact h.confirmed ((hsame rfl).mp hmem)

variable {fromStr : List Char → Option NfInstanceId}

/-- Every step leads to a state of which the invariant holds. The cases follow the course of a run,
and each names what is remembered of it so far. -/
theorem Stage.step {as : List Act} {s s' : State} {a : Act} (hconf : Configured s)
    (h : Stage as s s.run) (hstep : Step fromStr s a s') : Stage (as ++ [a]) s' s'.run := by
  -- each step leads from a stage to the next one, or ends the run
  cases hstep with
  | initialized hrun =>
    rw [hrun] at h
    exact ⟨h.1.other rfl, h.2⟩
  | @initializeFailed err hrun =>
    rw [hrun] at h
    obtain ⟨hpast, hregistrations, hderegistrations⟩ := h
    have hnot : .deregistered (.ok ()) ∉ as ++ [.initialized (.error err)] := fun hmem => by
      cases (hpast.other (a := .initialized (.error err)) rfl).confirmed.mp hmem
    refine ⟨?_, ?_, iff_of_false (fun heq => by cases heq) fun hmem => hnot hmem.1,
      fun hmem => absurd hmem hnot⟩
    · show s.registrations.length ≤ 1
      rw [hregistrations]
      exact Nat.zero_le _
    · show s.deregistrations.length ≤ 1
      rw [hderegistrations]
      exact Nat.zero_le _
  | register hrun =>
    rw [hrun] at h
    obtain ⟨hpast, hregistrations, hderegistrations⟩ := h
    refine ⟨hpast.other rfl, ?_, hderegistrations⟩
    show (s.registrations ++ [_]).length = 1
    rw [hregistrations]
    rfl
  | registerFailed hrun =>
    rw [hrun] at h
    obtain ⟨hpast, hregistrations, hderegistrations⟩ := h
    refine ⟨hpast.ends _ (by simp) (by simp) (by simp), ?_, hderegistrations⟩
    show s.registrations.length ≤ 1
    rw [hregistrations]
    exact Nat.zero_le _
  | accept hsent => exact h.accept
  -- the answer ends the registration, whichever it is
  | @answer exchange hrun haccepted =>
    rw [hrun] at h
    obtain ⟨hpast, hregistrations, hderegistrations⟩ := h
    unfold State.onAnswer
    split
    · exact ⟨hpast.other rfl, hregistrations, hderegistrations⟩
    · exact ⟨hpast.ends _ (by simp) (by simp) (by simp), hregistrations.le, hderegistrations⟩
  | started hrun =>
    rw [hrun] at h
    obtain ⟨hpast, hregistrations, hderegistrations⟩ := h
    exact ⟨hpast.ends _ (by simp) (by simp) (by simp), hregistrations.le, hderegistrations⟩
  -- a signal can come at any time, so it can be that nothing was registered
  | @signal main hrun =>
    have hselecting : Past as none false ∧ s.registrations.length ≤ 1 ∧ s.deregistrations = [] := by
      rw [hrun] at h
      cases main with
      | registering =>
        obtain ⟨hpast, hregistrations, hderegistrations⟩ := h
        rw [hregistrations]
        exact ⟨hpast, Nat.zero_le _, hderegistrations⟩
      | inFlight | starting => exact ⟨h.1, h.2.1.le, h.2.2⟩
    exact ⟨hselecting.1.ends _ (by simp) (by simp) (by simp), hselecting.2⟩
  | deregister hrun =>
    rw [hrun] at h
    obtain ⟨hpast, hregistrations, hderegistrations⟩ := h
    unfold State.onDeregister
    split
    · exact ⟨hpast.other rfl, hregistrations, hderegistrations⟩
    · refine ⟨hpast.other rfl, hregistrations, ?_⟩
      show s.deregistrations ++ [_] = _
      rw [hderegistrations]
      rfl
  | @deregisterFailed ended err hrun =>
    rw [hrun] at h
    obtain ⟨hpast, hregistrations, hderegistrations⟩ := h
    exact returned_unsent (hpast.other rfl) hregistrations hderegistrations err
  | @authorize ended nfInstanceId hrun =>
    obtain ⟨hsame, -⟩ := hconf.authorizing ended nfInstanceId hrun
    rw [hrun] at h
    obtain ⟨hpast, hregistrations, hderegistrations⟩ := h
    refine ⟨hpast.other rfl, hregistrations, ?_⟩
    show s.deregistrations ++ [nfInstanceId] = [s.app.nrfClient.nfInstanceId]
    rw [hderegistrations, hsame]
    rfl
  | @authorizeFailed ended nfInstanceId err hrun =>
    rw [hrun] at h
    obtain ⟨hpast, hregistrations, hderegistrations⟩ := h
    exact returned_unsent (hpast.other rfl) hregistrations hderegistrations err
  | @deregistered ended res hrun =>
    rw [hrun] at h
    obtain ⟨hpast, hregistrations, hderegistrations⟩ := h
    refine returned_finish (hpast.answered res) hregistrations ?_ ?_ fun _ => hderegistrations
    · show s.deregistrations.length ≤ 1
      rw [hderegistrations]
      exact Nat.le_refl _
    · cases res with
      | error err => exact iff_of_false (fun heq => by cases heq) Bool.false_ne_true
      | ok => exact iff_of_true rfl rfl

end UnifyAir.OmniPath
