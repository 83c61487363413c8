import UnifyAir.Counter
import UnifyAir.Ngap.Spec

/-!
# UnifyAir — the table of SCTP associations

`app/src/ngap/network`. `accept_and_create_tnla` accepts a stream, makes a `TnlaAssociation` of
it and enters it into `Associations`, which refuses a second association between the same two
addresses; `run` then starts the NGAP processing of the connection in a task of its own.

The system is `Associations` together with the connections of `Ngap.Spec`. `accept` runs in
one loop, so it is one step; the stream it gets, and whether it gets one, is in the action. A
stream is what its socket answers when asked for its two addresses.

`tnla` is the association the task of a connection holds. `ended` is a history of the
connections: whose peer has closed it, whose read has failed, and whose setup is over without
a running loop.
-/

namespace UnifyAir.Network

open Concurrency
open Ngap (ConnId Conn onWritten)

/-- `std::io::Error`, by its OS code. -/
abbrev IoError := Nat

/-- `TnlaError`, as far as `TnlaAssociation::new` makes it. -/
inductive TnlaError where
  | localAddressError (err : IoError)
  | remoteAddressError (err : IoError)
  deriving DecidableEq, Repr

/-- `NetworkError`, as far as `accept_and_create_tnla` makes it. -/
inductive NetworkError (A : Type) where
  | connectionAcceptError (err : IoError)
  | tnlaCreationError (err : TnlaError)
  | associationAlreadyExists (localAddr remoteAddr : A)
  deriving DecidableEq, Repr

/-- `SctpStream`: what `local_addr` and `peer_addr` give. -/
structure SctpStream (A : Type) where
  localAddr : Except IoError A
  peerAddr : Except IoError A
  deriving DecidableEq, Repr

/-- `TnlaAssociation`. -/
structure TnlaAssociation (A : Type) where
  id : BitVec 64
  localAddr : A
  remoteAddr : A
  stream : SctpStream A
  deriving DecidableEq, Repr

variable {G A : Type}

/-- The addresses an association is between. -/
def TnlaAssociation.pair (tnla : TnlaAssociation A) : A × A := (tnla.localAddr, tnla.remoteAddr)

/-- `TnlaAssociation::new`, with `TNLA_ASSOCIATION_COUNTER` before and after. -/
def TnlaAssociation.new (stream : SctpStream A) (counter : CounterUsize) :
    Except TnlaError (TnlaAssociation A) × CounterUsize :=
  match stream.localAddr with
  | .error err => (.error (.localAddressError err), counter)
  | .ok localAddr => match stream.peerAddr with
    | .error err => (.error (.remoteAddressError err), counter)
    | .ok remoteAddr =>
      let (id, counter) := counter.increment
      (.ok ⟨id, localAddr, remoteAddr, stream⟩, counter)

structure Associations (A : Type) where
  associations : BitVec 64 → Option (TnlaAssociation A)
  associationsSet : A × A → Bool

namespace Associations

/-- `Associations::new`. -/
def new (A : Type) : Associations A where
  associations := fun _ => none
  associationsSet := fun _ => false

variable [DecidableEq A]

/-- The two inserts of an association that is not a duplicate. -/
def insert (table : Associations A) (tnla : TnlaAssociation A) : Associations A where
  associations := Function.update table.associations tnla.id (some tnla)
  associationsSet := Function.update table.associationsSet tnla.pair true

/-- `add_tnla_association`. -/
def addTnlaAssociation (table : Associations A) (stream : SctpStream A) (counter : CounterUsize) :
    Except (NetworkError A) (TnlaAssociation A) × Associations A × CounterUsize :=
  match TnlaAssociation.new stream counter with
  | (.error err, counter) => (.error (.tnlaCreationError err), table, counter)
  | (.ok tnla, counter) =>
    if table.associationsSet tnla.pair then
      (.error (.associationAlreadyExists tnla.localAddr tnla.remoteAddr), table, counter)
    else (.ok tnla, table.insert tnla, counter)

/-- `remove_tnla_association`, which nothing calls. -/
def removeTnlaAssociation (table : Associations A) (id : BitVec 64) :
    Option (TnlaAssociation A) × Associations A :=
  match table.associations id with
  | some tnla =>
    (some tnla,
      { associations := Function.update table.associations id none
        associationsSet := Function.update table.associationsSet tnla.pair false })
  | none => (none, table)

end Associations

structure State (G A : Type) where
  ngap : Ngap.State G
  associations : Associations A
  counter : CounterUsize
  tnla : ConnId → Option (TnlaAssociation A)
  ended : ConnId → Bool

/-- `Network::new` before any connection. -/
def State.new (G A : Type) : State G A where
  ngap := .new G
  associations := .new A
  counter := .new 64
  tnla := fun _ => none
  ended := fun _ => false

inductive Act (G A : Type) where
  -- the listener accepts a stream, which becomes connection `c`, or fails
  | accept (c : ConnId) (accepted : Except IoError (SctpStream A))
  -- a connection takes its next step
  | conn (a : Ngap.Act G)
  deriving DecidableEq, Repr

/-- The connection that a step ends: its peer has closed it, a read of it has failed, or its
setup comes to an end without a running loop. -/
def ending [DecidableEq G] (s : Ngap.State G) : Ngap.Act G → Option ConnId
  | .read c .closed | .read c .error | .loopRead c .closed | .loopRead c .error | .panic c =>
    some c
  | .write c written => match s.conns c with
    | .writing attempt _ result => match onWritten attempt result written with
      | .setupFailed => some c
      | _ => none
    | _ => none
  | .insert c => match s.conns c with
    -- the `unwrap` of the insert panics
    | .inserting ctx => (s.gnbContexts ctx.globalRanNodeId).map fun _ => c
    | _ => none
  | _ => none

namespace State

/-- `accept_and_create_tnla`. -/
def acceptAndCreateTnla [DecidableEq A] (s : State G A)
    (accepted : Except IoError (SctpStream A)) :
    Except (NetworkError A) (TnlaAssociation A) × State G A :=
  match accepted with
  | .error err => (.error (.connectionAcceptError err), s)
  | .ok stream =>
    let (res, associations, counter) := s.associations.addTnlaAssociation stream s.counter
    (res, { s with associations, counter })

variable [DecidableEq G]

/-- The `tokio::spawn` of `run` with `start_ngap_processing`. -/
def start (s : State G A) (c : ConnId) (tnla : TnlaAssociation A) : Option (State G A) :=
  (Ngap.step s.ngap (.accept c)).map fun ngap =>
    { s with ngap, tnla := Function.update s.tnla c (some tnla) }

/-- A step of a connection, with the history brought up to date. -/
def advance (s : State G A) (a : Ngap.Act G) (ngap : Ngap.State G) : State G A :=
  { s with
    ngap
    ended := match ending s.ngap a with
      | some c => Function.update s.ended c true
      | none => s.ended }

end State

variable [DecidableEq G] [DecidableEq A]

/-- One step of the system. -/
def step (s : State G A) : Act G A → Option (State G A)
  | .accept c accepted => match s.tnla c with
    | some _ => none
    | none => match s.acceptAndCreateTnla accepted with
      | (.ok tnla, s) => s.start c tnla
      | (.error _, s) => some s
  | .conn (.accept _) => none
  | .conn a => (Ngap.step s.ngap a).map (s.advance a)

/-- The network and the connections of one `NgapContext`. -/
def system (G A : Type) [DecidableEq G] [DecidableEq A] : System (State G A) (Act G A) where
  init := .new G A
  step := step

/-! ## What one step can do

`add_tnla_association` has three outcomes and an acceptance has two; a step of a connection is one
of `Ngap.Spec`. The inversion keeps these apart. -/

/-- What `add_tnla_association` can do: the stream gives no addresses, its pair is in the set,
or a new association is entered. -/
inductive Added (table : Associations A) (stream : SctpStream A) :
    Except (NetworkError A) (TnlaAssociation A) × Associations A × CounterUsize → Prop where
  | failed {err : TnlaError} {counter : CounterUsize} :
      Added table stream (.error (.tnlaCreationError err), table, counter)
  | duplicate {tnla : TnlaAssociation A} {counter : CounterUsize}
      (hset : table.associationsSet tnla.pair = true) :
      Added table stream
        (.error (.associationAlreadyExists tnla.localAddr tnla.remoteAddr), table, counter)
  | entered {tnla : TnlaAssociation A} {counter : CounterUsize}
      (hset : table.associationsSet tnla.pair = false) :
      Added table stream (.ok tnla, table.insert tnla, counter)

/-- The outcomes, one for each way out of the function. In the two failures the table stays as it
is. -/
theorem addTnlaAssociation_cases (table : Associations A) (stream : SctpStream A)
    (counter : CounterUsize) : Added table stream (table.addTnlaAssociation stream counter) := by
  unfold Associations.addTnlaAssociation
  split
  · exact .failed
  · split
    · next hset => exact .duplicate hset
    · next hset => exact .entered (Bool.eq_false_iff.mpr hset)

/-- The transitions of the system. -/
inductive Step (s : State G A) : Act G A → State G A → Prop where
  | refused {c : ConnId} {accepted : Except IoError (SctpStream A)} (counter : CounterUsize) :
      Step s (.accept c accepted) { s with counter }
  | accepted {c : ConnId} {stream : SctpStream A} {tnla : TnlaAssociation A}
      {ngap : Ngap.State G} (counter : CounterUsize) (hc : s.tnla c = none)
      (hset : s.associations.associationsSet tnla.pair = false)
      (hnext : Ngap.Step s.ngap (.accept c) ngap) :
      Step s (.accept c (.ok stream))
        { s with
          ngap
          associations := s.associations.insert tnla
          counter
          tnla := Function.update s.tnla c (some tnla) }
  | conn {a : Ngap.Act G} {ngap : Ngap.State G} (hnext : Ngap.Step s.ngap a ngap)
      (ha : ∀ c, a ≠ .accept c) : Step s (.conn a) (s.advance a ngap)

/-- The inversion of the step function: an acceptance that fails or is refused changes nothing; one
that is accepted makes an association and a connection; everything else is a step of the
connections. -/
theorem step_cases {s s' : State G A} {a : Act G A} (h : step s a = some s') : Step s a s' := by
  cases a with
  | accept c accepted =>
    simp only [step] at h
    split at h
    · cases h
    · next hc =>
      cases accepted with
      | error err => cases h; exact .refused s.counter
      | ok stream =>
        have hadded := addTnlaAssociation_cases s.associations stream s.counter
        simp only [State.acceptAndCreateTnla] at h
        generalize s.associations.addTnlaAssociation stream s.counter = out at h hadded
        cases hadded with
        | failed => cases h; exact .refused _
        | duplicate hset => cases h; exact .refused _
        | entered hset =>
          obtain ⟨ngap, hngap, rfl⟩ := Option.map_eq_some_iff.mp h
          exact .accepted _ hc hset (Ngap.step_cases hngap)
  | conn a =>
    have ha : ∀ c, a ≠ .accept c := by
      intro c hac
      subst hac
      cases h
    have hnext : (Ngap.step s.ngap a).map (s.advance a) = some s' := by
      cases a with
      | accept c => exact absurd rfl (ha c)
      | read | check | evaluate | write | insert | spawn | loopRead | close | panic => exact h
    obtain ⟨ngap, hngap, rfl⟩ := Option.map_eq_some_iff.mp hnext
    exact .conn (Ngap.step_cases hngap) ha

/-- An acceptance starts a connection, or none. Whatever is known of the connections can be used in
either case. -/
theorem Step.ngap_of_accept {s s' : State G A} {c : ConnId}
    {accepted : Except IoError (SctpStream A)} (h : Step s (.accept c accepted) s') :
    s'.ngap = s.ngap ∨ Ngap.Step s.ngap (.accept c) s'.ngap := by
  cases h with
  | refused => exact .inl rfl
  | accepted _ _ _ hnext => exact .inr hnext

/-- A step of a connection is one of the connections. -/
theorem Step.ngap_of_conn {s s' : State G A} {a : Ngap.Act G} (h : Step s (.conn a) s') :
    Ngap.Step s.ngap a s'.ngap := by
  cases h with
  | conn hnext => exact hnext

end UnifyAir.Network
