import UnifyAir.Concurrency.Parts
import UnifyAir.Network.Spec
import UnifyAir.Ngap.Loop

/-!
# UnifyAir — everything the AMF does with its gNBs

`NgapContext::run` in `app/src/ngap/engine/controller.rs` accepts connections until it is cancelled
and spawns `start_ngap_processing` for each; a connection that has been set up runs `run_ngap_loop`,
which spawns a task for each message. All of this goes on at the same time, for any number of gNBs.

The system puts together the network with its connections and the message loops: the loop of a
connection has a state of its own, and a read of it is one step of both, since what was read decides
whether the loop goes on. `sent` is a history of what was written on each association.
-/

namespace UnifyAir.NgapContext

open Concurrency
open InitialUe (HandlerId)
open Ngap (ConnId Conn NgapPdu LoopRead)
open Ngap.Loop (Bytes Codec encodeAndWriteNgapPdu)

/-- What is written on an association. -/
inductive Sent where
  -- by `try_ng_setup`
  | setup (pdu : NgapPdu)
  -- by the task of a message
  | answer (answer : HandlerId × Bytes)
  deriving DecidableEq, Repr

variable {G A P D N E : Type}

structure State (G A P D : Type) where
  network : Network.State G A
  -- the loop in `run` goes on
  accepting : Bool
  loops : ConnId → Ngap.Loop.State P D
  sent : ConnId → List Sent

/-- `NgapContext::new`. -/
def State.new (G A P D : Type) : State G A P D where
  network := .new G A
  accepting := true
  loops := fun _ => .new P D
  sent := fun _ => []

inductive Act (G A : Type) where
  -- the listener accepts a stream, or fails
  | accept (c : ConnId) (accepted : Except Network.IoError (Network.SctpStream A))
  -- a connection takes its next step, other than a read of its loop
  | conn (a : Ngap.Act G)
  -- the loop of connection `c` reads
  | read (c : ConnId) (received : Except Unit Bytes)
  -- a task of this loop, or the handler of one, takes its next step
  | task (c : ConnId) (a : Ngap.Loop.Act)
  -- `run` is cancelled
  | cancel

namespace State

/-- Where a connection stands. -/
def conn (s : State G A P D) (c : ConnId) : Conn G := s.network.ngap.conns c

def setLoop (s : State G A P D) (c : ConnId) (loop : Ngap.Loop.State P D) : State G A P D :=
  { s with loops := Function.update s.loops c loop }

/-- What was written is added to the history. -/
def record (s : State G A P D) (c : ConnId) (written : Option Sent) : State G A P D :=
  { s with sent := Function.update s.sent c (s.sent c ++ written.toList) }

/-- A loop that was set is the one that is read. -/
@[simp] theorem setLoop_loops_self (s : State G A P D) (c : ConnId) (loop : Ngap.Loop.State P D) :
    (s.setLoop c loop).loops c = loop := Function.update_self ..

/-- The history of what was written is apart from the loops. -/
@[simp] theorem record_loops (s : State G A P D) (c : ConnId) (written : Option Sent) :
    (s.record c written).loops = s.loops := rfl

end State

/-- What a read of the loop is to the connection. -/
def loopRead : Except Unit Bytes → LoopRead
  | .error () => .error
  | .ok [] => .closed
  | .ok (_ :: _) => .message

/-- What a step of a connection writes. -/
def setupWrites (s : Ngap.State G) : Ngap.Act G → Option NgapPdu
  | .write c true => match s.conns c with
    | .writing _ pdu _ => some pdu
    | _ => none
  | _ => none

/-- What a task of a loop writes. -/
def taskWrites (codec : Codec P D N E) (s : Ngap.Loop.State P D) :
    Ngap.Loop.Act → Option (HandlerId × Bytes)
  | .write m written => match s.tasks m with
    | .responding response =>
      (encodeAndWriteNgapPdu codec response written).1.map fun bytes => (m, bytes)
    | _ => none
  | _ => none

namespace State

/-- A connection after its step. -/
def onConn (s : State G A P D) (a : Ngap.Act G) (network : Network.State G A) : State G A P D :=
  { s with network }.record a.conn ((setupWrites s.network.ngap a).map .setup)

/-- A loop after the step of one of its tasks. -/
def onTask (codec : Codec P D N E) (s : State G A P D) (c : ConnId) (a : Ngap.Loop.Act)
    (loop : Ngap.Loop.State P D) : State G A P D :=
  (s.setLoop c loop).record c ((taskWrites codec (s.loops c) a).map .answer)

end State

variable [DecidableEq G] [DecidableEq A]

/-- One step of the system. -/
def step (codec : Codec P D N E) (s : State G A P D) : Act G A → Option (State G A P D)
  | .accept c accepted =>
    if s.accepting then
      (Network.step s.network (.accept c accepted)).map fun network => { s with network }
    else none
  | .conn (.loopRead ..) => none
  | .conn a => (Network.step s.network (.conn a)).map (s.onConn a)
  | .read c received =>
    (Network.step s.network (.conn (.loopRead c (loopRead received)))).bind fun network =>
      (Ngap.Loop.step codec c (s.loops c) (.read received)).map fun loop =>
        { s with network }.setLoop c loop
  | .task _ (.read _) => none
  | .task c a => (Ngap.Loop.step codec c (s.loops c) a).map (s.onTask codec c a)
  | .cancel => if s.accepting then some { s with accepting := false } else none

/-- One `NgapContext` with all that its tasks do. -/
def system (G A : Type) [DecidableEq G] [DecidableEq A] (codec : Codec P D N E) :
    System (State G A P D) (Act G A) where
  init := .new G A P D
  step := step codec

/-! ## What one step can do

The step function again as an inductive relation. A read of a loop is the only step of two parts at
once. -/

/-- The transitions of the system. -/
inductive Step (codec : Codec P D N E) (s : State G A P D) :
    Act G A → State G A P D → Prop where
  | accept {c : ConnId} {accepted : Except Network.IoError (Network.SctpStream A)}
      {network : Network.State G A}
      (hnetwork : Network.step s.network (.accept c accepted) = some network) :
      Step codec s (.accept c accepted) { s with network }
  | conn {a : Ngap.Act G} {network : Network.State G A}
      (ha : ∀ c outcome, a ≠ .loopRead c outcome)
      (hnetwork : Network.step s.network (.conn a) = some network) :
      Step codec s (.conn a) (s.onConn a network)
  | read {c : ConnId} {received : Except Unit Bytes} {network : Network.State G A}
      {loop : Ngap.Loop.State P D}
      (hnetwork : Network.step s.network (.conn (.loopRead c (loopRead received))) = some network)
      (hloop : Ngap.Loop.step codec c (s.loops c) (.read received) = some loop) :
      Step codec s (.read c received) ({ s with network }.setLoop c loop)
  | task {c : ConnId} {a : Ngap.Loop.Act} {loop : Ngap.Loop.State P D}
      (ha : ∀ received, a ≠ .read received)
      (hloop : Ngap.Loop.step codec c (s.loops c) a = some loop) :
      Step codec s (.task c a) (s.onTask codec c a loop)
  | cancel : Step codec s .cancel { s with accepting := false }

/-- The inversion of the step function. A connection is accepted, or moves as in `Ngap.Spec`; its
loop reads, and the tasks of the loop move, as in `Ngap.Loop`; and after `cancel` no more
connections are accepted. -/
theorem step_cases {codec : Codec P D N E} {s s' : State G A P D} {a : Act G A}
    (h : step codec s a = some s') : Step codec s a s' := by
  cases a with
  | accept c accepted =>
    simp only [step] at h
    split at h
    · obtain ⟨network, hnetwork, rfl⟩ := Option.map_eq_some_iff.mp h
      exact .accept hnetwork
    · cases h
  | conn a =>
    by_cases ha : ∃ c outcome, a = .loopRead c outcome
    · obtain ⟨c, outcome, rfl⟩ := ha
      cases h
    · have hnext : (Network.step s.network (.conn a)).map (s.onConn a) = some s' := by
        cases a with
        | loopRead c outcome => exact absurd ⟨c, outcome, rfl⟩ ha
        | accept | read | check | evaluate | write | insert | spawn | close | panic => exact h
      obtain ⟨network, hnetwork, rfl⟩ := Option.map_eq_some_iff.mp hnext
      exact .conn (fun c outcome heq => ha ⟨c, outcome, heq⟩) hnetwork
  | read c received =>
    obtain ⟨network, hnetwork, hnext⟩ := Option.bind_eq_some_iff.mp h
    obtain ⟨loop, hloop, rfl⟩ := Option.map_eq_some_iff.mp hnext
    exact .read hnetwork hloop
  | task c a =>
    by_cases ha : ∃ received, a = .read received
    · obtain ⟨received, rfl⟩ := ha
      cases h
    · have hnext : (Ngap.Loop.step codec c (s.loops c) a).map (s.onTask codec c a) = some s' := by
        cases a with
        | read received => exact absurd ⟨received, rfl⟩ ha
        | decode | ue | returned | write => exact h
      obtain ⟨loop, hloop, rfl⟩ := Option.map_eq_some_iff.mp hnext
      exact .task (fun received heq => ha ⟨received, heq⟩) hloop
  | cancel =>
    simp only [step] at h
    split at h
    · cases h
      exact .cancel
    · cases h

/-! ## The parts

The network and each loop are parts of the system in the sense of `Concurrency.Parts`: a step is one
of the part, or the part does not move. So runs of the system are runs of the network and of every
loop, and their invariants hold here. -/

/-- What an action is to the network. -/
def Act.onNetwork : Act G A → Option (Network.Act G A)
  | .accept c accepted => some (.accept c accepted)
  | .conn a => some (.conn a)
  | .read c received => some (.conn (.loopRead c (loopRead received)))
  | .task .. | .cancel => none

/-- What an action is to the loop of connection `c`. -/
def Act.onLoop (c : ConnId) : Act G A → Option Ngap.Loop.Act
  | .read c' received => if c' = c then some (.read received) else none
  | .task c' a => if c' = c then some a else none
  | .accept .. | .conn _ | .cancel => none

variable {codec : Codec P D N E}

/-- The network with its connections. -/
def network (codec : Codec P D N E) : System.Part (system G A codec) (Network.system G A) where
  view s := s.network
  act := Act.onNetwork
  init := rfl
  moves h ha := by
    cases step_cases h with
    | accept hnetwork | conn _ hnetwork | read hnetwork =>
      cases ha
      exact hnetwork
    | task | cancel => cases ha
  rests h ha := by
    cases step_cases h with
    | accept | conn | read => cases ha
    | task | cancel => rfl

/-- The loop of connection `c`. -/
def loop (codec : Codec P D N E) (c : ConnId) :
    System.Part (system G A codec) (Ngap.Loop.system codec c) where
  view s := s.loops c
  act := Act.onLoop c
  init := rfl
  moves h ha := by
    cases step_cases h with
    | accept | conn | cancel => cases ha
    | read _ hloop | task _ hloop =>
      simp only [Act.onLoop] at ha
      split at ha
      · next hc =>
        subst hc
        cases ha
        simp only [State.onTask, State.record_loops, State.setLoop_loops_self]
        exact hloop
      · cases ha
  rests h ha := by
    cases step_cases h with
    | accept | conn | cancel => rfl
    | read | task =>
      simp only [Act.onLoop] at ha
      split at ha
      · cases ha
      · next hc => exact Function.update_of_ne (Ne.symm hc) ..

end UnifyAir.NgapContext
