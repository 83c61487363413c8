import UnifyAir.Network.Spec
import UnifyAir.Ngap.Registration
import UnifyAir.Store.Index

/-!
# UnifyAir — a gNB that comes back from the same address

`remove_tnla_association` is there and nothing calls it: the ends of connections are noticed
in the NGAP controller, which knows nothing of `Associations`. So a pair of addresses stays in
the set, and the next connection between the two is refused for ever.

* **`no_dead_associations_iff_no_end`** — the pairs in `Associations` are those of open
  connections, and only these refuse, exactly in the runs in which no connection ends.
* **`refused_after_close`** — a gNB that has closed its connection and reconnects.
-/

namespace UnifyAir.Network

open Concurrency
open Ngap (ConnId)

variable {G A : Type}

/-- A connection between the two addresses has been accepted and has not ended. -/
def State.OpenBetween (s : State G A) (pair : A × A) : Prop :=
  ∃ c tnla, s.tnla c = some tnla ∧ tnla.pair = pair ∧ s.ended c = false

/-- No step ends a connection. -/
def NoEnd [DecidableEq G] (s : State G A) : Act G A → Prop
  | .accept _ _ => True
  | .conn a => ending s.ngap a = none

instance [DecidableEq G] (s : State G A) : (a : Act G A) → Decidable (NoEnd s a)
  | .accept _ _ => .isTrue trivial
  | .conn a => inferInstanceAs (Decidable (ending s.ngap a = none))

/-- Each connection that was accepted has an association, no two have the same pair, and the set
has the pairs of all of them. -/
structure Tabled (s : State G A) : Prop where
  stored : ∀ pair, s.associations.associationsSet pair = true ↔
    ∃ c tnla, s.tnla c = some tnla ∧ tnla.pair = pair
  unique : ∀ c c' tnla tnla', s.tnla c = some tnla → s.tnla c' = some tnla' →
    tnla.pair = tnla'.pair → c = c'
  accepted : ∀ c, s.ngap.conns c ≠ .idle → ∃ tnla, s.tnla c = some tnla

/-- The invariant in the terms of `Store`: the set is the index of the pairs of the associations
that were made. -/
theorem Tabled.indexed {s : State G A} (h : Tabled s) :
    Store.Indexed s.tnla s.associations.associationsSet TnlaAssociation.pair where
  mem_iff := h.stored
  unique := h.unique

/-- Before any connection there are no associations, and no pairs. -/
theorem tabled_new (G A : Type) : Tabled (State.new G A) where
  stored _ := ⟨nofun, nofun⟩
  unique := nofun
  accepted _ h := absurd rfl h

variable [DecidableEq A]

/-- The pairs of dead connections do not block: a new connection is refused as a duplicate only
if a connection between its two addresses is open, and the set has the pairs of the open
connections. -/
structure NoDeadAssociations (s : State G A) : Prop where
  rejects_open : ∀ accepted localAddr remoteAddr,
    (s.acceptAndCreateTnla accepted).1 = .error (.associationAlreadyExists localAddr remoteAddr) →
    s.OpenBetween (localAddr, remoteAddr)
  pairs_open : ∀ pair, s.associations.associationsSet pair = true ↔ s.OpenBetween pair

/-- A refusal names a pair that is in the set. -/
theorem stored_of_rejected {s : State G A} {accepted : Except IoError (SctpStream A)}
    {localAddr remoteAddr : A} (h : (s.acceptAndCreateTnla accepted).1 =
      .error (.associationAlreadyExists localAddr remoteAddr)) :
    s.associations.associationsSet (localAddr, remoteAddr) = true := by
  cases accepted with
  | error err => cases h
  | ok stream =>
    have hadded := addTnlaAssociation_cases s.associations stream s.counter
    have hres : (s.associations.addTnlaAssociation stream s.counter).1 =
      .error (.associationAlreadyExists localAddr remoteAddr) := h
    generalize s.associations.addTnlaAssociation stream s.counter = out at hadded hres
    cases hadded with
    | failed | entered => cases hres
    | duplicate hset => cases hres; exact hset

/-- While no connection has ended the two readings of the set are the same: the pairs of all
connections, and those of the open ones. -/
theorem Tabled.noDead {s : State G A} (h : Tabled s) (hended : ∀ c, s.ended c = false) :
    NoDeadAssociations s := by
  have hpairs : ∀ pair, s.associations.associationsSet pair = true ↔ s.OpenBetween pair := by
    intro pair
    rw [h.stored pair]
    constructor
    · rintro ⟨c, tnla, hc, hpair⟩
      exact ⟨c, tnla, hc, hpair, hended c⟩
    · rintro ⟨c, tnla, hc, hpair, -⟩
      exact ⟨c, tnla, hc, hpair⟩
  exact ⟨fun _ _ _ hrej => (hpairs _).mp (stored_of_rejected hrej), hpairs⟩

variable [DecidableEq G]

/-! ## The table over a run

Nothing is ever taken out of the set. So the set is that of all connections there have been, and it
is right exactly until one of them ends. -/

theorem conn_ne_idle {s s' : Ngap.State G} {a : Ngap.Act G} (h : Ngap.Step s a s')
    (ha : ∀ c, a ≠ .accept c) : s.conns a.conn ≠ .idle := by
  cases h with
  | accept => exact absurd rfl (ha _)
  | read hc | check hc | evaluate hc | write hc | insertPanic hc | insert hc | spawn hc
  | loopRead hc | close hc | panic hc =>
    intro hidle
    cases hc.symm.trans hidle

/-- The connection that ends is the one that moves. There are four kinds of steps that end one: a
read during setup, a read of the loop, a write, and the insert that panics. -/
theorem conn_of_ending {s : Ngap.State G} {a : Ngap.Act G} {c : ConnId}
    (h : ending s a = some c) : a.conn = c := by
  -- an end is noticed at a read, a write or the insert
  cases a with
  | accept | check | evaluate | spawn | close => cases h
  | panic => cases h; rfl
  | read c' outcome =>
    cases outcome with
    | error | closed => cases h; rfl
    | undecodable | otherPdu | ngSetupRequest => cases h
  | loopRead c' outcome =>
    cases outcome with
    | error | closed => cases h; rfl
    | message => cases h
  | write c' written =>
    simp only [ending] at h
    split at h
    · split at h
      · cases h; rfl
      · cases h
    · cases h
  | insert c' =>
    simp only [ending] at h
    split at h
    · obtain ⟨_, -, rfl⟩ := Option.map_eq_some_iff.mp h
      rfl
    · cases h

/-- Every step keeps the table. Only an acceptance writes it, and it has checked the pair before. -/
theorem Tabled.step {s s' : State G A} {a : Act G A} (h : Tabled s) (hstep : Step s a s') :
    Tabled s' := by
  cases hstep with
  | refused => exact ⟨h.stored, h.unique, h.accepted⟩
  | @accepted c stream tnla ngap counter hc hset hnext =>
    have hindexed := h.indexed.insert hc hset
    refine ⟨hindexed.mem_iff, hindexed.unique, fun c' hidle => ?_⟩
    by_cases hcc : c' = c
    · subst hcc
      exact ⟨tnla, Function.update_self ..⟩
    · obtain ⟨tnla', hc'⟩ := h.accepted c' (hnext.conns_other hcc ▸ hidle)
      exact ⟨tnla', (Function.update_of_ne hcc ..).trans hc'⟩
  | @conn a ngap hnext ha =>
    refine ⟨h.stored, h.unique, fun c hidle => ?_⟩
    by_cases hca : c = a.conn
    · subst hca
      exact h.accepted _ (conn_ne_idle hnext ha)
    · exact h.accepted c (hnext.conns_other hca ▸ hidle)

theorem tabled_of_run {as : List (Act G A)} {s : State G A} (run : (system G A).Run as s) :
    Tabled s :=
  run.invariant (tabled_new G A) fun _ _ _ _ _ h _ hstep => h.step (step_cases hstep)

theorem open_of_run {as : List (Act G A)} {s : State G A} (run : (system G A).RunUnder NoEnd as s) :
    ∀ c, s.ended c = false := by
  refine run.invariant (P := fun s => ∀ c, s.ended c = false) (fun _ => rfl) ?_
  intro as s a s' _ h hcond hstep c
  have hmove : Step s a s' := step_cases hstep
  cases hmove with
  | refused | accepted => exact h c
  | @conn a ngap =>
    have hnone : ending s.ngap a = none := hcond
    simp only [State.advance, hnone]
    exact h c

/-- A step that ends a connection leaves its pair in the set. No other connection has this pair, so
none that is open has it. -/
theorem dead_of_ending {s : State G A} {a : Ngap.Act G} {c : ConnId} {ngap : Ngap.State G}
    (h : Tabled s) (hnext : Ngap.Step s.ngap a ngap) (ha : ∀ c, a ≠ .accept c)
    (hend : ending s.ngap a = some c) : ¬ NoDeadAssociations (s.advance a ngap) := by
  intro hno
  have hconn : a.conn = c := conn_of_ending hend
  obtain ⟨tnla, hc⟩ := h.accepted c (hconn ▸ conn_ne_idle hnext ha)
  have hin : s.associations.associationsSet tnla.pair = true :=
    (h.stored tnla.pair).mpr ⟨c, tnla, hc, rfl⟩
  obtain ⟨c', tnla', hc', hpair, hopen⟩ := (hno.pairs_open tnla.pair).mp hin
  -- the connection of that pair is the one that has just ended
  have hsame : c' = c := h.unique c' c tnla' tnla hc' hc hpair
  subst hsame
  simp [State.advance, hend] at hopen

/-- **Dead associations do not block, exactly as long as nothing ends.** In a run, the pairs in
`Associations` are those of open connections in every state, and only these refuse a new one, if and
only if no step of the run ends a connection. The first end leaves a dead pair, so the condition
cannot be weakened. -/
theorem no_dead_associations_iff_no_end {as : List (Act G A)} {s : State G A}
    (run : (system G A).Run as s) :
    (∀ pre t, pre <+: as → (system G A).Run pre t → NoDeadAssociations t) ↔
      (system G A).RunUnder NoEnd as s := by
  refine System.Run.always_iff (P := fun _ t => NoDeadAssociations t)
    (fun as s hunder => (tabled_of_run hunder.run).noDead (open_of_run hunder)) ?_ run
  intro as s a s' run hstep hno
  have hmove : Step s a s' := step_cases hstep
  cases hmove with
  | refused | accepted => trivial
  | @conn a ngap hnext ha =>
    show ending s.ngap a = none
    rw [Option.eq_none_iff_forall_ne_some]
    intro c hend
    exact dead_of_ending (tabled_of_run run.run) hnext ha hend hno

/-- A stream between the addresses 1 and 9. -/
def gnbStream : SctpStream Nat := ⟨.ok 1, .ok 9⟩

/-- A gNB connects and sets up. -/
def connect : List (Act Nat Nat) :=
  .accept 0 (.ok gnbStream) :: (Ngap.setUp 0 5).tail.map .conn

/-- It closes the connection. -/
def connectThenClose : List (Act Nat Nat) :=
  connect ++ [.conn (.loopRead 0 .closed), .conn (.close 0)]

/-- The gNB reconnects from the address it had, and is refused. Its connection was closed in an
orderly way, and its gNB context is gone. -/
theorem refused_after_close :
    ∃ s, (system Nat Nat).Run connectThenClose s ∧
      s.ngap.conns 0 = .finished (.ofRequest 0 (Ngap.gnbRequest 5)) ∧
      (s.acceptAndCreateTnla (.ok gnbStream)).1 = .error (.associationAlreadyExists 1 9) ∧
      ¬ s.OpenBetween (1, 9) ∧ ¬ NoDeadAssociations s := by
  let s := ((system Nat Nat).exec connectThenClose).get (by decide)
  have hrun : (system Nat Nat).Run connectThenClose s := System.run_of_exec (by simp [s])
  have hrej : (s.acceptAndCreateTnla (.ok gnbStream)).1 = .error (.associationAlreadyExists 1 9) := rfl
  have hclosed : ¬ s.OpenBetween (1, 9) := by
    rintro ⟨c, tnla, hc, -, hopen⟩
    match c with
    | 0 => cases hopen
    | _ + 1 => cases hc
  exact ⟨s, hrun, rfl, hrej, hclosed, fun hno => hclosed (hno.rejects_open _ 1 9 hrej)⟩

/-- While the first connection is open, its pair is rightly in the set. -/
theorem no_dead_connect :
    ∃ s, (system Nat Nat).Run connect s ∧ s.associations.associationsSet (1, 9) = true ∧
      NoDeadAssociations s := by
  let s := (((system Nat Nat).guarded fun s a => decide (NoEnd s a)).exec connect).get (by decide)
  have hrun : (system Nat Nat).RunUnder NoEnd connect s := .of_decide (by simp [s])
  exact ⟨s, hrun.run, rfl,
    (no_dead_associations_iff_no_end hrun.run).mpr hrun _ _ (List.prefix_refl _) hrun.run⟩

end UnifyAir.Network
