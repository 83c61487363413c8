import UnifyAir.Network.Spec
import UnifyAir.Store.Index

/-!
# UnifyAir — the two tables of `Associations`

`Associations` has the associations under their ids and the set of their address pairs.
`add_tnla_association` asks the set by inserting into it, and `remove_tnla_association` takes the
pair of the association it finds. Ids come from a counter of the whole process, so associations that
are made elsewhere move it too.

* **`tables_in_step`** — after any additions and removals the set has the pairs of the stored
  associations, each of one association, which is stored under its id.
-/

namespace UnifyAir.Network

open Concurrency Store

variable {A : Type} [DecidableEq A]

/-- One `Associations`, with `TNLA_ASSOCIATION_COUNTER`. -/
structure Tables (A : Type) where
  table : Associations A
  counter : CounterUsize

/-- What is done with it. -/
inductive TableAct (A : Type) where
  | add (stream : SctpStream A)
  | remove (id : BitVec 64)
  -- an association is made that is not added to this table
  | elsewhere (stream : SctpStream A)
  deriving DecidableEq, Repr

/-- Additions and removals in any order, from `Associations::new` on. -/
def tables (A : Type) [DecidableEq A] (counter : CounterUsize) :
    System (Tables A) (TableAct A) where
  init := ⟨.new A, counter⟩
  step s
    | .add stream =>
      let (_, table, counter) := s.table.addTnlaAssociation stream s.counter
      some ⟨table, counter⟩
    | .remove id => some { s with table := (s.table.removeTnlaAssociation id).2 }
    | .elsewhere stream => some { s with counter := (TnlaAssociation.new stream s.counter).2 }

/-- The stream tells both of its addresses, so that an association can be made of it. -/
def SctpStream.connected (stream : SctpStream A) : Bool :=
  stream.localAddr.isOk && stream.peerAddr.isOk

/-- The action makes an association, whether it is stored or not. -/
def TableAct.creates : TableAct A → Bool
  | .add stream | .elsewhere stream => stream.connected
  | .remove _ => false

/-- How many associations are created. -/
def created (as : List (TableAct A)) : Nat := as.countP TableAct.creates

/-! ## Making an association

`TnlaAssociation::new` asks the stream for both addresses before it takes an id. So the counter
moves exactly for the streams that tell both. -/

omit [DecidableEq A] in
/-- What `TnlaAssociation::new` returns, for a stream that tells its addresses and for one that does
not. -/
theorem new_cases (stream : SctpStream A) (counter : CounterUsize) :
    (stream.connected = false ∧
      ∃ err, TnlaAssociation.new stream counter = (.error err, counter)) ∨
    stream.connected = true ∧ ∃ localAddr remoteAddr, stream.localAddr = .ok localAddr ∧
      stream.peerAddr = .ok remoteAddr ∧
      TnlaAssociation.new stream counter =
        (.ok ⟨counter.value, localAddr, remoteAddr, stream⟩, counter.increment.2) := by
  obtain ⟨localAddr, peerAddr⟩ := stream
  -- the local address is asked for first
  cases localAddr with
  | error err => exact .inl ⟨rfl, _, rfl⟩
  | ok localAddr =>
    cases peerAddr with
    | error err => exact .inl ⟨rfl, _, rfl⟩
    | ok remoteAddr => exact .inr ⟨rfl, _, _, rfl, rfl, rfl⟩

/-- What an addition does: no association can be made of the stream, or its pair is in the set, or
it is stored under the value of the counter. -/
inductive Addition (table : Associations A) (stream : SctpStream A) (counter : CounterUsize) :
    Except (NetworkError A) (TnlaAssociation A) × Associations A × CounterUsize → Prop where
  | failed (err : TnlaError) (hstream : stream.connected = false) :
      Addition table stream counter (.error (.tnlaCreationError err), table, counter)
  | duplicate {localAddr remoteAddr : A} (hlocal : stream.localAddr = .ok localAddr)
      (hremote : stream.peerAddr = .ok remoteAddr)
      (hset : table.associationsSet (localAddr, remoteAddr) = true) :
      Addition table stream counter
        (.error (.associationAlreadyExists localAddr remoteAddr), table, counter.increment.2)
  | stored {localAddr remoteAddr : A} (hlocal : stream.localAddr = .ok localAddr)
      (hremote : stream.peerAddr = .ok remoteAddr)
      (hset : table.associationsSet (localAddr, remoteAddr) = false) :
      Addition table stream counter
        (.ok ⟨counter.value, localAddr, remoteAddr, stream⟩,
          table.insert ⟨counter.value, localAddr, remoteAddr, stream⟩, counter.increment.2)

theorem addition_cases (table : Associations A) (stream : SctpStream A) (counter : CounterUsize) :
    Addition table stream counter (table.addTnlaAssociation stream counter) := by
  unfold Associations.addTnlaAssociation
  -- no association without both addresses; with them the pair decides
  rcases new_cases stream counter with
    ⟨hstream, err, hnew⟩ | ⟨-, localAddr, remoteAddr, hlocal, hremote, hnew⟩
  · rw [hnew]
    exact .failed err hstream
  · rw [hnew]
    dsimp only
    split
    · next hset => exact .duplicate hlocal hremote hset
    · next hset => exact .stored hlocal hremote (Bool.eq_false_iff.mpr hset)

omit [DecidableEq A] in
theorem connected_of_ok {stream : SctpStream A} {localAddr remoteAddr : A}
    (hlocal : stream.localAddr = .ok localAddr) (hremote : stream.peerAddr = .ok remoteAddr) :
    stream.connected = true := by
  rw [SctpStream.connected, hlocal, hremote]
  rfl

/-! ## The tables over a run

The invariant counts the ids that were handed out. As long as there are fewer than `2 ^ 64` of them
the next one is not in the table, so an insert overwrites nothing. -/

/-- How many ids have been handed out since the counter stood at `start`, as the counter has it. -/
def since (start value : BitVec 64) : Nat := (value - start).toNat

/-- The ids of stored associations have been handed out before, each association is stored under
its own, and the set is the index of the pairs. -/
structure Kept (start : CounterUsize) (n : Nat) (s : Tables A) : Prop where
  counter : s.counter.value = start.value + BitVec.ofNat 64 n
  handedOut : ∀ id tnla, s.table.associations id = some tnla → since start.value id < n
  own : ∀ id tnla, s.table.associations id = some tnla → tnla.id = id
  indexed : Indexed s.table.associations s.table.associationsSet TnlaAssociation.pair

omit [DecidableEq A] in
theorem kept_new (start : CounterUsize) : Kept start 0 (⟨.new A, start⟩ : Tables A) where
  counter := (BitVec.add_zero _).symm
  handedOut := nofun
  own := nofun
  indexed := .empty _

variable {start : CounterUsize} {n : Nat} {s : Tables A}

omit [DecidableEq A] in
theorem Kept.increment_value (h : Kept start n s) :
    s.counter.increment.2.value = start.value + BitVec.ofNat 64 (n + 1) := by
  show s.counter.value + 1#64 = _
  rw [h.counter, BitVec.add_assoc, ← BitVec.ofNat_add]

omit [DecidableEq A] in
theorem Kept.skip (h : Kept start n s) : Kept start (n + 1) ⟨s.table, s.counter.increment.2⟩ where
  counter := h.increment_value
  handedOut id tnla hid := Nat.lt_succ_of_lt (h.handedOut id tnla hid)
  own := h.own
  indexed := h.indexed

omit [DecidableEq A] in
/-- The next id is free, unless the counter has come round. -/
theorem Kept.free (h : Kept start n s) (hn : n < 2 ^ 64) :
    s.table.associations s.counter.value = none ∧ since start.value s.counter.value = n := by
  have hsince : since start.value s.counter.value = n := by
    rw [since, h.counter, BitVec.add_comm, BitVec.add_sub_cancel, BitVec.toNat_ofNat]
    exact Nat.mod_eq_of_lt hn
  refine ⟨?_, hsince⟩
  cases hid : s.table.associations s.counter.value with
  | none => rfl
  | some tnla =>
    have := h.handedOut _ tnla hid
    omega

/-- An association is stored under the next id, and its pair goes into the set. `Store.Indexed` has
a rule for that. -/
theorem Kept.store (h : Kept start n s) (hn : n < 2 ^ 64) {tnla : TnlaAssociation A}
    (hid : tnla.id = s.counter.value) (hset : s.table.associationsSet tnla.pair = false) :
    Kept start (n + 1) ⟨s.table.insert tnla, s.counter.increment.2⟩ := by
  obtain ⟨hfree, hsince⟩ := h.free hn
  rw [← hid] at hfree hsince
  exact {
    counter := h.increment_value
    handedOut := fun id tnla' hstored => by
      rcases update_cases hstored with ⟨rfl, -⟩ | ⟨-, hold⟩
      · omega
      · exact Nat.lt_succ_of_lt (h.handedOut id tnla' hold)
    own := fun id tnla' hstored => by
      rcases update_cases hstored with ⟨rfl, hnew⟩ | ⟨-, hold⟩
      · cases hnew
        rfl
      · exact h.own id tnla' hold
    indexed := h.indexed.insert hfree hset }

/-- An association is taken out, and its pair with it. No other association has that pair. -/
theorem Kept.remove (h : Kept start n s) (id : BitVec 64) :
    Kept start n { s with table := (s.table.removeTnlaAssociation id).2 } := by
  unfold Associations.removeTnlaAssociation
  split
  · -- it is stored under its own id, so what is found is what is removed
    next tnla hid =>
    -- what is still there was there
    have hold : ∀ {id' tnla'}, Function.update s.table.associations id none id' = some tnla' →
        s.table.associations id' = some tnla' := fun hstored => by
      rcases update_cases hstored with ⟨-, hnew⟩ | ⟨-, hold⟩
      · cases hnew
      · exact hold
    exact {
      counter := h.counter
      handedOut := fun id' tnla' hstored => h.handedOut id' tnla' (hold hstored)
      own := fun id' tnla' hstored => h.own id' tnla' (hold hstored)
      indexed := h.indexed.remove hid }
  · exact h

/-- One action keeps the tables. The counter never moves back and never hands out a number twice, as
long as there are fewer than `2 ^ 64` of them. -/
theorem Kept.step (h : Kept start n s) {a : TableAct A} {s' : Tables A}
    (hstep : (tables A start).step s a = some s') (hn : n + (if a.creates then 1 else 0) < 2 ^ 64) :
    Kept start (n + if a.creates then 1 else 0) s' := by
  -- a removal, a stream that another listener made an association of, and one of this listener
  cases a with
  | remove id =>
    cases hstep
    exact h.remove id
  | elsewhere stream =>
    cases hstep
    rcases new_cases stream s.counter with
      ⟨hstream, err, hnew⟩ | ⟨hstream, localAddr, remoteAddr, -, -, hnew⟩
    · rw [TableAct.creates, hstream, hnew]
      exact h
    · rw [TableAct.creates, hstream, hnew]
      exact h.skip
  | add stream =>
    obtain rfl : ⟨(s.table.addTnlaAssociation stream s.counter).2.1,
        (s.table.addTnlaAssociation stream s.counter).2.2⟩ = s' := Option.some.inj hstep
    have hadd := addition_cases s.table stream s.counter
    generalize s.table.addTnlaAssociation stream s.counter = out at hadd ⊢
    cases hadd with
    | failed err hstream =>
      rw [TableAct.creates, hstream]
      exact h
    | duplicate hlocal hremote =>
      rw [TableAct.creates, connected_of_ok hlocal hremote]
      exact h.skip
    | stored hlocal hremote hset =>
      rw [TableAct.creates, connected_of_ok hlocal hremote] at hn ⊢
      exact h.store (Nat.lt_of_succ_lt hn) rfl hset

/-- By induction on the run; a prefix has created no more associations than the whole. -/
theorem kept_of_run {as : List (TableAct A)} (run : (tables A start).Run as s)
    (hn : created as < 2 ^ 64) : Kept start (created as) s := by
  refine run.history
    (P := fun as s => created as < 2 ^ 64 → Kept start (created as) s) ?_ ?_ hn
  · exact fun _ => kept_new start
  · intro as s a s' _ ih _ hstep hn
    have hcreated : created (as ++ [a]) = created as + if a.creates then 1 else 0 := by
      rw [created, List.countP_append, List.countP_singleton]
      rfl
    rw [hcreated] at hn ⊢
    exact (ih (by omega)).step hstep hn

/-! ## In step

The invariant as the two functions see it: what they refuse, what they return and what they leave
behind. -/

/-- What is to hold of `Associations` between two calls. -/
structure InStep (table : Associations A) : Prop where
  distinct : ∀ id id' tnla tnla', table.associations id = some tnla →
    table.associations id' = some tnla' → tnla.pair = tnla'.pair → id = id'
  set_iff : ∀ pair, table.associationsSet pair = true ↔
    ∃ id tnla, table.associations id = some tnla ∧ tnla.pair = pair
  own : ∀ id tnla, table.associations id = some tnla → tnla.id = id
  /-- an addition is refused as a duplicate if and only if its pair is there -/
  refused_iff : ∀ stream counter localAddr remoteAddr,
    (table.addTnlaAssociation stream counter).1 =
        .error (.associationAlreadyExists localAddr remoteAddr) ↔
      stream.localAddr = .ok localAddr ∧ stream.peerAddr = .ok remoteAddr ∧
        table.associationsSet (localAddr, remoteAddr) = true
  /-- and then changes nothing -/
  refused : ∀ stream counter localAddr remoteAddr,
    (table.addTnlaAssociation stream counter).1 =
        .error (.associationAlreadyExists localAddr remoteAddr) →
      (table.addTnlaAssociation stream counter).2.1 = table
  /-- a removal frees the pair for another association -/
  removed : ∀ id tnla, table.associations id = some tnla →
    (table.removeTnlaAssociation id).1 = some tnla ∧
      (table.removeTnlaAssociation id).2.associations id = none ∧
      ∀ stream counter, stream.localAddr = .ok tnla.localAddr →
        stream.peerAddr = .ok tnla.remoteAddr → ∃ tnla',
          ((table.removeTnlaAssociation id).2.addTnlaAssociation stream counter).1 = .ok tnla' ∧
            tnla'.pair = tnla.pair
  absent : ∀ id, table.associations id = none → table.removeTnlaAssociation id = (none, table)

/-- A stream is refused exactly for a pair in the set. It has both addresses then, for a stream that
cannot tell them fails before the set is looked at. -/
theorem refused_iff (table : Associations A) (stream : SctpStream A) (counter : CounterUsize)
    (localAddr remoteAddr : A) :
    (table.addTnlaAssociation stream counter).1 =
        .error (.associationAlreadyExists localAddr remoteAddr) ↔
      stream.localAddr = .ok localAddr ∧ stream.peerAddr = .ok remoteAddr ∧
        table.associationsSet (localAddr, remoteAddr) = true := by
  have hadd := addition_cases table stream counter
  generalize table.addTnlaAssociation stream counter = out at hadd ⊢
  -- each way out is met with the condition
  cases hadd with
  | failed err hstream =>
    refine iff_of_false nofun fun ⟨hlocal, hremote, _⟩ => ?_
    rw [connected_of_ok hlocal hremote] at hstream
    cases hstream
  | duplicate hlocal hremote hset =>
    rw [hlocal, hremote]
    constructor
    · intro heq
      cases heq
      exact ⟨rfl, rfl, hset⟩
    · intro ⟨hlocal', hremote', _⟩
      cases hlocal'
      cases hremote'
      rfl
  | stored hlocal hremote hset =>
    refine iff_of_false nofun fun ⟨hlocal', hremote', hset'⟩ => ?_
    cases hlocal.symm.trans hlocal'
    cases hremote.symm.trans hremote'
    rw [hset] at hset'
    cases hset'

theorem refused_unchanged {table : Associations A} {stream : SctpStream A}
    {counter : CounterUsize} {localAddr remoteAddr : A}
    (h : (table.addTnlaAssociation stream counter).1 =
      .error (.associationAlreadyExists localAddr remoteAddr)) :
    (table.addTnlaAssociation stream counter).2.1 = table := by
  have hadd := addition_cases table stream counter
  generalize table.addTnlaAssociation stream counter = out at hadd h ⊢
  cases hadd with
  | failed | stored => cases h
  | duplicate => rfl

/-- A stream with its addresses, whose pair is not in the set, is stored. There is no other reason
to refuse it, and nothing that can fail any more. -/
theorem add_of_free {table : Associations A} {stream : SctpStream A} (counter : CounterUsize)
    {localAddr remoteAddr : A} (hlocal : stream.localAddr = .ok localAddr)
    (hremote : stream.peerAddr = .ok remoteAddr)
    (hset : table.associationsSet (localAddr, remoteAddr) = false) :
    ∃ tnla, (table.addTnlaAssociation stream counter).1 = .ok tnla ∧
      tnla.pair = (localAddr, remoteAddr) := by
  have hadd := addition_cases table stream counter
  generalize table.addTnlaAssociation stream counter = out at hadd ⊢
  -- two of the three ways out contradict what is known of the stream
  cases hadd with
  | failed err hstream =>
    rw [connected_of_ok hlocal hremote] at hstream
    cases hstream
  | duplicate hlocal' hremote' hset' =>
    cases hlocal.symm.trans hlocal'
    cases hremote.symm.trans hremote'
    rw [hset] at hset'
    cases hset'
  | stored hlocal' hremote' =>
    cases hlocal.symm.trans hlocal'
    cases hremote.symm.trans hremote'
    exact ⟨_, rfl, rfl⟩

theorem remove_of_some {table : Associations A} {id : BitVec 64} {tnla : TnlaAssociation A}
    (h : table.associations id = some tnla) : table.removeTnlaAssociation id =
      (some tnla,
        { associations := Function.update table.associations id none
          associationsSet := Function.update table.associationsSet tnla.pair false }) := by
  rw [Associations.removeTnlaAssociation, h]

/-- **The tables are in step.** After any additions and removals, with fewer than 2^64 associations
created in the process meanwhile. That includes those which other code has created: they use the
same counter. -/
theorem tables_in_step {as : List (TableAct A)} (run : (tables A start).Run as s)
    (hcreated : created as < 2 ^ 64) : InStep s.table := by
  have h := kept_of_run run hcreated
  exact {
    distinct := h.indexed.unique
    set_iff := h.indexed.mem_iff
    own := h.own
    refused_iff := refused_iff s.table
    refused := fun _ _ _ _ => refused_unchanged
    removed := fun id tnla hid => by
      rw [remove_of_some hid]
      exact ⟨rfl, Function.update_self .., fun stream counter hlocal hremote =>
        add_of_free counter hlocal hremote (Function.update_self ..)⟩
    absent := fun id hid => by rw [Associations.removeTnlaAssociation, hid] }

/-- A stream between two addresses. -/
def streamBetween (localAddr remoteAddr : Nat) : SctpStream Nat := ⟨.ok localAddr, .ok remoteAddr⟩

/-- An addition, a duplicate, a removal, and the same pair again. -/
def addTwiceAndRemove : List (TableAct Nat) :=
  [.add (streamBetween 1 2), .add (streamBetween 1 2), .remove 1, .add (streamBetween 1 2)]

/-- The duplicate is refused and uses up an id; after the removal the pair can be added again. -/
theorem tables_in_step_addTwiceAndRemove :
    ∃ s, (tables Nat (.new 64)).Run addTwiceAndRemove s ∧ s.table.associations 1 = none ∧
      s.table.associations 3 = some ⟨3, 1, 2, streamBetween 1 2⟩ ∧ InStep s.table := by
  let s := ((tables Nat (.new 64)).exec addTwiceAndRemove).get (by decide)
  have hrun : (tables Nat (.new 64)).Run addTwiceAndRemove s := System.run_of_exec (by simp [s])
  exact ⟨s, hrun, by decide, by decide, tables_in_step hrun (by decide)⟩

end UnifyAir.Network
