import UnifyAir.Network.Reconnection
import UnifyAir.Ngap.Answers
import UnifyAir.Ngap.Retries
import UnifyAir.NgapContext.Spec

/-!
# UnifyAir — what a gNB is told

On the association of a gNB `try_ng_setup` writes first, and the tasks of the message loop write
when it is over. So a gNB is told refusals, one for each failed attempt at most; then the NG Setup
Response, once; and after that nothing but answers to messages that its loop has read.

* **`Told.step`** — what setup has written, with where the connection stands.
* **`entered_of_task`** — before its loop begins, a connection has no task.
* **`own_association`** — no two connections are between the same addresses.
* **`conversation_of_run`** — everything that was written on an association, after any run.
-/

namespace UnifyAir.NgapContext

open Concurrency
open InitialUe (HandlerId)
open Ngap (ConnId Conn GnbContext NgapPdu NgapSetupError NgapResponseError NgSetupRequest
  NgSetupResponse Configuration initializationRetries)
open Ngap.Loop (Bytes Codec)

variable {G A P D N E : Type}

/-- Every answer of setup but the response. -/
def refuses : NgapPdu → Bool
  | .ngSetupResponse _ => false
  | .ngSetupFailure _ | .errorIndication _ => true

/-- Connection `c` has asked for this context, and this response was made of the configuration. -/
def Granted (as : List (Act G A)) (c : ConnId) (ctx : GnbContext G) (resp : NgSetupResponse) :
    Prop :=
  ∃ request config, .conn (.read c (.ngSetupRequest request)) ∈ as ∧
    .conn (.evaluate c config) ∈ as ∧ ctx = .ofRequest c request ∧
    (Ngap.evaluate config request.supportedTaList : Except (NgapResponseError G) _) = .ok resp

/-- A longer history has the request and the evaluation too. -/
theorem Granted.mono {as bs : List (Act G A)} {c : ConnId} {ctx : GnbContext G}
    {resp : NgSetupResponse} (h : Granted as c ctx resp) (hsub : as ⊆ bs) :
    Granted bs c ctx resp := by
  obtain ⟨request, config, hread, hevaluate, hctx, hresp⟩ := h
  exact ⟨request, config, hsub hread, hsub hevaluate, hctx, hresp⟩

/-! ## Setup

What `try_ng_setup` has written, attempt by attempt. An attempt writes one PDU at most, and after
the response there is no further attempt. -/

/-- The answers of the attempts before attempt `k`. -/
structure Refusals (k : Nat) (told : List NgapPdu) : Prop where
  lt : told.length < k
  le : k ≤ initializationRetries
  refuse : ∀ pdu ∈ told, refuses pdu = true

/-- What setup has written, for where the connection stands. -/
inductive Told (as : List (Act G A)) (c : ConnId) : Conn G → List NgapPdu → Prop where
  | idle : Told as c .idle []
  | reading {k : Nat} {told : List NgapPdu} (h : Refusals k told) : Told as c (.reading k) told
  | checking {k : Nat} {told : List NgapPdu} {request : NgSetupRequest G} (h : Refusals k told)
      (hread : .conn (.read c (.ngSetupRequest request)) ∈ as) :
      Told as c (.checking k request) told
  | evaluating {k : Nat} {told : List NgapPdu} {request : NgSetupRequest G} (h : Refusals k told)
      (hread : .conn (.read c (.ngSetupRequest request)) ∈ as) :
      Told as c (.evaluating k (.ofRequest c request) request.supportedTaList) told
  | refusing {k : Nat} {told : List NgapPdu} {pdu : NgapPdu} {err : NgapSetupError G}
      (h : Refusals k told) (hpdu : refuses pdu = true) :
      Told as c (.writing k pdu (.error err)) told
  | granting {k : Nat} {told : List NgapPdu} {ctx : GnbContext G} {resp : NgSetupResponse}
      (h : Refusals k told) (hgranted : Granted as c ctx resp) :
      Told as c (.writing k (.ngSetupResponse resp) (.ok ctx)) told
  | setUp {k : Nat} {told : List NgapPdu} {conn : Conn G} {ctx : GnbContext G}
      {resp : NgSetupResponse} (h : Refusals k told) (hconn : conn.setUp = some ctx)
      (hgranted : Granted as c ctx resp) : Told as c conn (told ++ [.ngSetupResponse resp])
  | setupFailed {told : List NgapPdu} (hlen : told.length ≤ initializationRetries)
      (hrefuse : ∀ pdu ∈ told, refuses pdu = true) : Told as c .setupFailed told
  | panicked {k : Nat} {told : List NgapPdu} (h : Refusals k told) : Told as c .panicked told

theorem Told.mono {as bs : List (Act G A)} {c : ConnId} {conn : Conn G} {told : List NgapPdu}
    (h : Told as c conn told) (hsub : as ⊆ bs) : Told bs c conn told := by
  cases h with
  | idle => exact .idle
  | reading h => exact .reading h
  | checking h hread => exact .checking h (hsub hread)
  | evaluating h hread => exact .evaluating h (hsub hread)
  | refusing h hpdu => exact .refusing h hpdu
  | granting h hgranted => exact .granting h (hgranted.mono hsub)
  | setUp h hconn hgranted => exact .setUp h hconn (hgranted.mono hsub)
  | setupFailed hlen hrefuse => exact .setupFailed hlen hrefuse
  | panicked h => exact .panicked h

/-- The attempt after the `k`-th, or the end of setup. -/
theorem told_retry {as : List (Act G A)} {c : ConnId} {k : Nat} {told : List NgapPdu}
    (hlen : told.length ≤ k) (hk : k ≤ initializationRetries)
    (hrefuse : ∀ pdu ∈ told, refuses pdu = true) : Told as c (Ngap.retry k) told := by
  unfold Ngap.retry
  -- there is another attempt, or setup has failed
  split
  · next hle => exact .reading ⟨Nat.lt_succ_of_le hlen, hle, hrefuse⟩
  · exact .setupFailed (hlen.trans hk) hrefuse

theorem Refusals.retry {as : List (Act G A)} {c : ConnId} {k : Nat} {told : List NgapPdu}
    (h : Refusals k told) : Told as c (Ngap.retry k) told :=
  told_retry (Nat.le_of_lt h.lt) h.le h.refuse

theorem Refusals.refused {as : List (Act G A)} {c : ConnId} {k : Nat} {told : List NgapPdu}
    {pdu : NgapPdu} (h : Refusals k told) (hpdu : refuses pdu = true) :
    Told as c (Ngap.retry k) (told ++ [pdu]) := by
  refine told_retry ?_ h.le fun other hmem => ?_
  · rw [List.length_append, List.length_singleton]
    exact h.lt
  · rcases List.mem_append.mp hmem with hmem | hmem
    · exact h.refuse other hmem
    · rw [List.mem_singleton] at hmem
      rw [hmem]
      exact hpdu

/-- A connection that has been told the response goes on with its context. -/
theorem Told.after {as : List (Act G A)} {c : ConnId} {conn conn' : Conn G} {told : List NgapPdu}
    {ctx : GnbContext G} (h : Told as c conn told) (hconn : conn.setUp = some ctx)
    (hconn' : conn'.setUp = some ctx) : Told as c conn' told := by
  cases h with
  | setUp h hctx hgranted =>
    rw [hconn] at hctx
    cases hctx
    exact .setUp h hconn' hgranted
  | idle | reading | checking | evaluating | refusing | granting | setupFailed | panicked =>
    cases hconn

/-- The history has this step of a connection. -/
def Recorded (as : List (Act G A)) : Ngap.Act G → Prop
  -- these are steps of the listener, and of the loop
  | .accept _ | .loopRead .. => True
  | a => .conn a ∈ as

/-- A step that is taken is in the history from then on. -/
theorem recorded_snoc (as : List (Act G A)) (a : Ngap.Act G) : Recorded (as ++ [.conn a]) a := by
  cases a with
  | accept | loopRead => trivial
  | read | check | evaluate | write | insert | spawn | close | panic =>
    exact List.mem_append_right as (List.mem_singleton_self _)

variable [DecidableEq G]

/-- A step of the connection itself. What it has been told follows the course of
`handle_new_connection`: refusals while attempts fail, then one response, and from the insert on
nothing more from it. -/
theorem Told.step {as : List (Act G A)} {s s' : Ngap.State G} {a : Ngap.Act G}
    {told : List NgapPdu} (h : Told as a.conn (s.conns a.conn) told) (hstep : Ngap.Step s a s')
    (ha : Recorded as a) :
    Told as a.conn (s'.conns a.conn) (told ++ (setupWrites s a).toList) := by
  have hself {c : ConnId} {conn : Conn G} : (s.setConn c conn).conns c = conn :=
    Function.update_self ..
  -- all steps but the writes
  have hquiet {conn : Conn G} (hnone : setupWrites s a = none) (hconn : s'.conns a.conn = conn)
      (htold : Told as a.conn conn told) :
      Told as a.conn (s'.conns a.conn) (told ++ (setupWrites s a).toList) := by
    rw [hnone, hconn]
    simpa using htold
  cases hstep with
  | @accept c hc =>
    change Told as c (s.conns c) told at h
    rw [hc] at h
    cases h with
    | setUp _ hconn => cases hconn
    | idle => exact hquiet rfl hself (.reading ⟨Nat.zero_lt_one, by decide, nofun⟩)
  | @read c k outcome hc =>
    change Told as c (s.conns c) told at h
    rw [hc] at h
    cases h with
    | setUp _ hconn => cases hconn
    | reading h =>
      refine hquiet rfl hself ?_
      cases outcome with
      | error | closed => exact h.retry
      | undecodable | otherPdu => exact .refusing h rfl
      | ngSetupRequest request => exact .checking h ha
  | @check c k request hc =>
    change Told as c (s.conns c) told at h
    rw [hc] at h
    cases h with
    | setUp _ hconn => cases hconn
    | checking h hread =>
      refine hquiet rfl hself ?_
      unfold Ngap.State.checkConflict
      split
      · exact .refusing h rfl
      · exact .evaluating h hread
  | @evaluate c config k ctx list hc =>
    change Told as c (s.conns c) told at h
    rw [hc] at h
    cases h with
    | setUp _ hconn => cases hconn
    | @evaluating _ _ request h hread =>
      refine hquiet rfl hself ?_
      cases hresp : (Ngap.evaluate config request.supportedTaList :
          Except (NgapResponseError G) _) with
      | error err => exact .refusing h rfl
      | ok resp => exact .granting h ⟨request, config, hread, ha, rfl, hresp⟩
  | @write c written k pdu result hc =>
    change Told as c (s.conns c) told at h
    change Told as c ((s.setConn c _).conns c) _
    rw [hself]
    cases written with
    | false =>
      -- nothing is written
      rw [hc] at h
      have hnone : told ++ (setupWrites s (.write c false)).toList = told := List.append_nil told
      rw [hnone]
      cases h with
      | setUp _ hconn => cases hconn
      | refusing h | granting h => exact h.retry
    | true =>
      have hsome : setupWrites s (.write c true) = some pdu := by
        simp only [setupWrites, hc]
      rw [hsome, Option.toList_some]
      rw [hc] at h
      cases h with
      | setUp _ hconn => cases hconn
      | refusing h hpdu => exact h.refused hpdu
      | granting h hgranted => exact .setUp h rfl hgranted
  | @insertPanic c ctx other hc hkey =>
    change Told as c (s.conns c) told at h
    exact hquiet rfl hself (h.after (by rw [hc]; rfl) rfl)
  | @insert c ctx hc hkey =>
    change Told as c (s.conns c) told at h
    exact hquiet rfl (Function.update_self ..) (h.after (by rw [hc]; rfl) rfl)
  | @spawn c ctx hc =>
    change Told as c (s.conns c) told at h
    exact hquiet rfl hself (h.after (by rw [hc]; rfl) rfl)
  | @loopRead c ctx outcome hc =>
    change Told as c (s.conns c) told at h
    refine hquiet rfl hself (h.after (by rw [hc]; rfl) ?_)
    cases outcome <;> rfl
  | @close c ctx hc =>
    change Told as c (s.conns c) told at h
    exact hquiet rfl (Function.update_self ..) (h.after (by rw [hc]; rfl) rfl)
  | @panic c k ctx list hc =>
    change Told as c (s.conns c) told at h
    rw [hc] at h
    cases h with
    | setUp _ hconn => cases hconn
    | evaluating h => exact hquiet rfl hself (.panicked h)

/-! ## The loop

A connection has tasks only while its loop has begun, so nothing that tasks write comes before what
setup writes. The two histories are one behind the other. -/

/-- The loop has begun. -/
def entered : Conn G → Bool
  | .looping _ | .closing _ | .finished _ => true
  | _ => false

omit [DecidableEq G] in
/-- A loop begins with the context of a setup that succeeded. -/
theorem isSome_setUp_of_entered {conn : Conn G} (h : entered conn = true) :
    ∃ ctx, conn.setUp = some ctx := by
  cases conn with
  | looping ctx | closing ctx | finished ctx => exact ⟨ctx, rfl⟩
  | idle | reading | checking | evaluating | writing | inserting | spawning | setupFailed
  | insertPanicked | panicked => cases h

/-- A loop that has begun has begun, even when it ends. -/
theorem entered_step {s s' : Ngap.State G} {a : Ngap.Act G} (h : Ngap.Step s a s') {c : ConnId}
    (hc : entered (s.conns c) = true) : entered (s'.conns c) = true := by
  -- the connection that moves stands where its step finds it
  have hmoved {c₀ : ConnId} {old conn : Conn G} (hold : s.conns c₀ = old)
      (hmove : entered old = true → entered conn = true) :
      entered (Function.update s.conns c₀ conn c) = true :=
    to_update (fun conn => entered conn = true) (by rwa [hold]) hc
  cases h with
  | accept hold | read hold | check hold | evaluate hold | write hold | insertPanic hold
  | insert hold | spawn hold | panic hold => exact hmoved hold nofun
  | @loopRead c₀ ctx outcome hold =>
    refine hmoved hold fun _ => ?_
    cases outcome <;> rfl
  | close hold => exact hmoved hold fun _ => rfl

/-- So a loop that has not begun had not begun before. -/
theorem not_entered_of_step {s s' : Ngap.State G} {a : Ngap.Act G} (h : Ngap.Step s a s')
    {c : ConnId} (hc : entered (s'.conns c) = false) : entered (s.conns c) = false := by
  by_contra hbefore
  rw [entered_step h (Bool.eq_true_of_not_eq_false hbefore)] at hc
  cases hc

theorem entered_of_loopRead {s s' : Ngap.State G} {c : ConnId} {outcome : Ngap.LoopRead}
    (h : Ngap.Step s (.loopRead c outcome) s') : entered (s.conns c) = true := by
  cases h with
  | loopRead hc =>
    rw [hc]
    rfl

omit [DecidableEq G] in
/-- What a task writes is added to what the tasks have written. All other steps of the loop write
nothing. -/
theorem sent_of_step {codec : Codec P D N E} {c : ConnId} {loop loop' : Ngap.Loop.State P D}
    {a : Ngap.Loop.Act} (h : Ngap.Loop.Step codec c loop a loop') :
    loop'.sent = loop.sent ++ (taskWrites codec loop a).toList := by
  cases h with
  | fail | close | message | undecodable | unhandled | handle | ue | panic =>
    exact (List.append_nil _).symm
  | handled hm hres =>
    rw [Ngap.Loop.handlerResult_toPdu _ hres]
    exact (List.append_nil _).symm
  | @write m written response hm =>
    have hwrites : taskWrites codec loop (.write m written) =
        (Ngap.Loop.encodeAndWriteNgapPdu codec response written).1.map fun bytes => (m, bytes) := by
      simp only [taskWrites, hm]
    show loop.sent ++
      (Ngap.Loop.encodeAndWriteNgapPdu codec response written).1.toList.map (m, ·) = _
    rw [hwrites]
    cases (Ngap.Loop.encodeAndWriteNgapPdu codec response written).1 with
    | none => rfl
    | some bytes => rfl

/-- What was written on an association, and by whom. -/
structure Talks (as : List (Act G A)) (s : State G A P D) (c : ConnId) : Prop where
  quiet : entered (s.conn c) = false → s.loops c = .new P D
  told : ∃ told, Told as c (s.conn c) told ∧
    s.sent c = told.map .setup ++ (s.loops c).sent.map .answer

omit [DecidableEq G] in
theorem talks_new (c : ConnId) : Talks [] (.new G A P D) c where
  quiet _ := rfl
  told := ⟨[], .idle, rfl⟩

omit [DecidableEq G] in
theorem Talks.frame {as bs : List (Act G A)} {s s' : State G A P D} {c : ConnId}
    (h : Talks as s c) (hsub : as ⊆ bs) (hconn : s'.conn c = s.conn c)
    (hloop : s'.loops c = s.loops c) (hsent : s'.sent c = s.sent c) : Talks bs s' c where
  quiet hentered := by
    rw [hloop]
    exact h.quiet (by rwa [← hconn])
  told := by
    obtain ⟨told, htold, hboth⟩ := h.told
    rw [hconn, hloop, hsent]
    exact ⟨told, htold.mono hsub, hboth⟩

section Step

variable [DecidableEq A] {codec : Codec P D N E} {as : List (Act G A)} {s : State G A P D}
  {c : ConnId}

/-- The connection moves, and its tasks do not. If it writes it is still in setup, and then its loop
has not begun, so that what it writes comes behind all it was told. -/
theorem Talks.conn {a : Ngap.Act G} {network : Network.State G A} (h : Talks as s a.conn)
    (hnetwork : Network.step s.network (.conn a) = some network) :
    Talks (as ++ [.conn a]) (s.onConn a network) a.conn := by
  have hstep := (Network.step_cases hnetwork).ngap_of_conn
  have hsent : (s.onConn a network).sent a.conn =
      s.sent a.conn ++ ((setupWrites s.network.ngap a).map Sent.setup).toList :=
    Function.update_self ..
  obtain ⟨told, htold, hboth⟩ := h.told
  refine ⟨fun hentered => h.quiet (not_entered_of_step hstep hentered),
    told ++ (setupWrites s.network.ngap a).toList, ?_, ?_⟩
  · exact (htold.mono (List.subset_append_left as _)).step hstep (recorded_snoc as a)
  · show _ = _ ++ (s.loops a.conn).sent.map Sent.answer
    rw [hsent, hboth]
    cases hwrites : setupWrites s.network.ngap a with
    | none => simp
    | some pdu =>
      -- the connection is in setup, so its loop has not begun
      have hnew : s.loops a.conn = .new P D := by
        refine h.quiet ?_
        cases a with
        | write c written =>
          cases written with
          | false => cases hwrites
          | true =>
            simp only [setupWrites] at hwrites
            split at hwrites
            · next hconn =>
              show entered (s.network.ngap.conns c) = false
              rw [hconn]
              rfl
            · cases hwrites
        | accept | read | check | evaluate | insert | spawn | loopRead | close | panic =>
          cases hwrites
      rw [hnew]
      simp [Ngap.Loop.State.new]

/-- The loop reads, so the connection has been registered and goes on as its loop does. Nothing is
written by a read. -/
theorem Talks.read {received : Except Unit Bytes} {network : Network.State G A}
    {loop : Ngap.Loop.State P D} (h : Talks as s c)
    (hnetwork : Network.step s.network (.conn (.loopRead c (loopRead received))) = some network)
    (hloop : Ngap.Loop.step codec c (s.loops c) (.read received) = some loop) :
    Talks (as ++ [.read c received]) ({ s with network }.setLoop c loop) c := by
  have hstep := (Network.step_cases hnetwork).ngap_of_conn
  have hsent := sent_of_step (Ngap.Loop.step_cases hloop)
  obtain ⟨told, htold, hboth⟩ := h.told
  have htold' := (htold.mono (List.subset_append_left as [.read c received])).step hstep trivial
  have hnone : told ++ (setupWrites s.network.ngap (.loopRead c (loopRead received))).toList =
      told := List.append_nil told
  rw [hnone] at htold'
  refine ⟨fun hentered => ?_, told, htold', ?_⟩
  · -- the connection was in its loop
    have hbefore := not_entered_of_step hstep hentered
    rw [entered_of_loopRead hstep] at hbefore
    cases hbefore
  · show s.sent c = _
    rw [State.setLoop_loops_self, hsent, hboth]
    exact congrArg _ (congrArg _ (List.append_nil _).symm)

omit [DecidableEq G] [DecidableEq A] in
/-- **Before its loop begins, a connection has no task.** A loop that has read nothing has nothing
to do but read. -/
theorem Talks.entered_of_task {a : Ngap.Loop.Act} {loop : Ngap.Loop.State P D} (h : Talks as s c)
    (ha : ∀ received, a ≠ .read received)
    (hloop : Ngap.Loop.step codec c (s.loops c) a = some loop) : entered (s.conn c) = true := by
  by_contra hbefore
  rw [h.quiet (Bool.eq_false_of_not_eq_true hbefore), Ngap.Loop.step_new ha] at hloop
  cases hloop

omit [DecidableEq G] [DecidableEq A] in
/-- A task moves: it decodes, hands over, takes a result or writes. What it writes is told behind
everything else. -/
theorem Talks.task {a : Ngap.Loop.Act} {loop : Ngap.Loop.State P D} (h : Talks as s c)
    (ha : ∀ received, a ≠ .read received)
    (hloop : Ngap.Loop.step codec c (s.loops c) a = some loop) :
    Talks (as ++ [.task c a]) (s.onTask codec c a loop) c := by
  have hentered := h.entered_of_task ha hloop
  have hloops := sent_of_step (Ngap.Loop.step_cases hloop)
  have hsent : (s.onTask codec c a loop).sent c =
      s.sent c ++ ((taskWrites codec (s.loops c) a).map Sent.answer).toList :=
    Function.update_self ..
  obtain ⟨told, htold, hboth⟩ := h.told
  refine ⟨fun hbefore => ?_, told, htold.mono (List.subset_append_left as _), ?_⟩
  · change entered (s.conn c) = false at hbefore
    rw [hentered] at hbefore
    cases hbefore
  · rw [hsent, hboth]
    show _ = told.map Sent.setup ++ ((s.setLoop c loop).loops c).sent.map Sent.answer
    rw [State.setLoop_loops_self, hloops, List.map_append, List.append_assoc]
    cases taskWrites codec (s.loops c) a with
    | none => rfl
    | some answer => rfl

/-- One step of the system. It is a step of another connection, of this one, of its loop or of one
of the tasks, and the lemmas above are these cases. -/
theorem Talks.step {a : Act G A} {s' : State G A P D} (h : Talks as s c)
    (hstep : Step codec s a s') : Talks (as ++ [a]) s' c := by
  have hsub : as ⊆ as ++ [a] := List.subset_append_left as [a]
  -- steps of other connections are framed away
  cases hstep with
  | cancel => exact h.frame hsub rfl rfl rfl
  | @accept c₀ accepted network hnetwork =>
    rcases (Network.step_cases hnetwork).ngap_of_accept with hsame | haccept
    · refine h.frame hsub ?_ rfl rfl
      exact congrArg (·.conns c) hsame
    · by_cases hc : c = c₀
      · subst hc
        obtain ⟨told, htold, hboth⟩ := h.told
        have htold' := (htold.mono hsub).step haccept trivial
        have hnone : told ++ (setupWrites s.network.ngap (.accept c)).toList = told :=
          List.append_nil told
        rw [hnone] at htold'
        exact ⟨fun hentered => h.quiet (not_entered_of_step haccept hentered), told, htold', hboth⟩
      · exact h.frame hsub (haccept.conns_other hc) rfl rfl
  | @conn b network _ hnetwork =>
    by_cases hc : c = b.conn
    · subst hc
      exact h.conn hnetwork
    · refine h.frame hsub ?_ rfl (Function.update_of_ne hc ..)
      exact ((Network.step_cases hnetwork).ngap_of_conn).conns_other hc
  | @read c₀ received network loop hnetwork hloop =>
    by_cases hc : c = c₀
    · subst hc
      exact h.read hnetwork hloop
    · refine h.frame hsub ?_ (Function.update_of_ne hc ..) rfl
      exact ((Network.step_cases hnetwork).ngap_of_conn).conns_other hc
  | @task c₀ b loop hb hloop =>
    by_cases hc : c = c₀
    · subst hc
      exact h.task hb hloop
    · exact h.frame hsub rfl (Function.update_of_ne hc ..) (Function.update_of_ne hc ..)

theorem talks_of_run (run : (system G A codec).Run as s) (c : ConnId) : Talks as s c :=
  run.history (P := fun as s => Talks as s c) (talks_new c)
    fun _ _ _ _ _ h _ hstep => h.step (step_cases hstep)

end Step

/-! ## The conversation

From what was written by whom to what a gNB is told. The answers are those of `Ngap.Loop.Answers`,
by way of the loop as a part of the system. -/

/-- The answer to message `m`. -/
def Sent.answers (m : HandlerId) : Sent → Bool
  | .setup _ => false
  | .answer (m', _) => m' = m

/-- What is to hold of everything that was written on the association of connection `c`. -/
structure Conversation (codec : Codec P D N E) (as : List (Act G A)) (s : State G A P D)
    (c : ConnId) (refusals : List NgapPdu) : Prop where
  /-- the association is between two addresses that no other connection has -/
  own : s.conn c ≠ .idle → ∃ tnla, s.network.tnla c = some tnla ∧
    ∀ c' tnla', s.network.tnla c' = some tnla' → tnla'.pair = tnla.pair → c' = c
  refuse : ∀ pdu ∈ refusals, refuses pdu = true
  few : refusals.length ≤ initializationRetries
  /-- before setup has succeeded, refusals alone -/
  before : (s.conn c).setUp = none → s.sent c = refusals.map .setup ∧ s.loops c = .new P D
  /-- then the response to a request that was read, and what the tasks of the loop write -/
  after : ∀ ctx, (s.conn c).setUp = some ctx → refusals.length < initializationRetries ∧
    ∃ resp, Granted as c ctx resp ∧ s.sent c =
      refusals.map .setup ++ .setup (.ngSetupResponse resp) :: (s.loops c).sent.map .answer
  /-- these answer messages that were read -/
  answers : ∀ m bytes, .answer (m, bytes) ∈ s.sent c → ∃ message response,
    (s.loops c).messages[m]? = some message ∧ Ngap.Loop.answer codec message = some response ∧
      codec.codecToBytes response = .ok bytes
  /-- each of them once -/
  once : ∀ m, (s.sent c).countP (Sent.answers m) ≤ 1

omit [DecidableEq G] in
theorem Told.cases {as : List (Act G A)} {c : ConnId} {conn : Conn G} {told : List NgapPdu}
    (h : Told as c conn told) :
    (conn.setUp = none ∧ told.length ≤ initializationRetries ∧ ∀ pdu ∈ told, refuses pdu = true) ∨
    ∃ k refusals ctx resp, conn.setUp = some ctx ∧ told = refusals ++ [.ngSetupResponse resp] ∧
      Refusals k refusals ∧ Granted as c ctx resp := by
  cases h with
  | idle => exact .inl ⟨rfl, Nat.zero_le _, nofun⟩
  | reading h | checking h | evaluating h | refusing h | granting h | panicked h =>
    exact .inl ⟨rfl, Nat.le_of_lt (Nat.lt_of_lt_of_le h.lt h.le), h.refuse⟩
  | setupFailed hlen hrefuse => exact .inl ⟨rfl, hlen, hrefuse⟩
  | setUp h hconn hgranted => exact .inr ⟨_, _, _, _, hconn, rfl, h, hgranted⟩

section Answers

variable {codec : Codec P D N E} {s : State G A P D} {c : ConnId} {told : List NgapPdu}

omit [DecidableEq G] in
theorem mem_sent_of_answer
    (hboth : s.sent c = told.map .setup ++ (s.loops c).sent.map .answer) {m : HandlerId}
    {bytes : Bytes} (hmem : .answer (m, bytes) ∈ s.sent c) :
    bytes ∈ (s.loops c).sentBy m := by
  rw [hboth, List.mem_append] at hmem
  rcases hmem with hmem | hmem
  · obtain ⟨pdu, -, heq⟩ := List.mem_map.mp hmem
    cases heq
  · obtain ⟨answer, hanswer, heq⟩ := List.mem_map.mp hmem
    cases heq
    exact List.mem_filterMap.mpr ⟨_, hanswer, if_pos rfl⟩

omit [DecidableEq G] in
/-- Message `m` has as many answers on the association as its task has written. -/
theorem countP_answers
    (hboth : s.sent c = told.map .setup ++ (s.loops c).sent.map .answer) (m : HandlerId) :
    (s.sent c).countP (Sent.answers m) = ((s.loops c).sentBy m).length := by
  have hnone : (told.map Sent.setup).countP (Sent.answers m) = 0 := by
    rw [List.countP_map]
    exact List.countP_eq_zero.mpr fun _ _ => Bool.false_ne_true
  rw [hboth, List.countP_append, hnone, Nat.zero_add, List.countP_map, Ngap.Loop.State.sentBy,
    List.length_filterMap_eq_countP]
  refine List.countP_congr fun e _ => ?_
  by_cases hm : e.1 = m
  · simp [Sent.answers, hm]
  · simp [Sent.answers, hm]

end Answers

/-- A connection that has begun was accepted with a pair of addresses that was free, and it keeps the
pair. This is a fact about the network, which is a part of the system. -/
theorem own_association [DecidableEq A] {codec : Codec P D N E} {as : List (Act G A)}
    {s : State G A P D} (run : (system G A codec).Run as s) {c : ConnId} (hc : s.conn c ≠ .idle) :
    ∃ tnla, s.network.tnla c = some tnla ∧
      ∀ c' tnla', s.network.tnla c' = some tnla' → tnla'.pair = tnla.pair → c' = c := by
  have htabled : Network.Tabled s.network := Network.tabled_of_run ((network codec).run run)
  obtain ⟨tnla, htnla⟩ := htabled.accepted c hc
  exact ⟨tnla, htnla, fun c' tnla' htnla' hpair =>
    htabled.unique c' c tnla' tnla htnla' htnla hpair⟩

/-- **What a gNB is told.** Refusals of its failed attempts, the NG Setup Response, and answers to
messages of its loop, each in its turn. -/
theorem conversation_of_run [DecidableEq A] {codec : Codec P D N E} {as : List (Act G A)}
    {s : State G A P D} (run : (system G A codec).Run as s) (c : ConnId) :
    ∃ refusals, Conversation codec as s c refusals := by
  have h := talks_of_run run c
  have hown := own_association run (c := c)
  have hkept : Ngap.Loop.Kept codec (s.loops c) := Ngap.Loop.kept_of_run ((loop codec c).run run)
  obtain ⟨told, htold, hboth⟩ := h.told
  have hanswers : ∀ m bytes, .answer (m, bytes) ∈ s.sent c → ∃ message response,
      (s.loops c).messages[m]? = some message ∧ Ngap.Loop.answer codec message = some response ∧
        codec.codecToBytes response = .ok bytes := by
    intro m bytes hmem
    have hsent := mem_sent_of_answer hboth hmem
    rcases hkept.sentBy_cases m with
      hnone | ⟨message, response, bytes', hread, hanswer, hbytes, hone⟩
    · rw [hnone] at hsent
      cases hsent
    · rw [hone, List.mem_singleton] at hsent
      subst hsent
      exact ⟨message, response, hread, hanswer, hbytes⟩
  have honce : ∀ m, (s.sent c).countP (Sent.answers m) ≤ 1 := by
    intro m
    rw [countP_answers hboth]
    rcases hkept.sentBy_cases m with hnone | ⟨_, _, bytes, -, -, -, hone⟩
    · rw [hnone]
      exact Nat.zero_le 1
    · rw [hone]
      exact Nat.le_refl 1
  rcases htold.cases with ⟨hnone, hlen, hrefuse⟩ | ⟨k, refusals, ctx, resp, hctx, rfl, hk, hgranted⟩
  · -- setup has not succeeded, so the loop has not begun
    have hnew : s.loops c = .new P D := by
      refine h.quiet ?_
      by_contra hentered
      obtain ⟨ctx, hctx⟩ := isSome_setUp_of_entered (Bool.eq_true_of_not_eq_false hentered)
      rw [hnone] at hctx
      cases hctx
    refine ⟨told, hown, hrefuse, hlen, fun _ => ⟨?_, hnew⟩, fun ctx hctx => ?_, hanswers, honce⟩
    · rw [hboth, hnew]
      exact List.append_nil _
    · rw [hnone] at hctx
      cases hctx
  · have hlt := Nat.lt_of_lt_of_le hk.lt hk.le
    refine ⟨refusals, hown, hk.refuse, Nat.le_of_lt hlt, fun hnone => ?_, fun ctx' hctx' => ?_,
      hanswers, honce⟩
    · rw [hctx] at hnone
      cases hnone
    · rw [hctx] at hctx'
      cases hctx'
      refine ⟨hlt, resp, hgranted, ?_⟩
      rw [hboth, List.map_append, List.append_assoc]
      rfl

/-! ## A gNB that is refused once

The whole conversation in one run: a refusal, the response, an answer. -/

/-- Connection `c` is accepted, and its first PDU cannot be decoded; then it is set up as gNB
`id`. -/
def connectAgain (c : ConnId) (id : Nat) : List (Act Nat Nat) :=
  [.accept c (.ok Network.gnbStream), .conn (.read c .undecodable), .conn (.write c true)] ++
    (Ngap.setUp c id).tail.map .conn

/-- Its loop reads a message that nothing handles, and answers it. -/
def refusedOnce : List (Act Nat Nat) :=
  connectAgain 0 5 ++ [.read 0 (.ok [0x15]), .task 0 (.decode 0), .task 0 (.write 0 true)]

/-- What was sent is what `Conversation` says, in this order. -/
theorem conversation_refusedOnce :
    ∃ s refusals, (system Nat Nat Ngap.Loop.octetCodec).Run refusedOnce s ∧
      Conversation Ngap.Loop.octetCodec refusedOnce s 0 refusals ∧ s.sent 0 =
        [.setup (.errorIndication (.protocol .abstractSyntaxErrorFalselyConstructedMessage)),
          .setup (.ngSetupResponse (Ngap.success Ngap.amfConfig)), .answer (0, [0x09])] := by
  let s := ((system Nat Nat Ngap.Loop.octetCodec).exec refusedOnce).get (by decide)
  have hrun : (system Nat Nat Ngap.Loop.octetCodec).Run refusedOnce s :=
    System.run_of_exec (by simp [s])
  obtain ⟨refusals, h⟩ := conversation_of_run hrun 0
  exact ⟨s, refusals, hrun, h, by decide⟩

end UnifyAir.NgapContext
