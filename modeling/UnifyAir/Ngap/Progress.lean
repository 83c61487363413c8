import UnifyAir.InitialUe.Progress
import UnifyAir.Ngap.Answers

/-!
# UnifyAir — every message of a gNB is seen to

The tasks of a loop wait for nothing but the handlers of their messages, and these come to an end. So
when nothing more is read, every task comes to an end, with its answer written; and every RAN UE NGAP
ID that the gNB has used has one UE context.

* **`moves_le`** — the steps of the tasks, their handlers and the calls of these.
* **`over_of_stuck`** — no deadlock.
* **`write_of_failed`** — an answer that can be encoded is missing only where its write failed.
* **`seen_to`** — every run can be brought to its end, where every message is seen to.
-/

namespace UnifyAir.Ngap.Loop

open Concurrency
open InitialUe (HandlerId InitialUeMessage)

variable {P D G E : Type}

/-! ## Steps

A task makes two steps at most: it decodes its message, and it writes or takes the result of its
handler. So the steps of the tasks are bounded by the messages, and these by the reads. -/

/-- `handle_nas` does not panic. -/
def NoNasPanic (_ : State P D) (a : Act) : Prop := ∀ p, a ≠ .ue (.manager (.panic p))

def Act.isRead : Act → Bool
  | .read _ => true
  | _ => false

/-- The task that moves. -/
def Act.task : Act → Option HandlerId
  | .decode m | .returned m | .write m _ => some m
  | .read _ | .ue _ => none

/-- What a task has left. -/
def Task.left : Task P D → Nat
  | .spawned _ => 2
  | .handling | .responding _ => 1
  | .idle | .silent | .written _ | .panicked => 0

variable {codec : Codec P D G E}

/-- A task with something left is that of a message. -/
theorem Kept.lt_length {s : State P D} (h : Kept codec s) {m : HandlerId}
    (hm : 0 < (s.tasks m).left) : m < s.messages.length := by
  by_contra hle
  have hstands := h m
  rw [List.getElem?_eq_none (Nat.not_lt.mp hle)] at hstands
  generalize s.sentBy m = sent at hstands
  generalize s.tasks m = task at hm hstands
  cases hstands
  exact Nat.lt_irrefl 0 hm

/-- A task that moves uses up what it has left. -/
theorem Kept.setTask_left {s : State P D} (h : Kept codec s) {m : HandlerId} {task old : Task P D}
    (hm : s.tasks m = old) (hleft : 1 + task.left ≤ old.left) :
    1 + total (Finset.range s.messages.length) Task.left (s.setTask m task).tasks ≤
      total (Finset.range s.messages.length) Task.left s.tasks := by
  have hlt := h.lt_length (m := m) (by rw [hm]; omega)
  have htotal := total_update Task.left s.tasks task (Finset.mem_range.mpr hlt)
  rw [hm] at htotal
  show 1 + total _ _ (Function.update s.tasks m task) ≤ _
  omega

/-- What all tasks have left goes down with every step of a task, and up by two with a read. -/
theorem Step.left_le {gnb : ConnId} {s s' : State P D} {a : Act} (hkept : Kept codec s)
    (h : Step codec gnb s a s') :
    a.task.isSome.toNat + total (Finset.range s'.messages.length) Task.left s'.tasks ≤
        total (Finset.range s.messages.length) Task.left s.tasks + 2 * a.isRead.toNat ∧
      s'.messages.length ≤ s.messages.length + a.isRead.toNat := by
  -- a message brings two steps, and each step of its task takes one
  cases h with
  | fail | close | ue => simp [Act.task, Act.isRead]
  | @message message hr hne =>
    refine ⟨?_, ?_⟩
    · rw [List.length_append, List.length_singleton, total_range_succ]
      exact (Nat.zero_add _).le
    · rw [List.length_append]
      exact Nat.le_refl _
  | undecodable hm | unhandled hm | handle hm | panic hm =>
    exact ⟨hkept.setTask_left hm (Nat.le_refl _), Nat.le_refl _⟩
  | handled hm hres =>
    rw [handlerResult_toPdu _ hres]
    exact ⟨hkept.setTask_left hm (Nat.le_refl _), Nat.le_refl _⟩
  | write hm => exact ⟨hkept.setTask_left hm (Nat.le_refl _), Nat.le_refl _⟩

/-- The steps of the tasks alone, by counting down what they have left along the run. -/
theorem tasks_le {gnb : ConnId} {as : List Act} {s : State P D}
    (run : (system codec gnb).Run as s) :
    as.countP (·.task.isSome) ≤ 2 * as.countP Act.isRead ∧
      s.messages.length ≤ as.countP Act.isRead := by
  have hreads (as : List Act) (a : Act) :
      (as ++ [a]).countP Act.isRead = as.countP Act.isRead + a.isRead.toNat := by
    rw [List.countP_append, List.countP_singleton]
    cases a.isRead <;> rfl
  constructor
  · -- what was spent and what is left is what the messages brought
    have hcount : as.countP (·.task.isSome) +
        total (Finset.range s.messages.length) Task.left s.tasks ≤ 2 * as.countP Act.isRead := by
      refine run.count_le (fun _ s => total (Finset.range s.messages.length) Task.left s.tasks)
        (fun as _ => 2 * as.countP Act.isRead) (Nat.le_refl _) ?_
      intro as s a s' run _ hstep
      have hleft := ((step_cases hstep).left_le (kept_of_run run)).1
      rw [hreads]
      omega
    omega
  · refine run.history (P := fun as s => s.messages.length ≤ as.countP Act.isRead)
      (Nat.le_refl _) fun as s a s' run hlen _ hstep => ?_
    have hgrows := ((step_cases hstep).left_le (kept_of_run run)).2
    rw [hreads]
    omega

/-! ## The handlers

Their steps are counted in `InitialUe`, with 44 for each handler. Two of a task make 46 for each
message. -/

/-- The handlers of a loop without panics panic nowhere either. -/
theorem Handles.noNasPanic {gnb : ConnId} {as : List Act} {bs : List InitialUe.Act} {s : State P D}
    (h : Handles codec gnb as bs s) (hquiet : ∀ a ∈ as, ∀ p, a ≠ .ue (.manager (.panic p))) :
    (InitialUe.system gnb).RunUnder InitialUe.NoNasPanic bs s.ue := by
  refine .of_mem h.run fun _ b hb p heq => ?_
  have hmem : b ∈ bs.filter isHandlers := List.mem_filter.mpr ⟨hb, by rw [heq]; rfl⟩
  rw [h.moves, List.mem_filterMap] at hmem
  obtain ⟨a, ha, hmoves⟩ := hmem
  cases a with
  | ue b' =>
    cases hmoves
    exact hquiet _ ha p (by rw [heq])
  | read | decode | returned | write => cases hmoves

theorem countP_receive (bs : List InitialUe.Act) :
    bs.countP InitialUe.Act.isReceive = (bs.filterMap InitialUe.Act.received).length := by
  induction bs with
  | nil => rfl
  | cons b bs ih =>
    rw [List.countP_cons, ih]
    cases b <;> rfl

/-- One handler for each message at most: their numbers are different, and are numbers of messages.
So a list of them is no longer than the list of messages. -/
theorem Handles.receives_le {gnb : ConnId} {as : List Act} {bs : List InitialUe.Act}
    {s : State P D} (h : Handles codec gnb as bs s) :
    bs.countP InitialUe.Act.isReceive ≤ s.messages.length := by
  have hbelow : bs.filterMap InitialUe.Act.received ⊆ List.range s.messages.length := by
    intro m hm
    obtain ⟨b, hb, hreceived⟩ := List.mem_filterMap.mp hm
    cases b with
    | receive m' request =>
      cases hreceived
      obtain ⟨message, hread, -⟩ := (h.spawned m request).mp hb
      exact List.mem_range.mpr (List.getElem?_eq_some_iff.mp hread).1
    | check | alloc | add | added | schedule | returned | manager => cases hreceived
  have hlen := ((InitialUe.received_nodup h.run).subperm hbelow).length_le
  rw [List.length_range] at hlen
  rw [countP_receive]
  exact hlen

/-- What is not a read is a step of a task or of the handlers. -/
theorem countP_not_read (as : List Act) :
    as.countP (!·.isRead) = as.countP (·.task.isSome) + (as.filterMap Act.moves).length := by
  induction as with
  | nil => rfl
  | cons a as ih =>
    have hcons : ((a :: as).filterMap Act.moves).length =
        (as.filterMap Act.moves).length + a.moves.isSome.toNat := by
      rw [List.filterMap_cons]
      cases a.moves <;> rfl
    rw [List.countP_cons, List.countP_cons, ih, hcons]
    generalize as.countP (·.task.isSome) = steps
    cases a <;> simp [Act.isRead, Act.task, Act.moves] <;> omega

/-- **The steps of the tasks, their handlers and the calls of these.** Each message has 46 at most.
-/
theorem moves_le {gnb : ConnId} {as : List Act} {s : State P D}
    (run : (system codec gnb).RunUnder NoNasPanic as s) :
    as.countP (!·.isRead) ≤ 46 * as.countP Act.isRead := by
  obtain ⟨bs, h⟩ := handlers_of_run run.run
  have htasks := tasks_le run.run
  have hreceives := h.receives_le
  have hue := InitialUe.steps_le (h.noNasPanic (run.mem (C := NoNasPanic) fun _ _ ha => ha))
  have hmoves : (as.filterMap Act.moves).length = bs.countP (!·.isReceive) := by
    rw [← h.moves, ← List.countP_eq_length_filter]
    -- a step of the handlers is any action of theirs but a message that is received
    refine List.countP_congr fun b _ => ?_
    cases b <;> exact Iff.rfl
  rw [countP_not_read, hmoves]
  omega

/-! ## No deadlock

A task waits for nothing but its own handler, and handlers wait for no task. So if nothing but reads
can be done, nothing is left to do. -/

/-- Nothing more is read, and writes do not fail. -/
def Act.Completes : Act → Prop
  | .read _ => False
  | .write _ written => written = true
  | _ => True

/-- A handler waits for no task. If the loop is stuck so are the handlers, and stuck handlers are
over. -/
theorem handlers_over_of_stuck {gnb : ConnId} {as : List Act} {bs : List InitialUe.Act}
    {s : State P D} (run : (system codec gnb).RunUnder NoNasPanic as s)
    (h : Handles codec gnb as bs s)
    (hstuck : ∀ a : Act, a.Completes → NoNasPanic s a → step codec gnb s a = none) (m : HandlerId) :
    (s.ue.handlers m).isOver = true := by
  refine InitialUe.over_of_stuck (h.noNasPanic (run.mem (C := NoNasPanic) fun _ _ ha => ha))
    (fun b hb hquiet => ?_) m
  have hstep := hstuck (.ue b) trivial fun p heq => hquiet p (Act.ue.inj heq)
  have hb : isHandlers b = true := by
    cases b with
    | receive => cases hb
    | check | alloc | add | added | schedule | returned | manager => rfl
  simp only [step, hb, if_true, Option.map_eq_none_iff] at hstep
  exact hstep

/-- **No deadlock.** Where nothing but reads and failing writes can be done, every task has come to
an end. A task waits for its handler only, and by the lemma above the handlers have ended. -/
theorem over_of_stuck {gnb : ConnId} {as : List Act} {s : State P D}
    (run : (system codec gnb).RunUnder NoNasPanic as s)
    (hstuck : ∀ a : Act, a.Completes → NoNasPanic s a → step codec gnb s a = none) (m : HandlerId) :
    (s.tasks m).left = 0 := by
  obtain ⟨bs, h⟩ := handlers_of_run run.run
  have still (a : Act) (ha : a.Completes) (hue : a.moves = none) : step codec gnb s a = none := by
    refine hstuck a ha ?_
    rintro p rfl
    cases hue
  have hstands := kept_of_run run.run m
  cases hm : s.tasks m with
  | idle | silent | written | panicked => rfl
  | spawned message =>
    -- its handler is not there, so it can be spawned
    have hidle : s.ue.handlers m = .idle := by
      by_contra hne
      obtain ⟨request, hmem⟩ := (InitialUe.ne_idle_iff h.run m).mp hne
      obtain ⟨_, -, -, hdecoded⟩ := (h.spawned m request).mp hmem
      rw [hm] at hdecoded
      cases hdecoded
    have hstep := still (.decode m) trivial rfl
    simp only [step, hm] at hstep
    unfold State.onDecoded at hstep
    split at hstep
    · cases hstep
    · split at hstep
      · cases hstep
      · simp only [State.beginHandle, InitialUe.step, hidle] at hstep
        cases hstep
  | handling =>
    -- its handler is there, and has ended
    have hover := handlers_over_of_stuck run h hstuck m
    have hne : s.ue.handlers m ≠ .idle := by
      rw [hm] at hstands
      generalize hread : s.messages[m]? = read at hstands
      generalize s.sentBy m = sent at hstands
      cases hstands with
      | @handling message request hcarries =>
        exact (InitialUe.ne_idle_iff h.run m).mpr ⟨request, (h.spawned m request).mpr
          ⟨message, hread, hcarries, by rw [hm]; rfl⟩⟩
    have hstep := still (.returned m) trivial rfl
    simp only [step, hm, State.onReturned] at hstep
    cases hhandler : s.ue.handlers m with
    | idle => exact absurd hhandler hne
    | succeeded | failed | aborted | unreachable =>
      rw [hhandler] at hstep
      cases hstep
    | check | alloc | add | adding | schedule | scheduling =>
      rw [hhandler] at hover
      cases hover
  -- a write can always be tried
  | responding response =>
    have hstep := still (.write m true) rfl rfl
    simp only [step, hm] at hstep
    cases hstep

/-! ## What every message gets

The end of a run, message by message: what `answered_of_run` leaves open is decided once the task is
over. -/

/-- The message that an action brings. -/
def Act.message : Act → Option Bytes
  | .read (.ok (octet :: rest)) => some (octet :: rest)
  | _ => none

/-- The messages of the loop are those that were read, in their order. -/
theorem messages_of_run {gnb : ConnId} {as : List Act} {s : State P D}
    (run : (system codec gnb).Run as s) : s.messages = as.filterMap Act.message := by
  refine run.history (P := fun as s => s.messages = as.filterMap Act.message) rfl
    fun as s a s' _ hmessages _ hstep => ?_
  rw [List.filterMap_append, ← hmessages]
  -- only a read adds a message
  cases step_cases hstep with
  | fail | close | undecodable | unhandled | handle | ue | panic | write =>
    exact (List.append_nil _).symm
  | @message message hr hne =>
    cases message with
    | nil => exact absurd rfl hne
    | cons octet rest => rfl
  | handled hm hres =>
    rw [handlerResult_toPdu _ hres]
    exact (List.append_nil _).symm

/-- An answer that can be encoded is missing only where its write failed. By induction on the run,
back to the step in which the task wrote. -/
theorem write_of_failed {gnb : ConnId} {as : List Act} {s : State P D}
    (run : (system codec gnb).Run as s) {m : HandlerId} {message bytes : Bytes}
    {response : NgapPdu P D} {err : NgapWriteError} (hread : s.messages[m]? = some message)
    (hanswer : answer codec message = some response) (hbytes : codec.codecToBytes response = .ok bytes)
    (hm : s.tasks m = .written (.error err)) : .write m false ∈ as := by
  -- by the step with which its task has failed
  induction run generalizing m message with
  | nil => cases hm
  | @snoc as s s' a run _ hstep ih =>
    have hkept := kept_of_run run
    rw [List.mem_append, List.mem_singleton]
    cases step_cases hstep with
    | fail | close | ue => exact .inl (ih hread hanswer hm)
    | message hr hne =>
      rcases update_cases hm with ⟨-, htask⟩ | ⟨hneq, htask⟩
      · cases htask
      · refine .inl (ih ?_ hanswer htask)
        rcases Nat.lt_or_gt_of_ne hneq with hlt | hgt
        · rwa [List.getElem?_append_left hlt] at hread
        · rw [List.getElem?_eq_none (by rw [List.length_append]; exact hgt)] at hread
          cases hread
    | undecodable | unhandled | handle | panic =>
      rcases update_cases hm with ⟨-, htask⟩ | ⟨-, htask⟩
      · cases htask
      · exact .inl (ih hread hanswer htask)
    | handled hhandling hres =>
      rw [handlerResult_toPdu _ hres] at hm hread
      rcases update_cases hm with ⟨-, htask⟩ | ⟨-, htask⟩
      · cases htask
      · exact .inl (ih hread hanswer htask)
    | @write m₀ written response₀ hresponding =>
      rcases update_cases hm with ⟨rfl, htask⟩ | ⟨-, htask⟩
      · -- the answer is that of its message, so its encoding has not failed
        obtain ⟨message', hread', hanswer', -⟩ := hkept.responding hresponding
        have hsame : response = response₀ := by
          have hread : s.messages[m]? = some message := hread
          rw [hread'] at hread
          cases hread
          rw [hanswer] at hanswer'
          exact Option.some.inj hanswer'
        subst hsame
        simp only [hbytes] at htask
        cases written with
        | false => exact .inr rfl
        | true => cases htask
      · exact .inl (ih hread hanswer htask)

/-- What has been written for a message in the end. -/
def State.SeenTo (codec : Codec P D G E) (as : List Act) (s : State P D) (m : HandlerId)
    (message : Bytes) : Prop :=
  match answer codec message with
  | none => s.sentBy m = []
  | some response => match codec.codecToBytes response with
    | .error _ => s.sentBy m = []
    | .ok bytes => s.sentBy m = [bytes] ∨ (s.sentBy m = [] ∧ .write m false ∈ as)

/-- Where the task of a message is over, the message has been seen to. What is missing is missing
for one of two reasons, and both can be told from the run. -/
theorem seen_of_over {gnb : ConnId} {as : List Act} {s : State P D}
    (run : (system codec gnb).Run as s) {m : HandlerId} {message : Bytes}
    (hread : s.messages[m]? = some message) (hover : (s.tasks m).left = 0) :
    s.SeenTo codec as m message := by
  have hanswered := (kept_of_run run).answered hread
  unfold Answered at hanswered
  unfold State.SeenTo
  cases hanswer : answer codec message with
  | none =>
    rw [hanswer] at hanswered
    exact hanswered
  | some response =>
    rw [hanswer] at hanswered
    dsimp only
    -- the answer was written, or it was not and the task says why
    rcases hanswered with ⟨bytes, hbytes, hsent, -⟩ | ⟨hsent, hm⟩
    · rw [hbytes]
      exact .inl hsent
    · cases hbytes : codec.codecToBytes response with
      | error => exact hsent
      | ok bytes =>
        rcases hm with hm | hm | ⟨err, hm⟩
        · rw [hm] at hover
          cases hover
        · rw [hm] at hover
          cases hover
        · exact .inr ⟨hsent, write_of_failed run hread hanswer hbytes hm⟩

/-- The handler of an InitialUEMessage whose task has ended was spawned. -/
theorem Handles.received {gnb : ConnId} {as : List Act} {bs : List InitialUe.Act} {s : State P D}
    (h : Handles codec gnb as bs s) (hkept : Kept codec s) {m : HandlerId} {message : Bytes}
    {request : InitialUeMessage} (hread : s.messages[m]? = some message)
    (hcarries : Carries codec message request) (hover : (s.tasks m).left = 0) :
    .receive m request ∈ bs := by
  refine (h.spawned m request).mpr ⟨message, hread, hcarries, ?_⟩
  have hstands := hkept m
  rw [hread] at hstands
  generalize s.sentBy m = sent at hstands
  generalize s.tasks m = task at hstands hover ⊢
  cases hstands with
  | spawned => cases hover
  | handling | responding | silent | failed | written | panicked => rfl

/-- **Every message is seen to.** If no PDU panics a run can be brought to its end without reading on,
with 46 steps for each message at most. There no task has anything left to do and every handler is
over; an answer is missing only where it cannot be encoded, or where its write had failed before; and
each RAN UE NGAP ID has one handler that has succeeded. -/
theorem seen_to {gnb : ConnId} {as : List Act} {s : State P D}
    (run : (system codec gnb).RunUnder NoNasPanic as s) :
    ∃ bs s', (system codec gnb).RunUnder NoNasPanic (as ++ bs) s' ∧ (∀ a ∈ bs, a.Completes) ∧
      (as ++ bs).countP (!·.isRead) ≤ 46 * as.countP Act.isRead ∧
      (∀ m, (s'.tasks m).left = 0) ∧ (∀ h, (s'.ue.handlers h).isOver = true) ∧
      ∀ m message, s.messages[m]? = some message → s'.SeenTo codec as m message ∧
        ∀ request, Carries codec message request → ∃! m', ∃ w,
          s'.ue.handlers m' = .succeeded w ∧ w.request.ranUeNgapId = request.ranUeNgapId := by
  have hcompletes (a : Act) (ha : a.Completes) : (!a.isRead) = true ∧ a.isRead = false := by
    cases a with
    | read => exact ha.elim
    | decode | ue | returned | write => exact ⟨rfl, rfl⟩
  obtain ⟨bs, s', run', hend, hsteps, hstuck⟩ := run.exists_end Act.Completes Act.isRead
    (!·.isRead) 46 hcompletes fun _ _ run => moves_le run
  have hover := over_of_stuck run' hstuck
  obtain ⟨cs, h⟩ := handlers_of_run run'.run
  have hhandlers := handlers_over_of_stuck run' h hstuck
  refine ⟨bs, s', run', hend, hsteps, hover, hhandlers, fun m message hread => ?_⟩
  -- nothing was read since
  have hread' : s'.messages[m]? = some message := by
    have hnone : bs.filterMap Act.message = [] := by
      refine List.filterMap_eq_nil_iff.mpr fun a ha => ?_
      cases a with
      | read => exact (hend _ ha).elim
      | decode | ue | returned | write => rfl
    rw [messages_of_run run'.run, List.filterMap_append, hnone, List.append_nil,
      ← messages_of_run run.run]
    exact hread
  constructor
  · -- the steps that were added write successfully, so a failed write is one of the run's own
    have hseen := seen_of_over run'.run hread' (hover m)
    have hold : .write m false ∈ as ++ bs → .write m false ∈ as := by
      intro hmem
      refine (List.mem_append.mp hmem).resolve_right fun hmem => ?_
      cases hend _ hmem
    unfold State.SeenTo at hseen ⊢
    split at hseen
    · exact hseen
    · split at hseen
      · exact hseen
      · exact hseen.imp_right fun ⟨hsent, hmem⟩ => ⟨hsent, hold hmem⟩
  · -- all handlers are over, and one of those with this id has won
    intro request hcarries
    have hquiet := h.noNasPanic (run'.mem (C := NoNasPanic) fun _ _ ha => ha)
    exact InitialUe.one_winner_of_over hquiet hhandlers
      (h.received (kept_of_run run'.run) hread' hcarries (hover m))

/-- The three messages are seen to: two are answered as they are in this run, and the id of the
InitialUEMessage gets its UE context. -/
theorem seen_to_threeMessages :
    ∃ bs s', (system octetCodec 0).RunUnder NoNasPanic (threeMessages ++ bs) s' ∧
      (∀ m, (s'.tasks m).left = 0) ∧
      s'.SeenTo octetCodec threeMessages 1 [0x15] ∧ s'.SeenTo octetCodec threeMessages 2 [0xFF] ∧
      ∃! m', ∃ w, s'.ue.handlers m' = .succeeded w ∧ w.request.ranUeNgapId = 7 := by
  let s := ((system octetCodec 0).exec threeMessages).get (by decide)
  have hrun : (system octetCodec 0).RunUnder NoNasPanic threeMessages s := by
    refine .of_mem (System.run_of_exec (by simp [s])) fun _ a ha p => ?_
    have hno : ∀ a ∈ threeMessages, a ≠ .ue (.manager (.panic p)) := by simp [threeMessages]
    exact hno a ha
  obtain ⟨bs, s', run', -, -, hover, -, hseen⟩ := seen_to hrun
  exact ⟨bs, s', run', hover, (hseen 1 _ rfl).1, (hseen 2 _ rfl).1,
    (hseen 0 _ rfl).2 (InitialUe.ueMessage 7 0x41) rfl⟩

end UnifyAir.Ngap.Loop
