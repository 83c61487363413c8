import UnifyAir.Control.Retry
import UnifyAir.Ngap.Criterion
import UnifyAir.Ngap.Registration

/-!
# UnifyAir — NG Setup with retries

`try_ng_setup_with_retries` on one connection, as a function of what its attempts meet: what each
read gives, what `gnb_contexts` and the app context hold when the handler looks at them, and
whether the answer is encoded and written. Every attempt begins with a context of its own.

* **`setup_correct`** — which request is accepted, what the context of the gNB then holds, how many
  reads are made, and what each attempt answers.
* **`run_follows`** — a connection in the system of all connections does what this function does
  with the attempts that the run shows: what was read, what `gnb_contexts` held when the check looked
  at it, which configuration was evaluated, and whether the write went through.
-/

namespace UnifyAir.Ngap

open Concurrency

/-- What one attempt meets. -/
structure Attempt (G : Type) where
  read : SetupRead G
  gnbContexts : G → Option (GnbContext G)
  config : Configuration
  encoded : Bool
  written : Bool

variable {G : Type}

/-- `NgapWriteError`. -/
inductive NgapWriteError where
  | networkError
  | encodingError
  deriving DecidableEq, Repr

/-- `encode_and_write_ngap_pdu`. -/
def encodeAndWriteNgapPdu (encoded written : Bool) : Except NgapWriteError Unit :=
  if encoded then
    if written then .ok () else .error .networkError
  else .error .encodingError

/-- The last two lines of `try_ng_setup`: a PDU for the encoder, and the result unless the write
fails. -/
def Attempt.answer (attempt : Attempt G) (response : NgapPdu)
    (result : Except (NgapSetupError G) (GnbContext G)) :
    Option NgapPdu × Except (NgapSetupError G) (GnbContext G) :=
  (some response, match encodeAndWriteNgapPdu attempt.encoded attempt.written with
    | .ok () => result
    | .error _ => .error .writeError)

/-- `try_ng_setup`: the PDU that it hands to the encoder, if any, and what it returns. -/
def tryNgSetup (c : ConnId) (attempt : Attempt G) :
    Option NgapPdu × Except (NgapSetupError G) (GnbContext G) :=
  match attempt.read with
  | .error => (none, .error .networkError)
  | .closed => (none, .error .socketClosed)
  | .ngSetupRequest request =>
    match handleRequest attempt.gnbContexts attempt.config request with
    | .ok success => attempt.answer (.ngSetupResponse success) (.ok (.ofRequest c request))
    | .error ⟨failure, error⟩ =>
      attempt.answer (.ngSetupFailure failure) (.error (.ngSetupError error))
  | .undecodable =>
    attempt.answer
      (.errorIndication (.protocol .abstractSyntaxErrorFalselyConstructedMessage))
      (.error .perCodecEncodingError)
  | .otherPdu =>
    attempt.answer (.errorIndication (.protocol .messageNotCompatibleWithReceiverState))
      (.error .didNotReceiveNgSetup)

/-- `try_ng_setup_with_retries`; attempts are numbered from one on. -/
def tryNgSetupWithRetries (c : ConnId) (attempts : Nat → Attempt G) : Option (GnbContext G) :=
  Retry.result (fun k => (tryNgSetup c (attempts k)).2) 1 initializationRetries

/-- How often `try_ng_setup_with_retries` reads: once in each attempt that it makes. -/
def setupReads (c : ConnId) (attempts : Nat → Attempt G) : Nat :=
  Retry.made (fun k => (tryNgSetup c (attempts k)).2) 1 initializationRetries

/-! ## One attempt

What `try_ng_setup` returns and what it answers are functions of what the attempt meets. It returns
a context exactly when it accepts a request, and that context is the one of the request. -/

/-- The attempt reads a request that is acceptable, and its response is encoded and written. -/
structure Attempt.Accepts (attempt : Attempt G) (request : NgSetupRequest G) : Prop where
  read : attempt.read = .ngSetupRequest request
  acceptable : ∃ resp, handleRequest attempt.gnbContexts attempt.config request = .ok resp
  encoded : attempt.encoded = true
  written : attempt.written = true

/-- The PDU that an attempt is to hand to the encoder. -/
def Attempt.Answers (attempt : Attempt G) (pdu : Option NgapPdu) : Prop :=
  match attempt.read with
  | .error | .closed => pdu = none
  | .undecodable | .otherPdu => ∃ cause, pdu = some (.errorIndication cause)
  | .ngSetupRequest request =>
    match handleRequest attempt.gnbContexts attempt.config request with
    | .ok resp => pdu = some (.ngSetupResponse resp)
    | .error err => pdu = some (.ngSetupFailure err.failure)

/-- Every attempt that gets a message hands one PDU to the encoder, whatever becomes of it. -/
theorem tryNgSetup_answers (c : ConnId) (attempt : Attempt G) :
    attempt.Answers (tryNgSetup c attempt).1 := by
  unfold Attempt.Answers tryNgSetup
  cases attempt.read with
  | error => rfl
  | closed => rfl
  | undecodable => exact ⟨_, rfl⟩
  | otherPdu => exact ⟨_, rfl⟩
  | ngSetupRequest request =>
    dsimp only
    cases handleRequest attempt.gnbContexts attempt.config request with
    | ok resp => rfl
    | error err => rfl

/-- The write comes last, and its failure hides the result. -/
theorem answer_eq_ok_iff {attempt : Attempt G} {pdu : NgapPdu}
    {result : Except (NgapSetupError G) (GnbContext G)} {ctx : GnbContext G} :
    (attempt.answer pdu result).2 = .ok ctx ↔
      attempt.encoded = true ∧ attempt.written = true ∧ result = .ok ctx := by
  unfold Attempt.answer encodeAndWriteNgapPdu
  cases attempt.encoded with
  | false => exact ⟨nofun, fun ⟨h, _⟩ => (nomatch h)⟩
  | true =>
    cases attempt.written with
    | false => exact ⟨nofun, fun ⟨_, h, _⟩ => (nomatch h)⟩
    | true => exact ⟨fun h => ⟨rfl, rfl, h⟩, fun h => h.2.2⟩

/-- An attempt succeeds with the context of the request it accepts. The request must be one, be
accepted by the handler, and its answer must be encoded and written. -/
theorem tryNgSetup_eq_ok_iff {c : ConnId} {attempt : Attempt G} {ctx : GnbContext G} :
    (tryNgSetup c attempt).2 = .ok ctx ↔
      ∃ request, attempt.Accepts request ∧ ctx = .ofRequest c request := by
  constructor
  · intro h
    unfold tryNgSetup at h
    cases hread : attempt.read with
    -- nothing was read
    | error => rw [hread] at h; cases h
    | closed => rw [hread] at h; cases h
    -- an ErrorIndication was answered
    | undecodable => rw [hread] at h; cases (answer_eq_ok_iff.mp h).2.2
    | otherPdu => rw [hread] at h; cases (answer_eq_ok_iff.mp h).2.2
    | ngSetupRequest request =>
      rw [hread] at h
      dsimp only at h
      cases hresp : handleRequest attempt.gnbContexts attempt.config request with
      | error err => rw [hresp] at h; cases (answer_eq_ok_iff.mp h).2.2
      | ok resp =>
        rw [hresp] at h
        obtain ⟨hencoded, hwritten, hctx⟩ := answer_eq_ok_iff.mp h
        cases hctx
        exact ⟨request, ⟨hread, ⟨resp, hresp⟩, hencoded, hwritten⟩, rfl⟩
  · rintro ⟨request, ⟨hread, ⟨resp, hresp⟩, hencoded, hwritten⟩, rfl⟩
    rw [tryNgSetup, hread]
    dsimp only
    rw [hresp]
    exact answer_eq_ok_iff.mpr ⟨hencoded, hwritten, rfl⟩

/-! ## All attempts

The loop around the attempts is `Retry.result` with a bound of three. Its general lemmas are used by
name; what is added here is which attempt is the first to accept. -/

/-- The context is that of the gNB which sent the request over connection `c`. An extended RAN node
name comes before the plain one, and in it the UTF-8 string before the visible one. -/
structure GnbContext.Holds (ctx : GnbContext G) (c : ConnId) (request : NgSetupRequest G) :
    Prop where
  tnla : ctx.tnla = c
  globalRanNodeId : ctx.globalRanNodeId = request.globalRanNodeId
  defaultPagingDrx : ctx.defaultPagingDrx = request.defaultPagingDrx
  name : ctx.name = (request.extendedRanNodeName.elim request.ranNodeName fun extended =>
    extended.ranNodeNameUtf8String.or extended.ranNodeNameVisibleString).getD ""

/-- The names in the order in which they are taken. -/
theorem resolveRanName_eq (name : Option String) (extended : Option ExtendedRanNodeName) :
    resolveRanName name extended = (extended.elim name fun extended =>
      extended.ranNodeNameUtf8String.or extended.ranNodeNameVisibleString).getD "" := by
  rcases extended with _ | ⟨_ | visible, _ | utf8⟩
  · cases name <;> rfl
  all_goals cases name <;> rfl

/-- The context of a request holds its fields, and no other context does. -/
theorem GnbContext.holds_iff {ctx : GnbContext G} {c : ConnId} {request : NgSetupRequest G} :
    ctx.Holds c request ↔ ctx = .ofRequest c request := by
  constructor
  · intro ⟨htnla, hid, hpaging, hname⟩
    obtain ⟨tnla, globalRanNodeId, name, defaultPagingDrx⟩ := ctx
    rw [← resolveRanName_eq] at hname
    cases htnla
    cases hid
    cases hpaging
    cases hname
    rfl
  · rintro rfl
    exact ⟨rfl, rfl, rfl, resolveRanName_eq _ _⟩

/-- Attempt `k` is the first to accept a request, and that is `request`. -/
structure FirstAccepted (attempts : Nat → Attempt G) (k : Nat) (request : NgSetupRequest G) :
    Prop where
  pos : 1 ≤ k
  le : k ≤ initializationRetries
  accepts : (attempts k).Accepts request
  earlier : ∀ j, 1 ≤ j → j < k → ∀ request, ¬ (attempts j).Accepts request

/-- The first attempt that succeeds is the first that accepts a request. -/
theorem firstAccepted_iff {c : ConnId} {attempts : Nat → Attempt G} {k : Nat}
    {ctx : GnbContext G} :
    Retry.Succeeds (fun k => (tryNgSetup c (attempts k)).2) 1 initializationRetries k ctx ↔
      ∃ request, FirstAccepted attempts k request ∧ ctx = .ofRequest c request := by
  constructor
  · intro h
    obtain ⟨request, haccepts, hctx⟩ := tryNgSetup_eq_ok_iff.mp h.ok
    refine ⟨request, ⟨h.le, by have := h.lt; omega, haccepts, fun j hpos hlt r hr => ?_⟩, hctx⟩
    exact h.failed j hpos hlt _ (tryNgSetup_eq_ok_iff.mpr ⟨r, hr, rfl⟩)
  · intro ⟨request, h, hctx⟩
    refine ⟨h.pos, by have := h.le; omega, tryNgSetup_eq_ok_iff.mpr ⟨request, h.accepts, hctx⟩,
      fun j hpos hlt ctx hok => ?_⟩
    obtain ⟨r, hr, -⟩ := tryNgSetup_eq_ok_iff.mp hok
    exact h.earlier j hpos hlt r hr

/-- The actions of `try_ng_setup` and of the loop around it. -/
def Act.inSetup : Act G → Bool
  | .accept _ | .read .. | .check _ | .evaluate .. | .write .. | .panic _ => true
  | .insert _ | .spawn _ | .loopRead .. | .close _ => false

theorem Step.gnbContexts_of_inSetup [DecidableEq G] {s s' : State G} {a : Act G}
    (h : Step s a s') (ha : a.inSetup = true) : s'.gnbContexts = s.gnbContexts := by
  cases h with
  | insert | insertPanic | spawn | loopRead | close => cases ha
  | accept | read | check | evaluate | write | panic => rfl

/-- What is to hold of `try_ng_setup_with_retries` on a new connection. -/
structure SetupCorrect [DecidableEq G] (c : ConnId) (attempts : Nat → Attempt G) : Prop where
  reads_le : setupReads c attempts ≤ initializationRetries
  /-- no read after the first success -/
  reads_eq : ∀ k request, FirstAccepted attempts k request → setupReads c attempts = k
  context_iff : ∀ ctx, tryNgSetupWithRetries c attempts = some ctx ↔
    ∃ k request, FirstAccepted attempts k request ∧ ctx.Holds c request
  answers : ∀ k, 1 ≤ k → k ≤ setupReads c attempts →
    (attempts k).Answers (tryNgSetup c (attempts k)).1
  /-- in the system of all connections -/
  gnbContexts : ∀ (s s' : State G) (a : Act G), (system G).step s a = some s' →
    a.inSetup = true → s'.gnbContexts = s.gnbContexts

/-- **NG Setup with retries.** Each field is a lemma on `Retry` applied to `try_ng_setup`, together
with what one attempt does. -/
theorem setup_correct [DecidableEq G] (c : ConnId) (attempts : Nat → Attempt G) :
    SetupCorrect c attempts where
  reads_le := Retry.made_le
  reads_eq k request h := by
    have hmade := Retry.made_eq (firstAccepted_iff.mpr ⟨request, h, rfl⟩ :
      Retry.Succeeds (fun k => (tryNgSetup c (attempts k)).2) 1 initializationRetries k _)
    show Retry.made _ 1 initializationRetries = k
    omega
  context_iff ctx := by
    refine Retry.result_eq_some_iff.trans (exists_congr fun k => ?_)
    simp only [GnbContext.holds_iff]
    exact firstAccepted_iff
  answers k _ _ := tryNgSetup_answers c (attempts k)
  gnbContexts s s' a hstep ha := by
    have h : Step s a s' := step_cases hstep
    exact h.gnbContexts_of_inSetup ha

/-! ## In the system of connections

There the same handler runs in steps, between which other connections run theirs. Everything that an
attempt meets happens in one of those steps: `attemptsOf` writes it down as the run goes along. The
connection is then where `try_ng_setup_with_retries` has come with these attempts. -/

/-- What the reads of a connection gave. -/
def readsOf (c : ConnId) (as : List (Act G)) : List (SetupRead G) :=
  as.filterMap fun a => match a with
    | .read c' outcome => if c' = c then some outcome else none
    | _ => none

/-- What a connection has met: how often it has read, and what each of its attempts came upon. -/
structure Met (G : Type) where
  reads : Nat
  attempts : Nat → Attempt G

/-- Before the first read. No result depends on what is written here for attempts to come. -/
def Met.nothing (G : Type) : Met G where
  reads := 0
  attempts := fun _ =>
    { read := .error, gnbContexts := fun _ => none, config := default, encoded := true,
      written := true }

/-- The attempt that is being made comes upon something. -/
def Met.update (m : Met G) (f : Attempt G → Attempt G) : Met G :=
  { m with attempts := Function.update m.attempts m.reads (f (m.attempts m.reads)) }

/-- What an action of the connection itself brings it upon, in the state in which it is taken. A read
begins the next attempt. -/
def Met.act (m : Met G) (s : State G) : Act G → Met G
  | .read _ outcome =>
    ({ m with reads := m.reads + 1 } : Met G).update fun attempt => { attempt with read := outcome }
  | .check _ => m.update fun attempt => { attempt with gnbContexts := s.gnbContexts }
  | .evaluate _ config => m.update fun attempt => { attempt with config }
  -- an answer that is not written was perhaps not even encoded, which comes to the same
  | .write _ written => m.update fun attempt => { attempt with encoded := true, written }
  | .accept _ | .insert _ | .spawn _ | .loopRead .. | .close _ | .panic _ => m

/-- What an action of any connection brings connection `c` upon. -/
def Met.note (c : ConnId) (m : Met G) (s : State G) (a : Act G) : Met G :=
  if a.conn = c then m.act s a else m

/-- The context that setup returned, once it has. -/
def Conn.setUp : Conn G → Option (GnbContext G)
  | .inserting ctx | .spawning ctx | .looping ctx | .closing ctx | .finished ctx
  | .insertPanicked ctx => some ctx
  | _ => none

/-- The attempts before `k` failed, and attempt `k` is made. -/
structure Pending (c : ConnId) (attempts : Nat → Attempt G) (k : Nat) : Prop where
  pos : 1 ≤ k
  le : k ≤ initializationRetries
  failed : ∀ j, 1 ≤ j → j < k → ∀ ctx, (tryNgSetup c (attempts j)).2 ≠ .ok ctx

/-- Where a connection stands after `n` reads, if its attempts meet what `attempts` says. -/
inductive Follows (c : ConnId) (attempts : Nat → Attempt G) : Nat → Conn G → Prop where
  | idle : Follows c attempts 0 .idle
  | reading {n : Nat} (h : Pending c attempts (n + 1)) : Follows c attempts n (.reading (n + 1))
  | checking {k : Nat} {request : NgSetupRequest G} (h : Pending c attempts k)
      (hread : (attempts k).read = .ngSetupRequest request) :
      Follows c attempts k (.checking k request)
  | evaluating {k : Nat} {request : NgSetupRequest G} (h : Pending c attempts k)
      (hread : (attempts k).read = .ngSetupRequest request)
      (hfree : (attempts k).gnbContexts request.globalRanNodeId = none) :
      Follows c attempts k (.evaluating k (.ofRequest c request) request.supportedTaList)
  | writing {k : Nat} {pdu : NgapPdu} {result : Except (NgapSetupError G) (GnbContext G)}
      (h : Pending c attempts k)
      (hanswer : ∀ written, tryNgSetup c { attempts k with encoded := true, written } =
        Attempt.answer { attempts k with encoded := true, written } pdu result) :
      Follows c attempts k (.writing k pdu result)
  | setUp {conn : Conn G} {ctx : GnbContext G} (hconn : conn.setUp = some ctx)
      (h : tryNgSetupWithRetries c attempts = some ctx) :
      Follows c attempts (setupReads c attempts) conn
  | setupFailed (h : tryNgSetupWithRetries c attempts = none) :
      Follows c attempts (setupReads c attempts) .setupFailed
  | panicked {n : Nat} : Follows c attempts n .panicked

/-- Only what the attempts before the present one have met matters. -/
theorem Pending.congr {c : ConnId} {attempts attempts' : Nat → Attempt G} {k : Nat}
    (h : Pending c attempts k) (heq : ∀ j < k, attempts' j = attempts j) :
    Pending c attempts' k where
  pos := h.pos
  le := h.le
  failed j hpos hlt ctx := by
    rw [heq j hlt]
    exact h.failed j hpos hlt ctx

/-- An attempt that fails is followed by the next one, or by the end. All attempts up to this one
have failed now, which is what the next one is pending on. -/
theorem Pending.retry {c : ConnId} {attempts : Nat → Attempt G} {k : Nat}
    (h : Pending c attempts k) (hfail : ∀ ctx, (tryNgSetup c (attempts k)).2 ≠ .ok ctx) :
    Follows c attempts k (retry k) := by
  have hfailed : ∀ j, 1 ≤ j → j < k + 1 → ∀ ctx, (tryNgSetup c (attempts j)).2 ≠ .ok ctx := by
    intro j hpos hlt
    by_cases hj : j = k
    · rw [hj]
      exact hfail
    · exact h.failed j hpos (by omega)
  unfold Ngap.retry
  split
  · -- there is another attempt
    next hle => exact .reading ⟨by omega, hle, hfailed⟩
  · next hle =>
    -- that was the last one, and none of them succeeded
    have hk : k = initializationRetries := by have := h.le; omega
    have hnone : tryNgSetupWithRetries c attempts = none := by
      cases hresult : tryNgSetupWithRetries c attempts with
      | none => rfl
      | some ctx =>
        obtain ⟨j, hj⟩ := Retry.result_eq_some_iff.mp hresult
        exact (hfailed j hj.le (by have := hj.lt; omega) ctx hj.ok).elim
    have hreads : setupReads c attempts = k := by
      rw [hk]
      exact Retry.made_of_none hnone
    rw [← hreads]
    exact .setupFailed hnone

theorem Pending.success {c : ConnId} {attempts : Nat → Attempt G} {k : Nat} {ctx : GnbContext G}
    (h : Pending c attempts k) (hok : (tryNgSetup c (attempts k)).2 = .ok ctx) :
    Follows c attempts k (.inserting ctx) := by
  have hsucceeds :
      Retry.Succeeds (fun k => (tryNgSetup c (attempts k)).2) 1 initializationRetries k ctx :=
    ⟨h.pos, by have := h.le; omega, hok, h.failed⟩
  have hreads : setupReads c attempts = k := by
    have hmade := Retry.made_eq hsucceeds
    show Retry.made _ 1 initializationRetries = k
    omega
  rw [← hreads]
  exact .setUp rfl (Retry.result_eq_some_iff.mpr ⟨k, hsucceeds⟩)

/-- What attempt `k` meets can be settled while it is being made. -/
theorem Pending.set {c : ConnId} {attempts : Nat → Attempt G} {k : Nat}
    (h : Pending c attempts k) (attempt : Attempt G) :
    Pending c (Function.update attempts k attempt) k :=
  h.congr fun _ hlt => Function.update_of_ne (by omega) ..

/-- A pending attempt whose handler has returned goes on to write its answer. Whether that will be
written is not known yet, so the statement is about both outcomes. -/
theorem Pending.respond {c : ConnId} {attempts : Nat → Attempt G} {k : Nat}
    {request : NgSetupRequest G} (h : Pending c attempts k)
    (hread : (attempts k).read = .ngSetupRequest request) :
    Follows c attempts k (respond k (.ofRequest c request)
      (handleRequest (attempts k).gnbContexts (attempts k).config request)) := by
  have hanswer : ∀ written, tryNgSetup c { attempts k with encoded := true, written } =
      match handleRequest (attempts k).gnbContexts (attempts k).config request with
      | .ok success => Attempt.answer { attempts k with encoded := true, written }
          (.ngSetupResponse success) (.ok (.ofRequest c request))
      | .error ⟨failure, error⟩ => Attempt.answer { attempts k with encoded := true, written }
          (.ngSetupFailure failure) (.error (.ngSetupError error)) := fun written => by
    rw [tryNgSetup]
    dsimp only
    rw [hread]
  cases hresp : handleRequest (attempts k).gnbContexts (attempts k).config request with
  | ok resp =>
    rw [hresp] at hanswer
    exact .writing h hanswer
  | error err =>
    rw [hresp] at hanswer
    exact .writing h hanswer

/-- What the handler of a pending attempt returns, with what the attempt meets settled. -/
theorem Pending.settle {c : ConnId} {attempts : Nat → Attempt G} {k : Nat}
    (h : Pending c attempts k) (attempt : Attempt G) {request : NgSetupRequest G}
    {resp : Except (NgapResponseError G) NgSetupResponse}
    (hread : attempt.read = .ngSetupRequest request)
    (hresp : handleRequest attempt.gnbContexts attempt.config request = resp) :
    Follows c (Function.update attempts k attempt) k
      (Ngap.respond k (.ofRequest c request) resp) := by
  have hrequest : (Function.update attempts k attempt k).read = .ngSetupRequest request := by
    rw [Function.update_self]
    exact hread
  have hrespond := (h.set attempt).respond hrequest
  rw [Function.update_self, hresp] at hrespond
  exact hrespond

theorem Pending.onRead {c : ConnId} {attempts : Nat → Attempt G} {k : Nat}
    (h : Pending c attempts k) : Follows c attempts k (onRead k (attempts k).read) := by
  cases hread : (attempts k).read with
  | error => exact h.retry fun ctx => by rw [tryNgSetup, hread]; exact nofun
  | closed => exact h.retry fun ctx => by rw [tryNgSetup, hread]; exact nofun
  | undecodable => exact .writing h fun written => by rw [tryNgSetup, hread]
  | otherPdu => exact .writing h fun written => by rw [tryNgSetup, hread]
  | ngSetupRequest request => exact .checking h hread

/-- A write is followed by what `onWritten` says: the end with a context if the attempt was accepted
and written, and the next attempt otherwise. -/
theorem Pending.onWritten {c : ConnId} {attempts : Nat → Attempt G} {k : Nat} {pdu : NgapPdu}
    {result : Except (NgapSetupError G) (GnbContext G)} (h : Pending c attempts k)
    (hencoded : (attempts k).encoded = true)
    (hanswer : tryNgSetup c (attempts k) = (attempts k).answer pdu result) :
    Follows c attempts k (onWritten k result (attempts k).written) := by
  have hok : ∀ ctx, (tryNgSetup c (attempts k)).2 = .ok ctx ↔
      (attempts k).written = true ∧ result = .ok ctx := fun ctx => by
    rw [hanswer, answer_eq_ok_iff]
    exact ⟨fun h => h.2, fun h => ⟨hencoded, h⟩⟩
  cases hwritten : (attempts k).written with
  | false =>
    refine h.retry fun ctx hctx => ?_
    have := ((hok ctx).mp hctx).1
    rw [hwritten] at this
    cases this
  | true =>
    cases result with
    | ok ctx => exact h.success ((hok ctx).mpr ⟨hwritten, rfl⟩)
    | error e => exact h.retry fun ctx hctx => by cases ((hok ctx).mp hctx).2

/-- What a connection has read so far, one outcome for each attempt. -/
def Met.outcomes (m : Met G) : List (SetupRead G) :=
  (List.range m.reads).map fun j => (m.attempts (j + 1)).read

/-- Only a read adds an outcome: what else an attempt comes upon leaves its own read alone, and the
attempts before it altogether. -/
theorem Met.outcomes_update {m : Met G} {f : Attempt G → Attempt G}
    (hf : ∀ attempt, (f attempt).read = attempt.read) : (m.update f).outcomes = m.outcomes := by
  refine List.map_congr_left fun j _ => ?_
  show (Function.update m.attempts m.reads _ (j + 1)).read = _
  by_cases hj : j + 1 = m.reads
  · rw [hj, Function.update_self, hf]
  · rw [Function.update_of_ne hj]

/-- The reads that are written down are those that the run made. -/
theorem Met.outcomes_act (m : Met G) (s : State G) (a : Act G) :
    (m.act s a).outcomes = m.outcomes ++ readsOf a.conn [a] := by
  cases a with
  | read c outcome =>
    have hread : readsOf c [.read c outcome] = [outcome] := List.filterMap_cons_some (if_pos rfl)
    show List.map _ (List.range (m.reads + 1)) = m.outcomes ++ readsOf c [.read c outcome]
    rw [hread, List.range_succ, List.map_append]
    congr 1
    · refine List.map_congr_left fun j hj => ?_
      have hne : j + 1 ≠ m.reads + 1 := by
        have := List.mem_range.mp hj
        omega
      show (Function.update m.attempts (m.reads + 1) _ (j + 1)).read = _
      rw [Function.update_of_ne hne]
    · show [(Function.update m.attempts (m.reads + 1) _ (m.reads + 1)).read] = [outcome]
      rw [Function.update_self]
  | check | evaluate | write =>
    rw [Met.act, Met.outcomes_update]
    · exact (List.append_nil _).symm
    · exact fun _ => rfl
  | accept | insert | spawn | loopRead | close | panic => exact (List.append_nil _).symm

variable [DecidableEq G]

/-- What the attempts of connection `c` came upon in a run. -/
def metOf (c : ConnId) (as : List (Act G)) : Met G := (system G).noted (Met.note c) (.nothing G) as

/-- The attempts of connection `c` in a run: what its reads gave, what `gnb_contexts` held when it
was asked for the id, which configuration was evaluated, and whether the answer was written. -/
def attemptsOf (c : ConnId) (as : List (Act G)) : Nat → Attempt G := (metOf c as).attempts

/-- A step of the connection itself. What the step meets is written down, and the connection goes
where the function goes with it; for the steps after setup nothing is to be written down. -/
theorem Follows.step {m : Met G} {s s' : State G} {a : Act G} (hstep : Step s a s')
    (h : Follows a.conn m.attempts m.reads (s.conns a.conn)) :
    Follows a.conn (m.act s a).attempts (m.act s a).reads (s'.conns a.conn) := by
  have hself : ∀ {conn : Conn G} {c : ConnId}, (s.setConn c conn).conns c = conn :=
    Function.update_self ..
  -- after setup nothing is met any more
  have hdone : ∀ {conn conn' : Conn G} {ctx : GnbContext G}, s.conns a.conn = conn →
      conn.setUp = some ctx → s'.conns a.conn = conn' → conn'.setUp = some ctx →
      Follows a.conn m.attempts m.reads (s'.conns a.conn) := by
    intro conn conn' ctx hconn hctx hconn' hctx'
    rw [hconn] at h
    rw [hconn']
    generalize m.reads = n at h ⊢
    cases h with
    | setUp hctx₀ hresult =>
      rw [hctx, Option.some.injEq] at hctx₀
      rw [← hctx₀] at hresult
      exact .setUp hctx' hresult
    | idle | reading | checking | evaluating | writing | setupFailed | panicked => cases hctx
  cases hstep with
  | @accept c hc =>
    change Follows c m.attempts m.reads (s.conns c) at h
    show Follows c m.attempts m.reads ((s.setConn c _).conns c)
    rw [hc] at h
    generalize m.reads = n at h ⊢
    rw [hself]
    cases h with
    | setUp hconn => cases hconn
    | idle => exact .reading ⟨by omega, by decide, fun j _ hlt => by omega⟩
  | @read c _ outcome hc =>
    change Follows c m.attempts m.reads (s.conns c) at h
    show Follows c (Function.update m.attempts (m.reads + 1) _) (m.reads + 1)
      ((s.setConn c _).conns c)
    rw [hc] at h
    generalize m.reads = n at h ⊢
    rw [hself]
    cases h with
    | setUp hconn => cases hconn
    | reading hpending =>
      have hfollows := (hpending.set { m.attempts (n + 1) with read := outcome }).onRead
      rw [Function.update_self] at hfollows
      exact hfollows
  | @check c k request hc =>
    change Follows c m.attempts m.reads (s.conns c) at h
    show Follows c (Function.update m.attempts m.reads _) m.reads ((s.setConn c _).conns c)
    rw [hc] at h
    generalize m.reads = n at h ⊢
    rw [hself]
    cases h with
    | setUp hconn => cases hconn
    | checking hpending hread =>
      let attempt : Attempt G := { m.attempts k with gnbContexts := s.gnbContexts }
      unfold State.checkConflict
      cases hkey : s.gnbContexts request.globalRanNodeId with
      -- the id is free, so the handler will evaluate the request
      | none =>
        refine .evaluating (hpending.set attempt) ?_ ?_
        · rw [Function.update_self]
          exact hread
        · rw [Function.update_self]
          exact hkey
      -- the id is taken, and the handler's answer is settled
      | some other =>
        refine hpending.settle attempt hread ?_
        rw [handleRequest, show attempt.gnbContexts _ = _ from hkey]
  | @evaluate c config k _ _ hc =>
    change Follows c m.attempts m.reads (s.conns c) at h
    show Follows c (Function.update m.attempts m.reads _) m.reads ((s.setConn c _).conns c)
    rw [hc] at h
    generalize m.reads = n at h ⊢
    rw [hself]
    cases h with
    | setUp hconn => cases hconn
    | @evaluating _ request hpending hread hfree =>
      let attempt : Attempt G := { m.attempts k with config }
      -- the id was free when it was checked, so the handler's answer is that of `evaluate`
      have hresp : handleRequest attempt.gnbContexts attempt.config request =
          Ngap.evaluate config request.supportedTaList := by
        rw [handleRequest, show attempt.gnbContexts _ = _ from hfree]
      exact hpending.settle attempt hread hresp
  | @write c written k pdu result hc =>
    change Follows c m.attempts m.reads (s.conns c) at h
    show Follows c (Function.update m.attempts m.reads _) m.reads ((s.setConn c _).conns c)
    rw [hc] at h
    generalize m.reads = n at h ⊢
    rw [hself]
    cases h with
    | setUp hconn => cases hconn
    | writing hpending hanswer =>
      let attempt : Attempt G := { m.attempts k with encoded := true, written }
      have hwritten : tryNgSetup c (Function.update m.attempts k attempt k) =
          (Function.update m.attempts k attempt k).answer pdu result := by
        rw [Function.update_self]
        exact hanswer written
      have hfollows := (hpending.set attempt).onWritten (by rw [Function.update_self]) hwritten
      rw [Function.update_self] at hfollows
      exact hfollows
  | insertPanic hc hkey => exact hdone hc rfl hself rfl
  | insert hc hkey => exact hdone hc rfl (Function.update_self ..) rfl
  | spawn hc => exact hdone hc rfl hself rfl
  | @loopRead c ctx outcome hc =>
    have hctx : (onLoopRead ctx outcome).setUp = some ctx := by cases outcome <;> rfl
    exact hdone hc rfl hself hctx
  | close hc => exact hdone hc rfl (Function.update_self ..) rfl
  | @panic c _ _ _ hc =>
    show Follows c m.attempts m.reads ((s.setConn c .panicked).conns c)
    rw [hself]
    exact .panicked

/-- The attempts of a run have read what the reads of the connection gave. -/
theorem outcomes_metOf {as : List (Act G)} {s : State G} (run : (system G).Run as s) (c : ConnId) :
    (metOf c as).outcomes = readsOf c as := by
  induction run with
  | nil => rfl
  | @snoc as s s' a run _ hstep ih =>
    have hsplit : readsOf c (as ++ [a]) = readsOf c as ++ readsOf c [a] := List.filterMap_append ..
    have hnote : metOf c (as ++ [a]) = (metOf c as).note c s a := run.noted_snoc hstep
    rw [hnote, hsplit, ← ih]
    unfold Met.note
    split
    · next ha =>
      subst ha
      exact Met.outcomes_act _ s a
    · next ha =>
      have hnone : readsOf c [a] = [] := by
        cases a with
        | read c' outcome => exact List.filterMap_cons_none (if_neg ha)
        | accept | check | evaluate | write | insert | spawn | loopRead | close | panic => rfl
      rw [hnone, List.append_nil]

/-- **A connection does what the function does.** In every run of the system, with the attempts that
the run shows. Their number is that of the reads which the connection has made, and what they read
is what these reads gave. By induction on the run; a step of another connection changes neither this
one nor what it has met. -/
theorem run_follows {as : List (Act G)} {s : State G} (run : (system G).Run as s) (c : ConnId) :
    Follows c (attemptsOf c as) (readsOf c as).length (s.conns c) ∧
      (List.range (readsOf c as).length).map (fun j => (attemptsOf c as (j + 1)).read) =
        readsOf c as := by
  have houtcomes := outcomes_metOf run c
  have hreads : (metOf c as).reads = (readsOf c as).length := by
    rw [← houtcomes, Met.outcomes, List.length_map, List.length_range]
  rw [← hreads]
  refine ⟨?_, houtcomes⟩
  show Follows c (metOf c as).attempts (metOf c as).reads (s.conns c)
  clear houtcomes hreads
  induction run with
  | nil => exact .idle
  | @snoc as s s' a run _ hstep ih =>
    have h : Step s a s' := step_cases hstep
    have hnote : metOf c (as ++ [a]) = (metOf c as).note c s a := run.noted_snoc hstep
    rw [hnote]
    unfold Met.note
    split
    · next ha =>
      subst ha
      exact ih.step h
    · next ha =>
      rw [h.conns_other (Ne.symm ha)]
      exact ih

/-- A gNB whose first request has the id of another one, and whose first response is not written. -/
def thirdTime : List (Act Nat) :=
  setUp 0 5 ++
  [.accept 1, .read 1 (.ngSetupRequest (gnbRequest 5)), .check 1, .write 1 true,
    .read 1 (.ngSetupRequest (gnbRequest 6)), .check 1, .evaluate 1 amfConfig, .write 1 false,
    .read 1 (.ngSetupRequest (gnbRequest 6)), .check 1, .evaluate 1 amfConfig, .write 1 true]

/-- The third attempt gets through: the first finds its id taken by connection 0, the second one's
response is not written. -/
theorem run_follows_thirdTime :
    ∃ s, (system Nat).Run thirdTime s ∧
      s.conns 1 = .inserting (.ofRequest 1 (gnbRequest 6)) ∧
      (attemptsOf 1 thirdTime 1).gnbContexts 5 = some (.ofRequest 0 (gnbRequest 5)) ∧
      (attemptsOf 1 thirdTime 2).written = false ∧ (attemptsOf 1 thirdTime 3).written = true ∧
      Follows 1 (attemptsOf 1 thirdTime) 3 (s.conns 1) := by
  let s := ((system Nat).exec thirdTime).get (by decide +kernel)
  have hrun : (system Nat).Run thirdTime s := System.run_of_exec (by simp [s])
  have hconn : s.conns 1 = .inserting (.ofRequest 1 (gnbRequest 6)) := by decide +kernel
  have hheld : (attemptsOf 1 thirdTime 1).gnbContexts 5 = some (.ofRequest 0 (gnbRequest 5)) := by
    decide +kernel
  have hreads : (readsOf 1 thirdTime).length = 3 := by decide +kernel
  exact ⟨s, hrun, hconn, hheld, by decide +kernel, by decide +kernel,
    hreads ▸ (run_follows hrun 1).1⟩

end UnifyAir.Ngap
