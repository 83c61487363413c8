import UnifyAir.Sniffer.Reassembly

/-!
# UnifyAir — the body of a stream among all frames of a connection

The body of a stream is what it has apart from its headers: the data of both directions, and
whether each is complete. Frames of every type and of every stream are handled one after the other,
and the body depends on those of the stream alone. Whatever headers say, whatever a decoder raises
and wherever header blocks go is nothing to it.

* **`body_handleWire`** — one frame: data is added by DATA; DATA, HEADERS and RST_STREAM end a
  direction.
* **`body_foldl`** — the frames of a direction.
-/

namespace UnifyAir.Sniffer

open Wire
open Raising

variable {D α : Type}

/-- What a stream has apart from its headers; `true` is the direction of the client. -/
structure Body where
  streamId : Nat
  data : Bool → Bytes
  complete : Bool → Bool

def HTTP2Stream.body (stream : HTTP2Stream) : Body := ⟨stream.streamId, stream.data, stream.complete⟩

/-- Headers may complete their direction, and change nothing else of a body. In which field they are
kept is of no account here. -/
theorem body_addHeaders (stream : HTTP2Stream) (headers : Headers) (fromClient endStream : Bool) :
    (stream.addHeaders headers fromClient endStream).body =
      { stream.body with
        complete := Function.update stream.complete fromClient
          (stream.complete fromClient || endStream) } := by
  have hid : (stream.addHeaders headers fromClient endStream).streamId = stream.streamId := by
    unfold HTTP2Stream.addHeaders
    cases fromClient with
    | true => cases stream.clientHeaders <;> cases endStream <;> rfl
    | false => cases stream.serverHeaders <;> cases endStream <;> rfl
  have hdata : (stream.addHeaders headers fromClient endStream).data = stream.data := by
    funext d
    unfold HTTP2Stream.addHeaders
    -- its own direction is the lemma's, the other one is not touched
    cases d <;> cases fromClient
    · exact HTTP2Stream.data_addHeaders stream headers false endStream
    · cases stream.clientHeaders <;> cases endStream <;> rfl
    · cases stream.serverHeaders <;> cases endStream <;> rfl
    · exact HTTP2Stream.data_addHeaders stream headers true endStream
  have hcomplete : (stream.addHeaders headers fromClient endStream).complete =
      Function.update stream.complete fromClient (stream.complete fromClient || endStream) := by
    rw [Function.eq_update_iff]
    refine ⟨HTTP2Stream.complete_addHeaders stream headers fromClient endStream, fun d hd => ?_⟩
    unfold HTTP2Stream.addHeaders
    cases d <;> cases fromClient
    · exact absurd rfl hd
    · cases stream.clientHeaders <;> cases endStream <;> rfl
    · cases stream.serverHeaders <;> cases endStream <;> rfl
    · exact absurd rfl hd
  unfold HTTP2Stream.body
  rw [hid, hdata, hcomplete]

/-- Data is put behind the data of its direction, and may complete it. The other direction and the
id are as they were, field by field. -/
theorem body_addData (stream : HTTP2Stream) (octets : Bytes) (fromClient endStream : Bool) :
    (stream.addData octets fromClient endStream).body =
      { stream.body with
        data := Function.update stream.data fromClient (stream.data fromClient ++ octets)
        complete := Function.update stream.complete fromClient
          (stream.complete fromClient || endStream) } := by
  have hid : (stream.addData octets fromClient endStream).streamId = stream.streamId := by
    cases fromClient <;> cases endStream <;> rfl
  have hdata : (stream.addData octets fromClient endStream).data =
      Function.update stream.data fromClient (stream.data fromClient ++ octets) := by
    rw [Function.eq_update_iff]
    refine ⟨HTTP2Stream.data_addData stream octets fromClient endStream, fun d hd => ?_⟩
    cases d <;> cases fromClient <;> cases endStream <;> first | rfl | exact absurd rfl hd
  have hcomplete : (stream.addData octets fromClient endStream).complete =
      Function.update stream.complete fromClient (stream.complete fromClient || endStream) := by
    rw [Function.eq_update_iff]
    refine ⟨HTTP2Stream.complete_addData stream octets fromClient endStream, fun d hd => ?_⟩
    cases d <;> cases fromClient <;> cases endStream <;> first | rfl | exact absurd rfl hd
  unfold HTTP2Stream.body
  rw [hid, hdata, hcomplete]

/-- A reset completes the direction of its sender, and adds nothing. What was received before stays,
and is reported with the stream. -/
theorem body_reset (stream : HTTP2Stream) (fromClient : Bool) :
    (if fromClient then { stream with clientComplete := true }
      else { stream with serverComplete := true } : HTTP2Stream).body =
      { stream.body with complete := Function.update stream.complete fromClient true } := by
  cases fromClient with
  | true =>
    have hcomplete : HTTP2Stream.complete { stream with clientComplete := true } =
        Function.update stream.complete true true := by
      funext d
      cases d <;> rfl
    exact congrArg (Body.mk stream.streamId stream.data) hcomplete
  | false =>
    have hcomplete : HTTP2Stream.complete { stream with serverComplete := true } =
        Function.update stream.complete false true := by
      funext d
      cases d <;> rfl
    exact congrArg (Body.mk stream.streamId stream.data) hcomplete

/-- The body of the stream of an id. -/
def Session.body (s : Session D) (streamId : Nat) : Body := (s.stream streamId).body

theorem Session.body_setStream_self (s : Session D) (streamId : Nat) (stream : HTTP2Stream) :
    (s.setStream streamId stream).body streamId = stream.body := by
  unfold Session.body
  rw [Session.stream_setStream]

theorem Session.body_setStream_of_ne (s : Session D) {streamId k : Nat} (h : k ≠ streamId)
    (stream : HTTP2Stream) : (s.setStream streamId stream).body k = s.body k := by
  show ((Function.update s.streams streamId (some stream) k).getD _).body = _
  rw [Function.update_of_ne h]
  rfl

theorem Session.body_setDecoder (s : Session D) (fromClient : Bool) (d : D) (k : Nat) :
    (s.setDecoder fromClient d).body k = s.body k := by
  cases fromClient <;> rfl

/-! ## Steps that leave a body alone

A session is coupled with itself as long as a stream has some body. What `coupled_dispatch` asks for
are then the steps that change no body of that stream. -/

/-- A session with itself, where the stream `k` has the body `b`. -/
def Session.HasBody (k : Nat) (b : Body) (s s' : Session D) : Prop := s = s' ∧ s.body k = b

variable {k : Nat} {b : Body}

/-- A step that leaves the body of `k` alone is coupled with itself. Only what it leaves matters,
not what it returns. -/
theorem coupled_of_body {x : Py D α} (h : ∀ s, (x.exec s).2.body k = s.body k) :
    Coupled (Session.HasBody k b) x x :=
  keeps_iff.mp fun s hs => (h s).trans hs

/-- A stream that is not there yet is as good as a new one. -/
theorem body_ensureStream (streamId : Nat) (s : Session D) :
    ((ensureStream streamId).exec s).2.body k = s.body k := by
  rw [exec_ensureStream]
  by_cases hk : k = streamId
  · subst hk
    exact Session.body_setStream_self s k _
  · exact Session.body_setStream_of_ne s hk _

/-- A stream that is not there is not put there by a method on it; one that is there is changed. -/
theorem exec_modifyStream_of_stream (streamId : Nat) (g : HTTP2Stream → HTTP2Stream)
    (s : Session D) : ((modifyStream streamId g).exec s).2 = s ∨
      ((modifyStream streamId g).exec s).2 = s.setStream streamId (g (s.stream streamId)) := by
  unfold modifyStream Session.setStream Session.stream
  rw [ExceptT.exec_modify]
  cases hstream : s.streams streamId with
  | none =>
    left
    have hself : Function.update s.streams streamId none = s.streams := by
      rw [← hstream, Function.update_eq_self]
    rw [Option.map_none, hself]
  | some stream => exact .inr rfl

theorem body_modifyStream_of_ne {streamId : Nat} (h : k ≠ streamId)
    (g : HTTP2Stream → HTTP2Stream) (s : Session D) :
    ((modifyStream streamId g).exec s).2.body k = s.body k := by
  rcases exec_modifyStream_of_stream streamId g s with heq | heq
  · rw [heq]
  · rw [heq]
    exact Session.body_setStream_of_ne s h _

theorem body_modifyStream_of_body {streamId : Nat} {g : HTTP2Stream → HTTP2Stream}
    (h : ∀ stream, (g stream).body = stream.body) (s : Session D) :
    ((modifyStream streamId g).exec s).2.body k = s.body k := by
  by_cases hk : k = streamId
  · subst hk
    rcases exec_modifyStream_of_stream k g s with heq | heq
    · rw [heq]
    · rw [heq, Session.body_setStream_self, h]
      rfl
  · exact body_modifyStream_of_ne hk g s

theorem body_addHeaders_false (stream : HTTP2Stream) (headers : Headers) :
    (stream.addHeaders headers true false).body = stream.body := by
  rw [body_addHeaders, Bool.or_false, Function.update_eq_self]
  rfl

variable (hpack : Hpack D)

/-- A block changes the decoder only, whether or not it raises. -/
theorem body_decodeHeaders (block : Bytes) (fromClient : Bool) (s : Session D) :
    ((decodeHeaders hpack block fromClient).exec s).2.body k = s.body k := by
  obtain ⟨headers, heq⟩ := exec_decodeHeaders hpack block fromClient s
  rw [heq]
  exact Session.body_setDecoder s fromClient _ k

/-- A setting changes the settings, or the table size of a decoder. -/
theorem body_applySetting (fromClient : Bool) (settingId value : Nat) (s : Session D) :
    ((applySetting hpack fromClient settingId value).exec s).2.body k = s.body k := by
  unfold applySetting
  rw [ExceptT.exec_modify]
  dsimp only
  split
  · cases fromClient <;> rfl
  all_goals rfl

/-- A frame of another stream, or one that is not of a message. -/
theorem frameSteps_hasBody (frame : Frame) (streamId : Nat) (fromClient : Bool)
    (h : k ≠ streamId ∨ frame.frameClass ≠ some .dataFrame ∧
      frame.frameClass ≠ some .headersFrame ∧ frame.frameClass ≠ some .rstStreamFrame) :
    FrameSteps (Session.HasBody k b) hpack hpack frame streamId fromClient where
  decode block fromClient := coupled_of_body (body_decodeHeaders hpack block fromClient)
  headers hclass _ _ :=
    coupled_of_body (body_modifyStream_of_ne (h.resolve_right fun hnot => hnot.2.1 hclass) _)
  data hclass _ :=
    coupled_of_body (body_modifyStream_of_ne (h.resolve_right fun hnot => hnot.1 hclass) _)
  reset hclass g :=
    coupled_of_body (body_modifyStream_of_ne (h.resolve_right fun hnot => hnot.2.2 hclass) g)
  promise _ _ _ _ _ headers :=
    ⟨coupled_of_body (body_ensureStream _),
      coupled_of_body (body_modifyStream_of_body fun stream => body_addHeaders_false stream headers)⟩

/-! ## Handling a frame

`dataOn` and `endsOn` say of a frame what it is to a stream; for most frames that is nothing. One
lemma treats all of these, and three the frames of a message. -/

/-- The constructors that make the frames of a message raise for stream id 0 alone. -/
structure Hyperframe.DocumentedEnds (hyperframe : Hyperframe) : Prop
    extends hyperframe.Documented where
  rstStreamFrame : ∀ streamId, 0 < streamId → hyperframe.construct .rstStreamFrame streamId = .ok ()

/-- What a frame adds to the data of a stream. -/
def dataOn (k : Nat) (f : Http2.Frame) : Bytes :=
  if f.streamId = k ∧ 0 < k ∧ f.type = 0x0 then f.payload else []

/-- Whether a frame ends its direction of a stream: END_STREAM, or a reset with its error code. -/
def endsOn (k : Nat) (f : Http2.Frame) : Bool :=
  f.streamId = k && 0 < k &&
    ((f.type = 0x0 || f.type = 0x1) && f.endStream || f.type = 0x3 && f.payload.length = 4)

/-- What a body becomes with a frame. -/
def Body.receive (fromClient : Bool) (k : Nat) (b : Body) (f : Http2.Frame) : Body where
  streamId := b.streamId
  data := Function.update b.data fromClient (b.data fromClient ++ dataOn k f)
  complete := Function.update b.complete fromClient (b.complete fromClient || endsOn k f)

theorem Body.receive_of_not {fromClient : Bool} {b : Body} {f : Http2.Frame}
    (hdata : dataOn k f = []) (hends : endsOn k f = false) : b.receive fromClient k f = b := by
  unfold Body.receive
  rw [hdata, hends, List.append_nil, Bool.or_false, Function.update_eq_self,
    Function.update_eq_self]

theorem exec_unpackI_of_length {b : Bytes} (h : b.length = 4) (s : Session D) :
    ∃ n, (unpackI b).exec s = (.ok n, s) := by
  match b, h with
  | [o₀, o₁, o₂, o₃], _ => exact ⟨Http2.value32 o₀ o₁ o₂ o₃, rfl⟩

theorem exec_unpackI_of_length_ne {b : Bytes} (h : b.length ≠ 4) (s : Session D) :
    ∃ err, (unpackI b).exec s = (.error err, s) := by
  unfold unpackI
  split
  · exact absurd rfl h
  · exact ⟨_, rfl⟩

/-- The types of the frames of a message. No other type has one of these three classes, so a frame
that is not of a message can be told by its class. -/
theorem frameClass_inv (type : UInt8) :
    (frameClass type = some .dataFrame → type = 0x0) ∧
      (frameClass type = some .headersFrame → type = 0x1) ∧
      (frameClass type = some .rstStreamFrame → type = 0x3) := by
  unfold frameClass
  -- nine types that are known, and the others
  split
  · next h => exact ⟨fun _ => UInt8.toNat_inj.mp h, nofun, nofun⟩
  · next h => exact ⟨nofun, fun _ => UInt8.toNat_inj.mp h, nofun⟩
  · exact ⟨nofun, nofun, nofun⟩
  · exact ⟨nofun, nofun, nofun⟩
  · exact ⟨nofun, nofun, nofun⟩
  · exact ⟨nofun, nofun, nofun⟩
  · exact ⟨nofun, nofun, nofun⟩
  · next h => exact ⟨nofun, nofun, fun _ => UInt8.toNat_inj.mp h⟩
  · exact ⟨nofun, nofun, nofun⟩
  · exact ⟨nofun, nofun, nofun⟩

/-- The class of a frame is that of its type. -/
theorem frameClass_of_createHyperframeObject {hyperframe : Hyperframe} {frameType flags : UInt8}
    {streamId : Nat} {body : Bytes} {frame : Frame}
    (h : createHyperframeObject hyperframe frameType flags streamId body = some frame) :
    frame.frameClass = frameClass frameType := by
  unfold createHyperframeObject at h
  split at h
  · next hclass =>
    cases h
    exact hclass.symm
  · next cls hclass =>
    split at h
    · cases h
      exact hclass.symm
    · cases h

section

variable (hyperframe : Hyperframe) (fromClient : Bool) (s : Session D) (f : Http2.Frame)

/-- A frame of another stream, of the connection, or of a type that is not of a message. By
`coupled_dispatch`, the relation being that the body is still the same. -/
theorem body_handleWire_of_not
    (h : k ≠ f.streamId ∨ f.streamId = 0 ∨ f.type ≠ 0x0 ∧ f.type ≠ 0x1 ∧ f.type ≠ 0x3) :
    (handleWire hpack hyperframe fromClient s f).body k = s.body k := by
  have hkeeps : Coupled (Session.HasBody k (s.body k))
      (dispatch hpack hyperframe f.type f.flags f.streamId f.payload fromClient)
      (dispatch hpack hyperframe f.type f.flags f.streamId f.payload fromClient) := by
    refine coupled_dispatch hpack hpack (coupled_of_body (body_ensureStream _))
      (fun settingId value =>
        coupled_of_body (body_applySetting hpack fromClient settingId value))
      fun frame hframe hid => frameSteps_hasBody hpack frame _ fromClient ?_
    have hclass := frameClass_of_createHyperframeObject hframe
    have hinv := frameClass_inv f.type
    rw [← hclass] at hinv
    refine h.imp_right fun h => ?_
    obtain ⟨hdata, hheaders, hrst⟩ := h.resolve_left (Nat.ne_of_gt hid)
    exact ⟨hdata ∘ hinv.1, hheaders ∘ hinv.2.1, hrst ∘ hinv.2.2⟩
  exact keeps_iff.mpr hkeeps s rfl

variable {hyperframe} (hdoc : hyperframe.DocumentedEnds)
include hdoc

/-- A reset ends its direction if it has an error code; without one it raises, inside of
`handle_frame`, and the stream is as it was. -/
theorem body_handleWire_rst (htype : f.type = 0x3) (hid : 0 < f.streamId) :
    (handleWire hpack hyperframe fromClient s f).body f.streamId =
      (s.body f.streamId).receive fromClient f.streamId f := by
  have hframe : createHyperframeObject hyperframe f.type f.flags f.streamId f.payload =
      some ⟨some .rstStreamFrame, f.flags, f.payload⟩ := by
    have hclass : frameClass f.type = some .rstStreamFrame := by
      rw [htype]
      rfl
    unfold createHyperframeObject
    rw [hclass]
    dsimp only
    rw [hdoc.rstStreamFrame _ hid]
  have hdata : dataOn f.streamId f = [] :=
    if_neg fun h => absurd (h.2.2.symm.trans htype) (by decide)
  have hends : endsOn f.streamId f = decide (f.payload.length = 4) := by
    simp [endsOn, htype, hid]
  unfold handleWire dispatch
  rw [hframe]
  dsimp only
  rw [if_pos hid, ExceptT.exec_bind, exec_ensureStream]
  dsimp only
  unfold handleFrame tryHandleFrame
  dsimp only
  rw [ExceptT.exec_tryCatch, ExceptT.exec_bind]
  -- with an error code the stream is changed, without one the exception is caught
  by_cases hlen : f.payload.length = 4
  · obtain ⟨n, hexec⟩ := exec_unpackI_of_length hlen (s.setStream f.streamId (s.stream f.streamId))
    rw [hexec]
    dsimp only
    rw [exec_modifyStream, Session.body_setStream_self, body_reset]
    unfold Body.receive
    rw [hdata, hends, decide_eq_true hlen, List.append_nil, Function.update_eq_self, Bool.or_true]
    rfl
  · obtain ⟨err, hexec⟩ :=
      exec_unpackI_of_length_ne hlen (s.setStream f.streamId (s.stream f.streamId))
    rw [hexec]
    show (s.setStream f.streamId (s.stream f.streamId)).body f.streamId = _
    rw [Session.body_setStream_self, Body.receive_of_not hdata (hends.trans (decide_eq_false hlen))]
    rfl

/-- **One frame.** The body of a stream, whatever the frame is. There are four cases: DATA, HEADERS
and RST_STREAM on this stream, and everything else. -/
theorem body_handleWire :
    (handleWire hpack hyperframe fromClient s f).body k = (s.body k).receive fromClient k f := by
  -- the frames of a message on this stream, and all others
  by_cases hmessage : f.streamId = k ∧ 0 < k ∧ (f.type = 0x0 ∨ f.type = 0x1 ∨ f.type = 0x3)
  · obtain ⟨rfl, hid, htype | htype | htype⟩ := hmessage
    · have hdata : dataOn f.streamId f = f.payload := if_pos ⟨rfl, hid, htype⟩
      have hends : endsOn f.streamId f = f.endStream := by simp [endsOn, htype, hid]
      rw [handleWire_data hpack fromClient s hdoc.toDocumented htype hid,
        Session.body_setStream_self, body_addData]
      unfold Body.receive
      rw [hdata, hends]
      rfl
    · have hdata : dataOn f.streamId f = [] :=
        if_neg fun h => absurd (h.2.2.symm.trans htype) (by decide)
      have hends : endsOn f.streamId f = f.endStream := by simp [endsOn, htype, hid]
      obtain ⟨headers, heq⟩ := handleWire_headers hpack fromClient s hdoc.toDocumented htype hid
      rw [heq, Session.body_setStream_self, body_addHeaders]
      unfold Body.receive
      rw [hdata, hends, List.append_nil, Function.update_eq_self]
      rfl
    · exact body_handleWire_rst hpack fromClient s f hdoc htype hid
  · rw [not_and, not_and, not_or, not_or] at hmessage
    rw [body_handleWire_of_not hpack hyperframe fromClient s f]
    · refine (Body.receive_of_not ?_ ?_).symm
      · exact if_neg fun h => (hmessage h.1 h.2.1).1 h.2.2
      · by_contra hends
        simp only [endsOn, Bool.not_eq_false, Bool.and_eq_true, decide_eq_true_eq,
          Bool.or_eq_true] at hends
        obtain ⟨⟨hk, hid⟩, hends⟩ := hends
        have hnot := hmessage hk hid
        rcases hends with ⟨h | h, -⟩ | ⟨h, -⟩
        · exact hnot.1 h
        · exact hnot.2.1 h
        · exact hnot.2.2 h
    · by_cases hk : f.streamId = k
      · rcases Nat.eq_zero_or_pos k with hzero | hid
        · exact .inr (.inl (hk.trans hzero))
        · exact .inr (.inr (hmessage hk hid))
      · exact .inl (Ne.symm hk)

/-- **The frames of a direction**, one after the other. By induction on them; the data is appended
in their order, and one that ends the direction is enough. -/
theorem body_foldl (frames : List Http2.Frame) :
    (frames.foldl (handleWire hpack hyperframe fromClient) s).body k =
      { streamId := (s.body k).streamId
        data := Function.update (s.body k).data fromClient
          ((s.body k).data fromClient ++ frames.flatMap (dataOn k))
        complete := Function.update (s.body k).complete fromClient
          ((s.body k).complete fromClient || frames.any (endsOn k)) } := by
  induction frames generalizing s with
  | nil =>
    rw [List.flatMap_nil, List.append_nil, List.any_nil, Bool.or_false, Function.update_eq_self,
      Function.update_eq_self]
    rfl
  | cons f frames ih =>
    rw [List.foldl_cons, ih, body_handleWire hpack fromClient s f hdoc]
    unfold Body.receive
    dsimp only
    rw [Function.update_self, Function.update_self, Function.update_idem, Function.update_idem,
      List.append_assoc, Bool.or_assoc, List.flatMap_cons, List.any_cons]

end

end UnifyAir.Sniffer
