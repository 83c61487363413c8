import UnifyAir.Sniffer.Segmentation

/-!
# UnifyAir — what a frame does, step by step

The methods of the decoder are gone through once, for any relation between two sessions, whose
decoders may be of different kinds. If each primitive step (a header block that is decoded, a
setting that is applied, a stream that is put there or changed) is coupled by the relation, so is
all that is done with a frame.

Three relations are put in: two sessions that differ in a record, in `Sniffer.Recording`; a session
and what it shows of one stream, in `Sniffer.Bodies`; and a session and the streams that are there,
in `Sniffer.Insertion`. The last two are invariants of one session, that is, of a session that is
coupled with itself.

* **`coupled_handleFrame`**, **`coupled_handleConnectionFrame`** — the two kinds of frames.
* **`coupled_dispatch`** — whatever the frame is.
-/

namespace UnifyAir.Sniffer

open Http2 (value32)
open Raising

variable {D D' : Type} {R : Session D → Session D' → Prop}

/-! ## Reading numbers

These read no session. They return the same number on both sides, or raise the same exception. -/

/-- Four bytes, or an exception; whichever it is, it is the same on both sides. -/
theorem coupled_unpackI (b : Bytes) : Coupled R (unpackI b) (unpackI b) := by
  unfold unpackI
  split
  · exact coupled_pure _
  · exact coupled_throw _

/-- There are four octets, or it raises, with a message that does not depend on the kind of decoder.
-/
theorem unpackI_cases (b : Bytes) : (∃ o₀ o₁ o₂ o₃, b = [o₀, o₁, o₂, o₃]) ∨
    ∀ {D : Type}, (unpackI b : Py D Nat) = throw "unpack requires a buffer of 4 bytes" := by
  by_cases h : ∃ o₀ o₁ o₂ o₃, b = [o₀, o₁, o₂, o₃]
  · exact .inl h
  · refine .inr ?_
    intro D
    unfold unpackI
    split
    · exact absurd ⟨_, _, _, _, rfl⟩ h
    · rfl

theorem coupled_unpackH (b : Bytes) : Coupled R (unpackH b) (unpackH b) := by
  unfold unpackH
  split
  · exact coupled_pure _
  · exact coupled_throw _

/-- The id and the value of a setting are read one after the other, and the first failure is the one
of both sides. -/
theorem coupled_unpackSetting (body : Bytes) (i : Nat) :
    Coupled R (unpackSetting body i) (unpackSetting body i) :=
  (coupled_unpackH _).bind fun _ => (coupled_unpackI _).bind fun _ => coupled_pure _

/-! ## Frames

The methods are gone through here and nowhere else. A relation that is to be carried over a frame
has to be given for the primitive steps only. -/

variable (hpack : Hpack D) (hpack' : Hpack D')

/-- Settings are unpacked all before one is applied, so a frame with a broken one applies none. This
is `mapM` and then `forM`, and each has a rule. -/
theorem coupled_handleConnectionFrame {fromClient : Bool}
    (hsetting : ∀ settingId value, Coupled R (applySetting hpack fromClient settingId value)
      (applySetting hpack' fromClient settingId value)) (frame : Frame) :
    Coupled R (handleConnectionFrame hpack frame fromClient)
      (handleConnectionFrame hpack' frame fromClient) := by
  unfold handleConnectionFrame
  cases frame.frameClass with
  | none => exact coupled_pure ()
  | some cls =>
    -- only SETTINGS and GOAWAY are looked into
    cases cls with
    | settingsFrame =>
      refine Coupled.tryCatch ?_ fun _ => coupled_pure ()
      exact (coupled_mapM (coupled_unpackSetting _) _).bind fun _ =>
        coupled_forM (fun _ => hsetting _ _) _
    | goAwayFrame =>
      refine Coupled.bind ?_ fun _ => coupled_pure ()
      split
      · exact coupled_unpackI _
      · exact coupled_pure 0
    | dataFrame | headersFrame | priorityFrame | rstStreamFrame | pushPromiseFrame | pingFrame
    | windowUpdateFrame => exact coupled_pure ()

/-- The primitive steps of `handle_frame`, each where it is taken: by a frame of its class, or for
the stream that is promised in the first four octets of the body. -/
structure FrameSteps (R : Session D → Session D' → Prop) (hpack : Hpack D) (hpack' : Hpack D')
    (frame : Frame) (streamId : Nat) (fromClient : Bool) : Prop where
  decode : ∀ block fromClient,
    Coupled R (decodeHeaders hpack block fromClient) (decodeHeaders hpack' block fromClient)
  headers : frame.frameClass = some .headersFrame → ∀ headers endStream,
    Coupled R (modifyStream streamId (·.addHeaders headers fromClient endStream))
      (modifyStream streamId (·.addHeaders headers fromClient endStream))
  data : frame.frameClass = some .dataFrame → ∀ endStream,
    Coupled R (modifyStream streamId (·.addData frame.body fromClient endStream))
      (modifyStream streamId (·.addData frame.body fromClient endStream))
  reset : frame.frameClass = some .rstStreamFrame → ∀ g,
    Coupled R (modifyStream streamId g) (modifyStream streamId g)
  promise : ∀ o₀ o₁ o₂ o₃, slice frame.body 0 4 = [o₀, o₁, o₂, o₃] → ∀ headers,
    let promisedStreamId := value32 o₀ o₁ o₂ o₃ &&& 0x7FFFFFFF
    Coupled R (ensureStream promisedStreamId) (ensureStream promisedStreamId) ∧
      Coupled R (modifyStream promisedStreamId (·.addHeaders headers true false))
        (modifyStream promisedStreamId (·.addHeaders headers true false))

/-- `handle_frame` couples, if its steps do. A promise needs its four octets before there is a
stream to speak of, so this case is split by whether they are there. -/
theorem coupled_handleFrame {frame : Frame} {streamId : Nat} {fromClient : Bool}
    (h : FrameSteps R hpack hpack' frame streamId fromClient) :
    Coupled R (handleFrame hpack frame streamId fromClient)
      (handleFrame hpack' frame streamId fromClient) := by
  refine Coupled.tryCatch ?_ fun _ => coupled_pure ()
  unfold tryHandleFrame
  dsimp only
  cases hclass : frame.frameClass with
  | none => exact coupled_pure ()
  | some cls =>
    cases cls with
    | headersFrame => exact (h.decode _ _).bind fun _ => h.headers hclass _ _
    | dataFrame => exact h.data hclass _
    | pushPromiseFrame =>
      dsimp only
      rcases unpackI_cases (slice frame.body 0 4) with ⟨o₀, o₁, o₂, o₃, hslice⟩ | hthrow
      · have hread {D : Type} : (unpackI [o₀, o₁, o₂, o₃] : Py D Nat) =
          pure (value32 o₀ o₁ o₂ o₃) := rfl
        rw [hslice, hread, hread, pure_bind, pure_bind]
        refine (h.decode _ _).bind fun headers => ?_
        obtain ⟨hensure, hmodify⟩ := h.promise o₀ o₁ o₂ o₃ hslice headers
        exact hensure.bind fun _ => hmodify
      · -- without four octets nothing is promised
        rw [hthrow, hthrow]
        intro s t hst
        rw [ExceptT.exec_bind, ExceptT.exec_bind]
        exact ⟨rfl, hst⟩
    | rstStreamFrame => exact (coupled_unpackI _).bind fun _ => h.reset hclass _
    | priorityFrame | settingsFrame | pingFrame | goAwayFrame | windowUpdateFrame =>
      exact coupled_pure ()

/-- **What is done with a frame**, on two sessions at once. What is asked for is that the stream is
made sure of on both sides, that settings are coupled, and the steps of the frame that was made. -/
theorem coupled_dispatch {hyperframe : Hyperframe} {frameType flags : UInt8} {streamId : Nat}
    {frameBody : Bytes} {fromClient : Bool}
    (hensure : Coupled R (ensureStream streamId) (ensureStream streamId))
    (hsetting : ∀ settingId value, Coupled R (applySetting hpack fromClient settingId value)
      (applySetting hpack' fromClient settingId value))
    (hframe : ∀ frame,
      createHyperframeObject hyperframe frameType flags streamId frameBody = some frame →
        0 < streamId → FrameSteps R hpack hpack' frame streamId fromClient) :
    Coupled R (dispatch hpack hyperframe frameType flags streamId frameBody fromClient)
      (dispatch hpack' hyperframe frameType flags streamId frameBody fromClient) := by
  unfold dispatch
  cases hcreate : createHyperframeObject hyperframe frameType flags streamId frameBody with
  | none => exact coupled_pure ()
  | some frame =>
    -- a frame of a stream, or of the connection
    dsimp only
    split
    · next hid =>
      exact hensure.bind fun _ => coupled_handleFrame hpack hpack' (hframe frame hcreate hid)
    · exact coupled_handleConnectionFrame hpack hpack' hsetting frame

end UnifyAir.Sniffer
