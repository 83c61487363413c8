import Mathlib.Data.List.Dedup
import UnifyAir.Sniffer.Recording

/-!
# UnifyAir — the order of `connection.streams`

A dictionary is gone through in the order in which its keys were put there. A frame puts its own
stream there, and then the one that it promises, if they are not there yet. `insertFrame` keeps the
list of the keys beside a session, frame by frame as the parser handles them.

* **`Listed`** — the list has each key once.
* **`listed_foldl`** — it still does after any frames.
-/

namespace UnifyAir.Sniffer

open Http2 (value32)
open Raising

variable {D α : Type}

/-- The stream that a frame promises, if it promises one. -/
def promisedStreamId (f : Http2.Frame) : Nat :=
  match slice f.payload 0 4 with
  | [o₀, o₁, o₂, o₃] => value32 o₀ o₁ o₂ o₃ &&& 0x7FFFFFFF
  | _ => f.streamId

/-- The keys that a frame has put there, in order. -/
def created (f : Http2.Frame) (s s' : Session D) : List Nat :=
  [f.streamId, promisedStreamId f].dedup.filter fun streamId =>
    (s.streams streamId).isNone && (s'.streams streamId).isSome

/-- `connection.streams` has these keys, in this order. -/
structure Listed (s : Session D) (streamIds : List Nat) : Prop where
  mem_iff : ∀ k, k ∈ streamIds ↔ (s.streams k).isSome = true
  nodup : streamIds.Nodup

/-! ## Steps that put streams there

From the session that is there when a frame comes, a step takes no stream away, and puts none there
but those with `P`. This is an invariant of the session, once the first one is fixed. -/

/-- The streams of `s₀`, and maybe others with `P`. -/
def Session.Extends (s₀ : Session D) (P : Nat → Prop) (s : Session D) : Prop :=
  ∀ k, ((s₀.streams k).isSome = true → (s.streams k).isSome = true) ∧
    ((s.streams k).isSome = true → (s₀.streams k).isSome = true ∨ P k)

theorem Session.extends_refl (s₀ : Session D) (P : Nat → Prop) : s₀.Extends P s₀ :=
  fun _ => ⟨id, .inl⟩

/-- A session with itself, as long as it extends the first one. -/
def Session.Extending (s₀ : Session D) (P : Nat → Prop) (s s' : Session D) : Prop :=
  s = s' ∧ s₀.Extends P s

variable {s₀ : Session D} {P : Nat → Prop}

/-- What comes behind a step that changes no stream, or puts one there that may be put there. As an
invariant it is coupled with itself. -/
theorem coupled_of_extends {x : Py D α}
    (h : ∀ s k, ((x.exec s).2.streams k).isSome = (s.streams k).isSome ∨
      ((x.exec s).2.streams k).isSome = true ∧ P k) :
    Coupled (s₀.Extending P) x x := by
  refine keeps_iff.mp fun s hs k => ?_
  rcases h s k with heq | ⟨hsome, hP⟩
  · rw [heq]
    exact hs k
  · exact ⟨fun _ => hsome, fun _ => .inr hP⟩

/-- The one step that puts a stream there, if it may be put there. -/
theorem extending_ensureStream {streamId : Nat} (h : P streamId) :
    Coupled (s₀.Extending P) (ensureStream streamId) (ensureStream streamId) := by
  refine coupled_of_extends fun s k => ?_
  unfold ensureStream
  rw [ExceptT.exec_modify]
  dsimp only
  split
  · exact .inl rfl
  · dsimp only
    by_cases hk : k = streamId
    · subst hk
      rw [Function.update_self]
      exact .inr ⟨rfl, h⟩
    · rw [Function.update_of_ne hk]
      exact .inl rfl

theorem extending_modifyStream (streamId : Nat) (g : HTTP2Stream → HTTP2Stream) :
    Coupled (s₀.Extending P) (modifyStream streamId g) (modifyStream streamId g) := by
  refine coupled_of_extends fun s k => .inl ?_
  unfold modifyStream
  rw [ExceptT.exec_modify]
  dsimp only
  by_cases hk : k = streamId
  · subst hk
    rw [Function.update_self, Option.isSome_map]
  · rw [Function.update_of_ne hk]

variable (hpack : Hpack D)

theorem extending_decodeHeaders (block : Bytes) (fromClient : Bool) :
    Coupled (s₀.Extending P) (decodeHeaders hpack block fromClient)
      (decodeHeaders hpack block fromClient) := by
  refine Coupled.tryCatch (Coupled.bind ?_ fun _ => coupled_pure _) fun _ => coupled_pure _
  refine coupled_of_extends fun s k => .inl ?_
  rw [exec_hpackDecode]
  cases fromClient <;> rfl

theorem extending_applySetting (fromClient : Bool) (settingId value : Nat) :
    Coupled (s₀.Extending P) (applySetting hpack fromClient settingId value)
      (applySetting hpack fromClient settingId value) := by
  refine coupled_of_extends fun s k => .inl ?_
  unfold applySetting
  rw [ExceptT.exec_modify]
  dsimp only
  split
  · cases fromClient <;> rfl
  all_goals rfl

theorem frameSteps_extending (frame : Frame) (streamId : Nat) (fromClient : Bool)
    (h : ∀ o₀ o₁ o₂ o₃, slice frame.body 0 4 = [o₀, o₁, o₂, o₃] →
      P (value32 o₀ o₁ o₂ o₃ &&& 0x7FFFFFFF)) :
    FrameSteps (s₀.Extending P) hpack hpack frame streamId fromClient where
  decode := extending_decodeHeaders hpack
  headers _ _ _ := extending_modifyStream _ _
  data _ _ := extending_modifyStream _ _
  reset _ _ := extending_modifyStream _ _
  promise o₀ o₁ o₂ o₃ hslice _ :=
    ⟨extending_ensureStream (h o₀ o₁ o₂ o₃ hslice), extending_modifyStream _ _⟩

/-! ## Frames

Which streams a frame can put there is known beforehand: its own, and the one its first four octets
name. So the list can be kept from outside, by looking which of the two are new. -/

variable (hyperframe : Hyperframe) (fromClient : Bool)

theorem body_of_createHyperframeObject {hyperframe : Hyperframe} {frameType flags : UInt8}
    {streamId : Nat} {body : Bytes} {frame : Frame}
    (h : createHyperframeObject hyperframe frameType flags streamId body = some frame) :
    frame.body = body := by
  unfold createHyperframeObject at h
  split at h
  · cases h
    rfl
  · split at h
    · cases h
      rfl
    · cases h

/-- After a frame there are the streams of before, and those that `created` lists. It lists no more,
because it looks whether they are there, and no fewer, because no other stream can be new. -/
theorem streams_handleWire (s : Session D) (f : Http2.Frame) (k : Nat) :
    ((handleWire hpack hyperframe fromClient s f).streams k).isSome = true ↔
      (s.streams k).isSome = true ∨ k ∈ created f s (handleWire hpack hyperframe fromClient s f) := by
  have hcoupled : Coupled (s.Extending fun k => k ∈ [f.streamId, promisedStreamId f])
      (dispatch hpack hyperframe f.type f.flags f.streamId f.payload fromClient)
      (dispatch hpack hyperframe f.type f.flags f.streamId f.payload fromClient) := by
    refine coupled_dispatch hpack hpack (extending_ensureStream (List.mem_cons_self ..))
      (extending_applySetting hpack fromClient)
      fun frame hframe _ => frameSteps_extending hpack frame _ _ fun o₀ o₁ o₂ o₃ hslice => ?_
    rw [body_of_createHyperframeObject hframe] at hslice
    have hpromised : promisedStreamId f = value32 o₀ o₁ o₂ o₃ &&& 0x7FFFFFFF := by
      unfold promisedStreamId
      rw [hslice]
    rw [← hpromised]
    exact List.mem_cons_of_mem _ (List.mem_cons_self ..)
  have hk := keeps_iff.mpr hcoupled s (s.extends_refl _) k
  show _ ↔ _ ∨ k ∈ List.filter _ _
  rw [List.mem_filter, List.mem_dedup, Bool.and_eq_true, Option.isNone_iff_eq_none]
  constructor
  · -- a stream that is there: was it there before?
    intro h
    rcases hk.2 h with hold | hnew
    · exact .inl hold
    · cases hs : s.streams k with
      | none => exact .inr ⟨hnew, rfl, h⟩
      | some stream => exact .inl rfl
  · rintro (hold | ⟨-, -, hnew⟩)
    · exact hk.1 hold
    · exact hnew

/-- A frame, with the list of the keys. -/
def insertFrame (r : Session D × List Nat) (f : Http2.Frame) : Session D × List Nat :=
  let s := handleWire hpack hyperframe fromClient r.1 f
  (s, r.2 ++ created f r.1 s)

/-- **One frame.** What is put behind the list was not in it, and the list still has each key once.
-/
theorem listed_insertFrame {r : Session D × List Nat} (h : Listed r.1 r.2) (f : Http2.Frame) :
    Listed (insertFrame hpack hyperframe fromClient r f).1
      (insertFrame hpack hyperframe fromClient r f).2 where
  mem_iff k := by
    show k ∈ r.2 ++ created f r.1 _ ↔ _
    rw [List.mem_append, h.mem_iff]
    exact (streams_handleWire hpack hyperframe fromClient r.1 f k).symm
  nodup := by
    refine List.nodup_append'.mpr ⟨h.nodup, (List.nodup_dedup _).filter _, ?_⟩
    intro k hold hnew
    have hnone := (List.mem_filter.mp hnew).2
    rw [Bool.and_eq_true, Option.isNone_iff_eq_none] at hnone
    have hsome := (h.mem_iff k).mp hold
    rw [hnone.1] at hsome
    cases hsome

/-- **Any frames.** The list has each key of `connection.streams` once. -/
theorem listed_foldl {r : Session D × List Nat} (h : Listed r.1 r.2) (frames : List Http2.Frame) :
    Listed (frames.foldl (insertFrame hpack hyperframe fromClient) r).1
      (frames.foldl (insertFrame hpack hyperframe fromClient) r).2 := by
  -- one frame, and then the others
  induction frames generalizing r with
  | nil => exact h
  | cons f frames ih => exact ih (listed_insertFrame hpack hyperframe fromClient h f)

theorem fst_foldl_insertFrame (r : Session D × List Nat) (frames : List Http2.Frame) :
    (frames.foldl (insertFrame hpack hyperframe fromClient) r).1 =
      frames.foldl (handleWire hpack hyperframe fromClient) r.1 := by
  induction frames generalizing r with
  | nil => rfl
  | cons f frames ih => exact ih (insertFrame hpack hyperframe fromClient r f)

end UnifyAir.Sniffer
