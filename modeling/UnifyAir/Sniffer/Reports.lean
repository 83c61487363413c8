import UnifyAir.Sniffer.Bodies
import UnifyAir.Sniffer.Collector

/-!
# UnifyAir — what the decoder reports

A conversation is what the packets of a connection say: who the sides are, and the bytes that each
has sent since the preface. The decoder, with its buffers and its sets of streams, follows the
conversation. So a stream is reported by the packet that completes it in both directions, and only
by that one, with the data of all its DATA frames; neither the packets of other connections nor how
the bytes come in packets matters.

* **`canonicalConnTuple_eq_iff`** — both directions are one connection.
* **`connections_apart`** — a connection among others, and alone.
* **`processTcpPacket_observed`** — when a stream is reported, and with what.
* **`reported_once`** — how often, in a whole capture.
-/

namespace UnifyAir.Sniffer

open Wire

variable {D : Type}

/-! ## The tuple of a connection

The decoder finds a connection by the two addresses in a fixed order, so that both directions meet
in one place. The order is total on addresses; hence nothing else meets there. -/

/-- Of two different addresses one is the smaller one: the IP addresses decide, and where these are
equal the ports do. -/
theorem Address.eq_of_not_lt {a b : Address} (hab : ¬ a.lt b) (hba : ¬ b.lt a) : a = b := by
  unfold Address.lt at hab hba
  rw [not_or, not_and] at hab hba
  have hip : a.1 = b.1 := le_antisymm (not_lt.mp hba.1) (not_lt.mp hab.1)
  have hport : a.2 = b.2 :=
    Nat.le_antisymm (Nat.not_lt.mp (hba.2 hip.symm)) (Nat.not_lt.mp (hab.2 hip))
  exact Prod.ext hip hport

/-- The order is strict. With it the smaller of two addresses does not depend on which of them
sends. -/
theorem Address.not_lt_of_lt {a b : Address} (h : a.lt b) : ¬ b.lt a := by
  unfold Address.lt at h ⊢
  rintro (hba | ⟨hip, hport⟩)
  · rcases h with hab | ⟨hip, -⟩
    · exact lt_asymm hab hba
    · rw [hip] at hba
      exact lt_irrefl _ hba
  · rcases h with hab | ⟨-, hport'⟩
    · rw [hip] at hab
      exact lt_irrefl _ hab
    · omega

/-- **Both directions are one connection**, and packets of no other two sides are. A tuple has the
smaller address in front, so it is the unordered pair of the two. -/
theorem canonicalConnTuple_eq_iff (p q : TcpPacket) :
    p.canonicalConnTuple = q.canonicalConnTuple ↔
      p.src = q.src ∧ p.dst = q.dst ∨ p.src = q.dst ∧ p.dst = q.src := by
  have hform : ∀ r : TcpPacket, r.canonicalConnTuple =
      if r.src.lt r.dst then (r.src.1, r.dst.1, r.src.2, r.dst.2)
      else (r.dst.1, r.src.1, r.dst.2, r.src.2) := fun _ => rfl
  constructor
  · intro h
    rw [hform, hform] at h
    -- each packet may have its smaller address on either side, which makes four cases
    split at h <;> split at h <;> (simp only [Prod.mk.injEq] at h; obtain ⟨h₁, h₂, h₃, h₄⟩ := h)
    · exact .inl ⟨Prod.ext h₁ h₃, Prod.ext h₂ h₄⟩
    · exact .inr ⟨Prod.ext h₁ h₃, Prod.ext h₂ h₄⟩
    · exact .inr ⟨Prod.ext h₂ h₄, Prod.ext h₁ h₃⟩
    · exact .inl ⟨Prod.ext h₂ h₄, Prod.ext h₁ h₃⟩
  · rintro (⟨hsrc, hdst⟩ | ⟨hsrc, hdst⟩)
    · rw [hform, hform, hsrc, hdst]
    · rw [hform, hform, hsrc, hdst]
      by_cases hlt : q.dst.lt q.src
      · rw [if_pos hlt, if_neg (Address.not_lt_of_lt hlt)]
      · rw [if_neg hlt]
        by_cases hlt' : q.src.lt q.dst
        · rw [if_pos hlt']
        · rw [if_neg hlt', Address.eq_of_not_lt hlt hlt']

/-! ## Conversations

What can be said of a connection without its decoder: all bytes that a side has sent, the frames in
them, and what these are to a stream. Nothing is forgotten here and nothing is taken out. -/

/-- What the packets of a connection say; `true` is the direction of the client. -/
structure Conversation where
  client : Address
  server : Address
  sent : Bool → Bytes

namespace Conversation

def new (client server : Address) : Conversation := ⟨client, server, fun _ => []⟩

def hear (conv : Conversation) (fromClient : Bool) (payload : Bytes) : Conversation :=
  { conv with
    sent := Function.update conv.sent fromClient (conv.sent fromClient ++ payload) }

/-- How a conversation begins, and goes on. -/
def observe (conv : Option Conversation) (packet : TcpPacket) : Option Conversation :=
  match conv with
  | none => (find http2Preface packet.payload).map fun prefaceOffset =>
      (new packet.src packet.dst).hear true
        (packet.payload.drop (prefaceOffset + http2Preface.length))
  | some conv => some (conv.hear (packet.src = conv.client) packet.payload)

/-- The complete frames of a direction. -/
def frames (conv : Conversation) (fromClient : Bool) : List Http2.Frame :=
  (Http2.Frame.format.units (conv.sent fromClient)).1

/-- All the data of a stream in a direction. -/
def data (conv : Conversation) (k : Nat) (fromClient : Bool) : Bytes :=
  (conv.frames fromClient).flatMap (dataOn k)

/-- A direction of a stream is ended. -/
def ended (conv : Conversation) (k : Nat) (fromClient : Bool) : Bool :=
  (conv.frames fromClient).any (endsOn k)

/-- Both are. -/
def exchanged (conv : Conversation) (k : Nat) : Bool := conv.ended k true && conv.ended k false

def body (conv : Conversation) (k : Nat) : Body := ⟨k, conv.data k, conv.ended k⟩

variable (conv : Conversation) (fromClient : Bool) (payload : Bytes) (k : Nat)

/-- What is behind the complete frames of a direction. -/
def rest (d : Bool) : Bytes := (Http2.Frame.format.units (conv.sent d)).2

/-- The frames that are complete with what is heard. -/
def news : List Http2.Frame := (Http2.Frame.format.units (conv.rest fromClient ++ payload)).1

theorem hear_nil : conv.hear fromClient [] = conv := by
  unfold hear
  rw [List.append_nil, Function.update_eq_self]

/-- With more bytes there are the frames of before, and those that are complete now. The other
direction has its own. -/
theorem frames_hear :
    (conv.hear fromClient payload).frames =
      Function.update conv.frames fromClient
        (conv.frames fromClient ++ conv.news fromClient payload) := by
  show (fun b => (Http2.Frame.format.units b).1) ∘ Function.update conv.sent _ _ = _
  rw [Function.comp_update, Format.units_append]
  rfl

/-- What is behind the complete frames is where the next ones begin. -/
theorem rest_hear :
    (conv.hear fromClient payload).rest =
      Function.update conv.rest fromClient
        (Http2.Frame.format.units (conv.rest fromClient ++ payload)).2 := by
  show (fun b => (Http2.Frame.format.units b).2) ∘ Function.update conv.sent _ _ = _
  rw [Function.comp_update, Format.units_append]
  rfl

/-- What a stream has received, from what it had and from the frames that are complete now. This has
the form of `body_foldl`, which says the same of a session. -/
theorem body_hear :
    (conv.hear fromClient payload).body k =
      { streamId := k
        data := Function.update (conv.data k) fromClient
          (conv.data k fromClient ++ (conv.news fromClient payload).flatMap (dataOn k))
        complete := Function.update (conv.ended k) fromClient
          (conv.ended k fromClient || (conv.news fromClient payload).any (endsOn k)) } := by
  have hdata : (conv.hear fromClient payload).data k =
      Function.update (conv.data k) fromClient
        (conv.data k fromClient ++ (conv.news fromClient payload).flatMap (dataOn k)) := by
    show (fun fs => List.flatMap (dataOn k) fs) ∘ (conv.hear fromClient payload).frames = _
    rw [frames_hear, Function.comp_update, List.flatMap_append]
    rfl
  have hended : (conv.hear fromClient payload).ended k =
      Function.update (conv.ended k) fromClient
        (conv.ended k fromClient || (conv.news fromClient payload).any (endsOn k)) := by
    show (fun fs => List.any fs (endsOn k)) ∘ (conv.hear fromClient payload).frames = _
    rw [frames_hear, Function.comp_update, List.any_append]
    rfl
  unfold body
  rw [hdata, hended]

/-- What is ended stays ended. More bytes bring more frames, and those that have ended a direction
are still among them. -/
theorem exchanged_hear (h : conv.exchanged k = true) :
    (conv.hear fromClient payload).exchanged k = true := by
  have hkeep (d : Bool) (hd : conv.ended k d = true) :
      (conv.hear fromClient payload).ended k d = true := by
    show ((conv.hear fromClient payload).body k).complete d = true
    rw [body_hear]
    dsimp only
    rw [Function.update_apply]
    -- the direction that is heard, and the other one
    split
    · next heq =>
      subst heq
      rw [hd, Bool.true_or]
    · exact hd
  unfold exchanged at h ⊢
  rw [Bool.and_eq_true] at h ⊢
  exact h.imp (hkeep true) (hkeep false)

end Conversation

/-! ## The decoder follows the conversation

The decoder takes a stream out once both sides have ended it, and would make a new one under the
same id. So it agrees with the conversation on the streams that are not over, and on which ones are.
-/

/-- The connection knows what the conversation says, but for the streams that are over. -/
structure Follows (c : Connection D) (conv : Conversation) : Prop where
  client : c.clientAddr = conv.client
  server : c.serverAddr = conv.server
  buffer : c.buffer = conv.rest
  ended : c.endedStreamIds = conv.exchanged
  body : ∀ k, conv.exchanged k = false → c.body k = conv.body k
  listed : Listed c.toSession c.streamIds

/-- What is said of a stream is what the conversation says. -/
structure Reports (conv : Conversation) (dict : StreamDict) : Prop where
  src : (dict.srcIp, dict.srcPort) = conv.client
  dst : (dict.dstIp, dict.dstPort) = conv.server
  connection : (dict.clientAddr, dict.serverAddr) = (conv.client, conv.server)
  clientData : dict.clientData = conv.data dict.streamId true
  serverData : dict.serverData = conv.data dict.streamId false
  complete : dict.clientComplete = true ∧ dict.serverComplete = true

/-- What a packet makes of a connection, and what is returned for it, when a conversation goes on:
the streams that both sides have ended now are returned, each once. -/
structure Observed (conv conv' : Option Conversation)
    (r : List StreamDict × Option (Connection D)) : Prop where
  follows : Option.Rel Follows r.2 conv'
  returned : ∀ k, r.1.countP (·.streamId = k) =
    (conv'.any (·.exchanged k) && !conv.any (·.exchanged k)).toNat
  reports : ∀ dict ∈ r.1, ∃ conv'', conv' = some conv'' ∧ Reports conv'' dict

theorem Connection.completedAt_eq (c : Connection D) (k : Nat) :
    c.completedAt k =
      if (c.body k).complete true && (c.body k).complete false && !c.endedStreamIds k then
        some (c.streamToDict (c.stream k))
      else none := by
  unfold Connection.completedAt Session.body Session.stream
  cases c.streams k with
  | none => rfl
  | some stream =>
    dsimp only
    rw [Bool.and_comm stream.serverComplete]
    rfl

theorem Connection.isSome_streams_of_completedAt {c : Connection D} {k : Nat}
    (h : (c.completedAt k).isSome = true) : (c.streams k).isSome = true := by
  unfold Connection.completedAt at h
  cases hk : c.streams k with
  | none =>
    rw [hk] at h
    cases h
  | some stream => rfl

theorem listed_collect {c : Connection D} (h : Listed c.toSession c.streamIds) :
    Listed c.collectAndRemoveCompletedStreams.2.toSession
      c.collectAndRemoveCompletedStreams.2.streamIds where
  mem_iff k := by
    show k ∈ c.streamIds.filter (fun k => decide (k ∉ _)) ↔
      (if k ∈ _ then none else c.streams k).isSome = true
    rw [List.mem_filter, h.mem_iff, decide_eq_true_iff]
    split
    · next hk => exact iff_of_false (fun h => h.2 hk) nofun
    · next hk => exact and_iff_left hk
  nodup := h.nodup.filter _

/-- Of what is made of the members of a list without repetition, each under its own number, there is
one with a given number if something is made of it, and none otherwise. -/
theorem countP_filterMap_of_nodup {α : Type} {f : Nat → Option α} {number : α → Nat} {l : List Nat}
    (hl : l.Nodup) (hnumber : ∀ i a, f i = some a → number a = i) {k : Nat}
    (hk : (f k).isSome = true → k ∈ l) :
    (l.filterMap f).countP (fun a => number a = k) = (f k).isSome.toNat := by
  have hcount : (l.filterMap f).countP (fun a => number a = k) =
      l.countP fun i => i == k && (f k).isSome := by
    rw [List.countP_filterMap]
    congr 1
    funext i
    by_cases hi : i = k
    · subst hi
      cases hf : f i with
      | none => rw [Option.isSome_none, Bool.and_false]; rfl
      | some a => simp [hnumber i a hf]
    · cases hf : f i with
      | none => simp [hi]
      | some a => simp [hnumber i a hf, hi]
  rw [hcount]
  cases hf : (f k).isSome with
  | false => simp
  | true =>
    simp only [Bool.and_true]
    exact List.count_eq_one_of_mem hl (hk hf)

/-- What is returned for a stream is what the conversation says, since a body has all that is
returned but headers and trailers. -/
theorem reports_of_body {c : Connection D} {conv : Conversation} {k : Nat}
    (hclient : c.clientAddr = conv.client) (hserver : c.serverAddr = conv.server)
    (hbody : c.body k = conv.body k) (h : conv.exchanged k = true) :
    Reports conv (c.streamToDict (c.stream k)) := by
  have hid : (c.stream k).streamId = k := congrArg Body.streamId hbody
  have hcomplete := (Bool.and_eq_true ..).mp h
  have hends (d : Bool) : (c.stream k).complete d = conv.ended k d :=
    congrFun (congrArg Body.complete hbody) d
  exact
    { src := hclient
      dst := hserver
      connection := congrArg₂ Prod.mk hclient hserver
      clientData := by
        show _ = conv.data (c.stream k).streamId true
        rw [hid]
        exact congrFun (congrArg Body.data hbody) true
      serverData := by
        show _ = conv.data (c.stream k).streamId false
        rw [hid]
        exact congrFun (congrArg Body.data hbody) false
      complete := ⟨(hends true).trans hcomplete.1, (hends false).trans hcomplete.2⟩ }

/-- Before anything is sent a stream is a new one. -/
theorem Conversation.body_new (client server : Address) (k : Nat) :
    (Conversation.new client server).body k = (HTTP2Stream.new k).body := by
  have hframes (d : Bool) : (Conversation.new client server).frames d = [] :=
    congrArg Prod.fst Format.units_nil
  unfold Conversation.body HTTP2Stream.body Conversation.data Conversation.ended
  simp only [hframes]
  congr 1
  · funext d
    cases d <;> rfl
  · funext d
    cases d <;> rfl

theorem Conversation.exchanged_new (client server : Address) (k : Nat) :
    (Conversation.new client server).exchanged k = false := by
  have hends := congrArg Body.complete (Conversation.body_new client server k)
  show (((Conversation.new client server).body k).complete true && _) = false
  rw [hends]
  rfl

/-- A connection that was just made follows a conversation in which nothing was sent yet. -/
theorem follows_new (decoder : D) (client server : Address) :
    Follows (.new decoder client server) (.new client server) where
  client := rfl
  server := rfl
  buffer := by
    funext d
    show _ = (Http2.Frame.format.units []).2
    rw [Format.units_nil]
    cases d <;> rfl
  ended := by
    funext k
    exact (Conversation.exchanged_new client server k).symm
  body k _ := (Conversation.body_new client server k).symm
  listed := ⟨fun _ => ⟨nofun, nofun⟩, .nil⟩

section

variable (hpack : Hpack D) {hyperframe : Hyperframe} (hdoc : hyperframe.DocumentedEnds)
  (decoder : D)

/-- What a buffer holds is the rest of what its side has sent. -/
theorem Follows.buffer_receive {c : Connection D} {conv : Conversation} (h : Follows c conv)
    (fromClient : Bool) (payload : Bytes) :
    (c.receive hpack hyperframe fromClient payload).buffer =
      (conv.hear fromClient payload).rest := by
  have hconsumed := HTTP2Connection.receive_consumed hpack hyperframe fromClient
    c.toHTTP2Connection payload
  rw [Conversation.rest_hear, Function.eq_update_iff]
  constructor
  · have hoctets := hconsumed.octets
    rw [h.buffer] at hoctets
    exact List.append_cancel_left
      (hoctets.symm.trans (Http2.Frame.format.symbols_units _).symm)
  · intro d hd
    rw [Bool.eq_not_of_ne hd, ← h.buffer]
    exact hconsumed.other

/-- The keys are still listed after the frames of a packet. -/
theorem Follows.listed_receive {c : Connection D} {conv : Conversation} (h : Follows c conv)
    (fromClient : Bool) (payload : Bytes) :
    Listed (c.receive hpack hyperframe fromClient payload).toSession
      (c.receive hpack hyperframe fromClient payload).streamIds := by
  have hconsumed := HTTP2Connection.receive_consumed hpack hyperframe fromClient
    c.toHTTP2Connection payload
  have hfold := listed_foldl hpack hyperframe fromClient (r := (c.toSession, c.streamIds)) h.listed
    (Http2.Frame.format.units (c.buffer fromClient ++ payload)).1
  rw [fst_foldl_insertFrame, ← hconsumed.session] at hfold
  exact hfold

include hdoc

/-- A stream that is not taken out yet has what the frames of the conversation say. -/
theorem Follows.body_receive {c : Connection D} {conv : Conversation} (h : Follows c conv)
    (fromClient : Bool) (payload : Bytes) (k : Nat) (hk : conv.exchanged k = false) :
    (c.receive hpack hyperframe fromClient payload).body k =
      (conv.hear fromClient payload).body k := by
  have hconsumed := HTTP2Connection.receive_consumed hpack hyperframe fromClient
    c.toHTTP2Connection payload
  rw [Conversation.body_hear]
  show (c.toHTTP2Connection.receive hpack hyperframe fromClient payload).toSession.body k = _
  rw [hconsumed.session, h.buffer, body_foldl hpack fromClient c.toSession hdoc, h.body k hk]
  rfl

/-- Complete, and not taken out yet, are the streams that have just been exchanged. For those that
were exchanged before are in the set of ended streams. -/
theorem Follows.completedAt_receive {c : Connection D} {conv : Conversation} (h : Follows c conv)
    (fromClient : Bool) (payload : Bytes) (k : Nat) :
    (c.receive hpack hyperframe fromClient payload).completedAt k =
      if (conv.hear fromClient payload).exchanged k && !conv.exchanged k then
        some ((c.receive hpack hyperframe fromClient payload).streamToDict
          ((c.receive hpack hyperframe fromClient payload).stream k))
      else none := by
  have hended : (c.receive hpack hyperframe fromClient payload).endedStreamIds k =
      conv.exchanged k :=
    congrFun h.ended k
  rw [Connection.completedAt_eq, hended]
  cases hk : conv.exchanged k with
  | true => rw [Bool.not_true, Bool.and_false, Bool.and_false]
  | false =>
    rw [h.body_receive hpack hdoc fromClient payload k hk]
    rfl

/-- **What arrives.** The streams that both sides have ended with it are reported, and no others.
Each is reported once, for the keys are listed once; and what is said of it is its body, which
follows the conversation. -/
theorem Follows.arrive {c : Connection D} {conv : Conversation} (h : Follows c conv)
    (fromClient : Bool) (payload : Bytes) :
    Follows (c.arrive hpack hyperframe fromClient payload).2 (conv.hear fromClient payload) ∧
      (∀ k, (c.arrive hpack hyperframe fromClient payload).1.countP (·.streamId = k) =
        ((conv.hear fromClient payload).exchanged k && !conv.exchanged k).toNat) ∧
      ∀ dict ∈ (c.arrive hpack hyperframe fromClient payload).1,
        Reports (conv.hear fromClient payload) dict := by
  let c' := c.receive hpack hyperframe fromClient payload
  have hbuffer : c'.buffer = (conv.hear fromClient payload).rest :=
    h.buffer_receive hpack fromClient payload
  have hlisted : Listed c'.toSession c'.streamIds := h.listed_receive hpack fromClient payload
  have hbody := h.body_receive hpack hdoc fromClient payload
  have hcompleted := h.completedAt_receive hpack hdoc fromClient payload
  have hisSome (k : Nat) : (c'.completedAt k).isSome =
      ((conv.hear fromClient payload).exchanged k && !conv.exchanged k) := by
    rw [hcompleted]
    split
    · next hk => exact hk.symm
    · next hk => exact (Bool.eq_false_iff.mpr hk).symm
  have hreports (k : Nat) (dict : StreamDict) (hdict : c'.completedAt k = some dict) :
      dict.streamId = k ∧ Reports (conv.hear fromClient payload) dict := by
    rw [hcompleted] at hdict
    split at hdict
    · next hk =>
      cases hdict
      rw [Bool.and_eq_true, Bool.not_eq_true'] at hk
      exact ⟨congrArg Body.streamId (hbody k hk.2),
        reports_of_body h.client h.server (hbody k hk.2) hk.1⟩
    · cases hdict
  have hmem (k : Nat) (hk : (c'.completedAt k).isSome = true) : k ∈ c'.streamIds :=
    (hlisted.mem_iff k).mpr (Connection.isSome_streams_of_completedAt hk)
  have hremove (k : Nat) :
      decide (k ∈ c'.streamIds.filter fun k => (c'.completedAt k).isSome) =
        ((conv.hear fromClient payload).exchanged k && !conv.exchanged k) := by
    rw [← hisSome, Bool.eq_iff_iff, decide_eq_true_iff, List.mem_filter]
    exact ⟨fun h => h.2, fun h => ⟨hmem k h, h⟩⟩
  refine ⟨⟨h.client, h.server, hbuffer, ?_, ?_, ?_⟩, fun k => ?_, fun dict hdict => ?_⟩
  · -- the set of ended streams
    funext k
    show (c.endedStreamIds k || decide (k ∈ _)) = _
    rw [hremove, h.ended]
    cases hk : conv.exchanged k with
    | true => rw [Bool.true_or, conv.exchanged_hear fromClient payload k hk]
    | false => rw [Bool.false_or, Bool.not_false, Bool.and_true]
  · -- a stream that is not over was not over before, so it was not taken out
    intro k hk
    have hbefore : conv.exchanged k = false := by
      by_contra hex
      rw [conv.exchanged_hear fromClient payload k (by simpa using hex)] at hk
      cases hk
    have hkept : k ∉ c'.streamIds.filter fun k => (c'.completedAt k).isSome := by
      rw [← decide_eq_false_iff_not, hremove, hk, Bool.false_and]
    rw [← hbody k hbefore]
    show ((if k ∈ _ then none else c'.streams k).getD _).body = _
    rw [if_neg hkept]
    rfl
  · exact listed_collect hlisted
  · rw [← hisSome]
    exact countP_filterMap_of_nodup hlisted.nodup (fun i dict hi => (hreports i dict hi).1) (hmem k)
  · obtain ⟨k, -, hk⟩ := List.mem_filterMap.mp hdict
    exact (hreports k dict hk).2

/-- **A packet of the connection.** Packets before the preface, the one with the preface, and those
behind it; an empty one changes nothing. -/
theorem observed_processOwn {c : Option (Connection D)} {conv : Option Conversation}
    (h : Option.Rel Follows c conv) (packet : TcpPacket) :
    Observed conv (Conversation.observe conv packet)
      (processOwn hpack hyperframe decoder c packet) := by
  cases h with
  | none =>
    -- no connection yet: does this packet have the preface?
    cases hfind : find http2Preface packet.payload with
    | none =>
      have hobserve : Conversation.observe none packet = none := congrArg (Option.map _) hfind
      have hown : processOwn hpack hyperframe decoder none packet = ([], none) := by
        unfold processOwn
        rw [hfind, ite_self]
      rw [hobserve, hown]
      exact ⟨.none, fun _ => rfl, nofun⟩
    | some prefaceOffset =>
      have hne : packet.payload ≠ [] := by
        intro hnil
        rw [hnil] at hfind
        cases hfind
      have hobserve : Conversation.observe none packet =
          some ((Conversation.new packet.src packet.dst).hear true
            (packet.payload.drop (prefaceOffset + http2Preface.length))) :=
        congrArg (Option.map _) hfind
      have hown : processOwn hpack hyperframe decoder none packet =
          Prod.map id some ((Connection.new decoder packet.src packet.dst).arrive hpack hyperframe
            true (packet.payload.drop (prefaceOffset + http2Preface.length))) := by
        unfold processOwn
        rw [hfind, if_neg hne]
      obtain ⟨hfollows, hreturned, hreports⟩ :=
        (follows_new decoder packet.src packet.dst).arrive hpack hdoc true
          (packet.payload.drop (prefaceOffset + http2Preface.length))
      rw [hobserve, hown]
      refine ⟨.some hfollows, fun k => ?_, fun dict hdict => ⟨_, rfl, hreports dict hdict⟩⟩
      refine (hreturned k).trans ?_
      rw [Conversation.exchanged_new]
      rfl
  | @some c conv h =>
    -- a connection, and a packet with or without a payload
    by_cases hnil : packet.payload = []
    · have hobserve : Conversation.observe (some conv) packet = some conv := by
        show some (conv.hear _ packet.payload) = _
        rw [hnil, conv.hear_nil]
      have hown : processOwn hpack hyperframe decoder (some c) packet =
          ([], some c) := if_pos hnil
      rw [hobserve, hown]
      refine ⟨.some h, fun k => ?_, nofun⟩
      show 0 = (conv.exchanged k && !conv.exchanged k).toNat
      rw [Bool.and_not_self]
      rfl
    · have hown : processOwn hpack hyperframe decoder (some c) packet =
          Prod.map id some (c.arrive hpack hyperframe (packet.src = conv.client) packet.payload) := by
        unfold processOwn
        rw [if_neg hnil]
        dsimp only
        rw [h.client]
      obtain ⟨hfollows, hreturned, hreports⟩ :=
        h.arrive hpack hdoc (packet.src = conv.client) packet.payload
      rw [hown]
      exact ⟨.some hfollows, hreturned, fun dict hdict => ⟨_, rfl, hreports dict hdict⟩⟩

end

/-! ## A capture

From the packets of one connection to a capture with many. The rules for machines in a table do
this; they need what one packet does, and no more. -/

variable (hpack : Hpack D) (hyperframe : Hyperframe) (decoder : D)

namespace HTTP2Decoder

/-- Packets, one after the other. -/
def processAll (d : HTTP2Decoder D) (packets : List TcpPacket) : HTTP2Decoder D :=
  packets.foldl (fun d packet => (d.processTcpPacket hpack hyperframe decoder packet).2) d

/-- What is returned for each of them. -/
def returned (d : HTTP2Decoder D) : List TcpPacket → List (TcpPacket × List StreamDict)
  | [] => []
  | packet :: packets =>
    (packet, (d.processTcpPacket hpack hyperframe decoder packet).1) ::
      returned (d.processTcpPacket hpack hyperframe decoder packet).2 packets

/-- The decoder is the table of its machines, packet by packet. -/
theorem connections_processAll (d : HTTP2Decoder D) (packets : List TcpPacket) :
    (d.processAll hpack hyperframe decoder packets).connections =
      (machines hpack hyperframe decoder).run d.connections packets := by
  induction packets generalizing d with
  | nil => rfl
  | cons packet packets ih =>
    show ((d.processTcpPacket hpack hyperframe decoder packet).2.processAll hpack hyperframe decoder
      packets).connections = _
    rw [ih, processTcpPacket_eq]
    rfl

theorem returned_eq (d : HTTP2Decoder D) (packets : List TcpPacket) :
    d.returned hpack hyperframe decoder packets =
      (machines hpack hyperframe decoder).answers d.connections packets := by
  induction packets generalizing d with
  | nil => rfl
  | cons packet packets ih =>
    show (packet, (d.processTcpPacket hpack hyperframe decoder packet).1) ::
      (d.processTcpPacket hpack hyperframe decoder packet).2.returned hpack hyperframe decoder
        packets = _
    rw [ih, processTcpPacket_eq]
    rfl

end HTTP2Decoder

open HTTP2Decoder

/-- The packets of a connection. -/
def ofTuple (key : ConnTuple) (packets : List TcpPacket) : List TcpPacket :=
  packets.filter fun packet => packet.canonicalConnTuple = key

/-- **A connection among others, and alone.** Its state and all that is returned for it are what
they would be if its packets were the only ones. -/
theorem connections_apart (key : ConnTuple) (packets : List TcpPacket) :
    ((HTTP2Decoder.new D).processAll hpack hyperframe decoder packets).connections key =
        ((HTTP2Decoder.new D).processAll hpack hyperframe decoder
          (ofTuple key packets)).connections key ∧
      ((HTTP2Decoder.new D).returned hpack hyperframe decoder packets).filter
          (fun e => e.1.canonicalConnTuple = key) =
        (HTTP2Decoder.new D).returned hpack hyperframe decoder (ofTuple key packets) := by
  have hown : ofTuple key packets = (machines hpack hyperframe decoder).eventsOf key packets := rfl
  constructor
  · rw [connections_processAll, connections_processAll, Store.Machines.run_at,
      Store.Machines.run_at, hown, Store.Machines.eventsOf_eventsOf]
  · rw [returned_eq, returned_eq, hown, Store.Machines.answers_eventsOf]
    exact (machines hpack hyperframe decoder).answers_at _ key packets

/-- What the packets of a capture say on a connection. -/
def conversation (key : ConnTuple) (packets : List TcpPacket) : Option Conversation :=
  (ofTuple key packets).foldl Conversation.observe none

/-- A packet goes on with the conversation of its own connection. -/
theorem conversation_snoc (packets : List TcpPacket) (packet : TcpPacket) :
    conversation packet.canonicalConnTuple (packets ++ [packet]) =
      Conversation.observe (conversation packet.canonicalConnTuple packets) packet := by
  unfold conversation ofTuple
  rw [List.filter_append, List.filter_singleton, decide_eq_true rfl, cond_true, List.foldl_append]
  rfl

/-- All that is returned for the packets of a connection. -/
def reportsOf (key : ConnTuple) (returned : List (TcpPacket × List StreamDict)) :
    List StreamDict :=
  (returned.filter fun e => e.1.canonicalConnTuple = key).flatMap (·.2)

/-- A flag that is never reset is counted when it is set. -/
theorem toNat_of_imp {a b : Bool} (h : a = true → b = true) :
    b.toNat = a.toNat + (b && !a).toNat := by
  cases a with
  | false => simp
  | true =>
    rw [h rfl]
    rfl

/-- The decoder and the conversation agree on which streams are over, also where there is no
connection. -/
theorem ended_of_follows {c : Option (Connection D)} {conv : Option Conversation} {k : Nat}
    (h : Option.Rel Follows c conv) :
    c.any (·.endedStreamIds k) = conv.any (·.exchanged k) := by
  cases h with
  | none => rfl
  | some h => exact congrFun h.ended k

theorem exchanged_observe {conv : Option Conversation} (packet : TcpPacket) (k : Nat)
    (h : conv.any (·.exchanged k) = true) :
    (Conversation.observe conv packet).any (·.exchanged k) = true := by
  cases conv with
  | none => cases h
  | some conv => exact conv.exchanged_hear _ _ k h

section

variable {hyperframe : Hyperframe} (hdoc : hyperframe.DocumentedEnds)
include hdoc

/-- The decoder follows every conversation of a capture, by induction on the packets of that
connection. -/
theorem follows_processAll (key : ConnTuple) (packets : List TcpPacket) :
    Option.Rel Follows
      (((HTTP2Decoder.new D).processAll hpack hyperframe decoder packets).connections key)
      (conversation key packets) := by
  let hears : Store.Machines ConnTuple TcpPacket (Option Conversation) Unit :=
    ⟨TcpPacket.canonicalConnTuple, fun conv packet => ((), Conversation.observe conv packet)⟩
  rw [connections_processAll, Store.Machines.run_at]
  exact Store.Machines.runAlone_simulates _ hears (R := Option.Rel Follows)
    (fun _ _ packet h => (observed_processOwn hpack hdoc decoder h packet).follows) .none _

/-- **When a stream is reported, and with what.** By the packet with which both sides have ended it,
with all the data that each of them has sent on it. -/
theorem processTcpPacket_observed (packets : List TcpPacket) (packet : TcpPacket) :
    Observed (conversation packet.canonicalConnTuple packets)
      (conversation packet.canonicalConnTuple (packets ++ [packet]))
      ((((HTTP2Decoder.new D).processAll hpack hyperframe decoder packets).processTcpPacket hpack
          hyperframe decoder packet).1,
        ((HTTP2Decoder.new D).processAll hpack hyperframe decoder
          (packets ++ [packet])).connections packet.canonicalConnTuple) := by
  have hsnoc : (HTTP2Decoder.new D).processAll hpack hyperframe decoder (packets ++ [packet]) =
      (((HTTP2Decoder.new D).processAll hpack hyperframe decoder packets).processTcpPacket hpack
        hyperframe decoder packet).2 := by
    unfold processAll
    rw [List.foldl_append]
    rfl
  have hfollows := follows_processAll hpack decoder hdoc packet.canonicalConnTuple packets
  rw [hsnoc, conversation_snoc, processTcpPacket_eq]
  generalize (HTTP2Decoder.new D).processAll hpack hyperframe decoder packets = d at hfollows ⊢
  have hown : (((machines hpack hyperframe decoder).apply d.connections packet).1,
      ((machines hpack hyperframe decoder).apply d.connections packet).2
        packet.canonicalConnTuple) =
      processOwn hpack hyperframe decoder (d.connections packet.canonicalConnTuple) packet :=
    Prod.ext rfl (Function.update_self ..)
  have hobserved := observed_processOwn hpack hdoc decoder hfollows packet
  rw [← hown] at hobserved
  exact hobserved

/-- What a packet adds to the streams that are over, it returns. -/
theorem ended_processOwn {c : Option (Connection D)} {conv : Option Conversation}
    (h : Option.Rel Follows c conv) (packet : TcpPacket) (k : Nat) :
    ((processOwn hpack hyperframe decoder c packet).2.any (·.endedStreamIds k)).toNat =
      (c.any (·.endedStreamIds k)).toNat +
        (processOwn hpack hyperframe decoder c packet).1.countP (·.streamId = k) := by
  have hobserved := observed_processOwn hpack hdoc decoder h packet
  rw [ended_of_follows h, ended_of_follows hobserved.follows, hobserved.returned]
  exact toNat_of_imp (exchanged_observe packet k)

/-- **How often a stream is reported.** Once, if both sides end it in the capture; else never. For
each packet returns what it adds to the set of ended streams, and in the end the sum of it all is
that set. -/
theorem reported_once (key : ConnTuple) (k : Nat) (packets : List TcpPacket) :
    (reportsOf key ((HTTP2Decoder.new D).returned hpack hyperframe decoder packets)).countP
        (·.streamId = k) =
      ((conversation key packets).any (·.exchanged k)).toNat := by
  have htotal := (machines hpack hyperframe decoder).total_answers
    (P := fun c => ∃ conv, Option.Rel Follows c conv)
    (fun c => (c.any (·.endedStreamIds k)).toNat) (fun dicts => dicts.countP (·.streamId = k))
    (fun _ packet ⟨_, h⟩ => ⟨_, (observed_processOwn hpack hdoc decoder h packet).follows⟩)
    (fun _ packet ⟨_, h⟩ => ended_processOwn hpack decoder hdoc h packet k) ⟨none, .none⟩
    (ofTuple key packets)
  have hfollows := follows_processAll hpack decoder hdoc key packets
  rw [connections_processAll, Store.Machines.run_at] at hfollows
  have hown : ((machines hpack hyperframe decoder).answers (HTTP2Decoder.new D).connections
      packets).filter (fun e => e.1.canonicalConnTuple = key) =
      (machines hpack hyperframe decoder).answersAlone none (ofTuple key packets) :=
    (machines hpack hyperframe decoder).answers_at _ key packets
  unfold reportsOf
  rw [returned_eq, hown, List.countP_flatMap, ← ended_of_follows hfollows]
  exact (htotal.trans (Nat.zero_add _)).symm

end

/-! ## A request and its response

Two packets in which stream 1 is asked for and answered. -/

theorem checkStreamId_documentedEnds : checkStreamId.DocumentedEnds where
  toDocumented := checkStreamId_documented
  rstStreamFrame _ h := if_neg (Nat.ne_of_gt h)

def getEnd : Http2.Frame := { getFrame.frame with flags := 0x5 }

def statusEnd : Http2.Frame := ⟨0x1, 0x5, (0, 0, 0, 1), [0x88], by decide⟩

def requestPacket : TcpPacket where
  src := (['1'], 40000)
  dst := (['2'], 80)
  payload := http2Preface ++ getEnd.octets

def responsePacket : TcpPacket where
  src := (['2'], 80)
  dst := (['1'], 40000)
  payload := statusEnd.octets

def exchange : Conversation where
  client := (['1'], 40000)
  server := (['2'], 80)
  sent fromClient := if fromClient then getEnd.octets else statusEnd.octets

/-- What the two packets say. A conversation has a function in it, so it is compared field by field.
-/
theorem conversation_exchange :
    conversation requestPacket.canonicalConnTuple [requestPacket, responsePacket] =
      some exchange := by
  have hparts : (conversation requestPacket.canonicalConnTuple
      [requestPacket, responsePacket]).map (fun c => (c.client, c.server, c.sent true, c.sent false)) =
      some (exchange.client, exchange.server, getEnd.octets, statusEnd.octets) := by decide
  obtain ⟨conv, hconv, heq⟩ := Option.map_eq_some_iff.mp hparts
  obtain ⟨client, server, sent⟩ := conv
  simp only [Prod.mk.injEq] at heq
  obtain ⟨rfl, rfl, htrue, hfalse⟩ := heq
  have hsent : sent = exchange.sent := by
    funext d
    cases d
    · exact hfalse
    · exact htrue
  rw [hconv, hsent]

/-- Each side has sent one frame, and each has END_STREAM. -/
theorem exchanged_exchange : exchange.exchanged 1 = true := by
  have hclient : exchange.frames true = [getEnd] :=
    congrArg Prod.fst (Http2.Frame.format.units_flatMap [getEnd])
  have hserver : exchange.frames false = [statusEnd] :=
    congrArg Prod.fst (Http2.Frame.format.units_flatMap [statusEnd])
  unfold Conversation.exchanged Conversation.ended
  rw [hclient, hserver]
  decide

/-- The response completes the exchange. -/
theorem observed_exchange :
    Observed (conversation responsePacket.canonicalConnTuple [requestPacket])
      (conversation responsePacket.canonicalConnTuple ([requestPacket] ++ [responsePacket]))
      ((((HTTP2Decoder.new Unit).processAll getDecoder checkStreamId ()
          [requestPacket]).processTcpPacket getDecoder checkStreamId () responsePacket).1,
        ((HTTP2Decoder.new Unit).processAll getDecoder checkStreamId ()
          ([requestPacket] ++ [responsePacket])).connections responsePacket.canonicalConnTuple) :=
  processTcpPacket_observed getDecoder () checkStreamId_documentedEnds [requestPacket] responsePacket

/-- In these packets the stream is reported once. -/
theorem reported_once_exchange :
    (reportsOf requestPacket.canonicalConnTuple
      ((HTTP2Decoder.new Unit).returned getDecoder checkStreamId ()
        [requestPacket, responsePacket])).countP (·.streamId = 1) = 1 := by
  rw [reported_once getDecoder () checkStreamId_documentedEnds, conversation_exchange,
    Option.any_some, exchanged_exchange]
  rfl

end UnifyAir.Sniffer
