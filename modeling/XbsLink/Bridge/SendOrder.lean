import XbsLink.Bridge.Shutdown

/-!
# Send order and nonce order

`encode` takes the next nonce from the codec's counter, and the goroutine
that encoded a datagram writes it in a later step: `sendLoop` a FRAME,
`recvLoop` the PONG of `handlePing`, `pingLoop` a PING and `Run` the BYE of
`SendBye`.  Another sender can encode and write in between, so the wire can
carry a nonce below one written before it, and the peer refuses the
later-written datagram as a replay.

`pending` is what the four senders hold between encode and write, and
`Transmit` says once what a step does to it, to the wire and to the counter.
From that alone: in a secure bridge every datagram written or held is an
honest sealed message with a nonce the counter handed out (`Honest`), in every
interleaving while the counter does not wrap; and in an interleaving where no
step is taken while two senders hold a datagram, the nonces on the wire
strictly increase (`Ordered`), so the peer accepts every datagram.
-/

namespace XbsLink

open Protocol Transport BigEndian Codec

namespace Bridge

/-! ## Datagrams encoded and not yet written -/

/-- The BYE `Run` holds between `EncodeBye` and its write. -/
@[simp] def RunPc.unwritten : RunPc → List (List UInt8)
  | .writeBye bye => [bye]
  | .waiting | .deciding | .sendBye | .closeDone | .closeTransport _ | .closeCapture _ | .wait _
  | .returned _ => []

@[simp] def SendPc.unwritten : SendPc → List (List UInt8)
  | .send datagram => [datagram]
  | .select | .finished => []

@[simp] def RecvPc.unwritten : RecvPc → List (List UInt8)
  | .sendPong pong => [pong]
  | .top | .read | .finished => []

@[simp] def PingPc.unwritten : PingPc → List (List UInt8)
  | .sendPing ping => [ping]
  | .select | .finished => []

/-- The datagrams the four senders hold between encode and write. -/
def pending (b : Bridge) : List (List UInt8) :=
  b.run.unwritten ++ b.sendLoop.unwritten ++ b.recvLoop.unwritten ++ b.pingLoop.unwritten

/-- What a step does to the datagrams on their way to the peer. -/
inductive Transmit (mac : Mac hmacSize) (b b' : Bridge) : Prop
  /-- Nothing is encoded, written or dropped. -/
  | quiet (wire : b'.wire = b.wire) (unwritten : pending b' = pending b)
      (sendNonce : b'.codec.sendNonce = b.codec.sendNonce)
  /-- A sender encodes a message of a checked type with a payload its checks
  accept, and holds the datagram. -/
  | encode (msgType : UInt8) (payload : List UInt8) (message : Message)
      (checked : msgType ≠ msgHello ∧ msgType ≠ msgHelloAck)
      (parsed : parsePayload msgType payload = .ok message) (wire : b'.wire = b.wire)
      (unwritten : (pending b').Perm ((b.codec.encode mac msgType payload).1 :: pending b))
      (sendNonce : b'.codec.sendNonce = (b.codec.encode mac msgType payload).2.sendNonce)
  /-- A sender writes the datagram it held. -/
  | write (datagram : List UInt8) (unwritten : (pending b).Perm (datagram :: pending b'))
      (wire : b'.wire = b.wire ++ [datagram]) (sendNonce : b'.codec.sendNonce = b.codec.sendNonce)
  /-- A sender lets go of the datagram it held unwritten: `Send` found the
  transport closed or disconnected. -/
  | drop (datagram : List UInt8) (unwritten : (pending b).Perm (datagram :: pending b'))
      (wire : b'.wire = b.wire) (sendNonce : b'.codec.sendNonce = b.codec.sendNonce)

/-! ## What each step transmits -/

section Steps

variable {mac : Mac hmacSize} {b b' : Bridge}

/-- `Send` of a held datagram writes it or, on a closed or disconnected
transport, drops it. -/
theorem Transmit.release {datagram : List UInt8} (unwritten : (pending b).Perm (datagram :: pending b'))
    (wire : b'.wire = (transportSend b datagram).wire)
    (sendNonce : b'.codec.sendNonce = b.codec.sendNonce) : Transmit mac b b' := by
  rw [transportSend_eq] at wire
  by_cases dropped : (b.transportClosed || !b.connected) = true
  · exact .drop datagram unwritten (by simpa [dropped] using wire) sendNonce
  · exact .write datagram unwritten (by simpa [dropped] using wire) sendNonce

theorem runStep_transmit (stepped : runStep mac b = some b') :
    b'.codec.key = b.codec.key ∧ Transmit mac b b' := by
  rcases runStep_cases stepped with
    ⟨atPc, -, rfl⟩ | ⟨atPc, -, rfl⟩ | ⟨atPc, -, rfl⟩ | ⟨atPc, -, rfl⟩ | ⟨atPc, -, -, rfl⟩ |
    ⟨bye, atPc, rfl⟩ | ⟨atPc, rfl⟩ | ⟨peer, atPc, rfl⟩ | ⟨peer, atPc, rfl⟩ | ⟨peer, atPc, -, rfl⟩
  · exact ⟨rfl, .quiet rfl (by simp [pending, atPc]) rfl⟩
  · exact ⟨rfl, .quiet rfl (by simp [pending, atPc]) rfl⟩
  · exact ⟨rfl, .quiet rfl (by simp [pending, atPc]) rfl⟩
  · exact ⟨rfl, .quiet rfl (by simp [pending, atPc]) rfl⟩
  · exact ⟨key_encode, .encode msgBye [] { type := msgBye } (by decide) parsePayload_bye rfl
      (by simp [pending, atPc, encodeBye]) rfl⟩
  · exact ⟨rfl, .write bye (by simp [pending, atPc]) rfl rfl⟩
  · rw [closeDone_eq]
    exact ⟨rfl, .quiet rfl (by simp [pending, atPc]) rfl⟩
  · exact ⟨rfl, .quiet rfl (by simp [pending, atPc]) rfl⟩
  · exact ⟨rfl, .quiet rfl (by simp [pending, atPc]) rfl⟩
  · exact ⟨rfl, .quiet rfl (by simp [pending, atPc]) rfl⟩

/-- `captureLoop` sends nothing itself. -/
theorem captureStep_transmit {stop : Bool} {packet : Option (List UInt8)}
    (stepped : captureStep b stop packet = some b') :
    b'.codec.key = b.codec.key ∧ Transmit mac b b' := by
  rcases captureStep_cases stepped with
    ⟨-, -, -, rfl⟩ | ⟨-, -, -, rfl⟩ | ⟨-, -, rfl⟩ | ⟨-, -, rfl⟩ | ⟨-, -, rfl⟩ | ⟨-, -, rfl⟩ |
    ⟨-, -, -, rfl⟩ | ⟨frame, -, -, -, rfl⟩ <;>
  exact ⟨rfl, .quiet rfl rfl rfl⟩

/-- `injectLoop` sends nothing either. -/
theorem injectStep_transmit {stop : Bool} (stepped : injectStep b stop = some b') :
    b'.codec.key = b.codec.key ∧ Transmit mac b b' := by
  rcases injectStep_cases stepped with
    ⟨-, -, -, rfl⟩ | ⟨-, -, -, rfl⟩ | ⟨frame, rest, -, -, -, -, rfl⟩ |
    ⟨frame, rest, -, -, -, -, -, rfl⟩ | ⟨frame, rest, -, -, -, -, -, rfl⟩ <;>
  exact ⟨rfl, .quiet rfl rfl rfl⟩

theorem encodeFrame_of_ok {c next : Codec} {frame datagram : List UInt8}
    (encoded : c.encodeFrame mac frame = .ok (datagram, next)) :
    minEthernetFrame ≤ frame.length ∧ frame.length ≤ maxFrameSize ∧
      (datagram, next) = c.encode mac msgFrame frame := by
  unfold encodeFrame at encoded
  split_ifs at encoded with outside
  exact ⟨by omega, by omega, (Except.ok.inj encoded).symm⟩

theorem sendStep_transmit {stop : Bool} (stepped : sendStep mac b stop = some b') :
    b'.codec.key = b.codec.key ∧ Transmit mac b b' := by
  rcases sendStep_cases stepped with
    ⟨atPc, -, -, rfl⟩ | ⟨frame, rest, e, atPc, -, -, -, rfl⟩ |
    ⟨frame, rest, datagram, codec, atPc, -, -, encoded, rfl⟩ | ⟨datagram, atPc, rfl⟩
  · exact ⟨rfl, .quiet rfl (by simp [pending, atPc]) rfl⟩
  · exact ⟨rfl, .quiet rfl rfl rfl⟩
  · obtain ⟨large, small, encodedAs⟩ := encodeFrame_of_ok encoded
    have datagramIs : datagram = (b.codec.encode mac msgFrame frame).1 := by rw [← encodedAs]
    have codecIs : codec = (b.codec.encode mac msgFrame frame).2 := by rw [← encodedAs]
    subst datagramIs codecIs
    exact ⟨key_encode, .encode msgFrame frame { type := msgFrame, frame := frame } (by decide)
      (parsePayload_frame large small) rfl (by simp [pending, atPc]) rfl⟩
  · refine ⟨by simp [transportSend_eq], .release ?_ rfl (by simp [transportSend_eq])⟩
    rw [List.perm_iff_count]
    intro x
    simp [pending, atPc, transportSend_eq, List.count_append, List.count_cons]
    omega

/-- The `switch` of `recvLoop` on a message decoded with `codec`, a codec
with the bridge's key and counter: only a PING makes it encode. -/
theorem dispatch_transmit {codec : Codec} (atRead : b.recvLoop = .read)
    (sameKey : codec.key = b.codec.key) (sameNonce : codec.sendNonce = b.codec.sendNonce)
    (buf : List UInt8) (message : Message) (frame : Buffer.Slice) (now : Int64) :
    (dispatch mac { b with codec := codec, recvBuf := buf } message frame now).codec.key =
        b.codec.key ∧
      Transmit mac b (dispatch mac { b with codec := codec, recvBuf := buf } message frame now) := by
  rcases @dispatch_cases mac { b with codec := codec, recvBuf := buf } message frame now with
    ⟨-, dispatched⟩ | ⟨-, dispatched⟩ | ⟨-, dispatched⟩ | ⟨-, dispatched⟩ | ⟨-, dispatched⟩ <;>
    rw [dispatched]
  · exact ⟨sameKey, .quiet rfl (by simp [pending, handleFrame, atRead]) sameNonce⟩
  · -- `handlePing` encodes the PONG with the codec `Decode` returned.
    obtain ⟨sameDatagram, sameCounter⟩ := @encode_eq_of_same mac b.codec msgPong
      (putUint64 message.timestamp.toUInt64) codec sameKey sameNonce
    refine ⟨by simp [encodePong, sameKey], .encode msgPong (putUint64 message.timestamp.toUInt64)
      { type := msgPong, timestamp := message.timestamp } (by decide) (parsePayload_pong _) rfl
      ?_ (by simp [encodePong, sameCounter])⟩
    rw [List.perm_iff_count]
    intro x
    simp [pending, atRead, encodePong, sameDatagram, List.count_append, List.count_cons]
    omega
  · rw [handlePong_eq]
    exact ⟨sameKey, .quiet rfl (by simp [pending, atRead]) sameNonce⟩
  · rw [handleBye, closeDoneOnce_eq]
    exact ⟨sameKey, .quiet rfl (by simp [pending, atRead]) sameNonce⟩
  · exact ⟨sameKey, .quiet rfl (by simp [pending, atRead]) sameNonce⟩

theorem recvStep_transmit {input : RecvInput} (stepped : recvStep mac b input = some b') :
    b'.codec.key = b.codec.key ∧ Transmit mac b b' := by
  rcases recvStep_cases stepped with
    ⟨atPc, -, rfl⟩ | ⟨atPc, -, rfl⟩ | ⟨atPc, -, -, rfl⟩ | ⟨atPc, rfl⟩ |
    ⟨source, bytes, now, atPc, -, rfl⟩ | ⟨source, bytes, now, e, codec, atPc, -, decoded, rfl⟩ |
    ⟨source, bytes, now, message, codec, atPc, -, -, -, decoded, rfl⟩ | ⟨pong, atPc, rfl⟩
  · exact ⟨rfl, .quiet rfl (by simp [pending, atPc]) rfl⟩
  · exact ⟨rfl, .quiet rfl (by simp [pending, atPc]) rfl⟩
  · exact ⟨rfl, .quiet rfl (by simp [pending, atPc]) rfl⟩
  · exact ⟨rfl, .quiet rfl (by simp [pending, atPc]) rfl⟩
  · exact ⟨rfl, .quiet rfl (by simp [pending, atPc]) rfl⟩
  · -- A datagram `Decode` refuses may still move the window, never the counter.
    have codecIs : codec = (b.codec.decode mac bytes).2 := by rw [← Decode_snd, decoded]
    subst codecIs
    exact ⟨key_decode _ _, .quiet rfl (by simp [pending, atPc]) (sendNonce_decode _ _)⟩
  · have codecIs : codec = (b.codec.decode mac bytes).2 := by rw [← Decode_snd, decoded]
    subst codecIs
    exact dispatch_transmit atPc (key_decode _ _) (sendNonce_decode _ _) _ message _ now
  · refine ⟨by simp [transportSend_eq], .release ?_ rfl (by simp [transportSend_eq])⟩
    rw [List.perm_iff_count]
    intro x
    simp [pending, atPc, transportSend_eq, List.count_append, List.count_cons]
    omega

/-- The body of `sendPing` encodes a PING unless it gives up on the peer. -/
theorem sendPing_transmit (atSelect : b.pingLoop = .select) (timestamp : Int64) :
    (sendPing mac b timestamp).codec.key = b.codec.key ∧
      Transmit mac b (sendPing mac b timestamp) := by
  rcases @sendPing_cases mac b timestamp with ⟨-, -, pinged⟩ | pinged <;> rw [pinged]
  · rw [closeDoneOnce_eq]
    exact ⟨rfl, .quiet rfl (by simp [pending, atSelect]) rfl⟩
  · refine ⟨key_encode, .encode msgPing (putUint64 timestamp.toUInt64)
      { type := msgPing, timestamp := timestamp } (by decide) (parsePayload_ping _) rfl ?_ rfl⟩
    rw [List.perm_iff_count]
    intro x
    simp [pending, atSelect, encodePing, List.count_append, List.count_cons]
    omega

theorem pingStep_transmit {tick : Option Int64} (stepped : pingStep mac b tick = some b') :
    b'.codec.key = b.codec.key ∧ Transmit mac b b' := by
  rcases pingStep_cases stepped with ⟨atPc, -, -, rfl⟩ | ⟨timestamp, atPc, -, rfl⟩ | ⟨ping, atPc, rfl⟩
  · exact ⟨rfl, .quiet rfl (by simp [pending, atPc]) rfl⟩
  · exact sendPing_transmit atPc timestamp
  · refine ⟨by simp [transportSend_eq], .release ?_ rfl (by simp [transportSend_eq])⟩
    rw [List.perm_iff_count]
    intro x
    simp [pending, atPc, transportSend_eq, List.count_append, List.count_cons]
    omega

/-- What any step transmits; the key never changes. -/
theorem step_transmit {action : Action} (stepped : step mac b action = some b') :
    b'.codec.key = b.codec.key ∧ Transmit mac b b' := by
  obtain ⟨-, stepped⟩ := step_cases stepped
  cases action with
  | cancel | setCapture =>
      obtain ⟨-, rfl⟩ := stepped
      exact ⟨rfl, .quiet rfl rfl rfl⟩
  | run => exact runStep_transmit stepped
  | captureLoop => exact captureStep_transmit stepped
  | sendLoop => exact sendStep_transmit stepped
  | recvLoop => exact recvStep_transmit stepped
  | injectLoop => exact injectStep_transmit stepped
  | pingLoop => exact pingStep_transmit stepped
  | statsLoop | stdinLoop =>
      obtain ⟨-, -, rfl⟩ := stepped
      exact ⟨rfl, .quiet rfl rfl rfl⟩

end Steps

/-! ## Honest datagrams, in every interleaving -/

section Invariants

variable {mac : Mac hmacSize} {b b' : Bridge}

/-- Every step moves the counter by at most one. -/
theorem sendNonce_toNat_step_le {action : Action} (stepped : step mac b action = some b') :
    b'.codec.sendNonce.toNat ≤ b.codec.sendNonce.toNat + 1 := by
  obtain ⟨-, transmitted⟩ := step_transmit stepped
  cases transmitted with
  | quiet _ _ sendNonce | write _ _ _ sendNonce | drop _ _ _ sendNonce =>
      rw [sendNonce]
      omega
  | encode msgType payload _ _ _ _ _ sendNonce =>
      rw [sendNonce]
      cases secure : b.codec.secureMode with
      | false =>
          rw [encode_of_not_secureMode secure]
          exact Nat.le_succ _
      | true =>
          rw [encode_of_secureMode secure]
          change (b.codec.sendNonce + 1).toNat ≤ _
          rw [UInt64.toNat_add, UInt64.toNat_one]
          exact Nat.mod_le _ _

/-- A run with room for a nonce per action never steps from a state whose
counter is at its last value. -/
theorem along_counter_lt {init : Bridge} {actions : List Action}
    (noWrap : init.codec.sendNonce.toNat + actions.length < 2 ^ 64) :
    Trace.Along (step mac) (fun b => b.codec.sendNonce.toNat < 2 ^ 64 - 1) init actions :=
  Trace.along_lt_of_le_add_one (fun _ _ _ stepped => sendNonce_toNat_step_le stepped)
    (by omega)

/-- After a write, what is written and held was written or held before. -/
theorem mem_of_write {datagram : List UInt8} (unwritten : (pending b).Perm (datagram :: pending b'))
    {data : List UInt8} (member : data ∈ b.wire ++ [datagram] ++ pending b') :
    data ∈ b.wire ++ pending b := by
  rw [List.mem_append, List.mem_append, List.mem_singleton] at member
  rw [List.mem_append]
  rcases member with (written | rfl) | held
  · exact .inl written
  · exact .inr (unwritten.symm.subset List.mem_cons_self)
  · exact .inr (unwritten.symm.subset (List.mem_cons_of_mem _ held))

/-- After a drop, what is written and held was written or held before. -/
theorem mem_of_drop {datagram : List UInt8} (unwritten : (pending b).Perm (datagram :: pending b'))
    {data : List UInt8} (member : data ∈ b.wire ++ pending b') : data ∈ b.wire ++ pending b := by
  rw [List.mem_append] at member ⊢
  rcases member with written | held
  · exact .inl written
  · exact .inr (unwritten.symm.subset (List.mem_cons_of_mem _ held))

/-- Every datagram written or held is an honest sealed message under `key`,
with a nonce the counter handed out after `first`. -/
structure Honest (mac : Mac hmacSize) (key : List UInt8) (first : UInt64) (b : Bridge) : Prop where
  keyed : b.codec.key = key
  secure : b.codec.secureMode = true
  counter : first ≤ b.codec.sendNonce
  sealed : ∀ data ∈ b.wire ++ pending b,
    SealedMessage mac key data ∧ first < nonceField data ∧ nonceField data ≤ b.codec.sendNonce

variable {key : List UInt8} {first : UInt64}

/-- A step from a state whose counter can still advance keeps the datagrams
honest. -/
theorem Honest.step (honest : Honest mac key first b) {action : Action}
    (noWrap : b.codec.sendNonce.toNat < 2 ^ 64 - 1) (stepped : step mac b action = some b') :
    Honest mac key first b' := by
  obtain ⟨sameKey, transmitted⟩ := step_transmit stepped
  have key' : b'.codec.key = key := sameKey.trans honest.keyed
  have secure' : b'.codec.secureMode = true :=
    (secureMode_eq_of_key_eq sameKey).trans honest.secure
  cases transmitted with
  | quiet wire unwritten sendNonce =>
      refine ⟨key', secure', by rw [sendNonce]; exact honest.counter, ?_⟩
      rw [wire, unwritten, sendNonce]
      exact honest.sealed
  | encode msgType payload message checked parsed wire unwritten sendNonce =>
      rw [encode_of_secureMode honest.secure] at unwritten sendNonce
      dsimp only at unwritten sendNonce
      -- The counter advances to a nonce above every one handed out so far.
      have grows : b.codec.sendNonce < b.codec.sendNonce + 1 :=
        UInt64.lt_add_one_of_lt (by omega)
      refine ⟨key', secure', ?_, fun data member => ?_⟩
      · rw [sendNonce]
        exact UInt64.le_of_lt (UInt64.lt_of_le_of_lt honest.counter grows)
      rw [wire, List.mem_append] at member
      rw [sendNonce]
      rcases member with written | held
      · obtain ⟨honestData, above, below⟩ := honest.sealed data (List.mem_append_left _ written)
        exact ⟨honestData, above, UInt64.le_of_lt (UInt64.lt_of_le_of_lt below grows)⟩
      rcases List.mem_cons.mp (unwritten.subset held) with rfl | old
      · rw [nonceField_sealed]
        exact ⟨⟨msgType, _, payload, message, by rw [honest.keyed], checked, parsed⟩,
          UInt64.lt_of_le_of_lt honest.counter grows, UInt64.le_refl _⟩
      · obtain ⟨honestData, above, below⟩ := honest.sealed data (List.mem_append_right _ old)
        exact ⟨honestData, above, UInt64.le_of_lt (UInt64.lt_of_le_of_lt below grows)⟩
  | write datagram unwritten wire sendNonce =>
      refine ⟨key', secure', by rw [sendNonce]; exact honest.counter, fun data member => ?_⟩
      rw [wire] at member
      rw [sendNonce]
      exact honest.sealed data (mem_of_write unwritten member)
  | drop datagram unwritten wire sendNonce =>
      refine ⟨key', secure', by rw [sendNonce]; exact honest.counter, fun data member => ?_⟩
      rw [wire] at member
      rw [sendNonce]
      exact honest.sealed data (mem_of_drop unwritten member)

theorem honest_start {codec : Codec} (secure : codec.secureMode = true) (capture : Option Bool)
    (statsInterval : Bool) (peerAddr : UDPAddr) :
    Honest mac codec.key codec.sendNonce (start codec capture statsInterval peerAddr) :=
  ⟨rfl, secure, UInt64.le_refl _, by simp [start, pending]⟩

/-- No nonce is written or held twice. -/
def Distinct (b : Bridge) : Prop := ((b.wire ++ pending b).map nonceField).Nodup

/-- Every step from a state whose counter can still advance keeps the nonces
distinct: a new nonce is above every one handed out, and a write or a drop
only moves or removes a held datagram. -/
theorem Distinct.step (distinct : Distinct b) (honest : Honest mac key first b) {action : Action}
    (noWrap : b.codec.sendNonce.toNat < 2 ^ 64 - 1) (stepped : step mac b action = some b') :
    Distinct b' := by
  obtain ⟨-, transmitted⟩ := step_transmit stepped
  unfold Distinct at distinct ⊢
  cases transmitted with
  | quiet wire unwritten _ =>
      rw [wire, unwritten]
      exact distinct
  | encode msgType payload _ _ _ wire unwritten _ =>
      rw [encode_of_secureMode honest.secure] at unwritten
      dsimp only at unwritten
      have moved : (b'.wire ++ pending b').Perm
          (sealed mac b.codec.key msgType (b.codec.sendNonce + 1) payload :: (b.wire ++ pending b)) := by
        rw [wire]
        exact (unwritten.append_left b.wire).trans List.perm_middle
      rw [(moved.map nonceField).nodup_iff, List.map_cons, List.nodup_cons]
      refine ⟨fun reused => ?_, distinct⟩
      obtain ⟨data, member, same⟩ := List.mem_map.mp reused
      have below := (honest.sealed data member).2.2
      rw [same, nonceField_sealed] at below
      exact absurd below (UInt64.not_le.mpr (UInt64.lt_add_one_of_lt (by omega)))
  | write datagram unwritten wire _ =>
      have moved : (b'.wire ++ pending b').Perm (b.wire ++ pending b) := by
        rw [wire, List.append_assoc, List.singleton_append]
        exact unwritten.symm.append_left b.wire
      exact (moved.map nonceField).nodup_iff.mpr distinct
  | drop datagram unwritten wire _ =>
      have kept : (b'.wire ++ pending b').Sublist (b.wire ++ (datagram :: pending b')) := by
        rw [wire]
        exact (List.sublist_cons_self datagram _).append_left b.wire
      have moved : (b.wire ++ (datagram :: pending b')).Perm (b.wire ++ pending b) :=
        unwritten.symm.append_left b.wire
      exact ((moved.map nonceField).nodup_iff.mpr distinct).sublist (kept.map nonceField)

theorem honest_preserved :
    Trace.PreservedWhen (step mac) (fun b => b.codec.sendNonce.toNat < 2 ^ 64 - 1)
      (fun b => Honest mac key first b ∧ Distinct b) :=
  fun _ _ _ noWrap ⟨honest, distinct⟩ stepped =>
    ⟨honest.step noWrap stepped, distinct.step honest noWrap stepped⟩

/-! ## Ordered writes, in sequential interleavings -/

/-- The nonces on the wire increase, and every held datagram's nonce is above
all of them. -/
structure Ordered (b : Bridge) : Prop where
  written : (b.wire.map nonceField).Pairwise (· < ·)
  held : ∀ data ∈ pending b, ∀ sent ∈ b.wire, nonceField sent < nonceField data

/-- A step taken while at most one datagram is held keeps the wire ordered. -/
theorem Ordered.step (ordered : Ordered b) (honest : Honest mac key first b) {action : Action}
    (noWrap : b.codec.sendNonce.toNat < 2 ^ 64 - 1) (single : (pending b).length ≤ 1)
    (stepped : step mac b action = some b') : Ordered b' := by
  obtain ⟨-, transmitted⟩ := step_transmit stepped
  cases transmitted with
  | quiet wire unwritten _ =>
      refine ⟨by rw [wire]; exact ordered.written, ?_⟩
      rw [wire, unwritten]
      exact ordered.held
  | encode msgType payload _ _ _ wire unwritten _ =>
      rw [encode_of_secureMode honest.secure] at unwritten
      dsimp only at unwritten
      refine ⟨by rw [wire]; exact ordered.written, fun data member sent written => ?_⟩
      rw [wire] at written
      rcases List.mem_cons.mp (unwritten.subset member) with rfl | old
      · rw [nonceField_sealed]
        exact UInt64.lt_of_le_of_lt (honest.sealed sent (List.mem_append_left _ written)).2.2
          (UInt64.lt_add_one_of_lt (by omega))
      · exact ordered.held data old sent written
  | write datagram unwritten wire _ =>
      have empty : pending b' = [] := by
        have counted := unwritten.length_eq
        rw [List.length_cons] at counted
        exact List.eq_nil_of_length_eq_zero (by omega)
      refine ⟨?_, by simp [empty]⟩
      rw [wire, List.map_append, List.pairwise_append]
      refine ⟨ordered.written, List.pairwise_singleton _ _, fun earlier writtenEarlier later isLater => ?_⟩
      obtain ⟨sent, sentMem, rfl⟩ := List.mem_map.mp writtenEarlier
      rw [List.map_singleton, List.mem_singleton] at isLater
      rw [isLater]
      exact ordered.held datagram (unwritten.symm.subset List.mem_cons_self) sent sentMem
  | drop datagram unwritten wire _ =>
      refine ⟨by rw [wire]; exact ordered.written, fun data member sent written => ?_⟩
      rw [wire] at written
      exact ordered.held data (unwritten.symm.subset (List.mem_cons_of_mem _ member)) sent written

theorem ordered_start (codec : Codec) (capture : Option Bool) (statsInterval : Bool)
    (peerAddr : UDPAddr) : Ordered (start codec capture statsInterval peerAddr) :=
  ⟨by simp [start], by simp [start, pending]⟩

theorem sequential_preserved :
    Trace.PreservedWhen (step mac)
      (fun b => b.codec.sendNonce.toNat < 2 ^ 64 - 1 ∧ (pending b).length ≤ 1)
      (fun b => Honest mac key first b ∧ Ordered b) :=
  fun _ _ _ ⟨noWrap, single⟩ ⟨honest, ordered⟩ stepped =>
    ⟨honest.step noWrap stepped, ordered.step honest noWrap single stepped⟩

/-- The run lemma of sequential interleavings: from the start of a secure
bridge whose counter does not wrap, `Honest` and `Ordered` hold at the end. -/
theorem sequential_run {codec : Codec} (secure : codec.secureMode = true) {capture : Option Bool}
    {statsInterval : Bool} {peerAddr : UDPAddr} {actions : List Action} {b : Bridge}
    (noWrap : codec.sendNonce.toNat + actions.length < 2 ^ 64)
    (sequential : Trace.Along (step mac) (fun b => (pending b).length ≤ 1)
      (start codec capture statsInterval peerAddr) actions)
    (ran : Trace.exec (step mac) (start codec capture statsInterval peerAddr) actions = some b) :
    Honest mac codec.key codec.sendNonce b ∧ Ordered b :=
  (@sequential_preserved mac codec.key codec.sendNonce).exec
    ⟨honest_start secure capture statsInterval peerAddr, ordered_start codec capture statsInterval peerAddr⟩
    ((along_counter_lt noWrap).and sequential) ran

end Invariants

/-! ## The wire as the peer reads it -/

/-- In a secure bridge whose counter does not wrap, in an interleaving where
no step is taken while two senders hold an encoded datagram, the nonces on
the wire strictly increase, and a peer with the same key whose window is at
most the counter's starting value decodes every datagram as a message. -/
theorem decodeAll_wire_of_sequential (mac : Mac hmacSize) {codec peer : Codec}
    (secure : codec.secureMode = true) {capture : Option Bool} {statsInterval : Bool}
    {peerAddr : UDPAddr} {actions : List Action} {b : Bridge}
    (noWrap : codec.sendNonce.toNat + actions.length < 2 ^ 64)
    (sequential : Trace.Along (step mac) (fun b => (pending b).length ≤ 1)
      (start codec capture statsInterval peerAddr) actions)
    (ran : Trace.exec (step mac) (start codec capture statsInterval peerAddr) actions = some b)
    (sameKey : peer.key = codec.key) (behind : peer.recvNonce ≤ codec.sendNonce) :
    (b.wire.map nonceField).Pairwise (· < ·) ∧
      ∀ result ∈ (peer.decodeAll mac b.wire).1, ∃ message, result = .ok message := by
  obtain ⟨honest, ordered⟩ := sequential_run secure noWrap sequential ran
  have peerSecure : peer.secureMode = true := (secureMode_eq_of_key_eq sameKey).trans secure
  refine ⟨ordered.written, decodeAll_of_increasing peerSecure sameKey
    (fun data member => (honest.sealed data (List.mem_append_left _ member)).1) ordered.written
    fun data member => ?_⟩
  exact UInt64.lt_of_le_of_lt behind (honest.sealed data (List.mem_append_left _ member)).2.1

/-- In every interleaving of a secure bridge whose counter does not wrap,
every datagram written is an honest sealed message under the codec's key with
a nonce above the counter's starting value, and no nonce is written twice. -/
theorem nonceField_nodup_wire (mac : Mac hmacSize) {codec : Codec}
    (secure : codec.secureMode = true) {capture : Option Bool} {statsInterval : Bool}
    {peerAddr : UDPAddr} {actions : List Action} {b : Bridge}
    (noWrap : codec.sendNonce.toNat + actions.length < 2 ^ 64)
    (ran : Trace.exec (step mac) (start codec capture statsInterval peerAddr) actions = some b) :
    (b.wire.map nonceField).Nodup ∧
      ∀ data ∈ b.wire, SealedMessage mac codec.key data ∧ codec.sendNonce < nonceField data := by
  have counted : Trace.Along (step mac) (fun b => b.codec.sendNonce.toNat < 2 ^ 64 - 1)
      (start codec capture statsInterval peerAddr) actions := along_counter_lt noWrap
  have distinctStart : Distinct (start codec capture statsInterval peerAddr) := by
    simp [Distinct, start, pending]
  obtain ⟨honest, distinct⟩ := (@honest_preserved mac codec.key codec.sendNonce).exec
    ⟨honest_start secure capture statsInterval peerAddr, distinctStart⟩ counted ran
  unfold Distinct at distinct
  rw [List.map_append] at distinct
  refine ⟨(List.nodup_append.mp distinct).1, fun data member => ?_⟩
  obtain ⟨honestData, above, -⟩ := honest.sealed data (List.mem_append_left _ member)
  exact ⟨honestData, above⟩

/-- A frame is captured and sent, then a PING is sent: each sender writes
before the next one encodes. -/
def sequentialSchedule : List Action :=
  [.captureLoop false none, .captureLoop false none,
    .captureLoop false (some (List.replicate minEthernetFrame 0)), .sendLoop false, .sendLoop false,
    .pingLoop (some 1), .pingLoop none]

theorem wire_sequentialSchedule (mac : Mac hmacSize) :
    (Trace.exec (step mac) (start (newCodec [1]) (some true) false remotePeer)
      sequentialSchedule).map Bridge.wire =
      some [sealed mac [1] msgFrame 1 (List.replicate minEthernetFrame 0),
        sealed mac [1] msgPing 2 (putUint64 (1 : Int64).toUInt64)] := by
  rfl

theorem sequentialSchedule_sequential (mac : Mac hmacSize) :
    Trace.Along (step mac) (fun b => (pending b).length ≤ 1)
      (start (newCodec [1]) (some true) false remotePeer) sequentialSchedule := by
  have checked : Trace.checkAlong (step mac) (fun b => decide ((pending b).length ≤ 1))
      (start (newCodec [1]) (some true) false remotePeer) sequentialSchedule = true := by
    rfl
  simpa using Trace.Along.of_check checked

theorem decodeAll_wire_sequentialSchedule :
    ∃ b, Trace.exec (step hmacSha256) (start (newCodec [1]) (some true) false remotePeer)
        sequentialSchedule = some b ∧ (b.wire.map nonceField).Pairwise (· < ·) ∧
      ∀ result ∈ ((newCodec [1]).decodeAll hmacSha256 b.wire).1, ∃ message, result = .ok message := by
  obtain ⟨b, ran, -⟩ := Option.map_eq_some_iff.mp (wire_sequentialSchedule hmacSha256)
  exact ⟨b, ran, decodeAll_wire_of_sequential hmacSha256 rfl (by decide)
    (sequentialSchedule_sequential hmacSha256) ran rfl (UInt64.le_refl _)⟩

/-- `sendLoop` encodes a frame with nonce 1; before it writes it, `pingLoop`
encodes a PING with nonce 2 and writes it. -/
def swapSchedule : List Action :=
  [.captureLoop false none, .captureLoop false none,
    .captureLoop false (some (List.replicate minEthernetFrame 0)), .sendLoop false,
    .pingLoop (some 1), .pingLoop none, .sendLoop false]

theorem wire_swapSchedule (mac : Mac hmacSize) :
    (Trace.exec (step mac) (start (newCodec [1]) (some true) false remotePeer) swapSchedule).map
        Bridge.wire =
      some [sealed mac [1] msgPing 2 (putUint64 (1 : Int64).toUInt64),
        sealed mac [1] msgFrame 1 (List.replicate minEthernetFrame 0)] := by
  rfl

theorem nonceField_nodup_swappedWire :
    ∃ b, Trace.exec (step hmacSha256) (start (newCodec [1]) (some true) false remotePeer)
        swapSchedule = some b ∧ (b.wire.map nonceField).Nodup ∧
      ∀ data ∈ b.wire, SealedMessage hmacSha256 (newCodec [1]).key data ∧
        (newCodec [1]).sendNonce < nonceField data := by
  obtain ⟨b, ran, -⟩ := Option.map_eq_some_iff.mp (wire_swapSchedule hmacSha256)
  exact ⟨b, ran, nonceField_nodup_wire hmacSha256 rfl (by decide) ran⟩

/-- The wire carries nonce 2 before nonce 1, and the peer refuses the frame
as a replay. -/
theorem decodeAll_swappedWire :
    ∃ b, Trace.exec (step hmacSha256) (start (newCodec [1]) (some true) false remotePeer)
        swapSchedule = some b ∧ b.wire.map nonceField = [2, 1] ∧
      ((newCodec [1]).decodeAll hmacSha256 b.wire).1 =
        [.ok { type := msgPing, timestamp := 1 }, .error .replayDetected] := by
  obtain ⟨b, ran, wire⟩ := Option.map_eq_some_iff.mp (wire_swapSchedule hmacSha256)
  let atTwo : Codec := { newCodec [1] with recvNonce := 2 }
  have pingFirst : (newCodec [1]).decode hmacSha256
      (sealed hmacSha256 [1] msgPing 2 (putUint64 (1 : Int64).toUInt64)) =
      (.ok (msgPing, putUint64 (1 : Int64).toUInt64), atTwo) :=
    decode_of_sealed_accepted rfl rfl (by decide) (by decide)
  have frameReplayed : atTwo.decode hmacSha256
      (sealed hmacSha256 [1] msgFrame 1 (List.replicate minEthernetFrame 0)) =
      (.error .replayDetected, atTwo) :=
    decode_of_sealed_replayed rfl rfl (by decide) (by decide)
  refine ⟨b, ran, by simp [wire], ?_⟩
  rw [wire, decodeAll_cons_of_Decode (Decode_of_decode pingFirst),
    decodeAll_cons_of_Decode (Decode_of_decode_error frameReplayed), decodeAll_nil,
    parsePayload_ping]

end Bridge

end XbsLink
