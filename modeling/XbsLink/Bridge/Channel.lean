import XbsLink.Bridge.SendOrder
import XbsLink.Protocol.Delivery

/-!
# The channel from a bridge to its peer

What the peer's codec accepts of what a bridge writes, whatever the network
does in between.  The bridge's wire is a stream numbered by its nonces; the
peer's codec is the high-water-mark receiver of that stream
(`acceptedChecked_eq_accepted`).  In a sequential interleaving the wire's
nonces increase, so the channel is ordered and free of duplicates: delivered as
written the wire is accepted whole, and delivered with losses, duplicates,
reordering and any datagrams that fail the tag check, what is accepted is a
sub-list of the wire.
-/

namespace XbsLink

open Protocol Transport BigEndian Codec

namespace Bridge

variable {mac : Mac hmacSize} {codec : Codec} {b : Bridge}

/-- The wire of an honest bridge, numbered by nonce as natural numbers:
authentic, nonces above the counter's start, increasing when ordered. -/
theorem authentic_of_mem_wire (honest : Honest mac codec.key codec.sendNonce b) {data : List UInt8}
    (written : data ∈ b.wire) :
    Authentic mac codec.key data ∧ codec.sendNonce.toNat < (nonceField data).toNat := by
  obtain ⟨sealedData, above, -⟩ := honest.sealed data (List.mem_append_left _ written)
  exact ⟨authentic_of_sealedMessage sealedData, UInt64.lt_iff_toNat_lt.mp above⟩

theorem pairwise_toNat_wire (ordered : Ordered b) :
    b.wire.Pairwise (fun x y => (nonceField x).toNat < (nonceField y).toNat) := by
  have increasing := ordered.written
  rw [List.pairwise_map] at increasing
  exact increasing.imp UInt64.lt_iff_toNat_lt.mp

/-- In a secure bridge whose counter does not wrap, in an interleaving where
no step is taken while two senders hold an encoded datagram, the channel to a
peer with the same key, whose window is at most the counter's start, is
ordered and loses nothing it is given: the wire delivered as written is
accepted whole, and any delivery whose authentic datagrams were all written
by the bridge (lost, repeated, reordered, or mixed with datagrams that fail
the tag check and with HELLOs) is accepted as a sub-list of the wire. -/
theorem acceptedChecked_sublist_wire (mac : Mac hmacSize) {codec peer : Codec}
    (secure : codec.secureMode = true) {capture : Option Bool} {statsInterval : Bool}
    {peerAddr : UDPAddr} {actions : List Action} {b : Bridge}
    (noWrap : codec.sendNonce.toNat + actions.length < 2 ^ 64)
    (sequential : Trace.Along (step mac) (fun b => (pending b).length ≤ 1)
      (start codec capture statsInterval peerAddr) actions)
    (ran : Trace.exec (step mac) (start codec capture statsInterval peerAddr) actions = some b)
    (sameKey : peer.key = codec.key) (behind : peer.recvNonce ≤ codec.sendNonce)
    (delivered : List (List UInt8))
    (unforged : ∀ data ∈ delivered, Authentic mac codec.key data → data ∈ b.wire) :
    peer.acceptedChecked mac b.wire = b.wire ∧
      (peer.acceptedChecked mac delivered).Sublist b.wire := by
  classical
  obtain ⟨honest, ordered⟩ := sequential_run secure noWrap sequential ran
  have peerSecure : peer.secureMode = true := (secureMode_eq_of_key_eq sameKey).trans secure
  have behindNat : peer.recvNonce.toNat ≤ codec.sendNonce.toNat := UInt64.le_iff_toNat_le.mp behind
  -- Authentic datagrams of the wire carry nonces above the counter's start, so none is zero.
  have nonzero : ∀ data ∈ b.wire, nonceField data ≠ 0 := by
    intro data written zero
    have above := (authentic_of_mem_wire honest written).2
    rw [zero, UInt64.toNat_zero] at above
    exact absurd above (Nat.not_lt_zero _)
  rw [acceptedChecked_eq_accepted peerSecure _ fun data written _ => nonzero data written,
    acceptedChecked_eq_accepted peerSecure _ fun data arrived authentic =>
      nonzero data (unforged data arrived (sameKey ▸ authentic)), sameKey]
  constructor
  · refine Window.accepted_of_increasing (fun data written => ?_) (pairwise_toNat_wire ordered)
    obtain ⟨authentic, above⟩ := authentic_of_mem_wire honest written
    exact ⟨authentic, Nat.lt_of_le_of_lt behindNat above⟩
  · exact Window.accepted_sublist (pairwise_toNat_wire ordered) _ unforged

/-- The wire of `sequentialSchedule` delivered backwards and then again. -/
theorem acceptedChecked_sublist_sequentialSchedule :
    ∃ b, Trace.exec (step hmacSha256) (start (newCodec [1]) (some true) false remotePeer)
        sequentialSchedule = some b ∧
      (newCodec [1]).acceptedChecked hmacSha256 b.wire = b.wire ∧
      ((newCodec [1]).acceptedChecked hmacSha256 (b.wire.reverse ++ b.wire)).Sublist b.wire := by
  obtain ⟨b, ran, -⟩ := Option.map_eq_some_iff.mp (wire_sequentialSchedule hmacSha256)
  exact ⟨b, ran, acceptedChecked_sublist_wire hmacSha256 rfl (by decide)
    (sequentialSchedule_sequential hmacSha256) ran rfl (UInt64.le_refl _) _
    fun data arrived _ => by simpa using arrived⟩

/-- The two directions share the key and nothing in a datagram tells them
apart: a datagram a bridge wrote itself, sent back to it from its peer's
address, passes the tag and replay checks whenever its nonce is above the
bridge's window, and is handled as a message from the peer. -/
theorem step_reflected (mac : Mac hmacSize) {key : List UInt8} {first : UInt64} {b : Bridge}
    (honest : Honest mac key first b) {data : List UInt8} (written : data ∈ b.wire)
    (above : b.codec.recvNonce < nonceField data) (reading : b.recvLoop = .read)
    (alive : b.crash = none) (transportOpen : b.transportClosed = false) {peer : UDPAddr}
    (fromPeer : b.peerAddr = some peer) :
    ∃ message, (b.codec.Decode mac data).1 = .ok message ∧
      ∀ now, step mac b (.recvLoop (.datagram peer data now)) =
        some (dispatch mac { b with codec := { b.codec with recvNonce := nonceField data },
                                    recvBuf := Buffer.overwrite b.recvBuf data }
          message (b.codec.payloadSlice data.length) now) := by
  obtain ⟨msgType, nonce, payload, message, rfl, checked, parsed⟩ :=
    (honest.sealed data (List.mem_append_left _ written)).1
  rw [nonceField_sealed] at above ⊢
  have decoded : b.codec.Decode mac (sealed mac key msgType nonce payload) =
      (.ok message, { b.codec with recvNonce := nonce }) := by
    rw [Decode_of_decode (decode_of_sealed_accepted honest.secure honest.keyed checked (.inr above)),
      parsed]
  refine ⟨message, by rw [decoded], fun now => ?_⟩
  simp [step, alive, recvStep, reading, transportOpen, fromPeer, decoded]

/-- `sequentialSchedule`, and `recvLoop` ready to read. -/
def reflectSchedule : List Action := sequentialSchedule ++ [.recvLoop .timeout]

theorem observed_reflectSchedule (mac : Mac hmacSize) :
    (Trace.exec (step mac) (start (newCodec [1]) (some true) false remotePeer) reflectSchedule).map
        (fun b => (b.wire, b.codec.recvNonce, b.recvLoop, b.crash, b.transportClosed, b.peerAddr)) =
      some ([sealed mac [1] msgFrame 1 (List.replicate minEthernetFrame 0),
        sealed mac [1] msgPing 2 (putUint64 (1 : Int64).toUInt64)], 0, .read, none, false,
        some remotePeer) := by
  rfl

/-- The bridge's first FRAME datagram in `reflectSchedule`. -/
def reflectedFrame : List UInt8 := sealed hmacSha256 [1] msgFrame 1 (List.replicate minEthernetFrame 0)

/-- The bridge's own first FRAME, sent back to it, is decoded and handled. -/
theorem step_reflected_frame :
    ∃ b, Trace.exec (step hmacSha256) (start (newCodec [1]) (some true) false remotePeer)
        reflectSchedule = some b ∧
      ∃ message, (b.codec.Decode hmacSha256 reflectedFrame).1 = .ok message ∧
        ∀ now, step hmacSha256 b (.recvLoop (.datagram remotePeer reflectedFrame now)) =
          some (dispatch hmacSha256
            { b with codec := { b.codec with recvNonce := nonceField reflectedFrame },
                     recvBuf := Buffer.overwrite b.recvBuf reflectedFrame }
            message (b.codec.payloadSlice reflectedFrame.length) now) := by
  obtain ⟨b, ran, observed⟩ := Option.map_eq_some_iff.mp (observed_reflectSchedule hmacSha256)
  simp only [Prod.mk.injEq] at observed
  obtain ⟨wire, window, reading, alive, transportOpen, fromPeer⟩ := observed
  have checked : Trace.checkAlong (step hmacSha256) (fun b => decide ((pending b).length ≤ 1))
      (start (newCodec [1]) (some true) false remotePeer) reflectSchedule = true := by
    rfl
  obtain ⟨honest, -⟩ := sequential_run rfl (by decide) (by simpa using Trace.Along.of_check checked) ran
  refine ⟨b, ran, step_reflected hmacSha256 honest (by simp [wire, reflectedFrame]) ?_ reading alive
    transportOpen fromPeer⟩
  rw [window, reflectedFrame, nonceField_sealed]
  decide

end Bridge

end XbsLink
