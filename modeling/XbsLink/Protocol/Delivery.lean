import XbsLink.Protocol.Receive
import XbsLink.Lib.Window

/-!
# What a secure codec delivers

Over any run of `decode` calls a secure codec is the high-water-mark receiver
of `Window`: a datagram is authentic when it passes the length and tag checks
under the key with a type the replay check covers, its number is its nonce
field read as a natural number, and the window is the mark
(`acceptedChecked_eq_accepted`).  The one condition is that no authentic
datagram carries nonce zero, which `decode` takes as fresh whatever the window.  HELLO and HELLO_ACK pass without touching
the window, and a datagram that fails the tag check changes nothing.
-/

namespace XbsLink
namespace Protocol
namespace Codec

open BigEndian

section Delivery

variable {mac : Mac hmacSize}

/-- `data` passes `decode`'s length and tag checks under `key` with a type the
replay check covers. -/
def Authentic (mac : Mac hmacSize) (key data : List UInt8) : Prop :=
  ∃ msgType rest, nonceSize ≤ rest.length ∧
    data = (msgType :: rest) ++ mac.tag key (msgType :: rest) ∧
    msgType ≠ msgHello ∧ msgType ≠ msgHelloAck

/-- The datagrams a run of `decode` calls passes as checked messages, in order. -/
def acceptedChecked (mac : Mac hmacSize) (c : Codec) : List (List UInt8) → List (List UInt8)
  | [] => []
  | data :: rest =>
      (if c.accepts mac data then [data] else []) ++
        (c.decode mac data).2.acceptedChecked mac rest

/-- Every datagram an honest sender seals outside the handshake is authentic. -/
theorem authentic_of_sealedMessage {key data : List UInt8} (honest : SealedMessage mac key data) :
    Authentic mac key data := by
  obtain ⟨msgType, nonce, payload, -, rfl, checked, -⟩ := honest
  exact ⟨msgType, putUint64 nonce ++ payload, by simp [nonceSize], rfl, checked⟩

theorem authentic_of_accepts {c : Codec} (secure : c.secureMode = true) {data : List UInt8}
    (accepted : c.accepts mac data = true) : Authentic mac c.key data := by
  unfold accepts at accepted
  rcases @decode_cases_of_secure mac c secure data with
    short | badTag | ⟨msgType, rest, long, rfl, decoded⟩
  · rw [short] at accepted
    cases accepted
  · rw [badTag] at accepted
    cases accepted
  rw [decoded, checkReplay_fst] at accepted
  by_cases replayed : (msgType ≠ msgHello ∧ msgType ≠ msgHelloAck) ∧ ¬ c.Fresh (uint64 rest)
  · rw [if_pos replayed] at accepted
    cases accepted
  -- Only the replay check's own types come through as accepted.
  rw [if_neg replayed] at accepted
  have checked : msgType ≠ msgHello ∧ msgType ≠ msgHelloAck := by
    simpa using accepted
  exact ⟨msgType, rest, long, rfl, checked⟩

theorem accepts_of_authentic {c : Codec} (secure : c.secureMode = true) {data : List UInt8}
    (authentic : Authentic mac c.key data) (fresh : c.Fresh (nonceField data)) :
    c.accepts mac data = true := by
  obtain ⟨msgType, rest, long, rfl, checked⟩ := authentic
  rw [nonceField_append long] at fresh
  unfold accepts
  rw [decode_append_tag secure long (mac.length_tag _ _), if_pos rfl, checkReplay_fst,
    if_neg fun replayed => replayed.2 fresh]
  simp [checked.1, checked.2]

/-- The step lemma of the refinement: `decode` moves the window exactly where
the high-water-mark receiver moves its mark. -/
theorem decode_step_window {c : Codec} (secure : c.secureMode = true) {data : List UInt8}
    (nonzero : Authentic mac c.key data → nonceField data ≠ 0) :
    (Authentic mac c.key data ∧ c.recvNonce < nonceField data) ∧ c.accepts mac data = true ∧
        (c.decode mac data).2 = { c with recvNonce := nonceField data } ∨
      ¬ (Authentic mac c.key data ∧ c.recvNonce < nonceField data) ∧
        c.accepts mac data = false ∧ (c.decode mac data).2 = c := by
  rcases @decode_snd_of_secure mac c secure data with
    ⟨accepted, fresh, stored⟩ | ⟨refused, unchanged⟩
  · have authentic := authentic_of_accepts secure accepted
    exact .inl ⟨⟨authentic, lt_of_fresh fresh (nonzero authentic)⟩, accepted, stored⟩
  · refine .inr ⟨fun ⟨authentic, above⟩ => ?_, refused, unchanged⟩
    have accepted := accepts_of_authentic secure authentic (.inr above)
    rw [refused] at accepted
    cases accepted

/-- The run lemma of the window: while no authentic datagram carries nonce
zero, the stored nonce of a secure codec never decreases. -/
theorem recvNonce_le_decodeAll {c : Codec} (secure : c.secureMode = true)
    (datagrams : List (List UInt8))
    (nonzero : ∀ data ∈ datagrams, Authentic mac c.key data → nonceField data ≠ 0) :
    c.recvNonce ≤ (c.decodeAll mac datagrams).2.recvNonce := by
  induction datagrams generalizing c with
  | nil => exact UInt64.le_refl _
  | cons data rest ih =>
      have secureNext : (c.Decode mac data).2.secureMode = true := by simp [secure]
      have later := ih secureNext fun other member authentic =>
        nonzero other (List.mem_cons_of_mem _ member) (by simpa using authentic)
      rw [decodeAll_cons]
      refine UInt64.le_trans ?_ later
      rw [Decode_snd]
      rcases decode_step_window secure (nonzero data List.mem_cons_self) with
        ⟨⟨-, above⟩, -, stored⟩ | ⟨-, -, unchanged⟩
      · rw [stored]
        exact UInt64.le_of_lt above
      · rw [unchanged]
        exact UInt64.le_refl _

open Classical in
/-- A secure codec refines the high-water-mark receiver: over any datagrams
whose authentic ones carry no nonce zero, it accepts what the receiver with
its window as the mark accepts. -/
theorem acceptedChecked_eq_accepted {c : Codec} (secure : c.secureMode = true)
    (datagrams : List (List UInt8))
    (nonzero : ∀ data ∈ datagrams, Authentic mac c.key data → nonceField data ≠ 0) :
    c.acceptedChecked mac datagrams =
      Window.accepted (Authentic mac c.key) (fun data => (nonceField data).toNat) c.recvNonce.toNat
        datagrams := by
  induction datagrams generalizing c with
  | nil => rfl
  | cons data rest ih =>
      have sameTest : (Authentic mac c.key data ∧ c.recvNonce < nonceField data) ↔
          (Authentic mac c.key data ∧ c.recvNonce.toNat < (nonceField data).toNat) :=
        Iff.rfl.and UInt64.lt_iff_toNat_lt
      have later : ∀ other ∈ rest, Authentic mac c.key other → nonceField other ≠ 0 :=
        fun other member => nonzero other (List.mem_cons_of_mem _ member)
      rcases decode_step_window secure (nonzero data List.mem_cons_self) with
        ⟨taken, accepted, stored⟩ | ⟨skipped, refused, unchanged⟩
      · rw [acceptedChecked, Window.accepted, if_pos (sameTest.mp taken), if_pos accepted, stored]
        exact congrArg (data :: ·) (ih secure later)
      · rw [acceptedChecked, Window.accepted, if_neg (mt sameTest.mpr skipped),
          refused, unchanged]
        exact ih secure later

end Delivery

end Codec
end Protocol
end XbsLink
