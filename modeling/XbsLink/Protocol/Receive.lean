import XbsLink.Protocol.RoundTrip

/-!
# The receive path

What one call of `decode` can do, and what follows for the codec's state.
In secure mode a datagram either fails the length or the tag check, leaving
the codec as it was, or it is a tagged datagram whose fate is the replay
check: HELLO and HELLO_ACK pass untouched, and any other type passes exactly
when its nonce is *fresh* (zero, or above the stored one) and is then stored.
`Decode` runs the payload checks of the type only afterwards, so a rejected
payload can already have moved the window.

Two consequences for an adversary who knows no key.  The listener answers any
HELLO with the tag of its 16-byte challenge, and a challenge followed by that
tag is a tagged datagram of type `challenge[0]` with a 7-byte payload; only a
BYE survives `Decode` in that shape, but every non-handshake type moves the
window to the nonce the challenge chose.  And a stored nonce of zero is
followed by nothing: the next nonce, however old, is fresh again.
-/

namespace XbsLink
namespace Protocol

open BigEndian

namespace Codec

/-- A nonce the replay check lets through: zero, or above the stored one. -/
def Fresh (c : Codec) (nonce : UInt64) : Prop := nonce = 0 ∨ c.recvNonce < nonce

instance (c : Codec) (nonce : UInt64) : Decidable (c.Fresh nonce) :=
  inferInstanceAs (Decidable (_ ∨ _))

/-- The eight bytes `decode` reads as the nonce: `binary.BigEndian.Uint64(data[1:9])`. -/
def nonceField (data : List UInt8) : UInt64 := uint64 (data.extract 1 9)

theorem fresh_iff_not_replayed {c : Codec} {nonce : UInt64} :
    c.Fresh nonce ↔ ¬ (0 < nonce ∧ nonce ≤ c.recvNonce) := by
  have zero : nonce = 0 ↔ nonce.toNat = 0 := by
    rw [← UInt64.toNat_inj]
    rfl
  rw [Fresh, zero, UInt64.lt_iff_toNat_lt, UInt64.lt_iff_toNat_lt, UInt64.le_iff_toNat_le]
  simp only [UInt64.toNat_zero]
  omega

theorem lt_of_fresh {c : Codec} {nonce : UInt64} (fresh : c.Fresh nonce) (nonzero : nonce ≠ 0) :
    c.recvNonce < nonce :=
  fresh.resolve_left nonzero

/-! ## The replay check -/

section Replay

variable {c : Codec} {msgType : UInt8} {nonce : UInt64} {payload : List UInt8}

theorem checkReplay_fst :
    (c.checkReplay msgType nonce payload).1 =
      if (msgType ≠ msgHello ∧ msgType ≠ msgHelloAck) ∧ ¬ c.Fresh nonce then
        .error .replayDetected
      else .ok (msgType, payload) := by
  unfold checkReplay
  simp only [fresh_iff_not_replayed, not_not]
  split_ifs <;> simp_all

theorem checkReplay_snd :
    (c.checkReplay msgType nonce payload).2 =
      if (msgType ≠ msgHello ∧ msgType ≠ msgHelloAck) ∧ c.Fresh nonce then
        { c with recvNonce := nonce }
      else c := by
  unfold checkReplay
  simp only [fresh_iff_not_replayed]
  split_ifs <;> simp_all

end Replay

/-! ## What one call of `decode` can do -/

section Decode

variable {mac : Mac hmacSize} {c : Codec}

/-- The payload `decode` returns is the slice `payloadSlice` of its datagram:
`Decode`'s messages alias the bytes they were read from. -/
theorem read_payloadSlice_of_decode {data payload : List UInt8} {msgType : UInt8}
    (decoded : (c.decode mac data).1 = .ok (msgType, payload)) :
    (c.payloadSlice data.length).read data = payload := by
  cases data with
  | nil => cases decoded
  | cons first rest =>
      rw [decode] at decoded
      unfold payloadSlice
      by_cases secure : c.secureMode = true
      · rw [if_pos secure] at decoded ⊢
        dsimp only at decoded
        split_ifs at decoded
        rw [checkReplay_fst] at decoded
        split_ifs at decoded
        cases decoded
        rfl
      · rw [if_neg secure] at decoded ⊢
        cases decoded
        rw [Buffer.Slice.read, List.extract_eq_take_drop, List.take_of_length_le (by simp)]

theorem hi_payloadSlice_le (n : Nat) : (c.payloadSlice n).hi ≤ n := by
  unfold payloadSlice
  split_ifs
  · exact Nat.sub_le n hmacSize
  · exact Nat.le_refl n

/-- A datagram of the secure minimum length, split at its last 32 bytes. -/
theorem exists_split_tag {data : List UInt8} (long : 1 + nonceSize + hmacSize ≤ data.length) :
    ∃ msgType rest sig, data = (msgType :: rest) ++ sig ∧ nonceSize ≤ rest.length ∧
      sig.length = hmacSize := by
  have signedLength : (data.take (data.length - hmacSize)).length = data.length - hmacSize := by
    simp only [List.length_take]
    omega
  cases signed : data.take (data.length - hmacSize) with
  | nil =>
      rw [signed, List.length_nil] at signedLength
      simp only [nonceSize, hmacSize] at long signedLength
      omega
  | cons msgType rest =>
      refine ⟨msgType, rest, data.drop (data.length - hmacSize), ?_, ?_, ?_⟩
      · rw [← signed, List.take_append_drop]
      · rw [signed, List.length_cons] at signedLength
        omega
      · simp only [List.length_drop]
        omega

/-- Everything `decode` can do in secure mode: refuse a short datagram or a
bad tag with the codec unchanged, or run the replay check on a datagram
tagged under the codec's key. -/
theorem decode_cases_of_secure (secure : c.secureMode = true) (data : List UInt8) :
    c.decode mac data = (.error .messageTooShort, c) ∨
      c.decode mac data = (.error .invalidHMAC, c) ∨
      ∃ msgType rest, nonceSize ≤ rest.length ∧
        data = (msgType :: rest) ++ mac.tag c.key (msgType :: rest) ∧
        c.decode mac data = c.checkReplay msgType (uint64 rest) (rest.drop nonceSize) := by
  by_cases short : data.length < 1 + nonceSize + hmacSize
  · exact .inl (decode_of_short secure short)
  obtain ⟨msgType, rest, sig, rfl, long, tagged⟩ := exists_split_tag (Nat.le_of_not_lt short)
  rw [decode_append_tag secure long tagged]
  by_cases tagMatches : mac.tag c.key (msgType :: rest) = sig
  · subst tagMatches
    exact .inr (.inr ⟨msgType, rest, long, rfl, if_pos rfl⟩)
  · exact .inr (.inl (if_neg tagMatches))

theorem nonceField_append {msgType : UInt8} {rest sig : List UInt8}
    (long : nonceSize ≤ rest.length) : nonceField ((msgType :: rest) ++ sig) = uint64 rest := by
  rw [nonceField, ← uint64_take_eight rest]
  simp only [List.extract_eq_take_drop, List.cons_append, List.drop_succ_cons, List.drop_zero]
  rw [List.take_append_of_le_length (by simpa [nonceSize] using long)]

theorem decode_snd_of_not_secureMode (insecure : c.secureMode = false) (data : List UInt8) :
    (c.decode mac data).2 = c := by
  cases data with
  | nil => rfl
  | cons msgType payload => rw [decode_of_not_secureMode insecure]

@[simp] theorem Decode_snd (data : List UInt8) : (c.Decode mac data).2 = (c.decode mac data).2 := by
  unfold Decode
  rcases c.decode mac data with ⟨_ | ⟨msgType, payload⟩, next⟩ <;> rfl

theorem Decode_fst (data : List UInt8) :
    (c.Decode mac data).1 =
      (c.decode mac data).1.bind fun decoded => parsePayload decoded.1 decoded.2 := by
  unfold Decode
  rcases c.decode mac data with ⟨_ | ⟨msgType, payload⟩, next⟩ <;> rfl

end Decode

/-! ## Payload checks -/

/-- The errors of the payload checks of a type other than HELLO and
HELLO_ACK: a bad size or an unknown type, never a version. -/
theorem sentinel_of_parsePayload {msgType : UInt8} {payload : List UInt8} {e : DecodeError}
    (checked : msgType ≠ msgHello ∧ msgType ≠ msgHelloAck)
    (failed : parsePayload msgType payload = .error e) :
    e.sentinel = .invalidPayload ∨ e.sentinel = .unknownMsgType := by
  unfold parsePayload at failed
  simp only [checked.1, checked.2, if_false] at failed
  split_ifs at failed <;> cases failed <;> simp [DecodeError.sentinel]

/-! ## What `decode` does to the window -/

section Window

variable {mac : Mac hmacSize}

/-- `decode` passes a datagram as a checked message: a type other than HELLO
and HELLO_ACK. -/
def accepts (mac : Mac hmacSize) (c : Codec) (data : List UInt8) : Bool :=
  match (c.decode mac data).1 with
  | .ok (msgType, _) => msgType != msgHello && msgType != msgHelloAck
  | .error _ => false

theorem decode_of_sealed_accepted {c : Codec} {key : List UInt8} {msgType : UInt8}
    {nonce : UInt64} {payload : List UInt8} (secure : c.secureMode = true) (sameKey : c.key = key)
    (checked : msgType ≠ msgHello ∧ msgType ≠ msgHelloAck) (fresh : c.Fresh nonce) :
    c.decode mac (sealed mac key msgType nonce payload) =
      (.ok (msgType, payload), { c with recvNonce := nonce }) := by
  rw [← sameKey, decode_sealed secure, checkReplay_of_accepted checked]
  exact fresh_iff_not_replayed.mp fresh

theorem decode_of_sealed_replayed {c : Codec} {key : List UInt8} {msgType : UInt8}
    {nonce : UInt64} {payload : List UInt8} (secure : c.secureMode = true) (sameKey : c.key = key)
    (checked : msgType ≠ msgHello ∧ msgType ≠ msgHelloAck) (stale : ¬ c.Fresh nonce) :
    c.decode mac (sealed mac key msgType nonce payload) = (.error .replayDetected, c) := by
  rw [← sameKey, decode_sealed secure, checkReplay_of_replayed checked]
  exact not_not.mp (mt fresh_iff_not_replayed.mpr stale)

@[simp] theorem nonceField_sealed (key : List UInt8) (msgType : UInt8) (nonce : UInt64)
    (payload : List UInt8) : nonceField (sealed mac key msgType nonce payload) = nonce := by
  rw [sealed, List.cons_append, nonceField_append (by simp [nonceSize]),
    uint64_putUint64_append]

/-- The step lemma of the window in secure mode: `decode` accepts a checked
datagram whose nonce is fresh and stores that nonce, or it accepts none and
leaves the codec as it was. -/
theorem decode_snd_of_secure {c : Codec} (secure : c.secureMode = true) (data : List UInt8) :
    c.accepts mac data = true ∧ c.Fresh (nonceField data) ∧
        (c.decode mac data).2 = { c with recvNonce := nonceField data } ∨
      c.accepts mac data = false ∧ (c.decode mac data).2 = c := by
  have refused : ∀ e, (c.decode mac data).1 = .error e → c.accepts mac data = false := by
    intro e failed
    unfold accepts
    rw [failed]
  rcases @decode_cases_of_secure mac c secure data with
    short | badTag | ⟨msgType, rest, long, rfl, decoded⟩
  · exact .inr ⟨refused _ (by rw [short]), by rw [short]⟩
  · exact .inr ⟨refused _ (by rw [badTag]), by rw [badTag]⟩
  rw [nonceField_append long]
  -- The replay check decides: a checked type with a fresh nonce is the only
  -- way through that stores anything.
  by_cases checked : msgType ≠ msgHello ∧ msgType ≠ msgHelloAck
  · by_cases fresh : c.Fresh (uint64 rest)
    · have passed : (c.decode mac ((msgType :: rest) ++ mac.tag c.key (msgType :: rest))).1 =
          .ok (msgType, rest.drop nonceSize) := by
        rw [decoded, checkReplay_fst, if_neg (fun replayed => replayed.2 fresh)]
      refine .inl ⟨?_, fresh, by rw [decoded, checkReplay_snd, if_pos ⟨checked, fresh⟩]⟩
      unfold accepts
      rw [passed]
      simp [checked.1, checked.2]
    · refine .inr ⟨refused .replayDetected ?_, ?_⟩
      · rw [decoded, checkReplay_fst, if_pos ⟨checked, fresh⟩]
      · rw [decoded, checkReplay_snd, if_neg (fun stored => fresh stored.2)]
  · have passed : (c.decode mac ((msgType :: rest) ++ mac.tag c.key (msgType :: rest))).1 =
        .ok (msgType, rest.drop nonceSize) := by
      rw [decoded, checkReplay_fst, if_neg (fun replayed => checked replayed.1)]
    refine .inr ⟨?_, by rw [decoded, checkReplay_snd, if_neg (fun stored => checked stored.1)]⟩
    unfold accepts
    rw [passed]
    rw [not_and_or, not_not, not_not] at checked
    rcases checked with rfl | rfl <;> rfl

/-- In either mode, `decode` leaves the codec as it was or stores a fresh
nonce. -/
theorem decode_snd_cases (c : Codec) (data : List UInt8) :
    (c.decode mac data).2 = c ∨
      c.Fresh (nonceField data) ∧ (c.decode mac data).2 = { c with recvNonce := nonceField data } := by
  by_cases secure : c.secureMode = true
  · rcases @decode_snd_of_secure mac c secure data with ⟨-, fresh, stored⟩ | ⟨-, unchanged⟩
    · exact .inr ⟨fresh, stored⟩
    · exact .inl unchanged
  · exact .inl (decode_snd_of_not_secureMode (Bool.eq_false_iff.mpr secure) data)

@[simp] theorem key_decode (c : Codec) (data : List UInt8) :
    (c.decode mac data).2.key = c.key := by
  rcases @decode_snd_cases mac c data with unchanged | ⟨-, stored⟩
  · rw [unchanged]
  · rw [stored]

@[simp] theorem sendNonce_decode (c : Codec) (data : List UInt8) :
    (c.decode mac data).2.sendNonce = c.sendNonce := by
  rcases @decode_snd_cases mac c data with unchanged | ⟨-, stored⟩
  · rw [unchanged]
  · rw [stored]

@[simp] theorem secureMode_decode (c : Codec) (data : List UInt8) :
    (c.decode mac data).2.secureMode = c.secureMode := by
  rcases @decode_snd_cases mac c data with unchanged | ⟨-, stored⟩
  · rw [unchanged]
  · rw [stored]

theorem decodeAll_singleton (c : Codec) (data : List UInt8) :
    (c.decodeAll mac [data]).2 = (c.decode mac data).2 := by
  rw [decodeAll_cons, decodeAll_nil, Decode_snd]

@[simp] theorem secureMode_decodeAll (c : Codec) (datagrams : List (List UInt8)) :
    (c.decodeAll mac datagrams).2.secureMode = c.secureMode := by
  induction datagrams generalizing c with
  | nil => rfl
  | cons data rest ih => rw [decodeAll_cons, ih, Decode_snd, secureMode_decode]

@[simp] theorem key_decodeAll (c : Codec) (datagrams : List (List UInt8)) :
    (c.decodeAll mac datagrams).2.key = c.key := by
  induction datagrams generalizing c with
  | nil => rfl
  | cons data rest ih => rw [decodeAll_cons, ih, Decode_snd, key_decode]

theorem Decode_of_decode_error {c next : Codec} {data : List UInt8} {e : DecodeError}
    (failed : c.decode mac data = (.error e, next)) : c.Decode mac data = (.error e, next) := by
  simp [Decode, failed]

theorem decodeAll_cons_of_Decode {c next : Codec} {data : List UInt8}
    {result : Except DecodeError Message} (decoded : c.Decode mac data = (result, next))
    (rest : List (List UInt8)) :
    c.decodeAll mac (data :: rest) =
      (result :: (next.decodeAll mac rest).1, (next.decodeAll mac rest).2) := by
  rw [decodeAll_cons, decoded]

/-- What an honest sender under `key` emits outside the handshake: a sealed
datagram of a checked type whose payload the checks of that type accept. -/
def SealedMessage (mac : Mac hmacSize) (key data : List UInt8) : Prop :=
  ∃ msgType nonce payload message, data = sealed mac key msgType nonce payload ∧
    (msgType ≠ msgHello ∧ msgType ≠ msgHelloAck) ∧ parsePayload msgType payload = .ok message

/-- A receiver decodes honest datagrams whose nonces increase strictly from
above its window each as a message: none is refused as a replay. -/
theorem decodeAll_of_increasing {c : Codec} {key : List UInt8} (secure : c.secureMode = true)
    (sameKey : c.key = key) {datagrams : List (List UInt8)}
    (honest : ∀ data ∈ datagrams, SealedMessage mac key data)
    (increasing : (datagrams.map nonceField).Pairwise (· < ·))
    (above : ∀ data ∈ datagrams, c.recvNonce < nonceField data) :
    ∀ result ∈ (c.decodeAll mac datagrams).1, ∃ message, result = .ok message := by
  induction datagrams generalizing c with
  | nil => simp
  | cons data rest ih =>
      obtain ⟨msgType, nonce, payload, message, rfl, checked, parsed⟩ :=
        honest data List.mem_cons_self
      have fresh : c.Fresh nonce := .inr (by simpa using above _ List.mem_cons_self)
      rw [decodeAll_cons_of_Decode
        (Decode_of_decode (decode_of_sealed_accepted secure sameKey checked fresh))]
      rw [List.map_cons, List.pairwise_cons] at increasing
      intro result member
      rcases List.mem_cons.mp member with rfl | later
      · exact ⟨message, parsed⟩
      · refine @ih { c with recvNonce := nonce } secure sameKey
          (fun other member => honest other (List.mem_cons_of_mem _ member))
          increasing.2 (fun other member => ?_) result later
        simpa using increasing.1 _ (List.mem_map_of_mem member)

/-- A FRAME tagged under the key `[1]` with nonce 5, a BYE with nonce 0, and
the same FRAME again. -/
def zeroNonceReplay : List (List UInt8) :=
  [sealed hmacSha256 [1] msgFrame 5 (List.replicate minEthernetFrame 0),
    sealed hmacSha256 [1] msgBye 0 [],
    sealed hmacSha256 [1] msgFrame 5 (List.replicate minEthernetFrame 0)]

/-- The BYE with nonce 0 moves the window back from 5 to 0, and the FRAME is
accepted a second time. -/
theorem decodeAll_zeroNonceReplay :
    ((newCodec [1]).decodeAll hmacSha256 (zeroNonceReplay.take 1)).2.recvNonce = 5 ∧
      ((newCodec [1]).decodeAll hmacSha256 (zeroNonceReplay.take 2)).2.recvNonce = 0 ∧
      ((newCodec [1]).decodeAll hmacSha256 zeroNonceReplay).1 =
        [.ok { type := msgFrame, frame := List.replicate minEthernetFrame 0 },
          .ok { type := msgBye },
          .ok { type := msgFrame, frame := List.replicate minEthernetFrame 0 }] := by
  let atFive : Codec := { newCodec [1] with recvNonce := 5 }
  let atZero : Codec := { atFive with recvNonce := 0 }
  have frameFirst : (newCodec [1]).decode hmacSha256
      (sealed hmacSha256 [1] msgFrame 5 (List.replicate minEthernetFrame 0)) =
      (.ok (msgFrame, List.replicate minEthernetFrame 0), atFive) :=
    decode_of_sealed_accepted rfl rfl (by decide) (by decide)
  have byeZero : atFive.decode hmacSha256 (sealed hmacSha256 [1] msgBye 0 []) =
      (.ok (msgBye, []), atZero) :=
    decode_of_sealed_accepted rfl rfl (by decide) (.inl rfl)
  have frameAgain : atZero.decode hmacSha256
      (sealed hmacSha256 [1] msgFrame 5 (List.replicate minEthernetFrame 0)) =
      (.ok (msgFrame, List.replicate minEthernetFrame 0), atFive) :=
    decode_of_sealed_accepted rfl rfl (by decide) (by decide)
  have frameParsed : parsePayload msgFrame (List.replicate minEthernetFrame 0) =
      .ok { type := msgFrame, frame := List.replicate minEthernetFrame 0 } :=
    parsePayload_frame (by simp) (by simp [minEthernetFrame, maxFrameSize])
  refine ⟨?_, ?_, ?_⟩
  · rw [zeroNonceReplay, List.take_succ_cons, List.take_zero, decodeAll_cons,
      Decode_of_decode frameFirst]
    rfl
  · rw [zeroNonceReplay, List.take_succ_cons, List.take_succ_cons, List.take_zero,
      decodeAll_cons, Decode_of_decode frameFirst, decodeAll_cons, Decode_of_decode byeZero]
    rfl
  · rw [zeroNonceReplay, decodeAll_cons, Decode_of_decode frameFirst, decodeAll_cons,
      Decode_of_decode byeZero, decodeAll_cons, Decode_of_decode frameAgain]
    simp only [decodeAll_nil, frameParsed, parsePayload_bye]

end Window

/-! ## Error paths -/

section Errors

variable {mac : Mac hmacSize}

/-- A `Decode` error leaves the codec as it was, except after a datagram
tagged under the key, of a type other than HELLO and HELLO_ACK and with a
fresh nonce, whose payload then fails a size check or whose type is unknown:
its nonce is stored already. -/
theorem Decode_error_state {c next : Codec} {data : List UInt8} {e : DecodeError}
    (failed : c.Decode mac data = (.error e, next)) :
    next = c ∨
      (e.sentinel = .invalidPayload ∨ e.sentinel = .unknownMsgType) ∧ c.secureMode = true ∧
        ∃ msgType rest, data = (msgType :: rest) ++ mac.tag c.key (msgType :: rest) ∧
          (msgType ≠ msgHello ∧ msgType ≠ msgHelloAck) ∧ c.Fresh (uint64 rest) ∧
          next = { c with recvNonce := uint64 rest } := by
  have state : (c.decode mac data).2 = next := by rw [← Decode_snd, failed]
  have result : (c.Decode mac data).1 = .error e := by rw [failed]
  by_cases secure : c.secureMode = true
  swap
  · rw [decode_snd_of_not_secureMode (Bool.eq_false_iff.mpr secure)] at state
    exact .inl state.symm
  rcases @decode_cases_of_secure mac c secure data with
    short | badTag | ⟨msgType, rest, long, rfl, decoded⟩
  · rw [short] at state
    exact .inl state.symm
  · rw [badTag] at state
    exact .inl state.symm
  rw [decoded, checkReplay_snd] at state
  by_cases stored : (msgType ≠ msgHello ∧ msgType ≠ msgHelloAck) ∧ c.Fresh (uint64 rest)
  · rw [if_pos stored] at state
    rw [Decode_fst, decoded, checkReplay_fst, if_neg (fun replayed => replayed.2 stored.2)] at result
    exact .inr ⟨sentinel_of_parsePayload stored.1 result, secure, msgType, rest, rfl, stored.1,
      stored.2, state.symm⟩
  · rw [if_neg stored] at state
    exact .inl state.symm

theorem Decode_error_state_unknown_type :
    let stored : Codec := { newCodec [1] with recvNonce := 1 }
    stored = newCodec [1] ∨
      ((DecodeError.unknownMsgType 6).sentinel = .invalidPayload ∨
          (DecodeError.unknownMsgType 6).sentinel = .unknownMsgType) ∧
        (newCodec [1]).secureMode = true ∧
        ∃ msgType rest, sealed hmacSha256 [1] 6 1 [] =
            (msgType :: rest) ++ hmacSha256.tag (newCodec [1]).key (msgType :: rest) ∧
          (msgType ≠ msgHello ∧ msgType ≠ msgHelloAck) ∧ (newCodec [1]).Fresh (uint64 rest) ∧
          stored = { newCodec [1] with recvNonce := uint64 rest } :=
  Decode_error_state (Decode_of_decode (decode_of_sealed_accepted rfl rfl (by decide) (by decide)))

/-- A datagram tagged under the key `[1]` with the unknown type 6 and nonce 1
is refused, and afterwards a FRAME with nonce 1, which the fresh codec
accepts, is refused as a replay. -/
theorem Decode_unknown_type_moves_window :
    ((newCodec [1]).Decode hmacSha256 (sealed hmacSha256 [1] 6 1 [])).1 =
        .error (.unknownMsgType 6) ∧
      (((newCodec [1]).Decode hmacSha256 (sealed hmacSha256 [1] 6 1 [])).2.Decode hmacSha256
        (sealed hmacSha256 [1] msgFrame 1 (List.replicate minEthernetFrame 0))).1 =
        .error .replayDetected ∧
      ((newCodec [1]).Decode hmacSha256
        (sealed hmacSha256 [1] msgFrame 1 (List.replicate minEthernetFrame 0))).1 =
        .ok { type := msgFrame, frame := List.replicate minEthernetFrame 0 } := by
  let atOne : Codec := { newCodec [1] with recvNonce := 1 }
  have unknown : (newCodec [1]).decode hmacSha256 (sealed hmacSha256 [1] 6 1 []) =
      (.ok (6, []), atOne) :=
    decode_of_sealed_accepted rfl rfl (by decide) (by decide)
  have replayed : atOne.decode hmacSha256
      (sealed hmacSha256 [1] msgFrame 1 (List.replicate minEthernetFrame 0)) =
      (.error .replayDetected, atOne) :=
    decode_of_sealed_replayed rfl rfl (by decide) (by decide)
  have accepted : (newCodec [1]).decode hmacSha256
      (sealed hmacSha256 [1] msgFrame 1 (List.replicate minEthernetFrame 0)) =
      (.ok (msgFrame, List.replicate minEthernetFrame 0), atOne) :=
    decode_of_sealed_accepted rfl rfl (by decide) (by decide)
  refine ⟨?_, ?_, ?_⟩
  · rw [Decode_of_decode unknown]
    rfl
  · rw [Decode_of_decode unknown, Decode_fst, replayed]
    rfl
  · rw [Decode_of_decode accepted]
    show parsePayload msgFrame (List.replicate minEthernetFrame 0) = _
    exact parsePayload_frame (by simp) (by simp [minEthernetFrame, maxFrameSize])

end Errors

end Codec

end Protocol
end XbsLink
