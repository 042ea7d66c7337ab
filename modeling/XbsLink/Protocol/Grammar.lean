import XbsLink.Protocol.Receive
import XbsLink.Lib.Go

/-!
# The grammar `Decode` accepts

`decode` and `Decode` once more, with every index, slice and fixed-width read
of the source checked as Go checks it (`decodeChecked`, `DecodeChecked`).  On
every codec and every byte string they compute `some`: `Decode` never panics,
and its result is the model's, which slices with the total `List.extract`
(`DecodeChecked_eq`).

The grammar of a datagram, as the protocol describes it: a type byte
`T = d[0]` and a payload `P`, which is `d[1:]` in insecure mode and
`d[9:|d|-32]` in secure mode.  In secure mode the datagram also has at least 41
bytes, its last 32 bytes are the tag of the bytes before them, and the replay
check passes for the types it covers (`Framed`).  Each type has its own payload
condition (`PayloadGrammar`).  `Decode` accepts exactly the datagrams of the
grammar and returns the message the grammar reads from them
(`Decode_ok_iff`).  Whether HELLO and HELLO_ACK are accepted does not depend
on the window, and they leave it as it was (`Decode_of_exempt`).
-/

namespace XbsLink
namespace Protocol

open BigEndian

/-! ## The grammar -/

/-- The payload condition of each type. -/
def PayloadGrammar (msgType : UInt8) (payload : List UInt8) : Prop :=
  (msgType = msgFrame ∧ 14 ≤ payload.length ∧ payload.length ≤ 1514) ∨
    (msgType = msgHello ∧ 18 ≤ payload.length ∧ uint16 (payload.extract 0 2) = 1) ∨
    (msgType = msgHelloAck ∧ 34 ≤ payload.length ∧ uint16 (payload.extract 0 2) = 1) ∨
    ((msgType = msgPing ∨ msgType = msgPong) ∧ 8 ≤ payload.length) ∨
    msgType = msgBye

/-- The message the grammar reads from a type and a payload; the fields a type
does not use keep Go's zero values. -/
def grammarMessage (msgType : UInt8) (payload : List UInt8) : Message :=
  if msgType = msgFrame then { type := msgType, frame := payload }
  else if msgType = msgHello then
    { type := msgType, version := uint16 (payload.extract 0 2), challenge := payload.extract 2 18 }
  else if msgType = msgHelloAck then
    { type := msgType, version := uint16 (payload.extract 0 2), response := payload.extract 2 34 }
  else if msgType = msgPing ∨ msgType = msgPong then
    { type := msgType, timestamp := (uint64 (payload.extract 0 8)).toInt64 }
  else { type := msgType }

namespace Codec

/-- The payload the grammar reads: `d[9:|d|-32]` in secure mode, `d[1:]`
otherwise. -/
def grammarPayload (c : Codec) (data : List UInt8) : List UInt8 :=
  if c.secureMode then data.extract 9 (data.length - 32) else data.drop 1

/-- The framing of the grammar: a type byte, and in secure mode at least 41
bytes, the tag of all but the last 32 bytes in the last 32, and the replay
check passed for the types it covers. -/
def Framed (mac : Mac hmacSize) (c : Codec) (data : List UInt8) : Prop :=
  ∃ msgType rest, data = msgType :: rest ∧
    (c.secureMode = true →
      41 ≤ data.length ∧
        data.drop (data.length - 32) = mac.tag c.key (data.take (data.length - 32)) ∧
        (msgType ≠ msgHello ∧ msgType ≠ msgHelloAck → c.Fresh (nonceField data)))

/-! ## The source with Go's run-time checks -/

section Checked

variable (mac : Mac hmacSize)

/-- `decode`, each index and slice expression checked; `none` is a panic. -/
def decodeChecked (c : Codec) (data : List UInt8) :
    Option (Except DecodeError (UInt8 × List UInt8) × Codec) :=
  if data.length < minHeaderSize then some (.error .messageTooShort, c)
  else if c.secureMode then
    if data.length < 1 + nonceSize + hmacSize then some (.error .messageTooShort, c)
    else do
      let msgType ← Go.index? data 0
      let nonce ← Go.uint64? (← Go.slice? data 1 9)
      let payloadEnd := data.length - hmacSize
      let payload ← Go.slice? data 9 payloadEnd
      let sig ← Go.slice? data payloadEnd data.length
      let signed ← Go.slice? data 0 payloadEnd
      if !c.verifyHMAC mac signed sig then some (.error .invalidHMAC, c)
      else some (c.checkReplay msgType nonce payload)
  else do
    let msgType ← Go.index? data 0
    let payload ← Go.slice? data 1 data.length
    some (.ok (msgType, payload), c)

end Checked

end Codec

/-- The `switch` of `Decode`, each slice and read checked. -/
def parsePayloadChecked (msgType : UInt8) (payload : List UInt8) :
    Option (Except DecodeError Message) :=
  if msgType = msgFrame then
    if payload.length < minEthernetFrame then some (.error (.frameTooSmall payload.length))
    else if maxFrameSize < payload.length then some (.error (.frameTooLarge payload.length))
    else some (.ok { type := msgType, frame := payload })
  else if msgType = msgHello then
    if payload.length < helloPayloadSize then some (.error (.payloadTooSmall msgType))
    else do
      let version ← Go.uint16? (← Go.slice? payload 0 2)
      let challenge ← Go.slice? payload 2 (2 + challengeSize)
      if version ≠ protocolVersion then some (.error (.versionMismatch version))
      else some (.ok { type := msgType, version := version, challenge := challenge })
  else if msgType = msgHelloAck then
    if payload.length < helloAckPayloadSize then some (.error (.payloadTooSmall msgType))
    else do
      let version ← Go.uint16? (← Go.slice? payload 0 2)
      let response ← Go.slice? payload 2 (2 + challengeRespLen)
      if version ≠ protocolVersion then some (.error (.versionMismatch version))
      else some (.ok { type := msgType, version := version, response := response })
  else if msgType = msgPing ∨ msgType = msgPong then
    if payload.length < pingPongPayloadSize then some (.error (.payloadTooSmall msgType))
    else do
      let timestamp ← Go.uint64? payload
      some (.ok { type := msgType, timestamp := timestamp.toInt64 })
  else if msgType = msgBye then some (.ok { type := msgType })
  else some (.error (.unknownMsgType msgType))

namespace Codec

section Checked

variable (mac : Mac hmacSize)

/-- `Decode`, each slice and read checked. -/
def DecodeChecked (c : Codec) (data : List UInt8) : Option (Except DecodeError Message × Codec) := do
  let (result, next) ← c.decodeChecked mac data
  match result with
  | .error e => some (.error e, next)
  | .ok (msgType, payload) => (parsePayloadChecked msgType payload).map fun parsed => (parsed, next)

end Checked

end Codec

/-! ## No run-time panic -/

/-- The first two bytes, read as Go slices them. -/
theorem uint16_extract_zero (payload : List UInt8) : uint16 (payload.extract 0 2) = uint16 payload := by
  simp [uint16, List.extract_eq_take_drop, List.take_take]

@[simp] theorem uint16_take_two (payload : List UInt8) : uint16 (payload.take 2) = uint16 payload := by
  simp [uint16, List.take_take]

theorem parsePayloadChecked_eq (msgType : UInt8) (payload : List UInt8) :
    parsePayloadChecked msgType payload = some (parsePayload msgType payload) := by
  unfold parsePayloadChecked parsePayload
  by_cases frame : msgType = msgFrame
  · simp only [if_pos frame]
    split_ifs <;> rfl
  rw [if_neg frame, if_neg frame]
  -- The version and the challenge or response are read only past the size check.
  have versionBytes (long : 2 ≤ payload.length) :
      Go.slice? payload 0 2 = some (payload.extract 0 2) :=
    Go.slice?_of_le (by omega) long
  have version (long : 2 ≤ payload.length) :
      Go.uint16? (payload.extract 0 2) = some (uint16 payload) := by
    rw [Go.uint16?_of_le (by rw [Go.length_extract_of_le long]), uint16_extract_zero]
  by_cases hello : msgType = msgHello
  · rw [if_pos hello, if_pos hello]
    by_cases short : payload.length < helloPayloadSize
    · rw [if_pos short, if_pos short]
    rw [if_neg short, if_neg short]
    have long : 18 ≤ payload.length := by
      simp only [helloPayloadSize, challengeSize] at short
      omega
    have challenge : Go.slice? payload 2 (2 + challengeSize) =
        some (payload.extract 2 (2 + challengeSize)) :=
      Go.slice?_of_le (by omega) (by simp only [challengeSize]; omega)
    simp only [versionBytes (by omega), version (by omega), challenge, Option.bind_eq_bind,
      Option.bind_some]
    split_ifs <;> rfl
  rw [if_neg hello, if_neg hello]
  by_cases helloAck : msgType = msgHelloAck
  · rw [if_pos helloAck, if_pos helloAck]
    by_cases short : payload.length < helloAckPayloadSize
    · rw [if_pos short, if_pos short]
    rw [if_neg short, if_neg short]
    have long : 34 ≤ payload.length := by
      simp only [helloAckPayloadSize, challengeRespLen] at short
      omega
    have response : Go.slice? payload 2 (2 + challengeRespLen) =
        some (payload.extract 2 (2 + challengeRespLen)) :=
      Go.slice?_of_le (by omega) (by simp only [challengeRespLen]; omega)
    simp only [versionBytes (by omega), version (by omega), response, Option.bind_eq_bind,
      Option.bind_some]
    split_ifs <;> rfl
  rw [if_neg helloAck, if_neg helloAck]
  by_cases pingPong : msgType = msgPing ∨ msgType = msgPong
  · rw [if_pos pingPong, if_pos pingPong]
    by_cases short : payload.length < pingPongPayloadSize
    · rw [if_pos short, if_pos short]
    have long : 8 ≤ payload.length := by
      simp only [pingPongPayloadSize] at short
      omega
    rw [if_neg short, if_neg short, Go.uint64?_of_le long]
    rfl
  rw [if_neg pingPong, if_neg pingPong]
  split_ifs <;> rfl

namespace Codec

variable {mac : Mac hmacSize}

theorem decodeChecked_eq (c : Codec) (data : List UInt8) :
    c.decodeChecked mac data = some (c.decode mac data) := by
  cases data with
  | nil => rfl
  | cons msgType rest =>
      have notEmpty : ¬ (msgType :: rest).length < minHeaderSize := by simp [minHeaderSize]
      rw [decodeChecked, if_neg notEmpty, Codec.decode]
      cases secure : c.secureMode with
      | false =>
          rw [if_neg (by simp), if_neg (by simp)]
          simp only [Go.index?_cons_zero, Go.slice?_length (by simp : 1 ≤ (msgType :: rest).length),
            Option.bind_eq_bind, Option.bind_some]
      | true =>
          rw [if_pos rfl, if_pos rfl]
          by_cases short : (msgType :: rest).length < 1 + nonceSize + hmacSize
          · rw [if_pos short, if_pos short]
          rw [if_neg short, if_neg short]
          generalize datagram : msgType :: rest = data at *
          have long : 41 ≤ data.length := by
            simp only [nonceSize, hmacSize] at short
            omega
          have nonceBytes : Go.slice? data 1 9 = some (data.extract 1 9) :=
            Go.slice?_of_le (by omega) (by omega)
          have nonce : Go.uint64? (data.extract 1 9) = some (uint64 (data.extract 1 9)) :=
            Go.uint64?_of_le (by rw [Go.length_extract_of_le (by omega)])
          have payload : Go.slice? data 9 (data.length - hmacSize) =
              some (data.extract 9 (data.length - hmacSize)) :=
            Go.slice?_of_le (by simp only [hmacSize]; omega) (by omega)
          have sig : Go.slice? data (data.length - hmacSize) data.length =
              some (data.drop (data.length - hmacSize)) :=
            Go.slice?_length (by omega)
          have signed : Go.slice? data 0 (data.length - hmacSize) =
              some (data.take (data.length - hmacSize)) := by
            rw [Go.slice?_of_le (by omega) (by omega), List.extract_eq_take_drop, List.drop_zero,
              Nat.sub_zero]
          subst datagram
          simp only [Go.index?_cons_zero, nonceBytes, nonce, payload, sig, signed,
            Option.bind_eq_bind, Option.bind_some]
          split_ifs <;> rfl

/-- `Decode` never panics, and computes what the model computes. -/
theorem DecodeChecked_eq (c : Codec) (data : List UInt8) :
    c.DecodeChecked mac data = some (c.Decode mac data) := by
  unfold DecodeChecked Decode
  rw [decodeChecked_eq]
  simp only [Option.bind_eq_bind, Option.bind_some]
  rcases c.decode mac data with ⟨_ | ⟨msgType, payload⟩, next⟩
  · rfl
  · simp [parsePayloadChecked_eq]

end Codec

/-! ## The payload checks accept the grammar -/

theorem parsePayload_grammarMessage {msgType : UInt8} {payload : List UInt8}
    (grammar : PayloadGrammar msgType payload) :
    parsePayload msgType payload = .ok (grammarMessage msgType payload) := by
  rcases grammar with ⟨rfl, large, small⟩ | ⟨rfl, long, version⟩ | ⟨rfl, long, version⟩ |
    ⟨pingPong, long⟩ | rfl
  · simp [parsePayload, grammarMessage, not_lt.mpr large, not_lt.mpr small, minEthernetFrame,
      maxFrameSize]
  · rw [uint16_extract_zero] at version
    simp [parsePayload, grammarMessage, version, helloPayloadSize, challengeSize, protocolVersion,
      msgFrame, msgHello, not_lt.mpr long]
  · rw [uint16_extract_zero] at version
    simp [parsePayload, grammarMessage, version, helloAckPayloadSize, challengeRespLen,
      protocolVersion, msgFrame, msgHello, msgHelloAck, not_lt.mpr long]
  · have notOther : msgType ≠ msgFrame ∧ msgType ≠ msgHello ∧ msgType ≠ msgHelloAck := by
      rcases pingPong with rfl | rfl <;> decide
    simp [parsePayload, grammarMessage, notOther, pingPong, Codec.uint64_take_eight, pingPongPayloadSize,
      not_lt.mpr long]
  · simp [parsePayload, grammarMessage, msgFrame, msgHello, msgHelloAck, msgPing, msgPong, msgBye]

theorem grammar_of_parsePayload {msgType : UInt8} {payload : List UInt8} {message : Message}
    (accepted : parsePayload msgType payload = .ok message) : PayloadGrammar msgType payload := by
  unfold parsePayload at accepted
  split_ifs at accepted with frame small large hello short version helloAck shortAck ackVersion
    pingPong shortPing bye
  all_goals try cases accepted
  · exact .inl ⟨frame, by simpa [minEthernetFrame] using small, by simpa [maxFrameSize] using large⟩
  · refine .inr (.inl ⟨hello, by simpa [helloPayloadSize, challengeSize] using short, ?_⟩)
    rw [uint16_extract_zero]
    simpa [protocolVersion] using version
  · refine .inr (.inr (.inl ⟨helloAck, ?_, ?_⟩))
    · simpa [helloAckPayloadSize, challengeRespLen] using shortAck
    · rw [uint16_extract_zero]
      simpa [protocolVersion] using ackVersion
  · exact .inr (.inr (.inr (.inl ⟨pingPong, by simpa [pingPongPayloadSize] using shortPing⟩)))
  · exact .inr (.inr (.inr (.inr bye)))

theorem parsePayload_ok_iff {msgType : UInt8} {payload : List UInt8} {message : Message} :
    parsePayload msgType payload = .ok message ↔
      PayloadGrammar msgType payload ∧ message = grammarMessage msgType payload := by
  constructor
  · intro accepted
    have grammar := grammar_of_parsePayload accepted
    rw [parsePayload_grammarMessage grammar] at accepted
    exact ⟨grammar, (Except.ok.inj accepted).symm⟩
  · rintro ⟨grammar, rfl⟩
    exact parsePayload_grammarMessage grammar

/-! ## `decode` accepts the framing -/

namespace Codec

variable {mac : Mac hmacSize}

theorem framed_cons_iff {c : Codec} {first : UInt8} {rest : List UInt8} :
    Framed mac c (first :: rest) ↔
      (c.secureMode = true →
        41 ≤ (first :: rest).length ∧
          (first :: rest).drop ((first :: rest).length - 32) =
            mac.tag c.key ((first :: rest).take ((first :: rest).length - 32)) ∧
          (first ≠ msgHello ∧ first ≠ msgHelloAck → c.Fresh (nonceField (first :: rest)))) := by
  constructor
  · rintro ⟨msgType, tail, datagram, framed⟩
    obtain ⟨rfl, rfl⟩ := List.cons.inj datagram
    exact framed
  · intro framed
    exact ⟨first, rest, rfl, framed⟩

theorem decode_ok_iff {c : Codec} {data : List UInt8} {msgType : UInt8} {payload : List UInt8} :
    (c.decode mac data).1 = .ok (msgType, payload) ↔
      Framed mac c data ∧ msgType = data.headD 0 ∧ payload = c.grammarPayload data := by
  cases data with
  | nil => simp [Codec.decode, Framed]
  | cons first rest =>
      rw [framed_cons_iff, List.headD_cons]
      cases secure : c.secureMode with
      | false =>
          rw [decode_of_not_secureMode secure]
          simp [grammarPayload, secure, eq_comm]
      | true =>
          by_cases short : (first :: rest).length < 1 + nonceSize + hmacSize
          · rw [decode_of_short secure short]
            simp only [nonceSize, hmacSize] at short
            simp only [reduceCtorEq, false_iff, not_and, forall_const]
            intro framed
            omega
          rw [Codec.decode.eq_2, if_pos secure, if_neg short, grammarPayload, if_pos secure]
          generalize first :: rest = data at *
          have payloadEnd : data.length - hmacSize = data.length - 32 := rfl
          simp only [Codec.verifyHMAC, Codec.computeHMAC, payloadEnd, forall_const]
          -- The tag is checked before the replay check, and both before the type.
          by_cases tagged : mac.tag c.key (data.take (data.length - 32)) =
              data.drop (data.length - 32)
          · have long : 41 ≤ data.length := by
              simp only [nonceSize, hmacSize] at short
              omega
            have verified : ¬ (!(mac.tag c.key (data.take (data.length - 32)) ==
                data.drop (data.length - 32))) = true := by simp [tagged]
            rw [if_neg verified, checkReplay_fst]
            split_ifs with replayed
            · simp only [false_iff, not_and]
              intro framed
              exact absurd (framed.2.2 replayed.1) replayed.2
            · simp only [Except.ok.injEq, Prod.mk.injEq]
              constructor
              · rintro ⟨rfl, rfl⟩
                exact ⟨⟨long, tagged.symm, fun exempt => not_not.mp (not_and.mp replayed exempt)⟩,
                  rfl, rfl⟩
              · rintro ⟨-, rfl, rfl⟩
                exact ⟨rfl, rfl⟩
          · have untagged : (!(mac.tag c.key (data.take (data.length - 32)) ==
                data.drop (data.length - 32))) = true := by simpa using tagged
            rw [if_pos untagged]
            simp only [reduceCtorEq, false_iff]
            rintro ⟨⟨-, signed, -⟩, -⟩
            exact tagged signed.symm

/-- `Decode` succeeds exactly on the datagrams of the grammar, with the message
the grammar reads. -/
theorem Decode_ok_iff {c : Codec} {data : List UInt8} {message : Message} :
    (c.Decode mac data).1 = .ok message ↔
      Framed mac c data ∧ PayloadGrammar (data.headD 0) (c.grammarPayload data) ∧
        message = grammarMessage (data.headD 0) (c.grammarPayload data) := by
  rw [Decode_fst]
  cases decoded : (c.decode mac data).1 with
  | error e =>
      have unframed : ¬ Framed mac c data := by
        intro framed
        have accepted := decode_ok_iff.mpr ⟨framed, rfl, rfl⟩
        rw [decoded] at accepted
        cases accepted
      simp [unframed, Except.bind]
  | ok fields =>
      obtain ⟨msgType, payload⟩ := fields
      obtain ⟨framed, rfl, rfl⟩ := decode_ok_iff.mp decoded
      show parsePayload _ _ = _ ↔ _
      rw [parsePayload_ok_iff]
      simp [framed]

/-- HELLO and HELLO_ACK skip the replay check: `decode` reads them the same
whatever the window holds, and leaves the codec as it was. -/
theorem decode_of_exempt {c : Codec} {data : List UInt8}
    (exempt : data.headD 0 = msgHello ∨ data.headD 0 = msgHelloAck) (recvNonce : UInt64) :
    ({ c with recvNonce := recvNonce }.decode mac data).1 = (c.decode mac data).1 ∧
      (c.decode mac data).2 = c := by
  cases data with
  | nil => simp [msgHello, msgHelloAck] at exempt
  | cons first rest =>
      rw [List.headD_cons] at exempt
      simp only [Codec.decode.eq_2, checkReplay_of_exempt exempt, Codec.verifyHMAC,
        Codec.computeHMAC]
      constructor
      · split_ifs <;> rfl
      · split_ifs <;> rfl

theorem Decode_of_exempt {c : Codec} {data : List UInt8}
    (exempt : data.headD 0 = msgHello ∨ data.headD 0 = msgHelloAck) (recvNonce : UInt64) :
    ({ c with recvNonce := recvNonce }.Decode mac data).1 = (c.Decode mac data).1 ∧
      (c.Decode mac data).2 = c := by
  obtain ⟨sameResult, unchanged⟩ := @decode_of_exempt mac c data exempt recvNonce
  rw [Decode_fst, Decode_fst, sameResult, Decode_snd, unchanged]
  exact ⟨rfl, rfl⟩

/-- `Decode` never panics; it succeeds exactly on the datagrams of the grammar,
with the message the grammar reads; and what it does with a HELLO or HELLO_ACK
neither depends on the window nor moves it. -/
theorem Decode_accepts_grammar (c : Codec) (data : List UInt8) :
    c.DecodeChecked mac data = some (c.Decode mac data) ∧
      (∀ message, (c.Decode mac data).1 = .ok message ↔
        Framed mac c data ∧ PayloadGrammar (data.headD 0) (c.grammarPayload data) ∧
          message = grammarMessage (data.headD 0) (c.grammarPayload data)) ∧
      (data.headD 0 = msgHello ∨ data.headD 0 = msgHelloAck →
        ∀ recvNonce, ({ c with recvNonce := recvNonce }.Decode mac data).1 = (c.Decode mac data).1 ∧
          (c.Decode mac data).2 = c) :=
  ⟨DecodeChecked_eq c data, fun _ => Decode_ok_iff, fun exempt => Decode_of_exempt exempt⟩

end Codec

end Protocol
end XbsLink
