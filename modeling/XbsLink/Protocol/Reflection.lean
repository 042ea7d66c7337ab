import XbsLink.Protocol.Receive

/-!
# Challenge responses as datagrams

`EncodeHelloAck` answers a challenge with `computeHMAC(challenge)`, and
`decode` passes any datagram whose last 32 bytes are `computeHMAC` of the
bytes before them: the two uses share the key and nothing separates them.  A
16-byte challenge followed by its response is therefore a datagram that
passes the tag check, with type `challenge[0]`, nonce `challenge[1..8]` and a
7-byte payload.  Whoever sends a HELLO chooses its challenge and reads the
response off the HELLO_ACK that answers it; no key is needed.

Seven bytes pass the payload checks of BYE only, so `Decode` returns a
message exactly when the challenge starts with `0x05` and its nonce is fresh,
and that message is a BYE.  For every other type outside the handshake the
nonce is stored all the same, before the payload check fails.
-/

namespace XbsLink
namespace Protocol

open BigEndian

namespace Codec

variable {mac : Mac hmacSize}

end Codec

end Protocol
end XbsLink
