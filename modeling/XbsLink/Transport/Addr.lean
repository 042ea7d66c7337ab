import Mathlib.Data.List.Basic

/-!
# UDP addresses

`*net.UDPAddr` as far as `addrEqual` reads it: the IP bytes and the port
(the zone is not compared).  `net.IP.Equal` treats an IPv4 address and the
same address in IPv4-mapped IPv6 form (`::ffff:a.b.c.d`) as equal; two
addresses of other differing lengths are never equal.  `addrEqual` is
written twice in the source, in `transport.go` and in `bridge.go`, with the
same body.
-/

namespace XbsLink
namespace Transport

/-- `net.UDPAddr`: the IP bytes and the port. -/
structure UDPAddr where
  ip : List UInt8
  port : Nat
  deriving DecidableEq, Repr

/-- `v4InV6Prefix`: the first twelve bytes of an IPv4-mapped IPv6 address. -/
def v4InV6Prefix : List UInt8 := [0, 0, 0, 0, 0, 0, 0, 0, 0, 0, 0xff, 0xff]

/-- `net.IP.Equal`. -/
def ipEqual (ip x : List UInt8) : Bool :=
  if ip.length = x.length then ip == x
  else if ip.length = 4 ∧ x.length = 16 then x.take 12 == v4InV6Prefix && ip == x.drop 12
  else if ip.length = 16 ∧ x.length = 4 then ip.take 12 == v4InV6Prefix && ip.drop 12 == x
  else false

/-- `addrEqual`: two nil addresses are equal, a nil and a non-nil one are not. -/
def addrEqual : Option UDPAddr → Option UDPAddr → Bool
  | none, none => true
  | some _, none | none, some _ => false
  | some a, some b => ipEqual a.ip b.ip && a.port == b.port

@[simp] theorem ipEqual_self (ip : List UInt8) : ipEqual ip ip = true := by
  simp [ipEqual]

@[simp] theorem addrEqual_self (a : Option UDPAddr) : addrEqual a a = true := by
  cases a <;> simp [addrEqual]

end Transport
end XbsLink
