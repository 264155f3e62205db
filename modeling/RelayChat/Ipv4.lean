import RelayChat.Separated

/-!
# IPv4 addresses

An address is four numbers below 256. It is read from exactly four decimal
numbers with dots between them, none with zeros in front.
-/

namespace RelayChat

/-- An IPv4 address. -/
structure Ipv4 where
  /-- The first number. -/
  a : UInt8
  /-- The second number. -/
  b : UInt8
  /-- The third number. -/
  c : UInt8
  /-- The fourth number. -/
  d : UInt8
deriving DecidableEq, Repr

namespace Ipv4

/-- The address that stands for every address of the machine. -/
def unspecified : Ipv4 := ⟨0, 0, 0, 0⟩

/-- The address of the machine itself. -/
def localhost : Ipv4 := ⟨127, 0, 0, 1⟩

/-- One of the four numbers. -/
def octet? (s : List Char) : Option UInt8 :=
  let n := s.foldl (fun n c => n * 10 + (c.toNat - '0'.toNat)) 0
  if s.isEmpty || !s.all Char.isDigit || 3 < s.length then none
  else if s.head? = some '0' ∧ s ≠ ['0'] then none
  else if n < 256 then some n.toUInt8
  else none

/-- Reads an address. -/
def parse? (text : String) : Option Ipv4 :=
  match Separated.parts '.' text.toList with
  | [a, b, c, d] => do
    return ⟨← octet? a, ← octet? b, ← octet? c, ← octet? d⟩
  | _ => none

/-- The address as text. -/
def render (ip : Ipv4) : String :=
  toString ip.a.toNat ++ "." ++ toString ip.b.toNat ++ "." ++ toString ip.c.toNat ++ "." ++
    toString ip.d.toNat

/-- The address that stands for every machine of a network. -/
def broadcast : Ipv4 := ⟨255, 255, 255, 255⟩

/-- Whether the address belongs to the machine itself whatever its networks. -/
def isLoopback (ip : Ipv4) : Bool :=
  ip.a == 127

/-- Whether the address is that of a group of machines and not of one. -/
def isShared (ip : Ipv4) : Bool :=
  (224 ≤ ip.a && ip.a < 240) || ip == broadcast

end Ipv4

/-- An address with a port. -/
structure Endpoint where
  /-- The address. -/
  address : Ipv4
  /-- The port; zero lets the machine choose one. -/
  port : UInt16
deriving DecidableEq, Repr

namespace Endpoint

/-- The endpoint as text. -/
def render (e : Endpoint) : String :=
  e.address.render ++ ":" ++ toString e.port.toNat

end Endpoint

end RelayChat
