import RelayChat.Host
import RelayChat.SystemReason
import Std.Data.ExtTreeMap

/-!
# A machine that talks to itself

A host on which the clients run beside the server. Bytes that a client writes
are there to be read at once, and every write is taken whole. The poller tells
of each change once: of what a client has done, and of room to write when it
begins to watch for it. A machine whose network is up lets a server listen on
its own addresses only. One whose network is down does not know which addresses
are its own: it lets a server listen on any, and no client reaches it.
-/

namespace RelayChat

/-- One connection between a client and the server. -/
structure Wire where
  /-- Bytes that the client wrote and the server has not read. -/
  unread : List UInt8
  /-- Whether the client writes no more. -/
  ended : Bool
  /-- Whether the client has done something that the poller has not told yet. -/
  stirred : Bool
  /-- Whether there is room to write that the poller has not told yet. -/
  roomy : Bool
deriving DecidableEq, Repr

/-- The state of the machine. -/
structure Loopback where
  /-- Whether the network is up. -/
  up : Bool
  /-- Whether another program listens on the wanted port of the local address. -/
  occupied : Bool
  /-- Connections that wait to be accepted. -/
  arriving : Nat
  /-- The connections. -/
  wires : Std.ExtTreeMap Handle Wire
deriving DecidableEq

namespace Loopback

/-- A machine without connections. -/
def idle (up occupied : Bool) : Loopback := ⟨up, occupied, 0, ∅⟩

/-- Whether a server may listen on an address. -/
def allows (s : Loopback) (address : Ipv4) : Bool :=
  !s.up || address == Ipv4.unspecified || address.isLoopback || address.isShared

/-- Whether listening on an address collides with the other program. -/
def collides (s : Loopback) (address : Ipv4) : Bool :=
  s.occupied && (address == Ipv4.unspecified || address == Ipv4.localhost)

/-- Binds an endpoint. -/
def bind (s : Loopback) (wanted : Endpoint) : Except String Endpoint :=
  if !s.allows wanted.address then .error SystemReason.addressNotAvailable.render
  else if s.collides wanted.address then .error SystemReason.addressInUse.render
  else .ok wanted

/-- The bytes in pieces that a read can give. -/
def pieces (bytes : List UInt8) : List Piece :=
  if _h : bytes = [] then []
  else
    ⟨bytes.take receiveSize, by simp only [List.length_take]; omega⟩ ::
      pieces (bytes.drop receiveSize)
termination_by bytes.length
decreasing_by
  have : 0 < bytes.length := List.length_pos_iff.mpr _h
  simp only [List.length_drop, receiveSize]
  omega

/-- Changes a connection. -/
def update (s : Loopback) (id : Handle) (f : Wire → Wire) : Loopback :=
  { s with wires := s.wires.modify id f }

/-- Whether the poller has nothing to tell. -/
def isQuiet (s : Loopback) : Bool :=
  s.arriving == 0 && s.wires.toList.all fun entry => !entry.2.stirred && !entry.2.roomy

/-- What the poller tells. -/
def readiness (s : Loopback) : List Readiness :=
  (if s.arriving = 0 then [] else [⟨0, true, false, false⟩]) ++
    s.wires.toList.filterMap fun (id, wire) =>
      if wire.stirred || wire.roomy then
        some ⟨id, wire.stirred, wire.roomy, wire.stirred && wire.ended⟩
      else none

/-- A client comes, and will be served under a handle. -/
def connect (s : Loopback) (id : Handle) : Loopback :=
  { s with arriving := s.arriving + 1, wires := s.wires.insert id ⟨[], false, false, false⟩ }

/-- A client writes bytes, and may write no more after them. -/
def write (s : Loopback) (id : Handle) (bytes : List UInt8) (ends : Bool) : Loopback :=
  s.update id fun wire =>
    { wire with unread := wire.unread ++ bytes, ended := wire.ended || ends, stirred := true }

/-- Forgets connections that have ended. -/
def forget (s : Loopback) (ended : Handle → Bool) : Loopback :=
  { s with wires := s.wires.filter fun id _ => !ended id }

/-- The machine as the system underneath a server. -/
def host : Host Loopback where
  bind s wanted := (s.bind wanted, s)
  poll s := (.ready s.readiness,
    { s with wires := s.wires.map fun _ wire => { wire with stirred := false, roomy := false } })
  accept s := (List.replicate s.arriving (.arrived true), { s with arriving := 0 })
  read s id :=
    match s.wires[id]? with
    | none => ([], s)
    | some wire =>
      ((pieces wire.unread).map ReadAnswer.received ++ (if wire.ended then [.finished] else []),
        s.update id fun wire => { wire with unread := [] })
  write s _ bytes := ([.accepted bytes.length], s)
  arm s id writes := (true, s.update id fun wire => { wire with roomy := writes })

end Loopback

end RelayChat
