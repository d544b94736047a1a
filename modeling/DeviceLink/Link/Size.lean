import DeviceLink.Link.Packet
/-!
# Sizes on the wire

A packet is an octet for its kind, its length in groups of seven bits, and as many octets as
that length says. Neither side of a link takes a packet of any size: what a connection asks for
is measured as a whole, what comes in by its length.
-/

namespace DeviceLink.Link

open Mqtt

/-- The most octets of a packet that is sent, and of the length of one that is read. -/
def maxOctets : Nat := 10240

/-- The octets of a length. -/
def lengthOctets (n : Nat) : Nat :=
  if n < 0x80 then 1 else if n < 0x4000 then 2 else if n < 0x200000 then 3 else 4

/-- The octets of a packet of a certain length. -/
def octets (length : Nat) : Nat := 1 + lengthOctets length + length

/-- The octets of a text behind its own length. -/
def textOctets (s : String) : Nat := 2 + s.utf8ByteSize

/-- The length of a command. A publish is measured before it has a packet id. -/
def Command.length : Command → Nat
  | subscribe filters => filters.foldl (fun n f => n + textOctets f.1 + 1) 2
  | unsubscribe topic => 2 + textOctets topic
  | publish topic _ _ payload => textOctets topic + payload.length
  | disconnect => 0

/-- The length of a packet from the broker. A publish without acknowledgement has no packet
id. -/
def Packet.length : Packet → Nat
  | connAck .. | unsubAck _ | pubAck _ | pubRec _ | pubRel _ | pubComp _ => 2
  | publish m =>
    textOctets m.topic + (if m.qos = .atMostOnce then 0 else 2) + m.payload.length
  | subAck _ codes => 2 + codes.length
  | pingReq | pingResp | disconnect => 0

/-- Whether a packet from the broker is small enough to be read. -/
def Packet.fits (p : Packet) : Bool := p.length ≤ maxOctets

end DeviceLink.Link
