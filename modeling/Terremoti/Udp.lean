import Terremoti.Basic

/-!
# UDP sockets (`net/Udp.cpp`)

A bound socket is the queue of the datagrams that have reached it, oldest first. `τ` is a ghost:
what the environment knows of a datagram's origin, which no function of the device reads.
-/

namespace Terremoti

/-- A datagram as it reaches a socket. -/
structure Datagram (τ : Type) where
  src : IPaddr
  port : BitVec 16
  data : List Byte
  tag : τ

structure Sent where
  dst : IPaddr
  port : BitVec 16
  data : List Byte
  deriving DecidableEq

namespace Udp

/-- `Udp::receive` on a non-blocking socket: the oldest datagram, cut to `maxsize` bytes (`recvfrom`
drops the rest), or nothing (`-1`) on an empty queue. -/
def receive {τ : Type} (maxsize : ℕ) : List (Datagram τ) → Option (Datagram τ) × List (Datagram τ)
  | [] => (none, [])
  | d :: queue => (some { d with data := d.data.take maxsize }, queue)

def send (buf : List Byte) (dstaddr : IPaddr) (port : BitVec 16) : Sent := ⟨dstaddr, port, buf⟩

end Udp
end Terremoti
