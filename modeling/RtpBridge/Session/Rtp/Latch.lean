/-
The symmetric-RTP latch of an RTP endpoint, from `session/endpoint_rtp.rs`.
-/
import RtpBridge.Media.Sdp

namespace RtpBridge.Session

open Sdp

variable {source : SocketAddr}

def rtcpAddrFromRtp (rtpAddr : SocketAddr) : Option SocketAddr :=
  if rtpAddr.port = 65535 then none else some (SocketAddr.new rtpAddr.ip (rtpAddr.port + 1))

structure RtpLatch where
  localRtpAddr : SocketAddr
  remoteRtpAddr : Option SocketAddr := none
  remoteRtcpAddr : Option SocketAddr := none
  sourceNetworks : List IpNet
  rtcpMux : Bool := false
  addrLocked : Bool := false
  rtcpAddrLocked : Bool := false
  rtpLatchResetAt : Nat
  rtcpLatchResetAt : Nat
deriving DecidableEq

variable {latch : RtpLatch}

namespace RtpLatch

def rejectFamilyChange (latch : RtpLatch) (remote : Option SocketAddr) : Except String Unit :=
  let family := fun v6 : Bool => if v6 then "IPv6" else "IPv4"
  match remote with
  | none => .ok ()
  | some remote =>
    if remote.isIpv6 ≠ latch.localRtpAddr.isIpv6 then
      .error ("remote SDP address family (" ++ family remote.isIpv6 ++
        ") does not match this endpoint's bound media family (" ++
        family latch.localRtpAddr.isIpv6 ++
        "); socket migration across address families is not supported")
    else .ok ()

/-- The addresses of a description.  Without rtcp-mux the RTCP address is the one
given or the next port. -/
def setRemote (latch : RtpLatch) (rtcpMux : Bool) (parsed : ParsedSdp) : RtpLatch :=
  { latch with
      remoteRtpAddr := parsed.remoteAddr,
      rtcpMux := rtcpMux,
      remoteRtcpAddr :=
        match parsed.remoteAddr with
        | none => latch.remoteRtcpAddr
        | some addr =>
          if rtcpMux then some addr else parsed.remoteRtcpAddr.or (rtcpAddrFromRtp addr) }

def resetAddrLock (latch : RtpLatch) (now : Nat) : RtpLatch :=
  { latch with addrLocked := false, rtcpAddrLocked := false, rtpLatchResetAt := now,
               rtcpLatchResetAt := now }

def latchRemoteAddr (latch : RtpLatch) (source : SocketAddr) : RtpLatch :=
  { latch with
      remoteRtpAddr := some source,
      remoteRtcpAddr := if latch.rtcpMux then some source else latch.remoteRtcpAddr }

def expected (latch : RtpLatch) (rtcp : Bool) : Option SocketAddr :=
  if rtcp then latch.remoteRtcpAddr else latch.remoteRtpAddr

def locked (latch : RtpLatch) (rtcp : Bool) : Bool :=
  if rtcp && !latch.rtcpMux then latch.rtcpAddrLocked else latch.addrLocked

def latchResetAt (latch : RtpLatch) (rtcp : Bool) : Nat :=
  if rtcp && !latch.rtcpMux then latch.rtcpLatchResetAt else latch.rtpLatchResetAt

def sourceMatches (latch : RtpLatch) (expected source : SocketAddr) : Bool :=
  let ip := source.ip.toCanonical
  ip == expected.ip.toCanonical || latch.sourceNetworks.any (·.contains ip)

def sourceAllowed (latch : RtpLatch) (source : SocketAddr) (receivedAt : Nat) (rtcp : Bool) :
    Bool :=
  if source.isIpv6 ≠ latch.localRtpAddr.isIpv6 then false
  else
    match latch.expected rtcp with
    | none => false
    | some expected =>
      if latch.locked rtcp then source == expected
      else if receivedAt < latch.latchResetAt rtcp then false
      else latch.sourceMatches expected source

def acceptRtp (latch : RtpLatch) (source : SocketAddr) : RtpLatch :=
  if latch.addrLocked then latch else { latch.latchRemoteAddr source with addrLocked := true }

def acceptRtcp (latch : RtpLatch) (source : SocketAddr) : RtpLatch :=
  let latch := { latch with remoteRtcpAddr := some source, rtcpAddrLocked := true }
  if latch.rtcpMux then { latch with remoteRtpAddr := some source, addrLocked := true }
  else latch

theorem sourceMatches_self (latch : RtpLatch) (addr : SocketAddr) :
    latch.sourceMatches addr addr = true := by
  simp [sourceMatches]

theorem sourceAllowed_eq_true {receivedAt : Nat} {rtcp : Bool}
    (h : latch.sourceAllowed source receivedAt rtcp = true) :
    ∃ expected, latch.expected rtcp = some expected ∧
      (latch.locked rtcp = true ∧ source = expected ∨
        latch.locked rtcp = false ∧ latch.latchResetAt rtcp ≤ receivedAt ∧
          latch.sourceMatches expected source = true) := by
  unfold sourceAllowed at h
  grind

theorem sourceAllowed_locked {rtcp : Bool} (hl : latch.locked rtcp = true)
    (ho : latch.expected rtcp ≠ some source) (receivedAt : Nat) :
    latch.sourceAllowed source receivedAt rtcp = false := by
  by_contra ha
  obtain ⟨expected, he, ⟨-, heq⟩ | ⟨hop, -⟩⟩ :=
    sourceAllowed_eq_true (Bool.not_eq_false _ ▸ ha)
  · rw [heq] at ho
    exact ho he
  · rw [hl] at hop
    cases hop

end RtpLatch
end RtpBridge.Session
