/-
A failed SRTP or SRTCP call leaves no trace in its context.
-/
import RtpBridge.Base.Machine
import RtpBridge.Media.Srtp.Context
import RtpBridge.Media.Srtp.Rtcp

namespace RtpBridge.Srtp

open Wire Machine HashMap SrtpContext

variable {e : String}

/-! ## SRTP -/

inductive SrtpCall where
  | protect (packet : Bytes)
  | unprotect (datagram : Bytes)
  | tighten (packetLifetime : Nat) (positive : 0 < packetLifetime)

namespace SrtpContext

def step (P : Primitives) (ctx : SrtpContext) : SrtpCall → SrtpContext × Except String Bytes
  | .protect packet => ctx.protect P packet
  | .unprotect datagram => ctx.unprotect P datagram
  | .tighten packetLifetime _ => (ctx.tightenPacketLifetime packetLifetime, .ok [])

structure Same (a b : SrtpContext) : Prop where
  keys : a.SameKeys b
  lifetime : a.packetLifetime = b.packetLifetime
  streams : ∀ ssrc, a.streams.lookup ssrc = b.streams.lookup ssrc

variable {P : Primitives} {a b ctx : SrtpContext}

theorem Same.refl (ctx : SrtpContext) : Same ctx ctx := ⟨⟨rfl, rfl, rfl⟩, rfl, fun _ => rfl⟩

theorem Same.stream (h : Same a b) (ssrc : UInt32) : a.stream ssrc = b.stream ssrc := by
  unfold SrtpContext.stream
  rw [h.streams ssrc]

theorem Same.setStream (h : Same a b) (ssrc : UInt32) (st : SrtpStreamState) :
    Same (a.setStream ssrc st) (b.setStream ssrc st) :=
  ⟨h.keys, h.lifetime, insert_congr h.streams ssrc st⟩

theorem same_setStream_iff {ssrc : UInt32} {st : SrtpStreamState} :
    Same (ctx.setStream ssrc st) ctx ↔ ctx.streams.lookup ssrc = some st :=
  ⟨fun h => (h.streams ssrc).symm.trans (AList.lookup_insert _),
    fun h => ⟨⟨rfl, rfl, rfl⟩, rfl, lookup_insert_same h⟩⟩

theorem same_setStream {ssrc : UInt32} (h : ssrc ∈ ctx.streams) :
    Same (ctx.setStream ssrc (ctx.stream ssrc)) ctx := by
  obtain ⟨st, hst⟩ := Option.isSome_iff_exists.mp (AList.lookup_isSome.mpr h)
  rw [same_setStream_iff, stream, hst]
  rfl

theorem stream_of_not_mem {ssrc : UInt32} (h : ssrc ∉ ctx.streams) : ctx.stream ssrc = {} := by
  unfold stream
  rw [AList.lookup_eq_none.mpr h]
  rfl

/-- The call fails at the header, its last check, and has changed the stream before. -/
def FailsLate (P : Primitives) (ctx : SrtpContext) : SrtpCall → Prop
  | .protect packet =>
    12 ≤ packet.length ∧ ctx.CanSend (rtpSsrc packet) ∧ rtpHeaderLen packet = none ∧
      ctx.streams.lookup (rtpSsrc packet) ≠
        some ((ctx.stream (rtpSsrc packet)).updateRoc (rtpSeq packet))
  | .unprotect datagram =>
    ctx.Verifies P (ctx.estimate datagram).1 datagram ∧ ctx.CanReceive (rtpSsrc datagram) ∧
      (∃ st r, (ctx.stream (rtpSsrc datagram)).checkReplay (rtpSeq datagram) = (st, .ok r)) ∧
      rtpHeaderLen (authPortion datagram) = none
  | .tighten _ _ => False

section

variable (hl : 0 < ctx.packetLifetime)
include hl

theorem protect_failed {packet : Bytes} (hn : ¬ ctx.FailsLate P (.protect packet))
    (h : (ctx.protect P packet).2 = .error e) : Same (ctx.protect P packet).1 ctx := by
  unfold protect at h ⊢
  by_cases hs : packet.length < 12
  · rw [if_pos hs]
    exact .refl ctx
  rw [if_neg hs] at h ⊢
  by_cases hf : rtpSsrc packet ∉ ctx.streams ∧ maxSendSsrcs ≤ HashMap.size ctx.streams
  · rw [if_pos hf]
    exact .refl ctx
  rw [if_neg hf] at h ⊢
  by_cases hu : ctx.packetLifetime ≤ (ctx.stream (rtpSsrc packet)).protectedPackets
  · rw [if_pos hu]
    refine same_setStream ?_
    by_contra hn
    -- A new stream has protected nothing yet.
    rw [stream_of_not_mem hn] at hu
    exact absurd hu (Nat.not_le.mpr hl)
  rw [if_neg hu] at h ⊢
  cases hh : rtpHeaderLen packet with
  | some n =>
    rw [hh] at h
    cases h
  | none =>
    have hcan : ctx.CanSend (rtpSsrc packet) := ⟨by grind, Nat.not_le.mp hu⟩
    refine same_setStream_iff.mpr (by_contra fun hne => ?_)
    exact hn ⟨Nat.not_lt.mp hs, hcan, hh, hne⟩

theorem unprotect_failed {datagram : Bytes} (hn : ¬ ctx.FailsLate P (.unprotect datagram))
    (h : (ctx.unprotect P datagram).2 = .error e) : Same (ctx.unprotect P datagram).1 ctx := by
  have hu := ctx.unprotected P datagram
  generalize ctx.unprotect P datagram = result at h hu
  cases hu with
  | refused => exact .refl ctx
  | spent hs =>
    refine same_setStream (by_contra fun hn => ?_)
    rw [stream_of_not_mem hn] at hs
    rcases hs with hu | ⟨e, hc⟩
    · exact absurd hu (Nat.not_le.mpr hl)
    · -- The window of a new stream takes any packet.
      cases congrArg Prod.snd hc
  | cut hv hca hc hh => exact absurd ⟨hv, hca, ⟨_, _, hc⟩, hh⟩ hn
  | opened => cases h

theorem lifetime_step (call : SrtpCall) : 0 < (ctx.step P call).1.packetLifetime := by
  cases call with
  | protect packet =>
    have hk : (ctx.protect P packet).1.packetLifetime = ctx.packetLifetime := by
      unfold protect
      dsimp only
      repeat' split
      all_goals rfl
    exact hk ▸ hl
  | unprotect datagram => exact (unprotect_kept P ctx datagram).2 ▸ hl
  | tighten packetLifetime positive => exact positive

theorem step_failed {call : SrtpCall} (hn : ¬ ctx.FailsLate P call)
    (h : (ctx.step P call).2 = .error e) : Same (ctx.step P call).1 ctx := by
  cases call with
  | protect packet => exact protect_failed hl hn h
  | unprotect datagram => exact unprotect_failed hl hn h
  | tighten packetLifetime positive => cases h

end

theorem FailsLate.changes {call : SrtpCall} (h : ctx.FailsLate P call) :
    ∃ e, (ctx.step P call).2 = .error e ∧ ¬ Same (ctx.step P call).1 ctx := by
  cases call with
  | protect packet =>
    obtain ⟨hlen, ⟨hroom, hlife⟩, hheader, hchanges⟩ := h
    rw [step, protect, if_neg (Nat.not_lt.mpr hlen),
      if_neg fun hf => hroom.elim hf.1 (Nat.not_lt.mpr hf.2), if_neg (Nat.not_le.mpr hlife),
      hheader]
    exact ⟨_, rfl, fun hsame => hchanges (same_setStream_iff.mp hsame)⟩
  | unprotect datagram =>
    obtain ⟨hv, hcan, ⟨st, r, hreplay⟩, hheader⟩ := h
    have hu := ctx.unprotected P datagram
    rw [step]
    generalize ctx.unprotect P datagram = result at hu
    cases hu with
    | refused hn => exact absurd ⟨hv, hcan⟩ hn
    | spent hs =>
      rcases hs with hu | ⟨e, hc⟩
      · exact absurd hcan.2 (Nat.not_lt.mpr hu)
      · cases (congrArg Prod.snd hc).symm.trans (congrArg Prod.snd hreplay)
    | cut _ _ hc =>
      refine ⟨_, rfl, fun hsame => SrtpStreamState.checkReplay_ne hc ?_⟩
      rw [stream, same_setStream_iff.mp hsame]
      rfl
    | opened _ _ _ hh => cases hheader.symm.trans hh
  | tighten packetLifetime positive => exact h.elim

/-! Every call answers alike on contexts that are the same. -/

theorem Same.protect (h : Same a b) (packet : Bytes) :
    (a.protect P packet).2 = (b.protect P packet).2 ∧
      Same (a.protect P packet).1 (b.protect P packet).1 := by
  have hsi := size_congr h.streams
  have hm := mem_congr h.streams (rtpSsrc packet)
  have hs := h.stream (rtpSsrc packet)
  unfold SrtpContext.protect
  simp only [hm, hsi, hs, h.lifetime, h.keys.sealRtp]
  split
  · exact ⟨rfl, h⟩
  split
  · exact ⟨rfl, h⟩
  split
  · exact ⟨rfl, h.setStream _ _⟩
  split <;> exact ⟨rfl, h.setStream _ _⟩

theorem Same.unprotect (h : Same a b) (datagram : Bytes) :
    (a.unprotect P datagram).2 = (b.unprotect P datagram).2 ∧
      Same (a.unprotect P datagram).1 (b.unprotect P datagram).1 := by
  have hsi := size_congr h.streams
  have hm := mem_congr h.streams (rtpSsrc datagram)
  have hs := h.stream (rtpSsrc datagram)
  have ht : ∀ portion roc, a.rtpTag P portion roc = b.rtpTag P portion roc := by
    intro portion roc
    simp only [rtpTag, h.keys.2.2]
  have hc : ∀ ssrc index n packet,
      a.cryptPayload P ssrc index n packet = b.cryptPayload P ssrc index n packet := by
    intro ssrc index n packet
    simp only [cryptPayload, h.keys.1, h.keys.2.1]
  unfold SrtpContext.unprotect
  simp only [estimatedRoc_eq, ht, hc, hm, hsi, hs, h.lifetime]
  split
  · exact ⟨rfl, h⟩
  split
  · exact ⟨rfl, h⟩
  split
  · exact ⟨rfl, h⟩
  split
  · exact ⟨rfl, h.setStream _ _⟩
  split
  · exact ⟨rfl, h.setStream _ _⟩
  split <;> exact ⟨rfl, h.setStream _ _⟩

theorem Same.step (h : Same a b) (call : SrtpCall) :
    (a.step P call).2 = (b.step P call).2 ∧ Same (a.step P call).1 (b.step P call).1 := by
  cases call with
  | protect packet => exact h.protect packet
  | unprotect datagram => exact h.unprotect datagram
  | tighten packetLifetime positive => exact ⟨rfl, h.keys, rfl, h.streams⟩

theorem Same.trace (h : Same a b) (calls : List SrtpCall) :
    trace (SrtpContext.step P) a calls = trace (SrtpContext.step P) b calls :=
  trace_congr (fun _ _ call h => h.step call) h calls

end SrtpContext

/-! ## SRTCP -/

inductive SrtcpCall where
  | protect (packet : Bytes)
  | unprotect (datagram : Bytes)
  | tighten (packetLifetime : Nat) (positive : 0 < packetLifetime)

namespace SrtcpContext

def step (P : Primitives) (ctx : SrtcpContext) : SrtcpCall → SrtcpContext × Except String Bytes
  | .protect packet => ctx.protectRtcp P packet
  | .unprotect datagram => ctx.unprotectRtcp P datagram
  | .tighten packetLifetime _ => (ctx.tightenPacketLifetime packetLifetime, .ok [])

structure Same (a b : SrtcpContext) : Prop where
  keys : a.SameKeys b
  lifetime : a.packetLifetime = b.packetLifetime
  index : a.srtcpIndex = b.srtcpIndex
  total : a.protectedPacketsTotal = b.protectedPacketsTotal
  sends : ∀ ssrc, a.sendStreams.lookup ssrc = b.sendStreams.lookup ssrc
  receives : ∀ ssrc, a.recvStreams.lookup ssrc = b.recvStreams.lookup ssrc

variable {P : Primitives} {a b ctx : SrtcpContext}

theorem Same.refl (ctx : SrtcpContext) : Same ctx ctx :=
  ⟨⟨rfl, rfl, rfl⟩, rfl, rfl, rfl, fun _ => rfl, fun _ => rfl⟩

theorem Same.setRecvState (h : Same a b) (ssrc : UInt32) (st : SrtcpRecvState) :
    Same (a.setRecvState ssrc st) (b.setRecvState ssrc st) :=
  ⟨h.keys, h.lifetime, h.index, h.total, h.sends, insert_congr h.receives ssrc st⟩

theorem Same.setSendCount (h : Same a b) (ssrc : UInt32) (count : Nat) :
    Same (a.setSendCount ssrc count) (b.setSendCount ssrc count) :=
  ⟨h.keys, h.lifetime, h.index, h.total, insert_congr h.sends ssrc count, h.receives⟩

theorem Same.advance (h : Same a b) : Same a.advance b.advance where
  __ := h
  index := by
    show (a.srtcpIndex + 1) &&& 0x7FFFFFFF = (b.srtcpIndex + 1) &&& 0x7FFFFFFF
    rw [h.index]
  total := congrArg (· + 1) h.total

section

variable (hl : 0 < ctx.packetLifetime)
include hl

theorem protectRtcp_failed {packet : Bytes}
    (h : (ctx.protectRtcp P packet).2 = .error e) : Same (ctx.protectRtcp P packet).1 ctx := by
  unfold protectRtcp at h ⊢
  split
  · exact .refl ctx
  split
  · exact .refl ctx
  dsimp only
  split
  · exact .refl ctx
  by_cases hu : ctx.packetLifetime ≤ ctx.sendCount (rtcpSsrc packet)
  · rw [if_pos hu]
    unfold sendCount at hu ⊢
    cases hc : ctx.sendStreams.lookup (rtcpSsrc packet) with
    | none =>
      -- Nothing was counted for a new SSRC.
      rw [hc] at hu
      exact absurd hu (Nat.not_le.mpr hl)
    | some count =>
      exact ⟨⟨rfl, rfl, rfl⟩, rfl, rfl, rfl, lookup_insert_same hc, fun _ => rfl⟩
  grind

theorem unprotectRtcp_failed {datagram : Bytes}
    (h : (ctx.unprotectRtcp P datagram).2 = .error e) :
    Same (ctx.unprotectRtcp P datagram).1 ctx := by
  have hu := ctx.unprotectedRtcp P datagram
  generalize ctx.unprotectRtcp P datagram = result at h hu
  cases hu with
  | refused => exact .refl ctx
  | spent hs =>
    unfold SrtcpContext.recvState at hs ⊢
    cases hst : ctx.recvStreams.lookup (rtcpSsrc datagram) with
    | some st => exact ⟨⟨rfl, rfl, rfl⟩, rfl, rfl, rfl, fun _ => rfl, lookup_insert_same hst⟩
    | none =>
      rw [hst] at hs
      rcases hs with hu | ⟨e, hc⟩
      · exact absurd hu (Nat.not_le.mpr hl)
      · -- The window of a new stream takes any index.
        cases congrArg Prod.snd hc
  | opened => cases h

theorem lifetime_step (call : SrtcpCall) : 0 < (ctx.step P call).1.packetLifetime := by
  cases call with
  | protect packet =>
    have hk : (ctx.protectRtcp P packet).1.packetLifetime = ctx.packetLifetime := by
      unfold protectRtcp
      dsimp only
      repeat' split
      all_goals rfl
    exact hk ▸ hl
  | unprotect datagram => exact (unprotectRtcp_kept P ctx datagram).2 ▸ hl
  | tighten packetLifetime positive =>
    exact Nat.lt_min.mpr ⟨positive, by decide⟩

theorem step_failed {call : SrtcpCall}
    (h : (ctx.step P call).2 = .error e) : Same (ctx.step P call).1 ctx := by
  cases call with
  | protect packet => exact protectRtcp_failed hl h
  | unprotect datagram => exact unprotectRtcp_failed hl h
  | tighten packetLifetime positive => cases h

end

theorem Same.protect (h : Same a b) (packet : Bytes) :
    (a.protectRtcp P packet).2 = (b.protectRtcp P packet).2 ∧
      Same (a.protectRtcp P packet).1 (b.protectRtcp P packet).1 := by
  have hsi := size_congr h.sends
  have hm := mem_congr h.sends (rtcpSsrc packet)
  have hc : a.sendCount (rtcpSsrc packet) = b.sendCount (rtcpSsrc packet) := by
    unfold sendCount
    rw [h.sends]
  grind [protectRtcp, h.lifetime, h.total, h.index, h.keys.sealRtcp, h.setSendCount, advance]

theorem Same.unprotect (h : Same a b) (datagram : Bytes) :
    (a.unprotectRtcp P datagram).2 = (b.unprotectRtcp P datagram).2 ∧
      Same (a.unprotectRtcp P datagram).1 (b.unprotectRtcp P datagram).1 := by
  have hsi := size_congr h.receives
  have hm := mem_congr h.receives (rtcpSsrc datagram)
  have hs : a.recvState (rtcpSsrc datagram) = b.recvState (rtcpSsrc datagram) := by
    unfold SrtcpContext.recvState
    rw [h.receives]
  have ht : ∀ portion, a.rtcpTag P portion = b.rtcpTag P portion := by
    intro portion
    simp only [rtcpTag, h.keys.2.2]
  have hc : ∀ ssrc index packet,
      a.cryptRtcp P ssrc index packet = b.cryptRtcp P ssrc index packet := by
    intro ssrc index packet
    simp only [cryptRtcp, h.keys.1, h.keys.2.1]
  unfold unprotectRtcp
  simp only [ht, hc, hm, hsi, hs, h.lifetime]
  split
  · exact ⟨rfl, h⟩
  split
  · exact ⟨rfl, h⟩
  split
  · exact ⟨rfl, h⟩
  split
  · exact ⟨rfl, h.setRecvState _ _⟩
  split <;> exact ⟨rfl, h.setRecvState _ _⟩

theorem Same.step (h : Same a b) (call : SrtcpCall) :
    (a.step P call).2 = (b.step P call).2 ∧ Same (a.step P call).1 (b.step P call).1 := by
  cases call with
  | protect packet => exact h.protect packet
  | unprotect datagram => exact h.unprotect datagram
  | tighten packetLifetime positive =>
    exact ⟨rfl, h.keys, rfl, h.index, h.total, h.sends, h.receives⟩

theorem Same.trace (h : Same a b) (calls : List SrtcpCall) :
    trace (SrtcpContext.step P) a calls = trace (SrtcpContext.step P) b calls :=
  trace_congr (fun _ _ call h => h.step call) h calls

end SrtcpContext

/-! ## Runs -/

theorem SrtpContext.lifetime_exec {P : Primitives} {key : Text} {life : Nat} {ctx : SrtpContext}
    (h : fromSdesKeyWithLifetime P key life = .ok ctx) (calls : List SrtpCall) :
    0 < (exec (step P) ctx calls).packetLifetime := by
  obtain ⟨⟨hl, -⟩, material, -, -, rfl⟩ := fromSdesKeyWithLifetime_eq_ok.mp h
  exact exec_induction (P := fun ctx : SrtpContext => 0 < ctx.packetLifetime)
    (Nat.pos_of_ne_zero hl) (fun ctx call hp => lifetime_step hp call) calls

theorem SrtcpContext.lifetime_exec {P : Primitives} {key : Text} {life : Nat} {ctx : SrtcpContext}
    (h : SrtcpContext.fromSdesKeyWithLifetime P key life = .ok ctx) (calls : List SrtcpCall) :
    0 < (exec (SrtcpContext.step P) ctx calls).packetLifetime := by
  obtain ⟨⟨hl, -⟩, material, -, -, rfl⟩ := SrtcpContext.fromSdesKeyWithLifetime_eq_ok.mp h
  exact exec_induction (P := fun ctx : SrtcpContext => 0 < ctx.packetLifetime)
    (Nat.lt_min.mpr ⟨Nat.pos_of_ne_zero hl, by decide⟩)
    (fun ctx call hp => SrtcpContext.lifetime_step hp call) calls

/-- On a reachable context a call that fails leaves it the same, and every later call answers as
if it had not been made, exactly when it does not fail late. -/
theorem failed_calls_atomic (P : Primitives) (key : Text) (life : Nat) :
    (∀ ctx, SrtpContext.fromSdesKeyWithLifetime P key life = .ok ctx →
      ∀ (calls : List SrtpCall) (call : SrtpCall),
        (∀ e, ((exec (SrtpContext.step P) ctx calls).step P call).2 = .error e →
          ((exec (SrtpContext.step P) ctx calls).step P call).1.Same
              (exec (SrtpContext.step P) ctx calls) ∧
            ∀ later : List SrtpCall, trace (SrtpContext.step P)
                ((exec (SrtpContext.step P) ctx calls).step P call).1 later =
              trace (SrtpContext.step P) (exec (SrtpContext.step P) ctx calls) later) ↔
        ¬ (exec (SrtpContext.step P) ctx calls).FailsLate P call) ∧
    (∀ ctx, SrtcpContext.fromSdesKeyWithLifetime P key life = .ok ctx →
      ∀ (calls : List SrtcpCall) (call : SrtcpCall) (e : String),
        ((exec (SrtcpContext.step P) ctx calls).step P call).2 = .error e →
        ((exec (SrtcpContext.step P) ctx calls).step P call).1.Same
            (exec (SrtcpContext.step P) ctx calls) ∧
          ∀ later : List SrtcpCall,
            trace (SrtcpContext.step P) ((exec (SrtcpContext.step P) ctx calls).step P call).1
                later =
              trace (SrtcpContext.step P) (exec (SrtcpContext.step P) ctx calls) later) := by
  refine ⟨fun ctx hctx calls call => ⟨fun hatomic hlate => ?_, fun hn e herror => ?_⟩,
    fun ctx hctx calls call e herror => ?_⟩
  · obtain ⟨e, herror, hchanged⟩ := hlate.changes
    exact hchanged (hatomic e herror).1
  · have hsame := SrtpContext.step_failed (SrtpContext.lifetime_exec hctx calls) hn herror
    exact ⟨hsame, hsame.trace⟩
  · have hsame := SrtcpContext.step_failed (SrtcpContext.lifetime_exec hctx calls) herror
    exact ⟨hsame, hsame.trace⟩

def sampleFirstPacket : Bytes := [0x80, 0, 0, 1, 0, 0, 0, 0, 0, 0, 0, 7, 1, 2, 3, 4]

def sampleOnce : SrtpContext := { sampleContext with packetLifetime := 1 }

/-- The second packet under a key for one, and a report that is too short. -/
theorem failed_calls_atomic_exhausted :
    ((exec (step .reference) sampleOnce [.protect sampleFirstPacket]).step .reference
      (.protect sampleFirstPacket)).1.Same
        (exec (step .reference) sampleOnce [.protect sampleFirstPacket]) ∧
    ∃ ctx, SrtcpContext.fromSdesKeyWithLifetime .reference sampleKey 1 = .ok ctx ∧
      (ctx.step .reference (.protect [])).1.Same ctx := by
  obtain ⟨hsrtp, hsrtcp⟩ := failed_calls_atomic .reference sampleKey 1
  refine ⟨?_, _, rfl, ?_⟩
  · refine ((hsrtp sampleOnce rfl [.protect sampleFirstPacket] (.protect sampleFirstPacket)).mpr
      (fun hlate => ?_) "SRTP master key lifetime exhausted" rfl).1
    exact absurd hlate.2.2.1 (by decide)
  · exact (hsrtcp _ rfl [] (.protect []) "RTCP packet too short" rfl).1

def sampleCutPacket : Bytes := [0x8F, 0, 0, 1, 0, 0, 0, 0, 0, 0, 0, 7]

def sampleCutDatagram : Bytes :=
  sampleCutPacket ++ sampleContext.rtpTag .reference sampleCutPacket 0

/-- The packet that is cut short takes a slot for its SSRC on the way out; on the way in it also
moves the window, and the whole packet with its sequence number is refused as a duplicate. -/
theorem cut_packet_leaves_trace : ((sampleContext.protect .reference sampleCutPacket).2 =
        .error "RTP packet too short for header" ∧
      7 ∉ sampleContext.streams ∧
      7 ∈ (sampleContext.protect .reference sampleCutPacket).1.streams) ∧
    (sampleContext.unprotect .reference sampleCutDatagram).2 =
        .error "SRTP packet too short for header" ∧
      ((sampleContext.unprotect .reference sampleCutDatagram).1.unprotect .reference
        (sampleContext.sealRtp .reference 0 12 sampleFirstPacket)).2 =
          .error "SRTP replay: duplicate packet (seq=1, delta=0)" ∧
      (sampleContext.unprotect .reference
        (sampleContext.sealRtp .reference 0 12 sampleFirstPacket)).2 = .ok sampleFirstPacket := by
  decide +kernel

end RtpBridge.Srtp
