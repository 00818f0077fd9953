/-
What the symmetric-RTP latch guarantees over whole runs.
-/
import RtpBridge.Session.Rtp.Steps

namespace RtpBridge.Session

open Srtp Sdp Rtp Rtcp Wire Machine
open List hiding Vector

namespace RtpEndpoint

/-! ## The past of a run -/

abbrev Trace := List (RtpEvent × RtpOutcome)

def isApplied (x : RtpEvent × RtpOutcome) : Bool := (appliedSdp x).isSome

def isReset (x : RtpEvent × RtpOutcome) : Bool :=
  match x.1.call, x.2 with
  | .resetAddrLock, .none => true
  | _, _ => isApplied x

/-- The source and the receive time of an accepted RTP packet, or of an RTCP packet if
these count too. -/
def heard (rtcp : Bool) (x : RtpEvent × RtpOutcome) : Option (SocketAddr × Nat) :=
  match x.1.call, x.2 with
  | .handleRtpAt _ source receivedAt, .routed (some _) => some (source, receivedAt)
  | .handleRtcpAt _ source receivedAt, .control _ (some _) =>
    if rtcp then some (source, receivedAt) else none
  | _, _ => none

def lastSdpAddr (P : Primitives) (ep : RtpEndpoint) (tr : Trace) : Option SocketAddr :=
  match last isApplied tr with
  | none => ep.latch.remoteRtpAddr
  | some x => (appliedSdp x).bind fun sdp => (parseSdp P sdp).remoteAddr

def lastResetAt (ep : RtpEndpoint) (tr : Trace) : Nat :=
  match last isReset tr with
  | none => ep.latch.rtpLatchResetAt
  | some x => x.1.now

structure Latched (P : Primitives) (ep : RtpEndpoint) (tr : Trace) (s : RtpEndpoint) : Prop where
  networks : s.latch.sourceNetworks = ep.latch.sourceNetworks
  mux : s.latch.rtcpMux = true → s.latch.remoteRtpAddr = s.latch.remoteRtcpAddr
  resetAt : s.latch.rtpLatchResetAt = lastResetAt ep tr
  locked : ∀ x ∈ since isReset tr, (heard s.latch.rtcpMux x).isSome → s.latch.addrLocked = true
  origin : ∀ remote, s.latch.remoteRtpAddr = some remote →
    ∃ addr, lastSdpAddr P ep tr = some addr ∧ ep.latch.sourceMatches addr remote = true
  sending : s.remoteSsrc.isSome → (∃ x ∈ since isApplied tr, (heard false x).isSome) ∧
    ∃ remote, s.latch.remoteRtpAddr = some remote ∧
      ∃ x ∈ since isApplied tr, ∃ receivedAt, heard true x = some (remote, receivedAt)

theorem Created.latched {P : Primitives} {ep : RtpEndpoint} (h : Created P ep) :
    Latched P ep [] ep := by
  refine ⟨rfl, h.initial.mux, rfl, fun x hx => absurd hx not_mem_nil, ?_, ?_⟩
  · intro remote hr
    exact ⟨remote, hr, RtpLatch.sourceMatches_self _ _⟩
  intro hs
  rw [h.initial.remoteSsrc] at hs
  cases hs

section

variable {P : Primitives} {ep s s' : RtpEndpoint} {tr : Trace} {x : RtpEvent × RtpOutcome}

theorem isApplied_of_not_isReset (h : isReset x = false) : isApplied x = false := by
  unfold isReset at h
  split at h
  · cases h
  · exact h

theorem past_unapplied (P : Primitives) (ep : RtpEndpoint) (tr : Trace) (h : isApplied x = false) :
    since isApplied (tr ++ [x]) = x :: since isApplied tr ∧
      lastSdpAddr P ep (tr ++ [x]) = lastSdpAddr P ep tr := by
  constructor
  · rw [since_append, h, if_neg Bool.false_ne_true]
  · rw [lastSdpAddr, last_append, h, if_neg Bool.false_ne_true, lastSdpAddr]

theorem past_unmarked (P : Primitives) (ep : RtpEndpoint) (tr : Trace) (h : isReset x = false) :
    since isReset (tr ++ [x]) = x :: since isReset tr ∧
      since isApplied (tr ++ [x]) = x :: since isApplied tr ∧
      lastResetAt ep (tr ++ [x]) = lastResetAt ep tr ∧
      lastSdpAddr P ep (tr ++ [x]) = lastSdpAddr P ep tr := by
  obtain ⟨hs, hl⟩ := past_unapplied P ep tr (isApplied_of_not_isReset h)
  refine ⟨?_, hs, ?_, hl⟩
  · rw [since_append, h, if_neg Bool.false_ne_true]
  · rw [lastResetAt, last_append, h, if_neg Bool.false_ne_true, lastResetAt]

theorem Latched.sending_cons (h : Latched P ep tr s) (ha : isApplied x = false)
    (hl : s'.latch.remoteRtpAddr = s.latch.remoteRtpAddr) (hss : s'.remoteSsrc = s.remoteSsrc)
    (hs : s'.remoteSsrc.isSome) :
    (∃ y ∈ since isApplied (tr ++ [x]), (heard false y).isSome) ∧
    ∃ remote, s'.latch.remoteRtpAddr = some remote ∧
      ∃ y ∈ since isApplied (tr ++ [x]), ∃ receivedAt,
        heard true y = some (remote, receivedAt) := by
  rw [hss] at hs
  obtain ⟨⟨y, hy, hrt⟩, remote, hr, z, hz, hso⟩ := h.sending hs
  rw [(past_unapplied P ep tr ha).1, hl]
  exact ⟨⟨y, mem_cons_of_mem x hy, hrt⟩, remote, hr, z, mem_cons_of_mem x hz, hso⟩

theorem Latched.same (h : Latched P ep tr s) (hl : s'.latch = s.latch)
    (hss : s'.remoteSsrc = s.remoteSsrc) (hm : isReset x = false)
    (hq : ∀ rtcp, heard rtcp x = none) : Latched P ep (tr ++ [x]) s' := by
  obtain ⟨hr, -, hat, hs⟩ := past_unmarked P ep tr hm
  refine ⟨?_, ?_, ?_, ?_, ?_, ?_⟩
  · rw [hl, h.networks]
  · rw [hl]
    exact h.mux
  · rw [hl, h.resetAt, hat]
  · grind [h.locked]
  · rw [hl, hs]
    exact h.origin
  · exact h.sending_cons (isApplied_of_not_isReset hm) (by rw [hl]) hss

theorem Latched.applied {now : Nat} {sdp : Text} (h : Latched P ep tr s)
    (ha : s.Applies P now (parseSdp P sdp) s') (hsd : appliedSdp x = some sdp)
    (hn : x.1.now = now) : Latched P ep (tr ++ [x]) s' := by
  have hap : isApplied x = true := by rw [isApplied, hsd]; rfl
  have hr : isReset x = true := by
    unfold isReset
    split
    · rfl
    · exact hap
  obtain ⟨addr, had⟩ := Option.isSome_iff_exists.mp ha.usable.addr
  have hl : lastSdpAddr P ep (tr ++ [x]) = some addr := by
    rw [lastSdpAddr, last_append, hap]
    show (appliedSdp x).bind _ = some addr
    rw [hsd]
    exact had
  refine ⟨?_, ?_, ?_, ?_, ?_, ?_⟩
  · rw [ha.latch]
    exact h.networks
  · grind [ha.latch, RtpLatch.resetAddrLock, RtpLatch.setRemote]
  · rw [ha.latch, lastResetAt, last_append, hr]
    exact hn.symm
  · rw [since_append, hr]
    exact fun y hy => absurd hy not_mem_nil
  · rw [ha.latch]
    intro remote hre
    have hsame : (parseSdp P sdp).remoteAddr = some remote := hre
    grind [RtpLatch.sourceMatches_self]
  rw [ha.remoteSsrc]
  intro hs
  cases hs

theorem Latched.reset {now : Nat} (h : Latched P ep tr s) (hr : isReset x = true)
    (ha : isApplied x = false) (hn : x.1.now = now) :
    Latched P ep (tr ++ [x]) (s.resetAddrLock now) := by
  refine ⟨h.networks, h.mux, ?_, ?_, ?_, h.sending_cons ha rfl rfl⟩
  · rw [lastResetAt, last_append, hr]
    exact hn.symm
  · rw [since_append, hr]
    exact fun y hy => absurd hy not_mem_nil
  · rw [(past_unapplied P ep tr ha).2]
    exact h.origin

variable {receivedAt : Nat} {ev : RtpEvent}

theorem Latched.source {source : SocketAddr} {rtcp : Bool} (h : Latched P ep tr s)
    (hg : rtcp = true → s.latch.rtcpMux = true)
    (ha : s.latch.sourceAllowed source receivedAt rtcp = true) :
    (∃ addr, lastSdpAddr P ep tr = some addr ∧ ep.latch.sourceMatches addr source = true) ∧
      (s.latch.addrLocked = true → s.latch.remoteRtpAddr = some source) ∧
      (s.latch.addrLocked = false → lastResetAt ep tr ≤ receivedAt) := by
  obtain ⟨expected, he, hc⟩ := RtpLatch.sourceAllowed_eq_true ha
  have hr : s.latch.remoteRtpAddr = some expected := by
    cases rtcp with
    | false => exact he
    | true => exact (h.mux (hg rfl)).trans he
  have hl : s.latch.locked rtcp = s.latch.addrLocked := by
    cases rtcp with
    | false => rfl
    | true => simp [RtpLatch.locked, hg rfl]
  have hat : s.latch.latchResetAt rtcp = lastResetAt ep tr := by
    rw [← h.resetAt]
    cases rtcp with
    | false => rfl
    | true => simp [RtpLatch.latchResetAt, hg rfl]
  grind [h.origin, RtpLatch.sourceMatches, h.networks]

theorem acceptRtp_latch {latch : RtpLatch} {source : SocketAddr}
    (hlo : latch.addrLocked = true → latch.remoteRtpAddr = some source) :
    (latch.acceptRtp source).remoteRtpAddr = some source ∧
      (latch.acceptRtp source).addrLocked = true ∧
      (latch.acceptRtp source).rtcpMux = latch.rtcpMux ∧
      (latch.acceptRtp source).sourceNetworks = latch.sourceNetworks ∧
      (latch.acceptRtp source).rtpLatchResetAt = latch.rtpLatchResetAt := by
  unfold RtpLatch.acceptRtp
  by_cases hl : latch.addrLocked = true
  · rw [if_pos hl]
    exact ⟨hlo hl, hl, rfl, rfl, rfl⟩
  · rw [if_neg hl]
    exact ⟨rfl, rfl, rfl, rfl, rfl⟩

theorem Latched.fixed {source : SocketAddr} (h : Latched P ep tr s) (hm : isReset x = false)
    (hh : heard true x = some (source, receivedAt))
    (hso : ∃ addr, lastSdpAddr P ep tr = some addr ∧ ep.latch.sourceMatches addr source = true)
    (hre : s'.latch.remoteRtpAddr = some source) (hl : s'.latch.addrLocked = true)
    (hmu : s'.latch.rtcpMux = true → s'.latch.remoteRtpAddr = s'.latch.remoteRtcpAddr)
    (hn : s'.latch.sourceNetworks = s.latch.sourceNetworks)
    (hat : s'.latch.rtpLatchResetAt = s.latch.rtpLatchResetAt)
    (hss : s'.remoteSsrc.isSome → s.remoteSsrc.isSome ∨ (heard false x).isSome) :
    Latched P ep (tr ++ [x]) s' := by
  obtain ⟨hrs, ha, hr, hsd⟩ := past_unmarked P ep tr hm
  refine ⟨hn.trans h.networks, hmu, ?_, fun _ _ _ => hl, ?_, ?_⟩
  · rw [hat, h.resetAt, hr]
  · grind
  intro hs
  rw [ha, hre]
  refine ⟨?_, source, rfl, x, mem_cons_self .., receivedAt, hh⟩
  rcases hss hs with hb | hrt
  · obtain ⟨⟨y, hy, hrt⟩, -⟩ := h.sending hb
    exact ⟨y, mem_cons_of_mem x hy, hrt⟩
  · exact ⟨x, mem_cons_self .., hrt⟩

theorem Latched.control {source : SocketAddr} (h : Latched P ep tr s) (hm : isReset x = false)
    (hh : heard false x = none) (hmu : s.latch.rtcpMux = false)
    (hl : s'.latch = s.latch.acceptRtcp source) (hss : s'.remoteSsrc = s.remoteSsrc) :
    Latched P ep (tr ++ [x]) s' := by
  obtain ⟨hr, -, hat, hsd⟩ := past_unmarked P ep tr hm
  have ha : s'.latch = { s.latch with remoteRtcpAddr := some source, rtcpAddrLocked := true } := by
    rw [hl]
    exact if_neg (by rw [hmu]; exact Bool.false_ne_true)
  refine ⟨?_, ?_, ?_, ?_, ?_, ?_⟩
  · rw [ha]
    exact h.networks
  · rw [ha]
    intro hmu'
    rw [show _ = true from hmu'] at hmu
    cases hmu
  · rw [ha, hat]
    exact h.resetAt
  · grind [h.locked]
  · rw [ha, hsd]
    exact h.origin
  · exact h.sending_cons (isApplied_of_not_isReset hm) (by rw [ha]) hss

/-! ## One call -/

theorem refused_unmarked (ev : RtpEvent) {out : RtpOutcome} {e : String}
    (h : out = .answered (.error e) ∨ out = .described (.error e)) :
    isReset (ev, out) = false ∧ ∀ rtcp, heard rtcp (ev, out) = none := by
  rcases h with rfl | rfl
  · cases hc : ev.call with
    | _ => simp [isReset, isApplied, appliedSdp, heard, hc]
  · cases hc : ev.call with
    | _ => simp [isReset, isApplied, appliedSdp, heard, hc]

theorem adjusted_unmarked (h : ev.call ≠ .resetAddrLock) :
    isReset (ev, .none) = false ∧ ∀ rtcp, heard rtcp (ev, .none) = none := by
  cases hc : ev.call with
  | resetAddrLock => exact absurd hc h
  | _ => simp [isReset, isApplied, appliedSdp, heard, hc]

theorem written_unmarked (ev : RtpEvent) (w : Written) :
    isReset (ev, .written w) = false ∧ ∀ rtcp, heard rtcp (ev, .written w) = none := by
  cases hc : ev.call with
  | _ => simp [isReset, isApplied, appliedSdp, heard, hc]

theorem heard_routed {data : Bytes} {source : SocketAddr}
    (hc : ev.call = .handleRtpAt data source receivedAt) (packet : RoutedRtpPacket) (rtcp : Bool) :
    heard rtcp (ev, .routed (some packet)) = some (source, receivedAt) := by
  simp [heard, hc]

theorem heard_control {data : Bytes} {source : SocketAddr}
    (hc : ev.call = .handleRtcpAt data source receivedAt) (bye : Option ByePacket)
    (plain : Bytes) (rtcp : Bool) :
    heard rtcp (ev, .control bye (some plain)) =
      if rtcp then some (source, receivedAt) else none := by
  simp [heard, hc]

theorem Stepped.latched {out : RtpOutcome} (hs : Stepped P s ev s' out) (h : Latched P ep tr s) :
    Latched P ep (tr ++ [(ev, out)]) s' := by
  cases hs with
  | refused out hou =>
    obtain ⟨hm, hq⟩ := refused_unmarked ev hou
    exact h.same rfl rfl hm hq
  | answered hc ha htx =>
    exact h.applied ha (by simp [appliedSdp, hc]) rfl
  | described hc ha htx hop hse =>
    exact h.applied ha (by simp [appliedSdp, hc]) rfl
  | switchover hc =>
    have hc' : ev.call ≠ .resetAddrLock := by rw [hc]; exact nofun
    obtain ⟨hm, hq⟩ := adjusted_unmarked hc'
    exact h.same rfl rfl hm hq
  | reset hc =>
    exact h.reset (by simp [isReset, hc]) (by simp [isApplied, appliedSdp]) rfl
  | @rtp data source receivedAt ep' packet hc hh =>
    have hm : isReset (ev, .routed packet) = false := by
      simp [isReset, isApplied, appliedSdp]
    cases hh with
    | rejected hso => exact h.same rfl rfl hm (by simp [heard])
    | ignored => exact h.same rfl rfl hm (by simp [heard])
    | dropped => exact h.same rfl rfl hm (by simp [heard])
    | accepted hal ho hha =>
      have hg : false = true → s.latch.rtcpMux = true := nofun
      obtain ⟨hso, hlo, -⟩ := h.source hg hal
      obtain ⟨hr, hlc, hmu, hn, hat⟩ := acceptRtp_latch hlo
      refine h.fixed hm (heard_routed hc _ true) hso hr hlc ?_ hn hat ?_
      · intro hmu'
        show (s.latch.acceptRtp source).remoteRtpAddr = (s.latch.acceptRtp source).remoteRtcpAddr
        grind [RtpLatch.acceptRtp, RtpLatch.latchRemoteAddr, h.mux, hmu.symm.trans hmu']
      · exact fun _ => Or.inr (by rw [heard_routed hc]; rfl)
  | @rtcp data source receivedAt ep' bye plain hc hh =>
    have hm : isReset (ev, .control bye plain) = false := by
      simp [isReset, isApplied, appliedSdp]
    cases hh with
    | rejected hso => exact h.same rfl rfl hm (by simp [heard])
    | dropped => exact h.same rfl rfl hm (by simp [heard])
    | accepted hal ho hv =>
      cases hmu : s.latch.rtcpMux with
      | false => exact h.control hm (heard_control hc _ _ false) hmu rfl rfl
      | true =>
        -- under rtcp-mux the packet fixes the tuple as an RTP packet would
        obtain ⟨hso, -, -⟩ := h.source (fun _ => hmu) hal
        refine h.fixed hm (heard_control hc _ _ true) hso ?_ ?_ ?_ ?_ ?_ Or.inl <;>
          simp [RtpEndpoint.acceptRtcp, RtpLatch.acceptRtcp, checkRekeySwitchover, hmu]
  | rekeyed hc hq =>
    exact h.same hq.latch hq.remoteSsrc (by simp [isReset, isApplied, appliedSdp, hc])
      (by simp [heard])
  | wrote hq =>
    obtain ⟨hm, hhe⟩ := written_unmarked ev _
    exact h.same hq.latch hq.remoteSsrc hm hhe
  | adjusted hc hq =>
    obtain ⟨hm, hhe⟩ := adjusted_unmarked hc.1
    exact h.same hq.latch hq.remoteSsrc hm hhe

end

variable {P : Primitives} {ep s : RtpEndpoint} {receivedAt : Nat} {ev : RtpEvent} {data : Bytes}

theorem Created.latched_exec (h : Created P ep) (events : List RtpEvent) :
    Latched P ep (trace (step P) ep events) (exec (step P) ep events) :=
  history_induction h.latched (fun _ s ev hs => (step_cases P s ev).latched hs) events

/-! ## The guarantees -/

/-- A packet from `source` that opens the RTP latch's next tuple: the first one since the
latest reset, received no earlier than that, from the address of the latest
description or from a configured network. -/
structure FirstHeard (P : Primitives) (ep : RtpEndpoint) (tr : Trace) (s : RtpEndpoint)
    (x : RtpEvent × RtpOutcome) (source : SocketAddr) (receivedAt : Nat) : Prop where
  accepted : heard s.latch.rtcpMux x = some (source, receivedAt)
  first : ∀ y ∈ since isReset tr, heard s.latch.rtcpMux y = none
  late : lastResetAt ep tr ≤ receivedAt
  origin : ∃ addr, lastSdpAddr P ep tr = some addr ∧ ep.latch.sourceMatches addr source = true

theorem Latched.firstHeard {tr : Trace} {x : RtpEvent × RtpOutcome} {source : SocketAddr}
    {rtcp : Bool} (h : Latched P ep tr s) (hg : rtcp = true → s.latch.rtcpMux = true)
    (hal : s.latch.sourceAllowed source receivedAt rtcp = true)
    (ha : heard s.latch.rtcpMux x = some (source, receivedAt))
    (ho : s.latch.addrLocked = false) : FirstHeard P ep tr s x source receivedAt := by
  obtain ⟨hor, -, hla⟩ := h.source hg hal
  refine ⟨ha, ?_, hla ho, hor⟩
  intro y hy
  by_contra hs
  have hl := h.locked y hy (Option.isSome_iff_ne_none.mpr hs)
  rw [ho] at hl
  cases hl

theorem Stepped.moved {s' : RtpEndpoint} {tr : Trace} {out : RtpOutcome}
    (hs : Stepped P s ev s' out) (h : Latched P ep tr s)
    (hm : s'.latch.remoteRtpAddr ≠ s.latch.remoteRtpAddr) :
    isApplied (ev, out) = true ∨ ∃ source receivedAt, s'.latch.remoteRtpAddr = some source ∧
        FirstHeard P ep tr s (ev, out) source receivedAt := by
  cases hs with
  | refused out hou => exact absurd rfl hm
  | answered hc hap htx => exact Or.inl (by simp [isApplied, appliedSdp, hc])
  | described hc hap htx hop hse =>
    exact Or.inl (by simp [isApplied, appliedSdp, hc])
  | switchover hc => exact absurd rfl hm
  | reset hc => exact absurd rfl hm
  | @rtp data source receivedAt ep' packet hc hh =>
    cases hh with
    | rejected hso => exact absurd rfl hm
    | ignored => exact absurd rfl hm
    | dropped => exact absurd rfl hm
    | accepted ha ho hha =>
      have hg : false = true → s.latch.rtcpMux = true := nofun
      obtain ⟨-, hl, -⟩ := h.source hg ha
      have hr := (acceptRtp_latch hl).1
      refine Or.inr ⟨source, receivedAt, hr, ?_⟩
      apply h.firstHeard hg ha (heard_routed hc _ _)
      by_contra hlo
      exact hm (hr.trans (hl (Bool.eq_true_of_not_eq_false hlo)).symm)
  | @rtcp data source receivedAt ep' bye plain hc hh =>
    cases hh with
    | rejected hso => exact absurd rfl hm
    | dropped => exact absurd rfl hm
    | accepted ha ho hv =>
      change (s.latch.acceptRtcp source).remoteRtpAddr ≠ _ at hm
      cases hmu : s.latch.rtcpMux with
      | false =>
        rw [RtpLatch.acceptRtcp] at hm
        exact absurd (by simp [hmu]) hm
      | true =>
        have hg : true = true → s.latch.rtcpMux = true := fun _ => hmu
        obtain ⟨-, hl, -⟩ := h.source hg ha
        have hr : (s.latch.acceptRtcp source).remoteRtpAddr = some source := by
          simp [RtpLatch.acceptRtcp, hmu]
        refine Or.inr ⟨source, receivedAt, hr, ?_⟩
        apply h.firstHeard hg ha
        · rw [hmu]
          exact heard_control hc _ _ true
        · by_contra hlo
          exact hm (hr.trans (hl (Bool.eq_true_of_not_eq_false hlo)).symm)
  | rekeyed hc hq => exact absurd (by rw [hq.latch]) hm
  | wrote hq => exact absurd (by rw [hq.latch]) hm
  | adjusted hc hq => exact absurd (by rw [hq.latch]) hm

theorem writeRtp_datagram {packet : RoutedRtpPacket} {sendResult : Except String Unit}
    {dest : SocketAddr} (h : (s.writeRtp P packet sendResult).2.datagram = some (dest, data)) :
    s.remoteSsrc.isSome ∧ s.latch.remoteRtpAddr = some dest := by
  unfold writeRtp at h
  split at h
  · cases h
  rename_i remote hr
  split at h
  · cases h
  rename_i hs
  refine ⟨by simpa [Option.isSome_iff_ne_none] using hs, ?_⟩
  dsimp only at h
  split at h
  · cases h
    exact hr
  split at h
  · cases h
  · cases h
    exact hr

/-- The guarantees at a state and its past: where the RTP address may come from, what a
locked latch ignores, that rtcp-mux has one address, and where packets are sent. -/
structure LatchSafe (P : Primitives) (ep : RtpEndpoint) (tr : Trace) (s : RtpEndpoint) : Prop where
  moved : ∀ ev, (s.step P ev).1.latch.remoteRtpAddr ≠ s.latch.remoteRtpAddr →
    isApplied (ev, (s.step P ev).2) = true ∨ ∃ source receivedAt,
      (s.step P ev).1.latch.remoteRtpAddr = some source ∧
        FirstHeard P ep tr s (ev, (s.step P ev).2) source receivedAt
  rtp : ∀ ev data source receivedAt, ev.call = .handleRtpAt data source receivedAt →
    s.latch.locked false = true → s.latch.expected false ≠ some source →
      s.step P ev = ((s.checkRekeySwitchover ev.now).recordSourceRejection, .routed none)
  rtcp : ∀ ev data source receivedAt, ev.call = .handleRtcpAt data source receivedAt →
    s.latch.locked true = true → s.latch.expected true ≠ some source →
      s.step P ev = ((s.checkRekeySwitchover ev.now).recordSourceRejection, .control none none)
  mux : s.latch.rtcpMux = true → s.latch.remoteRtpAddr = s.latch.remoteRtcpAddr
  written : ∀ packet sendResult dest data,
    (s.writeRtp P packet sendResult).2.datagram = some (dest, data) →
      (∃ x ∈ since isApplied tr, (heard false x).isSome) ∧
      ∃ x ∈ since isApplied tr, ∃ receivedAt, heard true x = some (dest, receivedAt)

/-- Every state that an endpoint reaches has the guarantees. -/
theorem symmetric_latch_safe (P : Primitives) {ep : RtpEndpoint} (hcreated : Created P ep)
    (events : List RtpEvent) :
    LatchSafe P ep (trace (step P) ep events) (exec (step P) ep events) := by
  have h := hcreated.latched_exec events
  refine ⟨?_, ?_, ?_, h.mux, ?_⟩
  · intro ev hmoved
    exact (step_cases P _ ev).moved h hmoved
  · intro ev data source receivedAt hcall hlocked hother
    simp only [step, hcall, handleRtpAt]
    rw [if_pos]
    exact RtpLatch.sourceAllowed_locked hlocked hother receivedAt
  · intro ev data source receivedAt hcall hlocked hother
    simp only [step, hcall, handleRtcpAt]
    rw [if_pos]
    exact RtpLatch.sourceAllowed_locked hlocked hother receivedAt
  intro packet sendResult dest data hwritten
  obtain ⟨hsome, hremote⟩ := writeRtp_datagram hwritten
  obtain ⟨hrtp, remote, hremote', hsource⟩ := h.sending hsome
  rw [hremote] at hremote'
  cases hremote'
  exact ⟨hrtp, hsource⟩

/-! ## A concrete endpoint -/

def samplePlain : RtpEndpoint := (sampleOffering .plainRtp).withSourceNetworks []

def samplePlainAnswer : RtpEvent := ⟨1, 0, .acceptAnswer samplePlainSdp (Vector.replicate 30 2)⟩

def sampleRtp : RtpEvent :=
  ⟨2, 0, .handleRtpAt [128, 0, 0, 1, 0, 0, 0, 160, 17, 34, 51, 68, 255] (.v4 0xC000020A 5000) 2⟩

def sampleReport : RtpEvent :=
  ⟨2, 0, .handleRtcpAt [128, 201, 0, 1, 17, 34, 51, 68] (.v4 0xC000020A 5001) 2⟩

def sampleRouted : RoutedRtpPacket :=
  { sourceEndpointId := 2, payloadType := 0, sequenceNumber := 1, timestamp := 160, ssrc := 9,
    marker := false, payload := [255] }

theorem samplePlain_safe :
    ((exec (step .reference) samplePlain [samplePlainAnswer, sampleRtp]).writeRtp
      .reference sampleRouted (.ok ())).2.datagram.map Prod.fst = some (.v4 0xC000020A 5000) ∧
    LatchSafe .reference samplePlain
      (trace (step .reference) samplePlain [samplePlainAnswer, sampleRtp])
      (exec (step .reference) samplePlain [samplePlainAnswer, sampleRtp]) :=
  ⟨by decide +kernel, symmetric_latch_safe .reference (sampleOffering_created .plainRtp) _⟩

/-- RTCP on its own port: while the RTP latch is locked a report from another port is
accepted, and the RTP packet after a report is the second packet since the reset and
still moves the address. -/
theorem samplePlain_separate :
    ((exec (step .reference) samplePlain [samplePlainAnswer, sampleRtp]).latch.addrLocked = true ∧
      (exec (step .reference) samplePlain
        [samplePlainAnswer, sampleRtp]).latch.remoteRtpAddr = some (.v4 0xC000020A 5000) ∧
      (exec (step .reference) samplePlain
        [samplePlainAnswer, sampleRtp]).latch.remoteRtcpAddr = some (.v4 0xC000020A 4001) ∧
      (exec (step .reference) samplePlain
        [samplePlainAnswer, sampleRtp, sampleReport]).latch.remoteRtcpAddr =
          some (.v4 0xC000020A 5001)) ∧
    ((trace (step .reference) samplePlain
        [samplePlainAnswer, sampleReport]).map (heard true) =
          [none, some (.v4 0xC000020A 5001, 2)] ∧
      (exec (step .reference) samplePlain
        [samplePlainAnswer, sampleReport]).latch.remoteRtpAddr = some (.v4 0xC000020A 4000) ∧
      (exec (step .reference) samplePlain
        [samplePlainAnswer, sampleReport, sampleRtp]).latch.remoteRtpAddr =
          some (.v4 0xC000020A 5000)) := by
  decide +kernel

end RtpEndpoint
end RtpBridge.Session
