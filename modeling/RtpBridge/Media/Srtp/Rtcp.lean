/-
The SRTCP context.

The 31-bit index on the wire is one counter for all SSRCs, while the replay
windows of the receiver and the lifetime counts of both sides are per SSRC.
-/
import RtpBridge.Base.HashMap
import RtpBridge.Media.Srtp.Stream

namespace RtpBridge.Srtp

open Wire

def rtcpSsrc (packet : Bytes) : UInt32 := u32At packet 4

structure SrtcpRecvState where
  highestRecvIndex : UInt32 := 0
  recvIndexInitialized : Bool := false
  replayWindow : BitVec 64 := 0
  acceptedPackets : Nat := 0
deriving DecidableEq

namespace SrtcpRecvState

def checkReplay (st : SrtcpRecvState) (index : UInt32) : SrtcpRecvState × Except String Unit :=
  if st.recvIndexInitialized = false then
    ({ st with highestRecvIndex := index, recvIndexInitialized := true, replayWindow := 1 }, .ok ())
  else
    match slideWindow st.highestRecvIndex.toNat index.toNat st.replayWindow
        (fun delta => s!"SRTCP replay: packet too old (index={index.toNat}, delta={delta})")
        (fun _ => s!"SRTCP replay: duplicate packet (index={index.toNat})") with
    | .error e => (st, .error e)
    | .ok (window, true) =>
      ({ st with replayWindow := window, highestRecvIndex := index }, .ok ())
    | .ok (window, false) => ({ st with replayWindow := window }, .ok ())

def window (st : SrtcpRecvState) : Window 64 :=
  { highest := st.highestRecvIndex.toNat, bits := st.replayWindow }

def window? (st : SrtcpRecvState) : Option (Window 64) :=
  if st.recvIndexInitialized then some st.window else none

theorem window?_eq_some {st : SrtcpRecvState} (h : st.recvIndexInitialized = true) :
    st.window? = some st.window := by
  rw [window?, if_pos h]

theorem checkReplay_spec (st : SrtcpRecvState) (index : UInt32) :
    (∃ st', st.checkReplay index = (st', .ok ()) ∧ st'.recvIndexInitialized = true ∧
        Window.receive st.window? index.toNat = some st'.window ∧
        st'.acceptedPackets = st.acceptedPackets) ∨
      ∃ e, st.checkReplay index = (st, .error e) ∧
        Window.receive st.window? index.toNat = none := by
  cases hi : st.recvIndexInitialized with
  | false =>
    left
    refine ⟨(st.checkReplay index).1, ?_, ?_, ?_, ?_⟩
    · simp [checkReplay, hi]
    · simp [checkReplay, hi]
    · simp [checkReplay, hi, window?, window, Window.receive, Window.first]
    · simp [checkReplay, hi]
  | true =>
    rw [window?_eq_some hi]
    simp only [checkReplay, hi]
    rcases slideWindow_spec st.highestRecvIndex.toNat index.toNat st.replayWindow
        (fun delta => s!"SRTCP replay: packet too old (index={index.toNat}, delta={delta})")
        (fun _ => s!"SRTCP replay: duplicate packet (index={index.toNat})")
      with ⟨bits, advanced, hs, ha⟩ | ⟨e, hs, ha⟩
    · left
      rw [hs]
      cases advanced with
      | true => exact ⟨_, rfl, rfl, ha, rfl⟩
      | false => exact ⟨_, rfl, rfl, ha, rfl⟩
    right
    rw [hs]
    exact ⟨e, rfl, ha⟩

end SrtcpRecvState

/-- The wire index counts the packets the context protected, and the context stops
before it would wrap into an index it used. -/
structure SrtcpContext where
  cipherKey : Vector UInt8 16
  cipherSalt : Vector UInt8 14
  authKey : Vector UInt8 20
  srtcpIndex : UInt32
  recvStreams : HashMap UInt32 SrtcpRecvState
  sendStreams : HashMap UInt32 Nat
  protectedPacketsTotal : Nat
  packetLifetime : Nat
  index_eq : srtcpIndex.toNat = protectedPacketsTotal % 2 ^ 31

variable {a b : SrtcpContext}

namespace SrtcpContext

theorem index_zero : (0 : UInt32).toNat = 0 % 2 ^ 31 := rfl

def ofKeyMaterial (P : Primitives) (keyMaterial : Bytes) (packetLifetime : Nat) : SrtcpContext :=
  let masterKey := keyMaterial.take 16
  let masterSalt := keyMaterial.drop 16
  { cipherKey := srtpKdf P masterKey masterSalt 0x03 16,
    authKey := srtpKdf P masterKey masterSalt 0x04 20,
    cipherSalt := srtpKdf P masterKey masterSalt 0x05 14,
    srtcpIndex := 0,
    recvStreams := ∅,
    sendStreams := ∅,
    protectedPacketsTotal := 0,
    packetLifetime := min packetLifetime maxSrtcpPacketsPerMasterKey,
    index_eq := index_zero }

def fromSdesKeyWithLifetime (P : Primitives) (keyB64 : Text) (packetLifetime : Nat) :
    Except String SrtcpContext :=
  if packetLifetime = 0 ∨ maxSrtpPacketsPerMasterKey < packetLifetime then
    .error s!"SRTCP master key lifetime must be between 1 and {maxSrtpPacketsPerMasterKey} packets"
  else
    match base64Decode P keyB64 with
    | .error e => .error e
    | .ok keyMaterial =>
      if keyMaterial.length ≠ srtpMasterKeyLen + srtpMasterSaltLen then
        .error s!"SRTCP key material has invalid length: {keyMaterial.length} bytes"
      else .ok (ofKeyMaterial P keyMaterial packetLifetime)

theorem fromSdesKeyWithLifetime_eq_ok {P : Primitives} {key : Text} {life : Nat}
    {ctx : SrtcpContext} :
    fromSdesKeyWithLifetime P key life = .ok ctx ↔ (life ≠ 0 ∧ life ≤ maxSrtpPacketsPerMasterKey) ∧
        ∃ material, base64Decode P key = .ok material ∧ material.length = 30 ∧
          ctx = ofKeyMaterial P material life :=
  keyed_eq_ok

def fromSdesKey (P : Primitives) (keyB64 : Text) : Except String SrtcpContext :=
  fromSdesKeyWithLifetime P keyB64 maxSrtcpPacketsPerMasterKey

def tightenPacketLifetime (ctx : SrtcpContext) (packetLifetime : Nat) : SrtcpContext :=
  { ctx with packetLifetime := min packetLifetime maxSrtcpPacketsPerMasterKey }

/-- `recv_streams.entry(ssrc).or_default()`. -/
def recvState (ctx : SrtcpContext) (ssrc : UInt32) : SrtcpRecvState :=
  (ctx.recvStreams.lookup ssrc).getD {}

def setRecvState (ctx : SrtcpContext) (ssrc : UInt32) (st : SrtcpRecvState) : SrtcpContext :=
  { ctx with recvStreams := ctx.recvStreams.insert ssrc st }

/-- `send_streams.entry(ssrc).or_default()`. -/
def sendCount (ctx : SrtcpContext) (ssrc : UInt32) : Nat := (ctx.sendStreams.lookup ssrc).getD 0

def setSendCount (ctx : SrtcpContext) (ssrc : UInt32) (count : Nat) : SrtcpContext :=
  { ctx with sendStreams := ctx.sendStreams.insert ssrc count }

theorem nextIndex_eq {index : UInt32} {total : Nat} (h : index.toNat = total % 2 ^ 31) :
    ((index + 1) &&& 0x7FFFFFFF).toNat = (total + 1) % 2 ^ 31 := by
  have hm : (0x7FFFFFFF : UInt32).toNat = 2 ^ 31 - 1 := rfl
  rw [UInt32.toNat_and, hm, Nat.and_two_pow_sub_one_eq_mod, UInt32.toNat_add]
  simp only [UInt32.reduceToNat]
  omega

def advance (ctx : SrtcpContext) : SrtcpContext :=
  { ctx with srtcpIndex := (ctx.srtcpIndex + 1) &&& 0x7FFFFFFF,
             protectedPacketsTotal := ctx.protectedPacketsTotal + 1,
             index_eq := nextIndex_eq ctx.index_eq }

variable (P : Primitives)

def cryptRtcp (ctx : SrtcpContext) (ssrc index : UInt32) (packet : Bytes) : Bytes :=
  if 8 < packet.length then
    packet.take 8 ++
      aes128Ctr P ctx.cipherKey.toList (computeSrtcpIv ctx.cipherSalt ssrc index) (packet.drop 8)
  else packet

def rtcpTag (ctx : SrtcpContext) (portion : Bytes) : Bytes :=
  authTag P ctx.authKey.toList portion

def sealRtcp (ctx : SrtcpContext) (index : UInt32) (packet : Bytes) : Bytes :=
  let output :=
    ctx.cryptRtcp P (rtcpSsrc packet) index packet ++ beBytes 4 (0x80000000 ||| index).toNat
  output ++ ctx.rtcpTag P output

def protectRtcp (ctx : SrtcpContext) (rtcpPacket : Bytes) : SrtcpContext × Except String Bytes :=
  if rtcpPacket.length < 8 then (ctx, .error "RTCP packet too short")
  else if maxSrtcpPacketsPerMasterKey ≤ ctx.protectedPacketsTotal then
    (ctx, .error "SRTCP global packet index exhausted; rekey required")
  else
    let ssrc := rtcpSsrc rtcpPacket
    if ssrc ∉ ctx.sendStreams ∧ maxSendSsrcs ≤ HashMap.size ctx.sendStreams then
      let count := HashMap.size ctx.sendStreams
      (ctx, .error
        s!"SRTCP: too many distinct outbound SSRCs for one master key ({count}), rekey required")
    else
      let protectedPackets := ctx.sendCount ssrc
      if ctx.packetLifetime ≤ protectedPackets then
        (ctx.setSendCount ssrc protectedPackets, .error "SRTCP master key lifetime exhausted")
      else
        ((ctx.setSendCount ssrc (protectedPackets + 1)).advance,
          .ok (ctx.sealRtcp P ctx.srtcpIndex rtcpPacket))

def unprotectRtcp (ctx : SrtcpContext) (srtcpPacket : Bytes) : SrtcpContext × Except String Bytes :=
  if srtcpPacket.length < 22 then (ctx, .error "SRTCP packet too short")
  else
    let authStart := srtcpPacket.length - srtpAuthTagLen
    let indexStart := authStart - 4
    if ctx.rtcpTag P (srtcpPacket.take authStart) ≠ srtcpPacket.drop authStart then
      (ctx, .error "SRTCP auth tag mismatch")
    else
      let eAndIndex := u32At srtcpPacket indexStart
      let encrypted := eAndIndex &&& 0x80000000 ≠ 0
      let recvIndex := eAndIndex &&& 0x7FFFFFFF
      let ssrc := rtcpSsrc srtcpPacket
      if ssrc ∉ ctx.recvStreams ∧ maxRecvSsrcs ≤ HashMap.size ctx.recvStreams then
        let count := HashMap.size ctx.recvStreams
        let ssrcHex := hexText ssrc.toNat
        (ctx, .error s!"SRTCP: too many distinct SSRCs ({count}), rejecting {ssrcHex}")
      else
        let st := ctx.recvState ssrc
        if ctx.packetLifetime ≤ st.acceptedPackets then
          (ctx.setRecvState ssrc st, .error "SRTCP master key lifetime exhausted")
        else
          match st.checkReplay recvIndex with
          | (st, .error e) => (ctx.setRecvState ssrc st, .error e)
          | (st, .ok ()) =>
            let output := srtcpPacket.take indexStart
            let output := if encrypted then ctx.cryptRtcp P ssrc recvIndex output else output
            (ctx.setRecvState ssrc { st with acceptedPackets := st.acceptedPackets + 1 },
              .ok output)

/-! ## What the two calls can do -/

@[simp] theorem recvState_setRecvState_self (ctx : SrtcpContext) (ssrc : UInt32)
    (st : SrtcpRecvState) : (ctx.setRecvState ssrc st).recvState ssrc = st := by
  simp [recvState, setRecvState]

theorem recvState_setRecvState_ne (ctx : SrtcpContext) {ssrc s : UInt32} (st : SrtcpRecvState)
    (h : s ≠ ssrc) : (ctx.setRecvState ssrc st).recvState s = ctx.recvState s := by
  simp [recvState, setRecvState, AList.lookup_insert_ne h]

def SameKeys (a b : SrtcpContext) : Prop :=
  a.cipherKey = b.cipherKey ∧ a.cipherSalt = b.cipherSalt ∧ a.authKey = b.authKey

theorem SameKeys.trans {c : SrtcpContext} (hab : a.SameKeys b) (hbc : b.SameKeys c) :
    a.SameKeys c :=
  ⟨hab.1.trans hbc.1, hab.2.1.trans hbc.2.1, hab.2.2.trans hbc.2.2⟩

theorem SameKeys.sealRtcp (h : a.SameKeys b) (index : UInt32) (packet : Bytes) :
    a.sealRtcp P index packet = b.sealRtcp P index packet := by
  obtain ⟨hk, hs, ha⟩ := h
  simp only [SrtcpContext.sealRtcp, cryptRtcp, rtcpTag, hk, hs, ha]

theorem protectRtcp_cases (ctx : SrtcpContext) (packet : Bytes) :
    (8 ≤ packet.length ∧ ctx.protectedPacketsTotal < maxSrtcpPacketsPerMasterKey ∧
      ctx.protectRtcp P packet =
        ((ctx.setSendCount (rtcpSsrc packet) (ctx.sendCount (rtcpSsrc packet) + 1)).advance,
          .ok (ctx.sealRtcp P ctx.srtcpIndex packet))) ∨
    ((∃ e, (ctx.protectRtcp P packet).2 = .error e) ∧
      (ctx.protectRtcp P packet).1.srtcpIndex = ctx.srtcpIndex ∧
      (ctx.protectRtcp P packet).1.protectedPacketsTotal = ctx.protectedPacketsTotal ∧
      (ctx.protectRtcp P packet).1.SameKeys ctx) := by
  unfold protectRtcp
  by_cases hs : packet.length < 8
  · right
    rw [if_pos hs]
    exact ⟨⟨_, rfl⟩, rfl, rfl, rfl, rfl, rfl⟩
  rw [if_neg hs]
  by_cases ho : maxSrtcpPacketsPerMasterKey ≤ ctx.protectedPacketsTotal
  · right
    rw [if_pos ho]
    exact ⟨⟨_, rfl⟩, rfl, rfl, rfl, rfl, rfl⟩
  rw [if_neg ho]
  by_cases hf : rtcpSsrc packet ∉ ctx.sendStreams ∧
      maxSendSsrcs ≤ HashMap.size ctx.sendStreams
  · right
    rw [if_pos hf]
    exact ⟨⟨_, rfl⟩, rfl, rfl, rfl, rfl, rfl⟩
  rw [if_neg hf]
  by_cases hl : ctx.packetLifetime ≤ ctx.sendCount (rtcpSsrc packet)
  · right
    rw [if_pos hl]
    exact ⟨⟨_, rfl⟩, rfl, rfl, rfl, rfl, rfl⟩
  grind

def wireIndex (datagram : Bytes) : UInt32 :=
  u32At datagram (datagram.length - srtpAuthTagLen - 4) &&& 0x7FFFFFFF

def Verifies (ctx : SrtcpContext) (datagram : Bytes) : Prop :=
  22 ≤ datagram.length ∧
    ctx.rtcpTag P (datagram.take (datagram.length - srtpAuthTagLen)) =
      datagram.drop (datagram.length - srtpAuthTagLen)

def CanReceive (ctx : SrtcpContext) (ssrc : UInt32) : Prop :=
  (ssrc ∈ ctx.recvStreams ∨ HashMap.size ctx.recvStreams < maxRecvSsrcs) ∧
    (ctx.recvState ssrc).acceptedPackets < ctx.packetLifetime

def openRtcp (ctx : SrtcpContext) (datagram : Bytes) : Bytes :=
  let indexStart := datagram.length - srtpAuthTagLen - 4
  if u32At datagram indexStart &&& 0x80000000 ≠ 0 then
    ctx.cryptRtcp P (rtcpSsrc datagram) (wireIndex datagram) (datagram.take indexStart)
  else datagram.take indexStart

/-- What `unprotect_rtcp` can do: it changes nothing, only makes an entry for the SSRC, or opens
the packet. -/
inductive UnprotectedRtcp (ctx : SrtcpContext) (datagram : Bytes) :
    SrtcpContext × Except String Bytes → Prop where
  | refused {e : String} (hn : ¬ (ctx.Verifies P datagram ∧ ctx.CanReceive (rtcpSsrc datagram))) :
      UnprotectedRtcp ctx datagram (ctx, .error e)
  | spent {e : String}
      (hs : ctx.packetLifetime ≤ (ctx.recvState (rtcpSsrc datagram)).acceptedPackets ∨
        ∃ e, (ctx.recvState (rtcpSsrc datagram)).checkReplay (wireIndex datagram) =
          (ctx.recvState (rtcpSsrc datagram), .error e)) :
      UnprotectedRtcp ctx datagram
        (ctx.setRecvState (rtcpSsrc datagram) (ctx.recvState (rtcpSsrc datagram)), .error e)
  | opened {st : SrtcpRecvState} (hv : ctx.Verifies P datagram)
      (hc : (ctx.recvState (rtcpSsrc datagram)).checkReplay (wireIndex datagram) = (st, .ok ())) :
      UnprotectedRtcp ctx datagram (ctx.setRecvState (rtcpSsrc datagram)
          { st with acceptedPackets := st.acceptedPackets + 1 }, .ok (ctx.openRtcp P datagram))

theorem unprotectedRtcp (ctx : SrtcpContext) (datagram : Bytes) :
    UnprotectedRtcp P ctx datagram (ctx.unprotectRtcp P datagram) := by
  unfold unprotectRtcp
  split
  · rename_i hs
    exact .refused fun h => Nat.not_le.mpr hs h.1.1
  rename_i hs
  dsimp only
  split
  · rename_i ht
    exact .refused fun h => ht h.1.2
  rename_i ht
  split
  · rename_i hf
    exact .refused fun h => h.2.1.elim hf.1 (Nat.not_lt.mpr hf.2)
  split
  · rename_i hl
    exact .spent (.inl hl)
  rcases (ctx.recvState (rtcpSsrc datagram)).checkReplay_spec (wireIndex datagram) with
    ⟨st, hc, -⟩ | ⟨e, hc, -⟩
  · have ho := UnprotectedRtcp.opened (P := P) ⟨Nat.not_lt.mp hs, not_not.mp ht⟩ hc
    unfold wireIndex at hc
    rw [hc]
    exact ho
  · have ho := UnprotectedRtcp.spent (P := P) (e := e) (.inr ⟨e, hc⟩)
    unfold wireIndex at hc
    rw [hc]
    exact ho

theorem unprotectRtcp_kept (ctx : SrtcpContext) (datagram : Bytes) :
    (ctx.unprotectRtcp P datagram).1.SameKeys ctx ∧
      (ctx.unprotectRtcp P datagram).1.packetLifetime = ctx.packetLifetime := by
  have hu := ctx.unprotectedRtcp P datagram
  generalize ctx.unprotectRtcp P datagram = result at hu
  cases hu <;> exact ⟨⟨rfl, rfl, rfl⟩, rfl⟩

def Holds (ctx : SrtcpContext) (material : Bytes) : Prop :=
  ctx.SameKeys (ofKeyMaterial P material ctx.packetLifetime)

theorem SameKeys.holds {P : Primitives} (h : a.SameKeys b) {material : Bytes}
    (hb : b.Holds P material) : a.Holds P material :=
  h.trans hb

theorem verifies_of_unprotectRtcp {ctx : SrtcpContext} {datagram plain : Bytes}
    (h : (ctx.unprotectRtcp P datagram).2 = .ok plain) : ctx.Verifies P datagram := by
  have hu := ctx.unprotectedRtcp P datagram
  generalize ctx.unprotectRtcp P datagram = result at h hu
  cases hu with
  | opened hv => exact hv
  | _ => cases h

end SrtcpContext
end RtpBridge.Srtp
