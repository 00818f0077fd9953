/-
The SRTP context: `protect` on the sending side and `unprotect` on the receiving
one, over a table of per-SSRC streams.

A failed call may still have touched its stream, so both functions return the
context together with the result.  `sealRtp` and `openRtp` are the two byte
transformations without the bookkeeping; they are inverse for one key, SSRC and
rollover counter.
-/
import RtpBridge.Base.HashMap
import RtpBridge.Media.Srtp.Stream

namespace RtpBridge.Srtp

open Wire
open List hiding Vector

variable {n : Nat} {datagram packet : Bytes}

def rtpSeq (packet : Bytes) : UInt16 := u16At packet 2
def rtpSsrc (packet : Bytes) : UInt32 := u32At packet 8

structure SrtpContext where
  cipherKey : Vector UInt8 16
  cipherSalt : Vector UInt8 14
  authKey : Vector UInt8 20
  streams : HashMap UInt32 SrtpStreamState
  packetLifetime : Nat
deriving DecidableEq

variable {ctx : SrtpContext}

namespace SrtpContext

def ofKeyMaterial (P : Primitives) (keyMaterial : Bytes) (packetLifetime : Nat) : SrtpContext :=
  let masterKey := keyMaterial.take 16
  let masterSalt := keyMaterial.drop 16
  { cipherKey := srtpKdf P masterKey masterSalt 0x00 16,
    authKey := srtpKdf P masterKey masterSalt 0x01 20,
    cipherSalt := srtpKdf P masterKey masterSalt 0x02 14,
    streams := ∅,
    packetLifetime := packetLifetime }

def fromSdesKeyWithLifetime (P : Primitives) (keyB64 : Text) (packetLifetime : Nat) :
    Except String SrtpContext :=
  if packetLifetime = 0 ∨ maxSrtpPacketsPerMasterKey < packetLifetime then
    .error s!"SRTP master key lifetime must be between 1 and {maxSrtpPacketsPerMasterKey} packets"
  else
    match base64Decode P keyB64 with
    | .error e => .error e
    | .ok keyMaterial =>
      if keyMaterial.length ≠ srtpMasterKeyLen + srtpMasterSaltLen then
        let what := if keyMaterial.length < 30 then "too short" else "too long"
        let need := srtpMasterKeyLen + srtpMasterSaltLen
        .error s!"SRTP key material {what}: {keyMaterial.length} bytes (need {need})"
      else .ok (ofKeyMaterial P keyMaterial packetLifetime)

theorem fromSdesKeyWithLifetime_eq_ok {P : Primitives} {key : Text} {life : Nat} :
    fromSdesKeyWithLifetime P key life = .ok ctx ↔ (life ≠ 0 ∧ life ≤ maxSrtpPacketsPerMasterKey) ∧
        ∃ material, base64Decode P key = .ok material ∧ material.length = 30 ∧
          ctx = ofKeyMaterial P material life :=
  keyed_eq_ok

def fromSdesKey (P : Primitives) (keyB64 : Text) : Except String SrtpContext :=
  fromSdesKeyWithLifetime P keyB64 maxSrtpPacketsPerMasterKey

def tightenPacketLifetime (ctx : SrtpContext) (packetLifetime : Nat) : SrtpContext :=
  { ctx with packetLifetime := packetLifetime }

/-- `streams.entry(ssrc).or_default()`. -/
def stream (ctx : SrtpContext) (ssrc : UInt32) : SrtpStreamState :=
  (ctx.streams.lookup ssrc).getD {}

def setStream (ctx : SrtpContext) (ssrc : UInt32) (st : SrtpStreamState) : SrtpContext :=
  { ctx with streams := ctx.streams.insert ssrc st }

def sampleContext : SrtpContext :=
  { cipherKey := #v[0xC6, 0x1E, 0x7A, 0x93, 0x74, 0x4F, 0x39, 0xEE, 0x10, 0x73, 0x4A, 0xFE,
      0x3F, 0xF7, 0xA0, 0x87],
    cipherSalt := #v[0x30, 0xCB, 0xBC, 0x08, 0x86, 0x3D, 0x8C, 0x85, 0xD4, 0x9D, 0xB3, 0x4A,
      0x9A, 0xE1],
    authKey := #v[0xCE, 0xBE, 0x32, 0x1F, 0x6F, 0xF7, 0x71, 0x6B, 0x6F, 0xD4, 0xAB, 0x49,
      0xAF, 0x25, 0x6A, 0x15, 0x6D, 0x38, 0xBA, 0xA4],
    streams := ∅,
    packetLifetime := 2 ^ 48 }

theorem sampleContext_eq :
    fromSdesKeyWithLifetime .reference sampleKey (2 ^ 48) = .ok sampleContext := by
  rfl

variable (P : Primitives)

def cryptPayload (ctx : SrtpContext) (ssrc : UInt32) (index : UInt64) (headerLen : Nat)
    (packet : Bytes) : Bytes :=
  packet.take headerLen ++
    aes128Ctr P ctx.cipherKey.toList (computeIv ctx.cipherSalt ssrc index) (packet.drop headerLen)

def rtpTag (ctx : SrtpContext) (packet : Bytes) (roc : UInt32) : Bytes :=
  authTag P ctx.authKey.toList (packet ++ beBytes 4 roc.toNat)

def sealRtp (ctx : SrtpContext) (roc : UInt32) (headerLen : Nat) (packet : Bytes) : Bytes :=
  let output :=
    ctx.cryptPayload P (rtpSsrc packet) (packetIndex roc (rtpSeq packet)) headerLen packet
  output ++ ctx.rtpTag P output roc

def protect (ctx : SrtpContext) (rtpPacket : Bytes) : SrtpContext × Except String Bytes :=
  if rtpPacket.length < 12 then (ctx, .error "RTP packet too short")
  else
    let ssrc := rtpSsrc rtpPacket
    let seq := rtpSeq rtpPacket
    if ssrc ∉ ctx.streams ∧ maxSendSsrcs ≤ HashMap.size ctx.streams then
      let count := HashMap.size ctx.streams
      (ctx, .error
        s!"SRTP: too many distinct outbound SSRCs for one master key ({count}), rekey required")
    else
      let st := ctx.stream ssrc
      if ctx.packetLifetime ≤ st.protectedPackets then
        (ctx.setStream ssrc st, .error "SRTP master key lifetime exhausted")
      else
        let st := st.updateRoc seq
        match rtpHeaderLen rtpPacket with
        | none => (ctx.setStream ssrc st, .error "RTP packet too short for header")
        | some headerLen =>
          (ctx.setStream ssrc { st with protectedPackets := st.protectedPackets + 1 },
            .ok (ctx.sealRtp P st.roc headerLen rtpPacket))

def unprotect (ctx : SrtpContext) (srtpPacket : Bytes) : SrtpContext × Except String Bytes :=
  if srtpPacket.length < 12 + srtpAuthTagLen then (ctx, .error "SRTP packet too short")
  else
    let authPortion := srtpPacket.take (srtpPacket.length - srtpAuthTagLen)
    let receivedTag := srtpPacket.drop (srtpPacket.length - srtpAuthTagLen)
    let seq := rtpSeq srtpPacket
    let ssrc := rtpSsrc srtpPacket
    let estimatedRoc :=
      match ctx.streams.lookup ssrc with
      | some st => (st.estimateRoc seq).1
      | none => 0
    if ctx.rtpTag P authPortion estimatedRoc ≠ receivedTag then
      let ssrcHex := hexText ssrc.toNat
      (ctx, .error s!"SRTP auth tag mismatch (ssrc={ssrcHex}, seq={seq.toNat})")
    else if ssrc ∉ ctx.streams ∧ maxRecvSsrcs ≤ HashMap.size ctx.streams then
      let count := HashMap.size ctx.streams
      let ssrcHex := hexText ssrc.toNat
      (ctx, .error s!"SRTP: too many distinct SSRCs ({count}), rejecting {ssrcHex}")
    else
      let st := ctx.stream ssrc
      if ctx.packetLifetime ≤ st.acceptedPackets then
        (ctx.setStream ssrc st, .error "SRTP master key lifetime exhausted")
      else
        match st.checkReplay seq with
        | (st, .error e) => (ctx.setStream ssrc st, .error e)
        | (st, .ok (_, index)) =>
          match rtpHeaderLen authPortion with
          | none => (ctx.setStream ssrc st, .error "SRTP packet too short for header")
          | some headerLen =>
            (ctx.setStream ssrc { st with acceptedPackets := st.acceptedPackets + 1 },
              .ok (ctx.cryptPayload P ssrc index headerLen authPortion))

/-! ## What the two calls can do -/

@[simp] theorem stream_setStream_self (ctx : SrtpContext) (ssrc : UInt32) (st : SrtpStreamState) :
    (ctx.setStream ssrc st).stream ssrc = st := by
  simp [stream, setStream]

theorem stream_setStream_ne (ctx : SrtpContext) {ssrc s : UInt32} (st : SrtpStreamState)
    (h : s ≠ ssrc) : (ctx.setStream ssrc st).stream s = ctx.stream s := by
  simp [stream, setStream, AList.lookup_insert_ne h]

theorem stream_setStream_stream (ctx : SrtpContext) (ssrc s : UInt32) :
    (ctx.setStream ssrc (ctx.stream ssrc)).stream s = ctx.stream s := by
  grind [stream_setStream_self, stream_setStream_ne]

def SameKeys (a b : SrtpContext) : Prop :=
  a.cipherKey = b.cipherKey ∧ a.cipherSalt = b.cipherSalt ∧ a.authKey = b.authKey

instance (a b : SrtpContext) : Decidable (a.SameKeys b) :=
  inferInstanceAs (Decidable (_ ∧ _ ∧ _))

theorem SameKeys.trans {a b c : SrtpContext} (hab : a.SameKeys b) (hbc : b.SameKeys c) :
    a.SameKeys c :=
  ⟨hab.1.trans hbc.1, hab.2.1.trans hbc.2.1, hab.2.2.trans hbc.2.2⟩

theorem SameKeys.sealRtp {a b : SrtpContext} (h : a.SameKeys b) (roc : UInt32) (n : Nat)
    (packet : Bytes) : a.sealRtp P roc n packet = b.sealRtp P roc n packet := by
  obtain ⟨hk, hs, ha⟩ := h
  simp only [SrtpContext.sealRtp, cryptPayload, rtpTag, hk, hs, ha]

theorem setStream_sameKeys (ctx : SrtpContext) (ssrc : UInt32) (st : SrtpStreamState) :
    (ctx.setStream ssrc st).SameKeys ctx :=
  ⟨rfl, rfl, rfl⟩

def CanSend (ctx : SrtpContext) (ssrc : UInt32) : Prop :=
  (ssrc ∈ ctx.streams ∨ HashMap.size ctx.streams < maxSendSsrcs) ∧
    (ctx.stream ssrc).protectedPackets < ctx.packetLifetime

def CanReceive (ctx : SrtpContext) (ssrc : UInt32) : Prop :=
  (ssrc ∈ ctx.streams ∨ HashMap.size ctx.streams < maxRecvSsrcs) ∧
    (ctx.stream ssrc).acceptedPackets < ctx.packetLifetime

theorem CanReceive.room {ssrc : UInt32} (h : ctx.CanReceive ssrc) :
    ¬ (ssrc ∉ ctx.streams ∧ maxRecvSsrcs ≤ HashMap.size ctx.streams) :=
  fun hf => h.1.elim hf.1 (Nat.not_lt.mpr hf.2)

theorem protect_cases (ctx : SrtpContext) (hh : rtpHeaderLen packet = some n) :
    (ctx.CanSend (rtpSsrc packet) ∧
      ctx.protect P packet = (let st := (ctx.stream (rtpSsrc packet)).updateRoc (rtpSeq packet)
         (ctx.setStream (rtpSsrc packet)
            { st with protectedPackets := st.protectedPackets + 1 },
          .ok (ctx.sealRtp P st.roc n packet)))) ∨
    (¬ ctx.CanSend (rtpSsrc packet) ∧ (∃ e, (ctx.protect P packet).2 = .error e) ∧
      (ctx.protect P packet).1.SameKeys ctx ∧
      (ctx.protect P packet).1.packetLifetime = ctx.packetLifetime ∧
      ∀ s, (ctx.protect P packet).1.stream s = ctx.stream s) := by
  have hle := rtpHeaderLen_bounds hh
  unfold protect CanSend
  rw [if_neg (by omega)]
  by_cases hf : rtpSsrc packet ∉ ctx.streams ∧ maxSendSsrcs ≤ HashMap.size ctx.streams
  · right
    rw [if_pos hf]
    refine ⟨fun hc => ?_, ⟨_, rfl⟩, ⟨rfl, rfl, rfl⟩, rfl, fun _ => rfl⟩
    rcases hc.1 with hm | hr
    · exact hf.1 hm
    · omega
  rw [if_neg hf]
  by_cases hl : ctx.packetLifetime ≤ (ctx.stream (rtpSsrc packet)).protectedPackets
  · right
    rw [if_pos hl]
    refine ⟨fun hc => ?_, ⟨_, rfl⟩, setStream_sameKeys _ _ _, rfl, fun s => ?_⟩
    · omega
    · exact stream_setStream_stream ctx _ s
  grind

theorem estimatedRoc_eq (ctx : SrtpContext) (ssrc : UInt32) (seq : UInt16) :
    (match ctx.streams.lookup ssrc with
      | some st => (st.estimateRoc seq).1
      | none => 0) = ((ctx.stream ssrc).estimateRoc seq).1 := by
  rw [stream]
  cases ctx.streams.lookup ssrc with
  | none => rfl
  | some st => rfl

def authPortion (datagram : Bytes) : Bytes := datagram.take (datagram.length - srtpAuthTagLen)

def Verifies (ctx : SrtpContext) (roc : UInt32) (datagram : Bytes) : Prop :=
  12 + srtpAuthTagLen ≤ datagram.length ∧
    ctx.rtpTag P (authPortion datagram) roc = datagram.drop (datagram.length - srtpAuthTagLen)

instance (ctx : SrtpContext) (roc : UInt32) (datagram : Bytes) :
    Decidable (ctx.Verifies P roc datagram) :=
  inferInstanceAs (Decidable (_ ∧ _))

def estimate (ctx : SrtpContext) (datagram : Bytes) : UInt32 × UInt64 :=
  (ctx.stream (rtpSsrc datagram)).estimateRoc (rtpSeq datagram)

/-- What `unprotect` can do: it changes nothing, only makes an entry for the SSRC, fails at the
header after it has moved the window, or opens the packet. -/
inductive Unprotected (ctx : SrtpContext) (datagram : Bytes) :
    SrtpContext × Except String Bytes → Prop where
  | refused {e : String} (hn : ¬ (ctx.Verifies P (ctx.estimate datagram).1 datagram ∧
      ctx.CanReceive (rtpSsrc datagram))) : Unprotected ctx datagram (ctx, .error e)
  | spent {e : String} (hs : ctx.packetLifetime ≤ (ctx.stream (rtpSsrc datagram)).acceptedPackets ∨
      ∃ e, (ctx.stream (rtpSsrc datagram)).checkReplay (rtpSeq datagram) =
        (ctx.stream (rtpSsrc datagram), .error e)) :
      Unprotected ctx datagram
        (ctx.setStream (rtpSsrc datagram) (ctx.stream (rtpSsrc datagram)), .error e)
  | cut {st : SrtpStreamState} {e : String}
      (hv : ctx.Verifies P (ctx.estimate datagram).1 datagram)
      (hca : ctx.CanReceive (rtpSsrc datagram))
      (hc : (ctx.stream (rtpSsrc datagram)).checkReplay (rtpSeq datagram) =
        (st, .ok (ctx.estimate datagram)))
      (hh : rtpHeaderLen (authPortion datagram) = none) :
      Unprotected ctx datagram (ctx.setStream (rtpSsrc datagram) st, .error e)
  | opened {st : SrtpStreamState} {n : Nat}
      (hv : ctx.Verifies P (ctx.estimate datagram).1 datagram)
      (hca : ctx.CanReceive (rtpSsrc datagram))
      (hc : (ctx.stream (rtpSsrc datagram)).checkReplay (rtpSeq datagram) =
        (st, .ok (ctx.estimate datagram)))
      (hh : rtpHeaderLen (authPortion datagram) = some n) :
      Unprotected ctx datagram
        (ctx.setStream (rtpSsrc datagram) { st with acceptedPackets := st.acceptedPackets + 1 },
          .ok (ctx.cryptPayload P (rtpSsrc datagram) (ctx.estimate datagram).2 n
            (authPortion datagram)))

theorem unprotected (ctx : SrtpContext) (datagram : Bytes) :
    Unprotected P ctx datagram (ctx.unprotect P datagram) := by
  unfold unprotect
  split
  · rename_i hs
    exact .refused fun h => Nat.not_le.mpr hs h.1.1
  rename_i hs
  dsimp only
  rw [estimatedRoc_eq]
  split
  · rename_i ht
    exact .refused fun h => ht h.1.2
  rename_i ht
  split
  · rename_i hf
    exact .refused fun h => h.2.room hf
  rename_i hf
  split
  · rename_i hl
    exact .spent (.inl hl)
  rename_i hl
  have hv : ctx.Verifies P (ctx.estimate datagram).1 datagram :=
    ⟨Nat.not_lt.mp hs, not_not.mp ht⟩
  have hca : ctx.CanReceive (rtpSsrc datagram) := ⟨by grind, Nat.not_le.mp hl⟩
  rcases (ctx.stream (rtpSsrc datagram)).checkReplay_spec (rtpSeq datagram) with
    ⟨st, hc, -⟩ | ⟨e, hc, -⟩
  · rw [hc]
    cases hh : rtpHeaderLen (datagram.take (datagram.length - srtpAuthTagLen)) with
    | none => exact .cut hv hca hc hh
    | some n => exact .opened hv hca hc hh
  · rw [hc]
    exact .spent (.inr ⟨e, hc⟩)

theorem unprotect_kept (ctx : SrtpContext) (datagram : Bytes) :
    (ctx.unprotect P datagram).1.SameKeys ctx ∧
      (ctx.unprotect P datagram).1.packetLifetime = ctx.packetLifetime := by
  have hu := ctx.unprotected P datagram
  generalize ctx.unprotect P datagram = result at hu
  cases hu <;> exact ⟨⟨rfl, rfl, rfl⟩, rfl⟩

def Holds (ctx : SrtpContext) (material : Bytes) : Prop :=
  ctx.SameKeys (ofKeyMaterial P material ctx.packetLifetime)

instance (ctx : SrtpContext) (material : Bytes) : Decidable (ctx.Holds P material) :=
  inferInstanceAs (Decidable (SameKeys _ _))

theorem SameKeys.holds {P : Primitives} {a b : SrtpContext} (h : a.SameKeys b) {material : Bytes}
    (hb : b.Holds P material) : a.Holds P material :=
  h.trans hb

theorem verifies_of_unprotect {plain : Bytes} (h : (ctx.unprotect P datagram).2 = .ok plain) :
    ctx.Verifies P (ctx.estimate datagram).1 datagram := by
  have hu := ctx.unprotected P datagram
  generalize ctx.unprotect P datagram = result at h hu
  cases hu with
  | opened hv => exact hv
  | _ => cases h

theorem unprotect_ok (ctx : SrtpContext) {st : SrtpStreamState}
    (hv : ctx.Verifies P (ctx.estimate datagram).1 datagram)
    (hca : ctx.CanReceive (rtpSsrc datagram))
    (hc : (ctx.stream (rtpSsrc datagram)).checkReplay (rtpSeq datagram) =
      (st, .ok (ctx.estimate datagram))) (hh : rtpHeaderLen (authPortion datagram) = some n) :
    ctx.unprotect P datagram =
      (ctx.setStream (rtpSsrc datagram) { st with acceptedPackets := st.acceptedPackets + 1 },
        .ok (ctx.cryptPayload P (rtpSsrc datagram) (ctx.estimate datagram).2 n
          (authPortion datagram))) := by
  have hu := ctx.unprotected P datagram
  generalize ctx.unprotect P datagram = result at hu
  cases hu with
  | refused hn => exact absurd ⟨hv, hca⟩ hn
  | spent hs => grind [hca.2]
  | cut _ _ _ hh' => cases hh.symm.trans hh'
  | opened _ _ hc' hh' =>
    cases hc.symm.trans hc'
    cases hh.symm.trans hh'
    rfl

/-! ## Sealing and opening -/

section

variable (ctx : SrtpContext) (ssrc : UInt32) (index : UInt64) (hn : n ≤ packet.length)
include hn

theorem length_cryptPayload : (ctx.cryptPayload P ssrc index n packet).length = packet.length := by
  simp [cryptPayload]
  omega

theorem take_cryptPayload : (ctx.cryptPayload P ssrc index n packet).take n = packet.take n := by
  exact take_left' (by simp [hn])

theorem cryptPayload_cryptPayload :
    ctx.cryptPayload P ssrc index n (ctx.cryptPayload P ssrc index n packet) = packet := by
  rw [cryptPayload, take_cryptPayload P ctx ssrc index hn, cryptPayload,
    drop_left' (by simp [hn]), aes128Ctr_aes128Ctr, take_append_drop]

end

theorem take_of_unprotect {plain : Bytes} (h : (ctx.unprotect P datagram).2 = .ok plain) :
    plain.take 12 = datagram.take 12 := by
  have hu := ctx.unprotected P datagram
  generalize ctx.unprotect P datagram = result at h hu
  cases hu with
  | opened hv _ _ hh =>
    obtain ⟨hl, hhi⟩ := rtpHeaderLen_bounds hh
    have ht := take_cryptPayload P ctx (rtpSsrc datagram) (ctx.estimate datagram).2 hhi
    have hf := congrArg (List.take 12) ht
    grind [authPortion]
  | _ => cases h

theorem sealRtp_facts (ctx : SrtpContext) (roc : UInt32) (hn : rtpHeaderLen packet = some n) :
    let datagram := ctx.sealRtp P roc n packet
    let output :=
      ctx.cryptPayload P (rtpSsrc packet) (packetIndex roc (rtpSeq packet)) n packet
    authPortion datagram = output ∧ rtpSsrc datagram = rtpSsrc packet ∧
      rtpSeq datagram = rtpSeq packet ∧ ctx.Verifies P roc datagram ∧
      rtpHeaderLen output = some n := by
  intro datagram output
  have hb := rtpHeaderLen_bounds hn
  have hle : output.length = packet.length := length_cryptPayload P ctx _ _ hb.2
  have hta : (ctx.rtpTag P output roc).length = 10 := length_authTag _ _ _
  have hc : datagram.length - srtpAuthTagLen = output.length := by
    simp [datagram, sealRtp, srtpAuthTagLen, output, hta]
  have ht : datagram.take n = packet.take n := by
    have ho : output.take n = packet.take n := take_cryptPayload P ctx _ _ hb.2
    have hf : n ≤ output.length := hle.symm ▸ hb.2
    rw [← ho]
    exact take_append_of_le_length hf
  have ha : authPortion datagram = output := by
    rw [authPortion, hc]
    exact take_left' rfl
  refine ⟨ha, u32At_of_take_eq ht (by omega), u16At_of_take_eq ht (by omega), ⟨?_, ?_⟩,
    rtpHeaderLen_of_take_eq hn hle (take_cryptPayload P ctx _ _ hb.2)⟩
  · omega
  · rw [ha, hc]
    exact (drop_left' rfl).symm

end SrtpContext
end RtpBridge.Srtp
