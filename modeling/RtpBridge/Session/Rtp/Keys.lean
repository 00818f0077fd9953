/-
The SRTP keys of an RTP endpoint, from `session/endpoint_rtp.rs`.

The receiving side holds up to four contexts, SRTP and SRTCP under the key in use
and under the one that replaces it, with one tracked key text and one deadline for
all of them.  The sending side has one key of our own.  Random key bytes and the
clock are arguments.
-/
import RtpBridge.Base.Switchover
import RtpBridge.Media.Sdp
import RtpBridge.Media.Srtp.Rtcp

namespace RtpBridge.Session

open Srtp Sdp Wire

variable {now : Nat}

def remoteSrtpContexts (P : Primitives) (crypto : SdpCrypto) :
    Except String (SrtpContext × SrtcpContext) :=
  let packetLifetime := remoteSrtpPacketLifetime crypto
  match SrtpContext.fromSdesKeyWithLifetime P crypto.keyB64 packetLifetime with
  | .error e => .error e
  | .ok srtp =>
    match SrtcpContext.fromSdesKeyWithLifetime P crypto.keyB64 packetLifetime with
    | .error e => .error e
    | .ok srtcp => .ok (srtp, srtcp)

structure RtpRxKeys where
  /-- `srtp_rx` and `srtp_rx_new`. -/
  srtp : Switchover SrtpContext := {}
  /-- `srtcp_rx` and `srtcp_rx_new`. -/
  srtcp : Switchover SrtcpContext := {}
  rekeySwitchover : Option Nat := none
  srtpRxKeyB64 : Option Text := none

variable {keys : RtpRxKeys}

namespace RtpRxKeys

def hasSrtp (keys : RtpRxKeys) : Bool := keys.srtp.active

def rekeyGrace : Nat := 5 * 10 ^ 9

def checkRekeySwitchover (keys : RtpRxKeys) (now : Nat) : RtpRxKeys :=
  if keys.rekeySwitchover.any (· ≤ now) then
    { keys with srtp := keys.srtp.promote, srtcp := keys.srtcp.promote, rekeySwitchover := none }
  else keys

def validateRemoteSrtpLifetimeUpdate (keys : RtpRxKeys) (crypto : SdpCrypto) : Except String Unit :=
  if keys.srtpRxKeyB64 ≠ some crypto.keyB64 then .ok ()
  else
    let requested := remoteSrtpPacketLifetime crypto
    match keys.srtp.newest with
    | none => .error "tracked SRTP RX key has no receive context"
    | some ctx =>
      if ctx.packetLifetime < requested then
        .error (s!"SDES lifetime cannot be expanded from {ctx.packetLifetime} to " ++
          s!"{requested} packets without a new master key")
      else .ok ()

def tightenRemoteSrtpLifetime (keys : RtpRxKeys) (crypto : SdpCrypto) : RtpRxKeys :=
  let packetLifetime := remoteSrtpPacketLifetime crypto
  { keys with
      srtp := keys.srtp.mapNewest (·.tightenPacketLifetime packetLifetime),
      srtcp := keys.srtcp.mapNewest (·.tightenPacketLifetime packetLifetime) }

/-- The key of an accepted description: the first one is used at once, another one
starts a switchover, the same one only narrows its lifetime. -/
def install (P : Primitives) (keys : RtpRxKeys) (now : Nat) (crypto : SdpCrypto) :
    RtpRxKeys × Except String Unit :=
  if keys.srtp.rx.isNone then
    match remoteSrtpContexts P crypto with
    | .error e => (keys, .error ("SRTP RX init failed: " ++ e))
    | .ok (srtp, srtcp) =>
      ({ keys with srtp := { keys.srtp with rx := some srtp },
                   srtcp := { keys.srtcp with rx := some srtcp },
                   srtpRxKeyB64 := some crypto.keyB64 }, .ok ())
  else if keys.srtpRxKeyB64 ≠ some crypto.keyB64 then
    match remoteSrtpContexts P crypto with
    | .error e => (keys, .error ("SRTP RX rekey failed: " ++ e))
    | .ok (srtp, srtcp) =>
      ({ keys with srtp := { keys.srtp with rxNew := some srtp },
                   srtcp := { keys.srtcp with rxNew := some srtcp },
                   rekeySwitchover := some (now + rekeyGrace),
                   srtpRxKeyB64 := some crypto.keyB64 }, .ok ())
  else (keys.tightenRemoteSrtpLifetime crypto, .ok ())

variable (P : Primitives)

/-- The SRTP part of `handle_rtp_at`. -/
def decryptRtp (keys : RtpRxKeys) (data : Bytes) : RtpRxKeys × Option Bytes :=
  let (srtp, plain) := keys.srtp.receive (SrtpContext.unprotect P) data
  ({ keys with srtp := srtp }, plain)

/-- The SRTCP part of `handle_rtcp_at`. -/
def decryptRtcp (keys : RtpRxKeys) (data : Bytes) : RtpRxKeys × Option Bytes :=
  let (srtcp, plain) := keys.srtcp.receive (SrtcpContext.unprotectRtcp P) data
  ({ keys with srtcp := srtcp }, plain)

/-! ## The end of a switchover -/

section

variable (keys : RtpRxKeys) (now : Nat)

@[simp] theorem newest_srtp_checkRekeySwitchover :
    (keys.checkRekeySwitchover now).srtp.newest = keys.srtp.newest := by
  unfold checkRekeySwitchover
  split
  · exact Switchover.newest_promote _
  · rfl

@[simp] theorem newest_srtcp_checkRekeySwitchover :
    (keys.checkRekeySwitchover now).srtcp.newest = keys.srtcp.newest := by
  unfold checkRekeySwitchover
  split
  · exact Switchover.newest_promote _
  · rfl

@[simp] theorem srtpRxKeyB64_checkRekeySwitchover :
    (keys.checkRekeySwitchover now).srtpRxKeyB64 = keys.srtpRxKeyB64 := by
  unfold checkRekeySwitchover
  split <;> rfl

@[simp] theorem hasSrtp_checkRekeySwitchover :
    (keys.checkRekeySwitchover now).hasSrtp = keys.hasSrtp := by
  rw [hasSrtp, Switchover.active_eq_isSome_newest, newest_srtp_checkRekeySwitchover, hasSrtp,
    Switchover.active_eq_isSome_newest]

@[simp] theorem srtcp_active_checkRekeySwitchover :
    (keys.checkRekeySwitchover now).srtcp.active = keys.srtcp.active := by
  rw [Switchover.active_eq_isSome_newest, newest_srtcp_checkRekeySwitchover,
    Switchover.active_eq_isSome_newest]

end

theorem checkRekeySwitchover_expired {deadline : Nat} (h : keys.rekeySwitchover = some deadline)
    (hp : deadline ≤ now) :
    (keys.checkRekeySwitchover now).srtp.rxNew = none ∧
      (keys.checkRekeySwitchover now).srtcp.rxNew = none := by
  rw [checkRekeySwitchover, h, Option.any_some, if_pos (decide_eq_true hp)]
  exact ⟨Switchover.rxNew_promote _, Switchover.rxNew_promote _⟩

theorem mem_srtp_of_checkRekeySwitchover {ctx : SrtpContext}
    (h : ctx ∈ (keys.checkRekeySwitchover now).srtp) : ctx ∈ keys.srtp := by
  unfold checkRekeySwitchover at h
  split at h
  · exact Switchover.mem_of_newest (Switchover.mem_promote.mp h)
  · exact h

theorem mem_srtcp_of_checkRekeySwitchover {ctx : SrtcpContext}
    (h : ctx ∈ (keys.checkRekeySwitchover now).srtcp) : ctx ∈ keys.srtcp := by
  unfold checkRekeySwitchover at h
  split at h
  · exact Switchover.mem_of_newest (Switchover.mem_promote.mp h)
  · exact h

/-! ## What a key change can do -/

theorem remoteSrtpContexts_ok {P : Primitives} {crypto : SdpCrypto}
    (h : supportedSdesKey P crypto = true) :
    ∃ material, base64Decode P crypto.keyB64 = .ok material ∧
      remoteSrtpContexts P crypto =
        .ok (SrtpContext.ofKeyMaterial P material (remoteSrtpPacketLifetime crypto),
          SrtcpContext.ofKeyMaterial P material (remoteSrtpPacketLifetime crypto)) := by
  obtain ⟨ctx, hc⟩ := supportedSdesKey_eq_true.mp h
  obtain ⟨hl, material, hd, hle, hm⟩ :=
    SrtpContext.fromSdesKeyWithLifetime_eq_ok.mp hc
  have hr := SrtcpContext.fromSdesKeyWithLifetime_eq_ok.mpr
    ⟨hl, material, hd, hle, rfl⟩
  refine ⟨material, hd, ?_⟩
  simp only [remoteSrtpContexts, hc, hr, hm]

inductive Installs (P : Primitives) (now : Nat) (crypto : SdpCrypto) (material : Bytes)
    (keys : RtpRxKeys) : RtpRxKeys → Prop where
  | first (hrx : keys.srtp.rx = none) : Installs P now crypto material keys
        { keys with
            srtp := { keys.srtp with
              rx := some (SrtpContext.ofKeyMaterial P material (remoteSrtpPacketLifetime crypto)) },
            srtcp := { keys.srtcp with
              rx := some (SrtcpContext.ofKeyMaterial P material
                (remoteSrtpPacketLifetime crypto)) },
            srtpRxKeyB64 := some crypto.keyB64 }
  | rekey (hrx : keys.srtp.rx.isSome) (hk : keys.srtpRxKeyB64 ≠ some crypto.keyB64) :
      Installs P now crypto material keys
        { srtp := { keys.srtp with
            rxNew := some (SrtpContext.ofKeyMaterial P material
              (remoteSrtpPacketLifetime crypto)) },
          srtcp := { keys.srtcp with
            rxNew := some (SrtcpContext.ofKeyMaterial P material
              (remoteSrtpPacketLifetime crypto)) },
          rekeySwitchover := some (now + rekeyGrace),
          srtpRxKeyB64 := some crypto.keyB64 }
  | same (hrx : keys.srtp.rx.isSome) (hk : keys.srtpRxKeyB64 = some crypto.keyB64) :
      Installs P now crypto material keys (keys.tightenRemoteSrtpLifetime crypto)

theorem install_ok {P : Primitives} {crypto : SdpCrypto} (h : supportedSdesKey P crypto = true)
    (keys : RtpRxKeys) (now : Nat) :
    ∃ material keys', base64Decode P crypto.keyB64 = .ok material ∧
      keys.install P now crypto = (keys', .ok ()) ∧
      Installs P now crypto material keys keys' := by
  obtain ⟨material, hd, hc⟩ := remoteSrtpContexts_ok h
  unfold install
  cases hrx : keys.srtp.rx with
  | none =>
    rw [hc]
    exact ⟨material, _, hd, rfl, .first hrx⟩
  | some ctx =>
    have hs : keys.srtp.rx.isSome := by rw [hrx]; rfl
    by_cases hk : keys.srtpRxKeyB64 = some crypto.keyB64
    · rw [if_neg (not_not.mpr hk)]
      exact ⟨material, _, hd, rfl, .same hs hk⟩
    · rw [if_pos hk, hc]
      exact ⟨material, _, hd, rfl, .rekey hs hk⟩

end RtpRxKeys

structure RtpTxKeys where
  srtpTx : Option SrtpContext := none
  srtcpTx : Option SrtcpContext := none
  srtpTxKeyB64 : Option Text := none

namespace RtpTxKeys

/-- A fresh key of our own for both contexts; `action` names the caller in the
error texts. -/
def install (P : Primitives) (keys : RtpTxKeys) (keyBytes : Vector UInt8 30) (action : String) :
    RtpTxKeys × Except String Text :=
  let keyB64 := P.base64Encode keyBytes.toList
  match SrtpContext.fromSdesKey P keyB64 with
  | .error e => (keys, .error (s!"SRTP TX {action} failed: " ++ e))
  | .ok srtp =>
    match SrtcpContext.fromSdesKey P keyB64 with
    | .error e => ({ keys with srtpTx := some srtp }, .error (s!"SRTCP TX {action} failed: " ++ e))
    | .ok srtcp =>
      ({ srtpTx := some srtp, srtcpTx := some srtcp, srtpTxKeyB64 := some keyB64 }, .ok keyB64)

structure Present (keys : RtpTxKeys) : Prop where
  srtp : keys.srtpTx.isSome
  srtcp : keys.srtcpTx.isSome
  key : keys.srtpTxKeyB64.isSome

def Own (P : Primitives) (keys : RtpTxKeys) : Prop :=
  ∀ key, keys.srtpTxKeyB64 = some key → ∃ data, key = P.base64Encode data

theorem install_ok (P : Primitives) (keys : RtpTxKeys) (keyBytes : Vector UInt8 30)
    (action : String) :
    ∃ keys', keys.install P keyBytes action =
      (keys', .ok (P.base64Encode keyBytes.toList)) ∧ keys'.Present ∧ keys'.Own P := by
  have hd := base64Decode_base64Encode P keyBytes.toList
  have hle : keyBytes.toList.length = 30 := by simp
  have hsr : SrtpContext.fromSdesKey P (P.base64Encode keyBytes.toList) = .ok _ :=
    SrtpContext.fromSdesKeyWithLifetime_eq_ok.mpr
      ⟨by simp [maxSrtpPacketsPerMasterKey], _, hd, hle, rfl⟩
  have hs : SrtcpContext.fromSdesKey P (P.base64Encode keyBytes.toList) = .ok _ :=
    SrtcpContext.fromSdesKeyWithLifetime_eq_ok.mpr
      ⟨by simp [maxSrtpPacketsPerMasterKey, maxSrtcpPacketsPerMasterKey], _, hd, hle, rfl⟩
  unfold install
  simp only [hsr, hs]
  exact ⟨_, rfl, ⟨rfl, rfl, rfl⟩, fun key hk => ⟨_, (Option.some.inj hk).symm⟩⟩

/-- What calls that install no first key do with the sending ones. -/
structure Kept (P : Primitives) (keys keys' : RtpTxKeys) : Prop where
  srtp : keys'.srtpTx.isSome = keys.srtpTx.isSome
  srtcp : keys.srtcpTx.isSome → keys'.srtcpTx.isSome
  key : keys.srtpTxKeyB64.isSome → keys'.srtpTxKeyB64.isSome
  own : keys.Own P → keys'.Own P

theorem Kept.refl {P : Primitives} {keys : RtpTxKeys} : Kept P keys keys :=
  ⟨rfl, id, id, id⟩

end RtpTxKeys
end RtpBridge.Session
