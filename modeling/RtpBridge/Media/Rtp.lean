/-
The RTP header of `media/rtp.rs`: parsing, the payload without its padding, and
building a packet.
-/
import RtpBridge.Base.Bytes

namespace RtpBridge.Rtp

open Wire List

structure RtpHeader where
  version : UInt8
  padding : Bool
  extension : Bool
  csrcCount : UInt8
  marker : Bool
  payloadType : UInt8
  sequenceNumber : UInt16
  timestamp : UInt32
  ssrc : UInt32
  headerLen : Nat
deriving DecidableEq

namespace RtpHeader

def parse (data : Bytes) : Option RtpHeader :=
  if data.length < 12 then none
  else
    let version := (byteAt data 0 >>> 6) &&& 0x03
    if version ≠ 2 then none
    else
      let extension := (byteAt data 0 >>> 4) &&& 0x01 != 0
      let csrcCount := byteAt data 0 &&& 0x0F
      let fixedLen := 12 + csrcCount.toNat * 4
      let headerLen? :=
        if extension then
          if data.length < fixedLen + 4 then none
          else some (fixedLen + (4 + (u16At data (fixedLen + 2)).toNat * 4))
        else some fixedLen
      match headerLen? with
      | none => none
      | some headerLen =>
        if data.length < headerLen then none
        else
          some { version := version, padding := (byteAt data 0 >>> 5) &&& 0x01 != 0,
                 extension := extension,
                 csrcCount := csrcCount,
                 marker := (byteAt data 1 >>> 7) &&& 0x01 != 0,
                 payloadType := byteAt data 1 &&& 0x7F,
                 sequenceNumber := u16At data 2,
                 timestamp := u32At data 4,
                 ssrc := u32At data 8,
                 headerLen := headerLen }

def payload (header : RtpHeader) (data : Bytes) : Bytes :=
  let payload := data.drop header.headerLen
  if header.padding && !payload.isEmpty then
    let padLen := (payload.getLastD 0).toNat
    if 0 < padLen ∧ padLen ≤ payload.length then payload.take (payload.length - padLen)
    else payload
  else payload

def build (payloadType : UInt8) (sequenceNumber : UInt16) (timestamp ssrc : UInt32)
    (marker : Bool) (payload : Bytes) : Bytes :=
  [0x80, (if marker then 0x80 else 0x00) ||| (payloadType &&& 0x7F)] ++
    beBytes 2 sequenceNumber.toNat ++ beBytes 4 timestamp.toNat ++ beBytes 4 ssrc.toNat ++ payload

theorem parse_payloadType {data : Bytes} {header : RtpHeader} (h : parse data = some header) :
    header.payloadType = byteAt data 1 &&& 0x7F := by grind [parse]

def built (payloadType : UInt8) (sequenceNumber : UInt16) (timestamp ssrc : UInt32)
    (marker : Bool) : RtpHeader :=
  { version := 2, padding := false, extension := false, csrcCount := 0, marker := marker,
    payloadType := payloadType &&& 0x7F, sequenceNumber := sequenceNumber,
    timestamp := timestamp, ssrc := ssrc, headerLen := 12 }

section

variable (payloadType : UInt8)

theorem marker_byte (marker : Bool) :
    let byte := (if marker then 0x80 else 0x00) ||| (payloadType &&& 0x7F)
    (byte >>> 7 &&& 0x01 != 0) = marker ∧ byte &&& 0x7F = payloadType &&& 0x7F := by
  have ha : ∀ n : Fin 256, ∀ m : Bool,
      let byte := (if m then 0x80 else 0x00) ||| (UInt8.ofNat n &&& 0x7F)
      (byte >>> 7 &&& 0x01 != 0) = m ∧ byte &&& 0x7F = UInt8.ofNat n &&& 0x7F := by
    decide +kernel
  have hpt := ha ⟨payloadType.toNat, payloadType.toNat_lt⟩ marker
  rwa [UInt8.ofNat_toNat] at hpt

theorem parse_build (sequenceNumber : UInt16) (timestamp ssrc : UInt32)
    (marker : Bool) (payload : Bytes) :
    parse (build payloadType sequenceNumber timestamp ssrc marker payload) =
      some (built payloadType sequenceNumber timestamp ssrc marker) := by
  obtain ⟨hm, hpt⟩ := marker_byte payloadType marker
  have hb : build payloadType sequenceNumber timestamp ssrc marker payload =
      [0x80, (if marker then 0x80 else 0x00) ||| (payloadType &&& 0x7F)] ++
        (beBytes 2 sequenceNumber.toNat ++ (beBytes 4 timestamp.toNat ++
          (beBytes 4 ssrc.toNat ++ payload))) := by
    simp only [build, append_assoc]
  have hse : u16At (build payloadType sequenceNumber timestamp ssrc marker payload) 2 =
      sequenceNumber := by
    exact u16At_append_beBytes [0x80, _] _ sequenceNumber
  have hts : u32At (build payloadType sequenceNumber timestamp ssrc marker payload) 4 =
      timestamp := by
    rw [hb, ← append_assoc]
    exact u32At_append_beBytes ([0x80, _] ++ beBytes 2 sequenceNumber.toNat) _ timestamp
  have hss : u32At (build payloadType sequenceNumber timestamp ssrc marker payload) 8 = ssrc := by
    rw [hb, ← append_assoc, ← append_assoc]
    exact u32At_append_beBytes
      ([0x80, _] ++ beBytes 2 sequenceNumber.toNat ++ beBytes 4 timestamp.toNat) _ ssrc
  have hl : (build payloadType sequenceNumber timestamp ssrc marker payload).length =
      12 + payload.length := by
    simp [build]
    omega
  have hf : byteAt (build payloadType sequenceNumber timestamp ssrc marker payload) 0 = 0x80 := rfl
  have hs : byteAt (build payloadType sequenceNumber timestamp ssrc marker payload) 1 =
      (if marker then 0x80 else 0x00) ||| (payloadType &&& 0x7F) := rfl
  have hv : (0x80 : UInt8) >>> 6 &&& 0x03 = 2 := by decide
  have hp : (0x80 : UInt8) >>> 5 &&& 0x01 = 0 := by decide
  have he : (0x80 : UInt8) >>> 4 &&& 0x01 = 0 := by decide
  have hc : (0x80 : UInt8) &&& 0x0F = 0 := by decide
  rw [parse, hf, hs, hse, hts, hss, hl, hm, hpt]
  simp [built, hv, hp, he, hc]

end

end RtpHeader
end RtpBridge.Rtp
