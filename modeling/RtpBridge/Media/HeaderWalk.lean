/-
The two functions that walk an RTP header: `RtpHeader::parse` of `media/rtp.rs` and
`rtp_header_len` of `media/srtp.rs`.
-/
import RtpBridge.Media.Rtp
import RtpBridge.Media.Srtp.Context

namespace RtpBridge.Rtp

open Wire Srtp
open List hiding Vector

variable {data : Bytes} {header : RtpHeader}

/-! ## The walkers with their bounds checked -/

namespace Checked

variable {i : Nat}

def u16At (data : Bytes) (i : Nat) : Option UInt16 := do
  let high : UInt8 ← data[i]?
  let low : UInt8 ← data[i + 1]?
  return UInt16.ofNat (beNat [high, low])

def u32At (data : Bytes) (i : Nat) : Option UInt32 := do
  let a : UInt8 ← data[i]?
  let b : UInt8 ← data[i + 1]?
  let c : UInt8 ← data[i + 2]?
  let d : UInt8 ← data[i + 3]?
  return UInt32.ofNat (beNat [a, b, c, d])

def parse (data : Bytes) : Option (Option RtpHeader) :=
  if data.length < 12 then some none
  else do
    let first : UInt8 ← data[0]?
    let version := (first >>> 6) &&& 0x03
    if version ≠ 2 then some none
    else do
      let extension := (first >>> 4) &&& 0x01 != 0
      let csrcCount := first &&& 0x0F
      let second : UInt8 ← data[1]?
      let sequenceNumber ← u16At data 2
      let timestamp ← u32At data 4
      let ssrc ← u32At data 8
      let fixedLen := 12 + csrcCount.toNat * 4
      let headerLen? ←
        if extension then
          if data.length < fixedLen + 4 then some none
          else (u16At data (fixedLen + 2)).map fun words =>
            some (fixedLen + (4 + words.toNat * 4))
        else some (some fixedLen)
      match headerLen? with
      | none => some none
      | some headerLen =>
        if data.length < headerLen then some none
        else
          some (some { version := version, padding := (first >>> 5) &&& 0x01 != 0,
                       extension := extension,
                       csrcCount := csrcCount,
                       marker := (second >>> 7) &&& 0x01 != 0,
                       payloadType := second &&& 0x7F,
                       sequenceNumber := sequenceNumber,
                       timestamp := timestamp,
                       ssrc := ssrc,
                       headerLen := headerLen })

def rtpHeaderLen (packet : Bytes) : Option (Option Nat) :=
  if packet.length < 12 then some none
  else do
    let first : UInt8 ← packet[0]?
    let len := 12 + (first &&& 0x0F).toNat * 4
    if packet.length < len then some none
    else if first &&& 0x10 ≠ 0 then
      if packet.length < len + 4 then some none
      else do
        let words ← u16At packet (len + 2)
        let len' := words.toNat * 4 + 4 + len
        if packet.length < len' then some none else some (some len')
    else some (some len)

theorem u16At_eq (hi : i + 1 < data.length) : u16At data i = some (Wire.u16At data i) := by
  rw [u16At, read_of_lt (by omega), read_of_lt hi]
  rfl

theorem u32At_eq (hi : i + 3 < data.length) : u32At data i = some (Wire.u32At data i) := by
  rw [u32At, read_of_lt (by omega), read_of_lt (by omega), read_of_lt (by omega), read_of_lt hi]
  rfl

theorem parse_eq (data : Bytes) : parse data = some (RtpHeader.parse data) := by
  unfold parse RtpHeader.parse
  by_cases hl : data.length < 12
  · rw [if_pos hl, if_pos hl]
  rw [if_neg hl, if_neg hl, read_of_lt (by omega), read_of_lt (by omega), u16At_eq (by omega),
    u32At_eq (by omega), u32At_eq (by omega)]
  simp only [Option.bind_eq_bind, Option.bind_some, apply_ite some]
  split
  · rfl
  split
  · split
    · rfl
    · rw [u16At_eq (by omega)]
      exact (apply_ite some _ _ _).symm
  · exact (apply_ite some _ _ _).symm

theorem rtpHeaderLen_eq (data : Bytes) : rtpHeaderLen data = some (Srtp.rtpHeaderLen data) := by
  unfold rtpHeaderLen Srtp.rtpHeaderLen
  by_cases hl : data.length < 12
  · rw [if_pos hl, if_pos hl]
  rw [if_neg hl, if_neg hl, read_of_lt (by omega)]
  simp only [Option.bind_eq_bind, Option.bind_some, apply_ite some]
  split
  · rfl
  split
  · split
    · rfl
    · rw [u16At_eq (by omega)]
      simp only [Option.bind_some]
  · rfl

end Checked

/-! ## The two agree -/

theorem extension_bit (b : UInt8) : ((b >>> 4) &&& 0x01 != 0) = decide (b &&& 0x10 ≠ 0) := by
  have h : ∀ n < 256, ((UInt8.ofNat n >>> 4) &&& 0x01 != 0) =
      decide (UInt8.ofNat n &&& 0x10 ≠ 0) := by decide +kernel
  simpa using h b.toNat b.toNat_lt

theorem rtpHeaderLen_eq (hv : (byteAt data 0 >>> 6) &&& 0x03 = 2) :
    rtpHeaderLen data = (RtpHeader.parse data).map RtpHeader.headerLen := by
  unfold rtpHeaderLen RtpHeader.parse
  by_cases hl : data.length < 12
  · rw [if_pos hl, if_pos hl]
    rfl
  rw [extension_bit]
  grind

theorem payload_append (header : RtpHeader) (data : Bytes) :
    ∃ padding, data.drop header.headerLen = header.payload data ++ padding := by
  unfold RtpHeader.payload
  dsimp only
  split
  · split
    · exact ⟨_, (take_append_drop ..).symm⟩
    · exact ⟨[], (append_nil _).symm⟩
  · exact ⟨[], (append_nil _).symm⟩

/-- Both walkers find the same header, and the ones that stop at a read out of bounds never stop;
what SRTP enciphers is the payload and the padding. -/
theorem header_walkers_agree (data : Bytes) :
    ((byteAt data 0 >>> 6) &&& 0x03 = 2 →
      rtpHeaderLen data = (RtpHeader.parse data).map RtpHeader.headerLen) ∧
    Checked.parse data = some (RtpHeader.parse data) ∧
    Checked.rtpHeaderLen data = some (rtpHeaderLen data) ∧
    ∀ header, RtpHeader.parse data = some header → header.headerLen ≤ data.length ∧
      ∃ padding, data.drop header.headerLen = header.payload data ++ padding ∧
        ∀ P ctx out, (SrtpContext.protect P ctx data).2 = .ok out → ∃ iv tag,
          out = data.take header.headerLen ++
            aes128Ctr P ctx.cipherKey.toList iv (header.payload data ++ padding) ++ tag := by
  refine ⟨rtpHeaderLen_eq, Checked.parse_eq data, Checked.rtpHeaderLen_eq data,
    fun header hp => ?_⟩
  have hv : (byteAt data 0 >>> 6) &&& 0x03 = 2 := by
    by_contra hv
    simp [RtpHeader.parse, hv] at hp
  have hn : rtpHeaderLen data = some header.headerLen := by rw [rtpHeaderLen_eq hv, hp]; rfl
  obtain ⟨padding, hpad⟩ := payload_append header data
  refine ⟨(rtpHeaderLen_bounds hn).2, padding, hpad, fun P ctx out ho => ?_⟩
  rw [← hpad]
  rcases SrtpContext.protect_cases P ctx hn with ⟨-, hs⟩ | ⟨-, ⟨e, he⟩, -⟩
  · rw [hs] at ho
    cases ho
    exact ⟨_, _, rfl⟩
  · rw [he] at ho
    cases ho

end RtpBridge.Rtp
