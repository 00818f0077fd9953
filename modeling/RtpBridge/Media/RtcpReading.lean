/-
What a peer reads in our reports, and what we read in a validated compound.
-/
import RtpBridge.Media.Rtcp

namespace RtpBridge.Rtcp

open Wire List Option

theorem validPackets_step {fuel : Nat} {data content : Bytes}
    (hf : frontContent data = some content) :
    validPackets (fuel + 1) data =
      (validContent (byteAt data 1) (byteAt data 0 &&& 31).toNat content &&
        validPackets fuel (data.drop (declaredSize data))) := by
  cases data with
  | nil => simp [frontContent] at hf
  | cons b rest =>
    rw [validPackets, hf]
    exact cons_ne_nil b rest

theorem four_le_declaredSize (data : Bytes) : 4 ≤ declaredSize data := by
  rw [declaredSize]
  omega

def padLength (part : Bytes) : Nat :=
  if byteAt part 0 &&& 0x20 ≠ 0 then (byteAt part (part.length - 1)).toNat else 0

theorem stripPadding_eq {part : Bytes} (hp : padLength part ≤ part.length) :
    stripPadding part = part.take (part.length - padLength part) := by
  have hb : ∀ n : Fin 256, (UInt8.ofNat n >>> 5) &&& 1 ≠ 0 ↔ UInt8.ofNat n &&& 0x20 ≠ 0 := by
    decide +kernel
  have hf := hb (byteAt part 0).toFin
  rw [show UInt8.ofNat (byteAt part 0).toFin = byteAt part 0 from UInt8.ofNat_toNat] at hf
  have hl : part.getLastD 0 = byteAt part (part.length - 1) := by
    rw [byteAt, getD_eq_getElem?_getD, ← List.getLast?_eq_getElem?, getLastD_eq_getLast?]
  simp only [stripPadding, hf, hl]
  unfold padLength at hp ⊢
  by_cases hs : byteAt part 0 &&& 0x20 ≠ 0
  · rw [if_pos hs] at hp ⊢
    by_cases hz : (byteAt part (part.length - 1)).toNat = 0
    · rw [hz, if_neg (by omega), Nat.sub_zero, take_length]
    · exact if_pos ⟨hs, by omega, hp⟩
  · rw [if_neg hs, if_neg (fun h => hs h.1), Nat.sub_zero, take_length]

theorem validContent_bye (count : Nat) (content : Bytes) : validContent rtcpBye count content =
      if count = 0 ∨ content.length < 4 + count * 4 then false
      else !(4 + count * 4 < content.length ∧
        content.length < 4 + count * 4 + 1 + (byteAt content (4 + count * 4)).toNat) := rfl

structure Front (data content : Bytes) : Prop where
  long : 4 ≤ data.length
  version : (byteAt data 0 >>> 6) &&& 0x03 = 2
  fits : declaredSize data ≤ data.length
  padded : padLength (data.take (declaredSize data)) ≤ declaredSize data
  content : content = (data.take (declaredSize data)).take
    (declaredSize data - padLength (data.take (declaredSize data)))

theorem byteAt_take {data : Bytes} {n i : Nat} (hi : i < n) :
    byteAt (data.take n) i = byteAt data i :=
  byteAt_of_take_eq (by rw [take_take, Nat.min_self]) hi

theorem frontContent_spec {data content : Bytes} (h : frontContent data = some content) :
    Front data content := by
  have hf := four_le_declaredSize data
  rw [frontContent] at h
  dsimp only at h
  split at h
  · cases h
  rename_i hh
  have hp : (data.take (declaredSize data)).length = declaredSize data := by
    rw [length_take]
    omega
  have hpa : padLength (data.take (declaredSize data)) =
      if byteAt data 0 &&& 0x20 ≠ 0 then (byteAt data (declaredSize data - 1)).toNat else 0 := by
    rw [padLength, hp, byteAt_take (by omega), byteAt_take (by omega)]
  have hv : (byteAt data 0 >>> 6) &&& 0x03 = 2 := by
    rw [show byteAt data 0 >>> 6 = 2 from by grind]
    rfl
  split at h <;> rename_i hs
  · split at h
    · cases h
    rw [if_pos hs] at hpa
    refine ⟨by omega, hv, by omega, by omega, ?_⟩
    rw [← some.inj h, hpa, take_take, Nat.min_eq_left (by omega)]
  rw [if_neg hs] at hpa
  refine ⟨by omega, hv, by omega, by omega, ?_⟩
  rw [← some.inj h, hpa, take_take, Nat.sub_zero, Nat.min_self]

/-! ## Our own report -/

def senderBytes (sr : SenderReport) : Bytes :=
  [0x81, rtcpSr] ++ (beBytes 2 12 ++ (beBytes 4 sr.ssrc.toNat ++
    (beBytes 8 sr.ntpTimestamp.toNat ++ (beBytes 4 sr.rtpTimestamp.toNat ++
      (beBytes 4 sr.senderPacketCount.toNat ++ beBytes 4 sr.senderOctetCount.toNat)))))

def blockBytes (block : ReportBlock) (lost : Nat) : Bytes :=
  beBytes 4 block.ssrc.toNat ++ (block.fractionLost :: (beBytes 3 lost ++
    (beBytes 4 block.highestSeq.toNat ++ (beBytes 4 block.jitter.toNat ++
      (beBytes 4 block.lastSr.toNat ++ beBytes 4 block.delaySinceLastSr.toNat)))))

section Report

variable (sr : SenderReport) (block : ReportBlock) {lost : Nat}

variable (lost) in
theorem read_loss :
    (BitVec.ofNat 32 (beNat ((if UInt8.ofNat (lost / 256 ^ 2) &&& 0x80 ≠ 0 then 0xFF else 0) ::
      beBytes 3 lost))).toInt = Int.bmod lost (2 ^ 24) := by
  have hc : ∀ n < 256, UInt8.ofNat n &&& 0x80 ≠ 0 ↔ 128 ≤ n := by decide +kernel
  have hbit := hc (lost / 256 ^ 2 % 256) (Nat.mod_lt _ (by decide))
  rw [show UInt8.ofNat (lost / 256 ^ 2 % 256) = UInt8.ofNat (lost / 256 ^ 2) from
    UInt8.ofNat_mod_size] at hbit
  simp only [hbit, beNat, beNat_beBytes, length_beBytes, BitVec.toInt_ofNat', Int.bmod]
  split <;> simp only [UInt8.toNat_zero, UInt8.reduceToNat] <;> omega

theorem u32At_of_take {data : Bytes} {i : Nat} {v : UInt32}
    (h : (data.drop i).take 4 = beBytes 4 v.toNat) : u32At data i = v := by
  have hs : data = data.take i ++ (beBytes 4 v.toNat ++ (data.drop i).drop 4) := by
    rw [← h, take_append_drop, take_append_drop]
  have hi : (data.take i).length = i := by
    have := congrArg List.length h
    simp only [length_take, length_drop, length_beBytes] at this ⊢
    omega
  have hr := u32At_append_beBytes (data.take i) ((data.drop i).drop 4) v
  rwa [← hs, hi] at hr

theorem parseReportBlock_blockBytes : parseReportBlock (blockBytes block lost) =
    { block with cumulativeLost := Int.bmod lost (2 ^ 24) } := by
  rw [parseReportBlock, u32At_of_take (v := block.ssrc) rfl,
    u32At_of_take (v := block.highestSeq) rfl, u32At_of_take (v := block.jitter) rfl,
    u32At_of_take (v := block.lastSr) rfl, u32At_of_take (v := block.delaySinceLastSr) rfl]
  exact congrArg (fun n => { block with cumulativeLost := n }) (read_loss lost)

theorem parsePacket_senderBytes (rest : Bytes) (count : Nat) :
    parsePacket rtcpSr count (senderBytes sr ++ rest) =
      some (.senderReport { sr with reportBlocks := parseReportBlocks rest count }) := by
  have hn : UInt64.ofNat (beNat (((senderBytes sr ++ rest).drop 8).take 8)) = sr.ntpTimestamp := by
    show UInt64.ofNat (beNat (beBytes 8 sr.ntpTimestamp.toNat)) = _
    rw [beNat_beBytes, Nat.mod_eq_of_lt (by simpa using sr.ntpTimestamp.toNat_lt),
      UInt64.ofNat_toNat]
  rw [parsePacket, hn, u32At_of_take (v := sr.ssrc) rfl,
    u32At_of_take (v := sr.rtpTimestamp) rfl, u32At_of_take (v := sr.senderPacketCount) rfl,
    u32At_of_take (v := sr.senderOctetCount) rfl]
  rfl

theorem byteAt_report (tail : Bytes) :
    byteAt (senderBytes sr ++ tail) 0 = 0x81 ∧ byteAt (senderBytes sr ++ tail) 1 = rtcpSr :=
  ⟨rfl, rfl⟩

theorem declaredSize_report (tail : Bytes) : declaredSize (senderBytes sr ++ tail) = 52 := by
  have hw : u16At (senderBytes sr ++ tail) 2 = 12 := u16At_append_beBytes [0x81, rtcpSr] _ 12
  rw [declaredSize, hw]
  rfl

variable (lost) in
theorem validCompound_report : validCompound (senderBytes sr ++ blockBytes block lost) = true := by
  have hl : (senderBytes sr ++ blockBytes block lost).length = 52 := rfl
  obtain ⟨hz, ho⟩ := byteAt_report sr (blockBytes block lost)
  have hf : frontContent (senderBytes sr ++ blockBytes block lost) =
      some (senderBytes sr ++ blockBytes block lost) := by
    rw [frontContent, declaredSize_report, hl, hz, ho, take_of_length_le (Nat.le_of_eq hl)]
    exact (if_neg (by decide)).trans (if_neg (by decide))
  rw [validCompound, hl, validPackets_step hf, declaredSize_report, hz, ho,
    drop_of_length_le (Nat.le_of_eq hl)]
  rfl

theorem parseRtcp_report : parseRtcp (senderBytes sr ++ blockBytes block lost) =
    [.senderReport { sr with
      reportBlocks := [{ block with cumulativeLost := Int.bmod lost (2 ^ 24) }] }] := by
  have hle : (senderBytes sr ++ blockBytes block lost).length = 52 := rfl
  obtain ⟨hz, ho⟩ := byteAt_report sr (blockBytes block lost)
  have hs : stripPadding (senderBytes sr ++ blockBytes block lost) =
      senderBytes sr ++ blockBytes block lost := by
    rw [stripPadding, hz]
    exact if_neg (fun h => h.1 (by decide))
  rw [parseRtcp, hle, parsePackets, declaredSize_report, hz, ho,
    take_of_length_le (Nat.le_of_eq hle), hs, parsePacket_senderBytes,
    ← parseReportBlock_blockBytes block]
  rfl

end Report

def sentBlock (remoteSsrc clockRate : UInt32) (stats : RtcpStats) (now : Nat) : ReportBlock :=
  { ssrc := remoteSsrc, fractionLost := stats.fractionLostAndUpdate.2,
    cumulativeLost := min stats.currentGenLost.toNat (2 ^ 23 - 1),
    highestSeq := stats.extendedMaxSeq,
    jitter := UInt32.ofNat (stats.jitter.toNat *
      (if 0 < clockRate then clockRate else 8000).toNat / 1000000),
    lastSr := if stats.lastSrSsrc = some remoteSsrc then stats.lastSrNtp else 0,
    delaySinceLastSr :=
      if stats.lastSrSsrc = some remoteSsrc then
        (stats.lastSrReceived.map (delaySince now)).getD 0
      else 0 }

def sentReport (ourSsrc rtpTimestamp : UInt32) (stats : RtcpStats) (unix : Nat)
    (block : ReportBlock) : SenderReport :=
  { ssrc := ourSsrc, ntpTimestamp := ntpOfUnix unix, rtpTimestamp := rtpTimestamp,
    senderPacketCount := stats.packetsSent,
    senderOctetCount := stats.octetsSent,
    reportBlocks := [block] }

theorem RtcpStats.reported_counters (stats : RtcpStats) (ntp : UInt64) :
    ∃ post, (stats.recordSrSent ntp).fractionLostAndUpdate = (post, stats.fractionLostAndUpdate.2) ∧
      post.packetsSent = stats.packetsSent ∧ post.octetsSent = stats.octetsSent ∧
      post.currentGenLost = stats.currentGenLost ∧ post.jitter = stats.jitter ∧
      post.extendedMaxSeq = stats.extendedMaxSeq ∧ post.lastSrSsrc = stats.lastSrSsrc ∧
      post.lastSrNtp = stats.lastSrNtp ∧ post.lastSrReceived = stats.lastSrReceived := by
  refine ⟨{ stats.recordSrSent ntp with
      expectedPrior := stats.expectedPackets,
      receivedPrior := stats.packetsReceived }, ?_, rfl, rfl, rfl, rfl, rfl, rfl, rfl, rfl⟩
  refine Prod.ext ?_ ?_
  · simp only [fractionLostAndUpdate]
    split <;> rfl
  · simp only [fractionLostAndUpdate, apply_ite Prod.snd]
    rfl

theorem buildSrRr_bytes (ourSsrc remoteSsrc rtpTimestamp clockRate : UInt32) (stats : RtcpStats)
    (now unix : Nat) :
    (buildSrRr ourSsrc remoteSsrc stats rtpTimestamp clockRate now unix).2 =
      senderBytes (sentReport ourSsrc rtpTimestamp stats unix
          (sentBlock remoteSsrc clockRate stats now)) ++
        blockBytes (sentBlock remoteSsrc clockRate stats now)
          (stats.currentGenLost &&& 0x00FFFFFF).toNat := by
  obtain ⟨post, hpo, hp, ho, hl, hj, hse, hs, hn, hr⟩ :=
    stats.reported_counters (ntpOfUnix unix)
  simp only [buildSrRr, hpo, hp, ho, hl, hj, hse, hs, hn, hr,
    apply_ite Prod.fst, apply_ite Prod.snd, senderBytes, blockBytes, sentReport, sentBlock,
    append_assoc, cons_append, nil_append]

/-- A receiver reads in our report what we computed for it, but for the loss, of which it gets
24 bits with a sign.  That is the clamped loss exactly while the loss fits, and by chance when
its low bits are those of the largest number. -/
theorem report_read_back (ourSsrc remoteSsrc rtpTimestamp clockRate : UInt32) (stats : RtcpStats)
    (now unix : Nat) :
    let bytes := (buildSrRr ourSsrc remoteSsrc stats rtpTimestamp clockRate now unix).2
    let block := sentBlock remoteSsrc clockRate stats now
    validCompound bytes = true ∧
      parseRtcp bytes = [.senderReport (sentReport ourSsrc rtpTimestamp stats unix
        { block with cumulativeLost := Int.bmod stats.currentGenLost.toNat (2 ^ 24) })] ∧
      (parseRtcp bytes = [.senderReport (sentReport ourSsrc rtpTimestamp stats unix block)] ↔
        stats.currentGenLost.toNat < 2 ^ 23 ∨
          stats.currentGenLost.toNat % 2 ^ 24 = 2 ^ 23 - 1) := by
  intro bytes block
  have hmask : (stats.currentGenLost &&& 0x00FFFFFF).toNat =
      stats.currentGenLost.toNat % 2 ^ 24 := by
    rw [UInt32.toNat_and]
    exact Nat.and_two_pow_sub_one_eq_mod _ 24
  have hparse : parseRtcp bytes = [.senderReport (sentReport ourSsrc rtpTimestamp stats unix
      { block with cumulativeLost := Int.bmod stats.currentGenLost.toNat (2 ^ 24) })] := by
    rw [show bytes = _ from buildSrRr_bytes .., parseRtcp_report, hmask, Int.natCast_mod,
      Int.emod_bmod]
    rfl
  have hclamp : Int.bmod stats.currentGenLost.toNat (2 ^ 24) =
      min (stats.currentGenLost.toNat : Int) (2 ^ 23 - 1) ↔ stats.currentGenLost.toNat < 2 ^ 23 ∨
        stats.currentGenLost.toNat % 2 ^ 24 = 2 ^ 23 - 1 := by
    rw [Int.bmod]
    omega
  refine ⟨?_, hparse, ?_⟩
  · rw [show bytes = _ from buildSrRr_bytes ..]
    exact validCompound_report _ _ _
  · rw [hparse, ← hclamp]
    simp [sentReport, block, sentBlock]

def sampleLossy : RtcpStats :=
  (List.range 258).foldl
    (fun stats i => stats.recordReceived 0 7 (UInt16.ofNat (32767 * i)) 0 160 0) {}

/-- Its loss no longer fits the field and is read as negative. -/
theorem sampleLossy_negative : sampleLossy.currentGenLost = 8420862 ∧
      (parseRtcp (buildSrRr 1 7 sampleLossy 0 8000 0 0).2).map
        (fun | .senderReport sr => sr.reportBlocks.map (·.cumulativeLost) | _ => []) =
          [[-8356354]] := by
  decide +kernel

/-! ## The validator with its bounds checked -/

namespace Checked

variable {content data : Bytes} {count fuel offset : Nat}

/-- The slice up to `stop`, which panics past the end. -/
def upTo (data : Bytes) (stop : Nat) : Option Bytes :=
  if stop ≤ data.length then some (data.take stop) else none

def startingAt (data : Bytes) (start : Nat) : Option Bytes :=
  if start ≤ data.length then some (data.drop start) else none

def sdesItems (content : Bytes) : Nat → Nat → Option (Option Nat)
  | 0, _ => none
  | fuel + 1, offset =>
    if content.length ≤ offset then some none
    else do
      let head : UInt8 ← content[offset]?
      if head = 0 then some (some ((offset + 4) / 4 * 4))
      else if content.length < offset + 2 then some none
      else do
        let len : UInt8 ← content[offset + 1]?
        let next := offset + (2 + len.toNat)
        if content.length < next then some none else sdesItems content fuel next

def sdesChunks (content : Bytes) : Nat → Nat → Option (Option Nat)
  | 0, offset => some (some offset)
  | count + 1, offset =>
    if content.length < offset + 4 then some none
    else do
      match ← sdesItems content (content.length + 1) (offset + 4) with
      | none => some none
      | some next => sdesChunks content count next

def validContent (packetType : UInt8) (count : Nat) (content : Bytes) : Option Bool :=
  if packetType = rtcpBye then
    let stop := 4 + count * 4
    if count = 0 ∨ content.length < stop then some false
    else if stop < content.length then do
      let len : UInt8 ← content[stop]?
      some !(content.length < stop + 1 + len.toNat)
    else some true
  else if packetType = rtcpSdes then do
    let stop ← sdesChunks content count 4
    some (stop = some content.length)
  -- the other types index nothing
  else some (Rtcp.validContent packetType count content)

/-- The content of the packet at the front; the inner `none` rejects the datagram. -/
def frontContent (data : Bytes) : Option (Option Bytes) :=
  if data.length < 4 then some none
  else do
    let first : UInt8 ← data[0]?
    let packetType : UInt8 ← data[1]?
    if first >>> 6 ≠ 2 ∨ packetType < 192 ∨ 223 < packetType then some none
    else do
      let high : UInt8 ← data[2]?
      let low : UInt8 ← data[3]?
      let size := ((UInt16.ofNat (beNat [high, low])).toNat + 1) * 4
      if data.length < size then some none
      else do
        let content ← upTo data size
        if first &&& 0x20 ≠ 0 then do
          let padding : UInt8 ← content[size - 1]?
          if size ≠ data.length ∨ padding.toNat = 0 ∨ size - 4 < padding.toNat then some none
          else do
            let content ← upTo content (size - padding.toNat)
            some (some content)
        else some (some content)

def packets : Nat → Bytes → Option Bool
  | _, [] => some true
  | 0, _ :: _ => none
  | fuel + 1, data => do
    match ← frontContent data with
    | none => some false
    | some content =>
      let packetType : UInt8 ← data[1]?
      let first : UInt8 ← data[0]?
      if ← validContent packetType (first &&& 31).toNat content then do
        let rest ← startingAt data (declaredSize data)
        packets fuel rest
      else some false

def validCompound (data : Bytes) : Option Bool :=
  if data.isEmpty then some false else packets data.length data

theorem sdesItems_eq (hp : 0 < fuel) (hf : content.length < fuel + offset) :
    sdesItems content fuel offset = some (Rtcp.sdesItems content fuel offset) := by
  induction fuel generalizing offset with
  | zero => omega
  | succ fuel ih =>
    rw [sdesItems, Rtcp.sdesItems]
    by_cases he : content.length ≤ offset
    · rw [if_pos he, if_pos he]
    rw [if_neg he, if_neg he, read_of_lt (by omega), bind_eq_bind, bind_some]
    by_cases hz : byteAt content offset = 0
    · rw [if_pos hz, if_pos hz]
    rw [if_neg hz, if_neg hz]
    by_cases hr : content.length < offset + 2
    · rw [if_pos hr, if_pos hr]
    rw [if_neg hr, read_of_lt (by omega), bind_some]
    dsimp only
    split
    · rfl
    · exact ih (by omega) (by omega)

theorem sdesChunks_eq : sdesChunks content count offset =
    some (Rtcp.sdesChunks content count offset) := by
  induction count generalizing offset with
  | zero => rfl
  | succ count ih =>
    rw [sdesChunks, Rtcp.sdesChunks, sdesItems_eq (by omega) (by omega)]
    split
    · rfl
    cases Rtcp.sdesItems content (content.length + 1) (offset + 4) with
    | none => rfl
    | some next => exact ih

theorem validContent_eq (packetType : UInt8) : validContent packetType count content =
    some (Rtcp.validContent packetType count content) := by
  rw [validContent]
  by_cases hb : packetType = rtcpBye
  · subst hb
    rw [if_pos rfl, validContent_bye]
    by_cases hs : count = 0 ∨ content.length < 4 + count * 4
    · rw [if_pos hs, if_pos hs]
    rw [if_neg hs, if_neg hs]
    by_cases hr : 4 + count * 4 < content.length
    · rw [read_of_lt hr]
      simp [hr]
    · simp [hr]
  rw [if_neg hb]
  by_cases hsd : packetType = rtcpSdes
  · subst hsd
    rw [sdesChunks_eq]
    rfl
  · rw [if_neg hsd]

theorem frontContent_eq : frontContent data = some (Rtcp.frontContent data) := by
  rw [frontContent, Rtcp.frontContent]
  by_cases hs : data.length < 4
  · rw [if_pos hs, if_pos (.inl hs)]
  rw [if_neg hs, read_of_lt (by omega), read_of_lt (by omega), read_of_lt (by omega),
    read_of_lt (by omega)]
  simp only [bind_eq_bind, bind_some]
  have hsi : ((UInt16.ofNat (beNat [byteAt data 2, byteAt data 3])).toNat + 1) * 4 =
      declaredSize data := rfl
  rw [hsi]
  have hf := four_le_declaredSize data
  by_cases hh : byteAt data 0 >>> 6 ≠ 2 ∨ byteAt data 1 < 192 ∨ 223 < byteAt data 1
  · rw [if_pos hh, if_pos (by grind)]
  rw [if_neg hh]
  by_cases hl : data.length < declaredSize data
  · rw [if_pos hl, if_pos (by grind)]
  rw [if_neg hl, if_neg (by grind), upTo, if_pos (by omega), bind_some]
  by_cases hp : byteAt data 0 &&& 0x20 ≠ 0
  · have hla : (data.take (declaredSize data))[declaredSize data - 1]? =
        some (byteAt data (declaredSize data - 1)) := by
      rw [List.getElem?_take_of_lt (by omega), read_of_lt (by omega)]
    rw [if_pos hp, if_pos hp, hla, bind_some]
    split
    · rfl
    · rw [upTo, if_pos (by rw [length_take]; omega), take_take, Nat.min_eq_left (by omega)]
      rfl
  · rw [if_neg hp, if_neg hp]

theorem packets_eq (hfu : data.length ≤ fuel) :
    packets fuel data = some (validPackets fuel data) := by
  induction fuel generalizing data with
  | zero => rw [length_eq_zero_iff.mp (Nat.le_zero.mp hfu), packets, validPackets]
  | succ fuel ih =>
    cases data with
    | nil => rw [packets, validPackets]
    | cons b rest =>
      rw [packets, frontContent_eq, bind_eq_bind, bind_some]
      · cases hf : Rtcp.frontContent (b :: rest) with
        | none =>
          rw [validPackets, hf]
          exact cons_ne_nil b rest
        | some content =>
          have hs := frontContent_spec hf
          have hl := hs.long
          have hfo := four_le_declaredSize (b :: rest)
          rw [validPackets_step hf]
          rw [read_of_lt (by omega), read_of_lt (by omega)]
          simp only [bind_eq_bind, bind_some, validContent_eq, startingAt, if_pos hs.fits]
          cases Rtcp.validContent (byteAt (b :: rest) 1) (byteAt (b :: rest) 0 &&& 31).toNat
              content with
          | false => rfl
          | true => exact ih (by rw [length_drop]; omega)
      · exact cons_ne_nil b rest

theorem validCompound_eq (data : Bytes) : validCompound data = some (Rtcp.validCompound data) := by
  rw [validCompound, packets_eq (Nat.le_refl _)]
  cases data <;> rfl

end Checked

/-! ## The two walks over a compound -/

section Walks

variable {data part content : Bytes} {fuel : Nat}

def parsedParts : Nat → Bytes → List Bytes
  | 0, _ => []
  | fuel + 1, data =>
    if data.length < 4 ∨ (byteAt data 0 >>> 6) &&& 0x03 ≠ 2 ∨ data.length < declaredSize data then
      []
    else data.take (declaredSize data) :: parsedParts fuel (data.drop (declaredSize data))

def validParts : Nat → Bytes → List Bytes
  | 0, _ => []
  | fuel + 1, data =>
    match frontContent data with
    | none => []
    | some content =>
      if validContent (byteAt data 1) (byteAt data 0 &&& 31).toNat content then
        data.take (declaredSize data) :: validParts fuel (data.drop (declaredSize data))
      else []

def readPart (part : Bytes) : Option RtcpPacket :=
  parsePacket (byteAt part 1) (byteAt part 0 &&& 0x1F).toNat (stripPadding part)

theorem parsePackets_eq (fuel : Nat) (data : Bytes) :
    parsePackets fuel data = (parsedParts fuel data).filterMap readPart := by
  induction fuel generalizing data with
  | zero => rfl
  | succ fuel ih =>
    have hf := four_le_declaredSize data
    rw [parsePackets, parsedParts]
    split
    · rfl
    rw [ih, filterMap_cons, readPart, byteAt_take (by omega), byteAt_take (by omega)]
    cases parsePacket (byteAt data 1) (byteAt data 0 &&& 0x1F).toNat
      (stripPadding (data.take (declaredSize data))) <;> rfl

structure WellFormed (part : Bytes) : Prop where
  size : declaredSize part = part.length
  padded : padLength part ≤ part.length
  valid : validContent (byteAt part 1) (byteAt part 0 &&& 31).toNat
    (part.take (part.length - padLength part)) = true

theorem Front.wellFormed (h : Front data content)
    (hv : validContent (byteAt data 1) (byteAt data 0 &&& 31).toNat content = true) :
    WellFormed (data.take (declaredSize data)) := by
  have hf := four_le_declaredSize data
  have hl : (data.take (declaredSize data)).length = declaredSize data := by
    rw [length_take, Nat.min_eq_left h.fits]
  have hsi : declaredSize (data.take (declaredSize data)) = declaredSize data :=
    congrArg (fun word : UInt16 => (word.toNat + 1) * 4)
      (u16At_of_take_eq (n := declaredSize data) (by rw [take_take, Nat.min_self])
        (by omega))
  refine ⟨hsi.trans hl.symm, h.padded.trans_eq hl.symm, ?_⟩
  rwa [byteAt_take (by omega), byteAt_take (by omega), hl, ← h.content]

theorem validPackets_walk (hfu : data.length ≤ fuel) (hv : validPackets fuel data = true) :
    parsedParts fuel data = validParts fuel data ∧ (parsedParts fuel data).flatten = data ∧
      ∀ part ∈ parsedParts fuel data, WellFormed part := by
  induction fuel generalizing data with
  | zero =>
    rw [length_eq_zero_iff.mp (Nat.le_zero.mp hfu)]
    exact ⟨rfl, rfl, fun part hp => (not_mem_nil hp).elim⟩
  | succ fuel ih =>
    have hfo := four_le_declaredSize data
    by_cases he : data = []
    · subst he
      exact ⟨rfl, rfl, fun part hp => (not_mem_nil hp).elim⟩
    cases hf : frontContent data with
    | none =>
      cases data with
      | nil => exact absurd rfl he
      | cons b rest =>
        rw [validPackets, hf] at hv
        · cases hv
        · exact cons_ne_nil b rest
    | some content =>
      have hs := frontContent_spec hf
      rw [validPackets_step hf, Bool.and_eq_true] at hv
      have hr : (data.drop (declaredSize data)).length ≤ fuel := by
        rw [length_drop]
        omega
      obtain ⟨hc, hfl, hpa⟩ := ih hr hv.2
      have hst : parsedParts (fuel + 1) data = data.take (declaredSize data) ::
          parsedParts fuel (data.drop (declaredSize data)) := by
        have hfi := hs.fits
        rw [parsedParts, if_neg (by have := hs.version; grind)]
      rw [hst]
      refine ⟨?_, ?_, ?_⟩
      · rw [validParts, hf]
        dsimp only
        rw [if_pos hv.1, hc]
      · rw [flatten_cons, hfl, take_append_drop]
      intro part hp
      rcases mem_cons.mp hp with rfl | hp
      · exact hs.wellFormed hv.1
      · exact hpa part hp

def blocksAt (content : Bytes) (start count : Nat) : List ReportBlock :=
  (List.range count).map fun i => parseReportBlock ((content.drop (start + 24 * i)).take 24)

theorem parseReportBlock_take (data : Bytes) :
    parseReportBlock (data.take 24) = parseReportBlock data := by
  simp [parseReportBlock, u32At, byteAt_take]

theorem parseReportBlocks_eq {start count : Nat} (h : start + 24 * count ≤ content.length) :
    parseReportBlocks (content.drop start) count = blocksAt content start count := by
  induction count generalizing start with
  | zero => rfl
  | succ count ih =>
    rw [parseReportBlocks, if_neg (by rw [length_drop]; omega), drop_drop,
      ih (by omega), blocksAt, blocksAt, List.range_succ_eq_map, List.map_cons, List.map_map,
      parseReportBlock_take]
    refine congrArg₂ _ rfl (map_congr_left fun i _ => ?_)
    rw [Function.comp_apply, Nat.mul_succ, Nat.add_right_comm, Nat.add_assoc start]

theorem parseByeSsrcs_eq {offset count : Nat} (h : offset + 4 * count ≤ content.length) :
    (parseByeSsrcs content count offset).1 =
      (List.range count).map fun i => u32At content (offset + 4 * i) := by
  induction count generalizing offset with
  | zero => rfl
  | succ count ih =>
    rw [parseByeSsrcs, if_neg (by omega)]
    dsimp only
    rw [ih (by omega), List.range_succ_eq_map, List.map_cons, List.map_map]
    refine congrArg₂ _ rfl (map_congr_left fun i _ => ?_)
    rw [Function.comp_apply, Nat.mul_succ, Nat.add_right_comm, Nat.add_assoc offset]

/-- A report gives exactly its declared blocks and a BYE its declared sources, all from
the bytes before the padding; a packet of another type gives nothing. -/
def ReadWhole (part : Bytes) : Prop :=
  ∃ content padding, part = content ++ padding ∧ padding.length = padLength part ∧
    (byteAt part 1 = rtcpSr → 28 + 24 * (byteAt part 0 &&& 31).toNat ≤ content.length ∧
      ∃ sr, readPart part = some (.senderReport sr) ∧
        sr.reportBlocks = blocksAt content 28 (byteAt part 0 &&& 31).toNat) ∧
    (byteAt part 1 = rtcpRr → 8 + 24 * (byteAt part 0 &&& 31).toNat ≤ content.length ∧
      ∃ rr, readPart part = some (.receiverReport rr) ∧
        rr.reportBlocks = blocksAt content 8 (byteAt part 0 &&& 31).toNat) ∧
    (byteAt part 1 = rtcpBye → 4 + 4 * (byteAt part 0 &&& 31).toNat ≤ content.length ∧
      ∃ bye, readPart part = some (.bye bye) ∧
        bye.ssrcList = (List.range (byteAt part 0 &&& 31).toNat).map
          fun i => u32At content (4 + 4 * i)) ∧
    (byteAt part 1 ≠ rtcpSr → byteAt part 1 ≠ rtcpRr → byteAt part 1 ≠ rtcpBye →
      readPart part = none)

theorem WellFormed.readWhole (h : WellFormed part) : ReadWhole part := by
  have hv := h.valid
  refine ⟨part.take (part.length - padLength part), part.drop (part.length - padLength part),
    (take_append_drop _ _).symm, ?_, ?_⟩
  · rw [length_drop]
    have := h.padded
    omega
  rw [readPart, stripPadding_eq h.padded]
  generalize part.take (part.length - padLength part) = content at hv ⊢
  generalize (byteAt part 0 &&& 31).toNat = count at hv ⊢
  generalize byteAt part 1 = kind at hv ⊢
  refine ⟨?_, ?_, ?_, ?_⟩
  · rintro rfl
    have hl : 28 + 24 * count ≤ content.length := by
      have : (!decide (content.length < 28 + count * 24)) = true := hv
      grind
    rw [parsePacket, if_pos ⟨rfl, by omega⟩]
    exact ⟨hl, _, rfl, parseReportBlocks_eq hl⟩
  · rintro rfl
    have hl : 8 + 24 * count ≤ content.length := by
      have : (!decide (content.length < 8 + count * 24)) = true := hv
      grind
    rw [parsePacket, if_neg (fun h => absurd h.1 (by decide)), if_pos ⟨rfl, by omega⟩]
    exact ⟨hl, _, rfl, parseReportBlocks_eq hl⟩
  · rintro rfl
    have hl : 4 + 4 * count ≤ content.length := by
      by_contra hs
      rw [validContent_bye, if_pos (.inr (by omega))] at hv
      cases hv
    exact ⟨hl, _, rfl, parseByeSsrcs_eq hl⟩
  · intro hsr hrr hb
    rw [parsePacket, if_neg (fun h => hsr h.1), if_neg (fun h => hrr h.1), if_neg hb]

/-- Validation never leaves the datagram, and the parser reads an accepted one to its
end along the cuts of the validator. -/
theorem validation_agrees_with_parsing (data : Bytes) :
    Checked.validCompound data = some (validCompound data) ∧
      (validCompound data = true → parsedParts data.length data = validParts data.length data ∧
        (parsedParts data.length data).flatten = data ∧
        parseRtcp data = (parsedParts data.length data).filterMap readPart ∧
        ∀ part ∈ parsedParts data.length data,
          declaredSize part = part.length ∧ ReadWhole part) := by
  refine ⟨Checked.validCompound_eq data, fun hvalid => ?_⟩
  rw [validCompound, Bool.and_eq_true] at hvalid
  obtain ⟨hcut, hflat, hparts⟩ := validPackets_walk (Nat.le_refl _) hvalid.2
  exact ⟨hcut, hflat, parsePackets_eq _ _,
    fun part hpart => ⟨(hparts part hpart).size, (hparts part hpart).readWhole⟩⟩

def sampleCompound : Bytes :=
  [0x80, 201, 0, 1, 0, 0, 0, 7, 0xA1, 203, 0, 2, 0, 0, 0, 7, 0, 0, 0, 4]

theorem sampleCompound_agrees : validCompound sampleCompound = true ∧
      (parsedParts sampleCompound.length sampleCompound).flatten = sampleCompound ∧
      parseRtcp sampleCompound = [.receiverReport ⟨7, []⟩, .bye ⟨[7], none⟩] :=
  ⟨by decide, ((validation_agrees_with_parsing sampleCompound).2 (by decide)).2.1, by decide⟩

end Walks

end RtpBridge.Rtcp
