/-
The frames of a capture file: `build_pcap_frame` of `recording/pcap_writer.rs` and
`parse_frame` of `bin/pcap2audio.rs`.

Sums of words are 32 bits wide in the program, which is enough for every payload that fits
the length fields.
-/
import RtpBridge.Base.IpAddr
import RtpBridge.Base.OnesComplement

namespace RtpBridge.Capture

open Wire List

variable {payload : Bytes}

def octets : IpAddr → Bytes
  | .v4 ip => beBytes 4 ip.toNat
  | .v6 ip => beBytes 16 ip.toNat

def ipv4Octets : IpAddr → Bytes
  | .v4 ip => octets (.v4 ip)
  | .v6 ip =>
    let fold := fun i n => (((octets (.v6 ip)).drop i).take n).foldl (· ^^^ ·) 0
    [10, fold 0 6, fold 6 5, fold 11 5]

def ipv4Checksum (header : Bytes) : Nat := 0xFFFF - foldCarries (words header).sum

def udpLen (payload : Bytes) : Nat := min (8 + payload.length) 0xFFFF

def udpHeader (srcPort dstPort : UInt16) (payload : Bytes) (checksum : Nat) : Bytes :=
  beBytes 2 srcPort.toNat ++ (beBytes 2 dstPort.toNat ++
    (beBytes 2 (udpLen payload) ++ beBytes 2 checksum))

def ipv4Header (src dst payload : Bytes) (checksum : Nat) : Bytes :=
  [0x45, 0x00] ++ (beBytes 2 (min (20 + 8 + payload.length) 0xFFFF) ++
    ([0x00, 0x00, 0x40, 0x00, 64, 17] ++ (beBytes 2 checksum ++ (src ++ dst))))

def buildIpv4Frame (src : Bytes) (srcPort : UInt16) (dst : Bytes) (dstPort : UInt16)
    (payload : Bytes) : Bytes :=
  replicate 12 0 ++ ([0x08, 0x00] ++
    (ipv4Header src dst payload (ipv4Checksum (ipv4Header src dst payload 0)) ++
      (udpHeader srcPort dstPort payload 0 ++ payload)))

def udp6Checksum (src dst : BitVec 128) (srcPort dstPort : UInt16) (payload : Bytes) : Nat :=
  let sum := (words (octets (.v6 src))).sum + (words (octets (.v6 dst))).sum + udpLen payload +
    17 + srcPort.toNat + dstPort.toNat + udpLen payload + (words payload).sum
  let cs := 0xFFFF - foldCarries sum
  if cs = 0 then 0xFFFF else cs

def buildIpv6Frame (src : BitVec 128) (srcPort : UInt16) (dst : BitVec 128) (dstPort : UInt16)
    (payload : Bytes) : Bytes :=
  replicate 12 0 ++ ([0x86, 0xDD] ++ ([0x60, 0x00, 0x00, 0x00] ++ (beBytes 2 (udpLen payload) ++
    ([17, 64] ++ (octets (.v6 src) ++ (octets (.v6 dst) ++
      (udpHeader srcPort dstPort payload (udp6Checksum src dst srcPort dstPort payload) ++
        payload)))))))

def buildPcapFrame (src dst : SocketAddr) (payload : Bytes) : Bytes :=
  match src.ip, dst.ip with
  | .v6 a, .v6 b => buildIpv6Frame a src.port b dst.port payload
  | a, b => buildIpv4Frame (ipv4Octets a) src.port (ipv4Octets b) dst.port payload

def ipv4At (data : Bytes) (i : Nat) : IpAddr := .v4 (.ofNat 32 (beNat ((data.drop i).take 4)))

def ipv6At (data : Bytes) (i : Nat) : IpAddr := .v6 (.ofNat 128 (beNat ((data.drop i).take 16)))

def parseFrame (data : Bytes) : Option (SocketAddr × SocketAddr × Bytes) :=
  if data.length < 14 then none
  else if u16At data 12 = 0x0800 then
    if data.length < 34 then none
    else
      let ipEnd := 14 + (byteAt data 14 &&& 0x0F).toNat * 4
      if byteAt data 23 ≠ 17 ∨ data.length < ipEnd + 8 then none
      else
        some (.new (ipv4At data 26) (u16At data ipEnd),
          .new (ipv4At data 30) (u16At data (ipEnd + 2)), data.drop (ipEnd + 8))
  else if u16At data 12 = 0x86DD then
    if data.length < 62 ∨ byteAt data 20 ≠ 17 then none
    else
      some (.new (ipv6At data 22) (u16At data 54), .new (ipv6At data 38) (u16At data 56),
        data.drop 62)
  else none

/-! ## Reading a frame back -/

theorem ofNat_beBytes (v : UInt16) : UInt16.ofNat (beNat (beBytes 2 v.toNat)) = v := by
  have hv : v.toNat < 256 ^ 2 := v.toNat_lt
  rw [beNat_beBytes, Nat.mod_eq_of_lt hv]
  exact UInt16.ofNat_toNat

theorem toNat_beBytes {n : Nat} (h : n ≤ 0xFFFF) :
    (UInt16.ofNat (beNat (beBytes 2 n))).toNat = n := by
  rw [beNat_beBytes, UInt16.toNat_ofNat']
  omega

theorem bits_beBytes {w : Nat} (a : BitVec (8 * w)) :
    BitVec.ofNat (8 * w) (beNat (beBytes w a.toNat)) = a := by
  have ha : a.toNat < 256 ^ w := by
    rw [show 256 = 2 ^ 8 from rfl, ← Nat.pow_mul]
    exact a.isLt
  rw [beNat_beBytes, Nat.mod_eq_of_lt ha, BitVec.ofNat_toNat, BitVec.setWidth_eq]

theorem parse_ipv4 (a b : BitVec 32) (p q : UInt16) (payload : Bytes) :
    parseFrame (buildIpv4Frame (octets (.v4 a)) p (octets (.v4 b)) q payload) =
      some (.v4 a p, .v4 b q, payload) := by
  generalize hd : buildIpv4Frame (octets (.v4 a)) p (octets (.v4 b)) q payload = data
  have hl : data.length = 42 + payload.length := by
    subst hd
    simp [buildIpv4Frame, ipv4Header, udpHeader, octets]
    omega
  have he : byteAt data 12 = 0x08 ∧ byteAt data 13 = 0x00 ∧ byteAt data 14 = 0x45 ∧
      byteAt data 23 = 17 := by
    subst hd
    exact ⟨rfl, rfl, rfl, rfl⟩
  have ha : ipv4At data 26 = .v4 a := by
    subst hd
    exact congrArg IpAddr.v4 (bits_beBytes (w := 4) a)
  have hb : ipv4At data 30 = .v4 b := by
    subst hd
    exact congrArg IpAddr.v4 (bits_beBytes (w := 4) b)
  have hsp : u16At data 34 = p := by
    subst hd
    exact ofNat_beBytes p
  have hdp : u16At data 36 = q := by
    subst hd
    exact ofNat_beBytes q
  have hpl : data.drop 42 = payload := by
    subst hd
    rfl
  have het : u16At data 12 = 0x0800 := by
    rw [u16At, he.1, he.2.1]
    rfl
  have hie : 14 + (byteAt data 14 &&& 0x0F).toNat * 4 = 34 := by
    rw [he.2.2.1]
    rfl
  unfold parseFrame
  rw [if_neg (by omega), if_pos het, if_neg (by omega)]
  rw [hie, if_neg (by simp [he.2.2.2, hl]), ha, hb, hsp, hdp, hpl]
  rfl

theorem parse_ipv6 (a b : BitVec 128) (p q : UInt16) (payload : Bytes) :
    parseFrame (buildIpv6Frame a p b q payload) = some (.v6 a p 0 0, .v6 b q 0 0, payload) := by
  generalize hd : buildIpv6Frame a p b q payload = data
  have hl : data.length = 62 + payload.length := by
    subst hd
    simp [buildIpv6Frame, udpHeader, octets]
    omega
  have he : byteAt data 12 = 0x86 ∧ byteAt data 13 = 0xDD ∧ byteAt data 20 = 17 := by
    subst hd
    exact ⟨rfl, rfl, rfl⟩
  have ha : ipv6At data 22 = .v6 a := by
    subst hd
    exact congrArg IpAddr.v6 (bits_beBytes (w := 16) a)
  have hb : ipv6At data 38 = .v6 b := by
    subst hd
    exact congrArg IpAddr.v6 (bits_beBytes (w := 16) b)
  have hsp : u16At data 54 = p := by
    subst hd
    exact ofNat_beBytes p
  have hdp : u16At data 56 = q := by
    subst hd
    exact ofNat_beBytes q
  have hpl : data.drop 62 = payload := by
    subst hd
    rfl
  have het : u16At data 12 = 0x86DD := by
    rw [u16At, he.1, he.2.1]
    rfl
  unfold parseFrame
  rw [if_neg (by omega), if_neg (by rw [het]; decide), if_pos het,
    if_neg (by simp [he.2.2, hl]), ha, hb, hsp, hdp, hpl]
  rfl

/-! ## Checksums -/

theorem ipv4_checksum_full (src dst payload : Bytes) :
    onesSum (ipv4Header src dst payload (ipv4Checksum (ipv4Header src dst payload 0))) =
      0xFFFF := by
  have hw : ∀ c, (words (ipv4Header src dst payload c)).sum =
      (words (ipv4Header src dst payload 0)).sum + c % 2 ^ 16 := by
    simp only [ipv4Header, words_append, words_beBytes, length_cons, length_nil, length_beBytes,
      sum_append, sum_cons]
    omega
  have hf := foldCarries_spec (words (ipv4Header src dst payload 0)).sum
  have hp : 0 < (words (ipv4Header src dst payload 0)).sum := by
    simp only [ipv4Header, words_append, length_cons, length_nil, sum_append, words]
    simp
  apply onesSum_eq_full
  · rw [hw, ipv4Checksum]
    omega
  · rw [hw]
    omega

def pseudoHeader (src dst : BitVec 128) (payload : Bytes) : Bytes :=
  octets (.v6 src) ++ (octets (.v6 dst) ++ (beBytes 4 (8 + payload.length) ++ [0, 0, 0, 17]))

theorem udp6_checksum_full (a b : BitVec 128) (p q : UInt16) (hl : payload.length ≤ 65527) :
    onesSum (pseudoHeader a b payload ++
      (udpHeader p q payload (udp6Checksum a b p q payload) ++ payload)) = 0xFFFF := by
  have hlen : udpLen payload = 8 + payload.length := by
    unfold udpLen
    omega
  have hp := p.toNat_lt
  have hq := q.toNat_lt
  have hb4 : beBytes 4 (8 + payload.length) = beBytes 2 0 ++ beBytes 2 (8 + payload.length) := by
    rw [show 4 = 2 + 2 from rfl, beBytes_append, Nat.div_eq_of_lt (by omega)]
  have hw : ∀ c, (words (pseudoHeader a b payload ++ (udpHeader p q payload c ++ payload))).sum =
      (words (octets (.v6 a))).sum + (words (octets (.v6 b))).sum + udpLen payload + 17 +
        p.toNat + q.toNat + udpLen payload + (words payload).sum + c % 2 ^ 16 := by
    intro c
    simp only [pseudoHeader, udpHeader, hb4, append_assoc, octets, words_append, words_beBytes,
      length_beBytes, length_cons, length_nil, sum_append, sum_cons, sum_nil]
    rw [show words [0, 0, 0, 17] = [0, 17] from rfl, sum_cons, sum_singleton]
    omega
  have hf := foldCarries_spec ((words (octets (.v6 a))).sum + (words (octets (.v6 b))).sum +
    udpLen payload + 17 + p.toNat + q.toNat + udpLen payload + (words payload).sum)
  apply onesSum_eq_full
  · rw [hw]
    unfold udp6Checksum
    dsimp only
    split <;> omega
  · rw [hw]
    omega

theorem udp6Checksum_range (a b : BitVec 128) (p q : UInt16) (payload : Bytes) :
    0 < udp6Checksum a b p q payload ∧ udp6Checksum a b p q payload ≤ 0xFFFF := by
  unfold udp6Checksum
  dsimp only
  split <;> omega

/-- A frame reads back as its addresses, ports and payload, its length fields are the true
lengths, and its checksums are right.  The flow information and the scope of an IPv6 socket
address are not in the frame and read back as zero. -/
theorem capture_frames_invert (payload : Bytes) :
    (payload.length ≤ 65507 → ∀ (a b : BitVec 32) (p q : UInt16),
      let frame := buildPcapFrame (.v4 a p) (.v4 b q) payload
      parseFrame frame = some (.v4 a p, .v4 b q, payload) ∧
      (u16At frame 16).toNat = 20 + 8 + payload.length ∧
      (u16At frame 38).toNat = 8 + payload.length ∧
      onesSum ((frame.drop 14).take 20) = 0xFFFF) ∧
    (payload.length ≤ 65527 → ∀ (a b : BitVec 128) (p q : UInt16) (f f' s s' : UInt32),
      let frame := buildPcapFrame (.v6 a p f s) (.v6 b q f' s') payload
      parseFrame frame = some (.v6 a p 0 0, .v6 b q 0 0, payload) ∧
      (u16At frame 18).toNat = 8 + payload.length ∧
      (u16At frame 58).toNat = 8 + payload.length ∧
      onesSum (pseudoHeader a b payload ++ frame.drop 54) = 0xFFFF ∧
      u16At frame 60 ≠ 0) := by
  constructor
  · intro hl a b p q
    have ht : min (20 + 8 + payload.length) 0xFFFF = 20 + 8 + payload.length := by omega
    have hu : udpLen payload = 8 + payload.length := by
      unfold udpLen
      omega
    refine ⟨parse_ipv4 a b p q payload, ?_, ?_, ?_⟩
    · refine Eq.trans (toNat_beBytes (n := min (20 + 8 + payload.length) 0xFFFF) ?_) ht
      omega
    · exact (toNat_beBytes (by omega)).trans hu
    · exact ipv4_checksum_full _ _ payload
  · intro hl a b p q f f' s s'
    have hu : udpLen payload = 8 + payload.length := by
      unfold udpLen
      omega
    obtain ⟨hp, hle⟩ := udp6Checksum_range a b p q payload
    refine ⟨parse_ipv6 a b p q payload, ?_, ?_, udp6_checksum_full a b p q hl, ?_⟩
    · exact (toNat_beBytes (by omega)).trans hu
    · exact (toNat_beBytes (by omega)).trans hu
    intro h0
    have hn := toNat_beBytes hle
    have h0 : (UInt16.ofNat (beNat (beBytes 2 (udp6Checksum a b p q payload)))).toNat = 0 :=
      congrArg UInt16.toNat h0
    omega

theorem sample_frames_invert :
    parseFrame (buildPcapFrame (.v4 0x0A000001 4000) (.v4 0x0A000002 4002) [1, 2, 3]) =
        some (.v4 0x0A000001 4000, .v4 0x0A000002 4002, [1, 2, 3]) ∧
      parseFrame (buildPcapFrame (.v6 1 4000 0 0) (.v6 2 4002 0 0) [1, 2, 3]) =
        some (.v6 1 4000 0 0, .v6 2 4002 0 0, [1, 2, 3]) :=
  have h := capture_frames_invert [1, 2, 3]
  ⟨(h.1 (by decide) _ _ _ _).1, (h.2 (by decide) _ _ _ _ _ _ _ _).1⟩

/-- A link-local sender: its scope is lost. -/
theorem scope_not_captured :
    parseFrame (buildPcapFrame (.v6 0xFE800000000000000000000000000001 4000 0 2) (.v6 1 4002 0 0)
        []) ≠
      some (.v6 0xFE800000000000000000000000000001 4000 0 2, .v6 1 4002 0 0, []) := by
  intro h
  revert h
  decide

end RtpBridge.Capture
