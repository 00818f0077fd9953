/-
What `RtcpStats` measures of the network: the round trip time and the jitter.
-/
import RtpBridge.Media.RtcpLoss
import RtpBridge.Media.RtcpReading

namespace RtpBridge.Rtcp

open Wire List

/-! ## Round trip time -/

theorem toNat_middle (secs : Nat) {frac : Nat} (h : frac < 2 ^ 32) :
    (ntpMiddle ((UInt64.ofNat secs <<< 32) ||| UInt64.ofNat frac)).toNat =
      (secs * 65536 + frac / 65536) % 2 ^ 32 := by
  have hs : (UInt64.ofNat secs <<< 32).toNat = 2 ^ 32 * (secs % 2 ^ 32) := by
    rw [UInt64.toNat_shiftLeft, UInt64.toNat_ofNat', Nat.shiftLeft_eq]
    change secs % 2 ^ 64 * 2 ^ 32 % 2 ^ 64 = _
    omega
  rw [ntpMiddle, UInt64.toNat_toUInt32, UInt64.toNat_shiftRight, UInt64.toNat_or, hs,
    UInt64.toNat_ofNat', Nat.mod_eq_of_lt (Nat.lt_trans h (by decide)),
    ← Nat.two_pow_add_eq_or_of_lt h, Nat.shiftRight_eq_div_pow]
  change (2 ^ 32 * (secs % 2 ^ 32) + frac) / 2 ^ 16 % 2 ^ 32 = _
  omega

/-- The time in units of 1/65536 seconds; the fraction is rounded once more. -/
theorem toNat_ntpMiddle (unix : Nat) : (ntpMiddle (ntpOfUnix unix)).toNat =
    (unix * 65536 / 10 ^ 9 + 2208988800 * 65536) % 2 ^ 32 := by
  have hq : unix % 10 ^ 9 * 2 ^ 32 / 10 ^ 9 / 65536 = unix % 10 ^ 9 * 65536 / 10 ^ 9 := by
    rw [Nat.div_div_eq_div_mul]
    omega
  have hu : unix * 65536 / 10 ^ 9 = unix / 10 ^ 9 * 65536 + unix % 10 ^ 9 * 65536 / 10 ^ 9 := by
    omega
  rw [ntpOfUnix, toNat_middle _ (by omega), hq, hu]
  omega

/-- A delay loses less than a unit and a microsecond. -/
theorem toNat_delaySince {now received : Nat} (h : now - received < 65536 * 10 ^ 9) :
    (delaySince now received).toNat * 10 ^ 9 ≤ (now - received) * 65536 ∧
      (now - received) * 65536 < (delaySince now received).toNat * 10 ^ 9 + 2 * 10 ^ 9 := by
  rw [delaySince, UInt32.toNat_ofNat', Nat.min_eq_left (by omega)]
  generalize now - received = elapsed at h
  have hus : elapsed % 10 ^ 9 / 1000 < 10 ^ 6 := by omega
  rw [Nat.mod_eq_of_lt (by omega)]
  omega

/-- The three roundings of a round trip: both ends of it, and the time in between. -/
theorem roundTrip_bounds {sent held delay shift : Nat} {last here held' : UInt32}
    (hlast : last.toNat = (sent * 65536 / 10 ^ 9 + shift) % 2 ^ 32)
    (hhere : here.toNat = ((sent + held + delay) * 65536 / 10 ^ 9 + shift) % 2 ^ 32)
    (hheld : held'.toNat * 10 ^ 9 ≤ held * 65536 ∧
      held * 65536 < held'.toNat * 10 ^ 9 + 2 * 10 ^ 9)
    (hlow : 10 ^ 9 ≤ delay * 65536) (hhigh : delay * 65536 < 655357 * 10 ^ 9) :
    (here - last - held').toNat < 655360 ∧
      delay * 65536 < ((here - last - held').toNat + 1) * 10 ^ 9 ∧
      (here - last - held').toNat * 10 ^ 9 < delay * 65536 + 3 * 10 ^ 9 := by
  obtain ⟨d, hd⟩ : ∃ d, (sent + held + delay) * 65536 / 10 ^ 9 =
      sent * 65536 / 10 ^ 9 + held'.toNat + d :=
    Nat.exists_eq_add_of_le (by omega)
  have hbounds : delay * 65536 < (d + 1) * 10 ^ 9 ∧ d * 10 ^ 9 < delay * 65536 + 3 * 10 ^ 9 := by
    omega
  have hrtt : (here - last - held').toNat = d := by
    rw [UInt32.toNat_sub, UInt32.toNat_sub, hhere, hlast, hd]
    have := held'.toNat_lt
    omega
  rw [hrtt]
  exact ⟨by omega, hbounds⟩

/-- What a party makes of a datagram with reports. -/
def hear (stats : RtcpStats) (now unix : Nat) (ourSsrc : UInt32) (data : Bytes) : RtcpStats :=
  (parseRtcp data).foldl (fun stats packet => stats.processPacket now unix ourSsrc packet) stats

section

variable (stats : RtcpStats) (now unix : Nat) (ourSsrc theirSsrc : UInt32) {peer : RtcpStats}
  (timestamp clockRate : UInt32) (sentAt sentUnix : Nat)

/-- A report reaches the other party as it was sent, but for the loss. -/
theorem hear_report : ∃ block sr, hear stats now unix ourSsrc
        (buildSrRr theirSsrc ourSsrc peer timestamp clockRate sentAt sentUnix).2 =
      (stats.processRr now unix block ourSsrc).processSr now sr ∧ block.ssrc = ourSsrc ∧
      block.lastSr = (sentBlock ourSsrc clockRate peer sentAt).lastSr ∧
      block.delaySinceLastSr = (sentBlock ourSsrc clockRate peer sentAt).delaySinceLastSr ∧
      sr.ssrc = theirSsrc ∧ sr.ntpTimestamp = ntpOfUnix sentUnix := by
  rw [hear, buildSrRr_bytes, parseRtcp_report]
  exact ⟨_, _, rfl, rfl, rfl, rfl, rfl, rfl⟩

/-- What the next block says of a report that was just heard. -/
theorem sentBlock_heard (clockRate' : UInt32) (later : Nat) :
    let heard := hear stats now unix ourSsrc
      (buildSrRr theirSsrc ourSsrc peer timestamp clockRate sentAt sentUnix).2
    (sentBlock theirSsrc clockRate' heard later).lastSr = ntpMiddle (ntpOfUnix sentUnix) ∧
      (sentBlock theirSsrc clockRate' heard later).delaySinceLastSr = delaySince later now := by
  obtain ⟨block, sr, hheard, -, -, -, hssrc, hntp⟩ := hear_report stats now unix ourSsrc theirSsrc
    timestamp clockRate sentAt sentUnix
  rw [hheard]
  constructor
  · simp [sentBlock, RtcpStats.processSr, hssrc, hntp]
  · simp [sentBlock, RtcpStats.processSr, hssrc]

/-- The answer to a report of `firstUnix` that the peer has had since `arrived`. -/
theorem rtt_answered {firstUnix arrived delay : Nat}
    (hlast : (sentBlock ourSsrc clockRate peer sentAt).lastSr = ntpMiddle (ntpOfUnix firstUnix))
    (hdelay : (sentBlock ourSsrc clockRate peer sentAt).delaySinceLastSr =
      delaySince sentAt arrived)
    (hfirst : ntpMiddle (ntpOfUnix firstUnix) ≠ 0) (hheld : sentAt - arrived < 65536 * 10 ^ 9)
    (hlow : 10 ^ 9 ≤ delay * 65536) (hhigh : delay * 65536 < 655357 * 10 ^ 9) :
    ∃ rtt, (hear stats now (firstUnix + (sentAt - arrived) + delay) ourSsrc
        (buildSrRr theirSsrc ourSsrc peer timestamp clockRate sentAt sentUnix).2).rtt = some rtt ∧
      delay * 65536 < (rtt.toNat + 1) * 10 ^ 9 ∧
      rtt.toNat * 10 ^ 9 < delay * 65536 + 3 * 10 ^ 9 := by
  obtain ⟨block, sr, hheard, hs, hlast', hdelay', -, -⟩ := hear_report stats now
    (firstUnix + (sentAt - arrived) + delay) ourSsrc theirSsrc timestamp clockRate sentAt sentUnix
  have hbounds := roundTrip_bounds (toNat_ntpMiddle firstUnix)
    (toNat_ntpMiddle (firstUnix + (sentAt - arrived) + delay)) (toNat_delaySince hheld) hlow hhigh
  rw [← hlast, ← hdelay, ← hlast', ← hdelay'] at hbounds
  rw [← hlast, ← hlast'] at hfirst
  rw [hheard]
  refine ⟨_, ?_, hbounds.2⟩
  simp [RtcpStats.processRr, RtcpStats.processSr, hs, hfirst, hbounds.1]

end

/-- A report goes out at `sentUnix`, the peer answers it some time later, and the answer is
here at `heardUnix`.  The round trip time is then what the network took, in units of 1/65536
seconds and up to three of them. -/
theorem rtt_measures_network (ours theirs : RtcpStats)
    (ourSsrc theirSsrc timestamp timestamp' clockRate clockRate' : UInt32)
    (sentAt sentUnix arrivedAt arrivedUnix answeredAt answeredUnix heardAt delay : Nat)
    (hsent : ntpMiddle (ntpOfUnix sentUnix) ≠ 0)
    (hheld : answeredAt - arrivedAt < 65536 * 10 ^ 9)
    (hlow : 10 ^ 9 ≤ delay * 65536) (hhigh : delay * 65536 < 655357 * 10 ^ 9) :
    let report := buildSrRr ourSsrc theirSsrc ours timestamp clockRate sentAt sentUnix
    let peer := hear theirs arrivedAt arrivedUnix theirSsrc report.2
    let answer := buildSrRr theirSsrc ourSsrc peer timestamp' clockRate' answeredAt answeredUnix
    let heardUnix := sentUnix + (answeredAt - arrivedAt) + delay
    ∃ rtt, (hear report.1 heardAt heardUnix ourSsrc answer.2).rtt = some rtt ∧
      delay * 65536 < (rtt.toNat + 1) * 10 ^ 9 ∧
      rtt.toNat * 10 ^ 9 < delay * 65536 + 3 * 10 ^ 9 := by
  obtain ⟨hlast, hdelay⟩ := sentBlock_heard theirs arrivedAt arrivedUnix theirSsrc ourSsrc
    timestamp clockRate sentAt sentUnix clockRate' answeredAt
  exact rtt_answered _ heardAt ourSsrc theirSsrc timestamp' clockRate' answeredAt answeredUnix
    hlast hdelay hsent hheld hlow hhigh

/-- Forty milliseconds on the way, and a second with the peer. -/
theorem rtt_of_forty_ms :
    ∃ rtt, (hear (buildSrRr 1 2 {} 0 8000 0 0).1 5 1040000000 1
      (buildSrRr 2 1 (hear {} 3 0 2 (buildSrRr 1 2 {} 0 8000 0 0).2) 0 8000 1000000003 0).2).rtt =
        some rtt ∧
      40000000 * 65536 < (rtt.toNat + 1) * 10 ^ 9 ∧
      rtt.toNat * 10 ^ 9 < 40000000 * 65536 + 3 * 10 ^ 9 :=
  rtt_measures_network {} {} 1 2 0 0 8000 8000 0 0 3 0 1000000003 0 5 40000000 (by decide)
    (by decide) (by decide) (by decide)

/-! ## Jitter -/

/-- By how many microseconds the packets are further apart, or closer, than their time stamps. -/
def transitDifference (previous next : Arrival) : Nat :=
  let mediaUs := ((next.timestamp - previous.timestamp).toBitVec.toInt * 1000000).tdiv
    next.clockRate.toNat
  ((min ((next.now - previous.now) / 1000) (2 ^ 63 - 1) : Nat) - mediaUs).natAbs

def receive (stats : RtcpStats) (a : Arrival) : RtcpStats := (lossStep stats (.received a)).1

structure Steady (low high : Nat) (previous next : Arrival) : Prop where
  ssrc : next.ssrc = previous.ssrc
  clockRate : next.clockRate = previous.clockRate
  low_le : low ≤ transitDifference previous next
  le_high : transitDifference previous next ≤ high

/-- A step covers a sixteenth of the way; rounding down it stops short by fifteen from below. -/
theorem smoothed_bounds {jitter : UInt32} {low high d : Nat} (hhigh : high < 2 ^ 32) (hl : low ≤ d)
    (hh : d ≤ high) :
    let next := UInt32.ofNat
      ((jitter.toNat : Int) + (min (d : Int) (2 ^ 32 - 1) - jitter.toNat) / 16).toNat
    16 * (next.toNat - high) ≤ 15 * (jitter.toNat - high) ∧
      16 * (low - 15 - next.toNat) ≤ 15 * (low - 15 - jitter.toNat) := by
  intro next
  have hj := jitter.toNat_lt
  have hnext : next.toNat =
      ((jitter.toNat : Int) + (min (d : Int) (2 ^ 32 - 1) - jitter.toNat) / 16).toNat := by
    rw [UInt32.toNat_ofNat', Nat.mod_eq_of_lt (by omega)]
  rw [hnext]
  omega

/-- The sample the next packet is compared with. -/
def Follows (stats : RtcpStats) (a : Arrival) : Prop :=
  stats.currentSsrc = some a.ssrc ∧
    stats.lastJitterSample = some (a.now, a.timestamp, a.clockRate)

theorem trackSequence_frame (stats : RtcpStats) (seq : UInt16) :
    (stats.trackSequence seq).currentSsrc = stats.currentSsrc ∧
      (stats.trackSequence seq).lastJitterSample = stats.lastJitterSample ∧
      (stats.trackSequence seq).jitter = stats.jitter := by
  simp only [RtcpStats.trackSequence]
  repeat' split
  all_goals exact ⟨rfl, rfl, rfl⟩

theorem follows_receive (stats : RtcpStats) {a : Arrival} (h : 0 < a.clockRate) :
    Follows (receive stats a) a := by
  simp only [Follows, receive, lossStep, RtcpStats.recordReceived, RtcpStats.trackJitter, h,
    if_true, trackSequence_frame, RtcpStats.startGeneration, and_true]
  split <;> simp_all

theorem jitter_receive {stats : RtcpStats} {previous next : Arrival} (h : Follows stats previous)
    (h0 : 0 < previous.clockRate) {low high : Nat} (hs : Steady low high previous next)
    (hhigh : high < 2 ^ 32) :
    16 * ((receive stats next).jitter.toNat - high) ≤ 15 * (stats.jitter.toNat - high) ∧
      16 * (low - 15 - (receive stats next).jitter.toNat) ≤
        15 * (low - 15 - stats.jitter.toNat) := by
  have hjitter : (receive stats next).jitter = UInt32.ofNat ((stats.jitter.toNat : Int) + (min
      (transitDifference previous next : Int) (2 ^ 32 - 1) - stats.jitter.toNat) / 16).toNat := by
    simp [receive, lossStep, RtcpStats.recordReceived, RtcpStats.trackJitter, h0,
      trackSequence_frame, RtcpStats.startGeneration, h.1, h.2, hs.ssrc, hs.clockRate,
      RtcpStats.nextJitter, transitDifference]
  rw [hjitter]
  exact smoothed_bounds hhigh hs.low_le hs.le_high

theorem shrink_succ {n x y z : Nat} (hrest : 16 ^ n * z ≤ 15 ^ n * y) (h : 16 * y ≤ 15 * x) :
    16 ^ (n + 1) * z ≤ 15 ^ (n + 1) * x :=
  calc 16 ^ (n + 1) * z = 16 * (16 ^ n * z) := by ring
    _ ≤ 16 * (15 ^ n * y) := Nat.mul_le_mul_left 16 hrest
    _ = 15 ^ n * (16 * y) := by ring
    _ ≤ 15 ^ n * (15 * x) := Nat.mul_le_mul_left _ h
    _ = 15 ^ (n + 1) * x := by ring

theorem jitter_run {low high : Nat} (hhigh : high < 2 ^ 32) (arrivals : List Arrival)
    {stats : RtcpStats} {a : Arrival} (hf : Follows stats a) (h0 : 0 < a.clockRate)
    (h : (a :: arrivals).IsChain (Steady low high)) :
    16 ^ arrivals.length * ((arrivals.foldl receive stats).jitter.toNat - high) ≤
        15 ^ arrivals.length * (stats.jitter.toNat - high) ∧
      16 ^ arrivals.length * (low - 15 - (arrivals.foldl receive stats).jitter.toNat) ≤
        15 ^ arrivals.length * (low - 15 - stats.jitter.toNat) := by
  induction arrivals generalizing stats a with
  | nil => simp
  | cons b rest ih =>
    rw [List.isChain_cons_cons] at h
    have hstep := jitter_receive hf h0 h.1 hhigh
    rw [← h.1.clockRate] at h0
    have hrest := ih (follows_receive stats h0) h0 h.2
    exact ⟨shrink_succ hrest.1 hstep.1, shrink_succ hrest.2 hstep.2⟩

/-- While the transit differences of a stream stay within `low` and `high`, what the jitter
estimate lies outside of them shrinks by a sixteenth with every packet. -/
theorem jitter_follows_transit (stats : RtcpStats) (a : Arrival) (arrivals : List Arrival)
    (low high : Nat) (hrate : 0 < a.clockRate) (hhigh : high < 2 ^ 32)
    (h : (a :: arrivals).IsChain (Steady low high)) :
    let first := receive stats a
    let last := arrivals.foldl receive first
    16 ^ arrivals.length * (last.jitter.toNat - high) ≤
        15 ^ arrivals.length * (first.jitter.toNat - high) ∧
      16 ^ arrivals.length * (low - 15 - last.jitter.toNat) ≤
        15 ^ arrivals.length * (low - 15 - first.jitter.toNat) := by
  intro first last
  exact jitter_run hhigh arrivals (follows_receive stats hrate) hrate h

/-- Packets 25 ms apart whose time stamps are 20 ms apart. -/
def sampleLate (i : Nat) : Arrival :=
  { ssrc := 7, index := i, now := 25000000 * i, timestamp := UInt32.ofNat (160 * i),
    clockRate := 8000 }

theorem sampleLate_followed :
    16 ^ [sampleLate 1, sampleLate 2].length *
        (5000 - 15 - ([sampleLate 1, sampleLate 2].foldl receive
          (receive {} (sampleLate 0))).jitter.toNat) ≤
      15 ^ [sampleLate 1, sampleLate 2].length *
        (5000 - 15 - (receive {} (sampleLate 0)).jitter.toNat) :=
  (jitter_follows_transit {} (sampleLate 0) [sampleLate 1, sampleLate 2] 5000 5000 (by decide)
    (by decide) (.cons_cons ⟨rfl, rfl, by decide, by decide⟩
      (.cons_cons ⟨rfl, rfl, by decide, by decide⟩ (.singleton _)))).2

end RtpBridge.Rtcp
