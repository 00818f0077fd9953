/-
A generated key press and the detector.
-/
import RtpBridge.Media.DtmfReports

namespace RtpBridge.Dtmf

open Wire Machine List

/-! ## The packets of a press -/

namespace DtmfGenerator

def ticks (durationMs clockRate : UInt32) : Nat :=
  min (durationMs.toNat * clockRate.toNat / 1000) 65535

/-- The durations of the packets, the last of which is sent three times.  They are computed in
32 bits and capped at 16. -/
def written (durationMs clockRate ptimeMs : Nat) : List Nat :=
  ((List.range ((durationMs + ptimeMs - 1) / ptimeMs - 1)).map fun i =>
      min ((i + 1) * (ptimeMs * clockRate / 1000) % 2 ^ 32) 65535) ++
    [min (durationMs * clockRate / 1000 % 2 ^ 32) 65535]

def pressed (eventId volume : UInt8) (opening : List UInt16) (last : UInt16) :
    List (Option TelephoneEvent) :=
  (opening.map fun d => some ⟨eventId, false, volume &&& 0x3F, d⟩) ++
    List.replicate 3 (some ⟨eventId, true, volume &&& 0x3F, last⟩)

theorem written_grows {d c p : Nat} (hp : 1 ≤ p) (hf : d * c < 1000 * 2 ^ 32) :
    (written d c p).Pairwise (· ≤ ·) := by
  -- all packets before the last one lie within the press
  have hw : ((d + p - 1) / p - 1) * p ≤ d := by
    have hle := Nat.div_mul_le_self (d + p - 1) p
    rw [Nat.sub_mul]
    omega
  have hs : ∀ k ≤ (d + p - 1) / p - 1, k * (p * c / 1000) ≤ d * c / 1000 := by
    intro k hk
    calc k * (p * c / 1000)
        ≤ k * (p * c) / 1000 := Nat.mul_div_le_mul_div_assoc _ _ _
      _ ≤ d * c / 1000 := by
        refine Nat.div_le_div_right ?_
        rw [← Nat.mul_assoc]
        exact Nat.mul_le_mul_right _ (Nat.le_trans (Nat.mul_le_mul_right _ hk) hw)
  have ht : d * c / 1000 < 2 ^ 32 := by omega
  refine pairwise_append.mpr ⟨pairwise_map.mpr ?_, pairwise_singleton _ _, ?_⟩
  · refine pairwise_lt_range.imp_of_mem fun {i j} hi hj hlt => ?_
    have hi := hs (i + 1) (mem_range.mp hi)
    have hj := hs (j + 1) (mem_range.mp hj)
    have hle : (i + 1) * (p * c / 1000) ≤ (j + 1) * (p * c / 1000) :=
      Nat.mul_le_mul_right _ (Nat.succ_le_succ (Nat.le_of_lt hlt))
    rw [Nat.mod_eq_of_lt (by omega), Nat.mod_eq_of_lt (by omega)]
    omega
  · intro a ha b hb
    obtain ⟨i, hi, rfl⟩ := mem_map.mp ha
    have hi := hs (i + 1) (mem_range.mp hi)
    rw [mem_singleton.mp hb, Nat.mod_eq_of_lt (by omega), Nat.mod_eq_of_lt ht]
    omega

section Generated

variable {digit : Char} {eventId volume : UInt8} {durationMs clockRate ptimeMs : UInt32}

theorem generate_eq (volume : UInt8) (hdi : digitToEventId digit = some eventId)
    (hdu : 1 ≤ durationMs) (hcl : 1 ≤ clockRate) (hpt : 1 ≤ ptimeMs) :
    ∃ m, (durationMs.toNat + ptimeMs.toNat - 1) / ptimeMs.toNat = m + 1 ∧
      generate digit durationMs volume clockRate ptimeMs = some
        ((List.range m).map (fun i => ⟨buildTelephoneEvent eventId false volume (UInt16.ofNat
            (min ((i + 1) * (ptimeMs.toNat * clockRate.toNat / 1000) % 2 ^ 32) 65535)),
            decide (i = 0)⟩) ++
          (List.range 3).map fun rep => ⟨buildTelephoneEvent eventId true volume (UInt16.ofNat
            (min (durationMs.toNat * clockRate.toNat / 1000 % 2 ^ 32) 65535)),
            decide (m = 0) && decide (rep = 0)⟩) := by
  have hd : 1 ≤ durationMs.toNat := UInt32.le_iff_toNat_le.mp hdu
  have hc : 1 ≤ clockRate.toNat := UInt32.le_iff_toNat_le.mp hcl
  have hp : 1 ≤ ptimeMs.toNat := UInt32.le_iff_toNat_le.mp hpt
  have hpo : ¬(ptimeMs = 0 ∨ clockRate = 0) := by
    rintro (rfl | rfl)
    · exact absurd hp (by decide)
    · exact absurd hc (by decide)
  have hco : 0 < (durationMs.toNat + ptimeMs.toNat - 1) / ptimeMs.toNat :=
    Nat.div_pos (by omega) (by omega)
  obtain ⟨m, hm⟩ := Nat.exists_eq_add_of_lt hco
  rw [Nat.zero_add] at hm
  refine ⟨m, hm, ?_⟩
  unfold generate
  rw [hdi]
  dsimp only [Option.bind_some]
  rw [if_neg hpo, hm, range_succ, flatMap_append, flatMap_singleton, map_eq_flatMap]
  congr 2
  · refine flatMap_congr fun i hi => ?_
    have hti : (UInt32.ofNat i + 1) * UInt32.ofNat (ptimeMs.toNat * clockRate.toNat / 1000) =
        UInt32.ofNat ((i + 1) * (ptimeMs.toNat * clockRate.toNat / 1000)) := by
      rw [UInt32.ofNat_mul, UInt32.ofNat_add]
      rfl
    rw [packetsAt, if_neg (by have := mem_range.mp hi; omega)]
    dsimp only
    rw [hti, UInt32.toNat_ofNat']
  · rw [packetsAt, if_pos (by omega)]
    dsimp only
    rw [UInt32.toNat_ofNat']

theorem generate_reads (volume : UInt8) (hdi : digitToEventId digit = some eventId)
    (hdu : 1 ≤ durationMs) (hcl : 1 ≤ clockRate) (hpt : 1 ≤ ptimeMs) :
    ∃ packets opening last,
      generate digit durationMs volume clockRate ptimeMs = some packets ∧
      packets.map (fun packet => TelephoneEvent.parse packet.payload) =
        pressed eventId volume opening last ∧
      (opening ++ [last]).map UInt16.toNat =
        written durationMs.toNat clockRate.toNat ptimeMs.toNat ∧
      packets.map DtmfPacket.marker = true :: List.replicate (opening.length + 2) false := by
  obtain ⟨m, hm, hg⟩ := generate_eq volume hdi hdu hcl hpt
  have hcap : ∀ n, (UInt16.ofNat (min n 65535)).toNat = min n 65535 := fun n =>
    UInt16.toNat_ofNat_of_lt' (Nat.lt_succ_of_le (Nat.min_le_right _ _))
  refine ⟨_, (List.range m).map fun i => UInt16.ofNat
    (min ((i + 1) * (ptimeMs.toNat * clockRate.toNat / 1000) % 2 ^ 32) 65535),
    UInt16.ofNat (min (durationMs.toNat * clockRate.toNat / 1000 % 2 ^ 32) 65535), hg, ?_, ?_, ?_⟩
  · rw [pressed, map_append, map_map, map_map, map_map]
    congr 1
    · exact map_congr_left fun i _ => TelephoneEvent.parse_build _ _ _ _
    · exact (map_congr_left fun rep _ => TelephoneEvent.parse_build _ _ _ _).trans rfl
  · rw [map_append, map_map, map_singleton, written, hm, hcap]
    exact congrArg (· ++ _) (map_congr_left fun i _ => hcap _)
  cases m with
  | zero => rfl
  | succ m =>
    rw [range_succ_eq_map]
    simp [Function.comp_def, replicate_add]

end Generated
end DtmfGenerator

/-! ## The detector -/

theorem eventIdToDigit_digitToEventId {digit : Char} {eventId : UInt8}
    (h : digitToEventId digit = some eventId) : eventIdToDigit eventId = some digit.toUpper := by
  unfold digitToEventId at h
  split at h
  all_goals cases h
  all_goals decide

open DtmfGenerator (generate ticks pressed)

/-- What is sent for a key, and what a fresh detector makes of it. -/
structure PressDetected (digit : Char) (eventId volume : UInt8) (durationMs clockRate : UInt32)
    (packets : List DtmfPacket) (fed : List (Nat × Bytes × UInt32)) : Prop where
  grows : (packets.filterMap fun packet =>
    (TelephoneEvent.parse packet.payload).map TelephoneEvent.duration).Pairwise (· ≤ ·)
  marked : packets.map DtmfPacket.marker = true :: List.replicate (packets.length - 1) false
  ends : ∃ opening last, packets.map (fun packet => TelephoneEvent.parse packet.payload) =
    pressed eventId volume opening last
  detected : ∃ event, (trace (detect clockRate) {} fed).filterMap Prod.snd = [event] ∧
    event.digit = digit.toUpper ∧ event.volume = volume &&& 0x3F ∧
    event.durationMs.toNat = ticks durationMs clockRate * 1000 / clockRate.toNat

section

variable {digit : Char} {eventId volume : UInt8} {durationMs clockRate timestamp : UInt32}
  {packets : List DtmfPacket} {opening : List UInt16} {last : UInt16}

theorem grows_iff (h : packets.map (fun packet => TelephoneEvent.parse packet.payload) =
      pressed eventId volume opening last) :
    (packets.filterMap fun packet =>
        (TelephoneEvent.parse packet.payload).map TelephoneEvent.duration).Pairwise (· ≤ ·) ↔
      ((opening ++ [last]).map UInt16.toNat).Pairwise (· ≤ ·) := by
  have hdurations : (packets.filterMap fun packet =>
      (TelephoneEvent.parse packet.payload).map TelephoneEvent.duration) =
      opening ++ List.replicate 3 last := by
    have hmap := congrArg (List.filterMap fun event : Option TelephoneEvent =>
      event.map TelephoneEvent.duration) h
    rw [filterMap_map] at hmap
    refine hmap.trans ?_
    rw [pressed, filterMap_append, filterMap_map]
    simp [List.replicate_succ]
  rw [hdurations, pairwise_map, pairwise_append, pairwise_append]
  simp [UInt16.le_iff_toNat_le]

/-- In the range of a press the duration of the event does not show that ticks were cut off. -/
theorem reported_duration (hdu : durationMs.toNat ≤ 10000) :
    min (durationMs.toNat * clockRate.toNat / 1000 % 2 ^ 32) 65535 * 1000 / clockRate.toNat =
      ticks durationMs clockRate * 1000 / clockRate.toNat := by
  unfold ticks
  by_cases hf : durationMs.toNat * clockRate.toNat / 1000 < 2 ^ 32
  · rw [Nat.mod_eq_of_lt hf]
  · have hle := Nat.mul_le_mul_right clockRate.toNat hdu
    rw [Nat.div_eq_of_lt (by omega), Nat.div_eq_of_lt (by omega)]

theorem detected_iff (hdigit : digitToEventId digit = some eventId) (hclock : 1 ≤ clockRate)
    (hreads : packets.map (fun packet => TelephoneEvent.parse packet.payload) =
      pressed eventId volume opening last)
    {fed : List (Nat × Bytes × UInt32)}
    (hfed : fed.map Prod.snd = packets.map fun packet => (packet.payload, timestamp)) :
    (∃ event, (trace (detect clockRate) {} fed).filterMap Prod.snd = [event] ∧
      event.digit = digit.toUpper ∧ event.volume = volume &&& 0x3F ∧
      event.durationMs.toNat = last.toNat * 1000 / clockRate.toNat) ↔
      ((fed.take (opening.length + 1)).map Prod.fst).IsChain fun a b => b - a ≤ dtmfTimeout := by
  have hkey := eventIdToDigit_digitToEventId hdigit
  have hid := digitToEventId_le hdigit
  have hc : 0 < clockRate.toNat := UInt32.le_iff_toNat_le.mp hclock
  have hall : ∀ x ∈ fed, x.2.2 = timestamp := by
    intro x hx
    have hmem := mem_map_of_mem (f := Prod.snd) hx
    rw [hfed] at hmem
    obtain ⟨packet, -, heq⟩ := mem_map.mp hmem
    exact (congrArg Prod.snd heq).symm
  have hread : fed.map (fun x => TelephoneEvent.parse x.2.1) =
      pressed eventId volume opening last := by
    rw [← hreads]
    have hparse := congrArg (List.map fun y : Bytes × UInt32 => TelephoneEvent.parse y.1) hfed
    rwa [map_map, map_map] at hparse
  -- the packets in front of the end, and the three ends
  obtain ⟨front, back, rfl, hfront, hback⟩ := map_eq_append_iff.mp hread
  have hlen : front.length = opening.length := by
    simpa using congrArg List.length hfront
  have hends : ∀ x ∈ back, TelephoneEvent.parse x.2.1 =
      some ⟨eventId, true, volume &&& 0x3F, last⟩ := by
    intro x hx
    have hmem := mem_map_of_mem (f := fun x : Nat × Bytes × UInt32 =>
      TelephoneEvent.parse x.2.1) hx
    rw [hback] at hmem
    exact eq_of_mem_replicate hmem
  have hclosing : ∀ x ∈ back, DtmfGenerator.Carries eventId true x.2.1 ∧ x.2.2 = timestamp :=
    fun x hx => ⟨⟨_, _, hends x hx⟩, hall x (mem_append_right _ hx)⟩
  have hopening : ∀ x ∈ front, DtmfGenerator.Carries eventId false x.2.1 ∧ x.2.2 = timestamp := by
    intro x hx
    have hmem := mem_map_of_mem (f := fun x : Nat × Bytes × UInt32 =>
      TelephoneEvent.parse x.2.1) hx
    rw [hfront] at hmem
    obtain ⟨d, -, heq⟩ := mem_map.mp hmem
    exact ⟨⟨_, _, heq.symm⟩, hall x (mem_append_left _ hx)⟩
  have hthree : back.length = 3 := by simpa using congrArg List.length hback
  have hne : back ≠ [] := by rintro rfl; cases hthree
  rw [← hlen, take_length_add_append]
  constructor
  · rintro ⟨event, hevents, -⟩
    by_contra hgap
    have hmany := reports_twice clockRate hid hclosing hne hopening (by omega) hgap
    rw [hevents] at hmany
    exact absurd hmany (Nat.lt_irrefl 1)
  · intro hprompt
    have hawaiting : Awaiting (eventId, timestamp)
        (((front ++ back.take 1).map Prod.fst).headD 0) {} := ⟨by simp, fun c hc => by cases hc⟩
    have hchain : (((front ++ back.take 1).map Prod.fst).headD 0 ::
        (front ++ back.take 1).map Prod.fst).IsChain fun a b => b - a ≤ dtmfTimeout := by
      cases htimes : (front ++ back.take 1).map Prod.fst with
      | nil => simp
      | cons t rest =>
        rw [htimes] at hprompt
        exact isChain_cons_cons.mpr ⟨by simp, hprompt⟩
    obtain ⟨event, hevents, -, x, hx, vol, dur, hparse, hreport⟩ :=
      hawaiting.one_report clockRate hid hclosing hne hopening hchain
    rw [hends x hx] at hparse
    cases hparse
    rw [reportOf, hkey, if_pos hc] at hreport
    cases hreport
    refine ⟨_, hevents, rfl, rfl, Nat.mod_eq_of_lt (Nat.lt_of_le_of_lt (Nat.div_le_self _ _) ?_)⟩
    have := last.toNat_lt
    omega

end

def sampleFed : List (Nat × Bytes × UInt32) :=
  [(0, [5, 10, 0, 160], 4000), (20000000, [5, 138, 1, 64], 4000),
    (20000000, [5, 138, 1, 64], 4000), (20000000, [5, 138, 1, 64], 4000)]

end RtpBridge.Dtmf
