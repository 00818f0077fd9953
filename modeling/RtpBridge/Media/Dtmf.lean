/-
The telephone events of `media/dtmf.rs`: the detector of key presses, the generator
of injected ones, and the payload types that carry them.

The clock is an argument, in nanoseconds.  The detector holds one key press in
progress and the last one an end bit completed; `process_cases` says what one packet
does with them.
-/
import RtpBridge.Base.Bytes

namespace RtpBridge.Dtmf

open Wire List

def dtmfTimeout : Nat := 3 * 10 ^ 9

structure DtmfEvent where
  digit : Char
  durationMs : UInt32
  volume : UInt8
deriving DecidableEq

def eventIdToDigit (id : UInt8) : Option Char :=
  match id with
  | 0 => some '0'
  | 1 => some '1'
  | 2 => some '2'
  | 3 => some '3'
  | 4 => some '4'
  | 5 => some '5'
  | 6 => some '6'
  | 7 => some '7'
  | 8 => some '8'
  | 9 => some '9'
  | 10 => some '*'
  | 11 => some '#'
  | 12 => some 'A'
  | 13 => some 'B'
  | 14 => some 'C'
  | 15 => some 'D'
  | _ => none

def digitToEventId (digit : Char) : Option UInt8 :=
  match digit with
  | '0' => some 0
  | '1' => some 1
  | '2' => some 2
  | '3' => some 3
  | '4' => some 4
  | '5' => some 5
  | '6' => some 6
  | '7' => some 7
  | '8' => some 8
  | '9' => some 9
  | '*' => some 10
  | '#' => some 11
  | 'A' | 'a' => some 12
  | 'B' | 'b' => some 13
  | 'C' | 'c' => some 14
  | 'D' | 'd' => some 15
  | _ => none

theorem digitToEventId_le {digit : Char} {id : UInt8} (h : digitToEventId digit = some id) :
    id ≤ 15 := by
  unfold digitToEventId at h
  split at h
  all_goals cases h
  all_goals decide

structure TelephoneEvent where
  eventId : UInt8
  endBit : Bool
  volume : UInt8
  duration : UInt16
deriving DecidableEq

def TelephoneEvent.parse (payload : Bytes) : Option TelephoneEvent :=
  if payload.length < 4 then none
  else
    some { eventId := byteAt payload 0, endBit := (byteAt payload 1 >>> 7) &&& 1 != 0,
           volume := byteAt payload 1 &&& 0x3F,
           duration := u16At payload 2 }

def buildTelephoneEvent (eventId : UInt8) (endBit : Bool) (volume : UInt8) (duration : UInt16) :
    Bytes :=
  [eventId, (if endBit then 0x80 else 0x00) ||| (volume &&& 0x3F)] ++ beBytes 2 duration.toNat

theorem end_byte (volume : UInt8) (endBit : Bool) :
    let byte := (if endBit then 0x80 else 0x00) ||| (volume &&& 0x3F)
    (byte >>> 7 &&& 1 != 0) = endBit ∧ byte &&& 0x3F = volume &&& 0x3F := by
  have ha : ∀ n : Fin 256, ∀ b : Bool,
      let byte := (if b then 0x80 else 0x00) ||| (UInt8.ofNat n &&& 0x3F)
      (byte >>> 7 &&& 1 != 0) = b ∧ byte &&& 0x3F = UInt8.ofNat n &&& 0x3F := by
    decide +kernel
  have hv := ha ⟨volume.toNat, volume.toNat_lt⟩ endBit
  rwa [UInt8.ofNat_toNat] at hv

theorem TelephoneEvent.parse_build (eventId : UInt8) (endBit : Bool) (volume : UInt8)
    (duration : UInt16) :
    TelephoneEvent.parse (buildTelephoneEvent eventId endBit volume duration) =
      some ⟨eventId, endBit, volume &&& 0x3F, duration⟩ := by
  obtain ⟨he, hv⟩ := end_byte volume endBit
  have hl : (buildTelephoneEvent eventId endBit volume duration).length = 4 := by
    simp [buildTelephoneEvent]
  have hd : u16At (buildTelephoneEvent eventId endBit volume duration) 2 = duration := by
    have hr := u16At_append_beBytes
      [eventId, (if endBit then 0x80 else 0x00) ||| (volume &&& 0x3F)] [] duration
    rwa [append_nil] at hr
  grind [byteAt, buildTelephoneEvent, TelephoneEvent.parse]

/-! ## Detection -/

structure Current where
  eventId : UInt8
  volume : UInt8
  duration : UInt16
  timestamp : UInt32
  startedAt : Nat
deriving DecidableEq

structure DtmfDetector where
  current : Option Current := none
  lastCompleted : Option (UInt8 × UInt32) := none
deriving DecidableEq

def reportOf (clockRate : UInt32) (eventId : UInt8) (volume : UInt8) (duration : UInt16) :
    Option DtmfEvent :=
  (eventIdToDigit eventId).map fun digit =>
    let rate := if clockRate.toNat > 0 then clockRate.toNat else 8000
    { digit := digit, durationMs := UInt32.ofNat (duration.toNat * 1000 / rate), volume := volume }

def Current.report (c : Current) (clockRate : UInt32) : Option DtmfEvent :=
  reportOf clockRate c.eventId c.volume c.duration

def Current.Expired (c : Current) (now : Nat) : Prop := dtmfTimeout < now - c.startedAt

instance (c : Current) (now : Nat) : Decidable (c.Expired now) :=
  inferInstanceAs (Decidable (_ < _))

def Current.key (c : Current) : UInt8 × UInt32 := (c.eventId, c.timestamp)

namespace DtmfDetector

def drainIfTimedOut (det : DtmfDetector) (now : Nat) (clockRate : UInt32) :
    DtmfDetector × Option DtmfEvent :=
  match det.current with
  | some c =>
    if c.Expired now then ({ det with current := none }, c.report clockRate)
    else (det, none)
  | none => (det, none)

def checkTimeout (det : DtmfDetector) (now : Nat) (clockRate : UInt32) :
    DtmfDetector × Option DtmfEvent :=
  det.drainIfTimedOut now clockRate

def process (det : DtmfDetector) (now : Nat) (payload : Bytes) (timestamp clockRate : UInt32) :
    DtmfDetector × Option DtmfEvent :=
  match TelephoneEvent.parse payload with
  | none => (det, none)
  | some p =>
    let packet : Current := ⟨p.eventId, p.volume, p.duration, timestamp, now⟩
    match det.drainIfTimedOut now clockRate with
    | (det, some timedOut) => ({ det with current := some packet }, some timedOut)
    | (det, none) =>
      let interrupted :=
        match det.current with
        | some c => if c.eventId ≠ p.eventId then c.report clockRate else none
        | none => none
      let det := { det with current := some packet }
      if p.endBit then
        -- the interrupted press goes first; a redundant end bit completes the new one
        if interrupted.isSome then (det, interrupted)
        else
          let det := { det with current := none }
          if det.lastCompleted = some (p.eventId, timestamp) then (det, none)
          else
            ({ det with lastCompleted := some (p.eventId, timestamp) }, packet.report clockRate)
      else (det, interrupted)

inductive Processed (det : DtmfDetector) (now : Nat) (p : TelephoneEvent)
    (timestamp clockRate : UInt32) : DtmfDetector × Option DtmfEvent → Prop where
  | timedOut {c : Current} (hc : det.current = some c) (he : c.Expired now) :
      Processed det now p timestamp clockRate
        ({ det with current := some ⟨p.eventId, p.volume, p.duration, timestamp, now⟩ },
          c.report clockRate)
  | interrupted {c : Current} (hc : det.current = some c) (hfr : ¬c.Expired now)
      (ho : c.eventId ≠ p.eventId) :
      Processed det now p timestamp clockRate
        ({ det with current := some ⟨p.eventId, p.volume, p.duration, timestamp, now⟩ },
          c.report clockRate)
  | opened (hf : ∀ c, det.current = some c → ¬c.Expired now ∧ c.eventId = p.eventId)
      (hen : p.endBit = false) :
      Processed det now p timestamp clockRate
        ({ det with current := some ⟨p.eventId, p.volume, p.duration, timestamp, now⟩ }, none)
  | completed (hf : ∀ c, det.current = some c → ¬c.Expired now ∧ c.eventId = p.eventId)
      (hen : p.endBit = true) (hn : det.lastCompleted ≠ some (p.eventId, timestamp)) :
      Processed det now p timestamp clockRate
        (⟨none, some (p.eventId, timestamp)⟩, reportOf clockRate p.eventId p.volume p.duration)
  | suppressed (hf : ∀ c, det.current = some c → ¬c.Expired now ∧ c.eventId = p.eventId)
      (hen : p.endBit = true) (hold : det.lastCompleted = some (p.eventId, timestamp)) :
      Processed det now p timestamp clockRate ({ det with current := none }, none)

theorem process_cases {det : DtmfDetector} {payload : Bytes} {p : TelephoneEvent}
    (hp : TelephoneEvent.parse payload = some p)
    (hv : ∀ c, det.current = some c → (eventIdToDigit c.eventId).isSome)
    (now : Nat) (timestamp clockRate : UInt32) :
    Processed det now p timestamp clockRate (det.process now payload timestamp clockRate) := by
  have hr : ∀ c, det.current = some c → (c.report clockRate).isSome := by
    intro c hc
    rw [Current.report, reportOf, Option.isSome_map]
    exact hv c hc
  -- the packet finds no press to report first
  have hre : ∀ interrupted : Option DtmfEvent, interrupted = none →
      (∀ c, det.current = some c → ¬c.Expired now ∧ c.eventId = p.eventId) →
      Processed det now p timestamp clockRate
        (let packet : Current := ⟨p.eventId, p.volume, p.duration, timestamp, now⟩
         if p.endBit then
           if interrupted.isSome then ({ det with current := some packet }, interrupted)
           else if det.lastCompleted = some (p.eventId, timestamp) then
             ({ det with current := none }, none)
           else
             (⟨none, some (p.eventId, timestamp)⟩, packet.report clockRate)
         else ({ det with current := some packet }, interrupted)) := by
    rintro interrupted rfl hf
    by_cases hen : p.endBit = true
    · rw [if_pos hen]
      by_cases hold : det.lastCompleted = some (p.eventId, timestamp)
      · rw [if_pos hold]
        exact .suppressed hf hen hold
      · rw [if_neg hold]
        exact .completed hf hen hold
    · rw [if_neg hen]
      exact .opened hf (Bool.eq_false_of_not_eq_true hen)
  simp only [process, hp]
  cases hcu : det.current with
  | none =>
    rw [show det.drainIfTimedOut now clockRate = (det, none) by
      simp only [drainIfTimedOut, hcu]]
    simp only [hcu]
    exact hre none rfl fun c hc => by simp [hcu] at hc
  | some c =>
    obtain ⟨event, hev⟩ := Option.isSome_iff_exists.mp (hr c hcu)
    by_cases he : c.Expired now
    · rw [show det.drainIfTimedOut now clockRate = ({ det with current := none }, some event) by
        simp only [drainIfTimedOut, hcu, if_pos he, hev]]
      dsimp only
      rw [← hev]
      exact .timedOut hcu he
    rw [show det.drainIfTimedOut now clockRate = (det, none) by
      simp only [drainIfTimedOut, hcu, if_neg he]]
    simp only [hcu]
    by_cases ho : c.eventId = p.eventId
    · grind
    rw [if_pos ho, hev]
    simp only [Option.isSome_some, if_true, ite_self]
    rw [← hev]
    exact .interrupted hcu he ho

theorem checkTimeout_cases (det : DtmfDetector) (now : Nat) (clockRate : UInt32) :
    (∃ c, det.current = some c ∧ c.Expired now ∧
      det.checkTimeout now clockRate = ({ det with current := none }, c.report clockRate)) ∨
    ((∀ c, det.current = some c → ¬c.Expired now) ∧
      det.checkTimeout now clockRate = (det, none)) := by
  unfold checkTimeout drainIfTimedOut
  grind

end DtmfDetector

/-! ## Generation -/

structure DtmfPacket where
  payload : Bytes
  marker : Bool
deriving DecidableEq

namespace DtmfGenerator

/-- Packet `i` of `count`: the last one carries the whole duration and is sent three
times with the end bit. -/
def packetsAt (eventId volume : UInt8) (total ptimeTicks : UInt32) (count i : Nat) :
    List DtmfPacket :=
  let clamp := fun ticks : UInt32 => UInt16.ofNat (min ticks.toNat 65535)
  if i = count - 1 then
    (List.range 3).map fun rep =>
      { payload := buildTelephoneEvent eventId true volume (clamp total),
        marker := i = 0 && rep = 0 }
  else
    [{ payload := buildTelephoneEvent eventId false volume
          (clamp ((UInt32.ofNat i + 1) * ptimeTicks)),
       marker := i = 0 }]

def generate (digit : Char) (durationMs : UInt32) (volume : UInt8) (clockRate ptimeMs : UInt32) :
    Option (List DtmfPacket) :=
  (digitToEventId digit).bind fun eventId =>
    if ptimeMs = 0 ∨ clockRate = 0 then none
    else
      let total := UInt32.ofNat (durationMs.toNat * clockRate.toNat / 1000)
      let ptimeTicks := UInt32.ofNat (ptimeMs.toNat * clockRate.toNat / 1000)
      let count := (durationMs.toNat + ptimeMs.toNat - 1) / ptimeMs.toNat
      some ((List.range count).flatMap (packetsAt eventId volume total ptimeTicks count))

def Carries (eventId : UInt8) (endBit : Bool) (payload : Bytes) : Prop :=
  ∃ volume duration, TelephoneEvent.parse payload = some ⟨eventId, endBit, volume, duration⟩

structure Press (eventId : UInt8) (packets : List DtmfPacket) : Prop where
  shape : ∃ opening closing, packets = opening ++ closing ∧ closing.length = 3 ∧
    (∀ p ∈ opening, Carries eventId false p.payload) ∧
    ∀ p ∈ closing, Carries eventId true p.payload
  marked : ∃ first rest, packets = first :: rest ∧ first.marker = true ∧
    ∀ p ∈ rest, p.marker = false

section

variable (eventId volume : UInt8) (total ptimeTicks : UInt32)

theorem packetsAt_opening {m i : Nat}
    (hi : i < m) : ∃ duration, packetsAt eventId volume total ptimeTicks (m + 1) i =
      [⟨buildTelephoneEvent eventId false volume duration, decide (i = 0)⟩] := by
  rw [packetsAt, if_neg (by omega)]
  exact ⟨_, rfl⟩

theorem packetsAt_closing (m : Nat) :
    ∃ duration, packetsAt eventId volume total ptimeTicks (m + 1) m =
      [⟨buildTelephoneEvent eventId true volume duration, decide (m = 0)⟩,
        ⟨buildTelephoneEvent eventId true volume duration, false⟩,
        ⟨buildTelephoneEvent eventId true volume duration, false⟩] := by
  rw [packetsAt]
  simp [range_succ]

theorem packets_press (m : Nat) : Press eventId
      ((List.range (m + 1)).flatMap (packetsAt eventId volume total ptimeTicks (m + 1))) := by
  obtain ⟨last, hl⟩ := packetsAt_closing eventId volume total ptimeTicks m
  constructor
  · refine ⟨(List.range m).flatMap (packetsAt eventId volume total ptimeTicks (m + 1)),
      packetsAt eventId volume total ptimeTicks (m + 1) m, ?_, by simp [hl],
      fun p hp => ?_, fun p hp => ?_⟩
    · rw [range_succ, flatMap_append, flatMap_singleton]
    · obtain ⟨i, hi, hp⟩ := mem_flatMap.mp hp
      obtain ⟨duration, hpa⟩ := packetsAt_opening eventId volume total ptimeTicks
        (mem_range.mp hi)
      rw [hpa, mem_singleton] at hp
      rw [hp]
      exact ⟨_, _, TelephoneEvent.parse_build _ _ _ _⟩
    have hpy : p.payload = buildTelephoneEvent eventId true volume last := by
      rw [hl] at hp
      simp only [mem_cons, not_mem_nil, or_false] at hp
      obtain rfl | rfl | rfl := hp <;> rfl
    rw [hpy]
    exact ⟨_, _, TelephoneEvent.parse_build _ _ _ _⟩
  · rw [range_succ_eq_map]
    -- later packets have no marker, whatever their place
    have hla : ∀ p ∈ ((List.range m).map Nat.succ).flatMap
        (packetsAt eventId volume total ptimeTicks (m + 1)), p.marker = false := by
      intro p hp
      obtain ⟨i, hi, hp⟩ := mem_flatMap.mp hp
      obtain ⟨k, hk, rfl⟩ := mem_map.mp hi
      by_cases he : k + 1 < m
      · obtain ⟨duration, hpa⟩ := packetsAt_opening eventId volume total ptimeTicks
          he
        rw [hpa, mem_singleton] at hp
        rw [hp]
        simp
      · grind
    cases m with
    | zero =>
      refine ⟨_, _, by rfl, by simp, fun p hp => ?_⟩
      simp at hp
      rw [hp]
    | succ m =>
      exact ⟨_, _, by rfl, by simp, hla⟩

end

theorem generate_press {digit : Char} {durationMs : UInt32} {volume : UInt8}
    {clockRate ptimeMs : UInt32} {packets : List DtmfPacket}
    (h : generate digit durationMs volume clockRate ptimeMs = some packets)
    (hdu : durationMs ≠ 0) :
    ∃ eventId, digitToEventId digit = some eventId ∧ Press eventId packets := by
  obtain ⟨eventId, hid, hs⟩ := Option.bind_eq_some_iff.mp h
  refine ⟨eventId, hid, ?_⟩
  split at hs
  · cases hs
  rename_i hpo
  have hd : 0 < durationMs.toNat := by
    refine Nat.pos_of_ne_zero fun hz => hdu ?_
    exact UInt32.toNat_inj.mp hz
  have hp : 0 < ptimeMs.toNat := by
    refine Nat.pos_of_ne_zero fun hz => hpo (.inl ?_)
    exact UInt32.toNat_inj.mp hz
  have hc : 0 < (durationMs.toNat + ptimeMs.toNat - 1) / ptimeMs.toNat :=
    Nat.div_pos (by omega) hp
  cases hs
  generalize (durationMs.toNat + ptimeMs.toNat - 1) / ptimeMs.toNat = count at hc ⊢
  obtain ⟨m, rfl⟩ := Nat.exists_eq_add_of_lt hc
  rw [Nat.zero_add]
  exact packets_press _ _ _ _ m

end DtmfGenerator

/-! ## Payload types -/

def isTelephoneEventPt (pt : UInt8) (negotiatedTePt : Option UInt8) : Bool :=
  match negotiatedTePt with
  | some tePt => pt == tePt
  | none => pt == 101 || pt == 96 || pt == 126

end RtpBridge.Dtmf
