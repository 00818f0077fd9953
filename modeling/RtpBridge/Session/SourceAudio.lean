/-
The framing of a source's audio, `session/source_audio.rs` and `media/pcm_frames.rs`, at the
source's own rate.

What the decoder answers to a packet comes with the packet.  A segment is what is heard and
emitted between two discontinuities; the program does not keep it.  Left out are a
`make_decoder` that fails at a discontinuity (the packet is refused and nothing changes), and
the errors of `frames` about an unsupported rate or a resampled frame of the wrong length: only
the source's own rate is modelled, and it is neither checked nor resampled.
-/
import RtpBridge.Session.Routing

namespace RtpBridge.Session

open List

abbrev Pcm := List Int16

namespace AudioCodec

def sampleRate : AudioCodec → Nat
  | pcmu => 8000
  | g722 => 16000
  | opus => 48000
  | l16 rate => rate.toNat

def rtpClockRate : AudioCodec → Nat
  | pcmu | g722 => 8000
  | opus => 48000
  | l16 rate => rate.toNat

def ptimeSamples (codec : AudioCodec) : Nat := codec.sampleRate / 50

def increment (codec : AudioCodec) : Nat := codec.rtpClockRate / 50

def duration (codec : AudioCodec) (samples : Nat) : Nat :=
  samples * codec.rtpClockRate / codec.sampleRate

def Whole (codec : AudioCodec) (samples : Nat) : Prop :=
  codec.sampleRate ∣ samples * codec.rtpClockRate

variable {codec : AudioCodec} {a : Nat}

theorem duration_add (h : codec.Whole a) (b : Nat) :
    codec.duration (a + b) = codec.duration a + codec.duration b := by
  unfold duration
  rw [Nat.add_mul, Nat.add_div_of_dvd_right h]

theorem whole_frame (codec : AudioCodec) : codec.Whole codec.ptimeSamples := by
  have hf : codec.ptimeSamples * codec.rtpClockRate = codec.increment * codec.sampleRate := by
    cases codec <;> rfl
  exact ⟨codec.increment, by rw [hf, Nat.mul_comm]⟩

theorem duration_frame (codec : AudioCodec) (h : 0 < codec.ptimeSamples) :
    codec.duration codec.ptimeSamples = codec.increment := by
  have hr : 0 < codec.sampleRate := Nat.pos_of_ne_zero fun h0 => by simp [ptimeSamples, h0] at h
  have hf : codec.ptimeSamples * codec.rtpClockRate = codec.increment * codec.sampleRate := by
    cases codec <;> rfl
  rw [duration, hf, Nat.mul_div_cancel _ hr]

end AudioCodec

structure PcmFrame where
  timestamp : UInt32
  marker : Bool
  samples : Pcm

structure SourceAudio where
  epoch : Option (UInt32 × UInt16 × UInt32) := none
  framer : Pcm := []
  timestamp : UInt32 := 0
  marker : Bool := true

/-- What an abstract decoder gives: some samples, in whole RTP ticks. -/
structure Decoded (codec : AudioCodec) where
  pcm : Pcm
  nonempty : pcm ≠ []
  whole : codec.Whole pcm.length

namespace SourceAudio

variable {codec : AudioCodec}

def discontinuity (s : SourceAudio) (packet : RoutedRtpPacket) : Bool :=
  s.epoch.any fun (ssrc, seq, ts) =>
    ssrc != packet.ssrc || seq + 1 != packet.sequenceNumber || ts != packet.timestamp

def prepare (s : SourceAudio) (packet : RoutedRtpPacket) : SourceAudio :=
  let framer := if s.discontinuity packet then [] else s.framer
  if framer = [] then
    { s with
      framer
      timestamp := packet.timestamp
      marker := packet.marker || s.discontinuity packet || s.epoch.isNone }
  else { s with framer }

def decode (codec : AudioCodec) (s : SourceAudio) (packet : RoutedRtpPacket)
    (decoded : Except String (Decoded codec)) : SourceAudio × Except String Pcm :=
  if 16 * 1024 < packet.payload.length then (s, .error "encoded audio packet too large")
  else
    match decoded with
    | .error e => (s.prepare packet, .error e)
    | .ok d =>
      if codec.ptimeSamples * 6 < d.pcm.length then
        (s.prepare packet, .error "audio packet exceeds 120 ms")
      else
        ({ s.prepare packet with
          epoch := some (packet.ssrc, packet.sequenceNumber,
            packet.timestamp + .ofNat (codec.duration d.pcm.length)) }, .ok d.pcm)

/-- The loops of `push` and `frames`, one frame a turn. -/
def emit (codec : AudioCodec) : Nat → SourceAudio → SourceAudio × List PcmFrame
  | 0, s => (s, [])
  | n + 1, s =>
    if s.framer.length < codec.ptimeSamples then (s, [])
    else
      let r := emit codec n
        { s with
          framer := s.framer.drop codec.ptimeSamples
          timestamp := s.timestamp + .ofNat codec.increment
          marker := false }
      (r.1, ⟨s.timestamp, s.marker, s.framer.take codec.ptimeSamples⟩ :: r.2)

def frames (codec : AudioCodec) (s : SourceAudio) (pcm : Pcm) :
    SourceAudio × Except String (List PcmFrame) :=
  if codec.ptimeSamples = 0 ∨ codec.ptimeSamples * 6 < pcm.length then
    (s, .error "audio packet exceeds 120 ms")
  else
    let r := emit codec (s.framer ++ pcm).length { s with framer := s.framer ++ pcm }
    (r.1, .ok r.2)

end SourceAudio

/-! ## Segments -/

structure Sample where
  value : Int16
  time : UInt32
  opens : Bool

def PcmFrame.ofSamples (first : Bool) : List Sample → PcmFrame
  | [] => ⟨0, first, []⟩
  | x :: rest => ⟨x.time, first || x.opens, (x :: rest).map Sample.value⟩

def samplesOf (codec : AudioCodec) (packet : RoutedRtpPacket) (pcm : Pcm) : List Sample :=
  pcm.mapIdx fun i x =>
    ⟨x, packet.timestamp + .ofNat (codec.duration i), packet.marker && i == 0⟩

structure Segment where
  heard : List (RoutedRtpPacket × Pcm)
  emitted : List PcmFrame
  restarted : Bool

structure TrackedAudio where
  audio : SourceAudio := {}
  current : Option Segment := none
  closed : List Segment := []

namespace Segment

variable {codec : AudioCodec}

def stream (codec : AudioCodec) (seg : Segment) : List Sample :=
  seg.heard.flatMap fun (packet, pcm) => samplesOf codec packet pcm

def continues (codec : AudioCodec) (seg : Segment) (packet : RoutedRtpPacket) : Bool :=
  seg.heard.getLast?.any fun (last, pcm) =>
    last.ssrc == packet.ssrc && last.sequenceNumber + 1 == packet.sequenceNumber &&
      last.timestamp + .ofNat (codec.duration pcm.length) == packet.timestamp

/-- The frames are cut from the samples heard, and less than one is missing. -/
def Framed (codec : AudioCodec) (seg : Segment) : Prop :=
  ∃ (chunks : List (List Sample)) (rest : List Sample),
    seg.stream codec = chunks.flatten ++ rest ∧ rest.length < codec.ptimeSamples ∧
    (∀ chunk ∈ chunks, chunk.length = codec.ptimeSamples) ∧
    seg.emitted = chunks.mapIdx fun i => PcmFrame.ofSamples (i == 0)

end Segment

namespace TrackedAudio

variable {codec : AudioCodec}

def step (codec : AudioCodec) (t : TrackedAudio)
    (input : RoutedRtpPacket × Except String (Decoded codec)) : TrackedAudio :=
  match t.audio.decode codec input.1 input.2 with
  | (audio, .error _) => { audio, closed := t.current.toList ++ t.closed }
  | (audio, .ok pcm) =>
    match audio.frames codec pcm with
    | (audio, .error _) => { audio, closed := t.current.toList ++ t.closed }
    | (audio, .ok frames) =>
      match t.current.filter (·.continues codec input.1) with
      | some seg =>
        { t with
          audio
          current := some
            { seg with heard := seg.heard ++ [(input.1, pcm)], emitted := seg.emitted ++ frames } }
      | none =>
        { audio, closed := t.current.toList ++ t.closed
          current := some ⟨[(input.1, pcm)], frames,
            t.audio.discontinuity input.1 || t.audio.epoch.isNone⟩ }

def Sound (codec : AudioCodec) (t : TrackedAudio) : Prop :=
  ∀ seg ∈ t.current.toList ++ t.closed, seg.restarted = true → seg.Framed codec

end TrackedAudio

theorem map_value_samplesOf (codec : AudioCodec) (packet : RoutedRtpPacket) (pcm : Pcm) :
    (samplesOf codec packet pcm).map Sample.value = pcm := by
  refine ext_getElem? fun i => ?_
  rw [samplesOf, getElem?_map, getElem?_mapIdx, Option.map_map]
  exact Option.map_id'

structure Speaking (codec : AudioCodec) (stream : List Sample) (emitted : List PcmFrame)
    (s : SourceAudio) (chunks : List (List Sample)) (pending : List Sample) : Prop where
  stream_eq : stream = chunks.flatten ++ pending
  sized : ∀ chunk ∈ chunks, chunk.length = codec.ptimeSamples
  emitted_eq : emitted = chunks.mapIdx fun i => PcmFrame.ofSamples (i == 0)
  framer : s.framer = pending.map Sample.value
  whole : codec.Whole pending.length
  times : ∀ k x, pending[k]? = some x → x.time = s.timestamp + .ofNat (codec.duration k)
  ends : ∀ ssrc seq ts, s.epoch = some (ssrc, seq, ts) →
    ts = s.timestamp + .ofNat (codec.duration pending.length)
  marker : ∀ x, pending[0]? = some x → s.marker = (chunks.length == 0 || x.opens)
  later : ∀ k x, codec.ptimeSamples ≤ k → pending[k]? = some x → x.opens = false

namespace Speaking

variable {codec : AudioCodec} {stream : List Sample} {emitted : List PcmFrame} {s : SourceAudio}
  {chunks : List (List Sample)} {pending : List Sample}

theorem length_framer (h : Speaking codec stream emitted s chunks pending) :
    s.framer.length = pending.length := by rw [h.framer, length_map]

theorem cut (h : Speaking codec stream emitted s chunks pending)
    (hf : codec.ptimeSamples ≤ s.framer.length) (hp : 0 < codec.ptimeSamples) :
    Speaking codec stream
      (emitted ++ [⟨s.timestamp, s.marker, s.framer.take codec.ptimeSamples⟩])
      { s with
        framer := s.framer.drop codec.ptimeSamples
        timestamp := s.timestamp + .ofNat codec.increment
        marker := false }
      (chunks ++ [pending.take codec.ptimeSamples]) (pending.drop codec.ptimeSamples) := by
  rw [h.length_framer] at hf
  have hd := codec.duration_frame hp
  have hw := codec.whole_frame
  refine ⟨by simp [h.stream_eq], fun chunk hc => ?_, ?_, by rw [h.framer, map_drop], ?_,
    fun k x hx => ?_, fun ssrc seq ts he => ?_, fun x hx => ?_, fun k x hk hx => ?_⟩
  · rcases mem_append.mp hc with hc | hc
    · exact h.sized chunk hc
    · rw [mem_singleton.mp hc, length_take_of_le hf]
  · obtain ⟨n, hn⟩ := Nat.exists_eq_succ_of_ne_zero hp.ne'
    obtain ⟨x, rest, rfl⟩ := exists_cons_of_ne_nil (ne_nil_of_length_pos (hp.trans_le hf))
    have ht : x.time = s.timestamp := by simpa [AudioCodec.duration] using h.times 0 x rfl
    rw [h.emitted_eq, h.framer, h.marker x rfl, ← ht, hn]
    simp [PcmFrame.ofSamples]
  · rw [length_drop, AudioCodec.Whole, Nat.sub_mul]
    exact Nat.dvd_sub h.whole hw
  · rw [getElem?_drop] at hx
    rw [h.times _ x hx, AudioCodec.duration_add hw, hd, UInt32.ofNat_add, UInt32.add_assoc]
  · rw [h.ends ssrc seq ts he, UInt32.add_assoc, ← UInt32.ofNat_add, length_drop, ← hd,
      ← AudioCodec.duration_add hw, Nat.add_sub_cancel' hf]
  · rw [getElem?_drop] at hx
    simp [h.later _ x (Nat.le_add_right _ _) hx]
  · rw [getElem?_drop] at hx
    exact h.later _ x (Nat.le_add_right _ _) hx

theorem emit (h : Speaking codec stream emitted s chunks pending) (hp : 0 < codec.ptimeSamples)
    {n : Nat} (hn : s.framer.length ≤ n) :
    ∃ chunks pending, pending.length < codec.ptimeSamples ∧
      Speaking codec stream (emitted ++ (s.emit codec n).2) (s.emit codec n).1 chunks pending := by
  induction n generalizing s emitted chunks pending with
  | zero =>
    rw [h.length_framer] at hn
    exact ⟨chunks, pending, hn.trans_lt hp, by simpa [SourceAudio.emit] using h⟩
  | succ n ih =>
    rw [SourceAudio.emit]
    split
    · rename_i hs
      exact ⟨chunks, pending, h.length_framer ▸ hs, by simpa using h⟩
    · rename_i hs
      have hc := ih (h.cut (Nat.le_of_not_lt hs) hp) (by simp only [length_drop]; omega)
      simpa using hc

theorem hear (h : Speaking codec stream emitted s chunks pending)
    (hs : pending.length < codec.ptimeSamples) (packet : RoutedRtpPacket) (d : Decoded codec)
    {audio : SourceAudio} (hf : audio.framer = s.framer)
    (hst : pending ≠ [] → audio.timestamp = s.timestamp)
    (ht : packet.timestamp = audio.timestamp + .ofNat (codec.duration pending.length))
    (hm : ∀ x, (pending ++ samplesOf codec packet d.pcm)[0]? = some x →
      audio.marker = (chunks.length == 0 || x.opens)) :
    Speaking codec (stream ++ samplesOf codec packet d.pcm) emitted
      { audio with
        framer := audio.framer ++ d.pcm
        epoch := some (packet.ssrc, packet.sequenceNumber,
          packet.timestamp + .ofNat (codec.duration d.pcm.length)) }
      chunks (pending ++ samplesOf codec packet d.pcm) := by
  have hl : (samplesOf codec packet d.pcm).length = d.pcm.length := length_mapIdx
  have hnew : ∀ k x, pending.length ≤ k →
      (pending ++ samplesOf codec packet d.pcm)[k]? = some x →
      x.time = packet.timestamp + .ofNat (codec.duration (k - pending.length)) ∧
        (pending.length < k → x.opens = false) := fun k x hk hx => by
    rw [getElem?_append_right hk, samplesOf, getElem?_mapIdx, Option.map_eq_some_iff] at hx
    obtain ⟨y, -, rfl⟩ := hx
    refine ⟨rfl, fun hlt => ?_⟩
    have ho : k - pending.length ≠ 0 := by omega
    simp [ho]
  refine ⟨by rw [h.stream_eq, append_assoc], h.sized, h.emitted_eq, ?_, ?_, fun k x hx => ?_, ?_,
    hm, fun k x hk hx => (hnew k x (by omega) hx).2 (by omega)⟩
  · rw [hf, h.framer, map_append, map_value_samplesOf]
  · rw [length_append, hl, AudioCodec.Whole, Nat.add_mul]
    exact Nat.dvd_add h.whole d.whole
  · rcases Nat.lt_or_ge k pending.length with hk | hk
    · rw [getElem?_append_left hk] at hx
      rw [h.times k x hx, hst (ne_nil_of_length_pos (Nat.zero_lt_of_lt hk))]
    · rw [(hnew k x hk hx).1, ht, UInt32.add_assoc, ← UInt32.ofNat_add,
        ← AudioCodec.duration_add h.whole, Nat.add_sub_cancel' hk]
  · rintro ssrc seq ts ⟨⟩
    rw [ht, length_append, hl, AudioCodec.duration_add h.whole, UInt32.ofNat_add, UInt32.add_assoc]

end Speaking

namespace SourceAudio

variable {codec : AudioCodec}

theorem decode_cases (s : SourceAudio) (packet : RoutedRtpPacket)
    (decoded : Except String (Decoded codec)) :
    (∃ e, s.decode codec packet decoded = (s, .error e)) ∨
    (∃ e, s.decode codec packet decoded = (s.prepare packet, .error e)) ∨
    ∃ d : Decoded codec, d.pcm.length ≤ codec.ptimeSamples * 6 ∧
      s.decode codec packet decoded = ({ s.prepare packet with
          epoch := some (packet.ssrc, packet.sequenceNumber,
            packet.timestamp + .ofNat (codec.duration d.pcm.length)) }, .ok d.pcm) := by
  unfold decode
  split
  · exact .inl ⟨_, rfl⟩
  cases decoded with
  | error e => exact .inr (.inl ⟨e, rfl⟩)
  | ok d =>
    dsimp only
    split
    · exact .inr (.inl ⟨_, rfl⟩)
    · rename_i hl
      exact .inr (.inr ⟨d, Nat.le_of_not_lt hl, rfl⟩)

theorem prepare_spec (s : SourceAudio) (packet : RoutedRtpPacket) :
    (s.prepare packet).epoch = s.epoch ∧
    (s.prepare packet).framer = (if s.discontinuity packet then [] else s.framer) ∧
    if (s.prepare packet).framer = [] then
      (s.prepare packet).timestamp = packet.timestamp ∧
        (s.prepare packet).marker = (packet.marker || s.discontinuity packet || s.epoch.isNone)
    else (s.prepare packet).timestamp = s.timestamp ∧ (s.prepare packet).marker = s.marker := by
  unfold prepare
  dsimp only
  generalize (if s.discontinuity packet then [] else s.framer) = framer
  split <;> exact ⟨rfl, rfl, rfl, rfl⟩

theorem epoch_emit (s : SourceAudio) (n : Nat) : (s.emit codec n).1.epoch = s.epoch := by
  induction n generalizing s with
  | zero => rfl
  | succ n ih =>
    rw [emit]
    split
    · rfl
    · exact ih _

end SourceAudio

namespace TrackedAudio

structure Inv (codec : AudioCodec) (t : TrackedAudio) : Prop where
  fresh : t.audio.epoch = none → t.audio.framer = []
  closed : ∀ seg ∈ t.closed, seg.restarted = true → seg.Framed codec
  last : ∀ seg, t.current = some seg → ∃ last pcm, seg.heard.getLast? = some (last, pcm) ∧
    t.audio.epoch = some (last.ssrc, last.sequenceNumber,
      last.timestamp + .ofNat (codec.duration pcm.length))
  current : ∀ seg, t.current = some seg → seg.restarted = true → seg.stream codec ≠ [] ∧
    ∃ chunks pending, pending.length < codec.ptimeSamples ∧
      Speaking codec (seg.stream codec) seg.emitted t.audio chunks pending

namespace Inv

variable {codec : AudioCodec} {t : TrackedAudio}

theorem sound (h : Inv codec t) : t.Sound codec := by
  intro seg hm hr
  rcases mem_append.mp hm with hm | hm
  · obtain ⟨-, chunks, pending, hl, hsp⟩ := h.current seg (Option.mem_toList.mp hm) hr
    exact ⟨chunks, pending, hsp.stream_eq, hl, hsp.sized, hsp.emitted_eq⟩
  · exact h.closed seg hm hr

theorem fail (h : Inv codec t) {audio : SourceAudio} (he : audio.epoch = t.audio.epoch)
    (hf : audio.framer = [] ∨ audio.framer = t.audio.framer) :
    Inv codec { audio, closed := t.current.toList ++ t.closed } := by
  refine ⟨fun hn => ?_, h.sound, nofun, nofun⟩
  rcases hf with hf | hf
  · exact hf
  · exact hf.trans (h.fresh (he ▸ hn))

theorem discontinuity_eq (h : Inv codec t) {seg : Segment} (hc : t.current = some seg)
    (packet : RoutedRtpPacket) :
    t.audio.discontinuity packet = !seg.continues codec packet := by
  obtain ⟨last, pcm, hl, he⟩ := h.last seg hc
  simp [SourceAudio.discontinuity, Segment.continues, hl, he, bne]

theorem step (h : Inv codec t) (input : RoutedRtpPacket × Except String (Decoded codec)) :
    Inv codec (t.step codec input) := by
  obtain ⟨packet, decoded⟩ := input
  obtain ⟨hep, hfr, hsp⟩ := t.audio.prepare_spec packet
  rcases t.audio.decode_cases packet decoded with ⟨e, hd⟩ | ⟨e, hd⟩ | ⟨d, hl, hd⟩
  · rw [TrackedAudio.step, hd]
    exact h.fail rfl (.inr rfl)
  · rw [TrackedAudio.step, hd]
    refine h.fail hep ?_
    rw [hfr]
    split
    · exact .inl rfl
    · exact .inr rfl
  have hpos := length_pos_of_ne_nil d.nonempty
  have hp : 0 < codec.ptimeSamples := by omega
  have hne : samplesOf codec packet d.pcm ≠ [] := ne_nil_of_length_pos (by simp [samplesOf, hpos])
  rw [TrackedAudio.step, hd]
  dsimp only
  rw [SourceAudio.frames, if_neg (by omega)]
  cases hc : t.current.filter (·.continues codec packet) with
  | some seg =>
    obtain ⟨hcu, hco⟩ := Option.filter_eq_some_iff.mp hc
    have hdi : t.audio.discontinuity packet = false := by simp [h.discontinuity_eq hcu, hco]
    obtain ⟨last, pcm, hla, he⟩ := h.last seg hcu
    refine ⟨fun hn => ?_, h.closed, ?_, ?_⟩
    · rw [SourceAudio.epoch_emit] at hn
      cases hn
    · rintro seg' ⟨⟩
      exact ⟨packet, d.pcm, getLast?_concat .., SourceAudio.epoch_emit ..⟩
    · rintro seg' ⟨⟩ hr
      obtain ⟨hst, chunks, pending, hlt, hspk⟩ := h.current seg hcu hr
      have hends := hspk.ends _ _ _ he
      rw [hdi] at hfr
      rw [hdi, he, hfr, hspk.framer] at hsp
      rw [SourceAudio.discontinuity, he] at hdi
      simp only [Option.any_some, Bool.or_eq_false_iff, bne_eq_false_iff_eq] at hdi
      rw [hdi.2] at hends
      have hj : (pending ≠ [] → (t.audio.prepare packet).timestamp = t.audio.timestamp) ∧
          packet.timestamp = (t.audio.prepare packet).timestamp +
            .ofNat (codec.duration pending.length) ∧
          ∀ x, (pending ++ samplesOf codec packet d.pcm)[0]? = some x →
            (t.audio.prepare packet).marker = (chunks.length == 0 || x.opens) := by
        cases pending with
        | nil =>
          refine ⟨(absurd rfl ·), by simp [hsp.1, AudioCodec.duration], fun x hx => ?_⟩
          have hch : chunks ≠ [] := fun h0 => hst (by rw [hspk.stream_eq, h0]; rfl)
          rw [nil_append, samplesOf, getElem?_mapIdx, Option.map_eq_some_iff] at hx
          obtain ⟨y, -, rfl⟩ := hx
          simp [hsp.2, hch]
        | cons y ys =>
          exact ⟨fun _ => hsp.1, hsp.1 ▸ hends, fun x hx => hsp.2.trans (hspk.marker x hx)⟩
      have hh := hspk.hear hlt packet d hfr hj.1 hj.2.1 hj.2.2
      exact ⟨by simp [Segment.stream, hne], by simpa [Segment.stream] using hh.emit hp le_rfl⟩
  | none =>
    refine ⟨fun hn => ?_, h.sound, ?_, ?_⟩
    · rw [SourceAudio.epoch_emit] at hn
      cases hn
    · rintro seg ⟨⟩
      exact ⟨packet, d.pcm, rfl, SourceAudio.epoch_emit ..⟩
    · rintro seg ⟨⟩ hr
      dsimp only at hr
      have hnil : (t.audio.prepare packet).framer = [] := by
        rw [hfr]
        split
        · rfl
        · rename_i hdi
          exact h.fresh (by simpa [hdi] using hr)
      rw [hnil, Bool.or_assoc, hr, Bool.or_true] at hsp
      have hstart : Speaking codec [] [] {} [] [] :=
        ⟨rfl, nofun, rfl, rfl, ⟨0, by simp⟩, nofun, nofun, nofun, nofun⟩
      have hh := hstart.hear hp packet d hnil (absurd rfl ·) (by simp [hsp.1, AudioCodec.duration])
        fun x _ => hsp.2
      refine ⟨?_, ?_⟩
      · simpa [Segment.stream] using hne
      · simpa [Segment.stream] using hh.emit hp le_rfl

end Inv

def samplePacket (sequenceNumber : UInt16) (timestamp : UInt32) : RoutedRtpPacket :=
  { sourceEndpointId := 1, payloadType := 0, sequenceNumber, timestamp, ssrc := 7, marker := false,
    payload := [] }

def samplePcm (n : Nat) : Decoded .pcmu := ⟨replicate (n + 1) 0, by simp, by simp [
  AudioCodec.Whole, AudioCodec.sampleRate, AudioCodec.rtpClockRate]⟩

def sampleInputs : List (RoutedRtpPacket × Except String (Decoded .pcmu)) :=
  [(samplePacket 10 1000, .ok (samplePcm 79)), (samplePacket 20 5000, .ok (samplePcm 960)),
    (samplePacket 11 1080, .ok (samplePcm 159))]

end TrackedAudio
end RtpBridge.Session
