/-
The mixer of a destination, `session/mixer.rs`, fed with decoded frames.

`accepted` and `consumed` are the frames of a source since it was last removed, and
`emitted` all packets ever queued; the program keeps none of them.  `frames_emitted` is a `u64`
there; nobody lives to see it wrap, and it is a natural number here.
-/
import RtpBridge.Session.Rtp.Endpoint

namespace RtpBridge.Mixer

open Session Wire List Machine

abbrev Frame := List Int16

structure SourceState where
  pcmBuffer : Frame := []
  contributed : Bool := false
  queued : List Frame := []

def SourceState.pop (source : SourceState) : SourceState :=
  match source.queued with
  | [] => source
  | samples :: rest => { pcmBuffer := samples, contributed := true, queued := rest }

structure MixerConfig (E : Type) where
  sampleRate : UInt32
  rtpClockRate : UInt32
  destPt : UInt8
  encode : E → Frame → E × Bytes

def MixerConfig.frameSamples {E : Type} (cfg : MixerConfig E) : Nat := (cfg.sampleRate / 50).toNat

def MixerConfig.clockIncrement {E : Type} (cfg : MixerConfig E) : UInt32 := cfg.rtpClockRate / 50

structure DestinationMixer (E : Type) where
  encoder : E
  sources : HashMap EndpointId SourceState := ∅
  rtpTimestamp : UInt32
  framesEmitted : Nat := 0
  outputQueue : List RoutedRtpPacket := []
  accepted : EndpointId → List Frame := fun _ => []
  consumed : EndpointId → List Frame := fun _ => []
  emitted : List RoutedRtpPacket := []

inductive MixerCall where
  | feedPcm (source : EndpointId) (samples : Frame)
  | flushTick
  | drain
  | removeSource (source : EndpointId)
  | retainSources (active : EndpointId → Bool)

def MixerCall.Spares (id : EndpointId) : MixerCall → Prop
  | .feedPcm source _ => id ≠ source
  | .flushTick => False
  | .drain => True
  | .removeSource source => id ≠ source
  | .retainSources active => active id = true

namespace DestinationMixer

variable {E : Type} {cfg : MixerConfig E} {m : DestinationMixer E} {id : EndpointId}

def queue (m : DestinationMixer E) (id : EndpointId) : List Frame :=
  (m.sources.lookup id).elim [] SourceState.queued

def feedPcm (cfg : MixerConfig E) (m : DestinationMixer E) (id : EndpointId) (samples : Frame) :
    DestinationMixer E × Except String Unit :=
  if samples.length ≠ cfg.frameSamples then (m, .error "mixer requires one 20 ms PCM frame")
  else
    let source := (m.sources.lookup id).getD {}
    if source.queued.length < 12 then
      ({ m with
        sources := m.sources.insert id { source with queued := source.queued ++ [samples] }
        accepted := Function.update m.accepted id (m.accepted id ++ [samples]) }, .ok ())
    else (m, .error "mixer source queue full")

def accumulate : List Int → Frame → List Int
  | sum :: sums, x :: xs => (sum + x.toInt) :: accumulate sums xs
  | sums, _ => sums

def clamp (sum : Int) : Int16 := .ofInt (max (-32768) (min 32767 sum))

def mix (n : Nat) (frames : List Frame) : Frame :=
  (frames.foldl accumulate (replicate n 0)).map clamp

def contributions (sources : HashMap EndpointId SourceState) : List Frame :=
  sources.entries.filterMap fun e => if e.2.contributed then some e.2.pcmBuffer else none

def flushTick (cfg : MixerConfig E) (m : DestinationMixer E) : DestinationMixer E :=
  let sources := m.sources.mapValues SourceState.pop
  let consumed := fun id => m.consumed id ++ (m.queue id).head?.toList
  if contributions sources = [] then { m with sources, consumed }
  else
    let (encoder, payload) := cfg.encode m.encoder (mix cfg.frameSamples (contributions sources))
    let packet : RoutedRtpPacket :=
      { sourceEndpointId := 0, payloadType := cfg.destPt, sequenceNumber := 0,
        timestamp := m.rtpTimestamp, ssrc := 0, marker := m.framesEmitted = 0, payload }
    { m with
      encoder, consumed
      rtpTimestamp := m.rtpTimestamp + cfg.clockIncrement
      framesEmitted := m.framesEmitted + 1
      sources := sources.mapValues fun source => { source with contributed := false }
      outputQueue := m.outputQueue ++ [packet]
      emitted := m.emitted ++ [packet] }

def drain (m : DestinationMixer E) : DestinationMixer E × List RoutedRtpPacket :=
  ({ m with outputQueue := [] }, m.outputQueue)

def retainSources (m : DestinationMixer E) (active : EndpointId → Bool) : DestinationMixer E :=
  { m with
    sources := m.sources.retain active
    accepted := fun id => if active id then m.accepted id else []
    consumed := fun id => if active id then m.consumed id else [] }

def removeSource (m : DestinationMixer E) (id : EndpointId) : DestinationMixer E :=
  { m with
    sources := m.sources.erase id
    accepted := Function.update m.accepted id []
    consumed := Function.update m.consumed id [] }

def step (cfg : MixerConfig E) (m : DestinationMixer E) : MixerCall → DestinationMixer E
  | .feedPcm id samples => (m.feedPcm cfg id samples).1
  | .flushTick => m.flushTick cfg
  | .drain => m.drain.1
  | .removeSource id => m.removeSource id
  | .retainSources active => m.retainSources active

/-! ## The sum -/

theorem getElem?_accumulate (sums : List Int) (a : Frame) (i : Nat) :
    (accumulate sums a)[i]? = sums[i]?.map (· + (a.getD i 0).toInt) := by
  induction sums generalizing a i with
  | nil => rfl
  | cons sum sums ih =>
    cases a with
    | nil => cases i <;> simp [accumulate]
    | cons x xs =>
      cases i with
      | zero => rfl
      | succ i => exact ih xs i

theorem mix_eq (n : Nat) (frames : List Frame) :
    mix n frames = (range n).map fun i => clamp (frames.map fun f => (f.getD i 0).toInt).sum := by
  have hf : ∀ (sums : List Int) (i : Nat), (frames.foldl accumulate sums)[i]? =
      sums[i]?.map (· + (frames.map fun f => (f.getD i 0).toInt).sum) := by
    induction frames with
    | nil => simp
    | cons f frames ih =>
      intro sums i
      rw [foldl_cons, ih, getElem?_accumulate]
      simp
  apply ext_getElem?
  intro i
  rw [mix, List.getElem?_map, hf]
  by_cases hi : i < n <;> simp [hi]

theorem mix_perm (n : Nat) {frames frames' : List Frame} (h : frames.Perm frames') :
    mix n frames = mix n frames' := by
  rw [mix_eq, mix_eq]
  refine map_congr_left fun i _ => ?_
  rw [(h.map _).sum_eq]

/-! ## The queues -/

structure Sound (ts : UInt32) (cfg : MixerConfig E) (m : DestinationMixer E) : Prop where
  idle : ∀ id source, m.sources.lookup id = some source → source.contributed = false
  bounded : ∀ id, (m.queue id).length ≤ 12
  fifo : ∀ id, m.accepted id = m.consumed id ++ m.queue id
  clock : m.rtpTimestamp = ts + UInt32.ofNat m.framesEmitted * cfg.clockIncrement
  paced : m.emitted.map (fun p => (p.timestamp, p.marker)) = (range m.framesEmitted).map fun i =>
    (ts + UInt32.ofNat i * cfg.clockIncrement, decide (i = 0))

theorem feedPcm_cases (cfg : MixerConfig E) (m : DestinationMixer E) (id : EndpointId)
    (samples : Frame) :
    ((samples.length = cfg.frameSamples ∧ (m.queue id).length < 12) ∧
      m.feedPcm cfg id samples =
        ({ m with
          sources := m.sources.insert id
            { (m.sources.lookup id).getD {} with queued := m.queue id ++ [samples] }
          accepted := Function.update m.accepted id (m.accepted id ++ [samples]) }, .ok ())) ∨
    (¬ (samples.length = cfg.frameSamples ∧ (m.queue id).length < 12) ∧
      ∃ e, m.feedPcm cfg id samples = (m, .error e)) := by
  have hq : ((m.sources.lookup id).getD {}).queued = m.queue id := by
    unfold queue
    cases m.sources.lookup id <;> rfl
  rw [feedPcm]
  dsimp only
  rw [hq]
  by_cases hs : samples.length = cfg.frameSamples
  · rw [if_neg (not_not.mpr hs)]
    split
    · exact .inl ⟨⟨hs, ‹_›⟩, rfl⟩
    · exact .inr ⟨fun h => ‹¬ _› h.2, _, rfl⟩
  · rw [if_pos hs]
    exact .inr ⟨fun h => hs h.1, _, rfl⟩

theorem feedPcm_own {samples : Frame} (hs : samples.length = cfg.frameSamples)
    (hl : (m.queue id).length < 12) :
    (m.feedPcm cfg id samples).1.queue id = m.queue id ++ [samples] ∧
      (m.feedPcm cfg id samples).1.accepted id = m.accepted id ++ [samples] ∧
      (m.feedPcm cfg id samples).1.consumed id = m.consumed id := by
  rcases feedPcm_cases cfg m id samples with ⟨-, hf⟩ | ⟨hno, -⟩
  · rw [hf]
    refine ⟨?_, Function.update_self .., rfl⟩
    rw [queue, AList.lookup_insert]
    rfl
  · exact absurd ⟨hs, hl⟩ hno

theorem step_spared {call : MixerCall} (cfg : MixerConfig E) (m : DestinationMixer E)
    (h : call.Spares id) : (m.step cfg call).sources.lookup id = m.sources.lookup id ∧
      (m.step cfg call).accepted id = m.accepted id ∧
      (m.step cfg call).consumed id = m.consumed id := by
  cases call with
  | feedPcm source samples =>
    rw [step]
    rcases feedPcm_cases cfg m source samples with ⟨-, hf⟩ | ⟨-, e, hf⟩ <;> rw [hf]
    · exact ⟨AList.lookup_insert_ne h, Function.update_of_ne h _ _, rfl⟩
    · exact ⟨rfl, rfl, rfl⟩
  | flushTick => exact h.elim
  | drain => exact ⟨rfl, rfl, rfl⟩
  | removeSource source =>
    exact ⟨AList.lookup_erase_ne h, Function.update_of_ne h _ _, Function.update_of_ne h _ _⟩
  | retainSources active =>
    exact ⟨(HashMap.lookup_retain ..).trans (if_pos h), if_pos h, if_pos h⟩

theorem queue_congr {m' : DestinationMixer E} (h : m'.sources.lookup id = m.sources.lookup id) :
    m'.queue id = m.queue id := by
  rw [queue, queue, h]

variable {ts : UInt32}

/-- A call after which every source is as it was, or gone with its history. -/
theorem Sound.of_sources {m' : DestinationMixer E} (h : Sound ts cfg m)
    (hsources : ∀ id, (m'.sources.lookup id = m.sources.lookup id ∧
        m'.accepted id = m.accepted id ∧ m'.consumed id = m.consumed id) ∨
      (m'.sources.lookup id = none ∧ m'.accepted id = [] ∧ m'.consumed id = []))
    (hclock : m'.rtpTimestamp = m.rtpTimestamp) (hcount : m'.framesEmitted = m.framesEmitted)
    (hemitted : m'.emitted = m.emitted) : Sound ts cfg m' := by
  refine ⟨fun id source hid => ?_, fun id => ?_, fun id => ?_, ?_, ?_⟩
  · rcases hsources id with ⟨hsame, -⟩ | ⟨hgone, -⟩
    · exact h.idle id source (hsame ▸ hid)
    · rw [hgone] at hid
      cases hid
  · rcases hsources id with ⟨hsame, -⟩ | ⟨hgone, -⟩
    · rw [queue_congr hsame]
      exact h.bounded id
    · rw [queue, hgone]
      exact Nat.zero_le 12
  · rcases hsources id with ⟨hsame, ha, hc⟩ | ⟨hgone, ha, hc⟩
    · rw [queue_congr hsame, ha, hc]
      exact h.fifo id
    · rw [queue, hgone, ha, hc]
      rfl
  · rw [hclock, hcount]
    exact h.clock
  · rw [hemitted, hcount]
    exact h.paced

theorem Sound.feedPcm (h : Sound ts cfg m) (id : EndpointId) (samples : Frame) :
    Sound ts cfg (m.feedPcm cfg id samples).1 := by
  have hother : ∀ j, j ≠ id → _ := fun j hj =>
    step_spared cfg m (show MixerCall.Spares j (.feedPcm id samples) from hj)
  rcases feedPcm_cases cfg m id samples with ⟨⟨hs, hl⟩, hf⟩ | ⟨-, e, hf⟩
  · obtain ⟨hq, ha, hc⟩ := feedPcm_own hs hl
    rw [hf] at hq ha hc ⊢
    rw [step, hf] at hother
    refine ⟨fun j source hj => ?_, fun j => ?_, fun j => ?_, h.clock, h.paced⟩
    · by_cases hji : j = id
      · rw [hji, AList.lookup_insert] at hj
        cases hj
        cases hs : m.sources.lookup id with
        | none => rfl
        | some source => exact h.idle id source hs
      · exact h.idle j source ((hother j hji).1 ▸ hj)
    · by_cases hji : j = id
      · rw [hji, hq, length_append]
        exact Nat.succ_le_of_lt hl
      · rw [queue_congr (hother j hji).1]
        exact h.bounded j
    · by_cases hji : j = id
      · rw [hji, ha, hq, hc, h.fifo, append_assoc]
      · rw [queue_congr (hother j hji).1, (hother j hji).2.1]
        exact h.fifo j
  · rwa [hf]

/-! ## A flush -/

def heads (m : DestinationMixer E) : List Frame :=
  m.sources.entries.filterMap fun e => e.2.queued.head?

theorem contributions_pop
    (h : ∀ id source, m.sources.lookup id = some source → source.contributed = false) :
    contributions (m.sources.mapValues SourceState.pop) = m.heads := by
  unfold contributions HashMap.mapValues heads
  rw [filterMap_map]
  refine filterMap_congr ?_
  rintro ⟨id, buffer, contributed, queued⟩ he
  have hi : contributed = false := h id _ (AList.mem_lookup_iff.mpr he)
  cases queued <;> simp [Sigma.map, SourceState.pop, hi]

theorem queue_flushTick (cfg : MixerConfig E) (m : DestinationMixer E) (id : EndpointId) :
    (m.flushTick cfg).queue id = (m.queue id).tail := by
  have hp : ∀ source : SourceState, source.pop.queued = source.queued.tail := by
    intro source
    unfold SourceState.pop
    split <;> simp_all
  unfold flushTick queue
  dsimp only
  split
  · rw [HashMap.lookup_mapValues]
    cases m.sources.lookup id <;> simp [hp]
  · simp only [HashMap.lookup_mapValues]
    cases m.sources.lookup id <;> simp [hp]

theorem Sound.flushTick (h : Sound ts cfg m) : Sound ts cfg (m.flushTick cfg) := by
  have hq := queue_flushTick cfg m
  have hb : ∀ id, ((m.flushTick cfg).queue id).length ≤ 12 := fun id => by
    have := h.bounded id
    rw [hq, length_tail]
    omega
  have hf : ∀ id, m.accepted id = (m.consumed id ++ (m.queue id).head?.toList) ++
      (m.flushTick cfg).queue id := by
    intro id
    rw [hq, h.fifo, append_assoc]
    cases m.queue id <;> rfl
  revert hb hf
  unfold DestinationMixer.flushTick
  dsimp only
  rw [contributions_pop h.idle]
  split
  · rename_i hn
    refine fun hb hf => ⟨fun id source hs => ?_, hb, hf, h.clock, h.paced⟩
    rw [HashMap.lookup_mapValues, Option.map_eq_some_iff] at hs
    obtain ⟨old, ho, rfl⟩ := hs
    have he : old.queued.head? = none :=
      filterMap_eq_nil_iff.mp hn ⟨id, old⟩ (AList.mem_lookup_iff.mp ho)
    rw [SourceState.pop, head?_eq_none_iff.mp he]
    exact h.idle id old ho
  refine fun hb hf => ⟨fun id source hs => ?_, hb, hf, ?_, ?_⟩
  · simp only [HashMap.lookup_mapValues, Option.map_eq_some_iff] at hs
    obtain ⟨old, -, rfl⟩ := hs
    rfl
  · rw [h.clock, UInt32.ofNat_add, UInt32.add_mul, UInt32.add_assoc]
    simp
  · simp [h.paced, range_succ, h.clock]

theorem Sound.step (h : Sound ts cfg m) (call : MixerCall) :
    Sound ts cfg (m.step cfg call) := by
  cases call with
  | feedPcm id samples => exact h.feedPcm id samples
  | flushTick => exact h.flushTick
  | drain => exact ⟨h.idle, h.bounded, h.fifo, h.clock, h.paced⟩
  | removeSource source =>
    refine h.of_sources (fun id => ?_) rfl rfl rfl
    by_cases hid : id = source
    · subst hid
      exact .inr ⟨AList.lookup_erase .., Function.update_self .., Function.update_self ..⟩
    · exact .inl (step_spared cfg m (show MixerCall.Spares id (.removeSource source) from hid))
  | retainSources active =>
    refine h.of_sources (fun id => ?_) rfl rfl rfl
    by_cases hid : active id = true
    · exact .inl (step_spared cfg m (show MixerCall.Spares id (.retainSources active) from hid))
    · exact .inr ⟨(HashMap.lookup_retain ..).trans (if_neg hid), if_neg hid, if_neg hid⟩

end DestinationMixer
end RtpBridge.Mixer
