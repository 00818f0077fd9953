/-
Voice activity: `process_at` and `check_timeout_at` of `media/vad.rs`.

The predictor and the resampler are arbitrary, time is in nanoseconds, and every call says
how much of it has passed.  `log` is what an observer has seen of a monitor, newest first;
the program does not keep it.  The counts of samples, `u64` in the source, are natural
numbers: at 16 kHz they would take millions of years to wrap.
-/
import Mathlib.Data.List.Basic
import Mathlib.Order.MinMax

namespace RtpBridge.Vad

open List

inductive VadEvent where
  | speechStarted
  | silence (durationMs : Nat)

inductive Entry where
  | frame (speech : Bool) (now : Nat)
  | check (now : Nat)
  | event (e : VadEvent) (now : Nat) (speaking : Bool)

structure VadState where
  isSpeaking : Bool := false
  inSilence : Bool := false
  silenceSamples : Nat := 0
  samplesSinceLastEvent : Nat := 0
  hangoverFrames : Nat := 0
  lastSpeechTime : Option Nat := none
  silenceStartedAt : Option Nat := none
  lastSilenceEventAt : Option Nat := none
  log : List Entry := []

def millisecond : Nat := 1000000

def maxHangover : Nat := 20

def hangover : Nat := maxHangover * 16 * millisecond

namespace VadState

def emit (s : VadState) (now : Nat) (e : VadEvent) : VadState :=
  { s with log := .event e now s.isSpeaking :: s.log }

def enterSilence (s : VadState) (now : Nat) : VadState :=
  { s with
    isSpeaking := false, inSilence := true, silenceSamples := 0, samplesSinceLastEvent := 0
    hangoverFrames := 0, silenceStartedAt := some now, lastSilenceEventAt := some now }

def elapsed (now : Nat) (start : Option Nat) : Nat :=
  start.elim 0 fun start => (now - start) / millisecond

def silenceEvent (interval now : Nat) (s : VadState) : VadState :=
  if s.inSilence = false ∨ s.isSpeaking = true then s
  else if max (s.samplesSinceLastEvent * 1000 / 16000) (elapsed now s.lastSilenceEventAt) <
      interval then s
  else
    emit { s with samplesSinceLastEvent := 0, lastSilenceEventAt := some now } now
      (.silence (max (s.silenceSamples * 1000 / 16000) (elapsed now s.silenceStartedAt)))

def classify (now : Nat) (speech : Bool) (s : VadState) : VadState :=
  if speech then
    let s := { s with lastSpeechTime := some now, hangoverFrames := 0 }
    if s.isSpeaking then s
    else
      emit { s with
        isSpeaking := true, inSilence := false, silenceSamples := 0, samplesSinceLastEvent := 0
        silenceStartedAt := none, lastSilenceEventAt := none } now .speechStarted
  else if s.isSpeaking then
    let s := { s with hangoverFrames := s.hangoverFrames + 1 }
    if maxHangover ≤ s.hangoverFrames then s.enterSilence now else s
  else s

def processFrame (interval now : Nat) (speech : Bool) (s : VadState) : VadState :=
  let s := classify now speech { s with log := .frame speech now :: s.log }
  if s.inSilence = true ∧ s.isSpeaking = false then
    silenceEvent interval now { s with
      silenceSamples := s.silenceSamples + 256
      samplesSinceLastEvent := s.samplesSinceLastEvent + 256 }
  else s

def timeOut (now : Nat) (s : VadState) : VadState :=
  match s.lastSpeechTime with
  | some last =>
    if s.isSpeaking = true ∧ hangover ≤ now - last then s.enterSilence (last + hangover) else s
  | none => s

def checkTimeoutAt (interval now : Nat) (s : VadState) : VadState :=
  silenceEvent interval now (timeOut now { s with log := .check now :: s.log })

end VadState

structure VadConfig (D R : Type) where
  -- the score of a frame is at least the threshold
  predict : D → List Int16 → D × Bool
  resample : R → List Int16 → R × List Int16
  silenceIntervalMs : Nat

structure VadMonitor (D R : Type) extends VadState where
  detector : D
  resampler : R
  pcmBuffer : List Int16 := []
  clock : Nat

inductive VadCall where
  | process (elapsed : Nat) (pcm : List Int16)
  | checkTimeout (elapsed : Nat)

namespace VadMonitor

variable {D R : Type} (cfg : VadConfig D R)

def processFrames : Nat → VadMonitor D R → VadMonitor D R
  | 0, m => m
  | n + 1, m =>
    if m.pcmBuffer.length < 256 then m
    else
      processFrames n { m with
        detector := (cfg.predict m.detector (m.pcmBuffer.take 256)).1
        pcmBuffer := m.pcmBuffer.drop 256
        toVadState := m.processFrame cfg.silenceIntervalMs m.clock
          (cfg.predict m.detector (m.pcmBuffer.take 256)).2 }

def checkTimeout (m : VadMonitor D R) : VadMonitor D R :=
  { m with toVadState := m.checkTimeoutAt cfg.silenceIntervalMs m.clock }

def processAt (m : VadMonitor D R) (pcm : List Int16) : VadMonitor D R :=
  let m := { m with
    resampler := (cfg.resample m.resampler pcm).1
    pcmBuffer := m.pcmBuffer ++ (cfg.resample m.resampler pcm).2 }
  checkTimeout cfg (processFrames cfg (m.pcmBuffer.length / 256) m)

def call (m : VadMonitor D R) : VadCall → VadMonitor D R
  | .process elapsed pcm => processAt cfg { m with clock := m.clock + elapsed } pcm
  | .checkTimeout elapsed => checkTimeout cfg { m with clock := m.clock + elapsed }

end VadMonitor

/-! ## The laws of the events -/

def Entry.time : Entry → Nat
  | .frame _ now | .check now | .event _ now _ => now

def Entry.starts : Entry → Bool
  | .event .speechStarted _ _ => true
  | _ => false

def frames (log : List Entry) : List Bool :=
  log.filterMap fun | .frame speech _ => some speech | _ => none

def Quiet (log : List Entry) : Prop :=
  (frames log).take maxHangover = replicate maxHangover false ∨
    ∃ x older, log = x :: older ∧ ∀ t, .frame true t ∈ older → t + hangover ≤ x.time

def Silenced (log : List Entry) : Prop :=
  ∃ newer older, log = newer ++ older ∧ (∀ x ∈ newer, x.starts = false) ∧ Quiet older

/-- The last silence event since speech last started: its duration, how many frames came
behind it, and its time. -/
def lastSilence : List Entry → Option (Nat × Nat × Nat)
  | [] => none
  | .event .speechStarted _ _ :: _ => none
  | .event (.silence d) t _ :: _ => some (d, 0, t)
  | .frame _ _ :: older => (lastSilence older).map fun (d, n, t) => (d, n + 1, t)
  | .check _ :: older => lastSilence older

def Allowed (interval : Nat) (older : List Entry) (now : Nat) (speaking : Bool) : VadEvent → Prop
  | .speechStarted => (∀ x ∈ older, x.starts = false) ∨ Silenced older
  | .silence d => speaking = false ∧ (∃ x ∈ older, x.starts = true) ∧ interval ≤ d ∧
    ∀ d' n t, lastSilence older = some (d', n, t) →
      d' ≤ d ∧ (interval * 16 ≤ n * 256 ∨ t + interval * millisecond ≤ now)

def Lawful (interval : Nat) : List Entry → Prop
  | [] => True
  | .event e now speaking :: older => Allowed interval older now speaking e ∧ Lawful interval older
  | _ :: older => Lawful interval older

/-! ## The monitor obeys them -/

def Tally (interval : Nat) (log : List Entry) (a b samples since : Nat) : Prop :=
  match lastSilence log with
  | none => b = a ∧ since = samples
  | some (d, n, t) => b = t ∧ since = n * 256 ∧ interval ≤ d ∧
    d ≤ max (samples * 1000 / 16000) ((t - a) / millisecond)

structure Silent (interval : Nat) (s : VadState) : Prop where
  started : ∃ x ∈ s.log, x.starts = true
  silenced : Silenced s.log
  tally : ∃ a b, s.silenceStartedAt = some a ∧ s.lastSilenceEventAt = some b ∧
    Tally interval s.log a b s.silenceSamples s.samplesSinceLastEvent

structure Speaking (s : VadState) : Prop where
  started : ∃ x ∈ s.log, x.starts = true
  unreported : lastSilence s.log = none
  few : s.hangoverFrames < maxHangover
  quiet : (frames s.log).take s.hangoverFrames = replicate s.hangoverFrames false
  last : ∃ t, s.lastSpeechTime = some t ∧ ∀ t', .frame true t' ∈ s.log → t' ≤ t

structure Follows (interval now : Nat) (s : VadState) : Prop where
  times : ∀ x ∈ s.log, x.time ≤ now
  lawful : Lawful interval s.log
  phase : s.isSpeaking = false ∧ s.inSilence = false ∧ (∀ x ∈ s.log, x.starts = false) ∨
    s.isSpeaking = true ∧ s.inSilence = false ∧ Speaking s ∨
    s.isSpeaking = false ∧ s.inSilence = true ∧ Silent interval s

variable {interval now : Nat} {s : VadState} {log : List Entry} {x : Entry}

theorem lastSilence_mem {d n t : Nat} (h : lastSilence log = some (d, n, t)) :
    ∃ speaking, .event (.silence d) t speaking ∈ log := by
  induction log using lastSilence.induct generalizing n with
  | case1 => cases h
  | case2 => cases h
  | case3 d' t' sp older =>
    cases h
    exact ⟨sp, mem_cons_self⟩
  | case4 _ _ older ih =>
    rw [lastSilence, Option.map_eq_some_iff] at h
    obtain ⟨⟨d', n', t'⟩, ho, he⟩ := h
    cases he
    obtain ⟨sp, hm⟩ := ih ho
    exact ⟨sp, mem_cons_of_mem _ hm⟩
  | case5 _ older ih =>
    obtain ⟨sp, hm⟩ := ih h
    exact ⟨sp, mem_cons_of_mem _ hm⟩

theorem Silenced.cons (h : Silenced log) (hx : x.starts = false) : Silenced (x :: log) := by
  obtain ⟨newer, older, rfl, hn, hq⟩ := h
  exact ⟨x :: newer, older, rfl, forall_mem_cons.mpr ⟨hx, hn⟩, hq⟩

theorem exists_starts_cons (h : ∃ x ∈ log, x.starts = true) : ∃ y ∈ x :: log, y.starts = true := by
  obtain ⟨y, hy, hs⟩ := h
  exact ⟨y, mem_cons_of_mem _ hy, hs⟩

theorem Tally.next {a b samples since : Nat} (h : Tally interval log a b samples since)
    (ht : ∀ x ∈ log, x.time ≤ now)
    (hi : interval ≤ max (since * 1000 / 16000) ((now - b) / millisecond)) :
    interval ≤ max (samples * 1000 / 16000) ((now - a) / millisecond) ∧
      ∀ d n t, lastSilence log = some (d, n, t) →
        d ≤ max (samples * 1000 / 16000) ((now - a) / millisecond) ∧
          (interval * 16 ≤ n * 256 ∨ t + interval * millisecond ≤ now) := by
  unfold Tally at h
  cases hl : lastSilence log with
  | none =>
    rw [hl] at h
    obtain ⟨rfl, rfl⟩ := h
    exact ⟨hi, nofun⟩
  | some last =>
    obtain ⟨d, n, t⟩ := last
    rw [hl] at h
    obtain ⟨rfl, rfl, hid, hd⟩ := h
    obtain ⟨sp, hmem⟩ := lastSilence_mem hl
    have hbn : b ≤ now := ht _ hmem
    have hmo : (b - a) / millisecond ≤ (now - a) / millisecond :=
      Nat.div_le_div_right (Nat.sub_le_sub_right hbn a)
    have hle := Nat.le_trans hd (max_le_max_left _ hmo)
    refine ⟨Nat.le_trans hid hle, ?_⟩
    intro d' n' t' he
    obtain ⟨rfl, rfl, rfl⟩ : d = d' ∧ n = n' ∧ b = t' := by simpa using he
    refine ⟨hle, (le_max_iff.mp hi).imp (fun hi => by omega) fun hi => ?_⟩
    exact (Nat.le_sub_iff_add_le' hbn).mp ((Nat.le_div_iff_mul_le (by decide)).mp hi)

theorem Follows.silenceEvent (h : Follows interval now s) :
    Follows interval now (s.silenceEvent interval now) := by
  unfold VadState.silenceEvent
  split
  · exact h
  rename_i hg
  split
  · exact h
  rename_i hi
  rcases h.phase with ⟨-, hsi, -⟩ | ⟨hsp, -, -⟩ | ⟨hsp, hsi, hc⟩
  · exact absurd (.inl hsi) hg
  · exact absurd (.inr hsp) hg
  obtain ⟨a, b, ha, hb, htally⟩ := hc.tally
  rw [hb] at hi
  have hn := htally.next h.times (Nat.le_of_not_lt hi)
  have he : VadState.elapsed now s.silenceStartedAt = (now - a) / millisecond := by
    rw [ha]
    rfl
  rw [he]
  exact ⟨forall_mem_cons.mpr ⟨Nat.le_refl now, h.times⟩, ⟨⟨hsp, hc.started, hn⟩, h.lawful⟩,
    .inr (.inr ⟨hsp, hsi, exists_starts_cons hc.started, hc.silenced.cons rfl, a, now, ha, rfl,
      rfl, (Nat.zero_mul 256).symm, hn.1, Nat.le_refl _⟩)⟩

theorem Follows.enterSilence (ht : ∀ x ∈ s.log, x.time ≤ now) (hl : Lawful interval s.log)
    (hst : ∃ x ∈ s.log, x.starts = true) (hq : Quiet s.log) (hn : lastSilence s.log = none)
    (since samples : Nat) :
    Follows interval now { s.enterSilence since with
      silenceSamples := samples, samplesSinceLastEvent := samples } := by
  have htally : Tally interval s.log since since samples samples := by
    rw [Tally, hn]
    exact ⟨rfl, rfl⟩
  exact ⟨ht, hl, .inr (.inr ⟨rfl, rfl, hst, ⟨[], s.log, rfl, nofun, hq⟩, since, since, rfl, rfl,
    htally⟩)⟩

theorem Follows.checkTimeoutAt (h : Follows interval now s) :
    Follows interval now (s.checkTimeoutAt interval now) := by
  refine Follows.silenceEvent ?_
  have ht : ∀ x ∈ .check now :: s.log, x.time ≤ now :=
    forall_mem_cons.mpr ⟨Nat.le_refl now, h.times⟩
  have hs : Follows interval now { s with log := .check now :: s.log } := by
    refine ⟨ht, h.lawful, ?_⟩
    rcases h.phase with ⟨hsp, hsi, hn⟩ | ⟨hsp, hsi, hk⟩ | ⟨hsp, hsi, hc⟩
    · exact .inl ⟨hsp, hsi, forall_mem_cons.mpr ⟨rfl, hn⟩⟩
    · exact .inr (.inl ⟨hsp, hsi, exists_starts_cons hk.started, hk.unreported, hk.few, hk.quiet,
        by simpa using hk.last⟩)
    · exact .inr (.inr ⟨hsp, hsi, exists_starts_cons hc.started, hc.silenced.cons rfl, hc.tally⟩)
  unfold VadState.timeOut
  split
  · rename_i last hla
    split
    · rename_i hg
      rcases h.phase with ⟨hsp, -⟩ | ⟨-, -, hk⟩ | ⟨hsp, -⟩
      · exact absurd (hsp.symm.trans hg.1) nofun
      · obtain ⟨t, htl, hmax⟩ := hk.last
        have hq : Quiet (.check now :: s.log) := by
          refine .inr ⟨_, _, rfl, fun t' hm => ?_⟩
          have := hmax t' hm
          have := Option.some.inj (htl.symm.trans hla)
          have hpos : 0 < hangover := by decide
          show t' + hangover ≤ now
          omega
        exact Follows.enterSilence (s := { s with log := .check now :: s.log }) ht h.lawful
          (exists_starts_cons hk.started) hq hk.unreported _ 0
      · exact absurd (hsp.symm.trans hg.1) nofun
    · exact hs
  · exact hs

theorem Tally.frame {a b samples since : Nat} (h : Tally interval log a b samples since)
    (speech : Bool) :
    Tally interval (.frame speech now :: log) a b (samples + 256) (since + 256) := by
  unfold Tally at h ⊢
  rw [lastSilence]
  cases hl : lastSilence log with
  | none =>
    rw [hl] at h
    exact ⟨h.1, congrArg (· + 256) h.2⟩
  | some last =>
    rw [hl] at h
    obtain ⟨hb, hs, hi, hd⟩ := h
    have hle : samples * 1000 / 16000 ≤ (samples + 256) * 1000 / 16000 := by omega
    exact ⟨hb, by omega, hi, Nat.le_trans hd (max_le_max_right _ hle)⟩

theorem Follows.processFrame (h : Follows interval now s) (speech : Bool) :
    Follows interval now (s.processFrame interval now speech) := by
  have ht : ∀ x ∈ .frame speech now :: s.log, x.time ≤ now :=
    forall_mem_cons.mpr ⟨Nat.le_refl now, h.times⟩
  have hpos : 0 < maxHangover := by decide
  have hun : lastSilence s.log = none → lastSilence (.frame speech now :: s.log) = none := by
    intro hn
    rw [lastSilence, hn]
    rfl
  cases speech with
  | true =>
    by_cases hsp : s.isSpeaking = true
    · rcases h.phase with ⟨hn, -⟩ | ⟨-, hsi, hk⟩ | ⟨hn, -⟩
      · exact absurd (hn.symm.trans hsp) nofun
      · simp only [VadState.processFrame, hsp, hsi]
        exact ⟨ht, h.lawful, .inr (.inl ⟨rfl, rfl, exists_starts_cons hk.started,
          hun hk.unreported, hpos, rfl, now, rfl, fun t' hm => ht _ hm⟩)⟩
      · exact absurd (hn.symm.trans hsp) nofun
    have hal : Allowed interval (.frame true now :: s.log) now true .speechStarted := by
      rcases h.phase with ⟨-, -, hn⟩ | ⟨hn, -⟩ | ⟨-, -, hc⟩
      · exact .inl (forall_mem_cons.mpr ⟨rfl, hn⟩)
      · exact absurd hn hsp
      · exact .inr (hc.silenced.cons rfl)
    have ht' : ∀ x ∈ .event .speechStarted now true :: .frame true now :: s.log, x.time ≤ now :=
      forall_mem_cons.mpr ⟨Nat.le_refl now, ht⟩
    simp only [VadState.processFrame, hsp]
    exact ⟨ht', ⟨hal, h.lawful⟩, .inr (.inl ⟨rfl, rfl, ⟨_, mem_cons_self, rfl⟩, rfl, hpos,
      rfl, now, rfl, fun t' hm => ht' _ hm⟩)⟩
  | false =>
    rcases h.phase with ⟨hsp, hsi, hn⟩ | ⟨hsp, hsi, hk⟩ | ⟨hsp, hsi, hc⟩
    · simp only [VadState.processFrame, hsp, hsi]
      exact ⟨ht, h.lawful, .inl ⟨rfl, rfl, forall_mem_cons.mpr ⟨rfl, hn⟩⟩⟩
    · have hq : (frames (.frame false now :: s.log)).take (s.hangoverFrames + 1) =
          replicate (s.hangoverFrames + 1) false := congrArg (false :: ·) hk.quiet
      simp only [VadState.processFrame, VadState.classify, hsp]
      by_cases hm : maxHangover ≤ s.hangoverFrames + 1
      · have he : s.hangoverFrames + 1 = maxHangover := Nat.le_antisymm hk.few hm
        rw [he] at hq
        simp only [if_pos hm]
        exact Follows.silenceEvent (Follows.enterSilence
          (s := { s with log := .frame false now :: s.log, hangoverFrames := s.hangoverFrames + 1 })
          ht h.lawful (exists_starts_cons hk.started) (.inl hq) (hun hk.unreported) now 256)
      simp only [if_neg hm, hsi]
      obtain ⟨t, htl, hmax⟩ := hk.last
      exact ⟨ht, h.lawful, .inr (.inl ⟨rfl, rfl, exists_starts_cons hk.started,
        hun hk.unreported, Nat.lt_of_not_le hm, hq, t, htl, by simpa using hmax⟩)⟩
    · obtain ⟨a, b, ha, hb, htally⟩ := hc.tally
      simp only [VadState.processFrame, VadState.classify, Bool.false_eq_true, if_false, hsp, hsi,
        and_self, if_true]
      exact Follows.silenceEvent ⟨ht, h.lawful, .inr (.inr ⟨rfl, rfl,
        exists_starts_cons hc.started, hc.silenced.cons rfl, a, b, ha, hb, htally.frame false⟩)⟩

theorem Follows.processFrames {D R : Type} {cfg : VadConfig D R} (n : Nat) {m : VadMonitor D R}
    (h : Follows cfg.silenceIntervalMs m.clock m.toVadState) :
    Follows cfg.silenceIntervalMs (m.processFrames cfg n).clock
      (m.processFrames cfg n).toVadState := by
  induction n generalizing m with
  | zero => exact h
  | succ n ih =>
    unfold VadMonitor.processFrames
    split
    · exact h
    · exact ih (h.processFrame _)

theorem Follows.call {D R : Type} {cfg : VadConfig D R} {m : VadMonitor D R}
    (h : Follows cfg.silenceIntervalMs m.clock m.toVadState) (c : VadCall) :
    Follows cfg.silenceIntervalMs (m.call cfg c).clock (m.call cfg c).toVadState := by
  have hl : ∀ k, Follows cfg.silenceIntervalMs (m.clock + k) m.toVadState := fun k =>
    ⟨fun x hx => Nat.le_trans (h.times x hx) (Nat.le_add_right _ k), h.lawful, h.phase⟩
  cases c with
  | process k pcm => exact (Follows.processFrames _ (hl k)).checkTimeoutAt
  | checkTimeout k => exact (hl k).checkTimeoutAt

/-- Every event of a monitor is allowed by what came before it: speech starts once, and
again only behind a silence; a silence is reported only while nobody speaks, is as long as
the interval and as the last report of its spell, and comes an interval of audio or of time
behind that report. -/
theorem vad_event_protocol {D R : Type} (cfg : VadConfig D R) (detector : D) (resampler : R)
    (clock : Nat) (calls : List VadCall) :
    Lawful cfg.silenceIntervalMs
      (calls.foldl (VadMonitor.call cfg) { detector, resampler, clock }).log := by
  have hrun : ∀ m : VadMonitor D R, Follows cfg.silenceIntervalMs m.clock m.toVadState →
      Lawful cfg.silenceIntervalMs (calls.foldl (VadMonitor.call cfg) m).log := by
    induction calls with
    | nil => exact fun m h => h.lawful
    | cons c calls ih => exact fun m h => ih _ (h.call c)
  exact hrun _ ⟨nofun, trivial, .inl ⟨rfl, rfl, nofun⟩⟩

end RtpBridge.Vad
