/-
Playback of a file: `next_pcm`, `rewind`, `pause` and `resume` of
`session/endpoint_file.rs` for an endpoint that decodes by itself, at gain one and from
the start of the file.  The container is the list of the packets its decoder returns.
-/
import RtpBridge.Session.Rtp.Endpoint

namespace RtpBridge.Session

open Machine List

structure FileEndpoint where
  state : EndpointState := .playing
  paused : Bool := false
  -- the packets the reader has not returned yet
  reader : List (List Int16)
  pcmBuffer : List Int16 := []
  pcmPos : Nat := 0
  loopCount : Option Nat

inductive Filled where
  | ready
  | ended (tail : List Int16)
  | overrun
deriving DecidableEq

inductive FileCall where
  | nextPcm
  | pause
  | resume
deriving DecidableEq

namespace FileEndpoint

variable {file : List (List Int16)} {k : Nat} {s : FileEndpoint} {samples : List Int16}

def rewind (file : List (List Int16)) (s : FileEndpoint) : FileEndpoint :=
  { s with reader := file, pcmBuffer := [], pcmPos := 0 }

def fill (file : List (List Int16)) (k : Nat) : Nat → FileEndpoint → FileEndpoint × Filled
  | 0, s =>
    if k ≤ s.pcmBuffer.length - s.pcmPos then (s, .ready)
    else ({ s with state := .finished }, .overrun)
  | n + 1, s =>
    if k ≤ s.pcmBuffer.length - s.pcmPos then (s, .ready)
    else
      match s.reader with
      | packet :: rest =>
        fill file k n { s with reader := rest, pcmBuffer := s.pcmBuffer ++ packet }
      | [] =>
        let tail := s.pcmBuffer.drop s.pcmPos
        if s.loopCount = some 0 then
          ({ s with state := .finished, pcmPos := s.pcmBuffer.length }, .ended tail)
        else
          let s := ({ s with loopCount := s.loopCount.map (· - 1) } : FileEndpoint).rewind file
          fill file k n { s with pcmBuffer := s.pcmBuffer ++ tail }

def maxDecodeIterations : Nat := 64

def nextPcm (file : List (List Int16)) (k : Nat) (s : FileEndpoint) :
    FileEndpoint × Option (List Int16) :=
  if s.paused ∨ s.state = .finished ∨ s.state = .buffering then (s, none)
  else
    match fill file k maxDecodeIterations s with
    | (s, .overrun) => (s, none)
    | (s, .ended tail) => (s, if tail.isEmpty then none else some (tail.rightpad k 0))
    | (s, .ready) =>
      let take := min k (s.pcmBuffer.length - s.pcmPos)
      let samples := (s.pcmBuffer.drop s.pcmPos).take take
      let s := { s with pcmPos := s.pcmPos + take }
      -- the buffer is compacted from time to time
      (if 8192 < s.pcmPos then { s with pcmBuffer := s.pcmBuffer.drop s.pcmPos, pcmPos := 0 }
        else s, some samples)

def pause (s : FileEndpoint) : FileEndpoint :=
  if s.state = .playing then { s with paused := true, state := .paused } else s

def resume (s : FileEndpoint) : FileEndpoint :=
  if s.state = .paused then { s with paused := false, state := .playing } else s

def step (file : List (List Int16)) (k : Nat) (s : FileEndpoint) :
    FileCall → FileEndpoint × Option (List Int16)
  | .nextPcm => s.nextPcm file k
  | .pause => (s.pause, none)
  | .resume => (s.resume, none)

def WithinLimit (file : List (List Int16)) (k : Nat)
    (_ : List (FileCall × Option (List Int16))) (s : FileEndpoint) (call : FileCall) : Prop :=
  call = .nextPcm → s.state = .playing → (fill file k maxDecodeIterations s).2 ≠ .overrun

instance (file : List (List Int16)) (k : Nat) (tr : List (FileCall × Option (List Int16)))
    (s : FileEndpoint) (call : FileCall) : Decidable (WithinLimit file k tr s call) :=
  inferInstanceAs (Decidable (_ → _ → _))

def results (file : List (List Int16)) (k : Nat) (s : FileEndpoint) (calls : List FileCall) :
    List (List Int16) :=
  (trace (step file k) s calls).filterMap Prod.snd

def polls : Bool → List FileCall → Nat
  | _, [] => 0
  | paused, .nextPcm :: rest => polls paused rest + if paused then 0 else 1
  | _, .pause :: rest => polls true rest
  | _, .resume :: rest => polls false rest

/-- What a listener is to hear: frames of `k` samples, the last one filled up with zeros. -/
def frames (k : Nat) : List Int16 → List (List Int16)
  | [] => []
  | x :: rest => ((x :: rest).take k).rightpad k 0 :: frames k (rest.drop (k - 1))
termination_by samples => samples.length

structure Holds (file : List (List Int16)) (s : FileEndpoint) (samples : List Int16) : Prop where
  state : s.state = if s.paused then .paused else .playing
  pos : s.pcmPos ≤ s.pcmBuffer.length
  loops : ∃ n, s.loopCount = some n ∧
    samples =
      s.pcmBuffer.drop s.pcmPos ++ s.reader.flatten ++ (List.replicate n file.flatten).flatten

theorem Holds.fill (n : Nat) (h : Holds file s samples) (hl : (fill file k n s).2 ≠ .overrun) :
    (∃ s', fill file k n s = (s', .ready) ∧ Holds file s' samples ∧ s'.paused = s.paused ∧
      k ≤ (s'.pcmBuffer.drop s'.pcmPos).length) ∨
    ∃ s', fill file k n s = (s', .ended samples) ∧ samples.length < k ∧ s'.state = .finished ∧
      s'.paused = s.paused := by
  induction n generalizing s with
  | zero =>
    unfold FileEndpoint.fill at hl ⊢
    split at hl
    · rename_i hk
      exact .inl ⟨s, if_pos hk, h, rfl, by rwa [length_drop]⟩
    · exact absurd rfl hl
  | succ n ih =>
    obtain ⟨loops, hlo, hs⟩ := h.loops
    unfold FileEndpoint.fill at hl ⊢
    by_cases hk : k ≤ s.pcmBuffer.length - s.pcmPos
    · exact .inl ⟨s, if_pos hk, h, rfl, by rwa [length_drop]⟩
    rw [if_neg hk] at hl ⊢
    cases hr : s.reader with
    | cons packet rest =>
      rw [hr] at hl
      refine ih ⟨h.state, ?_, loops, hlo, ?_⟩ hl
      · exact le_trans h.pos (by simp)
      · simp [hs, hr, drop_append_of_le_length h.pos]
    | nil =>
      rw [hr] at hl
      cases loops with
      | zero =>
        have ht : s.pcmBuffer.drop s.pcmPos = samples := by simp [hs, hr]
        rw [if_pos hlo, ht]
        refine .inr ⟨_, rfl, ?_, rfl, rfl⟩
        rw [← ht, length_drop]
        omega
      | succ loops =>
        rw [if_neg (by simp [hlo])] at hl ⊢
        refine ih ⟨h.state, Nat.zero_le _, loops, by simp [rewind, hlo], ?_⟩ hl
        simp [rewind, hs, hr, replicate_succ]

theorem Holds.nextPcm (h : Holds file s samples) (hp : s.paused = false)
    (hl : (FileEndpoint.fill file k maxDecodeIterations s).2 ≠ .overrun) :
    (k ≤ samples.length ∧ (s.nextPcm file k).2 = some (samples.take k) ∧
      Holds file (s.nextPcm file k).1 (samples.drop k) ∧ (s.nextPcm file k).1.paused = false) ∨
    samples.length < k ∧ (s.nextPcm file k).1.state = .finished ∧
      (s.nextPcm file k).1.paused = false ∧
      (s.nextPcm file k).2 = if samples.isEmpty then none else some (samples.rightpad k 0) := by
  have hpl : ¬(s.paused = true ∨ s.state = .finished ∨ s.state = .buffering) := by
    simp [h.state, hp]
  unfold FileEndpoint.nextPcm
  rw [if_neg hpl]
  rcases h.fill _ hl with ⟨s', hf, hs', hp', hk⟩ | ⟨s', hf, hlt, hfi, hp'⟩
  · left
    rw [hf]
    obtain ⟨n, hn, rfl⟩ := hs'.loops
    have hpo := hs'.pos
    have hav : k ≤ s'.pcmBuffer.length - s'.pcmPos := by rwa [length_drop] at hk
    simp only [min_eq_left hav, append_assoc, take_append_of_le_length hk,
      drop_append_of_le_length hk]
    refine ⟨?_, True.intro, ?_, ?_⟩
    · rw [length_append]
      omega
    · split
      · exact ⟨hs'.state, Nat.zero_le _, n, hn, by simp⟩
      · exact ⟨hs'.state, by dsimp only; omega, n, hn, by simp⟩
    · split <;> exact hp'.trans hp
  · right
    rw [hf]
    exact ⟨hlt, hfi, hp'.trans hp, rfl⟩

theorem frames_of_le (hk : 1 ≤ k) (h : k ≤ samples.length) :
    frames k samples = samples.take k :: frames k (samples.drop k) := by
  cases samples with
  | nil => simp at h; omega
  | cons x rest =>
    obtain ⟨k, rfl⟩ : ∃ j, k = j + 1 := ⟨k - 1, by omega⟩
    rw [frames]
    simp_all

theorem frames_of_lt (h : samples.length < k) :
    frames k samples = if samples.isEmpty then [] else [samples.rightpad k 0] := by
  cases samples with
  | nil => rw [frames]; rfl
  | cons x rest =>
    rw [frames, take_of_length_le (by omega), drop_of_length_le, frames]
    · rfl
    · rw [length_cons] at h
      omega

theorem frames_spec (hk : 1 ≤ k) (samples : List Int16) : (∀ f ∈ frames k samples, f.length = k) ∧
      ∃ z < k, (frames k samples).flatten = samples ++ List.replicate z 0 := by
  induction hn : samples.length using Nat.strong_induction_on generalizing samples with
  | _ n ih =>
    by_cases hle : k ≤ samples.length
    · obtain ⟨hl, z, hz, hf⟩ := ih _ (by rw [length_drop]; omega) (samples.drop k) rfl
      rw [frames_of_le hk hle]
      refine ⟨?_, z, hz, by simp [hf, ← append_assoc]⟩
      simpa [hle] using hl
    rw [frames_of_lt (by omega)]
    cases samples with
    | nil => exact ⟨by simp, 0, by omega, by simp⟩
    | cons x rest =>
      refine ⟨by simp [List.rightpad] at hle ⊢; omega, k - (x :: rest).length, ?_, ?_⟩
      · simp at hle ⊢
        omega
      · simp [List.rightpad]

theorem finished_run (file : List (List Int16)) (k : Nat) (hf : s.state = .finished)
    (calls : List FileCall) :
    exec (step file k) s calls = s ∧ results file k s calls = [] := by
  induction calls with
  | nil => exact ⟨rfl, rfl⟩
  | cons call calls ih =>
    have hs : step file k s call = (s, none) := by
      cases call <;> simp [step, FileEndpoint.nextPcm, pause, resume, hf]
    simpa [results, hs] using ih

theorem Holds.run (hk : 1 ≤ k) (calls : List FileCall) (h : Holds file s samples)
    (tr : List (FileCall × Option (List Int16)))
    (hl : AlongFrom (step file k) (WithinLimit file k) tr s calls) :
    results file k s calls = (frames k samples).take (polls s.paused calls) ∧
      ((frames k samples).length < polls s.paused calls →
        (exec (step file k) s calls).state = .finished) := by
  induction calls generalizing s samples tr with
  | nil => simp [results, polls]
  | cons call calls ih =>
    obtain ⟨hno, hl⟩ := hl
    cases call with
    | pause =>
      have hs : Holds file s.pause samples ∧ s.pause.paused = true := by
        have := h.state
        unfold pause
        cases hp : s.paused with
        | false => simp_all; exact ⟨by simp, h.pos, h.loops⟩
        | true => simp_all
      simpa [results, polls, step, hs.2] using ih hs.1 _ hl
    | resume =>
      have hs : Holds file s.resume samples ∧ s.resume.paused = false := by
        have := h.state
        unfold resume
        cases hp : s.paused with
        | false => simp_all
        | true => simp_all; exact ⟨by simp, h.pos, h.loops⟩
      simpa [results, polls, step, hs.2] using ih hs.1 _ hl
    | nextPcm =>
      cases hp : s.paused with
      | true =>
        have hs : step file k s .nextPcm = (s, none) := by simp [step, FileEndpoint.nextPcm, hp]
        rw [hs] at hl
        simpa [results, polls, hs, hp] using ih h _ hl
      | false =>
        rcases h.nextPcm hp (hno rfl (by simp [h.state, hp])) with
          ⟨hle, ho, hn, hp'⟩ | ⟨hlt, hfi, hp', ho⟩
        · have := ih hn _ hl
          simpa [results, polls, step, ho, hp', frames_of_le hk hle] using this
        obtain ⟨he, hr⟩ := finished_run file k hfi calls
        simp only [results] at hr
        simp only [results, polls, exec_cons, step, frames_of_lt hlt, trace_cons,
          filterMap_cons, hr]
        split <;> simp_all

def copies (n : Nat) (file : List (List Int16)) : List Int16 :=
  (List.replicate n file.flatten).flatten

/-- An endpoint that plays the file and repeats it `n` times. -/
def openFile (file : List (List Int16)) (n : Nat) : FileEndpoint :=
  { reader := file, loopCount := some n }

def sampleFile : List (List Int16) := [[1, 2, 3], [4, 5]]

def sampleCalls : List FileCall :=
  [.nextPcm, .pause, .nextPcm, .resume, .nextPcm, .nextPcm, .nextPcm]

end FileEndpoint
end RtpBridge.Session
