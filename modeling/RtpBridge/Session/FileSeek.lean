/-
Seeking in a file that a worker decodes: `into_worker`, `request_seek` and the worker
path of `next_pcm` in `session/endpoint_file.rs`.

The session and the worker share a channel of frames and one of seek requests.  Every
frame carries, beside its epoch, how many seeks the worker had executed when it made it
and its number since the last of them; the program does not see these two.
-/
import RtpBridge.Session.Rtp.Endpoint

namespace RtpBridge.Session

open Machine List

structure PlaybackFrame (F : Type) where
  epoch : UInt64
  -- an error without a text is the end of the file
  result : Except (Option String) F
  seeks : Nat
  index : Nat

structure SeekRequest (P : Type) where
  position : P
  epoch : UInt64

inductive WorkerPhase (P : Type) where
  | idle
  | decoding
  | seeking (request : SeekRequest P)
  | stopped

/-- The channel of frames, with the epoch at either end. -/
structure PlaybackStream (F : Type) where
  epoch : UInt64 := 0
  frames : List (PlaybackFrame F) := []
  workerEpoch : UInt64 := 0
  seeks : Nat := 0
  index : Nat := 0

structure WorkerPlayback (D P F : Type) extends PlaybackStream F where
  state : EndpointState := .playing
  paused : Bool := false
  commands : List (SeekRequest P) := []
  cancelled : Bool := false
  core : D
  phase : WorkerPhase P := .idle
  atEof : Bool := false

inductive PlaybackAction (P : Type) where
  | requestSeek (position : P)
  | nextPcm
  | pause
  | resume
  | select
  | complete
  | timeout

inductive PlaybackAnswer (F : Type) where
  | nothing
  | accepted
  | refused (error : String)
  | received (frame : PlaybackFrame F)
  | workerStopped

abbrev PlaybackRun (P F : Type) := List (PlaybackAction P × PlaybackAnswer F)

namespace WorkerPlayback

variable {D P F : Type} {decode : D → D × Except (Option String) F} {seek : P → D → D}
  {s : WorkerPlayback D P F} {tr : PlaybackRun P F}

def channelCapacity : Nat := 4

def emit (s : WorkerPlayback D P F) (result : Except (Option String) F) : WorkerPlayback D P F :=
  { s with
    frames := s.frames ++ [{ epoch := s.workerEpoch, result, seeks := s.seeks, index := s.index }],
    index := s.index + 1 }

def requestSeek (s : WorkerPlayback D P F) (position : P) :
    WorkerPlayback D P F × PlaybackAnswer F :=
  if s.state = .playing ∨ s.state = .paused then
    match s.phase with
    | .stopped => (s, .refused "PLAYBACK_BUSY")
    | _ =>
      if s.commands.length < channelCapacity then
        ({ s with commands := s.commands ++ [⟨position, s.epoch + 1⟩], epoch := s.epoch + 1 },
          .accepted)
      else (s, .refused "PLAYBACK_BUSY")
  else (s, .refused "Cannot seek in current state")

def nextPcm (s : WorkerPlayback D P F) : WorkerPlayback D P F × PlaybackAnswer F :=
  if s.paused ∨ s.state = .finished ∨ s.state = .buffering then (s, .nothing)
  else
    -- frames of another epoch are dropped
    match s.frames.dropWhile fun m => m.epoch ≠ s.epoch with
    | m :: rest =>
      match m.result with
      | .ok _ => ({ s with frames := rest }, .received m)
      | .error _ => ({ s with frames := rest, state := .finished, cancelled := true }, .received m)
    | [] =>
      match s.phase with
      | .stopped => ({ s with frames := [], state := .finished, cancelled := true }, .workerStopped)
      | _ => ({ s with frames := [] }, .nothing)

def pause (s : WorkerPlayback D P F) : WorkerPlayback D P F :=
  if s.state = .playing then { s with paused := true, state := .paused } else s

def resume (s : WorkerPlayback D P F) : WorkerPlayback D P F :=
  if s.state = .paused then { s with paused := false, state := .playing } else s

def select (s : WorkerPlayback D P F) : WorkerPlayback D P F :=
  match s.phase with
  | .idle =>
    if s.cancelled then { s with phase := .stopped }
    else
      match s.commands with
      | request :: rest => { s with commands := rest, phase := .seeking request }
      | [] =>
        if s.atEof = false ∧ s.frames.length < channelCapacity then { s with phase := .decoding }
        else s
  | _ => s

def complete (decode : D → D × Except (Option String) F) (seek : P → D → D)
    (s : WorkerPlayback D P F) : WorkerPlayback D P F :=
  match s.phase with
  | .decoding =>
    let (core, result) := decode s.core
    let s := { s with core }.emit result
    match result with
    | .ok _ => { s with phase := .idle }
    | .error none => { s with phase := .idle, atEof := true }
    | .error (some _) => { s with phase := .stopped }
  | .seeking request =>
    { s with
      core := seek request.position s.core, workerEpoch := request.epoch, atEof := false,
      phase := .idle, seeks := s.seeks + 1, index := 0 }
  | _ => s

def timeout (s : WorkerPlayback D P F) : WorkerPlayback D P F :=
  match s.phase with
  | .decoding => { s.emit (.error (some "playback read failed")) with phase := .stopped }
  | .seeking _ =>
    if s.frames.length < channelCapacity then
      { s.emit (.error (some "playback seek failed")) with phase := .stopped }
    else s
  | _ => s

def step (decode : D → D × Except (Option String) F) (seek : P → D → D)
    (s : WorkerPlayback D P F) : PlaybackAction P → WorkerPlayback D P F × PlaybackAnswer F
  | .requestSeek position => s.requestSeek position
  | .nextPcm => s.nextPcm
  | .pause => (s.pause, .nothing)
  | .resume => (s.resume, .nothing)
  | .select => (s.select, .nothing)
  | .complete => (s.complete decode seek, .nothing)
  | .timeout => (s.timeout, .nothing)

def isAccepted : PlaybackAction P × PlaybackAnswer F → Bool
  | (_, .accepted) => true
  | _ => false

def isReceived : PlaybackAction P × PlaybackAnswer F → Bool
  | (_, .received _) => true
  | _ => false

def acceptedSeeks (tr : PlaybackRun P F) : Nat := tr.countP isAccepted

def received (tr : PlaybackRun P F) : Nat :=
  (since isAccepted tr).countP isReceived

def pending (s : WorkerPlayback D P F) : List (SeekRequest P) :=
  match s.phase with
  | .seeking request => request :: s.commands
  | _ => s.commands

structure Ordered (tr : PlaybackRun P F) (q : PlaybackStream F) : Prop where
  epoch : q.epoch = .ofNat (acceptedSeeks tr)
  worker : q.workerEpoch = .ofNat q.seeks
  behind : q.seeks ≤ acceptedSeeks tr
  stamps : ∀ m ∈ q.frames, m.epoch = .ofNat m.seeks ∧ m.seeks ≤ q.seeks
  early : q.seeks < acceptedSeeks tr → received tr = 0
  order : q.seeks = acceptedSeeks tr → received tr ≤ q.index ∧
    (q.frames.filter fun m => m.seeks = acceptedSeeks tr).map PlaybackFrame.index =
      List.range' (received tr) (q.index - received tr)

def Queued (tr : PlaybackRun P F) (s : WorkerPlayback D P F) : Prop :=
  s.phase ≠ .stopped → s.pending.map SeekRequest.epoch =
    (List.range' (s.seeks + 1) (acceptedSeeks tr - s.seeks)).map UInt64.ofNat

def Synced (tr : PlaybackRun P F) (s : WorkerPlayback D P F) : Prop :=
  Ordered tr s.toPlaybackStream ∧ Queued tr s

section

variable (tr : PlaybackRun P F) (e : PlaybackAction P × PlaybackAnswer F)

theorem acceptedSeeks_append :
    acceptedSeeks (tr ++ [e]) = acceptedSeeks tr + if isAccepted e then 1 else 0 := by
  simp [acceptedSeeks]

theorem received_append : received (tr ++ [e]) =
      if isAccepted e then 0 else received tr + if isReceived e then 1 else 0 := by
  unfold received
  rw [since_append]
  split
  · rfl
  · rw [countP_cons]

end

theorem Synced.quiet {e : PlaybackAction P × PlaybackAnswer F} (h : Synced tr s)
    (ha : isAccepted e = false) (hr : isReceived e = false) : Synced (tr ++ [e]) s := by
  have hac : acceptedSeeks (tr ++ [e]) = acceptedSeeks tr := by simp [acceptedSeeks_append, ha]
  have hre : received (tr ++ [e]) = received tr := by simp [received_append, ha, hr]
  obtain ⟨h, hq⟩ := h
  rw [Synced, Queued, hac]
  exact ⟨⟨hac ▸ h.epoch, h.worker, hac ▸ h.behind, h.stamps, hac ▸ hre ▸ h.early,
    hac ▸ hre ▸ h.order⟩, hq⟩

theorem Ordered.emit (h : Ordered tr s.toPlaybackStream) (result : Except (Option String) F) :
    Ordered tr (s.emit result).toPlaybackStream where
  __ := h
  stamps := by
    intro m hm
    rcases mem_append.mp hm with hm | hm
    · exact h.stamps m hm
    · rw [mem_singleton.mp hm]
      exact ⟨h.worker, Nat.le_refl _⟩
  order := by
    intro heq
    obtain ⟨hle, hn⟩ := h.order heq
    have hmi : s.seeks = acceptedSeeks tr := heq
    refine ⟨Nat.le_succ_of_le hle, ?_⟩
    show ((s.frames ++ [_]).filter fun m : PlaybackFrame F => m.seeks = acceptedSeeks tr).map
        PlaybackFrame.index = List.range' (received tr) (s.index + 1 - received tr)
    rw [filter_append, map_append, hn, Nat.succ_sub hle, List.range'_1_concat]
    simp [hmi, Nat.add_sub_cancel' hle]

theorem pending_append (s : WorkerPlayback D P F) (c : SeekRequest P) (n : UInt64) :
    pending { s with commands := s.commands ++ [c], epoch := n } = s.pending ++ [c] := by
  unfold pending
  dsimp only
  split <;> rfl

theorem Synced.requestSeek (h : Synced tr s) (position : P) :
    Synced (tr ++ [(.requestSeek position, (s.requestSeek position).2)])
      (s.requestSeek position).1 := by
  have hqu : ∀ error,
      Synced (tr ++ [(.requestSeek position, .refused error)]) s := fun error => h.quiet rfl rfl
  unfold WorkerPlayback.requestSeek
  split
  · split
    · exact hqu _
    split
    · obtain ⟨h, hq⟩ := h
      have hle : s.seeks ≤ acceptedSeeks tr := h.behind
      have hac : acceptedSeeks (tr ++ [(.requestSeek position, .accepted)]) =
          acceptedSeeks tr + 1 := acceptedSeeks_append tr _
      have hre := received_append tr (.requestSeek position, .accepted)
      have hep : s.epoch + 1 = .ofNat (acceptedSeeks tr + 1) := by
        rw [show s.epoch = _ from h.epoch, UInt64.ofNat_add]
        rfl
      have hlast : s.seeks + 1 + (acceptedSeeks tr - s.seeks) = acceptedSeeks tr + 1 := by omega
      refine ⟨⟨hac ▸ hep, h.worker, hac ▸ Nat.le_succ_of_le hle, h.stamps, fun _ => hre,
        fun heq => ?_⟩, fun hs => ?_⟩
      · exact absurd (heq.trans hac) (Nat.ne_of_lt (Nat.lt_succ_of_le hle))
      · rw [hac, pending_append, map_append, hq hs, Nat.succ_sub hle, List.range'_1_concat,
          map_append, map_singleton, map_singleton, hep, hlast]
    · exact hqu _
  · exact hqu _

theorem requestSeek_refused {position : P} {error : String}
    (h : (s.requestSeek position).2 = .refused error) : (s.requestSeek position).1 = s := by
  unfold WorkerPlayback.requestSeek at h ⊢
  split
  · split
    · rfl
    split
    · simp_all
    · rfl
  · rfl

theorem filter_dropWhile (q : List (PlaybackFrame F)) (e : Nat) :
    (q.dropWhile fun m => m.seeks ≠ e).filter (fun m => m.seeks = e) =
      q.filter fun m => m.seeks = e := by
  induction q with
  | nil => rfl
  | cons m q ih =>
    by_cases hm : m.seeks = e
    · simp [hm]
    · simpa [hm] using ih

/-- While the epochs have not wrapped around, the session drops exactly the frames from before
the last seek. -/
theorem Ordered.dropWhile_epoch {q : PlaybackStream F} (h : Ordered tr q)
    (hfew : acceptedSeeks tr < 2 ^ 64) : (q.frames.dropWhile fun m => m.epoch ≠ q.epoch) =
      q.frames.dropWhile fun m => m.seeks ≠ acceptedSeeks tr := by
  have hiff : ∀ m ∈ q.frames, m.epoch = q.epoch ↔ m.seeks = acceptedSeeks tr := by
    intro m hm
    obtain ⟨hst, hle⟩ := h.stamps m hm
    have hle := Nat.le_trans hle h.behind
    rw [h.epoch, hst]
    refine ⟨fun heq => ?_, congrArg UInt64.ofNat⟩
    have hnat := congrArg UInt64.toNat heq
    rwa [UInt64.toNat_ofNat_of_lt' (Nat.lt_of_le_of_lt hle hfew),
      UInt64.toNat_ofNat_of_lt' hfew] at hnat
  generalize q.frames = frames at hiff
  induction frames with
  | nil => rfl
  | cons m frames ih =>
    have ih := ih fun m' hm' => hiff m' (mem_cons_of_mem m hm')
    have hm := hiff m mem_cons_self
    simp only [dropWhile_cons, ne_eq, hm, ih]

theorem Ordered.front {q : PlaybackStream F} (h : Ordered tr q) {m : PlaybackFrame F}
    {rest : List (PlaybackFrame F)}
    (hd : (q.frames.dropWhile fun m => m.seeks ≠ acceptedSeeks tr) = m :: rest) :
    q.seeks = acceptedSeeks tr ∧ m.seeks = acceptedSeeks tr ∧ m.index = received tr ∧
      received tr < q.index ∧
      (rest.filter fun m => m.seeks = acceptedSeeks tr).map PlaybackFrame.index =
        List.range' (received tr + 1) (q.index - (received tr + 1)) := by
  have hm : m.seeks = acceptedSeeks tr := by
    have := q.frames.head?_dropWhile_not fun m => decide (m.seeks ≠ acceptedSeeks tr)
    simpa only [hd, List.head?_cons, decide_eq_false_iff_not, not_not] using this
  have hme : m ∈ q.frames := (dropWhile_suffix _).subset (hd ▸ mem_cons_self)
  have heq : q.seeks = acceptedSeeks tr :=
    Nat.le_antisymm h.behind (hm ▸ (h.stamps m hme).2)
  obtain ⟨hlo, hn⟩ := h.order heq
  rw [← filter_dropWhile, hd, filter_cons_of_pos (by simpa using hm)] at hn
  have hlt : received tr < q.index := by
    by_contra hge
    rw [Nat.sub_eq_zero_of_le (by omega)] at hn
    cases hn
  rw [show q.index - received tr = q.index - (received tr + 1) + 1 by omega] at hn
  obtain ⟨hi, hr⟩ := List.cons.inj hn
  exact ⟨heq, hm, hi, hlt, hr⟩

theorem Synced.nextPcm (h : Synced tr s) (hfew : acceptedSeeks tr < 2 ^ 64) :
    Synced (tr ++ [(.nextPcm, s.nextPcm.2)]) s.nextPcm.1 ∧
      ∀ m, s.nextPcm.2 = .received m → m.seeks = acceptedSeeks tr ∧ m.index = received tr := by
  unfold WorkerPlayback.nextPcm
  split
  · exact ⟨h.quiet rfl rfl, fun m hm => by cases hm⟩
  obtain ⟨h, hq⟩ := h
  rw [h.dropWhile_epoch hfew]
  cases hd : s.frames.dropWhile fun m => m.seeks ≠ acceptedSeeks tr with
  | nil =>
    have hn : (s.frames.filter fun m => m.seeks = acceptedSeeks tr) = [] := by
      rw [← filter_dropWhile, hd]
      rfl
    have hc : Ordered tr { s.toPlaybackStream with frames := [] } :=
      ⟨h.epoch, h.worker, h.behind, fun m hm => absurd hm not_mem_nil, h.early,
        fun heq => ⟨(h.order heq).1, (congrArg _ hn.symm).trans (h.order heq).2⟩⟩
    dsimp only
    split <;> exact ⟨Synced.quiet ⟨hc, hq⟩ rfl rfl, fun m hm => by cases hm⟩
  | cons m rest =>
    obtain ⟨heq, hs, hi, hlt, hr⟩ := h.front hd
    have hac : acceptedSeeks (tr ++ [(.nextPcm, .received m)]) = acceptedSeeks tr :=
      acceptedSeeks_append tr _
    have hre := received_append tr (.nextPcm, .received m)
    have hne : Ordered (tr ++ [(.nextPcm, .received m)])
        { s.toPlaybackStream with frames := rest } :=
      ⟨hac ▸ h.epoch, h.worker, hac ▸ h.behind, fun m' hm' => h.stamps m' <|
          (dropWhile_suffix _).subset (hd ▸ mem_cons_of_mem m hm'),
        fun hlt => absurd (heq.trans hac.symm) (Nat.ne_of_lt hlt),
        fun _ => by rw [hre, hac]; exact ⟨hlt, hr⟩⟩
    have hmi : ∀ m', (.received m : PlaybackAnswer F) = .received m' →
        m'.seeks = acceptedSeeks tr ∧ m'.index = received tr := by
      rintro _ ⟨⟩
      exact ⟨hs, hi⟩
    have hq' : Queued (tr ++ [(.nextPcm, .received m)]) s := by rwa [Queued, hac]
    dsimp only
    split <;> exact ⟨⟨hne, hq'⟩, hmi⟩

theorem Synced.select (h : Synced tr s) : Synced tr s.select := by
  unfold WorkerPlayback.select
  split
  · rename_i hp
    have hq := h.2 (by simp [hp])
    simp only [pending, hp] at hq
    split
    · exact ⟨h.1, fun hne => absurd rfl hne⟩
    split
    · rename_i hc
      exact ⟨h.1, fun _ => by rw [← hq, hc]; rfl⟩
    split
    · exact ⟨h.1, fun _ => hq⟩
    · exact h
  · exact h

theorem Synced.complete (h : Synced tr s) : Synced tr (s.complete decode seek) := by
  unfold WorkerPlayback.complete
  split
  · rename_i hp
    have hq := h.2 (by simp [hp])
    simp only [pending, hp] at hq
    have he := h.1.emit (decode s.core).2
    dsimp only
    split
    · exact ⟨he, fun _ => hq⟩
    · exact ⟨he, fun _ => hq⟩
    · exact ⟨he, fun hne => absurd rfl hne⟩
  · rename_i request hp
    obtain ⟨h, hq⟩ := h
    have hq := hq (by simp [hp])
    simp only [pending, hp] at hq
    have hlt : s.seeks < acceptedSeeks tr := by
      by_contra hge
      rw [Nat.sub_eq_zero_of_le (by omega)] at hq
      cases hq
    rw [show acceptedSeeks tr - s.seeks = acceptedSeeks tr - (s.seeks + 1) + 1 by omega] at hq
    obtain ⟨hep, hr⟩ := List.cons.inj hq
    have hea := h.early hlt
    refine ⟨⟨h.epoch, hep, hlt, fun m hm => ?_, fun _ => hea, fun heq => ?_⟩, fun _ => hr⟩
    · exact ⟨(h.stamps m hm).1, Nat.le_succ_of_le (h.stamps m hm).2⟩
    refine ⟨Nat.le_of_eq hea, ?_⟩
    rw [filter_eq_nil_iff.mpr, hea]
    · rfl
    intro m hm
    have := h.stamps m hm
    simp only [decide_eq_true_eq]
    omega
  · exact h

theorem Synced.timeout (h : Synced tr s) : Synced tr s.timeout := by
  have he : ∀ result, Synced tr { s.emit result with phase := .stopped } := fun result =>
    ⟨h.1.emit result, fun hne => absurd rfl hne⟩
  unfold WorkerPlayback.timeout
  split
  · exact he _
  · split
    · exact he _
    · exact h
  · exact h

theorem synced_start (core : D) : Synced [] ({ core } : WorkerPlayback D P F) :=
  ⟨⟨rfl, rfl, Nat.le_refl 0, fun _ hm => absurd hm not_mem_nil, fun _ => rfl,
    fun _ => ⟨Nat.le_refl 0, rfl⟩⟩, fun _ => rfl⟩

theorem synced_step (h : Synced tr s) (hfew : acceptedSeeks tr < 2 ^ 64) (a : PlaybackAction P) :
    Synced (tr ++ [(a, (s.step decode seek a).2)]) (s.step decode seek a).1 := by
  cases a with
  | requestSeek position => exact h.requestSeek position
  | nextPcm => exact (h.nextPcm hfew).1
  | pause =>
    have hp : Synced tr s.pause := by unfold pause; split <;> exact h
    exact hp.quiet rfl rfl
  | resume =>
    have hp : Synced tr s.resume := by unfold resume; split <;> exact h
    exact hp.quiet rfl rfl
  | select => exact h.select.quiet rfl rfl
  | complete => exact h.complete.quiet rfl rfl
  | timeout => exact h.timeout.quiet rfl rfl

/-- Whatever the two sides did before, a frame or an end of file that the session
receives was made after every accepted seek, and is the next one since the last of
them, as long as the epochs have not wrapped around.  A refused request changes nothing. -/
theorem seek_never_stale (decode : D → D × Except (Option String) F) (seek : P → D → D) (core : D)
    (actions : List (PlaybackAction P)) :
    (acceptedSeeks (trace (step decode seek) { core } actions) < 2 ^ 64 →
      ∀ m, (exec (step decode seek) { core } actions).nextPcm.2 = .received m →
      m.seeks = acceptedSeeks (trace (step decode seek) { core } actions) ∧
      m.index = received (trace (step decode seek) { core } actions)) ∧
    ∀ position error,
      ((exec (step decode seek) { core } actions).requestSeek position).2 = .refused error →
      ((exec (step decode seek) { core } actions).requestSeek position).1 =
        exec (step decode seek) { core } actions := by
  refine ⟨fun hfew => ?_, fun _ _ hr => requestSeek_refused hr⟩
  have hsynced := history_induction (P := fun tr s => acceptedSeeks tr < 2 ^ 64 → Synced tr s)
    (fun _ => synced_start core) (fun tr s a ih hfew => ?_) actions hfew
  · exact (hsynced.nextPcm hfew).2
  rw [acceptedSeeks_append] at hfew
  have hfew := Nat.lt_of_le_of_lt (Nat.le_add_right _ _) hfew
  exact synced_step (ih hfew) hfew a

/-! ## After 2^64 seeks -/

abbrev sampleStep := step (D := Unit) (P := Unit) (F := Unit) (fun _ => ((), .ok ())) fun _ _ => ()

theorem seek_never_stale_once :
    ∃ m, (exec sampleStep { core := () } [.select, .complete, .requestSeek (), .select, .complete,
        .select, .complete]).nextPcm.2 = .received m ∧ m.seeks = 1 ∧ m.index = 0 :=
  ⟨_, rfl, (seek_never_stale (fun _ => ((), .ok ())) (fun _ _ => ()) () [.select, .complete,
    .requestSeek (), .select, .complete, .select, .complete]).1 (by decide) _ rfl⟩

/-- The session is paused with a frame of the first epoch in the channel. -/
def sampleHeld (n : Nat) : WorkerPlayback Unit Unit Unit :=
  { epoch := .ofNat n, frames := [⟨0, .ok (), 0, 0⟩], workerEpoch := .ofNat n, seeks := n,
    state := .paused, paused := true, core := () }

def sampleSeeks (n : Nat) : List (PlaybackAction Unit) :=
  (replicate n [.requestSeek (), .select, .complete]).flatten

theorem sampleSeeks_held (n : Nat) : exec sampleStep (sampleHeld 1) (sampleSeeks n) =
      sampleHeld (n + 1) ∧ acceptedSeeks (trace sampleStep (sampleHeld 1) (sampleSeeks n)) = n := by
  have hseek : ∀ k, exec sampleStep (sampleHeld k) [.requestSeek (), .select, .complete] =
      sampleHeld (k + 1) := by
    intro k
    have hep : UInt64.ofNat (k + 1) = .ofNat k + 1 := UInt64.ofNat_add k 1
    rw [sampleHeld, sampleHeld, hep]
    rfl
  induction n with
  | zero => exact ⟨rfl, rfl⟩
  | succ n ih =>
    have hsucc : sampleSeeks (n + 1) = sampleSeeks n ++ [.requestSeek (), .select, .complete] := by
      rw [sampleSeeks, replicate_succ', flatten_append, flatten_singleton, sampleSeeks]
    rw [hsucc, exec_append, trace_append, ih.1, hseek, acceptedSeeks, countP_append,
      ← acceptedSeeks, ih.2]
    exact ⟨rfl, rfl⟩

/-- The frame from before every seek is received after all of them. -/
theorem stale_after_wrap : ∃ actions m,
    (exec sampleStep { core := () } actions).nextPcm.2 = .received m ∧ m.seeks = 0 ∧
      acceptedSeeks (trace sampleStep { core := () } actions) = 2 ^ 64 := by
  obtain ⟨hexec, hseeks⟩ := sampleSeeks_held (2 ^ 64 - 1)
  have hstart : exec sampleStep { core := () } [.select, .complete, .pause, .requestSeek (),
      .select, .complete] = sampleHeld 1 := rfl
  refine ⟨[.select, .complete, .pause, .requestSeek (), .select, .complete] ++
    (sampleSeeks (2 ^ 64 - 1) ++ [.resume]), ⟨0, .ok (), 0, 0⟩, ?_, rfl, ?_⟩
  · rw [exec_append, hstart, exec_append, hexec]
    rfl
  · rw [acceptedSeeks] at hseeks
    rw [trace_append, hstart, trace_append, hexec, acceptedSeeks, countP_append, countP_append,
      hseeks]
    rfl

end WorkerPlayback
end RtpBridge.Session
