/-
The audio socket of a WebSocket endpoint: `write_rtp` and both tasks of `ws_io_task` in
`session/endpoint_websocket.rs`.

A step is one branch of one of the two `select` loops.  Whether the session queue has
room and whether the socket writer accepts a message is up to the environment.  The
emissions of a step are what a task takes from the queue or hands out in it; what came in is
read off the actions.
-/
import RtpBridge.Base.Bytes
import RtpBridge.Base.Machine

namespace RtpBridge.Session

open Machine Wire List

structure WebSocketIo where
  outbound : List Bytes := []
  incoming : Bytes := []
  -- the nonce of a ping that has no answer yet
  pending : Option Bytes := none
  cancelled : Bool := false
  reading : Bool := true
  coalesce : Bytes := []
  writing : Bool := true

inductive Room where
  | free
  | full
  | closed

inductive InputEvent where
  | cancelled
  | deadline
  | pingDue (nonce : Bytes) (sent : Bool)
  | tick (room : Room)
  | binary (data : Bytes)
  | ping (sent : Bool)
  | pong (data : Bytes)
  | close
  | other

def InputEvent.data : InputEvent → List Bytes
  | .binary data => [data]
  | _ => []

inductive OutputEvent where
  | recv (sent : Bool)
  | cancelled (sent : Bool)
  | closed (sent : Bool)
  | aborted

inductive IoAction where
  | writeRtp (payload : Bytes)
  | cancel
  | input (e : InputEvent)
  | output (e : OutputEvent)

inductive Emission where
  | delivered (frame : Bytes)
  | taken (frame : Bytes)
  | sent (message : Bytes)

namespace WebSocketIo

variable {frameBytes flushBytes : Nat} {s : WebSocketIo} {es : List Emission}
  {ins outs : List Bytes}

def outboundQueueFrames : Nat := 100

def maxBuffered : Nat := 256 * 1024

def writeRtp (s : WebSocketIo) (payload : Bytes) : WebSocketIo :=
  if s.writing ∧ s.outbound.length < outboundQueueFrames then
    { s with outbound := s.outbound ++ [payload] }
  else s

def stop (s : WebSocketIo) : WebSocketIo := { s with reading := false, cancelled := true }

def read (frameBytes : Nat) (s : WebSocketIo) : InputEvent → WebSocketIo × List Emission
  | .cancelled => (if s.cancelled then s.stop else s, [])
  | .deadline => (if s.pending.isSome then s.stop else s, [])
  | .pingDue nonce sent =>
    (if s.pending.isSome then s else if sent then { s with pending := some nonce } else s.stop, [])
  | .tick room =>
    if s.incoming.length < frameBytes then (s, [])
    else
      match room with
      | .free =>
        ({ s with incoming := s.incoming.drop frameBytes },
          [.delivered (s.incoming.take frameBytes)])
      | .closed => (s.stop, [])
      | .full => (s, [])
  | .binary data =>
    (if maxBuffered - s.incoming.length < data.length then s.stop
      else { s with incoming := s.incoming ++ data }, [])
  | .ping sent => (if sent then s else s.stop, [])
  | .pong data => (if s.pending = some data then { s with pending := none } else s, [])
  | .close => (s.stop, [])
  | .other => (s, [])

def finish (s : WebSocketIo) (sent : Bool) : WebSocketIo × List Emission :=
  ({ s with writing := false, cancelled := true },
    if s.coalesce.isEmpty ∨ sent = false then [] else [.sent s.coalesce])

def forward (flushBytes : Nat) (s : WebSocketIo) (frame : Bytes) (sent : Bool) :
    WebSocketIo × List Emission :=
  if flushBytes = 0 then if sent then (s, [.sent frame]) else s.finish sent
  else if maxBuffered < frame.length ∨ maxBuffered < s.coalesce.length + frame.length then
    s.finish sent
  else if flushBytes ≤ (s.coalesce ++ frame).length then
    if sent then ({ s with coalesce := [] }, [.sent (s.coalesce ++ frame)])
    else finish { s with coalesce := [] } sent
  else ({ s with coalesce := s.coalesce ++ frame }, [])

def write (flushBytes : Nat) (s : WebSocketIo) : OutputEvent → WebSocketIo × List Emission
  | .recv sent =>
    match s.outbound with
    | [] => (s, [])
    | frame :: rest =>
      ((forward flushBytes { s with outbound := rest } frame sent).1,
        .taken frame :: (forward flushBytes { s with outbound := rest } frame sent).2)
  | .cancelled sent => if s.cancelled then s.finish sent else (s, [])
  | .closed sent => s.finish sent
  | .aborted => (if s.reading then s else { s with writing := false }, [])

def step (frameBytes flushBytes : Nat) (s : WebSocketIo) : IoAction → WebSocketIo × List Emission
  | .writeRtp payload => (s.writeRtp payload, [])
  | .cancel => ({ s with cancelled := true }, [])
  | .input e => if s.reading then s.read frameBytes e else (s, [])
  | .output e => if s.writing then s.write flushBytes e else (s, [])

/-- The messages the input task reads. -/
def arrived (s : WebSocketIo) : IoAction → List Bytes
  | .input e => if s.reading then e.data else []
  | _ => []

/-- The payloads the outbound queue has room for. -/
def queued (s : WebSocketIo) : IoAction → List Bytes
  | .writeRtp payload =>
    if s.writing ∧ s.outbound.length < outboundQueueFrames then [payload] else []
  | _ => []

def collect (frameBytes flushBytes : Nat) (offered : WebSocketIo → IoAction → List Bytes) :
    WebSocketIo → List IoAction → List Bytes
  | _, [] => []
  | s, a :: rest =>
    offered s a ++ collect frameBytes flushBytes offered (s.step frameBytes flushBytes a).1 rest

def emissions (frameBytes flushBytes : Nat) (s : WebSocketIo) (actions : List IoAction) :
    List Emission :=
  (trace (step frameBytes flushBytes) s actions).flatMap Prod.snd

def delivered (es : List Emission) : List Bytes :=
  es.filterMap fun | .delivered frame => some frame | _ => none

def taken (es : List Emission) : List Bytes :=
  es.filterMap fun | .taken frame => some frame | _ => none

def sent (es : List Emission) : List Bytes :=
  es.filterMap fun | .sent message => some message | _ => none

theorem sent_append (es new : List Emission) : sent (es ++ new) = sent es ++ sent new :=
  filterMap_append

theorem taken_append (es new : List Emission) : taken (es ++ new) = taken es ++ taken new :=
  filterMap_append

theorem delivered_append (es new : List Emission) :
    delivered (es ++ new) = delivered es ++ delivered new := filterMap_append

theorem read_frame (frameBytes : Nat) (s : WebSocketIo) (e : InputEvent) :
    (s.read frameBytes e).1.coalesce = s.coalesce ∧ (s.read frameBytes e).1.writing = s.writing ∧
      (s.read frameBytes e).1.outbound = s.outbound ∧
      sent (s.read frameBytes e).2 = [] ∧ taken (s.read frameBytes e).2 = [] := by
  cases e <;> unfold read <;> (repeat' split) <;> exact ⟨rfl, rfl, rfl, rfl, rfl⟩

theorem write_frame (flushBytes : Nat) (s : WebSocketIo) (e : OutputEvent) :
    (s.write flushBytes e).1.incoming = s.incoming ∧
      (s.write flushBytes e).1.reading = s.reading ∧
      delivered (s.write flushBytes e).2 = [] := by
  cases e <;> unfold write <;> (try unfold forward) <;> (try unfold finish) <;>
    (repeat' split) <;> exact ⟨rfl, rfl, rfl⟩

/-! ## The input task -/

structure Inbound (frameBytes : Nat) (ins : List Bytes) (es : List Emission) (s : WebSocketIo) :
    Prop where
  framed : ∀ f ∈ delivered es, f.length = frameBytes
  ordered : (delivered es).flatten <+: ins.flatten
  budget : s.incoming.length ≤ maxBuffered
  kept : s.reading = true → (delivered es).flatten ++ s.incoming = ins.flatten

theorem Inbound.quiet {s' : WebSocketIo} {new : List Emission} (h : Inbound frameBytes ins es s)
    (hd : delivered new = []) (hi : s'.incoming = s.incoming)
    (hre : s'.reading = true → s.reading = true) :
    Inbound frameBytes (ins ++ []) (es ++ new) s' := by
  have hde : delivered (es ++ new) = delivered es := by rw [delivered_append, hd, append_nil]
  rw [append_nil]
  constructor
  · exact hde ▸ h.framed
  · rw [hde]
    exact h.ordered
  · exact hi ▸ h.budget
  intro hn
  rw [hde, hi]
  exact h.kept (hre hn)

theorem Inbound.read (h : Inbound frameBytes ins es s) (hr : s.reading = true) (e : InputEvent) :
    Inbound frameBytes (ins ++ e.data) (es ++ (s.read frameBytes e).2)
      (s.read frameBytes e).1 := by
  have hk := h.kept hr
  have hb := h.budget
  cases e with
  | binary data =>
    have hin : (ins ++ (InputEvent.binary data).data).flatten = ins.flatten ++ data := by
      rw [flatten_append]
      exact congrArg (ins.flatten ++ ·) (append_nil data)
    have hp : (delivered es).flatten <+: ins.flatten ++ data :=
      h.ordered.trans (prefix_append _ _)
    rw [WebSocketIo.read, append_nil]
    dsimp only
    split
    · exact ⟨h.framed, hin ▸ hp, hb, nofun⟩
    rename_i hn
    refine ⟨h.framed, hin ▸ hp, ?_, fun _ => ?_⟩
    · rw [length_append]
      omega
    · rw [hin, ← hk, append_assoc]
  | tick room =>
    by_cases hl : s.incoming.length < frameBytes
    · rw [show s.read frameBytes (.tick room) = (s, []) from if_pos hl]
      exact h.quiet rfl rfl id
    rw [show s.read frameBytes (.tick room) = _ from if_neg hl]
    cases room with
    | full => exact h.quiet rfl rfl id
    | closed => exact h.quiet rfl rfl nofun
    | free =>
      have hf : (s.incoming.take frameBytes).length = frameBytes :=
        length_take_of_le (Nat.le_of_not_lt hl)
      have hd : (delivered (es ++ [.delivered (s.incoming.take frameBytes)])).flatten =
          (delivered es).flatten ++ s.incoming.take frameBytes := by
        rw [delivered_append, flatten_append]
        exact congrArg ((delivered es).flatten ++ ·) (append_nil _)
      have ht : (delivered es).flatten ++ s.incoming.take frameBytes ++
          s.incoming.drop frameBytes = (ins ++ []).flatten := by
        rw [append_assoc, take_append_drop, append_nil]
        exact hk
      refine ⟨fun f hm => ?_, ?_, ?_, fun _ => ?_⟩
      · rw [delivered_append] at hm
        rcases mem_append.mp hm with hm | hm
        · exact h.framed f hm
        · exact mem_singleton.mp hm ▸ hf
      · rw [hd]
        exact ⟨_, ht⟩
      · exact Nat.le_trans (by simp) hb
      · rw [hd]
        exact ht
  | cancelled | deadline | pingDue | ping | pong | close | other =>
    rw [WebSocketIo.read]
    dsimp only
    repeat' split
    all_goals first | exact h.quiet rfl rfl id | exact h.quiet rfl rfl nofun

/-! ## The output task -/

structure Outbound (flushBytes : Nat) (outs : List Bytes) (es : List Emission) (s : WebSocketIo) :
    Prop where
  fifo : taken es ++ s.outbound = outs
  waiting : s.writing = true → (sent es).flatten ++ s.coalesce = (taken es).flatten ∧
    s.coalesce.length < max 1 flushBytes ∧ ∀ m ∈ sent es, flushBytes ≤ m.length
  coalesced : ∀ m ∈ (sent es).dropLast, flushBytes ≤ m.length

section

variable {s' : WebSocketIo} {new : List Emission} {frame : Bytes} {rest : List Bytes}

theorem Outbound.fifo_append (h : Outbound flushBytes outs es s)
    (hq : taken new ++ s'.outbound = s.outbound) :
    taken (es ++ new) ++ s'.outbound = outs ++ [] := by
  rw [taken_append, append_assoc, hq, h.fifo, append_nil]

theorem Outbound.quiet (h : Outbound flushBytes outs es s) (hs : sent new = [])
    (ht : taken new = []) (hq : s'.outbound = s.outbound) (hc : s'.coalesce = s.coalesce)
    (hw : s'.writing = true → s.writing = true) :
    Outbound flushBytes (outs ++ []) (es ++ new) s' := by
  have hse : sent (es ++ new) = sent es := by rw [sent_append, hs, append_nil]
  have hta : taken (es ++ new) = taken es := by rw [taken_append, ht, append_nil]
  constructor
  · exact h.fifo_append (by rw [ht, hq]; rfl)
  · intro hn
    rw [hse, hta, hc]
    exact h.waiting (hw hn)
  · exact hse ▸ h.coalesced

theorem Outbound.finish (h : Outbound flushBytes outs es s) (hw : s.writing = true) (ok : Bool)
    (hn : sent new = sent (s'.finish ok).2) (hq : taken new ++ s'.outbound = s.outbound) :
    Outbound flushBytes (outs ++ []) (es ++ new) (s'.finish ok).1 := by
  refine ⟨h.fifo_append hq, nofun, fun m hm => (h.waiting hw).2.2 m ?_⟩
  have hl : (sent new).length ≤ 1 := by
    rw [hn]
    unfold WebSocketIo.finish
    split
    · exact Nat.zero_le 1
    · exact Nat.le_refl 1
  have hle : (sent es ++ sent new).length - 1 ≤ (sent es).length := by
    rw [length_append]
    omega
  rw [sent_append, dropLast_eq_take, take_append_of_le_length hle] at hm
  exact mem_of_mem_take hm

theorem Outbound.go_on (h : Outbound flushBytes outs es s) (out : List Bytes)
    (hw : s.writing = true) (hs : sent new = out) (ht : taken new = [frame])
    (hq : s.outbound = frame :: s'.outbound)
    (hf : out.flatten ++ s'.coalesce = s.coalesce ++ frame)
    (hl : s'.coalesce.length < max 1 flushBytes) (ho : ∀ m ∈ out, flushBytes ≤ m.length) :
    Outbound flushBytes (outs ++ []) (es ++ new) s' := by
  obtain ⟨hta, -, hm⟩ := h.waiting hw
  have hall : ∀ m ∈ sent (es ++ new), flushBytes ≤ m.length := by
    intro m hin
    rw [sent_append, hs] at hin
    exact (mem_append.mp hin).elim (hm m) (ho m)
  refine ⟨h.fifo_append (by rw [ht, hq]; rfl), fun _ => ⟨?_, hl, hall⟩,
    fun m hin => hall m (dropLast_subset _ hin)⟩
  rw [sent_append, taken_append, hs, ht, flatten_append, flatten_append, ← hta, append_assoc, hf]
  simp

theorem Outbound.forward (h : Outbound flushBytes outs es s) (hw : s.writing = true)
    (hq : s.outbound = frame :: rest) (ok : Bool) :
    Outbound flushBytes (outs ++ [])
      (es ++ .taken frame :: (forward flushBytes { s with outbound := rest } frame ok).2)
      (forward flushBytes { s with outbound := rest } frame ok).1 := by
  obtain ⟨-, hl, -⟩ := h.waiting hw
  have hpos : 0 < max 1 flushBytes := Nat.lt_of_lt_of_le Nat.one_pos (Nat.le_max_left _ _)
  have hend : ∀ (t : WebSocketIo), t.outbound = rest →
      Outbound flushBytes (outs ++ []) (es ++ .taken frame :: (t.finish ok).2) (t.finish ok).1 := by
    intro t ht
    refine h.finish hw ok rfl ?_
    rw [ht, hq]
    unfold WebSocketIo.finish
    split <;> rfl
  unfold WebSocketIo.forward
  split
  · rename_i h0
    have hc : s.coalesce = [] := length_eq_zero_iff.mp (by omega)
    split
    · exact h.go_on [frame] hw rfl rfl hq (by simp [hc]) hl (by simp [h0])
    · exact hend _ rfl
  split
  · exact hend _ rfl
  split
  · rename_i hle
    split
    · exact h.go_on [s.coalesce ++ frame] hw rfl rfl hq (by simp) hpos (by simpa using hle)
    · exact hend _ rfl
  · rename_i hlt
    exact h.go_on [] hw rfl rfl hq rfl (by dsimp only at hlt ⊢; omega) nofun

end

theorem taken_finish (s : WebSocketIo) (ok : Bool) : taken (s.finish ok).2 = [] := by
  unfold WebSocketIo.finish
  split <;> rfl

theorem Outbound.write (h : Outbound flushBytes outs es s) (hw : s.writing = true)
    (e : OutputEvent) :
    Outbound flushBytes (outs ++ []) (es ++ (s.write flushBytes e).2)
      (s.write flushBytes e).1 := by
  have hend : ∀ ok, Outbound flushBytes (outs ++ []) (es ++ (s.finish ok).2) (s.finish ok).1 :=
    fun ok => h.finish hw ok rfl (by rw [taken_finish]; rfl)
  cases e with
  | recv ok =>
    unfold WebSocketIo.write
    cases hq : s.outbound with
    | nil => exact h.quiet rfl rfl rfl rfl id
    | cons frame rest => exact h.forward hw hq ok
  | cancelled ok =>
    rw [WebSocketIo.write]
    split
    · exact hend ok
    · exact h.quiet rfl rfl rfl rfl id
  | closed ok => exact hend ok
  | aborted =>
    rw [WebSocketIo.write]
    dsimp only
    split
    · exact h.quiet rfl rfl rfl rfl id
    · exact h.quiet rfl rfl rfl rfl nofun

/-! ## Whole runs -/

structure Conserved (frameBytes flushBytes : Nat) (ins outs : List Bytes) (es : List Emission)
    (s : WebSocketIo) : Prop where
  inbound : Inbound frameBytes ins es s
  outbound : Outbound flushBytes outs es s

theorem Conserved.step (h : Conserved frameBytes flushBytes ins outs es s) (a : IoAction) :
    Conserved frameBytes flushBytes (ins ++ s.arrived a) (outs ++ s.queued a)
      (es ++ (s.step frameBytes flushBytes a).2) (s.step frameBytes flushBytes a).1 := by
  obtain ⟨hi, ho⟩ := h
  have hs : Conserved frameBytes flushBytes (ins ++ []) (outs ++ []) (es ++ []) s :=
    ⟨hi.quiet rfl rfl id, ho.quiet rfl rfl rfl rfl id⟩
  cases a with
  | writeRtp payload =>
    rw [WebSocketIo.step, writeRtp, queued]
    split
    · refine ⟨hi.quiet rfl rfl id, ?_, ?_, ?_⟩ <;> rw [append_nil]
      · exact (append_assoc ..).symm.trans (congrArg (· ++ [payload]) ho.fifo)
      · exact ho.waiting
      · exact ho.coalesced
    · exact hs
  | cancel => exact ⟨hi.quiet rfl rfl id, ho.quiet rfl rfl rfl rfl id⟩
  | input e =>
    rw [WebSocketIo.step, arrived]
    split
    · rename_i hr
      obtain ⟨hc, hw, hq, hse, hta⟩ := read_frame frameBytes s e
      exact ⟨hi.read hr e, ho.quiet hse hta hq hc fun hn => hw ▸ hn⟩
    · exact hs
  | output e =>
    rw [WebSocketIo.step]
    split
    · rename_i hw
      obtain ⟨hin, hr, hde⟩ := write_frame flushBytes s e
      exact ⟨hi.quiet hde hin fun hn => hr ▸ hn, ho.write hw e⟩
    · exact hs

theorem Conserved.run (h : Conserved frameBytes flushBytes ins outs es s)
    (actions : List IoAction) :
    Conserved frameBytes flushBytes (ins ++ collect frameBytes flushBytes arrived s actions)
      (outs ++ collect frameBytes flushBytes queued s actions)
      (es ++ emissions frameBytes flushBytes s actions)
      (exec (WebSocketIo.step frameBytes flushBytes) s actions) := by
  induction actions generalizing s ins outs es with
  | nil => simpa [collect, emissions] using h
  | cons a actions ih =>
    have hnext := ih (h.step a)
    simp only [append_assoc] at hnext
    simpa [collect, emissions, WebSocketIo.step] using hnext

theorem conserved_start :
    Conserved frameBytes flushBytes [] [] [] {} :=
  ⟨⟨nofun, nil_prefix, Nat.zero_le _, fun _ => rfl⟩,
    ⟨rfl, fun _ => ⟨rfl, Nat.lt_of_lt_of_le Nat.one_pos (Nat.le_max_left _ _), nofun⟩, nofun⟩⟩

/-- Frames reach the session in the order of the received bytes, and no accepted byte is
lost while the task runs.  What was queued leaves the queue in order; while the output task
waits, what it sent is all it took but for less than one message, and only a last message may
be shorter than the flush size. -/
theorem ws_streams_conserved (sampleRate flushFrames : Nat) (actions : List IoAction) :
    let frameBytes := sampleRate / 50 * 2
    let flushBytes := flushFrames * frameBytes
    let es := emissions frameBytes flushBytes {} actions
    let s := exec (step frameBytes flushBytes) {} actions
    let ins := collect frameBytes flushBytes arrived {} actions
    let outs := collect frameBytes flushBytes queued {} actions
    ((delivered es).flatten <+: ins.flatten ∧
      (∀ f ∈ delivered es, f.length = frameBytes) ∧ s.incoming.length ≤ 256 * 1024 ∧
      (s.reading = true → (delivered es).flatten ++ s.incoming = ins.flatten)) ∧
    taken es ++ s.outbound = outs ∧
    (s.writing = true → (sent es).flatten <+: (taken es).flatten ∧
      (taken es).flatten.length < (sent es).flatten.length + max 1 flushBytes) ∧
    ∀ m ∈ (sent es).dropLast, flushBytes ≤ m.length := by
  intro frameBytes flushBytes es s ins outs
  have hrun : Conserved frameBytes flushBytes ins outs es s :=
    conserved_start.run actions
  obtain ⟨hi, ho⟩ := hrun
  refine ⟨⟨hi.ordered, hi.framed, hi.budget, hi.kept⟩, ho.fifo, fun hw => ?_, ho.coalesced⟩
  obtain ⟨ht, hl, -⟩ := ho.waiting hw
  rw [← ht, length_append]
  exact ⟨prefix_append _ _, Nat.add_lt_add_left hl _⟩

def sampleActions : List IoAction :=
  [.input (.binary [1, 2, 3]), .writeRtp [7, 7, 8, 8], .input (.binary [4, 5]),
    .input (.tick .free), .output (.recv true), .writeRtp [9, 9], .output (.recv true)]

/-- At a hundred samples a second a frame has four bytes, and two make a message. -/
theorem sampleActions_conserved :
    (delivered (emissions 4 8 {} sampleActions)).flatten ++ [5] = [1, 2, 3, 4, 5] ∧
      taken (emissions 4 8 {} sampleActions) = [[7, 7, 8, 8], [9, 9]] ∧
      (taken (emissions 4 8 {} sampleActions)).flatten.length < 0 + 8 :=
  have h := ws_streams_conserved 100 2 sampleActions
  ⟨h.1.2.2.2 rfl, h.2.1, (h.2.2.1 rfl).2⟩

end WebSocketIo
end RtpBridge.Session
