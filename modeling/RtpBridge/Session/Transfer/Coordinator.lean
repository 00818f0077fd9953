/-
A transfer by itself: what its coordinator does, and which commands it sends to whom.
-/
import RtpBridge.Base.Custody
import RtpBridge.Session.System

namespace RtpBridge.Session

open Custody List Option Machine

variable {st st' : SessionState} {c : Command} {bundle : EndpointTransferBundle}

/-! ## What a coordinator does -/

def Phase.waiting : Phase → Bool
  | .reserveFinish | .reserveExtract | .reserveInsert => true
  | _ => false

def Phase.early : Phase → Bool
  | .reserveFinish | .reserveExtract | .reserveInsert | .refused | .spawned => true
  | _ => false

theorem Phase.early_of_waiting {phase : Phase} (h : phase.waiting = true) : phase.early = true := by
  revert h
  cases phase <;> decide

def Phase.active : Phase → Bool
  | .spawned | .preparing | .committing => true
  | _ => false

namespace Transfer

structure Kept (op op' : Transfer) : Prop where
  source : op'.source = op.source
  target : op'.target = op.target
  endpointId : op'.endpointId = op.endpointId
  slot : op'.slot = op.slot
  inserted : op'.inserted = op.inserted
  restored : op'.restored = op.restored
  finished : op'.finished = op.finished

inductive Coordinated (i : Nat) (op : Transfer) : Transfer × List Action → Prop
  | stay (op' : Transfer) (hp : op'.phase = op.phase) (hr : op'.result = op.result)
      (hk : op.Kept op') : Coordinated i op (op', [])
  | wait (op' : Transfer) (actions : List Action) (hf : op.phase.waiting = true)
      (hto : op'.phase.early = true)
      (hr : ∀ r, op'.result = some r → op.result = some r ∨ op'.phase = .refused ∧ r.isOk = false)
      (hk : op.Kept op') (hs : ∀ j, actions.flatMap (Action.sentTo j) = []) :
      Coordinated i op (op', actions)
  | prepare (hp : op.phase = .spawned) : Coordinated i op ({ op with phase := .preparing },
        [.send op.source (.prepareTransfer i op.endpointId)])
  | commit (hp : op.phase = .preparing) :
      Coordinated i op ({ op with phase := .committing }, [.send op.target (.commitTransfer i)])
  | leave (result : Option (Except String Unit)) (hp : op.phase.active = true)
      (hr : ∀ r, result = some r →
        r.isOk = op.slot.committed ∨ op.phase = .preparing ∧ r.isOk = false) :
      Coordinated i op (op.leave i result)

section Moves

variable (i : Nat) (op : Transfer)

theorem unused_silent (op : Transfer) (j : SessionId) :
    op.unused.flatMap (Action.sentTo j) = [] := by
  unfold unused
  split <;> rfl

theorem coordinated_refuse (hp : op.phase.waiting = true)
    (result : Option (Except String Unit)) (he : ∀ r, result = some r → r.isOk = false) :
    Coordinated i op (op.refuse result) :=
  .wait _ _ hp rfl (fun r hr => .inr ⟨rfl, he r hr⟩) ⟨rfl, rfl, rfl, rfl, rfl, rfl, rfl⟩
    op.unused_silent

theorem coordinated_refused (hp : op.phase.waiting = true) (error : String) :
    Coordinated i op (op.refuse (some (.error error))) := by
  refine coordinated_refuse i op hp _ fun r hr => ?_
  cases hr
  rfl

theorem coordinated_settle (hp : op.phase = .committing) (error : String) :
    Coordinated i op (op.settle i error) := by
  have ha : op.phase.active = true := by rw [hp]; rfl
  unfold settle
  split
  · rename_i hc
    refine .leave _ ha fun r hr => .inl ?_
    cases hr
    exact hc.symm
  rename_i ho
  refine .leave _ ha fun r hr => .inl ?_
  cases hr
  exact (Bool.eq_false_iff.mpr ho).symm

theorem coordinated_failed (hp : op.phase = .preparing) (error : String) :
    Coordinated i op (op.leave i (some (.error error))) := by
  refine .leave _ (by rw [hp]; rfl) fun r hr => .inr ⟨hp, ?_⟩
  cases hr
  rfl

theorem coordinated_same : Coordinated i op (op, []) :=
  .stay op rfl rfl ⟨rfl, rfl, rfl, rfl, rfl, rfl, rfl⟩

theorem coordinated_granted : Coordinated i op (granted i op) := by
  have hg : ∀ (phase : Phase) (sid : SessionId), op.phase.waiting = true →
      phase.early = true → Coordinated i op ({ op with phase }, [.reserve sid]) :=
    fun phase sid hf hto =>
      .wait _ _ hf hto (fun _ hr => .inl hr) ⟨rfl, rfl, rfl, rfl, rfl, rfl, rfl⟩ fun _ => rfl
  unfold granted
  split
  · exact hg _ _ (by simp only [*]; rfl) rfl
  · exact hg _ _ (by simp only [*]; rfl) rfl
  · exact hg _ _ (by simp only [*]; rfl) rfl
  · exact coordinated_same i op

theorem coordinated_closed : Coordinated i op (closed i op) := by
  unfold closed
  split <;> first
    | exact coordinated_refused i op (by simp only [*]; rfl) _
    | exact coordinated_same i op

theorem coordinated_expire : Coordinated i op (expire i op) := by
  unfold expire
  split <;> first
    | exact coordinated_refused i op (by simp only [*]; rfl) _
    | exact coordinated_failed i op ‹_› _
    | exact coordinated_settle i op ‹_› _
    | exact coordinated_same i op

theorem coordinated_poll : Coordinated i op (poll i op) := by
  unfold poll
  split
  · exact .prepare ‹_›
  · split
    · exact coordinated_same i op
    · exact .commit ‹_›
    · exact coordinated_failed i op ‹_› _
    · exact coordinated_failed i op ‹_› _
  · grind [coordinated_same, coordinated_settle]
  · exact coordinated_same i op

theorem coordinated_loseReply : Coordinated i op (loseReply i op) := by
  unfold loseReply
  split <;> exact .stay _ rfl rfl ⟨rfl, rfl, rfl, rfl, rfl, rfl, rfl⟩

theorem coordinated_cancel : Coordinated i op (cancel i op) := by
  unfold cancel
  split <;> first
    | exact coordinated_refuse i op (by simp only [*]; rfl) _ nofun
    | exact .stay _ rfl rfl ⟨rfl, rfl, rfl, rfl, rfl, rfl, rfl⟩

theorem coordinated_abort : Coordinated i op (abort i op) := by
  unfold abort
  split <;> first
    | exact .leave _ (by simp only [*]; rfl) nofun
    | exact coordinated_same i op

end Moves

/-! ## A transfer by itself -/

structure Sound (op : Transfer) : Prop where
  early : op.phase.early = true → op.slot.reserved = false ∧ op.slot.committed = false ∧
    op.restored = false ∧ op.finished = false
  preparing : op.phase = .preparing → op.slot.committed = false
  cancelled : op.slot.cancelled = true ↔ op.phase = .done ∧ op.slot.committed = false
  bundle : ∀ bundle, op.slot.bundle = some bundle →
    bundle.endpoint.id = op.endpointId ∧ op.slot.reserved = true ∧ op.slot.committed = false
  inserted : op.inserted = op.slot.committed
  restored : op.restored = true → op.phase = .done ∧ op.slot.committed = false
  finished : op.finished = true → op.phase = .done ∧ op.slot.reserved = false
  result : ∀ r, op.result = some r →
    (op.phase = .refused ∨ op.phase = .done) ∧ r.isOk = op.slot.committed

namespace Sound

variable {i : Nat} {op op' : Transfer} {actions : List Action}

theorem started (source target : SessionId) (id : EndpointId) (phase : Phase)
    (result : Option (Except String Unit)) (hp : phase.early = true)
    (hre : ∀ r, result = some r → phase = .refused ∧ r.isOk = false) :
    Sound { source, target, endpointId := id, phase, result } where
  early _ := ⟨rfl, rfl, rfl, rfl⟩
  preparing _ := rfl
  cancelled := by
    have hd : phase ≠ .done := by
      intro hd
      rw [hd] at hp
      contradiction
    simp [hd]
  bundle := by simp
  inserted := rfl
  restored := by simp
  finished := by simp
  result r hr := ⟨.inl (hre r hr).1, (hre r hr).2⟩

theorem of_kept (h : op.Sound) (hk : op.Kept op') (hea : op'.phase.early = true →
      op.phase.early = true) (hpr : op'.phase = .preparing → op.slot.committed = false)
    (hd : op'.phase = .done ↔ op.phase = .done)
    (hr : ∀ r, op'.result = some r →
      (op'.phase = .refused ∨ op'.phase = .done) ∧ r.isOk = op.slot.committed) : op'.Sound where
  early he := by grind [h.early (hea he), hk.slot, hk.restored, hk.finished]
  preparing hp := (congrArg TransferState.committed hk.slot).trans (hpr hp)
  cancelled := by grind [h.cancelled, hk.slot]
  bundle := by grind [h.bundle, hk.slot, hk.endpointId]
  inserted := by grind [h.inserted, hk.slot, hk.inserted]
  restored := by grind [h.restored, hk.slot, hk.restored]
  finished := by grind [h.finished, hk.slot, hk.finished]
  result := by grind [hk.slot]

theorem leave (i : Nat) (h : op.Sound) (hp : op.phase.active = true)
    {result : Option (Except String Unit)} (hre : ∀ r, result = some r →
      r.isOk = op.slot.committed ∨ op.phase = .preparing ∧ r.isOk = false) :
    (op.leave i result).1.Sound := by
  -- the guard cancels the transfer unless it is committed
  have hd : op.phase ≠ .done := by
    intro hd
    rw [hd] at hp
    contradiction
  exact { h with
    early := nofun
    preparing := nofun
    cancelled := by simp [Transfer.leave]
    restored := fun hr => absurd (h.restored hr).1 hd
    finished := fun hf => absurd (h.finished hf).1 hd
    result := by
      intro r hr
      refine ⟨.inr rfl, ?_⟩
      have hr : result = some r := by
        simp only [Transfer.leave] at hr
        split at hr
        · exact hr
        · contradiction
      rcases hre r hr with hok | ⟨hpr, hok⟩
      · exact hok
      · rw [hok]
        exact (h.preparing hpr).symm }

theorem coordinated (h : op.Sound) (hm : Coordinated i op (op', actions)) : op'.Sound := by
  cases hm with
  | stay _ hph hre hk =>
    refine h.of_kept hk (by rw [hph]; exact fun he => he) ?_ (by rw [hph]) ?_
    · rw [hph]
      exact h.preparing
    · rw [hph, hre]
      exact h.result
  | wait _ _ hf hto hre hk _ =>
    have hea := Phase.early_of_waiting hf
    have hn : ∀ p : Phase, p.early = true → p ≠ .done ∧ p ≠ .preparing := by
      intro p hp
      revert hp
      cases p <;> decide
    refine h.of_kept hk (fun _ => hea) (fun hp => absurd hp (hn _ hto).2) ?_ ?_
    · exact iff_of_false (hn _ hto).1 (hn _ hea).1
    intro r hr
    rcases hre r hr with hold | ⟨hrf, her⟩
    · -- a waiting coordinator has returned nothing
      rcases (h.result r hold).1 with hph | hph
      · rw [hph] at hf
        contradiction
      · rw [hph] at hf
        contradiction
    refine ⟨.inl hrf, ?_⟩
    rw [her]
    exact (h.early hea).2.1.symm
  | prepare hph =>
    have hea := h.early (by rw [hph]; rfl)
    refine h.of_kept ⟨rfl, rfl, rfl, rfl, rfl, rfl, rfl⟩ nofun (fun _ => hea.2.1) ?_ ?_
    · rw [hph]
      exact iff_of_false nofun nofun
    intro r hr
    have hr := (h.result r hr).1
    rw [hph] at hr
    rcases hr with hr | hr <;> contradiction
  | commit hph =>
    refine h.of_kept ⟨rfl, rfl, rfl, rfl, rfl, rfl, rfl⟩ nofun nofun ?_ ?_
    · rw [hph]
      exact iff_of_false nofun nofun
    intro r hr
    have hr := (h.result r hr).1
    rw [hph] at hr
    rcases hr with hr | hr <;> contradiction
  | leave result hph hre => exact h.leave i hph hre

/-! What the three commands of a transfer leave. -/

variable {st st' : SessionState} {slot : TransferState} {r : Except String Unit}

theorem prepared (h : op.Sound) (hp : op.phase.early = false)
    (hc : op.slot.committed = false) (hf : op.finished = false)
    (hou : st.Prepared op.slot op.endpointId (st', slot, r)) (reply : Reply (Except String Unit)) :
    Sound { op with slot, prepared := reply } := by
  cases hou with
  | refused e => exact ⟨h.1, h.2, h.3, h.4, h.5, h.6, h.7, h.8⟩
  | extracted ep ho hfr hfi =>
    exact { h with
      early := by simp [hp]
      bundle := by
        rintro bundle ⟨⟩
        exact ⟨SessionState.id_of_find hfi, rfl, hc⟩
      finished := by simp [hf]
      result := h.result }

theorem committed (h : op.Sound) (hp : op.phase = .committing ∨ op.phase = .done)
    (hou : st.Committed op.slot (st', slot, r)) (reply : Reply (Except String Unit)) :
    Sound { op with slot, commitment := reply, inserted := op.inserted || r.isOk } := by
  cases hou with
  | refused e =>
    have hi : (op.inserted || (Except.error e : Except String Unit).isOk) = op.inserted :=
      Bool.or_false _
    rw [hi]
    exact ⟨h.1, h.2, h.3, h.4, h.5, h.6, h.7, h.8⟩
  | inserted bundle ho hb hn =>
    -- an open slot with an endpoint in it belongs to a coordinator that still waits
    have hd : op.phase ≠ .done := by
      intro hd
      rw [h.cancelled.mpr ⟨hd, (h.bundle bundle hb).2.2⟩] at ho
      contradiction
    have hc : op.phase = .committing := hp.resolve_right hd
    exact {
      early := by simp [hc, Phase.early]
      preparing := by simp [hc]
      cancelled := by simp [ho]
      bundle := by simp
      inserted := Bool.or_true _
      restored := fun hr => absurd (h.restored hr).1 hd
      finished := fun hf => absurd (h.finished hf).1 hd
      result := by grind [h.result] }

theorem finish (h : op.Sound) (hp : op.phase = .done) {restored : Bool}
    (hou : st.Finished op.slot op.endpointId (st', slot, restored)) :
    Sound { op with slot, restored := op.restored || restored, finished := true } := by
  cases hou with
  | unreserved hr =>
    rw [Bool.or_false]
    exact ⟨by simp [hp, Phase.early], h.2, h.3, h.4, h.5, h.6, fun _ => ⟨hp, hr⟩, h.8⟩
  | closed hr he =>
    rw [Bool.or_false]
    exact ⟨by simp [hp, Phase.early], h.2, h.3, by simp [he], h.5, h.6, fun _ => ⟨hp, rfl⟩, h.8⟩
  | restored bundle hr ho hb hn =>
    exact ⟨by simp [hp, Phase.early], h.2, h.3, by simp, h.5, fun _ => ⟨hp, ho⟩,
      fun _ => ⟨hp, rfl⟩, h.8⟩

end Sound

/-! ## The commands of a transfer -/

def Expects (op : Transfer) (sid : SessionId) : Command → Prop
  | .prepareTransfer _ id => op.source = sid ∧ op.endpointId = id ∧ op.phase.early = false ∧
      op.slot.reserved = false ∧ op.slot.committed = false ∧ op.finished = false
  | .commitTransfer _ => op.target = sid ∧ (op.phase = .committing ∨ op.phase = .done)
  | .finishTransfer _ id => op.source = sid ∧ op.endpointId = id ∧ op.phase = .done
  | _ => False

end Transfer

def Command.transfer : Command → Option Nat
  | .prepareTransfer i _ | .commitTransfer i | .finishTransfer i _ => some i
  | _ => none

def Command.Before (c d : Command) : Prop :=
  ∀ i id, d = .prepareTransfer i id →
    (∀ id', c ≠ .prepareTransfer i id') ∧ ∀ id', c ≠ .finishTransfer i id'

namespace Transfer

variable {i : Nat} {op op' : Transfer} {actions : List Action} {sid : SessionId} {c : Command}

theorem Expects.not_early (h : op.Expects sid c) : op.phase.early = false := by
  cases c with
  | prepareTransfer _ _ => exact h.2.2.1
  | commitTransfer _ =>
    rcases h.2 with hp | hp
    · rw [hp]
      rfl
    · rw [hp]
      rfl
  | finishTransfer _ _ =>
    rw [h.2.2]
    rfl
  | _ => exact h.elim

theorem Expects.coordinated (h : op.Expects sid c) (hm : Coordinated i op (op', actions)) :
    op'.Expects sid c := by
  have hl := h.not_early
  cases hm with
  | stay _ hp hr hk =>
    cases c with
    | prepareTransfer _ _ =>
      grind [Expects, hk.source, hk.endpointId, hk.slot, hk.finished]
    | commitTransfer _ =>
      simp only [Expects] at h ⊢
      rw [hk.target, hp]
      exact h
    | finishTransfer _ _ => grind [Expects, hk.source, hk.endpointId]
    | _ => exact h
  | wait _ _ hf =>
    rw [Phase.early_of_waiting hf] at hl
    contradiction
  | prepare hp =>
    rw [hp] at hl
    contradiction
  | commit hp =>
    cases c with
    | prepareTransfer _ _ => exact ⟨h.1, h.2.1, rfl, h.2.2.2⟩
    | commitTransfer _ => exact ⟨h.1, .inl rfl⟩
    | finishTransfer _ _ =>
      have hd := h.2.2
      rw [hp] at hd
      contradiction
    | _ => exact h
  | leave result hp _ =>
    cases c with
    | prepareTransfer _ _ => exact ⟨h.1, h.2.1, rfl, h.2.2.2⟩
    | commitTransfer _ => exact ⟨h.1, .inr rfl⟩
    | finishTransfer _ _ => exact ⟨h.1, h.2.1, rfl⟩
    | _ => exact h

theorem Coordinated.sent (hm : Coordinated i op (op', actions)) (h : op.Sound)
    (hc : c ∈ actions.flatMap (Action.sentTo sid)) :
    c.transfer = some i ∧ op'.Expects sid c ∧
      (∀ j id, c = .prepareTransfer j id → j = i ∧ op.phase.early = true) := by
  cases hm with
  | stay => simp at hc
  | wait _ _ _ _ _ _ hs =>
    rw [hs sid] at hc
    contradiction
  | prepare hp =>
    have hea : op.phase.early = true := by rw [hp]; rfl
    obtain ⟨hr, hco, _, hf⟩ := h.early hea
    simp only [flatMap_cons, Action.sentTo] at hc
    split at hc
    · rename_i hsi
      rw [mem_singleton.mp hc]
      refine ⟨rfl, ⟨hsi, rfl, rfl, hr, hco, hf⟩, ?_⟩
      rintro j id ⟨⟩
      exact ⟨rfl, hea⟩
    · contradiction
  | commit hp =>
    simp only [flatMap_cons, Action.sentTo] at hc
    split at hc
    · rename_i hsi
      rw [mem_singleton.mp hc]
      exact ⟨rfl, ⟨hsi, .inl rfl⟩, fun j id heq => by cases heq⟩
    · contradiction
  | leave result hp _ =>
    rw [flatMap_append, unused_silent] at hc
    simp only [flatMap_cons, Action.sentTo] at hc
    split at hc
    · rename_i hsi
      rw [mem_singleton.mp hc]
      exact ⟨rfl, ⟨hsi, rfl, rfl⟩, fun j id heq => by cases heq⟩
    · contradiction

theorem Coordinated.length_sent (hm : Coordinated i op (op', actions)) (sid : SessionId) :
    (actions.flatMap (Action.sentTo sid)).length ≤ 1 := by
  have ho : ∀ sid' c, (Action.sentTo sid (.send sid' c)).length ≤ 1 := by
    intro sid' c
    rw [Action.sentTo]
    split
    · exact Nat.le_refl 1
    · exact Nat.zero_le 1
  cases hm with
  | stay => exact Nat.zero_le 1
  | wait _ _ _ _ _ _ hs =>
    rw [hs sid]
    exact Nat.zero_le 1
  | prepare => simpa using ho _ _
  | commit => simpa using ho _ _
  | leave =>
    rw [flatMap_append, unused_silent]
    simpa using ho _ _

def carried (op : Transfer) (id : EndpointId) : Option Endpoint :=
  op.slot.bundle.bind fun bundle =>
    if bundle.endpoint.id = id then some bundle.endpoint else none

theorem carried_of_none (h : op.slot.bundle = none) (id : EndpointId) : op.carried id = none := by
  rw [carried, h]
  rfl

theorem carried_of_some (h : op.slot.bundle = some bundle) (id : EndpointId) :
    op.carried id = if bundle.endpoint.id = id then some bundle.endpoint else none := by
  rw [carried, h]
  rfl

def Reserves (op : Transfer) (p : SessionId × EndpointId) : Prop :=
  (op.source, op.endpointId) = p ∧ op.slot.reserved = true

theorem Coordinated.same (hm : Coordinated i op (op', actions)) :
    op'.source = op.source ∧ op'.target = op.target ∧ op'.endpointId = op.endpointId ∧
      op'.slot.bundle = op.slot.bundle ∧ op'.slot.reserved = op.slot.reserved := by
  cases hm with
  | stay _ _ _ hk =>
    exact ⟨hk.source, hk.target, hk.endpointId, by rw [hk.slot], by rw [hk.slot]⟩
  | wait _ _ _ _ _ hk _ =>
    exact ⟨hk.source, hk.target, hk.endpointId, by rw [hk.slot], by rw [hk.slot]⟩
  | prepare => exact ⟨rfl, rfl, rfl, rfl, rfl⟩
  | commit => exact ⟨rfl, rfl, rfl, rfl, rfl⟩
  | leave => exact ⟨rfl, rfl, rfl, rfl, rfl⟩

theorem Coordinated.record (hm : Coordinated i op (op', actions)) :
    op'.inserted = op.inserted ∧ op'.restored = op.restored := by
  cases hm with
  | stay _ _ _ hk => exact ⟨hk.inserted, hk.restored⟩
  | wait _ _ _ _ _ hk _ => exact ⟨hk.inserted, hk.restored⟩
  | prepare => exact ⟨rfl, rfl⟩
  | commit => exact ⟨rfl, rfl⟩
  | leave => exact ⟨rfl, rfl⟩

end Transfer

/-! ## What a transfer keeps -/

structure Transfer.Later (op op' : Transfer) : Prop where
  source : op'.source = op.source
  target : op'.target = op.target
  endpointId : op'.endpointId = op.endpointId
  result : ∀ r, op.result = some r → op'.result = some r
  inserted : op.inserted = true → op'.inserted = true
  restored : op.restored = true → op'.restored = true

namespace Transfer.Later

variable {op op' op'' : Transfer}

theorem refl (op : Transfer) : op.Later op := ⟨rfl, rfl, rfl, fun _ h => h, fun h => h, fun h => h⟩

theorem trans (h : op.Later op') (h' : op'.Later op'') : op.Later op'' :=
  ⟨h'.source.trans h.source, h'.target.trans h.target, h'.endpointId.trans h.endpointId,
    fun r hr => h'.result r (h.result r hr), fun hi => h'.inserted (h.inserted hi),
    fun hr => h'.restored (h.restored hr)⟩

theorem coordinated {i : Nat} {actions : List Action} (h : op.Sound)
    (hm : Coordinated i op (op', actions)) : op.Later op' := by
  -- a coordinator that can still end has returned nothing
  have hn : ∀ r, op.result = some r → op.phase.waiting = false ∧ op.phase.active = false := by
    intro r hr
    rcases (h.result r hr).1 with hp | hp
    · rw [hp]
      exact ⟨rfl, rfl⟩
    · rw [hp]
      exact ⟨rfl, rfl⟩
  cases hm with
  | stay _ hp hre hk =>
    refine ⟨hk.source, hk.target, hk.endpointId, fun r hr => ?_, ?_, ?_⟩
    · rw [hre, hr]
    · rw [hk.inserted]
      exact fun h => h
    · rw [hk.restored]
      exact fun h => h
  | wait _ _ hf hto hre hk _ =>
    refine ⟨hk.source, hk.target, hk.endpointId, fun r hr => ?_, ?_, ?_⟩
    · rw [(hn r hr).1] at hf
      contradiction
    · rw [hk.inserted]
      exact fun h => h
    · rw [hk.restored]
      exact fun h => h
  | prepare hp => exact ⟨rfl, rfl, rfl, fun _ h => h, fun h => h, fun h => h⟩
  | commit hp => exact ⟨rfl, rfl, rfl, fun _ h => h, fun h => h, fun h => h⟩
  | leave result hp hre =>
    refine ⟨rfl, rfl, rfl, fun r hr => ?_, fun h => h, fun h => h⟩
    rw [(hn r hr).2] at hp
    contradiction

end Transfer.Later

end RtpBridge.Session
