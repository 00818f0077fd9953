/-
What the request that makes a pair of bridge endpoints does to the pairing: it sends its
commands, reads the replies, draws the two ends, times out and returns.
-/
import RtpBridge.Session.Pairing.View

namespace RtpBridge.Session

open List BridgeRequest

variable {s : SessionId} {c : Command} {value : Except String SessionId}

namespace BridgeView

variable {v v' : BridgeView} {sid : SessionId} {id : EndpointId} {j : Nat} {t : Bool}
  {req req' : BridgeRequest} {bridge : BridgeEndpoint} {rest : List Command}

theorem command_removes {reply : Option Nat} (h : (req.command j).2 = .removeEndpoint id reply) :
    req.stage = .rollback ∧ id = req.bridgeA.id ∧ reply = some j := by grind [command]

theorem Inv.send (h : v.Inv) (hrq : v.requests[j]? = some req) (hf : req.result = none)
    (hun : req.sent = false) (hli : v.live (req.command j).1 = true) :
    ((v.post (req.command j).1 (req.command j).2).setRequest j { req with sent := true }).Inv := by
  have ha := h.agrees j req hrq
  have hn : ∀ sid, ∀ c ∈ v.wire sid, c.replyTo ≠ some j := by
    intro sid c hc hj
    obtain ⟨req', hrq', hse, -⟩ := h.awaited sid c hc j hj
    rw [hrq] at hrq'
    cases hrq'
    rw [hun] at hse
    cases hse
  have hsl : ((v.post (req.command j).1 (req.command j).2).setRequest j
      { req with sent := true }).Agrees j { req with sent := true } := { ha with
    unsent := by simp
    out := fun _ _ _ => mem_post.mpr (Or.inr ⟨rfl, rfl⟩)
    clean := by
      intro _ hd t sid reply hme
      rcases mem_post.mp hme with hold | ⟨-, hne⟩
      · exact ha.clean hf hd t sid reply hold
      · obtain ⟨hst, -, hre⟩ := command_removes hne.symm
        exact ⟨hst, fun _ => hre⟩
    settled := fun hdo => absurd hf hdo
    done := fun r hr => by simp [hf] at hr }
  have hal : req.Alike { req with sent := true } := ⟨rfl, rfl, rfl, rfl, rfl⟩
  apply h.of_set hrq hal rfl hsl
  · intro k other hk ho
    refine (h.agrees k other ho).frame ⟨fun _ _ => Iff.rfl, fun _ _ hl => hl, fun _ hl => hl,
      fun _ hme => mem_post.mpr (Or.inl hme), fun _ _ _ _ hme => mem_post.mpr (Or.inl hme),
      fun _ hd t sid reply hme => ?_⟩
    rcases mem_post.mp hme with hold | ⟨-, hne⟩
    · exact hold
    obtain ⟨hst, hid, -⟩ := command_removes hne.symm
    have hm : req.drawn = true := by
      unfold drawn
      rw [hst]
    exact absurd (h.distinct k other t ho hd j req false hrq hm hid).1 hk
  · intro sid c hc k hk
    rcases mem_post.mp hc with hold | ⟨hsi, hne⟩
    · grind
    right
    rw [hne, req.replyTo_command] at hk
    cases hk
    exact ⟨rfl, rfl, ha.unsent hun, by rw [hsi, hne]; rfl⟩
  · intro sid k
    show ((v.post (req.command j).1 (req.command j).2).wire sid).countP _ ≤ 1
    by_cases hk : k = j
    · have hz : (v.wire sid).countP (fun c => c.replyTo = some k) = 0 := by
        rw [countP_eq_zero, hk]
        exact fun c hc => by simpa using hn sid c hc
      grind [wire_post]
    · rw [countP_post _ (by simpa [req.replyTo_command] using Ne.symm hk)]
      exact h.once sid k
  · exact fun sid id bridge hb => Or.inl hb
  · intro sid hl
    have hs : sid ≠ (req.command j).1 := by
      rintro rfl
      cases hl.symm.trans hli
    refine ⟨?_, (h.dead sid hl).2⟩
    show (v.post (req.command j).1 (req.command j).2).wire sid = []
    rw [wire_post, if_neg hs]
    exact (h.dead sid hl).1

theorem Inv.set_local (h : v.Inv) (hrq : v.requests[j]? = some req) (hal : req.Alike req')
    (hke : req.sent = true → req.reply = .pending →
      req'.sent = true ∧ req'.reply = .pending ∧ req'.command j = req.command j)
    (hs : v.Agrees j req') : (v.setRequest j req').Inv := by
  have hsame : ∀ (k : Nat) (other : BridgeRequest), Frame v (v.setRequest j req') k other :=
    fun _ _ => Frame.of_same rfl rfl rfl
  apply h.of_set hrq hal rfl (hs.frame (hsame j req'))
  · exact fun k other _ ho => (h.agrees k other ho).frame (hsame k other)
  · intro sid c hc k hk
    by_cases hkj : k = j
    · rw [hkj] at hk
      obtain ⟨req0, hre, hse, hp, hco⟩ := h.awaited sid c hc j hk
      grind
    · exact Or.inl ⟨hkj, hc⟩
  · exact h.once
  · exact fun sid id bridge hb => Or.inl hb
  · exact h.dead

theorem drawn_iff (req : BridgeRequest) :
    req.drawn = true ↔ req.stage ≠ .getSource ∧ req.stage ≠ .getTarget := by
  unfold drawn
  cases req.stage <;> decide

theorem Inv.returned (h : v.Inv) (hrq : v.requests[j]? = some req)
    (r : Except String (EndpointId × EndpointId))
    (hs : req.drawn = true → req.sent = true → req.reply = .pending → req.stage = .rollback)
    (hdo : req.drawn = true → ∀ t, v.Has req t → r.isOk = true ∧ v.Has req (!t) ∨
      ∃ reply, .removeEndpoint (req.endpoint t).id reply ∈ v.wire (req.home t)) :
    (v.setRequest j { req with result := some r }).Inv := by
  have hal : req.Alike { req with result := some r } := ⟨rfl, rfl, rfl, rfl, rfl⟩
  apply h.set_local hrq hal fun hse hp => ⟨hse, hp, rfl⟩
  exact { h.agrees j req hrq with
    alive := by simp
    flight := by simp [drawn]
    clean := by simp [drawn]
    settled := fun _ => hs
    done := fun r' hr' hd t hha => by
      cases hr'
      exact hdo hd t hha }

theorem exists_fail (req : BridgeRequest) (code : String) :
    ∃ error, req.fail code = { req with result := some (.error error) } := by
  unfold fail
  split <;> exact ⟨_, rfl⟩

section

variable (h : v.Inv) (hrq : v.requests[j]? = some req)
include h hrq

theorem Inv.fail (code : String)
    (hs : req.drawn = true → req.sent = true → req.reply = .pending → req.stage = .rollback)
    (hdo : req.drawn = true → ∀ t, v.Has req t →
      ∃ reply, .removeEndpoint (req.endpoint t).id reply ∈ v.wire (req.home t)) :
    (v.setRequest j (req.fail code)).Inv := by
  obtain ⟨error, he⟩ := exists_fail req code
  rw [he]
  exact h.returned hrq _ hs fun hd t hha => Or.inr (hdo hd t hha)

theorem Inv.undrawn (hn : ¬ req.drawn = true) (code : String) :
    (v.setRequest j (req.fail code)).Inv :=
  h.fail hrq code (fun hd => absurd hd hn) fun hd => absurd hd hn

theorem Inv.gone (hf : req.result = none) (code : String) (hde : v.live (req.command j).1 = false) :
    (v.setRequest j (req.fail code)).Inv := by
  refine h.undrawn hrq (fun hd => ?_) code
  have ha := (h.agrees j req hrq).alive hf
  have hl : ∀ t, v.live (req.home t) = true := by
    intro t
    cases t with
    | false => exact ha.1 (Or.inl ((drawn_iff req).mp hd).1)
    | true => exact ha.2 (Or.inl hd)
  obtain ⟨t, ht⟩ := req.command_home j
  rw [ht, hl t] at hde
  cases hde

theorem Inv.timeout (hf : req.result = none)
    (code : String) (hsa : req.MayTimeOut) : (v.setRequest j (req.fail code)).Inv := by
  have ha := h.agrees j req hrq
  unfold BridgeRequest.MayTimeOut at hsa
  cases hs : req.stage with
  | getSource | getTarget => exact h.undrawn hrq (by simp [drawn, hs]) code
  | insertSource =>
    rw [hs] at hsa
    apply h.fail hrq code
    · intro _ hse
      rw [hsa] at hse
      cases hse
    -- nothing was sent, so nothing is there
    intro hd t hha
    have he := (ha.flight hf hd t).mp hha
    unfold expected accepted at he
    rw [hs, ha.unsent hsa] at he
    cases t <;> cases he
  | insertTarget =>
    rw [hs] at hsa
    exact hsa.elim
  | rollback =>
    rw [hs] at hsa
    apply h.fail hrq code (fun _ _ _ => hs)
    intro hd t hha
    have he := (ha.flight hf hd t).mp hha
    unfold expected at he
    rw [hs] at he
    cases t with
    | true => cases he
    | false =>
      have hp : req.reply = .pending := by grind [unanswered]
      have hl := (ha.alive hf).1 (Or.inl (by simp [hs]))
      have hco : req.command j = (req.source, .removeEndpoint req.bridgeA.id (some j)) := by
        unfold command
        rw [hs]
      have ho := ha.out hsa hp
      rw [hco] at ho
      exact ⟨some j, ho hl⟩

end

theorem Inv.advance (h : v.Inv) (hrq : v.requests[j]? = some req) (hf : req.result = none)
    (hre : req.reply ≠ .pending) (hd : req.drawn = true) (hst : req.stage ≠ .rollback)
    {stage : BridgeStage} {error : String}
    (hn : drawn { req with stage, sent := false, reply := .pending, error } = true)
    (he : ∀ t, expected { req with stage, sent := false, reply := .pending, error } t =
      req.expected t) :
    (v.setRequest j { req with stage, sent := false, reply := .pending, error }).Inv := by
  have ha := h.agrees j req hrq
  have hs := ((drawn_iff req).mp hd).1
  have hal : req.Alike { req with stage, sent := false, reply := .pending, error } :=
    ⟨rfl, rfl, rfl, rfl, hn.trans hd.symm⟩
  apply h.set_local hrq hal fun _ hp => absurd hp hre
  exact {
    apart := ha.apart
    unsent := fun _ => rfl
    kept := by simp
    sourceTx := fun _ => ha.sourceTx hs
    located := by simp
    alive := fun _ => ⟨fun _ => (ha.alive hf).1 (Or.inl hs), fun _ => (ha.alive hf).2 (Or.inl hd)⟩
    pair := fun _ => ha.pair hd
    out := by simp
    flight := fun _ _ t => by
      rw [he]
      exact ha.flight hf hd t
    clean := fun _ _ t sid reply hm => absurd (ha.clean hf hd t sid reply hm).1 hst
    settled := fun hdo => absurd hf hdo
    done := fun r hr => by simp [hf] at hr }

def draw (req : BridgeRequest) (value : SessionId) (a b : EndpointId) : BridgeRequest :=
  { req with
    stage := .insertSource, sent := false, reply := .pending
    bridgeA := ⟨a, value, b, req.target, req.target⟩
    bridgeB := ⟨b, req.sourcePacketTx, a, req.source, req.source⟩ }

section Draw

variable {value : SessionId} {a b : EndpointId}

theorem draw_id (t : Bool) : ((draw req value a b).endpoint t).id = if t then b else a := by
  cases t with
  | false => rfl
  | true => rfl

theorem Inv.not_held (h : v.Inv) (hid : v.Unused id) (sid : SessionId) : v.held sid id = none := by
  cases hh : v.held sid id with
  | none => rfl
  | some bridge =>
    obtain ⟨k, old, t, hk, hd, -, hbr, hold⟩ := h.origin _ _ _ hh
    rw [hbr] at hold
    exact absurd hold.symm (hid.1 old (mem_of_getElem? hk) hd t)

theorem Agrees.draw (h : v.Agrees j req) (hf : req.result = none)
    (hs : req.stage = .getTarget) (hre : req.reply = .sent (.ok value))
    (hh : ∀ (t : Bool) sid, v.held sid (if t then b else a) = none)
    (hak : ∀ (t : Bool) sid reply, .removeEndpoint (if t then b else a) reply ∉ v.wire sid) :
    v.Agrees j (draw req value a b) := by
  have hv : value = req.target := (h.located value hre).2 hs
  have hso : req.sourcePacketTx = req.source := h.sourceTx (by simp [hs])
  have ha := h.alive hf
  exact {
    apart := h.apart
    unsent := fun _ => rfl
    kept := by simp [BridgeView.draw]
    sourceTx := fun _ => hso
    located := by simp [BridgeView.draw]
    alive := fun _ => ⟨fun _ => ha.1 (Or.inl (by simp [hs])),
      fun _ => ha.2 (Or.inr ⟨hs, by simp [hre]⟩)⟩
    pair := by
      intro _ t
      cases t with
      | false =>
        show BridgeEndpoint.mk a value b req.target req.target =
          ⟨a, req.target, b, req.target, req.target⟩
        rw [hv]
      | true =>
        show BridgeEndpoint.mk b req.sourcePacketTx a req.source req.source =
          ⟨b, req.source, a, req.source, req.source⟩
        rw [hso]
    out := by simp [BridgeView.draw]
    flight := by
      intro _ _ t
      rw [Has, draw_id, hh]
      cases t <;> simp [expected, accepted, BridgeView.draw]
    clean := by
      intro _ _ t sid reply hm
      rw [draw_id] at hm
      exact absurd hm (hak t sid reply)
    settled := fun hdo => absurd hf hdo
    done := fun r hr => by cases hf.symm.trans hr }

theorem Inv.draw (h : v.Inv) (hrq : v.requests[j]? = some req) (hf : req.result = none)
    (hs : req.stage = .getTarget) (hre : req.reply = .sent (.ok value)) (hne : a ≠ b)
    (ha : v.Unused a) (hb : v.Unused b) :
    (v.setRequest j (BridgeView.draw req value a b)).Inv := by
  have hu : ∀ t : Bool, v.Unused (if t then b else a) := by grind
  have hg : ∀ k, (v.setRequest j (BridgeView.draw req value a b)).requests[k]? =
      if k = j then some (BridgeView.draw req value a b) else v.requests[k]? :=
    getElem?_set_request hrq
  have hun : req.drawn = false := by rw [drawn, hs]
  have hse : v.Agrees j (BridgeView.draw req value a b) :=
    (h.agrees j req hrq).draw hf hs hre (fun t => h.not_held (hu t))
      fun t => (hu t).2
  -- no old request has one of the new ids
  have hold : ∀ (k : Nat) (old : BridgeRequest) (t t' : Bool), v.requests[k]? = some old →
      old.drawn = true →
        (old.endpoint t).id ≠ ((BridgeView.draw req value a b).endpoint t').id := by
    intro k old t t' hk hd
    rw [draw_id]
    exact (hu t').1 old (mem_of_getElem? hk) hd t
  constructor
  · intro k other hk
    rw [hg] at hk
    split at hk
    · rename_i hkj
      cases hk
      rw [hkj]
      exact hse.frame (Frame.of_same rfl rfl rfl)
    · exact (h.agrees k other hk).frame (Frame.of_same rfl rfl rfl)
  · intro sid c hc k hk
    obtain ⟨other, ho, hsn, hp, hco⟩ := h.awaited sid c hc k hk
    grind
  · exact h.once
  · intro sid id bridge hb
    obtain ⟨k, old, t, hk, hd, hrs⟩ := h.origin sid id bridge hb
    grind
  · intro k old t hk hd k' old' t' hk' hd' hid
    rw [hg] at hk hk'
    split at hk
    · rename_i hkj
      cases hk
      split at hk'
      · rename_i hkj'
        refine ⟨hkj.trans hkj'.symm, ?_⟩
        -- the two new ids differ
        grind [draw_id]
      · exact absurd hid.symm (hold k' old' t' t hk' hd')
    grind [h.distinct]
  · exact h.dead

end Draw

theorem Inv.locate (h : v.Inv) (hrq : v.requests[j]? = some req) (hf : req.result = none)
    (hs : req.stage = .getSource) {value : SessionId}
    (hre : req.reply = .sent (.ok value)) :
    (v.setRequest j { req with
      stage := .getTarget, sent := false, reply := .pending, sourcePacketTx := value }).Inv := by
  have ha := h.agrees j req hrq
  have hun : req.drawn = false := by rw [drawn, hs]
  have hal : req.Alike { req with
      stage := .getTarget, sent := false, reply := .pending, sourcePacketTx := value } :=
    ⟨rfl, rfl, rfl, rfl, hun.symm⟩
  apply h.set_local hrq hal fun _ hp => by simp [hre] at hp
  exact {
    apart := ha.apart
    unsent := fun _ => rfl
    kept := by simp
    sourceTx := fun _ => (ha.located value hre).1 hs
    located := by simp
    alive := fun _ => ⟨fun _ => (ha.alive hf).1 (Or.inr (by simp [hre])),
      fun hor => hor.elim (by simp [drawn]) fun han => absurd rfl han.2⟩
    pair := by simp [drawn]
    out := by simp
    flight := by simp [drawn]
    clean := by simp [drawn]
    settled := by simp [drawn]
    done := by simp [drawn] }

section

variable (h : v.Inv) (hrq : v.requests[j]? = some req) (hf : req.result = none)
include h hrq hf

theorem Inv.report (hpe : req.reply ≠ .pending)
    (hn : req.drawn = true → ∀ t, req.expected t = false) (e : String) :
    (v.setRequest j { req with result := some (.error e) }).Inv := by
  refine h.returned hrq _ (fun _ _ hp => absurd hp hpe) fun hd t hha => ?_
  have he := ((h.agrees j req hrq).flight hf hd t).mp hha
  rw [hn hd t] at he
  cases he

theorem Inv.rolled_back (hs : req.stage = .rollback) (hre : req.reply = .sent value) :
    (v.setRequest j { req with result := some (.error req.error) }).Inv := by
  have hp : req.reply ≠ .pending := by simp [hre]
  have hu : req.unanswered = false := by rw [unanswered, hre]
  refine h.report hrq hf hp (fun _ t => ?_) req.error
  cases t with
  | false => exact (expected_rollback hs).1.trans hu
  | true => exact (expected_rollback hs).2

theorem Inv.reply_error {e : String} (hre : req.reply = .sent (.error e))
    (a b : EndpointId) : (v.setRequest j (req.answered a b (.error e))).Inv := by
  have hp : req.reply ≠ .pending := by simp [hre]
  have ha : req.accepted = false := by rw [accepted, hre]
  unfold answered
  dsimp only
  split
  · rename_i hs
    have hd : req.drawn = true := by rw [drawn, hs]
    apply h.advance hrq hf hp hd (by simp [hs]) rfl
    intro t
    unfold expected
    rw [hs, ha]
    cases t <;> rfl
  · rename_i hs
    exact h.rolled_back hrq hf hs hre
  grind [h.report, expected]

theorem Inv.reply_ok {value : SessionId} (hre : req.reply = .sent (.ok value)) {a b : EndpointId}
    (hfr : req.stage = .getTarget → a ≠ b ∧ v.Unused a ∧ v.Unused b) :
    (v.setRequest j (req.answered a b (.ok value))).Inv := by
  have hpe : req.reply ≠ .pending := by simp [hre]
  have hac : req.accepted = true := by rw [accepted, hre]
  have hfl := (h.agrees j req hrq).flight hf
  unfold answered
  dsimp only
  split
  · rename_i hs
    exact h.locate hrq hf hs hre
  · rename_i hs
    obtain ⟨hne, ha, hb⟩ := hfr hs
    exact h.draw hrq hf hs hre hne ha hb
  · rename_i hs
    have hd : req.drawn = true := by rw [drawn, hs]
    apply h.advance hrq hf hpe hd (by simp [hs]) rfl
    intro t
    unfold expected
    rw [hs, hac]
    cases t <;> rfl
  · rename_i hs
    apply h.returned hrq _ fun _ _ hp => absurd hp hpe
    -- both ends are in place
    intro hd t _
    refine Or.inl ⟨rfl, (hfl hd _).mpr ?_⟩
    unfold expected
    rw [hs, hac]
    cases t <;> rfl
  · rename_i hs
    exact h.rolled_back hrq hf hs hre

theorem Inv.reply (hre : req.reply = .sent value) {a b : EndpointId}
    (hfr : req.stage = .getTarget → a ≠ b ∧ v.Unused a ∧ v.Unused b) :
    (v.setRequest j (req.answered a b value)).Inv := by
  cases value with
  | error e => exact h.reply_error hrq hf hre a b
  | ok value => exact h.reply_ok hrq hf hre hfr

end

end BridgeView
end RtpBridge.Session
