/-
A session handles the commands about bridges, and the pairing survives whole runs.
-/
import RtpBridge.Session.Pairing.Requests

namespace RtpBridge.Session

open List BridgeRequest

variable {s : SessionId} {c : Command} {value : Except String SessionId}

namespace BridgeView

variable {v v' : BridgeView} {sid : SessionId} {id : EndpointId} {j : Nat} {t : Bool}
  {req req' : BridgeRequest} {bridge : BridgeEndpoint} {rest : List Command}

section Rest

variable {c d : Command} {s : SessionId} (hwire : v.wire sid = c :: rest)

include hwire

theorem mem_of_rest (hd : d ∈ (if s = sid then rest else v.wire s)) : d ∈ v.wire s := by grind

theorem mem_rest (hd : d ∈ v.wire s) (hne : s = sid → d ≠ c) :
    d ∈ (if s = sid then rest else v.wire s) := by grind

theorem countP_rest_le (p : Command → Bool) (s : SessionId) :
    (if s = sid then rest else v.wire s).countP p ≤ (v.wire s).countP p := by grind

theorem Inv.rest_dead (h : v.Inv) (hl : v.live s = false) :
    (if s = sid then rest else v.wire s) = [] := by grind [h.dead]

end Rest

theorem Inv.none_left (h : v.Inv) (hwire : v.wire sid = c :: rest) (hc : c.replyTo = some j)
    (s : SessionId) : ∀ d ∈ (if s = sid then rest else v.wire s), d.replyTo ≠ some j := by
  intro d hd hj
  obtain ⟨req, hrq, -, -, hco⟩ := h.awaited sid c (by rw [hwire]; exact mem_cons_self) j hc
  split at hd
  · -- two in one queue
    have ho := h.once sid j
    rw [hwire, countP_cons_of_pos (by simpa using hc)] at ho
    have hp : 0 < rest.countP (fun c => c.replyTo = some j) :=
      countP_pos_iff.mpr ⟨d, hd, by simpa using hj⟩
    omega
  · obtain ⟨req', hrq', -, -, hco'⟩ := h.awaited s d hd j hj
    grind

theorem Inv.answer (h : v.Inv) (hrq : v.requests[j]? = some req) (hp : req.reply = .pending)
    (hre : v'.requests = v.requests) (hs : v'.Agrees j { req with reply := .sent value })
    (hot : ∀ (k : Nat) (other : BridgeRequest), k ≠ j → v.requests[k]? = some other →
      v'.Agrees k other)
    (hwire : ∀ s, ∀ c ∈ v'.wire s, c.replyTo ≠ none → c.replyTo ≠ some j ∧ c ∈ v.wire s)
    (hon : ∀ s k, (v'.wire s).countP (fun c => c.replyTo = some k) ≤ 1)
    (hh : ∀ s id bridge, v'.held s id = some bridge → v.held s id = some bridge ∨
      ∃ t, req.drawn = true ∧ s = req.home t ∧ bridge = req.endpoint t ∧ id = bridge.id)
    (hd : ∀ s, v'.live s = false → v'.wire s = [] ∧ ∀ id, v'.held s id = none) :
    (v'.answer j value).Inv := by
  have ha : v'.answer j value = v'.setRequest j { req with reply := .sent value } := by
    unfold BridgeView.answer
    rw [hre, hrq]
    dsimp only
    rw [hp]
    rfl
  have hal : req.Alike { req with reply := .sent value } := ⟨rfl, rfl, rfl, rfl, rfl⟩
  have hse : (v'.setRequest j { req with reply := .sent value }).requests =
      v.requests.set j { req with reply := .sent value } := by
    unfold setRequest
    rw [hre]
  rw [ha]
  apply h.of_set hrq hal hse (hs.frame (Frame.of_same rfl rfl rfl))
  · exact fun k other hk ho => (hot k other hk ho).frame (Frame.of_same rfl rfl rfl)
  · intro s c hc k hk
    obtain ⟨hne, hold⟩ := hwire s c hc (by simp [hk])
    left
    refine ⟨fun hkj => ?_, hold⟩
    rw [hk, hkj] at hne
    exact hne rfl
  · exact hon
  · exact hh
  · exact hd

structure Removal (v v' : BridgeView) (sid : SessionId) (id : EndpointId) (reply : Option Nat)
    (rest : List Command) : Prop where
  popped : v.wire sid = .removeEndpoint id reply :: rest
  live : v'.live = v.live
  requests : v'.requests = v.requests
  held : ∀ s x, v'.held s x = if s = sid ∧ x = id then none else v.held s x
  keeps : ∀ s, ∀ c ∈ (if s = sid then rest else v.wire s), c ∈ v'.wire s
  new : ∀ s, ∀ c ∈ v'.wire s, c ∈ (if s = sid then rest else v.wire s) ∨
    ∃ bridge, v.held sid id = some bridge ∧ s = bridge.pairedCmdTx ∧
      c = .removeEndpoint bridge.pairedEndpointId none
  told : ∀ bridge, v.held sid id = some bridge →
    v.held bridge.pairedCmdTx bridge.pairedEndpointId ≠ none →
      .removeEndpoint bridge.pairedEndpointId none ∈ v'.wire bridge.pairedCmdTx
  count : ∀ s k, (v'.wire s).countP (fun c => c.replyTo = some k) =
    (if s = sid then rest else v.wire s).countP (fun c => c.replyTo = some k)
  dead : ∀ s, v'.live s = false → v'.wire s = []

section Removal

variable {reply : Option Nat}

section

variable (h : v.Inv) (hwire : v.wire sid = .removeEndpoint id reply :: rest)
include h hwire

theorem Removal.of_deliver (hli : v'.live = v.live) (hrq : v'.requests = v.requests)
    (hwi : v'.wire = (v.deliver sid rest).wire)
    (hh : ∀ s x, v'.held s x = if s = sid ∧ x = id then none else v.held s x)
    (hn : ∀ bridge, v.held sid id = some bridge →
      v.held bridge.pairedCmdTx bridge.pairedEndpointId = none) :
    Removal v v' sid id reply rest where
  popped := hwire
  live := hli
  requests := hrq
  held := hh
  keeps s c hc := by
    rw [hwi, wire_deliver]
    exact hc
  new s c hc := .inl (by rwa [hwi, wire_deliver] at hc)
  told bridge hb hne := absurd (hn bridge hb) hne
  count s k := by rw [hwi, wire_deliver]
  dead s hl := by
    rw [hwi, wire_deliver]
    exact h.rest_dead hwire (hli ▸ hl)

theorem Removal.missing (hn : v.held sid id = none) :
    Removal v (v.deliver sid rest) sid id reply rest := by
  refine .of_deliver h hwire rfl rfl rfl (fun s x => ?_) fun bridge hb => ?_
  · grind [BridgeView.deliver]
  · simp [hn] at hb

theorem Removal.removed (hh : v.held sid id = some bridge)
    (hli : v.live bridge.pairedCmdTx = true) :
    Removal v (((v.deliver sid rest).place sid id none).post bridge.pairedCmdTx
      (.removeEndpoint bridge.pairedEndpointId none)) sid id reply rest := by
  have hm : ∀ s c, c ∈ (((v.deliver sid rest).place sid id none).post bridge.pairedCmdTx
      (.removeEndpoint bridge.pairedEndpointId none)).wire s ↔
      c ∈ (if s = sid then rest else v.wire s) ∨
        s = bridge.pairedCmdTx ∧ c = .removeEndpoint bridge.pairedEndpointId none := by
    intro s c
    rw [mem_post, ← wire_deliver]
    exact Iff.rfl
  exact {
    popped := hwire
    live := rfl
    requests := rfl
    held := held_place (v.deliver sid rest) sid id none
    keeps := fun s c hc => (hm s c).mpr (Or.inl hc)
    new := fun s c hc => ((hm s c).mp hc).imp_right fun hp => ⟨bridge, hh, hp⟩
    told := by grind
    count := by
      intro s k
      rw [countP_post _ (by rfl), ← wire_deliver]
      rfl
    dead := by
      intro s hl
      have hs : s ≠ bridge.pairedCmdTx := by
        rintro rfl
        cases hl.symm.trans hli
      rw [wire_post, if_neg hs]
      show (v.deliver sid rest).wire s = []
      rw [wire_deliver]
      exact h.rest_dead hwire hl }

theorem Removal.single (hh : v.held sid id = some bridge)
    (hn : v.held bridge.pairedCmdTx bridge.pairedEndpointId = none) :
    Removal v ((v.deliver sid rest).place sid id none) sid id reply rest := by
  refine .of_deliver h hwire rfl rfl rfl (held_place _ sid id none) fun bridge' hb => ?_
  cases hh.symm.trans hb
  exact hn

end

variable (hr : Removal v v' sid id reply rest)

include hr

theorem Removal.stays (hc : c ∈ v.wire s) (hne : s = sid → c ≠ .removeEndpoint id reply) :
    c ∈ v'.wire s :=
  hr.keeps s c (mem_rest hr.popped hc hne)

theorem Removal.has_old (hha : v'.Has req t) :
    v.Has req t ∧ ¬(req.home t = sid ∧ (req.endpoint t).id = id) := by grind [Has, hr.held]

theorem Removal.has_new (hha : v.Has req t)
    (hne : ¬(req.home t = sid ∧ (req.endpoint t).id = id)) : v'.Has req t := by
  rw [Has, hr.held, if_neg hne]
  exact hha

section

variable (h : v.Inv) (hrq : v.requests[j]? = some req)
include h hrq

theorem Removal.removes (hd : req.drawn = true)
    {r : Option Nat} (hm : .removeEndpoint (req.endpoint t).id r ∈ v'.wire s) :
    .removeEndpoint (req.endpoint t).id r ∈ v.wire s ∨
      sid = req.home !t ∧ id = (req.endpoint !t).id ∧ v.Has req !t := by
  rcases hr.new s _ hm with hold | ⟨bridge, hh, -, hpo⟩
  · exact Or.inl (mem_of_rest hr.popped hold)
  right
  obtain ⟨k, other, t', ho, hd', hsi, hbr, hid⟩ := h.origin _ _ _ hh
  have hp : (req.endpoint t).id = bridge.pairedEndpointId := by
    injection hpo
  rw [hbr, (h.agrees k other ho).pair hd' t'] at hp
  obtain ⟨rfl, rfl⟩ := h.distinct j req t hrq hd k other (!t') ho hd' hp
  rw [hrq] at ho
  cases ho
  rw [Bool.not_not]
  rw [hbr] at hid
  rw [hsi, hid, hbr] at hh
  exact ⟨hsi, hid, hh⟩

theorem Removal.done (r : Except String (EndpointId × EndpointId)) (hrs : req.result = some r)
    (hd : req.drawn = true) (t : Bool) (hha : v'.Has req t) :
    r.isOk = true ∧ v'.Has req (!t) ∨
      ∃ reply, .removeEndpoint (req.endpoint t).id reply ∈ v'.wire (req.home t) := by
  obtain ⟨hold, hne⟩ := hr.has_old hha
  rcases (h.agrees j req hrq).done r hrs hd t hold with ⟨hok, ho⟩ | ⟨asked, hm⟩
  · by_cases hre : req.home (!t) = sid ∧ (req.endpoint !t).id = id
    · -- the other end is the one removed
      have hp := (h.agrees j req hrq).pair hd (!t)
      rw [Bool.not_not] at hp
      have htx : (req.endpoint !t).pairedCmdTx = req.home t := by rw [hp]
      have hid : (req.endpoint !t).pairedEndpointId = (req.endpoint t).id := by rw [hp]
      have hh : v.held sid id = some (req.endpoint !t) := by
        rw [← hre.1, ← hre.2]
        exact ho
      have ht := hr.told _ hh (by rw [htx, hid, hold]; exact Option.some_ne_none _)
      rw [htx, hid] at ht
      exact Or.inr ⟨none, ht⟩
    · exact Or.inl ⟨hok, hr.has_new ho hre⟩
  grind [hr.stays]

theorem Removal.agrees (ho : reply ≠ some j) : v'.Agrees j req := by
  have ha := h.agrees j req hrq
  have hh : .removeEndpoint id reply ∈ v.wire sid := by
    rw [hr.popped]
    exact mem_cons_self
  -- an end in flight is not the one removed
  have hke : req.result = none → req.drawn = true → ∀ t, v.Has req t →
      ¬(req.home t = sid ∧ (req.endpoint t).id = id) := by
    rintro hf hd t hha ⟨rfl, rfl⟩
    obtain ⟨hs, how⟩ := ha.clean hf hd t _ reply hh
    have he := (ha.flight hf hd t).mp hha
    cases t with
    | false => exact ho (how rfl)
    | true =>
      rw [(expected_rollback hs).2] at he
      cases he
  exact { ha with
    alive := by
      rw [hr.live]
      exact ha.alive
    out := by
      intro hse hp hl
      rw [hr.live] at hl
      refine hr.stays (ha.out hse hp hl) fun _ heq => ?_
      exact ho (command_removes heq).2.2
    flight := by grind [ha.flight, hr.has_old, hr.has_new]
    clean := by
      intro hf hd t s r hm
      rcases hr.removes h hrq hd hm with hold | ⟨hsi, hid, hha⟩
      · exact ha.clean hf hd t s r hold
      · exact absurd ⟨hsi.symm, hid.symm⟩ (hke hf hd (!t) hha)
    done := hr.done h hrq }

theorem Removal.answered (hse : req.sent = true)
    (hco : req.command j = (sid, .removeEndpoint id (some j)))
    (value : Except String SessionId) : v'.Agrees j { req with reply := .sent value } := by
  have ha := h.agrees j req hrq
  obtain ⟨hst, hid, -⟩ := command_removes (congrArg Prod.snd hco)
  have hsi : sid = req.source := by
    rw [command, hst] at hco
    exact (congrArg Prod.fst hco).symm
  have hg : ¬v'.Has req false := fun hha => (hr.has_old hha).2 ⟨hsi.symm, hid.symm⟩
  exact { ha with
    unsent := fun hun => by simp [hse] at hun
    kept := by simp
    located := fun _ _ => ⟨fun hs => by simp [hst] at hs,
      fun hs => by simp [hst] at hs⟩
    alive := by
      intro hf
      rw [hr.live]
      have hd : req.drawn = true := by rw [drawn, hst]
      exact ⟨fun _ => (ha.alive hf).1 (Or.inl (by simp [hst])),
        fun _ => (ha.alive hf).2 (Or.inl hd)⟩
    out := by simp
    flight := by
      intro hf hd t
      have hn : stage { req with reply := .sent value } = .rollback := hst
      cases t with
      | false =>
        rw [(expected_rollback hn).1]
        exact ⟨fun hha => absurd hha hg, by simp [unanswered]⟩
      | true =>
        rw [(expected_rollback hn).2]
        refine ⟨fun hha => ?_, by simp⟩
        have hold := (ha.flight hf hd true).mp (hr.has_old hha).1
        rw [(expected_rollback hst).2] at hold
        exact hold
    clean := by
      intro hf hd t s r hm
      refine ⟨hst, fun ht => ?_⟩
      rcases hr.removes h hrq hd hm with hold | ⟨hs, -, -⟩
      · exact (ha.clean hf hd t s r hold).2 ht
      · rw [ht, hsi] at hs
        exact absurd hs ha.apart
    settled := by simp [drawn]
    done := fun r hrs hd t hha => hr.done h hrq r hrs hd t hha }

end

theorem Removal.inv (h : v.Inv) (value : Except String SessionId) :
    (v'.answerTo reply value).Inv := by
  have hold : ∀ s, ∀ c ∈ v'.wire s, c.replyTo ≠ none →
      c ∈ (if s = sid then rest else v.wire s) := by
    intro s c hc hn
    rcases hr.new s c hc with hin | ⟨bridge, -, -, rfl⟩
    · exact hin
    · exact absurd rfl hn
  have hco : ∀ s k, (v'.wire s).countP (fun c => c.replyTo = some k) ≤
      (v.wire s).countP (fun c => c.replyTo = some k) := by
    intro s k
    rw [hr.count]
    exact countP_rest_le hr.popped _ s
  have hh : ∀ s x bridge, v'.held s x = some bridge → v.held s x = some bridge := by
    intro s x bridge hb
    rw [hr.held] at hb
    split at hb
    · cases hb
    · exact hb
  have hd : ∀ s, v'.live s = false → v'.wire s = [] ∧ ∀ x, v'.held s x = none := by
    intro s hl
    refine ⟨hr.dead s hl, fun x => ?_⟩
    rw [hr.live] at hl
    rw [hr.held, (h.dead s hl).2 x, ite_self]
  cases reply with
  | none =>
    exact h.of_same hr.requests (fun k other hk => hr.agrees h hk (by simp))
      (fun s c hc hn => mem_of_rest hr.popped (hold s c hc hn)) hco hh hd
  | some j =>
    obtain ⟨req, hrq, hse, hp, hcm⟩ :=
      h.awaited sid _ (by rw [hr.popped]; exact mem_cons_self) j rfl
    apply h.answer hrq hp hr.requests (hr.answered h hrq hse hcm value)
    · exact fun k other hk ho => hr.agrees h ho fun hj => hk (Option.some.inj hj).symm
    · intro s c hc hn
      exact ⟨h.none_left hr.popped rfl s c (hold s c hc hn), mem_of_rest hr.popped (hold s c hc hn)⟩
    · exact fun s k => Nat.le_trans (hco s k) (h.once s k)
    · exact fun s x bridge hb => Or.inl (hh s x bridge hb)
    · exact hd

omit hr

end Removal

section Handled

variable {c : Command} {value : Except String SessionId}

section

variable {held : SessionId → EndpointId → Option BridgeEndpoint} (hse : req.sent = true)
  (hp : req.reply = .pending) (hco : req.command j = (sid, c)) (hst : req.stage ≠ .rollback)
  (hlo : ∀ x, value = .ok x →
    (req.stage = .getSource → x = req.source) ∧ (req.stage = .getTarget → x = req.target))
  (hf : req.result = none → req.drawn = true → ∀ t,
    Has ⟨held, (v.deliver sid rest).wire, v.live, v.requests⟩ req t ↔
      expected { req with reply := .sent value } t = true)
include hse hp hco hst hlo hf

theorem Agrees.handled (h : v.Agrees j req) (hwire : v.wire sid = c :: rest)
    (hsi : v.live sid = true) :
    Agrees ⟨held, (v.deliver sid rest).wire, v.live, v.requests⟩ j
      { req with reply := .sent value } where
  __ := h
  unsent := fun hun => absurd (hun.symm.trans hse) Bool.false_ne_true
  kept := fun heq => by cases heq
  located := fun x hx => hlo x (by injection hx)
  alive := by grind [h.alive, command, drawn]
  out := fun _ heq => by cases heq
  flight := hf
  clean := fun hfl hd t s r hm => by
    rw [wire_deliver] at hm
    exact h.clean hfl hd t s r (mem_of_rest hwire hm)
  settled := fun _ _ _ heq => by cases heq
  done := by
    intro r hrs hd
    have hre : req.result ≠ none := by
      intro hn
      cases hn.symm.trans hrs
    exact absurd (h.settled hre hd hse hp) hst

theorem Inv.handled (h : v.Inv) (hwire : v.wire sid = c :: rest) (hreq : v.requests[j]? = some req)
    (hh : held = v.held ∨ ∃ t, req.drawn = true ∧ sid = req.home t ∧
      held = (v.place sid (req.endpoint t).id (some (req.endpoint t))).held) :
    (BridgeView.answer ⟨held, (v.deliver sid rest).wire, v.live, v.requests⟩ j value).Inv := by
  have ha := h.agrees j req hreq
  have hc : c.replyTo = some j := by
    have hre := req.replyTo_command j
    rw [hco] at hre
    exact hre
  have hg := wire_deliver v sid rest
  have hsa : ∀ s, ∀ d ∈ v.wire s, d ≠ c → d ∈ (v.deliver sid rest).wire s := by
    intro s d hd hne
    rw [hg]
    exact mem_rest hwire hd fun _ => hne
  have hrm : ∀ x r, Command.removeEndpoint x r ≠ c := by
    intro x r heq
    exact hst (command_removes ((congrArg Prod.snd hco).trans heq.symm)).1
  have hsi : v.live sid = true := by
    cases hl : v.live sid with
    | true => rfl
    | false => simp [(h.dead sid hl).1] at hwire
  -- every change of a session is at the end of the request
  have hch : ∀ s x, held s x = v.held s x ∨ ∃ t, req.drawn = true ∧ s = req.home t ∧
      x = (req.endpoint t).id ∧ held s x = some (req.endpoint t) ∧ s = sid := by
    intro s x
    rcases hh with hsame | ⟨t, hdr, hho, hpl⟩
    · exact Or.inl (by rw [hsame])
    · rw [hpl, held_place]
      grind
  refine h.answer hreq hp rfl (ha.handled hse hp hco hst hlo hf hwire hsi) ?_ ?_ ?_ ?_ ?_
  · intro k other hk ho
    refine (h.agrees k other ho).frame ⟨fun hdr t => ?_, fun _ _ hl => hl, fun _ hl => hl,
      fun _ hm => hsa _ _ hm fun heq => ?_, fun _ t _ r hm => hsa _ _ hm (hrm _ _),
      fun _ _ t s r hm => mem_of_rest hwire (hg s ▸ hm)⟩
    · rcases hch (other.home t) (other.endpoint t).id with hsame | ⟨t', hdr', -, hid, -⟩
      · exact Eq.congr_left hsame
      · exact absurd (h.distinct k other t ho hdr j req t' hreq hdr' hid).1 hk
    have hre := other.replyTo_command k
    rw [heq, hc] at hre
    exact hk (Option.some.inj hre).symm
  · grind [h.none_left]
  · intro s k
    refine Nat.le_trans ?_ (h.once s k)
    rw [hg]
    exact countP_rest_le hwire _ s
  · grind
  · grind [h.dead]

end

theorem Inv.located (h : v.Inv) (hwire : v.wire sid = .getPacketTx j :: rest) :
    ((v.deliver sid rest).answer j (.ok sid)).Inv := by
  obtain ⟨req, hrq, hse, hp, hco⟩ :=
    h.awaited sid _ (by rw [hwire]; exact mem_cons_self) j rfl
  have hst : req.stage = .getSource ∧ sid = req.source ∨
      req.stage = .getTarget ∧ sid = req.target := by
    unfold command at hco
    split at hco <;> cases hco
    · rename_i hs
      exact Or.inl ⟨hs, rfl⟩
    · rename_i hs
      exact Or.inr ⟨hs, rfl⟩
  refine h.handled hse hp hco ?_ ?_ (fun _ hd => ?_) hwire hrq (.inl rfl)
  · grind
  · grind
  · grind [drawn]

theorem command_inserts (hco : req.command j = (sid, .insertBridgeEndpoint j bridge)) :
    ∃ t, req.stage = (if t then .insertTarget else .insertSource) ∧ sid = req.home t ∧
      bridge = req.endpoint t := by
  unfold command at hco
  split at hco <;> cases hco
  · rename_i hs
    exact ⟨false, hs, rfl, rfl⟩
  · rename_i hs
    exact ⟨true, hs, rfl, rfl⟩

theorem Inv.inserted (h : v.Inv) (hwire : v.wire sid = .insertBridgeEndpoint j bridge :: rest) :
    (((v.deliver sid rest).place sid bridge.id (some bridge)).answer j (.ok bridge.id)).Inv := by
  obtain ⟨req, hrq, hse, hp, hco⟩ :=
    h.awaited sid _ (by rw [hwire]; exact mem_cons_self) j rfl
  obtain ⟨t, hs, rfl, rfl⟩ := command_inserts hco
  have hd : req.drawn = true := by grind [drawn]
  refine h.handled hse hp hco (by grind) (by grind) (fun hf _ t' => ?_) hwire hrq
    (.inr ⟨t, hd, rfl, rfl⟩)
  have hn : stage { req with reply := .sent (.ok (req.endpoint t).id) } =
      if t then .insertTarget else .insertSource := hs
  by_cases ht : t' = t
  · rw [ht, (expected_insert hn).1]
    refine ⟨fun _ => rfl, fun _ => ?_⟩
    exact (held_place v _ _ _ _ _).trans (if_pos ⟨rfl, rfl⟩)
  -- the other end stays as it was
  have ho : t' = !t := Bool.eq_not.mpr ht
  have hne : ¬(req.home (!t) = req.home t ∧ (req.endpoint !t).id = (req.endpoint t).id) := by
    rintro ⟨-, hid⟩
    have hsame := (h.distinct j req (!t) hrq hd j req t hrq hd hid).2
    cases t <;> cases hsame
  have hold := (h.agrees j req hrq).flight hf hd (!t)
  rw [(expected_insert hs).2] at hold
  rw [ho, (expected_insert hn).2, Has, ← hold, Has]
  exact Eq.congr_left ((held_place v _ _ _ _ _).trans (if_neg hne))

theorem Inv.full (h : v.Inv) (hwire : v.wire sid = .insertBridgeEndpoint j bridge :: rest)
    (error : String) : ((v.deliver sid rest).answer j (.error error)).Inv := by
  obtain ⟨req, hrq, hse, hp, hco⟩ :=
    h.awaited sid _ (by rw [hwire]; exact mem_cons_self) j rfl
  obtain ⟨t, hs, rfl, rfl⟩ := command_inserts hco
  refine h.handled hse hp hco (by grind) (by simp) (fun hf hd t' => ?_) hwire hrq (.inl rfl)
  have hsame : expected { req with reply := .sent (.error error) } t' = req.expected t' := by
    by_cases ht : t' = t
    · grind [expected_insert, accepted]
    · grind [expected_insert]
  rw [hsame]
  exact (h.agrees j req hrq).flight hf hd t'

end Handled

/-! ## Whole runs -/

theorem Step.inv (h : v.Inv) (hs : Step v v') : v'.Inv := by
  cases hs with
  | same => exact h
  | drop sid hu => exact h.drop hu
  | ask sid id hl hfe => exact h.ask hl hfe
  | start source target hne => exact h.start hne
  | send j req hrq hf hun hl => exact h.send hrq hf hun hl
  | gone j req code hrq hf hd => exact h.gone hrq hf code hd
  | timeout j req code hrq hf hsa => exact h.timeout hrq hf code hsa
  | reply j req value a b hrq hf hre hfr => exact h.reply hrq hf hre hfr
  | missing sid id reply rest value hwire hn => exact (Removal.missing h hwire hn).inv h value
  | removed sid id reply rest bridge value hwire hh hl =>
    exact (Removal.removed h hwire hh hl).inv h value
  | single sid id reply rest bridge value hwire hh hn =>
    exact (Removal.single h hwire hh hn).inv h value
  | located sid j rest hwire => exact h.located hwire
  | inserted sid j bridge rest hwire => exact h.inserted hwire
  | full sid j bridge rest error hwire => exact h.full hwire error

theorem Inv.paired_ne (h : v.Inv) (hh : v.held sid id = some bridge) :
    bridge.pairedCmdTx ≠ sid := by
  obtain ⟨j, req, t, hrq, hd, rfl, rfl, -⟩ := h.origin sid id bridge hh
  have ha := (h.agrees j req hrq).apart
  rw [(h.agrees j req hrq).pair hd t]
  cases t with
  | false => exact Ne.symm ha
  | true => exact ha

theorem Inv.paired (h : v.Inv) (he : ∀ sid, v.wire sid = []) (hh : v.held sid id = some bridge) :
    (∃ req ∈ v.requests, req.result = none ∧ req.drawn = true ∧ ∃ t, bridge = req.endpoint t) ∨
      ∃ far ∈ v.held bridge.pairedSessionId bridge.pairedEndpointId,
        bridge.remotePacketTx = bridge.pairedSessionId ∧
        bridge.pairedCmdTx = bridge.pairedSessionId ∧
        far.pairedSessionId = sid ∧ far.pairedEndpointId = id := by
  obtain ⟨j, req, t, hrq, hd, rfl, rfl, rfl⟩ := h.origin sid id bridge hh
  cases hrs : req.result with
  | none => exact Or.inl ⟨req, mem_of_getElem? hrq, hrs, hd, t, rfl⟩
  | some r =>
    right
    have ha := h.agrees j req hrq
    have hp := ha.pair hd t
    have hf := ha.pair hd (!t)
    rw [Bool.not_not] at hf
    rcases ha.done r hrs hd t hh with ⟨-, ho⟩ | ⟨reply, hak⟩
    · refine ⟨req.endpoint !t, ?_, ?_, ?_, ?_, ?_⟩
      · rw [hp]
        exact ho
      · rw [hp]
      · rw [hp]
      · rw [hf]
      · rw [hf]
    · rw [he] at hak
      cases hak

theorem Inv.unpaired (h : v.Inv) (he : ∀ sid, v.wire sid = []) (hrq : req ∈ v.requests)
    {e : String} (hrs : req.result = some (.error e)) (hd : req.drawn = true) (t : Bool)
    (sid : SessionId) : v.held sid (req.endpoint t).id = none := by
  obtain ⟨j, hj⟩ := List.getElem?_of_mem hrq
  refine h.not_has hj hd (fun hha => ?_) sid
  rcases (h.agrees j req hj).done _ hrs hd t hha with ⟨hok, -⟩ | ⟨reply, hak⟩
  · cases hok
  · rw [he] at hak
    cases hak

end BridgeView
end RtpBridge.Session
