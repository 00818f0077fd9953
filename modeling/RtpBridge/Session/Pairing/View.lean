/-
Bridge endpoints come in pairs, one in each of two sessions.

`BridgeView` is what the pairing depends on: the bridge endpoints a session holds, the
commands about bridges in its queue, and the requests that make pairs.  `Step` lists what
may happen to it, each step with the condition under which the pairing survives it.
`Inv` is the invariant: every bridge endpoint is one end of a request, a request in
flight has put in place exactly the ends its stage says, and once it has returned an end
is in place only together with the other end, or with a command that removes it.
-/
import RtpBridge.Session.System

namespace RtpBridge.Session

open List BridgeRequest

variable {s : SessionId} {c : Command} {value : Except String SessionId}

/-! ## The two ends of a request -/

def Command.replyTo : Command → Option Nat
  | .removeEndpoint _ reply => reply
  | .getPacketTx j => some j
  | .insertBridgeEndpoint j _ => some j
  | _ => none

def Command.aboutBridge : Command → Bool
  | .removeEndpoint _ _ | .getPacketTx _ | .insertBridgeEndpoint _ _ => true
  | _ => false

namespace BridgeRequest

def drawn (req : BridgeRequest) : Bool :=
  match req.stage with
  | .getSource | .getTarget => false
  | .insertSource | .insertTarget | .rollback => true

def home (req : BridgeRequest) : Bool → SessionId
  | false => req.source
  | true => req.target

def endpoint (req : BridgeRequest) : Bool → BridgeEndpoint
  | false => req.bridgeA
  | true => req.bridgeB

def accepted (req : BridgeRequest) : Bool :=
  match req.reply with
  | .sent (.ok _) => true
  | _ => false

def unanswered (req : BridgeRequest) : Bool :=
  match req.reply with
  | .pending => true
  | _ => false

def expected (req : BridgeRequest) (t : Bool) : Bool :=
  match req.stage, t with
  | .insertSource, false => req.accepted
  | .insertTarget, false => true
  | .insertTarget, true => req.accepted
  | .rollback, false => req.unanswered
  | _, _ => false

def MayTimeOut (req : BridgeRequest) : Prop :=
  match req.stage with
  | .getSource | .getTarget => True
  | .insertSource => req.sent = false
  | .insertTarget => False
  | .rollback => req.sent = true

structure Alike (req req' : BridgeRequest) : Prop where
  source : req'.source = req.source
  target : req'.target = req.target
  bridgeA : req'.bridgeA = req.bridgeA
  bridgeB : req'.bridgeB = req.bridgeB
  drawn : req'.drawn = req.drawn

variable {req req' : BridgeRequest}

theorem Alike.home (h : req.Alike req') (t : Bool) : req'.home t = req.home t := by
  cases t with
  | false => exact h.source
  | true => exact h.target

theorem Alike.endpoint (h : req.Alike req') (t : Bool) : req'.endpoint t = req.endpoint t := by
  cases t with
  | false => exact h.bridgeA
  | true => exact h.bridgeB

theorem command_home (req : BridgeRequest) (j : Nat) : ∃ t, (req.command j).1 = req.home t := by
  unfold command
  split
  · exact ⟨false, rfl⟩
  · exact ⟨true, rfl⟩
  · exact ⟨false, rfl⟩
  · exact ⟨true, rfl⟩
  · exact ⟨false, rfl⟩

theorem replyTo_command (req : BridgeRequest) (j : Nat) : (req.command j).2.replyTo = some j := by
  unfold command
  split <;> rfl

theorem expected_rollback (h : req.stage = .rollback) :
    req.expected false = req.unanswered ∧ req.expected true = false := by
  unfold expected
  rw [h]
  exact ⟨rfl, rfl⟩

theorem expected_insert {t : Bool} (h : req.stage = if t then .insertTarget else .insertSource) :
    req.expected t = req.accepted ∧ req.expected (!t) = t := by grind [expected]

end BridgeRequest

/-! ## The view -/

@[ext]
structure BridgeView where
  held : SessionId → EndpointId → Option BridgeEndpoint
  wire : SessionId → List Command
  live : SessionId → Bool
  requests : List BridgeRequest

namespace BridgeView

variable {v v' : BridgeView} {sid : SessionId} {id : EndpointId} {j : Nat} {t : Bool}
  {req req' : BridgeRequest} {bridge : BridgeEndpoint} {rest : List Command}

def post (v : BridgeView) (sid : SessionId) (c : Command) : BridgeView :=
  { v with wire := Function.update v.wire sid (v.wire sid ++ [c]) }

def deliver (v : BridgeView) (sid : SessionId) (rest : List Command) : BridgeView :=
  { v with wire := Function.update v.wire sid rest }

def place (v : BridgeView) (sid : SessionId) (id : EndpointId) (o : Option BridgeEndpoint) :
    BridgeView :=
  { v with held := Function.update v.held sid (Function.update (v.held sid) id o) }

def setRequest (v : BridgeView) (j : Nat) (req : BridgeRequest) : BridgeView :=
  { v with requests := v.requests.set j req }

def answer (v : BridgeView) (j : Nat) (value : Except String SessionId) : BridgeView :=
  match v.requests[j]? with
  | none => v
  | some req => v.setRequest j { req with reply := req.reply.send value }

def answerTo (v : BridgeView) (reply : Option Nat) (value : Except String SessionId) : BridgeView :=
  match reply with
  | none => v
  | some j => v.answer j value

def drop (v : BridgeView) (sid : SessionId) : BridgeView :=
  { v with
    held := Function.update v.held sid fun _ => none
    wire := Function.update v.wire sid []
    live := Function.update v.live sid false }

def start (v : BridgeView) (source target : SessionId) : BridgeView :=
  { v with requests := v.requests ++ [{ source, target }] }

def Has (v : BridgeView) (req : BridgeRequest) (t : Bool) : Prop :=
  v.held (req.home t) (req.endpoint t).id = some (req.endpoint t)

def Free (v : BridgeView) (id : EndpointId) : Prop :=
  ∀ req ∈ v.requests, req.result = none → req.drawn = true → ∀ t, (req.endpoint t).id ≠ id

def Unused (v : BridgeView) (id : EndpointId) : Prop :=
  (∀ req ∈ v.requests, req.drawn = true → ∀ t, (req.endpoint t).id ≠ id) ∧
    ∀ sid reply, .removeEndpoint id reply ∉ v.wire sid

def Unpaired (v : BridgeView) (sid : SessionId) : Prop :=
  (∀ id, v.held sid id = none) ∧
    ∀ req ∈ v.requests, req.result = none → ∀ t, req.home t ≠ sid

inductive Step (v : BridgeView) : BridgeView → Prop
  | same : Step v v
  | drop (sid : SessionId) (hu : v.Unpaired sid) : Step v (v.drop sid)
  | ask (sid : SessionId) (id : EndpointId) (hl : v.live sid = true) (hfe : v.Free id) :
      Step v (v.post sid (.removeEndpoint id none))
  | start (source target : SessionId) (hne : source ≠ target) : Step v (v.start source target)
  | send (j : Nat) (req : BridgeRequest) (hrq : v.requests[j]? = some req)
      (hf : req.result = none) (hun : req.sent = false)
      (hl : v.live (req.command j).1 = true) :
      Step v ((v.post (req.command j).1 (req.command j).2).setRequest j { req with sent := true })
  | gone (j : Nat) (req : BridgeRequest) (code : String) (hrq : v.requests[j]? = some req)
      (hf : req.result = none) (hd : v.live (req.command j).1 = false) :
      Step v (v.setRequest j (req.fail code))
  | timeout (j : Nat) (req : BridgeRequest) (code : String) (hrq : v.requests[j]? = some req)
      (hf : req.result = none) (hs : req.MayTimeOut) :
      Step v (v.setRequest j (req.fail code))
  | reply (j : Nat) (req : BridgeRequest) (value : Except String SessionId) (a b : EndpointId)
      (hrq : v.requests[j]? = some req) (hf : req.result = none)
      (hre : req.reply = .sent value)
      (hfr : req.stage = .getTarget → a ≠ b ∧ v.Unused a ∧ v.Unused b) :
      Step v (v.setRequest j (req.answered a b value))
  | missing (sid : SessionId) (id : EndpointId) (reply : Option Nat) (rest : List Command)
      (value : Except String SessionId) (hwire : v.wire sid = .removeEndpoint id reply :: rest)
      (hn : v.held sid id = none) : Step v ((v.deliver sid rest).answerTo reply value)
  | removed (sid : SessionId) (id : EndpointId) (reply : Option Nat) (rest : List Command)
      (bridge : BridgeEndpoint) (value : Except String SessionId)
      (hwire : v.wire sid = .removeEndpoint id reply :: rest) (hh : v.held sid id = some bridge)
      (hl : v.live bridge.pairedCmdTx = true) :
      Step v ((((v.deliver sid rest).place sid id none).post bridge.pairedCmdTx
        (.removeEndpoint bridge.pairedEndpointId none)).answerTo reply value)
  | single (sid : SessionId) (id : EndpointId) (reply : Option Nat) (rest : List Command)
      (bridge : BridgeEndpoint) (value : Except String SessionId)
      (hwire : v.wire sid = .removeEndpoint id reply :: rest) (hh : v.held sid id = some bridge)
      (hn : v.held bridge.pairedCmdTx bridge.pairedEndpointId = none) :
      Step v (((v.deliver sid rest).place sid id none).answerTo reply value)
  | located (sid : SessionId) (j : Nat) (rest : List Command)
      (hwire : v.wire sid = .getPacketTx j :: rest) :
      Step v ((v.deliver sid rest).answer j (.ok sid))
  | inserted (sid : SessionId) (j : Nat) (bridge : BridgeEndpoint) (rest : List Command)
      (hwire : v.wire sid = .insertBridgeEndpoint j bridge :: rest) :
      Step v (((v.deliver sid rest).place sid bridge.id (some bridge)).answer j (.ok bridge.id))
  | full (sid : SessionId) (j : Nat) (bridge : BridgeEndpoint) (rest : List Command)
      (error : String) (hwire : v.wire sid = .insertBridgeEndpoint j bridge :: rest) :
      Step v ((v.deliver sid rest).answer j (.error error))

/-! ## The invariant -/

structure Agrees (v : BridgeView) (j : Nat) (req : BridgeRequest) : Prop where
  apart : req.source ≠ req.target
  unsent : req.sent = false → req.reply = .pending
  kept : req.reply ≠ .lost
  sourceTx : req.stage ≠ .getSource → req.sourcePacketTx = req.source
  located : ∀ value, req.reply = .sent (.ok value) →
    (req.stage = .getSource → value = req.source) ∧ (req.stage = .getTarget → value = req.target)
  alive : req.result = none →
    (req.stage ≠ .getSource ∨ req.reply ≠ .pending → v.live req.source = true) ∧
      (req.drawn = true ∨ req.stage = .getTarget ∧ req.reply ≠ .pending → v.live req.target = true)
  pair : req.drawn = true → ∀ t, req.endpoint t =
    ⟨(req.endpoint t).id, req.home !t, (req.endpoint !t).id, req.home !t, req.home !t⟩
  out : req.sent = true → req.reply = .pending → v.live (req.command j).1 = true →
    (req.command j).2 ∈ v.wire (req.command j).1
  flight : req.result = none → req.drawn = true → ∀ t, v.Has req t ↔ req.expected t = true
  clean : req.result = none → req.drawn = true → ∀ t sid reply,
    .removeEndpoint (req.endpoint t).id reply ∈ v.wire sid →
      req.stage = .rollback ∧ (t = false → reply = some j)
  settled : req.result ≠ none → req.drawn = true → req.sent = true → req.reply = .pending →
    req.stage = .rollback
  done : ∀ r, req.result = some r → req.drawn = true → ∀ t, v.Has req t →
    r.isOk = true ∧ v.Has req (!t) ∨
      ∃ reply, .removeEndpoint (req.endpoint t).id reply ∈ v.wire (req.home t)

structure Inv (v : BridgeView) : Prop where
  agrees : ∀ (j : Nat) (req : BridgeRequest), v.requests[j]? = some req → v.Agrees j req
  awaited : ∀ sid, ∀ c ∈ v.wire sid, ∀ j, c.replyTo = some j → ∃ req, v.requests[j]? = some req ∧
    req.sent = true ∧ req.reply = .pending ∧ req.command j = (sid, c)
  once : ∀ sid j, (v.wire sid).countP (fun c => c.replyTo = some j) ≤ 1
  origin : ∀ sid id bridge, v.held sid id = some bridge →
    ∃ (j : Nat) (req : BridgeRequest) (t : Bool), v.requests[j]? = some req ∧
      req.drawn = true ∧ sid = req.home t ∧ bridge = req.endpoint t ∧ id = bridge.id
  distinct : ∀ (j : Nat) (req : BridgeRequest) (t : Bool), v.requests[j]? = some req →
    req.drawn = true → ∀ (j' : Nat) (req' : BridgeRequest) (t' : Bool),
      v.requests[j']? = some req' → req'.drawn = true →
        (req.endpoint t).id = (req'.endpoint t').id → j = j' ∧ t = t'
  dead : ∀ sid, v.live sid = false → v.wire sid = [] ∧ ∀ id, v.held sid id = none

theorem Inv.not_has (h : v.Inv) (hrq : v.requests[j]? = some req) (hd : req.drawn = true)
    (hn : ¬v.Has req t) (sid : SessionId) : v.held sid (req.endpoint t).id = none := by
  cases hh : v.held sid (req.endpoint t).id with
  | none => rfl
  | some bridge =>
    obtain ⟨rfl, rfl⟩ : sid = req.home t ∧ bridge = req.endpoint t := by
      grind [h.origin, h.distinct]
    exact absurd hh hn

theorem getElem?_set_request (hrq : v.requests[j]? = some req) (k : Nat) :
    (v.requests.set j req')[k]? = if k = j then some req' else v.requests[k]? := by grind

/-! ### What a step leaves of a request -/

structure Frame (v v' : BridgeView) (j : Nat) (req : BridgeRequest) : Prop where
  has : req.drawn = true → ∀ t, v'.Has req t ↔ v.Has req t
  live : req.result = none → ∀ t, v.live (req.home t) = true → v'.live (req.home t) = true
  born : ∀ sid, v'.live sid = true → v.live sid = true
  out : v'.live (req.command j).1 = true → (req.command j).2 ∈ v.wire (req.command j).1 →
    (req.command j).2 ∈ v'.wire (req.command j).1
  asked : req.drawn = true → ∀ t, v'.Has req t → ∀ reply,
    .removeEndpoint (req.endpoint t).id reply ∈ v.wire (req.home t) →
      .removeEndpoint (req.endpoint t).id reply ∈ v'.wire (req.home t)
  clean : req.result = none → req.drawn = true → ∀ t sid reply,
    .removeEndpoint (req.endpoint t).id reply ∈ v'.wire sid →
      .removeEndpoint (req.endpoint t).id reply ∈ v.wire sid

theorem Agrees.frame (h : v.Agrees j req) (hf : Frame v v' j req) : v'.Agrees j req where
  __ := h
  alive := by
    intro hfl
    have ha := h.alive hfl
    exact ⟨fun hs => hf.live hfl false (ha.1 hs), fun ht => hf.live hfl true (ha.2 ht)⟩
  out := by
    intro hse hp hl
    exact hf.out hl (h.out hse hp (hf.born _ hl))
  flight := by
    intro hfl hd t
    rw [hf.has hd]
    exact h.flight hfl hd t
  clean := by
    intro hfl hd t sid reply hm
    exact h.clean hfl hd t sid reply (hf.clean hfl hd t sid reply hm)
  done := by grind [h.done, hf.has, hf.asked]

theorem Frame.of_same (hh : v'.held = v.held) (hwire : v'.wire = v.wire)
    (hli : v'.live = v.live) : Frame v v' j req where
  has _ t := by rw [Has, Has, hh]
  live _ t hl := by rw [hli]; exact hl
  born sid hl := by rw [← hli]; exact hl
  out _ hm := by rw [hwire]; exact hm
  asked _ t _ reply hm := by rw [hwire]; exact hm
  clean _ _ t sid reply hm := by rw [← hwire]; exact hm

/-! ### Steps of the invariant -/

theorem Inv.of_same (h : v.Inv) (hre : v'.requests = v.requests)
    (ha : ∀ (j : Nat) (req : BridgeRequest), v.requests[j]? = some req → v'.Agrees j req)
    (hwire : ∀ sid, ∀ c ∈ v'.wire sid, c.replyTo ≠ none → c ∈ v.wire sid)
    (ho : ∀ sid j, (v'.wire sid).countP (fun c => c.replyTo = some j) ≤
      (v.wire sid).countP (fun c => c.replyTo = some j))
    (hh : ∀ sid id bridge, v'.held sid id = some bridge → v.held sid id = some bridge)
    (hd : ∀ sid, v'.live sid = false → v'.wire sid = [] ∧ ∀ id, v'.held sid id = none) :
    v'.Inv where
  agrees := by
    rw [hre]
    exact ha
  awaited := by grind [h.awaited]
  once sid j := Nat.le_trans (ho sid j) (h.once sid j)
  origin := by grind [h.origin]
  distinct := by
    rw [hre]
    exact h.distinct
  dead := hd

theorem Inv.of_set (h : v.Inv) (hrq : v.requests[j]? = some req) (hal : req.Alike req')
    (hre : v'.requests = v.requests.set j req') (hs : v'.Agrees j req')
    (hot : ∀ (k : Nat) (other : BridgeRequest), k ≠ j → v.requests[k]? = some other →
      v'.Agrees k other)
    (haw : ∀ sid, ∀ c ∈ v'.wire sid, ∀ k, c.replyTo = some k → k ≠ j ∧ c ∈ v.wire sid ∨
        k = j ∧ req'.sent = true ∧ req'.reply = .pending ∧ req'.command j = (sid, c))
    (ho : ∀ sid k, (v'.wire sid).countP (fun c => c.replyTo = some k) ≤ 1)
    (hh : ∀ sid id bridge, v'.held sid id = some bridge → v.held sid id = some bridge ∨
      ∃ t, req.drawn = true ∧ sid = req.home t ∧ bridge = req.endpoint t ∧ id = bridge.id)
    (hde : ∀ sid, v'.live sid = false → v'.wire sid = [] ∧ ∀ id, v'.held sid id = none) :
    v'.Inv := by
  have hg : ∀ k, v'.requests[k]? = if k = j then some req' else v.requests[k]? := by
    intro k
    rw [hre]
    exact getElem?_set_request hrq k
  -- every request has the ends it had
  have hba : ∀ (k : Nat) (new : BridgeRequest), v'.requests[k]? = some new →
      ∃ old, v.requests[k]? = some old ∧ old.Alike new := by
    intro k new hk
    rw [hg] at hk
    split at hk
    · grind
    · exact ⟨new, hk, rfl, rfl, rfl, rfl, rfl⟩
  have hf : ∀ (k : Nat) (old : BridgeRequest), v.requests[k]? = some old →
      ∃ new, v'.requests[k]? = some new ∧ old.Alike new := by
    intro k old hk
    rw [hg]
    split
    · grind
    · exact ⟨old, hk, rfl, rfl, rfl, rfl, rfl⟩
  constructor
  · grind
  · grind [h.awaited]
  · exact ho
  · intro sid id bridge hb
    rcases hh sid id bridge hb with hold | ⟨t, hd, hsi, hbr, hid⟩
    · obtain ⟨k, old, t, hk, hd, hsi, hbr, hid⟩ := h.origin sid id bridge hold
      obtain ⟨new, hn, ha⟩ := hf k old hk
      exact ⟨k, new, t, hn, by rw [ha.drawn]; exact hd, by rw [ha.home]; exact hsi,
        by rw [ha.endpoint]; exact hbr, hid⟩
    obtain ⟨new, hn, ha⟩ := hf j req hrq
    exact ⟨j, new, t, hn, by rw [ha.drawn]; exact hd, by rw [ha.home]; exact hsi,
      by rw [ha.endpoint]; exact hbr, hid⟩
  · intro k new t hk hd k' new' t' hk' hd' hid
    obtain ⟨old, hold, ha⟩ := hba k new hk
    obtain ⟨old', hold', ha'⟩ := hba k' new' hk'
    grind [ha.drawn, ha'.drawn, ha.endpoint, ha'.endpoint, h.distinct]
  · exact hde

section Update

theorem wire_post (v : BridgeView) (sid : SessionId) (c : Command) (s : SessionId) :
    (v.post sid c).wire s = if s = sid then v.wire s ++ [c] else v.wire s := by
  unfold post
  dsimp only
  rw [Function.update_apply]
  split
  · rename_i hs
    rw [hs]
  · rfl

theorem mem_post {d : Command} :
    d ∈ (v.post sid c).wire s ↔ d ∈ v.wire s ∨ s = sid ∧ d = c := by grind [wire_post]

theorem countP_post (p : Command → Bool) (hp : p c = false) :
    ((v.post sid c).wire s).countP p = (v.wire s).countP p := by
  grind [wire_post]

theorem wire_deliver (v : BridgeView) (sid : SessionId) (rest : List Command) (s : SessionId) :
    (v.deliver sid rest).wire s = if s = sid then rest else v.wire s :=
  Function.update_apply ..

theorem held_place (v : BridgeView) (sid : SessionId) (id : EndpointId)
    (o : Option BridgeEndpoint) (s : SessionId) (x : EndpointId) :
    (v.place sid id o).held s x = if s = sid ∧ x = id then o else v.held s x := by
  unfold place
  dsimp only
  rw [Function.update_apply]
  grind

end Update

theorem Inv.drop (h : v.Inv) (hu : v.Unpaired sid) : (v.drop sid).Inv := by
  have hh : ∀ s id, (v.drop sid).held s id = v.held s id := by
    intro s id
    unfold BridgeView.drop
    dsimp only
    rw [Function.update_apply]
    split
    · rename_i hs
      rw [hs, hu.1]
    · rfl
  have hwire : ∀ s, (v.drop sid).wire s = if s = sid then [] else v.wire s :=
    Function.update_apply v.wire sid []
  have hli : ∀ s, (v.drop sid).live s = if s = sid then false else v.live s :=
    Function.update_apply v.live sid false
  have hsu : ∀ s, ∀ c ∈ (v.drop sid).wire s, c ∈ v.wire s := by
    intro s c hc
    rw [hwire] at hc
    split at hc
    · cases hc
    · exact hc
  have hre : (v.drop sid).requests = v.requests := rfl
  apply h.of_same hre
  · intro j req hrq
    refine (h.agrees j req hrq).frame ⟨fun _ t => ?_, fun hf t hl => ?_, fun s hl => ?_,
      fun hl hm => ?_, fun _ t hha reply hm => ?_, fun _ _ t s reply hm => hsu s _ hm⟩
    · rw [Has, Has, hh]
    · rw [hli, if_neg (hu.2 req (mem_of_getElem? hrq) hf t)]
      exact hl
    · grind
    · grind
    rw [hwire]
    split
    · rename_i hs
      rw [Has, hh, hs, hu.1] at hha
      cases hha
    · exact hm
  · exact fun s c hc _ => hsu s c hc
  · grind
  · intro s id bridge hb
    rw [← hh]
    exact hb
  · intro s hl
    rw [hwire]
    split
    · rename_i hs
      exact ⟨rfl, fun id => by rw [hh, hs, hu.1]⟩
    grind [h.dead]

theorem Inv.ask (h : v.Inv) (hli : v.live sid = true) (hfe : v.Free id) :
    (v.post sid (.removeEndpoint id none)).Inv := by
  have hre : (v.post sid (.removeEndpoint id none)).requests = v.requests := rfl
  apply h.of_same hre
  · intro j req hrq
    refine (h.agrees j req hrq).frame ⟨fun _ _ => Iff.rfl, fun _ _ hl => hl, fun _ hl => hl,
      fun _ hm => mem_post.mpr (Or.inl hm), fun _ _ _ _ hm => mem_post.mpr (Or.inl hm),
      fun hf hd t s reply hm => ?_⟩
    rcases mem_post.mp hm with hold | ⟨-, hn⟩
    · exact hold
    · cases hn
      exact absurd rfl (hfe req (mem_of_getElem? hrq) hf hd t)
  · intro s c hc hrp
    rcases mem_post.mp hc with hold | ⟨-, rfl⟩
    · exact hold
    · exact absurd rfl hrp
  · intro s j
    rw [countP_post _ (by rfl)]
  · exact fun _ _ _ hb => hb
  intro s hl
  refine ⟨?_, (h.dead s hl).2⟩
  have hs : s ≠ sid := by
    rintro rfl
    rw [show (v.post s (.removeEndpoint id none)).live s = v.live s from rfl, hli] at hl
    cases hl
  rw [wire_post, if_neg hs]
  exact (h.dead s hl).1

theorem Inv.start (h : v.Inv) {source target : SessionId} (hne : source ≠ target) :
    (v.start source target).Inv := by
  have hf : ∀ (j : Nat) (req : BridgeRequest), v.requests[j]? = some req →
      (v.start source target).Agrees j req := fun j req hrq =>
    (h.agrees j req hrq).frame (Frame.of_same rfl rfl rfl)
  have hg : ∀ (j : Nat) (req : BridgeRequest), (v.start source target).requests[j]? = some req →
      v.requests[j]? = some req ∨ req = { source, target } := by grind [BridgeView.start]
  have hold : ∀ (j : Nat) (req : BridgeRequest), v.requests[j]? = some req →
      (v.start source target).requests[j]? = some req := by grind [BridgeView.start]
  have hdr : ∀ (j : Nat) (req : BridgeRequest),
      (v.start source target).requests[j]? = some req → req.drawn = true →
        v.requests[j]? = some req := by grind [drawn]
  constructor
  · intro j req hrq
    rcases hg j req hrq with hrq | rfl
    · exact hf j req hrq
    exact {
      apart := hne
      unsent := fun _ => rfl
      kept := nofun
      sourceTx := fun hs => absurd rfl hs
      located := nofun
      alive := fun _ => ⟨fun hor => hor.elim (fun hs => absurd rfl hs)
        fun hre => absurd rfl hre, fun hor => hor.elim nofun fun ha => nomatch ha.1⟩
      pair := nofun
      out := nofun
      flight := nofun
      clean := nofun
      settled := nofun
      done := nofun }
  · intro sid c hc j hj
    obtain ⟨req, hrq, hse⟩ := h.awaited sid c hc j hj
    exact ⟨req, hold j req hrq, hse⟩
  · exact h.once
  · intro sid id bridge hb
    obtain ⟨j, req, t, hrq, hrs⟩ := h.origin sid id bridge hb
    exact ⟨j, req, t, hold j req hrq, hrs⟩
  · intro j req t hrq hd j' req' t' hrq' hd' hid
    exact h.distinct j req t (hdr j req hrq hd) hd j' req' t' (hdr j' req' hrq' hd') hd' hid
  · exact h.dead

end BridgeView
end RtpBridge.Session
