/-
The tables of a session are current at the end of every turn of its loop.
-/
import RtpBridge.Session.Loop

namespace RtpBridge.Session

open Srtp Sdp Wire Option AList Machine LiveEndpoint
open List hiding Vector

variable {ep ep' : LiveEndpoint} {id : EndpointId} {it : Iteration}

/-! ## Endpoints -/

namespace LiveEndpoint

def shown (ep : LiveEndpoint) : SourceKind × Option MediaFacts :=
  (ep.kind, if ep.routable then some ep.facts else none)

theorem shown_eq (hk : ep'.kind = ep.kind) (hr : ep'.routable = ep.routable)
    (hf : ep'.facts = ep.facts) : ep'.shown = ep.shown := by
  unfold shown
  rw [hk, hr, hf]

theorem shown_unroutable (hk : ep'.kind = ep.kind) (h : ep.routable = false)
    (h' : ep'.routable = false) : ep'.shown = ep.shown := by
  unfold shown
  rw [hk, h, h']
  rfl

end LiveEndpoint

def RtcEvent.keeps (codec : Option NegotiatedCodec) : RtcEvent → Bool
  | .iceConnectionStateChange .disconnected => false
  | .mediaAdded codec' => codec' = codec
  | _ => true

theorem emitWebrtcEvents_append (changes later : List StateChange) :
    emitWebrtcEvents (changes ++ later) = (emitWebrtcEvents changes || emitWebrtcEvents later) := by
  exact any_append

namespace WebRtcPeer

/-- A poll that a routed endpoint survives with its connection and its codec, and
that does not fail once it has reported something. -/
def Undisturbed (ep : WebRtcPeer) (poll : Poll) : Prop :=
  ((webRtc ep).routable = true → ∀ e ∈ poll.events, e.keeps ep.codec = true) ∧
    (poll.failed = true → poll.events = [])

instance (ep : WebRtcPeer) (poll : Poll) : Decidable (ep.Undisturbed poll) :=
  inferInstanceAs (Decidable (_ ∧ _))

theorem handleEvent_routable {ep : WebRtcPeer} {e : RtcEvent}
    (hr : (webRtc ep).routable = true) (hk : e.keeps ep.codec = true) :
    ∃ state, (ep.handleEvent e).1 = { ep with state := state } ∧
      (webRtc { ep with state := state }).routable = true := by
  cases e with
  | connected => exact ⟨.connected, rfl, rfl⟩
  | other => exact ⟨ep.state, rfl, hr⟩
  | mediaAdded codec =>
    have hc : codec = ep.codec := of_decide_eq_true hk
    subst hc
    exact ⟨ep.state, rfl, hr⟩
  | iceConnectionStateChange state =>
    cases state with
    | new => exact ⟨ep.state, rfl, hr⟩
    | checking => exact ⟨ep.state, rfl, hr⟩
    | disconnected => exact (Bool.false_ne_true hk).elim
    | connected =>
      show ∃ state, (if ep.state ≠ .connected then _ else _ : _ × _).1 = _ ∧ _
      split
      · exact ⟨.connected, rfl, rfl⟩
      · exact ⟨ep.state, rfl, hr⟩
    | completed =>
      show ∃ state, (if ep.state ≠ .connected then _ else _ : _ × _).1 = _ ∧ _
      split
      · exact ⟨.connected, rfl, rfl⟩
      · exact ⟨ep.state, rfl, hr⟩

theorem handleEvents_routable {events : List RtcEvent} {ep : WebRtcPeer}
    (hr : (webRtc ep).routable = true)
    (hk : ∀ e ∈ events, e.keeps ep.codec = true) :
    ∃ state, (ep.handleEvents events).1 = { ep with state := state } ∧
      (webRtc { ep with state := state }).routable = true := by
  induction events generalizing ep with
  | nil => exact ⟨ep.state, rfl, hr⟩
  | cons e rest ih =>
    obtain ⟨state, hf, hs⟩ := handleEvent_routable hr (hk e (by simp))
    obtain ⟨state', hre, hs'⟩ := ih hs fun e' he' => hk e' (by simp [he'])
    refine ⟨state', ?_, hs'⟩
    show ((ep.handleEvent e).1.handleEvents rest).1 = _
    rw [hf, hre]

theorem handleEvent_unroutable {ep : WebRtcPeer} (e : RtcEvent)
    (hn : (LiveEndpoint.webRtc ep).routable = false) :
    emitWebrtcEvents (ep.handleEvent e).2 = true ∨
      (LiveEndpoint.webRtc (ep.handleEvent e).1).routable = false := by
  have hs : ep.state ≠ .connected := by
    intro h
    simp [LiveEndpoint.routable, LiveEndpoint.state, h] at hn
  have hr : emitWebrtcEvents [⟨ep.state, .connected⟩] = true := by
    simp [emitWebrtcEvents, hs]
  cases e with
  | connected => exact .inl hr
  | other => exact .inr hn
  | mediaAdded codec => exact .inr hn
  | iceConnectionStateChange state =>
    cases state with
    | new => exact .inr hn
    | checking => exact .inr hn
    | connected =>
      unfold handleEvent
      rw [if_pos hs]
      exact .inl hr
    | completed =>
      unfold handleEvent
      rw [if_pos hs]
      exact .inl hr
    | disconnected =>
      right
      unfold handleEvent
      dsimp only
      split
      · rfl
      · exact hn

theorem handleEvents_unroutable (events : List RtcEvent) {ep : WebRtcPeer}
    (hn : (webRtc ep).routable = false) :
    emitWebrtcEvents (ep.handleEvents events).2 = true ∨
      (webRtc (ep.handleEvents events).1).routable = false := by
  induction events generalizing ep with
  | nil => exact .inr hn
  | cons e rest ih =>
    show emitWebrtcEvents ((ep.handleEvent e).2 ++ ((ep.handleEvent e).1.handleEvents rest).2) =
        true ∨ (webRtc ((ep.handleEvent e).1.handleEvents rest).1).routable = false
    rw [emitWebrtcEvents_append]
    grind [handleEvent_unroutable]

theorem pollOutput_shown {ep : WebRtcPeer} {poll : Poll} (h : ep.Undisturbed poll) :
    (webRtc (ep.pollOutput poll).1).shown = (webRtc ep).shown ∨
      emitWebrtcEvents (ep.pollOutput poll).2 = true := by
  obtain ⟨he, hf⟩ := h
  show (webRtc (ep.handleEvents poll.events).1).shown = _ ∨
    emitWebrtcEvents (if poll.failed = true then [] else (ep.handleEvents poll.events).2) = true
  cases hfl : poll.failed with
  | true =>
    left
    rw [hf hfl]
    rfl
  | false =>
    cases hr : (webRtc ep).routable with
    | true =>
      obtain ⟨state, hen, hs⟩ := handleEvents_routable hr (he hr)
      left
      rw [hen]
      exact shown_eq rfl (hs.trans hr.symm) rfl
    | false =>
      rcases handleEvents_unroutable poll.events hr with hre | hen
      · exact .inr hre
      · exact .inl (shown_unroutable rfl hr hen)

end WebRtcPeer

/-! ## The media path of an RTP endpoint -/

namespace RtpEndpoint

structure SameRoute (ep ep' : RtpEndpoint) : Prop where
  state : ep'.state = ep.state
  direction : ep'.direction = ep.direction
  media : ep'.media = ep.media

theorem SameRoute.shown {ep ep' : RtpEndpoint} (h : ep.SameRoute ep') :
    (LiveEndpoint.rtp ep').shown = (LiveEndpoint.rtp ep).shown := by
  refine LiveEndpoint.shown_eq rfl ?_ ?_
  · show (decide (ep'.state = .connected) || decide (ep'.state = .playing)) =
      (decide (ep.state = .connected) || decide (ep.state = .playing))
    rw [h.state]
  simp only [LiveEndpoint.facts, LiveEndpoint.direction, LiveEndpoint.audioCodec,
    LiveEndpoint.sendPt, LiveEndpoint.opusSendProfile, LiveEndpoint.opusReceiveProfile,
    h.direction, h.media]
  rfl

theorem step_sameRoute (P : Primitives) (ep : RtpEndpoint) (ev : RtpEvent)
    (hm : ev.call.isMedia = true) : ep.SameRoute (ep.step P ev).1 := by
  have h := ep.step_cases P ev
  generalize ep.step P ev = result at h
  obtain ⟨ep', out⟩ := result
  cases h with
  | refused | switchover => exact ⟨rfl, rfl, rfl⟩
  | answered hc | described hc | reset hc =>
    rw [hc] at hm
    cases hm
  | rtp _ h | rtcp _ h => cases h <;> exact ⟨rfl, rfl, rfl⟩
  | rekeyed _ h => exact ⟨h.state, h.direction, h.media⟩
  | wrote h => exact ⟨h.state, h.direction, h.media⟩
  | adjusted hc => exact absurd hm (by rw [hc.2]; exact Bool.false_ne_true)

end RtpEndpoint

namespace RoutingState

variable {P : Primitives} {encodes : AudioCodec → OpusProfile → Bool} {s s' : RoutingState}

/-! ## Steps that leave the facets alone -/

theorem facet_put (s : RoutingState) (id : EndpointId) (ep : LiveEndpoint) (j : EndpointId) :
    facet (s.put id ep).endpoints j = if j = id then ep.shown else facet s.endpoints j := by
  unfold facet put
  by_cases hj : j = id
  · subst hj
    rw [if_pos rfl, lookup_insert]
    rfl
  · rw [if_neg hj, lookup_insert_ne hj]

theorem facet_of_lookup (hep : s.endpoints.lookup id = some ep) :
    facet s.endpoints id = ep.shown := by
  unfold facet
  rw [hep]
  rfl

theorem Alike.put (hep : s.endpoints.lookup id = some ep) (hs : ep'.shown = ep.shown) :
    Alike s (s.put id ep') where
  facet := by
    intro j
    rw [facet_put]
    split
    · rename_i hj
      subst hj
      exact hs.trans (facet_of_lookup hep).symm
    · rfl
  routing := rfl
  mixers := rfl
  playoutPolicy := rfl
  vadMonitors := rfl
  faxDetectors := rfl

theorem alike_mediaWork (s : RoutingState) (work : MediaWork) : Alike s (s.mediaWork P work) := by
  unfold mediaWork
  split
  · rename_i ep hep
    exact .put hep (ep.step_sameRoute P work.event work.media).shown
  · exact .refl s

theorem Current.mediaWork (h : Current encodes s) (works : List MediaWork) :
    Current encodes (works.foldl (RoutingState.mediaWork P) s) := by
  induction works generalizing s with
  | nil => exact h
  | cons work rest ih => exact ih (h.alike (alike_mediaWork s work))

/-! ## Steps that change tables -/

theorem Current.feedMixers (h : Current encodes s) (source : EndpointId) :
    Current encodes (s.feedMixers source) where
  __ := h
  mixed := by
    intro d mixer hm
    change (if d ∈ s.routing.routes source then (s.mixers d).map _ else s.mixers d) = some mixer
      at hm
    by_cases hr : d ∈ s.routing.routes source
    · rw [if_pos hr] at hm
      obtain ⟨old, hold, rfl⟩ := map_eq_some_iff.mp hm
      obtain ⟨hmu, ho, hs⟩ := h.mixed d old hold
      refine ⟨hmu, ho, ?_⟩
      have hso : source ∈ s.routing.sourcesFor d := by
        have hme : source ∈ s.routing.sources := h.source_of_mem hr
        exact Finset.mem_filter.mpr ⟨hme, hr⟩
      exact Finset.insert_subset hso hs
    · rw [if_neg hr] at hm
      exact h.mixed d mixer hm
  unmixed := by
    intro d output hn hmu ho
    change (if d ∈ s.routing.routes source then (s.mixers d).map _ else s.mixers d) = none at hn
    apply h.unmixed d output _ hmu ho
    by_cases hr : d ∈ s.routing.routes source
    · rw [if_pos hr] at hn
      exact map_eq_none_iff.mp hn
    · rw [if_neg hr] at hn
      exact hn

theorem Current.feedAll (h : Current encodes s) (fed : List EndpointId) :
    Current encodes (fed.foldl RoutingState.feedMixers s) := by
  induction fed generalizing s with
  | nil => exact h
  | cons source rest ih => exact ih (h.feedMixers source)

theorem Current.retap (h : Current encodes s) (vad fax : Finset EndpointId) : Current encodes
      { s with vadMonitors := vad, faxDetectors := fax }.recomputePlayoutPolicy where
  __ := h
  policy := fun id => policy_recomputed _ id

theorem routed_eq_none (ha : id ∉ s.endpoints) : routed s.endpoints id = none := by
  unfold routed facet
  rw [lookup_eq_none.mpr ha]

theorem Current.cleanup_absent (h : Current encodes s) (ha : id ∉ s.endpoints) :
    Current encodes (s.cleanupEndpointState id) where
  routing := h.routing
  mixed := by
    intro d mixer hm
    change (if d = id then none else (s.mixers d).map _) = some mixer at hm
    split at hm
    · cases hm
    obtain ⟨old, hold, rfl⟩ := map_eq_some_iff.mp hm
    obtain ⟨hmu, ho, hs⟩ := h.mixed d old hold
    exact ⟨hmu, ho, (Finset.erase_subset id old.sources).trans hs⟩
  unmixed := by
    intro d output hn hmu ho
    change (if d = id then none else (s.mixers d).map _) = none at hn
    have hne : d ≠ id := by
      rintro rfl
      have hso := h.routed_of_multi hmu
      rw [routed_eq_none ha] at hso
      exact Bool.false_ne_true hso
    rw [if_neg hne] at hn
    exact h.unmixed d output (map_eq_none_iff.mp hn) hmu ho
  policy := by
    intro j
    change (if j = id then none else s.playoutPolicy j).getD .bypass = _
    by_cases hj : j = id
    · subst hj
      rw [if_pos rfl]
      unfold playoutPolicyFor cleanupEndpointState
      rw [lookup_eq_none.mpr ha]
      rfl
    rw [if_neg hj, h.policy j]
    have ht : (s.cleanupEndpointState id).tapped j = s.tapped j := by
      simp [tapped, cleanupEndpointState, hj]
    unfold playoutPolicyFor
    rw [ht]
    rfl

theorem Current.handleRemoveEndpoint (h : Current encodes s) (id : EndpointId) :
    Current encodes (s.handleRemoveEndpoint encodes id) := by
  unfold RoutingState.handleRemoveEndpoint
  split
  · exact current_rebuilt _
  rename_i ha
  have he : Alike s { s with endpoints := s.endpoints.erase id } := by
    refine ⟨fun j => ?_, rfl, rfl, rfl, rfl, rfl⟩
    unfold facet
    by_cases hj : j = id
    · subst hj
      rw [lookup_eq_none.mpr ha, lookup_erase]
    · rw [lookup_erase_ne hj]
  exact (h.alike he).cleanup_absent (fun hme => (mem_erase.mp hme).1 rfl)

theorem Current.removeAll (h : Current encodes s) (ids : List EndpointId) :
    Current encodes (ids.foldl (RoutingState.handleRemoveEndpoint encodes) s) := by
  induction ids generalizing s with
  | nil => exact h
  | cons id rest ih => exact ih (h.handleRemoveEndpoint id)

theorem Current.put_buffering (h : Current encodes s) (hn : id ∉ s.endpoints) :
    Current encodes (s.put id (.file ⟨.buffering, 0⟩)) := by
  apply h.alike
  refine ⟨fun j => ?_, rfl, rfl, rfl, rfl, rfl⟩
  rw [facet_put]
  split
  · rename_i hj
    subst hj
    unfold facet
    rw [lookup_eq_none.mpr hn]
    rfl
  · rfl

/-! ## Commands -/

theorem put_same (hep : s.endpoints.lookup id = some ep) : Alike s (s.put id ep) :=
  .put hep rfl

section

variable (h : Current encodes s) (id : EndpointId) (now : Nat) (txKey : Vector UInt8 30)
  (sdp : Text)
include h

theorem Current.handleAcceptAnswer (stack : Except String RtcNegotiation) :
    Current encodes (s.handleAcceptAnswer P encodes id now txKey sdp stack) := by
  unfold RoutingState.handleAcceptAnswer
  cases hep : s.endpoints.lookup id with
  | none => exact h
  | some ep =>
    cases ep with
    | rtp ep =>
      dsimp only
      rcases ep.acceptAnswer_cases P now txKey sdp with ⟨e, hr⟩ | ⟨ep', valid, hr, -, -⟩
      · rw [hr]
        exact h.alike (put_same hep)
      · rw [hr]
        exact current_rebuilt _
    | webRtc ep =>
      cases stack with
      | ok n => exact current_rebuilt _
      | error e => exact h
    | file ep => exact h
    | tone state => exact h
    | bridge ep => exact h
    | webSocket ep => exact h

theorem Current.handleUpdateRemoteSdp (fresh : FreshSender) :
    Current encodes (s.handleUpdateRemoteSdp P encodes id now txKey sdp fresh) := by
  unfold RoutingState.handleUpdateRemoteSdp
  cases hep : s.endpoints.lookup id with
  | none => exact h
  | some ep =>
    cases ep with
    | rtp ep =>
      dsimp only
      rcases ep.updateRemoteSdp_cases P now txKey sdp with
        ⟨e, hr⟩ | ⟨ep', answer, hr, -⟩
      · rw [hr]
        exact h.alike (put_same hep)
      · rw [hr]
        exact current_rebuilt _
    | webRtc ep => exact h
    | file ep => exact h
    | tone state => exact h
    | bridge ep => exact h
    | webSocket ep => exact h

end

theorem Current.handleFileState (h : Current encodes s) (id : EndpointId)
    (before after : EndpointState) :
    Current encodes (s.handleFileState encodes id before after) := by
  grind [RoutingState.handleFileState, current_rebuilt]

theorem Current.handleCommand (h : Current encodes s) {cmd : LoopCommand}
    (hn : ∀ id, cmd = .createWithLocalFile id → id ∉ s.endpoints) :
    Current encodes (s.handleCommand P encodes cmd) := by
  cases cmd with
  | create id ep => exact current_rebuilt _
  | createWithLocalFile id => exact h.put_buffering (hn id rfl)
  | fileInitialized id result =>
    show Current encodes (s.handleFileInitialized encodes id result)
    unfold handleFileInitialized
    grind [current_rebuilt]
  | filePause id => exact h.handleFileState id .playing .paused
  | fileResume id => exact h.handleFileState id .paused .playing
  | acceptAnswer id now txKey sdp stack => exact h.handleAcceptAnswer id now txKey sdp stack
  | acceptOffer id stack =>
    show Current encodes (s.handleAcceptOffer encodes id stack)
    unfold handleAcceptOffer
    split
    · exact current_rebuilt _
    · exact h
  | updateRemoteSdp id now txKey sdp fresh => exact h.handleUpdateRemoteSdp id now txKey sdp fresh
  | updateDirection id update now fresh =>
    show Current encodes (s.handleUpdateDirection encodes id update now fresh)
    grind [handleUpdateDirection, current_rebuilt]
  | srtpRekey id key now => exact h.alike (alike_mediaWork s _)
  | attachWebSocketAudio id bound =>
    show Current encodes (s.handleAttachWebSocketAudio encodes id bound)
    grind [handleAttachWebSocketAudio, current_rebuilt]
  | webSocketDisconnected id =>
    show Current encodes (s.handleWebSocketDisconnected encodes id)
    grind [handleWebSocketDisconnected, current_rebuilt]
  | vadStart id => exact h.retap _ _
  | vadStop id => exact h.retap _ _
  | faxDetectStart id => exact h.retap _ _
  | faxDetectStop id => exact h.retap _ _
  | removeEndpoint id => exact h.handleRemoveEndpoint id
  | extractEndpoint id =>
    show Current encodes (s.handleExtractEndpoint encodes id)
    grind [handleExtractEndpoint, current_rebuilt]
  | insertEndpoint id ep vad fax =>
    show Current encodes (s.handleInsertEndpoint encodes id ep vad fax)
    unfold handleInsertEndpoint
    split
    · exact h
    · exact current_rebuilt _
  | other => exact h

/-! ## Polls -/

def Undisturbed (s : RoutingState) (x : EndpointId × Poll) : Prop :=
  ∀ ep, s.endpoints.lookup x.1 = some (.webRtc ep) → ep.Undisturbed x.2

theorem drain_alike {x : EndpointId × Poll} (h : s.Undisturbed x) :
    Alike s (s.drainWebrtcOutput x).1 ∨ emitWebrtcEvents (s.drainWebrtcOutput x).2 = true := by
  unfold drainWebrtcOutput
  split
  · rename_i ep hep
    rcases WebRtcPeer.pollOutput_shown (h ep hep) with hs | hr
    · exact .inl (.put hep hs)
    · exact .inr hr
  · exact .inl (.refl s)

theorem receive_alike {pkt : InboundPacket}
    (h : (s.handleInboundPacket P pkt).Undisturbed (pkt.endpointId, pkt.poll)) :
    Alike s (s.receive P pkt).1 ∨ emitWebrtcEvents (s.receive P pkt).2 = true := by
  have hp : Alike s (s.handleInboundPacket P pkt) := by
    unfold handleInboundPacket
    split
    · exact alike_mediaWork s _
    · exact .refl s
  rcases drain_alike h with hd | hr
  · exact .inl (hp.trans hd)
  · exact .inr hr

theorem pollPlayer_alike (s : RoutingState) (x : EndpointId × Bool) :
    Alike s (s.pollPlayer x).1 ∨ (s.pollPlayer x).2 = true := by
  unfold pollPlayer
  split
  · split
    · exact .inr rfl
    · exact .inl (.refl s)
  · split
    · exact .inr rfl
    · exact .inl (.refl s)
  · exact .inl (.refl s)

theorem run_alike {A O : Type} {step : RoutingState → A → RoutingState × O} {f : O → Bool}
    {C : RoutingState → A → Prop}
    (hs : ∀ s a, C s a → Alike s (step s a).1 ∨ f (step s a).2 = true) {inputs : List A}
    (hC : Along step (fun _ s a => C s a) s inputs) :
    Alike s (exec step s inputs) ∨
      (trace step s inputs).any (fun x => f x.2) = true := by
  refine along_induction
    (P := fun tr s' => Alike s s' ∨ tr.any (fun x => f x.2) = true) (.inl (.refl s)) ?_ hC
  intro tr s' a ha hr
  rw [any_append, Bool.or_eq_true]
  rcases hr with hr | hfl
  · grind [hr.trans]
  · exact .inr (.inl hfl)

theorem players_alike (s : RoutingState) (players : List (EndpointId × Bool)) :
    Alike s (exec pollPlayer s players) ∨
      (trace pollPlayer s players).any Prod.snd = true := by
  have ha : Along pollPlayer (fun _ _ _ => True) s players :=
    alongFrom_of_invariant (I := fun _ => True) (fun _ _ _ => trivial)
      (fun _ _ _ _ => trivial) [] trivial
  exact run_alike (f := fun ended => ended) (fun s x _ => pollPlayer_alike s x) ha

theorem emitWebrtcEvents_reported {A : Type} (tr : List (A × List StateChange)) :
    emitWebrtcEvents (reported tr) = tr.any fun x => emitWebrtcEvents x.2 := by
  unfold reported
  induction tr with
  | nil => rfl
  | cons x rest ih =>
    rw [flatMap_cons, emitWebrtcEvents_append, ih, any_cons]

/-! ## Turns of the loop -/

variable (P encodes)

structure Calm (s : RoutingState) (it : Iteration) : Prop where
  drawn : ∀ id, it.command = .createWithLocalFile id → id ∉ s.endpoints
  received : Along (receive P)
    (fun _ s pkt => (s.handleInboundPacket P pkt).Undisturbed (pkt.endpointId, pkt.poll))
    (s.handleCommand P encodes it.command) it.packets
  polled : Along drainWebrtcOutput (fun _ s x => s.Undisturbed x)
    (s.receiveAll P encodes it) it.polls

def turn (s : RoutingState) (it : Iteration) : RoutingState × Unit := (s.iterate P encodes it, ())

variable {P encodes}

theorem Current.rebuildIf (h : Current encodes s) {needed : Bool}
    (hr : Alike s s' ∨ needed = true) : Current encodes (s'.rebuildIf encodes needed) := by
  cases needed with
  | true => exact current_rebuilt s'
  | false =>
    rcases hr with ha | hn
    · exact h.alike ha
    · exact (Bool.false_ne_true hn).elim

theorem Current.receiveAll (h : Current encodes s) (hca : Calm P encodes s it) :
    Current encodes (s.receiveAll P encodes it) := by
  have hc : Current encodes (s.handleCommand P encodes it.command) :=
    h.handleCommand hca.drawn
  have hr := run_alike (fun _ _ hu => receive_alike hu) hca.received
  rw [← emitWebrtcEvents_reported] at hr
  exact hc.rebuildIf hr

theorem Current.pollAndRoute (h : Current encodes s)
    (hp : Along drainWebrtcOutput (fun _ s x => s.Undisturbed x) s it.polls) :
    Current encodes (s.pollAndRoute P encodes it) := by
  have hd := run_alike (fun _ _ hu => drain_alike hu) hp
  rw [← emitWebrtcEvents_reported] at hd
  have hpl := players_alike (exec drainWebrtcOutput s it.polls) it.players
  unfold RoutingState.pollAndRoute RoutingState.rebuildIf
  dsimp only
  split
  · exact current_rebuilt _
  rename_i hq
  rw [Bool.or_eq_true, not_or] at hq
  -- no flag was raised, so nothing but the mixers changed
  have hk := (hd.resolve_right hq.1).trans (hpl.resolve_right hq.2)
  exact ((h.alike hk).feedAll it.fed).mediaWork it.writes

theorem Current.iterate (h : Current encodes s) (hca : Calm P encodes s it) :
    Current encodes (s.iterate P encodes it) :=
  (((h.receiveAll hca).pollAndRoute hca.polled).removeAll it.expired).mediaWork it.closing

theorem current_new : Current encodes RoutingState.new where
  routing := rfl
  mixed := fun _ mixer h => (some_ne_none mixer h.symm).elim
  unmixed := fun d _ _ hmu => (Finset.notMem_empty d hmu).elim
  policy := fun _ => rfl

/-- At the end of every turn the tables are those of the endpoints as they are, and
an endpoint that is not connected or playing is nobody's source or destination. -/
theorem routing_current (P : Primitives) (encodes : AudioCodec → OpusProfile → Bool)
    (turns : List Iteration)
    (hcalm : Along (turn P encodes) (fun _ s it => Calm P encodes s it) .new turns) :
    Current encodes (exec (turn P encodes) .new turns) ∧
      ∀ id ep, (exec (turn P encodes) .new turns).endpoints.lookup id = some ep →
        ep.routable = false → (exec (turn P encodes) .new turns).routing.routes id = ∅ ∧
            ∀ src, id ∉ (exec (turn P encodes) .new turns).routing.routes src := by
  have hcurrent : Current encodes (exec (turn P encodes) .new turns) :=
    along_induction (P := fun _ s => Current encodes s) current_new
      (fun _ _ _ hcalm hcurrent => hcurrent.iterate hcalm) hcalm
  exact ⟨hcurrent, fun id ep hep hnot => hcurrent.unrouted hep hnot⟩

/-! ## Two callers -/

def samplePeer : LiveEndpoint :=
  .webRtc { state := .connecting, direction := .sendRecv, autoDirection := .sendRecv,
            codec := some ⟨"opus".toList, 111, 48000, 2⟩ }

def sampleJoin : List Iteration :=
  [{ arm := .command (.create 1 samplePeer) }, { arm := .command (.create 2 samplePeer) },
    { arm := .timeout,
      polls := [(1, { events := [.connected] }), (2, { events := [.connected] })] }]

def sampleLost : List Iteration :=
  sampleJoin ++
    [{ arm := .timeout, polls := [(1, { events := [.iceConnectionStateChange .disconnected] })] }]

theorem sampleConnected_undisturbed (s : RoutingState) (id : EndpointId) :
    s.Undisturbed (id, { events := [.connected] }) := by
  intro ep _
  refine ⟨?_, ?_⟩
  · intro _ e he
    cases mem_singleton.mp he
    rfl
  · intro hf
    cases hf

theorem sampleJoin_calm (P : Primitives) (encodes : AudioCodec → OpusProfile → Bool) :
    Along (turn P encodes) (fun _ s it => Calm P encodes s it) .new sampleJoin := by
  have hd : ∀ it ∈ sampleJoin, ∀ id, it.command ≠ .createWithLocalFile id := by
    intro it hit id h
    simp only [sampleJoin, mem_cons, not_mem_nil, or_false] at hit
    rcases hit with rfl | rfl | rfl <;> cases h
  refine ⟨⟨fun id h => (hd _ (by simp [sampleJoin]) id h).elim, trivial, trivial⟩,
    ⟨fun id h => (hd _ (by simp [sampleJoin]) id h).elim, trivial, trivial⟩,
    ⟨fun id h => (hd _ (by simp [sampleJoin]) id h).elim, trivial, ?_⟩, trivial⟩
  exact ⟨sampleConnected_undisturbed _ 1, sampleConnected_undisturbed _ 2, trivial⟩

theorem sampleJoin_current :
    (exec (turn .reference fun _ _ => true) .new sampleJoin).routing.routes 1 = {2} ∧
      Current (fun _ _ => true) (exec (turn .reference fun _ _ => true) .new sampleJoin) :=
  ⟨by decide +kernel, (routing_current _ _ sampleJoin (sampleJoin_calm _ _)).1⟩

def sampleAfterLoss : RoutingState :=
  exec (turn .reference fun _ _ => true) .new sampleLost

/-- A caller that is gone is still where the other one's audio goes. -/
theorem sampleLost_stale : (sampleAfterLoss.endpoints.lookup 1).map state = some .disconnected ∧
      1 ∈ sampleAfterLoss.routing.routes 2 ∧ 2 ∈ sampleAfterLoss.routing.routes 1 ∧
      ¬ Current (fun _ _ => true) sampleAfterLoss := by
  have hroute : (1 : EndpointId) ∈ sampleAfterLoss.routing.routes 2 := by decide +kernel
  refine ⟨by decide +kernel, hroute, by decide +kernel, ?_⟩
  intro h
  rw [h.routing] at hroute
  revert hroute
  decide +kernel

end RoutingState

end RtpBridge.Session
