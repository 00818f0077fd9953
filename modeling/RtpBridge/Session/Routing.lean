/-
Who hears whom in a session, and what follows from it.

The routing table is built from the endpoints that are connected or playing, with
their directions.  From the table and the codecs follow the mixers, one for every
destination with two or more sources, and the playout policy of every source.
`rebuildRouting` makes all three anew; `Current` says that they are what it would
make now.  They depend on an endpoint only through its `facet`, so a change that
leaves every facet alone leaves them current.

An endpoint is modelled by what these functions read.  Maps from endpoints to
derived data are functions: no entry is `none`, or the empty set for the routes.
-/
import RtpBridge.Session.WebRtc.Endpoint

namespace RtpBridge.Session

open Sdp List Option

variable {d dst id src : EndpointId}

/-! ## Codecs -/

inductive AudioCodec where
  | pcmu
  | g722
  | opus
  | l16 (sampleRate : UInt32)
deriving DecidableEq

def AudioCodec.fromName (name : Text) : Option AudioCodec :=
  let name := Text.toAsciiLowercase name
  if name == "pcmu".toList || name == "g711".toList || name == "g.711".toList then some .pcmu
  else if name == "g722".toList || name == "g.722".toList then some .g722
  else if name == "opus".toList then some .opus
  else none

def OpusProfile.permits (profile sender : OpusProfile) : Bool :=
  decide (profile.minPacketMs ≤ sender.minPacketMs) &&
    decide (sender.maxPacketMs ≤ profile.maxPacketMs) &&
    decide (sender.bitrate ≤ profile.bitrate) &&
    decide (sender.playbackRate ≤ profile.playbackRate) && (profile.stereo || !sender.stereo)

/-! ## Endpoints -/

structure WebRtcPeer where
  state : EndpointState
  direction : EndpointDirection
  autoDirection : EndpointDirection
  codec : Option NegotiatedCodec
  opusSendProfile : OpusProfile := {}
  opusReceiveProfile : OpusProfile := OpusProfile.advertisedDefault

structure FilePlayer where
  state : EndpointState
  sampleRate : UInt32

structure BridgeLink where
  direction : EndpointDirection
  autoDirection : EndpointDirection

structure WebSocketLink where
  state : EndpointState
  direction : EndpointDirection
  autoDirection : EndpointDirection
  sampleRate : UInt32
  connected : Bool

inductive LiveEndpoint
  | webRtc (ep : WebRtcPeer)
  | rtp (ep : RtpEndpoint)
  | file (ep : FilePlayer)
  | tone (state : EndpointState)
  | bridge (ep : BridgeLink)
  | webSocket (ep : WebSocketLink)

variable {ep : LiveEndpoint}

namespace LiveEndpoint

def state : LiveEndpoint → EndpointState
  | .webRtc ep => ep.state
  | .rtp ep => ep.state
  | .file ep => ep.state
  | .tone state => state
  | .bridge _ => .connected
  | .webSocket ep => ep.state

def direction : LiveEndpoint → EndpointDirection
  | .webRtc ep => ep.direction
  | .rtp ep => ep.direction.direction
  | .file _ | .tone _ => .sendOnly
  | .bridge ep => ep.direction
  | .webSocket ep => ep.direction

def isBridge : LiveEndpoint → Bool
  | .bridge _ => true
  | _ => false

def isWebRtc : LiveEndpoint → Bool
  | .webRtc _ => true
  | _ => false

def isRtp : LiveEndpoint → Bool
  | .rtp _ => true
  | _ => false

def routable (ep : LiveEndpoint) : Bool := ep.state = .connected || ep.state = .playing

def audioCodec : LiveEndpoint → Option AudioCodec
  | .rtp ep => ep.media.sendCodec.bind fun c => AudioCodec.fromName c.name
  | .webRtc ep => ep.codec.bind fun c => AudioCodec.fromName c.name
  | .file ep => some (.l16 ep.sampleRate)
  | .tone _ => some .pcmu
  | .bridge _ => some (.l16 48000)
  | .webSocket ep => some (.l16 ep.sampleRate)

def sendPt : LiveEndpoint → Option UInt8
  | .rtp ep => ep.media.sendCodec.map SdpCodec.pt
  | .webRtc ep => some ((ep.codec.map NegotiatedCodec.pt).getD 111)
  | .tone _ => some 0
  | .file _ | .bridge _ | .webSocket _ => some 127

def opusSendProfile : LiveEndpoint → OpusProfile
  | .rtp ep => (ep.media.sendCodec.map OpusProfile.fromCodec).getD {}
  | .webRtc ep => ep.opusSendProfile
  | _ => {}

def opusReceiveProfile : LiveEndpoint → OpusProfile
  | .rtp ep => ep.media.opusReceiveProfile
  | .webRtc ep => ep.opusReceiveProfile
  | _ => {}

end LiveEndpoint

/-! ## The facet of an endpoint -/

/-- How the playout policy treats a source.  Generators pace themselves, as does
what is not there. -/
inductive SourceKind where
  | generator
  | clockless
  | network
deriving DecidableEq

structure MediaFacts where
  direction : EndpointDirection
  isBridge : Bool
  isWebRtc : Bool
  isRtp : Bool
  audioCodec : Option AudioCodec
  sendPt : Option UInt8
  opusSendProfile : OpusProfile
  opusReceiveProfile : OpusProfile
deriving DecidableEq

namespace LiveEndpoint

def kind : LiveEndpoint → SourceKind
  | .webSocket _ | .bridge _ => .clockless
  | .file _ | .tone _ => .generator
  | .rtp _ | .webRtc _ => .network

def facts (ep : LiveEndpoint) : MediaFacts where
  direction := ep.direction
  isBridge := ep.isBridge
  isWebRtc := ep.isWebRtc
  isRtp := ep.isRtp
  audioCodec := ep.audioCodec
  sendPt := ep.sendPt
  opusSendProfile := ep.opusSendProfile
  opusReceiveProfile := ep.opusReceiveProfile

end LiveEndpoint

def MediaFacts.requiresTranscoding (source destination : MediaFacts) : Bool :=
  match source.audioCodec, destination.audioCodec with
  | some a, some b =>
    if a ≠ b then true
    else if a = .opus then
      !OpusProfile.permits destination.opusSendProfile source.opusReceiveProfile
    else false
  | _, _ => false

abbrev Endpoints := HashMap EndpointId LiveEndpoint

def facet (endpoints : Endpoints) (id : EndpointId) : SourceKind × Option MediaFacts :=
  match endpoints.lookup id with
  | none => (.generator, none)
  | some ep => (ep.kind, if ep.routable then some ep.facts else none)

def routed (endpoints : Endpoints) (id : EndpointId) : Option MediaFacts := (facet endpoints id).2

/-! ## The routing table -/

structure RouteEntry where
  id : EndpointId
  direction : EndpointDirection
  isBridge : Bool
deriving DecidableEq

namespace RouteEntry

def sends (e : RouteEntry) : Bool := e.direction ≠ .recvOnly && e.direction ≠ .inactive

def receives (e : RouteEntry) : Bool := e.direction ≠ .sendOnly && e.direction ≠ .inactive

def reaches (src dst : RouteEntry) : Bool :=
  dst.id ≠ src.id && dst.receives && !(src.isBridge && dst.isBridge)

end RouteEntry

structure RoutingTable where
  sources : Finset EndpointId
  routes : EndpointId → Finset EndpointId
  multiSourceDests : Finset EndpointId

namespace RoutingTable

protected def new : RoutingTable := ⟨∅, fun _ => ∅, ∅⟩

def ofRoutes (ids : Finset EndpointId)
    (routes : EndpointId → Finset EndpointId) : RoutingTable where
  sources := ids.filter fun src => routes src ≠ ∅
  routes := routes
  multiSourceDests := ids.filter fun d => 2 ≤ (ids.filter fun src => d ∈ routes src).card

def routesOf (endpoints : List RouteEntry) (src : EndpointId) : Finset EndpointId :=
  ((endpoints.filter fun dst =>
    endpoints.any fun e => e.id = src && e.sends && e.reaches dst).map RouteEntry.id).toFinset

def rebuild (endpoints : List RouteEntry) : RoutingTable :=
  ofRoutes (endpoints.map RouteEntry.id).toFinset (routesOf endpoints)

def destinations (t : RoutingTable) (source : EndpointId) : Option (Finset EndpointId) :=
  if source ∈ t.sources then some (t.routes source) else none

def sourcesFor (t : RoutingTable) (dest : EndpointId) : Finset EndpointId :=
  t.sources.filter fun src => dest ∈ t.routes src

theorem rebuild_congr {eps eps' : List RouteEntry} (h : ∀ e, e ∈ eps ↔ e ∈ eps') :
    rebuild eps = rebuild eps' := by
  have hi : (eps.map RouteEntry.id).toFinset = (eps'.map RouteEntry.id).toFinset := by
    ext id
    simp only [List.mem_toFinset, List.mem_map, h]
  have ha : ∀ p : RouteEntry → Bool, eps.any p = eps'.any p := by
    intro p
    rw [Bool.eq_iff_iff, List.any_eq_true, List.any_eq_true]
    simp only [h]
  have hr : routesOf eps = routesOf eps' := by
    ext id
    simp only [routesOf, List.mem_toFinset, List.mem_map, List.mem_filter, h, ha]
  unfold rebuild
  rw [hi, hr]

theorem exists_of_mem_routes {eps : List RouteEntry} (h : dst ∈ (rebuild eps).routes src) :
    ∃ e ∈ eps, ∃ e' ∈ eps, e.id = src ∧ e'.id = dst ∧ e.sends = true ∧ e.reaches e' = true := by
  have hm := mem_toFinset.mp h
  grind

end RoutingTable

/-! ## Mixers and playout -/

structure MixerOutput where
  codec : AudioCodec
  pt : UInt8
  profile : OpusProfile

structure DestinationMixer where
  output : MixerOutput
  sources : Finset EndpointId

namespace DestinationMixer

def matchesOutput (mixer : DestinationMixer) (output : MixerOutput) : Bool :=
  mixer.output.codec = output.codec && mixer.output.pt = output.pt &&
    (mixer.output.codec ≠ .opus || mixer.output.profile = output.profile)

def retainSources (mixer : DestinationMixer) (active : Finset EndpointId) : DestinationMixer :=
  { mixer with sources := mixer.sources ∩ active }

def removeSource (mixer : DestinationMixer) (id : EndpointId) : DestinationMixer :=
  { mixer with sources := mixer.sources.erase id }

end DestinationMixer

def MediaFacts.output (facts : MediaFacts) : Option MixerOutput :=
  facts.audioCodec.bind fun codec =>
    facts.sendPt.map fun pt => ⟨codec, pt, facts.opusSendProfile⟩

inductive PlayoutKind where
  | synth
  | tracked
deriving DecidableEq

inductive Policy where
  | bypass
  | engaged (kind : PlayoutKind)
deriving DecidableEq

structure RoutingState where
  endpoints : Endpoints
  routing : RoutingTable
  mixers : EndpointId → Option DestinationMixer
  playoutPolicy : EndpointId → Option Policy
  vadMonitors : Finset EndpointId
  faxDetectors : Finset EndpointId

namespace RoutingState

protected def new : RoutingState :=
  ⟨∅, .new, fun _ => none, fun _ => none, ∅, ∅⟩

def routeEntries (endpoints : Endpoints) : List RouteEntry :=
  endpoints.entries.filterMap fun entry =>
    if entry.2.routable then some ⟨entry.1, entry.2.direction, entry.2.isBridge⟩ else none

def tapped (s : RoutingState) (id : EndpointId) : Bool :=
  id ∈ s.vadMonitors || id ∈ s.faxDetectors

/-- `playout_policy_for`.  A relay is transparent when every destination is a
WebRTC endpoint with the source's own codec that hears nobody else. -/
def playoutPolicyFor (s : RoutingState) (id : EndpointId) : Policy :=
  match s.endpoints.lookup id with
  | none => .bypass
  | some ep =>
    match ep.kind with
    | .clockless => .engaged .synth
    | .generator => .bypass
    | .network =>
      match s.routing.destinations id with
      | none => if s.tapped id then .engaged .tracked else .bypass
      | some dests =>
        let mixed := decide (∃ d ∈ dests, d ∈ s.routing.multiSourceDests)
        let recoded := decide (∃ d ∈ dests, (s.endpoints.lookup d).any fun dest =>
          ep.facts.requiresTranscoding dest.facts || dest.isRtp)
        let allTransparent := decide (∀ d ∈ dests, (s.endpoints.lookup d).any fun dest =>
          dest.isWebRtc && !ep.facts.requiresTranscoding dest.facts)
        if !s.tapped id && !mixed && !recoded && allTransparent then .bypass
        else .engaged .tracked

def recomputePlayoutPolicy (s : RoutingState) : RoutingState :=
  { s with
    playoutPolicy := fun id =>
      if id ∈ s.endpoints then some (s.playoutPolicyFor id) else none }

def outputOf (s : RoutingState) (dest : EndpointId) : Option MixerOutput :=
  (s.endpoints.lookup dest).bind fun ep => ep.facts.output

variable (encodes : AudioCodec → OpusProfile → Bool)

def newMixer (output : MixerOutput) : Option DestinationMixer :=
  if encodes output.codec output.profile then some ⟨output, ∅⟩ else none

def rebuildMixers (s : RoutingState) : RoutingState :=
  let multi := s.routing.multiSourceDests
  { s with
    mixers := fun d =>
      let kept := (s.mixers d).filter fun mixer =>
        d ∈ multi && (s.outputOf d).any mixer.matchesOutput
      let made := if kept.isNone && d ∈ multi then (s.outputOf d).bind (newMixer encodes) else kept
      made.map fun mixer => mixer.retainSources (s.routing.sourcesFor d) }

def rebuildRouting (s : RoutingState) : RoutingState :=
  (rebuildMixers encodes
    { s with routing := .rebuild (routeEntries s.endpoints) }).recomputePlayoutPolicy

/-! ## Current tables -/

structure Current (s : RoutingState) : Prop where
  routing : s.routing = .rebuild (routeEntries s.endpoints)
  mixed : ∀ d mixer, s.mixers d = some mixer → d ∈ s.routing.multiSourceDests ∧
    (∃ output, s.outputOf d = some output ∧ mixer.matchesOutput output = true) ∧
    mixer.sources ⊆ s.routing.sourcesFor d
  unmixed : ∀ d output, s.mixers d = none → d ∈ s.routing.multiSourceDests →
    s.outputOf d = some output → encodes output.codec output.profile = false
  policy : ∀ id, (s.playoutPolicy id).getD .bypass = s.playoutPolicyFor id

theorem policy_recomputed (s : RoutingState) (id : EndpointId) :
    (s.recomputePlayoutPolicy.playoutPolicy id).getD .bypass = s.playoutPolicyFor id := by
  show ((if id ∈ s.endpoints then some (s.playoutPolicyFor id) else none).getD .bypass) = _
  by_cases hm : id ∈ s.endpoints
  · rw [if_pos hm]
    rfl
  rw [if_neg hm]
  unfold playoutPolicyFor
  rw [AList.lookup_eq_none.mpr hm]
  rfl

variable {encodes}

theorem mixer_cases {s : RoutingState} {mixer : DestinationMixer}
    (h : (s.rebuildMixers encodes).mixers d = some mixer) :
    ∃ (mixer' : DestinationMixer) (output : MixerOutput),
      mixer = mixer'.retainSources (s.routing.sourcesFor d) ∧ d ∈ s.routing.multiSourceDests ∧
        s.outputOf d = some output ∧ mixer'.matchesOutput output = true := by
  obtain ⟨mixer', hm, rfl⟩ := map_eq_some_iff.mp h
  cases hk : (s.mixers d).filter fun mixer =>
      d ∈ s.routing.multiSourceDests && (s.outputOf d).any mixer.matchesOutput with
  | some old =>
    rw [hk] at hm
    cases hm
    have ht := (filter_eq_some_iff.mp hk).2
    simp only [Bool.and_eq_true, decide_eq_true_eq] at ht
    cases ho : s.outputOf d with
    | none =>
      rw [ho] at ht
      exact (Bool.false_ne_true ht.2).elim
    | some output =>
      rw [ho] at ht
      exact ⟨mixer', output, rfl, ht.1, rfl, ht.2⟩
  | none =>
    rw [hk] at hm
    by_cases hmu : d ∈ s.routing.multiSourceDests
    · simp only [hmu] at hm
      obtain ⟨output, ho, hn⟩ := bind_eq_some_iff.mp hm
      unfold newMixer at hn
      split at hn
      · cases hn
        exact ⟨⟨output, ∅⟩, output, rfl, hmu, ho, by
          simp [DestinationMixer.matchesOutput]⟩
      · cases hn
    · simp [hmu] at hm

theorem not_encodes_of_none {s : RoutingState} {output : MixerOutput}
    (h : (s.rebuildMixers encodes).mixers d = none) (hmu : d ∈ s.routing.multiSourceDests)
    (ho : s.outputOf d = some output) : encodes output.codec output.profile = false := by
  have hm := map_eq_none_iff.mp h
  cases hk : (s.mixers d).filter fun mixer =>
      d ∈ s.routing.multiSourceDests && (s.outputOf d).any mixer.matchesOutput with
  | some old =>
    rw [hk] at hm
    simp at hm
  | none =>
    rw [hk] at hm
    simp only [isNone_none, hmu, decide_true, Bool.and_self, if_true, ho, bind_some, newMixer] at hm
    split at hm
    · cases hm
    · rename_i hn
      simpa using hn

theorem current_rebuilt (s : RoutingState) : Current encodes (s.rebuildRouting encodes) where
  routing := rfl
  mixed := by
    intro d mixer h
    obtain ⟨mixer', output, rfl, hmu, ho, hm⟩ := mixer_cases h
    exact ⟨hmu, ⟨output, ho, hm⟩, Finset.inter_subset_right⟩
  unmixed := fun d output h hmu ho => not_encodes_of_none h hmu ho
  policy := fun id => policy_recomputed _ id

/-! ## What the tables depend on -/

theorem routed_eq_some {endpoints : Endpoints} {facts : MediaFacts} :
    routed endpoints id = some facts ↔
      ∃ ep, endpoints.lookup id = some ep ∧ ep.routable = true ∧ facts = ep.facts := by
  unfold routed facet
  grind

theorem mem_routeEntries {endpoints : Endpoints} {e : RouteEntry} :
    e ∈ routeEntries endpoints ↔ ∃ facts, routed endpoints e.id = some facts ∧
      e.direction = facts.direction ∧ e.isBridge = facts.isBridge := by
  unfold routeEntries
  rw [mem_filterMap]
  constructor
  · rintro ⟨⟨id, ep⟩, hm, he⟩
    split at he
    · rename_i hr
      cases he
      exact ⟨ep.facts, routed_eq_some.mpr ⟨ep, AList.mem_lookup_iff.mpr hm, hr, rfl⟩, rfl, rfl⟩
    · cases he
  rintro ⟨facts, hro, hd, hb⟩
  obtain ⟨ep, hl, hr, rfl⟩ := routed_eq_some.mp hro
  refine ⟨⟨e.id, ep⟩, AList.mem_lookup_iff.mp hl, ?_⟩
  rw [if_pos hr]
  congr 1
  cases e
  simp only [RouteEntry.mk.injEq, true_and]
  exact ⟨hd.symm, hb.symm⟩

variable {s s' : RoutingState}

theorem Current.routed_of_mem (h : Current encodes s) (hm : dst ∈ s.routing.routes src) :
    (routed s.endpoints src).isSome ∧ (routed s.endpoints dst).isSome := by
  rw [h.routing] at hm
  obtain ⟨e, he, e', he', rfl, rfl, -, -⟩ := RoutingTable.exists_of_mem_routes hm
  obtain ⟨facts, hf, -, -⟩ := mem_routeEntries.mp he
  obtain ⟨facts', hf', -, -⟩ := mem_routeEntries.mp he'
  exact ⟨isSome_of_mem hf, isSome_of_mem hf'⟩

theorem Current.source_of_mem (h : Current encodes s) (hm : dst ∈ s.routing.routes src) :
    src ∈ s.routing.sources := by
  rw [h.routing] at hm ⊢
  obtain ⟨e, he, -, -, rfl, -⟩ := RoutingTable.exists_of_mem_routes hm
  refine Finset.mem_filter.mpr ⟨mem_toFinset.mpr (mem_map_of_mem he), ?_⟩
  exact Finset.ne_empty_of_mem hm

theorem Current.routed_of_multi (h : Current encodes s) (hmu : d ∈ s.routing.multiSourceDests) :
    (routed s.endpoints d).isSome := by
  rw [h.routing] at hmu
  have hid := mem_toFinset.mp (Finset.mem_filter.mp hmu).1
  obtain ⟨e, he, rfl⟩ := mem_map.mp hid
  obtain ⟨facts, hf, -, -⟩ := mem_routeEntries.mp he
  exact isSome_of_mem hf

theorem Current.unrouted (h : Current encodes s) (hep : s.endpoints.lookup id = some ep)
    (hno : ep.routable = false) : s.routing.routes id = ∅ ∧ ∀ src, id ∉ s.routing.routes src := by
  have hn : (routed s.endpoints id).isSome = false := by
    unfold routed facet
    rw [hep]
    dsimp only
    rw [hno]
    rfl
  constructor
  · rw [Finset.eq_empty_iff_forall_notMem]
    intro d hd
    have hs := (h.routed_of_mem hd).1
    rw [hn] at hs
    exact Bool.false_ne_true hs
  intro src hsr
  have hs := (h.routed_of_mem hsr).2
  rw [hn] at hs
  exact Bool.false_ne_true hs

structure Alike (s s' : RoutingState) : Prop where
  facet : ∀ id, facet s'.endpoints id = facet s.endpoints id
  routing : s'.routing = s.routing
  mixers : s'.mixers = s.mixers
  playoutPolicy : s'.playoutPolicy = s.playoutPolicy
  vadMonitors : s'.vadMonitors = s.vadMonitors
  faxDetectors : s'.faxDetectors = s.faxDetectors

theorem Alike.refl (s : RoutingState) : Alike s s := ⟨fun _ => rfl, rfl, rfl, rfl, rfl, rfl⟩

theorem Alike.trans {s'' : RoutingState} (h : Alike s s') (h' : Alike s' s'') : Alike s s'' where
  facet := fun id => (h'.facet id).trans (h.facet id)
  routing := h'.routing.trans h.routing
  mixers := h'.mixers.trans h.mixers
  playoutPolicy := h'.playoutPolicy.trans h.playoutPolicy
  vadMonitors := h'.vadMonitors.trans h.vadMonitors
  faxDetectors := h'.faxDetectors.trans h.faxDetectors

theorem Alike.routed (h : Alike s s') (id : EndpointId) :
    Session.routed s'.endpoints id = Session.routed s.endpoints id :=
  congrArg Prod.snd (h.facet id)

theorem Alike.routeEntries (h : Alike s s') : RoutingTable.rebuild (routeEntries s'.endpoints) =
      RoutingTable.rebuild (routeEntries s.endpoints) := by
  grind [RoutingTable.rebuild_congr, mem_routeEntries, h.routed]

theorem Alike.lookup (h : Alike s s') (hro : (Session.routed s.endpoints id).isSome) :
    ∃ ep ep', s.endpoints.lookup id = some ep ∧ s'.endpoints.lookup id = some ep' ∧
      ep'.facts = ep.facts := by
  obtain ⟨facts, hf⟩ := isSome_iff_exists.mp hro
  obtain ⟨ep, hep, -, heq⟩ := routed_eq_some.mp hf
  obtain ⟨ep', hep', -, heq'⟩ := routed_eq_some.mp ((h.routed id).trans hf)
  exact ⟨ep, ep', hep, hep', heq'.symm.trans heq⟩

theorem Alike.outputOf (h : Alike s s') (hro : (Session.routed s.endpoints d).isSome) :
    s'.outputOf d = s.outputOf d := by
  grind [h.lookup, RoutingState.outputOf]

theorem policy_of_network {dests : Finset EndpointId} (hep : s.endpoints.lookup id = some ep)
    (hk : ep.kind = .network) (hd : s.routing.destinations id = some dests) :
    s.playoutPolicyFor id =
      if (!s.tapped id && !decide (∃ d ∈ dests, d ∈ s.routing.multiSourceDests) &&
        !decide (∃ d ∈ dests, (s.endpoints.lookup d).any fun dest =>
          ep.facts.requiresTranscoding dest.facts || dest.facts.isRtp) &&
        decide (∀ d ∈ dests, (s.endpoints.lookup d).any fun dest =>
          dest.facts.isWebRtc && !ep.facts.requiresTranscoding dest.facts)) = true
      then .bypass else .engaged .tracked := by
  unfold playoutPolicyFor
  rw [hep]
  dsimp only
  rw [hk]
  rw [hd]
  rfl

theorem policy_of_kind (s : RoutingState) (id : EndpointId) :
    (facet s.endpoints id).1 = .generator ∧ s.playoutPolicyFor id = .bypass ∨
    (facet s.endpoints id).1 = .clockless ∧ s.playoutPolicyFor id = .engaged .synth ∨
    (facet s.endpoints id).1 = .network ∧ ∃ ep, s.endpoints.lookup id = some ep ∧
      ep.kind = .network := by
  unfold facet playoutPolicyFor
  grind

theorem Alike.tapped (h : Alike s s') (id : EndpointId) : s'.tapped id = s.tapped id := by
  unfold RoutingState.tapped
  rw [h.vadMonitors, h.faxDetectors]

theorem Alike.network_policy (h : Alike s s') (hc : Current encodes s) {ep' : LiveEndpoint}
    (hep : s.endpoints.lookup id = some ep) (hk : ep.kind = .network)
    (hep' : s'.endpoints.lookup id = some ep') (hk' : ep'.kind = .network) :
    s'.playoutPolicyFor id = s.playoutPolicyFor id := by
  cases hde : s.routing.destinations id with
  | none => grind [playoutPolicyFor, h.routing, h.tapped]
  | some dests =>
    have hr : dests = s.routing.routes id ∧ s.routing.routes id ≠ ∅ := by
      unfold RoutingTable.destinations at hde
      split at hde
      · rename_i hm
        refine ⟨(some.inj hde).symm, ?_⟩
        rw [hc.routing] at hm ⊢
        simpa [RoutingTable.rebuild, RoutingTable.ofRoutes] using (Finset.mem_filter.mp hm).2
      · cases hde
    have hro : ∀ d ∈ dests, (Session.routed s.endpoints id).isSome ∧
        (Session.routed s.endpoints d).isSome := by
      intro d hd
      rw [hr.1] at hd
      exact hc.routed_of_mem hd
    have hfa : ep'.facts = ep.facts := by
      obtain ⟨d, hd⟩ := Finset.nonempty_iff_ne_empty.mpr hr.2
      rw [← hr.1] at hd
      obtain ⟨e, e', he, he', heq⟩ := h.lookup (hro d hd).1
      rw [hep] at he
      rw [hep'] at he'
      cases he
      cases he'
      exact heq
    rw [policy_of_network hep hk hde,
      policy_of_network hep' hk' (h.routing ▸ hde), h.tapped, h.routing, hfa]
    have hsame : ∀ test : MediaFacts → Bool, ∀ d ∈ dests,
        (s'.endpoints.lookup d).any (fun dest => test dest.facts) =
          (s.endpoints.lookup d).any fun dest => test dest.facts :=
      fun test d hd => by
        obtain ⟨ep, ep', hep, hep', hf⟩ := h.lookup (hro d hd).2
        rw [hep, hep', any_some, any_some, hf]
    have hei : ∀ test : MediaFacts → Bool,
        decide (∃ d ∈ dests, (s'.endpoints.lookup d).any (fun dest => test dest.facts) = true) =
          decide (∃ d ∈ dests, (s.endpoints.lookup d).any (fun dest => test dest.facts) = true) :=
      fun test => decide_eq_decide.mpr (exists_congr fun d => and_congr_right fun hd => by
        rw [hsame test d hd])
    have hf : ∀ test : MediaFacts → Bool,
        decide (∀ d ∈ dests, (s'.endpoints.lookup d).any (fun dest => test dest.facts) = true) =
          decide (∀ d ∈ dests, (s.endpoints.lookup d).any (fun dest => test dest.facts) = true) :=
      fun test => decide_eq_decide.mpr (forall₂_congr fun d hd => by rw [hsame test d hd])
    have hre := hei fun facts => ep.facts.requiresTranscoding facts || facts.isRtp
    have ht := hf fun facts =>
      facts.isWebRtc && !ep.facts.requiresTranscoding facts
    rw [hre, ht]

theorem Alike.playoutPolicyFor (h : Alike s s') (hc : Current encodes s) (id : EndpointId) :
    s'.playoutPolicyFor id = s.playoutPolicyFor id := by
  have hki : (Session.facet s'.endpoints id).1 = (Session.facet s.endpoints id).1 :=
    congrArg Prod.fst (h.facet id)
  have ho := s'.policy_of_kind id
  rcases s.policy_of_kind id with ⟨hk, hp⟩ | ⟨hk, hp⟩ | ⟨hk, ep, hep, hn⟩
  · simp only [hki, hk, reduceCtorEq, true_and, false_and, or_false] at ho
    rw [hp, ho]
  · simp only [hki, hk, reduceCtorEq, true_and, false_and, or_false, false_or] at ho
    rw [hp, ho]
  simp only [hki, hk, reduceCtorEq, true_and, false_and, false_or] at ho
  obtain ⟨ep', hep', hn'⟩ := ho
  exact h.network_policy hc hep hn hep' hn'

theorem Current.alike (hc : Current encodes s) (h : Alike s s') : Current encodes s' where
  routing := (h.routing.trans hc.routing).trans h.routeEntries.symm
  mixed := by grind [h.mixers, hc.mixed, h.routing, h.outputOf, hc.routed_of_multi]
  unmixed := by
    intro d output hn hmu ho
    rw [h.mixers] at hn
    grind [h.routing, h.outputOf, hc.routed_of_multi, hc.unmixed]
  policy := by
    intro id
    rw [h.playoutPolicy, h.playoutPolicyFor hc]
    exact hc.policy id

end RoutingState

end RtpBridge.Session
