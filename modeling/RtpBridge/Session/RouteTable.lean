/-
The routing table as it is built, and audio over a net of bridged sessions.

`rebuild` of `session/routing.rs` walks the endpoints once for the routes and the routes once
for the destinations that need a mixer.  Its result is the relation of the endpoints that may
hear each other, whatever the order of the list and the table before.  A bridge hands what it
is sent to its peer in another session, which is a source there.  Bridges do not feed each
other, so audio goes over one bridge at most and never comes back, over every net of sessions.
-/
import RtpBridge.Base.HashSet
import RtpBridge.Session.Routing
import RtpBridge.Session.State

namespace RtpBridge.Session

open List Option AList

/-! ## The table -/

structure RouteTable where
  routes : HashMap EndpointId (HashSet EndpointId) := ∅
  multiSourceDests : HashSet EndpointId := ∅

namespace RouteTable

def destsOf (endpoints : List RouteEntry) (src : RouteEntry) : HashSet EndpointId :=
  HashSet.ofList ((endpoints.filter src.reaches).map RouteEntry.id)

def addRoutes (endpoints : List RouteEntry) (routes : HashMap EndpointId (HashSet EndpointId))
    (src : RouteEntry) : HashMap EndpointId (HashSet EndpointId) :=
  if src.direction = .recvOnly ∨ src.direction = .inactive then routes
  else
    let dests := destsOf endpoints src
    if dests.keys.isEmpty then routes else routes.insert src.id dests

def destSourceCount (routes : HashMap EndpointId (HashSet EndpointId)) : HashMap EndpointId Nat :=
  routes.entries.foldl (fun counts entry => entry.2.keys.foldl HashMap.count counts) ∅

def rebuild (t : RouteTable) (endpoints : List RouteEntry) : RouteTable :=
  let cleared : RouteTable := { t with routes := ∅ }
  let routes := endpoints.foldl (addRoutes endpoints) cleared.routes
  { routes := routes
    multiSourceDests := HashSet.ofList
      (((destSourceCount routes).entries.filter fun entry => 2 ≤ entry.2).map Sigma.fst) }

def destinations (t : RouteTable) (source : EndpointId) : Option (HashSet EndpointId) :=
  t.routes.lookup source

def isMultiSource (t : RouteTable) (dest : EndpointId) : Bool := dest ∈ t.multiSourceDests

def sourcesFor (t : RouteTable) (dest : EndpointId) : HashSet EndpointId :=
  HashSet.ofList ((t.routes.entries.filter fun entry => dest ∈ entry.2).map Sigma.fst)

def Routes (t : RouteTable) (src dst : EndpointId) : Prop :=
  ∃ dests, t.destinations src = some dests ∧ dst ∈ dests

/-! ## The routes -/

def entryOf (endpoints : List RouteEntry) (src : RouteEntry) : Option (HashSet EndpointId) :=
  if src.direction = .recvOnly ∨ src.direction = .inactive then none
  else if (destsOf endpoints src).keys.isEmpty then none
  else some (destsOf endpoints src)

theorem lookup_addRoutes (endpoints : List RouteEntry)
    (routes : HashMap EndpointId (HashSet EndpointId)) (src : RouteEntry) (s : EndpointId) :
    (addRoutes endpoints routes src).lookup s =
      if s = src.id then (entryOf endpoints src).or (routes.lookup s) else routes.lookup s := by
  unfold addRoutes entryOf
  by_cases hs : s = src.id
  · grind [lookup_insert]
  grind [lookup_insert_ne]

theorem lookup_foldl_addRoutes (endpoints rest : List RouteEntry)
    (hdistinct : (rest.map RouteEntry.id).Nodup) (routes : HashMap EndpointId (HashSet EndpointId))
    (s : EndpointId) :
    (rest.foldl (addRoutes endpoints) routes).lookup s =
      ((rest.find? fun e => e.id = s).bind (entryOf endpoints)).or (routes.lookup s) := by
  induction rest generalizing routes with
  | nil => rfl
  | cons e rest ih =>
    rw [map_cons, nodup_cons] at hdistinct
    rw [foldl_cons, ih hdistinct.2, lookup_addRoutes]
    grind

section Rebuilt

variable {endpoints : List RouteEntry} (hdistinct : (endpoints.map RouteEntry.id).Nodup)
  (t : RouteTable)
include hdistinct

theorem destinations_rebuild (s : EndpointId) : (t.rebuild endpoints).destinations s =
      (endpoints.find? fun e => e.id = s).bind (entryOf endpoints) := by
  show (endpoints.foldl (addRoutes endpoints) ∅).lookup s = _
  rw [lookup_foldl_addRoutes endpoints endpoints hdistinct]
  exact or_none

omit hdistinct in
theorem mem_destsOf {src : RouteEntry} {d : EndpointId} :
    d ∈ destsOf endpoints src ↔ ∃ dst ∈ endpoints, src.reaches dst = true ∧ dst.id = d := by
  grind [destsOf, HashSet.mem_ofList]

def Sends (e : RouteEntry) : Prop := e.direction = .sendRecv ∨ e.direction = .sendOnly

def Receives (e : RouteEntry) : Prop := e.direction = .sendRecv ∨ e.direction = .recvOnly

omit hdistinct in
theorem sends_iff (e : RouteEntry) :
    Sends e ↔ ¬ (e.direction = .recvOnly ∨ e.direction = .inactive) := by
  unfold Sends
  cases e.direction with
  | sendRecv => decide
  | sendOnly => decide
  | recvOnly => decide
  | inactive => decide

omit hdistinct in
theorem receives_iff (e : RouteEntry) : Receives e ↔ e.receives = true := by
  unfold Receives RouteEntry.receives
  cases e.direction with
  | sendRecv => decide
  | sendOnly => decide
  | recvOnly => decide
  | inactive => decide

omit hdistinct in
theorem reaches_iff (src dst : RouteEntry) : src.reaches dst = true ↔
      dst.id ≠ src.id ∧ Receives dst ∧ ¬ (src.isBridge = true ∧ dst.isBridge = true) := by
  unfold RouteEntry.reaches
  rw [Bool.and_eq_true, Bool.and_eq_true, decide_eq_true_eq, ← receives_iff, Bool.not_eq_true',
    Bool.and_eq_false_iff, and_assoc, not_and_or, Bool.not_eq_true, Bool.not_eq_true]

theorem routes_rebuild_iff (s d : EndpointId) : (t.rebuild endpoints).Routes s d ↔
      ∃ src ∈ endpoints, ∃ dst ∈ endpoints, src.id = s ∧ dst.id = d ∧ s ≠ d ∧ Sends src ∧
        Receives dst ∧ ¬ (src.isBridge = true ∧ dst.isBridge = true) := by
  unfold Routes
  rw [destinations_rebuild hdistinct]
  constructor
  · rintro ⟨dests, hbi, hm⟩
    obtain ⟨src, hf, he⟩ := bind_eq_some_iff.mp hbi
    obtain ⟨hsr, rfl⟩ := (find?_eq_some_iff_of_nodup hdistinct).mp hf
    unfold entryOf at he
    split at he
    · cases he
    rename_i hs
    split at he
    · cases he
    cases he
    obtain ⟨dst, hd, hre, rfl⟩ := mem_destsOf.mp hm
    obtain ⟨hne, hr, hb⟩ := (reaches_iff src dst).mp hre
    exact ⟨src, hsr, dst, hd, rfl, rfl, hne.symm, (sends_iff src).mpr hs, hr, hb⟩
  · rintro ⟨src, hsr, dst, hd, rfl, rfl, hne, hs, hr, hb⟩
    have hf : endpoints.find? (fun e => e.id = src.id) = some src :=
      (find?_eq_some_iff_of_nodup hdistinct).mpr ⟨hsr, rfl⟩
    have hm : dst.id ∈ destsOf endpoints src :=
      mem_destsOf.mpr ⟨dst, hd, (reaches_iff src dst).mpr ⟨hne.symm, hr, hb⟩, rfl⟩
    grind [entryOf, sends_iff, AList.mem_keys]

end Rebuilt

/-! ## Sources, and the destinations of several -/

theorem mem_sourcesFor (t : RouteTable) (s d : EndpointId) : s ∈ t.sourcesFor d ↔ t.Routes s d := by
  unfold sourcesFor Routes destinations
  rw [HashSet.mem_ofList, List.mem_map]
  constructor
  · rintro ⟨entry, hm, rfl⟩
    obtain ⟨he, hd⟩ := List.mem_filter.mp hm
    exact ⟨entry.2, AList.mem_lookup_iff.mpr he, of_decide_eq_true hd⟩
  · rintro ⟨dests, hl, hd⟩
    exact ⟨⟨s, dests⟩, List.mem_filter.mpr ⟨AList.mem_lookup_iff.mp hl, decide_eq_true hd⟩, rfl⟩

theorem count_destSourceCount (entries : List (Σ _ : EndpointId, HashSet EndpointId))
    (counts : HashMap EndpointId Nat) (d : EndpointId) :
    ((entries.foldl (fun counts entry => entry.2.keys.foldl HashMap.count counts) counts).lookup
        d).getD 0 =
      (counts.lookup d).getD 0 + (entries.filter fun entry => d ∈ entry.2).length := by
  induction entries generalizing counts with
  | nil => rfl
  | cons entry entries ih =>
    rw [foldl_cons, ih, HashMap.lookup_foldl_count, filter_cons]
    by_cases hd : d ∈ entry.2
    · rw [count_eq_one_of_mem entry.2.keys_nodup (mem_keys.mp hd), decide_eq_true hd,
        if_pos rfl, length_cons]
      omega
    rw [count_eq_zero_of_not_mem fun hm => hd (mem_keys.mpr hm),
      decide_eq_false hd, if_neg Bool.false_ne_true]
    omega

theorem size_sourcesFor (t : RouteTable) (d : EndpointId) :
    HashMap.size (t.sourcesFor d) = (t.routes.entries.filter fun entry => d ∈ entry.2).length := by
  have hn : ((t.routes.entries.filter fun entry => d ∈ entry.2).map Sigma.fst).Nodup :=
    t.routes.keys_nodup.sublist ((filter_sublist ..).map Sigma.fst)
  unfold sourcesFor
  rw [HashSet.size_ofList hn, length_map]

theorem isMultiSource_rebuild_iff (t : RouteTable) (endpoints : List RouteEntry) (d : EndpointId) :
    (t.rebuild endpoints).isMultiSource d = true ↔
      2 ≤ HashMap.size ((t.rebuild endpoints).sourcesFor d) := by
  obtain ⟨routes, hr⟩ : ∃ routes, routes = (t.rebuild endpoints).routes := ⟨_, rfl⟩
  have hc : ((destSourceCount routes).lookup d).getD 0 =
      (routes.entries.filter fun entry => d ∈ entry.2).length :=
    (count_destSourceCount routes.entries ∅ d).trans (Nat.zero_add _)
  have hm : (t.rebuild endpoints).isMultiSource d = true ↔
      ∃ n, (destSourceCount routes).lookup d = some n ∧ 2 ≤ n := by
    rw [hr]
    unfold isMultiSource rebuild
    rw [decide_eq_true_eq, HashSet.mem_ofList, List.mem_map]
    constructor
    · rintro ⟨entry, hme, rfl⟩
      obtain ⟨he, ht⟩ := mem_filter.mp hme
      exact ⟨entry.2, mem_lookup_iff.mpr he, of_decide_eq_true ht⟩
    · rintro ⟨n, hl, ht⟩
      exact ⟨⟨d, n⟩, mem_filter.mpr ⟨mem_lookup_iff.mp hl, decide_eq_true ht⟩, rfl⟩
  rw [hm, size_sourcesFor, ← hr, ← hc]
  cases (destSourceCount routes).lookup d with
  | none => grind
  | some n => grind

theorem rebuild_perm {endpoints endpoints' : List RouteEntry}
    (hdistinct : (endpoints.map RouteEntry.id).Nodup) (hp : endpoints.Perm endpoints')
    (t t' : RouteTable) :
    (∀ s d, (t.rebuild endpoints).Routes s d ↔ (t'.rebuild endpoints').Routes s d) ∧
      ∀ d, (t.rebuild endpoints).isMultiSource d = (t'.rebuild endpoints').isMultiSource d := by
  have hdistinct' : (endpoints'.map RouteEntry.id).Nodup :=
    (hp.map RouteEntry.id).nodup_iff.mp hdistinct
  have hr : ∀ s d, (t.rebuild endpoints).Routes s d ↔ (t'.rebuild endpoints').Routes s d := by
    intro s d
    rw [routes_rebuild_iff hdistinct, routes_rebuild_iff hdistinct']
    simp only [hp.mem_iff]
  refine ⟨hr, fun d => ?_⟩
  have hs : HashMap.size ((t.rebuild endpoints).sourcesFor d) =
      HashMap.size ((t'.rebuild endpoints').sourcesFor d) :=
    HashSet.size_congr fun s => by rw [mem_sourcesFor, mem_sourcesFor, hr]
  rw [Bool.eq_iff_iff, isMultiSource_rebuild_iff, isMultiSource_rebuild_iff, hs]

end RouteTable

/-! ## Bridged sessions -/

/-- Sessions and the bridges between them.  Both ends of a bridge are bridges to the tables of
their sessions, and the audio goes to another session. -/
structure Network where
  endpoints : SessionId → List RouteEntry
  bridge : SessionId → EndpointId → Option BridgeEndpoint
  distinct : ∀ s, ((endpoints s).map RouteEntry.id).Nodup
  flagged : ∀ s id b, bridge s id = some b → ∀ e ∈ endpoints s, e.id = id → e.isBridge = true
  apart : ∀ s id b, bridge s id = some b → b.remotePacketTx ≠ s
  paired : ∀ s id b, bridge s id = some b →
    ∀ e ∈ endpoints b.remotePacketTx, e.id = b.pairedEndpointId → e.isBridge = true

namespace Network

def unbridged (endpoints : SessionId → List RouteEntry)
    (distinct : ∀ s, ((endpoints s).map RouteEntry.id).Nodup) : Network where
  endpoints := endpoints
  bridge := fun _ _ => none
  distinct := distinct
  flagged := fun _ _ _ h => absurd h.symm (some_ne_none _)
  apart := fun _ _ _ h => absurd h.symm (some_ne_none _)
  paired := fun _ _ _ h => absurd h.symm (some_ne_none _)

def ids (net : Network) (s : SessionId) : List EndpointId := (net.endpoints s).map RouteEntry.id

def insertBridgeEndpoint (net : Network) (s : SessionId) (b : BridgeEndpoint)
    (direction : EndpointDirection) (hf : b.id ∉ net.ids s) (ha : b.remotePacketTx ≠ s)
    (hp : b.pairedEndpointId ∈ net.ids b.remotePacketTx →
      (net.bridge b.remotePacketTx b.pairedEndpointId).isSome) : Network where
  endpoints := fun s' =>
    if s' = s then ⟨b.id, direction, true⟩ :: net.endpoints s' else net.endpoints s'
  bridge := fun s' id => if s' = s ∧ id = b.id then some b else net.bridge s' id
  distinct := by
    intro s'
    split
    · rename_i hs
      subst hs
      exact nodup_cons.mpr ⟨hf, net.distinct s'⟩
    · exact net.distinct s'
  flagged := by
    intro s' id b' hb e he hid
    split at he
    · rename_i hs
      rcases mem_cons.mp he with rfl | he
      · rfl
      split at hb
      · rename_i hn
        rw [hs] at he
        exact absurd (mem_map.mpr ⟨e, he, hid.trans hn.2⟩) hf
      · exact net.flagged s' id b' hb e he hid
    grind [net.flagged]
  apart := by grind [net.apart]
  paired := by
    intro s' id b' hb e he hid
    have hold : e ∈ net.endpoints b'.remotePacketTx → e.isBridge = true := by
      intro hm
      split at hb
      · cases hb
        have hin : b.pairedEndpointId ∈ net.ids b.remotePacketTx :=
          mem_map.mpr ⟨e, hm, hid⟩
        obtain ⟨other, ho⟩ := isSome_iff_exists.mp (hp hin)
        exact net.flagged _ _ other ho e hm hid
      · exact net.paired s' id b' hb e hm hid
    grind

def removeEndpoint (net : Network) (s : SessionId) (id : EndpointId) : Network where
  endpoints := fun s' =>
    if s' = s then (net.endpoints s').filter fun e => e.id ≠ id else net.endpoints s'
  bridge := fun s' id' => if s' = s ∧ id' = id then none else net.bridge s' id'
  distinct := by
    intro s'
    split
    · exact (net.distinct s').sublist ((filter_sublist ..).map RouteEntry.id)
    · exact net.distinct s'
  flagged := by grind [net.flagged]
  apart := by grind [net.apart]
  paired := by grind [net.paired]

/-- `session.bridge`, with the ids it draws.  A session may refuse its end. -/
def handleSessionBridge (net : Network) (accepts : SessionId → Bool) (source target : SessionId)
    (direction : EndpointDirection) (a b : EndpointId) (ha : a ∉ net.ids source)
    (hb : b ∉ net.ids target) : Network × Except String (EndpointId × EndpointId) :=
  if hsame : target = source then (net, .error "Cannot bridge to the same session")
  else if accepts source = false then (net, .error "ENDPOINT_ERROR")
  else
    let bridgeA : BridgeEndpoint := ⟨a, target, b, target, target⟩
    let bridgeB : BridgeEndpoint := ⟨b, source, a, source, source⟩
    let inserted := net.insertBridgeEndpoint source bridgeA direction ha hsame
      fun hin => absurd hin hb
    if accepts target = false then (inserted.removeEndpoint source a, .error "ENDPOINT_ERROR")
    else
      (inserted.insertBridgeEndpoint target bridgeB direction
        (by
          have ho : inserted.ids target = net.ids target := by
            show ((if target = source then _ else _ : List RouteEntry)).map RouteEntry.id = _
            rw [if_neg hsame]
            rfl
          rw [ho]
          exact hb)
        (fun heq => hsame heq.symm)
        (fun _ => by
          show (if source = source ∧ a = a then some bridgeA else _).isSome = true
          rw [if_pos ⟨rfl, rfl⟩]
          rfl), .ok (a, b))

/-! ## Audio on its way -/

section Audio

variable (net : Network) (previous : SessionId → RouteTable)

def table (s : SessionId) : RouteTable := (previous s).rebuild (net.endpoints s)

/-- Audio of an origin is offered by an endpoint, after a number of bridges.  A bridge that it
is routed to hands it to its peer. -/
inductive Offered (origin : SessionId × EndpointId) : Nat → SessionId × EndpointId → Prop
  | origin : Offered origin 0 origin
  | cross {n s src dst b} : Offered origin n (s, src) → (net.table previous s).Routes src dst →
      net.bridge s dst = some b →
      Offered origin (n + 1) (b.remotePacketTx, b.pairedEndpointId)

def Arrives (origin : SessionId × EndpointId) (n : Nat) (place : SessionId × EndpointId) : Prop :=
  ∃ src, net.Offered previous origin n (place.1, src) ∧
    (net.table previous place.1).Routes src place.2

variable {net previous} {origin : SessionId × EndpointId} {n : Nat}
  {place : SessionId × EndpointId}

theorem not_routes_bridges {s : SessionId} {src dst : EndpointId} {b : BridgeEndpoint}
    (hsr : ∀ e ∈ net.endpoints s, e.id = src → e.isBridge = true)
    (hd : net.bridge s dst = some b) : ¬ (net.table previous s).Routes src dst := by
  intro hr
  obtain ⟨e, he, e', he', hid, hid', _, _, _, hn⟩ :=
    (RouteTable.routes_rebuild_iff (net.distinct s) (previous s) src dst).mp hr
  exact hn ⟨hsr e he hid, net.flagged s dst b hd e' he' hid'⟩

theorem Offered.cases (h : net.Offered previous origin n place) : n = 0 ∧ place = origin ∨
      n = 1 ∧ place.1 ≠ origin.1 ∧
        ∀ e ∈ net.endpoints place.1, e.id = place.2 → e.isBridge = true := by
  induction h with
  | origin => exact .inl ⟨rfl, rfl⟩
  | cross _ hr hb ih => grind [net.paired, net.apart, not_routes_bridges]

theorem Arrives.ne_origin (h : net.Arrives previous origin n place) : place ≠ origin := by
  obtain ⟨src, ho, hr⟩ := h
  intro heq
  rcases ho.cases with ⟨_, hsr⟩ | ⟨_, hs, _⟩
  · -- routed within the session of the origin, from the origin itself
    obtain ⟨_, _, _, _, _, _, hne, _⟩ :=
      (RouteTable.routes_rebuild_iff (net.distinct place.1) _ src place.2).mp hr
    apply hne
    rw [heq, ← hsr]
  · apply hs
    rw [heq]

end Audio

end Network

/-- The table is the relation of those who may hear each other, and no net of bridged sessions
carries audio over two bridges or back to where it came from. -/
theorem audio_never_loops (endpoints : List RouteEntry)
    (hdistinct : (endpoints.map RouteEntry.id).Nodup) (t : RouteTable) (net : Network)
    (previous : SessionId → RouteTable) (origin : SessionId × EndpointId) :
    (∀ s d, (t.rebuild endpoints).Routes s d ↔
      ∃ src ∈ endpoints, ∃ dst ∈ endpoints, src.id = s ∧ dst.id = d ∧ s ≠ d ∧
        (src.direction = .sendRecv ∨ src.direction = .sendOnly) ∧
        (dst.direction = .sendRecv ∨ dst.direction = .recvOnly) ∧
        ¬ (src.isBridge = true ∧ dst.isBridge = true)) ∧
      (∀ (endpoints' : List RouteEntry) (t' : RouteTable), endpoints.Perm endpoints' →
        (∀ s d, (t.rebuild endpoints).Routes s d ↔ (t'.rebuild endpoints').Routes s d) ∧
          ∀ d, (t.rebuild endpoints).isMultiSource d = (t'.rebuild endpoints').isMultiSource d) ∧
      (∀ d, (t.rebuild endpoints).isMultiSource d = true ↔
        2 ≤ HashMap.size ((t.rebuild endpoints).sourcesFor d)) ∧
      (∀ s d, s ∈ (t.rebuild endpoints).sourcesFor d ↔ (t.rebuild endpoints).Routes s d) ∧
      (∀ n place, net.Offered previous origin n place → n ≤ 1) ∧
      ∀ n place, net.Arrives previous origin n place → place ≠ origin := by
  refine ⟨RouteTable.routes_rebuild_iff hdistinct t, fun _ t' hperm =>
    RouteTable.rebuild_perm hdistinct hperm t t', RouteTable.isMultiSource_rebuild_iff t endpoints,
    RouteTable.mem_sourcesFor _, fun n place hoffered => ?_,
    fun n place => Network.Arrives.ne_origin⟩
  rcases hoffered.cases with ⟨rfl, _⟩ | ⟨rfl, _⟩
  · exact Nat.zero_le 1
  · exact Nat.le_refl 1

def sampleRoutes : List RouteEntry :=
  [⟨1, .sendRecv, false⟩, ⟨2, .sendRecv, false⟩, ⟨3, .sendRecv, true⟩]

def sampleCallers : Network :=
  .unbridged (fun s => [⟨s, .sendRecv, false⟩]) fun _ => nodup_singleton _

def sampleParallel : Network :=
  ((sampleCallers.handleSessionBridge (fun _ => true) 1 2 .sendRecv 12 21 (by decide)
    (by decide)).1.handleSessionBridge (fun _ => true) 1 2 .sendRecv 13 31 (by decide +kernel)
    (by decide +kernel)).1

def sampleRing : Network :=
  ((sampleParallel.handleSessionBridge (fun _ => true) 2 3 .sendRecv 23 32 (by decide +kernel)
    (by decide +kernel)).1.handleSessionBridge (fun _ => true) 3 1 .sendRecv 33 11
    (by decide +kernel) (by decide +kernel)).1

theorem sampleRing_never_loops : (sampleRoutes.map RouteEntry.id).Nodup ∧
      (RouteTable.rebuild {} sampleRoutes).isMultiSource 3 = true ∧
      (sampleRing.table (fun _ => {}) 1).Routes 1 11 ∧
      ∀ n place, sampleRing.Arrives (fun _ => {}) (1, 1) n place → place ≠ (1, 1) :=
  ⟨by decide, by decide +kernel, ⟨_, rfl, by decide +kernel⟩,
    (audio_never_loops sampleRoutes (by decide) {} sampleRing (fun _ => {}) (1, 1)).2.2.2.2.2⟩

end RtpBridge.Session
