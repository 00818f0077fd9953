/-
Injected key presses of `session/session_dtmf.rs`: building the packets of a digit and
sending them one every twenty milliseconds.
-/
import RtpBridge.Media.DtmfReports
import RtpBridge.Session.Timeline

namespace RtpBridge.Session

open Srtp Sdp Rtp Wire Machine Dtmf List

variable {ep : WebRtcEndpoint} {id : EndpointId} {ts : UInt32} {ws : List RtpWrite} {P : Primitives}

inductive DtmfEndpoint where
  | webRtc (ep : WebRtcEndpoint)
  | rtp (ep : RtpEndpoint)
  | file
  | tone
  | bridge
  | webSocket

def DtmfEndpoint.telephoneEventPt : DtmfEndpoint → Option UInt8
  | .webRtc _ => some 101
  | .rtp ep => ep.media.telephoneEventPt
  | _ => none

def DtmfEndpoint.telephoneEventClockRate : DtmfEndpoint → UInt32
  | .webRtc _ => 48000
  | .rtp ep => ep.media.telephoneEventClockRate
  | _ => 8000

abbrev DtmfEndpoints := HashMap EndpointId DtmfEndpoint

structure PendingDtmfInjection where
  endpointId : EndpointId
  packets : List RoutedRtpPacket
  nextIndex : Nat
  nextSend : Nat

variable {injection : PendingDtmfInjection}

def injectionInterval : Nat := 20 * 10 ^ 6

def routedDtmfPacket (endpointId : EndpointId) (tePt : UInt8) (timestamp ssrc : UInt32)
    (baseSeq : UInt16) (i : Nat) (packet : DtmfPacket) : RoutedRtpPacket :=
  { sourceEndpointId := endpointId, payloadType := tePt,
    sequenceNumber := baseSeq + UInt16.ofNat i, timestamp := timestamp, ssrc := ssrc,
    marker := packet.marker, payload := packet.payload }

def buildDtmfInjection (endpoints : DtmfEndpoints) (existing : Option PendingDtmfInjection)
    (endpointId : EndpointId) (digit : Char) (durationMs : UInt32) (volume : UInt8)
    (timestamp ssrc : UInt32) (baseSeq : UInt16) (now : Nat) :
    Except String PendingDtmfInjection :=
  if existing.isSome then .error "DTMF injection already in progress"
  else
    match endpoints.lookup endpointId with
    | none => .error "Endpoint not found"
    | some .file | some .tone => .error "Cannot inject DTMF into file endpoint"
    | some ep =>
      match ep.telephoneEventPt with
      | none => .error "No telephone-event PT negotiated"
      | some tePt =>
        match DtmfGenerator.generate digit durationMs volume ep.telephoneEventClockRate 20 with
        | none => .error ("Invalid DTMF digit: " ++ digit.toString)
        | some packets =>
          .ok { endpointId := endpointId, packets := packets.mapIdx
                  (routedDtmfPacket endpointId tePt timestamp ssrc baseSeq),
                nextIndex := 0, nextSend := now }

inductive DtmfWrite where
  | webRtc (result : Except String RtpWrite)
  | rtp (w : RtpEndpoint.Written)
  | skipped

def writeDtmf (P : Primitives) (endpoints : DtmfEndpoints) (id : EndpointId)
    (packet : RoutedRtpPacket) (sendResult : Except String Unit) : DtmfEndpoints × DtmfWrite :=
  match endpoints.lookup id with
  | some (.webRtc ep) =>
    let (ep, result) := ep.writeRtp packet
    (endpoints.insert id (.webRtc ep), .webRtc result)
  | some (.rtp ep) =>
    let (ep, w) := ep.writeRtp P packet sendResult
    (endpoints.insert id (.rtp ep), .rtp w)
  | _ => (endpoints, .skipped)

def drainDue (P : Primitives) (id : EndpointId) (now : Nat) (sendResult : Except String Unit) :
    List RoutedRtpPacket → Nat → DtmfEndpoints → DtmfEndpoints × Nat × List DtmfWrite
  | [], nextSend, endpoints => (endpoints, nextSend, [])
  | packet :: rest, nextSend, endpoints =>
    if nextSend ≤ now then
      let (endpoints, w) := writeDtmf P endpoints id packet sendResult
      let (endpoints, nextSend, ws) :=
        drainDue P id now sendResult rest (nextSend + injectionInterval) endpoints
      (endpoints, nextSend, w :: ws)
    else (endpoints, nextSend, [])

def drainDtmfInjection (P : Primitives) (injection : PendingDtmfInjection)
    (endpoints : DtmfEndpoints) (now : Nat) (sendResult : Except String Unit) :
    PendingDtmfInjection × DtmfEndpoints × List DtmfWrite × Bool :=
  let (endpoints, nextSend, ws) := drainDue P injection.endpointId now sendResult
    (injection.packets.drop injection.nextIndex) injection.nextSend endpoints
  let injection :=
    { injection with nextIndex := injection.nextIndex + ws.length, nextSend := nextSend }
  (injection, endpoints, ws, decide (injection.packets.length ≤ injection.nextIndex))

/-! ## The packets of a press on a WebRTC endpoint -/

structure WebRtcEndpoint.Connected (ep : WebRtcEndpoint) : Prop where
  mid : ep.audioMid.isSome
  sender : ep.rtc.txStream = true

theorem WebRtcEndpoint.Connected.write (h : ep.Connected) (packet : RoutedRtpPacket) :
    (ep.writeRtp packet).1.Connected ∧
      ∃ w, (ep.writeRtp packet).2 = .ok w ∧ w.payload = packet.payload := by
  obtain ⟨hr, hmi⟩ := ep.writeRtp_rtc packet
  refine ⟨⟨by rw [hmi]; exact h.mid, by rw [hr]; exact h.sender⟩, ?_⟩
  grind [WebRtcEndpoint.writeRtp, h.mid, h.sender]

structure Injected (id : EndpointId) (ts : UInt32) (packets : List RoutedRtpPacket) : Prop where
  source : ∀ p ∈ packets, p.sourceEndpointId = id ∧ p.timestamp = ts
  marked : ∃ first rest, packets = first :: rest ∧ first.marker = true ∧
    ∀ p ∈ rest, p.marker = false

structure Sending (id : EndpointId) (ts : UInt32) (packets : List RoutedRtpPacket)
    (ep : WebRtcEndpoint) (ws : List RtpWrite) : Prop where
  connected : ep.Connected
  bound : ws.length ≤ packets.length
  payloads : ws.map RtpWrite.payload = (packets.take ws.length).map RoutedRtpPacket.payload
  markers : ws.map RtpWrite.marker = (packets.take ws.length).map RoutedRtpPacket.marker
  stamped : ∃ out, (∀ w ∈ ws, w.timestamp = out) ∧
    (0 < ws.length → ws.length < packets.length → ep.timeline.StandsAt id ts out)

theorem Sending.next {packets : List RoutedRtpPacket} (h : Sending id ts packets ep ws)
    (hi : Injected id ts packets) {p : RoutedRtpPacket} (hp : packets[ws.length]? = some p) :
    ∃ w, (ep.writeRtp p).2 = .ok w ∧ Sending id ts packets (ep.writeRtp p).1 (ws ++ [w]) := by
  obtain ⟨hc, w, hw, hpa⟩ := h.connected.write p
  obtain ⟨ha, -, -⟩ := WebRtcEndpoint.writeRtp_stamped hw
  obtain ⟨hl, hg⟩ := List.getElem?_eq_some_iff.mp hp
  obtain ⟨hs, hts⟩ := hi.source p (hg ▸ getElem_mem hl)
  rw [hs, hts] at ha
  have ht : packets.take (ws ++ [w]).length = packets.take ws.length ++ [p] := by
    rw [length_append, length_singleton, take_add_one, hp, Option.toList_some]
  obtain ⟨out, ho, hst⟩ := h.stamped
  -- the first packet opens the press, every other one repeats its timestamp
  have hm : w.marker = p.marker ∧ ∀ v ∈ ws, v.timestamp = w.timestamp := by
    cases ws with
    | nil =>
      obtain ⟨first, rest, rfl, hf, -⟩ := hi.marked
      cases Option.some.inj hp
      rw [hf] at ha ⊢
      exact ⟨ha.keeps_marker, by simp⟩
    | cons v rest =>
      obtain ⟨hsame, hm⟩ := (hst (Nat.succ_pos _) hl).repeats ha
      exact ⟨hm, fun u hu => (ho u hu).trans hsame.symm⟩
  refine ⟨w, hw, hc, ?_, ?_, ?_, w.timestamp, fun v hv => ?_, fun _ _ => ha.standsAt⟩
  · rw [length_append, length_singleton]
    omega
  · rw [ht, map_append, h.payloads]
    simp [hpa]
  · rw [ht, map_append, h.markers]
    simp [hm.1]
  grind

/-! ## Draining -/

theorem writeDtmf_webRtc (P : Primitives) {endpoints : DtmfEndpoints}
    (hep : endpoints.lookup id = some (.webRtc ep)) (packet : RoutedRtpPacket)
    (sendResult : Except String Unit) :
    (writeDtmf P endpoints id packet sendResult).1.lookup id =
        some (.webRtc (ep.writeRtp packet).1) ∧
      (writeDtmf P endpoints id packet sendResult).2 = .webRtc (ep.writeRtp packet).2 := by
  simp only [writeDtmf, hep]
  exact ⟨AList.lookup_insert endpoints, trivial⟩

theorem Sending.drainDue {packets : List RoutedRtpPacket} (hi : Injected id ts packets)
    (now : Nat) (sendResult : Except String Unit) {rest : List RoutedRtpPacket} :
    ∀ {ep : WebRtcEndpoint} {ws : List RtpWrite} {endpoints : DtmfEndpoints} (nextSend : Nat),
      Sending id ts packets ep ws → endpoints.lookup id = some (.webRtc ep) →
      rest = packets.drop ws.length →
      ∃ ep' new, Sending id ts packets ep' (ws ++ new) ∧
        (Session.drainDue P id now sendResult rest nextSend endpoints).1.lookup id =
          some (.webRtc ep') ∧
        (Session.drainDue P id now sendResult rest nextSend endpoints).2.1 =
          nextSend + new.length * injectionInterval ∧
        (Session.drainDue P id now sendResult rest nextSend endpoints).2.2 =
          new.map fun w => .webRtc (.ok w) := by
  induction rest with
  | nil =>
    intro ep ws endpoints nextSend h hep _
    exact ⟨ep, [], by simpa using h, hep, by simp [Session.drainDue], rfl⟩
  | cons p rest ih =>
    intro ep ws endpoints nextSend h hep hr
    by_cases hd : nextSend ≤ now
    · have hp : packets[ws.length]? = some p := by
        rw [← List.head?_drop, ← hr, List.head?_cons]
      obtain ⟨w, hw, hn⟩ := h.next hi hp
      obtain ⟨hl, hwi⟩ := writeDtmf_webRtc P hep p sendResult
      have hr' : rest = packets.drop (ws ++ [w]).length := by
        rw [length_append, ← drop_drop, ← hr]
        rfl
      obtain ⟨ep', new, hs, hl', hse, hwr⟩ :=
        ih (nextSend + injectionInterval) hn hl hr'
      grind [Session.drainDue]
    · refine ⟨ep, [], by simpa using h, ?_, ?_, ?_⟩
      · simpa only [Session.drainDue, if_neg hd] using hep
      · simp [Session.drainDue, if_neg hd]
      · simp [Session.drainDue, if_neg hd]

theorem drainDue_all (P : Primitives) (id : EndpointId) {now : Nat}
    (sendResult : Except String Unit) (rest : List RoutedRtpPacket) :
    ∀ {nextSend : Nat} (endpoints : DtmfEndpoints),
      nextSend + rest.length * injectionInterval ≤ now →
      (drainDue P id now sendResult rest nextSend endpoints).2.2.length = rest.length := by
  induction rest with
  | nil => exact fun _ _ => rfl
  | cons p rest ih =>
    intro nextSend endpoints hl
    rw [length_cons, Nat.succ_mul] at hl
    rw [drainDue, if_pos (by omega)]
    simp only [length_cons]
    rw [ih _ (by omega)]

/-! ## The session loop -/

inductive InjectionEvent where
  | drain (now : Nat) (sendResult : Except String Unit)
  | audio (packet : RoutedRtpPacket) (sendResult : Except String Unit)

/-- A call of the session loop, or an audio packet written to the endpoint of the
injection; the output is what was written of the injection. -/
def injectionStep (P : Primitives) (s : DtmfEndpoints × PendingDtmfInjection) :
    InjectionEvent → (DtmfEndpoints × PendingDtmfInjection) × List DtmfWrite
  | .drain now sendResult =>
    let (injection, endpoints, ws, _) := drainDtmfInjection P s.2 s.1 now sendResult
    ((endpoints, injection), ws)
  | .audio packet sendResult =>
    (((writeDtmf P s.1 s.2.endpointId packet sendResult).1, s.2), [])

def NotBetween (s : DtmfEndpoints × PendingDtmfInjection) : InjectionEvent → Prop
  | .drain _ _ => True
  | .audio _ _ => s.2.nextIndex = 0 ∨ s.2.packets.length ≤ s.2.nextIndex

structure Draining (injection : PendingDtmfInjection) (ts : UInt32)
    (tr : List (InjectionEvent × List DtmfWrite)) (s : DtmfEndpoints × PendingDtmfInjection)
    (ep : WebRtcEndpoint) (ws : List RtpWrite) : Prop where
  lookup : s.1.lookup injection.endpointId = some (.webRtc ep)
  sending : Sending injection.endpointId ts injection.packets ep ws
  writes : tr.flatMap Prod.snd = ws.map fun w => .webRtc (.ok w)
  pending : s.2 = { injection with
    nextIndex := ws.length, nextSend := injection.nextSend + ws.length * injectionInterval }

theorem Draining.step {tr : List (InjectionEvent × List DtmfWrite)}
    {s : DtmfEndpoints × PendingDtmfInjection} (h : Draining injection ts tr s ep ws)
    (hi : Injected injection.endpointId ts injection.packets) {ev : InjectionEvent}
    (hb : NotBetween s ev) :
    ∃ ep' ws', Draining injection ts (tr ++ [(ev, (injectionStep P s ev).2)])
      (injectionStep P s ev).1 ep' ws' := by
  cases ev with
  | drain now sendResult =>
    obtain ⟨ep', new, hs, hl, hse, hwr⟩ :=
      Sending.drainDue (P := P) hi now sendResult s.2.nextSend h.sending h.lookup rfl
    simp only [injectionStep, drainDtmfInjection, h.pending] at hl hse hwr ⊢
    refine ⟨ep', ws ++ new, hl, hs, ?_, ?_⟩
    · rw [flatMap_append, h.writes, hwr]
      simp
    · rw [hse, hwr]
      simp only [length_map, length_append, Nat.add_mul, Nat.add_assoc]
  | audio packet sendResult =>
    obtain ⟨hl, -⟩ := writeDtmf_webRtc P h.lookup packet sendResult
    simp only [injectionStep, NotBetween, h.pending] at hb ⊢
    refine ⟨(ep.writeRtp packet).1, ws, hl, ?_, by simpa using h.writes, rfl⟩
    obtain ⟨out, ho, -⟩ := h.sending.stamped
    exact ⟨(h.sending.connected.write packet).1, h.sending.bound, h.sending.payloads,
      h.sending.markers, out, ho, fun hst hm => by omega⟩

theorem Draining.finishes {tr : List (InjectionEvent × List DtmfWrite)}
    {s : DtmfEndpoints × PendingDtmfInjection} (h : Draining injection ts tr s ep ws) {t : Nat}
    (hl : injection.nextSend + injection.packets.length * injectionInterval ≤ t)
    (sendResult : Except String Unit) :
    (injectionStep P s (.drain t sendResult)).1.2.nextIndex = injection.packets.length := by
  have hb := h.sending.bound
  have hs : injection.packets.length * injectionInterval = ws.length * injectionInterval +
        (injection.packets.length - ws.length) * injectionInterval := by
    rw [← Nat.add_mul]
    congr 1
    omega
  simp only [injectionStep, drainDtmfInjection, h.pending]
  rw [drainDue_all]
  · rw [length_drop]
    omega
  · rw [length_drop]
    omega

theorem injected_of_press {eventId : UInt8} {packets : List DtmfPacket}
    (h : DtmfGenerator.Press eventId packets) (id : EndpointId) (tePt : UInt8)
    (timestamp ssrc : UInt32) (baseSeq : UInt16) :
    Injected id timestamp
      (packets.mapIdx (routedDtmfPacket id tePt timestamp ssrc baseSeq)) := by
  constructor
  · intro p hp
    obtain ⟨i, hi, rfl⟩ := mem_mapIdx.mp hp
    exact ⟨rfl, rfl⟩
  obtain ⟨first, rest, rfl, hf, hr⟩ := h.marked
  rw [mapIdx_cons]
  refine ⟨_, _, rfl, hf, fun p hp => ?_⟩
  obtain ⟨i, hi, rfl⟩ := mem_mapIdx.mp hp
  exact hr _ (getElem_mem hi)

def arrivals (times : List Nat) (ws : List RtpWrite) : List (Nat × Bytes × UInt32) :=
  (times.zip ws).map fun x => (x.1, x.2.payload, x.2.timestamp)

theorem arrivals_one_report {eventId : UInt8} {packets : List DtmfPacket}
    (hpr : DtmfGenerator.Press eventId packets) (hid : eventId ≤ 15)
    (hpy : ws.map RtpWrite.payload = packets.map DtmfPacket.payload) {out : UInt32}
    (hou : ∀ w ∈ ws, w.timestamp = out) (clockRate : UInt32) {times : List Nat}
    (hle : times.length = ws.length) (hg : times.IsChain fun a b => b - a ≤ dtmfTimeout) :
    ∃ event, (trace (detect clockRate) {} (arrivals times ws)).filterMap Prod.snd = [event] ∧
      eventIdToDigit eventId = some event.digit := by
  obtain ⟨opening, closing, hs, ht, ho, hc⟩ := hpr.shape
  have hfs : (arrivals times ws).map Prod.fst = times := by
    rw [arrivals, map_map]
    exact map_fst_zip (Nat.le_of_eq hle)
  have hfe : (arrivals times ws).map (fun x => x.2.1) =
      opening.map DtmfPacket.payload ++ closing.map DtmfPacket.payload := by
    have hma : (arrivals times ws).map (fun x => x.2.1) =
        ((times.zip ws).map Prod.snd).map RtpWrite.payload := by
      rw [arrivals, map_map, map_map]
      rfl
    rw [hma, map_snd_zip (Nat.le_of_eq hle.symm), hpy, hs, map_append]
  have hts : ∀ x ∈ arrivals times ws, x.2.2 = out := by
    intro x hx
    obtain ⟨⟨t, w⟩, htw, rfl⟩ := mem_map.mp hx
    exact hou w (of_mem_zip htw).2
  -- the end bits start where the opening packets stop
  have hf : ∀ x ∈ (arrivals times ws).take opening.length,
      DtmfGenerator.Carries eventId false x.2.1 ∧ x.2.2 = out := by
    intro x hx
    have hm := mem_map_of_mem (f := fun x => x.2.1) hx
    rw [map_take, hfe, take_left' (length_map _)] at hm
    obtain ⟨p, hp, hpa⟩ := mem_map.mp hm
    exact ⟨hpa ▸ ho p hp, hts x (mem_of_mem_take hx)⟩
  have hl : ∀ x ∈ (arrivals times ws).drop opening.length,
      DtmfGenerator.Carries eventId true x.2.1 ∧ x.2.2 = out := by
    intro x hx
    have hm := mem_map_of_mem (f := fun x => x.2.1) hx
    rw [map_drop, hfe, drop_left' (length_map _)] at hm
    obtain ⟨p, hp, hpa⟩ := mem_map.mp hm
    exact ⟨hpa ▸ hc p hp, hts x (mem_of_mem_drop hx)⟩
  have hn : (arrivals times ws).drop opening.length ≠ [] := by
    intro hni
    have hma := congrArg (List.map fun x => x.2.1) hni
    rw [map_drop, hfe, drop_left' (length_map _)] at hma
    rw [map_eq_nil_iff.mp hma] at ht
    cases ht
  have hst : Awaiting (eventId, out) (times.headD 0) {} := ⟨by simp, by simp⟩
  have hch : (times.headD 0 :: ((arrivals times ws).take opening.length ++
      ((arrivals times ws).drop opening.length).take 1).map Prod.fst).IsChain
        fun a b => b - a ≤ dtmfTimeout := by
    rw [← take_add, map_take, hfs]
    cases times with
    | nil => exact .singleton _
    | cons t rest => exact .cons_cons (by simp) (hg.take (opening.length + 1))
  obtain ⟨event, he, hca, -⟩ := hst.one_report clockRate hid hl hn hf hch
  rw [take_append_drop] at he
  exact ⟨event, he, hca⟩

/-- If no audio is written between the first and the last packet of an injected digit, its
packets leave under one timestamp with the marker on the first of them, and a detector that
gets them reports the digit once. -/
theorem injected_press_one_event (P : Primitives) {endpoints : DtmfEndpoints}
    {existing : Option PendingDtmfInjection} {id : EndpointId} {ep : WebRtcEndpoint}
    (hep : endpoints.lookup id = some (.webRtc ep)) (hconnected : ep.Connected) {digit : Char}
    {durationMs : UInt32} {volume : UInt8} {timestamp ssrc : UInt32} {baseSeq : UInt16} {now : Nat}
    {injection : PendingDtmfInjection}
    (hbuild : buildDtmfInjection endpoints existing id digit durationMs volume timestamp ssrc
      baseSeq now = .ok injection)
    (hduration : durationMs ≠ 0) (inputs : List InjectionEvent)
    (hbetween : Along (injectionStep P) (fun _ s ev => NotBetween s ev) (endpoints, injection)
      inputs)
    {t : Nat} (hlate : now + injection.packets.length * injectionInterval ≤ t)
    (sendResult : Except String Unit) :
    ∃ ws : List RtpWrite, (trace (injectionStep P) (endpoints, injection)
          (inputs ++ [.drain t sendResult])).flatMap Prod.snd =
        ws.map (fun w => .webRtc (.ok w)) ∧
      ws.length = injection.packets.length ∧ (∃ out, ∀ w ∈ ws, w.timestamp = out) ∧
      (∃ first rest, ws = first :: rest ∧ first.marker = true ∧ ∀ w ∈ rest, w.marker = false) ∧
      ∀ (clockRate : UInt32) (times : List Nat), times.length = ws.length →
        times.IsChain (fun a b => b - a ≤ dtmfTimeout) →
        ∃ event, (trace (detect clockRate) {} (arrivals times ws)).filterMap Prod.snd = [event] ∧
          (digitToEventId digit).bind eventIdToDigit = some event.digit := by
  unfold buildDtmfInjection at hbuild
  split at hbuild
  · cases hbuild
  simp only [hep, DtmfEndpoint.telephoneEventPt] at hbuild
  split at hbuild
  · cases hbuild
  rename_i packets hgenerate
  cases hbuild
  obtain ⟨eventId, hdigit, hpress⟩ := DtmfGenerator.generate_press hgenerate hduration
  have hinjected := injected_of_press hpress id 101 timestamp ssrc baseSeq
  generalize hrouted : packets.mapIdx (routedDtmfPacket id 101 timestamp ssrc baseSeq) = routed
    at hinjected hbetween hlate ⊢
  have hpayloads : routed.map RoutedRtpPacket.payload = packets.map DtmfPacket.payload := by
    rw [← hrouted]
    apply ext_getElem
    · simp
    · simp [routedDtmfPacket]
  have hstart : Draining ⟨id, routed, 0, now⟩ timestamp []
      (endpoints, ⟨id, routed, 0, now⟩) ep [] :=
    ⟨hep, ⟨hconnected, Nat.zero_le _, rfl, rfl, 0, by simp, by simp⟩, rfl, by simp⟩
  obtain ⟨ep', ws', hdrained⟩ := along_induction
    (P := fun tr s => ∃ ep ws, Draining ⟨id, routed, 0, now⟩ timestamp tr s ep ws)
    ⟨ep, [], hstart⟩ (fun tr s ev hev ⟨ep, ws, h⟩ => h.step hinjected hev) hbetween
  have hdrain : NotBetween (exec (injectionStep P) (endpoints, ⟨id, routed, 0, now⟩) inputs)
      (.drain t sendResult) := trivial
  obtain ⟨ep'', ws, hfinal⟩ := hdrained.step (P := P) hinjected hdrain
  have hall : ws.length = routed.length := by
    have hindex := hdrained.finishes (P := P) hlate sendResult
    rw [hfinal.pending] at hindex
    exact hindex
  have hsending := hfinal.sending
  obtain ⟨out, hout, -⟩ := hsending.stamped
  have hmarkers := hsending.markers
  have hwritten := hsending.payloads
  rw [hall, take_length] at hmarkers hwritten
  refine ⟨ws, ?_, hall, ⟨out, hout⟩, ?_, fun clockRate times hlen hgaps => ?_⟩
  · rw [trace_append]
    exact hfinal.writes
  · obtain ⟨first, rest, hr, hfirst, hrest⟩ := hinjected.marked
    rw [hr] at hmarkers
    obtain ⟨w, later, rfl, hw, hlater⟩ := map_eq_cons_iff.mp hmarkers
    refine ⟨w, later, rfl, hw.trans hfirst, fun v hv => ?_⟩
    have hmem := mem_map_of_mem (f := RtpWrite.marker) hv
    rw [hlater] at hmem
    obtain ⟨p, hp, hmarker⟩ := mem_map.mp hmem
    exact hmarker ▸ hrest p hp
  obtain ⟨event, hevent, hchar⟩ := arrivals_one_report hpress (digitToEventId_le hdigit)
    (hwritten.trans hpayloads) hout clockRate hlen hgaps
  exact ⟨event, hevent, by rw [hdigit]; exact hchar⟩

instance (s : DtmfEndpoints × PendingDtmfInjection) (ev : InjectionEvent) :
    Decidable (NotBetween s ev) := by
  cases ev <;> unfold NotBetween <;> infer_instance

def sampleEndpoints : DtmfEndpoints := AList.singleton 3 (.webRtc sampleWebRtc)

def sampleInjection : PendingDtmfInjection :=
  (buildDtmfInjection sampleEndpoints none 3 '5' 40 10 1000 77 50 0).toOption.getD ⟨3, [], 0, 0⟩

def sampleDrain (ms : Nat) : InjectionEvent := .drain (ms * 10 ^ 6) (.ok ())

def sampleHeardAudio (timestamp : UInt32) : InjectionEvent :=
  .audio (sampleAudio 1 timestamp) (.ok ())

def injectionWrites (inputs : List InjectionEvent) : List RtpWrite :=
  ((trace (injectionStep .reference) (sampleEndpoints, sampleInjection) inputs).flatMap
    Prod.snd).filterMap fun
      | .webRtc (.ok w) => some w
      | _ => none

theorem sampleInjection_built :
    buildDtmfInjection sampleEndpoints none 3 '5' 40 10 1000 77 50 0 = .ok sampleInjection := rfl

theorem sampleInjection_one_event : sampleInjection.packets.length = 4 ∧
    ∃ ws : List RtpWrite, (trace (injectionStep .reference) (sampleEndpoints, sampleInjection)
          ([sampleHeardAudio 0, sampleDrain 0, sampleDrain 25] ++
            [sampleDrain 80])).flatMap Prod.snd = ws.map (fun w => .webRtc (.ok w)) ∧
      ws.length = sampleInjection.packets.length ∧ (∃ out, ∀ w ∈ ws, w.timestamp = out) ∧
      (∃ first rest, ws = first :: rest ∧ first.marker = true ∧ ∀ w ∈ rest, w.marker = false) ∧
      ∀ (clockRate : UInt32) (times : List Nat), times.length = ws.length →
        times.IsChain (fun a b => b - a ≤ dtmfTimeout) →
        ∃ event, (trace (detect clockRate) {} (arrivals times ws)).filterMap Prod.snd = [event] ∧
          (digitToEventId '5').bind eventIdToDigit = some event.digit :=
  ⟨by decide +kernel, injected_press_one_event .reference
      (show sampleEndpoints.lookup 3 = some (.webRtc sampleWebRtc) from rfl) ⟨rfl, rfl⟩
      sampleInjection_built (by decide) _ (by decide +kernel) (by decide +kernel) _⟩

def sampleInterleaving : List InjectionEvent :=
  [sampleDrain 0, sampleHeardAudio 0, sampleDrain 20, sampleDrain 40, sampleHeardAudio 960,
    sampleDrain 60]

/-- Each packet of audio moves the digit to a new timestamp, with a marker of its own, and
the far end reports it twice. -/
theorem injected_press_split :
    (injectionWrites sampleInterleaving).map (fun w => (w.timestamp, w.marker)) =
      [(1000, true), (2920, true), (2920, false), (4840, true)] ∧
    ((trace (detect 48000) {} (arrivals [0, 20, 40, 60]
        (injectionWrites sampleInterleaving))).filterMap Prod.snd).map DtmfEvent.digit =
      ['5', '5'] := by
  decide +kernel

end RtpBridge.Session
