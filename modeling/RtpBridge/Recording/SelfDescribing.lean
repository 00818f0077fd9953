/-
A recording describes every stream ahead of it.
-/
import RtpBridge.Recording.Recorder

namespace RtpBridge.Recorder

open Wire Machine List Option AList HashMap RecordingManager

variable {packet : RecordPacket} {rid : RecordingId} {d : DescriptorState} {rec rec' : Recording}
  {bytes : Bytes}

/-! ## What a reader of the recording sees -/

abbrev Flow := (IpAddr × UInt16) × (IpAddr × UInt16)

def flow (src dst : SocketAddr) : Flow := ((src.ip, src.port), (dst.ip, dst.port))

def descriptorAt (f : Flow) (p : RecordPacket) : Option StreamDescriptor :=
  match p.payload with
  | .descriptor d => if flow p.src p.dst = f then some d else none
  | _ => none

def lastDescriptor (f : Flow) (packets : List RecordPacket) : Option StreamDescriptor :=
  (packets.filterMap (descriptorAt f)).getLast?

def sentTo (rid : RecordingId) (sent : List Enqueued) : List RecordPacket :=
  (sent.filter fun e => e.recording = rid).map Enqueued.packet

variable {f : Flow} {packets : List RecordPacket} {p : RecordPacket} {rid : RecordingId}

theorem lastDescriptor_skip (h : descriptorAt f p = none) :
    lastDescriptor f (packets ++ [p]) = lastDescriptor f packets := by
  unfold lastDescriptor
  rw [filterMap_append, filterMap_cons_none h, filterMap_nil, append_nil]

theorem lastDescriptor_hit {d : StreamDescriptor} (h : descriptorAt f p = some d) :
    lastDescriptor f (packets ++ [p]) = some d := by
  unfold lastDescriptor
  rw [filterMap_append, filterMap_cons_some h, filterMap_nil, List.getLast?_concat]

theorem sentTo_append (sent more : List Enqueued) :
    sentTo rid (sent ++ more) = sentTo rid sent ++ sentTo rid more := by
  unfold sentTo
  rw [filter_append, map_append]

theorem sentTo_own (packets : List RecordPacket) :
    sentTo rid (packets.map (⟨rid, ·⟩)) = packets := by
  induction packets with
  | nil => rfl
  | cons p packets ih =>
    have hc : sentTo rid ((p :: packets).map (⟨rid, ·⟩)) =
        p :: sentTo rid (packets.map (⟨rid, ·⟩)) := by
      simp [sentTo]
    rw [hc, ih]

theorem sentTo_other {rid' : RecordingId} (h : rid' ≠ rid) (packets : List RecordPacket) :
    sentTo rid (packets.map (⟨rid', ·⟩)) = [] := by
  simp [sentTo, h]

/-! ## One recording -/

inductive Took (rec : Recording) (id : EndpointId) (desc : Option DescriptorState)
    (packet : RecordPacket) : Recording → List RecordPacket → Prop where
  | nothing {rec' : Recording} (h : rec'.lastWrittenVersion = rec.lastWrittenVersion) :
      Took rec id desc packet rec' []
  | plain {rec' : Recording} (h : rec'.lastWrittenVersion = rec.lastWrittenVersion)
      (hs : ∀ d, desc = some d → d.version ≤ (rec.lastWrittenVersion.lookup id).getD 0) :
      Took rec id desc packet rec' [packet]
  | described {rec' : Recording} {d : DescriptorState} (hd : desc = some d)
      (h : rec'.lastWrittenVersion = rec.lastWrittenVersion.insert id d.version)
      {rest : List RecordPacket} (hr : rest = [] ∨ rest = [packet]) :
      Took rec id desc packet rec' (⟨packet.src, packet.dst, .descriptor d.desc⟩ :: rest)

theorem took_take (rec : Recording) (id : EndpointId) (desc : Option DescriptorState)
    (packet : RecordPacket) (first second : Enqueue) :
    Took rec id desc packet (rec.take id desc packet first second).1
      (rec.take id desc packet first second).2.1 := by
  unfold Recording.take
  dsimp only
  split
  · rename_i hn
    have hs : ∀ d, desc = some d → d.version ≤ (rec.lastWrittenVersion.lookup id).getD 0 := by
      rintro d rfl
      have hf := filter_eq_none_iff.mp hn d rfl
      exact Nat.le_of_not_lt fun hlt => hf (decide_eq_true hlt)
    cases first with
    | ok => exact .plain rfl hs
    | full => exact .nothing rfl
    | closed => exact .nothing rfl
  · rename_i d hso
    obtain ⟨hd, -⟩ := filter_eq_some_iff.mp hso
    cases first with
    | ok =>
      cases second with
      | ok => exact .described hd rfl (.inr rfl)
      | full => exact .described hd rfl (.inl rfl)
      | closed => exact .described hd rfl (.inl rfl)
    | full => exact .nothing rfl
    | closed => exact .nothing rfl

theorem Took.of_mem {id : EndpointId} {desc : Option DescriptorState}
    (h : Took rec id desc packet rec' packets) (hp : p ∈ packets) :
    p = packet ∨ ∃ d, p.payload = .descriptor d := by
  cases h with
  | nothing => exact absurd hp not_mem_nil
  | plain => exact .inl (mem_singleton.mp hp)
  | described _ _ hr => grind

/-! ## The cache and the recordings -/

def Written (latest : HashMap EndpointId DescriptorState)
    (recordings : HashMap RecordingId Recording) (sent : List Enqueued) : Prop :=
  ∀ rid rec id v d, recordings.lookup rid = some rec →
    rec.lastWrittenVersion.lookup id = some v → latest.lookup id = some d →
    v ≤ d.version ∧
      (v = d.version → lastDescriptor (flow d.src d.dst) (sentTo rid sent) = some d.desc)

def Apart (latest : HashMap EndpointId DescriptorState) : Prop :=
  ∀ id id' d d', latest.lookup id = some d → latest.lookup id' = some d' →
    flow d.src d.dst = flow d'.src d'.dst → id = id'

section Deliver

variable {latest : HashMap EndpointId DescriptorState} {recordings : HashMap RecordingId Recording}
  {sent : List Enqueued} {id : EndpointId} {desc : Option DescriptorState} {packet : RecordPacket}

theorem Written.took (h : Written latest recordings sent) (ha : Apart latest)
    (hde : ∀ d, desc = some d →
      latest.lookup id = some d ∧ flow packet.src packet.dst = flow d.src d.dst)
    (hm : ∀ f, descriptorAt f packet = none) (hrc : recordings.lookup rid = some rec)
    {packets : List RecordPacket} (ht : Took rec id desc packet rec' packets) :
    Written latest (recordings.insert rid rec') (sent ++ packets.map (⟨rid, ·⟩)) := by
  intro rid' r id' v d hr hv hd
  rcases lookup_insert_cases hr with ⟨rfl, rfl⟩ | ⟨hne, hr⟩
  · rw [sentTo_append, sentTo_own]
    cases ht with
    | nothing hsame =>
      rw [hsame] at hv
      rw [append_nil]
      exact h rid' rec id' v d hrc hv hd
    | plain hsame _ =>
      rw [hsame] at hv
      rw [lastDescriptor_skip (hm _)]
      exact h rid' rec id' v d hrc hv hd
    | @described d₀ hso hi rest hre =>
      obtain ⟨hl, hf⟩ := hde d₀ hso
      have hk : ∀ f, lastDescriptor f (sentTo rid' sent ++
          ⟨packet.src, packet.dst, .descriptor d₀.desc⟩ :: rest) =
            lastDescriptor f (sentTo rid' sent ++
              [⟨packet.src, packet.dst, .descriptor d₀.desc⟩]) := by
        intro f
        rcases hre with rfl | rfl
        · rfl
        · rw [← singleton_append, ← append_assoc, lastDescriptor_skip (hm f)]
      rw [hk]
      rw [hi] at hv
      rcases lookup_insert_cases hv with ⟨rfl, rfl⟩ | ⟨hne, hv⟩
      · rw [hl] at hd
        cases hd
        refine ⟨Nat.le_refl _, fun _ => lastDescriptor_hit ?_⟩
        exact if_pos hf
      obtain ⟨hle, hc⟩ := h rid' rec id' v d hrc hv hd
      refine ⟨hle, fun heq => ?_⟩
      rw [lastDescriptor_skip]
      · exact hc heq
      · refine if_neg fun hsame => hne ?_
        exact ha id' id d d₀ hd hl (hsame.symm.trans hf)
  · rw [sentTo_append, sentTo_other fun heq => hne heq.symm, append_nil]
    exact h rid' r id' v d hr hv hd

def Behind (sent out : List Enqueued) (packet : RecordPacket) (desc : StreamDescriptor) : Prop :=
  ∀ before rid after, out = before ++ ⟨rid, packet⟩ :: after →
    lastDescriptor (flow packet.src packet.dst) (sentTo rid (sent ++ before)) = some desc

theorem behind_nil {desc : StreamDescriptor} : Behind sent [] packet desc :=
  fun _ _ _ hs => absurd hs (by simp)

theorem behind_map {desc : StreamDescriptor}
    (h : ∀ first rest, packets = first ++ packet :: rest →
      lastDescriptor (flow packet.src packet.dst) (sentTo rid sent ++ first) = some desc) :
    Behind sent (packets.map (⟨rid, ·⟩)) packet desc := by
  intro before rid' after hs
  obtain ⟨first, second, rfl, rfl, hse⟩ := map_eq_append_iff.mp hs
  obtain ⟨p, rest, rfl, hp, -⟩ := map_eq_cons_iff.mp hse
  cases hp
  rw [sentTo_append, sentTo_own]
  exact h first rest rfl

theorem Took.behind (h : Written latest recordings sent) (hla : latest.lookup id = some d)
    (hve : 1 ≤ d.version) (hf : flow packet.src packet.dst = flow d.src d.dst)
    (hm : packet.payload = .rtp bytes) (hrc : recordings.lookup rid = some rec)
    {packets : List RecordPacket} (hto : Took rec id (some d) packet rec' packets) :
    Behind sent (packets.map (⟨rid, ·⟩)) packet d.desc := by
  cases hto with
  | nothing _ => exact behind_nil
  | plain _ hsee =>
    refine behind_map fun first rest hs => ?_
    obtain rfl : first = [] := by grind [append_eq_singleton_iff]
    -- The recording has seen the version of the cache.
    have hle := hsee d rfl
    cases hv : rec.lastWrittenVersion.lookup id with
    | none =>
      rw [hv] at hle
      exact absurd hle (Nat.not_le_of_lt hve)
    | some v =>
      obtain ⟨hle', hc⟩ := h rid rec id v d hrc hv hla
      grind
  | @described d₀ hso _ rest hr =>
    cases hso
    refine behind_map fun first rest' hs => ?_
    obtain ⟨-, hp⟩ | ⟨first, rfl, ht⟩ := append_eq_cons_iff.mp hs.symm
    · rw [(cons.inj hp).1] at hm
      cases hm
    · obtain rfl : first = [] := by
        rcases hr with rfl | rfl <;> grind [append_eq_singleton_iff]
      exact lastDescriptor_hit (if_pos rfl)

theorem Behind.append {out more : List Enqueued} {d : StreamDescriptor}
    (h : Behind sent out packet d) (hmo : Behind (sent ++ out) more packet d) :
    Behind sent (out ++ more) packet d := by
  intro before rid after hs
  rcases append_eq_append_iff.mp hs with ⟨middle, rfl, hm⟩ | ⟨middle, rfl, hm⟩
  · have hr := hmo middle rid after hm
    rwa [append_assoc] at hr
  cases middle with
  | nil =>
    have hr := hmo [] rid after hm.symm
    rwa [append_nil, append_nil] at hr
  | cons e middle =>
    injection hm with hh _
    subst hh
    exact h before rid middle rfl

/-- What every recording that takes the packet keeps, the delivery keeps. -/
theorem deliverTo_induction {P : HashMap RecordingId Recording → List Enqueued → Prop}
    (hs : ∀ recordings out rid rec rec' packets, P recordings out →
      recordings.lookup rid = some rec → Took rec id desc packet rec' packets →
      P (recordings.insert rid rec') (out ++ packets.map (⟨rid, ·⟩)))
    (answer : RecordingId → Enqueue × Enqueue) (targets : List RecordingId)
    {out : List Enqueued} (h : P recordings out) :
    P (deliverTo id desc packet answer targets recordings).1
      (out ++ (deliverTo id desc packet answer targets recordings).2.1) := by
  induction targets generalizing recordings out with
  | nil =>
    show P recordings (out ++ [])
    rwa [append_nil]
  | cons rid targets ih =>
    unfold deliverTo
    split
    · exact ih h
    rename_i rec hrc
    have hr := ih (hs _ _ _ _ _ _ h hrc
      (took_take rec id desc packet (answer rid).1 (answer rid).2))
    rwa [append_assoc] at hr

end Deliver

/-! ## What the manager keeps -/

namespace RecordingManager

variable {m m' : RecordingManager} {sent : List Enqueued} {id : EndpointId}
  {localAddr remoteAddr : Option SocketAddr}

def Framed (indices : HashMap EndpointId Nat) (id : EndpointId) (d : DescriptorState) : Prop :=
  (∃ l r : Shown, d.desc.localAddr = some l ∧ d.desc.remoteAddr = some r ∧
    flow d.src d.dst = ((r.1, r.2.1), (l.1, l.2.1))) ∨
  (d.desc.localAddr = none ∨ d.desc.remoteAddr = none) ∧
    ∃ index, indices.lookup id = some index ∧ d.src = syntheticAddr index ∧
      d.dst = syntheticAddr 0xFFFF

structure Kept (m : RecordingManager) (sent : List Enqueued) : Prop where
  versions : ∀ id d, m.latestDescriptors.lookup id = some d → 1 ≤ d.version
  written : Written m.latestDescriptors m.recordings sent
  apart : Apart m.latestDescriptors
  framed : ∀ id d, m.latestDescriptors.lookup id = some d → Framed m.endpointIndices id d
  known : ∀ rid rec, m.recordings.lookup rid = some rec → rid < m.nextRecording
  fresh : ∀ e ∈ sent, e.recording < m.nextRecording

structure Lesser (m m' : RecordingManager) : Prop where
  recordings : ∀ rid rec, m'.recordings.lookup rid = some rec → m.recordings.lookup rid = some rec
  latest : m'.latestDescriptors = m.latestDescriptors
  indices : ∀ id index, m.endpointIndices.lookup id = some index →
    m'.endpointIndices.lookup id = some index
  next : m'.nextRecording = m.nextRecording

theorem Lesser.refl (m : RecordingManager) : Lesser m m :=
  ⟨fun _ _ h => h, rfl, fun _ _ h => h, rfl⟩

theorem Lesser.trans {m'' : RecordingManager} (h : Lesser m m') (h' : Lesser m' m'') :
    Lesser m m'' :=
  ⟨fun rid rec hr => h.recordings rid rec (h'.recordings rid rec hr), h'.latest.trans h.latest,
    fun id index hi => h'.indices id index (h.indices id index hi), h'.next.trans h.next⟩

theorem Framed.mono {indices indices' : HashMap EndpointId Nat} (h : Framed indices id d)
    (hi : ∀ index, indices.lookup id = some index → indices'.lookup id = some index) :
    Framed indices' id d := by
  rcases h with hr | ⟨hn, index, hin, hf⟩
  · exact .inl hr
  · exact .inr ⟨hn, index, hi index hin, hf⟩

theorem Kept.lesser (h : Kept m sent) (hl : Lesser m m') : Kept m' sent where
  versions := by
    rw [hl.latest]
    exact h.versions
  written := by
    rw [hl.latest]
    intro rid rec id v d hrc
    exact h.written rid rec id v d (hl.recordings rid rec hrc)
  apart := by
    rw [hl.latest]
    exact h.apart
  framed := by
    rw [hl.latest]
    exact fun id d hd => (h.framed id d hd).mono (hl.indices id)
  known := by
    rw [hl.next]
    exact fun rid rec hrc => h.known rid rec (hl.recordings rid rec hrc)
  fresh := by
    rw [hl.next]
    exact h.fresh

theorem lesser_removeRecording (m : RecordingManager) (rid : RecordingId) :
    Lesser m (m.removeRecording rid) := by
  have he : Lesser m { m with recordings := m.recordings.erase rid } :=
    ⟨fun _ _ h => (lookup_of_erase h).2, rfl, fun _ _ h => h, rfl⟩
  unfold removeRecording
  split
  · exact .refl m
  dsimp only
  split
  · exact he
  · exact ⟨he.recordings, rfl, fun _ _ h => h, rfl⟩

theorem lesser_removeAll (dead : List RecordingId) (m : RecordingManager) :
    Lesser m (dead.foldl removeRecording m) := by
  induction dead generalizing m with
  | nil => exact .refl m
  | cons rid dead ih => exact (lesser_removeRecording m rid).trans (ih _)

theorem getEndpointIndex_spec (m : RecordingManager) (id : EndpointId) :
    Lesser m (m.getEndpointIndex id).1 ∧
      (m.getEndpointIndex id).1.endpointIndices.lookup id = some (m.getEndpointIndex id).2 := by
  have ho : ∀ index, m.endpointIndices.lookup id = none → ∀ j i,
      m.endpointIndices.lookup j = some i →
      (m.endpointIndices.insert id index).lookup j = some i := by
    intro index hn j i hj
    have hne : j ≠ id := by
      rintro rfl
      rw [hn] at hj
      cases hj
    exact (lookup_insert_ne hne).trans hj
  unfold getEndpointIndex
  split
  · rename_i index hin
    exact ⟨.refl m, hin⟩
  · rename_i hn
    split <;> exact ⟨⟨fun _ _ h => h, rfl, ho _ hn, rfl⟩, lookup_insert _⟩

theorem lesser_frame (m : RecordingManager) (id : EndpointId)
    (localAddr remoteAddr : Option SocketAddr) : Lesser m (m.frame id localAddr remoteAddr).1 := by
  unfold frame
  split
  · exact .refl m
  · exact (getEndpointIndex_spec m id).1

theorem shown_flow (src dst : SocketAddr) :
    flow src dst = (((shown src).1, (shown src).2.1), ((shown dst).1, (shown dst).2.1)) := by
  cases src <;> cases dst <;> rfl

theorem framed_frame (m : RecordingManager) (id : EndpointId) (info : StreamInfo)
    (localAddr remoteAddr : Option SocketAddr) (version : Nat) :
    Framed (m.frame id localAddr remoteAddr).1.endpointIndices id
      ⟨endpointStreamDescriptor id info localAddr remoteAddr, version,
        (m.frame id localAddr remoteAddr).2.1, (m.frame id localAddr remoteAddr).2.2⟩ := by
  cases localAddr with
  | none => exact .inr ⟨.inl rfl, _, (getEndpointIndex_spec m id).2, rfl, rfl⟩
  | some l =>
    cases remoteAddr with
    | none => exact .inr ⟨.inr rfl, _, (getEndpointIndex_spec m id).2, rfl, rfl⟩
    | some r => exact .inl ⟨shown l, shown r, rfl, rfl, shown_flow r l⟩

theorem Framed.flow_eq {info : StreamInfo} (h : Framed m.endpointIndices id d)
    (hd : d.desc = endpointStreamDescriptor id info localAddr remoteAddr) :
    flow (m.frame id localAddr remoteAddr).2.1 (m.frame id localAddr remoteAddr).2.2 =
      flow d.src d.dst := by
  have hlo : d.desc.localAddr = localAddr.map shown := by
    rw [hd]
    rfl
  have hre : d.desc.remoteAddr = remoteAddr.map shown := by
    rw [hd]
    rfl
  rcases h with ⟨l, r, hl, hr, hf⟩ | ⟨hn, index, hin, hsr, hds⟩
  · cases localAddr with
    | none =>
      rw [hl] at hlo
      cases hlo
    | some x =>
      cases remoteAddr with
      | none =>
        rw [hr] at hre
        cases hre
      | some y =>
        rw [hl] at hlo
        rw [hr] at hre
        cases hlo
        cases hre
        rw [hf]
        exact shown_flow y x
  · have hs : (m.frame id localAddr remoteAddr).2 =
        (syntheticAddr index, syntheticAddr 0xFFFF) := by
      have hg : (m.getEndpointIndex id).2 = index := by
        unfold getEndpointIndex
        rw [hin]
      cases localAddr with
      | none =>
        show (syntheticAddr (m.getEndpointIndex id).2, syntheticAddr 0xFFFF) = _
        rw [hg]
      | some x =>
        cases remoteAddr with
        | none =>
          show (syntheticAddr (m.getEndpointIndex id).2, syntheticAddr 0xFFFF) = _
          rw [hg]
        | some y => grind
    rw [hs, hsr, hds]

/-! ## The operations -/

/-- What a noted descriptor meets: the endpoint was not described before in a recording that
still runs, unless it stayed since; no other endpoint is cached with its addresses; the version
does not wrap around. -/
structure Fits (m : RecordingManager) (id : EndpointId) (localAddr remoteAddr : Option SocketAddr) :
    Prop where
  stayed : m.latestDescriptors.lookup id = none →
    ∀ rid rec, m.recordings.lookup rid = some rec → rec.lastWrittenVersion.lookup id = none
  apart : ∀ id' d, m.latestDescriptors.lookup id' = some d → id' ≠ id → flow d.src d.dst ≠
      flow (m.frame id localAddr remoteAddr).2.1 (m.frame id localAddr remoteAddr).2.2
  bounded : ∀ d, m.latestDescriptors.lookup id = some d → d.version + 1 < 2 ^ 64

instance (m : RecordingManager) (id : EndpointId) (localAddr remoteAddr : Option SocketAddr) :
    Decidable (Fits m id localAddr remoteAddr) :=
  decidable_of_iff
    (((m.latestDescriptors.lookup id).isNone = true →
        ∀ e ∈ m.recordings.entries, e.2.lastWrittenVersion.lookup id = none) ∧
      (∀ e ∈ m.latestDescriptors.entries, e.1 ≠ id → flow e.2.src e.2.dst ≠
        flow (m.frame id localAddr remoteAddr).2.1 (m.frame id localAddr remoteAddr).2.2) ∧
      ∀ d ∈ m.latestDescriptors.lookup id, d.version + 1 < 2 ^ 64)
    ⟨fun h => ⟨fun hn rid rec hrc => h.1 (isNone_iff_eq_none.mpr hn) ⟨rid, rec⟩
          (mem_lookup_iff.mp hrc),
        fun id' d hd => h.2.1 ⟨id', d⟩ (mem_lookup_iff.mp hd), fun d hd => h.2.2 d hd⟩,
      fun h => ⟨fun hn e he => h.stayed (isNone_iff_eq_none.mp hn) e.1 e.2
          (mem_lookup_iff.mpr he),
        fun e he => h.apart e.1 e.2 (mem_lookup_iff.mpr he), fun d hd => h.bounded d hd⟩⟩

theorem noteDescriptor_cached (m : RecordingManager) (id : EndpointId) (desc : StreamDescriptor)
    (localAddr remoteAddr : Option SocketAddr) :
    ∃ d, (m.noteDescriptor id desc localAddr remoteAddr).latestDescriptors.lookup id = some d ∧
      d.desc = desc := by
  unfold noteDescriptor
  dsimp only
  split
  · rename_i hsame
    exact map_eq_some_iff.mp hsame
  · exact ⟨_, lookup_insert _, rfl⟩

theorem Kept.ahead (h : Kept m sent) (hf : Fits m id localAddr remoteAddr) {v : Nat}
    (hrc : m.recordings.lookup rid = some rec) (hv : rec.lastWrittenVersion.lookup id = some v) :
    v < ((m.latestDescriptors.lookup id).map fun d => (d.version + 1) % 2 ^ 64).getD 1 := by
  cases hd : m.latestDescriptors.lookup id with
  | none =>
    rw [hf.stayed hd rid rec hrc] at hv
    cases hv
  | some d =>
    have hle := (h.written rid rec id v d hrc hv hd).1
    have hm : (d.version + 1) % 2 ^ 64 = d.version + 1 := Nat.mod_eq_of_lt (hf.bounded d hd)
    show v < (d.version + 1) % 2 ^ 64
    omega

theorem Kept.noteDescriptor (h : Kept m sent) (hfi : Fits m id localAddr remoteAddr)
    (info : StreamInfo) :
    Kept (m.noteDescriptor id (endpointStreamDescriptor id info localAddr remoteAddr) localAddr
      remoteAddr) sent := by
  unfold RecordingManager.noteDescriptor
  dsimp only
  split
  · exact h
  have hl := lesser_frame m id localAddr remoteAddr
  have hf := h.lesser hl
  refine ⟨?_, ?_, ?_, ?_, hf.known, hf.fresh⟩
  · intro id' d hd
    rcases lookup_insert_cases hd with ⟨-, rfl⟩ | ⟨-, hd⟩
    · cases hold : m.latestDescriptors.lookup id with
      | none => exact Nat.le_refl 1
      | some d =>
        have hm : (d.version + 1) % 2 ^ 64 = d.version + 1 :=
          Nat.mod_eq_of_lt (hfi.bounded d hold)
        show 1 ≤ (d.version + 1) % 2 ^ 64
        omega
    · exact hf.versions id' d hd
  · intro rid rec id' v d hrc hv hd
    rcases lookup_insert_cases hd with ⟨rfl, rfl⟩ | ⟨-, hd⟩
    · have hlt := h.ahead hfi (hl.recordings rid rec hrc) hv
      exact ⟨Nat.le_of_lt hlt, fun heq => absurd heq (Nat.ne_of_lt hlt)⟩
    · exact hf.written rid rec id' v d hrc hv hd
  · intro i j d d' hd hd' hfl
    rcases lookup_insert_cases hd with ⟨rfl, rfl⟩ | ⟨hi, hold⟩
    · rcases lookup_insert_cases hd' with ⟨rfl, -⟩ | ⟨hj, hold'⟩
      · rfl
      · rw [hl.latest] at hold'
        exact absurd hfl.symm (hfi.apart j d' hold' hj)
    rcases lookup_insert_cases hd' with ⟨rfl, rfl⟩ | ⟨hj, hold'⟩
    · rw [hl.latest] at hold
      exact absurd hfl (hfi.apart i d hold hi)
    · exact hf.apart i j d d' hold hold' hfl
  grind [lookup_insert_cases, framed_frame, hf.framed]

theorem Kept.deliver (h : Kept m sent) {withDescriptor : Bool}
    (hde : withDescriptor = true → ∀ d, m.latestDescriptors.lookup id = some d →
      flow packet.src packet.dst = flow d.src d.dst) (hm : ∀ f, descriptorAt f packet = none)
    (answer : RecordingId → Enqueue × Enqueue) :
    Kept (m.deliver id packet withDescriptor answer).1
      (sent ++ (m.deliver id packet withDescriptor answer).2) := by
  unfold RecordingManager.deliver
  split
  · refine Kept.lesser ?_ (lesser_removeAll _ _)
    have hso : ∀ d, (if withDescriptor then m.latestDescriptors.lookup id else none) = some d →
        m.latestDescriptors.lookup id = some d ∧
          flow packet.src packet.dst = flow d.src d.dst := by
      intro d hd
      split at hd
      · rename_i hw
        exact ⟨hd, hde hw d hd⟩
      · cases hd
    obtain ⟨hw, hk, hf⟩ := deliverTo_induction
      (P := fun recordings out => Written m.latestDescriptors recordings out ∧
        (∀ rid rec, recordings.lookup rid = some rec → rid < m.nextRecording) ∧
        ∀ e ∈ out, e.recording < m.nextRecording)
      (fun _ _ _ _ _ _ ⟨hw, hk, hf⟩ hrc ht => ⟨hw.took h.apart hso hm hrc ht,
        fun i r hr => (lookup_insert_cases hr).elim (fun h => h.1 ▸ hk _ _ hrc) fun h => hk _ _ h.2,
        by grind⟩)
      answer (m.targets id) ⟨h.written, h.known, h.fresh⟩
    exact ⟨h.versions, hw, h.apart, h.framed, hk, hf⟩
  · rw [append_nil]
    exact h

theorem deliver_packets (m : RecordingManager) (id : EndpointId) (packet : RecordPacket)
    (withDescriptor : Bool) (answer : RecordingId → Enqueue × Enqueue) :
    ∀ e ∈ (m.deliver id packet withDescriptor answer).2,
      e.packet = packet ∨ ∃ d, e.packet.payload = .descriptor d := by
  unfold deliver
  split
  · refine deliverTo_induction (P := fun _ out => ∀ e ∈ out, e.packet = packet ∨
      ∃ d, e.packet.payload = .descriptor d) (fun _ _ _ _ _ _ h _ ht e he => ?_) answer
      (m.targets id) (forall_mem_nil _)
    rcases mem_append.mp he with he | he
    · exact h e he
    · obtain ⟨p, hp, rfl⟩ := mem_map.mp he
      exact ht.of_mem hp
  · exact forall_mem_nil _

theorem deliver_behind (h : Kept m sent) (hd : m.latestDescriptors.lookup id = some d)
    (hf : flow packet.src packet.dst = flow d.src d.dst) (hm : packet.payload = .rtp bytes)
    (answer : RecordingId → Enqueue × Enqueue) :
    Behind sent (m.deliver id packet true answer).2 packet d.desc := by
  unfold deliver
  split
  · rw [hd]
    obtain ⟨-, new, hn, hb⟩ := deliverTo_induction (P := fun recordings out =>
      Written m.latestDescriptors recordings out ∧
        ∃ new, out = sent ++ new ∧ Behind sent new packet d.desc)
      (fun _ _ _ _ _ _ ⟨hw, hb⟩ hrc (ht : Took _ id (some d) packet _ _) => by
        obtain ⟨new, rfl, hb⟩ := hb
        refine ⟨hw.took h.apart ?_ (fun f => ?_) hrc ht, _, append_assoc .., hb.append ?_⟩
        · rintro d' heq
          cases heq
          exact ⟨hd, hf⟩
        · unfold descriptorAt
          rw [hm]
        · exact ht.behind hw hd (h.versions id d hd) hf hm hrc)
      answer (m.targets id) ⟨h.written, [], (append_nil sent).symm, behind_nil⟩
    rw [← append_cancel_left hn] at hb
    exact hb
  · exact behind_nil

theorem Kept.recordRtcp (h : Kept m sent) (id : EndpointId) (bytes : Bytes)
    (localAddr remoteAddr : Option SocketAddr) (answer : RecordingId → Enqueue × Enqueue) :
    Kept (m.recordRtcp id bytes localAddr remoteAddr answer).1
      (sent ++ (m.recordRtcp id bytes localAddr remoteAddr answer).2) := by
  have hf := h.lesser (lesser_frame m id localAddr remoteAddr)
  exact hf.deliver (fun hfa => by cases hfa) (fun f => rfl) answer

section

variable (h : Kept m sent) (hf : Fits m id localAddr remoteAddr) (info : StreamInfo)
include h hf

theorem Kept.noted : let desc := endpointStreamDescriptor id info localAddr remoteAddr
    let framed := (m.noteDescriptor id desc localAddr remoteAddr).frame id localAddr remoteAddr
    Kept framed.1 sent ∧ ∃ d, framed.1.latestDescriptors.lookup id = some d ∧ d.desc = desc ∧
      flow framed.2.1 framed.2.2 = flow d.src d.dst := by
  intro desc framed
  have hn := h.noteDescriptor hf info
  have hl := lesser_frame (m.noteDescriptor id desc localAddr remoteAddr) id localAddr remoteAddr
  obtain ⟨d, hd, hde⟩ := noteDescriptor_cached m id desc localAddr remoteAddr
  refine ⟨hn.lesser hl, d, ?_, hde, (hn.framed id d hd).flow_eq hde⟩
  rw [hl.latest]
  exact hd

theorem Kept.recordInbound (bytes : Bytes) (answer : RecordingId → Enqueue × Enqueue) :
    Kept (m.recordInbound id info bytes localAddr remoteAddr answer).1
      (sent ++ (m.recordInbound id info bytes localAddr remoteAddr answer).2) := by
  unfold RecordingManager.recordInbound
  split
  · obtain ⟨hk, d, hd, -, hfl⟩ := h.noted hf info
    refine hk.deliver (fun _ d' hd' => ?_) (fun f => rfl) answer
    rw [hd] at hd'
    cases hd'
    exact hfl
  · rw [append_nil]
    exact h

theorem Kept.inbound_behind (bytes : Bytes) (answer : RecordingId → Enqueue × Enqueue)
    {before after : List Enqueued} {media : Bytes} (hm : packet.payload = .rtp media)
    (ho : (m.recordInbound id info bytes localAddr remoteAddr answer).2 =
      before ++ ⟨rid, packet⟩ :: after) :
    media = bytes ∧ lastDescriptor (flow packet.src packet.dst) (sentTo rid (sent ++ before)) =
      some (endpointStreamDescriptor id info localAddr remoteAddr) := by
  unfold RecordingManager.recordInbound at ho
  split at ho
  · obtain ⟨hk, d, hd, hde, hfl⟩ := h.noted hf info
    have hme := deliver_packets _ id _ true answer ⟨rid, packet⟩
      (ho ▸ mem_append_right before mem_cons_self)
    rcases hme with rfl | ⟨d', hd'⟩
    · cases hm
      have hb := deliver_behind hk hd hfl rfl answer before rid after ho
      rw [hde] at hb
      exact ⟨rfl, hb⟩
    · rw [hm] at hd'
      cases hd'
  · have hl := congrArg List.length ho
    simp at hl

end

theorem replay_written {latest : HashMap EndpointId DescriptorState}
    {recordings : HashMap RecordingId Recording} (ha : Apart latest) (rid : RecordingId)
    (answer : EndpointId → Enqueue)
    (cached : List (Sigma fun _ : EndpointId => DescriptorState))
    (hc : ∀ e ∈ cached, latest.lookup e.1 = some e.2) (rec : Recording)
    (h : Written latest (recordings.insert rid rec) sent) :
    Written latest (recordings.insert rid (replay rid answer cached rec).1)
      (sent ++ (replay rid answer cached rec).2) := by
  induction cached generalizing rec sent with
  | nil =>
    rw [show (replay rid answer [] rec).2 = [] from rfl, append_nil]
    exact h
  | cons e cached ih =>
    have hr : ∀ e ∈ cached, latest.lookup e.1 = some e.2 :=
      fun e he => hc e (mem_cons_of_mem _ he)
    have he : latest.lookup e.1 = some e.2 := hc e mem_cons_self
    unfold replay
    split
    · -- The descriptor at the cached addresses, with no packet behind it.
      have ht : Took rec e.1 (some e.2) ⟨e.2.src, e.2.dst, .rtp []⟩
          { rec with
            packetCount := rec.packetCount + 1
            lastWrittenVersion := rec.lastWrittenVersion.insert e.1 e.2.version }
          [⟨e.2.src, e.2.dst, .descriptor e.2.desc⟩] := .described rfl rfl (.inl rfl)
      have hs := h.took ha (fun d hd => by cases hd; exact ⟨he, rfl⟩)
        (fun f => rfl) (lookup_insert _) ht
      rw [insert_insert] at hs
      have hal := ih hr _ hs
      rw [append_assoc] at hal
      exact hal
    · exact ih hr rec h
    · exact ih hr rec h

theorem replay_below (rid : RecordingId) (answer : EndpointId → Enqueue)
    (cached : List (Sigma fun _ : EndpointId => DescriptorState)) (rec : Recording) :
    ∀ e ∈ (replay rid answer cached rec).2, ∃ d : DescriptorState,
      e = ⟨rid, ⟨d.src, d.dst, .descriptor d.desc⟩⟩ := by
  induction cached generalizing rec with
  | nil => exact fun e he => absurd he not_mem_nil
  | cons c cached ih => grind [replay]

theorem Kept.completeStart (h : Kept m sent) (endpointId : Option EndpointId) (prepared : Bool)
    (answer : EndpointId → Enqueue) :
    Kept (m.completeStart endpointId prepared answer).1
      (sent ++ (m.completeStart endpointId prepared answer).2) := by
  unfold RecordingManager.completeStart
  split
  · refine ⟨h.versions, ?_, h.apart, h.framed, ?_, ?_⟩
    · refine replay_written h.apart m.nextRecording answer _ ?_ _ ?_
      · exact fun e he => mem_lookup_iff.mpr (mem_filter.mp he).1
      intro rid rec id v d hrc hv hd
      rcases lookup_insert_cases hrc with ⟨-, rfl⟩ | ⟨-, hold⟩
      · rw [show ((∅ : HashMap EndpointId Nat).lookup id) = none from rfl] at hv
        cases hv
      · exact h.written rid rec id v d hold hv hd
    · intro rid rec hrc
      rcases lookup_insert_cases hrc with ⟨rfl, -⟩ | ⟨-, hold⟩
      · exact Nat.lt_succ_self _
      · exact Nat.lt_succ_of_lt (h.known rid rec hold)
    intro e he
    rcases mem_append.mp he with he | he
    · exact Nat.lt_succ_of_lt (h.fresh e he)
    · obtain ⟨d, rfl⟩ := replay_below m.nextRecording answer _ _ e he
      exact Nat.lt_succ_self _
  · rw [append_nil]
    exact h.lesser ⟨fun _ _ hr => hr, rfl, fun _ _ hi => hi, rfl⟩

theorem lookup_eraseAll (ids : List RecordingId) (recordings : HashMap RecordingId Recording)
    (h : (ids.foldl (fun recordings rid => recordings.erase rid) recordings).lookup rid =
      some rec) : recordings.lookup rid = some rec := by
  induction ids generalizing recordings with
  | nil => exact h
  | cons i ids ih => exact (lookup_of_erase (ih _ h)).2

theorem Kept.leave (h : Kept m sent) (id : EndpointId) :
    Kept ((m.forgetEndpoint id).stopEndpointRecordings id) sent := by
  have hf : ∀ j d, (m.latestDescriptors.erase id).lookup j = some d →
      j ≠ id ∧ m.latestDescriptors.lookup j = some d := fun _ _ => lookup_of_erase
  have hk : Kept
      { m.forgetEndpoint id with
        endpointRecordings := m.endpointRecordings.erase id
        recordings := ((m.endpointRecordings.lookup id).getD []).foldl
          (fun recordings rid => recordings.erase rid) m.recordings } sent :=
    ⟨fun j d hd => h.versions j d (hf j d hd).2, fun rid rec j v d hrc hv hd =>
        h.written rid rec j v d (lookup_eraseAll _ _ hrc) hv (hf j d hd).2,
      fun i j d d' hd hd' => h.apart i j d d' (hf i d hd).2 (hf j d' hd').2,
      fun j d hd => h.framed j d (hf j d hd).2,
      fun rid rec hrc => h.known rid rec (lookup_eraseAll _ _ hrc), h.fresh⟩
  unfold stopEndpointRecordings
  dsimp only
  split
  · exact hk
  refine ⟨hk.versions, hk.written, hk.apart, fun j d hd => ?_, hk.known, hk.fresh⟩
  refine (hk.framed j d hd).mono fun index hin => ?_
  exact (lookup_erase_ne (hf j d hd).1).trans hin

/-! ## Runs -/

def Steady (m : RecordingManager) : RecorderEvent → Prop
  | .note id _ localAddr remoteAddr => Fits m id localAddr remoteAddr
  | .inbound id _ _ localAddr remoteAddr _ => Fits m id localAddr remoteAddr
  | _ => True

instance (m : RecordingManager) : DecidablePred (Steady m)
  | .note id _ localAddr remoteAddr => inferInstanceAs (Decidable (Fits m id localAddr remoteAddr))
  | .inbound id _ _ localAddr remoteAddr _ =>
    inferInstanceAs (Decidable (Fits m id localAddr remoteAddr))
  | .rtcp .. => isTrue trivial
  | .beginStart => isTrue trivial
  | .start .. => isTrue trivial
  | .stop _ => isTrue trivial
  | .leave _ => isTrue trivial

theorem Kept.step (h : Kept m sent) (ev : RecorderEvent) (hev : Steady m ev) :
    Kept (m.step ev).1 (sent ++ (m.step ev).2) := by
  cases ev with
  | note id info localAddr remoteAddr =>
    show Kept _ (sent ++ [])
    rw [append_nil]
    exact h.noteDescriptor hev info
  | inbound id info bytes localAddr remoteAddr answer =>
    exact h.recordInbound hev info bytes answer
  | rtcp id bytes localAddr remoteAddr answer =>
    exact h.recordRtcp id bytes localAddr remoteAddr answer
  | beginStart =>
    show Kept m.beginStart (sent ++ [])
    rw [append_nil]
    unfold beginStart
    split
    · exact h
    · exact h.lesser ⟨fun _ _ hr => hr, rfl, fun _ _ hi => hi, rfl⟩
  | start endpointId prepared answer => exact h.completeStart endpointId prepared answer
  | stop rid =>
    show Kept _ (sent ++ [])
    rw [append_nil]
    exact h.lesser (lesser_removeRecording m rid)
  | leave id =>
    show Kept _ (sent ++ [])
    rw [append_nil]
    exact h.leave id

theorem kept_start (maxRecordings : Nat) : Kept { maxRecordings := maxRecordings } [] where
  versions := fun _ _ hd => by cases hd
  written := fun _ _ _ _ _ hrc => by cases hrc
  apart := fun _ _ _ _ hd => by cases hd
  framed := fun _ _ hd => by cases hd
  known := fun _ _ hrc => by cases hrc
  fresh := fun e he => absurd he not_mem_nil

def enqueued (trace : List (RecorderEvent × List Enqueued)) : List Enqueued :=
  (trace.map Prod.snd).flatten

theorem enqueued_concat (trace : List (RecorderEvent × List Enqueued)) (ev : RecorderEvent)
    (out : List Enqueued) : enqueued (trace ++ [(ev, out)]) = enqueued trace ++ out := by
  simp [enqueued]

theorem kept_exec (maxRecordings : Nat) {events : List RecorderEvent}
    (h : Along step (fun _ m ev => Steady m ev) { maxRecordings := maxRecordings } events) :
    Kept (exec step { maxRecordings := maxRecordings } events)
      (enqueued (trace step { maxRecordings := maxRecordings } events)) := by
  refine along_induction (P := fun tr m => Kept m (enqueued tr)) (kept_start maxRecordings) ?_ h
  intro tr m ev hev hk
  rw [enqueued_concat]
  exact hk.step ev hev

theorem media_inbound {ev : RecorderEvent} {e : Enqueued} (he : e ∈ (m.step ev).2) {media : Bytes}
    (hm : e.packet.payload = .rtp media) :
    ∃ id info bytes localAddr remoteAddr answer,
      ev = .inbound id info bytes localAddr remoteAddr answer := by
  cases ev with
  | inbound id info bytes localAddr remoteAddr answer => exact ⟨_, _, _, _, _, _, rfl⟩
  | rtcp id bytes localAddr remoteAddr answer =>
    rcases deliver_packets _ id _ false answer e he with heq | ⟨d, hd⟩
    · rw [heq] at hm
      cases hm
    · rw [hd] at hm
      cases hm
  | start endpointId prepared answer =>
    have hs : e ∈ (m.completeStart endpointId prepared answer).2 := he
    grind [completeStart, replay_below]
  | note => exact absurd he not_mem_nil
  | beginStart => exact absurd he not_mem_nil
  | stop => exact absurd he not_mem_nil
  | leave => exact absurd he not_mem_nil

/-- In every recording each media packet stands behind a descriptor with its addresses, and the
last of these is the one just noted for its endpoint. -/
theorem media_described (maxRecordings : Nat) (events : List RecorderEvent) (ev : RecorderEvent)
    (h : Along step (fun _ m ev => Steady m ev) { maxRecordings := maxRecordings }
      (events ++ [ev]))
    (before after : List Enqueued) (rid : RecordingId) (src dst : SocketAddr) (bytes : Bytes)
    (hout : (step (exec step { maxRecordings := maxRecordings } events) ev).2 =
      before ++ ⟨rid, ⟨src, dst, .rtp bytes⟩⟩ :: after) :
    ∃ id info localAddr remoteAddr answer, ev = .inbound id info bytes localAddr remoteAddr answer ∧
      lastDescriptor (flow src dst) (sentTo rid
        (enqueued (trace step { maxRecordings := maxRecordings } events) ++ before)) =
          some (endpointStreamDescriptor id info localAddr remoteAddr) := by
  obtain ⟨hrun, hlast⟩ := (along_append _ events [ev]).mp h
  have hkept := kept_exec maxRecordings hrun
  obtain ⟨id, info, bytes', localAddr, remoteAddr, answer, rfl⟩ := media_inbound
    (hout ▸ mem_append_right before mem_cons_self) rfl
  obtain ⟨rfl, hdescribed⟩ := hkept.inbound_behind hlast.1 info bytes' answer rfl hout
  exact ⟨id, info, localAddr, remoteAddr, answer, rfl, hdescribed⟩

def sampleLocal : SocketAddr := .v4 (192#8 ++ 0#8 ++ 2#8 ++ 1#8) 20002

def sampleRemote : SocketAddr := .v4 (192#8 ++ 0#8 ++ 2#8 ++ 9#8) 40000

def samplePcmu : StreamInfo := ⟨"inbound", "rtp", "PCMU", 0, 8000, 1, none⟩

def sampleG722 : StreamInfo := ⟨"inbound", "rtp", "G722", 9, 8000, 1, none⟩

def sampleInbound (info : StreamInfo) (bytes : Bytes) : RecorderEvent :=
  .inbound 1 info bytes (some sampleLocal) (some sampleRemote) fun _ => (.ok, .ok)

def sampleEvents : List RecorderEvent :=
  [.beginStart, .start none true (fun _ => .ok), sampleInbound samplePcmu [1]]

def sampleOther : RecorderEvent := .inbound 2 samplePcmu [2] none none fun _ => (.ok, .ok)

def sampleChange : List Enqueued :=
  [⟨0, ⟨sampleRemote, sampleLocal,
    .descriptor (endpointStreamDescriptor 1 sampleG722 (some sampleLocal) (some sampleRemote))⟩⟩]

theorem media_described_changed :
    (step (exec step { maxRecordings := 1 } (sampleEvents ++ [sampleOther]))
      (sampleInbound sampleG722 [3])).2 =
        sampleChange ++ [⟨0, ⟨sampleRemote, sampleLocal, .rtp [3]⟩⟩] ∧
    lastDescriptor (flow sampleRemote sampleLocal)
      (sentTo 0 (enqueued (trace step { maxRecordings := 1 } (sampleEvents ++ [sampleOther])) ++
        sampleChange)) =
      some (endpointStreamDescriptor 1 sampleG722 (some sampleLocal) (some sampleRemote)) := by
  have hout : (step (exec step { maxRecordings := 1 } (sampleEvents ++ [sampleOther]))
      (sampleInbound sampleG722 [3])).2 =
        sampleChange ++ [⟨0, ⟨sampleRemote, sampleLocal, .rtp [3]⟩⟩] := rfl
  obtain ⟨id, info, localAddr, remoteAddr, answer, hev, hlast⟩ :=
    media_described 1 (sampleEvents ++ [sampleOther]) (sampleInbound sampleG722 [3])
      (by decide +kernel) sampleChange [] 0 sampleRemote sampleLocal [3] hout
  cases hev
  exact ⟨hout, hlast⟩

/-- The endpoint leaves and comes back with another codec: its versions start over, and the
recording of the session takes its packets behind the old descriptor. -/
theorem returned_undescribed : (step (exec step { maxRecordings := 1 } (sampleEvents ++ [.leave 1]))
      (sampleInbound sampleG722 [2])).2 = [⟨0, ⟨sampleRemote, sampleLocal, .rtp [2]⟩⟩] ∧
    lastDescriptor (flow sampleRemote sampleLocal)
      (sentTo 0 (enqueued (trace step { maxRecordings := 1 } (sampleEvents ++ [.leave 1])))) =
      some (endpointStreamDescriptor 1 samplePcmu (some sampleLocal) (some sampleRemote)) :=
  ⟨rfl, by decide +kernel⟩

end RecordingManager

end RtpBridge.Recorder
