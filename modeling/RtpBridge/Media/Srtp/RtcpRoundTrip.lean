/-
SRTCP over whole runs: the index on the wire and the round trip.
-/
import RtpBridge.Base.Machine
import RtpBridge.Media.Srtp.Context
import RtpBridge.Media.Srtp.Rtcp

namespace RtpBridge.Srtp

open Wire CounterMode List Machine

variable {ctx start : SrtcpContext} {st : SrtcpRecvState}

structure SentRtcp where
  packet : Bytes
  datagram : Bytes
deriving DecidableEq

variable {before sent : List SentRtcp} {x : SentRtcp}

namespace SentRtcp

def ssrc (x : SentRtcp) : UInt32 := rtcpSsrc x.packet

def index (x : SentRtcp) : UInt32 := SrtcpContext.wireIndex x.datagram

def key (x : SentRtcp) : UInt32 × Nat := (x.ssrc, x.index.toNat)

end SentRtcp

namespace SrtcpContext

variable (P : Primitives)

/-! ## One packet -/

section

variable (ctx : SrtcpContext) (ssrc index : UInt32) (packet : Bytes)

theorem length_cryptRtcp : (ctx.cryptRtcp P ssrc index packet).length = packet.length := by
  unfold cryptRtcp
  split
  · simp
    omega
  · rfl

theorem take_cryptRtcp : (ctx.cryptRtcp P ssrc index packet).take 8 = packet.take 8 := by
  unfold cryptRtcp
  split
  · exact take_left' (by simp; omega)
  · rfl

theorem cryptRtcp_cryptRtcp :
    ctx.cryptRtcp P ssrc index (ctx.cryptRtcp P ssrc index packet) = packet := by
  by_cases hl : 8 < packet.length
  · have ho : 8 < (ctx.cryptRtcp P ssrc index packet).length := by
      rwa [length_cryptRtcp]
    rw [cryptRtcp, if_pos ho, take_cryptRtcp, cryptRtcp, if_pos hl,
      drop_left' (by simp; omega), aes128Ctr_aes128Ctr, take_append_drop]
  have ho : ¬ 8 < (ctx.cryptRtcp P ssrc index packet).length := by
    rwa [length_cryptRtcp]
  rw [cryptRtcp, if_neg ho, cryptRtcp, if_neg hl]

end

theorem flag_index {index : UInt32} (h : index.toNat < 2 ^ 31) :
    (0x80000000 ||| index) &&& 0x80000000 ≠ 0 ∧ (0x80000000 ||| index) &&& 0x7FFFFFFF = index := by
  have hor : (0x80000000 ||| index).toNat = 2 ^ 31 + index.toNat := by
    have ha := Nat.shiftLeft_add_eq_or_of_lt (i := 31) h 1
    exact ha.symm
  constructor
  · intro hz
    have hb := congrArg (fun x : UInt32 => x.toNat.testBit 31) hz
    grind [UInt32.toNat_and]
  apply UInt32.toNat_inj.mp
  have hm : (0x7FFFFFFF : UInt32).toNat = 2 ^ 31 - 1 := rfl
  rw [UInt32.toNat_and, hm, Nat.and_two_pow_sub_one_eq_mod]
  omega

theorem sealRtcp_facts (ctx : SrtcpContext) {index : UInt32} {packet : Bytes}
    (hl : 8 ≤ packet.length) (hi : index.toNat < 2 ^ 31) :
    let datagram := ctx.sealRtcp P index packet
    wireIndex datagram = index ∧ rtcpSsrc datagram = rtcpSsrc packet ∧
      ctx.Verifies P datagram ∧ ctx.openRtcp P datagram = packet := by
  intro datagram
  obtain ⟨hfl, hm⟩ := flag_index hi
  let body := ctx.cryptRtcp P (rtcpSsrc packet) index packet
  let word := beBytes 4 (0x80000000 ||| index).toNat
  let tag := ctx.rtcpTag P (body ++ word)
  have hb : body.length = packet.length := length_cryptRtcp P ctx _ _ _
  have hta : tag.length = 10 := length_authTag _ _ _
  have hs : datagram = body ++ (word ++ tag) := append_assoc _ _ _
  have hc : datagram.length - srtpAuthTagLen = (body ++ word).length := by
    simp only [hs, srtpAuthTagLen, length_append]
    omega
  have hst : datagram.length - srtpAuthTagLen - 4 = body.length := by
    rw [hc]
    simp [word]
  have hw : u32At datagram body.length = 0x80000000 ||| index := by
    rw [hs]
    exact u32At_append_beBytes body tag (0x80000000 ||| index)
  have ht : datagram.take 8 = packet.take 8 := by
    have hf : body.take 8 = packet.take 8 := take_cryptRtcp P ctx _ _ _
    rw [hs, take_append_of_le_length (by omega), hf]
  have hss : rtcpSsrc datagram = rtcpSsrc packet := u32At_of_take_eq ht (by decide)
  have hwi : wireIndex datagram = index := by
    rw [wireIndex, hst, hw, hm]
  refine ⟨hwi, hss, ⟨?_, ?_⟩, ?_⟩
  · simp only [hs, length_append, word, length_beBytes]
    omega
  · rw [hc, show datagram = (body ++ word) ++ tag from rfl, take_left' rfl, drop_left' rfl]
  · rw [openRtcp, hst, hw, if_pos hfl, hss, hwi, hs, take_left' rfl]
    exact cryptRtcp_cryptRtcp P ctx _ _ _

/-! ## The sender -/

def send (ctx : SrtcpContext) (packet : Bytes) : SrtcpContext × Option SentRtcp :=
  let (ctx', result) := ctx.protectRtcp P packet
  (ctx', match result with
    | .ok datagram => some { packet := packet, datagram := datagram }
    | .error _ => none)

def sentPackets (ctx : SrtcpContext) (packets : List Bytes) : List SentRtcp :=
  (trace (send P) ctx packets).filterMap Prod.snd

structure Numbered (start : SrtcpContext) (sent : List SentRtcp) (ctx : SrtcpContext) : Prop where
  keys : ctx.SameKeys start
  total : ctx.protectedPacketsTotal = sent.length
  bound : sent.length ≤ maxSrtcpPacketsPerMasterKey
  indices : sent.map (fun x => x.index.toNat) = List.range sent.length
  sealed : ∀ x ∈ sent, 8 ≤ x.packet.length ∧ x.index.toNat < 2 ^ 31 ∧
    x.datagram = start.sealRtcp P x.index x.packet

theorem Numbered.send (h : Numbered P start sent ctx) (packet : Bytes) :
    Numbered P start (sent ++ (ctx.send P packet).2.toList) (ctx.send P packet).1 := by
  rcases ctx.protectRtcp_cases P packet with
    ⟨hl, ht, ho⟩ | ⟨⟨e, he⟩, -, ht, hk⟩
  · have hi : ctx.srtcpIndex.toNat = sent.length := by
      rw [ctx.index_eq, h.total]
      rw [h.total] at ht
      exact Nat.mod_eq_of_lt ht
    have hlt : ctx.srtcpIndex.toNat < 2 ^ 31 := by
      rw [hi, ← h.total]
      exact ht
    have hwi := (ctx.sealRtcp_facts P hl hlt).1
    simp only [SrtcpContext.send, ho, Option.toList_some]
    refine ⟨h.keys, ?_, ?_, ?_, ?_⟩
    · simp [advance, setSendCount, h.total]
    · rw [length_append, ← h.total]
      exact ht
    · rw [map_append, h.indices, length_append]
      simp only [SentRtcp.index, map_cons, map_nil, hwi, hi, length_cons, length_nil, range_succ]
    intro x hx
    rcases mem_append.mp hx with hx | hx
    · exact h.sealed x hx
    grind [SentRtcp.index, h.keys.sealRtcp]
  · have hn : (ctx.send P packet).2 = none := by
      simp only [SrtcpContext.send, he]
    rw [hn, Option.toList_none, append_nil]
    exact ⟨hk.trans h.keys, ht.trans h.total, h.bound, h.indices, h.sealed⟩

theorem numbered_run (hf : start.protectedPacketsTotal = 0) (packets : List Bytes) :
    Numbered P start (start.sentPackets P packets)
      (exec (SrtcpContext.send P) start packets) := by
  refine history_induction
    (P := fun tr s => Numbered P start (tr.filterMap Prod.snd) s) ?_ ?_ packets
  · exact ⟨⟨rfl, rfl, rfl⟩, hf, Nat.zero_le _, rfl, by simp⟩
  intro tr s packet h
  have hs := h.send P packet
  grind

theorem Numbered.nodup (h : Numbered P start sent ctx) :
    sent.Pairwise fun x y => x.index ≠ y.index := by
  have hr : (sent.map fun x => x.index.toNat).Nodup := h.indices ▸ nodup_range
  refine (pairwise_map.mp hr).imp fun {x y} hne heq => ?_
  exact hne (congrArg UInt32.toNat heq)

theorem Numbered.key_inj (h : Numbered P start sent ctx) {y : SentRtcp} (hx : x ∈ sent)
    (hy : y ∈ sent) (hk : x.key = y.key) : x = y := by
  have hr : (sent.map fun x => x.index.toNat).Nodup := h.indices ▸ nodup_range
  exact inj_on_of_nodup_map hr hx hy (congrArg Prod.snd hk)

def sentIv (ctx : SrtcpContext) (x : SentRtcp) : Bytes :=
  computeSrtcpIv ctx.cipherSalt x.ssrc x.index

theorem Numbered.ivs (h : Numbered P start sent ctx) :
    sent.Pairwise fun x y => start.sentIv x ≠ start.sentIv y := by
  refine (h.nodup P).imp fun {x y} hne heq => ?_
  have hw : ∀ i : UInt32, i.toUInt64.toNat < 2 ^ 48 := by
    intro i
    have hi := i.toNat_lt
    rw [UInt32.toNat_toUInt64]
    omega
  have hsame := (ivBlock_take_inj (hw x.index) (hw y.index)
    (congrArg (List.take 14) heq)).2
  apply hne
  apply UInt32.toNat_inj.mp
  have hn := congrArg UInt64.toNat hsame
  rwa [UInt32.toNat_toUInt64] at hn

end SrtcpContext

/-! ## The receiver -/

namespace SentRtcp

/-- A delivery after `before`, newest first: a repetition, or an index less than 64
behind the highest of its SSRC. -/
def InReach (before : List SentRtcp) (x : SentRtcp) : Prop :=
  x ∈ before ∨ ∀ h ∈ Window.highestOf (before.map key) x.ssrc, h < x.index.toNat + 64

instance (before : List SentRtcp) (x : SentRtcp) : Decidable (InReach before x) :=
  inferInstanceAs (Decidable (_ ∨ _))

def Deliverable : List SentRtcp → List SentRtcp → Prop
  | _, [] => True
  | before, x :: rest => InReach before x ∧ Deliverable (x :: before) rest

instance instDecidableDeliverable :
    ∀ before deliveries : List SentRtcp, Decidable (Deliverable before deliveries)
  | _, [] => isTrue trivial
  | before, x :: rest =>
    let _ := instDecidableDeliverable (x :: before) rest
    inferInstanceAs (Decidable (InReach before x ∧ Deliverable (x :: before) rest))

/-- What the receiver should answer: the packet on its first delivery, nothing on
any other. -/
def firstDeliveries : List SentRtcp → List SentRtcp → List (Option Bytes)
  | _, [] => []
  | before, x :: rest =>
    (if x ∈ before then none else some x.packet) :: firstDeliveries (x :: before) rest

def deliveredCount (deliveries : List SentRtcp) (ssrc : UInt32) : Nat :=
  deliveries.dedup.countP fun x => x.ssrc = ssrc

theorem deliveredCount_mono {all : List SentRtcp} (h : ∀ x ∈ before, x ∈ all) (ssrc : UInt32) :
    deliveredCount before ssrc ≤ deliveredCount all ssrc := by
  refine List.Subperm.countP_le _ (subperm_of_subset (nodup_dedup _) fun x hx => ?_)
  exact mem_dedup.mpr (h x (mem_dedup.mp hx))

end SentRtcp

namespace SrtcpContext

variable (P : Primitives)

def window (ctx : SrtcpContext) (ssrc : UInt32) : Option (Window 64) :=
  (ctx.recvState ssrc).window?

structure InSync (start : SrtcpContext) (before : List SentRtcp) (ctx : SrtcpContext) : Prop where
  keys : ctx.SameKeys start
  lifetime : ctx.packetLifetime = start.packetLifetime
  recorded : Window.RecordsAll ctx.window (before.map SentRtcp.key)
  counts : ∀ ssrc, (ctx.recvState ssrc).acceptedPackets = SentRtcp.deliveredCount before ssrc
  known : ∀ ssrc ∈ ctx.recvStreams, ssrc ∈ before.map SentRtcp.ssrc

theorem mem_setRecvState {ssrc s : UInt32} :
    s ∈ (ctx.setRecvState ssrc st).recvStreams ↔ s = ssrc ∨ s ∈ ctx.recvStreams :=
  AList.mem_insert _

theorem setRecvState_received (ctx : SrtcpContext) {ssrc : UInt32} {st' : SrtcpRecvState} {i : Nat}
    (hi : st.recvIndexInitialized = true)
    (hw : Window.receive (ctx.window ssrc) i = some st.window) (hst : st'.window? = st.window?) :
    Window.Received ctx.window (ctx.setRecvState ssrc st').window ssrc i := by
  refine ⟨⟨st.window, hw, ?_⟩, fun s hs => ?_⟩
  · rw [window, recvState_setRecvState_self, hst, SrtcpRecvState.window?_eq_some hi]
  · rw [window, recvState_setRecvState_ne ctx _ hs, window]

theorem InSync.accept (h : InSync start before ctx) (hn : x ∉ before)
    (hm : Window.Received ctx.window (ctx.setRecvState x.ssrc st).window x.ssrc x.index.toNat)
    (hc : st.acceptedPackets = (ctx.recvState x.ssrc).acceptedPackets + 1) :
    InSync start (x :: before) (ctx.setRecvState x.ssrc st) := by
  refine ⟨h.keys, h.lifetime, ?_, fun ssrc => ?_, fun ssrc hme => ?_⟩
  · refine (h.recorded.received hm).of_mem_iff fun y => ?_
    simp [SentRtcp.key, or_comm]
  · simp only [SentRtcp.deliveredCount, dedup_cons_of_notMem hn]
    by_cases hs : ssrc = x.ssrc
    · rw [hs]
      simp [hc, h.counts, SentRtcp.deliveredCount]
    · rw [recvState_setRecvState_ne ctx _ hs, h.counts]
      simp [SentRtcp.deliveredCount, Ne.symm hs]
  rw [map_cons, mem_cons]
  rcases mem_setRecvState.mp hme with hs | hs
  · exact Or.inl hs
  · exact Or.inr (h.known ssrc hs)

theorem InSync.refuse {ctx' : SrtcpContext} (h : InSync start before ctx) (hold : x ∈ before)
    (hc : ctx' = ctx ∨ ctx' = ctx.setRecvState x.ssrc (ctx.recvState x.ssrc)) :
    InSync start (x :: before) ctx' := by
  have hsame : ∀ ssrc, ctx'.recvState ssrc = ctx.recvState ssrc := by
    intro ssrc
    rcases hc with rfl | rfl
    · rfl
    by_cases hs : ssrc = x.ssrc
    · rw [hs, recvState_setRecvState_self]
    · rw [recvState_setRecvState_ne ctx _ hs]
  have hk : ctx'.SameKeys ctx ∧ ctx'.packetLifetime = ctx.packetLifetime := by
    rcases hc with rfl | rfl <;> exact ⟨⟨rfl, rfl, rfl⟩, rfl⟩
  refine ⟨hk.1.trans h.keys, hk.2.trans h.lifetime, ?_, fun ssrc => ?_, fun ssrc hme => ?_⟩
  · have hw : ctx'.window = ctx.window := by
      funext ssrc
      rw [window, window, hsame]
    grind [h.recorded.of_mem_iff]
  · rw [hsame, h.counts, SentRtcp.deliveredCount, SentRtcp.deliveredCount, dedup_cons_of_mem hold]
  rw [map_cons, mem_cons]
  rcases hc with rfl | rfl
  · exact Or.inr (h.known ssrc hme)
  rcases mem_setRecvState.mp hme with hs | hs
  · exact Or.inl hs
  · exact Or.inr (h.known ssrc hs)

theorem InSync.deliver (h : InSync start before ctx) (hl : 8 ≤ x.packet.length)
    (hi : x.index.toNat < 2 ^ 31) (hd : x.datagram = start.sealRtcp P x.index x.packet)
    (hre : SentRtcp.InReach before x) (hij : ∀ y ∈ before, y.key = x.key → y = x)
    (hro : x.ssrc ∈ ctx.recvStreams ∨ HashMap.size ctx.recvStreams < maxRecvSsrcs)
    (hco : x ∉ before → SentRtcp.deliveredCount before x.ssrc < start.packetLifetime) :
    ((ctx.unprotectRtcp P x.datagram).2.toOption = if x ∈ before then none else some x.packet) ∧
      InSync start (x :: before) (ctx.unprotectRtcp P x.datagram).1 := by
  rw [← h.keys.sealRtcp P] at hd
  obtain ⟨hwi, hss, hve, ho⟩ := ctx.sealRtcp_facts P hl hi
  rw [← hd] at hwi hss hve ho
  have how : rtcpSsrc x.datagram = x.ssrc := hss
  have hs := (ctx.recvState x.ssrc).checkReplay_spec x.index
  have hu := ctx.unprotectedRtcp P x.datagram
  generalize ctx.unprotectRtcp P x.datagram = result at hu
  by_cases hold : x ∈ before
  · have hr := h.recorded.refuses (mem_map_of_mem (f := SentRtcp.key) hold)
    rw [if_pos hold]
    cases hu with
    | refused => exact ⟨rfl, h.refuse hold (Or.inl rfl)⟩
    | spent => exact ⟨rfl, h.refuse hold (Or.inr (by rw [how]))⟩
    | opened _ hc =>
      rw [how, hwi] at hc
      rcases hs with ⟨st', -, -, hw, -⟩ | ⟨e, hc', -⟩
      · cases hr.symm.trans hw
      · cases hc.symm.trans hc'
  rw [if_neg hold]
  cases hu with
  | refused hn =>
    refine absurd ⟨hve, how.symm ▸ ⟨hro, ?_⟩⟩ hn
    rw [h.counts, h.lifetime]
    exact hco hold
  | spent hsp =>
    rw [how, hwi, h.counts, h.lifetime] at hsp
    have hf : (Window.receive (ctx.window x.ssrc) x.index.toNat).isSome = true := by
      refine (h.recorded x.ssrc).receive_isSome ?_ fun v hv => ?_
      · intro hme
        obtain ⟨y, hy, hk⟩ := mem_map.mp hme
        exact hold (hij y hy hk ▸ hy)
      have hn := hre.resolve_left hold
      rw [h.recorded.highestOf_eq, hv] at hn
      exact hn v.highest rfl
    grind [window]
  | opened _ hc =>
    rw [how, hwi] at hc
    rcases hs with ⟨st', hc', hin, hw, ha⟩ | ⟨e, hc', -⟩
    · cases hc.symm.trans hc'
      rw [ho, how]
      exact ⟨rfl, h.accept hold (ctx.setRecvState_received hin hw rfl) (by simp only [ha])⟩
    · cases hc.symm.trans hc'

theorem InSync.run {ctx₀ : SrtcpContext} (hse : Numbered P start sent ctx₀) {ssrcs : List UInt32}
    (hf : ssrcs.dedup.length ≤ maxRecvSsrcs) (rest : List SentRtcp) (h : InSync start before ctx)
    (hsu : ∀ x, x ∈ before ∨ x ∈ rest → x ∈ sent ∧ x.ssrc ∈ ssrcs)
    (hne : SentRtcp.Deliverable before rest)
    (hc : ∀ all : List SentRtcp, (∀ x ∈ all, x ∈ before ∨ x ∈ rest) →
      ∀ ssrc, SentRtcp.deliveredCount all ssrc ≤ start.packetLifetime) :
    (trace (SrtcpContext.unprotectRtcp P) ctx (rest.map SentRtcp.datagram)).map
        (fun r => r.2.toOption) = SentRtcp.firstDeliveries before rest := by
  induction rest generalizing before ctx with
  | nil => rfl
  | cons x rest ih =>
    obtain ⟨hx, hxs⟩ := hsu x (by simp)
    obtain ⟨hl, hi, hd⟩ := hse.sealed x hx
    have hij : ∀ y ∈ before, y.key = x.key → y = x :=
      fun y hy hk => hse.key_inj P (hsu y (Or.inl hy)).1 hx hk
    have hro : x.ssrc ∈ ctx.recvStreams ∨
        HashMap.size ctx.recvStreams < maxRecvSsrcs := by
      by_cases hme : x.ssrc ∈ ctx.recvStreams
      · exact Or.inl hme
      right
      refine Nat.lt_of_lt_of_le
        (HashMap.size_lt_of_mem (fun s hs => ?_) hxs hme) hf
      obtain ⟨y, hy, rfl⟩ := mem_map.mp (h.known s hs)
      exact (hsu y (Or.inl hy)).2
    have hco : x ∉ before → SentRtcp.deliveredCount before x.ssrc < start.packetLifetime := by
      intro hnw
      have hal := hc (x :: before) (fun y hy => by
        rcases mem_cons.mp hy with rfl | hy
        · simp
        · exact Or.inl hy) x.ssrc
      simp only [SentRtcp.deliveredCount, dedup_cons_of_notMem hnw]
        at hal ⊢
      simp at hal
      omega
    obtain ⟨ha, hn⟩ :=
      h.deliver P hl hi hd hne.1 hij hro hco
    have hm : ∀ y, y ∈ x :: before ∨ y ∈ rest → y ∈ before ∨ y ∈ x :: rest := by
      intro y hy
      simp only [mem_cons] at hy ⊢
      tauto
    simp only [map_cons, trace_cons, SentRtcp.firstDeliveries, ha]
    rw [ih hn (fun y hy => hsu y (hm y hy)) hne.2
      (fun all hal => hc all fun y hy => hm y (hal y hy))]

theorem fromSdesKeyWithLifetime_fresh {key : Text} {life : Nat}
    (h : fromSdesKeyWithLifetime P key life = .ok ctx) :
    ctx.recvStreams = ∅ ∧ ctx.protectedPacketsTotal = 0 := by
  obtain ⟨-, material, -, -, rfl⟩ := fromSdesKeyWithLifetime_eq_ok.mp h
  exact ⟨rfl, rfl⟩

theorem fromSdesKeyWithLifetime_sameKeys {key : Text} {life life' : Nat} {a b : SrtcpContext}
    (ha : fromSdesKeyWithLifetime P key life = .ok a)
    (hb : fromSdesKeyWithLifetime P key life' = .ok b) : a.SameKeys b := by
  obtain ⟨-, material, hk, -, rfl⟩ := fromSdesKeyWithLifetime_eq_ok.mp ha
  obtain ⟨-, material', hk', -, rfl⟩ := fromSdesKeyWithLifetime_eq_ok.mp hb
  rw [hk] at hk'
  cases hk'
  exact ⟨rfl, rfl, rfl⟩

theorem inSync_start (he : ctx.recvStreams = ∅) : InSync ctx [] ctx := by
  have hs : ∀ ssrc, ctx.recvState ssrc = {} := by
    intro ssrc
    rw [recvState, he]
    rfl
  refine ⟨⟨rfl, rfl, rfl⟩, rfl, fun ssrc => ?_, fun ssrc => ?_, fun ssrc hme => ?_⟩
  · rw [window, hs]
    exact fun i hi => absurd hi not_mem_nil
  · rw [hs]
    rfl
  · rw [he] at hme
    exact absurd hme (AList.notMem_empty ssrc)

theorem Numbered.sameKeys {a b : SrtcpContext} (h : Numbered P a sent ctx) (hk : a.SameKeys b) :
    Numbered P b sent ctx :=
  ⟨h.keys.trans hk, h.total, h.bound, h.indices, fun x hx =>
    ⟨(h.sealed x hx).1, (h.sealed x hx).2.1, (h.sealed x hx).2.2.trans (hk.sealRtcp P _ _)⟩⟩

/-- A new context numbers the packets it protects from zero, over any run of calls,
and refuses after `2 ^ 31` of them, so all its counter blocks differ.  A second
context with the same key opens each of these datagrams the first time it arrives
and refuses it after that, in any order in which no first arrival is 64 or more
behind the highest of its SSRC. -/
theorem srtcp_index_and_round_trip {key : Text} {lifeTx lifeRx : Nat} {tx rx : SrtcpContext}
    (htx : fromSdesKeyWithLifetime P key lifeTx = .ok tx)
    (hrx : fromSdesKeyWithLifetime P key lifeRx = .ok rx) (packets : List Bytes)
    {deliveries : List SentRtcp} (hsub : ∀ x ∈ deliveries, x ∈ tx.sentPackets P packets)
    (hssrcs : (deliveries.map SentRtcp.ssrc).dedup.length ≤ 64)
    (hnet : SentRtcp.Deliverable [] deliveries)
    (hlife : ∀ ssrc, SentRtcp.deliveredCount deliveries ssrc ≤ rx.packetLifetime) :
    ((tx.sentPackets P packets).map fun x => x.index.toNat) =
      List.range (tx.sentPackets P packets).length ∧
    (tx.sentPackets P packets).length ≤ 2 ^ 31 ∧
    (exec (send P) tx packets).srtcpIndex.toNat = (tx.sentPackets P packets).length % 2 ^ 31 ∧
    ((tx.sentPackets P packets).length = 2 ^ 31 → ∀ packet, ∃ e,
      ((exec (send P) tx packets).protectRtcp P packet).2 = .error e) ∧
    (∀ x ∈ tx.sentPackets P packets, x.datagram = tx.sealRtcp P x.index x.packet) ∧
    ((tx.sentPackets P packets).Pairwise fun x y => tx.sentIv x ≠ tx.sentIv y) ∧
    (trace (unprotectRtcp P) rx (deliveries.map SentRtcp.datagram)).map
      (fun r => r.2.toOption) = SentRtcp.firstDeliveries [] deliveries := by
  obtain ⟨-, hfresh⟩ := fromSdesKeyWithLifetime_fresh P htx
  obtain ⟨hempty, -⟩ := fromSdesKeyWithLifetime_fresh P hrx
  have hkeys := fromSdesKeyWithLifetime_sameKeys P htx hrx
  have hsent := numbered_run P hfresh packets
  refine ⟨hsent.indices, hsent.bound, ?_, fun hfull packet => ?_,
    fun x hx => (hsent.sealed x hx).2.2, hsent.ivs P, ?_⟩
  · rw [index_eq, hsent.total]
  · rcases (exec (send P) tx packets).protectRtcp_cases P packet with
      ⟨-, htotal, -⟩ | ⟨herr, -⟩
    · rw [hsent.total, hfull] at htotal
      exact absurd htotal (Nat.lt_irrefl _)
    · exact herr
  refine InSync.run P (hsent.sameKeys P hkeys) hssrcs deliveries (inSync_start hempty)
    (fun x hx => ?_) hnet (fun all hall ssrc => ?_)
  · have hmem : x ∈ deliveries := hx.resolve_left not_mem_nil
    exact ⟨hsub x hmem, mem_map_of_mem hmem⟩
  · refine Nat.le_trans (SentRtcp.deliveredCount_mono (fun x hx => ?_) ssrc) (hlife ssrc)
    exact (hall x hx).resolve_left not_mem_nil

def sampleContext : SrtcpContext :=
  { cipherKey := #v[76, 26, 164, 90, 129, 247, 61, 97, 200, 0, 187, 176, 15, 187, 30, 170],
    cipherSalt := #v[149, 129, 199, 173, 135, 179, 229, 48, 191, 62, 68, 84, 168, 179],
    authKey := #v[141, 84, 83, 79, 235, 73, 174, 142, 121, 147, 166, 189, 11, 132, 79, 195,
      35, 169, 61, 253],
    srtcpIndex := 0,
    recvStreams := ∅,
    sendStreams := ∅,
    protectedPacketsTotal := 0,
    packetLifetime := 2 ^ 31,
    index_eq := index_zero }

theorem sampleContext_eq :
    fromSdesKeyWithLifetime .reference sampleKey (2 ^ 48) = .ok sampleContext := by
  rfl

def samplePackets : List Bytes :=
  [[0x80, 201, 0, 1, 0x11, 0x22, 0x33, 0x44], [0x80, 201],
   [0x81, 203, 0, 2, 0x55, 0x66, 0x77, 0x88, 1, 2, 3, 4]]

def sampleFirst : SentRtcp :=
  { packet := [0x80, 201, 0, 1, 0x11, 0x22, 0x33, 0x44],
    datagram := [128, 201, 0, 1, 17, 34, 51, 68, 128, 0, 0, 0,
      46, 100, 19, 172, 194, 76, 173, 224, 125, 69] }

def sampleSecond : SentRtcp :=
  { packet := [0x81, 203, 0, 2, 0x55, 0x66, 0x77, 0x88, 1, 2, 3, 4],
    datagram := [129, 203, 0, 2, 85, 102, 119, 136, 168, 145, 220, 1, 128, 0, 0, 1,
      82, 204, 212, 141, 168, 112, 50, 163, 31, 167] }

theorem samplePackets_sent :
    sampleContext.sentPackets .reference samplePackets = [sampleFirst, sampleSecond] := by
  decide +kernel

theorem sampleDeliveries_sent : ∀ x ∈ [sampleSecond, sampleFirst, sampleSecond],
    x ∈ sampleContext.sentPackets .reference samplePackets := by
  rw [samplePackets_sent]
  decide

theorem samplePackets_round_trip : (trace (unprotectRtcp .reference) sampleContext
      ([sampleSecond, sampleFirst, sampleSecond].map SentRtcp.datagram)).map
        (fun r => r.2.toOption) =
      [some sampleSecond.packet, some sampleFirst.packet, none] := by
  have hround := srtcp_index_and_round_trip .reference sampleContext_eq sampleContext_eq
    samplePackets sampleDeliveries_sent (by decide) (by decide)
    (fun ssrc => Nat.le_trans countP_le_length (by decide))
  exact hround.2.2.2.2.2.2

end SrtcpContext
end RtpBridge.Srtp
