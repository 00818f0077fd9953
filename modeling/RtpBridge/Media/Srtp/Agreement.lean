/-
Sender and receiver agree.
-/
import RtpBridge.Media.Srtp.Keystream
import RtpBridge.Media.Srtp.Replay

namespace RtpBridge.Srtp

open Wire SrtpStreamState List Machine

variable {sent : List Sent}

namespace SrtpContext

variable (P : Primitives)

variable {life : Nat} {ctx : SrtpContext}

theorem fromSdesKeyWithLifetime_fresh {key : Text}
    (h : fromSdesKeyWithLifetime P key life = .ok ctx) :
    ctx.streams = ∅ ∧ ctx.packetLifetime = life := by
  obtain ⟨-, material, -, -, rfl⟩ := fromSdesKeyWithLifetime_eq_ok.mp h
  exact ⟨rfl, rfl⟩

theorem fromSdesKeyWithLifetime_sameKeys {key : Text} {life' : Nat} {a b : SrtpContext}
    (ha : fromSdesKeyWithLifetime P key life = .ok a)
    (hb : fromSdesKeyWithLifetime P key life' = .ok b) : a.SameKeys b := by
  obtain ⟨-, material, hk, -, rfl⟩ := fromSdesKeyWithLifetime_eq_ok.mp ha
  obtain ⟨-, material', hk', -, rfl⟩ := fromSdesKeyWithLifetime_eq_ok.mp hb
  rw [hk] at hk'
  cases hk'
  exact ⟨rfl, rfl, rfl⟩

theorem stream_of_empty (h : ctx.streams = ∅) (ssrc : UInt32) : ctx.stream ssrc = {} := by
  rw [stream, h]
  rfl

theorem mem_setStream {ssrc s : UInt32} {st : SrtpStreamState} :
    s ∈ (ctx.setStream ssrc st).streams ↔ s = ssrc ∨ s ∈ ctx.streams :=
  AList.mem_insert _

/-! ## Every packet is protected -/

def ssrcCount (packets : List Bytes) (ssrc : UInt32) : Nat :=
  packets.countP fun p => rtpSsrc p = ssrc

structure AllSent (life : Nat) (packets : List Bytes) (sent : List Sent) (ctx : SrtpContext) :
    Prop where
  complete : sent.map Sent.packet = packets
  counts : ∀ ssrc, (ctx.stream ssrc).protectedPackets = ssrcCount packets ssrc
  known : ∀ ssrc ∈ ctx.streams, ssrc ∈ packets.map rtpSsrc
  lifetime : ctx.packetLifetime = life

theorem AllSent.send {packets : List Bytes} (h : AllSent life packets sent ctx) {packet : Bytes}
    (hh : (rtpHeaderLen packet).isSome = true)
    (hss : ((packets ++ [packet]).map rtpSsrc).dedup.length ≤ maxSendSsrcs)
    (hco : ssrcCount (packets ++ [packet]) (rtpSsrc packet) ≤ life) :
    AllSent life (packets ++ [packet]) (sent ++ (ctx.send P packet).2.toList)
      (ctx.send P packet).1 := by
  have hca : ctx.CanSend (rtpSsrc packet) := by
    refine ⟨?_, ?_⟩
    · by_cases hm : rtpSsrc packet ∈ ctx.streams
      · exact Or.inl hm
      right
      have ho : rtpSsrc packet ∈ (packets ++ [packet]).map rtpSsrc := by simp
      refine Nat.lt_of_lt_of_le (HashMap.size_lt_of_mem (fun s hs => ?_) ho hm) hss
      rw [map_append]
      exact mem_append_left _ (h.known s hs)
    · grind [h.counts, h.lifetime, ssrcCount]
  rcases ctx.send_cases P hh with
    ⟨x, hx, hp, hsr, -, -, hk, st, hct, hpr, -, -⟩ | ⟨-, hc, -⟩
  · rw [hx, hct]
    refine ⟨by simp [h.complete, hp], fun ssrc => ?_, fun ssrc hm => ?_, h.lifetime⟩
    · by_cases hs : rtpSsrc packet = ssrc
      · rw [← hs, stream_setStream_self, hpr, h.counts]
        simp [ssrcCount]
      · rw [stream_setStream_ne ctx st (fun h' => hs h'.symm), h.counts]
        simp [ssrcCount, hs]
    rw [map_append, mem_append]
    rcases mem_setStream.mp hm with hs | hs
    · simp [hs]
    · exact Or.inl (h.known ssrc hs)
  · exact absurd hca hc

theorem allSent_run (he : ctx.streams = ∅) (hl : ctx.packetLifetime = life)
    {packets : List Bytes} (hru : SendRun P ctx packets)
    (hss : (packets.map rtpSsrc).dedup.length ≤ maxSendSsrcs)
    (hc : ∀ ssrc, ssrcCount packets ssrc ≤ life) :
    (ctx.sentPackets P packets).map Sent.packet = packets := by
  have hpr : Along (SrtpContext.send P) _ ctx packets := along_prefix ctx packets
  have hb := AlongFrom.and hru hpr
  have ha := along_induction
    (P := fun tr s => AllSent life (tr.map Prod.fst) (tr.filterMap Prod.snd) s) ?_ ?_ hb
  · have hp := ha.complete
    rwa [trace_inputs] at hp
  · refine ⟨rfl, fun ssrc => ?_, fun ssrc hm => ?_, hl⟩
    · rw [stream_of_empty he]
      rfl
    · rw [he] at hm
      exact absurd hm (AList.notMem_empty ssrc)
  rintro tr s packet ⟨hsp, rest, hr⟩ h
  have hsu : (tr.map Prod.fst ++ [packet]).Sublist packets := by
    rw [hr]
    exact (List.Sublist.refl _).append (singleton_sublist.mpr (by simp))
  have hf : ((tr.map Prod.fst ++ [packet]).map rtpSsrc).dedup.length ≤ maxSendSsrcs := by
    refine Nat.le_trans (List.Subperm.length_le ?_) hss
    refine subperm_of_subset (nodup_dedup _) fun s hs => ?_
    exact mem_dedup.mpr ((hsu.map rtpSsrc).subset (mem_dedup.mp hs))
  have hst := h.send P hsp.1 hf
    (Nat.le_trans (List.Sublist.countP_le hsu) (hc _))
  cases ho : (s.send P packet).2 with
  | none => simpa [ho] using hst
  | some x => simpa [ho] using hst

end SrtpContext

/-! ## Every delivered datagram is opened -/

namespace Sent

def key (x : Sent) : UInt32 × Nat := (x.ssrc, x.index.toNat)

/-- A packet the network may deliver after `before`. -/
def InReach (before : List Sent) (x : Sent) : Prop :=
  x ∉ before ∧
    (Window.highestOf (before.map key) x.ssrc = none → x.index.toNat < 2 ^ 16) ∧
    ∀ h ∈ Window.highestOf (before.map key) x.ssrc,
      x.index.toNat < h + 2 ^ 15 ∧ h < x.index.toNat + 64

instance (before : List Sent) (x : Sent) : Decidable (InReach before x) :=
  inferInstanceAs (Decidable (_ ∧ _ ∧ _))

def Deliverable : List Sent → List Sent → Prop
  | _, [] => True
  | before, x :: rest => InReach before x ∧ Deliverable (before ++ [x]) rest

instance instDecidableDeliverable :
    ∀ before delivered : List Sent, Decidable (Deliverable before delivered)
  | _, [] => isTrue trivial
  | before, x :: rest =>
    let _ := instDecidableDeliverable (before ++ [x]) rest
    inferInstanceAs (Decidable (InReach before x ∧ Deliverable (before ++ [x]) rest))

def deliveredCount (delivered : List Sent) (ssrc : UInt32) : Nat :=
  delivered.countP fun x => x.ssrc = ssrc

end Sent

namespace SrtpContext

variable (P : Primitives)

structure InSync (start : SrtpContext) (delivered : List Sent) (ctx : SrtpContext) : Prop where
  keys : ctx.SameKeys start
  lifetime : ctx.packetLifetime = start.packetLifetime
  recorded : Window.RecordsAll ctx.window (delivered.map Sent.key)
  counts : ∀ ssrc, (ctx.stream ssrc).acceptedPackets = Sent.deliveredCount delivered ssrc
  known : ∀ ssrc ∈ ctx.streams, ssrc ∈ delivered.map Sent.ssrc

variable {ctx start : SrtpContext} {delivered : List Sent} {x : Sent}

section

variable (h : InSync start delivered ctx)
include h

theorem InSync.estimate_eq {roc : UInt32} {seq : UInt16}
    (hin : x.index = packetIndex roc seq) (hr : Sent.InReach delivered x) :
    (ctx.stream x.ssrc).estimateRoc seq = (roc, packetIndex roc seq) := by
  obtain ⟨-, hf, hn⟩ := hr
  rw [h.recorded.highestOf_eq, window] at hf hn
  cases hi : (ctx.stream x.ssrc).seqInitialized with
  | false =>
    have hz : roc = 0 := by
      have hz := hf (by simp [window?, hi])
      rw [hin, packetIndex_toNat] at hz
      apply UInt32.toNat_inj.mp
      simp only [UInt32.reduceToNat]
      omega
    rw [hz]
    exact estimateRoc_of_uninitialized hi seq
  | true =>
    obtain ⟨ha, hb⟩ :=
      hn (ctx.stream x.ssrc).window.highest (by simp [window?_eq_some hi])
    rw [hin] at ha hb
    exact estimateRoc_eq hi ha (by omega)

theorem InSync.receive_isSome (hr : Sent.InReach delivered x)
    (hne : x.key ∉ delivered.map Sent.key) :
    (Window.receive (ctx.window x.ssrc) x.index.toNat).isSome = true := by
  refine (h.recorded x.ssrc).receive_isSome hne fun v hv => ?_
  have hn := hr.2.2
  rw [h.recorded.highestOf_eq, hv] at hn
  exact (hn v.highest rfl).2

theorem InSync.setStream {st : SrtpStreamState}
    (hm : Window.Received ctx.window (ctx.setStream x.ssrc st).window x.ssrc x.index.toNat)
    (hco : st.acceptedPackets = (ctx.stream x.ssrc).acceptedPackets + 1) :
    InSync start (delivered ++ [x]) (ctx.setStream x.ssrc st) := by
  refine ⟨h.keys, h.lifetime, ?_, fun ssrc => ?_, fun ssrc hme => ?_⟩
  · rw [map_append]
    exact h.recorded.received hm
  · by_cases hs : ssrc = x.ssrc
    · rw [hs]
      simp [hco, h.counts, Sent.deliveredCount]
    · rw [stream_setStream_ne ctx _ hs, h.counts]
      simp [Sent.deliveredCount, Ne.symm hs]
  rw [map_append, mem_append]
  rcases mem_setStream.mp hme with hs | hs
  · simp [hs]
  · exact Or.inl (h.known ssrc hs)

theorem InSync.unprotect (hs : x.SealedBy P start)
    (hr : Sent.InReach delivered x) (hne : x.key ∉ delivered.map Sent.key)
    (hro : x.ssrc ∈ ctx.streams ∨ HashMap.size ctx.streams < maxRecvSsrcs)
    (hco : Sent.deliveredCount delivered x.ssrc < start.packetLifetime) :
    (ctx.unprotect P x.datagram).2 = .ok x.packet ∧
      InSync start (delivered ++ [x]) (ctx.unprotect P x.datagram).1 := by
  obtain ⟨roc, n, hn, hsr, hin, hda⟩ := hs
  rw [← h.keys.sealRtp P] at hda
  obtain ⟨ha, hd, hds, hv, hh⟩ := ctx.sealRtp_facts P roc hn
  rw [← hda] at ha hd hds hv
  rw [← hsr] at hd
  have hes := h.estimate_eq hin hr
  have he : ctx.estimate x.datagram = (roc, packetIndex roc (rtpSeq x.packet)) := by
    rw [estimate, hd, hds, hes]
  rcases (ctx.stream x.ssrc).checkReplay_spec (rtpSeq x.packet) with
    ⟨st, hc, hi, hw, -, hac⟩ | ⟨e, -, hw⟩
  · rw [hes, ← hin] at hw
    have hca : ctx.CanReceive (rtpSsrc x.datagram) := by
      rw [CanReceive, hd, h.counts, h.lifetime]
      exact ⟨hro, hco⟩
    have hre : (ctx.stream (rtpSsrc x.datagram)).checkReplay (rtpSeq x.datagram) =
        (st, .ok (ctx.estimate x.datagram)) := by
      rw [he, hd, hds, hc, hes]
    have ho := ctx.unprotect_ok P (he.symm ▸ hv) hca hre
      (ha.symm ▸ hh)
    rw [ho, ha, he, hd, ← hsr]
    refine ⟨?_, h.setStream (ctx.setStream_received hi hw rfl) ?_⟩
    · rw [cryptPayload_cryptPayload P ctx _ _ (rtpHeaderLen_bounds hn).2]
    · simp only [hac]
  · have hf := h.receive_isSome hr hne
    rw [hes, ← hin] at hw
    rw [window, hw] at hf
    cases hf

end

theorem InOrder.keys_nodup (h : InOrder P start sent ctx) :
    (sent.map Sent.key).Nodup := by
  refine pairwise_map.mpr (h.increasing.imp fun {x y} hlt hk => ?_)
  have hl := hlt (congrArg Prod.fst hk)
  have hin : x.index.toNat = y.index.toNat := congrArg Prod.snd hk
  rw [UInt64.lt_iff_toNat_lt] at hl
  omega

theorem InSync.run {ssrcs : List UInt32} (hse : ∀ x ∈ sent, x.SealedBy P start)
    (hk : (sent.map Sent.key).Nodup) (hss : ∀ x ∈ sent, x.ssrc ∈ ssrcs)
    (hf : ssrcs.dedup.length ≤ maxRecvSsrcs) (rest : List Sent) {before : List Sent}
    (h : InSync start before ctx) (hsu : ∀ x ∈ before ++ rest, x ∈ sent)
    (hne : Sent.Deliverable before rest)
    (hc : ∀ ssrc, Sent.deliveredCount (before ++ rest) ssrc ≤ start.packetLifetime) :
    (trace (SrtpContext.unprotect P) ctx (rest.map Sent.datagram)).map Prod.snd =
      rest.map fun x => .ok x.packet := by
  induction rest generalizing before ctx with
  | nil => rfl
  | cons x rest ih =>
    have hx : x ∈ sent := hsu x (by simp)
    have hnw : x.key ∉ before.map Sent.key := by
      intro hm
      obtain ⟨y, hy, hke⟩ := mem_map.mp hm
      have hsame : y = x :=
        inj_on_of_nodup_map hk (hsu y (mem_append_left _ hy)) hx hke
      exact hne.1.1 (hsame ▸ hy)
    have hro : x.ssrc ∈ ctx.streams ∨ HashMap.size ctx.streams < maxRecvSsrcs := by
      by_cases hm : x.ssrc ∈ ctx.streams
      · exact Or.inl hm
      right
      refine Nat.lt_of_lt_of_le
        (HashMap.size_lt_of_mem (fun s hs => ?_) (hss x hx) hm) hf
      obtain ⟨y, hy, rfl⟩ := mem_map.mp (h.known s hs)
      exact hss y (hsu y (mem_append_left _ hy))
    have hco : Sent.deliveredCount before x.ssrc < start.packetLifetime := by
      have ht := hc x.ssrc
      simp only [Sent.deliveredCount] at ht ⊢
      simp at ht
      omega
    obtain ⟨ho, hn⟩ := h.unprotect P (hse x hx) hne.1 hnw hro hco
    simp only [map_cons, trace_cons, ho]
    rw [ih hn (by simpa using hsu) hne.2 (by simpa using hc)]

theorem SameKeys.sealedBy {a b : SrtpContext} (h : a.SameKeys b) (hx : x.SealedBy P a) :
    x.SealedBy P b := by
  obtain ⟨roc, n, hn, hsr, hin, hda⟩ := hx
  exact ⟨roc, n, hn, hsr, hin, hda.trans (h.sealRtp P roc n x.packet)⟩

/-- One context protects a well spaced run of packets of at most 64 SSRCs, another
one made from the same key receives any of them in any order in reach.  Every
packet is protected, and every delivered datagram is opened to the packet it was
protected from. -/
theorem srtp_sender_receiver_agree {key : Text} {lifeTx lifeRx : Nat} {tx rx : SrtpContext}
    (htx : fromSdesKeyWithLifetime P key lifeTx = .ok tx)
    (hrx : fromSdesKeyWithLifetime P key lifeRx = .ok rx)
    {packets : List Bytes} (hrun : SendRun P tx packets)
    (hssrcs : (packets.map rtpSsrc).dedup.length ≤ 64)
    (hlifeTx : ∀ ssrc, ssrcCount packets ssrc ≤ lifeTx)
    {delivered : List Sent} (hsub : ∀ x ∈ delivered, x ∈ tx.sentPackets P packets)
    (hnet : Sent.Deliverable [] delivered)
    (hlifeRx : ∀ ssrc, Sent.deliveredCount delivered ssrc ≤ lifeRx) :
    (tx.sentPackets P packets).map Sent.packet = packets ∧
    (trace (SrtpContext.unprotect P) rx (delivered.map Sent.datagram)).map Prod.snd =
      delivered.map fun x => .ok x.packet := by
  obtain ⟨htxEmpty, htxLife⟩ := fromSdesKeyWithLifetime_fresh P htx
  obtain ⟨hrxEmpty, hrxLife⟩ := fromSdesKeyWithLifetime_fresh P hrx
  have hkeys := fromSdesKeyWithLifetime_sameKeys P htx hrx
  have horder := inOrder_run P tx hrun
  have hall := allSent_run P htxEmpty htxLife hrun hssrcs hlifeTx
  refine ⟨hall, ?_⟩
  have hsealed : ∀ x ∈ tx.sentPackets P packets, x.SealedBy P rx :=
    fun x hx => hkeys.sealedBy P (horder.sealed x hx)
  have hknown : ∀ x ∈ tx.sentPackets P packets, x.ssrc ∈ packets.map rtpSsrc := by
    intro x hx
    obtain ⟨-, -, -, hssrc, -⟩ := horder.sealed x hx
    rw [hssrc, ← hall, map_map]
    exact mem_map_of_mem (f := rtpSsrc ∘ Sent.packet) hx
  have hstart : InSync rx [] rx := by
    refine ⟨⟨rfl, rfl, rfl⟩, rfl, fun ssrc => ?_, fun ssrc => ?_, fun ssrc hmem => ?_⟩
    · rw [window, stream_of_empty hrxEmpty]
      exact fun i hi => absurd hi not_mem_nil
    · rw [stream_of_empty hrxEmpty]
      rfl
    · rw [hrxEmpty] at hmem
      exact absurd hmem (AList.notMem_empty ssrc)
  exact InSync.run P hsealed (horder.keys_nodup P) hknown hssrcs delivered hstart hsub hnet
    (fun ssrc => hrxLife.symm ▸ hlifeRx ssrc)

def sampleSent : List Sent :=
  [{ packet := [0x80, 0, 0xFF, 0xFF, 0, 0, 0, 160, 0x11, 0x22, 0x33, 0x44, 1, 2, 3, 4],
     ssrc := 0x11223344, index := 0xFFFF,
     datagram := [128, 0, 255, 255, 0, 0, 0, 160, 17, 34, 51, 68, 19, 78, 31, 15,
       217, 214, 249, 193, 240, 116, 187, 173, 137, 182] },
   { packet := [0x80, 0, 0, 0, 0, 0, 1, 64, 0x11, 0x22, 0x33, 0x44, 5, 6, 7, 8],
     ssrc := 0x11223344, index := 0x10000,
     datagram := [128, 0, 0, 0, 0, 0, 1, 64, 17, 34, 51, 68, 255, 61, 138, 199,
       126, 36, 162, 229, 166, 175, 140, 42, 166, 184] }]

theorem sampleSent_eq : sampleContext.sentPackets .reference samplePackets = sampleSent := by
  decide +kernel

theorem sampleSent_agree :
    (sampleContext.sentPackets .reference samplePackets).map Sent.packet = samplePackets ∧
    (trace (SrtpContext.unprotect .reference) sampleContext
      (sampleSent.map Sent.datagram)).map Prod.snd = sampleSent.map fun x => .ok x.packet := by
  refine srtp_sender_receiver_agree .reference sampleContext_eq sampleContext_eq
    samplePackets_run (by decide) (fun ssrc => ?_) (fun x hx => sampleSent_eq ▸ hx)
    (by decide) (fun ssrc => ?_)
  · exact Nat.le_trans countP_le_length (by decide)
  · exact Nat.le_trans countP_le_length (by decide)

end SrtpContext
end RtpBridge.Srtp
