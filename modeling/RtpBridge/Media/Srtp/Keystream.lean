/-
The sending side: indices grow, so no keystream block is used twice.
-/
import RtpBridge.Base.Machine
import RtpBridge.Media.Srtp.Context

namespace RtpBridge.Srtp

open Wire CounterMode SrtpStreamState List Machine

structure Sent where
  packet : Bytes
  ssrc : UInt32
  index : UInt64
  datagram : Bytes
deriving DecidableEq

namespace Sent

def lastIndex (sent : List Sent) (ssrc : UInt32) : Option Nat :=
  ((sent.filter fun x => x.ssrc = ssrc).getLast?).map fun x => x.index.toNat

def WellSpaced (sent : List Sent) (packet : Bytes) : Prop :=
  (rtpHeaderLen packet).isSome = true ∧
    ∀ e ∈ lastIndex sent (rtpSsrc packet),
      1 ≤ seqStep e (rtpSeq packet) ∧ seqStep e (rtpSeq packet) ≤ 0x7FFF ∧
        e + seqStep e (rtpSeq packet) < 2 ^ 48

instance (sent : List Sent) (packet : Bytes) : Decidable (WellSpaced sent packet) :=
  inferInstanceAs (Decidable (_ ∧ _))

def SealedBy (P : Primitives) (ctx : SrtpContext) (x : Sent) : Prop :=
  ∃ roc n, rtpHeaderLen x.packet = some n ∧ x.ssrc = rtpSsrc x.packet ∧
    x.index = packetIndex roc (rtpSeq x.packet) ∧
    x.datagram = ctx.sealRtp P roc n x.packet

theorem lastIndex_append_self (sent : List Sent) (x : Sent) :
    lastIndex (sent ++ [x]) x.ssrc = some x.index.toNat := by
  simp [lastIndex]

theorem lastIndex_append_ne (sent : List Sent) {x : Sent} {ssrc : UInt32} (h : x.ssrc ≠ ssrc) :
    lastIndex (sent ++ [x]) ssrc = lastIndex sent ssrc := by
  simp [lastIndex, h]

end Sent

namespace SrtpContext

variable (P : Primitives)

def send (ctx : SrtpContext) (packet : Bytes) : SrtpContext × Option Sent :=
  let (ctx', result) := ctx.protect P packet
  (ctx', match result with
    | .ok datagram =>
      some { packet := packet, ssrc := rtpSsrc packet,
             index := packetIndex (ctx'.stream (rtpSsrc packet)).roc (rtpSeq packet),
             datagram := datagram }
    | .error _ => none)

def sentPackets (ctx : SrtpContext) (packets : List Bytes) : List Sent :=
  (trace (send P) ctx packets).filterMap Prod.snd

abbrev SendRun (ctx : SrtpContext) (packets : List Bytes) : Prop :=
  Along (send P)
    (fun tr _ packet => Sent.WellSpaced (tr.filterMap Prod.snd) packet) ctx packets

theorem send_cases (ctx : SrtpContext) {packet : Bytes}
    (hh : (rtpHeaderLen packet).isSome = true) :
    (∃ x : Sent, (ctx.send P packet).2 = some x ∧ x.packet = packet ∧
      x.ssrc = rtpSsrc packet ∧ x.SealedBy P ctx ∧ ctx.CanSend (rtpSsrc packet) ∧
      (ctx.send P packet).1.SameKeys ctx ∧
      ∃ st, (ctx.send P packet).1 = ctx.setStream (rtpSsrc packet) st ∧
        st.protectedPackets = (ctx.stream (rtpSsrc packet)).protectedPackets + 1 ∧
        st.Follows x.index.toNat ∧
        x.index = packetIndex ((ctx.stream (rtpSsrc packet)).updateRoc (rtpSeq packet)).roc
          (rtpSeq packet)) ∨
    ((ctx.send P packet).2 = none ∧ ¬ ctx.CanSend (rtpSsrc packet) ∧
      (ctx.send P packet).1.SameKeys ctx ∧
      (ctx.send P packet).1.packetLifetime = ctx.packetLifetime ∧
      ∀ s, (ctx.send P packet).1.stream s = ctx.stream s) := by
  obtain ⟨n, hn⟩ := Option.isSome_iff_exists.mp hh
  rcases ctx.protect_cases P hn with ⟨hcn, ho⟩ | ⟨hca, ⟨e, he⟩, hk, hl, hs⟩
  · left
    have hf := (ctx.stream (rtpSsrc packet)).updateRoc_follows (rtpSeq packet)
    have hc := ((ctx.stream (rtpSsrc packet)).updateRoc_counts (rtpSeq packet)).1
    simp only [send, ho, stream_setStream_self]
    refine ⟨_, rfl, rfl, rfl, ⟨_, n, hn, rfl, rfl, rfl⟩, hcn, setStream_sameKeys _ _ _, _, rfl,
      ?_, ?_, rfl⟩
    · simp only [hc]
    · exact ⟨hf.initialized, hf.roc, hf.seq_le, hf.lower_half⟩
  · grind [send]

structure InOrder (start : SrtpContext) (sent : List Sent) (ctx : SrtpContext) : Prop where
  keys : ctx.SameKeys start
  sealed : ∀ x ∈ sent, x.SealedBy P start
  increasing : sent.Pairwise fun x y => x.ssrc = y.ssrc → x.index < y.index
  last_max : ∀ x ∈ sent, ∃ e, Sent.lastIndex sent x.ssrc = some e ∧ x.index.toNat ≤ e
  follows : ∀ ssrc e, Sent.lastIndex sent ssrc = some e → (ctx.stream ssrc).Follows e

theorem InOrder.send {start ctx : SrtpContext} {sent : List Sent}
    (h : InOrder P start sent ctx) {packet : Bytes} (hsp : Sent.WellSpaced sent packet) :
    InOrder P start (sent ++ (ctx.send P packet).2.toList) (ctx.send P packet).1 := by
  rcases ctx.send_cases P hsp.1 with
    ⟨x, hx, hp, hss, ⟨roc, n, hn, hxs, hi, hd⟩, -, hk, st, hc, -, hst, hne⟩ | ⟨hno, -, hk, -, hsr⟩
  · have hl : ∀ y ∈ sent, y.ssrc = x.ssrc → y.index < x.index := by
      intro y hy hys
      obtain ⟨e, he, hle⟩ := h.last_max y hy
      rw [hys, hss] at he
      obtain ⟨hpo, hm, hsa⟩ := hsp.2 e he
      have hid := (h.follows _ e he).updateRoc_index hpo hm hsa
      rw [← hne] at hid
      rw [UInt64.lt_iff_toNat_lt]
      omega
    rw [hx, Option.toList_some]
    refine ⟨hk.trans h.keys, ?_, ?_, ?_, ?_⟩
    · intro y hy
      rcases mem_append.mp hy with hy | hy
      · exact h.sealed y hy
      · rw [mem_singleton.mp hy]
        exact ⟨roc, n, hn, hxs, hi, hd.trans (h.keys.sealRtp P roc n x.packet)⟩
    · grind [h.increasing]
    · intro y hy
      by_cases hys : x.ssrc = y.ssrc
      · refine ⟨x.index.toNat, by rw [← hys, Sent.lastIndex_append_self], ?_⟩
        rcases mem_append.mp hy with hy | hy
        · exact Nat.le_of_lt (UInt64.lt_iff_toNat_lt.mp (hl y hy hys.symm))
        · rw [mem_singleton.mp hy]
      grind [Sent.lastIndex_append_ne, h.last_max]
    intro ssrc e he
    by_cases hs : x.ssrc = ssrc
    · grind [Sent.lastIndex_append_self, stream_setStream_self]
    grind [Sent.lastIndex_append_ne, stream_setStream_ne, h.follows]
  · rw [hno, Option.toList_none, append_nil]
    refine ⟨hk.trans h.keys, h.sealed, h.increasing, h.last_max, fun ssrc e he => ?_⟩
    rw [hsr]
    exact h.follows ssrc e he

theorem inOrder_run (ctx : SrtpContext) {packets : List Bytes} (hr : SendRun P ctx packets) :
    InOrder P ctx (ctx.sentPackets P packets)
      (exec (SrtpContext.send P) ctx packets) := by
  refine along_induction
    (P := fun tr s => InOrder P ctx (tr.filterMap Prod.snd) s) ?_ ?_ hr
  · refine ⟨⟨rfl, rfl, rfl⟩, by simp, List.Pairwise.nil, by simp, ?_⟩
    intro ssrc e he
    simp [Sent.lastIndex] at he
  intro tr s packet hsp h
  have hs := h.send P hsp
  grind

def payloadBlocks (packet : Bytes) : Nat :=
  blockCount (packet.length - (rtpHeaderLen packet).getD 0)

def sentIv (ctx : SrtpContext) (x : Sent) : Bytes := computeIv ctx.cipherSalt x.ssrc x.index

/-- In a well spaced run the index of an SSRC grows with every packet, the payload
of each packet is enciphered from the counter block of its SSRC and index, and
these blocks differ in their first fourteen bytes, so that two payloads of at
most `2 ^ 16` blocks have no keystream block in common. -/
theorem protect_keystream_unique (ctx : SrtpContext) {packets : List Bytes}
    (hrun : SendRun P ctx packets) :
    ((ctx.sentPackets P packets).Pairwise fun x y => x.ssrc = y.ssrc → x.index < y.index) ∧
    (∀ x ∈ ctx.sentPackets P packets, ∃ n tag, rtpHeaderLen x.packet = some n ∧
      x.datagram = x.packet.take n ++
        aes128Ctr P ctx.cipherKey.toList (ctx.sentIv x) (x.packet.drop n) ++ tag) ∧
    ((ctx.sentPackets P packets).Pairwise fun x y =>
      (ctx.sentIv x).take 14 ≠ (ctx.sentIv y).take 14 ∧
      (payloadBlocks x.packet ≤ 2 ^ 16 → payloadBlocks y.packet ≤ 2 ^ 16 →
        ∀ j < payloadBlocks x.packet, ∀ k < payloadBlocks y.packet,
          counterBlock (ctx.sentIv x) j ≠ counterBlock (ctx.sentIv y) k)) := by
  have h := inOrder_run P ctx hrun
  have hbound : ∀ x ∈ ctx.sentPackets P packets, x.index.toNat < 2 ^ 48 := by
    intro x hx
    obtain ⟨roc, n, -, -, hindex, -⟩ := h.sealed x hx
    rw [hindex]
    exact packetIndex_lt _ _
  refine ⟨h.increasing, ?_, ?_⟩
  · intro x hx
    obtain ⟨roc, n, hn, hssrc, hindex, hdatagram⟩ := h.sealed x hx
    refine ⟨n, ctx.rtpTag P (ctx.cryptPayload P x.ssrc x.index n x.packet) roc, hn, ?_⟩
    rw [hdatagram, sentIv, hssrc, hindex]
    rfl
  refine h.increasing.imp_of_mem fun {x y} hx hy hlt => ?_
  have hne : (ctx.sentIv x).take 14 ≠ (ctx.sentIv y).take 14 := by
    intro heq
    obtain ⟨hs, hi⟩ := ivBlock_take_inj (hbound x hx) (hbound y hy) heq
    have hless := hlt hs
    rw [hi] at hless
    exact UInt64.lt_irrefl _ hless
  refine ⟨hne, fun hlong hlong' j hj k hk => ?_⟩
  exact counterBlock_ne (length_ivBlock _ _ _) (length_ivBlock _ _ _)
    (ivBlock_drop _ _ (hbound x hx)) (ivBlock_drop _ _ (hbound y hy)) hne
    (Nat.lt_of_lt_of_le hj hlong) (Nat.lt_of_lt_of_le hk hlong')

def samplePackets : List Bytes :=
  [[0x80, 0, 0xFF, 0xFF, 0, 0, 0, 160, 0x11, 0x22, 0x33, 0x44, 1, 2, 3, 4],
   [0x80, 0, 0, 0, 0, 0, 1, 64, 0x11, 0x22, 0x33, 0x44, 5, 6, 7, 8]]

theorem samplePackets_run : SendRun .reference sampleContext samplePackets := by
  decide +kernel

theorem samplePackets_keystream_unique :
    (sampleContext.sentPackets .reference samplePackets).map Sent.index = [0xFFFF, 0x10000] ∧
    ((sampleContext.sentPackets .reference samplePackets).Pairwise fun x y =>
      x.ssrc = y.ssrc → x.index < y.index) :=
  ⟨by decide +kernel, (protect_keystream_unique .reference sampleContext samplePackets_run).1⟩

end SrtpContext
end RtpBridge.Srtp
