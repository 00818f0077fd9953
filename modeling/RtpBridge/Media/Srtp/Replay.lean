/-
Anti-replay of a receiving SRTP context.
-/
import RtpBridge.Base.Machine
import RtpBridge.Media.Srtp.Context

namespace RtpBridge.Srtp.SrtpContext

open Wire List Machine

variable (P : Primitives)

def window (ctx : SrtpContext) (ssrc : UInt32) : Option (Window 64) :=
  (ctx.stream ssrc).window?

def highestIndex (ctx : SrtpContext) (ssrc : UInt32) : WithBot Nat :=
  match ctx.window ssrc with
  | none => ⊥
  | some w => (w.highest : WithBot Nat)

def receive (ctx : SrtpContext) (datagram : Bytes) : SrtpContext × Option (UInt32 × UInt64) :=
  let (ctx', result) := ctx.unprotect P datagram
  (ctx', match result with
    | .ok _ => some (rtpSsrc datagram, (ctx.estimate datagram).2)
    | .error _ => none)

def acceptedIndices (ctx : SrtpContext) (datagrams : List Bytes) : List (UInt32 × UInt64) :=
  (trace (receive P) ctx datagrams).filterMap Prod.snd

theorem window_setStream_ne (ctx : SrtpContext) {ssrc s : UInt32} (st : SrtpStreamState)
    (h : s ≠ ssrc) : (ctx.setStream ssrc st).window s = ctx.window s := by
  rw [window, stream_setStream_ne ctx st h, window]

theorem setStream_received (ctx : SrtpContext) {ssrc : UInt32} {st st' : SrtpStreamState}
    {i : Nat} (hi : st.seqInitialized = true)
    (hw : Window.receive (ctx.window ssrc) i = some st.window)
    (hst : st'.window? = st.window?) :
    Window.Received ctx.window (ctx.setStream ssrc st').window ssrc i := by
  refine ⟨⟨st.window, hw, ?_⟩, fun s hs => window_setStream_ne ctx _ hs⟩
  rw [window, stream_setStream_self, hst, SrtpStreamState.window?_eq_some hi]

theorem receive_window (ctx : SrtpContext) (datagram : Bytes) :
    (Window.Received ctx.window (ctx.receive P datagram).1.window (rtpSsrc datagram)
        (ctx.estimate datagram).2.toNat ∧
      ((ctx.receive P datagram).2 = none ∨
        (ctx.receive P datagram).2 = some (rtpSsrc datagram, (ctx.estimate datagram).2))) ∨
    ((∀ ssrc, (ctx.receive P datagram).1.window ssrc = ctx.window ssrc) ∧
      (ctx.receive P datagram).2 = none) := by
  have hm : ∀ st : SrtpStreamState, (ctx.stream (rtpSsrc datagram)).checkReplay (rtpSeq datagram) =
          (st, .ok (ctx.estimate datagram)) →
        Window.receive (ctx.window (rtpSsrc datagram)) (ctx.estimate datagram).2.toNat =
          some st.window ∧ st.seqInitialized = true := by
    intro st hst
    rcases (ctx.stream (rtpSsrc datagram)).checkReplay_spec (rtpSeq datagram) with
      ⟨st', hc, hi, hw, -⟩ | ⟨e, hc, -⟩
    · rw [hst] at hc
      cases hc
      exact ⟨hw, hi⟩
    · rw [hst] at hc
      cases hc
  have hu := ctx.unprotected P datagram
  unfold receive
  generalize ctx.unprotect P datagram = result at hu
  cases hu with
  | refused => exact Or.inr ⟨fun _ => rfl, rfl⟩
  | spent =>
    refine Or.inr ⟨fun ssrc => ?_, rfl⟩
    rw [window, stream_setStream_stream, window]
  | cut _ _ hc =>
    obtain ⟨hw, hi⟩ := hm _ hc
    exact Or.inl ⟨ctx.setStream_received hi hw rfl, Or.inl rfl⟩
  | opened _ _ hc =>
    obtain ⟨hw, hi⟩ := hm _ hc
    exact Or.inl ⟨ctx.setStream_received hi hw rfl, Or.inr rfl⟩

def indexKey (x : UInt32 × UInt64) : UInt32 × Nat := (x.1, x.2.toNat)

structure ReplaySafe (accepted : List (UInt32 × UInt64)) (ctx : SrtpContext) : Prop where
  nodup : accepted.Nodup
  tracked : Window.TracksAll ctx.window (accepted.map indexKey)

theorem ReplaySafe.receive {accepted : List (UInt32 × UInt64)} {ctx : SrtpContext}
    (h : ReplaySafe accepted ctx) (datagram : Bytes) :
    ReplaySafe (accepted ++ ((ctx.receive P datagram).2).toList)
      (ctx.receive P datagram).1 := by
  rcases ctx.receive_window P datagram with ⟨hm, hn | hs⟩ | ⟨hsame, hn⟩
  · rw [hn, Option.toList_none, append_nil]
    exact ⟨h.nodup, h.tracked.received_unseen hm⟩
  · have hne := h.tracked.not_mem hm
    rw [hs]
    refine ⟨?_, ?_⟩
    · grind [h.nodup, indexKey]
    · rw [map_append]
      exact h.tracked.received hm
  · rw [hn, Option.toList_none, append_nil]
    exact ⟨h.nodup, fun ssrc => (hsame ssrc).symm ▸ h.tracked ssrc⟩

theorem replaySafe_run (ctx : SrtpContext) (datagrams : List Bytes) :
    ReplaySafe (ctx.acceptedIndices P datagrams)
      (exec (SrtpContext.receive P) ctx datagrams) := by
  refine history_induction
    (P := fun tr ctx => ReplaySafe (tr.filterMap Prod.snd) ctx) ?_ ?_ datagrams
  · exact ⟨nodup_nil, Window.tracksAll_nil _⟩
  intro tr ctx datagram h
  have hs := h.receive P datagram
  grind

theorem highestIndex_receive (ctx : SrtpContext) (datagram : Bytes) (ssrc : UInt32) :
    ctx.highestIndex ssrc ≤ (ctx.receive P datagram).1.highestIndex ssrc := by
  rcases ctx.receive_window P datagram with ⟨hm, -⟩ | ⟨hsame, -⟩
  · by_cases hs : ssrc = rtpSsrc datagram
    · subst hs
      obtain ⟨v, hw, ha⟩ := hm.own
      unfold highestIndex
      rw [ha]
      cases hb : ctx.window (rtpSsrc datagram) with
      | none => exact bot_le
      | some u =>
        rw [hb] at hw
        exact WithBot.coe_le_coe.mpr (Window.receive_highest hw)
    · rw [highestIndex, highestIndex, hm.others ssrc hs]
  · rw [highestIndex, highestIndex, hsame ssrc]

theorem highestIndex_run (ctx : SrtpContext) (datagrams : List Bytes) (ssrc : UInt32) :
    ctx.highestIndex ssrc ≤ (exec (SrtpContext.receive P) ctx datagrams).highestIndex ssrc := by
  refine exec_induction (P := fun s : SrtpContext => ctx.highestIndex ssrc ≤ s.highestIndex ssrc)
    (le_refl _) ?_ datagrams
  intro s datagram h
  exact le_trans h (s.highestIndex_receive P datagram ssrc)

/-- No SSRC and index is accepted twice in any run of `unprotect`, the highest
index of an SSRC never decreases along it, and it bounds every index accepted. -/
theorem unprotect_anti_replay (ctx : SrtpContext) (before after : List Bytes) :
    (ctx.acceptedIndices P (before ++ after)).Nodup ∧
    (∀ ssrc, (exec (SrtpContext.receive P) ctx before).highestIndex ssrc ≤
        (exec (SrtpContext.receive P) ctx (before ++ after)).highestIndex ssrc) ∧
    ∀ x ∈ ctx.acceptedIndices P before, (x.2.toNat : WithBot Nat) ≤
        (exec (SrtpContext.receive P) ctx before).highestIndex x.1 := by
  refine ⟨(replaySafe_run P ctx _).nodup, fun ssrc => ?_, fun x hx => ?_⟩
  · rw [exec_append]
    exact highestIndex_run P _ after ssrc
  have htracked := (replaySafe_run P ctx before).tracked x.1
  have hseen : (x.1, x.2.toNat) ∈ (ctx.acceptedIndices P before).map indexKey :=
    mem_map_of_mem (f := indexKey) hx
  unfold highestIndex
  cases hw : (exec (SrtpContext.receive P) ctx before).window x.1 with
  | none =>
    rw [hw] at htracked
    exact absurd hseen (htracked _)
  | some w =>
    rw [hw] at htracked
    exact WithBot.coe_le_coe.mpr (htracked _ hseen).1

def sampleDatagram : Bytes :=
  [128, 0, 255, 255, 0, 0, 0, 160, 17, 34, 51, 68, 19, 78, 31, 15,
    217, 214, 249, 193, 240, 116, 187, 173, 137, 182]

theorem sampleDatagram_anti_replay :
    sampleContext.acceptedIndices .reference [sampleDatagram, sampleDatagram] =
      [(0x11223344, 0xFFFF)] ∧
    ((0xFFFF : Nat) : WithBot Nat) ≤ (exec (SrtpContext.receive .reference) sampleContext
        [sampleDatagram]).highestIndex 0x11223344 :=
  ⟨by decide +kernel, (unprotect_anti_replay .reference sampleContext [sampleDatagram] []).2.2
      (0x11223344, 0xFFFF) (by decide +kernel)⟩

end RtpBridge.Srtp.SrtpContext
