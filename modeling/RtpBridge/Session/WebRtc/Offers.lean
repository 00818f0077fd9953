/-
Offers and answers of a WebRTC endpoint: `accept_answer`, `accept_offer` and `ice_restart`
of `session/endpoint_webrtc.rs` with the checks of their handlers in
`session/media_session.rs`.

The media stack is abstract: it reads descriptions and may accept or reject any of them.
The watchdog of the handshake is left out.  `offer_generation`, a `u64` with a plain `+= 1`, is a
natural number: its 2^64 restarts are out of reach.
-/
import RtpBridge.Base.Machine
import RtpBridge.Base.Text

namespace RtpBridge.Session

open Machine List

/-- The media stack.  A description is read with its Opus profile and fingerprint. -/
structure MediaStack where
  Rtc : Type
  Pending : Type
  Answer : Type
  Offer : Type
  Profile : Type
  readAnswer : Text → Except String (Answer × Profile × Text)
  readOffer : Text → Except String (Offer × Profile × Text)
  iceRestart : Rtc → Rtc × Option (Text × Pending)
  acceptAnswer : Rtc → Pending → Answer → Rtc × Except String Unit
  acceptOffer : Rtc → Offer → Rtc × Except String Text

structure WebRtcNegotiation (K : MediaStack) where
  rtc : K.Rtc
  opusSendProfile : K.Profile
  pendingOffer : Option K.Pending := none
  remoteDtlsFingerprint : Option Text := none
  offerGeneration : Nat := 0

inductive NegotiationCall where
  | iceRestart
  | acceptOffer (sdp : Text)
  | acceptAnswer (sdp : Text) (expectedGeneration : Option Nat)

structure NegotiationOutcome (K : MediaStack) where
  error : Option String := none
  created : Option (Text × Nat × K.Pending) := none
  handed : Option K.Pending := none
  answer : Option Text := none

variable {K : MediaStack}

namespace WebRtcNegotiation

def rememberOrValidate (peer : WebRtcNegotiation K) (fingerprint : Text) : Option String :=
  if peer.remoteDtlsFingerprint.any (· ≠ fingerprint) then
    some ("remote DTLS fingerprint changed on existing WebRTC endpoint; " ++
      "use endpoint replacement instead of ICE restart")
  else none

def store (peer : WebRtcNegotiation K) (fingerprint : Text) (profile : K.Profile) :
    WebRtcNegotiation K :=
  { peer with remoteDtlsFingerprint := some (peer.remoteDtlsFingerprint.getD fingerprint),
              opusSendProfile := profile }

def acceptAnswer (peer : WebRtcNegotiation K) (sdp : Text) :
    WebRtcNegotiation K × NegotiationOutcome K :=
  match K.readAnswer sdp with
  | .error e => (peer, { error := some e })
  | .ok (answer, profile, fingerprint) =>
    match peer.rememberOrValidate fingerprint, peer.pendingOffer with
    | some e, _ => (peer, { error := some e })
    | none, none => (peer, { error := some "No pending offer to accept answer for" })
    | none, some pending =>
      match K.acceptAnswer peer.rtc pending answer with
      | (rtc, .error e) =>
        ({ peer with rtc, pendingOffer := none }, { error := some e, handed := some pending })
      | (rtc, .ok ()) =>
        ({ peer with rtc, pendingOffer := none }.store fingerprint profile,
          { handed := some pending })

def handleAcceptAnswer (peer : WebRtcNegotiation K) (sdp : Text) (expectedGeneration : Option Nat) :
    WebRtcNegotiation K × NegotiationOutcome K :=
  match expectedGeneration with
  | some g =>
    if g ≠ peer.offerGeneration then
      (peer, { error := some (s!"stale ICE-restart answer: generation {g} != " ++
        s!"current pending offer generation {peer.offerGeneration}") })
    else peer.acceptAnswer sdp
  | none => peer.acceptAnswer sdp

def acceptOffer (peer : WebRtcNegotiation K) (sdp : Text) :
    WebRtcNegotiation K × NegotiationOutcome K :=
  match K.readOffer sdp with
  | .error e => (peer, { error := some e })
  | .ok (offer, profile, fingerprint) =>
    match peer.rememberOrValidate fingerprint with
    | some e => (peer, { error := some e })
    | none =>
      match K.acceptOffer peer.rtc offer with
      | (rtc, .error e) => ({ peer with rtc }, { error := some e })
      | (rtc, .ok answer) =>
        ({ peer with rtc, pendingOffer := none }.store fingerprint profile,
          { answer := some answer })

def handleIceRestart (peer : WebRtcNegotiation K) : WebRtcNegotiation K × NegotiationOutcome K :=
  if peer.pendingOffer.isSome then
    (peer, { error := some "ICE restart already pending for this endpoint" })
  else
    match K.iceRestart peer.rtc with
    | (rtc, none) => ({ peer with rtc }, { error := some "Failed to create ICE restart offer" })
    | (rtc, some (offer, pending)) =>
      ({ peer with rtc, pendingOffer := some pending, offerGeneration := peer.offerGeneration + 1 },
        { created := some (offer, peer.offerGeneration + 1, pending) })

def step (peer : WebRtcNegotiation K) : NegotiationCall → WebRtcNegotiation K × NegotiationOutcome K
  | .iceRestart => peer.handleIceRestart
  | .acceptOffer sdp => peer.acceptOffer sdp
  | .acceptAnswer sdp expectedGeneration => peer.handleAcceptAnswer sdp expectedGeneration

/-! ## Runs -/

/-- The offers made so far with their generations; `opening` is the offer the endpoint
was created with, if it was not created from an offer of the peer. -/
def offers (opening : Option K.Pending) (tr : List (NegotiationCall × NegotiationOutcome K)) :
    List (Nat × K.Pending) :=
  (opening.map (Prod.mk 0)).toList ++ tr.filterMap fun x => x.2.created.map Prod.snd

structure Numbered (made : List (Nat × K.Pending)) (peer : WebRtcNegotiation K) : Prop where
  increasing : (made.map Prod.fst).Pairwise (· < ·)
  bounded : ∀ o ∈ made, o.1 ≤ peer.offerGeneration
  last : ∀ p, peer.pendingOffer = some p → made.getLast? = some (peer.offerGeneration, p)

variable {peer : WebRtcNegotiation K}

section

variable (peer : WebRtcNegotiation K)

theorem handleAcceptAnswer_cases (sdp : Text) (tag : Option Nat) :
    (∃ e, peer.handleAcceptAnswer sdp tag = (peer, { error := some e })) ∨
      peer.handleAcceptAnswer sdp tag = peer.acceptAnswer sdp ∧
        ∀ g, tag = some g → g = peer.offerGeneration := by
  cases tag with
  | none => exact .inr ⟨rfl, fun g hg => by cases hg⟩
  | some g =>
    by_cases hg : g = peer.offerGeneration
    · exact .inr ⟨if_neg (not_not.mpr hg), fun g' hg' => Option.some.inj hg' ▸ hg⟩
    · exact .inl ⟨_, if_pos hg⟩

theorem step_cases (call : NegotiationCall) : ((peer.step call).2.created = none ∧
        (peer.step call).1.offerGeneration = peer.offerGeneration ∧
        ∀ p, (peer.step call).1.pendingOffer = some p → peer.pendingOffer = some p) ∨
      ∃ text p, (peer.step call).2.created = some (text, peer.offerGeneration + 1, p) ∧
        (peer.step call).1.offerGeneration = peer.offerGeneration + 1 ∧
        (peer.step call).1.pendingOffer = some p := by
  cases call with
  | iceRestart =>
    unfold step handleIceRestart
    repeat' split
    all_goals simp_all
  | acceptOffer sdp =>
    unfold step acceptOffer
    repeat' split
    all_goals simp_all [store]
  | acceptAnswer sdp tag =>
    left
    rw [step]
    rcases peer.handleAcceptAnswer_cases sdp tag with ⟨e, hs⟩ | ⟨ha, _⟩
    · rw [hs]
      exact ⟨rfl, rfl, fun _ h => h⟩
    · rw [ha]
      unfold acceptAnswer
      repeat' split
      all_goals simp_all [store]

end

theorem Numbered.step {made : List (Nat × K.Pending)} (h : Numbered made peer)
    (call : NegotiationCall) :
    Numbered (made ++ ((peer.step call).2.created.map Prod.snd).toList) (peer.step call).1 := by
  rcases peer.step_cases call with
    ⟨hno, hsame, hpe⟩ | ⟨text, p, hc, hne, hpe⟩
  · rw [hno, Option.map_none, Option.toList_none, append_nil]
    refine ⟨h.increasing, by rw [hsame]; exact h.bounded, fun p hp => ?_⟩
    rw [hsame]
    exact h.last p (hpe p hp)
  rw [hc, Option.map_some, Option.toList_some]
  refine ⟨?_, ?_, ?_⟩
  · rw [map_append, pairwise_append]
    refine ⟨h.increasing, pairwise_singleton _ _, fun n hn m hm => ?_⟩
    obtain ⟨o, ho, rfl⟩ := mem_map.mp hn
    rw [mem_singleton.mp hm]
    exact Nat.lt_succ_of_le (h.bounded o ho)
  · intro o ho
    rw [hne]
    rcases mem_append.mp ho with ho | ho
    · exact Nat.le_succ_of_le (h.bounded o ho)
    · exact Nat.le_of_eq (congrArg Prod.fst (mem_singleton.mp ho))
  intro p' hp
  rw [hpe] at hp
  rw [List.getLast?_concat, hne, ← Option.some.inj hp]

theorem numbered_run (rtc : K.Rtc) (profile : K.Profile) (opening : Option K.Pending)
    (fingerprint : Option Text) (calls : List NegotiationCall) :
    Numbered
      (offers opening (trace step ⟨rtc, profile, opening, fingerprint, 0⟩ calls))
      (exec step ⟨rtc, profile, opening, fingerprint, 0⟩ calls) := by
  refine history_induction (P := fun tr peer => Numbered (offers opening tr) peer) ?_ ?_ calls
  · cases opening with
    | none => exact ⟨.nil, fun o ho => (not_mem_nil ho).elim, fun p hp => by cases hp⟩
    | some p =>
      exact ⟨pairwise_singleton _ _,
        fun o ho => Nat.le_of_eq (congrArg Prod.fst (mem_singleton.mp ho)),
        fun p' hp => by cases hp; rfl⟩
  intro tr peer call h
  have hm : offers opening (tr ++ [(call, (peer.step call).2)]) =
      offers opening tr ++ ((peer.step call).2.created.map Prod.snd).toList := by
    simp only [offers, filterMap_append, append_assoc, filterMap_cons]
    cases (peer.step call).2.created <;> rfl
  rw [hm]
  exact h.step call

/-- The answer reaches the stack with the pending offer, and the stack refuses it. -/
def Refused (peer : WebRtcNegotiation K) (sdp : Text) (tag : Option Nat) : Prop :=
  (∀ g, tag = some g → g = peer.offerGeneration) ∧
    ∃ answer profile fingerprint pending,
      K.readAnswer sdp = .ok (answer, profile, fingerprint) ∧
        peer.rememberOrValidate fingerprint = none ∧ peer.pendingOffer = some pending ∧
        (K.acceptAnswer peer.rtc pending answer).2 ≠ .ok ()

theorem acceptAnswer_handed {sdp : Text} {p : K.Pending}
    (h : (peer.acceptAnswer sdp).2.handed = some p) : peer.pendingOffer = some p := by
  unfold acceptAnswer at h
  repeat' split at h
  all_goals simp_all

theorem answer_kept {sdp : Text} {tag : Option Nat} (hno : ¬ peer.Refused sdp tag)
    (h : (peer.handleAcceptAnswer sdp tag).2.error.isSome) :
    (peer.handleAcceptAnswer sdp tag).1 = peer := by
  rcases peer.handleAcceptAnswer_cases sdp tag with ⟨e, hstale⟩ | ⟨haccept, htag⟩
  · rw [hstale]
  · rw [haccept] at h ⊢
    unfold acceptAnswer at h ⊢
    grind [Refused]

theorem Refused.lost {sdp : Text} {tag : Option Nat} (h : peer.Refused sdp tag) :
    (peer.handleAcceptAnswer sdp tag).2.error.isSome ∧
      (peer.handleAcceptAnswer sdp tag).1.pendingOffer = none ∧ peer.pendingOffer ≠ none := by
  obtain ⟨htag, answer, profile, fingerprint, pending, hread, hvalid, hpending, hstack⟩ := h
  have haccept : peer.handleAcceptAnswer sdp tag = peer.acceptAnswer sdp := by
    cases tag with
    | none => rfl
    | some g => exact if_neg (not_not.mpr (htag g rfl))
  rw [haccept, acceptAnswer, hread]
  simp only [hvalid, hpending]
  rcases hanswer : K.acceptAnswer peer.rtc pending answer with ⟨rtc, _ | _⟩
  · exact ⟨rfl, rfl, nofun⟩
  · exact absurd (congrArg Prod.snd hanswer) hstack

/-- Offers have increasing generations, only the last one is pending and a tagged answer
reaches the stack only with the offer of its generation.  An answer that fails leaves the pending
offer, and then the whole endpoint, exactly when it was not the stack that refused it. -/
theorem negotiation_generations (rtc : K.Rtc) (profile : K.Profile) (opening : Option K.Pending)
    (fingerprint : Option Text) (calls : List NegotiationCall) (sdp : Text) (tag : Option Nat) :
    let start : WebRtcNegotiation K := ⟨rtc, profile, opening, fingerprint, 0⟩
    let peer := exec step start calls
    let made := offers opening (trace step start calls)
    let answered := peer.step (.acceptAnswer sdp tag)
    (made.map Prod.fst).Pairwise (· < ·) ∧
      (∀ p, peer.pendingOffer = some p → made.getLast? = some (peer.offerGeneration, p)) ∧
      (∀ g p, tag = some g → answered.2.handed = some p → made.getLast? = some (g, p)) ∧
      ((answered.2.error.isSome → answered.1.pendingOffer = peer.pendingOffer ∧
        answered.1.offerGeneration = peer.offerGeneration) ↔ ¬ peer.Refused sdp tag) ∧
      (answered.2.error.isSome → ¬ peer.Refused sdp tag → answered.1 = peer) := by
  intro start peer made answered
  have hanswered : answered = peer.handleAcceptAnswer sdp tag := rfl
  have hrun : Numbered made peer := numbered_run rtc profile opening fingerprint calls
  refine ⟨hrun.increasing, hrun.last, fun g p hg hhanded => ?_, ⟨fun hkept hrefused => ?_,
    fun hno herror => ?_⟩, fun herror hno => answer_kept hno herror⟩
  · rcases peer.handleAcceptAnswer_cases sdp tag with ⟨e, hstale⟩ | ⟨haccept, htag⟩
    · rw [hanswered, hstale] at hhanded
      cases hhanded
    rw [hanswered, haccept] at hhanded
    rw [htag g hg]
    exact hrun.last p (acceptAnswer_handed hhanded)
  · obtain ⟨herror, hnone, hsome⟩ := hrefused.lost
    exact hsome ((hkept herror).1.symm.trans hnone)
  · rw [show answered.1 = peer from answer_kept hno herror]
    exact ⟨rfl, rfl⟩

def sampleStack : MediaStack where
  Rtc := Unit
  Pending := Nat
  Answer := Text
  Offer := Text
  Profile := Unit
  readAnswer sdp := .ok (sdp, (), [])
  readOffer sdp := .ok (sdp, (), [])
  iceRestart _ := ((), some ([], 1))
  acceptAnswer _ _ answer := ((), if answer = ['v'] then .ok () else .error "rejected")
  acceptOffer _ _ := ((), .error "rejected")

def samplePeer : WebRtcNegotiation sampleStack := ⟨(), (), some (0 : Nat), none, 0⟩

theorem samplePeer_answered :
    (exec step samplePeer [.acceptAnswer ['v'] none, .iceRestart]).offerGeneration = 1 ∧
      ((offers samplePeer.pendingOffer (trace step samplePeer
        [.acceptAnswer ['v'] none, .iceRestart])).map Prod.fst).Pairwise (· < ·) :=
  ⟨rfl, (negotiation_generations (K := sampleStack) () () (some (0 : Nat)) none
    [.acceptAnswer ['v'] none, .iceRestart] ['v'] (some 1)).1⟩

/-- An answer that the stack refuses takes the offer with it: the right answer then has
nothing to answer. -/
theorem samplePeer_wedged : (samplePeer.step (.acceptAnswer ['x'] none)).2.error = some "rejected" ∧
      (samplePeer.step (.acceptAnswer ['x'] none)).1.pendingOffer.isNone ∧
      ((samplePeer.step (.acceptAnswer ['x'] none)).1.step (.acceptAnswer ['v'] none)).2.error =
        some "No pending offer to accept answer for" ∧
      (samplePeer.step (.acceptAnswer ['v'] none)).2.error = none :=
  ⟨rfl, rfl, rfl, rfl⟩

end WebRtcNegotiation
end RtpBridge.Session
