/-
Who owns a pending download, and when its token may be cancelled.
-/
import RtpBridge.Playback.CacheCleanup

namespace RtpBridge.Playback.FileCache

open List Option Machine

variable {K : Type} [DecidableEq K] {cfg : CacheConfig} {s s' : FileCache K}

/-! ## Counting owners -/

def ownersOf (requests : List DownloadRequest) (id : Nat) : Nat :=
  requests.countP fun r => r.pending = some id

theorem ownersOf_cons (r : DownloadRequest) (requests : List DownloadRequest) (id : Nat) :
    ownersOf (r :: requests) id = ownersOf requests id + if r.pending = some id then 1 else 0 := by
  simp only [ownersOf, countP_cons, decide_eq_true_eq]

variable {p q : Pending} {requests : List DownloadRequest} {d : Download K}

theorem ownersOf_erase {r : DownloadRequest} (hr : r ∈ requests) (id : Nat) :
    ownersOf (requests.erase r) id + (if r.pending = some id then 1 else 0) =
      ownersOf requests id := by
  rw [← ownersOf_cons]
  exact (perm_cons_erase hr).symm.countP_eq _

theorem ownersOf_eq_zero {id : Nat} :
    ownersOf requests id = 0 ↔ ∀ r ∈ requests, r.pending ≠ some id := by
  simp [ownersOf]

structure Counted (pendings : List Pending) (requests : List DownloadRequest)
    (cancelling : List Nat) (next : Nat) : Prop where
  ids : ∀ p ∈ pendings, p.id < next
  unique : ∀ p ∈ pendings, ∀ q ∈ pendings, p.id = q.id → p = q
  owners : ∀ p ∈ pendings, p.owners = ownersOf requests p.id
  known : ∀ id, 0 < ownersOf requests id → ∃ p ∈ pendings, p.id = id
  leaving : ∀ id ∈ cancelling, id < next ∧ ownersOf requests id = 0
  cancelled : ∀ p ∈ pendings, p.cancelled = true → ownersOf requests p.id = 0

/-- A task only ends with a cancellation after its token is cancelled, and only closes with
a result or a cancelled token. -/
def Settles (p : Pending) (stage : Stage) : Prop :=
  (stage = .done (.error downloadCancelled) → p.cancelled = true) ∧
    (stage = .closing → p.result ≠ none ∨ p.cancelled = true)

structure Answered (pendings : List Pending) (downloads : List (Download K)) : Prop where
  result : ∀ p ∈ pendings, p.result = some (.error downloadCancelled) → p.cancelled = true
  settled : ∀ d ∈ downloads, ∀ p ∈ pendings, p.id = d.id → Settles p d.stage

structure Attended (s : FileCache K) : Prop where
  counted : Counted s.pendings s.requests s.cancelling s.nextPending
  answered : Answered s.pendings s.downloads

theorem Counted.of_pending? (h : Counted s.pendings s.requests s.cancelling s.nextPending)
    (hp : p ∈ s.pendings) : s.pending? p.id = some p := by
  unfold pending?
  cases hf : s.pendings.find? fun q => q.id = p.id with
  | none => exact (List.find?_eq_none.mp hf p hp (decide_eq_true rfl)).elim
  | some q =>
    obtain ⟨hq, hid⟩ := mem_find hf
    rw [h.unique q hq p hp (of_decide_eq_true hid)]

theorem mem_setPending : q ∈ (s.setPending p).pendings ↔ q = p ∨ q ∈ s.pendings ∧ q.id ≠ p.id := by
  simp [setPending]

/-! ## Requests -/

theorem Counted.put (h : Counted s.pendings s.requests s.cancelling s.nextPending) {next : Nat}
    (hn : s.nextPending ≤ next) (hid : q.id < next)
    (ho : ∀ id, id ≠ q.id → ownersOf requests id = ownersOf s.requests id)
    (how : q.owners = ownersOf requests q.id)
    (hl : q.id ∈ s.cancelling → ownersOf requests q.id = 0)
    (hca : q.cancelled = true → ownersOf requests q.id = 0) :
    Counted (s.setPending q).pendings requests s.cancelling next where
  ids := by
    intro x hx
    rcases mem_setPending.mp hx with rfl | ⟨hx, -⟩
    · exact hid
    · exact (h.ids x hx).trans_le hn
  unique := by
    intro x hx y hy hsame
    rcases mem_setPending.mp hx with rfl | ⟨hx, hne⟩
    · rcases mem_setPending.mp hy with rfl | ⟨hy, hne'⟩
      · rfl
      · exact (hne' hsame.symm).elim
    rcases mem_setPending.mp hy with rfl | ⟨hy, -⟩
    · exact (hne hsame).elim
    · exact h.unique x hx y hy hsame
  owners := by
    intro x hx
    rcases mem_setPending.mp hx with rfl | ⟨hx, hne⟩
    · exact how
    · exact (h.owners x hx).trans (ho x.id hne).symm
  known := by
    intro id hpo
    by_cases hsame : id = q.id
    · exact ⟨q, mem_setPending.mpr (.inl rfl), hsame.symm⟩
    rw [ho id hsame] at hpo
    obtain ⟨x, hx, rfl⟩ := h.known id hpo
    exact ⟨x, mem_setPending.mpr (.inr ⟨hx, hsame⟩), rfl⟩
  leaving := by
    intro id hm
    obtain ⟨hlt, hz⟩ := h.leaving id hm
    grind
  cancelled := by
    intro x hx hc
    rcases mem_setPending.mp hx with rfl | ⟨hx, hne⟩
    · exact hca hc
    · exact (ho x.id hne).trans (h.cancelled x hx hc)

theorem Counted.same (h : Counted s.pendings s.requests s.cancelling s.nextPending)
    (hsame : ∀ id, ownersOf requests id = ownersOf s.requests id) :
    Counted s.pendings requests s.cancelling s.nextPending where
  __ := h
  owners := fun p hp => (h.owners p hp).trans (hsame p.id).symm
  known := fun id hpo => h.known id (hsame id ▸ hpo)
  leaving := fun id hm => ⟨(h.leaving id hm).1, (hsame id).trans (h.leaving id hm).2⟩
  cancelled := fun p hp hc => (hsame p.id).trans (h.cancelled p hp hc)

theorem Answered.put (h : Answered s.pendings s.downloads) {downloads : List (Download K)}
    (hr : q.result = some (.error downloadCancelled) → q.cancelled = true)
    (hd : ∀ d ∈ downloads, (q.id = d.id → Settles q d.stage) ∧ (q.id ≠ d.id → d ∈ s.downloads)) :
    Answered (s.setPending q).pendings downloads where
  result := by
    intro x hx hc
    rcases mem_setPending.mp hx with rfl | ⟨hx, -⟩
    · exact hr hc
    · exact h.result x hx hc
  settled := by
    intro d hd' x hx hsame
    rcases mem_setPending.mp hx with rfl | ⟨hx, hne⟩
    · exact (hd d hd').1 hsame
    · exact h.settled d ((hd d hd').2 fun heq => hne (hsame.trans heq.symm)) x hx hsame

theorem Answered.sub (h : Answered s.pendings s.downloads) {pendings : List Pending}
    (hp : ∀ p ∈ pendings, p ∈ s.pendings) : Answered pendings s.downloads where
  result := fun p hp' => h.result p (hp p hp')
  settled := fun d hd p hp' => h.settled d hd p (hp p hp')

section

variable (h : Attended s)
include h

theorem Attended.releasePending (id : Nat) : Attended (s.releasePending id) := by
  unfold FileCache.releasePending
  split
  · exact h
  rename_i hh
  have hn : ownersOf s.requests id = 0 := by
    rw [ownersOf_eq_zero]
    intro r hr hpe
    apply hh
    unfold pendingHeld
    have ha : (s.requests.any fun r => r.pending = some id) = true :=
      any_eq_true.mpr ⟨r, hr, decide_eq_true hpe⟩
    rw [ha, Bool.or_true, Bool.true_or]
  have hm : ∀ p ∈ s.pendings.filter fun p => p.id ≠ id, p ∈ s.pendings := fun p hp =>
    mem_of_mem_filter hp
  refine ⟨⟨fun p hp => h.counted.ids p (hm p hp),
    fun p hp q hq => h.counted.unique p (hm p hp) q (hm q hq),
    fun p hp => h.counted.owners p (hm p hp), ?_, h.counted.leaving,
    fun p hp => h.counted.cancelled p (hm p hp)⟩, h.answered.sub hm⟩
  intro id' hpo
  obtain ⟨p, hp, rfl⟩ := h.counted.known id' hpo
  grind

theorem Attended.dropRequest (r : DownloadRequest) : Attended (s.dropRequest r) := by
  unfold FileCache.dropRequest
  split
  · rename_i hr
    have he := ownersOf_erase hr
    dsimp only
    split
    · rename_i hn
      -- No pending download goes with the request, so it counted nowhere.
      refine ⟨h.counted.same fun id => ?_, h.answered⟩
      have hid : r.pending ≠ some id := by
        intro hpe
        have hpo : 0 < ownersOf s.requests id := by
          have hsu := he id
          rw [if_pos hpe] at hsu
          omega
        obtain ⟨p, hp, rfl⟩ := h.counted.known id hpo
        have hs : s.pending? p.id = none := by
          rw [hpe] at hn
          exact hn
        rw [h.counted.of_pending? hp] at hs
        cases hs
      have hsu := he id
      rw [if_neg hid] at hsu
      exact hsu
    · rename_i p hb
      obtain ⟨id, hpe, hf⟩ := bind_eq_some_iff.mp hb
      obtain ⟨hp, rfl⟩ : p ∈ s.pendings ∧ p.id = id := pending?_mem hf
      have ho := he p.id
      rw [if_pos hpe] at ho
      have hco := h.counted.owners p hp
      have hse : Attended { s.setPending { p with owners := p.owners - 1 } with
          requests := s.requests.erase r } := by
        refine ⟨h.counted.put (q := { p with owners := p.owners - 1 }) le_rfl (h.counted.ids p hp)
          (fun id hne => ?_) ?_ (fun hm => ?_) fun hc => ?_, h.answered.put
            (h.answered.result p hp) fun d hd => ⟨h.answered.settled d hd p hp, fun _ => hd⟩⟩
        · grind
        · show p.owners - 1 = ownersOf (s.requests.erase r) p.id
          omega
        · have hz := (h.counted.leaving p.id hm).2
          omega
        · have hz := h.counted.cancelled p hp hc
          omega
      split
      · refine ⟨⟨hse.counted.ids, hse.counted.unique, hse.counted.owners, hse.counted.known,
          fun id hm => ?_, hse.counted.cancelled⟩, hse.answered⟩
        rcases mem_cons.mp hm with rfl | hm
        · refine ⟨h.counted.ids p hp, ?_⟩
          show ownersOf (s.requests.erase r) p.id = 0
          omega
        · exact hse.counted.leaving id hm
      · exact hse.releasePending p.id
  · exact h

theorem Attended.cancel (id : Nat) : Attended (s.cancel id) := by
  unfold FileCache.cancel
  split
  · rename_i hm
    have hz := (h.counted.leaving id hm).2
    have hl : Attended { s with cancelling := s.cancelling.erase id } :=
      ⟨⟨h.counted.ids, h.counted.unique, h.counted.owners, h.counted.known,
        fun x hx => h.counted.leaving x (mem_of_mem_erase hx), h.counted.cancelled⟩,
        h.answered⟩
    dsimp only
    split
    · exact hl
    rename_i p hf
    obtain ⟨hp, rfl⟩ : p ∈ s.pendings ∧ p.id = id := pending?_mem hf
    have hse : Attended ({ s with cancelling := s.cancelling.erase p.id }.setPending
        { p with cancelled := true }) :=
      ⟨hl.counted.put (q := { p with cancelled := true }) le_rfl (h.counted.ids p hp)
        (fun _ _ => rfl) (h.counted.owners p hp) (fun _ => hz) fun _ => hz,
        hl.answered.put (fun _ => rfl) fun _ hd =>
          ⟨fun _ => ⟨fun _ => rfl, fun _ => .inr rfl⟩, fun _ => hd⟩⟩
    exact hse.releasePending p.id
  · exact h

theorem Attended.wait (r : DownloadRequest) : Attended (s.wait r) := by
  unfold FileCache.wait
  split
  · rename_i hr
    split
    · refine ⟨h.counted.same fun id => ?_, h.answered⟩
      rw [ownersOf_cons]
      exact ownersOf_erase hr id
    · exact h
  · exact h

theorem Attended.join (hp : p ∈ s.pendings) (hca : p.cancelled = false)
    (how : 0 < p.owners) :
    Attended { s.setPending { p with owners := p.owners + 1 } with
      requests := ⟨some p.id, none⟩ :: s.requests } := by
  have hcu := h.counted.owners p hp
  have hco := ownersOf_cons ⟨some p.id, none⟩ s.requests
  refine ⟨h.counted.put (q := { p with owners := p.owners + 1 }) le_rfl (h.counted.ids p hp)
    (fun id hne => ?_) ?_ (fun hm => ?_) fun hc => ?_, h.answered.put
      (h.answered.result p hp) fun d hd => ⟨h.answered.settled d hd p hp, fun _ => hd⟩⟩
  · rw [hco, if_neg fun heq => hne (some.inj heq).symm]
    rfl
  · rw [hco, if_pos rfl, ← hcu]
  · have hz := (h.counted.leaving p.id hm).2
    omega
  have hf : p.cancelled = true := hc
  rw [hca] at hf
  cases hf

theorem Attended.begin (hso : Sound cfg s) (key : K) (ttl : Nat) : Attended (s.begun key ttl) := by
  have hco := ownersOf_cons ⟨some s.nextPending, none⟩ s.requests
  have hn : ownersOf s.requests s.nextPending = 0 := by
    rcases Nat.eq_zero_or_pos (ownersOf s.requests s.nextPending) with hz | hpo
    · exact hz
    obtain ⟨p, hp, hid⟩ := h.counted.known _ hpo
    have hlt := h.counted.ids p hp
    omega
  -- no pending download has the new id, so nothing is replaced
  have hf : (s.begun key ttl).pendings = (s.setPending { id := s.nextPending }).pendings :=
    congrArg (_ :: ·) (filter_eq_self.mpr fun p hp => decide_eq_true (h.counted.ids p hp).ne).symm
  constructor <;> rw [hf]
  · refine h.counted.put (Nat.le_succ _) (Nat.lt_succ_self _) (fun id hne => ?_) ?_
      (fun hm => ((h.counted.leaving _ hm).1.ne rfl).elim) nofun
    · exact (hco id).trans (by rw [if_neg fun heq => hne (some.inj heq).symm]; rfl)
    · exact ((hco _).trans (by rw [if_pos rfl, hn])).symm
  · refine h.answered.put nofun fun d hd => ?_
    rcases mem_cons.mp hd with rfl | hd
    · exact ⟨fun _ => ⟨nofun, nofun⟩, fun hne => (hne rfl).elim⟩
    · exact ⟨fun hid => ((hso.keyed.ids d hd).ne' hid).elim, fun _ => hd⟩

theorem Attended.startDownload (hso : Sound cfg s) (key : K) (ttl now : Nat)
    (hj : s.entries.lookup key = none → ∀ p, s.joinable key = some p → 0 < p.owners) :
    Attended (s.startDownload cfg key ttl now).1 := by
  unfold FileCache.startDownload
  split
  · exact h
  split
  · refine ⟨h.counted.same fun id => ?_, h.answered⟩
    rfl
  rename_i hk
  split
  · rename_i p hp
    obtain ⟨hb, ho⟩ := filter_eq_some_iff.mp hp
    obtain ⟨id, -, hpe⟩ := bind_eq_some_iff.mp hb
    refine h.join (pending?_mem hpe).1 ?_ (hj hk p hp)
    simpa using ho
  split
  · exact h
  · exact h.begin hso key ttl

end

/-! ## Downloads -/

structure Restaged (s s' : FileCache K) : Prop where
  pendings : s'.pendings = s.pendings
  requests : s'.requests = s.requests
  cancelling : s'.cancelling = s.cancelling
  nextPending : s'.nextPending = s.nextPending
  downloads : ∀ d ∈ s'.downloads, d ∈ s.downloads ∨
    d.stage ≠ .closing ∧ d.stage ≠ .done (.error downloadCancelled)

theorem Restaged.refl (s : FileCache K) : Restaged s s :=
  ⟨rfl, rfl, rfl, rfl, fun _ hd => .inl hd⟩

theorem Attended.restaged (h : Attended s) (hs : Restaged s s') : Attended s' where
  counted := by
    rw [hs.pendings, hs.requests, hs.cancelling, hs.nextPending]
    exact h.counted
  answered := by
    rw [hs.pendings]
    refine ⟨h.answered.result, fun d hd p hp hid => ?_⟩
    rcases hs.downloads d hd with hd | ⟨hc, her⟩
    · exact h.answered.settled d hd p hp hid
    · exact ⟨fun hst => (her hst).elim, fun hst => (hc hst).elim⟩

theorem restaged_set (hc : d.stage ≠ .closing)
    (her : d.stage ≠ .done (.error downloadCancelled)) : Restaged s (s.setDownload d) where
  pendings := rfl
  requests := rfl
  cancelling := rfl
  nextPending := rfl
  downloads := by
    intro e he
    rcases mem_setDownload.mp he with rfl | ⟨he, -⟩
    · exact .inr ⟨hc, her⟩
    · exact .inl he

theorem restaged_fail (d : Download K) {error : String} (her : error ≠ downloadCancelled) :
    Restaged s (s.setDownload { d with stage := .done (.error error) }) := by
  refine restaged_set Stage.noConfusion fun heq => her ?_
  injection heq with heq
  injection heq

theorem restaged_submit (d : Download K) (op : StorageOp) (bytes : Nat) (busy : Bool) :
    Restaged s (s.setDownload (submit d op bytes busy)) := by
  cases busy with
  | true => exact restaged_fail d (by decide)
  | false => exact restaged_set Stage.noConfusion Stage.noConfusion

theorem restaged_acquire (cfg : CacheConfig) (d : Download K) (busy : Bool) :
    Restaged s (s.acquire cfg d busy) := by
  unfold acquire
  split
  · split
    · have hs : Restaged s (s.setDownload (submit
          { d with unpublished := [temporary s.nextName, cached s.nextName] }
          (.create s.nextName) 0 busy)) := restaged_submit _ _ _ busy
      exact ⟨rfl, rfl, rfl, rfl, hs.downloads⟩
    · exact restaged_fail d (by decide)
  · exact .refl s

theorem restaged_receive (cfg : CacheConfig) (d : Download K) (r : Received) (busy : Bool)
    (hr : r ≠ .failed downloadCancelled) : Restaged s (s.receive cfg d r busy) := by
  unfold receive
  split
  · cases r with
    | chunk len =>
      dsimp only
      split
      · exact restaged_submit _ _ _ busy
      · exact restaged_fail d (by decide)
    | ended => exact restaged_submit _ _ _ busy
    | failed error => exact restaged_fail d fun heq => hr (congrArg Received.failed heq)
  · exact .refl s

theorem restaged_resume (d : Download K) (busy : Bool) : Restaged s (s.resume d busy) := by
  unfold resume
  split
  · rename_i op bytes hs
    cases op with
    | create name => exact restaged_set Stage.noConfusion Stage.noConfusion
    | write name len => exact restaged_set Stage.noConfusion Stage.noConfusion
    | flush name => exact restaged_submit _ _ _ busy
    | rename name =>
      have hse : Restaged s (s.setDownload { d with stage := .done (.ok name) }) := by
        refine restaged_set Stage.noConfusion fun heq => ?_
        cases heq
      exact ⟨rfl, rfl, rfl, rfl, hse.downloads⟩
  · exact restaged_fail d (by decide)
  · exact .refl s

theorem restaged_timeoutDownload (d : Download K) : Restaged s (s.timeoutDownload d) := by
  have hf : Restaged s (s.setDownload
      { d with stage := .done (.error "Download timeout including queue time") }) :=
    restaged_fail d (by decide)
  unfold timeoutDownload stop
  split
  · exact ⟨rfl, rfl, rfl, rfl, hf.downloads⟩
  · exact ⟨rfl, rfl, rfl, rfl, hf.downloads⟩
  · exact ⟨rfl, rfl, rfl, rfl, hf.downloads⟩
  · exact .refl s
  · exact .refl s

theorem restaged_startJob (d : Download K) : Restaged s (s.startJob d) := by
  unfold startJob
  split
  · exact restaged_set Stage.noConfusion Stage.noConfusion
  · exact .refl s

theorem restaged_finishJob (d : Download K) (ok : Bool) (written : Nat) :
    Restaged s (s.finishJob d ok written) := by
  unfold finishJob
  split
  · rename_i op bytes hs
    have hse : Restaged s (s.setDownload
        { d with stage := .storing op bytes (.finished (op.run s.disk ok written).2) }) :=
      restaged_set Stage.noConfusion Stage.noConfusion
    exact ⟨rfl, rfl, rfl, rfl, hse.downloads⟩
  · exact .refl s

theorem Attended.cancelDownload (h : Attended s) : Attended (s.cancelDownload d) := by
  unfold FileCache.cancelDownload
  split
  · rename_i hca
    have hr : ∀ p ∈ s.pendings, p.id = d.id → p.cancelled = true := by
      rintro p hp hid
      rw [← hid, h.counted.of_pending? hp] at hca
      exact hca
    have hse : Answered s.pendings
        (s.setDownload { d with stage := .done (.error downloadCancelled) }).downloads := by
      refine ⟨h.answered.result, fun e he p hp hid => ?_⟩
      rcases mem_setDownload.mp he with rfl | ⟨he, -⟩
      · exact ⟨fun _ => hr p hp hid, fun _ => .inr (hr p hp hid)⟩
      · exact h.answered.settled e he p hp hid
    unfold stop
    split
    · exact ⟨h.counted, hse⟩
    · exact ⟨h.counted, hse⟩
    · exact ⟨h.counted, hse⟩
    · exact h
    · exact h
  · exact h

theorem Attended.close (h : Attended s) (hp : p ∈ s.pendings) (hid : p.id = d.id)
    {r : Except String CachedFile} {downloads : List (Download K)}
    (hr : r = .error downloadCancelled → p.cancelled = true)
    (hd : ∀ e ∈ downloads, e.id = d.id ∧ e.stage = .closing ∨ e.id ≠ d.id ∧ e ∈ s.downloads) :
    Counted (s.setPending { p with result := some r }).pendings s.requests s.cancelling
        s.nextPending ∧
      Answered (s.setPending { p with result := some r }).pendings downloads := by
  refine ⟨h.counted.put le_rfl (h.counted.ids p hp) (fun _ _ => rfl) (h.counted.owners p hp)
    (fun hm => (h.counted.leaving p.id hm).2) (h.counted.cancelled p hp),
    h.answered.put (fun heq => hr (some.inj heq)) fun e he => ?_⟩
  rcases hd e he with ⟨heq, hc⟩ | ⟨hne, he⟩
  · rw [hc]
    exact ⟨fun _ => ⟨nofun, fun _ => .inl (some_ne_none _)⟩,
      fun hne => (hne (hid.trans heq.symm)).elim⟩
  · exact ⟨fun heq => (hne (heq.symm.trans hid)).elim, fun _ => he⟩

theorem closing_setDownload (d : Download K) (unpublished : List CachedFile) : ∀ e ∈
      (s.setDownload { d with stage := .closing, unpublished := unpublished }).downloads,
    e.id = d.id ∧ e.stage = .closing ∨ e.id ≠ d.id ∧ e ∈ s.downloads := by
  intro e he
  rcases mem_setDownload.mp he with rfl | ⟨he, hne⟩
  · exact .inl ⟨rfl, rfl⟩
  · exact .inr ⟨hne, he⟩

theorem Attended.publish (h : Attended s) (hd : d ∈ s.downloads) (now : Nat) :
    Attended (s.publish d now) := by
  unfold FileCache.publish
  split
  · rename_i name p hs hf
    obtain ⟨hp, hid⟩ := pending?_mem hf
    split
    · rename_i hca
      refine ⟨h.counted, h.answered.result, fun e he q hq hsame => ?_⟩
      rcases closing_setDownload d d.unpublished e he with ⟨heq, hc⟩ | ⟨-, he⟩
      · rw [h.counted.unique q hq p hp (hsame.trans (heq.trans hid.symm))]
        exact ⟨fun _ => hca, fun _ => .inr hca⟩
      · exact h.answered.settled e he q hq hsame
    · obtain ⟨hco, ha⟩ := h.close (r := .ok (cached name)) hp hid nofun
        (closing_setDownload d [])
      exact ⟨hco, ha⟩
  · rename_i error p hs hf
    obtain ⟨hp, hid⟩ := pending?_mem hf
    have hr : (.error error : Except String CachedFile) = .error downloadCancelled →
        p.cancelled = true := by
      intro heq
      cases heq
      exact (h.answered.settled d hd p hp hid).1 hs
    obtain ⟨hco, ha⟩ := h.close hp hid hr (closing_setDownload d d.unpublished)
    exact ⟨hco, ha⟩
  · exact h

theorem Attended.dropGuard (h : Attended s) (hd : d ∈ s.downloads) : Attended (s.dropGuard d) := by
  unfold FileCache.dropGuard
  split
  · rename_i p hs hf
    obtain ⟨hp, hid⟩ := pending?_mem hf
    have hl : ∀ e ∈ s.downloads.filter fun e => e.id ≠ d.id,
        e.id = d.id ∧ e.stage = .closing ∨ e.id ≠ d.id ∧ e ∈ s.downloads := fun e he =>
      .inr ⟨of_decide_eq_true (mem_filter.mp he).2, mem_of_mem_filter he⟩
    refine Attended.releasePending ?_ d.id
    cases hr : p.result with
    | none =>
      have hca := ((h.answered.settled d hd p hp hid).2 hs).resolve_left fun hne => hne hr
      obtain ⟨hco, ha⟩ := h.close (r := .error downloadCancelled) hp hid (fun _ => hca) hl
      exact ⟨hco, ha⟩
    | some result =>
      obtain ⟨hco, ha⟩ := h.close (r := result) hp hid
        (fun heq => h.answered.result p hp (hr.trans (congrArg some heq))) hl
      rw [← hr] at hco ha
      exact ⟨hco, ha⟩
  · exact h

/-! ## The cleanup -/

theorem restaged_collect (keys : List K) (s : FileCache K) : Restaged s (s.collect keys) := by
  induction keys generalizing s with
  | nil => exact .refl s
  | cons key keys ih =>
    unfold collect
    split
    · rename_i entry he
      obtain ⟨hp, hr, hc, hn, hd⟩ := ih
        { s with
          entries := s.entries.erase key
          garbage := s.garbage ++ [entry.file] }
      exact ⟨hp, hr, hc, hn, hd⟩
    · exact ih s

theorem restaged_startCleanup (now : Nat) : Restaged s (s.startCleanup now) := by
  obtain ⟨hp, hr, hc, hn, hd⟩ := restaged_collect (s.expired now) s
  exact ⟨hp, hr, hc, hn, hd⟩

theorem restaged_of_eq (hp : s'.pendings = s.pendings) (hr : s'.requests = s.requests)
    (hc : s'.cancelling = s.cancelling) (hn : s'.nextPending = s.nextPending)
    (hd : s'.downloads = s.downloads) : Restaged s s' :=
  ⟨hp, hr, hc, hn, fun _ he => .inl (hd ▸ he)⟩

theorem restaged_submitRemoval (c : Cleanup) (busy : Bool) :
    Restaged s (s.submitRemoval c busy) := by
  unfold submitRemoval
  split
  · split <;> exact restaged_of_eq rfl rfl rfl rfl rfl
  all_goals exact restaged_of_eq rfl rfl rfl rfl rfl

theorem restaged_startRemoval (c : Cleanup) : Restaged s (s.startRemoval c) := by
  unfold startRemoval
  split <;> exact restaged_of_eq rfl rfl rfl rfl rfl

theorem restaged_finishRemoval (c : Cleanup) (ok : Bool) : Restaged s (s.finishRemoval c ok) := by
  unfold finishRemoval
  split
  · split <;> exact restaged_of_eq rfl rfl rfl rfl rfl
  · exact .refl s

theorem restaged_confirm (c : Cleanup) : Restaged s (s.confirm c) := by
  unfold confirm
  split <;> exact restaged_of_eq rfl rfl rfl rfl rfl

theorem restaged_finishStrayRemoval (r : StrayRemoval) (ok : Bool) :
    Restaged s (s.finishStrayRemoval r ok) := by
  unfold finishStrayRemoval
  split <;> exact restaged_of_eq rfl rfl rfl rfl rfl

theorem restaged_finishStray (job : StrayJob) (ok : Bool) (written : Nat) :
    Restaged s (s.finishStray job ok written) := by
  unfold finishStray
  split <;> exact restaged_of_eq rfl rfl rfl rfl rfl

/-! ## Runs -/

/-- The server does not stop, a request only joins a pending download that has an owner, and
no server's failure reads like a cancellation. -/
def Attending (s : FileCache K) : CacheEvent K → Prop
  | .startDownload key _ _ =>
    s.entries.lookup key = none → ∀ p, s.joinable key = some p → 0 < p.owners
  | .shutdown => False
  | .receive _ r _ => r ≠ .failed downloadCancelled
  | _ => True

theorem Attended.handle (h : Attended s) (hso : Sound cfg s) (ev : CacheEvent K)
    (hev : s.Attending ev) : Attended (s.handle cfg ev) := by
  cases ev with
  | startDownload key ttl now => exact h.startDownload hso key ttl now hev
  | wait r => exact h.wait r
  | dropRequest r => exact h.dropRequest r
  | cancel id => exact h.cancel id
  | shutdown => exact hev.elim
  | acquire id busy => exact onDownload_of h fun d _ => h.restaged (restaged_acquire cfg d busy)
  | receive id r busy =>
    exact onDownload_of h fun d _ => h.restaged (restaged_receive cfg d r busy hev)
  | resume id busy => exact onDownload_of h fun d _ => h.restaged (restaged_resume d busy)
  | cancelDownload id => exact onDownload_of h fun d _ => h.cancelDownload
  | timeoutDownload id => exact onDownload_of h fun d _ => h.restaged (restaged_timeoutDownload d)
  | publish id now => exact onDownload_of h fun d hd => h.publish hd now
  | dropGuard id => exact onDownload_of h fun d hd => h.dropGuard hd
  | startJob id => exact onDownload_of h fun d _ => h.restaged (restaged_startJob d)
  | finishJob id ok written =>
    exact onDownload_of h fun d _ => h.restaged (restaged_finishJob d ok written)
  | finishStray job ok written => exact h.restaged (restaged_finishStray job ok written)
  | startCleanup now => exact h.restaged (restaged_startCleanup now)
  | submitRemoval c busy =>
    exact onCleanup_of h (f := fun c => s.submitRemoval c busy) fun _ =>
      h.restaged (restaged_submitRemoval c busy)
  | startRemoval c => exact onCleanup_of h fun _ => h.restaged (restaged_startRemoval c)
  | finishRemoval c ok =>
    exact onCleanup_of h (f := fun c => s.finishRemoval c ok) fun _ =>
      h.restaged (restaged_finishRemoval c ok)
  | confirm c => exact onCleanup_of h fun _ => h.restaged (restaged_confirm c)
  | abandonCleanup c =>
    exact onCleanup_of h fun _ => h.restaged (restaged_of_eq rfl rfl rfl rfl rfl)
  | finishStrayRemoval r ok => exact h.restaged (restaged_finishStrayRemoval r ok)
  | cloneLease file =>
    unfold FileCache.handle
    dsimp only
    split
    · exact ⟨h.counted, h.answered⟩
    · exact h
  | dropLease file => exact ⟨h.counted, h.answered⟩

theorem attended_empty : Attended ({} : FileCache K) where
  counted := by constructor <;> simp [ownersOf]
  answered := by constructor <;> simp

/-- If every request that joins finds an owner and the server does not stop, then in every
state reached no live request owns a pending download whose token is cancelled, and none
is answered that its download was cancelled. -/
theorem owner_not_cancelled (cfg : CacheConfig) (events : List (CacheEvent K))
    (h : Along (step cfg) (fun _ s ev => s.Attending ev) ({} : FileCache K) events) :
    let s := exec (step cfg) ({} : FileCache K) events
    ∀ r ∈ s.requests, (∀ id p, r.pending = some id → s.pending? id = some p → p.cancelled = false) ∧
        (r.ready = none → s.answer r ≠ some (.error downloadCancelled)) := by
  intro s
  have hattended : Sound cfg s ∧ Attended s := by
    refine along_induction (P := fun _ s => Sound cfg s ∧ Attended s)
      ⟨sound_empty, attended_empty⟩ ?_ h
    intro tr s ev hev hP
    exact ⟨hP.1.step ev, (hP.2.handle hP.1 ev hev).counted, (hP.2.handle hP.1 ev hev).answered⟩
  have hlive : ∀ r ∈ s.requests, ∀ id p, r.pending = some id → s.pending? id = some p →
      p.cancelled = false := by
    intro r hr id p hpending hfind
    obtain ⟨hp, rfl⟩ := pending?_mem hfind
    cases hc : p.cancelled with
    | false => rfl
    | true =>
      have hzero := hattended.2.counted.cancelled p hp hc
      exact (ownersOf_eq_zero.mp hzero r hr hpending).elim
  intro r hr
  refine ⟨hlive r hr, fun hready hanswer => ?_⟩
  unfold answer at hanswer
  rw [hready] at hanswer
  obtain ⟨p, hbind, hresult⟩ := bind_eq_some_iff.mp hanswer
  obtain ⟨id, hpending, hfind⟩ := bind_eq_some_iff.mp hbind
  have hc := hattended.2.answered.result p (pending?_mem hfind).1 hresult
  rw [hlive r hr id p hpending hfind] at hc
  cases hc

def sampleLimits : CacheConfig :=
  { maxEntries := 4, maxInflight := 4, maxOwners := 4, maxDownloadBytes := 8, maxCacheBytes := 64 }

def sampleShared : List (CacheEvent Nat) :=
  [.startDownload 0 60 0, .startDownload 0 60 0, .dropRequest ⟨some 0, none⟩, .cancel 0,
    .cancelDownload 0]

theorem owner_not_cancelled_shared : (⟨some 0, none⟩ : DownloadRequest) ∈
        (exec (step sampleLimits) {} sampleShared).requests ∧
      (exec (step sampleLimits) {} sampleShared).answer ⟨some 0, none⟩ ≠
        some (.error downloadCancelled) := by
  have hlive : (⟨some 0, none⟩ : DownloadRequest) ∈
      (exec (step sampleLimits) {} sampleShared).requests := by decide +kernel
  refine ⟨hlive, (owner_not_cancelled sampleLimits sampleShared ?_ _ hlive).2 rfl⟩
  refine ⟨fun _ p hp => ?_, fun _ p hp => ?_, trivial, trivial, trivial, trivial⟩
  · cases hp
  · cases hp
    decide

def sampleCrossed : List (CacheEvent Nat) :=
  [.startDownload 0 60 0, .dropRequest ⟨some 0, none⟩, .startDownload 0 60 0, .cancel 0,
    .cancelDownload 0, .publish 0 0]

theorem crossed_owner_cancelled : (⟨some 0, none⟩ : DownloadRequest) ∈
        (exec (step sampleLimits) {} sampleCrossed).requests ∧
      ((exec (step sampleLimits) {} sampleCrossed).pending? 0).map Pending.cancelled = some true ∧
      (exec (step sampleLimits) {} sampleCrossed).answer ⟨some 0, none⟩ =
        some (.error "download cancelled") :=
  ⟨by decide +kernel, by decide +kernel, rfl⟩

end RtpBridge.Playback.FileCache
