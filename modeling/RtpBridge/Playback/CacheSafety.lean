/-
Every step of the download cache keeps it sound.
-/
import RtpBridge.Playback.CacheInvariant

namespace RtpBridge.Playback.FileCache

open List Option

variable {K : Type} [DecidableEq K] {cfg : CacheConfig} {s : FileCache K}

/-! ## Requests and leases -/

def relent (s : FileCache K) (entries : HashMap K CacheEntry) (pendings : List Pending)
    (requests : List DownloadRequest) (cancelling : List Nat) (leases : List CachedFile) :
    FileCache K :=
  { s with
    entries := entries
    pendings := pendings
    requests := requests
    cancelling := cancelling
    leases := leases }

theorem Sound.relend (h : Sound cfg s) {entries : HashMap K CacheEntry} {pendings : List Pending}
    {requests : List DownloadRequest} {cancelling : List Nat} {leases : List CachedFile}
    (hl : ∀ f, Listed entries f ↔ Listed s.entries f)
    (hk : ∀ key, s.entries.lookup key = none → entries.lookup key = none)
    (hle : ∀ f, f ∈ (s.relent entries pendings requests cancelling leases).leased → s.Published f) :
    Sound cfg (s.relent entries pendings requests cancelling leases) := by
  have hp : ∀ f, (s.relent entries pendings requests cancelling leases).Published f →
      s.Published f := by
    rintro f (hf | hf)
    · exact .inl ((hl f).mp hf)
    · exact hle f hf
  have ho : ∀ f, f ∈ (s.relent entries pendings requests cancelling leases).opened →
      f ∈ s.opened := by
    intro f hf
    rw [mem_opened] at hf ⊢
    rcases hf with hf | hf | hf
    · exact .inl ((hl f).mp hf)
    · rcases hle f hf with hf | hf
      · exact .inl hf
      · exact .inr (.inl hf)
    · exact .inr (.inr hf)
  exact { h with
    keyed := ⟨h.keyed.ids, h.keyed.unique, h.keyed.inflight,
      fun d hd hs => hk d.key (h.keyed.vacant d hd hs)⟩
    published := fun f hf => h.published f (hp f hf)
    claimed := fun f hf hop => h.claimed f hf (ho f hop)
    owned := fun f hf => (h.owned f hf).imp_left (hl f).mpr
    reserved := fun f hf => h.reserved f (handles_of_opened ho rfl rfl hf)
    accounted := h.accounted }

theorem mem_find {α : Type} {p : α → Bool} {xs : List α} {x : α} (h : xs.find? p = some x) :
    x ∈ xs ∧ p x = true :=
  ⟨mem_of_find?_eq_some h, List.find?_some h⟩

theorem pending?_mem {id : Nat} {p : Pending} (h : s.pending? id = some p) :
    p ∈ s.pendings ∧ p.id = id := by
  obtain ⟨hm, ht⟩ := mem_find h
  exact ⟨hm, of_decide_eq_true ht⟩

section

variable (h : Sound cfg s)
include h

theorem Sound.unlend {pendings : List Pending}
    {requests : List DownloadRequest} {cancelling : List Nat}
    (hpe : ∀ p ∈ pendings, ∀ f, p.result = some (.ok f) → ∃ q ∈ s.pendings, q.result = some (.ok f))
    (hre : ∀ r ∈ requests, ∀ f, r.ready = some f → ∃ q ∈ s.requests, q.ready = some f) :
    Sound cfg { s with pendings := pendings, requests := requests, cancelling := cancelling } := by
  refine h.relend (fun _ => Iff.rfl) (fun _ hn => hn) ?_
  intro f hf
  right
  rw [mem_leased] at hf ⊢
  rcases hf with hf | ⟨r, hr, hra⟩ | ⟨p, hp, hrs⟩
  · exact .inl hf
  · exact .inr (.inl (hre r hr f hra))
  · exact .inr (.inr (hpe p hp f hrs))

theorem Sound.releasePending (id : Nat) : Sound cfg (s.releasePending id) := by
  grind [FileCache.releasePending, h.unlend]

theorem Sound.setPending {p q : Pending} (hp : p ∈ s.pendings)
    (hrs : ∀ f, q.result = some (.ok f) → p.result = some (.ok f)) :
    Sound cfg (s.setPending q) := by
  refine h.unlend ?_ (fun r hr f hf => ⟨r, hr, hf⟩)
  grind

theorem Sound.dropRequest (r : DownloadRequest) : Sound cfg (s.dropRequest r) := by
  unfold FileCache.dropRequest
  split
  · have hd : Sound cfg { s with requests := s.requests.erase r } :=
      h.unlend (fun p hp f hf => ⟨p, hp, hf⟩)
        (fun x hx f hf => ⟨x, mem_of_mem_erase hx, hf⟩)
    dsimp only
    split
    · exact hd
    rename_i p hp
    obtain ⟨id, -, hpe⟩ := bind_eq_some_iff.mp hp
    have hs := hd.setPending (q := { p with owners := p.owners - 1 })
      (pending?_mem hpe).1 (fun _ hf => hf)
    split
    · exact hs.unlend (fun q hq f hf => ⟨q, hq, hf⟩) (fun x hx f hf => ⟨x, hx, hf⟩)
    · exact hs.releasePending p.id
  · exact h

theorem Sound.cancel (id : Nat) : Sound cfg (s.cancel id) := by
  unfold FileCache.cancel
  split
  · have hd : Sound cfg { s with cancelling := s.cancelling.erase id } :=
      h.unlend (fun p hp f hf => ⟨p, hp, hf⟩) (fun x hx f hf => ⟨x, hx, hf⟩)
    dsimp only
    split
    · exact hd
    rename_i p hp
    exact (hd.setPending (q := { p with cancelled := true }) (pending?_mem hp).1
      (fun _ hf => hf)).releasePending id
  · exact h

theorem Sound.shutdown : Sound cfg s.shutdown := by
  refine h.unlend ?_ (fun x hx f hf => ⟨x, hx, hf⟩)
  grind

end

theorem published_of_answer {r : DownloadRequest} (hr : r ∈ s.requests) {f : CachedFile}
    (h : s.answer r = some (.ok f)) : s.Published f := by
  right
  rw [mem_leased]
  unfold answer at h
  split at h
  · rename_i file hra
    cases h
    exact .inr (.inl ⟨r, hr, hra⟩)
  obtain ⟨p, hp, hrs⟩ := bind_eq_some_iff.mp h
  obtain ⟨id, -, hpe⟩ := bind_eq_some_iff.mp hp
  exact .inr (.inr ⟨p, (pending?_mem hpe).1, hrs⟩)

theorem Sound.wait (h : Sound cfg s) (r : DownloadRequest) : Sound cfg (s.wait r) := by
  unfold FileCache.wait
  split
  · rename_i hr
    split
    · rename_i file ha
      refine h.relend (fun _ => Iff.rfl) (fun _ hn => hn) ?_
      intro f hf
      rw [mem_leased] at hf
      rcases hf with hf | ⟨x, hx, hra⟩ | hf
      · rcases mem_cons.mp hf with rfl | hf
        · exact published_of_answer hr ha
        · exact .inr (mem_leased.mpr (.inl hf))
      · rcases mem_cons.mp hx with rfl | hx
        · cases hra
        · exact .inr (mem_leased.mpr (.inr (.inl ⟨x, mem_of_mem_erase hx, hra⟩)))
      · exact .inr (mem_leased.mpr (.inr (.inr hf)))
    · exact h
  · exact h

theorem Sound.cloneLease (h : Sound cfg s) {file : CachedFile} (hfi : file ∈ s.leases) :
    Sound cfg { s with leases := file :: s.leases } := by
  refine h.relend (fun _ => Iff.rfl) (fun _ hn => hn) ?_
  intro f hf
  right
  rw [mem_leased] at hf ⊢
  refine hf.imp_left fun hm => ?_
  rcases mem_cons.mp hm with rfl | hm
  · exact hfi
  · exact hm

theorem Sound.dropLease (h : Sound cfg s) (file : CachedFile) :
    Sound cfg { s with leases := s.leases.erase file } := by
  refine h.relend (fun _ => Iff.rfl) (fun _ hn => hn) ?_
  intro f hf
  right
  rw [mem_leased] at hf ⊢
  exact hf.imp_left mem_of_mem_erase

/-! ## The work of one download -/

theorem mem_setDownload {d e : Download K} :
    e ∈ (s.setDownload d).downloads ↔ e = d ∨ e ∈ s.downloads ∧ e.id ≠ d.id := by
  simp [setDownload]

theorem keyed_set {inflight : HashMap K Nat} {entries : HashMap K CacheEntry} {next : Nat}
    (h : Keyed s.downloads inflight entries next) {d d' : Download K} (hd : d ∈ s.downloads)
    (hid : d'.id = d.id) (hk : d'.key = d.key)
    (hcl : d.stage = .closing → d'.stage = .closing) :
    Keyed (s.setDownload d').downloads inflight entries next where
  ids := by
    intro e he
    rcases mem_setDownload.mp he with rfl | ⟨he, -⟩
    · rw [hid]
      exact h.ids d hd
    · exact h.ids e he
  unique := by
    intro e he e' he' hsame
    rcases mem_setDownload.mp he with rfl | ⟨he, hne⟩
    · rcases mem_setDownload.mp he' with rfl | ⟨he', hne'⟩
      · rfl
      · exact (hne' hsame.symm).elim
    rcases mem_setDownload.mp he' with rfl | ⟨he', -⟩
    · exact (hne hsame).elim
    · exact h.unique e he e' he' hsame
  inflight := by
    intro e he
    rcases mem_setDownload.mp he with rfl | ⟨he, -⟩
    · rw [hk, hid]
      exact h.inflight d hd
    · exact h.inflight e he
  vacant := by
    intro e he hs
    rcases mem_setDownload.mp he with rfl | ⟨he, -⟩
    · rw [hk]
      exact h.vacant d hd fun hc => hs (hcl hc)
    · exact h.vacant e he hs

def after (s : FileCache K) (d : Download K) (jobs : List StrayJob) (disk : Directory) :
    FileCache K :=
  { s.setDownload d with
    strays := jobs
    disk := disk }

structure Step (cfg : CacheConfig) (s : FileCache K) (d d' : Download K)
    (jobs : List StrayJob) (disk : Directory) : Prop where
  mem : d ∈ s.downloads
  id : d'.id = d.id
  key : d'.key = d.key
  unpublished : d'.unpublished = d.unpublished
  closing : d.stage = .closing → d'.stage = .closing
  ok : d'.stage.Ok cfg disk s.reservations d.unpublished
  name : ∀ n, d'.stage.name? = some n → d.stage.name? = some n
  changed : ∀ f, disk f = s.disk f ∨ d.stage.name? = some f.name
  sized : ∀ f size, disk f = some size →
    s.disk f = some size ∨ ∃ r ∈ s.reservations, r.name = f.name ∧ size ≤ r.bytes
  left : ∀ j ∈ jobs, j ∈ s.strays ∨
    d.stage.name? = some j.op.name ∧ d'.stage.name? = none ∧
      Working cfg disk s.reservations j.op.name cfg.maxDownloadBytes j.op.len
  apart : (jobs.map fun j => j.op.name).Nodup

section Step

variable {d d' : Download K} {jobs : List StrayJob} {disk : Directory}

variable {f : CachedFile}

section

variable (hs : Step cfg s d d' jobs disk)
include hs

theorem Step.disk_other (hn : d.stage.name? ≠ some f.name) : disk f = s.disk f :=
  (hs.changed f).resolve_right hn

theorem Step.held (h : Sound cfg s)
    (hn : d.stage.name? = some f.name) : f ∈ d.unpublished := by
  rw [(h.worked.stages d hs.mem).unpublished hn]
  exact mem_both.mpr rfl

theorem Step.unpublished_mem (h : Sound cfg s)
    (hf : ∃ e ∈ s.downloads, f ∈ e.unpublished) :
    ∃ e ∈ (s.after d' jobs disk).downloads, f ∈ e.unpublished := by
  obtain ⟨e, he, hm⟩ := hf
  by_cases hid : e.id = d'.id
  · have hsame : e = d := h.keyed.unique e he d hs.mem (hid.trans hs.id)
    subst hsame
    exact ⟨d', mem_setDownload.mpr (.inl rfl), hs.unpublished.symm ▸ hm⟩
  · exact ⟨e, mem_setDownload.mpr (.inr ⟨he, hid⟩), hm⟩

theorem Step.names (h : Sound cfg s) {e : Download K}
    (he : e ∈ s.downloads) (hne : e.id ≠ d'.id) {n : Nat} (hn : e.stage.name? = some n) :
    d.stage.name? ≠ some n := by
  intro hd
  exact hne ((h.worked.names e he d hs.mem n hn hd).trans hs.id.symm)

theorem Step.worked (h : Sound cfg s) :
    Worked cfg (s.after d' jobs disk).downloads jobs s.garbage disk s.reservations where
  stages := by
    intro e he
    rcases mem_setDownload.mp he with rfl | ⟨he, hne⟩
    · rw [hs.unpublished]
      exact hs.ok
    refine (h.worked.stages e he).congr ?_ (fun _ _ _ hr _ => hr)
    intro n hn f hf
    apply hs.disk_other
    rw [mem_both.mp hf]
    exact hs.names h he hne hn
  names := by
    intro e he e' he' n hn hn'
    rcases mem_setDownload.mp he with rfl | ⟨hold, hne⟩
    · rcases mem_setDownload.mp he' with rfl | ⟨he', hne'⟩
      · rfl
      · exact (hs.names h he' hne' hn' (hs.name n hn)).elim
    rcases mem_setDownload.mp he' with rfl | ⟨he', -⟩
    · exact (hs.names h hold hne hn (hs.name n hn')).elim
    · exact h.worked.names e hold e' he' n hn hn'
  straysOwned := by
    intro j hj f hf
    rcases hs.left j hj with hj | ⟨hn, -, -⟩
    · exact (h.worked.straysOwned j hj f hf).imp_right (hs.unpublished_mem h)
    right
    refine ⟨d', mem_setDownload.mpr (.inl rfl), ?_⟩
    rw [hs.unpublished]
    rw [← mem_both.mp (j.op.files_subset hf)] at hn
    exact hs.held h hn
  straysFit := by
    intro j hj
    rcases hs.left j hj with hj | ⟨-, -, hfi⟩
    · refine (h.worked.straysFit j hj).congr ?_ (fun _ hr _ => hr)
      intro f hf
      apply hs.disk_other
      rw [mem_both.mp hf]
      exact h.worked.straysAlone j hj d hs.mem
    · exact hfi
  straysAlone := by
    intro j hj e he
    rcases hs.left j hj with hj | ⟨hn, hno, -⟩
    · rcases mem_setDownload.mp he with rfl | ⟨he, -⟩
      · intro hn
        exact h.worked.straysAlone j hj d hs.mem (hs.name _ hn)
      · exact h.worked.straysAlone j hj e he
    rcases mem_setDownload.mp he with rfl | ⟨he, hne⟩
    · rw [hno]
      exact (some_ne_none _).symm
    · intro hn'
      exact hs.names h he hne hn' hn
  straysApart := hs.apart

theorem Step.busy {n : Nat}
    (h : (s.after d' jobs disk).Busy n) : s.Busy n := by
  rcases h with ⟨e, he, hn⟩ | ⟨j, hj, rfl⟩
  · rcases mem_setDownload.mp he with rfl | ⟨he, -⟩
    · exact .inl ⟨d, hs.mem, hs.name n hn⟩
    · exact .inl ⟨e, he, hn⟩
  rcases hs.left j hj with hj | ⟨hn, -⟩
  · exact .inr ⟨j, hj, rfl⟩
  · exact .inl ⟨d, hs.mem, hn⟩

theorem Step.opened (h : Sound cfg s)
    (hf : f ∈ (s.after d' jobs disk).opened) : f ∈ s.opened := by
  rw [mem_opened] at hf ⊢
  rcases hf with hf | hf | ⟨e, he, hf⟩ | ⟨j, hj, hf⟩
  · exact .inl hf
  · exact .inr (.inl hf)
  · right
    right
    left
    rcases mem_setDownload.mp he with rfl | ⟨he, -⟩
    · refine ⟨d, hs.mem, ?_⟩
      rcases mem_append.mp hf with hf | hf
      · exact mem_append_right _ (hs.held h (hs.name _ (Stage.files_name hf)))
      · exact mem_append_right _ (hs.unpublished ▸ hf)
    · exact ⟨e, he, hf⟩
  · right
    right
    rcases hs.left j hj with hj | ⟨hn, -, -⟩
    · exact .inr ⟨j, hj, hf⟩
    · rw [← mem_both.mp (j.op.files_subset hf)] at hn
      exact .inl ⟨d, hs.mem, mem_append_right _ (hs.held h hn)⟩

end

theorem Sound.work (h : Sound cfg s) (hs : Step cfg s d d' jobs disk) :
    Sound cfg (s.after d' jobs disk) where
  keyed := keyed_set h.keyed hs.mem hs.id hs.key hs.closing
  worked := hs.worked h
  published := by
    intro f hf
    obtain ⟨hso, hbu⟩ := h.published f hf
    refine ⟨?_, fun hb => hbu (hs.busy hb)⟩
    show (disk f).isSome
    rw [hs.disk_other fun hn => hbu (.inl ⟨d, hs.mem, hn⟩)]
    exact hso
  claimed := fun f hf hop => h.claimed f hf (hs.opened h hop)
  confirmed := by
    intro f hf
    have hsame : disk f = s.disk f := by
      refine (hs.changed f).resolve_right fun hn => ?_
      have hcl : f ∈ s.claimed := by
        obtain ⟨c, hc, -, hh⟩ := hf
        exact mem_claimed.mpr (.inl ⟨c, hc, mem_of_mem_head? hh⟩)
      exact h.claimed f hcl (mem_opened.mpr (.inr (.inr (.inl
        ⟨d, hs.mem, mem_append_right _ (hs.held h hn)⟩))))
    exact hsame.trans (h.confirmed f hf)
  owned := by
    intro f hf
    rcases hs.changed f with hsame | hn
    · have hso : (s.disk f).isSome := hsame ▸ hf
      exact (h.owned f hso).imp_right (Or.imp_right (hs.unpublished_mem h))
    refine .inr (.inr ⟨d', mem_setDownload.mpr (.inl rfl), ?_⟩)
    rw [hs.unpublished]
    exact hs.held h hn
  sized := by
    intro f size hsi
    rcases hs.sized f size hsi with hold | hne
    · exact h.sized f size hold
    · exact hne
  reserved := fun f hf => h.reserved f (handles_of_opened (fun _ => hs.opened h) rfl rfl hf)
  accounted := h.accounted

end Step

variable {d : Download K}

section

variable (h : Sound cfg s) (hd : d ∈ s.downloads)
include h hd

theorem Sound.advance {stage : Stage}
    (hcl : d.stage = .closing → stage = .closing)
    (hok : stage.Ok cfg s.disk s.reservations d.unpublished)
    (hn : ∀ n, stage.name? = some n → d.stage.name? = some n) :
    Sound cfg (s.setDownload { d with stage := stage }) :=
  h.work
    { mem := hd
      id := rfl
      key := rfl
      unpublished := rfl
      closing := hcl
      ok := hok
      name := hn
      changed := fun _ => .inl rfl
      sized := fun _ _ hsi => .inl hsi
      left := fun _ hj => .inl hj
      apart := h.worked.straysApart }

theorem Sound.fail (hs : d.stage ≠ .closing)
    (error : String) : Sound cfg (s.setDownload { d with stage := .done (.error error) }) :=
  h.advance hd (fun hcl => (hs hcl).elim) trivial fun _ hn => by cases hn

theorem Sound.submit (hs : d.stage ≠ .closing)
    {op : StorageOp} {bytes : Nat} (busy : Bool) (hna : d.stage.name? = some op.name)
    (hw : Working cfg s.disk s.reservations op.name bytes op.len) :
    Sound cfg (s.setDownload (FileCache.submit d op bytes busy)) := by
  cases busy with
  | true => exact h.fail hd hs _
  | false =>
    refine h.advance hd (fun hcl => (hs hcl).elim) ?_ ?_
    · exact ⟨(h.worked.stages d hd).unpublished hna, hw⟩
    rintro n hn
    cases hn
    exact hna

theorem Sound.receive (r : Received) (busy : Bool) : Sound cfg (s.receive cfg d r busy) := by
  have hok := h.worked.stages d hd
  unfold FileCache.receive
  split
  · rename_i name bytes hs
    rw [hs] at hok
    have hop : d.stage ≠ .closing := by
      rw [hs]
      exact Stage.noConfusion
    have hn : d.stage.name? = some name := by
      rw [hs]
      rfl
    cases r with
    | chunk len =>
      dsimp only
      split
      · rename_i hl
        refine h.submit hd hop busy hn ⟨hl, hok.2.reserved, ?_, ?_⟩
        · have ht := hok.2.temp
          show s.disk.size (temporary name) + len ≤ bytes + len
          omega
        · exact hok.2.final.trans (Nat.le_add_right bytes len)
      · exact h.fail hd hop _
    | ended => exact h.submit hd hop busy hn hok.2
    | failed error => exact h.fail hd hop error
  · exact h

theorem Sound.startJob : Sound cfg (s.startJob d) := by
  have hok := h.worked.stages d hd
  unfold FileCache.startJob
  split
  · rename_i op bytes hs
    rw [hs] at hok
    refine h.advance hd (fun hcl => ?_) hok (fun n hn => ?_)
    · rw [hs] at hcl
      cases hcl
    · rw [hs]
      exact hn
  · exact h

theorem Sound.finishJob (ok : Bool) (written : Nat) : Sound cfg (s.finishJob d ok written) := by
  have hok := h.worked.stages d hd
  unfold FileCache.finishJob
  split
  · rename_i op bytes hs
    rw [hs] at hok
    obtain ⟨hu, hw⟩ := hok
    obtain ⟨ht, hfi⟩ := StorageOp.run_size ok written hw.temp hw.final
    have hna : d.stage.name? = some op.name := by
      rw [hs]
      rfl
    refine h.work
      { mem := hd
        id := rfl
        key := rfl
        unpublished := rfl
        closing := fun hcl => ?_
        ok := ⟨hu, ⟨hw.limit, hw.reserved, ht, hfi⟩, ?_⟩
        name := fun n hn => hna.trans hn
        changed := fun f => (op.run_changed s.disk ok written f).imp_right fun hf =>
          hna.trans (congrArg some hf.symm)
        sized := fun f size hsi => ?_
        left := fun _ hj => .inl hj
        apart := h.worked.straysApart }
    · rw [hs] at hcl
      cases hcl
    · rintro hrs n rfl
      exact StorageOp.run_renamed hrs
    rcases StorageOp.run_sized ok written hw.temp hw.final hsi with hold | hne
    · exact .inl hold
    · exact .inr ⟨_, hw.reserved, hne.1.symm, hne.2.trans hw.limit⟩
  · exact h

theorem Sound.stop (error : String) : Sound cfg (s.stop d error) := by
  have hok := h.worked.stages d hd
  have hl : ∀ job, d.stage.job? = some job → d.stage.name? = some job.op.name ∧
      Working cfg s.disk s.reservations job.op.name cfg.maxDownloadBytes job.op.len := by
    intro job hjo
    cases hs : d.stage with
    | storing op bytes status =>
      rw [hs] at hok hjo
      have hwo : ∀ running, job = ⟨op, running⟩ →
          Working cfg s.disk s.reservations op.name bytes op.len →
          (Stage.storing op bytes status).name? = some job.op.name ∧
            Working cfg s.disk s.reservations job.op.name cfg.maxDownloadBytes job.op.len := by
        rintro running rfl hw
        exact ⟨rfl, Nat.le_refl _, hw.reserved, hw.temp.trans hw.limit, hw.final.trans hw.limit⟩
      cases status with
      | queued => exact hwo false (Option.some.inj hjo).symm hok.2
      | running => exact hwo true (Option.some.inj hjo).symm hok.2
      | finished ok => cases hjo
    | waiting | receiving name bytes | done result | closing =>
      rw [hs] at hjo
      cases hjo
  have hst : d.stage ≠ .closing → Step cfg s d { d with stage := .done (.error error) }
      (d.stage.job?.toList ++ s.strays) s.disk := by
    intro hop
    exact
      { mem := hd
        id := rfl
        key := rfl
        unpublished := rfl
        closing := fun hcl => (hop hcl).elim
        ok := trivial
        name := fun _ hn => by cases hn
        changed := fun _ => .inl rfl
        sized := fun _ _ hsi => .inl hsi
        left := by
          intro j hj
          rcases mem_append.mp hj with hj | hj
          · obtain ⟨hna, hfi⟩ := hl j (mem_toList.mp hj)
            exact .inr ⟨hna, rfl, hfi⟩
          · exact .inl hj
        apart := by
          cases hjo : d.stage.job? with
          | none => exact h.worked.straysApart
          | some job => grind [h.worked.straysApart, h.worked.straysAlone] }
  unfold FileCache.stop
  split
  · rename_i hs
    exact h.work (hst (by rw [hs]; exact Stage.noConfusion))
  · rename_i hs
    exact h.work (hst (by rw [hs]; exact Stage.noConfusion))
  · rename_i hs
    exact h.work (hst (by rw [hs]; exact Stage.noConfusion))
  · exact h
  · exact h

end

/-! ## Jobs nobody waits for -/

theorem Sound.strayDone (h : Sound cfg s) {job : StrayJob} (hjo : job ∈ s.strays)
    {disk : Directory} (hch : ∀ f, disk f = s.disk f ∨ f ∈ job.op.files)
    (hsi : ∀ f size, disk f = some size →
      s.disk f = some size ∨ ∃ r ∈ s.reservations, r.name = f.name ∧ size ≤ r.bytes) :
    Sound cfg { s with strays := s.strays.erase job, disk := disk } := by
  have ho : ∀ f, f.name ≠ job.op.name → disk f = s.disk f := fun f hn =>
    (hch f).resolve_right fun hf => hn (mem_both.mp (job.op.files_subset hf))
  have ha : ∀ j ∈ s.strays.erase job, j.op.name ≠ job.op.name := by
    intro j hj hn
    have hno : s.strays.Nodup := h.worked.straysApart.of_map _
    obtain ⟨hne, hm⟩ := hno.mem_erase_iff.mp hj
    exact hne (inj_on_of_nodup_map h.worked.straysApart hm hjo hn)
  have hop : ∀ f, f ∈ ({ s with strays := s.strays.erase job, disk := disk } :
      FileCache K).opened → f ∈ s.opened := by
    intro f hf
    rw [mem_opened] at hf ⊢
    rcases hf with hf | hf | hf | ⟨j, hj, hf⟩
    · exact .inl hf
    · exact .inr (.inl hf)
    · exact .inr (.inr (.inl hf))
    · exact .inr (.inr (.inr ⟨j, mem_of_mem_erase hj, hf⟩))
  exact { h with
    worked := {
      stages := by
        intro d hd
        refine (h.worked.stages d hd).congr ?_ (fun _ _ _ hr _ => hr)
        intro n hn f hf
        apply ho
        rintro hsame
        rw [mem_both.mp hf] at hsame
        exact h.worked.straysAlone job hjo d hd (hsame ▸ hn)
      names := h.worked.names
      straysOwned := fun j hj => h.worked.straysOwned j (mem_of_mem_erase hj)
      straysFit := by
        intro j hj
        refine (h.worked.straysFit j (mem_of_mem_erase hj)).congr ?_ (fun _ hr _ => hr)
        intro f hf
        apply ho
        rw [mem_both.mp hf]
        exact ha j hj
      straysAlone := fun j hj => h.worked.straysAlone j (mem_of_mem_erase hj)
      straysApart := h.worked.straysApart.sublist ((erase_sublist).map _) }
    published := by
      intro f hf
      obtain ⟨hso, hbu⟩ := h.published f hf
      refine ⟨?_, ?_⟩
      · show (disk f).isSome
        rw [ho f fun hn => hbu (.inr ⟨job, hjo, hn.symm⟩)]
        exact hso
      rintro (hbu' | ⟨j, hj, hn⟩)
      · exact hbu (.inl hbu')
      · exact hbu (.inr ⟨j, mem_of_mem_erase hj, hn⟩)
    claimed := fun f hf hoe => h.claimed f hf (hop f hoe)
    confirmed := by
      rintro f ⟨c, hc, hs, hh⟩
      have hcl : f ∈ s.claimed :=
        mem_claimed.mpr (.inl ⟨c, hc, mem_of_mem_head? hh⟩)
      have hsame : disk f = s.disk f := (hch f).resolve_right fun hf =>
        h.claimed f hcl (mem_opened.mpr (.inr (.inr (.inr ⟨job, hjo, hf⟩))))
      exact hsame.trans (h.confirmed f ⟨c, hc, hs, hh⟩)
    owned := by
      intro f hf
      rcases hch f with hsame | hfi
      · have hso : (s.disk f).isSome := hsame ▸ hf
        exact h.owned f hso
      · exact .inr (h.worked.straysOwned job hjo f hfi)
    sized := by grind [h.sized]
    reserved := fun f hf => h.reserved f (handles_of_opened hop rfl rfl hf)
    accounted := h.accounted }

theorem Sound.finishStray (h : Sound cfg s) (job : StrayJob) (ok : Bool) (written : Nat) :
    Sound cfg (s.finishStray job ok written) := by
  unfold FileCache.finishStray
  split
  · rename_i hjo
    cases job.running with
    | false => exact h.strayDone hjo (fun _ => .inl rfl) (fun _ _ hsi => .inl hsi)
    | true =>
      have hfi := h.worked.straysFit job hjo
      refine h.strayDone hjo (fun f => ?_) (fun f size hsi => ?_)
      · by_cases hf : f ∈ job.op.files
        · exact .inr hf
        · exact .inl (StorageOp.run_other ok written hf)
      rcases StorageOp.run_sized ok written hfi.temp hfi.final hsi with hold | hne
      · exact .inl hold
      · exact .inr ⟨_, hfi.reserved, hne.1.symm, hne.2⟩
  · exact h

end RtpBridge.Playback.FileCache
