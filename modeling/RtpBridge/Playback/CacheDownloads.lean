/-
The life of a download in the cache: it starts, gets its disk space, shrinks it to what it
needs, publishes its file and lets go of the rest.
-/
import RtpBridge.Playback.CacheSafety

namespace RtpBridge.Playback.FileCache

open List AList

variable {K : Type} [DecidableEq K] {cfg : CacheConfig} {s : FileCache K}

/-! ## The start -/

variable {key : K} {d : Download K}

theorem listed_insert {entries : HashMap K CacheEntry} {old new : CacheEntry}
    (hold : entries.lookup key = some old) (hf : new.file = old.file) (f : CachedFile) :
    Listed (entries.insert key new) f ↔ Listed entries f := by
  constructor
  · rintro ⟨key', entry, hl, rfl⟩
    by_cases hk : key' = key
    · subst hk
      rw [lookup_insert] at hl
      cases hl
      exact ⟨key', old, hold, hf.symm⟩
    · rw [lookup_insert_ne hk] at hl
      exact ⟨key', entry, hl, rfl⟩
  rintro ⟨key', entry, hl, rfl⟩
  by_cases hk : key' = key
  · subst hk
    rw [hold] at hl
    cases hl
    exact ⟨key', new, lookup_insert _, hf⟩
  · exact ⟨key', entry, (lookup_insert_ne hk).trans hl, rfl⟩

theorem Sound.hit (h : Sound cfg s) {entry : CacheEntry}
    (he : s.entries.lookup key = some entry) (expiresAt : Nat) :
    Sound cfg
      { s with
        entries := s.entries.insert key { entry with expiresAt := expiresAt }
        requests := ⟨none, some entry.file⟩ :: s.requests } := by
  refine h.relend (listed_insert he rfl) ?_ ?_
  · intro key' hn
    have hk : key' ≠ key := by
      rintro rfl
      rw [he] at hn
      cases hn
    exact (lookup_insert_ne hk).trans hn
  intro f hf
  rw [mem_leased] at hf
  rcases hf with hf | ⟨r, hr, hre⟩ | hf
  · exact .inr (mem_leased.mpr (.inl hf))
  · rcases mem_cons.mp hr with rfl | hr
    · cases hre
      exact .inl ⟨key, entry, he, rfl⟩
    · exact .inr (mem_leased.mpr (.inr (.inl ⟨r, hr, hre⟩)))
  · exact .inr (mem_leased.mpr (.inr (.inr hf)))

theorem Sound.join (h : Sound cfg s) {p : Pending} (hp : p ∈ s.pendings) (owners : Nat) : Sound cfg
      { s.setPending { p with owners := owners } with
        requests := ⟨some p.id, none⟩ :: s.requests } := by
  refine (h.setPending (q := { p with owners := owners }) hp fun _ hf => hf).unlend
    (fun q hq f hf => ⟨q, hq, hf⟩) ?_
  intro r hr f hre
  rcases mem_cons.mp hr with rfl | hr
  · cases hre
  · exact ⟨r, hr, hre⟩

def begun (s : FileCache K) (key : K) (ttl : Nat) : FileCache K :=
  { s with
    inflight := s.inflight.insert key s.nextPending
    pendings := { id := s.nextPending } :: s.pendings
    requests := ⟨some s.nextPending, none⟩ :: s.requests
    downloads := { id := s.nextPending, key := key, ttl := ttl } :: s.downloads
    nextPending := s.nextPending + 1 }

theorem keyed_begun (h : Sound cfg s) (ttl : Nat) (hke : s.entries.lookup key = none)
    (hne : key ∉ s.inflight) : Keyed (s.begun key ttl).downloads (s.begun key ttl).inflight
      s.entries (s.nextPending + 1) where
  ids := by
    intro d hd
    rcases mem_cons.mp hd with rfl | hd
    · exact Nat.lt_succ_self _
    · exact Nat.lt_succ_of_lt (h.keyed.ids d hd)
  unique := by
    have hi : ∀ d ∈ s.downloads, d.id ≠ s.nextPending := fun d hd =>
      Nat.ne_of_lt (h.keyed.ids d hd)
    intro d hd e he hid
    rcases mem_cons.mp hd with rfl | hd
    · rcases mem_cons.mp he with rfl | he
      · rfl
      · exact (hi e he hid.symm).elim
    rcases mem_cons.mp he with rfl | he
    · exact (hi d hd hid).elim
    · exact h.keyed.unique d hd e he hid
  inflight := by
    intro d hd
    rcases mem_cons.mp hd with rfl | hm
    · exact lookup_insert _
    have hk : d.key ≠ key := by
      rintro rfl
      have hlo := h.keyed.inflight d hm
      rw [lookup_eq_none.mpr hne] at hlo
      cases hlo
    exact (lookup_insert_ne hk).trans (h.keyed.inflight d hm)
  vacant := by
    intro d hd hs
    rcases mem_cons.mp hd with rfl | hd
    · exact hke
    · exact h.keyed.vacant d hd hs

variable {f : CachedFile}

theorem begun_leased {ttl : Nat} (hf : f ∈ (s.begun key ttl).leased) :
    f ∈ s.leased := by
  rw [mem_leased] at hf ⊢
  rcases hf with hf | ⟨r, hr, hra⟩ | ⟨p, hp, hre⟩
  · exact .inl hf
  · rcases mem_cons.mp hr with rfl | hr
    · cases hra
    · exact .inr (.inl ⟨r, hr, hra⟩)
  rcases mem_cons.mp hp with rfl | hp
  · cases hre
  · exact .inr (.inr ⟨p, hp, hre⟩)

/-! ### One new download -/

section Renew

variable {s' : FileCache K} (hd : ∀ e ∈ s'.downloads, e = d ∨ e ∈ s.downloads)
  (hs : s'.strays = s.strays)
include hd hs

theorem busy_renew {n : Nat} (h : s'.Busy n) : d.stage.name? = some n ∨ s.Busy n := by
  rcases h with ⟨e, he, hn⟩ | hst
  · rcases hd e he with rfl | he
    · exact .inl hn
    · exact .inr (.inl ⟨e, he, hn⟩)
  · exact .inr (.inr (hs ▸ hst))

theorem opened_renew (hf : f ∈ s'.opened) :
    (Listed s'.entries f ∨ f ∈ s'.leased) ∨ f ∈ d.files ∨ f ∈ s.opened := by
  rcases mem_opened.mp hf with hf | hf | ⟨e, he, hf⟩ | hst
  · exact .inl (.inl hf)
  · exact .inl (.inr hf)
  · rcases hd e he with rfl | he
    · exact .inr (.inl hf)
    · exact .inr (.inr (mem_opened.mpr (.inr (.inr (.inl ⟨e, he, hf⟩)))))
  · exact .inr (.inr (mem_opened.mpr (.inr (.inr (.inr (hs ▸ hst))))))

end Renew

theorem opened_of_published (h : s.Published f) : f ∈ s.opened :=
  mem_opened.mpr (h.imp_right .inl)

theorem Sound.begin (h : Sound cfg s) (ttl : Nat) (hke : s.entries.lookup key = none)
    (hne : key ∉ s.inflight) : Sound cfg (s.begun key ttl) := by
  have hd : ∀ e ∈ (s.begun key ttl).downloads,
      e = { id := s.nextPending, key := key, ttl := ttl } ∨ e ∈ s.downloads :=
    fun e he => mem_cons.mp he
  have hg : ∀ f, (∃ e ∈ s.downloads, f ∈ e.unpublished) →
      ∃ e ∈ (s.begun key ttl).downloads, f ∈ e.unpublished :=
    fun f ⟨e, he, hm⟩ => ⟨e, mem_cons_of_mem _ he, hm⟩
  have ho : ∀ f ∈ (s.begun key ttl).opened, f ∈ s.opened := by
    intro f hf
    rcases opened_renew hd rfl hf with hf | hf | hf
    · exact opened_of_published (hf.imp_right begun_leased)
    · cases hf
    · exact hf
  exact { h with
    keyed := keyed_begun h ttl hke hne
    worked := h.worked.renew hd rfl nofun (fun _ hr => hr) (fun _ _ f _ => Or.imp_right (hg f))
    published := by
      intro f hf
      obtain ⟨hso, hb⟩ := h.published f (hf.imp_right begun_leased)
      exact ⟨hso, fun hb' => (busy_renew hd rfl hb').elim nofun hb⟩
    claimed := fun f hf hop => h.claimed f hf (ho f hop)
    owned := fun f hf => (h.owned f hf).imp_right (Or.imp_right (hg f))
    reserved := fun f hf => h.reserved f (handles_of_opened ho rfl rfl hf)
    accounted := h.accounted }

theorem Sound.startDownload (h : Sound cfg s) (key : K) (ttl now : Nat) :
    Sound cfg (s.startDownload cfg key ttl now).1 := by
  unfold FileCache.startDownload
  split
  · exact h
  split
  · rename_i entry he
    exact h.hit he (now + ttl)
  rename_i hk
  split
  · rename_i p hp
    obtain ⟨hb, -⟩ := Option.filter_eq_some_iff.mp hp
    obtain ⟨id, -, hpe⟩ := Option.bind_eq_some_iff.mp hb
    exact h.join (pending?_mem hpe).1 (p.owners + 1)
  split
  · exact h
  · rename_i hr
    exact h.begin ttl hk fun hm => hr (.inl hm)

/-! ## Disk space -/

theorem Sound.fresh (h : Sound cfg s) (hf : f ∈ s.handles) :
    f.name ≠ s.nextName := by
  obtain ⟨r, hr, hn⟩ := h.reserved f hf
  rw [← hn]
  exact Nat.ne_of_lt (h.accounted.fresh r hr)

theorem Sound.absent (h : Sound cfg s) (hn : f.name = s.nextName) :
    s.disk f = none := by
  cases hd : s.disk f with
  | none => rfl
  | some size =>
    obtain ⟨r, hr, hr', -⟩ := h.sized f size hd
    have hlt := h.accounted.fresh r hr
    omega

def acquired (s : FileCache K) (cfg : CacheConfig) (d : Download K) : FileCache K :=
  { s.setDownload d with
    reservations := ⟨s.nextName, cfg.maxDownloadBytes⟩ :: s.reservations
    diskBytes := s.diskBytes + cfg.maxDownloadBytes
    nextName := s.nextName + 1 }

theorem accounted_acquired (h : Sound cfg s) (d : Download K)
    (hro : s.diskBytes + cfg.maxDownloadBytes ≤ cfg.maxCacheBytes) :
    Accounted cfg (s.acquired cfg d).reservations (s.acquired cfg d).diskBytes
      (s.nextName + 1) where
  apart := by
    refine nodup_cons.mpr ⟨fun hm => ?_, h.accounted.apart⟩
    obtain ⟨r, hr, hna⟩ := mem_map.mp hm
    exact Nat.ne_of_lt (h.accounted.fresh r hr) hna
  fresh := by
    intro r hr
    rcases mem_cons.mp hr with rfl | hr
    · exact Nat.lt_succ_self _
    · exact Nat.lt_succ_of_lt (h.accounted.fresh r hr)
  total := by
    have ht := h.accounted.total
    show s.diskBytes + cfg.maxDownloadBytes =
      ((cfg.maxDownloadBytes + (s.reservations.map DiskReservation.bytes).sum : Nat) : Int)
    omega
  room := hro

/-- The name that comes next is nobody's. -/
theorem Sound.unused (h : Sound cfg s) :
    (∀ e ∈ s.downloads, e.stage.name? ≠ some s.nextName) ∧
      ∀ j ∈ s.strays, j.op.name ≠ s.nextName := by
  constructor
  · intro e he hna
    have hm : temporary s.nextName ∈ e.files := by
      apply mem_append_right
      rw [(h.worked.stages e he).unpublished hna]
      exact mem_both.mpr rfl
    exact h.fresh (mem_handles.mpr (.inl (mem_opened.mpr (.inr (.inr (.inl ⟨e, he, hm⟩)))))) rfl
  · intro j hj hna
    have hlt := h.accounted.fresh _ (h.worked.straysFit j hj).reserved
    dsimp only at hlt
    omega

/-- A download that has just got its reservation, or could not use it. -/
structure Acquired (s : FileCache K) (d d' : Download K) : Prop where
  id : d'.id = d.id
  key : d'.key = d.key
  unpublished : d'.unpublished = both s.nextName
  stage : d'.stage = .storing (.create s.nextName) 0 .queued ∨ ∃ e, d'.stage = .done (.error e)

variable {d' : Download K}

theorem Acquired.name (ha : s.Acquired d d') {n : Nat} (hn : d'.stage.name? = some n) :
    n = s.nextName := by
  rcases ha.stage with heq | ⟨e, heq⟩
  · rw [heq] at hn
    cases hn
    rfl
  · rw [heq] at hn
    cases hn

theorem Acquired.files (ha : s.Acquired d d') (hf : f ∈ d'.files) : f.name = s.nextName := by
  rcases mem_append.mp hf with hf | hf
  · exact ha.name (Stage.files_name hf)
  · rw [ha.unpublished] at hf
    exact mem_both.mp hf

theorem Acquired.ok (ha : s.Acquired d d') (h : Sound cfg s) :
    d'.stage.Ok cfg s.disk (s.acquired cfg d').reservations d'.unpublished := by
  rcases ha.stage with heq | ⟨error, heq⟩
  · have hz : ∀ f ∈ both s.nextName, s.disk.size f ≤ 0 := by
      intro f hf
      unfold Directory.size
      rw [h.absent (mem_both.mp hf)]
      exact Nat.le_refl 0
    rw [heq]
    exact ⟨ha.unpublished, Nat.zero_le _, mem_cons_self, hz _ (mem_both.mpr rfl),
      hz _ (mem_both.mpr rfl)⟩
  · rw [heq]
    exact trivial

theorem Sound.acquired (h : Sound cfg s) (hd : d ∈ s.downloads) (hs : d.stage = .waiting)
    (ha : s.Acquired d d') (hro : s.diskBytes + cfg.maxDownloadBytes ≤ cfg.maxCacheBytes) :
    Sound cfg (s.acquired cfg d') := by
  have hem : d.unpublished = [] := by
    have hok := h.worked.stages d hd
    rw [hs] at hok
    exact hok
  have hds : ∀ e ∈ (s.acquired cfg d').downloads, e = d' ∨ e ∈ s.downloads := fun e he =>
    (mem_setDownload.mp he).imp_right And.left
  have hg : ∀ f, (∃ e ∈ s.downloads, f ∈ e.unpublished) →
      ∃ e ∈ (s.acquired cfg d').downloads, f ∈ e.unpublished := by
    rintro f ⟨e, he, hf⟩
    refine ⟨e, mem_setDownload.mpr (.inr ⟨he, fun hsame => ?_⟩), hf⟩
    rw [h.keyed.unique e he d hd (hsame.trans ha.id), hem] at hf
    cases hf
  have ho : ∀ f ∈ (s.acquired cfg d').opened, f ∈ s.opened ∨ f.name = s.nextName := by
    intro f hf
    rcases opened_renew hds rfl hf with hf | hf | hf
    · exact .inl (opened_of_published hf)
    · exact .inr (ha.files hf)
    · exact .inl hf
  exact {
    keyed := keyed_set h.keyed hd ha.id ha.key fun hc => by
      rw [hs] at hc
      cases hc
    worked := h.worked.renew hds (ha.ok h) (fun n hn => ha.name hn ▸ h.unused)
      (fun _ hr => mem_cons_of_mem _ hr) (fun _ _ f _ => Or.imp_right (hg f))
    published := by
      intro f hf
      obtain ⟨hso, hb⟩ := h.published f hf
      refine ⟨hso, fun hb' => (busy_renew hds rfl hb').elim (fun hna => ?_) hb⟩
      rw [h.absent (ha.name hna)] at hso
      cases hso
    claimed := by
      intro f hf hop
      rcases ho f hop with hop | hna
      · exact h.claimed f hf hop
      · exact h.fresh (mem_handles.mpr (.inr (.inr hf))) hna
    confirmed := h.confirmed
    owned := fun f hf => (h.owned f hf).imp_right (Or.imp_right (hg f))
    sized := by
      intro f size hsi
      obtain ⟨r, hr, hr'⟩ := h.sized f size hsi
      exact ⟨r, mem_cons_of_mem _ hr, hr'⟩
    reserved := by
      intro f hf
      have hca : f ∈ s.handles ∨ f.name = s.nextName := by
        rcases mem_handles.mp hf with hf | hf
        · exact (ho f hf).imp_left fun hf => mem_handles.mpr (.inl hf)
        · exact .inl (mem_handles.mpr (.inr hf))
      rcases hca with hf | hna
      · obtain ⟨r, hr, hr'⟩ := h.reserved f hf
        exact ⟨r, mem_cons_of_mem _ hr, hr'⟩
      · exact ⟨_, mem_cons_self, hna.symm⟩
    accounted := accounted_acquired h d' hro }

theorem Sound.acquire (h : Sound cfg s) (hd : d ∈ s.downloads) (busy : Bool) :
    Sound cfg (s.acquire cfg d busy) := by
  unfold FileCache.acquire
  split
  · rename_i hs
    split
    · rename_i hr
      refine h.acquired hd hs ⟨rfl, rfl, rfl, ?_⟩ hr
      cases busy with
      | true => exact .inr ⟨_, rfl⟩
      | false => exact .inl rfl
    refine h.fail hd ?_ _
    rw [hs]
    exact Stage.noConfusion
  · exact h

/-! ## The file in its place -/

theorem sum_shrink (name bytes : Nat) (rs : List DiskReservation) :
    (((rs.map fun r => if r.name = name then { r with bytes := bytes } else r).map
        DiskReservation.bytes).sum : Int) =
      ((rs.map DiskReservation.bytes).sum : Nat) -
        ((rs.filter fun r => r.name = name).map fun r => (r.bytes : Int) - bytes).sum := by
  induction rs with
  | nil => rfl
  | cons r rs ih => grind

theorem shrink_nonneg (name bytes : Nat) (rs : List DiskReservation)
    (h : ∀ r ∈ rs, r.name = name → bytes ≤ r.bytes) :
    0 ≤ ((rs.filter fun r => r.name = name).map fun r => (r.bytes : Int) - bytes).sum := by
  induction rs with
  | nil => exact Int.le_refl 0
  | cons r rs ih => grind

theorem Sound.shrink (h : Sound cfg s) {name bytes : Nat} (hl : bytes ≤ cfg.maxDownloadBytes)
    (hre : ⟨name, cfg.maxDownloadBytes⟩ ∈ s.reservations)
    (hfi : ∀ f ∈ both name, s.disk.size f ≤ bytes)
    (hdo : ∀ d ∈ s.downloads, d.stage.name? = some name → d.stage = .done (.ok name))
    (hs : ∀ j ∈ s.strays, j.op.name ≠ name) :
    Sound cfg (s.shrink name bytes) := by
  have hk : ∀ r ∈ s.reservations, r.name ≠ name → r ∈ (s.shrink name bytes).reservations := by
    intro r hr hnm
    exact mem_map.mpr ⟨r, hr, if_neg hnm⟩
  have hna : (s.shrink name bytes).reservations.map DiskReservation.name =
      s.reservations.map DiskReservation.name := by
    unfold FileCache.shrink
    rw [map_map]
    apply map_congr_left
    intro r _
    show (if r.name = name then { r with bytes := bytes } else r).name = r.name
    split <;> rfl
  have hnm : ∀ n, (∃ r ∈ s.reservations, r.name = n) →
      ∃ r ∈ (s.shrink name bytes).reservations, r.name = n := by
    intro n hn
    have hm : n ∈ (s.shrink name bytes).reservations.map DiskReservation.name :=
      hna ▸ mem_map.mpr hn
    exact mem_map.mp hm
  have hla : ∀ r ∈ s.reservations, r.name = name → bytes ≤ r.bytes := by
    intro r hr hsame
    rw [inj_on_of_nodup_map h.accounted.apart hr hre hsame]
    exact hl
  exact { h with
    worked := { h.worked with
      stages := by
        intro d hd
        have hok := h.worked.stages d hd
        by_cases hd' : d.stage.name? = some name
        · rw [hdo d hd hd'] at hok ⊢
          exact hok
        refine hok.congr (fun _ _ _ _ => rfl) ?_
        rintro n hn r hr rfl
        exact hk r hr fun hsame => hd' (hsame ▸ hn)
      straysFit := by
        intro j hj
        refine (h.worked.straysFit j hj).congr (fun _ _ => rfl) ?_
        intro r hr hsame
        exact hk r hr fun hn => hs j hj (hsame.symm.trans hn)
      straysApart := h.worked.straysApart }
    sized := by
      intro f size hsi
      obtain ⟨r, hr, hsame, hle⟩ := h.sized f size hsi
      by_cases hn : r.name = name
      · refine ⟨{ r with bytes := bytes }, mem_map.mpr ⟨r, hr, if_pos hn⟩, hsame, ?_⟩
        have hb := hfi f (mem_both.mpr (hsame.symm.trans hn))
        have hsi' : s.disk f = some size := hsi
        unfold Directory.size at hb
        rw [hsi'] at hb
        exact hb
      · exact ⟨r, hk r hr hn, hsame, hle⟩
    reserved := fun f hf => hnm f.name (h.reserved f hf)
    accounted := {
      apart := hna.symm ▸ h.accounted.apart
      fresh := by
        intro r hr
        have hm : r.name ∈ s.reservations.map DiskReservation.name :=
          hna ▸ mem_map_of_mem hr
        obtain ⟨q, hq, hsame⟩ := mem_map.mp hm
        rw [← hsame]
        exact h.accounted.fresh q hq
      total := by
        have ht := h.accounted.total
        have hsu := sum_shrink name bytes s.reservations
        unfold FileCache.shrink
        dsimp only
        omega
      room := by
        have hro := h.accounted.room
        have hno := shrink_nonneg name bytes s.reservations hla
        unfold FileCache.shrink
        dsimp only
        omega } }

theorem Sound.resume (h : Sound cfg s) (hd : d ∈ s.downloads) (busy : Bool) :
    Sound cfg (s.resume d busy) := by
  have hok := h.worked.stages d hd
  unfold FileCache.resume
  split
  · rename_i op bytes hs
    rw [hs] at hok
    have hop : d.stage ≠ .closing := by
      rw [hs]
      exact Stage.noConfusion
    have hna : d.stage.name? = some op.name := by
      rw [hs]
      rfl
    -- The next stage works on the same files.
    have hnx : ∀ stage : Stage, stage.Ok cfg s.disk s.reservations d.unpublished →
        stage.name? = some op.name → Sound cfg (s.setDownload { d with stage := stage }) := by
      intro stage hs' hna'
      exact h.advance hd (fun hc => (hop hc).elim) hs' fun n hn =>
        hna.trans (hna'.symm.trans hn)
    cases op with
    | create name => exact hnx _ ⟨hok.1, hok.2.1⟩ rfl
    | write name len => exact hnx _ ⟨hok.1, hok.2.1⟩ rfl
    | flush name => exact h.submit hd hop busy hna hok.2.1
    | rename name =>
      have hw := hok.2.1
      refine (hnx (.done (.ok name)) ⟨hok.1, hok.2.2 rfl name rfl⟩ rfl).shrink
        hw.limit hw.reserved ?_ ?_ ?_
      · intro f hf
        have hca : f = temporary name ∨ f = cached name := by simpa [both] using hf
        rcases hca with rfl | rfl
        · exact hw.temp
        · exact hw.final
      · intro e he hna'
        rcases mem_setDownload.mp he with rfl | ⟨he, hne⟩
        · rfl
        · exact (hne (h.worked.names e he d hd name hna' hna)).elim
      · intro j hj hsame
        exact h.worked.straysAlone j hj d hd (hna.trans (congrArg some hsame.symm))
  · rename_i hs
    refine h.fail hd ?_ _
    rw [hs]
    exact Stage.noConfusion
  · exact h

theorem Sound.cancelDownload (h : Sound cfg s) (hd : d ∈ s.downloads) :
    Sound cfg (s.cancelDownload d) := by
  unfold FileCache.cancelDownload
  split
  · exact h.stop hd _
  · exact h

/-! ## The end -/

theorem Sound.key_unique (h : Sound cfg s) {e : Download K} (hd : d ∈ s.downloads)
    (he : e ∈ s.downloads) (hk : d.key = e.key) : d = e := by
  have hd' := h.keyed.inflight d hd
  have he' := h.keyed.inflight e he
  rw [hk, he'] at hd'
  exact h.keyed.unique d hd e he (Option.some.inj hd').symm

def placed (s : FileCache K) (d : Download K) (p : Pending) (name expiresAt : Nat) : FileCache K :=
  { (s.setDownload { d with stage := .closing, unpublished := [] }).setPending
      { p with result := some (.ok (cached name)) } with
    entries := s.entries.insert d.key ⟨cached name, expiresAt⟩ }

section Placed

variable {d : Download K} {p : Pending} {name expiresAt : Nat}

theorem mem_placed {e : Download K} (he : e ∈ (s.placed d p name expiresAt).downloads) :
    e = { d with stage := .closing, unpublished := [] } ∨ e ∈ s.downloads ∧ e.id ≠ d.id :=
  mem_setDownload.mp he

theorem placed_published (h : (s.placed d p name expiresAt).Published f) :
    f = cached name ∨ s.Published f := by
  rcases h with ⟨key, entry, hl, rfl⟩ | h
  · by_cases hk : key = d.key
    · subst hk
      have hso := (lookup_insert (a := d.key) s.entries).symm.trans hl
      cases hso
      exact .inl rfl
    · exact .inr (.inl ⟨key, entry, (lookup_insert_ne hk).symm.trans hl, rfl⟩)
  rw [mem_leased] at h
  rcases h with h | h | ⟨q, hq, hre⟩
  · exact .inr (.inr (mem_leased.mpr (.inl h)))
  · exact .inr (.inr (mem_leased.mpr (.inr (.inl h))))
  rcases mem_cons.mp hq with rfl | hq
  · cases hre
    exact .inl rfl
  · exact .inr (.inr (mem_leased.mpr (.inr (.inr ⟨q, mem_of_mem_filter hq, hre⟩))))

theorem placed_not_busy (h : Sound cfg s) (hd : d ∈ s.downloads)
    (hn : d.stage.name? = some name) : ¬(s.placed d p name expiresAt).Busy name := by
  rintro (⟨e, he, hn'⟩ | ⟨j, hj, hn'⟩)
  · rcases mem_placed he with rfl | ⟨he, hne⟩
    · cases hn'
    · exact hne (h.worked.names e he d hd name hn' hn)
  · exact h.worked.straysAlone j hj d hd (hn'.symm ▸ hn)

theorem placed_unpublished (h : Sound cfg s) (hd : d ∈ s.downloads) (hu : d.unpublished = both name)
    (hf : ∃ e ∈ s.downloads, f ∈ e.unpublished) :
    f.name = name ∨ ∃ e ∈ (s.placed d p name expiresAt).downloads, f ∈ e.unpublished := by
  obtain ⟨e, he, hf⟩ := hf
  by_cases hid : e.id = d.id
  · rw [h.keyed.unique e he d hd hid, hu] at hf
    exact .inl (mem_both.mp hf)
  · exact .inr ⟨e, mem_setDownload.mpr (.inr ⟨he, hid⟩), hf⟩

theorem keyed_placed (h : Sound cfg s) (hd : d ∈ s.downloads) :
    Keyed (s.placed d p name expiresAt).downloads s.inflight
      (s.placed d p name expiresAt).entries s.nextPending := by
  have hk : Keyed (s.placed d p name expiresAt).downloads s.inflight s.entries s.nextPending :=
    keyed_set h.keyed hd rfl rfl fun _ => rfl
  refine { hk with vacant := fun e he hop => ?_ }
  rcases mem_placed he with rfl | ⟨he, hne⟩
  · exact (hop rfl).elim
  have hke : e.key ≠ d.key := fun hsame => hne (congrArg Download.id (h.key_unique he hd hsame))
  exact (lookup_insert_ne hke).trans (h.keyed.vacant e he hop)

theorem Sound.placed (h : Sound cfg s) (hd : d ∈ s.downloads) (hs : d.stage = .done (.ok name)) :
    Sound cfg (s.placed d p name expiresAt) := by
  have hok := h.worked.stages d hd
  rw [hs] at hok
  obtain ⟨hu, ht, hca⟩ := hok
  have hna : d.stage.name? = some name := by
    rw [hs]
    rfl
  have hds : ∀ e ∈ (s.placed d p name expiresAt).downloads,
      e = { d with stage := .closing, unpublished := [] } ∨ e ∈ s.downloads := fun e he =>
    (mem_placed he).imp_right And.left
  have ho : ∀ f ∈ (s.placed d p name expiresAt).opened, f ∈ s.opened := by
    intro f hf
    rcases opened_renew hds rfl hf with hf | hf | hf
    · rcases placed_published hf with rfl | hf
      · refine mem_opened.mpr (.inr (.inr (.inl ⟨d, hd, mem_append_right _ ?_⟩)))
        rw [hu]
        exact mem_both.mpr rfl
      · exact opened_of_published hf
    · cases hf
    · exact hf
  exact { h with
    keyed := keyed_placed h hd
    worked := by
      refine h.worked.renew hds trivial nofun (fun _ hr => hr) (fun j hj f hf => Or.imp_right ?_)
      intro hg
      refine (placed_unpublished h hd hu hg).resolve_left fun hsame => ?_
      have hj' := mem_both.mp (j.op.files_subset hf)
      exact h.worked.straysAlone j hj d hd (by rw [hna, ← hj', hsame])
    published := by
      intro f hf
      rcases placed_published hf with rfl | hf
      · exact ⟨hca, placed_not_busy h hd hna⟩
      obtain ⟨hso, hbu⟩ := h.published f hf
      exact ⟨hso, fun hb => (busy_renew hds rfl hb).elim nofun hbu⟩
    claimed := fun f hf hop => h.claimed f hf (ho f hop)
    owned := by
      intro f hf
      rcases h.owned f hf with ⟨key, entry, hl, hfi⟩ | hga | hg
      · have hke : key ≠ d.key := by
          rintro rfl
          rw [h.keyed.vacant d hd (by rw [hs]; exact Stage.noConfusion)] at hl
          cases hl
        exact .inl ⟨key, entry, (lookup_insert_ne hke).trans hl, hfi⟩
      · exact .inr (.inl hga)
      rcases placed_unpublished h hd hu hg with hsame | hg
      · have hfi : f = temporary name ∨ f = cached name := by
          simpa [both] using mem_both.mpr hsame
        rcases hfi with rfl | rfl
        · have hso : (s.disk (temporary name)).isSome := hf
          rw [ht] at hso
          cases hso
        · exact .inl ⟨d.key, _, lookup_insert _, rfl⟩
      · exact .inr (.inr hg)
    reserved := fun f hf => h.reserved f (handles_of_opened ho rfl rfl hf)
    accounted := h.accounted }

end Placed

variable {d : Download K}

theorem Sound.publish (h : Sound cfg s) (hd : d ∈ s.downloads) (now : Nat) :
    Sound cfg (s.publish d now) := by
  have hc : Sound cfg (s.setDownload { d with stage := .closing }) :=
    h.advance hd (fun _ => rfl) trivial fun _ hn => by cases hn
  unfold FileCache.publish
  split
  · rename_i name p hs hpe
    split
    · exact hc
    · exact h.placed hd hs
  · rename_i error p hs hpe
    exact hc.setPending (p := p) (pending?_mem hpe).1 fun _ hf => by cases hf
  · exact h

def dropped (s : FileCache K) (d : Download K) (p : Pending) (inflight : HashMap K Nat) :
    FileCache K :=
  { s.setPending p with
    inflight := inflight
    garbage := s.garbage ++ d.unpublished
    downloads := s.downloads.filter fun e => e.id ≠ d.id }

theorem Sound.dropped (h : Sound cfg s) (hd : d ∈ s.downloads) {p q : Pending} (hp : p ∈ s.pendings)
    (hre : ∀ f, q.result = some (.ok f) → p.result = some (.ok f)) {inflight : HashMap K Nat}
    (hi : ∀ key, key ≠ d.key → inflight.lookup key = s.inflight.lookup key) :
    Sound cfg (s.dropped d q inflight) := by
  have hm : ∀ e ∈ (s.dropped d q inflight).downloads, e ∈ s.downloads ∧ e.id ≠ d.id := by
    intro e he
    obtain ⟨hold, hne⟩ := mem_filter.mp he
    exact ⟨hold, of_decide_eq_true hne⟩
  have hds : ∀ e ∈ (s.dropped d q inflight).downloads,
      e = { d with stage := .closing, unpublished := [] } ∨ e ∈ s.downloads :=
    fun e he => .inr (hm e he).1
  have hg : ∀ f, (f ∈ s.garbage ∨ ∃ e ∈ s.downloads, f ∈ e.unpublished) →
      f ∈ s.garbage ++ d.unpublished ∨
        ∃ e ∈ (s.dropped d q inflight).downloads, f ∈ e.unpublished := by
    rintro f (hf | ⟨e, he, hf⟩)
    · exact .inl (mem_append_left _ hf)
    by_cases hid : e.id = d.id
    · rw [h.keyed.unique e he d hd hid] at hf
      exact .inl (mem_append_right _ hf)
    · exact .inr ⟨e, mem_filter.mpr ⟨he, decide_eq_true hid⟩, hf⟩
  have hl : ∀ f ∈ (s.dropped d q inflight).leased, f ∈ s.leased := by
    intro f hf
    rw [mem_leased] at hf ⊢
    rcases hf with hf | hf | ⟨x, hx, hf⟩
    · exact .inl hf
    · exact .inr (.inl hf)
    rcases mem_cons.mp hx with rfl | hx
    · exact .inr (.inr ⟨p, hp, hre f hf⟩)
    · exact .inr (.inr ⟨x, mem_of_mem_filter hx, hf⟩)
  have ho : ∀ f ∈ (s.dropped d q inflight).opened, f ∈ s.opened := by
    intro f hf
    rcases opened_renew hds rfl hf with hf | hf | hf
    · exact opened_of_published (hf.imp_right (hl f))
    · cases hf
    · exact hf
  exact { h with
    keyed := {
      ids := fun e he => h.keyed.ids e (hm e he).1
      unique := fun e he e' he' => h.keyed.unique e (hm e he).1 e' (hm e' he').1
      inflight := by
        intro e he
        obtain ⟨hold, hne⟩ := hm e he
        have hk : e.key ≠ d.key := fun hsame =>
          hne (congrArg Download.id (h.key_unique hold hd hsame))
        exact (hi e.key hk).trans (h.keyed.inflight e hold)
      vacant := fun e he => h.keyed.vacant e (hm e he).1 }
    worked := h.worked.renew hds trivial nofun (fun _ hr => hr) (fun _ _ f _ => hg f)
    published := by
      intro f hf
      obtain ⟨hso, hbu⟩ := h.published f (hf.imp_right (hl f))
      exact ⟨hso, fun hb => (busy_renew hds rfl hb).elim nofun hbu⟩
    claimed := fun f hf hop => h.claimed f hf (ho f hop)
    owned := fun f hf => (h.owned f hf).imp_right (hg f)
    reserved := by
      refine fun f hf => h.reserved f (handles_sub hf ho (fun f hf => ?_) fun _ => .inl)
      exact (mem_append.mp hf).imp_right fun hf =>
        mem_opened.mpr (.inr (.inr (.inl ⟨d, hd, mem_append_right _ hf⟩)))
    accounted := h.accounted }

theorem Sound.dropGuard (h : Sound cfg s) (hd : d ∈ s.downloads) : Sound cfg (s.dropGuard d) := by
  unfold FileCache.dropGuard
  split
  · rename_i p hs hpe
    refine (h.dropped hd (pending?_mem hpe).1 (fun f hf => ?_) fun key hk => ?_).releasePending _
    · split at hf
      · cases hf
      · exact hf
    split
    · exact lookup_erase_ne hk
    · rfl
  · exact h

end RtpBridge.Playback.FileCache
