/-
The cleanup of the download cache, and what holds in every run.
-/
import RtpBridge.Playback.CacheDownloads

namespace RtpBridge.Playback.FileCache

open List Machine

variable {f : CachedFile} {garbage : List CachedFile} {disk : Directory} {c' : Cleanup}

variable {K : Type} [DecidableEq K] {cfg : CacheConfig} {s : FileCache K}

/-! ## Garbage -/

theorem Sound.expire (h : Sound cfg s) {key : K} {entry : CacheEntry}
    (hen : s.entries.lookup key = some entry) :
    Sound cfg
      { s with
        entries := s.entries.erase key
        garbage := s.garbage ++ [entry.file] } := by
  have hlo : ∀ key' e, (s.entries.erase key).lookup key' = some e →
      s.entries.lookup key' = some e := by
    intro key' e he
    by_cases hk : key' = key
    · rw [hk, AList.lookup_erase] at he
      cases he
    · rwa [AList.lookup_erase_ne hk] at he
  have hl : ∀ f, Listed (s.entries.erase key) f → Listed s.entries f := by
    rintro f ⟨key', e, he, hfi⟩
    exact ⟨key', e, hlo key' e he, hfi⟩
  have ho : ∀ f, f ∈ ({ s with
      entries := s.entries.erase key
      garbage := s.garbage ++ [entry.file] } : FileCache K).opened → f ∈ s.opened := by
    intro f hf
    rw [mem_opened] at hf ⊢
    exact hf.imp_left (hl f)
  exact { h with
    keyed := ⟨h.keyed.ids, h.keyed.unique, h.keyed.inflight, by
      intro d hd hop
      cases hn : (s.entries.erase key).lookup d.key with
      | none => rfl
      | some e => grind [h.keyed.vacant]⟩
    worked := ⟨h.worked.stages, h.worked.names, fun j hj f hf =>
        (h.worked.straysOwned j hj f hf).imp_left (mem_append_left _),
      h.worked.straysFit, h.worked.straysAlone, h.worked.straysApart⟩
    published := fun f hf => h.published f (hf.imp_left (hl f))
    claimed := fun f hf hop => h.claimed f hf (ho f hop)
    owned := by
      intro f hf
      rcases h.owned f hf with ⟨key', e, he, rfl⟩ | hg | hgu
      · by_cases hk : key' = key
        · subst hk
          rw [hen] at he
          cases he
          exact .inr (.inl (mem_append_right _ (mem_singleton.mpr rfl)))
        · exact .inl ⟨key', e, (AList.lookup_erase_ne hk).trans he, rfl⟩
      · exact .inr (.inl (mem_append_left _ hg))
      · exact .inr (.inr hgu)
    reserved := by
      refine fun f hf => h.reserved f (handles_sub hf ho (fun f hf => ?_) fun _ => .inl)
      refine (mem_append.mp hf).imp_right fun hf => mem_opened.mpr (.inl ⟨key, entry, hen, ?_⟩)
      exact (mem_singleton.mp hf).symm
    accounted := h.accounted }

theorem Sound.collect (keys : List K) (h : Sound cfg s) : Sound cfg (s.collect keys) := by
  induction keys generalizing s with
  | nil => exact h
  | cons key keys ih => grind [FileCache.collect, h.expire]

theorem not_opened_of_strongCount (hg : f ∈ s.garbage) (hc : s.strongCount f = 1) :
    f ∉ s.opened := by
  grind [strongCount, handles]

theorem Sound.startCleanup (h : Sound cfg s) (now : Nat) : Sound cfg (s.startCleanup now) := by
  have hco := h.collect (s.expired now)
  unfold FileCache.startCleanup
  generalize s.collect (s.expired now) = t at hco
  have hcl : ∀ f, f ∈ ({ t with cleanups :=
        { claims := t.garbage.filter fun f => t.strongCount f = 1 } :: t.cleanups } :
          FileCache K).claimed →
      f ∈ t.claimed ∨ f ∈ t.garbage ∧ t.strongCount f = 1 := by
    intro f hf
    rcases mem_claimed.mp hf with ⟨c, hc, hf⟩ | hf
    · rcases mem_cons.mp hc with rfl | hc
      · obtain ⟨hg, hcu⟩ := mem_filter.mp hf
        exact .inr ⟨hg, of_decide_eq_true hcu⟩
      · exact .inl (mem_claimed.mpr (.inl ⟨c, hc, hf⟩))
    · exact .inl (mem_claimed.mpr (.inr hf))
  exact { hco with
    claimed := by
      intro f hf
      rcases hcl f hf with hf | ⟨hg, hcu⟩
      · exact hco.claimed f hf
      · exact not_opened_of_strongCount (s := t) hg hcu
    confirmed := by
      rintro f ⟨c, hc, hs, hh⟩
      rcases mem_cons.mp hc with rfl | hc
      · cases hs
      · exact hco.confirmed f ⟨c, hc, hs, hh⟩
    reserved := fun f hf => hco.reserved f (handles_sub hf (fun _ hf => hf) (fun _ => .inl)
      fun f hf => (hcl f hf).imp_right And.left)
    accounted := hco.accounted }

/-! ## Removal -/

def cleaned (s : FileCache K) (cleanups : List Cleanup) (removals : List StrayRemoval)
    (garbage : List CachedFile) (disk : Directory) : FileCache K :=
  { s with
    cleanups := cleanups
    strayRemovals := removals
    garbage := garbage
    disk := disk }

theorem Sound.clean (h : Sound cfg s) {cleanups : List Cleanup} {removals : List StrayRemoval}
    (hc : ∀ f ∈ (s.cleaned cleanups removals garbage disk).claimed, f ∈ s.claimed)
    (hdi : ∀ f, disk f = s.disk f ∨ f ∈ s.claimed ∧ disk f = none)
    (hg : ∀ f ∈ garbage, f ∈ s.garbage)
    (hfo : ∀ f ∈ s.garbage, f ∈ garbage ∨ f ∈ s.claimed ∧ disk f = none)
    (hco : ∀ f, (s.cleaned cleanups removals garbage disk).Confirmed f → disk f = none) :
    Sound cfg (s.cleaned cleanups removals garbage disk) := by
  have hop : ∀ f ∈ s.opened, disk f = s.disk f := fun f hf =>
    (hdi f).resolve_right fun hre => h.claimed f hre.1 hf
  have hold : ∀ f size, disk f = some size → s.disk f = some size := by
    intro f size hs
    rcases hdi f with hsame | ⟨-, hn⟩
    · exact hsame.symm.trans hs
    · rw [hn] at hs
      cases hs
  exact { h with
    worked := { h.worked with
      stages := by
        intro d hd
        refine (h.worked.stages d hd).congr ?_ (fun _ _ _ hr _ => hr)
        intro n hna f hf
        refine hop f (mem_opened.mpr (.inr (.inr (.inl ⟨d, hd, mem_append_right _ ?_⟩))))
        rw [(h.worked.stages d hd).unpublished hna]
        exact hf
      straysOwned := by
        intro j hj f hf
        refine (h.worked.straysOwned j hj f hf).imp_left fun hm => ?_
        exact (hfo f hm).resolve_right fun hre =>
          h.claimed f hre.1 (mem_opened.mpr (.inr (.inr (.inr ⟨j, hj, hf⟩))))
      straysFit := by
        intro j hj
        -- A job that only writes holds one of the two files; the other may be removed.
        refine (h.worked.straysFit j hj).mono (fun f _ => ?_) (fun _ hr _ => hr)
        show (disk f).getD 0 ≤ (s.disk f).getD 0
        grind
      straysApart := h.worked.straysApart }
    published := by
      intro f hf
      obtain ⟨hso, hb⟩ := h.published f hf
      refine ⟨?_, hb⟩
      have ho : f ∈ s.opened := mem_opened.mpr (hf.imp_right .inl)
      show (disk f).isSome
      rw [hop f ho]
      exact hso
    claimed := fun f hf => h.claimed f (hc f hf)
    confirmed := hco
    owned := by
      intro f hf
      obtain ⟨size, hs⟩ := Option.isSome_iff_exists.mp hf
      have hso : (s.disk f).isSome := Option.isSome_iff_exists.mpr ⟨size, hold f size hs⟩
      refine (h.owned f hso).imp_right (Or.imp_left fun hm => ?_)
      refine (hfo f hm).resolve_right fun hre => ?_
      have hn : disk f = some size := hs
      rw [hre.2] at hn
      cases hn
    sized := fun f size hs => h.sized f size (hold f size hs)
    reserved := fun f hf => h.reserved f (handles_sub hf (fun _ hf => hf)
      (fun f hf => .inl (hg f hf)) fun f hf => .inl (hc f hf))
    accounted := h.accounted }

section Removal

variable {c : Cleanup}

theorem setCleanup_claimed (hc : c ∈ s.cleanups) (hcl : ∀ f ∈ c'.claims, f ∈ c.claims) :
    ∀ f ∈ (s.cleaned (c' :: s.cleanups.erase c) s.strayRemovals garbage disk).claimed,
      f ∈ s.claimed := by
  intro f hf
  rw [mem_claimed] at hf ⊢
  refine hf.imp_left ?_
  rintro ⟨x, hx, hm⟩
  rcases mem_cons.mp hx with rfl | hx
  · exact ⟨c, hc, hcl f hm⟩
  · exact ⟨x, mem_of_mem_erase hx, hm⟩

theorem setCleanup_confirmed
    (h : (s.cleaned (c' :: s.cleanups.erase c) s.strayRemovals garbage disk).Confirmed f) :
    c'.status = some (.finished true) ∧ f ∈ c'.claims.head? ∨ s.Confirmed f := by
  obtain ⟨x, hx, hs, hh⟩ := h
  rcases mem_cons.mp hx with rfl | hx
  · exact .inl ⟨hs, hh⟩
  · exact .inr ⟨x, mem_of_mem_erase hx, hs, hh⟩

section

variable (h : Sound cfg s) (hc : c ∈ s.cleanups)
include h hc

theorem Sound.setCleanup (hcl : ∀ f ∈ c'.claims, f ∈ c.claims)
    (hk : c'.status = some (.finished true) → ∀ f ∈ c'.claims.head?, s.disk f = none) :
    Sound cfg (s.setCleanup c c') := by
  refine h.clean (setCleanup_claimed hc hcl) (fun _ => .inl rfl) (fun _ hf => hf)
    (fun _ hf => .inl hf) fun f hf => ?_
  rcases setCleanup_confirmed hf with ⟨hs, hh⟩ | hf
  · exact hk hs f hh
  · exact h.confirmed f hf

theorem Sound.submitRemoval (busy : Bool) : Sound cfg (s.submitRemoval c busy) := by
  unfold FileCache.submitRemoval
  split
  · rename_i file rest hs hcl
    split
    · refine h.setCleanup hc (fun f hf => ?_) fun hk => ?_
      · rw [hcl]
        exact mem_cons_of_mem _ hf
      grind
    · exact h.setCleanup hc (fun _ hf => hf) fun hk => by cases hk
  · refine h.clean (fun f hf => ?_) (fun _ => .inl rfl) (fun _ hf => hf) (fun _ hf => .inl hf) ?_
    · rw [mem_claimed] at hf ⊢
      exact hf.imp_left fun ⟨x, hx, hm⟩ => ⟨x, mem_of_mem_erase hx, hm⟩
    · rintro f ⟨x, hx, hk⟩
      exact h.confirmed f ⟨x, mem_of_mem_erase hx, hk⟩
  · exact h

theorem Sound.startRemoval : Sound cfg (s.startRemoval c) := by
  unfold FileCache.startRemoval
  split
  · exact h.setCleanup hc (fun _ hf => hf) fun hk => by cases hk
  · exact h

end

theorem disk_set_none {file : CachedFile} (h : disk f = none) : (disk.set file none) f = none := by
  grind [Directory.set_self, Directory.set_other]

section

variable (h : Sound cfg s) (hc : c ∈ s.cleanups)
include h hc

theorem Sound.finishRemoval (ok : Bool) : Sound cfg (s.finishRemoval c ok) := by
  unfold FileCache.finishRemoval
  split
  · rename_i file rest hs hcl
    have hh : ∀ f ∈ c.claims.head?, f = file := by
      intro f hf
      rw [hcl] at hf
      exact (Option.some.inj hf).symm
    split
    · have hsame : ∀ f ∈ ({ c with status := some (.finished true) } : Cleanup).claims,
          f ∈ c.claims := fun _ hf => hf
      refine h.clean (setCleanup_claimed hc hsame) (fun f => ?_) (fun _ hf => hf)
        (fun _ hf => .inl hf) fun f hf => ?_
      · by_cases hf : f = file
        · right
          rw [hf]
          refine ⟨mem_claimed.mpr (.inl ⟨c, hc, ?_⟩), Directory.set_self⟩
          rw [hcl]
          exact mem_cons_self
        · exact .inl (Directory.set_other hf)
      rcases setCleanup_confirmed hf with ⟨-, hf⟩ | hf
      · rw [hh f hf]
        exact Directory.set_self
      · exact disk_set_none (h.confirmed f hf)
    · refine h.setCleanup hc (fun _ hf => hf) fun hk f hf => ?_
      have hn : (s.disk file).isNone = true := by
        injection hk with hk
        injection hk
      rw [hh f hf]
      exact Option.isNone_iff_eq_none.mp hn
  · exact h

theorem Sound.confirm : Sound cfg (s.confirm c) := by
  unfold FileCache.confirm
  split
  · rename_i ok file rest hs hcl
    have hm : file ∈ c.claims := by
      rw [hcl]
      exact mem_cons_self
    refine h.clean (setCleanup_claimed hc fun f hf => ?_) (fun _ => .inl rfl) (fun f hf => ?_)
      (fun f hf => ?_) fun f hf => ?_
    · rw [hcl]
      exact mem_cons_of_mem _ hf
    · split at hf
      · exact mem_of_mem_filter hf
      · exact hf
    · cases ok with
      | false => exact .inl hf
      | true =>
        by_cases hfi : f = file
        · right
          rw [hfi]
          refine ⟨mem_claimed.mpr (.inl ⟨c, hc, hm⟩), h.confirmed file ⟨c, hc, hs, ?_⟩⟩
          rw [hcl]
          rfl
        · exact .inl (mem_filter.mpr ⟨hf, decide_eq_true hfi⟩)
    · rcases setCleanup_confirmed hf with ⟨hk, -⟩ | hf
      · cases hk
      · exact h.confirmed f hf
  · exact h

theorem Sound.abandonCleanup : Sound cfg (s.abandonCleanup c) := by
  refine h.clean (fun f hf => ?_) (fun _ => .inl rfl) (fun _ hf => hf) (fun _ hf => .inl hf) ?_
  · rcases mem_claimed.mp hf with ⟨x, hx, hm⟩ | ⟨r, hr, hm⟩
    · exact mem_claimed.mpr (.inl ⟨x, mem_of_mem_erase hx, hm⟩)
    rcases mem_append.mp hr with hr | hr
    · grind [FileCache.claimed]
    · exact mem_claimed.mpr (.inr ⟨r, hr, hm⟩)
  · rintro f ⟨x, hx, hk⟩
    exact h.confirmed f ⟨x, mem_of_mem_erase hx, hk⟩

end

theorem Sound.finishStrayRemoval (h : Sound cfg s) (r : StrayRemoval) (ok : Bool) :
    Sound cfg (s.finishStrayRemoval r ok) := by
  unfold FileCache.finishStrayRemoval
  split
  · rename_i hr
    refine h.clean (fun f hf => ?_) (fun f => ?_) (fun _ hf => hf) (fun _ hf => .inl hf)
      fun f hf => ?_
    · rw [mem_claimed] at hf ⊢
      exact hf.imp_right fun ⟨x, hx, hm⟩ => ⟨x, mem_of_mem_erase hx, hm⟩
    · split
      · by_cases hf : f = r.file
        · right
          rw [hf]
          exact ⟨mem_claimed.mpr (.inr ⟨r, hr, rfl⟩), Directory.set_self⟩
        · exact .inl (Directory.set_other hf)
      · exact .inl rfl
    have hn : s.disk f = none := h.confirmed f hf
    split
    · exact disk_set_none hn
    · exact hn
  · exact h

end Removal

/-! ## Reservations -/

def Live (s : FileCache K) (r : DiskReservation) : Prop := ∃ f ∈ s.handles, f.name = r.name

theorem live_iff {r : DiskReservation} :
    (s.handles.any fun f => f.name = r.name) = true ↔ s.Live r := by
  simp [Live]

theorem mem_settle {r : DiskReservation} :
    r ∈ s.settle.reservations ↔ r ∈ s.reservations ∧ s.Live r := by
  unfold settle
  rw [mem_filter, live_iff]

theorem owned_handles (h : s.Owned f) : f ∈ s.handles := by
  rw [mem_handles, mem_opened]
  rcases h with h | h | ⟨d, hd, h⟩
  · exact .inl (.inl h)
  · exact .inr (.inl h)
  · exact .inl (.inr (.inr (.inl ⟨d, hd, mem_append_right _ h⟩)))

theorem exists_file (op : StorageOp) : ∃ f ∈ op.files, f.name = op.name := by
  cases op with
  | create n | write n len | flush n => exact ⟨temporary n, mem_singleton.mpr rfl, rfl⟩
  | rename n => exact ⟨temporary n, mem_cons_self, rfl⟩

theorem Sound.settle (h : Sound cfg s) : Sound cfg s.settle := by
  have hk : ∀ r ∈ s.reservations, s.Live r → r ∈ s.settle.reservations := fun r hr hl =>
    mem_settle.mpr ⟨hr, hl⟩
  have hst : ∀ j ∈ s.strays, ∃ f ∈ s.handles, f.name = j.op.name := by
    intro j hj
    obtain ⟨f, hf, hna⟩ := exists_file j.op
    exact ⟨f, mem_handles.mpr (.inl (mem_opened.mpr (.inr (.inr (.inr ⟨j, hj, hf⟩))))), hna⟩
  have hsa : ∀ d ∈ s.downloads, ∀ n, d.stage.name? = some n → ∃ f ∈ s.handles, f.name = n := by
    intro d hd n hn
    refine ⟨cached n, owned_handles (.inr (.inr ⟨d, hd, ?_⟩)), rfl⟩
    rw [(h.worked.stages d hd).unpublished hn]
    exact mem_both.mpr rfl
  have hsu := ((filter_append_perm (fun r => s.handles.any fun f => f.name = r.name)
    s.reservations).map DiskReservation.bytes).sum_eq
  rw [map_append, sum_append] at hsu
  have ht := h.accounted.total
  exact { h with
    worked := { h.worked with
      stages := by
        intro d hd
        refine (h.worked.stages d hd).congr (fun _ _ _ _ => rfl) ?_
        rintro n hn r hr rfl
        exact hk r hr (hsa d hd _ hn)
      straysFit := by
        intro j hj
        refine (h.worked.straysFit j hj).congr (fun _ _ => rfl) ?_
        intro r hr hna
        refine hk r hr ?_
        unfold Live
        rw [hna]
        exact hst j hj
      straysApart := h.worked.straysApart }
    sized := by
      intro f size hs
      obtain ⟨r, hr, hna, hle⟩ := h.sized f size hs
      have ho := h.owned f (Option.isSome_iff_exists.mpr ⟨size, hs⟩)
      exact ⟨r, hk r hr ⟨f, owned_handles ho, hna.symm⟩, hna, hle⟩
    reserved := by
      intro f hf
      obtain ⟨r, hr, hna⟩ := h.reserved f hf
      exact ⟨r, hk r hr ⟨f, hf, hna.symm⟩, hna⟩
    accounted := {
      apart := h.accounted.apart.sublist (filter_sublist.map _)
      fresh := fun r hr => h.accounted.fresh r (mem_settle.mp hr).1
      total := by
        unfold FileCache.settle
        dsimp only
        omega
      room := by grind [h.accounted.room, FileCache.settle] } }

/-! ## Runs -/

theorem onDownload_of {P : FileCache K → Prop} (h : P s) {id : Nat} {f : Download K → FileCache K}
    (hf : ∀ d ∈ s.downloads, P (f d)) : P (s.onDownload id f) := by
  unfold onDownload
  split
  · rename_i d hd
    exact hf d (mem_find hd).1
  · exact h

theorem onCleanup_of {P : FileCache K → Prop} (h : P s) {c : Cleanup} {f : Cleanup → FileCache K}
    (hf : c ∈ s.cleanups → P (f c)) : P (s.onCleanup c f) := by
  unfold onCleanup
  split
  · rename_i hc
    exact hf hc
  · exact h

theorem Sound.handle (h : Sound cfg s) (ev : CacheEvent K) : Sound cfg (s.handle cfg ev) := by
  cases ev with
  | startDownload key ttl now => exact h.startDownload key ttl now
  | wait r => exact h.wait r
  | dropRequest r => exact h.dropRequest r
  | cancel id => exact h.cancel id
  | shutdown => exact h.shutdown
  | acquire id busy => exact onDownload_of h fun d hd => h.acquire hd busy
  | receive id r busy => exact onDownload_of h fun d hd => h.receive hd r busy
  | resume id busy => exact onDownload_of h fun d hd => h.resume hd busy
  | cancelDownload id => exact onDownload_of h fun d hd => h.cancelDownload hd
  | timeoutDownload id => exact onDownload_of h fun d hd => h.stop hd _
  | publish id now => exact onDownload_of h fun d hd => h.publish hd now
  | dropGuard id => exact onDownload_of h fun d hd => h.dropGuard hd
  | startJob id => exact onDownload_of h fun d hd => h.startJob hd
  | finishJob id ok written => exact onDownload_of h fun d hd => h.finishJob hd ok written
  | finishStray job ok written => exact h.finishStray job ok written
  | startCleanup now => exact h.startCleanup now
  | submitRemoval c busy =>
    exact onCleanup_of h (f := fun c => s.submitRemoval c busy) fun hc => h.submitRemoval hc busy
  | startRemoval c => exact onCleanup_of h h.startRemoval
  | finishRemoval c ok =>
    exact onCleanup_of h (f := fun c => s.finishRemoval c ok) fun hc => h.finishRemoval hc ok
  | confirm c => exact onCleanup_of h h.confirm
  | abandonCleanup c => exact onCleanup_of h h.abandonCleanup
  | finishStrayRemoval r ok => exact h.finishStrayRemoval r ok
  | cloneLease file => grind [FileCache.handle, h.cloneLease]
  | dropLease file => exact h.dropLease file

theorem Sound.step (h : Sound cfg s) (ev : CacheEvent K) : Sound cfg (s.step cfg ev).1 :=
  (h.handle ev).settle

theorem sound_empty : Sound cfg ({} : FileCache K) where
  keyed := by constructor <;> simp
  worked := by constructor <;> simp
  published := by
    rintro f (⟨key, entry, hlo, -⟩ | hf)
    · cases hlo
    · cases hf
  claimed := fun f hf => by cases hf
  confirmed := by
    rintro f ⟨c, hc, -⟩
    cases hc
  owned := fun f hf => by cases hf
  sized := fun f size hs => by cases hs
  reserved := fun f hf => by cases hf
  accounted := by constructor <;> simp

theorem sound_exec (cfg : CacheConfig) (events : List (CacheEvent K)) :
    Sound cfg (exec (step cfg) {} events) :=
  exec_induction (P := Sound cfg) sound_empty (fun _ ev h => h.step ev) events

theorem live_exec (cfg : CacheConfig) (events : List (CacheEvent K)) :
    ∀ r ∈ (exec (step cfg) ({} : FileCache K) events).reservations,
      (exec (step cfg) ({} : FileCache K) events).Live r := by
  refine exec_induction (P := fun s : FileCache K => ∀ r ∈ s.reservations, s.Live r)
    ?_ ?_ events
  · intro r hr
    cases hr
  · intro s ev _ r hr
    exact (mem_settle (s := s.handle cfg ev).mp hr).2

/-- In every run: a leased file is there and no cleanup has it, the counter is the sum of the
reservations that live and within the limit, a file that is there is covered by the
reservation of its download, and no two downloads run for one key. -/
theorem cache_safe (cfg : CacheConfig) (events : List (CacheEvent K)) :
    let s := exec (step cfg) ({} : FileCache K) events
    (∀ f ∈ s.leased, (s.disk f).isSome ∧ f ∉ s.claimed) ∧
      ((∀ r ∈ s.reservations, s.Live r) ∧ (∀ f ∈ s.handles, ∃ r ∈ s.reservations, r.name = f.name) ∧
        s.diskBytes = ((s.reservations.map DiskReservation.bytes).sum : Nat) ∧
        s.diskBytes ≤ cfg.maxCacheBytes) ∧
      (∀ f size, s.disk f = some size →
        ∃ r ∈ s.reservations, r.name = f.name ∧ s.Live r ∧ size ≤ r.bytes) ∧
      ∀ d ∈ s.downloads, ∀ e ∈ s.downloads, d.key = e.key → d = e := by
  intro s
  have h : Sound cfg s := sound_exec cfg events
  have hlive : ∀ r ∈ s.reservations, s.Live r := live_exec cfg events
  refine ⟨?_, ⟨hlive, h.reserved, h.accounted.total, h.accounted.room⟩, ?_, ?_⟩
  · intro f hf
    refine ⟨(h.published f (.inr hf)).1, fun hclaimed => ?_⟩
    exact h.claimed f hclaimed (mem_opened.mpr (.inr (.inl hf)))
  · grind [h.sized]
  · intro d hd e he hkey
    exact h.key_unique hd he hkey

end RtpBridge.Playback.FileCache
