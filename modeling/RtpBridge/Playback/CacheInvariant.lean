/-
What holds in the download cache between two steps.
-/
import RtpBridge.Base.Machine
import RtpBridge.Playback.FileCache

namespace RtpBridge.Playback

open List

variable {disk disk' : Directory} {reservations reservations' : List DiskReservation}
  {f : CachedFile} {name : Nat} {stage : Stage}

variable {K : Type} [DecidableEq K] {cfg : CacheConfig}

/-! ## Storage jobs -/

def Directory.size (disk : Directory) (file : CachedFile) : Nat := (disk file).getD 0

def both (name : Nat) : List CachedFile := [temporary name, cached name]

theorem mem_both : f ∈ both name ↔ f.name = name := by
  obtain ⟨n, part⟩ := f
  cases part <;> simp [both, temporary, cached]

theorem StorageOp.files_subset (op : StorageOp) : op.files ⊆ both op.name := by
  cases op <;> simp [files, both, name]

namespace Directory

variable {disk : Directory} {f g : CachedFile} {size : Option Nat}

theorem set_self : (disk.set f size) f = size := if_pos rfl

theorem set_other (h : g ≠ f) : (disk.set f size) g = disk g := if_neg h

end Directory

namespace StorageOp

variable {op : StorageOp} {disk : Directory} (ok : Bool) (written : Nat)

theorem run_other (h : f ∉ op.files) : (op.run disk ok written).1 f = disk f := by
  cases op with
  | create name =>
    have hf : f ≠ temporary name := fun heq => h (mem_singleton.mpr heq)
    unfold run
    dsimp only
    split
    · exact Directory.set_other hf
    · rfl
  | write name len =>
    have hf : f ≠ temporary name := fun heq => h (mem_singleton.mpr heq)
    exact Directory.set_other hf
  | flush name => rfl
  | rename name =>
    have hf : f ≠ temporary name ∧ f ≠ cached name := by
      simpa [files] using h
    unfold run
    dsimp only
    split
    · split
      · exact (Directory.set_other hf.2).trans (Directory.set_other hf.1)
      · rfl
    · rfl

theorem temporary_ne_cached (n m : Nat) : temporary n ≠ cached m := by
  simp [temporary, cached]

theorem run_size {limit : Nat} (ht : disk.size (temporary op.name) + op.len ≤ limit)
    (hc : disk.size (cached op.name) ≤ limit) :
    (op.run disk ok written).1.size (temporary op.name) ≤ limit ∧
      (op.run disk ok written).1.size (cached op.name) ≤ limit := by
  unfold Directory.size at ht hc ⊢
  cases op with
  | create n =>
    simp only [run, name] at ht hc ⊢
    split
    · simp [Directory.set, (temporary_ne_cached n n).symm, hc]
    · exact ⟨ht, hc⟩
  | write n bytes =>
    have hb : (if ok then bytes else min written bytes) ≤ bytes := by
      split
      · exact Nat.le_refl bytes
      · exact Nat.min_le_right written bytes
    simp only [run, name, len] at ht hc ⊢
    rw [Directory.set_self, Directory.set_other (temporary_ne_cached n n).symm]
    refine ⟨?_, hc⟩
    cases hs : disk (temporary n) with
    | none => exact Nat.zero_le limit
    | some size =>
      simp only [hs, Option.getD_some, Option.map_some] at ht ⊢
      omega
  | flush n => exact ⟨ht, hc⟩
  | rename n =>
    simp only [run, name] at ht hc ⊢
    cases hs : disk (temporary n) with
    | none => exact ⟨ht, hc⟩
    | some size =>
      dsimp only
      split
      · rw [hs] at ht
        dsimp only
        rw [Directory.set_self, Directory.set_other (temporary_ne_cached n n), Directory.set_self]
        exact ⟨Nat.zero_le limit, ht⟩
      · exact ⟨ht, hc⟩

def Renamed (disk : Directory) (name : Nat) : Prop :=
  disk (temporary name) = none ∧ (disk (cached name)).isSome

theorem run_changed (op : StorageOp) (disk : Directory) (ok : Bool) (written : Nat)
    (f : CachedFile) : (op.run disk ok written).1 f = disk f ∨ f.name = op.name := by
  by_cases hf : f ∈ op.files
  · exact .inr (mem_both.mp (op.files_subset hf))
  · exact .inl (run_other ok written hf)

theorem run_sized {limit : Nat} (ht : disk.size (temporary op.name) + op.len ≤ limit)
    (hc : disk.size (cached op.name) ≤ limit) {size : Nat}
    (h : (op.run disk ok written).1 f = some size) :
    disk f = some size ∨ f.name = op.name ∧ size ≤ limit := by
  rcases op.run_changed disk ok written f with hsame | hn
  · exact .inl (hsame ▸ h)
  right
  refine ⟨hn, ?_⟩
  obtain ⟨hl, hr⟩ := run_size ok written ht hc
  have hs : (op.run disk ok written).1.size f = size := by
    unfold Directory.size
    rw [h]
    rfl
  have hb : f = temporary op.name ∨ f = cached op.name := by
    simpa [both] using mem_both.mpr hn
  rcases hb with rfl | rfl
  · exact hs ▸ hl
  · exact hs ▸ hr

variable {ok written}

theorem run_renamed (h : ((rename name).run disk ok written).2 = true) :
    Renamed ((rename name).run disk ok written).1 name := by
  unfold run at h ⊢
  dsimp only at h ⊢
  split at h
  · split at h
    · rename_i size hs hok
      simp only [hok, if_true]
      exact ⟨(Directory.set_other (temporary_ne_cached name name)).trans Directory.set_self,
        by rw [Directory.set_self]; rfl⟩
    · cases h
  · cases h

end StorageOp

/-! ## Downloads -/

structure Working (cfg : CacheConfig) (disk : Directory) (reservations : List DiskReservation)
    (name bytes extra : Nat) : Prop where
  limit : bytes ≤ cfg.maxDownloadBytes
  reserved : ⟨name, cfg.maxDownloadBytes⟩ ∈ reservations
  temp : disk.size (temporary name) + extra ≤ bytes
  final : disk.size (cached name) ≤ bytes

def Stage.Ok (cfg : CacheConfig) (disk : Directory) (reservations : List DiskReservation)
    (unpublished : List CachedFile) : Stage → Prop
  | .waiting => unpublished = []
  | .receiving name bytes => unpublished = both name ∧ Working cfg disk reservations name bytes 0
  | .storing op bytes (.finished ok) =>
    unpublished = both op.name ∧ Working cfg disk reservations op.name bytes 0 ∧
      (ok = true → ∀ name, op = .rename name → StorageOp.Renamed disk name)
  | .storing op bytes _ =>
    unpublished = both op.name ∧ Working cfg disk reservations op.name bytes op.len
  | .done (.ok name) => unpublished = both name ∧ StorageOp.Renamed disk name
  | .done (.error _) | .closing => True

theorem Working.mono {bytes extra : Nat} (h : Working cfg disk reservations name bytes extra)
    (hd : ∀ f ∈ both name, disk'.size f ≤ disk.size f)
    (hr : ∀ r ∈ reservations, r.name = name → r ∈ reservations') :
    Working cfg disk' reservations' name bytes extra where
  limit := h.limit
  reserved := hr _ h.reserved rfl
  temp := (Nat.add_le_add_right (hd _ (mem_both.mpr rfl)) extra).trans h.temp
  final := (hd _ (mem_both.mpr rfl)).trans h.final

theorem Working.congr {bytes extra : Nat} (h : Working cfg disk reservations name bytes extra)
    (hd : ∀ f ∈ both name, disk' f = disk f)
    (hr : ∀ r ∈ reservations, r.name = name → r ∈ reservations') :
    Working cfg disk' reservations' name bytes extra := by
  refine h.mono (fun f hf => ?_) hr
  unfold Directory.size
  rw [hd f hf]

theorem StorageOp.Renamed.congr (h : Renamed disk name) (hd : ∀ f ∈ both name, disk' f = disk f) :
    Renamed disk' name := by
  unfold Renamed
  rw [hd _ (mem_both.mpr rfl), hd _ (mem_both.mpr rfl)]
  exact h

theorem Stage.Ok.congr {unpublished : List CachedFile}
    (h : stage.Ok cfg disk reservations unpublished)
    (hd : ∀ n, stage.name? = some n → ∀ f ∈ both n, disk' f = disk f)
    (hr : ∀ n, stage.name? = some n → ∀ r ∈ reservations, r.name = n → r ∈ reservations') :
    stage.Ok cfg disk' reservations' unpublished := by
  cases stage with
  | waiting => exact h
  | receiving name bytes => exact ⟨h.1, h.2.congr (hd name rfl) (hr name rfl)⟩
  | storing op bytes status =>
    cases status with
    | queued => exact ⟨h.1, h.2.congr (hd op.name rfl) (hr op.name rfl)⟩
    | running => exact ⟨h.1, h.2.congr (hd op.name rfl) (hr op.name rfl)⟩
    | finished ok =>
      refine ⟨h.1, h.2.1.congr (hd op.name rfl) (hr op.name rfl), ?_⟩
      rintro hok name rfl
      exact (h.2.2 hok name rfl).congr (hd name rfl)
  | done result =>
    cases result with
    | ok name => exact ⟨h.1, h.2.congr (hd name rfl)⟩
    | error e => exact trivial
  | closing => exact trivial

theorem Stage.Ok.unpublished {unpublished : List CachedFile}
    (h : stage.Ok cfg disk reservations unpublished) {n : Nat} (hn : stage.name? = some n) :
    unpublished = both n := by
  cases stage with
  | waiting => cases hn
  | receiving name bytes =>
    cases hn
    exact h.1
  | storing op bytes status =>
    cases hn
    cases status with
    | queued => exact h.1
    | running => exact h.1
    | finished ok => exact h.1
  | done result =>
    cases result with
    | ok name =>
      cases hn
      exact h.1
    | error e => cases hn
  | closing => cases hn

theorem Stage.files_name (hf : f ∈ stage.files) : stage.name? = some f.name := by
  have hb : ∀ n, f ∈ both n → f.name = n := fun n => mem_both.mp
  cases stage with
  | waiting => cases hf
  | receiving name bytes => exact congrArg some (hb name hf).symm
  | storing op bytes status =>
    refine congrArg some (hb op.name ?_).symm
    rcases mem_append.mp hf with hf | hf
    · exact hf
    cases status with
    | queued => exact op.files_subset hf
    | running => exact op.files_subset hf
    | finished ok => cases hf
  | done result =>
    cases result with
    | ok name =>
      cases mem_singleton.mp hf
      rfl
    | error e => cases hf
  | closing => cases hf

structure Keyed (downloads : List (Download K)) (inflight : HashMap K Nat)
    (entries : HashMap K CacheEntry) (next : Nat) : Prop where
  ids : ∀ d ∈ downloads, d.id < next
  unique : ∀ d ∈ downloads, ∀ e ∈ downloads, d.id = e.id → d = e
  inflight : ∀ d ∈ downloads, inflight.lookup d.key = some d.id
  vacant : ∀ d ∈ downloads, d.stage ≠ .closing → entries.lookup d.key = none

structure Worked (cfg : CacheConfig) (downloads : List (Download K)) (strays : List StrayJob)
    (garbage : List CachedFile) (disk : Directory) (reservations : List DiskReservation) :
    Prop where
  stages : ∀ d ∈ downloads, d.stage.Ok cfg disk reservations d.unpublished
  names : ∀ d ∈ downloads, ∀ e ∈ downloads, ∀ n, d.stage.name? = some n →
    e.stage.name? = some n → d.id = e.id
  straysOwned : ∀ j ∈ strays, ∀ f ∈ j.op.files, f ∈ garbage ∨ ∃ d ∈ downloads, f ∈ d.unpublished
  straysFit : ∀ j ∈ strays, Working cfg disk reservations j.op.name cfg.maxDownloadBytes j.op.len
  straysAlone : ∀ j ∈ strays, ∀ d ∈ downloads, d.stage.name? ≠ some j.op.name
  straysApart : (strays.map fun j => j.op.name).Nodup

omit [DecidableEq K] in
/-- A new download works on files that nobody else works on. -/
theorem Worked.renew {downloads downloads' : List (Download K)} {strays : List StrayJob}
    {garbage garbage' : List CachedFile} {d : Download K}
    (h : Worked cfg downloads strays garbage disk reservations)
    (hd : ∀ e ∈ downloads', e = d ∨ e ∈ downloads)
    (hok : d.stage.Ok cfg disk reservations' d.unpublished)
    (hn : ∀ n, d.stage.name? = some n →
      (∀ e ∈ downloads, e.stage.name? ≠ some n) ∧ ∀ j ∈ strays, j.op.name ≠ n)
    (hr : ∀ r ∈ reservations, r ∈ reservations')
    (ho : ∀ j ∈ strays, ∀ f ∈ j.op.files,
      (f ∈ garbage ∨ ∃ e ∈ downloads, f ∈ e.unpublished) →
        f ∈ garbage' ∨ ∃ e ∈ downloads', f ∈ e.unpublished) :
    Worked cfg downloads' strays garbage' disk reservations' where
  stages := by
    intro e he
    rcases hd e he with rfl | he
    · exact hok
    · exact (h.stages e he).congr (fun _ _ _ _ => rfl) (fun _ _ r hr' _ => hr r hr')
  names := by
    intro e he e' he' n hna hna'
    rcases hd e he with rfl | he
    · rcases hd e' he' with rfl | he'
      · rfl
      · exact ((hn n hna).1 e' he' hna').elim
    rcases hd e' he' with rfl | he'
    · exact ((hn n hna').1 e he hna).elim
    · exact h.names e he e' he' n hna hna'
  straysOwned := fun j hj f hf => ho j hj f hf (h.straysOwned j hj f hf)
  straysFit := fun j hj => (h.straysFit j hj).congr (fun _ _ => rfl) (fun r hr' _ => hr r hr')
  straysAlone := by
    intro j hj e he
    rcases hd e he with rfl | he
    · exact fun hna => (hn _ hna).2 j hj rfl
    · exact h.straysAlone j hj e he
  straysApart := h.straysApart

structure Accounted (cfg : CacheConfig) (reservations : List DiskReservation) (diskBytes : Int)
    (next : Nat) : Prop where
  apart : (reservations.map DiskReservation.name).Nodup
  fresh : ∀ r ∈ reservations, r.name < next
  total : diskBytes = ((reservations.map DiskReservation.bytes).sum : Nat)
  room : diskBytes ≤ cfg.maxCacheBytes

namespace FileCache

variable {s : FileCache K} {f : CachedFile}

/-! ## Places -/

def Listed (entries : HashMap K CacheEntry) (f : CachedFile) : Prop :=
  ∃ key entry, entries.lookup key = some entry ∧ entry.file = f

theorem mem_leased : f ∈ s.leased ↔ f ∈ s.leases ∨ (∃ r ∈ s.requests, r.ready = some f) ∨
    ∃ p ∈ s.pendings, p.result = some (.ok f) := by
  have hr : ∀ p : Pending, p.result.bind Except.toOption = some f ↔ p.result = some (.ok f) := by
    intro p
    cases p.result with
    | none => simp
    | some r => cases r <;> simp [Except.toOption]
  simp only [leased, mem_append, mem_filterMap, hr, or_assoc]

theorem mem_listed : f ∈ s.entries.entries.map (fun e => e.2.file) ↔ Listed s.entries f := by
  rw [mem_map]
  constructor
  · rintro ⟨⟨key, entry⟩, hm, hf⟩
    exact ⟨key, entry, AList.mem_lookup_iff.mpr hm, hf⟩
  · rintro ⟨key, entry, hl, hf⟩
    exact ⟨⟨key, entry⟩, AList.mem_lookup_iff.mp hl, hf⟩

theorem mem_opened : f ∈ s.opened ↔ Listed s.entries f ∨ f ∈ s.leased ∨
    (∃ d ∈ s.downloads, f ∈ d.files) ∨ ∃ j ∈ s.strays, f ∈ j.op.files := by
  simp only [opened, mem_append, mem_listed, mem_flatMap, or_assoc]

theorem mem_claimed : f ∈ s.claimed ↔ (∃ c ∈ s.cleanups, f ∈ c.claims) ∨
    ∃ r ∈ s.strayRemovals, r.file = f := by
  have hh : ∀ c : Cleanup, f ∈ c.claims ++ c.held ↔ f ∈ c.claims := by
    intro c
    rw [mem_append, or_iff_left_iff_imp]
    intro hm
    have hhe : f ∈ c.claims.head?.toList := by
      unfold Cleanup.held at hm
      split at hm
      · exact hm
      · exact hm
      · cases hm
    exact mem_of_mem_head? (Option.mem_toList.mp hhe)
  simp only [claimed, mem_append, mem_flatMap, hh, mem_map]

theorem mem_handles : f ∈ s.handles ↔ f ∈ s.opened ∨ f ∈ s.garbage ∨ f ∈ s.claimed := by
  simp only [handles, mem_append, or_assoc]

theorem handles_sub {s' : FileCache K} (hf : f ∈ s'.handles) (ho : ∀ f ∈ s'.opened, f ∈ s.opened)
    (hg : ∀ f ∈ s'.garbage, f ∈ s.garbage ∨ f ∈ s.opened)
    (hc : ∀ f ∈ s'.claimed, f ∈ s.claimed ∨ f ∈ s.garbage) : f ∈ s.handles := by
  grind [mem_handles]

theorem handles_of_opened {s' : FileCache K} (ho : ∀ f ∈ s'.opened, f ∈ s.opened)
    (hg : s'.garbage = s.garbage) (hc : s'.claimed = s.claimed)
    (hf : f ∈ s'.handles) : f ∈ s.handles :=
  handles_sub hf ho (fun _ hf => .inl (hg ▸ hf)) fun _ hf => .inl (hc ▸ hf)

def Published (s : FileCache K) (f : CachedFile) : Prop := Listed s.entries f ∨ f ∈ s.leased

def Busy (s : FileCache K) (n : Nat) : Prop :=
  (∃ d ∈ s.downloads, d.stage.name? = some n) ∨ ∃ j ∈ s.strays, j.op.name = n

def Confirmed (s : FileCache K) (f : CachedFile) : Prop :=
  ∃ c ∈ s.cleanups, c.status = some (.finished true) ∧ f ∈ c.claims.head?

def Owned (s : FileCache K) (f : CachedFile) : Prop :=
  Listed s.entries f ∨ f ∈ s.garbage ∨ ∃ d ∈ s.downloads, f ∈ d.unpublished

structure Sound (cfg : CacheConfig) (s : FileCache K) : Prop where
  keyed : Keyed s.downloads s.inflight s.entries s.nextPending
  worked : Worked cfg s.downloads s.strays s.garbage s.disk s.reservations
  published : ∀ f, s.Published f → (s.disk f).isSome ∧ ¬ s.Busy f.name
  claimed : ∀ f ∈ s.claimed, f ∉ s.opened
  confirmed : ∀ f, s.Confirmed f → s.disk f = none
  owned : ∀ f, (s.disk f).isSome → s.Owned f
  sized : ∀ f size, s.disk f = some size → ∃ r ∈ s.reservations, r.name = f.name ∧ size ≤ r.bytes
  reserved : ∀ f ∈ s.handles, ∃ r ∈ s.reservations, r.name = f.name
  accounted : Accounted cfg s.reservations s.diskBytes s.nextName

end FileCache

end RtpBridge.Playback
