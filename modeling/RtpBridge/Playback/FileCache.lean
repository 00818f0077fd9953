/-
The download cache of `playback/file_cache.rs`, as threads see it.

Every handle on a cache file has a place: the table of entries, the garbage, the
published result of a download, the guard and the locals of a download task, a job on
its way through the storage workers, a run of the cleanup, a request or a lease.
`strongCount` counts the handles, and a disk reservation lives as long as a file of its
download has one.

A step is one block under the lock, one atomic operation on an owner count, the
start or the end of one storage job, or what a task does between two waits.  A job
that a worker has started runs to its end even if nobody waits for it any more; one
that still is in the queue is then dropped.

File names are random; here they are counted.  Which servers may be asked, the number of
downloads that run at once and the deadlines of the requests are left out: they only
delay or refuse.
-/
import RtpBridge.Base.HashMap
import Mathlib.Algebra.Order.Ring.Int
import Mathlib.Algebra.BigOperators.Group.List.Basic

namespace RtpBridge.Playback

structure CacheConfig where
  maxEntries : Nat
  maxInflight : Nat
  maxOwners : Nat
  maxDownloadBytes : Nat
  maxCacheBytes : Nat

/-! ## Files, reservations and requests -/

/-- A file in the cache directory: the one under the random name itself, or the
`.part` file it is written to first. -/
structure CachedFile where
  name : Nat
  part : Bool
deriving DecidableEq

def temporary (name : Nat) : CachedFile := ⟨name, true⟩

def cached (name : Nat) : CachedFile := ⟨name, false⟩

structure DiskReservation where
  name : Nat
  bytes : Nat

structure CacheEntry where
  file : CachedFile
  expiresAt : Nat

structure Pending where
  id : Nat
  result : Option (Except String CachedFile) := none
  cancelled : Bool := false
  owners : Nat := 1

structure DownloadRequest where
  pending : Option Nat
  ready : Option CachedFile
deriving DecidableEq

/-! ## Storage jobs -/

inductive StorageOp where
  | create (name : Nat)
  | write (name len : Nat)
  | flush (name : Nat)
  | rename (name : Nat)
deriving DecidableEq

namespace StorageOp

def name : StorageOp → Nat
  | create name => name
  | write name _ => name
  | flush name => name
  | rename name => name

def files : StorageOp → List CachedFile
  | rename name => [temporary name, cached name]
  | op => [temporary op.name]

def len : StorageOp → Nat
  | write _ len => len
  | _ => 0

end StorageOp

inductive JobStatus where
  | queued
  | running
  | finished (ok : Bool)
deriving DecidableEq

structure StrayJob where
  op : StorageOp
  running : Bool
deriving DecidableEq

abbrev Directory := CachedFile → Option Nat

def Directory.set (disk : Directory) (file : CachedFile) (size : Option Nat) : Directory :=
  fun f => if f = file then size else disk f

/-- What a job does and answers.  `ok` is what the file system says; a write that fails may
have written a part. -/
def StorageOp.run (op : StorageOp) (disk : Directory) (ok : Bool) (written : Nat) :
    Directory × Bool :=
  match op with
  | .create name =>
    -- `create_new`
    if ok && (disk (temporary name)).isNone then (disk.set (temporary name) (some 0), true)
    else (disk, false)
  | .write name len =>
    let bytes := if ok then len else min written len
    (disk.set (temporary name) ((disk (temporary name)).map (· + bytes)), ok)
  | .flush _ => (disk, ok)
  | .rename name =>
    match disk (temporary name) with
    | some size =>
      if ok then ((disk.set (temporary name) none).set (cached name) (some size), true)
      else (disk, false)
    | none => (disk, false)

/-! ## Tasks -/

inductive Stage where
  | waiting
  | receiving (name bytes : Nat)
  | storing (op : StorageOp) (bytes : Nat) (status : JobStatus)
  | done (result : Except String Nat)
  | closing

namespace Stage

def name? : Stage → Option Nat
  | receiving name _ => some name
  | storing op _ _ => some op.name
  | done (.ok name) => some name
  | _ => none

def job? : Stage → Option StrayJob
  | storing op _ .queued => some ⟨op, false⟩
  | storing op _ .running => some ⟨op, true⟩
  | _ => none

def files : Stage → List CachedFile
  | receiving name _ => [temporary name, cached name]
  | storing op bytes status =>
    [temporary op.name, cached op.name] ++
      ((job? (.storing op bytes status)).elim [] fun job => job.op.files)
  | done (.ok name) => [cached name]
  | _ => []

end Stage

structure Download (K : Type) where
  id : Nat
  key : K
  ttl : Nat
  stage : Stage := .waiting
  unpublished : List CachedFile := []

def Download.files {K : Type} (d : Download K) : List CachedFile := d.stage.files ++ d.unpublished

structure Cleanup where
  claims : List CachedFile
  status : Option JobStatus := none
deriving DecidableEq

def Cleanup.held (c : Cleanup) : List CachedFile :=
  match c.status with
  | some .queued | some .running => c.claims.head?.toList
  | _ => []

structure StrayRemoval where
  file : CachedFile
  running : Bool
deriving DecidableEq

structure FileCache (K : Type) [DecidableEq K] where
  entries : HashMap K CacheEntry := ∅
  inflight : HashMap K Nat := ∅
  garbage : List CachedFile := []
  pendings : List Pending := []
  requests : List DownloadRequest := []
  /-- Requests in the middle of their drop: the count is down to zero, the token is
  not cancelled yet. -/
  cancelling : List Nat := []
  downloads : List (Download K) := []
  strays : List StrayJob := []
  cleanups : List Cleanup := []
  strayRemovals : List StrayRemoval := []
  leases : List CachedFile := []
  reservations : List DiskReservation := []
  diskBytes : Int := 0
  disk : Directory := fun _ => none
  nextPending : Nat := 0
  nextName : Nat := 0

namespace FileCache

variable {K : Type} [DecidableEq K]

/-! ## Handles -/

def leased (s : FileCache K) : List CachedFile :=
  s.leases ++ s.requests.filterMap DownloadRequest.ready ++
    s.pendings.filterMap fun p => p.result.bind Except.toOption

def claimed (s : FileCache K) : List CachedFile :=
  s.cleanups.flatMap (fun c => c.claims ++ c.held) ++ s.strayRemovals.map StrayRemoval.file

def opened (s : FileCache K) : List CachedFile :=
  s.entries.entries.map (fun e => e.2.file) ++ s.leased ++ s.downloads.flatMap Download.files ++
    s.strays.flatMap fun job => job.op.files

def handles (s : FileCache K) : List CachedFile := s.opened ++ s.garbage ++ s.claimed

/-- `Arc::strong_count`. -/
def strongCount (s : FileCache K) (file : CachedFile) : Nat := s.handles.count file

def settle (s : FileCache K) : FileCache K :=
  let live := fun r : DiskReservation => s.handles.any fun f => f.name = r.name
  { s with
    reservations := s.reservations.filter live
    diskBytes := s.diskBytes -
      (((s.reservations.filter fun r => !live r).map DiskReservation.bytes).sum : Nat) }

/-! ## Pending downloads -/

def pending? (s : FileCache K) (id : Nat) : Option Pending := s.pendings.find? fun p => p.id = id

def setPending (s : FileCache K) (p : Pending) : FileCache K :=
  { s with pendings := p :: s.pendings.filter fun q => q.id ≠ p.id }

def pendingHeld (s : FileCache K) (id : Nat) : Bool :=
  s.inflight.entries.any (fun e => e.2 = id) || s.downloads.any (fun d => d.id = id) ||
    s.requests.any (fun r => r.pending = some id) || s.cancelling.contains id

def releasePending (s : FileCache K) (id : Nat) : FileCache K :=
  if s.pendingHeld id then s
  else { s with pendings := s.pendings.filter fun p => p.id ≠ id }

def joinable (s : FileCache K) (key : K) : Option Pending :=
  ((s.inflight.lookup key).bind s.pending?).filter fun p => !p.cancelled

/-- `start_download_with_cache_key`, from the semaphore on. -/
def startDownload (cfg : CacheConfig) (s : FileCache K) (key : K) (ttl now : Nat) :
    FileCache K × Except String DownloadRequest :=
  if cfg.maxOwners ≤ s.requests.length + s.cancelling.length then (s, .error "DOWNLOAD_BUSY")
  else
    match s.entries.lookup key with
    | some entry =>
      let request : DownloadRequest := ⟨none, some entry.file⟩
      ({ s with
        entries := s.entries.insert key { entry with expiresAt := now + ttl }
        requests := request :: s.requests }, .ok request)
    | none =>
      match s.joinable key with
      | some p =>
        let request : DownloadRequest := ⟨some p.id, none⟩
        ({ s.setPending { p with owners := p.owners + 1 } with
          requests := request :: s.requests }, .ok request)
      | none =>
        if key ∈ s.inflight ∨ cfg.maxInflight ≤ s.inflight.size ∨
            cfg.maxEntries ≤ s.entries.size + s.inflight.size + s.garbage.length then
          (s, .error "DOWNLOAD_BUSY")
        else
          let request : DownloadRequest := ⟨some s.nextPending, none⟩
          ({ s with
            inflight := s.inflight.insert key s.nextPending
            pendings := { id := s.nextPending } :: s.pendings
            requests := request :: s.requests
            downloads := { id := s.nextPending, key := key, ttl := ttl } :: s.downloads
            nextPending := s.nextPending + 1 }, .ok request)

def answer (s : FileCache K) (r : DownloadRequest) : Option (Except String CachedFile) :=
  match r.ready with
  | some file => some (.ok file)
  | none => (r.pending.bind s.pending?).bind Pending.result

def wait (s : FileCache K) (r : DownloadRequest) : FileCache K :=
  if r ∈ s.requests then
    match s.answer r with
    | some (.ok file) =>
      { s with
        leases := file :: s.leases
        requests := { r with ready := none } :: s.requests.erase r }
    | _ => s
  else s

def dropRequest (s : FileCache K) (r : DownloadRequest) : FileCache K :=
  if r ∈ s.requests then
    let s := { s with requests := s.requests.erase r }
    match r.pending.bind s.pending? with
    | none => s
    | some p =>
      let s := s.setPending { p with owners := p.owners - 1 }
      if p.owners = 1 then { s with cancelling := p.id :: s.cancelling }
      else s.releasePending p.id
  else s

def cancel (s : FileCache K) (id : Nat) : FileCache K :=
  if id ∈ s.cancelling then
    let s := { s with cancelling := s.cancelling.erase id }
    match s.pending? id with
    | none => s
    | some p => (s.setPending { p with cancelled := true }).releasePending id
  else s

def shutdown (s : FileCache K) : FileCache K :=
  { s with
    pendings := s.pendings.map fun p =>
      if s.inflight.entries.any fun e => e.2 = p.id then { p with cancelled := true } else p }

/-! ## The download task -/

def download? (s : FileCache K) (id : Nat) : Option (Download K) :=
  s.downloads.find? fun d => d.id = id

def setDownload (s : FileCache K) (d : Download K) : FileCache K :=
  { s with downloads := d :: s.downloads.filter fun e => e.id ≠ d.id }

/-- `storage::run`: the job is queued, or the queue is full. -/
def submit (d : Download K) (op : StorageOp) (bytes : Nat) (busy : Bool) : Download K :=
  { d with
    stage := if busy then .done (.error "STORAGE_BUSY") else .storing op bytes .queued }

def acquire (cfg : CacheConfig) (s : FileCache K) (d : Download K) (busy : Bool) : FileCache K :=
  match d.stage with
  | .waiting =>
    if s.diskBytes + cfg.maxDownloadBytes ≤ cfg.maxCacheBytes then
      let d := { d with unpublished := [temporary s.nextName, cached s.nextName] }
      { s.setDownload (submit d (.create s.nextName) 0 busy) with
        reservations := ⟨s.nextName, cfg.maxDownloadBytes⟩ :: s.reservations
        diskBytes := s.diskBytes + cfg.maxDownloadBytes
        nextName := s.nextName + 1 }
    else s.setDownload { d with stage := .done (.error "CACHE_FULL") }
  | _ => s

inductive Received where
  | chunk (len : Nat)
  | ended
  | failed (error : String)

def receive (cfg : CacheConfig) (s : FileCache K) (d : Download K) (r : Received) (busy : Bool) :
    FileCache K :=
  match d.stage with
  | .receiving name bytes =>
    match r with
    | .chunk len =>
      if bytes + len ≤ cfg.maxDownloadBytes then
        s.setDownload (submit d (.write name len) (bytes + len) busy)
      else s.setDownload { d with stage := .done (.error "Downloaded file too large") }
    | .ended => s.setDownload (submit d (.flush name) bytes busy)
    | .failed error => s.setDownload { d with stage := .done (.error error) }
  | _ => s

/-- `DiskReservation::shrink`. -/
def shrink (s : FileCache K) (name bytes : Nat) : FileCache K :=
  { s with
    reservations := s.reservations.map fun r =>
      if r.name = name then { r with bytes := bytes } else r
    diskBytes := s.diskBytes -
      (((s.reservations.filter fun r => r.name = name).map fun r => (r.bytes : Int) - bytes).sum) }

def resume (s : FileCache K) (d : Download K) (busy : Bool) : FileCache K :=
  match d.stage with
  | .storing op bytes (.finished true) =>
    match op with
    | .create name => s.setDownload { d with stage := .receiving name bytes }
    | .write name _ => s.setDownload { d with stage := .receiving name bytes }
    | .flush name => s.setDownload (submit d (.rename name) bytes busy)
    | .rename name => (s.setDownload { d with stage := .done (.ok name) }).shrink name bytes
  | .storing _ _ (.finished false) =>
    s.setDownload { d with stage := .done (.error "storage error") }
  | _ => s

/-- The task gives up, for its token or for its time; the job it waited for goes on
without it. -/
def stop (s : FileCache K) (d : Download K) (error : String) : FileCache K :=
  match d.stage with
  | .waiting | .receiving _ _ | .storing _ _ _ =>
    { s.setDownload { d with stage := .done (.error error) } with
      strays := d.stage.job?.toList ++ s.strays }
  | .done _ | .closing => s

def downloadCancelled : String := "download cancelled"

def cancelDownload (s : FileCache K) (d : Download K) : FileCache K :=
  if (s.pending? d.id).any Pending.cancelled then s.stop d downloadCancelled else s

def timeoutDownload (s : FileCache K) (d : Download K) : FileCache K :=
  s.stop d "Download timeout including queue time"

def publish (s : FileCache K) (d : Download K) (now : Nat) : FileCache K :=
  match d.stage, s.pending? d.id with
  | .done (.ok name), some p =>
    if p.cancelled then s.setDownload { d with stage := .closing }
    else
      { (s.setDownload { d with stage := .closing, unpublished := [] }).setPending
          { p with result := some (.ok (cached name)) } with
        entries := s.entries.insert d.key ⟨cached name, now + d.ttl⟩ }
  | .done (.error error), some p =>
    (s.setDownload { d with stage := .closing }).setPending
      { p with result := some (.error error) }
  | _, _ => s

/-- The drop of `DownloadGuard`. -/
def dropGuard (s : FileCache K) (d : Download K) : FileCache K :=
  match d.stage, s.pending? d.id with
  | .closing, some p =>
    ({ s.setPending (if p.result.isNone then { p with result := some (.error downloadCancelled) }
        else p) with
      inflight := if s.inflight.lookup d.key = some d.id then s.inflight.erase d.key
        else s.inflight
      garbage := s.garbage ++ d.unpublished
      downloads := s.downloads.filter fun e => e.id ≠ d.id }).releasePending d.id
  | _, _ => s

/-! ## The storage workers -/

def startJob (s : FileCache K) (d : Download K) : FileCache K :=
  match d.stage with
  | .storing op bytes .queued => s.setDownload { d with stage := .storing op bytes .running }
  | _ => s

def finishJob (s : FileCache K) (d : Download K) (ok : Bool) (written : Nat) : FileCache K :=
  match d.stage with
  | .storing op bytes .running =>
    { s.setDownload { d with stage := .storing op bytes (.finished (op.run s.disk ok written).2) }
      with disk := (op.run s.disk ok written).1 }
  | _ => s

def finishStray (s : FileCache K) (job : StrayJob) (ok : Bool) (written : Nat) : FileCache K :=
  if job ∈ s.strays then
    { s with
      strays := s.strays.erase job
      disk := if job.running then (job.op.run s.disk ok written).1 else s.disk }
  else s

/-! ## The cleanup -/

def expired (s : FileCache K) (now : Nat) : List K :=
  (s.entries.entries.filter fun e => e.2.expiresAt ≤ now && s.strongCount e.2.file = 1).map
    Sigma.fst

def collect (s : FileCache K) : List K → FileCache K
  | [] => s
  | key :: rest =>
    match s.entries.lookup key with
    | some entry =>
      ({ s with
        entries := s.entries.erase key
        garbage := s.garbage ++ [entry.file] } : FileCache K).collect rest
    | none => s.collect rest

def startCleanup (s : FileCache K) (now : Nat) : FileCache K :=
  let s := s.collect (s.expired now)
  { s with cleanups := { claims := s.garbage.filter fun f => s.strongCount f = 1 } :: s.cleanups }

def setCleanup (s : FileCache K) (c c' : Cleanup) : FileCache K :=
  { s with cleanups := c' :: s.cleanups.erase c }

def submitRemoval (s : FileCache K) (c : Cleanup) (busy : Bool) : FileCache K :=
  match c.status, c.claims with
  | none, _ :: rest =>
    if busy then s.setCleanup c { c with claims := rest }
    else s.setCleanup c { c with status := some .queued }
  | none, [] => { s with cleanups := s.cleanups.erase c }
  | some _, _ => s

def startRemoval (s : FileCache K) (c : Cleanup) : FileCache K :=
  match c.status with
  | some .queued => s.setCleanup c { c with status := some .running }
  | _ => s

def finishRemoval (s : FileCache K) (c : Cleanup) (ok : Bool) : FileCache K :=
  match c.status, c.claims with
  | some .running, file :: _ =>
    if ok then
      { s.setCleanup c { c with status := some (.finished true) } with
        disk := s.disk.set file none }
    else
      s.setCleanup c { c with status := some (.finished (s.disk file).isNone) }
  | _, _ => s

def confirm (s : FileCache K) (c : Cleanup) : FileCache K :=
  match c.status, c.claims with
  | some (.finished ok), file :: rest =>
    { s.setCleanup c { claims := rest } with
      garbage := if ok then s.garbage.filter fun f => f ≠ file else s.garbage }
  | _, _ => s

def abandonCleanup (s : FileCache K) (c : Cleanup) : FileCache K :=
  { s with
    cleanups := s.cleanups.erase c
    strayRemovals := (c.held.map fun f => ⟨f, c.status = some .running⟩) ++ s.strayRemovals }

def finishStrayRemoval (s : FileCache K) (r : StrayRemoval) (ok : Bool) : FileCache K :=
  if r ∈ s.strayRemovals then
    { s with
      strayRemovals := s.strayRemovals.erase r
      disk := if r.running && ok then s.disk.set r.file none else s.disk }
  else s

/-! ## Steps -/

inductive CacheEvent (K : Type) where
  | startDownload (key : K) (ttl now : Nat)
  | wait (r : DownloadRequest)
  | dropRequest (r : DownloadRequest)
  | cancel (id : Nat)
  | shutdown
  | acquire (id : Nat) (busy : Bool)
  | receive (id : Nat) (r : Received) (busy : Bool)
  | resume (id : Nat) (busy : Bool)
  | cancelDownload (id : Nat)
  | timeoutDownload (id : Nat)
  | publish (id : Nat) (now : Nat)
  | dropGuard (id : Nat)
  | startJob (id : Nat)
  | finishJob (id : Nat) (ok : Bool) (written : Nat)
  | finishStray (job : StrayJob) (ok : Bool) (written : Nat)
  | startCleanup (now : Nat)
  | submitRemoval (c : Cleanup) (busy : Bool)
  | startRemoval (c : Cleanup)
  | finishRemoval (c : Cleanup) (ok : Bool)
  | confirm (c : Cleanup)
  | abandonCleanup (c : Cleanup)
  | finishStrayRemoval (r : StrayRemoval) (ok : Bool)
  | cloneLease (file : CachedFile)
  | dropLease (file : CachedFile)

def onDownload (s : FileCache K) (id : Nat) (f : Download K → FileCache K) : FileCache K :=
  match s.download? id with
  | some d => f d
  | none => s

def onCleanup (s : FileCache K) (c : Cleanup) (f : Cleanup → FileCache K) : FileCache K :=
  if c ∈ s.cleanups then f c else s

def handle (cfg : CacheConfig) (s : FileCache K) : CacheEvent K → FileCache K
  | .startDownload key ttl now => (s.startDownload cfg key ttl now).1
  | .wait r => s.wait r
  | .dropRequest r => s.dropRequest r
  | .cancel id => s.cancel id
  | .shutdown => s.shutdown
  | .acquire id busy => s.onDownload id fun d => s.acquire cfg d busy
  | .receive id r busy => s.onDownload id fun d => s.receive cfg d r busy
  | .resume id busy => s.onDownload id fun d => s.resume d busy
  | .cancelDownload id => s.onDownload id s.cancelDownload
  | .timeoutDownload id => s.onDownload id s.timeoutDownload
  | .publish id now => s.onDownload id fun d => s.publish d now
  | .dropGuard id => s.onDownload id s.dropGuard
  | .startJob id => s.onDownload id s.startJob
  | .finishJob id ok written => s.onDownload id fun d => s.finishJob d ok written
  | .finishStray job ok written => s.finishStray job ok written
  | .startCleanup now => s.startCleanup now
  | .submitRemoval c busy => s.onCleanup c fun c => s.submitRemoval c busy
  | .startRemoval c => s.onCleanup c s.startRemoval
  | .finishRemoval c ok => s.onCleanup c fun c => s.finishRemoval c ok
  | .confirm c => s.onCleanup c s.confirm
  | .abandonCleanup c => s.onCleanup c s.abandonCleanup
  | .finishStrayRemoval r ok => s.finishStrayRemoval r ok
  | .cloneLease file => if file ∈ s.leases then { s with leases := file :: s.leases } else s
  | .dropLease file => { s with leases := s.leases.erase file }

def step (cfg : CacheConfig) (s : FileCache K) (ev : CacheEvent K) : FileCache K × Unit :=
  ((s.handle cfg ev).settle, ())

end FileCache

end RtpBridge.Playback
