/-
Key presses and their reports.
-/
import Mathlib.Data.List.Nodup
import Mathlib.Order.Fin.Basic
import RtpBridge.Base.Machine
import RtpBridge.Media.Dtmf

namespace RtpBridge.Dtmf

open Wire Machine List Option

variable {c : Current} {now : Nat} {payload : Bytes}

structure KeyPress where
  eventId : UInt8
  timestamp : UInt32
deriving DecidableEq

def KeyPress.key (press : KeyPress) : UInt8 × UInt32 := (press.eventId, press.timestamp)

def endBit (payload : Bytes) : Bool := (TelephoneEvent.parse payload).any TelephoneEvent.endBit

inductive Delivery (n : Nat) where
  | packet (now : Nat) (press : Fin n) (payload : Bytes)
  | check (now : Nat)

def Delivery.press? {n : Nat} : Delivery n → Option (Fin n)
  | .packet _ press _ => some press
  | .check _ => none

def DtmfDetector.attributed (det : DtmfDetector) (now : Nat) (key : UInt8 × UInt32) :
    UInt8 × UInt32 :=
  match det.current with
  | some c => if c.Expired now ∨ c.eventId ≠ key.1 then c.key else key
  | none => key

section Delivered

variable {n : Nat} (presses : Fin n → KeyPress) (clockRate : UInt32)

def deliver (det : DtmfDetector) : Delivery n → DtmfDetector × Option (DtmfEvent × UInt8 × UInt32)
  | .packet now k payload =>
    let (next, event) := det.process now payload (presses k).timestamp clockRate
    (next, event.map (·, det.attributed now (presses k).key))
  | .check now =>
    let (next, event) := det.checkTimeout now clockRate
    (next, event.map (·, (det.current.map Current.key).getD (0, 0)))

/-! ## The order of deliveries -/

structure Progress (n : Nat) where
  press : Option (Fin n) := none
  ended : Bool := false
  lastAt : Nat := 0
  clock : Nat := 0
deriving DecidableEq

def Progress.next (g : Progress n) : Delivery n → Progress n
  | .packet now k payload =>
    { press := some k, ended := endBit payload || (decide (g.press = some k) && g.ended),
      lastAt := now, clock := now }
  | .check now => { g with clock := now }

def progress (inputs : List (Delivery n)) : Progress n := inputs.foldl Progress.next {}

/-- The clock runs forward, presses come one after the other, and within a press no packet
comes more than three seconds after the one before and none without the end bit after
one with it. -/
def InOrder (g : Progress n) : Delivery n → Prop
  | .packet now k payload =>
    g.clock ≤ now ∧ (presses k).eventId ≤ 15 ∧
      (TelephoneEvent.parse payload).map TelephoneEvent.eventId = some (presses k).eventId ∧
      (∀ j, g.press = some j → j ≤ k) ∧
      (g.press = some k → now - g.lastAt ≤ dtmfTimeout ∧ (g.ended = true → endBit payload = true))
  | .check now => g.clock ≤ now

def Distinct (g : Progress n) (det : DtmfDetector) : Delivery n → Prop
  | .packet _ k _ =>
    g.press ≠ some k → det.current.map Current.eventId ≠ some (presses k).eventId ∧
        det.lastCompleted ≠ some (presses k).key
  | .check _ => True

/-! ## What the detector has seen and reported -/

/-- The presses `ks` of which a packet came and those of them, `rs`, that were reported.
`whole` asks that all were reported but the one that is open. -/
structure Tracked (whole : Prop) (g : Progress n) (det : DtmfDetector) (ks rs : List (Fin n)) :
    Prop where
  sorted : ks.Pairwise (· < ·)
  last : g.press = ks.getLast?
  digits : ∀ k ∈ ks, (presses k).eventId ≤ 15
  reported : rs.Pairwise (· < ·)
  known : ∀ j ∈ rs, j ∈ ks
  closed : det.current = none → ∀ k, g.press = some k →
    (det.lastCompleted = some (presses k).key ∧ g.ended = true) ∨
      dtmfTimeout < g.clock - g.lastAt
  opened : ∀ c, det.current = some c → ∃ k, g.press = some k ∧ c.key = (presses k).key ∧
    c.startedAt = g.lastAt ∧ k ∉ rs ∧ det.lastCompleted ≠ some (presses k).key
  completed : ∀ key, det.lastCompleted = some key → ∃ j ∈ rs, key = (presses j).key
  whole : whole → ks = rs ++ (if det.current.isSome then g.press.toList else [])

inductive Reports (rs : List (Fin n)) :
    Option (DtmfEvent × UInt8 × UInt32) → List (Fin n) → Prop where
  | none : Reports rs none rs
  | press {event : DtmfEvent} (j : Fin n)
      (hd : eventIdToDigit (presses j).eventId = some event.digit) :
      Reports rs (some (event, (presses j).key)) (rs ++ [j])

variable {presses}

theorem tracked_start (whole : Prop) : Tracked presses whole {} {} [] [] where
  sorted := .nil
  last := rfl
  digits := by simp
  reported := .nil
  known := by simp
  closed := by simp
  opened := by simp
  completed := by simp
  whole := by simp

theorem eventIdToDigit_isSome {id : UInt8} (h : id ≤ 15) : (eventIdToDigit id).isSome := by
  have ha : ∀ m : Fin 256, UInt8.ofNat m ≤ 15 → (eventIdToDigit (UInt8.ofNat m)).isSome := by
    decide +kernel
  have hid := ha ⟨id.toNat, id.toNat_lt⟩
  rw [UInt8.ofNat_toNat] at hid
  exact hid h

theorem reportOf_ok {id : UInt8} (h : id ≤ 15) (volume : UInt8) (duration : UInt16) :
    ∃ event, reportOf clockRate id volume duration = some event ∧
      eventIdToDigit id = some event.digit := by
  obtain ⟨digit, hd⟩ := isSome_iff_exists.mp (eventIdToDigit_isSome h)
  rw [reportOf, hd]
  exact ⟨_, rfl, rfl⟩

section Step

variable {whole : Prop} {g : Progress n} {det : DtmfDetector} {ks rs : List (Fin n)}

theorem Tracked.le_last (h : Tracked presses whole g det ks rs) {k j : Fin n}
    (hk : g.press = some k) (hj : j ∈ ks) : j ≤ k := by
  obtain ⟨init, rfl⟩ := List.getLast?_eq_some_iff.mp (h.last.symm.trans hk)
  grind [le_of_lt, h.sorted]

theorem Tracked.mem_last (h : Tracked presses whole g det ks rs) {k : Fin n}
    (hk : g.press = some k) : k ∈ ks :=
  mem_of_getLast? (h.last.symm.trans hk)

theorem pairwise_concat {l : List (Fin n)} {k : Fin n} (h : l.Pairwise (· < ·))
    (hlt : ∀ j ∈ l, j < k) : (l ++ [k]).Pairwise (· < ·) := by grind

section

variable (h : Tracked presses whole g det ks rs)
include h

theorem Tracked.lt_open {k : Fin n}
    (hk : g.press = some k) (hn : k ∉ rs) : ∀ j ∈ rs, j < k := by
  grind [lt_of_le_of_ne, h.le_last, h.known]

theorem Tracked.lt_new {k : Fin n}
    (ho : ∀ j, g.press = some j → j ≤ k) (hne : g.press ≠ some k) : ∀ j ∈ ks, j < k := by
  intro j hj
  cases hp : g.press with
  | none =>
    rw [List.getLast?_eq_none_iff.mp (h.last.symm.trans hp)] at hj
    simp at hj
  | some m =>
    have hjm := h.le_last hp hj
    grind

theorem Tracked.valid (hc : det.current = some c) : c.eventId ≤ 15 := by
  obtain ⟨k, hk, hke, -⟩ := h.opened c hc
  have hid : c.eventId = (presses k).eventId := congrArg Prod.fst hke
  rw [hid]
  exact h.digits k (h.mem_last hk)

theorem Tracked.reports_open (hc : det.current = some c) :
    ∃ j, g.press = some j ∧ j ∉ rs ∧ c.key = (presses j).key ∧
      Reports presses rs ((c.report clockRate).map (·, c.key)) (rs ++ [j]) := by
  obtain ⟨j, hj, hke, -, hn, -⟩ := h.opened c hc
  obtain ⟨event, he, hd⟩ :=
    reportOf_ok clockRate (h.valid hc) c.volume c.duration
  refine ⟨j, hj, hn, hke, ?_⟩
  rw [Current.report, he, hke]
  refine .press j ?_
  rw [← hd]
  exact congrArg (eventIdToDigit ·.1) hke.symm

end

theorem InOrder.parsed {k : Fin n} (h : InOrder presses g (.packet now k payload)) :
    ∃ p, TelephoneEvent.parse payload = some p ∧ p.eventId = (presses k).eventId ∧
      endBit payload = p.endBit := by
  obtain ⟨p, hp, hid⟩ := map_eq_some_iff.mp h.2.2.1
  exact ⟨p, hp, hid, by rw [endBit, hp]; rfl⟩

theorem attributed_free {key : UInt8 × UInt32}
    (hf : ∀ c, det.current = some c → ¬c.Expired now ∧ c.eventId = key.1) :
    det.attributed now key = key := by grind [DtmfDetector.attributed]

theorem attributed_open {key : UInt8 × UInt32} (hc : det.current = some c)
    (h : c.Expired now ∨ c.eventId ≠ key.1) : det.attributed now key = c.key := by
  rw [DtmfDetector.attributed, hc]
  exact if_pos h

section

variable (h : Tracked presses whole g det ks rs)
include h

theorem Tracked.same {k : Fin n}
    (hin : InOrder presses g (.packet now k payload)) (hk : g.press = some k) :
    ∃ rs', Tracked presses whole (g.next (.packet now k payload))
        (deliver presses clockRate det (.packet now k payload)).1 ks rs' ∧
      Reports presses rs (deliver presses clockRate det (.packet now k payload)).2 rs' := by
  obtain ⟨p, hp, hid, hed⟩ := hin.parsed
  obtain ⟨hcl, hd, -, -, hsame⟩ := hin
  obtain ⟨hg, hen⟩ := hsame hk
  have hca := DtmfDetector.process_cases hp
    (fun c hc => eventIdToDigit_isSome (h.valid hc)) now (presses k).timestamp clockRate
  have hl := h.last.symm.trans hk
  have hpk : (p.eventId, (presses k).timestamp) = (presses k).key := Prod.ext hid rfl
  simp only [deliver]
  generalize det.process now payload (presses k).timestamp clockRate = result at hca
  cases hcu : det.current with
  | none =>
    -- closed: by an end bit, since three seconds have not passed
    have hco : det.lastCompleted = some (presses k).key ∧ g.ended = true := by
      obtain hdo | hla := h.closed hcu k hk
      · exact hdo
      · omega
    have hpe := hed.symm.trans (hen hco.2)
    cases hca with
    | timedOut hc => simp [hcu] at hc
    | interrupted hc => simp [hcu] at hc
    | opened _ hn => simp [hpe] at hn
    | completed _ _ hne =>
      exact absurd (hco.1.trans (congrArg some hpk.symm)) hne
    | suppressed =>
      refine ⟨rs, ⟨h.sorted, hl.symm, h.digits, h.reported, h.known, fun _ m hm => ?_,
        by simp, h.completed, fun hw => ?_⟩, .none⟩
      · cases some.inj hm
        exact .inl ⟨hco.1, by simp [Progress.next, hed, hpe]⟩
      · simpa [hcu] using h.whole hw
  | some c =>
    obtain ⟨m, hm, hke, hs, hno, ho⟩ := h.opened c hcu
    cases some.inj (hm.symm.trans hk)
    have hci : c.eventId = p.eventId := (congrArg Prod.fst hke).trans hid.symm
    have hfr : ¬c.Expired now := by
      rw [Current.Expired]
      omega
    have hwh : whole → ks = rs ++ [k] := fun hw => by
      simpa [hcu, hk] using h.whole hw
    cases hca with
    | timedOut hc he =>
      cases some.inj (hcu.symm.trans hc)
      exact absurd he hfr
    | interrupted hc _ hot =>
      cases some.inj (hcu.symm.trans hc)
      exact absurd hci hot
    | opened =>
      refine ⟨rs, ⟨h.sorted, hl.symm, h.digits, h.reported, h.known, by simp,
        fun c' hc' => ?_, h.completed, hwh⟩, .none⟩
      cases some.inj hc'
      exact ⟨k, rfl, hpk, rfl, hno, ho⟩
    | completed hf hpe =>
      obtain ⟨event, hev, hd'⟩ :=
        reportOf_ok clockRate hd p.volume p.duration
      refine ⟨rs ++ [k], ⟨h.sorted, hl.symm, h.digits,
        pairwise_concat h.reported (h.lt_open hk hno), fun j hj => ?_, fun _ m hm' => ?_,
        by simp, fun key hco => ?_, fun hw => ?_⟩, ?_⟩
      · grind [h.known]
      · cases some.inj hm'
        exact .inl ⟨congrArg some hpk, by simp [Progress.next, hed, hpe]⟩
      · exact ⟨k, by simp, (some.inj hco).symm.trans hpk⟩
      · simpa using hwh hw
      · rw [hid, hev, attributed_free fun c hc => ⟨(hf c hc).1, (hf c hc).2.trans hid⟩]
        exact .press k hd'
    | suppressed _ _ hold => exact absurd (hold.trans (congrArg some hpk)) ho

theorem Tracked.fresh {k : Fin n}
    (hin : InOrder presses g (.packet now k payload)) (hne : g.press ≠ some k)
    (hnw : det.lastCompleted ≠ some (presses k).key)
    (hds : whole → det.current.map Current.eventId ≠ some (presses k).eventId) :
    ∃ rs', Tracked presses whole (g.next (.packet now k payload))
        (deliver presses clockRate det (.packet now k payload)).1 (ks ++ [k]) rs' ∧
      Reports presses rs (deliver presses clockRate det (.packet now k payload)).2 rs' := by
  obtain ⟨p, hp, hid, hed⟩ := hin.parsed
  obtain ⟨hcl, hdi, -, ho, -⟩ := hin
  have hca := DtmfDetector.process_cases hp
    (fun c hc => eventIdToDigit_isSome (h.valid hc)) now (presses k).timestamp clockRate
  have hlt := h.lt_new ho hne
  have hke : (p.eventId, (presses k).timestamp) = (presses k).key := Prod.ext hid rfl
  have hs := pairwise_concat h.sorted hlt
  have hla : some k = (ks ++ [k]).getLast? := by simp
  have hd : ∀ j ∈ ks ++ [k], (presses j).eventId ≤ 15 := by
    intro j hj
    obtain hj | hj := mem_append.mp hj
    · exact h.digits j hj
    · rw [mem_singleton.mp hj]
      exact hdi
  have hno : ∀ l : List (Fin n), (∀ j ∈ l, j ∈ ks) → k ∉ l :=
    fun l hl hkl => absurd (hlt k (hl k hkl)) (lt_irrefl k)
  -- a press that gives way is reported, and the new one is open
  have hg : ∀ c, det.current = some c → (c.Expired now ∨ c.eventId ≠ (presses k).key.1) →
      ∃ rs', Tracked presses whole (g.next (.packet now k payload))
          ⟨some ⟨p.eventId, p.volume, p.duration, (presses k).timestamp, now⟩,
            det.lastCompleted⟩ (ks ++ [k]) rs' ∧
        Reports presses rs
          ((c.report clockRate).map (·, det.attributed now (presses k).key)) rs' := by
    intro c hc hwa
    obtain ⟨j, hj, hjr, -, hr⟩ := h.reports_open clockRate hc
    have hk : ∀ m ∈ rs ++ [j], m ∈ ks := by
      intro m hm
      obtain hm | hm := mem_append.mp hm
      · exact h.known m hm
      · rw [mem_singleton.mp hm]
        exact h.mem_last hj
    rw [attributed_open hc hwa]
    refine ⟨rs ++ [j], ⟨hs, hla, hd, pairwise_concat h.reported (h.lt_open hj hjr),
      fun m hm => mem_append_left _ (hk m hm), by simp, fun c' hc' => ?_,
      fun key hco => ?_, fun hw => ?_⟩, hr⟩
    · cases some.inj hc'
      exact ⟨k, rfl, hke, rfl, hno _ hk, hnw⟩
    · obtain ⟨m, hm, hmk⟩ := h.completed key hco
      exact ⟨m, mem_append_left _ hm, hmk⟩
    have hks := h.whole hw
    simp only [hc, hj] at hks
    simp [hks, Progress.next]
  -- a press of the same digit is open only if not all are reported
  have hn : (∀ c, det.current = some c → ¬c.Expired now ∧ c.eventId = p.eventId) →
      whole → ks = rs := by
    intro hf hw
    have hcu : det.current = none := by
      cases hcu : det.current with
      | none => rfl
      | some c => grind
    simpa [hcu] using h.whole hw
  simp only [deliver]
  generalize det.process now payload (presses k).timestamp clockRate = result at hca
  cases hca with
  | timedOut hc he => exact hg _ hc (.inl he)
  | interrupted hc _ hot => exact hg _ hc (.inr fun heq => hot (heq.trans hid.symm))
  | opened hf =>
    refine ⟨rs, ⟨hs, hla, hd, h.reported,
      fun j hj => mem_append_left _ (h.known j hj), by simp, fun c' hc' => ?_, h.completed,
      fun hw => ?_⟩, .none⟩
    · cases some.inj hc'
      exact ⟨k, rfl, hke, rfl, hno _ h.known, hnw⟩
    · simp [hn hf hw, Progress.next]
  | completed hf hpe =>
    obtain ⟨event, hev, hdi'⟩ :=
      reportOf_ok clockRate hdi p.volume p.duration
    refine ⟨rs ++ [k], ⟨hs, hla, hd,
      pairwise_concat h.reported fun j hj => hlt j (h.known j hj), fun j hj => ?_,
      fun _ m hm => ?_, by simp, fun key hco => ?_, fun hw => ?_⟩, ?_⟩
    · grind [h.known]
    · cases some.inj hm
      exact .inl ⟨congrArg some hke, by simp [Progress.next, hed, hpe]⟩
    · exact ⟨k, by simp, (some.inj hco).symm.trans hke⟩
    · simp [hn hf hw]
    · rw [hid, hev, attributed_free fun c hc => ⟨(hf c hc).1, (hf c hc).2.trans hid⟩]
      exact .press k hdi'
  | suppressed _ _ hold => exact absurd (hold.trans (congrArg some hke)) hnw

theorem Tracked.check (hcl : g.clock ≤ now) : ∃ rs', Tracked presses whole (g.next (.check now))
        (deliver presses clockRate det (.check now)).1 ks rs' ∧
      Reports presses rs (deliver presses clockRate det (.check now)).2 rs' := by
  simp only [deliver]
  obtain ⟨c, hc, he, hch⟩ | ⟨-, hch⟩ := det.checkTimeout_cases now clockRate
  · obtain ⟨j, hj, hjr, -, hr⟩ := h.reports_open clockRate hc
    obtain ⟨m, hm, -, hs, -⟩ := h.opened c hc
    rw [hch, hc]
    refine ⟨rs ++ [j], ⟨h.sorted, h.last, h.digits,
      pairwise_concat h.reported (h.lt_open hj hjr), fun i hi => ?_, fun _ i hi => ?_, by simp,
      fun key hco => ?_, fun hw => ?_⟩, hr⟩
    · grind [h.known, h.mem_last]
    · rw [Current.Expired, hs] at he
      exact .inr he
    · obtain ⟨i, hi, hik⟩ := h.completed key hco
      exact ⟨i, mem_append_left _ hi, hik⟩
    · simpa [hc, hj] using h.whole hw
  · rw [hch]
    refine ⟨rs, ⟨h.sorted, h.last, h.digits, h.reported, h.known, fun hn k hk => ?_, h.opened,
      h.completed, h.whole⟩, .none⟩
    obtain hdo | hla := h.closed hn k hk
    · exact .inl hdo
    refine .inr ?_
    show dtmfTimeout < now - g.lastAt
    omega

theorem Tracked.step {x : Delivery n}
    (hin : InOrder presses g x)
    (hne : ∀ k, x.press? = some k → g.press ≠ some k → det.lastCompleted ≠ some (presses k).key)
    (hds : whole → Distinct presses g det x) :
    ∃ ks' rs', Tracked presses whole (g.next x) (deliver presses clockRate det x).1 ks' rs' ∧
      (∀ k, k ∈ ks' ↔ k ∈ ks ∨ x.press? = some k) ∧
      Reports presses rs (deliver presses clockRate det x).2 rs' := by
  cases x with
  | check now =>
    obtain ⟨rs', ht, hr⟩ := h.check clockRate hin
    exact ⟨ks, rs', ht, fun k => by simp [Delivery.press?], hr⟩
  | packet now k payload =>
    by_cases hk : g.press = some k
    · obtain ⟨rs', ht, hr⟩ := h.same clockRate hin hk
      refine ⟨ks, rs', ht, fun j => ⟨.inl, fun hj => ?_⟩, hr⟩
      obtain hj | hj := hj
      · exact hj
      · rw [← some.inj hj]
        exact h.mem_last hk
    obtain ⟨rs', ht, hr⟩ := h.fresh clockRate hin hk
      (hne k rfl hk) fun hw => (hds hw hk).1
    refine ⟨ks ++ [k], rs', ht, fun j => ?_, hr⟩
    rw [mem_append, mem_singleton, Delivery.press?, Option.some.injEq, eq_comm (a := k)]

end

end Step

/-! ## Whole runs -/

def reported (tr : List (Delivery n × Option (DtmfEvent × UInt8 × UInt32))) :
    List (DtmfEvent × UInt8 × UInt32) :=
  tr.filterMap Prod.snd

structure History (presses : Fin n → KeyPress) (whole : Prop)
    (tr : List (Delivery n × Option (DtmfEvent × UInt8 × UInt32))) (det : DtmfDetector)
    (ks rs : List (Fin n)) : Prop where
  tracked : Tracked presses whole (progress (tr.map Prod.fst)) det ks rs
  delivered : ∀ k, k ∈ ks ↔ ∃ x ∈ tr, x.1.press? = some k
  keys : (reported tr).map Prod.snd = rs.map fun j => (presses j).key
  digits : (reported tr).map (fun r => some r.1.digit) =
    rs.map fun j => eventIdToDigit (presses j).eventId

theorem history_start (whole : Prop) : History presses whole [] {} [] [] :=
  ⟨tracked_start whole, by simp, rfl, rfl⟩

theorem History.step {whole : Prop}
    {tr : List (Delivery n × Option (DtmfEvent × UInt8 × UInt32))} {det : DtmfDetector}
    {ks rs : List (Fin n)} (h : History presses whole tr det ks rs) {x : Delivery n}
    (hin : InOrder presses (progress (tr.map Prod.fst)) x)
    (hne : ∀ k, x.press? = some k → (progress (tr.map Prod.fst)).press ≠ some k →
      det.lastCompleted ≠ some (presses k).key)
    (hds : whole → Distinct presses (progress (tr.map Prod.fst)) det x) :
    ∃ ks' rs', History presses whole (tr ++ [(x, (deliver presses clockRate det x).2)])
      (deliver presses clockRate det x).1 ks' rs' := by
  obtain ⟨ks', rs', ht, hks, hr⟩ := h.tracked.step clockRate hin hne
    hds
  generalize ho : (deliver presses clockRate det x).2 = out at hr
  have hp : progress ((tr ++ [(x, out)]).map Prod.fst) = (progress (tr.map Prod.fst)).next x := by
    simp [progress]
  refine ⟨ks', rs', ⟨hp ▸ ht, fun k => ?_, ?_, ?_⟩⟩
  · rw [hks, h.delivered]
    simp only [mem_append, mem_singleton, or_and_right, exists_or, exists_eq_left]
  · cases hr with
    | none => simpa [reported] using h.keys
    | press j _ => simpa [reported] using h.keys
  cases hr with
  | none => simpa [reported] using h.digits
  | press j hd => simpa [reported, hd] using h.digits

theorem Tracked.check_closes {g : Progress n} {det : DtmfDetector} {ks rs : List (Fin n)}
    {whole : Prop} (h : Tracked presses whole g det ks rs) (hq : dtmfTimeout < now - g.lastAt) :
    (deliver presses clockRate det (.check now)).1.current = none := by
  simp only [deliver]
  obtain ⟨c, -, -, hch⟩ | ⟨hfr, hch⟩ := det.checkTimeout_cases now clockRate
  · rw [hch]
  rw [hch]
  cases hcu : det.current with
  | none => rfl
  | some c => grind [h.opened, Current.Expired]

theorem history_run (whole : Prop) {inputs : List (Delivery n)}
    (hin : Along (deliver presses clockRate)
      (fun tr _ x => InOrder presses (progress (tr.map Prod.fst)) x) {} inputs)
    (hne : ∀ tr det ks rs x, History presses whole tr det ks rs →
      InOrder presses (progress (tr.map Prod.fst)) x →
      (whole → Distinct presses (progress (tr.map Prod.fst)) det x) →
      ∀ k, x.press? = some k → (progress (tr.map Prod.fst)).press ≠ some k →
        det.lastCompleted ≠ some (presses k).key)
    (hds : Along (deliver presses clockRate)
      (fun tr det x => whole → Distinct presses (progress (tr.map Prod.fst)) det x) {} inputs) :
    ∃ ks rs, History presses whole (trace (deliver presses clockRate) {} inputs)
      (exec (deliver presses clockRate) {} inputs) ks rs := by
  apply along_induction (P := fun tr det => ∃ ks rs, History presses whole tr det ks rs)
    ⟨[], [], history_start whole⟩ _ (hin.and hds)
  rintro tr det x ⟨hx, hd⟩ ⟨ks, rs, h⟩
  exact h.step clockRate hx (hne tr det ks rs x h hx hd) hd

instance (presses : Fin n → KeyPress) (g : Progress n) :
    (x : Delivery n) → Decidable (InOrder presses g x)
  | .packet _ _ _ => inferInstanceAs (Decidable (_ ∧ _ ∧ _ ∧ _ ∧ _))
  | .check _ => inferInstanceAs (Decidable (_ ≤ _))

instance (presses : Fin n → KeyPress) (g : Progress n) (det : DtmfDetector) :
    (x : Delivery n) → Decidable (Distinct presses g det x)
  | .packet _ _ _ => inferInstanceAs (Decidable (_ → _))
  | .check _ => isTrue trivial

end Delivered

/-- Every press of which a packet comes in is reported exactly once and in order, if the
first packet of a press never finds a press of the same digit open and never repeats
the press that was completed last. -/
theorem presses_reported_once {n : Nat} (presses : Fin n → KeyPress) (clockRate : UInt32)
    (inputs : List (Delivery n)) (t : Nat)
    (hin : Along (deliver presses clockRate)
      (fun tr _ x => InOrder presses (progress (tr.map Prod.fst)) x) {} (inputs ++ [.check t]))
    (hquiet : dtmfTimeout < t - (progress inputs).lastAt)
    (hdistinct : Along (deliver presses clockRate)
      (fun tr det x => Distinct presses (progress (tr.map Prod.fst)) det x) {} inputs) :
    ∃ ks : List (Fin n), ks.Pairwise (· < ·) ∧
      (∀ k, k ∈ ks ↔ ∃ x ∈ inputs, x.press? = some k) ∧
      (reported (trace (deliver presses clockRate) {} (inputs ++ [.check t]))).map
          (fun r => some r.1.digit) =
        ks.map fun k => eventIdToDigit (presses k).eventId := by
  obtain ⟨hin', hlast⟩ := (along_append ({} : DtmfDetector) inputs [.check t]).mp hin
  obtain ⟨ks, rs, h⟩ := history_run clockRate True hin'
    (fun tr det ks rs x _ _ hd k hk hne => by
      cases x with
      | check now => simp [Delivery.press?] at hk
      | packet now j payload =>
        cases some.inj hk
        exact (hd trivial hne).2)
    (AlongFrom.imp (fun _ _ _ hd _ => hd) hdistinct)
  have hprogress : progress ((trace (deliver presses clockRate) {} inputs).map Prod.fst) =
      progress inputs := by
    rw [trace_inputs]
  obtain ⟨ks', rs', h'⟩ := h.step clockRate (x := .check t) hlast.1
    (fun k hk => by simp [Delivery.press?] at hk) fun _ => trivial
  have hclosed := h.tracked.check_closes clockRate (hprogress ▸ hquiet)
  have hall : ks' = rs' := by
    have hwhole := h'.tracked.whole trivial
    rwa [hclosed, isSome_none, if_neg Bool.false_ne_true, append_nil] at hwhole
  refine ⟨ks', h'.tracked.sorted, fun k => ?_, ?_⟩
  · rw [h'.delivered, ← exists_mem_trace (deliver presses clockRate) {} inputs]
    simp [Delivery.press?]
  rw [trace_append]
  rw [hall]
  exact h'.digits

def samplePacket {n : Nat} (presses : Fin n → KeyPress) (ms : Nat) (k : Fin n) (last : Bool) :
    Delivery n :=
  .packet (ms * 10 ^ 6) k (buildTelephoneEvent (presses k).eventId last 10 160)

def samplePresses (k : Fin 2) : KeyPress := if k = 0 then ⟨5, 1000⟩ else ⟨6, 2000⟩

def sampleRepeated (k : Fin 2) : KeyPress := if k = 0 then ⟨5, 1000⟩ else ⟨5, 2000⟩

def sampleLoss (presses : Fin 2 → KeyPress) : List (Delivery 2) :=
  [samplePacket presses 0 0 false, samplePacket presses 20 0 false,
    samplePacket presses 100 1 false, samplePacket presses 120 1 true]

theorem samplePresses_reported_once : (reported (trace (deliver samplePresses 8000) {}
      (sampleLoss samplePresses ++ [.check (10 ^ 10)]))).map (·.1.digit) = ['5', '6'] ∧
    ∃ ks : List (Fin 2), ks.Pairwise (· < ·) ∧
      (∀ k, k ∈ ks ↔ ∃ x ∈ sampleLoss samplePresses, x.press? = some k) ∧
      (reported (trace (deliver samplePresses 8000) {}
          (sampleLoss samplePresses ++ [.check (10 ^ 10)]))).map (fun r => some r.1.digit) =
        ks.map fun k => eventIdToDigit (samplePresses k).eventId :=
  ⟨by decide +kernel,
    presses_reported_once samplePresses 8000 _ _ (by decide +kernel) (by decide +kernel)
      (by decide +kernel)⟩

/-- The same losses with equal digits: the first press is never reported. -/
theorem repeated_press_lost : Along (deliver sampleRepeated 8000)
      (fun tr _ x => InOrder sampleRepeated (progress (tr.map Prod.fst)) x) {}
      (sampleLoss sampleRepeated ++ [.check (10 ^ 10)]) ∧
    (sampleLoss sampleRepeated).filterMap Delivery.press? = [0, 0, 1, 1] ∧
    (reported (trace (deliver sampleRepeated 8000) {}
      (sampleLoss sampleRepeated ++ [.check (10 ^ 10)]))).map (·.1.digit) = ['5'] := by
  decide +kernel

/-- No press is reported twice, if presses come one after the other, no packet without
the end bit follows one with it, and the packets of a press are at most three seconds
apart. -/
theorem presses_reported_at_most_once {n : Nat} (presses : Fin n → KeyPress)
    (clockRate : UInt32) (inputs : List (Delivery n))
    (htimestamps : Function.Injective fun k => (presses k).timestamp)
    (hin : Along (deliver presses clockRate)
      (fun tr _ x => InOrder presses (progress (tr.map Prod.fst)) x) {} inputs) :
    ((reported (trace (deliver presses clockRate) {} inputs)).map Prod.snd).Nodup := by
  have hkeys : ∀ j k, (presses j).key = (presses k).key → j = k :=
    fun j k hkey => htimestamps (congrArg Prod.snd hkey)
  obtain ⟨ks, rs, h⟩ := history_run clockRate False hin
    (fun tr det ks rs x h hx _ k hk hne hcompleted => by
      obtain ⟨j, hj, hkey⟩ := h.tracked.completed _ hcompleted
      cases hkeys _ _ hkey
      cases x with
      | check now => simp [Delivery.press?] at hk
      | packet now m payload =>
        cases some.inj hk
        exact absurd (h.tracked.lt_new hx.2.2.2.1 hne k (h.tracked.known k hj)) (lt_irrefl k))
    (AlongFrom.imp (fun _ _ _ _ hw => hw.elim) hin)
  rw [h.keys]
  have hnodup : rs.Nodup := h.tracked.reported.imp fun hlt => ne_of_lt hlt
  exact List.Nodup.map (fun j k hjk => hkeys j k hjk) hnodup

def sampleDuplicates : List (Delivery 2) :=
  [samplePacket samplePresses 0 0 false, samplePacket samplePresses 5 0 false,
    samplePacket samplePresses 20 0 true, samplePacket samplePresses 25 0 true,
    samplePacket samplePresses 100 1 true, samplePacket samplePresses 120 1 true,
    .check (10 ^ 10)]

theorem samplePresses_reported_at_most_once :
    (reported (trace (deliver samplePresses 8000) {} sampleDuplicates)).map Prod.snd =
      [(5, 1000), (6, 2000)] ∧
    ((reported (trace (deliver samplePresses 8000) {} sampleDuplicates)).map Prod.snd).Nodup :=
  ⟨by decide +kernel,
    presses_reported_at_most_once samplePresses 8000 _ (fun j k => by revert j k; decide +kernel)
      (by decide +kernel)⟩

/-- A packet overtaken by the end bit of its press opens the press again: it is
reported a second time. -/
theorem late_packet_reported_twice : (reported (trace (deliver samplePresses 8000) {}
      [samplePacket samplePresses 0 0 false, samplePacket samplePresses 40 0 true,
        samplePacket samplePresses 45 0 false, .check (10 ^ 10)])).map Prod.snd =
      [(5, 1000), (5, 1000)] := by
  decide +kernel

/-! ## One press with nothing lost -/

def detect (clockRate : UInt32) (det : DtmfDetector) (x : Nat × Bytes × UInt32) :
    DtmfDetector × Option DtmfEvent :=
  det.process x.1 x.2.1 x.2.2 clockRate

structure Awaiting (key : UInt8 × UInt32) (last : Nat) (det : DtmfDetector) : Prop where
  fresh : det.lastCompleted ≠ some key
  current : ∀ c, det.current = some c → c.key = key ∧ c.startedAt = last

def Done (key : UInt8 × UInt32) (det : DtmfDetector) : Prop :=
  det.current = none ∧ det.lastCompleted = some key

def ReportedBy (clockRate : UInt32) (id : UInt8) (payload : Bytes) (event : DtmfEvent) : Prop :=
  ∃ volume duration, TelephoneEvent.parse payload = some ⟨id, true, volume, duration⟩ ∧
    reportOf clockRate id volume duration = some event

section Whole

variable (clockRate : UInt32) {id : UInt8} {ts : UInt32} {det : DtmfDetector}
  {x : Nat × Bytes × UInt32}

/-- What a packet of an awaited press does: after a gap the press is reported and starts over,
and within one the end bit completes it. -/
inductive Heard (id : UInt8) (ts : UInt32) (last : Nat) (det : DtmfDetector)
    (x : Nat × Bytes × UInt32) : Bool → DtmfDetector × Option DtmfEvent → Prop where
  | late {endBit : Bool} {det' : DtmfDetector} {event : DtmfEvent}
      (hg : ¬ (det.current.isSome → x.1 - last ≤ dtmfTimeout)) (h : Awaiting (id, ts) x.1 det') :
      Heard id ts last det x endBit (det', some event)
  | opened {det' : DtmfDetector} (hg : det.current.isSome → x.1 - last ≤ dtmfTimeout)
      (hcu : det'.current.isSome) (h : Awaiting (id, ts) x.1 det') :
      Heard id ts last det x false (det', none)
  | completed {det' : DtmfDetector} {event : DtmfEvent}
      (hg : det.current.isSome → x.1 - last ≤ dtmfTimeout) (h : Done (id, ts) det')
      (hd : eventIdToDigit id = some event.digit) (hr : ReportedBy clockRate id x.2.1 event) :
      Heard id ts last det x true (det', some event)

theorem Awaiting.heard {last : Nat} {endBit : Bool} (h : Awaiting (id, ts) last det)
    (hid : id ≤ 15) (hx : DtmfGenerator.Carries id endBit x.2.1 ∧ x.2.2 = ts) :
    Heard clockRate id ts last det x endBit (detect clockRate det x) := by
  obtain ⟨⟨volume, duration, hp⟩, hts⟩ := hx
  have how : ∀ c, det.current = some c → c.eventId = id :=
    fun c hc => congrArg Prod.fst (h.current c hc).1
  have hg : (∀ c, det.current = some c → ¬c.Expired x.1 ∧ c.eventId = id) →
      det.current.isSome → x.1 - last ≤ dtmfTimeout := by
    intro hf hs
    obtain ⟨c, hc⟩ := isSome_iff_exists.mp hs
    have hfr := (hf c hc).1
    rw [Current.Expired, (h.current c hc).2] at hfr
    omega
  have hnew : ∀ c : Current, c.key = (id, ts) → c.startedAt = x.1 →
      Awaiting (id, ts) x.1 { det with current := some c } := fun c hk hs =>
    ⟨h.fresh, fun c' hc' => by rw [← some.inj hc']; exact ⟨hk, hs⟩⟩
  have hca := DtmfDetector.process_cases hp
    (fun c hc => by rw [how c hc]; exact eventIdToDigit_isSome hid) x.1 ts clockRate
  rw [detect, hts]
  generalize det.process x.1 x.2.1 ts clockRate = result at hca
  cases hca with
  | @timedOut c hc he =>
    obtain ⟨event, hev, -⟩ := reportOf_ok clockRate hid c.volume c.duration
    rw [Current.report, how c hc, hev]
    rw [Current.Expired, (h.current c hc).2] at he
    exact .late (fun hle => Nat.not_le.mpr he (hle (by rw [hc]; rfl))) (hnew _ rfl rfl)
  | interrupted hc _ hot => exact absurd (how _ hc) hot
  | opened hf hed =>
    cases hed
    exact .opened (hg hf) rfl (hnew _ rfl rfl)
  | completed hf hed =>
    obtain ⟨event, he, hd⟩ := reportOf_ok clockRate hid volume duration
    cases hed
    rw [he]
    exact .completed (hg hf) ⟨rfl, rfl⟩ hd ⟨volume, duration, hp, he⟩
  | suppressed _ _ hold => exact absurd hold h.fresh

theorem Done.processed (h : Done (id, ts) det)
    (hx : DtmfGenerator.Carries id true x.2.1 ∧ x.2.2 = ts) :
    (detect clockRate det x).2 = none ∧ Done (id, ts) (detect clockRate det x).1 := by
  obtain ⟨⟨volume, duration, hp⟩, hts⟩ := hx
  have hn : ∀ c, det.current ≠ some c := by simp [h.1]
  have hca := DtmfDetector.process_cases hp (fun c hc => absurd hc (hn c)) x.1 ts
    clockRate
  rw [detect, hts]
  generalize det.process x.1 x.2.1 ts clockRate = result at hca
  cases hca with
  | timedOut hc => exact absurd hc (hn _)
  | interrupted hc => exact absurd hc (hn _)
  | opened _ hed => cases hed
  | completed _ _ hne => exact absurd h.2 hne
  | suppressed => exact ⟨rfl, rfl, h.2⟩

theorem Done.silent {closing : List (Nat × Bytes × UInt32)} :
    ∀ {det : DtmfDetector}, Done (id, ts) det →
      (∀ x ∈ closing, DtmfGenerator.Carries id true x.2.1 ∧ x.2.2 = ts) →
      (trace (detect clockRate) det closing).filterMap Prod.snd = [] := by
  induction closing with
  | nil => exact fun _ _ => rfl
  | cons x rest ih =>
    intro det h hc
    obtain ⟨hn, hdo⟩ := h.processed clockRate (hc x (mem_cons_self ..))
    simp only [trace_cons, hn]
    exact ih hdo fun y hy => hc y (mem_cons_of_mem _ hy)

section Run

variable {opening closing : List (Nat × Bytes × UInt32)} {last : Nat} (hid : id ≤ 15)
  (hc : ∀ x ∈ closing, DtmfGenerator.Carries id true x.2.1 ∧ x.2.2 = ts) (hs : closing ≠ [])
  (ho : ∀ x ∈ opening, DtmfGenerator.Carries id false x.2.1 ∧ x.2.2 = ts)
include hid hc hs ho

theorem Awaiting.one_report (h : Awaiting (id, ts) last det)
    (hg : (last :: (opening ++ closing.take 1).map Prod.fst).IsChain
      fun a b => b - a ≤ dtmfTimeout) :
    ∃ event, (trace (detect clockRate) det (opening ++ closing)).filterMap Prod.snd =
        [event] ∧ eventIdToDigit id = some event.digit ∧
      ∃ x ∈ closing, ReportedBy clockRate id x.2.1 event := by
  induction opening generalizing last det with
  | nil =>
    obtain ⟨x, rest, rfl⟩ := exists_cons_of_ne_nil hs
    have hx := h.heard clockRate hid (hc x mem_cons_self)
    rw [nil_append, trace_cons]
    generalize detect clockRate det x = result at hx
    cases hx with
    | late hl => exact absurd (fun _ => (isChain_cons_cons.mp hg).1) hl
    | @completed _ event _ hdo hd hr =>
      have hre := hdo.silent clockRate fun y hy => hc y (mem_cons_of_mem _ hy)
      exact ⟨event, by rw [filterMap_cons, hre], hd, x, mem_cons_self, hr⟩
  | cons x rest ih =>
    obtain ⟨hga, hg'⟩ := isChain_cons_cons.mp hg
    have hx := h.heard clockRate hid (ho x mem_cons_self)
    rw [cons_append, trace_cons]
    generalize detect clockRate det x = result at hx
    cases hx with
    | late hl => exact absurd (fun _ => hga) hl
    | opened _ _ hne => exact ih (fun y hy => ho y (mem_cons_of_mem _ hy)) hne hg'

theorem Awaiting.reports (h : Awaiting (id, ts) last det) :
    1 ≤ ((trace (detect clockRate) det (opening ++ closing)).filterMap Prod.snd).length := by
  induction opening generalizing last det with
  | nil =>
    obtain ⟨x, rest, rfl⟩ := exists_cons_of_ne_nil hs
    have hx := h.heard clockRate hid (hc x mem_cons_self)
    rw [nil_append, trace_cons]
    generalize detect clockRate det x = result at hx
    cases hx <;> exact Nat.le_add_left 1 _
  | cons x rest ih =>
    have hx := h.heard clockRate hid (ho x mem_cons_self)
    have horest := fun y hy => ho y (mem_cons_of_mem x hy)
    rw [cons_append, trace_cons]
    generalize detect clockRate det x = result at hx
    cases hx with
    | late => exact Nat.le_add_left 1 _
    | opened _ _ hne => exact ih horest hne

/-- A gap before the end is reported beside the press itself. -/
theorem Awaiting.late_reports (hlen : 2 ≤ closing.length) (h : Awaiting (id, ts) last det)
    (hg : ¬ (last :: (opening ++ closing.take 1).map Prod.fst).IsChain
      fun a b => b - a ≤ dtmfTimeout)
    (hcu : det.current.isSome) :
    2 ≤ ((trace (detect clockRate) det (opening ++ closing)).filterMap Prod.snd).length := by
  induction opening generalizing last det with
  | nil =>
    obtain ⟨x, rest, rfl⟩ := exists_cons_of_ne_nil hs
    have hx := h.heard clockRate hid (hc x mem_cons_self)
    rw [nil_append, trace_cons]
    generalize detect clockRate det x = result at hx
    cases hx with
    | late _ hnext =>
      have hre := hnext.reports clockRate hid (fun y hy => hc y (mem_cons_of_mem _ hy))
        (by rintro rfl; simp at hlen) (forall_mem_nil _)
      exact Nat.succ_le_succ hre
    | completed hle =>
      exact (hg (isChain_cons_cons.mpr ⟨hle hcu, .singleton _⟩)).elim
  | cons x rest ih =>
    have hx := h.heard clockRate hid (ho x mem_cons_self)
    have horest := fun y hy => ho y (mem_cons_of_mem x hy)
    rw [cons_append, trace_cons]
    generalize detect clockRate det x = result at hx
    cases hx with
    | late _ hnext => exact Nat.succ_le_succ (hnext.reports clockRate hid hc hs horest)
    | opened hle hcu' hne =>
      exact ih horest hne (fun hch => hg (isChain_cons_cons.mpr ⟨hle hcu, hch⟩)) hcu'

theorem reports_twice (hlen : 2 ≤ closing.length)
    (hg : ¬ ((opening ++ closing.take 1).map Prod.fst).IsChain fun a b => b - a ≤ dtmfTimeout) :
    2 ≤ ((trace (detect clockRate) {} (opening ++ closing)).filterMap Prod.snd).length := by
  cases opening with
  | nil =>
    obtain ⟨x, rest, rfl⟩ := exists_cons_of_ne_nil hs
    exact absurd (.singleton _) hg
  | cons x rest =>
    have h : Awaiting (id, ts) x.1 {} := ⟨by simp, by simp⟩
    have hx := h.heard clockRate hid (ho x mem_cons_self)
    rw [cons_append, trace_cons]
    generalize detect clockRate {} x = result at hx
    cases hx with
    | late hl => exact absurd (fun hcu => by cases hcu) hl
    | opened _ hcu hne =>
      exact hne.late_reports clockRate hid hc hs (fun y hy => ho y (mem_cons_of_mem x hy)) hlen hg
        hcu

end Run

end Whole

end RtpBridge.Dtmf
