/-
The capacity of a session.
-/
import RtpBridge.Session.Lifecycle

namespace RtpBridge.Session

namespace SessionState

variable {st : SessionState} {id j : EndpointId} {ep : Endpoint}

def occupied (st : SessionState) : Finset EndpointId :=
  st.endpoints.keys.toFinset ∪ st.reservedTransfers

def away (st : SessionState) : Finset EndpointId :=
  st.reservedTransfers.filter fun id => id ∉ st.endpoints

theorem mem_occupied : j ∈ st.occupied ↔ j ∈ st.endpoints ∨ j ∈ st.reservedTransfers := by
  unfold occupied
  rw [Finset.mem_union, List.mem_toFinset]
  rfl

section

variable (st : SessionState)

theorem card_occupied : st.occupied.card = HashMap.size st.endpoints + st.away.card := by
  have ha : st.away = st.reservedTransfers \ st.endpoints.keys.toFinset := by
    ext j
    unfold away
    rw [Finset.mem_filter, Finset.mem_sdiff, List.mem_toFinset]
    rfl
  have hs : st.endpoints.keys.toFinset.card = HashMap.size st.endpoints :=
    List.toFinset_card_of_nodup st.endpoints.keys_nodup
  rw [ha, occupied, Finset.union_comm, ← Finset.card_sdiff_add_card, hs, Nat.add_comm]

theorem card_occupied_le :
    st.occupied.card ≤ HashMap.size st.endpoints + st.reservedTransfers.card := by
  rw [card_occupied]
  exact Nat.add_le_add_left (Finset.card_filter_le _ _) _

theorem occupied_put (ep : Endpoint) : (st.put ep).occupied = insert ep.id st.occupied := by
  ext j
  rw [Finset.mem_insert, mem_occupied, mem_occupied, ← or_assoc]
  exact or_congr_left (AList.mem_insert st.endpoints)

theorem occupied_erase (id : EndpointId) : (st.erase id).occupied ⊆ st.occupied := by
  intro j hj
  rw [mem_occupied] at hj ⊢
  exact hj.imp_left fun h => (AList.mem_erase.mp h).2

theorem occupied_unreserve (id : EndpointId) : (st.unreserve id).occupied ⊆ st.occupied := by
  intro j hj
  rw [mem_occupied] at hj ⊢
  exact hj.imp_right Finset.mem_of_mem_erase

theorem occupied_clear : st.clear.occupied ⊆ st.occupied := by
  intro j hj
  rw [mem_occupied] at hj ⊢
  exact hj.imp_left fun h => absurd h (AList.notMem_empty j)

end

theorem occupied_extract (h : id ∈ st.endpoints) :
    ((st.reserve id).erase id).occupied ⊆ st.occupied := by
  intro j hj
  rcases mem_occupied.mp (occupied_erase _ _ hj) with hm | hm
  · exact mem_occupied.mpr (.inl hm)
  rcases Finset.mem_insert.mp hm with rfl | hm
  · exact mem_occupied.mpr (.inl h)
  · exact mem_occupied.mpr (.inr hm)

def HasRoom (st : SessionState) (id : EndpointId) : Prop := ¬st.Full ∨ id ∈ st.occupied

theorem HasRoom.put (hr : st.HasRoom ep.id) (hm : 0 < st.maxEndpoints)
    (h : st.occupied.card ≤ st.maxEndpoints) : (st.put ep).occupied.card ≤ st.maxEndpoints := by
  rw [occupied_put]
  rcases hr with hn | hme
  · have hl : HashMap.size st.endpoints + st.reservedTransfers.card < st.maxEndpoints :=
      Nat.lt_of_not_le fun hle => hn ⟨hm, hle⟩
    have hc := Finset.card_insert_le ep.id st.occupied
    have hle := st.card_occupied_le
    omega
  · rwa [Finset.insert_eq_of_mem hme]

end SessionState

/-! ## What an event does to the table and the slots -/

abbrev Slots := List (EndpointId × TransferState)

theorem slot_set {slots : Slots} {i j : Nat} {x y : EndpointId × TransferState}
    (h : (slots.set i x)[j]? = some y) : j = i ∧ y = x ∨ j ≠ i ∧ slots[j]? = some y := by grind

def TransferState.Follows (slot slot' : TransferState) : Prop :=
  (slot'.reserved = true → slot.reserved = true) ∧
    ∀ bundle, slot'.bundle = some bundle → slot.bundle = some bundle

theorem TransferState.Follows.refl (slot : TransferState) : slot.Follows slot :=
  ⟨fun h => h, fun _ h => h⟩

variable {slot' : TransferState}

theorem TransferState.Follows.release {slot : TransferState} (hd : slot'.reserved = false)
    (hb : slot'.bundle = slot.bundle ∨ slot'.bundle = none) : slot.Follows slot' := by
  refine ⟨fun h => (Bool.false_ne_true (hd.symm.trans h)).elim, fun bundle h => ?_⟩
  grind

inductive Change (st : SessionState) (slots : Slots) : SessionState → Slots → Prop
  | none : Change st slots st slots
  | entered (ep : Endpoint) (hro : st.HasRoom ep.id) : Change st slots (st.put ep) slots
  | left (id : EndpointId) : Change st slots (st.erase id) slots
  | cleared : Change st slots st.clear slots
  | opened (id : EndpointId) : Change st slots st (slots ++ [(id, ({} : TransferState))])
  | marked (i : Nat) (id : EndpointId) (slot slot' : TransferState)
      (hs : slots[i]? = some (id, slot)) (hf : slot.Follows slot') :
      Change st slots st (slots.set i (id, slot'))
  | prepared (i : Nat) (id : EndpointId) (slot : TransferState) (ep : Endpoint)
      (hs : slots[i]? = some (id, slot)) (hfr : id ∉ st.reservedTransfers)
      (hfi : st.find id = some ep) :
      Change st slots ((st.reserve id).erase id)
        (slots.set i (id, { slot with reserved := true, bundle := some ⟨ep, st.sessionId⟩ }))
  | closed (i : Nat) (id : EndpointId) (slot slot' : TransferState)
      (hs : slots[i]? = some (id, slot)) (hr : slot.reserved = true)
      (hf : slot.Follows slot') (hd : slot'.reserved = false) :
      Change st slots (st.unreserve id) (slots.set i (id, slot'))
  | restored (i : Nat) (id : EndpointId) (slot slot' : TransferState) (ep : Endpoint)
      (hs : slots[i]? = some (id, slot)) (hr : slot.reserved = true)
      (hro : st.HasRoom ep.id) (hf : slot.Follows slot')
      (hd : slot'.reserved = false) :
      Change st slots ((st.put ep).unreserve id) (slots.set i (id, slot'))

namespace SessionState

variable {st : SessionState}

theorem handleInsertEndpoint_room (st : SessionState) (bundle : EndpointTransferBundle) :
    (∃ e, st.handleInsertEndpoint bundle = (st, .error e)) ∨
      bundle.endpoint.id ∉ st.endpoints ∧ st.HasRoom bundle.endpoint.id ∧
        st.handleInsertEndpoint bundle = (st.put bundle.endpoint, .ok ()) := by
  unfold handleInsertEndpoint
  split
  · exact .inl ⟨_, rfl⟩
  rename_i hr
  split
  · exact .inl ⟨_, rfl⟩
  rename_i hn
  refine .inr ⟨hn, ?_, rfl⟩
  by_cases hm : bundle.endpoint.id ∈ st.reservedTransfers
  · exact .inr (mem_occupied.mpr (.inr hm))
  · exact .inl fun hf => hr ⟨hm, hf⟩

section

variable (st : SessionState) (slot : TransferState) (id : EndpointId)

theorem prepareTransfer_cases :
    (∃ slot' e, slot.Follows slot' ∧ st.prepareTransfer slot id = (st, slot', .error e)) ∨
      ∃ ep, id ∉ st.reservedTransfers ∧ st.find id = some ep ∧
        st.prepareTransfer slot id = ((st.reserve id).erase id,
          { slot with reserved := true, bundle := some ⟨ep, st.sessionId⟩ }, .ok ()) := by
  unfold prepareTransfer
  split
  · exact .inl ⟨slot, _, .refl slot, rfl⟩
  split
  · exact .inl ⟨slot, _, .refl slot, rfl⟩
  rename_i hp
  rcases (st.reserve id).handleExtractEndpoint_cases id with ⟨e, h⟩ | ⟨ep, hfi, h⟩
  · refine .inl ⟨{ slot with reserved := false }, e, .release rfl (.inl rfl), ?_⟩
    rw [h]
    dsimp only
    rw [unreserve_reserve hp]
  refine .inr ⟨ep, hp, hfi, ?_⟩
  rw [h]
  rfl

theorem finishTransfer_cases : st.finishTransfer slot id = (st, slot, false) ∨
      slot.reserved = true ∧ ∃ slot', slot.Follows slot' ∧ slot'.reserved = false ∧
        (st.finishTransfer slot id = (st.unreserve id, slot', false) ∨
          ∃ ep, ep.id ∉ st.endpoints ∧ st.HasRoom ep.id ∧
            st.finishTransfer slot id = ((st.put ep).unreserve id, slot', true)) := by
  unfold finishTransfer
  split
  · exact .inl rfl
  rename_i hr
  refine .inr ⟨by simpa using hr, ?_⟩
  split
  · exact ⟨{ slot with reserved := false }, .release rfl (.inl rfl), rfl, .inl rfl⟩
  split
  · exact ⟨{ slot with reserved := false }, .release rfl (.inl rfl), rfl, .inl rfl⟩
  rename_i bundle hb
  refine ⟨{ slot with reserved := false, bundle := none }, .release rfl (.inr rfl), rfl, ?_⟩
  rcases st.handleInsertEndpoint_room bundle with ⟨e, h⟩ | ⟨hn, hro, h⟩
  · rw [h]
    exact .inl rfl
  · rw [h]
    exact .inr ⟨bundle.endpoint, hn, hro, rfl⟩

end

end SessionState

namespace MediaSession

variable {m : MediaSession}

section

variable (m : MediaSession)

theorem create_change (refusal : String) (made : Except String Endpoint) :
    Change m.state m.slots (m.create refusal made).1.state (m.create refusal made).1.slots := by
  unfold create
  split
  · exact .none
  rename_i hf
  cases made with
  | error e => exact .none
  | ok ep => exact .entered ep (.inl hf)

theorem createWithFile_change (isUrl : Bool) (id : EndpointId) (started : Except String Unit) :
    Change m.state m.slots (m.createWithFile isUrl id started).1.state
      (m.createWithFile isUrl id started).1.slots := by
  unfold createWithFile
  split
  · split
    · exact .none
    rename_i hf
    cases started with
    | error e => exact .none
    | ok => exact .entered (.file id) (.inl hf)
  · exact m.create_change _ _

theorem handleFileInitialized_change (id : EndpointId)
    (result : Except String Unit) (replyClosed : Bool) :
    Change m.state m.slots (m.handleFileInitialized id result replyClosed).state
      (m.handleFileInitialized id result replyClosed).slots := by
  unfold handleFileInitialized
  split
  · split
    · rename_i hm
      exact .entered (.file id) (.inr (SessionState.mem_occupied.mpr (.inl hm)))
    · exact .none
  split
  · exact .left id
  · exact .none

theorem handleFileReady_change (id : EndpointId) (result : Except String Unit) (queueFree : Bool) :
    Change m.state m.slots (m.handleFileReady id result queueFree).state
      (m.handleFileReady id result queueFree).slots := by
  unfold handleFileReady
  split
  · exact m.handleFileInitialized_change _ _ _
  split
  · split
    · exact .none
    · exact m.handleFileInitialized_change _ _ _
  · exact .none

theorem handleRemoveEndpoint_change (id : EndpointId) :
    Change m.state m.slots (m.handleRemoveEndpoint id).1.state
      (m.handleRemoveEndpoint id).1.slots := by
  unfold handleRemoveEndpoint SessionState.handleRemoveEndpoint
  cases m.state.find id with
  | none => exact .none
  | some ep => cases ep <;> exact .left id

theorem insertBridgeEndpoint_change (bridge : BridgeEndpoint) :
    Change m.state m.slots (m.insertBridgeEndpoint bridge).1.state
      (m.insertBridgeEndpoint bridge).1.slots := by
  unfold insertBridgeEndpoint SessionState.handleInsertBridgeEndpoint
  by_cases hf : m.state.Full
  · rw [if_pos hf]
    exact .none
  · rw [if_neg hf]
    exact .entered (.bridge bridge) (.inl hf)

theorem commitTransfer_change (slot : TransferState) :
    Change m.state m.slots (m.commitTransfer slot).1.state (m.commitTransfer slot).1.slots := by
  unfold commitTransfer SessionState.commitTransfer
  by_cases hc : slot.cancelled = true
  · rw [if_pos hc]
    exact .none
  rw [if_neg hc]
  cases slot.bundle with
  | none => exact .none
  | some bundle =>
    rcases m.state.handleInsertEndpoint_room bundle with ⟨e, h⟩ | ⟨-, hr, h⟩
    · simp only [h]
      exact .none
    · simp only [h]
      exact .entered bundle.endpoint hr

theorem prepareTransfer_change (i : Nat) :
    Change m.state m.slots (m.prepareTransfer i).1.state (m.prepareTransfer i).1.slots := by
  unfold prepareTransfer
  cases hs : m.slots[i]? with
  | none => exact .none
  | some entry =>
    obtain ⟨id, slot⟩ := entry
    dsimp only
    rcases m.state.prepareTransfer_cases slot id with
      ⟨slot', e, hf, h⟩ | ⟨ep, hfr, hfi, h⟩
    · rw [h]
      exact .marked i id slot slot' hs hf
    · rw [h]
      exact .prepared i id slot ep hs hfr hfi

theorem finishTransfer_change (i : Nat) :
    Change m.state m.slots (m.finishTransfer i).state (m.finishTransfer i).slots := by
  unfold finishTransfer
  cases hs : m.slots[i]? with
  | none => exact .none
  | some entry =>
    obtain ⟨id, slot⟩ := entry
    dsimp only
    rcases m.state.finishTransfer_cases slot id with
      h | ⟨hr, slot', hf, hd, h | ⟨ep, -, hro, h⟩⟩
    · rw [h]
      exact .marked i id slot slot hs (.refl slot)
    · rw [h]
      exact .closed i id slot slot' hs hr hf hd
    · rw [h]
      exact .restored i id slot slot' ep hs hr hro hf hd

theorem transferCancelled_change (i : Nat) :
    Change m.state m.slots (m.transferCancelled i).state (m.transferCancelled i).slots := by
  unfold transferCancelled
  cases hs : m.slots[i]? with
  | none => exact .none
  | some entry =>
    obtain ⟨id, slot⟩ := entry
    exact .marked i id slot _ hs ⟨fun h => h, fun _ h => h⟩

theorem transferCommitted_change (i : Nat) :
    Change m.state m.slots (m.transferCommitted i).state (m.transferCommitted i).slots := by
  unfold transferCommitted
  cases hs : m.slots[i]? with
  | none => exact .none
  | some entry =>
    obtain ⟨id, slot⟩ := entry
    dsimp only
    split
    · exact .none
    · exact .marked i id slot _ hs
        ⟨fun h => h, fun _ h => (Option.some_ne_none _ h.symm).elim⟩

theorem handleCommand_change (c : SessionCommand) :
    Change m.state m.slots (m.handleCommand c).1.state (m.handleCommand c).1.slots := by
  cases c with
  | createFromOffer selected made =>
    cases selected with
    | error e => exact .none
    | ok => exact m.create_change _ _
  | createOffer plan made =>
    cases plan with
    | error e => exact .none
    | ok => exact m.create_change _ _
  | createWithFile isUrl id started => exact m.createWithFile_change isUrl id started
  | createWithTone id => exact m.create_change _ _
  | createWebSocket id => exact m.create_change _ _
  | fileReady id result queueFree => exact m.handleFileReady_change id result queueFree
  | fileInitialized id result replyClosed =>
    exact m.handleFileInitialized_change id result replyClosed
  | removeEndpoint id => exact m.handleRemoveEndpoint_change id
  | insertBridgeEndpoint bridge => exact m.insertBridgeEndpoint_change bridge
  | prepareTransfer i => exact m.prepareTransfer_change i
  | commitTransfer slot => exact m.commitTransfer_change slot
  | finishTransfer i => exact m.finishTransfer_change i
  | destroy => exact .cleared
  | other => exact .none

end

/-! ## The invariant -/

structure Kept (maxEndpoints : Nat) (st : SessionState) (slots : Slots) : Prop where
  max : st.maxEndpoints = maxEndpoints
  room : st.occupied.card ≤ maxEndpoints
  held : ∀ (i : Nat) (id : EndpointId) (slot : TransferState), slots[i]? = some (id, slot) →
    slot.reserved = true → id ∈ st.reservedTransfers
  own : ∀ (i : Nat) (id : EndpointId) (slot : TransferState) (bundle : EndpointTransferBundle),
    slots[i]? = some (id, slot) → slot.bundle = some bundle → bundle.endpoint.id = id
  single : ∀ (i j : Nat) (id : EndpointId) (slot slot' : TransferState),
    slots[i]? = some (id, slot) → slots[j]? = some (id, slot') →
      slot.reserved = true → slot'.reserved = true → i = j

variable {maxEndpoints : Nat} {st st' : SessionState} {slots slots' : Slots}

theorem Kept.of_state (h : Kept maxEndpoints st slots) (hm : st'.maxEndpoints = st.maxEndpoints)
    (hro : st'.occupied.card ≤ maxEndpoints)
    (hr : st'.reservedTransfers = st.reservedTransfers) : Kept maxEndpoints st' slots where
  __ := h
  max := hm.trans h.max
  room := hro
  held := by
    rw [hr]
    exact h.held

variable {i : Nat} {id : EndpointId} {slot : TransferState} {m : MediaSession}

section

variable (h : Kept maxEndpoints st slots)
include h

theorem Kept.marked (hs : slots[i]? = some (id, slot)) (hf : slot.Follows slot') :
    Kept maxEndpoints st (slots.set i (id, slot')) where
  __ := h
  held := by
    intro j jd t hj hr
    rcases slot_set hj with ⟨rfl, heq⟩ | ⟨-, hj⟩
    · cases heq
      exact h.held _ _ _ hs (hf.1 hr)
    · exact h.held j jd t hj hr
  own := by
    intro j jd t bundle hj hb
    rcases slot_set hj with ⟨rfl, heq⟩ | ⟨-, hj⟩
    · cases heq
      exact h.own _ _ _ bundle hs (hf.2 bundle hb)
    · exact h.own j jd t bundle hj hb
  single := by
    intro j k jd t t' hj hk hr hr'
    rcases slot_set hj with ⟨rfl, heq⟩ | ⟨-, hj'⟩
    · cases heq
      rcases slot_set hk with ⟨rfl, -⟩ | ⟨-, hk'⟩
      · rfl
      · exact h.single _ k _ _ _ hs hk' (hf.1 hr) hr'
    rcases slot_set hk with ⟨rfl, heq⟩ | ⟨-, hk'⟩
    · cases heq
      exact h.single j _ _ _ _ hj' hs hr (hf.1 hr')
    · exact h.single j k jd t t' hj' hk' hr hr'

theorem Kept.opened (id : EndpointId) :
    Kept maxEndpoints st (slots ++ [(id, ({} : TransferState))]) := by
  -- a slot that is not empty was there before
  have hold : ∀ (i : Nat) (jd : EndpointId) (slot : TransferState),
      (slots ++ [(id, ({} : TransferState))])[i]? = some (jd, slot) →
        slots[i]? = some (jd, slot) ∨ slot = {} := by
    intro i jd slot hi
    rcases Nat.lt_or_ge i slots.length with hlt | hge
    · exact .inl ((List.getElem?_append_left hlt).symm.trans hi)
    · grind
  have hr : ∀ (i : Nat) (jd : EndpointId) (slot : TransferState),
      (slots ++ [(id, ({} : TransferState))])[i]? = some (jd, slot) → slot.reserved = true →
        slots[i]? = some (jd, slot) := by
    intro i jd slot hi hre
    refine (hold i jd slot hi).resolve_right fun heq => ?_
    rw [heq] at hre
    exact Bool.false_ne_true hre
  refine ⟨h.max, h.room, ?_, ?_, ?_⟩
  · intro i jd slot hi hre
    exact h.held i jd slot (hr i jd slot hi hre) hre
  · intro i jd slot bundle hi hb
    rcases hold i jd slot hi with hi | rfl
    · exact h.own i jd slot bundle hi hb
    · exact (Option.some_ne_none bundle hb.symm).elim
  · grind [h.single]

theorem Kept.prepared {ep : Endpoint}
    (hfr : id ∉ st.reservedTransfers) (hfi : st.find id = some ep) :
    Kept maxEndpoints ((st.reserve id).erase id)
      (slots.set i (id, { slot with reserved := true, bundle := some ⟨ep, st.sessionId⟩ })) where
  max := h.max
  room := by
    have hm : id ∈ st.endpoints := AList.lookup_isSome.mp (Option.isSome_of_mem hfi)
    exact (Finset.card_le_card (SessionState.occupied_extract hm)).trans h.room
  held := by
    intro j jd t hj hr
    rcases slot_set hj with ⟨rfl, heq⟩ | ⟨-, hj'⟩
    · cases heq
      exact Finset.mem_insert_self _ _
    · exact Finset.mem_insert_of_mem (h.held j jd t hj' hr)
  own := by grind [SessionState.id_of_find, h.own]
  single := by
    -- before this no slot was reserved for the id
    intro j k jd t t' hj hk hr hr'
    rcases slot_set hj with ⟨rfl, heq⟩ | ⟨-, hj'⟩
    · grind [h.held]
    · grind [h.held, h.single]

theorem Kept.closed (hs : slots[i]? = some (id, slot)) (hr : slot.reserved = true)
    (hf : slot.Follows slot') (hd : slot'.reserved = false) :
    Kept maxEndpoints (st.unreserve id) (slots.set i (id, slot')) := by
  have hm := h.marked hs hf
  refine ⟨h.max, ?_, ?_, hm.own, hm.single⟩
  · exact (Finset.card_le_card (st.occupied_unreserve id)).trans h.room
  -- no other slot is reserved for the id that is given back
  intro j jd t hj hre
  rcases slot_set hj with ⟨rfl, heq⟩ | ⟨hne, hj'⟩
  · cases heq
    rw [hd] at hre
    exact (Bool.false_ne_true hre).elim
  refine Finset.mem_erase_of_ne_of_mem ?_ (h.held j jd t hj' hre)
  rintro rfl
  exact hne (h.single j i _ _ _ hj' hs hre hr)

theorem Kept.entered (hm : 0 < maxEndpoints) {ep : Endpoint}
    (hr : st.HasRoom ep.id) : Kept maxEndpoints (st.put ep) slots := by
  have hc := h.room
  rw [← h.max] at hm hc
  have hp := hr.put hm hc
  rw [h.max] at hp
  exact h.of_state rfl hp rfl

theorem Kept.change (hm : 0 < maxEndpoints)
    (hc : Change st slots st' slots') : Kept maxEndpoints st' slots' := by
  cases hc with
  | none => exact h
  | entered ep hro => exact h.entered hm hro
  | left id =>
    exact h.of_state rfl ((Finset.card_le_card (st.occupied_erase id)).trans h.room) rfl
  | cleared => exact h.of_state rfl ((Finset.card_le_card st.occupied_clear).trans h.room) rfl
  | opened id => exact h.opened id
  | marked i id slot slot' hs hf => exact h.marked hs hf
  | prepared i id slot ep hs hfr hfi => exact h.prepared hfr hfi
  | closed i id slot slot' hs hr hf hd =>
    exact h.closed hs hr hf hd
  | restored i id slot slot' ep hs hr hro hf hd =>
    exact (h.entered hm hro).closed hs hr hf hd

end

theorem kept_removeAll (hm : 0 < maxEndpoints) (ids : List EndpointId)
    (h : Kept maxEndpoints m.state m.slots) :
    Kept maxEndpoints (m.removeAll ids).state (m.removeAll ids).slots := by
  induction ids generalizing m with
  | nil => exact h
  | cons id rest ih => exact ih (h.change hm (m.handleRemoveEndpoint_change id))

theorem kept_call (hm : 0 < maxEndpoints) (h : Kept maxEndpoints m.state m.slots)
    (ev : SessionEvent) : Kept maxEndpoints (m.call ev).1.state (m.call ev).1.slots := by
  unfold call
  split
  · exact h
  cases ev with
  | command c => exact h.change hm (m.handleCommand_change c)
  | connectTimeouts expired => exact kept_removeAll hm expired h
  | checkTimeouts idle =>
    dsimp only
    unfold checkTimeouts
    split
    · exact h.change hm .cleared
    split
    · exact h.change hm .cleared
    · exact h
  | wait duration => exact h
  | abort => exact h
  | transferOpened id => exact h.opened id
  | transferCancelled i => exact h.change hm (m.transferCancelled_change i)
  | transferCommitted i => exact h.change hm (m.transferCommitted_change i)

theorem kept_start (sessionId : SessionId) (maxEndpoints timeout : Nat) (gauge : Int) (now : Nat) :
    Kept maxEndpoints (start sessionId maxEndpoints timeout gauge now).state
      (start sessionId maxEndpoints timeout gauge now).slots where
  max := rfl
  room := Nat.zero_le _
  held := fun _ _ _ h _ => (Option.some_ne_none _ h.symm).elim
  own := fun _ _ _ _ h _ => (Option.some_ne_none _ h.symm).elim
  single := fun _ _ _ _ _ h _ _ _ => (Option.some_ne_none _ h.symm).elim

def Reached (maxEndpoints : Nat) (m : MediaSession) : Prop :=
  ∃ (sessionId : SessionId) (timeout : Nat) (gauge : Int) (now : Nat) (events : List SessionEvent),
    m = Machine.exec call (start sessionId maxEndpoints timeout gauge now) events

theorem Reached.kept (hm : 0 < maxEndpoints) (h : m.Reached maxEndpoints) :
    Kept maxEndpoints m.state m.slots := by
  obtain ⟨sessionId, timeout, gauge, now, events, rfl⟩ := h
  exact Machine.exec_induction (P := fun m : MediaSession => Kept maxEndpoints m.state m.slots)
    (kept_start sessionId maxEndpoints timeout gauge now)
    (fun m ev h => kept_call hm h ev) events

/-- The session never holds more than it may, counting the endpoints that are
away, and the insertion that brings one of those home is never refused for room. -/
theorem endpoint_capacity {maxEndpoints : Nat} (hmax : 0 < maxEndpoints) {m : MediaSession}
    (hm : m.Reached maxEndpoints) :
    HashMap.size m.state.endpoints + m.state.away.card ≤ maxEndpoints ∧
      ∀ (i : Nat) (id : EndpointId) (slot : TransferState) (bundle : EndpointTransferBundle),
        m.slots[i]? = some (id, slot) → slot.reserved = true → slot.committed = false →
        slot.bundle = some bundle → (m.state.handleInsertEndpoint bundle).2 ≠
              .error "Maximum endpoints per session reached" ∧
            (m.state.find id = none →
              (m.finishTransfer i).state.find id = some bundle.endpoint) := by
  have hkept := hm.kept hmax
  refine ⟨?_, ?_⟩
  · rw [← SessionState.card_occupied]
    exact hkept.room
  intro i id slot bundle hslot hreserved hopen hbundle
  have hid := hkept.own i id slot bundle hslot hbundle
  have hheld := hkept.held i id slot hslot hreserved
  constructor
  · -- the id is reserved, so the only refusal left is that of an id that is there
    grind [SessionState.handleInsertEndpoint]
  intro hgone
  subst hid
  have hinserted := SessionState.handleInsertEndpoint_of_reserved hheld hgone
  simp only [finishTransfer, hslot, SessionState.finishTransfer, hreserved, hopen, hbundle,
    hinserted]
  show SessionState.find (SessionState.unreserve _ _) _ = _
  rw [SessionState.find_unreserve, SessionState.find_put, if_pos rfl]

def sampleAway : MediaSession :=
  Machine.exec call (start 0 2 0 0 0)
    [.command (.createOffer (.ok ()) (.ok (.webRtc 1))), .command (.createWithTone 2),
      .transferOpened 1, .command (.prepareTransfer 0)]

theorem sampleAway_capacity :
    (sampleAway.createWithTone 3).2 = some (.error "max endpoints reached") ∧
      HashMap.size sampleAway.state.endpoints + sampleAway.state.away.card ≤ 2 ∧
      (sampleAway.finishTransfer 0).state.find 1 = some (.webRtc 1) := by
  have h := endpoint_capacity (m := sampleAway) (by decide) ⟨0, 0, 0, 0, _, rfl⟩
  refine ⟨rfl, h.1, ?_⟩
  exact (h.2 0 1 _ ⟨.webRtc 1, 0⟩ rfl rfl rfl rfl).2 rfl

end MediaSession
end RtpBridge.Session
