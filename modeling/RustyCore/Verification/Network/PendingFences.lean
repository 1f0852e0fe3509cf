import RustyCore.Model.Network.WriteFence

/-! # Pending fences

The map holds the senders of exactly the waits that still run and were neither
acknowledged nor woken. -/

namespace RustyCore.Network

theorem markerId_marker (id : BitVec 64) : markerId (marker id) = some id := by
  have hlength : (marker id).length = 16 := by simp [marker, writeFencePrefix]
  have htake : (marker id).take 8 = writeFencePrefix := List.take_left' rfl
  have hdrop : (marker id).drop 8 = leBytes 8 id.toNat := List.drop_left' rfl
  rw [markerId, if_neg (by simp [hlength, htake]), hdrop, ofLeBytes_leBytes_of_lt id.isLt,
    BitVec.ofNat_toNat, BitVec.setWidth_eq]

theorem markerId_of_not_prefix {data : List Byte} (h : ¬writeFencePrefix <+: data) :
    markerId data = none := by
  refine if_pos (.inr fun htake => h ?_)
  exact htake ▸ List.take_prefix 8 data

/-- A wait whose call ended; the guard drops a sender that is still in the map. -/
def FenceWait.ended (w : FenceWait) (phase : WaitPhase) : FenceWait where
  id := w.id
  phase := phase
  acknowledgement :=
    if w.running = true ∧ w.acknowledgement = .empty then .senderDropped else w.acknowledgement

namespace FenceSystem

/-! ## Frames -/

section Frames

variable (s : FenceSystem) (wait : ℕ) (id : BitVec 64) (outcome : Oneshot)

theorem removePending_of_none (h : s.fence.pending.lookup id = none) :
    s.removePending id outcome = s := by
  rw [removePending, h]

theorem removePending_frame :
    (s.removePending id outcome).queue = s.queue ∧
      (s.removePending id outcome).writer = s.writer ∧
      (s.removePending id outcome).enqueued = s.enqueued ∧
      (s.removePending id outcome).passed = s.passed ∧
      (s.removePending id outcome).written = s.written ∧
      (s.removePending id outcome).fence.nextId = s.fence.nextId ∧
      (s.removePending id outcome).fence.writerClosed = s.fence.writerClosed ∧
      (s.removePending id outcome).waits.length = s.waits.length := by
  rw [removePending]
  cases s.fence.pending.lookup id with
  | none => simp
  | some sender => simp [modifyWait]

theorem getElem?_setPhase (phase : WaitPhase) (i : ℕ) :
    (s.setPhase wait phase).waits[i]? =
      if i = wait then s.waits[i]?.map (fun w => { w with phase := phase }) else s.waits[i]? := by
  rw [setPhase, modifyWait, List.getElem?_modify]
  by_cases h : wait = i
  · subst h
    simp
  · simp [h, Ne.symm h]

theorem getElem?_setPhase_of {w : FenceWait} (hw : s.waits[wait]? = some w) (phase : WaitPhase)
    (i : ℕ) :
    (s.setPhase wait phase).waits[i]? =
      if i = wait then some { w with phase := phase } else s.waits[i]? := by
  rw [getElem?_setPhase]
  by_cases h : i = wait
  · subst h
    simp [hw]
  · simp [h]

end Frames

/-! ## The invariant -/

/-- Ids are handed out once, and the map follows the waits. -/
structure Registered (s : FenceSystem) : Prop where
  nextId : s.fence.nextId = BitVec.ofNat 64 s.waits.length
  ids : ∀ (i : ℕ) (w : FenceWait), s.waits[i]? = some w → w.id = BitVec.ofNat 64 i
  fewer : s.waits.length < 2 ^ 64
  pending : ∀ id i, s.fence.pending.lookup id = some i ↔
    ∃ w : FenceWait, s.waits[i]? = some w ∧ w.id = id ∧ w.running = true ∧ w.acknowledgement = .empty
  allocated : ∀ (i : ℕ) (w : FenceWait), s.waits[i]? = some w → w.phase = .allocated → w.acknowledgement = .empty
  written : ∀ (i : ℕ) (w : FenceWait), s.waits[i]? = some w → w.phase = .finished .written →
    w.acknowledgement = .acknowledged

section Registered

variable {s : FenceSystem} (h : s.Registered)
variable {i : ℕ} {w : FenceWait}

include h

theorem Registered.id_injective {j : ℕ} {w' : FenceWait} (hi : s.waits[i]? = some w)
    (hj : s.waits[j]? = some w') (hid : w.id = w'.id) : i = j := by
  rw [h.ids i w hi, h.ids j w' hj] at hid
  have hilt := (List.getElem?_eq_some_iff.mp hi).1
  have hjlt := (List.getElem?_eq_some_iff.mp hj).1
  have hlt := h.fewer
  have hnat := congrArg BitVec.toNat hid
  rw [BitVec.toNat_ofNat, BitVec.toNat_ofNat, Nat.mod_eq_of_lt (by omega),
    Nat.mod_eq_of_lt (by omega)] at hnat
  exact hnat

/-- The entry of a wait's id is its own, and is there until the wait is acknowledged. -/
theorem Registered.lookup_id (hw : s.waits[i]? = some w) :
    s.fence.pending.lookup w.id =
      if w.running = true ∧ w.acknowledgement = .empty then some i else none := by
  split
  case isTrue hopen => exact (h.pending w.id i).mpr ⟨w, hw, rfl, hopen⟩
  case isFalse hopen =>
    cases hlookup : s.fence.pending.lookup w.id with
    | none => rfl
    | some j =>
      obtain ⟨w', hw', hid, hrunning⟩ := (h.pending w.id j).mp hlookup
      have hij := h.id_injective hw' hw hid
      subst hij
      rw [hw] at hw'
      cases hw'
      exact absurd hrunning hopen

theorem Registered.removePending (hw : s.waits[i]? = some w) (outcome : Oneshot) :
    (∀ j, (s.removePending w.id outcome).waits[j]? =
      if j = i ∧ w.running = true ∧ w.acknowledgement = .empty then
        some { w with acknowledgement := outcome }
      else s.waits[j]?) ∧
    ∀ id, (s.removePending w.id outcome).fence.pending.lookup id =
      if id = w.id then none else s.fence.pending.lookup id := by
  have hlookup := h.lookup_id hw
  split at hlookup
  case isTrue hopen =>
    rw [FenceSystem.removePending, hlookup]
    refine ⟨fun j => ?_, fun id => Dict.lookup_erase_eq _ _ _⟩
    simp only [modifyWait, List.getElem?_modify]
    by_cases hij : j = i
    · subst hij
      simp [hw, hopen]
    · simp [hij, Ne.symm hij]
  case isFalse hopen =>
    rw [removePending_of_none s w.id outcome hlookup]
    refine ⟨fun j => by rw [if_neg fun hj => hopen hj.2], fun id => ?_⟩
    split
    case isTrue hid => rw [hid, hlookup]
    case isFalse => rfl

/-- A step that changes one wait, and the entry of its id as that wait wants it. -/
theorem Registered.of_change {s' : FenceSystem} (hw : s.waits[i]? = some w) (w' : FenceWait)
    (hid : w'.id = w.id) (hnext : s'.fence.nextId = s.fence.nextId)
    (hlength : s'.waits.length = s.waits.length)
    (hwaits : ∀ j, s'.waits[j]? = if j = i then some w' else s.waits[j]?)
    (hpending : ∀ id, s'.fence.pending.lookup id =
      if id = w.id then
        if w'.running = true ∧ w'.acknowledgement = .empty then some i else none
      else s.fence.pending.lookup id)
    (hallocated : w'.phase = .allocated → w'.acknowledgement = .empty)
    (hwritten : w'.phase = .finished .written → w'.acknowledgement = .acknowledged) :
    s'.Registered where
  nextId := by rw [hnext, hlength, h.nextId]
  ids := by
    intro j v hv
    rw [hwaits] at hv
    split at hv
    case isTrue hj =>
      cases hv
      rw [hid, hj, h.ids i w hw]
    case isFalse => exact h.ids j v hv
  fewer := by
    rw [hlength]
    exact h.fewer
  pending := by
    intro id j
    rw [hpending, hwaits]
    by_cases hj : j = i
    · subst hj
      rw [if_pos rfl]
      by_cases hidw : id = w.id
      · simp [hidw, hid]
      · rw [if_neg hidw]
        refine iff_of_false (fun hlookup => ?_) (fun hex => ?_)
        · obtain ⟨v, hv, hvid, -⟩ := (h.pending id j).mp hlookup
          rw [hw] at hv
          cases hv
          exact hidw hvid.symm
        · obtain ⟨v, hv, hvid, -⟩ := hex
          cases hv
          exact hidw (hvid.symm.trans hid)
    · rw [if_neg hj]
      by_cases hidw : id = w.id
      · rw [if_pos hidw]
        refine iff_of_false (fun hlookup => ?_) (fun hex => ?_)
        · split at hlookup
          · exact hj (Option.some.inj hlookup).symm
          · cases hlookup
        · obtain ⟨v, hv, hvid, -⟩ := hex
          exact hj (h.id_injective hv hw (hvid.trans hidw))
      · rw [if_neg hidw]
        exact h.pending id j
  allocated := by
    intro j v hv
    rw [hwaits] at hv
    split at hv
    · cases hv
      exact hallocated
    · exact h.allocated j v hv
  written := by
    intro j v hv
    rw [hwaits] at hv
    split at hv
    · cases hv
      exact hwritten
    · exact h.written j v hv

theorem Registered.getElem?_finish (hw : s.waits[i]? = some w) (phase : WaitPhase) (j : ℕ) :
    (s.finish i w phase).waits[j]? =
      if j = i then some (w.ended phase) else s.waits[j]? := by
  rw [FenceSystem.finish, getElem?_setPhase, (h.removePending hw .senderDropped).1]
  by_cases hj : j = i
  · subst hj
    by_cases hopen : w.running = true ∧ w.acknowledgement = .empty
    · simp [hopen, FenceWait.ended]
    · simp [hopen, hw, FenceWait.ended]
  · simp [hj]

theorem Registered.finish (hw : s.waits[i]? = some w) {phase : WaitPhase}
    (hphase : phase = .cancelled ∨ ∃ result, phase = .finished result)
    (hwritten : phase = .finished .written → w.acknowledgement = .acknowledged) :
    (s.finish i w phase).Registered := by
  have hframe := s.removePending_frame w.id .senderDropped
  have hlength : (s.finish i w phase).waits.length = s.waits.length := by
    simp [FenceSystem.finish, setPhase, modifyWait, hframe]
  have hrunning : (w.ended phase).running = false := by
    rcases hphase with rfl | ⟨result, rfl⟩ <;> rfl
  refine h.of_change hw (w.ended phase) rfl hframe.2.2.2.2.2.1 hlength
    (h.getElem?_finish hw phase) ?_ ?_ ?_
  · intro id
    simp only [hrunning, Bool.false_eq_true, false_and, if_false]
    exact (h.removePending hw .senderDropped).2 id
  · intro hallocated
    rcases hphase with rfl | ⟨result, rfl⟩ <;> cases hallocated
  · intro hreturned
    simp [FenceWait.ended, hwritten hreturned]

theorem Registered.lookup_allocated (hw : s.waits[i]? = some w) (hphase : w.phase = .allocated) :
    s.fence.pending.lookup w.id = none := by
  rw [h.lookup_id hw, if_neg (by simp [FenceWait.running, hphase])]

theorem Registered.register (hw : s.waits[i]? = some w) (hphase : w.phase = .allocated) :
    (s.register i w).Registered := by
  have hempty := h.allocated i w hw hphase
  have hnone := h.lookup_allocated hw hphase
  rw [FenceSystem.register]
  split
  case isTrue =>
    refine h.of_change hw { w with phase := .finished .writerClosed } rfl rfl
      (by simp [setPhase, modifyWait]) (getElem?_setPhase_of s i hw _) ?_ nofun nofun
    intro id
    by_cases hid : id = w.id
    · rw [if_pos hid, hid]
      exact hnone
    · rw [if_neg hid]
      rfl
  case isFalse =>
    rw [removePending_of_none s w.id .senderDropped hnone]
    refine h.of_change hw { w with phase := .sending } rfl rfl
      (by simp [setPhase, modifyWait])
      (getElem?_setPhase_of { s with fence := _ } i hw .sending) ?_ nofun nofun
    intro id
    refine (Dict.lookup_insert_eq _ _ _ _).trans ?_
    simp [FenceWait.running, hempty]

theorem Registered.sendMarker (hw : s.waits[i]? = some w) (hphase : w.phase = .sending)
    (queue : List (List Byte)) (enqueued : List Enqueued) :
    ({ s with queue := queue, enqueued := enqueued }.setPhase i .waiting).Registered := by
  refine h.of_change hw { w with phase := .waiting } rfl rfl (by simp [setPhase, modifyWait])
    ?_ ?_ nofun nofun
  · exact getElem?_setPhase_of { s with queue := queue, enqueued := enqueued } i hw .waiting
  · intro id
    by_cases hid : id = w.id
    · have hlookup := h.lookup_id hw
      rw [if_pos hid, hid]
      exact hlookup.trans (by simp [FenceWait.running, hphase])
    · rw [if_neg hid]
      rfl

theorem Registered.acknowledge (hw : s.waits[i]? = some w) :
    (s.removePending w.id .acknowledged).Registered := by
  obtain ⟨hwaits, hpending⟩ := h.removePending hw .acknowledged
  obtain ⟨-, -, -, -, -, hnext, -, hlength⟩ := s.removePending_frame w.id .acknowledged
  by_cases hopen : w.running = true ∧ w.acknowledgement = .empty
  · refine h.of_change hw { w with acknowledgement := .acknowledged } rfl hnext hlength
      (fun j => ?_) (fun id => ?_) ?_ (fun _ => rfl)
    · rw [hwaits]
      simp [hopen]
    · rw [hpending]
      simp
    · intro hphase
      have hrunning := hopen.1
      rw [FenceWait.running, show w.phase = .allocated from hphase] at hrunning
      cases hrunning
  · have hlookup := h.lookup_id hw
    rw [if_neg hopen] at hlookup
    rw [removePending_of_none s w.id .acknowledged hlookup]
    exact h

theorem Registered.startWait (hfewer : s.waits.length + 1 < 2 ^ 64) : s.startWait.Registered := by
  have hget : ∀ j w, s.startWait.waits[j]? = some w →
      s.waits[j]? = some w ∨ (j = s.waits.length ∧ w = ⟨s.fence.nextId, .allocated, .empty⟩) := by
    intro j w hw
    rw [FenceSystem.startWait, List.getElem?_append] at hw
    split at hw
    case isTrue => exact .inl hw
    case isFalse hj =>
      obtain ⟨hlt, rfl⟩ := List.getElem?_eq_some_iff.mp hw
      rw [List.length_singleton] at hlt
      exact .inr ⟨by omega, by simp⟩
  refine ⟨?_, fun j w hw => ?_, ?_, fun id j => ?_, fun j w hw => ?_, fun j w hw => ?_⟩
  · simp [FenceSystem.startWait, h.nextId, BitVec.ofNat_add]
  · rcases hget j w hw with hw | ⟨rfl, rfl⟩
    · exact h.ids j w hw
    · exact h.nextId
  · simpa [FenceSystem.startWait] using hfewer
  · refine (h.pending id j).trans ⟨fun ⟨w, hw, hopen⟩ => ⟨w, ?_, hopen⟩, fun ⟨w, hw, hopen⟩ => ?_⟩
    · exact List.getElem?_append_left (List.getElem?_eq_some_iff.mp hw).1 ▸ hw
    · rcases hget j w hw with hw | ⟨-, rfl⟩
      · exact ⟨w, hw, hopen⟩
      · cases hopen.2.1
  · rcases hget j w hw with hw | ⟨-, rfl⟩
    · exact h.allocated j w hw
    · exact fun _ => rfl
  · rcases hget j w hw with hw | ⟨-, rfl⟩
    · exact h.written j w hw
    · exact nofun

theorem Registered.anyEntry_iff (hw : s.waits[i]? = some w) :
    s.fence.pending.anyEntry (fun _ sender => sender == i) = true ↔
      w.running = true ∧ w.acknowledgement = .empty := by
  rw [Dict.anyEntry_iff]
  constructor
  · rintro ⟨id, sender, hlookup, hsender⟩
    rw [beq_iff_eq.mp hsender] at hlookup
    obtain ⟨w', hw', -, hopen⟩ := (h.pending id i).mp hlookup
    rw [hw] at hw'
    cases hw'
    exact hopen
  · intro hopen
    exact ⟨w.id, i, (h.pending w.id i).mpr ⟨w, hw, rfl, hopen⟩, beq_self_eq_true i⟩

theorem Registered.clearPending : s.clearPending.Registered := by
  have hget : ∀ (j : ℕ) (w' : FenceWait), s.clearPending.waits[j]? = some w' →
      ∃ w : FenceWait, s.waits[j]? = some w ∧
      w'.id = w.id ∧ w'.phase = w.phase ∧
      w'.acknowledgement =
        if w.running = true ∧ w.acknowledgement = .empty then .senderDropped
        else w.acknowledgement := by
    intro j w' hw'
    rw [FenceSystem.clearPending, List.getElem?_mapIdx] at hw'
    obtain ⟨w, hw, rfl⟩ := Option.map_eq_some_iff.mp hw'
    refine ⟨w, hw, ?_⟩
    by_cases hopen : w.running = true ∧ w.acknowledgement = .empty
    · simp [(h.anyEntry_iff hw).mpr hopen, hopen]
    · simp [mt (h.anyEntry_iff hw).mp hopen, hopen]
  refine ⟨?_, fun j w' hw' => ?_, ?_, fun id j => ?_, fun j w' hw' => ?_, fun j w' hw' => ?_⟩
  · simpa [FenceSystem.clearPending] using h.nextId
  · obtain ⟨w, hw, hid, -⟩ := hget j w' hw'
    rw [hid]
    exact h.ids j w hw
  · simpa [FenceSystem.clearPending] using h.fewer
  · refine iff_of_false (fun hlookup => nomatch hlookup) ?_
    rintro ⟨w', hw', -, hrunning, hempty⟩
    obtain ⟨w, hw, -, hphase, hack⟩ := hget j w' hw'
    have hrunning' : w.running = true := by
      rw [FenceWait.running, ← hphase]
      exact hrunning
    rw [hack] at hempty
    split at hempty
    case isTrue => cases hempty
    case isFalse hopen => exact hopen ⟨hrunning', hempty⟩
  · obtain ⟨w, hw, -, hphase, hack⟩ := hget j w' hw'
    intro hallocated
    rw [hphase] at hallocated
    have hempty := h.allocated j w hw hallocated
    rw [hack, if_neg]
    · exact hempty
    · rintro ⟨hrunning, -⟩
      rw [FenceWait.running, hallocated] at hrunning
      cases hrunning
  · obtain ⟨w, hw, -, hphase, hack⟩ := hget j w' hw'
    intro hreturned
    rw [hphase] at hreturned
    rw [hack, h.written j w hw hreturned, if_neg (by simp)]

theorem Registered.of_same {s' : FenceSystem} (hwaits : s'.waits = s.waits)
    (hnext : s'.fence.nextId = s.fence.nextId) (hpending : s'.fence.pending = s.fence.pending) :
    s'.Registered where
  nextId := by rw [hnext, hwaits, h.nextId]
  ids := hwaits ▸ h.ids
  fewer := hwaits ▸ h.fewer
  pending := by
    rw [hpending, hwaits]
    exact h.pending
  allocated := hwaits ▸ h.allocated
  written := hwaits ▸ h.written

theorem Registered.acknowledgeMarker (data : List Byte) :
    (s.acknowledgeMarker data).1.Registered := by
  rw [FenceSystem.acknowledgeMarker]
  cases markerId data with
  | none => exact h
  | some id =>
    cases hlookup : s.fence.pending.lookup id with
    | none =>
      dsimp only
      rw [removePending_of_none s id .acknowledged hlookup]
      exact h
    | some i =>
      obtain ⟨w, hw, rfl, -⟩ := (h.pending id i).mp hlookup
      exact h.acknowledge hw

theorem Registered.waitStep (hw : s.waits[i]? = some w) (action : WaitAction) :
    (s.waitStep i w action).Registered := by
  cases action with
  | register =>
    rw [FenceSystem.waitStep]
    split
    case isTrue hphase => exact h.register hw hphase
    case isFalse => exact h
  | sendMarker =>
    rw [FenceSystem.waitStep]
    split
    case isTrue hphase =>
      split
      · exact h.finish hw (.inr ⟨_, rfl⟩) nofun
      · exact h.sendMarker hw hphase _ _
    case isFalse => exact h
  | returnWait =>
    rw [FenceSystem.waitStep]
    split
    case isTrue hphase =>
      cases hack : w.acknowledgement with
      | acknowledged => exact h.finish hw (.inr ⟨_, rfl⟩) fun _ => hack
      | senderDropped => exact h.finish hw (.inr ⟨_, rfl⟩) nofun
      | empty => exact h
    case isFalse => exact h
  | timeOut =>
    rw [FenceSystem.waitStep]
    split
    · exact h.finish hw (.inr ⟨_, rfl⟩) nofun
    · exact h
  | cancel =>
    rw [FenceSystem.waitStep]
    split
    · exact h.finish hw (.inl rfl) nofun
    · exact h

theorem Registered.writerStep (action : WriterAction) : (s.writerStep action).Registered := by
  cases action with
  | receive =>
    rw [FenceSystem.writerStep]
    split
    · exact h.of_same rfl rfl rfl
    · exact h
  | acknowledge =>
    rw [FenceSystem.writerStep]
    split
    case h_1 data _ =>
      dsimp only
      split
      · exact (h.acknowledgeMarker data).of_same rfl rfl rfl
      · exact h
    case h_2 => exact h
  | beginWrite =>
    rw [FenceSystem.writerStep]
    split
    · split
      · exact h
      · exact h.of_same rfl rfl rfl
    · exact h
  | writeOk | writeErr | stopWriter | setClosed | dropReceiver =>
    rw [FenceSystem.writerStep]
    split
    all_goals exact h.of_same rfl rfl rfl
  | clearPending =>
    rw [FenceSystem.writerStep]
    split
    · exact h.clearPending.of_same rfl rfl rfl
    · exact h

theorem Registered.step (action : FenceAction)
    (hfewer : (s.step action).waits.length < 2 ^ 64) : (s.step action).Registered := by
  cases action with
  | sendPacket data =>
    rw [FenceSystem.step]
    split
    · exact h
    · exact h.of_same rfl rfl rfl
  | startWait => exact h.startWait (by simpa [FenceSystem.step, FenceSystem.startWait] using hfewer)
  | wait index action =>
    rw [FenceSystem.step]
    cases hw : s.waits[index]? with
    | none => exact h
    | some w => exact h.waitStep hw action
  | writer action => exact h.writerStep action

end Registered

theorem Registered.initial : FenceSystem.initial.Registered where
  nextId := rfl
  ids := fun _ _ hw => nomatch hw
  fewer := by decide
  pending := fun _ _ => iff_of_false (fun hlookup => nomatch hlookup) fun ⟨_, hw, _⟩ => nomatch hw
  allocated := fun _ _ hw => nomatch hw
  written := fun _ _ hw => nomatch hw

end FenceSystem

end RustyCore.Network
