import RustyCore.Verification.Network.PendingFences

/-! # The write fence is sound

The writer takes the channel in order, so an acknowledged fence has every packet that was
queued before it written. -/

namespace RustyCore.Network

/-! ## What was queued -/

def packetsOf (enqueued : List Enqueued) : List (List Byte) :=
  enqueued.filterMap fun
    | .packet data => some data
    | .fence _ => none

def fencesOf (enqueued : List Enqueued) : List ℕ :=
  enqueued.filterMap fun
    | .packet _ => none
    | .fence wait => some wait

@[simp] theorem packetsOf_append (xs ys : List Enqueued) :
    packetsOf (xs ++ ys) = packetsOf xs ++ packetsOf ys := List.filterMap_append

@[simp] theorem packetsOf_packet (data : List Byte) (xs : List Enqueued) :
    packetsOf (.packet data :: xs) = data :: packetsOf xs := rfl

@[simp] theorem packetsOf_fence (wait : ℕ) (xs : List Enqueued) :
    packetsOf (.fence wait :: xs) = packetsOf xs := rfl

@[simp] theorem packetsOf_nil : packetsOf [] = [] := rfl

theorem mem_fencesOf {wait : ℕ} {xs : List Enqueued} :
    wait ∈ fencesOf xs ↔ Enqueued.fence wait ∈ xs := by
  rw [fencesOf, List.mem_filterMap]
  constructor
  · rintro ⟨e, he, hwait⟩
    cases e with
    | packet data => cases hwait
    | fence i =>
      cases hwait
      exact he
  · exact fun h => ⟨_, h, rfl⟩

/-- The data in the channel; the id of a fence is the number of its wait. -/
def Enqueued.bytes : Enqueued → List Byte
  | .packet data => data
  | .fence wait => marker (BitVec.ofNat 64 wait)

namespace FenceSystem

variable {s s' : FenceSystem}

/-- How far the writer is in what was queued. -/
def InLine (s : FenceSystem) : Prop :=
  match s.writer with
  | .receiving => ∃ done rest, s.enqueued = done ++ rest ∧ s.queue = rest.map Enqueued.bytes ∧
      s.written = packetsOf done ∧ s.passed = packetsOf done
  | .holding data => ∃ done e rest, s.enqueued = done ++ e :: rest ∧ e.bytes = data ∧
      s.queue = rest.map Enqueued.bytes ∧ s.written = packetsOf done ∧ s.passed = packetsOf done
  | .writing data => ∃ done rest, s.enqueued = done ++ .packet data :: rest ∧
      s.queue = rest.map Enqueued.bytes ∧ s.written = packetsOf done ∧
      s.passed = packetsOf done ++ [data]
  | .ended | .flagSet | .cleared | .gone => True

/-- The writer passes the packets on in order, and an acknowledged wait comes after the
packets that were queued before its marker. -/
structure Flow (s : FenceSystem) : Prop where
  passed : s.passed <+: packetsOf s.enqueued
  written : s.written <+: s.passed
  acknowledged : ∀ (i : ℕ) (w : FenceWait), s.waits[i]? = some w →
    w.acknowledgement = .acknowledged →
    ∃ before after, s.enqueued = before ++ Enqueued.fence i :: after ∧
      packetsOf before <+: s.written
  once : (fencesOf s.enqueued).Nodup
  sent : ∀ i, Enqueued.fence i ∈ s.enqueued → ∃ w : FenceWait, s.waits[i]? = some w ∧
    w.phase ≠ .allocated ∧ w.phase ≠ .sending
  packets : ∀ data, Enqueued.packet data ∈ s.enqueued → ¬writeFencePrefix <+: data
  line : s.InLine

/-- From `s` to `s'` no wait is acknowledged and no wait goes back before its marker. -/
structure Onward (s s' : FenceSystem) : Prop where
  acknowledged : ∀ (i : ℕ) (w' : FenceWait), s'.waits[i]? = some w' →
    w'.acknowledgement = .acknowledged →
    ∃ w : FenceWait, s.waits[i]? = some w ∧ w.acknowledgement = .acknowledged
  sent : ∀ (i : ℕ) (w : FenceWait), s.waits[i]? = some w → w.phase ≠ .allocated →
    w.phase ≠ .sending →
    ∃ w' : FenceWait, s'.waits[i]? = some w' ∧ w'.phase ≠ .allocated ∧ w'.phase ≠ .sending

theorem Onward.of_same (hwaits : s'.waits = s.waits) : Onward s s' where
  acknowledged := fun _ w hw hack => ⟨w, hwaits ▸ hw, hack⟩
  sent := fun _ w hw hallocated hsending => ⟨w, hwaits ▸ hw, hallocated, hsending⟩

theorem Onward.trans {s'' : FenceSystem} (h : Onward s s') (h' : Onward s' s'') :
    Onward s s'' where
  acknowledged := by
    intro i w'' hw'' hack
    obtain ⟨w', hw', hack'⟩ := h'.acknowledged i w'' hw'' hack
    exact h.acknowledged i w' hw' hack'
  sent := by
    intro i w hw hallocated hsending
    obtain ⟨w', hw', hallocated', hsending'⟩ := h.sent i w hw hallocated hsending
    exact h'.sent i w' hw' hallocated' hsending'

theorem Onward.of_change {i : ℕ} {w w' : FenceWait} (hw : s.waits[i]? = some w)
    (hwaits : ∀ j, s'.waits[j]? = if j = i then some w' else s.waits[j]?)
    (hack : w'.acknowledgement = .acknowledged → w.acknowledgement = .acknowledged)
    (hphase : w.phase ≠ .allocated → w.phase ≠ .sending →
      w'.phase ≠ .allocated ∧ w'.phase ≠ .sending) :
    Onward s s' where
  acknowledged := by
    intro j v hv hvack
    rw [hwaits] at hv
    split at hv
    case isTrue hj =>
      cases hv
      exact ⟨w, hj ▸ hw, hack hvack⟩
    case isFalse => exact ⟨v, hv, hvack⟩
  sent := by
    intro j v hv hallocated hsending
    rw [hwaits]
    split
    case isTrue hj =>
      subst hj
      rw [hw] at hv
      cases hv
      exact ⟨w', rfl, hphase hallocated hsending⟩
    case isFalse => exact ⟨v, hv, hallocated, hsending⟩

section Onward

variable {s : FenceSystem} (hreg : s.Registered)
variable {i : ℕ} {w : FenceWait}

include hreg

theorem Onward.finish (hw : s.waits[i]? = some w) {phase : WaitPhase}
    (hphase : phase ≠ .allocated ∧ phase ≠ .sending) : Onward s (s.finish i w phase) := by
  refine Onward.of_change hw (hreg.getElem?_finish hw phase) ?_ fun _ _ => hphase
  intro hack
  rw [FenceWait.ended] at hack
  dsimp only at hack
  split at hack
  · cases hack
  · exact hack

theorem Onward.register (hw : s.waits[i]? = some w) (hphase : w.phase = .allocated) :
    Onward s (s.register i w) := by
  have hnone := hreg.lookup_allocated hw hphase
  rw [FenceSystem.register]
  split
  case isTrue =>
    exact Onward.of_change hw (getElem?_setPhase_of s i hw _) id fun hallocated =>
      absurd hphase hallocated
  case isFalse =>
    rw [removePending_of_none s w.id .senderDropped hnone]
    exact Onward.of_change hw (getElem?_setPhase_of { s with fence := _ } i hw .sending) id
      fun hallocated => absurd hphase hallocated

omit hreg in
theorem Onward.sendMarker (hw : s.waits[i]? = some w) (hphase : w.phase = .sending)
    (queue : List (List Byte)) (enqueued : List Enqueued) :
    Onward s ({ s with queue := queue, enqueued := enqueued }.setPhase i .waiting) :=
  Onward.of_change hw
    (getElem?_setPhase_of { s with queue := queue, enqueued := enqueued } i hw .waiting) id
    fun _ hsending => absurd hphase hsending

theorem Onward.waitStep (hw : s.waits[i]? = some w) (action : WaitAction) :
    Onward s (s.waitStep i w action) := by
  cases action with
  | register =>
    rw [FenceSystem.waitStep]
    split
    case isTrue hphase => exact Onward.register hreg hw hphase
    case isFalse => exact Onward.of_same rfl
  | sendMarker =>
    rw [FenceSystem.waitStep]
    split
    case isTrue hphase =>
      split
      · exact Onward.finish hreg hw (by decide)
      · exact Onward.sendMarker hw hphase _ _
    case isFalse => exact Onward.of_same rfl
  | returnWait =>
    rw [FenceSystem.waitStep]
    split
    case isTrue =>
      cases w.acknowledgement with
      | acknowledged | senderDropped => exact Onward.finish hreg hw (by decide)
      | empty => exact Onward.of_same rfl
    case isFalse => exact Onward.of_same rfl
  | timeOut | cancel =>
    rw [FenceSystem.waitStep]
    split
    · exact Onward.finish hreg hw (by decide)
    · exact Onward.of_same rfl

omit hreg in
theorem Onward.startWait : Onward s s.startWait where
  acknowledged := by
    intro i w hw hack
    rw [FenceSystem.startWait, List.getElem?_append] at hw
    split at hw
    case isTrue => exact ⟨w, hw, hack⟩
    case isFalse =>
      obtain ⟨hlt, rfl⟩ := List.getElem?_eq_some_iff.mp hw
      simp at hack
  sent := by
    intro i w hw hallocated hsending
    refine ⟨w, ?_, hallocated, hsending⟩
    exact List.getElem?_append_left (List.getElem?_eq_some_iff.mp hw).1 ▸ hw

omit hreg in
theorem Onward.clearPending : Onward s s.clearPending where
  acknowledged := by
    intro i w' hw' hack
    rw [FenceSystem.clearPending, List.getElem?_mapIdx] at hw'
    obtain ⟨w, hw, rfl⟩ := Option.map_eq_some_iff.mp hw'
    refine ⟨w, hw, ?_⟩
    split at hack
    · cases hack
    · exact hack
  sent := by
    intro i w hw hallocated hsending
    rw [FenceSystem.clearPending, List.getElem?_mapIdx, hw]
    refine ⟨_, rfl, ?_⟩
    split
    · exact ⟨hallocated, hsending⟩
    · exact ⟨hallocated, hsending⟩

omit hreg in
theorem Onward.writerStep {action : WriterAction}
    (hidle : action = .acknowledge → ∀ data, s.writer ≠ .holding data) :
    Onward s (s.writerStep action) := by
  cases action with
  | acknowledge =>
    rw [FenceSystem.writerStep]
    split
    case h_1 data hwriter => exact absurd hwriter (hidle rfl data)
    case h_2 => exact Onward.of_same rfl
  | beginWrite =>
    rw [FenceSystem.writerStep]
    split
    · split
      · exact Onward.of_same rfl
      · exact Onward.of_same rfl
    · exact Onward.of_same rfl
  | receive | writeOk | writeErr | stopWriter | setClosed | dropReceiver =>
    rw [FenceSystem.writerStep]
    split
    all_goals exact Onward.of_same rfl
  | clearPending =>
    rw [FenceSystem.writerStep]
    split
    · exact Onward.clearPending.trans (Onward.of_same rfl)
    · exact Onward.of_same rfl

theorem Onward.step {action : FenceAction}
    (hidle : action = .writer .acknowledge → ∀ data, s.writer ≠ .holding data) :
    Onward s (s.step action) := by
  cases action with
  | sendPacket data =>
    rw [FenceSystem.step]
    split
    all_goals exact Onward.of_same rfl
  | startWait => exact Onward.startWait
  | wait index action =>
    rw [FenceSystem.step]
    cases hw : s.waits[index]? with
    | none => exact Onward.of_same rfl
    | some w => exact Onward.waitStep hreg hw action
  | writer action => exact Onward.writerStep fun haction => hidle (congrArg _ haction)

end Onward

section Flow

variable {s s' : FenceSystem} (h : s.Flow)
variable {i : ℕ} {w : FenceWait}

include h

theorem Flow.of_onward (honward : Onward s s') (henqueued : s'.enqueued = s.enqueued)
    (hpassed : s'.passed = s.passed) (hwritten : s'.written = s.written) (hline : s'.InLine) :
    s'.Flow where
  passed := by
    rw [hpassed, henqueued]
    exact h.passed
  written := by
    rw [hpassed, hwritten]
    exact h.written
  acknowledged := by
    intro i w' hw' hack
    obtain ⟨w, hw, hack⟩ := honward.acknowledged i w' hw' hack
    rw [henqueued, hwritten]
    exact h.acknowledged i w hw hack
  once := by
    rw [henqueued]
    exact h.once
  sent := by
    intro i hi
    rw [henqueued] at hi
    obtain ⟨w, hw, hallocated, hsending⟩ := h.sent i hi
    exact honward.sent i w hw hallocated hsending
  packets := by
    rw [henqueued]
    exact h.packets
  line := hline

omit h in
theorem InLine.enqueue (hline : s.InLine) (e : Enqueued) (hwriter : s'.writer = s.writer)
    (henqueued : s'.enqueued = s.enqueued ++ [e]) (hqueue : s'.queue = s.queue ++ [e.bytes])
    (hpassed : s'.passed = s.passed) (hwritten : s'.written = s.written) : s'.InLine := by
  rw [InLine] at hline ⊢
  rw [hwriter, henqueued, hqueue, hpassed, hwritten]
  cases hphase : s.writer with
  | receiving =>
    rw [hphase] at hline
    obtain ⟨done, rest, hall, hrest, hout⟩ := hline
    exact ⟨done, rest ++ [e], by rw [hall, List.append_assoc], by simp [hrest], hout⟩
  | holding data =>
    rw [hphase] at hline
    obtain ⟨done, held, rest, hall, hheld, hrest, hout⟩ := hline
    exact ⟨done, held, rest ++ [e], by simp [hall], hheld, by simp [hrest], hout⟩
  | writing data =>
    rw [hphase] at hline
    obtain ⟨done, rest, hall, hrest, hout⟩ := hline
    exact ⟨done, rest ++ [e], by simp [hall], by simp [hrest], hout⟩
  | ended | flagSet | cleared | gone => trivial

theorem Flow.enqueue (honward : Onward s s') (e : Enqueued) (hwriter : s'.writer = s.writer)
    (henqueued : s'.enqueued = s.enqueued ++ [e]) (hqueue : s'.queue = s.queue ++ [e.bytes])
    (hpassed : s'.passed = s.passed) (hwritten : s'.written = s.written)
    (hpacket : ∀ data, e = .packet data → ¬writeFencePrefix <+: data)
    (hfence : ∀ i, e = .fence i → Enqueued.fence i ∉ s.enqueued ∧ ∃ w : FenceWait,
      s'.waits[i]? = some w ∧ w.phase ≠ .allocated ∧ w.phase ≠ .sending) : s'.Flow where
  passed := by
    rw [hpassed, henqueued, packetsOf_append]
    exact h.passed.trans (List.prefix_append _ _)
  written := by
    rw [hpassed, hwritten]
    exact h.written
  acknowledged := by
    intro i w' hw' hack
    obtain ⟨w, hw, hack⟩ := honward.acknowledged i w' hw' hack
    obtain ⟨before, after, hall, hbefore⟩ := h.acknowledged i w hw hack
    exact ⟨before, after ++ [e], by rw [henqueued, hall]; simp, hwritten ▸ hbefore⟩
  once := by
    rw [henqueued, fencesOf, List.filterMap_append, List.nodup_append]
    refine ⟨h.once, ?_, ?_⟩
    · cases e with
      | packet data => simp
      | fence i => simp
    · intro i hi j hj hij
      cases e with
      | packet data => simp at hj
      | fence i' =>
        simp only [List.filterMap_cons, List.filterMap_nil, List.mem_singleton] at hj
        rw [hij, hj] at hi
        exact (hfence i' rfl).1 (mem_fencesOf.mp hi)
  sent := by
    intro i hi
    rw [henqueued, List.mem_append, List.mem_singleton] at hi
    rcases hi with hi | hi
    · obtain ⟨w, hw, hallocated, hsending⟩ := h.sent i hi
      exact honward.sent i w hw hallocated hsending
    · exact (hfence i hi.symm).2
  packets := by
    intro data hdata
    rw [henqueued, List.mem_append, List.mem_singleton] at hdata
    rcases hdata with hdata | hdata
    · exact h.packets data hdata
    · exact hpacket data hdata.symm
  line := InLine.enqueue h.line e hwriter henqueued hqueue hpassed hwritten

omit h in
theorem InLine.of_same (hline : s.InLine) (hwriter : s'.writer = s.writer)
    (henqueued : s'.enqueued = s.enqueued) (hqueue : s'.queue = s.queue)
    (hpassed : s'.passed = s.passed) (hwritten : s'.written = s.written) : s'.InLine := by
  rw [InLine, hwriter, henqueued, hqueue, hpassed, hwritten]
  exact hline

/-! ## Steps of the waits -/

theorem Flow.finish (hreg : s.Registered) (hw : s.waits[i]? = some w) {phase : WaitPhase}
    (hphase : phase ≠ .allocated ∧ phase ≠ .sending) : (s.finish i w phase).Flow := by
  obtain ⟨hqueue, hwriter, henqueued, hpassed, hwritten, -⟩ :=
    s.removePending_frame w.id .senderDropped
  exact h.of_onward (Onward.finish hreg hw hphase) henqueued hpassed hwritten
    (InLine.of_same h.line hwriter henqueued hqueue hpassed hwritten)

theorem Flow.register (hreg : s.Registered) (hw : s.waits[i]? = some w)
    (hphase : w.phase = .allocated) : (s.register i w).Flow := by
  have honward := Onward.register hreg hw hphase
  have hnone := hreg.lookup_allocated hw hphase
  rw [FenceSystem.register, removePending_of_none s w.id .senderDropped hnone] at honward ⊢
  split
  case isTrue hclosed =>
    rw [if_pos hclosed] at honward
    exact h.of_onward honward rfl rfl rfl (InLine.of_same h.line rfl rfl rfl rfl rfl)
  case isFalse hopen =>
    rw [if_neg hopen] at honward
    exact h.of_onward honward rfl rfl rfl (InLine.of_same h.line rfl rfl rfl rfl rfl)

theorem Flow.sendMarker (hreg : s.Registered) (hw : s.waits[i]? = some w)
    (hphase : w.phase = .sending) :
    ({ s with
      queue := s.queue ++ [marker w.id]
      enqueued := s.enqueued ++ [Enqueued.fence i] }.setPhase i .waiting).Flow := by
  refine h.enqueue (Onward.sendMarker hw hphase _ _) (.fence i) rfl rfl ?_ rfl rfl
    (fun data hdata => by cases hdata) ?_
  · rw [Enqueued.bytes, ← hreg.ids i w hw]
    rfl
  · intro j hj
    cases hj
    refine ⟨fun hmem => ?_, { w with phase := .waiting }, ?_, by simp, by simp⟩
    · obtain ⟨w', hw', -, hsending⟩ := h.sent i hmem
      rw [hw] at hw'
      cases hw'
      exact hsending hphase
    · exact (getElem?_setPhase_of { s with queue := _, enqueued := _ } i hw .waiting i).trans
        (if_pos rfl)

theorem Flow.waitStep (hreg : s.Registered) (hw : s.waits[i]? = some w) (action : WaitAction) :
    (s.waitStep i w action).Flow := by
  cases action with
  | register =>
    rw [FenceSystem.waitStep]
    split
    case isTrue hphase => exact h.register hreg hw hphase
    case isFalse => exact h
  | sendMarker =>
    rw [FenceSystem.waitStep]
    split
    case isTrue hphase =>
      split
      · exact h.finish hreg hw (by decide)
      · exact h.sendMarker hreg hw hphase
    case isFalse => exact h
  | returnWait =>
    rw [FenceSystem.waitStep]
    split
    case isTrue =>
      cases w.acknowledgement with
      | acknowledged | senderDropped => exact h.finish hreg hw (by decide)
      | empty => exact h
    case isFalse => exact h
  | timeOut | cancel =>
    rw [FenceSystem.waitStep]
    split
    · exact h.finish hreg hw (by decide)
    · exact h

theorem Flow.startWait : s.startWait.Flow :=
  h.of_onward Onward.startWait rfl rfl rfl (InLine.of_same h.line rfl rfl rfl rfl rfl)

/-! ## Steps of the writer -/

theorem Flow.sendPacket {data : List Byte} (hdata : ¬writeFencePrefix <+: data) :
    (s.step (.sendPacket data)).Flow := by
  rw [FenceSystem.step]
  split
  case isTrue => exact h
  case isFalse =>
    refine h.enqueue (Onward.of_same rfl) (.packet data) rfl rfl rfl rfl rfl ?_
      fun i hi => by cases hi
    intro d hd
    cases hd
    exact hdata

theorem Flow.receive : (s.writerStep .receive).Flow := by
  rw [FenceSystem.writerStep]
  split
  case h_1 data rest hwriter hqueue =>
    refine h.of_onward (Onward.of_same rfl) rfl rfl rfl ?_
    have hline := h.line
    rw [InLine, hwriter] at hline
    obtain ⟨done, left, hall, hleft, hwritten, hpassed⟩ := hline
    rw [hqueue] at hleft
    cases left with
    | nil => cases hleft
    | cons e left =>
      obtain ⟨hdata, hrest⟩ := List.cons.inj hleft
      exact ⟨done, e, left, hall, hdata.symm, hrest, hwritten, hpassed⟩
  case h_2 => exact h

/-- What the writer holds is a marker exactly when a fence was queued there. -/
theorem Flow.held {data : List Byte} {e : Enqueued} (he : e ∈ s.enqueued) (hdata : e.bytes = data) :
    (markerId data = none → e = .packet data) ∧
    (∀ id, markerId data = some id → ∃ i, e = .fence i ∧ id = BitVec.ofNat 64 i) := by
  subst hdata
  cases e with
  | packet data =>
    refine ⟨fun _ => rfl, fun id hid => ?_⟩
    rw [Enqueued.bytes, markerId_of_not_prefix (h.packets data he)] at hid
    cases hid
  | fence i =>
    rw [Enqueued.bytes, markerId_marker]
    exact ⟨nofun, fun id hid => ⟨i, rfl, (Option.some.inj hid).symm⟩⟩

theorem Flow.acknowledge (hreg : s.Registered) : (s.writerStep .acknowledge).Flow := by
  rw [FenceSystem.writerStep]
  split
  case h_1 data hwriter =>
    dsimp only
    rw [acknowledgeMarker]
    cases hid : markerId data with
    | none => exact h
    | some id =>
      have hline := h.line
      rw [InLine, hwriter] at hline
      obtain ⟨done, e, rest, hall, hdata, hrest, hwritten, hpassed⟩ := hline
      obtain ⟨i, rfl, rfl⟩ := (h.held (by simp [hall]) hdata).2 id hid
      obtain ⟨w, hw, hallocated, hsending⟩ := h.sent i (by simp [hall])
      rw [← hreg.ids i w hw]
      obtain ⟨hwaits, -⟩ := hreg.removePending hw .acknowledged
      obtain ⟨fqueue, -, fenqueued, fpassed, fwritten, -⟩ :=
        s.removePending_frame w.id .acknowledged
      simp only [if_true]
      refine ⟨?_, ?_, ?_, ?_, ?_, ?_, ?_⟩
      · simpa only [fpassed, fenqueued] using h.passed
      · simpa only [fpassed, fwritten] using h.written
      · intro j w' hw' hack
        simp only [fenqueued, fwritten]
        dsimp only at hw'
        rw [hwaits] at hw'
        split at hw'
        case isTrue hj => exact ⟨done, rest, by rw [hall, hj.1], hwritten ▸ List.prefix_rfl⟩
        case isFalse => exact h.acknowledged j w' hw' hack
      · simpa only [fenqueued] using h.once
      · intro j hj
        simp only [fenqueued] at hj
        obtain ⟨w', hw', hallocated', hsending'⟩ := h.sent j hj
        dsimp only
        rw [hwaits]
        split
        case isTrue => exact ⟨_, rfl, hallocated, hsending⟩
        case isFalse => exact ⟨w', hw', hallocated', hsending'⟩
      · simpa only [fenqueued] using h.packets
      · refine ⟨done ++ [.fence i], rest, ?_, ?_, ?_, ?_⟩
        · simp [fenqueued, hall]
        · simp only [fqueue, hrest]
        · simp [fwritten, hwritten]
        · simp [fpassed, hpassed]
  case h_2 => exact h

theorem Flow.beginWrite : (s.writerStep .beginWrite).Flow := by
  rw [FenceSystem.writerStep]
  split
  case h_1 data hwriter =>
    rw [acknowledgeMarker]
    cases hid : markerId data with
    | some id => exact h
    | none =>
      have hline := h.line
      rw [InLine, hwriter] at hline
      obtain ⟨done, e, rest, hall, hdata, hrest, hwritten, hpassed⟩ := hline
      obtain rfl := (h.held (by simp [hall]) hdata).1 hid
      refine ⟨?_, ?_, h.acknowledged, h.once, h.sent, h.packets, ?_⟩
      · simp [hall, hpassed]
      · exact h.written.trans (List.prefix_append _ _)
      · exact ⟨done, rest, hall, hrest, hwritten, by simp [hpassed]⟩
  case h_2 => exact h

theorem Flow.writeOk : (s.writerStep .writeOk).Flow := by
  rw [FenceSystem.writerStep]
  split
  case h_1 data hwriter =>
    have hline := h.line
    rw [InLine, hwriter] at hline
    obtain ⟨done, rest, hall, hrest, hwritten, hpassed⟩ := hline
    refine ⟨h.passed, ?_, ?_, h.once, h.sent, h.packets, ?_⟩
    · simp [hwritten, hpassed]
    · intro i w hw hack
      obtain ⟨before, after, hall', hbefore⟩ := h.acknowledged i w hw hack
      exact ⟨before, after, hall', hbefore.trans (List.prefix_append _ _)⟩
    · refine ⟨done ++ [.packet data], rest, by simp [hall], hrest, ?_, ?_⟩
      · simp [hwritten]
      · simp [hpassed]
  case h_2 => exact h

theorem Flow.writerStep (hreg : s.Registered) (action : WriterAction) :
    (s.writerStep action).Flow := by
  cases action with
  | receive => exact h.receive
  | acknowledge => exact h.acknowledge hreg
  | beginWrite => exact h.beginWrite
  | writeOk => exact h.writeOk
  | writeErr | stopWriter | setClosed | dropReceiver =>
    rw [FenceSystem.writerStep]
    split
    all_goals first | exact h | exact h.of_onward (Onward.of_same rfl) rfl rfl rfl trivial
  | clearPending =>
    rw [FenceSystem.writerStep]
    split
    · exact h.of_onward (Onward.clearPending.trans (Onward.of_same rfl)) rfl rfl rfl trivial
    · exact h

theorem Flow.step (hreg : s.Registered) (action : FenceAction)
    (hdata : ∀ data, action = .sendPacket data → ¬writeFencePrefix <+: data) :
    (s.step action).Flow := by
  cases action with
  | sendPacket data => exact h.sendPacket (hdata data rfl)
  | startWait => exact h.startWait
  | wait index action =>
    rw [FenceSystem.step]
    cases hw : s.waits[index]? with
    | none => exact h
    | some w => exact h.waitStep hreg hw action
  | writer action => exact h.writerStep hreg action

end Flow

theorem Flow.initial : FenceSystem.initial.Flow where
  passed := List.prefix_rfl
  written := List.prefix_rfl
  acknowledged := fun _ _ hw => nomatch hw
  once := List.nodup_nil
  sent := fun _ hi => nomatch hi
  packets := fun _ hdata => nomatch hdata
  line := ⟨[], [], rfl, rfl, rfl, rfl⟩

end FenceSystem

end RustyCore.Network
