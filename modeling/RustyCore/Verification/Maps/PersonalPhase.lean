import RustyCore.Library.DictSum
import RustyCore.Library.Run
import RustyCore.Model.Maps.PersonalPhase

/-! # Countdowns of personal phases

A countdown belongs to a phase of an owner, not to an object. It is started when the owner's
shift loses the phase, so the time since then bounds the time of every object of the phase, as
long as the phase has been tracked throughout. -/

namespace RustyCore.Maps

open MultiPersonalPhaseTracker

variable {phaseId : ℕ} {spawns : PersonalPhaseSpawns} {owner : ObjectGuid}
  {m : MultiPersonalPhaseTracker}

def MultiPersonalPhaseTracker.spawnsOf (m : MultiPersonalPhaseTracker) (owner : ObjectGuid)
    (phaseId : ℕ) : Option PersonalPhaseSpawns :=
  (m.playerData.lookup owner).bind fun tracker => tracker.spawns.lookup phaseId

namespace PhaseCall

def countdownAfter (owner : ObjectGuid) (phaseId : ℕ) (remaining : Option ℤ) :
    PhaseCall → Option ℤ
  | ownerPhaseChanged phaseOwner phaseShift =>
    if phaseOwner ≠ owner then remaining
    else if phaseShift.hasPhase phaseId then none
    else some (remaining.getD personalPhaseDeleteTimeDefaultMs)
  | markAllForDeletion phaseOwner =>
    if phaseOwner ≠ owner then remaining else some personalPhaseDeleteTimeDefaultMs
  | update diffMs => remaining.map (· - (diffMs : ℤ))
  | _ => remaining

/-- Whether the owner's shift contains the phase after a call; a mark for deletion ends every
phase of the owner. -/
def containsAfter (owner : ObjectGuid) (phaseId : ℕ) (contains : Bool) : PhaseCall → Bool
  | ownerPhaseChanged phaseOwner phaseShift =>
    if phaseOwner = owner then phaseShift.hasPhase phaseId else contains
  | markAllForDeletion phaseOwner => if phaseOwner = owner then false else contains
  | _ => contains

def elapsedMs : PhaseCall → ℕ
  | update diffMs => diffMs
  | _ => 0

def registers (object : ObjectGuid) : PhaseCall → Bool
  | register _ _ registered => registered = object
  | _ => false

end PhaseCall

def shiftContains (owner : ObjectGuid) (phaseId : ℕ) (calls : List PhaseCall) : Bool :=
  run (PhaseCall.containsAfter owner phaseId) false calls

/-- The sum of the update diffs. -/
def elapsedMs (calls : List PhaseCall) : ℕ := (calls.map PhaseCall.elapsedMs).sum

/-- How often the calls return the object. -/
def despawnCount (object : ObjectGuid) (calls : List PhaseCall) : ℕ :=
  runSum PhaseCall.apply (fun m call => (call.despawned m).count object) .default calls

/-! ## What a call does to the spawns of a phase -/

theorem lookup_dropEmpty {tracker : PlayerPersonalPhasesTracker}
    (h : tracker.dropEmpty.spawns.lookup phaseId = some spawns) :
    tracker.spawns.lookup phaseId = some spawns := by
  rw [PlayerPersonalPhasesTracker.dropEmpty, Dict.lookup_retain,
    Option.filter_eq_some_iff] at h
  exact h.1

theorem spawnsOf_dropEmpty (h : m.dropEmpty.spawnsOf owner phaseId = some spawns) :
    m.spawnsOf owner phaseId = some spawns := by
  obtain ⟨tracker, htracker, hspawns⟩ := Option.bind_eq_some_iff.mp h
  rw [MultiPersonalPhaseTracker.dropEmpty, Dict.lookup_retain,
    Option.filter_eq_some_iff] at htracker
  exact Option.bind_eq_some_iff.mpr ⟨tracker, htracker.1, hspawns⟩

theorem spawnsOf_modify (m : MultiPersonalPhaseTracker) (phaseOwner owner : ObjectGuid)
    (f : PlayerPersonalPhasesTracker → PlayerPersonalPhasesTracker) (phaseId : ℕ) :
    spawnsOf ⟨m.playerData.modify phaseOwner f⟩ owner phaseId =
      if owner = phaseOwner then
        (m.playerData.lookup owner).bind fun tracker => (f tracker).spawns.lookup phaseId
      else m.spawnsOf owner phaseId := by
  simp only [spawnsOf, Dict.lookup_modify]
  split
  · rename_i heq
    rw [heq, Option.bind_map]
    rfl
  · rfl

theorem lookup_stopCountdowns (phases : List PhaseRef) (spawns : Dict ℕ PersonalPhaseSpawns)
    (phaseId : ℕ) :
    (phases.foldl (fun spawns phase => spawns.modify phase.id
        fun tracked => { tracked with durationRemainingMs := none }) spawns).lookup phaseId =
      (spawns.lookup phaseId).map fun tracked =>
        if phases.any (·.id = phaseId) then { tracked with durationRemainingMs := none }
        else tracked := by
  induction phases generalizing spawns with
  | nil => simp
  | cons phase phases ih =>
    rw [List.foldl_cons, ih, Dict.lookup_modify]
    by_cases hid : phaseId = phase.id
    · subst hid
      rw [if_pos rfl, Option.map_map]
      congr 1
      funext tracked
      simp
    · rw [if_neg hid]
      simp [Ne.symm hid]

theorem lookup_onOwnerPhasesChanged (tracker : PlayerPersonalPhasesTracker)
    (phaseShift : PhaseShift) (phaseId : ℕ) :
    (tracker.onOwnerPhasesChanged phaseShift).spawns.lookup phaseId =
      (tracker.spawns.lookup phaseId).map fun spawns =>
        { spawns with
          durationRemainingMs :=
            if phaseShift.hasPhase phaseId then none
            else some (spawns.durationRemainingMs.getD personalPhaseDeleteTimeDefaultMs) } := by
  rw [PlayerPersonalPhasesTracker.onOwnerPhasesChanged, lookup_stopCountdowns,
    Dict.lookup_mapValues, Option.map_map]
  congr 1
  funext spawns
  simp only [Function.comp_apply, PersonalPhaseSpawns.startCountdown]
  change (if phaseShift.hasPhase phaseId = true then _ else _) = _
  cases phaseShift.hasPhase phaseId with
  | true => simp
  | false =>
    cases hremaining : spawns.durationRemainingMs with
    | none => simp
    | some remaining =>
      cases spawns
      cases hremaining
      simp

/-- The spawns of a phase after a call are new ones with the registered object, or fewer of the
objects that were there before, with the countdown of the call. -/
theorem spawnsOf_apply {call : PhaseCall}
    (h : (call.apply m).spawnsOf owner phaseId = some spawns) :
    (∃ object, call = .register phaseId owner object ∧
      spawns = { (m.spawnsOf owner phaseId).getD .default with
        objects := ((m.spawnsOf owner phaseId).getD .default).objects.insert object }) ∨
    ∃ before, m.spawnsOf owner phaseId = some before ∧
      (∀ object ∈ spawns.objects, object ∈ before.objects) ∧
      spawns.durationRemainingMs =
        call.countdownAfter owner phaseId before.durationRemainingMs := by
  cases call with
  | register phaseId' phaseOwner object =>
    simp only [PhaseCall.apply, registerTrackedObject] at h
    split at h
    · simp only [Option.getD_some, spawnsOf, Dict.lookup_insert_eq] at h
      by_cases howner : owner = phaseOwner
      · subst howner
        rw [if_pos rfl, Option.bind_some, PlayerPersonalPhasesTracker.registerTrackedObject,
          Dict.lookup_insert_eq] at h
        have hbefore : ((m.playerData.lookup owner).getD .default).spawns.lookup phaseId =
            m.spawnsOf owner phaseId := by
          unfold spawnsOf
          cases m.playerData.lookup owner <;> rfl
        by_cases hphase : phaseId = phaseId'
        · subst hphase
          rw [if_pos rfl, hbefore] at h
          cases h
          exact .inl ⟨object, rfl, rfl⟩
        · rw [if_neg hphase, hbefore] at h
          exact .inr ⟨spawns, h, fun _ hmem => hmem, rfl⟩
      · rw [if_neg howner] at h
        exact .inr ⟨spawns, h, fun _ hmem => hmem, rfl⟩
    · exact .inr ⟨spawns, h, fun _ hmem => hmem, rfl⟩
  | unregister phaseOwner object =>
    right
    simp only [PhaseCall.apply, unregisterTrackedObjectForPhaseOwner] at h
    split at h
    · exact ⟨spawns, h, fun _ hmem => hmem, rfl⟩
    · split at h
      · exact ⟨spawns, spawnsOf_dropEmpty h, fun _ hmem => hmem, rfl⟩
      · rename_i tracker htracker
        have h := spawnsOf_dropEmpty h
        simp only [spawnsOf, Dict.lookup_insert_eq] at h
        by_cases howner : owner = phaseOwner
        · subst howner
          rw [if_pos rfl, Option.bind_some] at h
          have h := lookup_dropEmpty h
          rw [Dict.lookup_mapValues, Option.map_eq_some_iff] at h
          obtain ⟨before, hbefore, rfl⟩ := h
          exact ⟨before, Option.bind_eq_some_iff.mpr ⟨tracker, htracker, hbefore⟩,
            fun _ hmem => (SortedSet.mem_erase.mp hmem).2, rfl⟩
        · rw [if_neg howner] at h
          exact ⟨spawns, h, fun _ hmem => hmem, rfl⟩
  | ownerPhaseChanged phaseOwner phaseShift =>
    right
    simp only [PhaseCall.apply, onOwnerPhaseChanged, spawnsOf_modify] at h
    by_cases howner : owner = phaseOwner
    · subst howner
      simp only [if_true, lookup_onOwnerPhasesChanged] at h
      obtain ⟨tracker, htracker, h⟩ := Option.bind_eq_some_iff.mp h
      obtain ⟨before, hbefore, rfl⟩ := Option.map_eq_some_iff.mp h
      exact ⟨before, Option.bind_eq_some_iff.mpr ⟨tracker, htracker, hbefore⟩,
        fun _ hmem => hmem, by simp [PhaseCall.countdownAfter]⟩
    · rw [if_neg howner] at h
      exact ⟨spawns, h, fun _ hmem => hmem, by
        simp [PhaseCall.countdownAfter, Ne.symm howner]⟩
  | markAllForDeletion phaseOwner =>
    right
    simp only [PhaseCall.apply, markAllPhasesForDeletion, spawnsOf_modify] at h
    by_cases howner : owner = phaseOwner
    · subst howner
      simp only [if_true, PlayerPersonalPhasesTracker.markAllPhasesForDeletion,
        Dict.lookup_mapValues] at h
      obtain ⟨tracker, htracker, h⟩ := Option.bind_eq_some_iff.mp h
      obtain ⟨before, hbefore, rfl⟩ := Option.map_eq_some_iff.mp h
      exact ⟨before, Option.bind_eq_some_iff.mpr ⟨tracker, htracker, hbefore⟩,
        fun _ hmem => hmem, by simp [PhaseCall.countdownAfter]⟩
    · rw [if_neg howner] at h
      exact ⟨spawns, h, fun _ hmem => hmem, by
        simp [PhaseCall.countdownAfter, Ne.symm howner]⟩
  | unloadGrid gridId =>
    right
    have h := spawnsOf_dropEmpty h
    simp only [spawnsOf, Dict.lookup_mapValues] at h
    obtain ⟨_, hafter, h⟩ := Option.bind_eq_some_iff.mp h
    obtain ⟨tracker, htracker, rfl⟩ := Option.map_eq_some_iff.mp hafter
    have h := lookup_dropEmpty h
    rw [Dict.lookup_mapValues, Option.map_eq_some_iff] at h
    obtain ⟨before, hbefore, rfl⟩ := h
    exact ⟨before, Option.bind_eq_some_iff.mpr ⟨tracker, htracker, hbefore⟩,
      fun _ hmem => hmem, rfl⟩
  | update diffMs =>
    right
    have h := spawnsOf_dropEmpty h
    simp only [spawnsOf, Dict.lookup_mapValues] at h
    obtain ⟨_, hafter, h⟩ := Option.bind_eq_some_iff.mp h
    obtain ⟨tracker, htracker, rfl⟩ := Option.map_eq_some_iff.mp hafter
    rw [PlayerPersonalPhasesTracker.update, Dict.lookup_retain, Option.filter_eq_some_iff,
      Dict.lookup_mapValues, Option.map_eq_some_iff] at h
    obtain ⟨⟨before, hbefore, rfl⟩, _⟩ := h
    exact ⟨before, Option.bind_eq_some_iff.mpr ⟨tracker, htracker, hbefore⟩,
      fun _ hmem => hmem, rfl⟩

/-! ## Countdowns -/

theorem elapsedMs_concat (calls : List PhaseCall) (call : PhaseCall) :
    elapsedMs (calls ++ [call]) = elapsedMs calls + call.elapsedMs := by
  simp [elapsedMs]

theorem shiftContains_concat (owner : ObjectGuid) (phaseId : ℕ) (calls : List PhaseCall)
    (call : PhaseCall) :
    shiftContains owner phaseId (calls ++ [call]) =
      call.containsAfter owner phaseId (shiftContains owner phaseId calls) :=
  run_concat _ _ _ _

/-- A countdown that runs after a call was started by it, or ran before it already. -/
theorem countdown_before {call : PhaseCall} {remaining : Option ℤ} {left : ℤ} {contains : Bool}
    (h : call.countdownAfter owner phaseId remaining = some left)
    (hcontains : remaining ≠ none → contains = false) :
    call.containsAfter owner phaseId contains = false ∧
      (left = personalPhaseDeleteTimeDefaultMs ∨ remaining = some (left + call.elapsedMs)) := by
  have hkept (hsame : remaining = some left) :
      contains = false ∧ (left = personalPhaseDeleteTimeDefaultMs ∨ remaining = some (left + 0)) :=
    ⟨hcontains (by simp [hsame]), .inr (by simpa using hsame)⟩
  cases call with
  | register => exact hkept h
  | unregister => exact hkept h
  | unloadGrid => exact hkept h
  | ownerPhaseChanged phaseOwner phaseShift =>
    by_cases howner : phaseOwner = owner
    · cases hphase : phaseShift.hasPhase phaseId with
      | true => simp [PhaseCall.countdownAfter, howner, hphase] at h
      | false =>
        refine ⟨by simp [PhaseCall.containsAfter, howner, hphase], ?_⟩
        cases remaining with
        | none =>
          simp [PhaseCall.countdownAfter, howner, hphase] at h
          exact .inl h.symm
        | some before =>
          simp [PhaseCall.countdownAfter, howner, hphase] at h
          exact .inr (by simp [h, PhaseCall.elapsedMs])
    · simp only [PhaseCall.countdownAfter, ne_eq, howner, not_false_eq_true, if_true] at h
      simpa [PhaseCall.containsAfter, PhaseCall.elapsedMs, howner] using hkept h
  | markAllForDeletion phaseOwner =>
    by_cases howner : phaseOwner = owner
    · simp [PhaseCall.countdownAfter, howner] at h
      exact ⟨by simp [PhaseCall.containsAfter, howner], .inl h.symm⟩
    · simp only [PhaseCall.countdownAfter, ne_eq, howner, not_false_eq_true, if_true] at h
      simpa [PhaseCall.containsAfter, PhaseCall.elapsedMs, howner] using hkept h
  | update diffMs =>
    obtain ⟨before, hbefore, rfl⟩ := Option.map_eq_some_iff.mp h
    exact ⟨hcontains (by simp [hbefore]), .inr (by simp [hbefore, PhaseCall.elapsedMs])⟩

/-- While a countdown runs, the owner's shift does not contain the phase, and the countdown has
not run for longer than since it did, or since the phase was not tracked. -/
def CountingDown (owner : ObjectGuid) (phaseId : ℕ) (calls : List PhaseCall) : Prop :=
  ∀ spawns left, (run PhaseCall.apply .default calls).spawnsOf owner phaseId = some spawns →
    spawns.durationRemainingMs = some left →
    shiftContains owner phaseId calls = false ∧
    ∀ before after, calls = before ++ after →
      shiftContains owner phaseId before = true ∨
        (run PhaseCall.apply .default before).spawnsOf owner phaseId = none →
      personalPhaseDeleteTimeDefaultMs ≤ left + elapsedMs after

theorem countingDown (owner : ObjectGuid) (phaseId : ℕ) (calls : List PhaseCall) :
    CountingDown owner phaseId calls := by
  induction calls using List.reverseRecOn with
  | nil => exact fun spawns left hspawns => by cases hspawns
  | append_singleton calls call ih =>
    intro spawns left hspawns hleft
    rw [run_concat] at hspawns
    -- a countdown before the call is the one of the phase in the state before it
    have hbefore : ∃ remaining, call.countdownAfter owner phaseId remaining = some left ∧
        ∀ left', remaining = some left' →
          shiftContains owner phaseId calls = false ∧
          ∀ before after, calls = before ++ after →
            shiftContains owner phaseId before = true ∨
              (run PhaseCall.apply .default before).spawnsOf owner phaseId = none →
            personalPhaseDeleteTimeDefaultMs ≤ left' + elapsedMs after := by
      rcases spawnsOf_apply hspawns with ⟨object, rfl, rfl⟩ | ⟨tracked, htracked, _, hcountdown⟩
      · cases hold : (run PhaseCall.apply .default calls).spawnsOf owner phaseId with
        | none =>
          rw [hold] at hleft
          cases hleft
        | some tracked =>
          rw [hold] at hleft
          exact ⟨some left, rfl, fun left' h => ih tracked left' hold (hleft.trans h)⟩
      · exact ⟨tracked.durationRemainingMs, hcountdown ▸ hleft,
          fun left' h => ih tracked left' htracked h⟩
    obtain ⟨remaining, hcountdown, ih⟩ := hbefore
    have hnot : remaining ≠ none → shiftContains owner phaseId calls = false := by
      intro hne
      obtain ⟨left', h⟩ := Option.ne_none_iff_exists'.mp hne
      exact (ih left' h).1
    obtain ⟨hcontains, hstart⟩ := countdown_before hcountdown hnot
    rw [← shiftContains_concat] at hcontains
    refine ⟨hcontains, fun before after hsplit hsince => ?_⟩
    rcases List.eq_nil_or_concat after with rfl | ⟨after, last, rfl⟩
    · rw [List.append_nil] at hsplit
      subst hsplit
      rcases hsince with hsince | hsince
      · rw [hcontains] at hsince
        cases hsince
      · rw [run_concat, hspawns] at hsince
        cases hsince
    · rw [List.concat_eq_append, ← List.append_assoc] at hsplit
      obtain ⟨rfl, hlast⟩ := List.append_inj' hsplit rfl
      cases hlast
      rw [List.concat_eq_append, elapsedMs_concat]
      rcases hstart with hstart | hstart
      · omega
      · have := (ih _ hstart).2 before after rfl hsince
        push_cast
        omega

theorem registered_of_tracked {calls : List PhaseCall} {object : ObjectGuid}
    (h : (run PhaseCall.apply .default calls).spawnsOf owner phaseId = some spawns)
    (hobject : object ∈ spawns.objects) : .register phaseId owner object ∈ calls := by
  induction calls using List.reverseRecOn generalizing spawns with
  | nil => cases h
  | append_singleton calls call ih =>
    rw [run_concat] at h
    rw [List.mem_append, List.mem_singleton]
    rcases spawnsOf_apply h with ⟨added, rfl, rfl⟩ | ⟨tracked, htracked, hsub, _⟩
    · rcases SortedSet.mem_insert.mp hobject with rfl | hold
      · exact .inr rfl
      · left
        cases htracked : (run PhaseCall.apply .default calls).spawnsOf owner phaseId with
        | none =>
          rw [htracked] at hold
          exact absurd hold SortedSet.not_mem_empty
        | some tracked =>
          rw [htracked] at hold
          exact ih htracked hold
    · exact .inl (ih htracked (hsub object hobject))

theorem over_of_mem_update {diffMs : ℕ} {object : ObjectGuid} (h : object ∈ (m.update diffMs).1) :
    ∃ owner phaseId spawns left, m.spawnsOf owner phaseId = some spawns ∧
      object ∈ spawns.objects ∧ spawns.durationRemainingMs = some left ∧ left ≤ diffMs := by
  obtain ⟨⟨owner, tracker⟩, htracker, h⟩ := List.mem_flatMap.mp h
  obtain ⟨⟨phaseId, after⟩, hafter, h⟩ := List.mem_flatMap.mp h
  rw [Dict.mem_ascending] at htracker hafter
  rw [Dict.lookup_mapValues, Option.map_eq_some_iff] at hafter
  obtain ⟨spawns, hspawns, rfl⟩ := hafter
  split at h
  · rename_i hover
    simp only [PersonalPhaseSpawns.isOver, PersonalPhaseSpawns.countDown,
      Option.any_eq_true, Option.map_eq_some_iff] at hover
    obtain ⟨_, ⟨left, hleft, rfl⟩, hover⟩ := hover
    refine ⟨owner, phaseId, spawns, left, Option.bind_eq_some_iff.mpr ⟨tracker, htracker, hspawns⟩,
      h, hleft, ?_⟩
    have := of_decide_eq_true hover
    omega
  · cases h

/-! ## Registrations -/

def trackedIn (object : ObjectGuid) (spawns : PersonalPhaseSpawns) : ℕ :=
  spawns.objects.toList.count object

/-- How often an object is tracked for the phases of one owner. -/
def trackedBy (object : ObjectGuid) (tracker : PlayerPersonalPhasesTracker) : ℕ :=
  tracker.spawns.sumBy fun _ => trackedIn object

/-- How often an object is tracked. -/
def tracked (object : ObjectGuid) (m : MultiPersonalPhaseTracker) : ℕ :=
  m.playerData.sumBy fun _ => trackedBy object

theorem trackedBy_dropEmpty_le (object : ObjectGuid) (tracker : PlayerPersonalPhasesTracker) :
    trackedBy object tracker.dropEmpty ≤ trackedBy object tracker :=
  Dict.sumBy_retain_le (fun _ => trackedIn object) (fun _ spawns => !spawns.isEmpty) tracker.spawns

theorem tracked_dropEmpty_le (object : ObjectGuid) (m : MultiPersonalPhaseTracker) :
    tracked object m.dropEmpty ≤ tracked object m :=
  Dict.sumBy_retain_le (fun _ => trackedBy object) (fun _ tracker => !tracker.isEmpty) m.playerData

theorem trackedBy_mapValues_le (object : ObjectGuid) (spawns : Dict ℕ PersonalPhaseSpawns)
    {f : ℕ → PersonalPhaseSpawns → PersonalPhaseSpawns}
    (hf : ∀ phaseId spawns, trackedIn object (f phaseId spawns) ≤ trackedIn object spawns) :
    trackedBy object ⟨spawns.mapValues f⟩ ≤ trackedBy object ⟨spawns⟩ := by
  rw [trackedBy, Dict.sumBy_mapValues]
  exact Dict.sumBy_le_sumBy hf

theorem trackedBy_registerTrackedObject_le (object registered : ObjectGuid) (phaseId : ℕ)
    (tracker : PlayerPersonalPhasesTracker) :
    trackedBy object (tracker.registerTrackedObject phaseId registered) ≤
      (if registered = object then 1 else 0) + trackedBy object tracker := by
  refine Dict.sumBy_insert_le ((count_insertSorted_le registered object _).trans_eq ?_)
  cases tracker.spawns.lookup phaseId <;> rfl

theorem trackedBy_unregisterTrackedObject_le (object removed : ObjectGuid)
    (tracker : PlayerPersonalPhasesTracker) :
    trackedBy object (tracker.unregisterTrackedObject removed).2 ≤ trackedBy object tracker :=
  (trackedBy_dropEmpty_le object _).trans
    (trackedBy_mapValues_le object _ fun _ spawns => (spawns.objects.erase_sublist removed).count_le object)

theorem trackedBy_onOwnerPhasesChanged_le (object : ObjectGuid) (phaseShift : PhaseShift)
    (tracker : PlayerPersonalPhasesTracker) :
    trackedBy object (tracker.onOwnerPhasesChanged phaseShift) ≤ trackedBy object tracker := by
  have hstop (phases : List PhaseRef) (spawns : Dict ℕ PersonalPhaseSpawns) :
      trackedBy object ⟨phases.foldl (fun spawns phase => spawns.modify phase.id
        fun tracked => { tracked with durationRemainingMs := none }) spawns⟩ ≤
      trackedBy object ⟨spawns⟩ := by
    induction phases generalizing spawns with
    | nil => exact le_rfl
    | cons phase phases ih =>
      exact (ih _).trans (Dict.sumBy_modify_le _ phase.id _ spawns fun _ => le_rfl)
  refine (hstop phaseShift.phases _).trans (trackedBy_mapValues_le object _ fun _ spawns => ?_)
  unfold PersonalPhaseSpawns.startCountdown
  split <;> exact le_rfl

/-- What an update returns and what it leaves were tracked before it. -/
theorem count_update_add_trackedBy_le (object : ObjectGuid) (diffMs : ℕ)
    (tracker : PlayerPersonalPhasesTracker) :
    (tracker.update diffMs).1.count object + trackedBy object (tracker.update diffMs).2 ≤
      trackedBy object tracker := by
  have hreturned := Dict.count_flatMap_ascending
    (fun _ spawns => if spawns.isOver then spawns.objects.toList else []) object
    (tracker.spawns.mapValues fun _ spawns => spawns.countDown diffMs)
  have hleft := Dict.sumBy_retain (fun _ => trackedIn object) (fun _ spawns => !spawns.isOver)
    (tracker.spawns.mapValues fun _ spawns => spawns.countDown diffMs)
  rw [Dict.sumBy_mapValues] at hreturned hleft
  simp only [PlayerPersonalPhasesTracker.update, trackedBy]
  rw [hleft, hreturned, ← Dict.sumBy_add]
  refine Dict.sumBy_le_sumBy fun _ spawns => ?_
  cases (spawns.countDown diffMs).isOver with
  | true => exact le_rfl
  | false => simp [trackedIn, PersonalPhaseSpawns.countDown]

/-- What a call returns was tracked before it, and what it tracks anew is registered by it. -/
theorem count_despawned_add_tracked_le (object : ObjectGuid) (call : PhaseCall)
    (m : MultiPersonalPhaseTracker) :
    (call.despawned m).count object + tracked object (call.apply m) ≤
      (if call.registers object then 1 else 0) + tracked object m := by
  have hquiet (h : tracked object (call.apply m) ≤ tracked object m)
      (hnone : call.despawned m = []) :
      (call.despawned m).count object + tracked object (call.apply m) ≤
        (if call.registers object then 1 else 0) + tracked object m := by
    rw [hnone, List.count_nil]
    omega
  cases call with
  | register phaseId owner registered =>
    by_cases hvalid : phaseId ≠ 0 ∧ owner ≠ .empty ∧ registered ≠ .empty
    · simp only [PhaseCall.despawned, List.count_nil, PhaseCall.apply,
        registerTrackedObject, if_pos hvalid, Option.getD_some, PhaseCall.registers,
        decide_eq_true_eq, Nat.zero_add]
      refine Dict.sumBy_insert_le
        ((trackedBy_registerTrackedObject_le object registered phaseId _).trans_eq ?_)
      cases m.playerData.lookup owner <;> rfl
    · refine hquiet ?_ rfl
      rw [PhaseCall.apply, registerTrackedObject, if_neg hvalid, Option.getD_none]
  | unregister owner removed =>
    refine hquiet ?_ rfl
    simp only [PhaseCall.apply, unregisterTrackedObjectForPhaseOwner]
    split
    · exact le_rfl
    · split
      · exact tracked_dropEmpty_le object m
      · rename_i tracker htracker
        refine (tracked_dropEmpty_le object _).trans ?_
        refine (Dict.sumBy_insert_le ?_).trans_eq (Nat.zero_add _)
        rw [htracker, Nat.zero_add]
        exact trackedBy_unregisterTrackedObject_le object removed tracker
  | ownerPhaseChanged owner phaseShift =>
    exact hquiet (Dict.sumBy_modify_le _ owner _ m.playerData
      fun tracker => trackedBy_onOwnerPhasesChanged_le object phaseShift tracker) rfl
  | markAllForDeletion owner =>
    exact hquiet (Dict.sumBy_modify_le _ owner _ m.playerData
      fun tracker => trackedBy_mapValues_le object tracker.spawns fun _ _ => le_rfl) rfl
  | unloadGrid gridId =>
    refine hquiet ((tracked_dropEmpty_le object _).trans ?_) rfl
    rw [tracked, Dict.sumBy_mapValues]
    exact Dict.sumBy_le_sumBy fun _ tracker => (trackedBy_dropEmpty_le object _).trans
      (trackedBy_mapValues_le object tracker.spawns fun _ _ => le_rfl)
  | update diffMs =>
    have hdrop := tracked_dropEmpty_le object
      ⟨m.playerData.mapValues fun _ tracker => (tracker.update diffMs).2⟩
    have hcount : (m.update diffMs).1.count object +
        tracked object ⟨m.playerData.mapValues fun _ tracker => (tracker.update diffMs).2⟩ ≤
          tracked object m := by
      rw [tracked, Dict.sumBy_mapValues, MultiPersonalPhaseTracker.update,
        Dict.count_flatMap_ascending fun _ tracker =>
          (PlayerPersonalPhasesTracker.update diffMs tracker).1, ← Dict.sumBy_add]
      exact Dict.sumBy_le_sumBy fun _ tracker =>
        count_update_add_trackedBy_le object diffMs tracker
    have hzero : (if (PhaseCall.update diffMs).registers object then 1 else 0) = 0 := rfl
    change (m.update diffMs).1.count object + tracked object (m.update diffMs).2 ≤ _
    rw [hzero, Nat.zero_add]
    exact (Nat.add_le_add_left hdrop _).trans hcount

theorem despawnCount_le (object : ObjectGuid) (calls : List PhaseCall) :
    despawnCount object calls ≤ calls.countP fun call => call.registers object := by
  have hstep (call : PhaseCall) (m : MultiPersonalPhaseTracker) :
      (call.despawned m).count object + tracked object (call.apply m) ≤
        (if call.registers object then 1 else 0) + tracked object m :=
    count_despawned_add_tracked_le object call m
  have hrun := runSum_add_le (tracked object) MultiPersonalPhaseTracker.default
    fun call (_ : call ∈ calls) m => hstep call m
  rw [runSum_eq_countP] at hrun
  exact (Nat.le_add_right _ _).trans hrun

/-! ## The delay -/

/-- Every object is returned at most once per registration, and an object that an update returns
is tracked for a phase of an owner for which it was registered, and the update diffs sum to the
delay since the owner's shift contained the phase, and since the phase was not tracked. -/
theorem despawned_after_delay (calls : List PhaseCall) (object : ObjectGuid) :
    despawnCount object calls ≤ (calls.countP fun call => call.registers object) ∧
    ∀ diffMs, object ∈ ((run PhaseCall.apply .default calls).update diffMs).1 →
      ∃ owner phaseId, .register phaseId owner object ∈ calls ∧
        ∀ before after, calls = before ++ after →
          shiftContains owner phaseId before = true ∨
            (run PhaseCall.apply .default before).spawnsOf owner phaseId = none →
          personalPhaseDeleteTimeDefaultMs ≤ elapsedMs after + diffMs := by
  refine ⟨despawnCount_le object calls, fun diffMs h => ?_⟩
  obtain ⟨owner, phaseId, spawns, left, hspawns, hobject, hleft, hover⟩ := over_of_mem_update h
  refine ⟨owner, phaseId, registered_of_tracked hspawns hobject, fun before after hsplit hsince => ?_⟩
  have := (countingDown owner phaseId calls spawns left hspawns hleft).2 before after hsplit hsince
  omega

def phaseOwner : ObjectGuid := .createPlayer 1 100

def phaseCreature (counter : BitVec 64) : ObjectGuid :=
  .createWorldObject ObjectGuid.highGuidCreature 0 1 571 1 42 counter

/-- The owner has left the phase for a minute but a millisecond. -/
def almostOver : List PhaseCall :=
  [.register 9 phaseOwner (phaseCreature 100), .ownerPhaseChanged phaseOwner .empty,
    .update 59999]

/-- The owner is in the phase, whose deletion has been marked. -/
def markedInPhase : List PhaseCall :=
  [.register 9 phaseOwner (phaseCreature 100),
    .ownerPhaseChanged phaseOwner ⟨some phaseOwner, [⟨9, true⟩]⟩,
    .markAllForDeletion phaseOwner, .update 59999]

/-- An object that is registered for a phase which is counting down already is returned after one
millisecond, and so is one of a phase that the owner's last shift contains. -/
theorem late_object_despawned_early :
    let late := almostOver ++ [.register 9 phaseOwner (phaseCreature 101)]
    (∀ call ∈ almostOver, call.registers (phaseCreature 101) = false) ∧
      phaseCreature 101 ∈ ((run PhaseCall.apply .default late).update 1).1 ∧
      phaseCreature 100 ∈ ((run PhaseCall.apply .default markedInPhase).update 1).1 ∧
      ¬ personalPhaseDeleteTimeDefaultMs ≤ elapsedMs [] + (1 : ℕ) := by
  decide

end RustyCore.Maps
