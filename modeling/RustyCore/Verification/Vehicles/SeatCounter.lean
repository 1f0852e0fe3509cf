import RustyCore.Library.DictSum
import RustyCore.Library.Run
import RustyCore.Model.Vehicles.Vehicle

/-! # The counter of usable seats

The counter of a vehicle against its seats, along any run of the calls that move passengers:
which calls leave it exact. -/

namespace RustyCore.Vehicles

open Vehicle

variable {φ : Type*}
variable {vehicle : Vehicle φ} {seat : VehicleSeat φ} {seatId : ℤ}
variable {seats : Dict ℤ (VehicleSeat φ)} {passenger : ObjectGuid}

/-! ## What is counted -/

/-- The seat can be entered and nobody sits in it. -/
def VehicleSeat.isUsable (seat : VehicleSeat φ) : Bool :=
  seat.seatInfo.canEnterOrExit && seat.isEmpty

namespace Vehicle

def usableSeats (vehicle : Vehicle φ) : ℕ := vehicle.seats.values.countP VehicleSeat.isUsable

def Exact (vehicle : Vehicle φ) : Prop := vehicle.usableSeatNum = vehicle.usableSeats

instance (vehicle : Vehicle φ) : Decidable vehicle.Exact := inferInstanceAs (Decidable (_ = _))

/-- Nobody sits in a seat that can be entered. -/
def Vacant (vehicle : Vehicle φ) : Prop :=
  ∀ seat ∈ vehicle.seats.values, seat.seatInfo.canEnterOrExit = true → seat.isEmpty = true

instance (vehicle : Vehicle φ) : Decidable vehicle.Vacant :=
  inferInstanceAs (Decidable (∀ seat ∈ vehicle.seats.values, _))

end Vehicle

/-! ## Calls -/

inductive VehicleOp where
  | install
  | addPendingEvent (passenger : ObjectGuid) (seatId : ℤ)
  | addVehiclePassengerPlan (passenger : ObjectGuid) (seatId : ℤ)
  | vehicleJoinExecutePlan (passenger : ObjectGuid) (seatId : ℤ) (facts : JoinFacts)
  | addVehiclePassenger (passenger : ObjectGuid) (seatId : ℤ)
  | removePassengerPlan (passenger : ObjectGuid) (passengerTypeId : TypeId)
      (baseIsInWorld baseHasTransport passengerIsFlying baseAiEnabled : Bool)
  | removeAllPassengersPlan
  | uninstall
  | installAllAccessoriesPlan (evading : Bool) (accessories : List VehicleAccessory)
  | resetPlan (evading baseIsAlive isMechanicalCreature isWorldBoss : Bool)
      (accessories : List VehicleAccessory)
  | removePendingEventsForPassengerPlan (passenger : ObjectGuid)
  | removePendingEventsForSeatPlan (seatId : ℤ)
deriving DecidableEq

def vehicleStep (vehicle : Vehicle φ) : VehicleOp → Vehicle φ
  | .install => vehicle.install
  | .addPendingEvent passenger seatId => vehicle.addPendingEvent passenger seatId
  | .addVehiclePassengerPlan passenger seatId =>
    (vehicle.addVehiclePassengerPlan passenger seatId).2
  | .vehicleJoinExecutePlan passenger seatId facts =>
    (vehicle.vehicleJoinExecutePlan passenger seatId facts).2
  | .addVehiclePassenger passenger seatId => (vehicle.addVehiclePassenger passenger seatId).2
  | .removePassengerPlan passenger passengerTypeId inWorld onTransport flying aiEnabled =>
    (vehicle.removePassengerPlan passenger passengerTypeId inWorld onTransport flying aiEnabled).2
  | .removeAllPassengersPlan => vehicle.removeAllPassengersPlan.2
  | .uninstall => vehicle.uninstall
  | .installAllAccessoriesPlan evading accessories =>
    (vehicle.installAllAccessoriesPlan evading accessories).2
  | .resetPlan evading baseIsAlive isMechanicalCreature isWorldBoss accessories =>
    (vehicle.resetPlan evading baseIsAlive isMechanicalCreature isWorldBoss accessories).2
  | .removePendingEventsForPassengerPlan passenger =>
    (vehicle.removePendingEventsForPassengerPlan passenger).2
  | .removePendingEventsForSeatPlan seatId => (vehicle.removePendingEventsForSeatPlan seatId).2

/-- A removed passenger has a guid. -/
def VehicleOp.Legal : VehicleOp → Prop
  | .removePassengerPlan passenger .. => passenger.isEmpty = false
  | _ => True

/-- The call takes 1 from a counter that is 0. -/
def Underflows (vehicle : Vehicle φ) : VehicleOp → Prop
  | .vehicleJoinExecutePlan _ seatId facts =>
    facts.passengerIsAlive = true ∧ vehicle.usableSeatNum = 0 ∧
      ∃ seat ∈ vehicle.seats.lookup seatId, seat.seatInfo.canEnterOrExit = true
  | _ => False

/-- Everybody is put out of the seats. -/
def Vehicle.clearedBy (vehicle : Vehicle φ) : VehicleOp → Bool
  | .removeAllPassengersPlan | .uninstall => true
  | .installAllAccessoriesPlan evading _ => vehicle.baseTypeId = .player || !evading
  | .resetPlan evading baseIsAlive _ _ _ => vehicle.baseTypeId = .unit && baseIsAlive && !evading
  | _ => false

/-- When a call leaves the counter exact. Nobody may be in an enterable seat that is cleared, put
out of or joined, and no such seat may be filled without a join. -/
def KeepsCount (vehicle : Vehicle φ) : VehicleOp → Prop
  | .addVehiclePassengerPlan _ seatId =>
    vehicle.status ≠ .uninstalling → 0 ≤ seatId → ∀ seat ∈ vehicle.seats.lookup seatId,
      seat.seatInfo.canEnterOrExit = true → seat.isEmpty = true
  | .vehicleJoinExecutePlan passenger seatId facts =>
    facts.passengerIsAlive = true → ∀ seat ∈ vehicle.seats.lookup seatId,
      seat.seatInfo.canEnterOrExit = true → seat.isEmpty = true ∧ passenger.isEmpty = false
  | .addVehiclePassenger passenger seatId =>
    vehicle.hasPendingEventForSeat seatId = false → ∀ seat ∈ vehicle.seats.lookup seatId,
      seat.seatInfo.canEnterOrExit = true → seat.isEmpty = true → passenger.isEmpty = true
  | op => vehicle.clearedBy op = true → vehicle.Vacant

/-! ## Changing one seat -/

theorem usable_insert (hseat : seats.lookup seatId = some seat) (seat' : VehicleSeat φ) :
    (Dict.values (seats.insert seatId seat')).countP VehicleSeat.isUsable +
        (if seat.isUsable then 1 else 0) =
      (if seat'.isUsable then 1 else 0) + seats.values.countP VehicleSeat.isUsable := by
  simpa [hseat] using Dict.countP_values_insert VehicleSeat.isUsable seats seatId seat'

theorem length_insert (hseat : seats.lookup seatId = some seat) (seat' : VehicleSeat φ) :
    (Dict.values (seats.insert seatId seat')).length = seats.values.length := by
  have hcount := Dict.countP_values_insert (fun _ => true) seats seatId seat'
  simp only [hseat, Option.elim, List.countP_true, if_true] at hcount
  omega

@[simp] theorem isUsable_reset (seat : VehicleSeat φ) :
    seat.reset.isUsable = seat.seatInfo.canEnterOrExit := by
  simp [VehicleSeat.isUsable, VehicleSeat.reset, VehicleSeat.isEmpty, PassengerInfo.isEmpty,
    PassengerInfo.empty]

/-- A call that changes one seat leaves the counter exact when it counts that seat's change. -/
theorem exact_insert_iff {vehicle' : Vehicle φ} (hexact : vehicle.Exact) {seat' : VehicleSeat φ}
    (hseat : vehicle.seats.lookup seatId = some seat)
    (hseats : vehicle'.seats = vehicle.seats.insert seatId seat') :
    vehicle'.Exact ↔ vehicle'.usableSeatNum + (if seat.isUsable then 1 else 0) =
      vehicle.usableSeatNum + (if seat'.isUsable then 1 else 0) := by
  have hcount := usable_insert hseat seat'
  rw [← hseats] at hcount
  unfold Exact usableSeats at *
  omega

theorem usableSeatNum_pos (hexact : vehicle.Exact)
    (hseat : vehicle.seats.lookup seatId = some seat) (husable : seat.isUsable = true) :
    0 < vehicle.usableSeatNum := by
  rw [hexact]
  exact List.countP_pos_iff.mpr ⟨seat, Dict.mem_values_iff.mpr ⟨seatId, hseat⟩, husable⟩

/-- The counter is exact and there are at most eight seats. -/
structure Accounted (vehicle : Vehicle φ) : Prop where
  exact : vehicle.Exact
  few : vehicle.seats.values.length ≤ maxVehicleSeats

/-! ## The calls -/

theorem usable_of_empty (h : seat.isEmpty = true) :
    seat.isUsable = seat.seatInfo.canEnterOrExit := by
  simp [VehicleSeat.isUsable, h]

theorem usable_of_occupied (h : seat.isEmpty = false) : seat.isUsable = false := by
  simp [VehicleSeat.isUsable, h]

theorem displace_iff (h : vehicle.Exact) (hseat : vehicle.seats.lookup seatId = some seat) :
    (vehicle.displace seatId).2.Exact ↔
      (seat.seatInfo.canEnterOrExit = true → seat.isEmpty = true) := by
  cases hempty : seat.isEmpty with
  | true =>
    have hnone : seat.occupant = none := if_pos hempty
    simpa [displace, hseat, hnone] using h
  | false =>
    have hsome : seat.occupant = some seat.passenger.guid := 
      if_neg (by simpa [VehicleSeat.isEmpty, PassengerInfo.isEmpty] using hempty)
    have hdisplace : (vehicle.displace seatId).2 =
        { vehicle with seats := vehicle.seats.insert seatId seat.reset } := by
      simp [displace, hseat, hsome]
    rw [hdisplace, exact_insert_iff h hseat rfl]
    simp [usable_of_occupied hempty]

@[simp] theorem exact_addPendingEvent (vehicle : Vehicle φ) (passenger : ObjectGuid) (seatId : ℤ) :
    (vehicle.addPendingEvent passenger seatId).Exact ↔ vehicle.Exact := Iff.rfl

theorem addPlan_iff (h : vehicle.Exact) (passenger : ObjectGuid) (seatId : ℤ) :
    (vehicle.addVehiclePassengerPlan passenger seatId).2.Exact ↔
      KeepsCount vehicle (.addVehiclePassengerPlan passenger seatId) := by
  simp only [addVehiclePassengerPlan, KeepsCount]
  by_cases hstatus : vehicle.status = .uninstalling
  · simp [hstatus, h]
  · rcases lt_or_ge seatId 0 with hneg | hpos
    · cases hselect : vehicle.selectSeat seatId with
      | none => simp [hstatus, h, hneg.not_ge]
      | some selected => simp [hstatus, h, hneg.not_ge]
    · cases hseat : vehicle.seats.lookup seatId with
      | none => simp [selectSeat, hseat, h, hstatus, hpos.not_gt]
      | some seat =>
        have hselect : vehicle.selectSeat seatId = some seatId := by
          simp [selectSeat, hseat, hpos.not_gt]
        simpa [hselect, hstatus, hpos] using displace_iff h hseat

/-- What a join leaves unchanged of the seats and the counter before it takes the seat. -/
theorem pendingRemovals_eq (vehicle : Vehicle φ) (passenger : ObjectGuid) (seatId : ℤ) :
    ∃ events, ((vehicle.removePendingEventsForSeatPlan seatId).2.removePendingEventsForPassengerPlan
      passenger).2 = { vehicle with pendingJoinEvents := events } := by
  simp only [removePendingEventsForSeatPlan, removePendingEventsForPassengerPlan]
  split <;> exact ⟨_, rfl⟩

theorem join_alive (hseat : vehicle.seats.lookup seatId = some seat) (passenger : ObjectGuid)
    {facts : JoinFacts} (halive : facts.passengerIsAlive = true) :
    ∃ events info, info.guid = passenger ∧
      (vehicle.vehicleJoinExecutePlan passenger seatId facts).2 =
        { vehicle with
          usableSeatNum := if seat.seatInfo.canEnterOrExit then vehicle.usableSeatNum - 1
            else vehicle.usableSeatNum
          seats := vehicle.seats.insert seatId ({ seat with passenger := info })
          pendingJoinEvents := events } := by
  obtain ⟨events, hevents⟩ := pendingRemovals_eq vehicle passenger seatId
  refine ⟨events, ⟨passenger, facts.passengerIsUninteractible, facts.passengerIsGravityDisabled⟩,
    rfl, ?_⟩
  simp only [vehicleJoinExecutePlan, hseat, hevents, halive, Bool.not_true, Bool.false_eq_true,
    if_false]
  cases seat.seatInfo.canEnterOrExit <;> rfl

theorem join_dead (vehicle : Vehicle φ) (passenger : ObjectGuid) (seatId : ℤ) {facts : JoinFacts}
    (hdead : facts.passengerIsAlive = false) :
    ∃ events, (vehicle.vehicleJoinExecutePlan passenger seatId facts).2 =
      { vehicle with pendingJoinEvents := events } := by
  simp only [vehicleJoinExecutePlan]
  cases vehicle.seats.lookup seatId with
  | none => exact ⟨vehicle.pendingJoinEvents, rfl⟩
  | some seat =>
    simp only [hdead, Bool.not_false, if_true]
    exact pendingRemovals_eq vehicle passenger seatId

theorem joined_count_iff {n : ℕ} {free : Bool} (free' : Bool) (hpos : free = true → 0 < n) :
    (n - 1 + (if free then 1 else 0) = n + (if free' then 1 else 0) ∧ ¬ n = 0) ↔
      free = true ∧ free' = false := by
  cases free <;> cases free' <;> simp at hpos ⊢ <;> omega

theorem join_iff (h : vehicle.Exact) (passenger : ObjectGuid) (seatId : ℤ) (facts : JoinFacts) :
    ((vehicle.vehicleJoinExecutePlan passenger seatId facts).2.Exact ∧
        ¬ Underflows vehicle (.vehicleJoinExecutePlan passenger seatId facts)) ↔
      KeepsCount vehicle (.vehicleJoinExecutePlan passenger seatId facts) := by
  simp only [KeepsCount, Underflows]
  cases halive : facts.passengerIsAlive with
  | false =>
    obtain ⟨events, hdead⟩ := join_dead vehicle passenger seatId halive
    rw [hdead]
    exact iff_of_true ⟨h, nofun⟩ nofun
  | true =>
    cases hseat : vehicle.seats.lookup seatId with
    | none =>
      have hnone : (vehicle.vehicleJoinExecutePlan passenger seatId facts).2 = vehicle := by
        simp [vehicleJoinExecutePlan, hseat]
      simp [hnone, h]
    | some seat =>
      obtain ⟨events, info, hinfo, hjoin⟩ := join_alive hseat passenger halive
      rw [hjoin, exact_insert_iff h hseat rfl]
      cases hcan : seat.seatInfo.canEnterOrExit with
      | false => simp [VehicleSeat.isUsable, hcan]
      | true =>
        have hjoined : VehicleSeat.isUsable { seat with passenger := info } =
            passenger.isEmpty := by
          simp [VehicleSeat.isUsable, VehicleSeat.isEmpty, PassengerInfo.isEmpty, hcan, hinfo]
        have hold : seat.isUsable = seat.isEmpty := by
          simp [VehicleSeat.isUsable, hcan]
        have hpos : seat.isEmpty = true → 0 < vehicle.usableSeatNum := fun hempty =>
          usableSeatNum_pos h hseat (hold.trans hempty)
        rw [hjoined, hold]
        simpa [hcan] using joined_count_iff passenger.isEmpty hpos

theorem addPassenger_iff (h : vehicle.Exact) (passenger : ObjectGuid) (seatId : ℤ) :
    (vehicle.addVehiclePassenger passenger seatId).2.Exact ↔
      KeepsCount vehicle (.addVehiclePassenger passenger seatId) := by
  simp only [addVehiclePassenger, KeepsCount]
  cases hpending : vehicle.hasPendingEventForSeat seatId with
  | true => simp [h]
  | false =>
    cases hseat : vehicle.seats.lookup seatId with
    | none => simp [h]
    | some seat =>
      cases hempty : seat.isEmpty with
      | false => simp [h, hempty]
      | true =>
        simp only [hempty, Bool.not_true, Bool.false_eq_true, if_false]
        rw [exact_insert_iff h hseat rfl, usable_of_empty hempty]
        cases hcan : seat.seatInfo.canEnterOrExit with
        | false => simp [VehicleSeat.isUsable, hcan]
        | true =>
          have hfilled : VehicleSeat.isUsable { seat with
              passenger := { seat.passenger with guid := passenger } } = passenger.isEmpty := by
            simp [VehicleSeat.isUsable, VehicleSeat.isEmpty, PassengerInfo.isEmpty, hcan]
          simp [hfilled, hcan, hempty]

theorem seatOf_spec (h : vehicle.seatOf passenger = some (seatId, seat)) :
    vehicle.seats.lookup seatId = some seat ∧ seat.passenger.guid = passenger := by
  obtain ⟨entry, hfind, heq⟩ := Option.map_eq_some_iff.mp h
  cases heq
  have hmem := List.mem_of_find?_eq_some hfind
  have hguid := List.find?_some hfind
  exact ⟨Dict.mem_ascending.mp hmem, of_decide_eq_true hguid⟩

theorem usableSeats_le (vehicle : Vehicle φ) :
    vehicle.usableSeats ≤ vehicle.seats.values.length := List.countP_le_length

theorem remove_exact (h : Accounted vehicle) (hpassenger : passenger.isEmpty = false)
    (passengerTypeId : TypeId) (inWorld onTransport flying aiEnabled : Bool) :
    (vehicle.removePassengerPlan passenger passengerTypeId inWorld onTransport flying
      aiEnabled).2.Exact := by
  have hbound : vehicle.usableSeatNum ≤ 8 :=
    (le_of_eq h.exact).trans ((usableSeats_le vehicle).trans h.few)
  simp only [removePassengerPlan]
  cases hfind : vehicle.seatOf passenger with
  | none => exact h.exact
  | some found =>
    obtain ⟨hseat, hguid⟩ := seatOf_spec hfind
    have hoccupied : found.2.isEmpty = false := by
      simpa [VehicleSeat.isEmpty, PassengerInfo.isEmpty, hguid] using hpassenger
    rw [exact_insert_iff h.exact hseat rfl, usable_of_occupied hoccupied, isUsable_reset]
    cases hcan : found.2.seatInfo.canEnterOrExit with
    | false => simp [hcan]
    | true =>
      have hadd : saturatingAdd 32 vehicle.usableSeatNum 1 = vehicle.usableSeatNum + 1 :=
        min_eq_left (by omega)
      simp [hcan, hadd]

theorem removeAll_iff (h : vehicle.Exact) :
    vehicle.removeAllPassengersPlan.2.Exact ↔ vehicle.Vacant := by
  have hsplit : vehicle.removeAllPassengersPlan.2.usableSeats = vehicle.usableSeats +
      Dict.sumBy (fun _ seat => if seat.seatInfo.canEnterOrExit && !seat.isEmpty then 1 else 0)
        vehicle.seats := by
    simp only [removeAllPassengersPlan, usableSeats, Dict.countP_values, Dict.sumBy_mapValues,
      isUsable_reset, ← Dict.sumBy_add]
    congr
    funext _ seat
    cases hcan : seat.seatInfo.canEnterOrExit <;> cases hempty : seat.isEmpty <;>
      simp [VehicleSeat.isUsable, hcan, hempty]
  have hnone := Dict.sumBy_eq_zero_iff
    (fun _ seat => if seat.seatInfo.canEnterOrExit && !seat.isEmpty then 1 else 0) (d := vehicle.seats)
  calc
    vehicle.removeAllPassengersPlan.2.Exact
        ↔ vehicle.usableSeatNum = vehicle.removeAllPassengersPlan.2.usableSeats := Iff.rfl
    _ ↔ _ = 0 := by
      rw [hsplit, ← h]
      exact Nat.left_eq_add
    _ ↔ vehicle.Vacant := by
      rw [hnone]
      simp only [Vacant, Dict.mem_values_iff]
      constructor
      · rintro hzero seat ⟨seatId, hseat⟩ hcan
        by_contra hoccupied
        exact absurd (hzero seatId seat hseat) (by simp [hcan, hoccupied])
      · intro hvacant seatId seat hseat
        cases hcan : seat.seatInfo.canEnterOrExit with
        | false => rfl
        | true => simp [hvacant seat ⟨seatId, hseat⟩ hcan]

/-! ## Runs -/

theorem clear_iff (h : vehicle.Exact) (cleared : Bool) :
    (if cleared then vehicle.removeAllPassengers else vehicle).Exact ↔
      (cleared = true → vehicle.Vacant) := by
  cases cleared with
  | false => simpa using h
  | true => simpa [removeAllPassengers] using removeAll_iff h

theorem resetPlan_snd (vehicle : Vehicle φ)
    (evading baseIsAlive isMechanicalCreature isWorldBoss : Bool)
    (accessories : List VehicleAccessory) :
    (vehicle.resetPlan evading baseIsAlive isMechanicalCreature isWorldBoss accessories).2 =
      if vehicle.baseTypeId = .unit && baseIsAlive && !evading then vehicle.removeAllPassengers
      else vehicle := by
  simp only [resetPlan, installAllAccessoriesPlan, vehicleAccessoryInstallPlan]
  by_cases hunit : vehicle.baseTypeId = .unit <;> cases baseIsAlive <;> simp [hunit]

theorem step_iff (h : Accounted vehicle) {op : VehicleOp} (hop : op.Legal) :
    ((vehicleStep vehicle op).Exact ∧ ¬ Underflows vehicle op) ↔ KeepsCount vehicle op := by
  cases op with
  | install => exact iff_of_true ⟨h.exact, id⟩ nofun
  | addPendingEvent passenger seatId => exact iff_of_true ⟨h.exact, id⟩ nofun
  | addVehiclePassengerPlan passenger seatId =>
    exact (and_iff_left id).trans (addPlan_iff h.exact passenger seatId)
  | vehicleJoinExecutePlan passenger seatId facts => exact join_iff h.exact passenger seatId facts
  | addVehiclePassenger passenger seatId =>
    exact (and_iff_left id).trans (addPassenger_iff h.exact passenger seatId)
  | removePassengerPlan passenger passengerTypeId inWorld onTransport flying aiEnabled =>
    exact iff_of_true ⟨remove_exact h hop _ _ _ _ _, id⟩ nofun
  | removeAllPassengersPlan => exact (and_iff_left id).trans (clear_iff h.exact true)
  | uninstall =>
    exact (and_iff_left id).trans
      (@clear_iff φ { vehicle with status := .uninstalling } h.exact true)
  | installAllAccessoriesPlan evading accessories =>
    exact (and_iff_left id).trans (clear_iff h.exact _)
  | resetPlan evading baseIsAlive isMechanicalCreature isWorldBoss accessories =>
    rw [vehicleStep, resetPlan_snd]
    exact (and_iff_left id).trans (clear_iff h.exact _)
  | removePendingEventsForPassengerPlan passenger =>
    refine iff_of_true ⟨?_, id⟩ nofun
    simp only [vehicleStep, removePendingEventsForPassengerPlan]
    split <;> exact h.exact
  | removePendingEventsForSeatPlan seatId => exact iff_of_true ⟨h.exact, id⟩ nofun

theorem displace_few (vehicle : Vehicle φ) (seatId : ℤ) :
    (vehicle.displace seatId).2.seats.values.length = vehicle.seats.values.length := by
  cases hseat : vehicle.seats.lookup seatId with
  | none => simp [displace, hseat]
  | some seat =>
    cases hoccupant : seat.occupant with
    | none => simp [displace, hseat, hoccupant]
    | some passenger => simpa [displace, hseat, hoccupant] using length_insert hseat _

theorem join_few (vehicle : Vehicle φ) (passenger : ObjectGuid) (seatId : ℤ) (facts : JoinFacts) :
    (vehicle.vehicleJoinExecutePlan passenger seatId facts).2.seats.values.length =
      vehicle.seats.values.length := by
  cases halive : facts.passengerIsAlive with
  | false =>
    obtain ⟨events, hdead⟩ := join_dead vehicle passenger seatId halive
    rw [hdead]
  | true =>
    cases hseat : vehicle.seats.lookup seatId with
    | none => simp [vehicleJoinExecutePlan, hseat]
    | some seat =>
      obtain ⟨events, info, -, hjoin⟩ := join_alive hseat passenger halive
      rw [hjoin]
      exact length_insert hseat _

theorem addPassenger_few (vehicle : Vehicle φ) (passenger : ObjectGuid) (seatId : ℤ) :
    (vehicle.addVehiclePassenger passenger seatId).2.seats.values.length =
      vehicle.seats.values.length := by
  simp only [addVehiclePassenger]
  cases vehicle.hasPendingEventForSeat seatId with
  | true => rfl
  | false =>
    cases hseat : vehicle.seats.lookup seatId with
    | none => rfl
    | some seat =>
      cases hempty : seat.isEmpty with
      | false => simp [hempty]
      | true => simpa [hempty] using length_insert hseat _

theorem step_few (vehicle : Vehicle φ) (op : VehicleOp) :
    (vehicleStep vehicle op).seats.values.length = vehicle.seats.values.length := by
  have hclear (cleared : Bool) :
      (if cleared then vehicle.removeAllPassengers else vehicle).seats.values.length =
        vehicle.seats.values.length := by
    cases cleared with
    | false => rfl
    | true => simp [removeAllPassengers, removeAllPassengersPlan, Dict.values, Dict.mapValues]
  cases op with
  | addVehiclePassengerPlan passenger seatId =>
    simp only [vehicleStep, addVehiclePassengerPlan]
    by_cases hstatus : vehicle.status = .uninstalling
    · simp [hstatus]
    · cases vehicle.selectSeat seatId with
      | none => simp [hstatus]
      | some selected =>
        by_cases hpos : seatId ≥ 0
        · simpa [hstatus, hpos, addPendingEvent] using displace_few vehicle selected
        · simp [hstatus, hpos, addPendingEvent]
  | vehicleJoinExecutePlan passenger seatId facts => exact join_few vehicle passenger seatId facts
  | addVehiclePassenger passenger seatId => exact addPassenger_few vehicle passenger seatId
  | removePassengerPlan passenger passengerTypeId inWorld onTransport flying aiEnabled =>
    simp only [vehicleStep, removePassengerPlan]
    cases hfind : vehicle.seatOf passenger with
    | none => rfl
    | some found => exact length_insert (seatOf_spec hfind).1 _
  | removeAllPassengersPlan => exact hclear true
  | uninstall => exact hclear true
  | installAllAccessoriesPlan evading accessories => exact hclear _
  | resetPlan evading baseIsAlive isMechanicalCreature isWorldBoss accessories =>
    rw [vehicleStep, resetPlan_snd]
    exact hclear _
  | removePendingEventsForPassengerPlan passenger =>
    simp only [vehicleStep, removePendingEventsForPassengerPlan]
    split <;> rfl
  | _ => rfl

theorem Accounted.step (h : Accounted vehicle) {op : VehicleOp}
    (hexact : (vehicleStep vehicle op).Exact) : Accounted (vehicleStep vehicle op) :=
  ⟨hexact, (step_few vehicle op).trans_le h.few⟩

/-! ## New vehicles -/

theorem newSeat_foldl (seatDefs : List (SeatDef φ)) (hnodup : (seatDefs.map (·.1)).Nodup)
    (acc : Dict ℤ (VehicleSeat φ) × ℕ)
    (hfresh : ∀ seatDef ∈ seatDefs, acc.1.lookup seatDef.1 = none)
    (hacc : acc.2 = acc.1.values.countP VehicleSeat.isUsable) :
    (seatDefs.foldl newSeat acc).2 =
        (seatDefs.foldl newSeat acc).1.values.countP VehicleSeat.isUsable ∧
      (seatDefs.foldl newSeat acc).1.values.length ≤ acc.1.values.length + seatDefs.length := by
  induction seatDefs generalizing acc with
  | nil => exact ⟨hacc, le_rfl⟩
  | cons seatDef seatDefs ih =>
    obtain ⟨hhead, htail⟩ := List.nodup_cons.mp hnodup
    have hnone : acc.1.lookup seatDef.1 = none := hfresh seatDef (by simp)
    have hinsert := Dict.countP_values_insert VehicleSeat.isUsable acc.1 seatDef.1
      (.new seatDef.2.1 seatDef.2.2)
    have hlength := Dict.countP_values_insert (fun _ => true) acc.1 seatDef.1
      (.new seatDef.2.1 seatDef.2.2)
    simp only [hnone, Option.elim, List.countP_true, if_true] at hinsert hlength
    have hrest := ih htail (newSeat acc seatDef) ?_ ?_
    · refine ⟨hrest.1, hrest.2.trans ?_⟩
      simp only [newSeat, List.length_cons]
      omega
    · intro other hother
      have hne : other.1 ≠ seatDef.1 := fun heq =>
        hhead (List.mem_map.mpr ⟨other, hother, heq⟩)
      rw [newSeat, Dict.lookup_insert_eq, if_neg hne]
      exact hfresh other (by simp [hother])
    · have husable : (VehicleSeat.new seatDef.2.1 seatDef.2.2).isUsable =
          seatDef.2.1.canEnterOrExit := isUsable_reset (.new seatDef.2.1 seatDef.2.2)
      rw [husable] at hinsert
      cases hcan : seatDef.2.1.canEnterOrExit with
      | false =>
        simp only [hcan, Bool.false_eq_true, if_false] at hinsert
        simp only [newSeat, hcan, Bool.false_eq_true, if_false]
        omega
      | true =>
        simp only [hcan, if_true] at hinsert
        simp only [newSeat, hcan, if_true]
        omega

theorem accounted_new (baseTypeId : TypeId) (vehicleId : ℕ) {seatDefs : List (SeatDef φ)}
    (hdistinct : (seatDefs.map (·.1)).Nodup) :
    Accounted (Vehicle.new baseTypeId vehicleId seatDefs) := by
  have htaken : ((seatDefs.take maxVehicleSeats).map (·.1)).Nodup := by
    rw [List.map_take]
    exact hdistinct.sublist (List.take_sublist _ _)
  obtain ⟨hexact, hlength⟩ := newSeat_foldl _ htaken (∅, 0) (fun _ _ => rfl) rfl
  refine ⟨hexact, hlength.trans ?_⟩
  simp [Dict.values]

theorem exact_run_iff (h : Accounted vehicle) {ops : List VehicleOp} (hops : ∀ op ∈ ops, op.Legal) :
    EachStep vehicleStep
        (fun vehicle op => (vehicleStep vehicle op).Exact ∧ ¬ Underflows vehicle op) vehicle ops ↔
      EachStep vehicleStep KeepsCount vehicle ops := by
  induction ops generalizing vehicle with
  | nil => exact Iff.rfl
  | cons op ops ih =>
    have hstep := step_iff h (hops op (by simp))
    have hrest (hexact : (vehicleStep vehicle op).Exact) :=
      ih (h.step hexact) fun op' hop => hops op' (by simp [hop])
    constructor
    · intro hall
      exact ⟨hstep.mp hall.1, (hrest hall.1.1).mp hall.2⟩
    · intro hall
      have hexact := hstep.mpr hall.1
      exact ⟨hexact, (hrest hexact.1).mpr hall.2⟩

/-- The counter stays exact, and nothing is taken from it at 0, exactly along the runs in which
each call keeps the count. -/
theorem usable_seats_exact_iff (baseTypeId : TypeId) (vehicleId : ℕ) (seatDefs : List (SeatDef φ))
    (hdistinct : (seatDefs.map (·.1)).Nodup) (ops : List VehicleOp) (hops : ∀ op ∈ ops, op.Legal) :
    (Vehicle.new baseTypeId vehicleId seatDefs).Exact ∧
      (EachStep vehicleStep
          (fun vehicle op => (vehicleStep vehicle op).Exact ∧ ¬ Underflows vehicle op)
          (Vehicle.new baseTypeId vehicleId seatDefs) ops ↔
        EachStep vehicleStep KeepsCount (Vehicle.new baseTypeId vehicleId seatDefs) ops) := by
  have hnew := accounted_new baseTypeId vehicleId hdistinct
  exact ⟨hnew.exact, exact_run_iff hnew hops⟩

/-- One seat that can be entered, without coordinates. -/
def oneSeat : List (SeatDef Unit) :=
  [(0, ⟨⟨(), (), (), ()⟩, true, false, false, false, false, false⟩, ⟨()⟩)]

/-- The facts of a living player on foot. -/
def player : JoinFacts := ⟨true, false, .player, false, false, false, false, false⟩

def rider : ObjectGuid := ⟨0, 1⟩

theorem usable_seats_exact_ride :
    (Vehicle.new .unit 1 oneSeat).Exact ∧
      (EachStep vehicleStep
          (fun vehicle op => (vehicleStep vehicle op).Exact ∧ ¬ Underflows vehicle op)
          (Vehicle.new .unit 1 oneSeat)
          [.vehicleJoinExecutePlan rider 0 player,
            .removePassengerPlan rider .player true false false false] ↔
        EachStep vehicleStep KeepsCount (Vehicle.new .unit 1 oneSeat)
          [.vehicleJoinExecutePlan rider 0 player,
            .removePassengerPlan rider .player true false false false]) :=
  usable_seats_exact_iff .unit 1 oneSeat (by decide) _ (by simp [VehicleOp.Legal]; decide)

/-- After a passenger has been put out by the removal of all, the only seat counts as taken. -/
theorem cleared_seat_counted_taken :
    ¬ (run vehicleStep (Vehicle.new .unit 1 oneSeat)
      [.vehicleJoinExecutePlan rider 0 player, .removeAllPassengersPlan]).Exact := by
  decide

end RustyCore.Vehicles
