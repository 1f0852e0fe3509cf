import RustyCore.Verification.Instances.InstanceScript

/-! # Saving and loading

What is saved of a script is what a script of the same bosses loads, but for the states that are
not kept over a restart. -/

namespace RustyCore.Instances

open InstanceScriptBase PersistentInstanceScriptValue

variable {F64 : Type} {script fresh : InstanceScriptBase F64} {front back saved : List BossInfo}
  {number : ℕ → Json F64} {reread : PersistentInstanceScriptValue F64 → Json F64}
  {values : List (String × PersistentInstanceScriptValue F64)}

def savedValues (reread : PersistentInstanceScriptValue F64 → Json F64)
    (values : List (String × PersistentInstanceScriptValue F64)) : List (String × Json F64) :=
  values.map fun value => (value.1, reread value.2)

/-- What the saved text says, if numerals and values are read as `number` and `reread` do. -/
def savedDocument (number : ℕ → Json F64) (reread : PersistentInstanceScriptValue F64 → Json F64)
    (script : InstanceScriptBase F64) : List (String × Json F64) :=
  [(instanceScriptHeaderKey, .string script.header),
    (instanceScriptBossStatesKey,
      .array (script.bosses.map fun boss => number boss.state.ctorIdx))] ++
  if script.persistentValues.isEmpty then []
  else [(instanceScriptAdditionalDataKey, .object (savedValues reread script.persistentValues))]

/-- The boss with the state that was saved for it, as far as it is kept. -/
def BossInfo.restored (saved boss : BossInfo) : BossInfo :=
  if saved.state = .toBeDecided then boss
  else { boss with state := saved.state.saveLoadNormalized }

/-- The numerals of the boss states are read as themselves. -/
def ReadsStates (number : ℕ → Json F64) : Prop :=
  ∀ state : EncounterState, (number state.ctorIdx).asI64 = some (state.ctorIdx : ℤ)

theorem load_saved (hnumber : ReadsStates number) (saved boss : BossInfo) :
    boss.load (number saved.state.ctorIdx) = saved.restored boss := by
  rw [BossInfo.load, hnumber, BossInfo.restored]
  cases saved.state <;> rfl

theorem loadBossStates_saved (hnumber : ReadsStates number)
    (hbosses : script.bosses = front ++ back) (hlength : saved.length = back.length) :
    loadBossStates front.length (saved.map fun boss => number boss.state.ctorIdx) script =
      ({ script with bosses := front ++ List.zipWith BossInfo.restored saved back }, .ok ()) := by
  induction saved generalizing front back script with
  | nil =>
    cases List.length_eq_zero_iff.mp hlength.symm
    rw [List.zipWith_nil_left, ← hbosses]
    rfl
  | cons boss saved ih =>
    obtain ⟨old, back, rfl⟩ := List.exists_cons_of_length_eq_add_one hlength.symm
    rw [List.map_cons, loadBossStates_cons hbosses (by simp [hnumber boss.state]),
      ih rfl (by simpa using hlength)]
    simp [load_saved hnumber]

theorem loadPersistentValues_ok (data : List (String × Json F64))
    (values : List (String × PersistentInstanceScriptValue F64))
    (h : ∀ entry ∈ values, ¬ ValueRejected data entry) :
    loadPersistentValues data values = (values.map (writeValue data), .ok ()) := by
  induction values with
  | nil => rfl
  | cons entry values ih =>
    obtain ⟨hentry, hvalues⟩ := List.forall_mem_cons.mp h
    have hcons := loadPersistentValues_cons data entry values
    rw [(hcons.resolve_left fun hrejected => hentry hrejected.1).2, ih hvalues]
    rfl

theorem lookup_savedValues {entry : String × PersistentInstanceScriptValue F64}
    (hnodup : (values.map (·.1)).Nodup) (hmem : entry ∈ values) :
    (savedValues reread values).lookup entry.1 = some (reread entry.2) := by
  obtain ⟨l, l', rfl⟩ := List.append_of_mem hmem
  refine List.lookup_eq_some_iff.mpr ⟨savedValues reread l, savedValues reread l',
    List.map_append, fun value hvalue => ?_⟩
  obtain ⟨other, hother, rfl⟩ := List.mem_map.mp hvalue
  rw [List.map_append, List.map_cons] at hnodup
  have hdisjoint := (List.nodup_append.mp hnodup).2.2
  exact bne_iff_ne.mpr (hdisjoint _ (List.mem_map_of_mem hother) _ List.mem_cons_self).symm

/-- A fight goes on, a boss is down, and kills are counted. -/
def raid (state : EncounterState) (kills : ℤ) : InstanceScriptBase Empty :=
  ⟨"TEST", [⟨state, []⟩, ⟨.done, []⟩], [("Kills", .i64 kills)]⟩

def integerJson : PersistentInstanceScriptValue Empty → Json Empty
  | .i64 n => .number ⟨some n, none⟩

def raidText : String :=
  (raid .inProgress 7).getSaveData (fun s => "\"" ++ s ++ "\"") fun | .i64 n => toString n

def parseRaid (data : String) : Option (Json Empty) :=
  if data = raidText then
    some (.object (savedDocument (fun n => integerJson (.i64 n)) integerJson (raid .inProgress 7)))
  else none

end RustyCore.Instances
