import RustyCore.Verification.Migrations.Reports

/-! # Runs of the migrations

A claim row is there before the first statement of its migration and never goes away, so a
migration starts in one run, and a run starts none while a claim is open. -/

namespace RustyCore.Migrations

variable {δ : Type*} (e : Engine δ) (manifest : MigrationManifest) (database : DatabaseKind)
variable {m : Migration} {row : HistoryRow} {rows : List HistoryRow}

/-! ## The rows -/

theorem Engine.sameKey_of_key (h : row.key = m.key) : e.sameKey row m = true := by
  have hcomponent : row.component = m.component := congrArg (fun key => (ofLex key).1) h
  have hversion : row.version = m.version := congrArg (fun key => (ofLex key).2) h
  simp [sameKey, hcomponent, hversion]

theorem Engine.insertRow_eq_some {rows' : List HistoryRow} {rank : ℕ} {success : Bool}
    (h : e.insertRow rows rank m success = some rows') :
    rows' = rows ++ [⟨rank, m.component, m.version, m.sha256, success⟩] ∧
      ∀ row ∈ rows, row.key ≠ m.key := by
  rw [insertRow] at h
  split at h
  case isTrue => cases h
  case isFalse hfree =>
    refine ⟨(Option.some.inj h).symm, fun row hrow hkey => hfree ?_⟩
    exact List.any_eq_true.mpr ⟨row, hrow, by simp [e.sameKey_of_key hkey]⟩

theorem Engine.mem_markSuccess :
    row ∈ e.markSuccess rows m ↔
      ∃ row' ∈ rows, (if e.sameKey row' m then { row' with success := true } else row') = row :=
  List.mem_map

theorem Engine.key_markSuccess (row : HistoryRow) (m : Migration) :
    (if e.sameKey row m then { row with success := true } else row).key = row.key ∧
      (if e.sameKey row m then { row with success := true } else row).checksum = row.checksum := by
  split
  · exact ⟨rfl, rfl⟩
  · exact ⟨rfl, rfl⟩

namespace State

variable {rest : List Migration} {statements : List String}

/-! ## The history of the runs -/

/-- Claims have their rows, go up in each run, and come before the statements. -/
structure Trace (s : State δ) : Prop where
  runs : ∀ c ∈ s.claims, c.1 ≤ s.runs
  claimed : ∀ c ∈ s.claims, ∃ row ∈ s.rows, row.key = c.2.key
  active : ∀ c ∈ s.claims, c.2 ∈ manifest.migrationsFor database ∧ c.2.state = .active
  once : (s.claims.map fun c => c.2.key).Nodup
  ordered : s.claims.Pairwise fun c c' => c.1 = c'.1 → c.2.key < c'.2.key
  executed : ∀ x ∈ s.executed, x ∈ s.claims

/-- Every active migration is in a history that agrees with the manifest. -/
structure Complete (s : State δ) : Prop where
  present : s.history.isSome = true
  agrees : Agrees (manifest.migrationsFor database) s.rows
  active : ∀ m ∈ manifest.migrationsFor database, m.state = .active →
    ∃ row ∈ s.rows, row.key = m.key

/-- `rest` is what the loop has left. -/
structure Todo (s : State δ) (rest : List Migration) : Prop where
  present : s.history.isSome = true
  pending : ∀ m ∈ manifest.migrationsFor database, m.state = .active →
    m ∈ rest ∨ ∃ row ∈ s.rows, row.key = m.key
  active : ∀ m ∈ rest, m ∈ manifest.migrationsFor database ∧ m.state = .active
  sorted : rest.Pairwise fun m m' => m.key < m'.key
  after : ∀ c ∈ s.claims, c.1 = s.runs → ∀ m ∈ rest, c.2.key < m.key

/-- The claim of `m` is open; every other row is of a finished migration. -/
structure Busy (s : State δ) (m : Migration) (rest : List Migration) : Prop
    extends Todo manifest database s rest where
  claim : (s.runs, m) ∈ s.claims
  agrees : ∀ row ∈ s.rows, (row.success = true ∨ e.sameKey row m = true) ∧
    ∃ m' ∈ manifest.migrationsFor database, m'.key = row.key ∧ row.checksum = m'.sha256

/-- What the phase of a run says about it. -/
def AtPhase (s : State δ) : Prop :=
  match s.phase with
  | .idle | .recordingFailure | .releasing false => True
  | .checkingBaseline | .locking | .ensuring => ∀ c ∈ s.claims, c.1 < s.runs
  | .counting | .planning | .importing _ _ | .reading =>
    s.history.isSome = true ∧ ∀ c ∈ s.claims, c.1 < s.runs
  | .claiming m rest =>
    Agrees (manifest.migrationsFor database) s.rows ∧ Todo manifest database s (m :: rest)
  | .executing m _ _ rest | .finishing m rest => Busy e manifest database s m rest
  | .releasing true | .inspecting => Complete manifest database s

structure Sound (s : State δ) : Prop where
  trace : Trace manifest database s
  returned : ∀ report, s.returned = some (some report) → Complete manifest database s
  quiet : s.phase ≠ .idle → s.returned = none
  atPhase : AtPhase e manifest database s

variable {e manifest database} {s s' : State δ}

/-- The history of the runs stays, and so do the identities in the table. -/
theorem Trace.of_same (h : Trace manifest database s) (hclaims : s'.claims = s.claims)
    (hexecuted : s'.executed = s.executed) (hruns : s.runs ≤ s'.runs)
    (hrows : ∀ row ∈ s.rows, ∃ row' ∈ s'.rows, row'.key = row.key) :
    Trace manifest database s' where
  runs := by
    rw [hclaims]
    exact fun c hc => (h.runs c hc).trans hruns
  claimed := by
    rw [hclaims]
    intro c hc
    obtain ⟨row, hrow, hkey⟩ := h.claimed c hc
    obtain ⟨row', hrow', hkey'⟩ := hrows row hrow
    exact ⟨row', hrow', hkey'.trans hkey⟩
  active := by
    rw [hclaims]
    exact h.active
  once := by
    rw [hclaims]
    exact h.once
  ordered := by
    rw [hclaims]
    exact h.ordered
  executed := by
    rw [hclaims, hexecuted]
    exact h.executed

theorem Complete.of_same (h : Complete manifest database s) (hhistory : s'.history = s.history) :
    Complete manifest database s' := by
  have hrows : s'.rows = s.rows := congrArg (Option.getD · []) hhistory
  exact ⟨hhistory ▸ h.present, hrows ▸ h.agrees, hrows ▸ h.active⟩

theorem Todo.of_same (h : Todo manifest database s rest) (hhistory : s'.history = s.history)
    (hclaims : s'.claims = s.claims) (hruns : s'.runs = s.runs) :
    Todo manifest database s' rest := by
  have hrows : s'.rows = s.rows := congrArg (Option.getD · []) hhistory
  refine ⟨hhistory ▸ h.present, hrows ▸ h.pending, h.active, h.sorted, ?_⟩
  rw [hclaims, hruns]
  exact h.after

theorem Busy.of_same (h : Busy e manifest database s m rest) (hhistory : s'.history = s.history)
    (hclaims : s'.claims = s.claims) (hruns : s'.runs = s.runs) :
    Busy e manifest database s' m rest := by
  have hrows : s'.rows = s.rows := congrArg (Option.getD · []) hhistory
  refine ⟨h.toTodo.of_same hhistory hclaims hruns, ?_, hrows ▸ h.agrees⟩
  rw [hclaims, hruns]
  exact h.claim

theorem AtPhase.write (h : AtPhase e manifest database s) (contents : δ) :
    AtPhase e manifest database { s with contents := contents } := by
  rw [AtPhase] at h ⊢
  dsimp only
  cases hphase : s.phase with
  | idle | recordingFailure => trivial
  | checkingBaseline | locking | ensuring | counting | planning | importing _ _ | reading =>
    rw [hphase] at h
    exact h
  | claiming m rest =>
    rw [hphase] at h
    exact ⟨h.1, h.2.of_same rfl rfl rfl⟩
  | executing m statement statements rest | finishing m rest =>
    rw [hphase] at h
    exact Busy.of_same h rfl rfl rfl
  | releasing succeeded =>
    rw [hphase] at h
    cases succeeded with
    | true => exact Complete.of_same h rfl
    | false => trivial
  | inspecting =>
    rw [hphase] at h
    exact Complete.of_same h rfl

section Ends

variable (h : Sound e manifest database s)

include h

theorem Sound.of_step (hactive : s.phase ≠ .idle) (hclaims : s'.claims = s.claims)
    (hexecuted : s'.executed = s.executed) (hruns : s'.runs = s.runs)
    (hreturned : s'.returned = s.returned)
    (hrows : ∀ row ∈ s.rows, ∃ row' ∈ s'.rows, row'.key = row.key)
    (hphase : AtPhase e manifest database s') : Sound e manifest database s' where
  trace := h.trace.of_same hclaims hexecuted hruns.ge hrows
  returned := by
    intro report hreport
    rw [hreturned, h.quiet hactive] at hreport
    cases hreport
  quiet := fun _ => hreturned.trans (h.quiet hactive)
  atPhase := hphase

/-- The next statement of a run after one that changed nothing here. -/
theorem Sound.of_phase (hactive : s.phase ≠ .idle) {phase : Phase}
    (hphase : AtPhase e manifest database { s with phase := phase }) :
    Sound e manifest database { s with phase := phase } :=
  h.of_step hactive rfl rfl rfl rfl (fun row hrow => ⟨row, hrow, rfl⟩) hphase

theorem Sound.failed (hactive : s.phase ≠ .idle) : Sound e manifest database s.failed :=
  h.of_phase hactive trivial

theorem Sound.returnErr : Sound e manifest database s.returnErr where
  trace := h.trace.of_same rfl rfl le_rfl fun row hrow => ⟨row, hrow, rfl⟩
  returned := nofun
  quiet := fun hidle => absurd rfl hidle
  atPhase := trivial

end Ends

/-! ## The loop -/

theorem atPhase_next {todo : List Migration} (hphase : s.phase = .next todo)
    (hagrees : Agrees (manifest.migrationsFor database) s.rows)
    (htodo : Todo manifest database s todo) : AtPhase e manifest database s := by
  rw [AtPhase, hphase]
  cases todo with
  | nil =>
    refine ⟨htodo.present, hagrees, fun m hm hactive => ?_⟩
    exact (htodo.pending m hm hactive).resolve_left nofun
  | cons m rest => exact ⟨hagrees, htodo⟩

theorem atPhase_script (hphase : s.phase = .script m rest statements)
    (hbusy : Busy e manifest database s m rest) : AtPhase e manifest database s := by
  rw [AtPhase, hphase]
  cases statements with
  | nil => exact hbusy
  | cons statement statements => exact hbusy

theorem todo_toApply (hpresent : s.history.isSome = true) (hfresh : ∀ c ∈ s.claims, c.1 < s.runs) :
    Todo manifest database s (toApply manifest database (readHistory s.rows)) where
  present := hpresent
  pending := by
    intro m hm hactive
    by_cases hrow : ∃ row ∈ s.rows, row.key = m.key
    · exact .inr hrow
    · refine .inl (List.mem_filter.mpr ⟨hm, ?_⟩)
      have hnone : ((readHistory s.rows).any fun row => row.key = m.key) = false := by
        refine List.any_eq_false.mpr fun row hmem => ?_
        exact fun hkey => hrow ⟨row, mem_readHistory.mp hmem, of_decide_eq_true hkey⟩
      simp [hactive, hnone]
  active := by
    intro m hm
    obtain ⟨hmem, hskip⟩ := List.mem_filter.mp hm
    refine ⟨hmem, ?_⟩
    cases hstate : m.state with
    | active => rfl
    | archived => simp [hstate] at hskip
  sorted := (sorted_migrationsFor manifest database).sublist List.filter_sublist
  after := fun c hc hrun => absurd hrun (hfresh c hc).ne

section Loop

variable (h : Sound e manifest database s)
variable {rest : List Migration} {m : Migration}

include h

theorem Sound.validate (hphase : s.phase = .reading) :
    Sound e manifest database (s.validate manifest database) := by
  have hactive : s.phase ≠ .idle := by simp [hphase]
  have hat := h.atPhase
  rw [AtPhase, hphase] at hat
  rw [State.validate]
  split
  case isTrue => exact h.failed hactive
  case isFalse =>
    split
    case isTrue => exact h.failed hactive
    case isFalse hproblems =>
      have hagrees := agrees_of_no_immutable_problem manifest database (by simpa using hproblems)
      refine h.of_phase hactive (atPhase_next rfl (fun row hrow => ?_)
        ((todo_toApply hat.1 hat.2).of_same rfl rfl rfl))
      exact hagrees row (mem_readHistory.mpr hrow)

section Claim

variable {m : Migration} {rest : List Migration} {row : HistoryRow}
  (hagrees : Agrees (manifest.migrationsFor database) s.rows)
  (htodo : Todo manifest database s (m :: rest)) (hrow : row.key = m.key)

include htodo hrow

omit h in
theorem Trace.of_claim (htrace : Trace manifest database s) (hfree : ∀ row ∈ s.rows, row.key ≠ m.key) :
    Trace manifest database (s.claimed (s.rows ++ [row]) m) where
  runs := by
    intro c hc
    rcases List.mem_append.mp hc with hc | hc
    · exact htrace.runs c hc
    · rw [List.mem_singleton.mp hc]
      exact le_rfl
  claimed := by
    intro c hc
    rcases List.mem_append.mp hc with hc | hc
    · obtain ⟨row', hrow', hkey⟩ := htrace.claimed c hc
      exact ⟨row', List.mem_append_left _ hrow', hkey⟩
    · rw [List.mem_singleton.mp hc]
      exact ⟨row, List.mem_append_right _ (List.mem_singleton_self _), hrow⟩
  active := by
    intro c hc
    rcases List.mem_append.mp hc with hc | hc
    · exact htrace.active c hc
    · rw [List.mem_singleton.mp hc]
      exact htodo.active m (by simp)
  once := by
    rw [State.claimed, List.map_append, List.nodup_append]
    refine ⟨htrace.once, List.nodup_singleton _, ?_⟩
    intro key hkey key' hkey' heq
    obtain ⟨c, hc, rfl⟩ := List.mem_map.mp hkey
    obtain ⟨row', hrow', hrowkey⟩ := htrace.claimed c hc
    rw [List.map_singleton, List.mem_singleton] at hkey'
    exact hfree row' hrow' (by rw [hrowkey, heq, hkey'])
  ordered := by
    refine List.pairwise_append.mpr ⟨htrace.ordered, List.pairwise_singleton _ _, ?_⟩
    intro c hc c' hc' hrun
    rw [List.mem_singleton.mp hc'] at hrun ⊢
    exact htodo.after c hc hrun m (by simp)
  executed := fun x hx => List.mem_append_left _ (htrace.executed x hx)

omit h in
theorem Busy.of_claim (hagrees : Agrees (manifest.migrationsFor database) s.rows)
    (hchecksum : row.checksum = m.sha256) :
    Busy e manifest database (s.claimed (s.rows ++ [row]) m) m rest where
  present := rfl
  pending := by
    intro m' hm' hactive
    rcases htodo.pending m' hm' hactive with hleft | ⟨row', hrow', hkey⟩
    · rcases List.mem_cons.mp hleft with rfl | hleft
      · exact .inr ⟨row, List.mem_append_right _ (List.mem_singleton_self _), hrow⟩
      · exact .inl hleft
    · exact .inr ⟨row', List.mem_append_left _ hrow', hkey⟩
  active := fun m' hm' => htodo.active m' (List.mem_cons_of_mem _ hm')
  sorted := (List.pairwise_cons.mp htodo.sorted).2
  after := by
    intro c hc hrun m' hm'
    rcases List.mem_append.mp hc with hc | hc
    · exact htodo.after c hc hrun m' (List.mem_cons_of_mem _ hm')
    · rw [List.mem_singleton.mp hc]
      exact (List.pairwise_cons.mp htodo.sorted).1 m' hm'
  claim := List.mem_append_right _ (List.mem_singleton_self _)
  agrees := by
    intro row' hrow'
    rcases List.mem_append.mp hrow' with hrow' | hrow'
    · exact ⟨.inl (hagrees row' hrow').1, (hagrees row' hrow').2⟩
    · rw [List.mem_singleton.mp hrow']
      exact ⟨.inr (e.sameKey_of_key hrow), m, (htodo.active m (by simp)).1, hrow.symm, hchecksum⟩

end Claim

theorem Sound.claim (hphase : s.phase = .claiming m rest) (answer : Answer) :
    Sound e manifest database (s.claim e m rest answer) := by
  have hactive : s.phase ≠ .idle := by simp [hphase]
  have hat := h.atPhase
  rw [AtPhase, hphase] at hat
  obtain ⟨hagrees, htodo⟩ := hat
  rw [State.claim]
  cases hinsert : e.insertRow s.rows (nextRank s.rows) m false with
  | none => exact h.failed hactive
  | some rows =>
    obtain ⟨rfl, hfree⟩ := e.insertRow_eq_some hinsert
    have hkey : HistoryRow.key ⟨nextRank s.rows, m.component, m.version, m.sha256, false⟩ =
      m.key := rfl
    have htrace := Trace.of_claim htodo hkey h.trace hfree
    have hnone : s.returned = none := h.quiet hactive
    dsimp only
    split
    case isFalse => exact h.failed hactive
    case isTrue =>
      split
      · refine ⟨htrace.of_same rfl rfl le_rfl fun row hrow => ⟨row, hrow, rfl⟩, ?_,
          fun _ => hnone, atPhase_script rfl ?_⟩
        · intro report hreport
          cases hnone.symm.trans hreport
        · have hbusy : Busy e manifest database _ m rest := Busy.of_claim htodo hkey hagrees rfl
          exact hbusy.of_same rfl rfl rfl
      · refine ⟨htrace.of_same rfl rfl le_rfl fun row hrow => ⟨row, hrow, rfl⟩, ?_,
          fun _ => hnone, trivial⟩
        intro report hreport
        cases hnone.symm.trans hreport

theorem Sound.execute {statement : String}
    (hphase : s.phase = .executing m statement statements rest) (answer : Answer) :
    Sound e manifest database (s.advance e manifest database answer) := by
  have hnone : s.returned = none := h.quiet (by simp [hphase])
  have hat := h.atPhase
  rw [AtPhase, hphase] at hat
  have hexecuted : ∀ x ∈ s.executed ++ [(s.runs, m)], x ∈ s.claims := by
    intro x hx
    rcases List.mem_append.mp hx with hx | hx
    · exact h.trace.executed x hx
    · rw [List.mem_singleton.mp hx]
      exact hat.claim
  simp only [State.advance, hphase]
  split
  · refine ⟨⟨h.trace.runs, h.trace.claimed, h.trace.active, h.trace.once, h.trace.ordered,
      hexecuted⟩, (fun report hreport => nomatch hnone.symm.trans hreport), fun _ => hnone, ?_⟩
    exact atPhase_script rfl (hat.of_same rfl rfl rfl)
  · exact ⟨⟨h.trace.runs, h.trace.claimed, h.trace.active, h.trace.once, h.trace.ordered,
      hexecuted⟩, (fun report hreport => nomatch hnone.symm.trans hreport), fun _ => hnone, trivial⟩

theorem Sound.finish (hphase : s.phase = .finishing m rest) (answer : Answer) :
    Sound e manifest database (s.advance e manifest database answer) := by
  have hactive : s.phase ≠ .idle := by simp [hphase]
  have hat := h.atPhase
  rw [AtPhase, hphase] at hat
  have hkeys : ∀ row ∈ s.rows, ∃ row' ∈ e.markSuccess s.rows m, row'.key = row.key := by
    intro row hrow
    exact ⟨_, e.mem_markSuccess.mpr ⟨row, hrow, rfl⟩, (e.key_markSuccess row m).1⟩
  have hagrees : Agrees (manifest.migrationsFor database) (e.markSuccess s.rows m) := by
    intro row hrow
    obtain ⟨row', hrow', rfl⟩ := e.mem_markSuccess.mp hrow
    obtain ⟨hsuccess, m', hm', hkey, hchecksum⟩ := hat.agrees row' hrow'
    refine ⟨?_, m', hm', hkey.trans (e.key_markSuccess row' m).1.symm,
      (e.key_markSuccess row' m).2.trans hchecksum⟩
    split
    case isTrue => rfl
    case isFalse hother => exact hsuccess.resolve_right hother
  have htodo : Todo manifest database { s with history := some (e.markSuccess s.rows m) } rest := by
    refine ⟨rfl, fun m' hm' hstate => ?_, hat.active, hat.sorted, hat.after⟩
    rcases hat.pending m' hm' hstate with hleft | ⟨row, hrow, hkey⟩
    · exact .inl hleft
    · obtain ⟨row', hrow', hkey'⟩ := hkeys row hrow
      exact .inr ⟨row', hrow', hkey'.trans hkey⟩
  cases answer with
  | ok =>
    simp only [State.advance, hphase, Answer.effective, if_true]
    exact h.of_step hactive rfl rfl rfl rfl hkeys
      (atPhase_next rfl hagrees (htodo.of_same rfl rfl rfl))
  | error effective =>
    simp only [State.advance, hphase, Answer.effective, reduceCtorEq, if_false]
    cases effective with
    | true => exact h.of_step hactive rfl rfl rfl rfl hkeys trivial
    | false => exact h.failed hactive

/-- The rows of an import are all there or none is. -/
theorem Sound.importing {inserted : List HistoryRow} (hphase : s.phase = .importing rest inserted)
    (answer : Answer) : Sound e manifest database (s.advance e manifest database answer) := by
  have hactive : s.phase ≠ .idle := by simp [hphase]
  have hat := h.atPhase
  rw [AtPhase, hphase] at hat
  cases rest with
  | nil =>
    have hkeys : ∀ row ∈ s.rows, ∃ row' ∈ s.rows ++ inserted, row'.key = row.key :=
      fun row hrow => ⟨row, List.mem_append_left _ hrow, rfl⟩
    simp only [State.advance, hphase]
    cases answer with
    | ok => exact h.of_step hactive rfl rfl rfl rfl hkeys ⟨rfl, hat.2⟩
    | error effective =>
      cases effective with
      | true => exact h.of_step hactive rfl rfl rfl rfl hkeys trivial
      | false => exact h.failed hactive
  | cons m rest =>
    simp only [State.advance, hphase]
    split
    · split
      · exact h.failed hactive
      · exact h.of_phase hactive hat
    · exact h.failed hactive

theorem Sound.ensure (hphase : s.phase = .ensuring) (answer : Answer) :
    Sound e manifest database (s.advance e manifest database answer) := by
  have hactive : s.phase ≠ .idle := by simp [hphase]
  have hat := h.atPhase
  rw [AtPhase, hphase] at hat
  have hkeys : ∀ row ∈ s.rows, ∃ row' ∈ s.rows, row'.key = row.key :=
    fun row hrow => ⟨row, hrow, rfl⟩
  simp only [State.advance, hphase]
  cases answer with
  | ok => exact h.of_step hactive rfl rfl rfl rfl hkeys ⟨rfl, hat⟩
  | error effective =>
    cases effective with
    | true => exact h.of_step hactive rfl rfl rfl rfl hkeys trivial
    | false => exact h.failed hactive

theorem Sound.advance (answer : Answer) :
    Sound e manifest database (s.advance e manifest database answer) := by
  have hat := h.atPhase
  rw [AtPhase] at hat
  cases hphase : s.phase with
  | idle =>
    simp only [State.advance, hphase]
    exact h
  | checkingBaseline | locking =>
    rw [hphase] at hat
    simp only [State.advance, hphase]
    split
    · exact h.of_phase (by simp [hphase]) hat
    · exact h.returnErr
  | ensuring => exact h.ensure hphase answer
  | counting =>
    rw [hphase] at hat
    simp only [State.advance, hphase]
    split
    · refine h.of_phase (by simp [hphase]) ?_
      split
      · exact hat
      · exact hat
    · exact h.failed (by simp [hphase])
  | planning =>
    rw [hphase] at hat
    simp only [State.advance, hphase]
    split
    · split
      · exact h.failed (by simp [hphase])
      · exact h.of_phase (by simp [hphase]) hat
      · exact h.of_phase (by simp [hphase]) hat
    · exact h.failed (by simp [hphase])
  | importing rest inserted => exact h.importing hphase answer
  | reading =>
    simp only [State.advance, hphase]
    split
    · exact h.validate hphase
    · exact h.failed (by simp [hphase])
  | claiming m rest =>
    simp only [State.advance, hphase]
    exact h.claim hphase answer
  | executing m statement statements rest => exact h.execute hphase answer
  | recordingFailure =>
    simp only [State.advance, hphase]
    exact h.failed (by simp [hphase])
  | finishing m rest => exact h.finish hphase answer
  | releasing succeeded =>
    rw [hphase] at hat
    simp only [State.advance, hphase]
    split
    case isTrue hok =>
      rw [hok.2] at hat
      refine h.of_phase (by simp [hphase]) ?_
      exact Complete.of_same hat rfl
    case isFalse => exact h.returnErr
  | inspecting =>
    rw [hphase] at hat
    simp only [State.advance, hphase]
    split
    · refine ⟨h.trace.of_same rfl rfl le_rfl fun row hrow => ⟨row, hrow, rfl⟩,
        fun _ _ => Complete.of_same hat rfl, fun hidle => absurd rfl hidle, trivial⟩
    · exact h.returnErr

end Loop

/-! ## Runs -/

section Steps

variable (h : Sound e manifest database s)

include h

theorem Sound.stop (durable : Bool) : Sound e manifest database (s.stop durable) := by
  rw [State.stop]
  split
  case h_1 rest inserted hphase =>
    have hnone : s.returned = none := h.quiet (by simp [hphase])
    refine ⟨h.trace.of_same rfl rfl le_rfl fun row hrow => ?_,
      (fun report hreport => nomatch hnone.symm.trans hreport), fun hidle => absurd rfl hidle, trivial⟩
    cases durable with
    | true => exact ⟨row, List.mem_append_left _ hrow, rfl⟩
    | false => exact ⟨row, hrow, rfl⟩
  case h_2 =>
    exact ⟨h.trace.of_same rfl rfl le_rfl fun row hrow => ⟨row, hrow, rfl⟩,
      fun report hreport => (h.returned report hreport).of_same rfl,
      fun hidle => absurd rfl hidle, trivial⟩

theorem Sound.step (action : Action δ) :
    Sound e manifest database (s.step e manifest database action) := by
  cases action with
  | startRun =>
    rw [State.step]
    split
    · refine ⟨h.trace.of_same rfl rfl (Nat.le_succ _) fun row hrow => ⟨row, hrow, rfl⟩,
        nofun, fun _ => rfl, ?_⟩
      exact fun c hc => Nat.lt_succ_of_le (h.trace.runs c hc)
    · exact h
  | advance answer => exact h.advance answer
  | stop durable => exact h.stop durable
  | write contents =>
    refine ⟨h.trace.of_same rfl rfl le_rfl fun row hrow => ⟨row, hrow, rfl⟩,
      fun report hreport => (h.returned report hreport).of_same rfl, h.quiet, ?_⟩
    exact h.atPhase.write contents

end Steps

end State

end RustyCore.Migrations
