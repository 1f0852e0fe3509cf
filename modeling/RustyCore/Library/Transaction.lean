import RustyCore.Library.Dict

/-! # Transactions

A transaction executes a list of statements on a store; when one fails, it fails as a
whole. The rule at the end is for transactions that are made of blocks, each of which
reads and writes one row only. -/

namespace RustyCore

variable {τ σ : Type*} (execute : τ → σ → Option τ)

/-- Execute the statements in order, up to the first that fails. -/
def transaction (t : τ) (statements : List σ) : Option τ := statements.foldlM execute t

@[simp] theorem transaction_nil (t : τ) : transaction execute t [] = some t := rfl

@[simp] theorem transaction_cons (t : τ) (statement : σ) (rest : List σ) :
    transaction execute t (statement :: rest) =
      (execute t statement).bind fun t' => transaction execute t' rest := rfl

theorem transaction_append (t : τ) (first rest : List σ) :
    transaction execute t (first ++ rest) =
      (transaction execute t first).bind fun t' => transaction execute t' rest := by
  simp only [transaction, List.foldlM_append]
  rfl

/-- Every statement succeeds, and meets `fits` in the store it is executed on. -/
def AllFit (fits : τ → σ → Prop) : τ → List σ → Prop
  | _, [] => True
  | t, statement :: rest =>
    fits t statement ∧ ∃ t', execute t statement = some t' ∧ AllFit fits t' rest

variable {execute} {fits : τ → σ → Prop}

theorem AllFit.append {t t' : τ} {first rest : List σ} (hfirst : AllFit execute fits t first)
    (ht : transaction execute t first = some t') (hrest : AllFit execute fits t' rest) :
    AllFit execute fits t (first ++ rest) := by
  induction first generalizing t with
  | nil =>
    cases ht
    exact hrest
  | cons statement first ih =>
    obtain ⟨hfits, u, hu, hall⟩ := hfirst
    rw [transaction_cons, hu] at ht
    exact ⟨hfits, u, hu, ih hall ht⟩

/-! ## Transactions row by row -/

section Rows

variable {κ ρ υ : Type*}

/-- The statements fit and succeed from `t` to `t'`; they leave `r` in the row of `k`, and no
other row changes. -/
structure RowSpec (row : τ → κ → ρ) (execute : τ → σ → Option τ) (fits : τ → σ → Prop) (t : τ)
    (statements : List σ) (k : κ) (r : ρ) (t' : τ) : Prop where
  allFit : AllFit execute fits t statements
  commits : transaction execute t statements = some t'
  written : row t' k = r
  others : ∀ other, other ≠ k → row t' other = row t other

theorem RowSpec.nil (row : τ → κ → ρ) (execute : τ → σ → Option τ) (fits : τ → σ → Prop) (t : τ)
    (k : κ) : RowSpec row execute fits t [] k (row t k) t :=
  ⟨trivial, rfl, rfl, fun _ _ => rfl⟩

theorem RowSpec.append {row : τ → κ → ρ} {t t' t'' : τ} {first rest : List σ} {k : κ} {r r' : ρ}
    (hfirst : RowSpec row execute fits t first k r t')
    (hrest : RowSpec row execute fits t' rest k r' t'') :
    RowSpec row execute fits t (first ++ rest) k r' t'' := by
  refine ⟨hfirst.allFit.append hfirst.commits hrest.allFit, ?_, hrest.written, ?_⟩
  · rw [transaction_append, hfirst.commits]
    exact hrest.commits
  · intro other hne
    rw [hrest.others other hne, hfirst.others other hne]

variable (row : τ → κ → ρ) (key : υ → κ) (block : υ → List σ)

/-- What the blocks of `units` have done together. -/
structure BlocksSpec (execute : τ → σ → Option τ) (fits : τ → σ → Prop) (effect : υ → ρ → ρ)
    (t : τ) (units : List υ) (t' : τ) : Prop where
  allFit : AllFit execute fits t (units.flatMap block)
  commits : transaction execute t (units.flatMap block) = some t'
  written : ∀ unit ∈ units, row t' (key unit) = effect unit (row t (key unit))
  others : ∀ k, k ∉ units.map key → row t' k = row t k

variable {row key block}

/-- Blocks of different rows do not meet: each row is changed by its own block alone. -/
theorem transaction_blocks {effect : υ → ρ → ρ} {ready : υ → ρ → Prop}
    (hblock : ∀ t unit, ready unit (row t (key unit)) →
      ∃ t', RowSpec row execute fits t (block unit) (key unit) (effect unit (row t (key unit))) t')
    {units : List υ} (hkeys : (units.map key).Nodup) (t : τ)
    (hready : ∀ unit ∈ units, ready unit (row t (key unit))) :
    ∃ t', BlocksSpec row key block execute fits effect t units t' := by
  induction units generalizing t with
  | nil =>
    refine ⟨t, trivial, rfl, ?_, fun _ _ => rfl⟩
    intro unit hunit
    cases hunit
  | cons unit units ih =>
    rw [List.map_cons, List.nodup_cons] at hkeys
    obtain ⟨u, hu⟩ := hblock t unit (hready unit List.mem_cons_self)
    have hsame : ∀ other ∈ units, row u (key other) = row t (key other) := by
      intro other hother
      refine hu.others _ fun heq => hkeys.1 ?_
      exact heq ▸ List.mem_map_of_mem hother
    have hready' : ∀ other ∈ units, ready other (row u (key other)) := by
      intro other hother
      rw [hsame other hother]
      exact hready other (List.mem_cons_of_mem _ hother)
    obtain ⟨t', ht'⟩ := ih hkeys.2 u hready'
    refine ⟨t', ?_, ?_, ?_, ?_⟩
    · exact hu.allFit.append hu.commits ht'.allFit
    · rw [List.flatMap_cons, transaction_append, hu.commits]
      exact ht'.commits
    · intro other hother
      rcases List.mem_cons.mp hother with rfl | hmem
      · rw [ht'.others _ hkeys.1, hu.written]
      · rw [ht'.written other hmem, hsame other hmem]
    · intro k hk
      rw [List.map_cons, List.mem_cons, not_or] at hk
      rw [ht'.others k hk.2, hu.others k hk.1]

end Rows

/-! ## Statements on keyed tables -/

namespace Dict

variable {κ ν : Type*} [DecidableEq κ]

/-- `INSERT`: it fails when the key is present. -/
def insertRow (k : κ) (v : ν) (d : Dict κ ν) : Option (Dict κ ν) :=
  if d.lookup k = none then some (AList.insert k v d) else none

/-- `UPDATE` of the row with this key, provided that it also meets `where?`. -/
def updateRow (k : κ) (where? : ν → Bool) (v : ν) (d : Dict κ ν) : Dict κ ν :=
  d.modify k fun stored => if where? stored then v else stored

theorem insertRow_of_lookup_eq_none {d : Dict κ ν} {k : κ} {v : ν} (h : d.lookup k = none) :
    d.insertRow k v = some (AList.insert k v d) := if_pos h

theorem lookup_updateRow (k : κ) (where? : ν → Bool) (v : ν) (d : Dict κ ν) (k' : κ) :
    (d.updateRow k where? v).lookup k' =
      if k' = k then (d.lookup k).map fun stored => if where? stored then v else stored
      else d.lookup k' :=
  lookup_modify k _ d k'

end Dict

end RustyCore
