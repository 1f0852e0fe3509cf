import Mathlib.Data.Multiset.UnionInter

/-! # Ledgers

A log in which each thing is created, used and retired, against the things that are held:
what is used or retired is held, and what is retired is held no longer. -/

namespace RustyCore

/-- What an event of a log does to a thing. -/
inductive Entry (ι : Type) where
  | created (i : ι)
  | used (i : ι)
  | retired (i : ι)
deriving DecidableEq

def Entry.thing {ι : Type} : Entry ι → ι
  | created i => i
  | used i => i
  | retired i => i

namespace Ledger

variable {ε ι : Type} (entry : ε → Entry ι)

/-- The things held before and after the events. -/
inductive Replays : Multiset ι → List ε → Multiset ι → Prop
  | nil (held : Multiset ι) : Replays held [] held
  | created {held held' : Multiset ι} {e : ε} {es : List ε} {i : ι} (he : entry e = .created i)
      (rest : Replays (i ::ₘ held) es held') : Replays held (e :: es) held'
  | used {held held' : Multiset ι} {e : ε} {es : List ε} {i : ι} (he : entry e = .used i)
      (hi : i ∈ held) (rest : Replays held es held') : Replays held (e :: es) held'
  | retired {held held' : Multiset ι} {e : ε} {es : List ε} {i : ι} (he : entry e = .retired i)
      (rest : Replays held es held') : Replays (i ::ₘ held) (e :: es) held'

/-- The things created by the events. -/
def creations (es : List ε) : List ι :=
  es.filterMap fun e => match entry e with
    | .created i => some i
    | _ => none

variable {entry} {held held' held'' : Multiset ι} {es es' : List ε} {i : ι}

theorem creations_cons_created {e : ε} (he : entry e = .created i) :
    creations entry (e :: es) = i :: creations entry es := by
  simp [creations, he]

theorem creations_cons {e : ε} (he : ∀ i, entry e ≠ .created i) :
    creations entry (e :: es) = creations entry es := by
  unfold creations
  rw [List.filterMap_cons]
  cases hentry : entry e with
  | created i => exact absurd hentry (he i)
  | used i => rfl
  | retired i => rfl

theorem creations_append :
    creations entry (es ++ es') = creations entry es ++ creations entry es' :=
  List.filterMap_append

theorem creations_eq_nil (h : ∀ e ∈ es, ∀ i, entry e ≠ .created i) : creations entry es = [] := by
  induction es with
  | nil => rfl
  | cons e es ih =>
    rw [creations_cons (h e List.mem_cons_self)]
    exact ih fun e' he' => h e' (List.mem_cons_of_mem e he')

namespace Replays

theorem append (h : Replays entry held es held') (h' : Replays entry held' es' held'') :
    Replays entry held (es ++ es') held'' := by
  induction h with
  | nil held => exact h'
  | created he rest ih => exact .created he (ih h')
  | used he hi rest ih => exact .used he hi (ih h')
  | retired he rest ih => exact .retired he (ih h')

theorem cons_held (h : Replays entry held es held') (i : ι) :
    Replays entry (i ::ₘ held) es (i ::ₘ held') := by
  induction h with
  | nil held => exact .nil _
  | created he rest ih => exact .created he (Multiset.cons_swap _ _ _ ▸ ih)
  | used he hi rest ih => exact .used he (Multiset.mem_cons_of_mem hi) ih
  | retired he rest ih => exact Multiset.cons_swap _ _ _ ▸ .retired he ih

theorem singleton_used {e : ε} (he : entry e = .used i) (hi : i ∈ held) :
    Replays entry held [e] held := .used he hi (.nil held)

theorem singleton_retired {e : ε} (he : entry e = .retired i) :
    Replays entry (i ::ₘ held) [e] held := .retired he (.nil held)

/-- A thing that is not held and not created takes no part. -/
theorem thing_ne (h : Replays entry held es held') (hheld : i ∉ held)
    (hcreated : i ∉ creations entry es) : i ∉ held' ∧ ∀ e ∈ es, (entry e).thing ≠ i := by
  induction h with
  | nil held => exact ⟨hheld, fun e he => nomatch he⟩
  | @created held held' e es j he rest ih =>
    rw [creations_cons_created he, List.mem_cons, not_or] at hcreated
    obtain ⟨hmem, hrest⟩ := ih (by simp [hheld, hcreated.1]) hcreated.2
    refine ⟨hmem, List.forall_mem_cons.mpr ⟨?_, hrest⟩⟩
    rw [he]
    exact Ne.symm hcreated.1
  | @used held held' e es j he hj rest ih =>
    rw [creations_cons (by simp [he])] at hcreated
    obtain ⟨hmem, hrest⟩ := ih hheld hcreated
    refine ⟨hmem, List.forall_mem_cons.mpr ⟨?_, hrest⟩⟩
    rw [he]
    exact fun heq => hheld (heq ▸ hj)
  | @retired held held' e es j he rest ih =>
    rw [creations_cons (by simp [he])] at hcreated
    rw [Multiset.mem_cons, not_or] at hheld
    obtain ⟨hmem, hrest⟩ := ih hheld.2 hcreated
    refine ⟨hmem, List.forall_mem_cons.mpr ⟨?_, hrest⟩⟩
    rw [he]
    exact Ne.symm hheld.1

end Replays

/-- A thing is retired once, and nothing is done with it afterwards. -/
def RetiredOnce (entry : ε → Entry ι) (es : List ε) (i : ι) : Prop :=
  ∃ before e after, es = before ++ e :: after ∧ entry e = .retired i ∧
    (∀ e' ∈ before, entry e' ≠ .retired i) ∧ ∀ e' ∈ after, (entry e').thing ≠ i

theorem RetiredOnce.cons (h : RetiredOnce entry es i) {e : ε} (he : entry e ≠ .retired i) :
    RetiredOnce entry (e :: es) i := by
  obtain ⟨before, e', after, rfl, he', hbefore, hafter⟩ := h
  exact ⟨e :: before, e', after, rfl, he', List.forall_mem_cons.mpr ⟨he, hbefore⟩, hafter⟩

section Accounting

variable [DecidableEq ι]

/-- Where nothing is created twice, each thing is held once and not retired, or it is held no
longer and was retired once. -/
theorem Replays.held_or_retired (h : Replays entry held es held')
    (hnodup : (held + creations entry es).Nodup) (hi : i ∈ held + creations entry es) :
    (held'.count i = 1 ∧ ∀ e ∈ es, entry e ≠ .retired i) ∨
      (i ∉ held' ∧ RetiredOnce entry es i) := by
  induction h with
  | nil held =>
    simp only [creations, List.filterMap_nil, Multiset.coe_nil, Multiset.add_zero] at hnodup hi
    exact .inl ⟨Multiset.count_eq_one_of_mem hnodup hi, fun e he => nomatch he⟩
  | @created held held' e es j he rest ih =>
    have hsame : held + creations entry (e :: es) = j ::ₘ held + creations entry es := by
      rw [creations_cons_created he, ← Multiset.cons_coe, Multiset.add_cons, Multiset.cons_add]
    rw [hsame] at hnodup hi
    have hne : entry e ≠ .retired i := by simp [he]
    rcases ih hnodup hi with ⟨hcount, hkept⟩ | ⟨hmem, honce⟩
    · exact .inl ⟨hcount, List.forall_mem_cons.mpr ⟨hne, hkept⟩⟩
    · exact .inr ⟨hmem, honce.cons hne⟩
  | @used held held' e es j he hj rest ih =>
    rw [creations_cons (by simp [he])] at hnodup hi
    have hne : entry e ≠ .retired i := by simp [he]
    rcases ih hnodup hi with ⟨hcount, hkept⟩ | ⟨hmem, honce⟩
    · exact .inl ⟨hcount, List.forall_mem_cons.mpr ⟨hne, hkept⟩⟩
    · exact .inr ⟨hmem, honce.cons hne⟩
  | @retired held held' e es j he rest ih =>
    rw [creations_cons (by simp [he]), Multiset.cons_add] at hnodup hi
    obtain ⟨hj, hnodup⟩ := Multiset.nodup_cons.mp hnodup
    rcases eq_or_ne i j with rfl | hij
    · rw [Multiset.mem_add, not_or] at hj
      obtain ⟨hmem, hthing⟩ := rest.thing_ne hj.1 (by simpa using hj.2)
      exact .inr ⟨hmem, [], e, es, rfl, he, fun _ he' => absurd he' List.not_mem_nil, hthing⟩
    · have hne : entry e ≠ .retired i := by simp [he, Ne.symm hij]
      rcases ih hnodup ((Multiset.mem_cons.mp hi).resolve_left hij) with
        ⟨hcount, hkept⟩ | ⟨hmem, honce⟩
      · exact .inl ⟨hcount, List.forall_mem_cons.mpr ⟨hne, hkept⟩⟩
      · exact .inr ⟨hmem, honce.cons hne⟩

end Accounting

end Ledger

end RustyCore
