import RustyCore.Library.FixedWidth

/-! # Checked programs

Programs that index, slice, divide and add under the checks of a language that stops at the
first failed one. `NoCrash` says that no check of the run fails; an error that the program
returns itself is no crash, and neither is a machine without room for a vector. -/

namespace RustyCore

/-- The checks that can fail. -/
inductive Crash
  | outOfRange
  | divisionByZero
  | overflow
  | assertion
  deriving DecidableEq

/-- The ways to stop without a result. -/
inductive Stop (ε : Type)
  | crash (crash : Crash)
  | exhausted
  | error (error : ε)
  deriving DecidableEq

abbrev Checked (ε α : Type) := Except (Stop ε) α

variable {ε α β σ : Type}

def NoCrash (m : Checked ε α) : Prop := ∀ crash, m ≠ .error (.crash crash)

@[simp] theorem noCrash_ok (a : α) : NoCrash (.ok a : Checked ε α) := fun _ h => nomatch h

@[simp] theorem noCrash_pure (a : α) : NoCrash (pure a : Checked ε α) := noCrash_ok a

@[simp] theorem noCrash_error (e : ε) : NoCrash (.error (.error e) : Checked ε α) :=
  fun _ h => nomatch h

@[simp] theorem noCrash_exhausted : NoCrash (.error .exhausted : Checked ε α) :=
  fun _ h => nomatch h

@[simp] theorem not_noCrash (crash : Crash) :
    ¬ NoCrash (.error (.crash crash) : Checked ε α) := fun h => h crash rfl

/-- A sequence does not crash if its head does not, and the rest does not on its result. -/
theorem noCrash_bind_iff {m : Checked ε α} {f : α → Checked ε β} :
    NoCrash (m >>= f) ↔ NoCrash m ∧ ∀ a, m = .ok a → NoCrash (f a) := by
  cases m with
  | ok a =>
    change NoCrash (f a) ↔ _
    simp
  | error stop =>
    change NoCrash (.error stop) ↔ _
    cases stop <;> simp

theorem noCrash_map_iff {m : Checked ε α} {f : α → β} : NoCrash (f <$> m) ↔ NoCrash m := by
  cases m with
  | ok a => exact iff_of_true (noCrash_ok _) (noCrash_ok _)
  | error stop =>
    change NoCrash (.error stop) ↔ _
    cases stop <;> simp

theorem bind_eq_ok_iff {m : Checked ε α} {f : α → Checked ε β} {b : β} :
    m >>= f = .ok b ↔ ∃ a, m = .ok a ∧ f a = .ok b := by
  cases m with
  | ok a =>
    change f a = .ok b ↔ _
    simp
  | error stop =>
    change Except.error stop = .ok b ↔ _
    simp

@[simp] theorem pure_eq_ok_iff {a b : α} : (pure a : Checked ε α) = .ok b ↔ a = b := by
  change Except.ok a = .ok b ↔ _
  simp

section Loops

variable {l : List α} {f : α → Checked ε β} {s : σ} {n : ℕ}

/-- A loop does not crash if no round does, each after rounds that went through. -/
theorem noCrash_foldlM_iff {f : σ → α → Checked ε σ} :
    NoCrash (l.foldlM f s) ↔ ∀ before a after, l = before ++ a :: after →
      ∀ s', before.foldlM f s = .ok s' → NoCrash (f s' a) := by
  induction l generalizing s with
  | nil => simp
  | cons a l ih =>
    rw [List.foldlM_cons, noCrash_bind_iff]
    constructor
    · intro ⟨hfirst, hrest⟩ before b after hl s' hrun
      cases before with
      | nil =>
        obtain ⟨rfl, rfl⟩ := List.cons.inj hl
        obtain rfl := pure_eq_ok_iff.mp hrun
        exact hfirst
      | cons c before =>
        obtain ⟨rfl, rfl⟩ := List.cons.inj hl
        rw [List.foldlM_cons, bind_eq_ok_iff] at hrun
        obtain ⟨s₁, hs₁, hrun⟩ := hrun
        exact ih.mp (hrest s₁ hs₁) before b after rfl s' hrun
    · intro h
      refine ⟨h [] a l rfl s rfl, fun s₁ hs₁ => ih.mpr fun before b after hl s' hrun => ?_⟩
      refine h (a :: before) b after (congrArg (a :: ·) hl) s' ?_
      rw [List.foldlM_cons, bind_eq_ok_iff]
      exact ⟨s₁, hs₁, hrun⟩

theorem noCrash_foldlM_zipIdx_iff {f : ℕ → σ → α → Checked ε σ} :
    NoCrash (l.zipIdx.foldlM (fun s a => f a.2 s a.1) s) ↔
      ∀ before a after, l = before ++ a :: after →
        ∀ s', before.zipIdx.foldlM (fun s a => f a.2 s a.1) s = .ok s' →
          NoCrash (f before.length s' a) := by
  rw [noCrash_foldlM_iff]
  constructor
  · rintro h before a after rfl s' hrun
    refine h before.zipIdx (a, before.length) (after.zipIdx (before.length + 1)) ?_ s' hrun
    rw [List.zipIdx_append, List.zipIdx_cons, Nat.zero_add]
  · intro h before a after hl s' hrun
    obtain ⟨before', rest, rfl, rfl, hrest⟩ := List.zipIdx_eq_append_iff.mp hl
    obtain ⟨b, after', rfl, rfl, -⟩ := List.zipIdx_eq_cons_iff.mp hrest.symm
    rw [Nat.zero_add]
    exact h before' b after' rfl s' hrun

/-- A loop whose invariant also speaks about the rounds still to come. -/
theorem noCrash_foldlM (P : List α → σ → Prop) {f : σ → α → Checked ε σ}
    (hstep : ∀ a rest s, P (a :: rest) s → NoCrash (f s a) ∧ ∀ s', f s a = .ok s' → P rest s')
    (h : P l s) : NoCrash (l.foldlM f s) := by
  induction l generalizing s with
  | nil => exact noCrash_pure s
  | cons a l ih =>
    rw [List.foldlM_cons, noCrash_bind_iff]
    exact ⟨(hstep a l s h).1, fun s' hs' => ih ((hstep a l s h).2 s' hs')⟩

theorem foldlM_ok (P : List α → σ → Prop) {f : σ → α → Checked ε σ}
    (hstep : ∀ a rest s s', P (a :: rest) s → f s a = .ok s' → P rest s') {s' : σ} (h : P l s)
    (hrun : l.foldlM f s = .ok s') : P [] s' := by
  induction l generalizing s with
  | nil =>
    obtain rfl := pure_eq_ok_iff.mp hrun
    exact h
  | cons a l ih =>
    rw [List.foldlM_cons, bind_eq_ok_iff] at hrun
    obtain ⟨s₁, hs₁, hrun⟩ := hrun
    exact ih (hstep a l s s₁ h hs₁) hrun

theorem noCrash_mapM (h : ∀ a ∈ l, NoCrash (f a)) : NoCrash (l.mapM f) := by
  induction l with
  | nil => exact noCrash_pure _
  | cons a l ih =>
    rw [List.mapM_cons, noCrash_bind_iff]
    refine ⟨h a List.mem_cons_self, fun b _ => ?_⟩
    rw [noCrash_bind_iff]
    exact ⟨ih fun c hc => h c (List.mem_cons_of_mem a hc), fun _ _ => noCrash_pure _⟩

/-- Where a call that does not crash returns, all of them have to be free of crashes. -/
theorem noCrash_mapM_iff (hf : ∀ a ∈ l, NoCrash (f a) → ∃ b, f a = .ok b) :
    NoCrash (l.mapM f) ↔ ∀ a ∈ l, NoCrash (f a) := by
  refine ⟨fun h => ?_, noCrash_mapM⟩
  induction l with
  | nil => exact fun a ha => nomatch ha
  | cons a l ih =>
    rw [List.mapM_cons, noCrash_bind_iff] at h
    intro c hc
    rcases List.mem_cons.mp hc with rfl | hc
    · exact h.1
    · obtain ⟨b, hb⟩ := hf a List.mem_cons_self h.1
      exact ih (fun c hc => hf c (List.mem_cons_of_mem a hc))
        (noCrash_bind_iff.mp (h.2 b hb)).1 c hc

/-- A sequence of calls does not crash if no call does, each after calls that went through. -/
theorem noCrash_mapM_prefix_iff :
    NoCrash (l.mapM f) ↔ ∀ before a after, l = before ++ a :: after →
      ∀ bs, before.mapM f = .ok bs → NoCrash (f a) := by
  induction l with
  | nil => simp
  | cons a l ih =>
    rw [List.mapM_cons, noCrash_bind_iff]
    constructor
    · intro ⟨hfirst, hrest⟩ before c after hl bs hrun
      cases before with
      | nil =>
        obtain ⟨rfl, rfl⟩ := List.cons.inj hl
        exact hfirst
      | cons d before =>
        obtain ⟨rfl, rfl⟩ := List.cons.inj hl
        rw [List.mapM_cons, bind_eq_ok_iff] at hrun
        obtain ⟨b, hb, hrun⟩ := hrun
        obtain ⟨bs', hbs', -⟩ := bind_eq_ok_iff.mp hrun
        exact ih.mp (noCrash_bind_iff.mp (hrest b hb)).1 before c after rfl bs' hbs'
    · intro h
      refine ⟨h [] a l rfl [] rfl, fun b hb => noCrash_bind_iff.mpr ⟨?_, fun _ _ =>
        noCrash_pure _⟩⟩
      refine ih.mpr fun before c after hl bs hbs => ?_
      refine h (a :: before) c after (congrArg (a :: ·) hl) (b :: bs) ?_
      rw [List.mapM_cons, bind_eq_ok_iff]
      exact ⟨b, hb, bind_eq_ok_iff.mpr ⟨bs, hbs, rfl⟩⟩

theorem range_eq_append_cons {i : ℕ} (h : i < n) :
    List.range n = List.range i ++ i :: List.range' (i + 1) (n - (i + 1)) := by
  obtain ⟨k, rfl⟩ := Nat.exists_eq_add_of_lt h
  rw [Nat.add_assoc, List.range_add, ← List.range'_eq_map_range, List.range'_succ]
  congr 3
  omega

theorem eq_range_of_range_eq {i : ℕ} {before after : List ℕ}
    (h : List.range n = before ++ i :: after) : i < n ∧ before = List.range i := by
  rw [List.range_eq_range', List.range'_eq_append_iff] at h
  obtain ⟨k, -, rfl, hafter⟩ := h
  obtain ⟨rfl, hpos, -⟩ := List.range'_eq_cons_iff.mp hafter.symm
  rw [Nat.zero_add, Nat.mul_one, List.range_eq_range']
  exact ⟨by omega, rfl⟩

theorem noCrash_mapM_range_iff {f : ℕ → Checked ε β} :
    NoCrash ((List.range n).mapM f) ↔
      ∀ i < n, (∃ bs, (List.range i).mapM f = .ok bs) → NoCrash (f i) := by
  rw [noCrash_mapM_prefix_iff]
  constructor
  · rintro h i hi ⟨bs, hbs⟩
    exact h (List.range i) i _ (range_eq_append_cons hi) bs hbs
  · intro h before i after hsplit bs hbs
    obtain ⟨hi, rfl⟩ := eq_range_of_range_eq hsplit
    exact h i hi ⟨bs, hbs⟩

theorem mapM_ok (h : ∀ a ∈ l, ∃ b, f a = .ok b) : ∃ bs, l.mapM f = .ok bs := by
  induction l with
  | nil => exact ⟨[], rfl⟩
  | cons a l ih =>
    obtain ⟨b, hb⟩ := h a List.mem_cons_self
    obtain ⟨bs, hbs⟩ := ih fun c hc => h c (List.mem_cons_of_mem a hc)
    refine ⟨b :: bs, ?_⟩
    rw [List.mapM_cons]
    exact bind_eq_ok_iff.mpr ⟨b, hb, bind_eq_ok_iff.mpr ⟨bs, hbs, rfl⟩⟩

theorem mapM_ok_length {l' : List β} (h : l.mapM f = .ok l') : l'.length = l.length := by
  induction l generalizing l' with
  | nil =>
    obtain rfl := pure_eq_ok_iff.mp h
    rfl
  | cons a l ih =>
    rw [List.mapM_cons, bind_eq_ok_iff] at h
    obtain ⟨b, -, h⟩ := h
    obtain ⟨bs, hbs, h⟩ := bind_eq_ok_iff.mp h
    obtain rfl := pure_eq_ok_iff.mp h
    exact congrArg (· + 1) (ih hbs)

end Loops

/-! ## The checks -/

/-- Go on only if the condition holds. -/
def ensure (c : Prop) [Decidable c] (error : ε) : Checked ε Unit :=
  if c then .ok () else .error (.error error)

section Ensure

variable {c : Prop} [Decidable c] {error : ε}

@[simp] theorem noCrash_ensure : NoCrash (ensure c error) := by
  rw [ensure]
  split <;> simp

@[simp] theorem ensure_eq_ok_iff {u : Unit} : ensure c error = .ok u ↔ c := by
  rw [ensure]
  split <;> simp_all

end Ensure

/-- `x + y` on `w` bits. -/
def checkedAdd (w x y : ℕ) : Checked ε ℕ :=
  if x + y < 2 ^ w then .ok (x + y) else .error (.crash .overflow)

/-- `x * y` on `w` bits. -/
def checkedMul (w x y : ℕ) : Checked ε ℕ :=
  if x * y < 2 ^ w then .ok (x * y) else .error (.crash .overflow)

def checkedDiv (x y : ℕ) : Checked ε ℕ :=
  if y = 0 then .error (.crash .divisionByZero) else .ok (x / y)

def checkedMod (x y : ℕ) : Checked ε ℕ :=
  if y = 0 then .error (.crash .divisionByZero) else .ok (x % y)

/-- `x - y` on unsigned numbers. -/
def checkedSub (x y : ℕ) : Checked ε ℕ :=
  if y ≤ x then .ok (x - y) else .error (.crash .overflow)

/-- Crash unless the condition holds. -/
def assertThat (c : Prop) [Decidable c] : Checked ε Unit :=
  if c then .ok () else .error (.crash .assertion)

def checkedGet (l : List α) (i : ℕ) : Checked ε α :=
  match l[i]? with
  | some a => .ok a
  | none => .error (.crash .outOfRange)

/-- Change the element at this index in place. -/
def checkedModify (l : List α) (i : ℕ) (f : α → α) : Checked ε (List α) :=
  if i < l.length then .ok (l.modify i f) else .error (.crash .outOfRange)

section Checks

variable {w x y z i : ℕ} {l : List α} {a : α}
variable {c : Prop}

@[simp] theorem noCrash_checkedAdd : NoCrash (checkedAdd w x y : Checked ε ℕ) ↔ x + y < 2 ^ w := by
  rw [checkedAdd]
  split <;> simp_all

@[simp] theorem checkedAdd_eq_ok_iff :
    (checkedAdd w x y : Checked ε ℕ) = .ok z ↔ x + y < 2 ^ w ∧ x + y = z := by
  rw [checkedAdd]
  split <;> simp_all

@[simp] theorem noCrash_checkedMul : NoCrash (checkedMul w x y : Checked ε ℕ) ↔ x * y < 2 ^ w := by
  rw [checkedMul]
  split <;> simp_all

@[simp] theorem checkedMul_eq_ok_iff :
    (checkedMul w x y : Checked ε ℕ) = .ok z ↔ x * y < 2 ^ w ∧ x * y = z := by
  rw [checkedMul]
  split <;> simp_all

@[simp] theorem noCrash_checkedDiv : NoCrash (checkedDiv x y : Checked ε ℕ) ↔ y ≠ 0 := by
  rw [checkedDiv]
  split <;> simp_all

@[simp] theorem checkedDiv_eq_ok_iff :
    (checkedDiv x y : Checked ε ℕ) = .ok z ↔ y ≠ 0 ∧ x / y = z := by
  rw [checkedDiv]
  split <;> simp_all

@[simp] theorem checkedMod_eq_ok_iff :
    (checkedMod x y : Checked ε ℕ) = .ok z ↔ y ≠ 0 ∧ x % y = z := by
  rw [checkedMod]
  split <;> simp_all

theorem checkedMod_of_pos (h : 0 < y) : (checkedMod x y : Checked ε ℕ) = .ok (x % y) :=
  if_neg h.ne'

theorem checkedSub_of_le (h : y ≤ x) : (checkedSub x y : Checked ε ℕ) = .ok (x - y) := if_pos h

theorem assertThat_of [Decidable c] (h : c) : (assertThat c : Checked ε Unit) = .ok () :=
  if_pos h

theorem assertThat_of_not [Decidable c] (h : ¬ c) :
    (assertThat c : Checked ε Unit) = .error (.crash .assertion) := if_neg h

theorem assertThat_eq_ok_iff [Decidable c] {u : Unit} :
    (assertThat c : Checked ε Unit) = .ok u ↔ c := by
  rw [assertThat]
  split <;> simp_all

@[simp] theorem noCrash_checkedGet : NoCrash (checkedGet l i : Checked ε α) ↔ i < l.length := by
  rw [checkedGet]
  split
  case h_1 a ha => exact iff_of_true (noCrash_ok a) (List.getElem?_eq_some_iff.mp ha).1
  case h_2 hnone => exact iff_of_false (not_noCrash _) (by simpa using hnone)

@[simp] theorem checkedGet_eq_ok_iff :
    (checkedGet l i : Checked ε α) = .ok a ↔ l[i]? = some a := by
  rw [checkedGet]
  split <;> simp_all

theorem checkedModify_of_lt {f : α → α} (h : i < l.length) :
    (checkedModify l i f : Checked ε (List α)) = .ok (l.modify i f) := if_pos h

end Checks

/-! ## Byte slices -/

/-- The bytes of a slice or of a vector, which are never more than `isize::MAX`. -/
structure Bytes where
  list : List Byte
  length_lt : list.length < 2 ^ 63

namespace Bytes

variable {bytes other part : Bytes} {start stop : ℕ}

def empty : Bytes := ⟨[], by decide⟩

def length (bytes : Bytes) : ℕ := bytes.list.length

/-- `&bytes[start..stop]` -/
def slice (bytes : Bytes) (start stop : ℕ) : Checked ε Bytes :=
  if start ≤ stop ∧ stop ≤ bytes.length then
    .ok ⟨(bytes.list.take stop).drop start, by
      have := bytes.length_lt
      simp only [List.length_drop, List.length_take]
      omega⟩
  else .error (.crash .outOfRange)

/-- `bytes.extend_from_slice(&other)`, which needs the room. -/
def extend (bytes other : Bytes) : Checked ε Bytes :=
  if h : bytes.length + other.length < 2 ^ 63 then
    .ok ⟨bytes.list ++ other.list, by rw [List.length_append]; exact h⟩
  else .error .exhausted

theorem length_lt' (bytes : Bytes) : bytes.length < 2 ^ 63 := bytes.length_lt

@[simp] theorem noCrash_slice :
    NoCrash (bytes.slice start stop : Checked ε Bytes) ↔ start ≤ stop ∧ stop ≤ bytes.length := by
  rw [slice]
  split <;> simp_all

theorem slice_ok (h : start ≤ stop ∧ stop ≤ bytes.length) :
    ∃ part, bytes.slice start stop = (.ok part : Checked ε Bytes) := by
  rw [slice, if_pos h]
  exact ⟨_, rfl⟩

theorem length_of_slice (h : bytes.slice start stop = (.ok part : Checked ε Bytes)) :
    start ≤ stop ∧ stop ≤ bytes.length ∧ part.length = stop - start := by
  rw [slice] at h
  split at h
  case isTrue hbounds =>
    obtain rfl := Except.ok.inj h
    refine ⟨hbounds.1, hbounds.2, ?_⟩
    simp only [length, List.length_drop, List.length_take] at hbounds ⊢
    omega
  case isFalse => cases h

@[simp] theorem noCrash_extend : NoCrash (bytes.extend other : Checked ε Bytes) := by
  rw [extend]
  split <;> simp

theorem extend_ok (h : bytes.length + other.length < 2 ^ 63) :
    ∃ part, bytes.extend other = (.ok part : Checked ε Bytes) := by
  rw [extend, dif_pos h]
  exact ⟨_, rfl⟩

theorem length_of_extend (h : bytes.extend other = (.ok part : Checked ε Bytes)) :
    part.length = bytes.length + other.length := by
  rw [extend] at h
  split at h
  · obtain rfl := Except.ok.inj h
    exact List.length_append
  · cases h

end Bytes

end RustyCore
