import Mathlib.Data.List.Basic

/-! # Stateful programs that may fail

`Succeeds m s post` says that `m`, started in `s`, returns a value, and that `post` holds of
this value and the state it leaves. `Finishes m s post exit` allows an error too: `exit`
holds of the error and its state. `Ends m s post fail` says less, it does not look at the error.
The rules follow the ways programs are put together. -/

namespace RustyCore

variable {ε σ α β : Type}

/-- `m` does not fail in `s`, and `post` holds of its result and the state after it. -/
def Succeeds (m : EStateM ε σ α) (s : σ) (post : α → σ → Prop) : Prop :=
  ∃ a s', m s = .ok a s' ∧ post a s'

/-- The state that `m` leaves behind, also when it fails. -/
def finalState (m : EStateM ε σ α) (s : σ) : σ :=
  match m s with
  | .ok _ s' => s'
  | .error _ s' => s'

namespace Succeeds

variable {m : EStateM ε σ α} {s : σ} {post post' : α → σ → Prop}

theorem mono (h : Succeeds m s post) (hpost : ∀ a s', post a s' → post' a s') :
    Succeeds m s post' := by
  obtain ⟨a, s', hrun, ha⟩ := h
  exact ⟨a, s', hrun, hpost a s' ha⟩

theorem finalState (h : Succeeds m s post) : ∃ a, post a (finalState m s) := by
  obtain ⟨a, s', hrun, ha⟩ := h
  refine ⟨a, ?_⟩
  rw [RustyCore.finalState, hrun]
  exact ha

theorem pure {a : α} (h : post a s) : Succeeds (Pure.pure a : EStateM ε σ α) s post :=
  ⟨a, s, rfl, h⟩

theorem bind {f : α → EStateM ε σ β} {mid : α → σ → Prop} {post : β → σ → Prop}
    (hm : Succeeds m s mid) (hf : ∀ a s', mid a s' → Succeeds (f a) s' post) :
    Succeeds (m >>= f) s post := by
  obtain ⟨a, s', hrun, ha⟩ := hm
  obtain ⟨b, s'', hrun', hb⟩ := hf a s' ha
  refine ⟨b, s'', ?_, hb⟩
  change EStateM.bind m f s = _
  rw [EStateM.bind, hrun]
  exact hrun'

theorem map {f : α → β} {post : β → σ → Prop} (h : Succeeds m s fun a s' => post (f a) s') :
    Succeeds (f <$> m) s post := by
  obtain ⟨a, s', hrun, ha⟩ := h
  refine ⟨f a, s', ?_, ha⟩
  change EStateM.map f m s = _
  rw [EStateM.map, hrun]

/-- A program that succeeds never reaches its handler. -/
theorem tryCatch {handler : ε → EStateM ε σ α} (h : Succeeds m s post) :
    Succeeds (MonadExcept.tryCatch m handler) s post := by
  obtain ⟨a, s', hrun, ha⟩ := h
  refine ⟨a, s', ?_, ha⟩
  change EStateM.tryCatch m handler s = _
  rw [EStateM.tryCatch]
  simp only [hrun]

/-- A fold keeps an invariant that speaks about the elements still to come. -/
theorem foldlM {f : β → α → EStateM ε σ β} (P : List α → β → σ → Prop)
    (hstep : ∀ a rest b s, P (a :: rest) b s → Succeeds (f b a) s (P rest)) {l : List α} {b : β}
    (h : P l b s) : Succeeds (l.foldlM f b) s (P []) := by
  induction l generalizing b s with
  | nil => exact Succeeds.pure h
  | cons a l ih =>
    rw [List.foldlM_cons]
    exact bind (hstep a l b s h) fun b' s' h' => ih h'

/-- A sequence of calls keeps an invariant that speaks about the calls still to come. -/
theorem mapM {f : α → EStateM ε σ β} (P : List α → σ → Prop)
    (hstep : ∀ a rest s, P (a :: rest) s → Succeeds (f a) s fun _ => P rest) {l : List α}
    (h : P l s) : Succeeds (l.mapM f) s fun _ => P [] := by
  induction l generalizing s with
  | nil =>
    rw [List.mapM_nil]
    exact Succeeds.pure h
  | cons a l ih =>
    rw [List.mapM_cons]
    refine bind (hstep a l s h) fun b s' hs' => ?_
    refine bind (ih hs') fun bs s'' hs'' => ?_
    exact Succeeds.pure hs''

end Succeeds

/-- `post` holds of the result of `m` in `s`, or `exit` of the error and the state it leaves. -/
def Finishes (m : EStateM ε σ α) (s : σ) (post : α → σ → Prop) (exit : ε → σ → Prop) : Prop :=
  match m s with
  | .ok a s' => post a s'
  | .error e s' => exit e s'

namespace Finishes

variable {m : EStateM ε σ α} {s : σ} {post post' : α → σ → Prop} {exit exit' : ε → σ → Prop}

theorem mono (h : Finishes m s post exit) (hpost : ∀ a s', post a s' → post' a s')
    (hexit : ∀ e s', exit e s' → exit' e s') : Finishes m s post' exit' := by
  unfold Finishes at h ⊢
  split
  case h_1 a s' hrun =>
    rw [hrun] at h
    exact hpost a s' h
  case h_2 e s' hrun =>
    rw [hrun] at h
    exact hexit e s' h

theorem of_ok (h : Finishes m s post exit) {a : α} {s' : σ} (hrun : m s = .ok a s') :
    post a s' := by
  unfold Finishes at h
  rw [hrun] at h
  exact h

theorem of_error (h : Finishes m s post exit) {e : ε} {s' : σ} (hrun : m s = .error e s') :
    exit e s' := by
  unfold Finishes at h
  rw [hrun] at h
  exact h

theorem pure {a : α} (h : post a s) : Finishes (Pure.pure a : EStateM ε σ α) s post exit := h

theorem throw {e : ε} (h : exit e s) :
    Finishes (MonadExcept.throw e : EStateM ε σ α) s post exit := h

theorem get_bind {f : σ → EStateM ε σ α} (h : Finishes (f s) s post exit) :
    Finishes (MonadState.get >>= f) s post exit := h

theorem set_bind {s' : σ} {f : PUnit → EStateM ε σ α} (h : Finishes (f ⟨⟩) s' post exit) :
    Finishes (MonadStateOf.set s' >>= f) s post exit := h

theorem modify_bind {g : σ → σ} {f : PUnit → EStateM ε σ α}
    (h : Finishes (f ⟨⟩) (g s) post exit) : Finishes (modify g >>= f) s post exit := h

theorem bind {f : α → EStateM ε σ β} {mid : α → σ → Prop} {post : β → σ → Prop}
    (hm : Finishes m s mid exit) (hf : ∀ a s', mid a s' → Finishes (f a) s' post exit) :
    Finishes (m >>= f) s post exit := by
  change match EStateM.bind m f s with
    | .ok b s' => post b s'
    | .error e s' => exit e s'
  unfold Finishes at hm
  rw [EStateM.bind]
  cases hrun : m s with
  | ok a s' =>
    rw [hrun] at hm
    exact hf a s' hm
  | error e s' =>
    rw [hrun] at hm
    exact hm

theorem map {f : α → β} {post : β → σ → Prop}
    (h : Finishes m s (fun a s' => post (f a) s') exit) : Finishes (f <$> m) s post exit := by
  change match EStateM.map f m s with
    | .ok b s' => post b s'
    | .error e s' => exit e s'
  unfold Finishes at h
  rw [EStateM.map]
  cases hrun : m s with
  | ok a s' =>
    rw [hrun] at h
    exact h
  | error e s' =>
    rw [hrun] at h
    exact h

/-- A handler that goes on in the state it finds. -/
theorem tryCatch {handler : ε → EStateM ε σ α} {mid : ε → σ → Prop} (h : Finishes m s post mid)
    (hhandler : ∀ e s', mid e s' → Finishes (handler e) s' post exit) :
    Finishes (MonadExcept.tryCatch m handler) s post exit := by
  change match EStateM.tryCatch m handler s with
    | .ok a s' => post a s'
    | .error e s' => exit e s'
  unfold Finishes at h
  rw [EStateM.tryCatch]
  cases hrun : m s with
  | ok a s' =>
    rw [hrun] at h
    exact h
  | error e s' =>
    rw [hrun] at h
    exact hhandler e s' h

/-- A fold keeps an invariant that speaks about the elements still to come. -/
theorem foldlM {f : β → α → EStateM ε σ β} (P : List α → β → σ → Prop)
    (hstep : ∀ a rest b s, P (a :: rest) b s → Finishes (f b a) s (P rest) exit) {l : List α}
    {b : β} (h : P l b s) : Finishes (l.foldlM f b) s (P []) exit := by
  induction l generalizing b s with
  | nil => exact Finishes.pure h
  | cons a l ih =>
    rw [List.foldlM_cons]
    exact bind (hstep a l b s h) fun b' s' h' => ih h'

end Finishes

/-- `post` holds of the result of `m` in `s`, or `fail` of the state that an error leaves. -/
def Ends (m : EStateM ε σ α) (s : σ) (post : α → σ → Prop) (fail : σ → Prop) : Prop :=
  match m s with
  | .ok a s' => post a s'
  | .error _ s' => fail s'

namespace Ends

variable {m : EStateM ε σ α} {s : σ} {post post' : α → σ → Prop} {fail fail' : σ → Prop}

theorem mono (h : Ends m s post fail) (hpost : ∀ a s', post a s' → post' a s')
    (hfail : ∀ s', fail s' → fail' s') : Ends m s post' fail' :=
  Finishes.mono h hpost fun _ => hfail

protected theorem trivial (m : EStateM ε σ α) (s : σ) :
    Ends m s (fun _ _ => True) fun _ => True := by
  unfold Ends
  split <;> trivial

theorem fail_of_error (h : Ends m s post fail) {e : ε} {s' : σ} (hrun : m s = .error e s') :
    fail s' :=
  Finishes.of_error h hrun

theorem pure {a : α} (h : post a s) : Ends (Pure.pure a : EStateM ε σ α) s post fail := h

theorem throw {e : ε} (h : fail s) :
    Ends (MonadExcept.throw e : EStateM ε σ α) s post fail := h

theorem bind {f : α → EStateM ε σ β} {mid : α → σ → Prop} {post : β → σ → Prop}
    (hm : Ends m s mid fail) (hf : ∀ a s', mid a s' → Ends (f a) s' post fail) :
    Ends (m >>= f) s post fail :=
  Finishes.bind hm hf

theorem map {f : α → β} {post : β → σ → Prop} (h : Ends m s (fun a s' => post (f a) s') fail) :
    Ends (f <$> m) s post fail :=
  Finishes.map h

/-- A handler that goes on in the state it finds. -/
theorem tryCatch {handler : ε → EStateM ε σ α} {mid : σ → Prop} (h : Ends m s post mid)
    (hhandler : ∀ e s', mid s' → Ends (handler e) s' post fail) :
    Ends (MonadExcept.tryCatch m handler) s post fail :=
  Finishes.tryCatch h hhandler

/-- A fold keeps an invariant that speaks about the elements still to come. -/
theorem foldlM {f : β → α → EStateM ε σ β} (P : List α → β → σ → Prop)
    (hstep : ∀ a rest b s, P (a :: rest) b s → Ends (f b a) s (P rest) fail) {l : List α} {b : β}
    (h : P l b s) : Ends (l.foldlM f b) s (P []) fail :=
  Finishes.foldlM P hstep h

end Ends

end RustyCore

/-! ## Reading back what was written

A writer builds its output step by step, and a reader goes through the finished output. A step of
the writer is read back by a program of the reader if the two stay side by side: `Ready` holds of
every state of the writer, `Agrees` says that a finished output can still come out of a state of
the writer, and `Coupled` that the reader stands in this output where the writer stands. -/

namespace RustyCore

/-- What couples the states `ω` of a writer with the states `ρ` of a reader, for outputs `δ`. -/
structure Coupling (ω δ ρ : Type) where
  Ready : ω → Prop
  Agrees : ω → δ → Prop
  Coupled : ω → δ → ρ → Prop

variable {ω δ ρ ε α β : Type}

/-- `read` gives back `v` where `write` has written. -/
structure ReadsBack (c : Coupling ω δ ρ) (write : ω → ω) (read : EStateM ε ρ α) (v : α) :
    Prop where
  ready : ∀ w, c.Ready w → c.Ready (write w)
  agrees : ∀ w out, c.Ready w → c.Agrees (write w) out → c.Agrees w out
  reads : ∀ w out r, c.Ready w → c.Agrees (write w) out → c.Coupled w out r →
    Succeeds read r fun a r' => a = v ∧ c.Coupled (write w) out r'

namespace ReadsBack

variable {c : Coupling ω δ ρ} {write write' : ω → ω} {read : EStateM ε ρ α} {v : α}

theorem pure (v : α) : ReadsBack c id (Pure.pure v : EStateM ε ρ α) v where
  ready _ h := h
  agrees _ _ _ h := h
  reads _ _ _ _ _ h := Succeeds.pure ⟨rfl, h⟩

theorem bind {next : α → EStateM ε ρ β} {v' : β} (h : ReadsBack c write read v)
    (h' : ReadsBack c write' (next v) v') : ReadsBack c (write' ∘ write) (read >>= next) v' where
  ready w hw := h'.ready _ (h.ready w hw)
  agrees w out hw hout := h.agrees w out hw (h'.agrees _ out (h.ready w hw) hout)
  reads w out r hw hout hr := by
    have hfirst := h'.agrees _ out (h.ready w hw) hout
    refine Succeeds.bind (h.reads w out r hw hfirst hr) fun a r' ha => ?_
    rw [ha.1]
    exact h'.reads _ out r' (h.ready w hw) hout ha.2

theorem seq {read' : EStateM ε ρ β} {v' : β} (h : ReadsBack c write read v)
    (h' : ReadsBack c write' read' v') :
    ReadsBack c (write' ∘ write) (read >>= fun _ => read') v' :=
  bind h h'

theorem map (f : α → β) (h : ReadsBack c write read v) : ReadsBack c write (f <$> read) (f v) where
  ready := h.ready
  agrees := h.agrees
  reads w out r hw hout hr :=
    Succeeds.map ((h.reads w out r hw hout hr).mono fun _ _ ha => ⟨congrArg f ha.1, ha.2⟩)

theorem congr (h : ReadsBack c write read v) (hwrite : ∀ w, write' w = write w) :
    ReadsBack c write' read v := by
  have heq : write' = write := funext hwrite
  exact heq ▸ h

/-- A loop that writes, read back by a loop over the same list. -/
theorem mapM {ι : Type} {write : ι → ω → ω} {read : ι → EStateM ε ρ α} {value : ι → α}
    {l : List ι} (h : ∀ i ∈ l, ReadsBack c (write i) (read i) (value i)) :
    ReadsBack c (fun w => l.foldl (fun w i => write i w) w) (l.mapM read) (l.map value) := by
  induction l with
  | nil =>
    rw [List.mapM_nil]
    exact pure []
  | cons i l ih =>
    have hrest := ih fun j hj => h j (List.mem_cons_of_mem i hj)
    have hwrite : (fun w => (i :: l).foldl (fun w i => write i w) w) =
        (id ∘ fun w => l.foldl (fun w i => write i w) w) ∘ write i := rfl
    rw [List.mapM_cons, hwrite]
    refine bind (h i List.mem_cons_self) ?_
    exact bind hrest (pure (value i :: l.map value))

end ReadsBack

end RustyCore
