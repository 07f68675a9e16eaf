import Mathlib.Data.List.Basic

/-!
# What a step secures

Steps of evaluation, of programs and of loading change a state and may fail, and they keep their
state then too.  `Secures` says of a step from a state that an invariant holds afterwards,
whether it fails or not, and that its result fits the state if it succeeds.  There is one rule
for each way to build a step.
-/

namespace ElmCodec

variable {ε σ α β : Type}

theorem run_bind (x : ExceptT ε (StateM σ) α) (f : α → ExceptT ε (StateM σ) β) (s : σ) :
    (x >>= f).run s =
      match x.run s with
      | (.ok a, s') => (f a).run s'
      | (.error e, s') => (.error e, s') := by
  simp only [ExceptT.run, Bind.bind, ExceptT.bind, ExceptT.mk, StateT.bind]
  rcases x s with ⟨e | a, s'⟩
  · rfl
  · rfl

theorem run_get_bind (f : σ → ExceptT ε (StateM σ) β) (s : σ) : (get >>= f).run s = (f s).run s :=
  rfl

theorem run_modify_bind (g : σ → σ) (f : PUnit → ExceptT ε (StateM σ) β) (s : σ) :
    (modify g >>= f).run s = (f ⟨⟩).run (g s) :=
  rfl

theorem run_tryCatch (x : ExceptT ε (StateM σ) α) (handle : ε → ExceptT ε (StateM σ) α) (s : σ) :
    (tryCatch x handle).run s =
      match x.run s with
      | (.ok a, s') => (.ok a, s')
      | (.error e, s') => (handle e).run s' := by
  simp only [tryCatch, tryCatchThe, MonadExceptOf.tryCatch, ExceptT.tryCatch, ExceptT.run,
    ExceptT.mk, bind, StateT.bind, pure]
  rcases x s with ⟨e | a, s'⟩
  · rfl
  · rfl

/-- A step from a state leads to a state with an invariant, and if it succeeds, to a result that
fits this state. -/
def Secures (inv : σ → Prop) (x : ExceptT ε (StateM σ) α) (s : σ) (Q : α → σ → Prop) : Prop :=
  inv (x.run s).2 ∧ ∀ a, (x.run s).1 = .ok a → Q a (x.run s).2

namespace Secures

variable {inv : σ → Prop} {x : ExceptT ε (StateM σ) α} {f : α → ExceptT ε (StateM σ) β}
  {Q : α → σ → Prop} {R : β → σ → Prop} {s : σ}

theorem pure {a : α} (hs : inv s) (ha : Q a s) :
    Secures inv (Pure.pure a : ExceptT ε (StateM σ) α) s Q := by
  refine ⟨hs, fun a' h => ?_⟩
  cases h
  exact ha

theorem throw {e : ε} (hs : inv s) :
    Secures inv (MonadExcept.throw e : ExceptT ε (StateM σ) α) s Q :=
  ⟨hs, fun _ h => nomatch h⟩

/-- A result that does not depend on the state. -/
theorem lift {r : Except ε α} (hs : inv s) (hr : ∀ a, r = .ok a → Q a s) :
    Secures inv (ExceptT.mk (Pure.pure r) : ExceptT ε (StateM σ) α) s Q :=
  ⟨hs, hr⟩

theorem imp {Q' : α → σ → Prop} (h : Secures inv x s Q)
    (hQ : ∀ a s', inv s' → Q a s' → Q' a s') : Secures inv x s Q' :=
  ⟨h.1, fun a ha => hQ a _ h.1 (h.2 a ha)⟩

/-- One step after another. -/
theorem bind (hx : Secures inv x s Q)
    (hf : ∀ a s', inv s' → Q a s' → Secures inv (f a) s' R) : Secures inv (x >>= f) s R := by
  unfold Secures at hx ⊢
  rw [run_bind]
  rcases hout : x.run s with ⟨e | a, s'⟩
  · rw [hout] at hx
    exact ⟨hx.1, fun _ h => nomatch h⟩
  · rw [hout] at hx
    exact hf a s' hx.1 (hx.2 a rfl)

/-- One of two steps, and then another in either case. -/
theorem ite_bind {c : Prop} [Decidable c] {y : ExceptT ε (StateM σ) α} (hx : Secures inv x s Q)
    (hy : Secures inv y s Q) (hf : ∀ a s', inv s' → Q a s' → Secures inv (f a) s' R) :
    Secures inv (if c then x >>= f else y >>= f) s R := by
  split
  · exact hx.bind hf
  · exact hy.bind hf

/-- A step that is refused under a condition. -/
theorem guard {c : Prop} [Decidable c] {e : ε} (hs : inv s) (hx : Secures inv x s Q) :
    Secures inv (if c then (MonadExcept.throw e : ExceptT ε (StateM σ) PUnit) >>= fun _ => x else x)
      s Q := by
  split
  · exact ⟨hs, fun _ h => nomatch h⟩
  · exact hx

theorem tryCatch {handle : ε → ExceptT ε (StateM σ) α} (hx : Secures inv x s Q)
    (hhandle : ∀ e s', inv s' → Secures inv (handle e) s' Q) :
    Secures inv (MonadExcept.tryCatch x handle) s Q := by
  unfold Secures at hx ⊢
  rw [run_tryCatch]
  rcases hout : x.run s with ⟨e | a, s'⟩
  · rw [hout] at hx
    exact hhandle e s' hx.1
  · rw [hout] at hx
    exact hx

theorem get_bind {f : σ → ExceptT ε (StateM σ) β} (h : Secures inv (f s) s R) :
    Secures inv (get >>= f) s R :=
  h

theorem set_bind {s' : σ} {f : PUnit → ExceptT ε (StateM σ) β} (h : Secures inv (f ⟨⟩) s' R) :
    Secures inv (set s' >>= f) s R :=
  h

theorem modify_bind {g : σ → σ} {f : PUnit → ExceptT ε (StateM σ) β}
    (h : Secures inv (f ⟨⟩) (g s) R) : Secures inv (modify g >>= f) s R :=
  h

theorem modify {g : σ → σ} {Q : PUnit → σ → Prop} (hs : inv (g s)) (hQ : Q ⟨⟩ (g s)) :
    Secures inv (modify g : ExceptT ε (StateM σ) PUnit) s Q :=
  ⟨hs, fun _ _ => hQ⟩

end Secures

end ElmCodec
