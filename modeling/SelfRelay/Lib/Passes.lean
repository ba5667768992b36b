import SelfRelay.Lib.Run

/-!
# Steps that a run passes through

`Passes R Ps s es t` says that a run from `s` to `t` performs steps as described by `Ps`, in this
order. Such a history is found from its end: where a predicate holds after a run and not before it,
there is a step of the run that brings it about (`Run.exists_step`), and what the run does after
that step is added with `Passes.snoc`.
-/

namespace StepSystem

variable {σ ε : Type*} {R : σ → ε → σ → Prop}

/-- A run with steps as described by the list, in this order.  A description is about the event of a
step and the state before it. -/
def Passes (R : σ → ε → σ → Prop) : List (σ → ε → Prop) → σ → List ε → σ → Prop
  | [], s, es, t => Run R s es t
  | P :: Ps, s, es, t => ∃ pre e post u v, es = pre ++ e :: post ∧ Run R s pre u ∧ P u e ∧ R u e v ∧
      Passes R Ps v post t

/-- Another step is performed after those of the list. -/
theorem Passes.snoc {Ps : List (σ → ε → Prop)} {P : σ → ε → Prop} {s t u v : σ} {e : ε}
    {pre post : List ε} (h : Passes R Ps s pre u) (hP : P u e) (hr : R u e v)
    (hpost : Run R v post t) :
    Passes R (Ps ++ [P]) s (pre ++ e :: post) t := by
  induction Ps generalizing s pre with
  | nil => exact ⟨pre, e, post, u, v, rfl, h, hP, hr, hpost⟩
  | cons Q Ps ih =>
    obtain ⟨first, e', rest, u', v', rfl, hfirst, hQ, hr', hrest⟩ := h
    refine ⟨first, e', rest ++ e :: post, u', v', ?_, hfirst, hQ, hr', ih hrest⟩
    rw [List.append_assoc, List.cons_append]

/-- The step of a run that brings a predicate about. -/
theorem Run.exists_step {Q : σ → Prop} {s t : σ} {es : List ε} (h : Run R s es t) (hs : ¬ Q s)
    (ht : Q t) : ∃ pre e post u v, es = pre ++ e :: post ∧ Run R s pre u ∧ R u e v ∧
      Run R v post t ∧
      ¬ Q u ∧ Q v := by
  induction h with
  | nil => exact (hs ht).elim
  | @cons s u t e es hr hrun ih =>
    by_cases hu : Q u
    · exact ⟨[], e, es, s, u, rfl, .nil s, hr, hrun, hs, hu⟩
    · obtain ⟨pre, e', post, u', v', rfl, hpre, hr', hpost, hQ⟩ := ih hu ht
      exact ⟨e :: pre, e', post, u', v', rfl, .cons hr hpre, hr', hpost, hQ⟩

end StepSystem
