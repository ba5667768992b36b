import Mathlib.Logic.Relation

/-!
# Runs of labelled step relations

A system is a relation `R : σ → ε → σ → Prop` between states, one event per step.  `Run R s es t`
says that performing the events `es` leads from `s` to `t`.  This file gives the induction rules
(`Run.invariant`, `Run.related`), the composition of runs, and the passage from an executable
step function `step : σ → ε → Option σ` to runs (`exec`, `Run.of_exec`).
-/

namespace StepSystem

variable {σ ε : Type*} {R S : σ → ε → σ → Prop}

/-- Performing the events in order leads from the first state to the last. -/
inductive Run (R : σ → ε → σ → Prop) : σ → List ε → σ → Prop
  | nil (s : σ) : Run R s [] s
  | cons {s t u : σ} {e : ε} {es : List ε} : R s e t → Run R t es u → Run R s (e :: es) u

namespace Run

theorem single {s t : σ} {e : ε} (h : R s e t) : Run R s [e] t := .cons h (.nil t)

theorem append {s t u : σ} {es fs : List ε} (h : Run R s es t) (h' : Run R t fs u) :
    Run R s (es ++ fs) u := by
  induction h with
  | nil => exact h'
  | cons hr _ ih => exact .cons hr (ih h')

theorem mono {s t : σ} {es : List ε} (h : Run R s es t) (hRS : ∀ s e t, R s e t → S s e t) :
    Run S s es t := by
  induction h with
  | nil => exact .nil _
  | cons hr _ ih => exact .cons (hRS _ _ _ hr) ih

/-- A predicate kept by every step holds after every run that starts in it. -/
theorem invariant {I : σ → Prop} {s t : σ} {es : List ε} (h : Run R s es t) (h₀ : I s)
    (hstep : ∀ s e t, I s → R s e t → I t) : I t := by
  induction h with
  | nil => exact h₀
  | cons hr _ ih => exact ih (hstep _ _ _ h₀ hr)

/-- Steps may be replaced where an invariant of the run allows it. -/
theorem mono_of {I : σ → Prop} {s t : σ} {es : List ε} (h : Run R s es t) (h₀ : I s)
    (hstep : ∀ s e t, I s → R s e t → I t) (hRS : ∀ s e t, I s → R s e t → S s e t) :
    Run S s es t := by
  induction h with
  | nil => exact .nil _
  | cons hr _ ih => exact .cons (hRS _ _ _ h₀ hr) (ih (hstep _ _ _ h₀ hr))

/-- A reflexive and transitive relation that contains every step from a state satisfying an
invariant contains every run. -/
theorem related {I : σ → Prop} {Q : σ → σ → Prop} {s t : σ} {es : List ε} (h : Run R s es t)
    (h₀ : I s) (hstep : ∀ s e t, I s → R s e t → I t) (hrefl : ∀ s, Q s s)
    (htrans : ∀ {a b c}, Q a b → Q b c → Q a c) (hQ : ∀ s e t, I s → R s e t → Q s t) : Q s t := by
  induction h with
  | nil => exact hrefl _
  | cons hr _ ih => exact htrans (hQ _ _ _ h₀ hr) (ih (hstep _ _ _ h₀ hr))

end Run

/-! ## Executable step functions -/

/-- The relation of a partial step function: the event is enabled and leads to `t`. -/
def Step (step : σ → ε → Option σ) (s : σ) (e : ε) (t : σ) : Prop := step s e = some t

/-- Execute the events in order. -/
def exec (step : σ → ε → Option σ) : σ → List ε → Option σ
  | s, [] => some s
  | s, e :: es => (step s e).bind fun t => exec step t es

theorem Run.of_exec {step : σ → ε → Option σ} {es : List ε} {s t : σ}
    (h : exec step s es = some t) : Run (Step step) s es t := by
  induction es generalizing s with
  | nil =>
    obtain rfl := Option.some.inj h
    exact .nil s
  | cons e es ih =>
    obtain ⟨u, hu, ht⟩ := Option.bind_eq_some_iff.1 h
    exact .cons hu (ih ht)

/-- A run whose steps all meet a condition on the state before the step. -/
theorem Run.of_exec_guarded {step : σ → ε → Option σ} {P : σ → ε → Prop}
    [∀ s e, Decidable (P s e)] {es : List ε} {s t : σ}
    (h : exec (fun s e => if P s e then step s e else none) s es = some t) :
    Run (fun s e t => Step step s e t ∧ P s e) s es t := by
  refine (Run.of_exec h).mono fun s e t hs => ?_
  rw [Step, Option.ite_none_right_eq_some] at hs
  exact ⟨hs.2, hs.1⟩

end StepSystem
