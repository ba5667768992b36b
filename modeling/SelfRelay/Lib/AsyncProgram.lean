import Mathlib.Data.Nat.Notation
import Mathlib.Logic.Function.Basic
import SelfRelay.Lib.Run

/-!
# Asynchronous programs

An `AsyncProgram` awaits operations on a shared state and goes on with their answers, until it
returns or raises.  Any number of such programs run at once, and the state may change at every
await, by the other programs or by the environment.

`Ensures` says what a program returns if all that happens meanwhile is in a relation `rely`.  It has
a rule for each constructor, one for sequences (`Ensures.bind`) and one for handlers
(`Ensures.handle`), and holds of every call in every run (`Calls.run_ensures`).
-/

open StepSystem

/-- A program that returns an `α` or raises an `ε`. -/
inductive AsyncProgram (Op : Type) (Answer : Op → Type) (ε α : Type) where
  | pure (value : α)
  | raise (error : ε)
  | await (op : Op) (next : Answer op → AsyncProgram Op Answer ε α)

namespace AsyncProgram

variable {Op : Type} {Answer : Op → Type} {ε α β : Type}

def bind : AsyncProgram Op Answer ε α → (α → AsyncProgram Op Answer ε β) →
    AsyncProgram Op Answer ε β
  | .pure value, f => f value
  | .raise error, _ => .raise error
  | .await op next, f => .await op fun answer => (next answer).bind f

/-- `try … except`: the handler takes the errors over that it knows. -/
def handle : AsyncProgram Op Answer ε α → (ε → Option (AsyncProgram Op Answer ε α)) →
    AsyncProgram Op Answer ε α
  | .pure value, _ => .pure value
  | .raise error, handler => (handler error).getD (.raise error)
  | .await op next, handler => .await op fun answer => (next answer).handle handler

instance : Monad (AsyncProgram Op Answer ε) where
  pure := .pure
  bind := .bind

/-- Await one operation. -/
def call (op : Op) : AsyncProgram Op Answer ε (Answer op) := .await op .pure

/-! ## What a program ensures -/

section Ensures

variable {σ : Type} (perform : (op : Op) → σ → Answer op × σ) (I : σ → Prop) (rely : σ → σ → Prop)
  (meets : Op → σ → Prop)

/-- The result meets `Q`, whatever happens before each await takes effect: `rely` relates the states
before and after it, and `meets` is assumed of the operations of the program itself. -/
def Ensures (Q : Except ε α → σ → Prop) : AsyncProgram Op Answer ε α → σ → Prop
  | .pure value, s => Q (.ok value) s
  | .raise error, s => Q (.error error) s
  | .await op next, s => ∀ t, I t → rely s t → meets op t →
      Ensures Q (next (perform op t).1) (perform op t).2

variable {perform I rely meets} {Q Q' : Except ε α → σ → Prop}
  {p : AsyncProgram Op Answer ε α} {s t : σ}

theorem Ensures.of_forall (h : ∀ result t, Q result t) : p.Ensures perform I rely meets Q s := by
  induction p generalizing s with
  | pure value => exact h _ _
  | raise error => exact h _ _
  | await op next ih => exact fun t _ _ _ => ih _

theorem Ensures.bind {f : α → AsyncProgram Op Answer ε β} {R : Except ε β → σ → Prop}
    (h : p.Ensures perform I rely meets Q s)
    (hf : ∀ value t, Q (.ok value) t → (f value).Ensures perform I rely meets R t)
    (herror : ∀ error t, Q (.error error) t → R (.error error) t) :
    (p >>= f).Ensures perform I rely meets R s := by
  induction p generalizing s with
  | pure value => exact hf value s h
  | raise error => exact herror error s h
  | await op next ih => exact fun t ht hrely hmeets => ih _ (h t ht hrely hmeets)

theorem Ensures.handle {handler : ε → Option (AsyncProgram Op Answer ε α)}
    (h : p.Ensures perform I rely meets Q s)
    (hok : ∀ value t, Q (.ok value) t → Q' (.ok value) t)
    (herror : ∀ error t, Q (.error error) t →
      ((handler error).getD (.raise error)).Ensures perform I rely meets Q' t) :
    (p.handle handler).Ensures perform I rely meets Q' s := by
  induction p generalizing s with
  | pure value => exact hok value s h
  | raise error => exact herror error s h
  | await op next ih => exact fun t ht hrely hmeets => ih _ (h t ht hrely hmeets)

/-- What a program ensures it still ensures after a change that it relies on. -/
theorem Ensures.later (htrans : ∀ {a b c}, rely a b → rely b c → rely a c)
    (hstable : ∀ {result}, Q result s → Q result t) (h : p.Ensures perform I rely meets Q s)
    (hrely : rely s t) : p.Ensures perform I rely meets Q t := by
  cases p with
  | pure value => exact hstable h
  | raise error => exact hstable h
  | await op next => exact fun u hu hrely' hmeets => h u hu (htrans hrely hrely') hmeets

/-- The program ends in a state that is related to the one in which it began. -/
theorem Ensures.and_rely {r : σ} (htrans : ∀ {a b c}, rely a b → rely b c → rely a c)
    (hperform : ∀ op s, I s → rely s (perform op s).2) (h : p.Ensures perform I rely meets Q s)
    (hrely : rely r s) :
    p.Ensures perform I rely meets (fun result t => Q result t ∧ rely r t) s := by
  induction p generalizing s with
  | pure value => exact ⟨h, hrely⟩
  | raise error => exact ⟨h, hrely⟩
  | await op next ih =>
    intro t ht hrely' hmeets
    exact ih _ (h t ht hrely' hmeets) (htrans (htrans hrely hrely') (hperform op t ht))

end Ensures

end AsyncProgram

/-! ## Calls -/

/-- Calls of some methods `μ` on a shared state. -/
structure Calls (σ : Type) (Op : Type) (Answer : Op → Type) (ε α μ : Type) where
  shared : σ
  calls : ℕ → Option (μ × AsyncProgram Op Answer ε α)

/-- A step of the calls, or of their environment `η`. -/
inductive CallEvent (η μ : Type) where
  | environment (event : η)
  | begin (id : ℕ) (method : μ)
  /-- The operation that a call awaits takes effect, and the call goes on. -/
  | effect (id : ℕ)
  /-- A call raises at its await, and is gone. -/
  | abort (id : ℕ)

namespace Calls

variable {σ Op : Type} {Answer : Op → Type} {ε α μ η : Type}

section Step

variable (perform : (op : Op) → σ → Answer op × σ) (environment : σ → η → Option σ)
  (program : μ → AsyncProgram Op Answer ε α)

def step (s : Calls σ Op Answer ε α μ) : CallEvent η μ → Option (Calls σ Op Answer ε α μ)
  | .environment event => (environment s.shared event).map fun shared => { s with shared }
  | .begin id method =>
    if (s.calls id).isSome then none
    else some { s with calls := Function.update s.calls id (some (method, program method)) }
  | .effect id =>
    match s.calls id with
    | some (method, .await op next) =>
      let (answer, shared) := perform op s.shared
      some { shared, calls := Function.update s.calls id (some (method, next answer)) }
    | _ => none
  | .abort id =>
    match s.calls id with
    | some (_, .await _ _) => some { s with calls := Function.update s.calls id none }
    | _ => none

/-- The operation that takes effect meets a condition for its method. -/
def Meets (meets : μ → Op → σ → Prop) (s : Calls σ Op Answer ε α μ) : CallEvent η μ → Prop
  | .effect id =>
    match s.calls id with
    | some (method, .await op _) => meets method op s.shared
    | _ => True
  | _ => True

instance (meets : μ → Op → σ → Prop) [∀ method op s, Decidable (meets method op s)]
    (s : Calls σ Op Answer ε α μ) (event : CallEvent η μ) : Decidable (s.Meets meets event) :=
  match event with
  | .effect id =>
    match h : s.calls id with
    | some (method, .await op _) => decidable_of_iff (meets method op s.shared) (by rw [Meets, h])
    | some (_, .pure _) | some (_, .raise _) | none => .isTrue (by rw [Meets, h]; trivial)
  | .environment _ | .begin _ _ | .abort _ => .isTrue trivial

/-- What a call has returned. -/
def returned (s : Calls σ Op Answer ε α μ) (id : ℕ) : Option (μ × α) :=
  match s.calls id with
  | some (method, .pure value) => some (method, value)
  | _ => none

theorem returned_eq_some {s : Calls σ Op Answer ε α μ} {id : ℕ} {method : μ} {value : α} :
    s.returned id = some (method, value) ↔ s.calls id = some (method, .pure value) := by
  unfold returned
  split
  case h_1 hcall => simp [hcall]
  case h_2 hother =>
    constructor
    · exact nofun
    · exact fun h => (hother _ _ h).elim

end Step

variable {perform : (op : Op) → σ → Answer op × σ} {environment : σ → η → Option σ}
  {program : μ → AsyncProgram Op Answer ε α} {I : σ → Prop} {rely : σ → σ → Prop}
  {meets : μ → Op → σ → Prop} {Q : μ → Except ε α → Prop} {s t : Calls σ Op Answer ε α μ}

/-- Every call ensures that its result meets the postcondition of its method. -/
structure Ensured (perform : (op : Op) → σ → Answer op × σ) (I : σ → Prop) (rely : σ → σ → Prop)
    (meets : μ → Op → σ → Prop) (Q : μ → Except ε α → Prop)
    (s : Calls σ Op Answer ε α μ) : Prop where
  invariant : I s.shared
  calls : ∀ id method p, s.calls id = some (method, p) →
    p.Ensures perform I rely (meets method) (fun result _ => Q method result) s.shared

/-- The shared state changes in a way that the calls rely on. -/
theorem Ensured.shared {u : σ} (h : Ensured perform I rely meets Q s)
    (htrans : ∀ {a b c}, rely a b → rely b c → rely a c) (hu : I u) (hrely : rely s.shared u) :
    Ensured perform I rely meets Q { s with shared := u } where
  invariant := hu
  calls id method p hp := (h.calls id method p hp).later htrans (fun hresult => hresult) hrely

theorem Ensured.update {call : Option (μ × AsyncProgram Op Answer ε α)} {id : ℕ}
    (h : Ensured perform I rely meets Q s)
    (hcall : ∀ method p, call = some (method, p) →
      p.Ensures perform I rely (meets method) (fun result _ => Q method result) s.shared) :
    Ensured perform I rely meets Q { s with calls := Function.update s.calls id call } where
  invariant := h.invariant
  calls id' method p hp := by
    dsimp only at hp
    by_cases heq : id' = id
    · rw [heq, Function.update_self] at hp
      exact hcall method p hp
    · rw [Function.update_of_ne heq] at hp
      exact h.calls id' method p hp

theorem Ensured.step (htrans : ∀ {a b c}, rely a b → rely b c → rely a c)
    (hrefl : ∀ s, I s → rely s s)
    (hperform : ∀ op s, I s → I (perform op s).2 ∧ rely s (perform op s).2)
    (henvironment : ∀ s event t, I s → environment s event = some t → I t ∧ rely s t)
    (hprogram : ∀ method s, I s → (program method).Ensures perform I rely (meets method)
      (fun result _ => Q method result) s)
    {event : CallEvent η μ} (h : Ensured perform I rely meets Q s)
    (hstep : Step (Calls.step perform environment program) s event t)
    (hmeets : s.Meets meets event) :
    Ensured perform I rely meets Q t := by
  unfold Step Calls.step at hstep
  cases event with
  | environment event =>
    obtain ⟨shared, hshared, rfl⟩ := Option.map_eq_some_iff.1 hstep
    obtain ⟨hI, hrely⟩ := henvironment _ _ _ h.invariant hshared
    exact h.shared htrans hI hrely
  | begin id method =>
    obtain ⟨-, hstep⟩ := Option.ite_none_left_eq_some.1 hstep
    obtain rfl := Option.some.inj hstep
    refine h.update ?_
    rintro _ _ ⟨⟩
    exact hprogram method s.shared h.invariant
  | effect id =>
    dsimp only at hstep
    split at hstep
    · rename_i method op next hcall
      obtain rfl := Option.some.inj hstep
      obtain ⟨hI, hrely⟩ := hperform op s.shared h.invariant
      refine (h.shared htrans hI hrely).update ?_
      rintro _ _ ⟨⟩
      rw [Meets, hcall] at hmeets
      exact h.calls id method _ hcall s.shared h.invariant (hrefl _ h.invariant) hmeets
    · cases hstep
  | abort id =>
    dsimp only at hstep
    split at hstep
    · obtain rfl := Option.some.inj hstep
      exact h.update nofun
    · cases hstep

/-- In every run in which the operations meet their conditions, every call that has returned or
raised did so with a result that meets its postcondition. -/
theorem run_ensures (htrans : ∀ {a b c}, rely a b → rely b c → rely a c)
    (hrefl : ∀ s, I s → rely s s)
    (hperform : ∀ op s, I s → I (perform op s).2 ∧ rely s (perform op s).2)
    (henvironment : ∀ s event t, I s → environment s event = some t → I t ∧ rely s t)
    (hprogram : ∀ method s, I s → (program method).Ensures perform I rely (meets method)
      (fun result _ => Q method result) s)
    {events : List (CallEvent η μ)} (hI : I s.shared) (hnone : ∀ id, s.calls id = none)
    (hrun : Run (fun s e t => Step (step perform environment program) s e t ∧ s.Meets meets e)
      s events t) :
    Ensured perform I rely meets Q t := by
  have hstart : Ensured perform I rely meets Q s :=
    ⟨hI, fun id method p hp => by rw [hnone id] at hp; cases hp⟩
  exact hrun.invariant hstart fun s e t h hstep =>
    h.step htrans hrefl hperform henvironment hprogram hstep.1 hstep.2

end Calls
