import SelfRelay.Client.Availability
import Mathlib.Tactic.SplitIfs

/-!
# Disposed availability runs

A run that is aborted during a request ends without a trace: its `catch` block looks at the signal.
The end of a wait and the success of a request are not followed by such a check.  A run that is
aborted there goes on, sends one more request or reports that the service is ready, and stops only
at the next request. Disposed runs are silent exactly when no run is disposed of at these points
(`disposed_silent_iff`).
-/

namespace SelfRelay

open StepSystem

/-- A run in this phase goes on without a look at its signal, at the latest
when its wait is over. -/
def RunPhase.goesOn : RunPhase → Bool
  | .requested _ .succeeded | .waiting | .attempting => true
  | _ => false

/-- A run in this phase does nothing more once it is aborted. -/
def RunPhase.stopped : RunPhase → Bool
  | .requested _ .failed | .requested _ .cancelled | .ended => true
  | _ => false

/-- A run makes no more attempts than it may, and another one before it waits for the next. -/
def AvailabilityRun.Bounded (run : AvailabilityRun) (maxAttempts : ℕ) : Prop :=
  run.phase ≠ .ended → run.attempt ≤ maxAttempts ∧
    (run.phase = .waiting ∨ run.phase = .attempting → run.attempt < maxAttempts)

namespace AvailabilityController

variable {s t : AvailabilityController} {r q : ℕ} {event : AvailabilityEvent}

/-- What a run has done. -/
def effectsOf (s : AvailabilityController) (r : ℕ) : List (ℕ × AvailabilityEffect) :=
  s.effects.filter fun effect => effect.1 = r

/-- The latest run, which is not disposed of. -/
def Latest (s : AvailabilityController) (r : ℕ) : Prop :=
  r + 1 = s.created ∧ (s.runs r).aborted = false

/-- Only the latest undisposed run does anything in this step. -/
def Silent (s t : AvailabilityController) : Prop :=
  ∀ r, ¬ t.Latest r → t.effectsOf r = s.effectsOf r

/-- The run under way is disposed of when it will go on without a look at its signal. -/
def interrupts (s : AvailabilityController) : AvailabilityEvent → Prop
  | .dispose => ∃ r, s.runPromise = some r ∧ (s.runs r).phase.goesOn = true
  | _ => False

/-! ## What one run leaves alone -/

/-- One run takes a step: the other runs stay as they are, and so does what they have done. -/
structure ActsAs (r : ℕ) (s t : AvailabilityController) : Prop where
  runs : ∀ q, q ≠ r → t.runs q = s.runs q
  effects : ∀ q, q ≠ r → t.effectsOf q = s.effectsOf q
  aborted : (t.runs r).aborted = (s.runs r).aborted
  created : t.created = s.created
  maxAttempts : t.maxAttempts = s.maxAttempts
  forgets : t.runPromise = s.runPromise ∨ t.runPromise = none

theorem ActsAs.trans {u : AvailabilityController} (h : ActsAs r s t) (h' : ActsAs r t u) :
    ActsAs r s u where
  runs q hq := (h'.runs q hq).trans (h.runs q hq)
  effects q hq := (h'.effects q hq).trans (h.effects q hq)
  aborted := h'.aborted.trans h.aborted
  created := h'.created.trans h.created
  maxAttempts := h'.maxAttempts.trans h.maxAttempts
  forgets := by
    obtain hsame | hnone := h'.forgets
    · rw [hsame]
      exact h.forgets
    · exact .inr hnone

theorem setPhase_runs_self (s : AvailabilityController) (r : ℕ) (phase : RunPhase) :
    (s.setPhase r phase).runs r = { s.runs r with phase := phase } :=
  Function.update_self _ _ _

theorem setPhase_runs_of_ne {phase : RunPhase} (hq : q ≠ r) :
    (s.setPhase r phase).runs q = s.runs q :=
  Function.update_of_ne hq _ _

theorem setAttempt_runs_self (s : AvailabilityController) (r attempt : ℕ) :
    (s.setAttempt r attempt).runs r = { s.runs r with attempt := attempt } :=
  Function.update_self _ _ _

theorem requestStatus_runs_self (s : AvailabilityController) (r : ℕ) (path : AvailabilityPath) :
    (s.requestStatus r path).runs r = { s.runs r with
      phase := if (s.runs r).aborted then .requested path .cancelled else .requesting path } :=
  Function.update_self _ _ _

theorem filter_append_of_ne {effects : List (ℕ × AvailabilityEffect)} {effect : AvailabilityEffect}
    (hq : q ≠ r) : (effects ++ [(r, effect)]).filter (fun effect => effect.1 = q) =
      effects.filter fun effect => effect.1 = q := by
  simp [List.filter_append, hq.symm]

theorem actsAs_setPhase (s : AvailabilityController) (r : ℕ) (phase : RunPhase) :
    ActsAs r s (s.setPhase r phase) where
  runs _ hq := setPhase_runs_of_ne hq
  effects _ _ := rfl
  aborted := by rw [setPhase_runs_self]
  created := rfl
  maxAttempts := rfl
  forgets := .inl rfl

theorem actsAs_setState (s : AvailabilityController) (r : ℕ) (state : AvailabilityState) :
    ActsAs r s (s.setState r state) where
  runs _ _ := rfl
  effects _ hq := filter_append_of_ne hq
  aborted := rfl
  created := rfl
  maxAttempts := rfl
  forgets := .inl rfl

theorem actsAs_setAttempt (s : AvailabilityController) (r attempt : ℕ) :
    ActsAs r s (s.setAttempt r attempt) where
  runs _ hq := Function.update_of_ne hq _ _
  effects _ hq := filter_append_of_ne hq
  aborted := by rw [setAttempt_runs_self]
  created := rfl
  maxAttempts := rfl
  forgets := .inl rfl

theorem actsAs_requestStatus (s : AvailabilityController) (r : ℕ) (path : AvailabilityPath) :
    ActsAs r s (s.requestStatus r path) where
  runs _ hq := setPhase_runs_of_ne hq
  effects _ hq := filter_append_of_ne hq
  aborted := (actsAs_setPhase s r _).aborted
  created := rfl
  maxAttempts := rfl
  forgets := .inl rfl

theorem finish_eq (s : AvailabilityController) (r : ℕ) : s.finish r =
    { s.setPhase r .ended with
      runPromise := if s.runPromise = some r then none else s.runPromise } := by
  unfold finish
  dsimp only
  by_cases hrun : s.runPromise = some r
  · rw [if_pos (by exact hrun), if_pos hrun]
  · rw [if_neg (by exact hrun), if_neg hrun]
    rfl

theorem actsAs_finish (s : AvailabilityController) (r : ℕ) : ActsAs r s (s.finish r) := by
  rw [finish_eq]
  exact
    { runs := fun q hq => setPhase_runs_of_ne hq
      effects := fun _ _ => rfl
      aborted := (actsAs_setPhase s r _).aborted
      created := rfl
      maxAttempts := rfl
      forgets := by
        dsimp only
        split_ifs
        · exact .inr rfl
        · exact .inl rfl }

theorem actsAs_nextAttempt (s : AvailabilityController) (r attempt : ℕ) :
    ActsAs r s (s.nextAttempt r attempt) := by
  by_cases hattempt : attempt ≤ s.maxAttempts
  · rw [nextAttempt, if_pos hattempt]
    exact ((actsAs_setAttempt s r attempt).trans (actsAs_setState _ r _)).trans
      (actsAs_requestStatus _ r _)
  · rw [nextAttempt, if_neg hattempt]
    exact actsAs_finish s r

theorem actsAs_catchError (s : AvailabilityController) (r : ℕ) (outcome : RequestOutcome) :
    ActsAs r s (s.catchError r outcome) := by
  unfold catchError
  split_ifs
  · exact actsAs_finish s r
  · exact (actsAs_setState s r _).trans (actsAs_finish _ r)
  · exact (actsAs_setState s r _).trans (actsAs_setPhase _ r _)

theorem actsAs_resume (h : s.resume r = some t) : ActsAs r s t := by
  unfold resume at h
  split at h <;> cases h
  · exact actsAs_requestStatus s r _
  · exact (actsAs_setState s r _).trans (actsAs_finish _ r)
  · exact actsAs_catchError s r _
  · exact actsAs_nextAttempt s r _

/-! ## Where runs are -/

/-- The run under way is the latest one, and the only one that is neither aborted nor at its end.
No run was interrupted. -/
structure Orderly (s : AvailabilityController) : Prop where
  current : ∀ r, s.runPromise = some r ↔ (s.runs r).phase ≠ .ended ∧ (s.runs r).aborted = false
  latest : ∀ r, s.runPromise = some r → r + 1 = s.created
  stopped : ∀ r, (s.runs r).aborted = true → (s.runs r).phase.stopped = true
  fresh : ∀ r, s.created ≤ r → (s.runs r).phase = .ended
  bounded : ∀ r, (s.runs r).Bounded s.maxAttempts

/-- One run goes on, or comes to its end. -/
structure Advances (r : ℕ) (s t : AvailabilityController) : Prop extends ActsAs r s t where
  promise : t.runPromise =
    if (t.runs r).phase = .ended ∧ s.runPromise = some r then none else s.runPromise
  stopped : (s.runs r).aborted = true → (t.runs r).phase.stopped = true
  bounded : (t.runs r).Bounded s.maxAttempts

theorem Orderly.advance (hs : s.Orderly) (hphase : (s.runs r).phase ≠ .ended) (h : Advances r s t) :
    t.Orderly where
  current q := by
    rw [h.promise]
    by_cases hq : q = r
    · subst hq
      by_cases hended : (t.runs q).phase = .ended
      · simp only [hended, true_and]
        split_ifs with hcurrent <;> simp [hcurrent]
      · rw [if_neg fun hand => hended hand.1, hs.current, h.aborted]
        simp [hphase, hended]
    · rw [h.runs q hq, ← hs.current]
      split_ifs with hand
      · refine iff_of_false nofun fun hq' => hq ?_
        exact Option.some.inj (hq'.symm.trans hand.2)
      · rfl
  latest q hq := by
    rw [h.promise] at hq
    split_ifs at hq
    rw [h.created]
    exact hs.latest q hq
  stopped q hq := by
    by_cases hqr : q = r
    · subst hqr
      exact h.stopped (h.aborted.symm.trans hq)
    · rw [h.runs q hqr] at hq ⊢
      exact hs.stopped q hq
  fresh q hq := by
    rw [h.created] at hq
    have hqr : q ≠ r := by
      rintro rfl
      exact hphase (hs.fresh q hq)
    rw [h.runs q hqr]
    exact hs.fresh q hq
  bounded q := by
    rw [h.maxAttempts]
    by_cases hqr : q = r
    · subst hqr
      exact h.bounded
    · rw [h.runs q hqr]
      exact hs.bounded q

/-- A step of one run is silent, if it is the run under way or does nothing. -/
theorem Orderly.silent (hs : s.Orderly) (hphase : (s.runs r).phase ≠ .ended) (h : ActsAs r s t)
    (hstopped : (s.runs r).aborted = true → t.effects = s.effects) : s.Silent t := by
  intro q hq
  by_cases hqr : q = r
  · subst hqr
    cases haborted : (s.runs q).aborted with
    | true => rw [effectsOf, hstopped haborted, effectsOf]
    | false =>
      have hcurrent := (hs.current q).2 ⟨hphase, haborted⟩
      exact absurd ⟨(hs.latest q hcurrent).trans h.created.symm, h.aborted.trans haborted⟩ hq
  · exact h.effects q hqr

/-! ## What a run does when it goes on -/

theorem advances_setPhase {phase : RunPhase} (hphase : phase ≠ .ended)
    (hstopped : (s.runs r).aborted = true → phase.stopped = true)
    (hbounded : ({ s.runs r with phase := phase } : AvailabilityRun).Bounded s.maxAttempts) :
    Advances r s (s.setPhase r phase) where
  toActsAs := actsAs_setPhase s r phase
  promise := by
    rw [setPhase_runs_self, if_neg fun hand => hphase hand.1]
    rfl
  stopped := by
    rw [setPhase_runs_self]
    exact hstopped
  bounded := by
    rw [setPhase_runs_self]
    exact hbounded

theorem advances_requestStatus {path : AvailabilityPath}
    (hattempt : (s.runs r).attempt ≤ s.maxAttempts) : Advances r s (s.requestStatus r path) where
  toActsAs := actsAs_requestStatus s r path
  promise := by
    have hphase : ((s.requestStatus r path).runs r).phase ≠ .ended := by
      rw [requestStatus_runs_self]
      dsimp only
      split_ifs <;> nofun
    rw [if_neg fun hand => hphase hand.1]
    rfl
  stopped haborted := by
    rw [requestStatus_runs_self, if_pos haborted]
    rfl
  bounded := by
    rw [requestStatus_runs_self]
    refine fun _ => ⟨hattempt, ?_⟩
    dsimp only
    split_ifs <;> simp

theorem advances_finish (s : AvailabilityController) (r : ℕ) : Advances r s (s.finish r) := by
  have hruns : (s.finish r).runs r = { s.runs r with phase := .ended } := by
    rw [finish_eq]
    exact setPhase_runs_self s r .ended
  exact
    { toActsAs := actsAs_finish s r
      promise := by
        rw [hruns, finish_eq]
        simp
      stopped := fun _ => by rw [hruns]; rfl
      bounded := by
        rw [hruns]
        exact fun h => absurd rfl h }

theorem Advances.of_setState {state : AvailabilityState} (h : Advances r (s.setState r state) t) :
    Advances r s t :=
  { h with toActsAs := (actsAs_setState s r state).trans h.toActsAs }

theorem advances_nextAttempt {attempt : ℕ} (hattempt : attempt ≤ s.maxAttempts) :
    Advances r s (s.nextAttempt r attempt) := by
  have hacts := actsAs_setAttempt s r attempt
  have hrequest : Advances r (s.setAttempt r attempt) (s.nextAttempt r attempt) := by
    rw [nextAttempt, if_pos hattempt]
    refine Advances.of_setState (advances_requestStatus ?_)
    change ((s.setAttempt r attempt).runs r).attempt ≤ s.maxAttempts
    rw [setAttempt_runs_self]
    exact hattempt
  exact
    { toActsAs := hacts.trans hrequest.toActsAs
      promise := hrequest.promise
      stopped := fun haborted => hrequest.stopped (hacts.aborted.trans haborted)
      bounded := hrequest.bounded }

theorem advances_catchError {path : AvailabilityPath} {outcome : RequestOutcome}
    (hphase : (s.runs r).phase = .requested path outcome)
    (hbounded : (s.runs r).Bounded s.maxAttempts) :
    Advances r s (s.catchError r outcome) := by
  have hattempt := (hbounded (by rw [hphase]; nofun)).1
  unfold catchError
  split_ifs with hstop hlast
  · exact advances_finish s r
  · exact (advances_finish _ r).of_setState
  · have haborted : (s.runs r).aborted = false := by
      cases haborted : (s.runs r).aborted with
      | true => simp [haborted] at hstop
      | false => rfl
    have hwaiting : Advances r (s.setState r .degraded)
        ((s.setState r .degraded).setPhase r .waiting) :=
      advances_setPhase nofun (fun h => Bool.noConfusion (haborted.symm.trans h))
        fun _ => ⟨hattempt, fun _ => Nat.lt_of_le_of_ne hattempt hlast⟩
    exact hwaiting.of_setState

/-- A run that can go on does so as itself.  An aborted one comes to its end and does nothing. -/
theorem Orderly.resume (hs : s.Orderly) (h : s.resume r = some t) :
    (s.runs r).phase ≠ .ended ∧ Advances r s t ∧
      ((s.runs r).aborted = true → t.effects = s.effects) := by
  have hattempt := hs.bounded r
  have hstopped := hs.stopped r
  cases hphase : (s.runs r).phase with
  | requesting path => simp [AvailabilityController.resume, hphase] at h
  | waiting => simp [AvailabilityController.resume, hphase] at h
  | ended => simp [AvailabilityController.resume, hphase] at h
  | attempting =>
    obtain rfl : s.nextAttempt r ((s.runs r).attempt + 1) = t := by
      simpa [AvailabilityController.resume, hphase] using h
    refine ⟨nofun, advances_nextAttempt ?_, fun haborted => ?_⟩
    · exact Nat.succ_le_of_lt ((hattempt (by rw [hphase]; nofun)).2 (.inr hphase))
    · simp [hphase, RunPhase.stopped] at hstopped
      simp [hstopped] at haborted
  | requested path outcome =>
    have hle := (hattempt (by rw [hphase]; nofun)).1
    cases outcome with
    | succeeded =>
      have haborted : (s.runs r).aborted = true → t.effects = s.effects := by
        intro haborted
        simp [hphase, RunPhase.stopped] at hstopped
        simp [hstopped] at haborted
      cases path with
      | wake =>
        obtain rfl : s.requestStatus r .readiness = t := by
          simpa [AvailabilityController.resume, hphase] using h
        exact ⟨nofun, advances_requestStatus hle, haborted⟩
      | readiness =>
        obtain rfl : (s.setState r .ready).finish r = t := by
          simpa [AvailabilityController.resume, hphase] using h
        exact ⟨nofun, (advances_finish _ r).of_setState, haborted⟩
    | failed | cancelled =>
      obtain rfl : s.catchError r _ = t := by
        simpa [AvailabilityController.resume, hphase] using h
      refine ⟨nofun, advances_catchError hphase hattempt, fun haborted => ?_⟩
      rw [catchError, haborted, Bool.true_or, if_pos rfl, finish_eq]
      rfl

/-! ## Steps -/

theorem orderly_initial (maxAttempts : ℕ) (positive : 0 < maxAttempts) :
    (initial maxAttempts positive).Orderly where
  current := by simp [initial]
  latest := nofun
  stopped := nofun
  fresh _ _ := rfl
  bounded _ h := absurd rfl h

/-- The controller when `start` has created a run that has not begun its first attempt. -/
def withRun (s : AvailabilityController) : AvailabilityController :=
  { s with runPromise := some s.created, created := s.created + 1 }.setRun s.created
    ⟨0, .attempting, false⟩

theorem withRun_runs_of_ne (hq : q ≠ s.created) : s.withRun.runs q = s.runs q :=
  Function.update_of_ne hq _ _

theorem withRun_runs_self (s : AvailabilityController) :
    s.withRun.runs s.created = ⟨0, .attempting, false⟩ :=
  Function.update_self _ _ _

theorem start_cases (s : AvailabilityController) :
    s.start = s ∨ s.runPromise = none ∧ s.start = s.withRun.nextAttempt s.created 1 := by
  unfold start
  split_ifs with hready hrun hfailed
  · exact .inl rfl
  · exact .inl rfl
  · exact .inl rfl
  · exact .inr ⟨Option.not_isSome_iff_eq_none.1 hrun, rfl⟩

theorem Orderly.withRun (hs : s.Orderly) (hnone : s.runPromise = none) : s.withRun.Orderly where
  current q := by
    change some s.created = some q ↔ _
    by_cases hq : q = s.created
    · rw [hq, withRun_runs_self]
      simp
    · rw [withRun_runs_of_ne hq, ← hs.current, hnone]
      exact iff_of_false (fun h => hq (Option.some.inj h).symm) nofun
  latest q hq := congrArg (· + 1) (Option.some.inj hq).symm
  stopped q hq := by
    have hne : q ≠ s.created := by
      rintro rfl
      simp [withRun_runs_self] at hq
    rw [withRun_runs_of_ne hne] at hq ⊢
    exact hs.stopped q hq
  fresh q hq := by
    have hlt : s.created < q := hq
    rw [withRun_runs_of_ne (Nat.ne_of_gt hlt)]
    exact hs.fresh q (Nat.le_of_lt hlt)
  bounded q := by
    by_cases hq : q = s.created
    · rw [hq, withRun_runs_self]
      exact fun _ => ⟨Nat.zero_le _, fun _ => s.positive⟩
    · rw [withRun_runs_of_ne hq]
      exact hs.bounded q

theorem Orderly.start (hs : s.Orderly) : s.start.Orderly ∧ s.Silent s.start := by
  obtain heq | ⟨hnone, heq⟩ := s.start_cases
  · rw [heq]
    exact ⟨hs, fun _ _ => rfl⟩
  · have hwith := hs.withRun hnone
    have hphase : (s.withRun.runs s.created).phase ≠ .ended := by
      rw [withRun_runs_self]
      nofun
    have hadvances : Advances s.created s.withRun (s.withRun.nextAttempt s.created 1) :=
      advances_nextAttempt s.positive
    rw [heq]
    refine ⟨hwith.advance hphase hadvances, ?_⟩
    exact hwith.silent hphase hadvances.toActsAs fun h => by simp [withRun_runs_self] at h

theorem dispose_of_none (hnone : s.runPromise = none) : s.dispose = s := by
  rw [dispose, hnone]

theorem dispose_of_some (hrun : s.runPromise = some r) : s.dispose =
    { s with runPromise := none }.setRun r
      { s.runs r with phase := (s.runs r).phase.abort, aborted := true } := by
  rw [dispose, hrun]

theorem dispose_effects (s : AvailabilityController) : s.dispose.effects = s.effects := by
  cases hrun : s.runPromise with
  | none => rw [dispose_of_none hrun]
  | some r =>
    rw [dispose_of_some hrun]
    rfl

theorem Orderly.dispose (hs : s.Orderly) (hsafe : ¬ s.interrupts .dispose) : s.dispose.Orderly := by
  cases hrun : s.runPromise with
  | none =>
    rw [dispose_of_none hrun]
    exact hs
  | some r =>
    have hgoesOn : (s.runs r).phase.goesOn ≠ true := fun h => hsafe ⟨r, hrun, h⟩
    have hphase := ((hs.current r).1 hrun).1
    have hattempt := hs.bounded r hphase
    have hself : s.dispose.runs r =
        { s.runs r with phase := (s.runs r).phase.abort, aborted := true } := by
      rw [dispose_of_some hrun]
      exact Function.update_self _ _ _
    have hother : ∀ q, q ≠ r → s.dispose.runs q = s.runs q := by
      intro q hq
      rw [dispose_of_some hrun]
      exact Function.update_of_ne hq _ _
    have hnone : s.dispose.runPromise = none := by
      rw [dispose_of_some hrun]
      rfl
    have hcreated : s.dispose.created = s.created := by
      rw [dispose_of_some hrun]
      rfl
    have hmax : s.dispose.maxAttempts = s.maxAttempts := by
      rw [dispose_of_some hrun]
      rfl
    exact
      { current := by
          intro q
          rw [hnone]
          refine iff_of_false nofun ?_
          by_cases hq : q = r
          · rw [hq, hself]
            simp
          · rw [hother q hq, ← hs.current, hrun]
            exact fun h => hq (Option.some.inj h).symm
        latest := by
          rw [hnone]
          nofun
        stopped := by
          intro q hq
          by_cases hqr : q = r
          · rw [hqr, hself]
            revert hgoesOn hphase
            cases (s.runs r).phase with
            | requested path outcome =>
              cases outcome <;> simp [RunPhase.goesOn, RunPhase.abort, RunPhase.stopped]
            | _ => simp [RunPhase.goesOn, RunPhase.abort, RunPhase.stopped]
          · rw [hother q hqr] at hq ⊢
            exact hs.stopped q hq
        fresh := by
          intro q hq
          rw [hcreated] at hq
          have hqr : q ≠ r := by
            rintro rfl
            exact hphase (hs.fresh q hq)
          rw [hother q hqr]
          exact hs.fresh q hq
        bounded := by
          intro q
          rw [hmax]
          by_cases hqr : q = r
          · rw [hqr, hself]
            refine fun _ => ⟨hattempt.1, ?_⟩
            revert hgoesOn
            cases (s.runs r).phase <;> simp [RunPhase.goesOn, RunPhase.abort]
          · rw [hother q hqr]
            exact hs.bounded q }

theorem orderly_step (hs : s.Orderly) (hsafe : ¬ s.interrupts event) (h : s.step event = some t) :
    t.Orderly ∧ s.Silent t := by
  -- the promise that a run awaits is settled
  have settle : ∀ r phase, (s.runs r).phase ≠ .ended → phase ≠ .ended →
      ((s.runs r).aborted = true → phase.stopped = true) →
      ({ s.runs r with phase := phase } : AvailabilityRun).Bounded s.maxAttempts →
      (s.setPhase r phase).Orderly ∧ s.Silent (s.setPhase r phase) := by
    intro r phase hphase hphase' hstopped hbounded
    have hadvances := advances_setPhase hphase' hstopped hbounded
    exact ⟨hs.advance hphase hadvances, hs.silent hphase hadvances.toActsAs fun _ => rfl⟩
  have hrequested : ∀ r path outcome, (s.runs r).phase = .requesting path →
      (s.setPhase r (.requested path outcome)).Orderly ∧
        s.Silent (s.setPhase r (.requested path outcome)) := by
    intro r path outcome hphase
    refine settle r _ (by rw [hphase]; nofun) nofun (fun haborted => ?_) fun _ => ⟨?_, nofun⟩
    · have hstopped := hs.stopped r haborted
      rw [hphase] at hstopped
      cases hstopped
    · exact (hs.bounded r (by rw [hphase]; nofun)).1
  cases event with
  | start =>
    cases h
    exact hs.start
  | dispose =>
    cases h
    exact ⟨hs.dispose hsafe, fun _ _ => by rw [effectsOf, dispose_effects, effectsOf]⟩
  | completed r response =>
    simp only [step] at h
    split at h <;> cases h
    exact hrequested r _ _ ‹_›
  | requestTimeout r =>
    simp only [step] at h
    split at h <;> cases h
    exact hrequested r _ _ ‹_›
  | retryTimer r =>
    obtain ⟨hphase, h⟩ := Option.ite_none_right_eq_some.1 h
    cases h
    have hattempt := hs.bounded r (by rw [hphase]; nofun)
    refine settle r _ (by rw [hphase]; nofun) nofun (fun haborted => ?_) fun _ => ?_
    · have hstopped := hs.stopped r haborted
      rw [hphase] at hstopped
      cases hstopped
    · exact ⟨hattempt.1, fun _ => hattempt.2 (.inl hphase)⟩
  | resume r =>
    obtain ⟨hphase, hadvances, hquiet⟩ := hs.resume h
    exact ⟨hs.advance hphase hadvances, hs.silent hphase hadvances.toActsAs hquiet⟩

/-! ## Interrupted runs -/

/-- An aborted run that goes on. -/
structure Interrupted (r : ℕ) (s : AvailabilityController) : Prop where
  created : r < s.created
  notCurrent : s.runPromise ≠ some r
  aborted : (s.runs r).aborted = true
  goesOn : (s.runs r).phase = .attempting ∧ (s.runs r).attempt < s.maxAttempts ∨
    ∃ path, (s.runs r).phase = .requested path .succeeded

theorem interrupted_dispose (hs : s.Orderly) (h : s.interrupts .dispose) :
    ∃ r, Interrupted r s.dispose := by
  obtain ⟨r, hrun, hgoesOn⟩ := h
  have hself : s.dispose.runs r = { s.runs r with
      phase := (s.runs r).phase.abort, aborted := true } := by
    rw [dispose_of_some hrun]
    exact Function.update_self _ _ _
  have hbounded := hs.bounded r ((hs.current r).1 hrun).1
  refine ⟨r, ?_, ?_, by rw [hself], ?_⟩
  · rw [dispose_of_some hrun]
    exact Nat.lt_of_succ_le (Nat.le_of_eq (hs.latest r hrun))
  · rw [dispose_of_some hrun]
    nofun
  · rw [hself, show s.dispose.maxAttempts = s.maxAttempts by rw [dispose_of_some hrun]; rfl]
    cases hphase : (s.runs r).phase with
    | requesting path | ended => simp [hphase, RunPhase.goesOn] at hgoesOn
    | waiting => exact .inl ⟨rfl, hbounded.2 (.inl hphase)⟩
    | attempting => exact .inl ⟨rfl, hbounded.2 (.inr hphase)⟩
    | requested path outcome =>
      cases outcome with
      | succeeded => exact .inr ⟨path, rfl⟩
      | failed | cancelled => simp [hphase, RunPhase.goesOn] at hgoesOn

theorem effectsOf_append_ne {effect : AvailabilityEffect} {more : List (ℕ × AvailabilityEffect)}
    (h : t.effects = s.effects ++ [(r, effect)] ++ more) : t.effectsOf r ≠ s.effectsOf r := by
  rw [effectsOf, effectsOf, h, List.filter_append, List.filter_append, List.append_assoc]
  simp

/-- An interrupted run can go on, and is not silent when it does. -/
theorem Interrupted.resume (hs : Interrupted r s) : ∃ t, s.resume r = some t ∧ ¬ s.Silent t := by
  have hloud : ∀ {t effect more}, s.resume r = some t →
    t.effects = s.effects ++ [(r, effect)] ++ more →
      ∃ t, s.resume r = some t ∧ ¬ s.Silent t := by
    intro t effect more hresume heffects
    refine ⟨t, hresume, fun hsilent => ?_⟩
    refine effectsOf_append_ne heffects (hsilent r fun hlatest => ?_)
    have haborted := (actsAs_resume hresume).aborted.trans hs.aborted
    exact Bool.noConfusion (haborted.symm.trans hlatest.2)
  obtain ⟨hphase, hlt⟩ | ⟨path, hphase⟩ := hs.goesOn
  · have heffects : (s.nextAttempt r ((s.runs r).attempt + 1)).effects =
        s.effects ++ [(r, .setAttempt ((s.runs r).attempt + 1))] ++
          [(r, .setState (if (s.runs r).attempt + 1 = 1 then .starting else .degraded)),
              (r, .fetch .wake)] := by
      rw [nextAttempt, if_pos (Nat.succ_le_of_lt hlt)]
      exact List.append_assoc _ _ _
    exact hloud (by rw [AvailabilityController.resume, hphase]) heffects
  · cases path with
    | wake => exact hloud (by rw [AvailabilityController.resume, hphase]) (List.append_nil _).symm
    | readiness =>
      have heffects : ((s.setState r .ready).finish r).effects = s.effects ++
          [(r, .setState .ready)] ++ [] := by
        rw [finish_eq]
        exact (List.append_nil _).symm
      exact hloud (by rw [AvailabilityController.resume, hphase]) heffects

theorem Interrupted.frame (hs : Interrupted r s) (hruns : t.runs r = s.runs r)
    (hcreated : s.created ≤ t.created) (hmax : t.maxAttempts = s.maxAttempts)
    (hrun : t.runPromise ≠ some r) : Interrupted r t where
  created := Nat.lt_of_lt_of_le hs.created hcreated
  notCurrent := hrun
  aborted := hruns ▸ hs.aborted
  goesOn := by
    rw [hruns, hmax]
    exact hs.goesOn

theorem Interrupted.actsAs (hs : Interrupted r s) (h : ActsAs q s t) (hq : r ≠ q) :
    Interrupted r t := by
  refine hs.frame (h.runs r hq) (Nat.le_of_eq h.created.symm) h.maxAttempts ?_
  obtain hsame | hnone := h.forgets
  · rw [hsame]
    exact hs.notCurrent
  · rw [hnone]
    nofun

/-- An interrupted run stays so as long as all is silent. -/
theorem interrupted_step (hs : Interrupted r s) (h : s.step event = some t) (hsilent : s.Silent t) :
    Interrupted r t := by
  -- the interrupted run itself awaits nothing
  have hne : ∀ q, (∃ path, (s.runs q).phase = .requesting path) ∨
      (s.runs q).phase = .waiting → r ≠ q := by
    rintro q hphase rfl
    obtain ⟨hattempting, -⟩ | ⟨path, hrequested⟩ := hs.goesOn
    · simp [hattempting] at hphase
    · simp [hrequested] at hphase
  cases event with
  | start =>
    cases h
    obtain heq | ⟨-, heq⟩ := s.start_cases
    · rw [heq]
      exact hs
    · have hr : r ≠ s.created := Nat.ne_of_lt hs.created
      have hwith : Interrupted r s.withRun :=
        hs.frame (withRun_runs_of_ne hr) (Nat.le_succ _) rfl fun hrun =>
          hr (Option.some.inj hrun).symm
      rw [heq]
      exact hwith.actsAs (actsAs_nextAttempt _ _ _) hr
  | dispose =>
    cases h
    cases hrun : s.runPromise with
    | none =>
      rw [dispose_of_none hrun]
      exact hs
    | some q =>
      have hq : r ≠ q := by
        rintro rfl
        exact hs.notCurrent hrun
      rw [dispose_of_some hrun]
      exact hs.frame (Function.update_of_ne hq _ _) (Nat.le_refl _) rfl nofun
  | completed q response =>
    simp only [step] at h
    split at h <;> cases h
    exact hs.actsAs (actsAs_setPhase s q _) (hne q (.inl ⟨_, ‹_›⟩))
  | requestTimeout q =>
    simp only [step] at h
    split at h <;> cases h
    exact hs.actsAs (actsAs_setPhase s q _) (hne q (.inl ⟨_, ‹_›⟩))
  | retryTimer q =>
    obtain ⟨hphase, h⟩ := Option.ite_none_right_eq_some.1 h
    cases h
    exact hs.actsAs (actsAs_setPhase s q _) (hne q (.inr hphase))
  | resume q =>
    by_cases hq : r = q
    · subst hq
      obtain ⟨u, hu, hloud⟩ := hs.resume
      obtain rfl := Option.some.inj (hu.symm.trans h)
      exact absurd hsilent hloud
    · exact hs.actsAs (actsAs_resume h) hq

/-! ## Runs -/

/-- The events are continuations of runs whose promises are settled. -/
def Resumes (s : AvailabilityController) (event : AvailabilityEvent)
    (t : AvailabilityController) : Prop :=
  Step step s event t ∧ ∃ r, event = .resume r

/-- In a sequence of events and in the continuations that are pending after it, only the latest run
does anything and no disposed one, exactly when none of the events interrupts a run. -/
theorem disposed_silent_iff (maxAttempts : ℕ) (positive : 0 < maxAttempts)
    (es : List AvailabilityEvent) :
    (Run (fun a event b => Step step a event b ∧ a.Silent b) (initial maxAttempts positive) es t ∧
      ∀ fs u, Run Resumes t fs u → Run (fun a event b => Step step a event b ∧ a.Silent b) t fs u) ↔
      Run (fun a event b => Step step a event b ∧ ¬ a.interrupts event)
        (initial maxAttempts positive)
        es t := by
  have hkept : ∀ a event b, a.Orderly → Step step a event b ∧ ¬ a.interrupts event → b.Orderly :=
    fun a event b ha hstep => (orderly_step ha hstep.2 hstep.1).1
  have hsilent : ∀ a event b, a.Orderly → Step step a event b ∧ ¬ a.interrupts event →
      Step step a event b ∧ a.Silent b :=
    fun a event b ha hstep => ⟨hstep.1, (orderly_step ha hstep.2 hstep.1).2⟩
  have hresumes : ∀ a event b, a.Resumes event b → Step step a event b ∧ ¬ a.interrupts event := by
    rintro a event b ⟨hstep, r, rfl⟩
    exact ⟨hstep, id⟩
  have hinitial := orderly_initial maxAttempts positive
  constructor
  · rintro ⟨hrun, hpending⟩
    generalize initial maxAttempts positive = a at hrun hinitial ⊢
    induction hrun with
    | nil => exact .nil _
    | @cons a b u event es hstep hrest ih =>
      have hsafe : ¬ a.interrupts event := by
        intro hinterrupts
        cases event with
        | dispose =>
          obtain ⟨r, hr⟩ := interrupted_dispose hinitial hinterrupts
          obtain rfl : a.dispose = b := Option.some.inj hstep.1
          -- the interrupted run is still there at the end, and goes on
          have hend : Interrupted r u :=
            hrest.invariant hr fun _ _ _ h hstep => interrupted_step h hstep.1 hstep.2
          obtain ⟨v, hv, hloud⟩ := hend.resume
          cases hpending [.resume r] v (.single ⟨hv, r, rfl⟩) with
          | cons hlast hnil =>
            obtain rfl := Option.some.inj (hv.symm.trans hlast.1)
            exact hloud hlast.2
        | _ => exact hinterrupts
      exact .cons ⟨hstep.1, hsafe⟩ (ih hpending (hkept _ _ _ hinitial ⟨hstep.1, hsafe⟩))
  · intro hrun
    refine ⟨hrun.mono_of hinitial hkept hsilent, fun fs u hfs => ?_⟩
    have hsafe := hfs.mono hresumes
    exact hsafe.mono_of (hrun.invariant hinitial hkept) hkept hsilent

/-! ## The state and the attempt number -/

def applyEffect (snapshot : AvailabilityState × ℕ) :
    ℕ × AvailabilityEffect → AvailabilityState × ℕ
  | (_, .setAttempt attempt) => (snapshot.1, attempt)
  | (_, .setState state) => (state, snapshot.2)
  | (_, .fetch _) => snapshot

/-- The state and the attempt number are those that the runs have set. -/
def Replays (s : AvailabilityController) : Prop :=
  (s.currentState, s.currentAttempt) = s.effects.foldl applyEffect (.starting, 0)

theorem Replays.act {effect : ℕ × AvailabilityEffect} (hs : s.Replays)
    (heffects : t.effects = s.effects ++ [effect])
    (h : (t.currentState, t.currentAttempt) =
      applyEffect (s.currentState, s.currentAttempt) effect) : t.Replays := by
  rw [Replays, heffects, List.foldl_append, ← hs]
  exact h

theorem Replays.setState (hs : s.Replays) (state : AvailabilityState) :
    (s.setState r state).Replays :=
  hs.act rfl rfl

theorem Replays.finish (hs : s.Replays) : (s.finish r).Replays := by
  rw [finish_eq]
  exact hs

theorem Replays.nextAttempt (hs : s.Replays) (attempt : ℕ) : (s.nextAttempt r attempt).Replays := by
  by_cases hattempt : attempt ≤ s.maxAttempts
  · have hset : (s.setAttempt r attempt).Replays := hs.act rfl rfl
    rw [AvailabilityController.nextAttempt, if_pos hattempt]
    exact (hset.setState _).act rfl rfl
  · rw [AvailabilityController.nextAttempt, if_neg hattempt]
    exact hs.finish

theorem Replays.catchError (hs : s.Replays) (outcome : RequestOutcome) :
    (s.catchError r outcome).Replays := by
  unfold AvailabilityController.catchError
  split_ifs
  · exact hs.finish
  · exact (hs.setState _).finish
  · exact hs.setState _

theorem replays_step (hs : s.Replays) (h : s.step event = some t) : t.Replays := by
  cases event with
  | start =>
    cases h
    obtain heq | ⟨-, heq⟩ := s.start_cases
    · rw [heq]
      exact hs
    · have hwith : s.withRun.Replays := hs
      rw [heq]
      exact hwith.nextAttempt 1
  | dispose =>
    cases h
    cases hrun : s.runPromise with
    | none =>
      rw [dispose_of_none hrun]
      exact hs
    | some q =>
      rw [dispose_of_some hrun]
      exact hs
  | completed r | requestTimeout r =>
    simp only [step] at h
    split at h <;> cases h
    exact hs
  | retryTimer r =>
    obtain ⟨-, h⟩ := Option.ite_none_right_eq_some.1 h
    cases h
    exact hs
  | resume r =>
    simp only [step, AvailabilityController.resume] at h
    split at h <;> cases h
    · exact hs.act rfl rfl
    · exact (hs.setState _).finish
    · exact hs.catchError _
    · exact hs.nextAttempt _

/-- The state and the attempt number change by what the runs do, and by nothing else. -/
theorem replays_run {maxAttempts : ℕ} {positive : 0 < maxAttempts} {es : List AvailabilityEvent}
    (hrun : Run (Step step) (initial maxAttempts positive) es t) : t.Replays :=
  hrun.invariant rfl fun _ _ _ hs hstep => replays_step hs hstep

/-! ## Disposed runs that go on -/

/-- The first request fails, and the controller is disposed of and started
again while the run waits. -/
def disposedWhileWaiting : List AvailabilityEvent :=
  [.start, .completed 0 none, .resume 0, .dispose, .start]

/-- A controller that is disposed of during its first request, and started again. -/
theorem disposed_silent_iff_request : ∃ t,
    Run (fun a event b => Step step a event b ∧ a.Silent b) (initial 4 (by decide))
      [.start, .dispose, .start] t ∧
    ∀ fs u, Run Resumes t fs u → Run (fun a event b => Step step a event b ∧ a.Silent b)
      t fs u := by
  refine ⟨_, (disposed_silent_iff 4 (by decide) [.start, .dispose, .start]).2
    (.cons ⟨rfl, id⟩ (.cons ⟨rfl, ?_⟩ (.cons ⟨rfl, id⟩ (.nil _))))⟩
  rintro ⟨r, hr, hgoesOn⟩
  obtain rfl := Option.some.inj hr
  exact Bool.noConfusion hgoesOn

/-- The controller is disposed of when the first request has succeeded. -/
def disposedBetweenRequests : List AvailabilityEvent :=
  [.start, .completed 0 (some ⟨true, some "ok"⟩), .dispose]

/-- The run that was waiting overwrites the attempt number and the state of the run that replaced
it, and both go on to send a request. -/
theorem disposed_silent_iff_waiting :
    (∃ s t, Run (Step step) (initial 4 (by decide)) disposedWhileWaiting s ∧
      Run (Step step) s [.resume 0] t ∧ (s.runs 0).aborted = true ∧
      s.currentAttempt = 1 ∧ s.currentState = .starting ∧ t.currentAttempt = 2 ∧
      t.currentState = .degraded ∧
      t.effects = s.effects ++ [(0, .setAttempt 2), (0, .setState .degraded), (0, .fetch .wake)]) ∧
    ∃ s t, Run (Step step) (initial 4 (by decide)) disposedBetweenRequests s ∧
      Run (Step step) s [.resume 0] t ∧ (s.runs 0).aborted = true ∧
      t.effects = s.effects ++ [(0, .fetch .readiness)] :=
  ⟨⟨_, _, Run.of_exec rfl, Run.of_exec rfl, rfl, rfl, rfl, rfl, rfl, rfl⟩,
    ⟨_, _, Run.of_exec rfl, Run.of_exec rfl, rfl, rfl⟩⟩

end AvailabilityController

end SelfRelay
