import SelfRelay.Backend.TransferLifecycle

/-!
# Transfer requests and their constraints

Which rows the write operations of `TransferRequestRepository` produce satisfy the constraints of
the table: a valid transition at or after the times of the row does, unless it writes `failed`
without a failure code of 1 to 64 characters (`check_set`).
-/

namespace SelfRelay.Backend

open TransferStatus

/-- The bounds that `transfer_requests_failure_code_check` sets to the code of a failed transfer. -/
def failureCodeOk (code : Option String) : Bool :=
  code.any fun code => 1 ≤ code.length && code.length ≤ 64

namespace TransferRequestRecord

/-- The statements that wrote a row were executed at or before `now`. -/
structure Timely (now : Timestamp) (t : TransferRequestRecord) : Prop where
  created : t.createdAt ≤ now
  accepted : ∀ time ∈ t.acceptedAt, time ≤ now

variable {t : TransferRequestRecord}

theorem check_iff : t.check = true ↔
    t.senderDeviceId ≠ t.recipientDeviceId ∧ (1 ≤ t.protocolVersion ∧ t.protocolVersion ≤ 32767) ∧
      t.createdAt < t.expiresAt ∧ (∀ time ∈ t.acceptedAt, t.createdAt ≤ time) ∧
      (∀ time ∈ t.completedAt, t.acceptedAt.getD t.createdAt ≤ time) ∧
      (t.status = .completed ↔ t.completedAt.isSome = true) ∧
      (if t.status = .failed then failureCodeOk t.failureCode = true else t.failureCode = none) ∧
      (t.status = .offered ∨ t.status = .rejected ∨ t.status = .expired ∨
        t.acceptedAt.isSome = true) := by
  have hcompleted : (decide (t.status = .completed) == t.completedAt.isSome) = true ↔
      (t.status = .completed ↔ t.completedAt.isSome = true) := by
    rw [beq_iff_eq, Bool.eq_iff_iff, decide_eq_true_iff]
  have hfailed : (t.status = .failed ∧ failureCodeOk t.failureCode = true ∨
        t.status ≠ .failed ∧ t.failureCode.isNone = true) ↔
      if t.status = .failed then failureCodeOk t.failureCode = true else t.failureCode = none := by
    split_ifs with h <;> simp [h]
  rw [← hfailed, ← hcompleted]
  simp only [check, failureCodeOk, Bool.and_eq_true, Bool.or_eq_true, decide_eq_true_eq, and_assoc,
    or_assoc, Option.all_eq_true, Option.mem_def]

end TransferRequestRecord

open TransferRequestRecord

variable {now : Timestamp} {args : TransitionArguments} {t : TransferRequestRecord}

/-- `accepted_at` after a transition lies between the creation of the row and now. -/
theorem acceptedAt_set (hcheck : t.check = true) (htimely : t.Timely now) :
    ∀ time ∈ (args.set now t).acceptedAt, t.createdAt ≤ time ∧ time ≤ now := by
  obtain ⟨-, -, -, haccepted, -⟩ := check_iff.1 hcheck
  intro time htime
  simp only [TransitionArguments.set] at htime
  split_ifs at htime
  · cases h : t.acceptedAt with
    | none =>
      obtain rfl : now = time := by simpa [h] using htime
      exact ⟨htimely.created, Nat.le_refl now⟩
    | some accepted =>
      obtain rfl : accepted = time := by simpa [h] using htime
      exact ⟨haccepted accepted h, htimely.accepted accepted h⟩
  · exact ⟨haccepted time htime, htimely.accepted time htime⟩

/-- A valid transition leaves a row accepted, or in a status that does not ask for it. -/
theorem acceptance_set (hcheck : t.check = true)
    (hstep : args.toStatus ∈ t.status.validTransitions) :
    args.toStatus = .offered ∨ args.toStatus = .rejected ∨ args.toStatus = .expired ∨
      (args.set now t).acceptedAt.isSome = true := by
  obtain ⟨-, -, -, -, -, -, -, hacceptance⟩ := check_iff.1 hcheck
  simp only [TransitionArguments.set]
  split_ifs with hto
  · exact .inr (.inr (.inr rfl))
  · obtain hoffered | hrejected | hexpired | hsome := hacceptance
    · rw [hoffered] at hstep
      simp only [validTransitions, List.mem_cons, List.not_mem_nil, or_false] at hstep
      obtain h | h | h | h := hstep
      · exact (hto (.inl h)).elim
      · exact .inr (.inl h)
      · exact .inr (.inr (.inl h))
      · exact (hto (.inr h)).elim
    · rw [hrejected] at hstep
      cases hstep
    · rw [hexpired] at hstep
      cases hstep
    · exact .inr (.inr (.inr hsome))

/-- The row that a valid transition writes. -/
theorem check_set (hcheck : t.check = true) (htimely : t.Timely now)
    (hstep : args.toStatus ∈ t.status.validTransitions) :
    (args.set now t).check = true ↔
      (args.toStatus = .failed → failureCodeOk args.failureCode = true) := by
  have haccepted : ∀ time ∈ (args.set now t).acceptedAt, t.createdAt ≤ time ∧ time ≤ now :=
    acceptedAt_set hcheck htimely
  have hacceptance : args.toStatus = .offered ∨ args.toStatus = .rejected ∨
      args.toStatus = .expired ∨ (args.set now t).acceptedAt.isSome = true :=
    acceptance_set hcheck hstep
  obtain ⟨hdistinct, hversion, hexpiry, -, -, hstatus, -, -⟩ := check_iff.1 hcheck
  have hnone : t.completedAt = none := by
    rw [← Option.not_isSome_iff_eq_none, ← hstatus]
    intro h
    rw [h] at hstep
    cases hstep
  have hcompleted : (args.set now t).completedAt = if args.toStatus = .completed then some now
      else none := by
    simp [TransitionArguments.set, hnone]
  have hcode : (if args.toStatus = .failed then failureCodeOk (args.set now t).failureCode = true
        else (args.set now t).failureCode = none) ↔
      (args.toStatus = .failed → failureCodeOk args.failureCode = true) := by
    simp only [TransitionArguments.set]
    split_ifs with h <;> simp [h]
  rw [check_iff]
  constructor
  · rintro ⟨-, -, -, -, -, -, h, -⟩
    exact hcode.1 h
  · intro h
    refine ⟨hdistinct, hversion, hexpiry, fun time htime => (haccepted time htime).1, ?_, ?_,
      hcode.2 h, hacceptance⟩
    · intro time htime
      rw [hcompleted, Option.mem_def, Option.ite_none_right_eq_some] at htime
      obtain rfl := Option.some.inj htime.2
      cases hset : (args.set now t).acceptedAt with
      | none => exact htimely.created
      | some accepted => exact (haccepted accepted hset).2
    · rw [hcompleted]
      by_cases hto : args.toStatus = .completed
      · rw [if_pos hto]
        exact iff_of_true hto rfl
      · rw [if_neg hto]
        exact iff_of_false hto Bool.false_ne_true

theorem timely_set (hcheck : t.check = true) (htimely : t.Timely now) :
    (args.set now t).Timely now :=
  ⟨htimely.created, fun time htime => (acceptedAt_set hcheck htimely time htime).2⟩

end SelfRelay.Backend
