import Mathlib.Algebra.Order.BigOperators.Group.List
import Mathlib.Data.List.Induction
import SelfRelay.Backend.RateLimits

/-!
# The two rate limiters agree

Executed one after another, the calls of `allow_many` get the same answers from both limiters.  The
simulation relates what a bucket holds under its two fingerprints (`Agrees`); a step is read off
what a call leaves in a bucket.  The bound on a bucket's windows is then about the persistent
limiter: its row counts exactly the accepted calls since its window began.
-/

namespace SelfRelay.Backend

/-! ## What a call leaves in a bucket -/

/-- The last request of a call for a bucket. -/
def lastFor (bucket : BucketKey) (requests : List BucketRequest) : Option BucketRequest :=
  (requests.filter (·.bucket = bucket)).getLast?

theorem lastFor_append (bucket : BucketKey) (requests : List BucketRequest)
    (request : BucketRequest) :
    lastFor bucket (requests ++ [request]) =
      if request.bucket = bucket then some request else lastFor bucket requests := by
  rw [lastFor, List.filter_append]
  split_ifs with h
  · rw [List.filter_cons_of_pos (by simpa using h), List.filter_nil, List.getLast?_concat]
  · rw [List.filter_cons_of_neg (by simpa using h), List.filter_nil, List.append_nil, lastFor]

namespace RateLimitBucketRepository

variable {now : Timestamp} {table : RateLimitTable} {requests : List BucketRequest}

theorem selectBuckets_eq (now : Timestamp) (table : RateLimitTable)
    (requests : List BucketRequest) :
    selectBuckets now table requests =
      if requests.all fun r => !exhausted now r.limit (table.get r.bucket) then
        some (requests.map fun r => (r, table.get r.bucket))
      else none := by
  induction requests with
  | nil => rfl
  | cons request requests ih =>
    rw [selectBuckets, ih, List.all_cons]
    cases exhausted now request.limit (table.get request.bucket) with
    | true => rfl
    | false =>
      rw [if_neg Bool.false_ne_true, Bool.not_false, Bool.true_and]
      split_ifs <;> rfl

/-- The writes of a call, bucket by bucket. -/
theorem get_consumed (now : Timestamp) (table : RateLimitTable) (requests : List BucketRequest)
    (bucket : BucketKey) :
    ((requests.map fun r => (r, table.get r.bucket)).foldl (writeBucket now) table).get bucket =
      (lastFor bucket requests).elim (table.get bucket) fun request =>
        some (consumed now request.window (table.get bucket)) := by
  induction requests using List.reverseRecOn generalizing bucket with
  | nil => rfl
  | append_singleton requests request ih =>
    rw [List.map_append, List.foldl_append, List.map_singleton, List.foldl_cons, List.foldl_nil,
      lastFor_append]
    generalize hwritten : (requests.map fun r => (r, table.get r.bucket)).foldl (writeBucket now)
      table = written at ih
    rw [writeBucket]
    dsimp only
    by_cases hopens : opensWindow now (table.get request.bucket) = true
    · rw [if_pos hopens]
      by_cases hbucket : request.bucket = bucket
      · subst hbucket
        rw [if_pos rfl, Dict.get_set, Option.elim_some, consumed_of_opens hopens]
      · rw [if_neg hbucket, Dict.get_set_ne (Ne.symm hbucket), ih]
    · rw [if_neg hopens]
      obtain ⟨row, hrow, -, hconsumed⟩ := consumed_of_not_opens request.window
        (eq_false_of_ne_true hopens)
      -- an earlier request of the call has changed the count of this row at most
      have hstored : ∃ row', written.get request.bucket = some row' ∧
          { row' with requestCount := row.requestCount + 1 } =
            consumed now request.window (table.get request.bucket) := by
        rw [ih]
        cases lastFor request.bucket requests with
        | none => exact ⟨row, hrow, hconsumed.symm⟩
        | some earlier =>
          obtain ⟨row', hrow', -, hearlier⟩ := consumed_of_not_opens earlier.window
            (eq_false_of_ne_true hopens)
          obtain rfl := Option.some.inj (hrow.symm.trans hrow')
          refine ⟨_, rfl, ?_⟩
          rw [hearlier, hconsumed]
      obtain ⟨row', hrow', hcount⟩ := hstored
      rw [hrow', hrow, Option.map_some, Option.getD_some]
      dsimp only
      rw [hcount]
      by_cases hbucket : request.bucket = bucket
      · subst hbucket
        rw [if_pos rfl, Dict.get_set, Option.elim_some]
      · rw [if_neg hbucket, Dict.get_set_ne (Ne.symm hbucket), ih]

end RateLimitBucketRepository

namespace RateLimiter

variable {now : Timestamp} {buckets : Buckets} {requests : List BucketRequest}

theorem readBuckets_eq (now : Timestamp) (buckets : Buckets) (requests : List BucketRequest) :
    readBuckets now buckets requests =
      if requests.all fun r =>
        !decide (r.limit ≤ (current now r.window (buckets.get r.bucket)).2) then
        some (requests.map fun r => (r.bucket, current now r.window (buckets.get r.bucket)))
      else none := by
  induction requests with
  | nil => rfl
  | cons request requests ih =>
    rw [readBuckets, ih, List.all_cons]
    by_cases hlimit : request.limit ≤ (current now request.window (buckets.get request.bucket)).2
    · rw [if_pos hlimit, decide_eq_true hlimit]
      rfl
    · rw [if_neg hlimit, decide_eq_false hlimit, Bool.not_false, Bool.true_and]
      split_ifs <;> rfl

/-- The writes of a call, bucket by bucket. -/
theorem get_recorded (now : Timestamp) (buckets : Buckets) (requests : List BucketRequest)
    (bucket : BucketKey) :
    ((requests.map fun r => (r.bucket, current now r.window (buckets.get r.bucket))).foldl
        recordBucket buckets).get bucket =
      (lastFor bucket requests).elim (buckets.get bucket) fun request =>
        some ((current now request.window (buckets.get bucket)).1,
          (current now request.window (buckets.get bucket)).2 + 1) := by
  induction requests using List.reverseRecOn with
  | nil => rfl
  | append_singleton requests request ih =>
    rw [List.map_append, List.foldl_append, List.map_singleton, List.foldl_cons, List.foldl_nil,
      lastFor_append, recordBucket]
    by_cases hbucket : request.bucket = bucket
    · subst hbucket
      rw [if_pos rfl, Dict.get_set, Option.elim_some]
    · rw [if_neg hbucket, Dict.get_set_ne (Ne.symm hbucket), ih]

end RateLimiter

/-! ## The simulation -/

namespace LimitRequest

def isValid (r : LimitRequest) : Bool := !(r.scope.isEmpty || r.limit = 0 || r.window = 0)

/-- The request with its fingerprint. -/
def encode (fingerprint : String → String → Bytea) (r : LimitRequest) : BucketRequest :=
  ⟨(r.scope, fingerprint r.scope r.value), r.limit, r.window⟩

end LimitRequest

section Simulation

variable {f g : String → String → Bytea} {table : RateLimitTable} {buckets : RateLimiter.Buckets}
  {call : LimitCall} {requests : List LimitRequest} {now window : Timestamp} {scope value : String}

theorem mapM_encodeRequest : requests.mapM (encodeRequest f) =
    if requests.all LimitRequest.isValid then .ok (requests.map (LimitRequest.encode f))
    else .error ⟨"rate-limit scope, limit, and window must be valid"⟩ := by
  induction requests with
  | nil => rfl
  | cons r requests ih =>
    rw [List.mapM_cons, ih, encodeRequest, List.all_cons, LimitRequest.isValid]
    cases r.scope.isEmpty || decide (r.limit = 0) || decide (r.window = 0) with
    | true => rfl
    | false =>
      rw [Bool.not_false, Bool.true_and, if_neg Bool.false_ne_true]
      split_ifs <;> rfl

theorem forM_validateRequest (hdigest : ∀ scope value, (f scope value).length = 32)
    (hscopes : ∀ r ∈ requests, 1 ≤ r.scope.length ∧ r.scope.length ≤ 64)
    (hvalid : requests.all LimitRequest.isValid = true) :
    (requests.map (LimitRequest.encode f)).forM RateLimitBucketRepository.validateRequest =
      .ok () := by
  induction requests with
  | nil => rfl
  | cons r requests ih =>
    rw [List.all_cons, Bool.and_eq_true, LimitRequest.isValid] at hvalid
    obtain ⟨hr, hvalid⟩ := hvalid
    obtain ⟨hpos, hle⟩ := hscopes r List.mem_cons_self
    have hfirst : RateLimitBucketRepository.validateRequest (r.encode f) = .ok () := by
      simp only [Bool.not_eq_true', Bool.or_eq_false_iff, decide_eq_false_iff_not] at hr
      rw [RateLimitBucketRepository.validateRequest, if_neg, if_neg, if_neg]
      · simpa using ⟨hr.1.2, hr.2⟩
      · simpa [LimitRequest.encode] using hdigest r.scope r.value
      · rw [LimitRequest.encode, decide_eq_true hpos, decide_eq_true hle]
        decide
    rw [List.map_cons, List.forM, hfirst]
    exact ih (fun r hr => hscopes r (List.mem_cons_of_mem _ hr)) hvalid

/-- What `PersistentRateLimiter.allow_many` does. -/
theorem persistent_eq (hdigest : ∀ scope value, (f scope value).length = 32)
    (hscopes : ∀ r ∈ call.requests, 1 ≤ r.scope.length ∧ r.scope.length ≤ 64) :
    PersistentRateLimiter.allowMany f table call =
      if call.requests.isEmpty then (.error ⟨"at least one rate-limit bucket is required"⟩, table)
      else if call.requests.all LimitRequest.isValid then
        if call.requests.all fun r =>
            !exhausted call.now r.limit (table.get (r.encode f).bucket) then
          (.ok true, ((call.requests.map (LimitRequest.encode f)).map
            fun r => (r, table.get r.bucket)).foldl
              (RateLimitBucketRepository.writeBucket call.now) table)
        else (.ok false, table)
      else (.error ⟨"rate-limit scope, limit, and window must be valid"⟩, table) := by
  rw [PersistentRateLimiter.allowMany, mapM_encodeRequest]
  by_cases hempty : call.requests.isEmpty = true
  · rw [if_pos hempty, if_pos hempty]
  rw [if_neg hempty, if_neg hempty]
  by_cases hvalid : call.requests.all LimitRequest.isValid = true
  · rw [if_pos hvalid, if_pos hvalid]
    dsimp only
    rw [RateLimitBucketRepository.consumeMany, List.isEmpty_map, if_neg hempty,
      forM_validateRequest hdigest hscopes hvalid]
    dsimp only
    rw [RateLimitBucketRepository.selectBuckets_eq, List.all_map]
    split_ifs with hall hall' hall'
    · rfl
    · exact absurd hall hall'
    · exact absurd hall' hall
    · rfl
  · rw [if_neg hvalid, if_neg hvalid]

/-- What `RateLimiter.allow_many` does. -/
theorem memory_eq :
    RateLimiter.allowMany g buckets call =
      if call.requests.isEmpty then (.error ⟨"at least one rate-limit bucket is required"⟩, buckets)
      else if call.requests.all LimitRequest.isValid then
        if call.requests.all fun r => !decide (r.limit ≤
            (RateLimiter.current call.now r.window (buckets.get (r.encode g).bucket)).2) then
          (.ok true, ((call.requests.map (LimitRequest.encode g)).map
            fun r => (r.bucket, RateLimiter.current call.now r.window (buckets.get r.bucket))).foldl
              RateLimiter.recordBucket buckets)
        else (.ok false, buckets)
      else (.error ⟨"rate-limit scope, limit, and window must be valid"⟩, buckets) := by
  rw [RateLimiter.allowMany, mapM_encodeRequest]
  by_cases hempty : call.requests.isEmpty = true
  · rw [if_pos hempty, if_pos hempty]
  rw [if_neg hempty, if_neg hempty]
  by_cases hvalid : call.requests.all LimitRequest.isValid = true
  · rw [if_pos hvalid, if_pos hvalid]
    dsimp only
    rw [RateLimiter.readBuckets_eq, List.all_map]
    split_ifs with hall hall' hall'
    · rfl
    · exact absurd hall hall'
    · exact absurd hall' hall
    · rfl
  · rw [if_neg hvalid, if_neg hvalid]

/-- What both limiters know of a bucket. -/
def RateLimitBucket.view (row : RateLimitBucket) : Timestamp × ℕ :=
  (row.windowExpiresAt, row.requestCount)

theorem exhausted_eq (window : Timestamp) {limit : ℕ} (hlimit : limit ≠ 0)
    (row : Option RateLimitBucket) :
    exhausted now limit row =
      decide (limit ≤ (RateLimiter.current now window (row.map RateLimitBucket.view)).2) := by
  cases row with
  | none => simp [exhausted, RateLimiter.current, hlimit]
  | some row =>
    by_cases hexpired : row.windowExpiresAt ≤ now
    · simp [exhausted, RateLimiter.current, RateLimitBucket.view, hexpired, hlimit,
        Nat.not_lt.2 hexpired]
    · simp [exhausted, RateLimiter.current, RateLimitBucket.view, hexpired, Nat.not_le.1 hexpired]

theorem view_consumed (row : Option RateLimitBucket) :
    (RateLimitBucketRepository.consumed now window row).view =
      ((RateLimiter.current now window (row.map RateLimitBucket.view)).1,
        (RateLimiter.current now window (row.map RateLimitBucket.view)).2 + 1) := by
  cases row with
  | none => simp [RateLimitBucketRepository.consumed, RateLimiter.current, RateLimitBucket.view]
  | some row =>
    by_cases hexpired : row.windowExpiresAt ≤ now
    · simp [RateLimitBucketRepository.consumed, RateLimiter.current, RateLimitBucket.view, hexpired]
    · simp [RateLimitBucketRepository.consumed, RateLimiter.current, RateLimitBucket.view, hexpired]

/-- The last request of a call for a scope and value. -/
def lastUse (scope value : String) (requests : List LimitRequest) : Option LimitRequest :=
  (requests.filter fun r => r.scope = scope && r.value = value).getLast?

/-- No two values of a scope that are in use have one fingerprint. -/
def CollisionFree (fingerprint : String → String → Bytea) (inUse : String → String → Prop) : Prop :=
  ∀ scope value value', inUse scope value → inUse scope value' →
    fingerprint scope value = fingerprint scope value' → value = value'

variable {inUse : String → String → Prop}

theorem lastFor_encode (hcollision : CollisionFree f inUse) (huse : inUse scope value)
    (hrequests : ∀ r ∈ requests, inUse r.scope r.value) :
    lastFor (scope, f scope value) (requests.map (LimitRequest.encode f)) =
      (lastUse scope value requests).map (LimitRequest.encode f) := by
  rw [lastFor, lastUse, List.filter_map, List.getLast?_map]
  congr 2
  apply List.filter_congr
  intro r hr
  rw [Bool.eq_iff_iff]
  simp only [Function.comp_apply, LimitRequest.encode, decide_eq_true_eq, Prod.mk.injEq,
    Bool.and_eq_true]
  constructor
  · rintro ⟨rfl, hfingerprint⟩
    exact ⟨rfl, hcollision _ _ _ (hrequests r hr) huse hfingerprint⟩
  · rintro ⟨rfl, rfl⟩
    exact ⟨rfl, rfl⟩

variable (f g inUse) in
/-- The buckets in use hold the same. -/
def Agrees (table : RateLimitTable) (buckets : RateLimiter.Buckets) : Prop :=
  ∀ scope value, inUse scope value →
    (table.get (scope, f scope value)).map RateLimitBucket.view = buckets.get (scope, g scope value)

/-- The bucket of a scope and value after an accepted call. -/
theorem persistent_get (hcollision : CollisionFree f inUse) (huse : inUse scope value)
    (hrequests : ∀ r ∈ requests, inUse r.scope r.value) :
    (((requests.map (LimitRequest.encode f)).map fun r => (r, table.get r.bucket)).foldl
        (RateLimitBucketRepository.writeBucket now) table).get (scope, f scope value) =
      (lastUse scope value requests).elim (table.get (scope, f scope value)) fun r =>
        some (RateLimitBucketRepository.consumed now r.window
          (table.get (scope, f scope value))) := by
  rw [RateLimitBucketRepository.get_consumed, lastFor_encode hcollision huse hrequests]
  cases lastUse scope value requests <;> rfl

theorem agrees_step (hdigest : ∀ scope value, (f scope value).length = 32)
    (hf : CollisionFree f inUse) (hg : CollisionFree g inUse)
    (hscopes : ∀ r ∈ call.requests, 1 ≤ r.scope.length ∧ r.scope.length ≤ 64)
    (hrequests : ∀ r ∈ call.requests, inUse r.scope r.value) (h : Agrees f g inUse table buckets) :
    (PersistentRateLimiter.allowMany f table call).1 = (RateLimiter.allowMany g buckets call).1 ∧
      Agrees f g inUse (PersistentRateLimiter.allowMany f table call).2
        (RateLimiter.allowMany g buckets call).2 := by
  rw [persistent_eq hdigest hscopes, memory_eq]
  by_cases hempty : call.requests.isEmpty = true
  · rw [if_pos hempty, if_pos hempty]
    exact ⟨rfl, h⟩
  rw [if_neg hempty, if_neg hempty]
  by_cases hvalid : call.requests.all LimitRequest.isValid = true
  · rw [if_pos hvalid, if_pos hvalid]
    have hcapacity : (call.requests.all fun r =>
          !exhausted call.now r.limit (table.get (r.encode f).bucket)) =
        call.requests.all fun r => !decide (r.limit ≤
          (RateLimiter.current call.now r.window (buckets.get (r.encode g).bucket)).2) := by
      rw [Bool.eq_iff_iff, List.all_eq_true, List.all_eq_true]
      refine forall₂_congr fun r hr => ?_
      have hlimit : r.limit ≠ 0 := by
        have hvalid := List.all_eq_true.1 hvalid r hr
        simp only [LimitRequest.isValid, Bool.not_eq_true', Bool.or_eq_false_iff,
          decide_eq_false_iff_not] at hvalid
        exact hvalid.1.2
      rw [exhausted_eq r.window hlimit]
      show _ ↔ (!decide (r.limit ≤ (RateLimiter.current call.now r.window
        (buckets.get (r.scope, g r.scope r.value))).2)) = true
      rw [← h r.scope r.value (hrequests r hr)]
      rfl
    rw [hcapacity]
    split_ifs
    · refine ⟨rfl, fun scope value huse => ?_⟩
      have hagrees := h scope value huse
      rw [persistent_get hf huse hrequests, RateLimiter.get_recorded,
        lastFor_encode hg huse hrequests]
      cases lastUse scope value call.requests with
      | none => exact hagrees
      | some r =>
        rw [Option.map_some, Option.elim_some, Option.elim_some, Option.map_some, view_consumed,
          hagrees]
        rfl
    · exact ⟨rfl, h⟩
  · rw [if_neg hvalid, if_neg hvalid]
    exact ⟨rfl, h⟩

end Simulation

/-! ## Sequences of calls -/

section Sequences

variable {σ : Type} (limiter : σ → LimitCall → Except ValueError Bool × σ)

/-- The answers to a sequence of calls. -/
def answers : σ → List LimitCall → List (Except ValueError Bool)
  | _, [] => []
  | s, call :: calls => (limiter s call).1 :: answers (limiter s call).2 calls

/-- The state after a sequence of calls. -/
def afterCalls (s : σ) (calls : List LimitCall) : σ :=
  calls.foldl (fun s call => (limiter s call).2) s

/-- The call has a request for the scope and value. -/
def LimitCall.uses (scope value : String) (call : LimitCall) : Bool :=
  call.requests.any fun r => r.scope = scope && r.value = value

/-- The times of the calls that were accepted and used a bucket. -/
def acceptedTimes (scope value : String) (s : σ) (calls : List LimitCall) : List Timestamp :=
  ((calls.zip (answers limiter s calls)).filter fun c =>
    c.1.uses scope value && decide (c.2 = .ok true)).map (·.1.now)

variable {limiter} {scope value : String} {s : σ} {calls : List LimitCall} {call : LimitCall}

theorem length_answers : (answers limiter s calls).length = calls.length := by
  induction calls generalizing s with
  | nil => rfl
  | cons call calls ih => rw [answers, List.length_cons, ih, List.length_cons]

theorem answers_append : answers limiter s (calls ++ [call]) =
    answers limiter s calls ++ [(limiter (afterCalls limiter s calls) call).1] := by
  induction calls generalizing s with
  | nil => rfl
  | cons call calls ih => rw [List.cons_append, answers, ih, answers, List.cons_append]; rfl

theorem afterCalls_append : afterCalls limiter s (calls ++ [call]) =
    (limiter (afterCalls limiter s calls) call).2 :=
  List.foldl_concat ..

theorem acceptedTimes_append : acceptedTimes limiter scope value s (calls ++ [call]) =
    acceptedTimes limiter scope value s calls ++
      if call.uses scope value && decide ((limiter (afterCalls limiter s calls) call).1 = .ok true)
      then [call.now] else [] := by
  rw [acceptedTimes, answers_append, List.zip_append length_answers.symm, List.filter_append,
    List.map_append, acceptedTimes]
  congr 1
  rw [List.zip_cons_cons, List.zip_nil_right, List.filter_cons]
  split_ifs <;> rfl

theorem acceptedTimes_mem {time : Timestamp}
    (h : time ∈ acceptedTimes limiter scope value s calls) :
    ∃ call ∈ calls, call.uses scope value = true ∧ call.now = time := by
  obtain ⟨⟨call, answer⟩, hmem, rfl⟩ := List.mem_map.1 h
  obtain ⟨hmem, huses⟩ := List.mem_filter.1 hmem
  simp only [Bool.and_eq_true] at huses
  exact ⟨call, (List.of_mem_zip hmem).1, huses.1, rfl⟩

end Sequences

/-! ## The windows of a bucket -/

section Windows

variable {f : String → String → Bytea} {inUse : String → String → Prop} {scope value : String}
  {n : ℕ} {w : Timestamp} {calls : List LimitCall} {call : LimitCall} {table : RateLimitTable}

/-- A call is accepted and consumes its buckets, or it changes nothing. -/
theorem persistent_cases (hdigest : ∀ scope value, (f scope value).length = 32)
    (hscopes : ∀ r ∈ call.requests, 1 ≤ r.scope.length ∧ r.scope.length ≤ 64)
    (table : RateLimitTable) :
    ((PersistentRateLimiter.allowMany f table call).1 ≠ .ok true ∧
      (PersistentRateLimiter.allowMany f table call).2 = table) ∨
    ((PersistentRateLimiter.allowMany f table call).1 = .ok true ∧
      (∀ r ∈ call.requests, r.limit ≠ 0 ∧ r.window ≠ 0 ∧
        exhausted call.now r.limit (table.get (r.encode f).bucket) = false) ∧
      (PersistentRateLimiter.allowMany f table call).2 =
        ((call.requests.map (LimitRequest.encode f)).map fun r => (r, table.get r.bucket)).foldl
          (RateLimitBucketRepository.writeBucket call.now) table) := by
  rw [persistent_eq hdigest hscopes]
  split_ifs with hempty hvalid hcapacity
  · exact .inl ⟨by rintro ⟨⟩, rfl⟩
  · refine .inr ⟨rfl, fun r hr => ?_, rfl⟩
    have hfree := List.all_eq_true.1 hcapacity r hr
    have hr := List.all_eq_true.1 hvalid r hr
    simp only [LimitRequest.isValid, Bool.not_eq_true', Bool.or_eq_false_iff,
      decide_eq_false_iff_not] at hr hfree
    exact ⟨hr.1.2, hr.2, hfree⟩
  · exact .inl ⟨by rintro ⟨⟩, rfl⟩
  · exact .inl ⟨by rintro ⟨⟩, rfl⟩

theorem lastUse_of_uses (h : call.uses scope value = true) :
    ∃ r ∈ call.requests, r.scope = scope ∧ r.value = value ∧
      lastUse scope value call.requests = some r := by
  obtain ⟨r, hr, hmatch⟩ := List.any_eq_true.1 h
  have hne : call.requests.filter (fun r => r.scope = scope && r.value = value) ≠ [] :=
    List.ne_nil_of_mem (List.mem_filter.2 ⟨hr, hmatch⟩)
  refine ⟨_, ?_, ?_, ?_, List.getLast?_eq_some_getLast hne⟩
  · exact (List.mem_filter.1 (List.getLast_mem hne)).1
  · have hlast := (List.mem_filter.1 (List.getLast_mem hne)).2
    rw [Bool.and_eq_true] at hlast
    exact of_decide_eq_true hlast.1
  · have hlast := (List.mem_filter.1 (List.getLast_mem hne)).2
    rw [Bool.and_eq_true] at hlast
    exact of_decide_eq_true hlast.2

theorem lastUse_of_not_uses (h : call.uses scope value = false) :
    lastUse scope value call.requests = none := by
  have hnil : call.requests.filter (fun r => r.scope = scope && r.value = value) = [] := by
    apply List.filter_eq_nil_iff.2
    intro r hr hmatch
    have := List.any_eq_false.1 h r hr
    exact this hmatch
  rw [lastUse, hnil]
  rfl

/-- What a call does to a bucket that is always used with one limit and one window. -/
theorem bucket_cases (hdigest : ∀ scope value, (f scope value).length = 32)
    (hf : CollisionFree f inUse) (huse : inUse scope value)
    (hscopes : ∀ r ∈ call.requests, 1 ≤ r.scope.length ∧ r.scope.length ≤ 64)
    (hrequests : ∀ r ∈ call.requests, inUse r.scope r.value)
    (hfixed : ∀ r ∈ call.requests, r.scope = scope → r.value = value → r.limit = n ∧ r.window = w)
    (table : RateLimitTable) :
    let row := table.get (scope, f scope value)
    let row' := (PersistentRateLimiter.allowMany f table call).2.get (scope, f scope value)
    let counted := call.uses scope value &&
      decide ((PersistentRateLimiter.allowMany f table call).1 = .ok true)
    (counted = false ∧ row' = row) ∨
      (counted = true ∧ n ≠ 0 ∧ 0 < w ∧ exhausted call.now n row = false ∧
        row' = some (RateLimitBucketRepository.consumed call.now w row)) := by
  intro row row' counted
  rcases persistent_cases hdigest hscopes table with
    ⟨hanswer, htable⟩ | ⟨hanswer, hcapacity, htable⟩
  · left
    simp only [counted, row', htable, decide_eq_false hanswer, Bool.and_false]
    exact ⟨trivial, rfl⟩
  · simp only [counted, row', htable, decide_eq_true hanswer, Bool.and_true,
      persistent_get hf huse hrequests]
    cases huses : call.uses scope value with
    | false =>
      left
      rw [lastUse_of_not_uses huses]
      exact ⟨rfl, rfl⟩
    | true =>
      right
      obtain ⟨r, hr, hscope, hvalue, hlast⟩ := lastUse_of_uses huses
      obtain ⟨hlimit, hwindow⟩ := hfixed r hr hscope hvalue
      obtain ⟨hpos, hopen, hfree⟩ := hcapacity r hr
      have hbucket : (r.encode f).bucket = (scope, f scope value) := by
        rw [LimitRequest.encode, hscope, hvalue]
      rw [hlast, Option.elim_some, ← hlimit, ← hwindow]
      rw [hbucket] at hfree
      exact ⟨rfl, hpos, Nat.pos_of_ne_zero hopen, hfree, rfl⟩

/-- How many times are in the window of a row. -/
def inWindow (row : RateLimitBucket) (times : List Timestamp) : ℕ :=
  times.countP fun time => row.windowStartedAt ≤ time && time < row.windowExpiresAt

/-- The row of a bucket counts the accepted calls since its window began. -/
structure CountsWindow (n : ℕ) (w last : Timestamp) (times : List Timestamp)
    (row : RateLimitBucket) : Prop where
  started : row.windowStartedAt ≤ last
  length : row.windowExpiresAt = row.windowStartedAt + w
  recent : ∀ time ∈ times, time < row.windowExpiresAt
  count : row.requestCount = times.countP fun time => row.windowStartedAt ≤ time
  bounded : row.requestCount ≤ n

/-- A window is the row's own, or it ended before the row's began. -/
def SameOrBefore (earlier row : RateLimitBucket) : Prop :=
  (earlier.windowStartedAt = row.windowStartedAt ∧ earlier.windowExpiresAt = row.windowExpiresAt) ∨
    earlier.windowExpiresAt ≤ row.windowStartedAt

theorem SameOrBefore.trans {a b c : RateLimitBucket} (h : SameOrBefore a b) (h' : SameOrBefore b c)
    (hb : b.windowStartedAt ≤ b.windowExpiresAt) : SameOrBefore a c := by
  rcases h with ⟨hstart, hend⟩ | hend
  · rw [SameOrBefore, hstart, hend]
    exact h'
  · right
    rcases h' with ⟨hstart, -⟩ | hend'
    · rwa [← hstart]
    · exact (hend.trans hb).trans hend'

theorem CountsWindow.ordered {last : Timestamp} {times : List Timestamp} {row : RateLimitBucket}
    (h : CountsWindow n w last times row) : row.windowStartedAt ≤ row.windowExpiresAt :=
  h.length ▸ Nat.le_add_right _ _

theorem inWindow_of_counts {last : Timestamp} {times : List Timestamp} {row : RateLimitBucket}
    (h : CountsWindow n w last times row) : inWindow row times ≤ n := by
  rw [inWindow, List.countP_congr (q := fun time => row.windowStartedAt ≤ time), ← h.count]
  · exact h.bounded
  · intro time htime
    simp [h.recent time htime]

theorem inWindow_append (row : RateLimitBucket) (times : List Timestamp) (now : Timestamp) :
    inWindow row (times ++ [now]) = inWindow row times +
      if row.windowStartedAt ≤ now && now < row.windowExpiresAt then 1 else 0 := by
  rw [inWindow, List.countP_append, List.countP_singleton, inWindow]

/-- An accepted call is counted. -/
theorem counts_consumed {last now : Timestamp} {times : List Timestamp}
    {row : Option RateLimitBucket}
    (hlast : last ≤ now) (hw : 0 < w) (hn : n ≠ 0) (hnone : row = none → times = [])
    (hrow : ∀ r ∈ row, CountsWindow n w last times r) (hfree : exhausted now n row = false) :
    CountsWindow n w now (times ++ [now]) (RateLimitBucketRepository.consumed now w row) ∧
      ∀ r ∈ row, SameOrBefore r (RateLimitBucketRepository.consumed now w row) := by
  by_cases hopens : opensWindow now row = true
  · rw [RateLimitBucketRepository.consumed_of_opens hopens]
    have hold : ∀ time ∈ times, time < now := by
      intro time htime
      cases row with
      | none =>
        rw [hnone rfl] at htime
        cases htime
      | some r =>
        have hexpired : r.windowExpiresAt ≤ now := by simpa [opensWindow] using hopens
        exact Nat.lt_of_lt_of_le ((hrow r rfl).recent time htime) hexpired
    refine ⟨⟨le_rfl, rfl, ?_, ?_, Nat.one_le_iff_ne_zero.2 hn⟩, ?_⟩
    · intro time htime
      dsimp only
      rcases List.mem_append.1 htime with htime | htime
      · exact Nat.lt_of_lt_of_le (hold time htime) (Nat.le_add_right now w)
      · rw [List.mem_singleton.1 htime]
        exact Nat.lt_add_of_pos_right hw
    · rw [List.countP_append, List.countP_eq_zero.2, List.countP_singleton, if_pos (by simp)]
      intro time htime
      have := hold time htime
      simpa using this
    · rintro r rfl
      right
      simpa [opensWindow] using hopens
  · obtain ⟨r, rfl, hlt, hconsumed⟩ := RateLimitBucketRepository.consumed_of_not_opens
      w (eq_false_of_ne_true hopens)
    rw [hconsumed]
    have hr := hrow r rfl
    have hstart := hr.started
    refine ⟨⟨hstart.trans hlast, hr.length, ?_, ?_, ?_⟩, ?_⟩
    · intro time htime
      dsimp only
      rcases List.mem_append.1 htime with htime | htime
      · exact hr.recent time htime
      · rw [List.mem_singleton.1 htime]
        exact hlt
    · dsimp only
      rw [List.countP_append, ← hr.count, List.countP_singleton,
        if_pos (decide_eq_true (hstart.trans hlast))]
    · have hcount : r.requestCount < n := by simpa [exhausted, hlt] using hfree
      exact hcount
    · rintro r' ⟨⟩
      exact .inl ⟨rfl, rfl⟩

/-- The windows of a bucket after a sequence of calls: the one of its row, and those that it had. -/
structure WindowsOk (n : ℕ) (w last : Timestamp) (times : List Timestamp)
    (row : Option RateLimitBucket) (past : RateLimitBucket → Prop) : Prop where
  absent : row = none → times = [] ∧ ∀ r, ¬ past r
  counts : ∀ r ∈ row, CountsWindow n w last times r
  bounds : ∀ r, past r → (∀ r' ∈ row, SameOrBefore r r') ∧ inWindow r times ≤ n

theorem WindowsOk.later {last last' : Timestamp} {times : List Timestamp}
    {row : Option RateLimitBucket} {past past' : RateLimitBucket → Prop}
    (h : WindowsOk n w last times row past) (hlast : last ≤ last') (hpast : ∀ r, past' r → past r) :
    WindowsOk n w last' times row past' := by
  refine ⟨fun hrow => ?_, fun r hr => ?_, fun r hr => h.bounds r (hpast r hr)⟩
  · obtain ⟨htimes, hnone⟩ := h.absent hrow
    exact ⟨htimes, fun r hr => hnone r (hpast r hr)⟩
  · have hcounts := h.counts r hr
    exact ⟨hcounts.started.trans hlast, hcounts.length, hcounts.recent, hcounts.count,
      hcounts.bounded⟩

theorem windowsOk_consumed {last now : Timestamp} {times : List Timestamp}
    {row : Option RateLimitBucket} {past : RateLimitBucket → Prop}
    (h : WindowsOk n w last times row past) (hlast : last ≤ now) (hw : 0 < w) (hn : n ≠ 0)
    (hfree : exhausted now n row = false) :
    WindowsOk n w now (times ++ [now]) (some (RateLimitBucketRepository.consumed now w row))
      fun r => past r ∨ r = RateLimitBucketRepository.consumed now w row := by
  obtain ⟨hcounts, hbefore⟩ :=
    counts_consumed hlast hw hn (fun hnone => (h.absent hnone).1) h.counts hfree
  refine ⟨by rintro ⟨⟩, ?_, ?_⟩
  · rintro r ⟨⟩
    exact hcounts
  rintro r (hr | rfl)
  · cases row with
    | none => exact ((h.absent rfl).2 r hr).elim
    | some current =>
      obtain ⟨hsame, hle⟩ := h.bounds r hr
      have hr' := (hsame current rfl).trans (hbefore current rfl) (h.counts current rfl).ordered
      refine ⟨?_, ?_⟩
      · rintro r' ⟨⟩
        exact hr'
      · rcases hr' with ⟨hrs, hre⟩ | hre
        · have hcount := inWindow_of_counts hcounts
          rw [inWindow] at hcount ⊢
          rw [hrs, hre]
          exact hcount
        · -- the call is after the end of the window
          rw [inWindow_append, if_neg]
          · exact hle
          · rw [Bool.and_eq_true, decide_eq_true_eq, decide_eq_true_eq]
            rintro ⟨-, hlt⟩
            exact absurd (Nat.lt_of_lt_of_le hlt hre) (Nat.not_lt.2 hcounts.started)
  · refine ⟨?_, inWindow_of_counts hcounts⟩
    rintro r' ⟨⟩
    exact .inl ⟨rfl, rfl⟩

variable (f) in
/-- The row of a bucket after some calls. -/
def rowAfter (scope value : String) (calls : List LimitCall) : Option RateLimitBucket :=
  (afterCalls (PersistentRateLimiter.allowMany f) ∅ calls).get (scope, f scope value)

/-- The row of a bucket after a first part of the calls. -/
def PastRow (f : String → String → Bytea) (scope value : String) (calls : List LimitCall)
    (row : RateLimitBucket) : Prop :=
  ∃ before, before <+: calls ∧ rowAfter f scope value before = some row

theorem pastRow_append {row : RateLimitBucket} (h : PastRow f scope value (calls ++ [call]) row) :
    PastRow f scope value calls row ∨ rowAfter f scope value (calls ++ [call]) = some row := by
  obtain ⟨before, hbefore, hrow⟩ := h
  rcases List.prefix_concat_iff.1 hbefore with rfl | hbefore
  · exact .inr hrow
  · exact .inl ⟨before, hbefore, hrow⟩

/-- The windows of a bucket that is always used with one limit and one window. -/
theorem windowsOk_calls (hdigest : ∀ scope value, (f scope value).length = 32)
    (hf : CollisionFree f inUse) (huse : inUse scope value)
    (hscopes : ∀ call ∈ calls, ∀ r ∈ call.requests, 1 ≤ r.scope.length ∧ r.scope.length ≤ 64)
    (hrequests : ∀ call ∈ calls, ∀ r ∈ call.requests, inUse r.scope r.value)
    (hfixed : ∀ call ∈ calls, ∀ r ∈ call.requests, r.scope = scope → r.value = value →
      r.limit = n ∧ r.window = w)
    (hnow : calls.Pairwise fun a b => a.now ≤ b.now) (last : Timestamp)
    (hlast : ∀ call ∈ calls, call.now ≤ last) :
    WindowsOk n w last (acceptedTimes (PersistentRateLimiter.allowMany f) scope value ∅ calls)
      (rowAfter f scope value calls) (PastRow f scope value calls) := by
  induction calls using List.reverseRecOn generalizing last with
  | nil =>
    refine ⟨fun _ => ⟨rfl, ?_⟩, by rintro _ ⟨⟩, ?_⟩
    · rintro r ⟨before, hbefore, hrow⟩
      rw [List.prefix_nil.1 hbefore] at hrow
      cases hrow
    · rintro r ⟨before, hbefore, hrow⟩
      rw [List.prefix_nil.1 hbefore] at hrow
      cases hrow
  | append_singleton calls call ih =>
    have hmem : ∀ c ∈ calls, c ∈ calls ++ [call] := fun c hc => List.mem_append_left _ hc
    have hcall : call ∈ calls ++ [call] := List.mem_append_right _ (List.mem_singleton_self call)
    rw [List.pairwise_append] at hnow
    have hbefore : ∀ c ∈ calls, c.now ≤ call.now := fun c hc =>
      hnow.2.2 c hc call (List.mem_singleton_self call)
    have h := ih (fun c hc => hscopes c (hmem c hc)) (fun c hc => hrequests c (hmem c hc))
      (fun c hc => hfixed c (hmem c hc)) hnow.1 call.now hbefore
    have hrow : rowAfter f scope value (calls ++ [call]) =
        (PersistentRateLimiter.allowMany f (afterCalls (PersistentRateLimiter.allowMany f) ∅ calls)
          call).2.get (scope, f scope value) := by
      rw [rowAfter, afterCalls_append]
    have hcases := bucket_cases hdigest hf huse (hscopes call hcall) (hrequests call hcall)
      (hfixed call hcall) (afterCalls (PersistentRateLimiter.allowMany f) ∅ calls)
    dsimp only at hcases
    rw [← hrow] at hcases
    rw [acceptedTimes_append]
    rcases hcases with ⟨hcounted, hsame⟩ | ⟨hcounted, hn, hw, hfree, hnext⟩
    · rw [hcounted, if_neg Bool.false_ne_true, List.append_nil, hsame]
      refine h.later (hlast call hcall) fun r hr => ?_
      rcases pastRow_append hr with hr | hr
      · exact hr
      · exact ⟨calls, List.prefix_rfl, hsame.symm.trans hr⟩
    · rw [hcounted, if_pos rfl, hnext]
      refine (windowsOk_consumed h le_rfl hw hn hfree).later (hlast call hcall) fun r hr => ?_
      rcases pastRow_append hr with hr | hr
      · exact .inl hr
      · rw [hnext] at hr
        exact .inr (Option.some.inj hr).symm

end Windows

/-! ## Agreement -/

/-- The scopes and values that a sequence of calls uses. -/
def InUse (calls : List LimitCall) (scope value : String) : Prop :=
  ∃ call ∈ calls, ∃ r ∈ call.requests, r.scope = scope ∧ r.value = value

section Agreement

variable {f g : String → String → Bytea} {calls : List LimitCall}

theorem agrees_calls {inUse : String → String → Prop} {table : RateLimitTable}
    {buckets : RateLimiter.Buckets} (hdigest : ∀ scope value, (f scope value).length = 32)
    (hf : CollisionFree f inUse) (hg : CollisionFree g inUse)
    (hscopes : ∀ call ∈ calls, ∀ r ∈ call.requests, 1 ≤ r.scope.length ∧ r.scope.length ≤ 64)
    (hrequests : ∀ call ∈ calls, ∀ r ∈ call.requests, inUse r.scope r.value)
    (h : Agrees f g inUse table buckets) :
    answers (PersistentRateLimiter.allowMany f) table calls =
        answers (RateLimiter.allowMany g) buckets calls ∧
      Agrees f g inUse (afterCalls (PersistentRateLimiter.allowMany f) table calls)
        (afterCalls (RateLimiter.allowMany g) buckets calls) := by
  induction calls generalizing table buckets with
  | nil => exact ⟨rfl, h⟩
  | cons call calls ih =>
    obtain ⟨hanswer, hafter⟩ := agrees_step hdigest hf hg (hscopes call List.mem_cons_self)
      (hrequests call List.mem_cons_self) h
    obtain ⟨hanswers, hagrees⟩ := ih (fun c hc => hscopes c (List.mem_cons_of_mem _ hc))
      (fun c hc => hrequests c (List.mem_cons_of_mem _ hc)) hafter
    rw [answers, answers, hanswer, hanswers]
    exact ⟨rfl, hagrees⟩

theorem persistent_rejects {table : RateLimitTable} {call : LimitCall}
    (h : (PersistentRateLimiter.allowMany f table call).1 = .ok false) :
    (PersistentRateLimiter.allowMany f table call).2 = table := by
  rw [PersistentRateLimiter.allowMany] at h ⊢
  split_ifs at h ⊢
  cases hencoded : call.requests.mapM (encodeRequest f) with
  | error e => rfl
  | ok encoded =>
    rw [hencoded] at h
    dsimp only at h ⊢
    rw [RateLimitBucketRepository.consumeMany] at h ⊢
    split_ifs at h ⊢
    cases hvalidate : encoded.forM RateLimitBucketRepository.validateRequest with
    | error e => rfl
    | ok _ =>
      rw [hvalidate] at h
      dsimp only at h ⊢
      cases hselect : RateLimitBucketRepository.selectBuckets call.now table encoded with
      | none => rfl
      | some states =>
        rw [hselect] at h
        cases h

theorem memory_rejects {buckets : RateLimiter.Buckets} {call : LimitCall}
    (h : (RateLimiter.allowMany g buckets call).1 = .ok false) :
    (RateLimiter.allowMany g buckets call).2 = buckets := by
  rw [memory_eq] at h ⊢
  split_ifs at h ⊢
  · cases h
  · rfl

/-- The two limiters give the same answers to every sequence of calls; a rejected call changes no
bucket; and the windows of a bucket with one limit hold no more accepted calls than it allows. -/
theorem limiters_agree (hdigest : ∀ scope value, (f scope value).length = 32)
    (hscopes : ∀ call ∈ calls, ∀ r ∈ call.requests, 1 ≤ r.scope.length ∧ r.scope.length ≤ 64)
    (hf : CollisionFree f (InUse calls)) (hg : CollisionFree g (InUse calls))
    (hnow : calls.Pairwise fun a b => a.now ≤ b.now) :
    answers (PersistentRateLimiter.allowMany f) ∅ calls =
        answers (RateLimiter.allowMany g) ∅ calls ∧
    (∀ table call, (PersistentRateLimiter.allowMany f table call).1 = .ok false →
      (PersistentRateLimiter.allowMany f table call).2 = table) ∧
    (∀ buckets call, (RateLimiter.allowMany g buckets call).1 = .ok false →
      (RateLimiter.allowMany g buckets call).2 = buckets) ∧
    ∀ scope value n w, (∀ call ∈ calls, ∀ r ∈ call.requests, r.scope = scope → r.value = value →
      r.limit = n ∧ r.window = w) →
    ∀ before, before <+: calls →
      (∀ row, (afterCalls (PersistentRateLimiter.allowMany f) ∅ before).get (scope, f scope value) =
          some row →
        ((acceptedTimes (PersistentRateLimiter.allowMany f) scope value ∅ calls).countP fun time =>
          row.windowStartedAt ≤ time && time < row.windowExpiresAt) ≤ n) ∧
      ∀ expiresAt count, (afterCalls (RateLimiter.allowMany g) ∅ before).get
        (scope, g scope value) =
          some (expiresAt, count) →
        ((acceptedTimes (RateLimiter.allowMany g) scope value ∅ calls).countP fun time =>
          expiresAt ≤ time + w && time < expiresAt) ≤ n := by
  have hrequests : ∀ call ∈ calls, ∀ r ∈ call.requests, InUse calls r.scope r.value :=
    fun call hcall r hr => ⟨call, hcall, r, hr, rfl, rfl⟩
  have hempty : Agrees f g (InUse calls) ∅ ∅ := fun _ _ _ => rfl
  have hanswers := (agrees_calls hdigest hf hg hscopes hrequests hempty).1
  have htimes : ∀ scope value, acceptedTimes (RateLimiter.allowMany g) scope value ∅ calls =
      acceptedTimes (PersistentRateLimiter.allowMany f) scope value ∅ calls := by
    intro scope value
    rw [acceptedTimes, acceptedTimes, hanswers]
  refine ⟨hanswers, fun _ _ => persistent_rejects, fun _ _ => memory_rejects, ?_⟩
  intro scope value n w hfixed before hbefore
  rw [htimes]
  by_cases huse : InUse calls scope value
  · have hlast : ∀ call ∈ calls, call.now ≤ (calls.map (·.now)).sum := fun call hcall =>
      List.single_le_sum (fun _ _ => Nat.zero_le _) _ (List.mem_map_of_mem hcall)
    have hwindows := windowsOk_calls hdigest hf huse hscopes hrequests hfixed hnow _ hlast
    have hpast : ∀ row, rowAfter f scope value before = some row →
        inWindow row (acceptedTimes (PersistentRateLimiter.allowMany f) scope value ∅ calls) ≤ n :=
      fun row hrow => (hwindows.bounds row ⟨before, hbefore, hrow⟩).2
    refine ⟨hpast, fun expiresAt count hentry => ?_⟩
    -- the entry is the row's view, and the row's window is as long as all windows of the bucket
    have hinitial : ∀ call ∈ before, call ∈ calls := fun call hcall => hbefore.subset hcall
    have hagrees := (agrees_calls hdigest hf hg (fun c hc => hscopes c (hinitial c hc))
      (fun c hc => hrequests c (hinitial c hc)) hempty).2 scope value huse
    rw [hentry, Option.map_eq_some_iff] at hagrees
    obtain ⟨row, hrow, hview⟩ := hagrees
    obtain ⟨hexpires, -⟩ := Prod.mk.inj hview
    have hnow' := hnow.sublist hbefore.sublist
    have hcounts := (windowsOk_calls hdigest hf huse (fun c hc => hscopes c (hinitial c hc))
      (fun c hc => hrequests c (hinitial c hc)) (fun c hc => hfixed c (hinitial c hc)) hnow' _
      (fun c hc => hlast c (hinitial c hc))).counts row hrow
    have hbound := hpast row hrow
    rw [inWindow, hcounts.length] at hbound
    rw [← hexpires, hcounts.length]
    simpa using hbound
  · have hnone : acceptedTimes (PersistentRateLimiter.allowMany f) scope value ∅ calls = [] := by
      apply List.eq_nil_iff_forall_not_mem.2
      intro time htime
      obtain ⟨call, hcall, huses, -⟩ := acceptedTimes_mem htime
      obtain ⟨r, hr, hmatch⟩ := List.any_eq_true.1 huses
      rw [Bool.and_eq_true, decide_eq_true_eq, decide_eq_true_eq] at hmatch
      exact huse ⟨call, hcall, r, hr, hmatch⟩
    rw [hnone]
    exact ⟨fun _ _ => Nat.zero_le _, fun _ _ _ => Nat.zero_le _⟩

/-- A call with two buckets, then a rejected one, then a new window. -/
theorem limiters_agree_email :
    let f : String → String → Bytea := fun _ value => List.replicate 32 (UInt8.ofNat value.length)
    let g : String → String → Bytea :=
      fun _ value => List.replicate 32 (UInt8.ofNat (value.length + 1))
    let calls : List LimitCall :=
      [⟨[⟨"email", "a", 1, 10⟩, ⟨"network", "bb", 2, 10⟩], 5⟩, ⟨[⟨"email", "a", 1, 10⟩], 14⟩,
        ⟨[⟨"email", "a", 1, 10⟩], 15⟩]
    answers (PersistentRateLimiter.allowMany f) ∅ calls = [.ok true, .ok false, .ok true] ∧
      answers (RateLimiter.allowMany g) ∅ calls = [.ok true, .ok false, .ok true] := by
  intro f g calls
  have hvalues : ∀ scope value, InUse calls scope value →
      scope = "email" ∧ value = "a" ∨ scope = "network" ∧ value = "bb" := by
    rintro scope value ⟨call, hcall, r, hr, rfl, rfl⟩
    revert r
    revert call
    decide
  have hcollision : ∀ fingerprint, CollisionFree fingerprint (InUse calls) := by
    intro fingerprint scope value value' huse huse' _
    rcases hvalues scope value huse with ⟨rfl, rfl⟩ | ⟨rfl, rfl⟩
    · rcases hvalues _ value' huse' with ⟨-, rfl⟩ | ⟨hne, -⟩
      · rfl
      · exact absurd hne (by decide)
    · rcases hvalues _ value' huse' with ⟨hne, -⟩ | ⟨-, rfl⟩
      · exact absurd hne (by decide)
      · rfl
  have hpersistent : answers (PersistentRateLimiter.allowMany f) ∅ calls =
      [.ok true, .ok false, .ok true] := by decide
  refine ⟨hpersistent, ?_⟩
  rw [← hpersistent]
  exact (limiters_agree (fun _ _ => List.length_replicate) (by decide) (hcollision f) (hcollision g)
    (by decide)).1.symm

end Agreement

end SelfRelay.Backend
