import SelfRelay.Backend.RateLimits
import SelfRelay.Lib.Run

/-!
# Rate limits under concurrency

The transactions of `consume_many` under `READ COMMITTED`, statement by statement.  `SELECT … FOR
UPDATE` waits for the lock of a row that exists and locks nothing when there is none; an `INSERT`
waits for a conflicting insert that is not committed and then updates its row.  The decision is made
on what was read, and what is written is absolute: two transactions that both found no row count as
one.  As long as that does not happen, a bucket belongs to one transaction from its first read on
(`TransactionOk`).
-/

open StepSystem

namespace SelfRelay.Backend

/-- What a transaction has still to do. -/
inductive ConsumePhase where
  | selecting (todo : List BucketRequest)
  | writing (todo : List (BucketRequest × Option RateLimitBucket))
  deriving DecidableEq, Repr

/-- A call of `consume_many` in its transaction. -/
structure ConsumeTransaction where
  requests : List BucketRequest
  /-- `states`: what the selects returned. -/
  reads : List (BucketRequest × Option RateLimitBucket)
  phase : ConsumePhase
  /-- The row versions that are not committed. -/
  writes : BucketKey → Option RateLimitBucket

/-- A select of the bucket returned no row. -/
def ConsumeTransaction.foundMissing (tx : ConsumeTransaction) (bucket : BucketKey) : Bool :=
  tx.reads.any fun read => read.1.bucket = bucket && read.2.isNone

structure RateLimitDatabase where
  /-- The committed rows. -/
  table : BucketKey → Option RateLimitBucket
  /-- The transactions that hold the locks of rows, inserted ones included. -/
  locks : BucketKey → Option ℕ
  transactions : Dict ℕ ConsumeTransaction
  /-- The requests of the calls that returned `True`. -/
  accepted : List (List BucketRequest)

inductive ConsumeEvent where
  | begin (id : ℕ) (requests : List BucketRequest)
  | select (id : ℕ)
  | write (id : ℕ)
  | commit (id : ℕ)
  /-- The transaction is rolled back: a deadlock, or a lost connection. -/
  | abort (id : ℕ)

namespace RateLimitDatabase

variable (s : RateLimitDatabase)

/-- The row is not locked by another transaction. -/
def free (id : ℕ) (bucket : BucketKey) : Bool := (s.locks bucket).all (· = id)

def lock (id : ℕ) (bucket : BucketKey) : RateLimitDatabase :=
  { s with locks := Function.update s.locks bucket (some id) }

/-- The transaction ends, and its locks with it. -/
def finish (id : ℕ) : RateLimitDatabase :=
  { s with
    locks := fun bucket => if s.locks bucket = some id then none else s.locks bucket
    transactions := s.transactions.del id }

/-- The transaction has read a bucket: it returns `False`, or goes on. -/
def goOn (now : Timestamp) (id : ℕ) (tx : ConsumeTransaction) (request : BucketRequest)
    (todo : List BucketRequest) (row : Option RateLimitBucket) : RateLimitDatabase :=
  if exhausted now request.limit row then s.finish id
  else
    let reads := tx.reads ++ [(request, row)]
    { s with
      transactions := s.transactions.set id
        { tx with
          reads
          phase := if todo.isEmpty then .writing reads else .selecting todo } }

/-- The transaction has written a row, or found none to update. -/
def wrote (id : ℕ) (tx : ConsumeTransaction) (todo : List (BucketRequest × Option RateLimitBucket))
    (writes : BucketKey → Option RateLimitBucket) : RateLimitDatabase :=
  { s with transactions := s.transactions.set id { tx with phase := .writing todo, writes } }

/-- One statement.  A statement that has to wait is not enabled. -/
def step (now : Timestamp) (s : RateLimitDatabase) : ConsumeEvent → Option RateLimitDatabase
  | .begin id requests =>
    if (s.transactions.get id).isSome then none
    else if requests.isEmpty then some s
    else
      match requests.forM RateLimitBucketRepository.validateRequest with
      | .error _ => some s
      | .ok () =>
        some { s with
          transactions := s.transactions.set id ⟨requests, [], .selecting requests, fun _ => none⟩ }
  | .select id =>
    match s.transactions.get id with
    | none => none
    | some tx =>
      match tx.phase with
      | .selecting (request :: todo) =>
        match s.table request.bucket with
        | none => some (s.goOn now id tx request todo none)
        | some row =>
          if s.free id request.bucket then
            some ((s.lock id request.bucket).goOn now id tx request todo (some row))
          else none
      | _ => none
  | .write id =>
    match s.transactions.get id with
    | none => none
    | some tx =>
      match tx.phase with
      | .writing ((request, read) :: todo) =>
        if opensWindow now read then
          -- the upsert, which does not look at the row that it replaces
          if s.free id request.bucket then
            some ((s.lock id request.bucket).wrote id tx todo
              (Function.update tx.writes request.bucket
                (some ⟨now, now + request.window, 1⟩)))
          else none
        else
          match (tx.writes request.bucket).or (s.table request.bucket) with
          | none => some (s.wrote id tx todo tx.writes)
          | some row =>
            if s.free id request.bucket then
              some ((s.lock id request.bucket).wrote id tx todo
                (Function.update tx.writes request.bucket
                  (some { row with requestCount := (read.map (·.requestCount)).getD 0 + 1 })))
            else none
      | _ => none
  | .commit id =>
    match s.transactions.get id with
    | none => none
    | some tx =>
      match tx.phase with
      | .writing [] =>
        some { s.finish id with
          table := fun bucket => (tx.writes bucket).or (s.table bucket)
          accepted := s.accepted ++ [tx.requests] }
      | _ => none
  | .abort id => if (s.transactions.get id).isSome then some (s.finish id) else none

/-- A select finds no row, and neither did another transaction that is still open. -/
def races : ConsumeEvent → Bool
  | .select id =>
    (s.transactions.get id).any fun tx =>
      match tx.phase with
      | .selecting (request :: _) =>
        (s.table request.bucket).isNone && s.transactions.entries.any fun other =>
          other.1 ≠ id && other.2.foundMissing request.bucket
      | _ => false
  | _ => false

/-- How many of the accepted calls consumed a bucket. -/
def acceptedFor (bucket : BucketKey) : ℕ :=
  s.accepted.countP fun requests => requests.any (·.bucket = bucket)

end RateLimitDatabase

/-- What a row counts at `now`. -/
def counted (now : Timestamp) (row : Option RateLimitBucket) : ℕ :=
  row.elim 0 fun row => if now < row.windowExpiresAt then row.requestCount else 0

/-- The event starts a call that uses the limits of its buckets. -/
def ConsumeEvent.UsesLimits (limit : BucketKey → ℕ) : ConsumeEvent → Prop
  | begin _ requests => ∀ r ∈ requests, r.limit = limit r.bucket
  | _ => True

/-! ## The invariant -/

section Invariant

variable (now : Timestamp) (limit : BucketKey → ℕ) (s : RateLimitDatabase)

/-- What a transaction has read is still so, and nobody else has read it. -/
structure ReadOk (id : ℕ) (read : BucketRequest × Option RateLimitBucket) : Prop where
  current : read.2 = s.table read.1.bucket
  capacity : exhausted now (limit read.1.bucket) read.2 = false
  locked : read.2 ≠ none → s.locks read.1.bucket = some id
  alone : ∀ id' tx', id' ≠ id → s.transactions.get id' = some tx' →
    ∀ read' ∈ tx'.reads, read'.1.bucket ≠ read.1.bucket

/-- The rows that a transaction has written, after some of its reads. -/
def WritesOk (tx : ConsumeTransaction) (done : List (BucketRequest × Option RateLimitBucket)) :
    Prop :=
  ∀ bucket, if done.any (·.1.bucket = bucket) then
      ∃ window, 0 < window ∧
        tx.writes bucket = some (RateLimitBucketRepository.consumed now window (s.table bucket))
    else tx.writes bucket = none

/-- A transaction in its phase. -/
def PhaseOk (tx : ConsumeTransaction) : ConsumePhase → Prop
  | .selecting todo => tx.requests = tx.reads.map Prod.fst ++ todo ∧ WritesOk now s tx []
  | .writing todo => tx.requests = tx.reads.map Prod.fst ∧
      ∃ done, tx.reads = done ++ todo ∧ WritesOk now s tx done

structure TransactionOk (id : ℕ) (tx : ConsumeTransaction) : Prop where
  requests : ∀ r ∈ tx.requests, r.limit = limit r.bucket ∧ 0 < r.limit ∧ 0 < r.window
  reads : ∀ read ∈ tx.reads, ReadOk now limit s id read
  phase : PhaseOk now s tx tx.phase

/-- The invariant of the database, from the rows that it started with. -/
structure DatabaseOk (start : BucketKey → Option RateLimitBucket) : Prop where
  transactions : ∀ id tx, s.transactions.get id = some tx → TransactionOk now limit s id tx
  count : ∀ bucket, counted now (s.table bucket) = counted now (start bucket) + s.acceptedFor bucket
  bound : ∀ bucket, s.acceptedFor bucket = 0 ∨ counted now (s.table bucket) ≤ limit bucket

end Invariant

/-! ## Rows -/

section Rows

variable {now window : Timestamp} {row : Option RateLimitBucket} {n : ℕ}

theorem counted_consumed (hwindow : 0 < window) :
    counted now (some (RateLimitBucketRepository.consumed now window row)) =
      counted now row + 1 := by
  by_cases hopens : opensWindow now row = true
  · have hzero : counted now row = 0 := by
      cases row with
      | none => rfl
      | some row => exact if_neg (by simpa [opensWindow] using hopens)
    rw [RateLimitBucketRepository.consumed_of_opens hopens, hzero]
    exact if_pos (Nat.lt_add_of_pos_right hwindow)
  · obtain ⟨row', rfl, hlt, hconsumed⟩ := RateLimitBucketRepository.consumed_of_not_opens
      window (eq_false_of_ne_true hopens)
    rw [hconsumed, counted, counted, Option.elim_some, Option.elim_some, if_pos hlt, if_pos hlt]

theorem counted_lt (hfree : exhausted now n row = false) (hn : 0 < n) : counted now row < n := by
  cases row with
  | none => exact hn
  | some row =>
    rw [counted, Option.elim_some]
    split_ifs with hlt
    · simpa [exhausted, hlt] using hfree
    · exact hn

end Rows

/-! ## Steps -/

namespace RateLimitDatabase

variable {now : Timestamp} {limit : BucketKey → ℕ} {s s' : RateLimitDatabase} {id : ℕ}
  {tx : ConsumeTransaction} {start : BucketKey → Option RateLimitBucket}

theorem free_eq_true {bucket : BucketKey} (h : s.free id bucket = true) {id' : ℕ}
    (hlock : s.locks bucket = some id') : id' = id := by
  rw [free, hlock] at h
  exact of_decide_eq_true h

/-- A transaction keeps its invariant when its rows, its locks and its solitude are kept. -/
theorem transactionOk_frame (h : TransactionOk now limit s id tx)
    (htable : ∀ read ∈ tx.reads, s'.table read.1.bucket = s.table read.1.bucket)
    (hlocks : ∀ bucket, s.locks bucket = some id → s'.locks bucket = some id)
    (halone : ∀ read ∈ tx.reads, ∀ id' tx', id' ≠ id → s'.transactions.get id' = some tx' →
      ∀ read' ∈ tx'.reads, read'.1.bucket ≠ read.1.bucket) :
    TransactionOk now limit s' id tx := by
  have hwrites : ∀ done, (∀ read ∈ done, read ∈ tx.reads) → WritesOk now s tx done →
      WritesOk now s' tx done := by
    intro done hdone hwrites bucket
    have hbucket := hwrites bucket
    split_ifs at hbucket ⊢ with hany
    · obtain ⟨read, hread, heq⟩ := List.any_eq_true.1 hany
      have hsame := htable read (hdone read hread)
      rw [of_decide_eq_true heq] at hsame
      rw [hsame]
      exact hbucket
    · exact hbucket
  refine ⟨h.requests, fun read hread => ?_, ?_⟩
  · obtain ⟨hcurrent, hcapacity, hlocked, -⟩ := h.reads read hread
    refine ⟨?_, hcapacity, fun hrow => hlocks _ (hlocked hrow), halone read hread⟩
    rw [htable read hread]
    exact hcurrent
  · have hphase := h.phase
    cases hp : tx.phase with
    | selecting todo =>
      rw [hp] at hphase
      exact ⟨hphase.1, hwrites [] (by rintro _ ⟨⟩) hphase.2⟩
    | writing todo =>
      rw [hp] at hphase
      obtain ⟨hrequests, done, hreads, hdone⟩ := hphase
      refine ⟨hrequests, done, hreads, hwrites done (fun read hread => ?_) hdone⟩
      rw [hreads]
      exact List.mem_append_left _ hread

/-- The bucket that a transaction reads next was read by no other. -/
theorem unread (h : DatabaseOk now limit s start) {bucket : BucketKey}
    (hmissing : s.table bucket = none → ∀ id' tx', id' ≠ id → s.transactions.get id' = some tx' →
      tx'.foundMissing bucket = false)
    (hfree : s.table bucket ≠ none → s.free id bucket = true) {id' : ℕ} {tx' : ConsumeTransaction}
    (hne : id' ≠ id) (hget : s.transactions.get id' = some tx') :
    ∀ read' ∈ tx'.reads, read'.1.bucket ≠ bucket := by
  rintro read' hread' rfl
  obtain ⟨hcurrent, -, hlocked, -⟩ := (h.transactions id' tx' hget).reads read' hread'
  by_cases hrow : s.table read'.1.bucket = none
  · have hnone := hmissing hrow id' tx' hne hget
    rw [ConsumeTransaction.foundMissing, List.any_eq_false] at hnone
    refine hnone read' hread' ?_
    rw [hcurrent, hrow]
    simp
  · exact hne (free_eq_true (hfree hrow) (hlocked (by rwa [hcurrent])))

theorem mem_requests {read : BucketRequest × Option RateLimitBucket}
    (h : TransactionOk now limit s id tx) (hread : read ∈ tx.reads) : read.1 ∈ tx.requests := by
  have hphase := h.phase
  cases hp : tx.phase with
  | selecting todo =>
    rw [hp] at hphase
    rw [hphase.1]
    exact List.mem_append_left _ (List.mem_map_of_mem hread)
  | writing todo =>
    rw [hp] at hphase
    rw [hphase.1]
    exact List.mem_map_of_mem hread

/-- A transaction ends without a trace. -/
theorem databaseOk_finish (h : DatabaseOk now limit s start) (id : ℕ) :
    DatabaseOk now limit (s.finish id) start := by
  refine ⟨fun id' tx' hget => ?_, h.count, h.bound⟩
  have hne : id' ≠ id := by
    rintro rfl
    rw [finish, Dict.get_del] at hget
    cases hget
  rw [finish, Dict.get_del_ne hne] at hget
  refine transactionOk_frame (h.transactions id' tx' hget) (fun _ _ => rfl) ?_ ?_
  · intro bucket hlock
    show (if s.locks bucket = some id then none else s.locks bucket) = some id'
    rw [hlock, if_neg]
    rintro ⟨⟩
    exact hne rfl
  · intro read hread id'' tx'' hne' hget'
    by_cases heq : id'' = id
    · rw [finish, heq, Dict.get_del] at hget'
      cases hget'
    · rw [finish, Dict.get_del_ne heq] at hget'
      exact ((h.transactions id' tx' hget).reads read hread).alone id'' tx'' hne' hget'

/-- A transaction goes on, with a lock that was free; it has read no bucket that another has. -/
theorem databaseOk_set (h : DatabaseOk now limit s start) {tx' : ConsumeTransaction}
    {locks : BucketKey → Option ℕ}
    (hlocks : ∀ bucket id', id' ≠ id → s.locks bucket = some id' → locks bucket = some id')
    (hreads : ∀ read ∈ tx'.reads, ∀ id' other, id' ≠ id → s.transactions.get id' = some other →
      ∀ read' ∈ other.reads, read'.1.bucket ≠ read.1.bucket)
    (hok : TransactionOk now limit
      { s with locks, transactions := s.transactions.set id tx' } id tx') :
    DatabaseOk now limit { s with locks, transactions := s.transactions.set id tx' } start := by
  refine ⟨fun id' other hget => ?_, h.count, h.bound⟩
  by_cases heq : id' = id
  · subst heq
    obtain rfl := Option.some.inj (Dict.get_set.symm.trans hget)
    exact hok
  · rw [Dict.get_set_ne heq] at hget
    refine transactionOk_frame (h.transactions id' other hget) (fun _ _ => rfl)
      (fun bucket hlock => hlocks bucket id' heq hlock) ?_
    intro read hread id'' other' hne hget' read' hread'
    by_cases heq' : id'' = id
    · subst heq'
      obtain rfl := Option.some.inj (Dict.get_set.symm.trans hget')
      exact (hreads read' hread' id' other heq hget read hread).symm
    · rw [Dict.get_set_ne heq'] at hget'
      exact ((h.transactions id' other hget).reads read hread).alone id'' other' hne hget'
        read' hread'

theorem databaseOk_lock (h : DatabaseOk now limit s start) {bucket : BucketKey}
    (hfree : s.free id bucket = true) : DatabaseOk now limit (s.lock id bucket) start := by
  refine ⟨fun id' tx' hget => ?_, h.count, h.bound⟩
  refine transactionOk_frame (h.transactions id' tx' hget) (fun _ _ => rfl) ?_ fun read hread =>
    ((h.transactions id' tx' hget).reads read hread).alone
  intro bucket' hlock
  show Function.update s.locks bucket (some id) bucket' = some id'
  by_cases heq : bucket' = bucket
  · subst heq
    rw [Function.update_self, free_eq_true hfree hlock]
  · rw [Function.update_of_ne heq, hlock]

/-- A transaction has read a bucket that is locked or missing, and that no other has read. -/
theorem databaseOk_goOn (h : DatabaseOk now limit s start) (hget : s.transactions.get id = some tx)
    {request : BucketRequest} {todo : List BucketRequest} {row : Option RateLimitBucket}
    (hphase : tx.phase = .selecting (request :: todo)) (hrow : row = s.table request.bucket)
    (hlocked : row ≠ none → s.locks request.bucket = some id)
    (hunread : ∀ id' tx', id' ≠ id → s.transactions.get id' = some tx' →
      ∀ read' ∈ tx'.reads, read'.1.bucket ≠ request.bucket) :
    DatabaseOk now limit (s.goOn now id tx request todo row) start := by
  rw [goOn]
  by_cases hexhausted : exhausted now request.limit row = true
  · rw [if_pos hexhausted]
    exact databaseOk_finish h _
  rw [if_neg hexhausted]
  have hok := h.transactions id tx hget
  have hp := hok.phase
  rw [hphase] at hp
  obtain ⟨hrequests, hwrites⟩ := hp
  have hother : ∀ read ∈ tx.reads ++ [(request, row)], ∀ id' other, id' ≠ id →
      s.transactions.get id' = some other → ∀ read' ∈ other.reads,
        read'.1.bucket ≠ read.1.bucket := by
    intro read hread id' other hne hget'
    rcases List.mem_append.1 hread with hread | hread
    · exact (hok.reads read hread).alone id' other hne hget'
    · rw [List.mem_singleton.1 hread]
      exact hunread id' other hne hget'
  refine databaseOk_set h (fun _ _ _ hlock => hlock) hother ⟨hok.requests, ?_, ?_⟩
  · intro read hread
    have halone : ∀ next id' other, id' ≠ id → (s.transactions.set id next).get id' = some other →
        ∀ read' ∈ other.reads, read'.1.bucket ≠ read.1.bucket := by
      intro next id' other hne hget'
      rw [Dict.get_set_ne hne] at hget'
      exact hother read hread id' other hne hget'
    rcases List.mem_append.1 hread with hread | hread
    · obtain ⟨hcurrent, hcapacity, hlocked, -⟩ := hok.reads read hread
      exact ⟨hcurrent, hcapacity, hlocked, halone _⟩
    · have hlimit : request.limit = limit request.bucket :=
        (hok.requests request (by rw [hrequests]; simp)).1
      rw [List.mem_singleton.1 hread] at halone ⊢
      refine ⟨hrow, ?_, hlocked, halone _⟩
      rw [← hlimit]
      exact eq_false_of_ne_true hexhausted
  · have hall : tx.requests = (tx.reads ++ [(request, row)]).map Prod.fst ++ todo := by
      rw [hrequests, List.map_append, List.append_assoc]
      rfl
    dsimp only
    cases todo with
    | nil => exact ⟨by rw [hall, List.append_nil], [], rfl, hwrites⟩
    | cons next todo => exact ⟨hall, hwrites⟩

/-- A transaction has written the next of its rows. -/
theorem databaseOk_wrote (h : DatabaseOk now limit s start) (hget : s.transactions.get id = some tx)
    {read : BucketRequest × Option RateLimitBucket}
    {todo : List (BucketRequest × Option RateLimitBucket)}
    {window : Timestamp} (hphase : tx.phase = .writing (read :: todo)) (hwindow : 0 < window) :
    DatabaseOk now limit (s.wrote id tx todo (Function.update tx.writes read.1.bucket
      (some (RateLimitBucketRepository.consumed now window (s.table read.1.bucket))))) start := by
  have hok := h.transactions id tx hget
  have hp := hok.phase
  rw [hphase] at hp
  obtain ⟨hrequests, done, hreads, hwrites⟩ := hp
  refine databaseOk_set h (fun _ _ _ hlock => hlock)
    (fun read hread => (hok.reads read hread).alone) ⟨hok.requests, ?_, ?_⟩
  · intro read hread
    obtain ⟨hcurrent, hcapacity, hlocked, halone⟩ := hok.reads read hread
    refine ⟨hcurrent, hcapacity, hlocked, fun id' other hne hget' => ?_⟩
    rw [Dict.get_set_ne hne] at hget'
    exact halone id' other hne hget'
  · refine ⟨hrequests, done ++ [read], by rw [hreads, List.append_assoc]; rfl, fun bucket => ?_⟩
    have hbucket := hwrites bucket
    by_cases heq : bucket = read.1.bucket
    · subst heq
      rw [if_pos (by simp)]
      exact ⟨window, hwindow, Function.update_self ..⟩
    · have hany : (done ++ [read]).any (fun d => d.1.bucket = bucket) =
          done.any fun d => d.1.bucket = bucket := by
        rw [List.any_append, List.any_cons, List.any_nil, decide_eq_false (Ne.symm heq)]
        simp
      rw [hany]
      dsimp only
      rw [Function.update_of_ne heq]
      exact hbucket

theorem databaseOk_commit (h : DatabaseOk now limit s start)
    (hget : s.transactions.get id = some tx)
    (hphase : tx.phase = .writing []) :
    DatabaseOk now limit
      { s.finish id with
        table := fun bucket => (tx.writes bucket).or (s.table bucket)
        accepted := s.accepted ++ [tx.requests] } start := by
  have hok := h.transactions id tx hget
  have hp := hok.phase
  rw [hphase] at hp
  obtain ⟨hrequests, done, hreads, hwrites⟩ := hp
  rw [List.append_nil] at hreads
  subst hreads
  have hany : ∀ bucket, (tx.requests.any fun r => r.bucket = bucket) =
      tx.reads.any fun read => read.1.bucket = bucket := by
    intro bucket
    rw [hrequests, List.any_map]
    rfl
  have haccepted : ∀ bucket, acceptedFor { s.finish id with
        table := fun bucket => (tx.writes bucket).or (s.table bucket)
        accepted := s.accepted ++ [tx.requests] } bucket =
      s.acceptedFor bucket + if tx.reads.any fun read => read.1.bucket = bucket then 1 else 0 := by
    intro bucket
    rw [acceptedFor, List.countP_append, List.countP_singleton, hany]
    rfl
  refine ⟨fun id' tx' hget' => ?_, fun bucket => ?_, fun bucket => ?_⟩
  · -- the rows that were written belonged to this transaction alone
    obtain ⟨hothers, -, -⟩ := databaseOk_finish h id
    refine transactionOk_frame (hothers id' tx' hget') ?_ (fun _ hlock => hlock) fun read hread =>
      ((hothers id' tx' hget').reads read hread).alone
    intro read' hread'
    have hne : id' ≠ id := by
      rintro rfl
      rw [finish, Dict.get_del] at hget'
      cases hget'
    rw [finish, Dict.get_del_ne hne] at hget'
    have hbucket := hwrites read'.1.bucket
    rw [if_neg] at hbucket
    · show (tx.writes read'.1.bucket).or (s.table read'.1.bucket) = s.table read'.1.bucket
      rw [hbucket, Option.none_or]
    · intro hread
      obtain ⟨read, hread, heq⟩ := List.any_eq_true.1 hread
      exact (hok.reads read hread).alone id' tx' hne hget' read' hread' (of_decide_eq_true heq).symm
  · have hcount := h.count bucket
    have hbucket := hwrites bucket
    rw [haccepted]
    dsimp only
    split_ifs at hbucket ⊢
    · obtain ⟨window, hwindow, hwritten⟩ := hbucket
      rw [hwritten, Option.some_or, counted_consumed hwindow, hcount]
      omega
    · rw [hbucket, Option.none_or, hcount]
      omega
  · have hbucket := hwrites bucket
    rw [haccepted]
    dsimp only
    split_ifs at hbucket ⊢ with hconsumed
    · right
      obtain ⟨read, hread, heq⟩ := List.any_eq_true.1 hconsumed
      obtain rfl := of_decide_eq_true heq
      obtain ⟨window, hwindow, hwritten⟩ := hbucket
      have hreadOk := hok.reads read hread
      obtain ⟨hlimit, hpos, -⟩ := hok.requests read.1 (mem_requests hok hread)
      rw [hwritten, Option.some_or, counted_consumed hwindow]
      have hcapacity := hreadOk.capacity
      rw [hreadOk.current] at hcapacity
      exact counted_lt hcapacity (hlimit ▸ hpos)
    · rw [hbucket, Option.none_or]
      exact h.bound bucket

theorem validate_ok {requests : List BucketRequest}
    (h : requests.forM RateLimitBucketRepository.validateRequest = .ok ()) :
    ∀ r ∈ requests, 0 < r.limit ∧ 0 < r.window := by
  induction requests with
  | nil => rintro _ ⟨⟩
  | cons request requests ih =>
    rw [List.forM] at h
    cases hfirst : RateLimitBucketRepository.validateRequest request with
    | error e =>
      rw [hfirst] at h
      cases h
    | ok _ =>
      rw [hfirst] at h
      intro r hr
      rcases List.mem_cons.1 hr with rfl | hr
      · rw [RateLimitBucketRepository.validateRequest] at hfirst
        split_ifs at hfirst with _ _ hpositive
        simp only [Bool.or_eq_true, decide_eq_true_eq, not_or] at hpositive
        exact ⟨Nat.pos_of_ne_zero hpositive.1, Nat.pos_of_ne_zero hpositive.2⟩
      · exact ih h r hr

theorem databaseOk_begin (h : DatabaseOk now limit s start) {requests : List BucketRequest}
    (hlimits : ∀ r ∈ requests, r.limit = limit r.bucket)
    (hvalid : requests.forM RateLimitBucketRepository.validateRequest = .ok ()) :
    DatabaseOk now limit { s with
      transactions := s.transactions.set id ⟨requests, [], .selecting requests, fun _ => none⟩ }
      start := by
  refine databaseOk_set h (fun _ _ _ hlock => hlock) (by rintro _ ⟨⟩) ⟨?_, by rintro _ ⟨⟩, ?_⟩
  · intro r hr
    exact ⟨hlimits r hr, validate_ok hvalid r hr⟩
  · exact ⟨rfl, fun bucket => rfl⟩

/-- A select that does not race reads a bucket that no other transaction has read. -/
theorem databaseOk_select (h : DatabaseOk now limit s start) (hraces : s.races (.select id) = false)
    (hstep : s.step now (.select id) = some s') : DatabaseOk now limit s' start := by
  rw [step] at hstep
  rw [races] at hraces
  cases hget : s.transactions.get id with
  | none =>
    rw [hget] at hstep
    cases hstep
  | some tx =>
    rw [hget] at hstep hraces
    rw [Option.any_some] at hraces
    dsimp only at hstep
    split at hstep
    case h_2 => cases hstep
    case h_1 request todo hphase =>
      rw [hphase] at hraces
      dsimp only at hraces
      cases hrow : s.table request.bucket with
      | none =>
        rw [hrow] at hstep hraces
        obtain rfl := Option.some.inj hstep
        have hmissing : ∀ id' tx', id' ≠ id → s.transactions.get id' = some tx' →
            tx'.foundMissing request.bucket = false := by
          intro id' tx' hne hget'
          rw [Option.isNone_none, Bool.true_and, List.any_eq_false] at hraces
          have hother := hraces ⟨id', tx'⟩ (Dict.mem_entries.2 hget')
          simpa [hne] using hother
        exact databaseOk_goOn h hget hphase hrow.symm (fun hne => (hne rfl).elim)
          fun id' tx' => unread h (fun _ => hmissing) (fun hne => (hne hrow).elim)
      | some row =>
        rw [hrow] at hstep
        dsimp only at hstep
        split_ifs at hstep with hfree
        obtain rfl := Option.some.inj hstep
        refine databaseOk_goOn (databaseOk_lock h hfree) hget hphase hrow.symm
          (fun _ => Function.update_self ..) fun id' tx' => unread h ?_ (fun _ => hfree)
        intro hnone
        rw [hrow] at hnone
        cases hnone

theorem databaseOk_write (h : DatabaseOk now limit s start)
    (hstep : s.step now (.write id) = some s') : DatabaseOk now limit s' start := by
  rw [step] at hstep
  cases hget : s.transactions.get id with
  | none =>
    rw [hget] at hstep
    cases hstep
  | some tx =>
    rw [hget] at hstep
    dsimp only at hstep
    split at hstep
    case h_2 => cases hstep
    case h_1 request read todo hphase =>
      have hok := h.transactions id tx hget
      have hp := hok.phase
      rw [hphase] at hp
      obtain ⟨-, done, hreads, hwrites⟩ := hp
      have hmem : (request, read) ∈ tx.reads := by
        rw [hreads]
        simp
      have hcurrent : read = s.table request.bucket := (hok.reads _ hmem).current
      have hwindow := (hok.requests _ (mem_requests hok hmem)).2.2
      have hwrote : s.free id request.bucket = true → ∀ row : RateLimitBucket,
          row = RateLimitBucketRepository.consumed now request.window (s.table request.bucket) →
          DatabaseOk now limit ((s.lock id request.bucket).wrote id tx todo
            (Function.update tx.writes request.bucket (some row))) start := by
        rintro hfree row rfl
        exact databaseOk_wrote (databaseOk_lock h hfree) hget hphase hwindow
      by_cases hopens : opensWindow now read = true
      · rw [if_pos hopens] at hstep
        split_ifs at hstep with hfree
        obtain rfl := Option.some.inj hstep
        apply hwrote hfree
        rw [← hcurrent, RateLimitBucketRepository.consumed_of_opens hopens]
      · rw [if_neg hopens] at hstep
        obtain ⟨row, hrow, -, hconsumed⟩ := RateLimitBucketRepository.consumed_of_not_opens
          request.window (eq_false_of_ne_true hopens)
        -- the row is there, and an earlier write of this transaction changed only its count
        have hstored : ∃ row', (tx.writes request.bucket).or (s.table request.bucket) = some row' ∧
            { row' with requestCount := row.requestCount + 1 } =
              RateLimitBucketRepository.consumed now request.window (s.table request.bucket) := by
          have hbucket := hwrites request.bucket
          rw [← hcurrent] at hbucket ⊢
          rw [hconsumed]
          split_ifs at hbucket
          · obtain ⟨window, -, hwritten⟩ := hbucket
            obtain ⟨row', hrow', -, hwindow'⟩ := RateLimitBucketRepository.consumed_of_not_opens
              window (eq_false_of_ne_true hopens)
            obtain rfl := Option.some.inj (hrow.symm.trans hrow')
            rw [hwritten, hwindow', Option.some_or]
            exact ⟨_, rfl, rfl⟩
          · rw [hbucket, Option.none_or, hrow]
            exact ⟨_, rfl, rfl⟩
        obtain ⟨row', hrow', heq⟩ := hstored
        rw [hrow', hrow] at hstep
        dsimp only at hstep
        split_ifs at hstep with hfree
        obtain rfl := Option.some.inj hstep
        exact hwrote hfree _ heq

theorem databaseOk_step {event : ConsumeEvent} (h : DatabaseOk now limit s start)
    (hlimits : event.UsesLimits limit) (hraces : s.races event = false)
    (hstep : s.step now event = some s') : DatabaseOk now limit s' start := by
  cases event with
  | begin id requests =>
    simp only [step] at hstep
    split_ifs at hstep
    · cases hstep
      exact h
    · split at hstep
      · cases hstep
        exact h
      case h_2 hvalid =>
        cases hstep
        exact databaseOk_begin h hlimits hvalid
  | select id => exact databaseOk_select h hraces hstep
  | write id => exact databaseOk_write h hstep
  | commit id =>
    rw [step] at hstep
    cases hget : s.transactions.get id with
    | none =>
      rw [hget] at hstep
      cases hstep
    | some tx =>
      rw [hget] at hstep
      dsimp only at hstep
      split at hstep
      case h_1 hphase =>
        cases hstep
        exact databaseOk_commit h hget hphase
      case h_2 => cases hstep
  | abort id =>
    simp only [step, Option.ite_none_right_eq_some, Option.some.injEq] at hstep
    obtain ⟨-, rfl⟩ := hstep
    exact databaseOk_finish h _

/-! ## Runs -/

/-- A database without transactions. -/
def opened (table : BucketKey → Option RateLimitBucket) : RateLimitDatabase :=
  ⟨table, fun _ => none, ∅, []⟩

/-- In every run in which no two open transactions find the same row missing, the accepted calls of
a bucket are within its limit, and its row counts them. -/
theorem rate_limit_holds {events : List ConsumeEvent}
    (hrun : Run (fun a event b => Step (step now) a event b ∧ event.UsesLimits limit ∧
      a.races event = false) (opened start) events s) (bucket : BucketKey) :
    s.acceptedFor bucket ≤ limit bucket ∧
      counted now (s.table bucket) = counted now (start bucket) + s.acceptedFor bucket := by
  have h : DatabaseOk now limit s start := by
    refine hrun.invariant (I := fun s => DatabaseOk now limit s start) ?_ ?_
    · exact ⟨by rintro _ _ ⟨⟩, fun _ => rfl, fun _ => .inl rfl⟩
    · rintro s event t hs ⟨hstep, hlimits, hraces⟩
      exact databaseOk_step hs hlimits hraces hstep
  have hcount := h.count bucket
  refine ⟨?_, hcount⟩
  rcases h.bound bucket with hnone | hbound
  · rw [hnone]
    exact Nat.zero_le _
  · omega

/-- A request for one bucket that allows one call a minute. -/
def emailRequest : BucketRequest := ⟨("email", List.replicate 32 7), 1, 60000000⟩

/-- The second call starts before the first commits, but reads after it, and is rejected. -/
theorem rate_limit_holds_twice :
    let events : List ConsumeEvent := [.begin 0 [emailRequest], .begin 1 [emailRequest], .select 0,
      .write 0, .commit 0, .select 1]
    let s := (exec (step 100) (opened fun _ => none) events).getD (opened fun _ => none)
    s.acceptedFor emailRequest.bucket = 1 ∧ s.acceptedFor emailRequest.bucket ≤ 1 ∧
      counted 100 (s.table emailRequest.bucket) = 1 := by
  intro events s
  have hlimits : ∀ r ∈ [emailRequest], r.limit = 1 := by decide
  have hrun : Run (fun a event b => Step (step 100) a event b ∧ event.UsesLimits (fun _ => 1) ∧
      a.races event = false) (opened fun _ => none) events s :=
    .cons ⟨rfl, hlimits, rfl⟩ (.cons ⟨rfl, hlimits, rfl⟩ (.cons ⟨rfl, trivial, by decide⟩
      (.cons ⟨rfl, trivial, rfl⟩ (.cons ⟨rfl, trivial, rfl⟩
        (.cons ⟨rfl, trivial, by decide⟩ (.nil _))))))
  obtain ⟨hle, hcount⟩ := rate_limit_holds hrun emailRequest.bucket
  have haccepted : s.acceptedFor emailRequest.bucket = 1 := by decide
  refine ⟨haccepted, hle, ?_⟩
  rw [hcount, haccepted]
  rfl

/-- Two first calls of a window are both accepted, where the limit is one, and count as one. -/
theorem rate_limit_lost : ¬ ∀ (events : List ConsumeEvent) (s : RateLimitDatabase),
    Run (fun a event b => Step (step 100) a event b ∧ event.UsesLimits fun _ => 1)
      (opened fun _ => none) events s → s.acceptedFor emailRequest.bucket ≤ 1 ∧
        counted 100 (s.table emailRequest.bucket) = s.acceptedFor emailRequest.bucket := by
  intro hclaim
  let events : List ConsumeEvent := [.begin 0 [emailRequest], .begin 1 [emailRequest], .select 0,
    .select 1, .write 0, .commit 0, .write 1, .commit 1]
  let s := (exec (step 100) (opened fun _ => none) events).getD (opened fun _ => none)
  have hlimits : ∀ r ∈ [emailRequest], r.limit = 1 := by decide
  have hrun : Run (fun a event b => Step (step 100) a event b ∧ event.UsesLimits fun _ => 1)
      (opened fun _ => none) events s :=
    .cons ⟨rfl, hlimits⟩ (.cons ⟨rfl, hlimits⟩ (.cons ⟨rfl, trivial⟩ (.cons ⟨rfl, trivial⟩
      (.cons ⟨rfl, trivial⟩ (.cons ⟨rfl, trivial⟩ (.cons ⟨rfl, trivial⟩
        (.cons ⟨rfl, trivial⟩ (.nil _))))))))
  have haccepted : s.acceptedFor emailRequest.bucket = 2 := by decide
  have hle := (hclaim events s hrun).1
  rw [haccepted] at hle
  exact absurd hle (by decide)

end RateLimitDatabase

end SelfRelay.Backend
