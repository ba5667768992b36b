import Mathlib.Algebra.Group.Int.Defs
import Mathlib.Order.Nat
import Mathlib.Tactic.SplitIfs
import SelfRelay.Backend.Schema

/-!
# The limit on request bodies

`RequestBodyLimitMiddleware` buffers a chunked body before it calls the application.  Its loop
leaves in one way for the last chunk and for a disconnect, so that a body that was cut off is
replayed as a whole one; apart from that the limit holds and the application reads what was sent
(`bodyLimit_iff`).
-/

namespace SelfRelay.Backend

/-! ## The middleware -/

/-- A message of the server; its `body` and `more_body` may be absent. -/
inductive AsgiMessage where
  | request (body : Option Bytea) (moreBody : Option Bool)
  /-- `http.disconnect`, or any other type. -/
  | disconnect
  deriving DecidableEq, Repr

/-- What the middleware reads of a scope. -/
structure AsgiScope where
  type : String
  contentLength : Option String
  transferEncoding : Option String
  deriving DecidableEq, Repr

/-- `sys.maxsize` -/
def maxsize : ℤ := 2 ^ 63 - 1

/-- `_declared_body_length`; `int` is `none` where it raises a `ValueError`. -/
def declaredBodyLength (int : String → Option ℤ) (contentLength : Option String) : Option ℤ :=
  contentLength.map fun value =>
    match int value with
    | none => maxsize
    | some declared => if declared ≥ 0 then declared else maxsize

/-- The loop of `_buffer_body` on the messages that arrived: `none` while it awaits another one, and
`some none` when the body is over the limit. -/
def bufferBody (maxBodyBytes : ℕ) : List AsgiMessage → List Bytea → ℕ → Option (Option Bytea)
  | [], _, _ => none
  | .disconnect :: _, chunks, _ => some (some chunks.flatten)
  | .request body moreBody :: messages, chunks, consumed =>
    let chunk := body.getD []
    if chunk ≠ [] then
      if consumed + chunk.length > maxBodyBytes then some none
      else if moreBody.getD false then
        bufferBody maxBodyBytes messages (chunks ++ [chunk]) (consumed + chunk.length)
      else some (some (chunks ++ [chunk]).flatten)
    else if moreBody.getD false then bufferBody maxBodyBytes messages chunks consumed
    else some (some chunks.flatten)

/-- The messages of the first calls of the channel that `_replay` returns. -/
def replay (body : Bytea) : ℕ → List AsgiMessage
  | 0 => []
  | calls + 1 => .request (some body) (some false) :: List.replicate calls .disconnect

/-- What the middleware did with the messages that arrived. -/
inductive MiddlewareResult where
  /-- The application got the channel of the server. -/
  | forwarded
  /-- A response with status 413. -/
  | tooLarge
  | awaiting
  /-- The application got another channel. -/
  | application (receive : ℕ → List AsgiMessage)

/-- `__call__` -/
def requestBodyLimit (int : String → Option ℤ) (maxBodyBytes : ℕ) (scope : AsgiScope)
    (messages : List AsgiMessage) : MiddlewareResult :=
  if scope.type ≠ "http" then .forwarded
  else
    match declaredBodyLength int scope.contentLength with
    | some declared => if declared > maxBodyBytes then .tooLarge else .forwarded
    | none =>
      if scope.transferEncoding = none then .forwarded
      else
        match bufferBody maxBodyBytes messages [] 0 with
        | none => .awaiting
        | some none => .tooLarge
        | some (some body) => .application (replay body)

/-! ## Bodies -/

/-- How a body ended. -/
inductive BodyEnd where
  | final
  | disconnected
  | pending
  deriving DecidableEq, Repr

/-- The body that the messages carry, and how it ended. -/
def transmitted : List AsgiMessage → Bytea × BodyEnd
  | [] => ([], .pending)
  | .disconnect :: _ => ([], .disconnected)
  | .request body moreBody :: messages =>
    if moreBody.getD false then
      ((body.getD []) ++ (transmitted messages).1, (transmitted messages).2)
    else (body.getD [], .final)

/-- The application is called with a complete body within the limit only and reads exactly that
body; a body over the limit is refused. -/
def LimitsBody (maxBodyBytes : ℕ) (messages : List AsgiMessage)
    (result : MiddlewareResult) : Prop :=
  (∀ receive, result = .application receive →
    (transmitted messages).2 = .final ∧ (transmitted messages).1.length ≤ maxBodyBytes ∧
      ∀ calls, transmitted (receive (calls + 1)) = transmitted messages) ∧
  ((transmitted messages).1.length > maxBodyBytes → result = .tooLarge)

/-- What the loop makes of the messages. -/
theorem bufferBody_eq (maxBodyBytes : ℕ) (messages : List AsgiMessage) (chunks : List Bytea)
    {consumed : ℕ}
    (hconsumed : consumed ≤ maxBodyBytes) :
    bufferBody maxBodyBytes messages chunks consumed =
      if consumed + (transmitted messages).1.length > maxBodyBytes then some none
      else if (transmitted messages).2 = .pending then none
      else some (some (chunks.flatten ++ (transmitted messages).1)) := by
  induction messages generalizing chunks consumed with
  | nil => simp [bufferBody, transmitted, hconsumed]
  | cons message messages ih =>
    cases message with
    | disconnect => simp [bufferBody, transmitted, hconsumed]
    | request body moreBody =>
      rw [bufferBody, transmitted]
      by_cases hempty : body.getD [] = []
      · cases hmore : moreBody.getD false with
        | true =>
          simp only [hempty, ne_eq, not_true_eq_false, if_false, if_true, List.nil_append]
          exact ih chunks hconsumed
        | false => simp [hempty, not_lt.2 hconsumed]
      · rw [if_pos hempty]
        cases hmore : moreBody.getD false with
        | true =>
          rw [if_pos rfl, if_pos rfl, List.length_append, ← Nat.add_assoc]
          by_cases hover : consumed + (body.getD []).length > maxBodyBytes
          · rw [if_pos hover, if_pos (by omega)]
          · rw [if_neg hover, ih _ (not_lt.1 hover), List.flatten_append, List.flatten_singleton,
              List.append_assoc]
        | false =>
          rw [if_neg Bool.false_ne_true, if_neg Bool.false_ne_true]
          by_cases hover : consumed + (body.getD []).length > maxBodyBytes
          · rw [if_pos hover, if_pos hover]
          · rw [if_neg hover, if_neg hover, List.flatten_append, List.flatten_singleton]
            rfl

/-- On a chunked request the middleware keeps its promise if and only if the client did not
disconnect before the end of a body that was within the limit until then. -/
theorem bodyLimit_iff (int : String → Option ℤ) (maxBodyBytes : ℕ) (encoding : String)
    (messages : List AsgiMessage) :
    LimitsBody maxBodyBytes messages
        (requestBodyLimit int maxBodyBytes ⟨"http", none, some encoding⟩ messages) ↔
      ¬ ((transmitted messages).2 = .disconnected ∧
        (transmitted messages).1.length ≤ maxBodyBytes) := by
  have hbuffer := bufferBody_eq maxBodyBytes messages [] (Nat.zero_le _)
  rw [Nat.zero_add, List.flatten_nil, List.nil_append] at hbuffer
  have hresult : requestBodyLimit int maxBodyBytes ⟨"http", none, some encoding⟩ messages =
      match bufferBody maxBodyBytes messages [] 0 with
      | none => .awaiting
      | some none => .tooLarge
      | some (some body) => .application (replay body) := rfl
  rw [hresult, hbuffer]
  by_cases hover : (transmitted messages).1.length > maxBodyBytes
  · rw [if_pos hover]
    exact iff_of_true ⟨nofun, fun _ => rfl⟩ fun h => absurd h.2 (not_le.2 hover)
  · rw [if_neg hover]
    cases hend : (transmitted messages).2 with
    | pending => exact iff_of_true ⟨nofun, fun h => absurd h hover⟩ nofun
    | final =>
      refine iff_of_true ⟨?_, fun h => absurd h hover⟩ nofun
      rintro _ ⟨⟩
      exact ⟨hend, not_lt.1 hover, fun calls => Prod.ext rfl hend.symm⟩
    | disconnected =>
      refine iff_of_false (fun h => ?_) fun h => h ⟨rfl, not_lt.1 hover⟩
      have hfinal := (h.1 _ rfl).1
      rw [hend] at hfinal
      cases hfinal

/-- A client that disconnects after the first of two chunks. -/
theorem bodyLimit_iff_disconnected :
    ¬ LimitsBody 65536 [.request (some [0x61]) (some true), .disconnect]
      (requestBodyLimit (fun _ => none) 65536 ⟨"http", none, some "chunked"⟩
        [.request (some [0x61]) (some true), .disconnect]) := by
  intro h
  exact absurd (h.1 _ rfl).1 (by decide)

end SelfRelay.Backend
