import Mathlib.Tactic.Common
import SelfRelay.Js.Text

/-!
# Bytes and protocol errors

The values every part of `transferProtocol.ts` works with: byte strings, the `ProtocolError`
class, and the guard `throwIf` that models `if (…) { throw new ProtocolError(…); }`.
-/

namespace SelfRelay

/-- The contents of a `Uint8Array`. -/
abbrev Bytes := List UInt8

/-- `bytes.slice(start, end)` -/
def slice (bytes : Bytes) (start stop : ℕ) : Bytes := (bytes.take stop).drop start

/-- A `CryptoKey` handle, identified by its key material. -/
structure CryptoKey where
  material : Bytes
  deriving DecidableEq, Repr

inductive TransferRole where
  | sender
  | recipient
  deriving DecidableEq, Repr

/-- `ProtocolError`: the message of an `Error` and a machine-readable code. -/
structure ProtocolError where
  message : String
  code : JsString
  deriving DecidableEq, Repr

/-- A `ProtocolError` with an ASCII code, as the source writes them. -/
def protocolError (message code : String) : ProtocolError := ⟨message, js code⟩

/-- A checked computation that may throw a `ProtocolError`. -/
abbrev Checked (α : Type) := Except ProtocolError α

/-- `if (condition) { throw error; }` -/
def throwIf (condition : Prop) [Decidable condition] (error : ProtocolError) : Checked Unit :=
  if condition then .error error else .ok ()

/-- What a `throw` carries: a `ProtocolError`, or another `Error` with its message. -/
inductive Thrown where
  | protocol (error : ProtocolError)
  | other (message : String)
  deriving DecidableEq, Repr

/-- `protocolError(error)` -/
def Thrown.failure : Thrown → ProtocolError
  | .protocol error => error
  | .other message => protocolError message "transfer_failed"

/-- The outcome of an asynchronous call. -/
abbrev Outcome (α : Type) := Except Thrown α

/-- A checked computation inside an asynchronous function. -/
def Checked.outcome {α : Type} (x : Checked α) : Outcome α := x.mapError .protocol

section Inversion

variable {α β : Type} {condition : Prop} [Decidable condition] {error : ProtocolError}

@[simp] theorem throwIf_eq_ok {u : Unit} : throwIf condition error = .ok u ↔ ¬ condition := by
  unfold throwIf
  split_ifs with h <;> simp [h]

theorem throwIf_of_not (h : ¬ condition) : throwIf condition error = .ok () := if_neg h

/-- A sequence of checked computations succeeds exactly when each of them does. -/
@[simp] theorem bind_eq_ok {ε : Type} {x : Except ε α} {f : α → Except ε β} {b : β} :
    x >>= f = .ok b ↔ ∃ a, x = .ok a ∧ f a = .ok b := by
  cases x with
  | error e => exact ⟨nofun, by rintro ⟨a, ha, -⟩; cases ha⟩
  | ok a => exact ⟨fun h => ⟨a, rfl, h⟩, by rintro ⟨_, ha, h⟩; cases ha; exact h⟩

theorem ok_bind {ε : Type} {a : α} {f : α → Except ε β} : (.ok a >>= f) = f a := rfl

@[simp] theorem pure_eq_ok {ε : Type} {a b : α} : (pure a : Except ε α) = .ok b ↔ a = b :=
  Except.ok.injEq a b ▸ Iff.rfl

end Inversion

end SelfRelay
