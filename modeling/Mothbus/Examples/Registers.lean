import Mothbus.Examples.System

/-!
# Registers that are read at once

What the masters and the register server are for: a call takes effect at one moment, on the registers as they are then. No bytes, no
connections and no coroutines are left of the system.
-/

namespace Mothbus.Examples

open ErrorLike (ok)

/-- The registers that a request is for, or the exception. -/
def lookup (registers : List UInt16) (address quantity : UInt16) : Except ModbusExceptionCode (List UInt16) :=
  if ¬(1 ≤ quantity.toNat ∧ quantity.toNat ≤ 125) then .error .illegalDataValue
  else if address.toNat + quantity.toNat > registers.length then .error .illegalDataAddress
  else .ok ((registers.drop address.toNat).take quantity.toNat)

/-- What a call returns that takes effect on some registers. A span of bytes of odd size, and a span so large that the number of
registers does not fit the request, are not filled; what is beyond the registers received keeps its contents. -/
def effect (registers : List UInt16) : Operation → ErrorCode × Output
  | .readRegisterBytes address out =>
    match lookup registers address (UInt16.ofNat (out.length / 2)) with
    | .error ec => (makeErrorCode ec, .bytes out)
    | .ok values =>
      let data := values.flatMap writeUint16
      (if data.length ≠ out.length then makeErrorCode .invalidResponse else ok, .bytes (data ++ out.drop data.length))
  | .readRegisters address out =>
    match lookup registers address (UInt16.ofNat out.length) with
    | .error ec => (makeErrorCode ec, .registers out)
    | .ok values =>
      if values.length ≠ out.length then (makeErrorCode .invalidResponse, .registers out) else (ok, .registers values)
  | op => (makeErrorCode .illegalFunction, op.output)

/-- Where a master is with its call. -/
inductive Status where
  | idle
  | called (op : Operation)
  | done (ec : ErrorCode) (output : Output)

/-- The registers, and the calls. -/
structure AtomicState (ι : Type) where
  registers : List UInt16
  status : ι → Status

variable {ι : Type} [DecidableEq ι]

/-- What can happen: a call is made, takes effect, returns; the registers are written. -/
inductive AtomicStep : AtomicState ι → List (Event ι) → AtomicState ι → Prop
  | invoke {s : AtomicState ι} {i : ι} (slave : UInt8) (op : Operation) (h : s.status i = .idle) :
    AtomicStep s [.invoke i slave op] { s with status := Function.update s.status i (.called op) }
  | effect {s : AtomicState ι} {i : ι} {op : Operation} (h : s.status i = .called op) :
    AtomicStep s []
      { s with status := Function.update s.status i (.done (effect s.registers op).1 (effect s.registers op).2) }
  | result {s : AtomicState ι} {i : ι} {ec : ErrorCode} {output : Output} (h : s.status i = .done ec output) :
    AtomicStep s [.result i ec output] { s with status := Function.update s.status i .idle }
  | update {s : AtomicState ι} (registers : List UInt16) : AtomicStep s [.update registers] { s with registers }

/-- The registers that are read at once, as a transition system. -/
def atomicSystem (ι : Type) [DecidableEq ι] (registers : List UInt16) : TransitionSystem (AtomicState ι) (Event ι) where
  init s := s = { registers, status := fun _ => .idle }
  step := AtomicStep

/-! ## Results that are explained -/

/-- The master that an event is one of. -/
def Event.master {ι : Type} : Event ι → Option ι
  | .invoke i _ _ | .result i _ _ => some i
  | .update _ => none

/-- The registers after some events. -/
def registersAfter {ι : Type} (registers : List UInt16) : List (Event ι) → List UInt16
  | [] => registers
  | .update registers :: events => registersAfter registers events
  | _ :: events => registersAfter registers events

/-- After the events the master has made a call, nothing since, and the effect of the call is the result: on the registers as they were
when it was made, or after some of the events since. -/
def Explained {ι : Type} (registers : List UInt16) (events : List (Event ι)) (i : ι) (result : ErrorCode × Output) : Prop :=
  ∃ before slave op during after, events = before ++ .invoke i slave op :: (during ++ after) ∧
    (∀ e ∈ during ++ after, e.master ≠ some i) ∧ effect (registersAfter registers (before ++ during)) op = result

end Mothbus.Examples
