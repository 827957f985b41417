import Mothbus.Pdu.Writer

/-!
# Function codes and the interface of a PDU type

`include/mothbus/pdu.h`, first part.
-/

namespace Mothbus

open ErrorLike (ok failed)

/-- `function_code`, an enumeration over `uint8_t`. Any byte of the wire is cast to it, so it is a byte with named values. -/
structure FunctionCode where
  value : UInt8
  deriving DecidableEq, Repr

namespace FunctionCode

def readCoils : FunctionCode := ⟨0x01⟩
def readDiscreteInputs : FunctionCode := ⟨0x02⟩
def readHoldingRegisters : FunctionCode := ⟨0x03⟩
def readInputRegisters : FunctionCode := ⟨0x04⟩
def writeSingleCoil : FunctionCode := ⟨0x05⟩
def writeSingleRegister : FunctionCode := ⟨0x06⟩
def writeMultipleCoils : FunctionCode := ⟨0x0F⟩
def writeMultipleRegisters : FunctionCode := ⟨0x10⟩
def readWriteMultipleRegisters : FunctionCode := ⟨0x17⟩

end FunctionCode

/-- `read(Reader&, function_code&)`. The local byte is uninitialised; `indeterminate` is the value it happens to hold. -/
def readFunctionCode (indeterminate : UInt8) : Read FunctionCode := fun v => do
  let (ec, h) ← readUint8 indeterminate
  if failed ec then return (ec, v)
  return (ok, ⟨h⟩)

/-- `write(Writer&, const function_code&)`. -/
def writeFunctionCode (fc : FunctionCode) : List UInt8 := writeUint8 fc.value

/-- The overload `read(Reader&, T&)` of a PDU type and its `T::fc`. -/
class PduRead (α : Type) where
  fc : FunctionCode
  read : Read α

/-- The overload `write(Writer&, const T&)` of a PDU type: the bytes it puts, and the assertion it makes before the first. -/
class PduWrite (α : Type) where
  write : α → List UInt8
  asserts : α → Bool := fun _ => true

end Mothbus
