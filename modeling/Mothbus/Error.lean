import Mothbus.Library.Decoder

/-!
# Error codes

`include/mothbus/error.h`: the exception codes of the protocol and of this library, and the error codes made of them.
-/

namespace Mothbus

/-- `modbus_exception_code`, an enumeration over `int`. It is a number with named values, not a closed list: the byte of an
exception response is cast to it unchecked. -/
structure ModbusExceptionCode where
  value : Int
  deriving DecidableEq, Repr

namespace ModbusExceptionCode

def success : ModbusExceptionCode := ⟨0x00⟩
def illegalFunction : ModbusExceptionCode := ⟨0x01⟩
def illegalDataAddress : ModbusExceptionCode := ⟨0x02⟩
def illegalDataValue : ModbusExceptionCode := ⟨0x03⟩
def slaveDeviceFailure : ModbusExceptionCode := ⟨0x04⟩
def acknowledge : ModbusExceptionCode := ⟨0x05⟩
def slaveDeviceBusy : ModbusExceptionCode := ⟨0x06⟩
def negativeAcknowledge : ModbusExceptionCode := ⟨0x07⟩
def memoryParityError : ModbusExceptionCode := ⟨0x08⟩
def gatewayPathUnavailable : ModbusExceptionCode := ⟨0x0a⟩
def gatewayTargetDeviceFailedToRespond : ModbusExceptionCode := ⟨0x0b⟩
def invalidResponse : ModbusExceptionCode := ⟨0x0c⟩
def tooManyBytesReceived : ModbusExceptionCode := ⟨0x0d⟩
def transactionIdInvalid : ModbusExceptionCode := ⟨0x0e⟩
def illegalProtocol : ModbusExceptionCode := ⟨0x0f⟩
def slaveIdInvalid : ModbusExceptionCode := ⟨0x10⟩
def requestTooBig : ModbusExceptionCode := ⟨0x11⟩

end ModbusExceptionCode

/-- The categories of the error codes that occur: the one of `error_code()`, the one of `errc`, the one of asio's own errors
and `modbus_category()`. -/
inductive ErrorCategory where
  | system | generic | misc | modbus
  deriving DecidableEq, Repr

/-- `error_code`: a number and its category. The default value is the one `error_code()` and `ec.clear()` give. -/
structure ErrorCode where
  value : Int := 0
  category : ErrorCategory := .system
  deriving DecidableEq, Repr

/-- An error code tests as an error (`!!ec`) when its number is not zero, whatever its category. -/
instance : ErrorLike ErrorCode where
  ok := {}
  failed ec := ec.value != 0
  failed_ok := rfl

/-- `make_error_code(modbus_exception_code)`. -/
def makeErrorCode (c : ModbusExceptionCode) : ErrorCode := { value := c.value, category := .modbus }

/-- `make_error_code(boost::system::errc::timed_out)`. -/
def timedOut : ErrorCode := { value := 110, category := .generic }

/-- `boost::asio::error::eof`: the peer closed the connection. -/
def endOfFile : ErrorCode := { value := 2, category := .misc }

open ErrorLike (ok failed)

/-- Both stand for a success, or they are the same error. -/
def ErrorCode.SameOutcome (ec ec' : ErrorCode) : Prop := failed ec = failed ec' ∧ (failed ec = true → ec = ec')

instance (ec ec' : ErrorCode) : Decidable (ec.SameOutcome ec') := inferInstanceAs (Decidable (_ ∧ _))

/-- An error code is an error if its number is not zero. -/
theorem failed_iff (ec : ErrorCode) : failed ec = true ↔ ec.value ≠ 0 := bne_iff_ne

theorem failed_eq_false_iff (ec : ErrorCode) : failed ec = false ↔ ec.value = 0 := bne_eq_false_iff_eq

/-- A made error code tests as an error exactly when the exception code is not zero. -/
theorem failed_makeErrorCode (c : ModbusExceptionCode) : failed (makeErrorCode c) = true ↔ c.value ≠ 0 :=
  failed_iff _

/-- The error code made of a received exception byte. -/
theorem failed_makeErrorCode_byte (code : UInt8) : failed (makeErrorCode ⟨(code.toNat : Int)⟩) = true ↔ code ≠ 0 := by
  rw [failed_makeErrorCode]
  constructor
  · rintro h rfl
    exact h rfl
  · intro h h0
    exact h (UInt8.toNat_inj.mp (Int.ofNat_eq_zero.mp h0))

end Mothbus
