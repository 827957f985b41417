import Mothbus.Pdu.Requests

/-!
# Response PDUs

`include/mothbus/pdu/resp_*.h` and the last part of `include/mothbus/pdu.h`. The five responses that carry data share one
reader and one writer; of the four that are two 16-bit fields, those of the single writes check the value they read.
-/

namespace Mothbus

open Decoder
open ErrorLike (ok failed)

/-! ## Responses that carry data -/

/-- The body of a response with a byte count and a span: the count must fit the span, which is cut to it. -/
def readByteCounted : Read (UInt8 × Span) := fun resp => do
  let (ec, byteCount) ← readUint8 resp.1
  if failed ec then return (ec, (byteCount, resp.2))
  if h : byteCount.toNat ≤ resp.2.size then do
    let values := resp.2.first byteCount.toNat h
    let (ec, values) ← readSpan values
    if failed ec then return (ec, (byteCount, values))
    return (ok, (byteCount, values))
  else return (makeErrorCode .tooManyBytesReceived, (byteCount, resp.2))

/-- A response with a byte count and a span. -/
def writeByteCounted (fc : FunctionCode) (v : UInt8 × Span) : List UInt8 :=
  writeFunctionCode fc ++ writeUint8 v.1 ++ writeSpan v.2

/-- `read_coils_pdu_resp`. -/
structure ReadCoilsPduResp where
  byteCount : UInt8
  values : Span
  deriving DecidableEq, Repr

namespace ReadCoilsPduResp

/-- The constructor: the byte count starts as the size of the span. -/
def new (v : Span) : ReadCoilsPduResp := ⟨UInt8.ofNat v.size, v⟩

def fields : ReadCoilsPduResp ≃ UInt8 × Span where
  toFun r := (r.byteCount, r.values)
  invFun p := ⟨p.1, p.2⟩
  left_inv _ := rfl
  right_inv _ := rfl

end ReadCoilsPduResp

instance : PduRead ReadCoilsPduResp := ⟨.readCoils, readByteCounted.through ReadCoilsPduResp.fields⟩
instance : PduWrite ReadCoilsPduResp := { write := fun v => writeByteCounted .readCoils v.fields }

/-- `read_discrete_inputs_pdu_resp`. -/
structure ReadDiscreteInputsPduResp where
  byteCount : UInt8
  values : Span
  deriving DecidableEq, Repr

namespace ReadDiscreteInputsPduResp

def new (v : Span) : ReadDiscreteInputsPduResp := ⟨UInt8.ofNat v.size, v⟩

def fields : ReadDiscreteInputsPduResp ≃ UInt8 × Span where
  toFun r := (r.byteCount, r.values)
  invFun p := ⟨p.1, p.2⟩
  left_inv _ := rfl
  right_inv _ := rfl

end ReadDiscreteInputsPduResp

instance : PduRead ReadDiscreteInputsPduResp :=
  ⟨.readDiscreteInputs, readByteCounted.through ReadDiscreteInputsPduResp.fields⟩
instance : PduWrite ReadDiscreteInputsPduResp := { write := fun v => writeByteCounted .readDiscreteInputs v.fields }

/-- `read_holding_pdu_resp`. -/
structure ReadHoldingPduResp where
  byteCount : UInt8
  values : Span
  deriving DecidableEq, Repr

namespace ReadHoldingPduResp

def new (v : Span) : ReadHoldingPduResp := ⟨UInt8.ofNat v.size, v⟩

def fields : ReadHoldingPduResp ≃ UInt8 × Span where
  toFun r := (r.byteCount, r.values)
  invFun p := ⟨p.1, p.2⟩
  left_inv _ := rfl
  right_inv _ := rfl

end ReadHoldingPduResp

instance : PduRead ReadHoldingPduResp := ⟨.readHoldingRegisters, readByteCounted.through ReadHoldingPduResp.fields⟩
instance : PduWrite ReadHoldingPduResp := { write := fun v => writeByteCounted .readHoldingRegisters v.fields }

/-- `read_input_pdu_resp`. -/
structure ReadInputPduResp where
  byteCount : UInt8
  values : Span
  deriving DecidableEq, Repr

namespace ReadInputPduResp

def new (v : Span) : ReadInputPduResp := ⟨UInt8.ofNat v.size, v⟩

def fields : ReadInputPduResp ≃ UInt8 × Span where
  toFun r := (r.byteCount, r.values)
  invFun p := ⟨p.1, p.2⟩
  left_inv _ := rfl
  right_inv _ := rfl

end ReadInputPduResp

instance : PduRead ReadInputPduResp := ⟨.readInputRegisters, readByteCounted.through ReadInputPduResp.fields⟩
instance : PduWrite ReadInputPduResp := { write := fun v => writeByteCounted .readInputRegisters v.fields }

/-- `read_write_multiple_registers_pdu_resp`. -/
structure ReadWriteMultipleRegistersPduResp where
  byteCount : UInt8
  values : Span
  deriving DecidableEq, Repr

namespace ReadWriteMultipleRegistersPduResp

def new (v : Span) : ReadWriteMultipleRegistersPduResp := ⟨UInt8.ofNat v.size, v⟩

def fields : ReadWriteMultipleRegistersPduResp ≃ UInt8 × Span where
  toFun r := (r.byteCount, r.values)
  invFun p := ⟨p.1, p.2⟩
  left_inv _ := rfl
  right_inv _ := rfl

end ReadWriteMultipleRegistersPduResp

instance : PduRead ReadWriteMultipleRegistersPduResp :=
  ⟨.readWriteMultipleRegisters, readByteCounted.through ReadWriteMultipleRegistersPduResp.fields⟩
instance : PduWrite ReadWriteMultipleRegistersPduResp :=
  { write := fun v => writeByteCounted .readWriteMultipleRegisters v.fields }

/-! ## Responses of two 16-bit fields -/

/-- The body of a response of an address and a value, the value checked against the two values of a coil. -/
def readCoilWordPair : Read (UInt16 × UInt16) :=
  (readUint16.focus Prod.fst (fun v p => (v, p.2))).checked <|
  (readUint16.focus Prod.snd (fun v p => (p.1, v))).checked <|
  (require (fun p => isCoilValue p.2) (makeErrorCode .illegalDataValue)).checked succeed

/-- `write_single_coil_pdu_resp`. -/
structure WriteSingleCoilPduResp where
  address : UInt16
  value : UInt16
  deriving DecidableEq, Repr

namespace WriteSingleCoilPduResp

/-- The assertion of the constructor. -/
def asserts (value : UInt16) : Bool := isCoilValue value

def fields : WriteSingleCoilPduResp ≃ UInt16 × UInt16 where
  toFun r := (r.address, r.value)
  invFun p := ⟨p.1, p.2⟩
  left_inv _ := rfl
  right_inv _ := rfl

end WriteSingleCoilPduResp

instance : PduRead WriteSingleCoilPduResp := ⟨.writeSingleCoil, readCoilWordPair.through WriteSingleCoilPduResp.fields⟩
instance : PduWrite WriteSingleCoilPduResp := { write := fun v => writeWordPair .writeSingleCoil v.fields }

/-- `write_single_register_pdu_resp`. -/
structure WriteSingleRegisterPduResp where
  address : UInt16
  value : UInt16
  deriving DecidableEq, Repr

def WriteSingleRegisterPduResp.fields : WriteSingleRegisterPduResp ≃ UInt16 × UInt16 where
  toFun r := (r.address, r.value)
  invFun p := ⟨p.1, p.2⟩
  left_inv _ := rfl
  right_inv _ := rfl

-- the reader checks the register's value against the two values of a coil, as the coil's reader does
instance : PduRead WriteSingleRegisterPduResp :=
  ⟨.writeSingleRegister, readCoilWordPair.through WriteSingleRegisterPduResp.fields⟩
instance : PduWrite WriteSingleRegisterPduResp := { write := fun v => writeWordPair .writeSingleRegister v.fields }

/-- `write_multiple_coils_pdu_resp`. -/
structure WriteMultipleCoilsPduResp where
  startingAddress : UInt16
  quantityOfCoils : UInt16
  deriving DecidableEq, Repr

namespace WriteMultipleCoilsPduResp

/-- The assertion of the constructor. -/
def asserts (quantityOfCoils : UInt16) : Bool := 1 ≤ quantityOfCoils && quantityOfCoils ≤ 1968

def fields : WriteMultipleCoilsPduResp ≃ UInt16 × UInt16 where
  toFun r := (r.startingAddress, r.quantityOfCoils)
  invFun p := ⟨p.1, p.2⟩
  left_inv _ := rfl
  right_inv _ := rfl

end WriteMultipleCoilsPduResp

instance : PduRead WriteMultipleCoilsPduResp := ⟨.writeMultipleCoils, readWordPair.through WriteMultipleCoilsPduResp.fields⟩
instance : PduWrite WriteMultipleCoilsPduResp := { write := fun v => writeWordPair .writeMultipleCoils v.fields }

/-- `write_multiple_registers_pdu_resp`. -/
structure WriteMultipleRegistersPduResp where
  startingAddress : UInt16
  quantityOfRegisters : UInt16
  deriving DecidableEq, Repr

namespace WriteMultipleRegistersPduResp

/-- The assertion of the constructor. -/
def asserts (quantityOfRegisters : UInt16) : Bool := 1 ≤ quantityOfRegisters && quantityOfRegisters ≤ 123

def fields : WriteMultipleRegistersPduResp ≃ UInt16 × UInt16 where
  toFun r := (r.startingAddress, r.quantityOfRegisters)
  invFun p := ⟨p.1, p.2⟩
  left_inv _ := rfl
  right_inv _ := rfl

end WriteMultipleRegistersPduResp

instance : PduRead WriteMultipleRegistersPduResp :=
  ⟨.writeMultipleRegisters, readWordPair.through WriteMultipleRegistersPduResp.fields⟩
instance : PduWrite WriteMultipleRegistersPduResp := { write := fun v => writeWordPair .writeMultipleRegisters v.fields }

/-! ## The nine response types -/

/-- The response types. -/
inductive ResponseKind where
  | readCoils | readDiscreteInputs | readHolding | readInput | writeSingleCoil | writeSingleRegister
  | writeMultipleCoils | writeMultipleRegisters | readWriteMultipleRegisters
  deriving DecidableEq, Repr

/-- The type of a response. -/
abbrev ResponseKind.Pdu : ResponseKind → Type
  | .readCoils => ReadCoilsPduResp
  | .readDiscreteInputs => ReadDiscreteInputsPduResp
  | .readHolding => ReadHoldingPduResp
  | .readInput => ReadInputPduResp
  | .writeSingleCoil => WriteSingleCoilPduResp
  | .writeSingleRegister => WriteSingleRegisterPduResp
  | .writeMultipleCoils => WriteMultipleCoilsPduResp
  | .writeMultipleRegisters => WriteMultipleRegistersPduResp
  | .readWriteMultipleRegisters => ReadWriteMultipleRegistersPduResp

instance : (k : ResponseKind) → PduRead k.Pdu
  | .readCoils => inferInstanceAs (PduRead ReadCoilsPduResp)
  | .readDiscreteInputs => inferInstanceAs (PduRead ReadDiscreteInputsPduResp)
  | .readHolding => inferInstanceAs (PduRead ReadHoldingPduResp)
  | .readInput => inferInstanceAs (PduRead ReadInputPduResp)
  | .writeSingleCoil => inferInstanceAs (PduRead WriteSingleCoilPduResp)
  | .writeSingleRegister => inferInstanceAs (PduRead WriteSingleRegisterPduResp)
  | .writeMultipleCoils => inferInstanceAs (PduRead WriteMultipleCoilsPduResp)
  | .writeMultipleRegisters => inferInstanceAs (PduRead WriteMultipleRegistersPduResp)
  | .readWriteMultipleRegisters => inferInstanceAs (PduRead ReadWriteMultipleRegistersPduResp)

instance : (k : ResponseKind) → PduWrite k.Pdu
  | .readCoils => inferInstanceAs (PduWrite ReadCoilsPduResp)
  | .readDiscreteInputs => inferInstanceAs (PduWrite ReadDiscreteInputsPduResp)
  | .readHolding => inferInstanceAs (PduWrite ReadHoldingPduResp)
  | .readInput => inferInstanceAs (PduWrite ReadInputPduResp)
  | .writeSingleCoil => inferInstanceAs (PduWrite WriteSingleCoilPduResp)
  | .writeSingleRegister => inferInstanceAs (PduWrite WriteSingleRegisterPduResp)
  | .writeMultipleCoils => inferInstanceAs (PduWrite WriteMultipleCoilsPduResp)
  | .writeMultipleRegisters => inferInstanceAs (PduWrite WriteMultipleRegistersPduResp)
  | .readWriteMultipleRegisters => inferInstanceAs (PduWrite ReadWriteMultipleRegistersPduResp)

/-! ## Exceptions, and decoding a response -/

/-- `pdu_exception_resp`. -/
structure PduExceptionResp where
  fc : FunctionCode
  exceptionCode : ModbusExceptionCode
  deriving DecidableEq, Repr

/-- `write(Writer&, const pdu_exception_resp&)`: the function code with bit 0x80 set, then the exception code. -/
instance : PduWrite PduExceptionResp where
  write v := writeUint8 (v.fc.value ||| 0x80) ++ writeModbusExceptionCode v.exceptionCode

/-- `read(Reader&, pdu_resp<Response>&)`. The local byte for the function code is uninitialised; `indeterminate` is the value it
happens to hold. -/
def readPduResp {α : Type} [PduRead α] (indeterminate : UInt8) : Read α := fun resp => do
  let (ec, fC) ← readUint8 indeterminate
  if failed ec then return (ec, resp)
  -- 0x80 marks a modbus exception; the byte after it becomes the error code as it is
  if fC &&& 0x80 ≠ 0 then do
    let (ec, exceptionCode) ← readModbusExceptionCode ⟨(indeterminate.toNat : Int)⟩
    if failed ec then return (ec, resp)
    return (makeErrorCode exceptionCode, resp)
  else if (⟨fC⟩ : FunctionCode) ≠ PduRead.fc α then return (makeErrorCode .invalidResponse, resp)
  else PduRead.read resp

end Mothbus
