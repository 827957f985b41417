import Mothbus.Pdu.FunctionCode

/-!
# Request PDUs

`include/mothbus/pdu/req_*.h`. Six of the nine requests are two 16-bit fields and share one reader and one writer; the three
that carry values have their own.
-/

namespace Mothbus

open Decoder

/-- The body of a PDU of two 16-bit fields, read field by field. -/
def readWordPair : Read (UInt16 × UInt16) :=
  (readUint16.focus Prod.fst (fun v p => (v, p.2))).checked <|
  (readUint16.focus Prod.snd (fun v p => (p.1, v))).checked succeed

/-- A PDU of a function code and two 16-bit fields. -/
def writeWordPair (fc : FunctionCode) (p : UInt16 × UInt16) : List UInt8 :=
  writeFunctionCode fc ++ writeUint16 p.1 ++ writeUint16 p.2

/-! ## Requests of two 16-bit fields -/

/-- `read_coils_pdu_req`. -/
structure ReadCoilsPduReq where
  startingAddress : UInt16 := 0
  quantityOfCoils : UInt16 := 0
  deriving DecidableEq, Repr

def ReadCoilsPduReq.fields : ReadCoilsPduReq ≃ UInt16 × UInt16 where
  toFun r := (r.startingAddress, r.quantityOfCoils)
  invFun p := ⟨p.1, p.2⟩
  left_inv _ := rfl
  right_inv _ := rfl

instance : PduRead ReadCoilsPduReq := ⟨.readCoils, readWordPair.through ReadCoilsPduReq.fields⟩
instance : PduWrite ReadCoilsPduReq := { write := fun v => writeWordPair .readCoils v.fields }

/-- `read_discrete_inputs_pdu_req`. -/
structure ReadDiscreteInputsPduReq where
  startingAddress : UInt16 := 0
  quantityOfDiscreteInputs : UInt16 := 0
  deriving DecidableEq, Repr

def ReadDiscreteInputsPduReq.fields : ReadDiscreteInputsPduReq ≃ UInt16 × UInt16 where
  toFun r := (r.startingAddress, r.quantityOfDiscreteInputs)
  invFun p := ⟨p.1, p.2⟩
  left_inv _ := rfl
  right_inv _ := rfl

instance : PduRead ReadDiscreteInputsPduReq :=
  ⟨.readDiscreteInputs, readWordPair.through ReadDiscreteInputsPduReq.fields⟩
instance : PduWrite ReadDiscreteInputsPduReq := { write := fun v => writeWordPair .readDiscreteInputs v.fields }

/-- `read_holding_pdu_req`. -/
structure ReadHoldingPduReq where
  startingAddress : UInt16 := 0
  quantityOfRegisters : UInt16 := 0
  deriving DecidableEq, Repr

def ReadHoldingPduReq.fields : ReadHoldingPduReq ≃ UInt16 × UInt16 where
  toFun r := (r.startingAddress, r.quantityOfRegisters)
  invFun p := ⟨p.1, p.2⟩
  left_inv _ := rfl
  right_inv _ := rfl

instance : PduRead ReadHoldingPduReq := ⟨.readHoldingRegisters, readWordPair.through ReadHoldingPduReq.fields⟩
instance : PduWrite ReadHoldingPduReq := { write := fun v => writeWordPair .readHoldingRegisters v.fields }

/-- `read_input_pdu_req`. -/
structure ReadInputPduReq where
  startingAddress : UInt16 := 0
  quantityOfRegisters : UInt16 := 0
  deriving DecidableEq, Repr

def ReadInputPduReq.fields : ReadInputPduReq ≃ UInt16 × UInt16 where
  toFun r := (r.startingAddress, r.quantityOfRegisters)
  invFun p := ⟨p.1, p.2⟩
  left_inv _ := rfl
  right_inv _ := rfl

instance : PduRead ReadInputPduReq := ⟨.readInputRegisters, readWordPair.through ReadInputPduReq.fields⟩
instance : PduWrite ReadInputPduReq := { write := fun v => writeWordPair .readInputRegisters v.fields }

/-- `write_single_coil_pdu_req`. -/
structure WriteSingleCoilPduReq where
  address : UInt16 := 0
  value : UInt16 := 0
  deriving DecidableEq, Repr

def WriteSingleCoilPduReq.fields : WriteSingleCoilPduReq ≃ UInt16 × UInt16 where
  toFun r := (r.address, r.value)
  invFun p := ⟨p.1, p.2⟩
  left_inv _ := rfl
  right_inv _ := rfl

/-- The two values of a coil on the wire. -/
def isCoilValue (v : UInt16) : Bool := v == 0x0000 || v == 0xFF00

instance : PduRead WriteSingleCoilPduReq := ⟨.writeSingleCoil, readWordPair.through WriteSingleCoilPduReq.fields⟩
instance : PduWrite WriteSingleCoilPduReq where
  write v := writeWordPair .writeSingleCoil v.fields
  asserts v := isCoilValue v.value

/-- `write_single_register_pdu_req`. -/
structure WriteSingleRegisterPduReq where
  address : UInt16 := 0
  value : UInt16 := 0
  deriving DecidableEq, Repr

def WriteSingleRegisterPduReq.fields : WriteSingleRegisterPduReq ≃ UInt16 × UInt16 where
  toFun r := (r.address, r.value)
  invFun p := ⟨p.1, p.2⟩
  left_inv _ := rfl
  right_inv _ := rfl

instance : PduRead WriteSingleRegisterPduReq :=
  ⟨.writeSingleRegister, readWordPair.through WriteSingleRegisterPduReq.fields⟩
instance : PduWrite WriteSingleRegisterPduReq := { write := fun v => writeWordPair .writeSingleRegister v.fields }

/-! ## Requests that carry values -/

/-- `write_multiple_coils_pdu_req`. -/
structure WriteMultipleCoilsPduReq where
  startingAddress : UInt16 := 0
  quantityOfCoils : UInt16 := 0
  byteCount : UInt8 := 0
  values : List UInt8 := []
  deriving DecidableEq, Repr

/-- `read(Reader&, write_multiple_coils_pdu_req&)`. -/
def WriteMultipleCoilsPduReq.read : Read WriteMultipleCoilsPduReq :=
  (readUint16.focus (·.startingAddress) (fun v req => { req with startingAddress := v })).checked <|
  (readUint16.focus (·.quantityOfCoils) (fun v req => { req with quantityOfCoils := v })).checked <|
  (readUint8.focus (·.byteCount) (fun v req => { req with byteCount := v })).checked <|
  (alter (fun req => { req with values := resize req.values req.byteCount.toNat 0 })).checked <|
  (readByte.each.focus (·.values) (fun v req => { req with values := v })).checked succeed

instance : PduRead WriteMultipleCoilsPduReq := ⟨.writeMultipleCoils, WriteMultipleCoilsPduReq.read⟩
instance : PduWrite WriteMultipleCoilsPduReq where
  write v := writeFunctionCode .writeMultipleCoils ++ writeUint16 v.startingAddress ++ writeUint16 v.quantityOfCoils ++
    writeUint8 v.byteCount ++ v.values.flatMap writeUint8

/-- `write_multiple_registers_pdu_req`. -/
structure WriteMultipleRegistersPduReq where
  startingAddress : UInt16 := 0
  quantityOfRegisters : UInt16 := 0
  byteCount : UInt8 := 0
  values : List UInt16 := []
  deriving DecidableEq, Repr

/-- `read(Reader&, write_multiple_registers_pdu_req&)`. An odd byte count is halved downwards. -/
def WriteMultipleRegistersPduReq.read : Read WriteMultipleRegistersPduReq :=
  (readUint16.focus (·.startingAddress) (fun v req => { req with startingAddress := v })).checked <|
  (readUint16.focus (·.quantityOfRegisters) (fun v req => { req with quantityOfRegisters := v })).checked <|
  (readUint8.focus (·.byteCount) (fun v req => { req with byteCount := v })).checked <|
  (alter (fun req => { req with values := resize req.values (req.byteCount.toNat / 2) 0 })).checked <|
  (readWords.focus (·.values) (fun v req => { req with values := v })).checked succeed

instance : PduRead WriteMultipleRegistersPduReq := ⟨.writeMultipleRegisters, WriteMultipleRegistersPduReq.read⟩
instance : PduWrite WriteMultipleRegistersPduReq where
  write v := writeFunctionCode .writeMultipleRegisters ++ writeUint16 v.startingAddress ++
    writeUint16 v.quantityOfRegisters ++ writeUint8 v.byteCount ++ v.values.flatMap writeUint16

/-- `read_write_multiple_registers_pdu_req`. -/
structure ReadWriteMultipleRegistersPduReq where
  readStartingAddress : UInt16 := 0
  readQuantityOfRegisters : UInt16 := 0
  writeStartingAddress : UInt16 := 0
  writeQuantityOfRegisters : UInt16 := 0
  writeByteCount : UInt8 := 0
  values : List UInt16 := []
  deriving DecidableEq, Repr

/-- `read(Reader&, read_write_multiple_registers_pdu_req&)`. -/
def ReadWriteMultipleRegistersPduReq.read : Read ReadWriteMultipleRegistersPduReq :=
  (readUint16.focus (·.readStartingAddress) (fun v req => { req with readStartingAddress := v })).checked <|
  (readUint16.focus (·.readQuantityOfRegisters) (fun v req => { req with readQuantityOfRegisters := v })).checked <|
  (readUint16.focus (·.writeStartingAddress) (fun v req => { req with writeStartingAddress := v })).checked <|
  (readUint16.focus (·.writeQuantityOfRegisters) (fun v req => { req with writeQuantityOfRegisters := v })).checked <|
  (readUint8.focus (·.writeByteCount) (fun v req => { req with writeByteCount := v })).checked <|
  (alter (fun req => { req with values := resize req.values (req.writeByteCount.toNat / 2) 0 })).checked <|
  (readWords.focus (·.values) (fun v req => { req with values := v })).checked succeed

instance : PduRead ReadWriteMultipleRegistersPduReq :=
  ⟨.readWriteMultipleRegisters, ReadWriteMultipleRegistersPduReq.read⟩
instance : PduWrite ReadWriteMultipleRegistersPduReq where
  write v := writeFunctionCode .readWriteMultipleRegisters ++ writeUint16 v.readStartingAddress ++
    writeUint16 v.readQuantityOfRegisters ++ writeUint16 v.writeStartingAddress ++
    writeUint16 v.writeQuantityOfRegisters ++ writeUint8 v.writeByteCount ++ v.values.flatMap writeUint16

/-! ## The nine request types -/

/-- The request types, in the order in which `pdu_req` lists them. -/
inductive RequestKind where
  | readCoils | readDiscreteInputs | readHolding | readInput | writeSingleCoil | writeSingleRegister
  | writeMultipleCoils | writeMultipleRegisters | readWriteMultipleRegisters
  deriving DecidableEq, Repr

/-- The type of a request. -/
abbrev RequestKind.Pdu : RequestKind → Type
  | .readCoils => ReadCoilsPduReq
  | .readDiscreteInputs => ReadDiscreteInputsPduReq
  | .readHolding => ReadHoldingPduReq
  | .readInput => ReadInputPduReq
  | .writeSingleCoil => WriteSingleCoilPduReq
  | .writeSingleRegister => WriteSingleRegisterPduReq
  | .writeMultipleCoils => WriteMultipleCoilsPduReq
  | .writeMultipleRegisters => WriteMultipleRegistersPduReq
  | .readWriteMultipleRegisters => ReadWriteMultipleRegistersPduReq

instance : (k : RequestKind) → PduRead k.Pdu
  | .readCoils => inferInstanceAs (PduRead ReadCoilsPduReq)
  | .readDiscreteInputs => inferInstanceAs (PduRead ReadDiscreteInputsPduReq)
  | .readHolding => inferInstanceAs (PduRead ReadHoldingPduReq)
  | .readInput => inferInstanceAs (PduRead ReadInputPduReq)
  | .writeSingleCoil => inferInstanceAs (PduRead WriteSingleCoilPduReq)
  | .writeSingleRegister => inferInstanceAs (PduRead WriteSingleRegisterPduReq)
  | .writeMultipleCoils => inferInstanceAs (PduRead WriteMultipleCoilsPduReq)
  | .writeMultipleRegisters => inferInstanceAs (PduRead WriteMultipleRegistersPduReq)
  | .readWriteMultipleRegisters => inferInstanceAs (PduRead ReadWriteMultipleRegistersPduReq)

instance : (k : RequestKind) → PduWrite k.Pdu
  | .readCoils => inferInstanceAs (PduWrite ReadCoilsPduReq)
  | .readDiscreteInputs => inferInstanceAs (PduWrite ReadDiscreteInputsPduReq)
  | .readHolding => inferInstanceAs (PduWrite ReadHoldingPduReq)
  | .readInput => inferInstanceAs (PduWrite ReadInputPduReq)
  | .writeSingleCoil => inferInstanceAs (PduWrite WriteSingleCoilPduReq)
  | .writeSingleRegister => inferInstanceAs (PduWrite WriteSingleRegisterPduReq)
  | .writeMultipleCoils => inferInstanceAs (PduWrite WriteMultipleCoilsPduReq)
  | .writeMultipleRegisters => inferInstanceAs (PduWrite WriteMultipleRegistersPduReq)
  | .readWriteMultipleRegisters => inferInstanceAs (PduWrite ReadWriteMultipleRegistersPduReq)

/-- A freshly made request (`Head real{}`): every field at its default. -/
def RequestKind.fresh : (k : RequestKind) → k.Pdu
  | .readCoils => ({} : ReadCoilsPduReq)
  | .readDiscreteInputs => ({} : ReadDiscreteInputsPduReq)
  | .readHolding => ({} : ReadHoldingPduReq)
  | .readInput => ({} : ReadInputPduReq)
  | .writeSingleCoil => ({} : WriteSingleCoilPduReq)
  | .writeSingleRegister => ({} : WriteSingleRegisterPduReq)
  | .writeMultipleCoils => ({} : WriteMultipleCoilsPduReq)
  | .writeMultipleRegisters => ({} : WriteMultipleRegistersPduReq)
  | .readWriteMultipleRegisters => ({} : ReadWriteMultipleRegistersPduReq)

/-- `not_implemented`. -/
structure NotImplemented where
  fc : UInt8 := 0
  deriving DecidableEq, Repr

/-- `pdu_req`: a variant of the nine request types and `not_implemented`. -/
inductive PduReq where
  | request (k : RequestKind) (r : k.Pdu)
  | notImplemented (r : NotImplemented)

/-! ## Decoding a request -/

/-- `read_pdu_variant<Head, Tail...>`: try the alternatives from the head on. The variable is assigned only when the
alternative has been read whole, or when none is left but `not_implemented`. -/
def readPduVariant (functionCode : FunctionCode) : List RequestKind → Read PduReq
  | [], _ => pure (makeErrorCode .illegalFunction, .notImplemented {})
  | head :: tail, resp =>
    if PduRead.fc head.Pdu = functionCode then do
      let (ec, real) ← PduRead.read head.fresh
      if ErrorLike.failed ec then return (ec, resp)
      return (ErrorLike.ok, .request head real)
    else readPduVariant functionCode tail resp

/-- The alternatives of `pdu_req` before `not_implemented`. -/
def RequestKind.all : List RequestKind :=
  [.readCoils, .readDiscreteInputs, .readHolding, .readInput, .writeSingleCoil, .writeSingleRegister,
    .writeMultipleCoils, .writeMultipleRegisters, .readWriteMultipleRegisters]

/-- `read(Reader&, pdu_req&)`. -/
def readPduReq (indeterminate : UInt8) : Read PduReq := fun req => do
  let (ec, functionCode) ← readFunctionCode indeterminate ⟨indeterminate⟩
  if ErrorLike.failed ec then return (ec, req)
  readPduVariant functionCode RequestKind.all req

end Mothbus
