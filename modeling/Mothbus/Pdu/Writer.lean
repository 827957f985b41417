import Mothbus.Pdu.Reader

/-!
# Writing fields

`include/mothbus/pdu/writer.h`. A writer only hands bytes to its sink, one `put` after the other, and never looks at the sink;
a write function is the list of the bytes it puts, in order.
-/

namespace Mothbus

/-- `write(Writer&, uint16_t)`: most significant byte first. -/
def writeUint16 (v : UInt16) : List UInt8 := [((v >>> 8) &&& 0xff).toUInt8, (v &&& 0xff).toUInt8]

/-- `write(Writer&, uint8_t)`. -/
def writeUint8 (v : UInt8) : List UInt8 := [v]

/-- `write(Writer&, const span<byte>&)`. -/
def writeSpan (v : Span) : List UInt8 := v.bytes.flatMap writeUint8

/-- `write(Writer&, const modbus_exception_code&)`: the low byte of the number. -/
def writeModbusExceptionCode (v : ModbusExceptionCode) : List UInt8 := writeUint8 (UInt8.ofInt v.value)

end Mothbus
