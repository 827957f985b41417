import Mothbus.Error

/-!
# Reading fields

`include/mothbus/pdu/reader.h`. The read functions are templates over the reader, so they are read programs here: what they
ask of a reader is one byte at a time, into a variable. Which function answers the request (`adu::read` for `adu::buffer`, the
generic `read(Reader&, uint8_t&)` otherwise) is up to the source they are run against.
-/

namespace Mothbus

open ErrorLike (ok failed)

/-- `error_code read(Reader&, T&)`: a decoder over bytes that returns an error code. -/
abbrev Read (α : Type) := Decoder ErrorCode UInt8 α

/-- The memory a `span<byte>` refers to, and how much of it the span still covers. The spans of this library all start where
the caller's memory starts; shrinking one leaves the memory behind it in place. -/
structure Span where
  data : List UInt8
  size : Nat
  size_le : size ≤ data.length
  deriving DecidableEq, Repr

namespace Span

/-- A span over the whole of some memory. -/
def ofData (data : List UInt8) : Span := ⟨data, data.length, Nat.le_refl _⟩

/-- The bytes the span covers. -/
def bytes (v : Span) : List UInt8 := v.data.take v.size

/-- `subspan(0, n)`. -/
def first (v : Span) (n : Nat) (h : n ≤ v.size) : Span := ⟨v.data, n, Nat.le_trans h v.size_le⟩

/-- Store bytes from the start of the memory on. -/
def store (l : List UInt8) (v : Span) : Span :=
  ⟨l ++ v.data.drop l.length, v.size, by
    have := v.size_le
    simp only [List.length_append, List.length_drop]
    omega⟩

/-- A span covers as many bytes as its size says. -/
@[simp] theorem length_bytes (v : Span) : v.bytes.length = v.size := by
  simp [bytes, v.size_le]

/-- A span over the whole of some memory covers all of it. -/
@[simp] theorem bytes_ofData (l : List UInt8) : (ofData l).bytes = l := by
  simp [ofData, bytes]

@[simp] theorem size_ofData (l : List UInt8) : (ofData l).size = l.length := rfl

@[simp] theorem data_ofData (l : List UInt8) : (ofData l).data = l := rfl

@[simp] theorem size_first (v : Span) (n : Nat) (h : n ≤ v.size) : (v.first n h).size = n := rfl

end Span

/-! ## The read functions -/

/-- `read(Reader&, uint8_t&)`: one request. -/
def readUint8 : Read UInt8 := fun v => ReadProgram.request v

/-- `read(Reader&, uint16_t&)`: two bytes, most significant first. When only the first is there, it is kept. -/
def readUint16 : Read UInt16 := fun v => do
  let (ec, b) ← readUint8 0
  if failed ec then return (ec, v)
  let v := b.toUInt16 <<< 8
  let (ec, b) ← readUint8 b
  if failed ec then return (ec, v)
  return (ok, v ||| b.toUInt16)

/-- The body of the loop of `read(Reader&, span<byte>&)`. -/
def readByte : Read UInt8 := fun b => do
  let (ec, temp) ← readUint8 0
  if failed ec then return (ec, b)
  return (ec, temp)

/-- `read(Reader&, span<byte>&)`: as many bytes as the span covers. -/
def readSpan : Read Span := readByte.each.focus Span.bytes Span.store

/-- `read(Reader&, span<uint16_t>&)`. -/
def readWords : Read (List UInt16) := readUint16.each

/-- `read(Reader&, modbus_exception_code&)`. -/
def readModbusExceptionCode : Read ModbusExceptionCode := fun v => do
  let (ec, h) ← readUint8 0
  if failed ec then return (ec, v)
  return (ok, ⟨(h.toNat : Int)⟩)

/-- `std::vector::resize(n, x)`. -/
def resize {α : Type} (l : List α) (n : Nat) (x : α) : List α := l.take n ++ List.replicate (n - l.length) x

/-- A vector is as long as it has been resized to. -/
@[simp] theorem length_resize {α : Type} (l : List α) (n : Nat) (x : α) : (resize l n x).length = n := by
  simp only [resize, List.length_append, List.length_take, List.length_replicate]
  omega

end Mothbus
