import Mothbus.Adu.Buffer

/-!
# Packing registers

`util::memcpy_msb` of `include/mothbus/mothbus.h`, which a server packs the registers of a response with. It copies the memory of the
registers as it is and then, where the host keeps the least significant byte first, swaps the two bytes of each register in place.
-/

namespace Mothbus

/-- `std::endian`, the two values of it that `std::endian::native` has on the hosts of this library. -/
inductive Endian where
  | little | big
  deriving DecidableEq, Repr

/-- The memory of a `uint16_t`. -/
def Endian.object (native : Endian) (v : UInt16) : List UInt8 :=
  match native with
  | .little => [(v &&& 0xff).toUInt8, (v >>> 8).toUInt8]
  | .big => [(v >>> 8).toUInt8, (v &&& 0xff).toUInt8]

/-- `std::ranges::swap(dst[i], dst[i + 1])`. -/
def swapPair (dst : List UInt8) (i : Nat) : List UInt8 := (dst.set i (dst.getD (i + 1) 0)).set (i + 1) (dst.getD i 0)

/-- `memcpy_msb`. The loop goes over `i = 0, 2, ..` below the size. -/
def memcpyMsb (native : Endian) (dst : List UInt8) (src : List UInt16) : Except Fault (List UInt8) := do
  if src.length * 2 ≠ dst.length then throw .assertion
  let dst := (src.flatMap native.object).take dst.length
  if native = .little then return (List.range' 0 ((dst.length + 1) / 2) 2).foldl swapPair dst
  return dst

end Mothbus
