import Mothbus.Lemmas.Reads
import Mothbus.Util

/-!
# Registers from the server to the client

The byte order of a register is handled three times on its way: by the packing of the server, which swaps bytes or not as its host
keeps them, by the PDU, which carries the bytes as they are, and by the loop of the client, which joins them again. Together these
are the identity.
-/

namespace Mothbus

open ErrorLike (ok failed)

/-! ## The packing -/

/-- The mask does not change the high byte. -/
theorem highByte_eq (v : UInt16) : (v >>> 8).toUInt8 = ((v >>> 8) &&& 0xff).toUInt8 := by
  have hv := v.toNat_lt
  have h8 : (8 : UInt16).toNat % 16 = 8 := rfl
  apply UInt8.toNat_inj.mp
  rw [toNat_highByte, UInt16.toNat_toUInt8, UInt16.toNat_shiftRight, h8, Nat.shiftRight_eq_div_pow]
  omega

/-- A pass of the loop swaps the two bytes after those that are done. -/
theorem swapPair_append (done : List UInt8) (a b : UInt8) (rest : List UInt8) :
    swapPair (done ++ a :: b :: rest) done.length = done ++ b :: a :: rest := by
  have hfirst : (done ++ a :: b :: rest).getD done.length 0 = a := by simp
  have hsecond : (done ++ a :: b :: rest).getD (done.length + 1) 0 = b := by simp
  rw [swapPair, hfirst, hsecond]
  simp

/-- The invariant of the loop: what is done is most significant byte first, what is not is as the host keeps it. -/
theorem foldl_swapPair (done : List UInt8) (rest : List UInt16) :
    (List.range' done.length rest.length 2).foldl swapPair (done ++ rest.flatMap Endian.little.object) =
      done ++ rest.flatMap writeUint16 := by
  induction rest generalizing done with
  | nil => rfl
  | cons v rest ih =>
    have hdone := ih (done ++ writeUint16 v)
    rw [List.length_append, length_writeUint16] at hdone
    rw [List.length_cons, List.range'_succ, List.foldl_cons, List.flatMap_cons, List.flatMap_cons]
    show List.foldl swapPair (swapPair (done ++ _ :: _ :: rest.flatMap Endian.little.object) done.length) _ = _
    rw [swapPair_append, highByte_eq, ← List.append_assoc, ← hdone, List.append_assoc]
    rfl

/-- On a host with the most significant byte first, a value stands in memory as it is sent. -/
theorem object_big (v : UInt16) : Endian.big.object v = writeUint16 v := by
  rw [Endian.object, highByte_eq, writeUint16]

/-- The memory of registers is two bytes for each. -/
theorem length_flatMap_object (native : Endian) (registers : List UInt16) :
    (registers.flatMap native.object).length = registers.length * 2 := by
  induction registers with
  | nil => rfl
  | cons v registers ih =>
    have htwo : (native.object v).length = 2 := by
      cases native with
      | little => rfl
      | big => rfl
    rw [List.flatMap_cons, List.length_append, ih, htwo, List.length_cons]
    omega

/-- On either kind of host the registers are packed as a writer puts them. -/
theorem memcpyMsb_eq (native : Endian) {dst : List UInt8} {registers : List UInt16} (h : registers.length * 2 = dst.length) :
    memcpyMsb native dst registers = .ok (registers.flatMap writeUint16) := by
  have hcopied : (registers.flatMap native.object).take dst.length = registers.flatMap native.object :=
    List.take_of_length_le (Nat.le_of_eq ((length_flatMap_object native registers).trans h))
  unfold memcpyMsb
  rw [if_neg (not_not_intro h), hcopied]
  cases native with
  | big =>
    have hobject : Endian.big.object = writeUint16 := funext object_big
    rw [hobject]
    rfl
  | little =>
    have hpasses : ((registers.flatMap Endian.little.object).length + 1) / 2 = registers.length := by
      rw [length_flatMap_object]
      omega
    have hswapped := foldl_swapPair [] registers
    rw [List.nil_append, List.nil_append, List.length_nil] at hswapped
    rw [← hswapped, ← hpasses]
    rfl

/-! ## The path -/

/-- A response that one stream sends to another: the call of the server sends a frame, and on a connection that starts with it the
call of the client succeeds with these registers. -/
def RegistersArrive (respond : Exec Fault Tcp.Stream Unit) (read : Exec Fault Tcp.Stream (ErrorCode × List UInt16))
    (server client : Tcp.Stream) (registers : List UInt16) : Prop :=
  ∃ server' frame, respond server = (.ok (), server') ∧
    server'.nextLayer.outgoing = server.nextLayer.outgoing ++ frame ∧
    ∀ rest, ∃ ec client', read { client with nextLayer.incoming := frame ++ rest } = (.ok (ec, registers), client') ∧
      failed ec = false

section

variable {op : Operation} {p : Plan} {registers out : List UInt16}

/-- What the plan of a read of registers makes of the registers that were packed. -/
theorem tcpResult_packed (h : p.ReadsData (List.replicate (out.length * 2) 0) (Plan.finishRegisters out)) (x : UInt8)
    (hout : out.length = registers.length) {body : List UInt8}
    (hd : CarriesData (PduRead.fc p.expected.Pdu) (registers.flatMap writeUint16) body) :
    p.tcpResult x body = (ok, .registers registers) := by
  have hlen : (registers.flatMap writeUint16).length = out.length * 2 := by
    rw [length_flatMap_writeUint16, hout]
  rw [Plan.tcpResult_registers h x hd (Nat.le_of_eq hlen), if_neg (not_not_intro hlen), hout, makeRegisters_flatMap]

/-- A response with packed registers, at most 123 of them, arrives at a read of that many registers of its function. -/
theorem registersArrive_of_packed (hp : op.plan = .ok p) (hread : op.OnlyReads)
    (hreads : p.ReadsData (List.replicate (out.length * 2) 0) (Plan.finishRegisters out)) {k : ResponseKind} {r : k.Pdu} {n : UInt8}
    (hr : k.contents r = .data n (.ofData (registers.flatMap writeUint16))) (hn : n = UInt8.ofNat (registers.length * 2))
    (hfc : PduRead.fc p.expected.Pdu = PduRead.fc k.Pdu) (hshort : registers.length ≤ 123) (hout : out.length = registers.length)
    {x slave : UInt8} (hslave : slave ≠ 0) {read : Exec Fault Tcp.Stream (ErrorCode × List UInt16)}
    (hop : op.run (Tcp.transport x) slave = read >>= fun r => pure (r.1, .registers r.2)) (server client : Tcp.Stream) :
    RegistersArrive (Tcp.Stream.writeResponse client.transactionId slave r) read server client registers := by
  have hwrite : PduWrite.write r = (PduRead.fc k.Pdu).value :: n :: registers.flatMap writeUint16 := by
    rw [ResponseKind.write_of_data hr, Span.bytes_ofData]
  have hlen : (PduWrite.write r).length = registers.length * 2 + 2 := by
    rw [ResponseKind.length_write_of_data hr, Span.size_ofData, length_flatMap_writeUint16]
  have hcount : n.toNat = (registers.flatMap writeUint16).length := by
    rw [hn, length_flatMap_writeUint16, UInt8.toNat_ofNat']
    omega
  have hd : CarriesData (PduRead.fc p.expected.Pdu) (registers.flatMap writeUint16) (PduWrite.write r) := by
    rw [hfc]
    exact ⟨n, [], hcount, by rw [hwrite, List.append_nil]⟩
  obtain ⟨m, hsent⟩ := Tcp.Stream.writeResponse_ok client.transactionId slave server (k.asserts_eq r) (by omega)
  refine ⟨_, _, hsent, rfl, fun rest => ?_⟩
  obtain ⟨s', hrun, -⟩ := Plan.run_tcp_frame x hslave (hread.sends hp)
    (s := { client with nextLayer.incoming :=
      ((Tcp.frameHeader client.transactionId slave (PduWrite.write r)).bytes ++ PduWrite.write r) ++ rest })
    (Tcp.frameHeader_length _ _ (by omega)) (List.append_assoc _ _ _)
    ((Tcp.expected_frameHeader _ _ (by omega)).mpr (by omega))
  rw [tcpResult_packed hreads x hout hd, ← Operation.run_of_plan _ slave _ hp, hop] at hrun
  obtain ⟨⟨ec, values⟩, s'', hresult, hpure⟩ := Exec.bind_eq_ok hrun
  obtain ⟨hec, hvalues⟩ := Prod.mk.inj (Except.ok.inj (Prod.mk.inj hpure).1)
  obtain rfl : ec = ok := hec
  obtain rfl : values = registers := Output.registers.inj hvalues
  exact ⟨ok, s'', hresult, rfl⟩

end

/-- Up to 123 registers arrive as they were packed, from hosts of either byte order: holding registers and input registers. -/
theorem registers_arrive (native : Endian) (registers out : List UInt16) (dst : List UInt8) (address : UInt16) (x slave : UInt8)
    (server client : Tcp.Stream) (hshort : registers.length ≤ 123) (hdst : registers.length * 2 = dst.length)
    (hout : out.length = registers.length) (hslave : slave ≠ 0) :
    ∃ bytes, memcpyMsb native dst registers = .ok bytes ∧
      RegistersArrive (Tcp.Stream.writeResponse client.transactionId slave (ReadHoldingPduResp.new (.ofData bytes)))
        (Master.readRegisters (Tcp.transport x) slave address out) server client registers ∧
      RegistersArrive (Tcp.Stream.writeResponse client.transactionId slave (ReadInputPduResp.new (.ofData bytes)))
        (Master.readInputRegisters (Tcp.transport x) slave address out) server client registers := by
  have hcount : UInt8.ofNat (registers.flatMap writeUint16).length = UInt8.ofNat (registers.length * 2) := by
    rw [length_flatMap_writeUint16]
  refine ⟨registers.flatMap writeUint16, memcpyMsb_eq native hdst, ?_, ?_⟩
  · have hp : (Operation.readRegisters address out).plan = .ok _ := rfl
    exact registersArrive_of_packed (k := .readHolding) hp trivial (Operation.madeFor hp).2 rfl hcount rfl hshort hout hslave rfl
      server client
  · have hp : (Operation.readInputRegisters address out).plan = .ok _ := rfl
    exact registersArrive_of_packed (k := .readInput) hp trivial (Operation.madeFor hp).2 rfl hcount rfl hshort hout hslave rfl
      server client

theorem registers_arrive_two :
    ∃ bytes, memcpyMsb .little [0, 0, 0, 0] [0x1234, 7] = .ok bytes ∧
      RegistersArrive (Tcp.Stream.writeResponse ({} : Tcp.Stream).transactionId 1 (ReadHoldingPduResp.new (.ofData bytes)))
        (Master.readRegisters (Tcp.transport 0) 1 0 [0, 0]) {} {} [0x1234, 7] ∧
      RegistersArrive (Tcp.Stream.writeResponse ({} : Tcp.Stream).transactionId 1 (ReadInputPduResp.new (.ofData bytes)))
        (Master.readInputRegisters (Tcp.transport 0) 1 0 [0, 0]) {} {} [0x1234, 7] :=
  registers_arrive .little [0x1234, 7] [0, 0] [0, 0, 0, 0] 0 0 1 {} {} (by decide) rfl rfl (by decide)

end Mothbus
