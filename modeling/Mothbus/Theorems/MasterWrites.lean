import Mothbus.Lemmas.Coils
import Mothbus.Lemmas.Writes

/-!
# What the writes of a master send and accept

A write is to be confirmed by its own echo only: a response with the address that was sent, and the value or the quantity that was
sent. The response object is constructed with these words, but the client overwrites them and nothing compares them.

The coils of a write are packed eight to a byte. The values are not normalised before they are added to the byte, so that a value
above one carries into the bits of its neighbours.
-/

namespace Mothbus

open ErrorLike (ok failed)

namespace Operation

/-! ## The echo of a write -/

/-- The words of the response that confirms a write: the address that is sent, and the value or the quantity. -/
def echo : Operation → Option (UInt16 × UInt16)
  | writeSingleCoil address value => some (address, if value then 0xFF00 else 0x0000)
  | writeSingleRegister address value => some (address, value)
  | writeMultipleCoils address values | writeMultipleRegisters address values => some (address, UInt16.ofNat values.length)
  | readCoils _ _ _ | readDiscreteInputs _ _ _ | readRegisterBytes _ _ | readRegisters _ _ | readWriteMultipleRegisters _ _ _ _
  | readInputRegisterBytes _ _ | readInputRegisters _ _ => none

/-- The response reader of the single writes tests the value for being one of a coil. -/
def checksCoilValue : Operation → Bool
  | writeSingleCoil _ _ | writeSingleRegister _ _ => true
  | _ => false

/-- A write is to be confirmed only by its own echo: whenever it succeeds, a response with these words was received during the
call. -/
def ConfirmedOnlyBy {σ : Type} (op : Operation) (T : Transport σ) (slave : UInt8) (received : σ → σ → List UInt8 → Prop)
    (address value : UInt16) (s : σ) : Prop :=
  op.SucceedsOnly T slave received (fun pdu _ => CarriesWords op.function address value pdu) s

variable {op : Operation} {p : Plan} {address value : UInt16}

/-- The plan of a write: the response object is its echo. -/
theorem writesWords_of_echo (hecho : op.echo = some (address, value)) (hp : op.plan = .ok p) :
    p.WritesWords address value op.checksCoilValue := by
  have hmade := (madeFor hp).2
  cases op with
  | writeSingleCoil _ _ | writeSingleRegister _ _ | writeMultipleCoils _ _ | writeMultipleRegisters _ _ =>
    obtain ⟨rfl, rfl⟩ := Prod.mk.inj (Option.some.inj hecho)
    exact hmade
  | readCoils _ _ _ | readDiscreteInputs _ _ _ | readRegisterBytes _ _ | readRegisters _ _ | readWriteMultipleRegisters _ _ _ _
  | readInputRegisterBytes _ _ | readInputRegisters _ _ => cases hecho

/-- The successes over TCP that are not on the echo: an exception with the code zero, and other words. -/
theorem write_tcp_bad_iff (hecho : op.echo = some (address, value)) (hp : op.plan = .ok p) (x : UInt8) (body : List UInt8) :
    (failed (p.tcpResult x body).1 = false ∧ ¬CarriesWords op.function address value body) ↔
    Tcp.IsZeroException body ∨ ∃ address' value', CarriesWords op.function address' value' body ∧
      (op.checksCoilValue = true → isCoilValue value' = true) ∧ (address', value') ≠ (address, value) := by
  have hfc := (madeFor hp).1
  rw [Plan.writes_tcp_ok_iff (writesWords_of_echo hecho hp), hfc]
  constructor
  · rintro ⟨hzero | ⟨address', value', hw, hcheck⟩, hnot⟩
    · exact Or.inl hzero
    · refine Or.inr ⟨address', value', hw, hcheck, ?_⟩
      rintro ⟨⟩
      exact hnot hw
  · rintro (hzero | ⟨address', value', hw, hcheck, hne⟩)
    · refine ⟨Or.inl hzero, fun hw => ?_⟩
      rw [← hfc] at hw
      exact hw.not_zeroException hzero
    · refine ⟨Or.inr ⟨address', value', hw, hcheck⟩, fun hw' => hne ?_⟩
      obtain ⟨rfl, rfl⟩ := hw.unique hw'
      rfl

/-- Over RTU the checksum decides on success, whatever the words are. -/
theorem write_rtu_bad_iff (hecho : op.echo = some (address, value)) (hp : op.plan = .ok p) (y : Rtu.Indeterminate) (slave : UInt8)
    (body : List UInt8) :
    (failed (p.lineResult y slave body).1 = false ∧ ¬CarriesWords op.function address value body) ↔
    op.ChecksumPasses y slave body ∧ ¬CarriesWords op.function address value body := by
  rw [Plan.writes_rtu_ok_iff (writesWords_of_echo hecho hp), checksumPasses_iff hp]

/-- A write is confirmed only by its echo, over TCP if and only if the request cannot be sent or the next frame is neither an
exception with the code zero nor a response with other words that passes the test of the reader; over RTU if and only if the request
cannot be sent, no frame of the slave that fits the array arrives, its checksum does not pass, or it is the echo. -/
theorem write_confirmedOnlyBy_echo_iff (op : Operation) (address value : UInt16) (x : UInt8) (y : Rtu.Indeterminate)
    (slave : UInt8) (s : Tcp.Stream) (t : Rtu.Stream) (hecho : op.echo = some (address, value)) (hslave : slave ≠ 0) :
    (op.ConfirmedOnlyBy (Tcp.transport x) slave Tcp.Received address value s ↔
      ¬(op.Sends 313 ∧ ∃ h body, Tcp.StartsWithFrame s.nextLayer.incoming h body ∧ h.Expected s.transactionId slave ∧
        (Tcp.IsZeroException body ∨ ∃ address' value', CarriesWords op.function address' value' body ∧
          (op.checksCoilValue = true → isCoilValue value' = true) ∧ (address', value') ≠ (address, value)))) ∧
    (op.ConfirmedOnlyBy (Rtu.transport y) slave (Rtu.Received slave) address value t ↔
      ¬(op.Sends 317 ∧ ∃ body, Rtu.frameBytes t.line = slave :: body ∧ 1 + body.length ≤ 320 ∧
        op.ChecksumPasses y slave body ∧ ¬CarriesWords op.function address value body)) := by
  constructor
  · exact succeedsOnly_tcp_iff hslave (fun p hp => write_tcp_bad_iff hecho hp x) s
  · exact succeedsOnly_rtu_iff hslave (fun p hp => write_rtu_bad_iff hecho hp y slave) t

/-- A connection on which the answer to request 0 confirms a write to coil 8. -/
def otherEcho : Tcp.Stream :=
  { nextLayer := { incoming := (Tcp.frameHeader 0 1 [0x05, 0, 8, 0xFF, 0]).bytes ++ [0x05, 0, 8, 0xFF, 0] } }

theorem write_confirmedOnlyBy_echo_coil :
    ((writeSingleCoil 7 true).ConfirmedOnlyBy (Tcp.transport 0) 1 Tcp.Received 7 0xFF00 otherEcho ↔
      ¬((writeSingleCoil 7 true).Sends 313 ∧ ∃ h body, Tcp.StartsWithFrame otherEcho.nextLayer.incoming h body ∧
        h.Expected otherEcho.transactionId 1 ∧
        (Tcp.IsZeroException body ∨ ∃ address' value', CarriesWords (writeSingleCoil 7 true).function address' value' body ∧
          ((writeSingleCoil 7 true).checksCoilValue = true → isCoilValue value' = true) ∧ (address', value') ≠ (7, 0xFF00)))) ∧
    ((writeSingleCoil 7 true).ConfirmedOnlyBy (Rtu.transport ⟨0, 0, 0, 0⟩) 1 (Rtu.Received 1) 7 0xFF00 {} ↔
      ¬((writeSingleCoil 7 true).Sends 317 ∧ ∃ body, Rtu.frameBytes [] = 1 :: body ∧ 1 + body.length ≤ 320 ∧
        (writeSingleCoil 7 true).ChecksumPasses ⟨0, 0, 0, 0⟩ 1 body ∧
          ¬CarriesWords (writeSingleCoil 7 true).function 7 0xFF00 body)) :=
  write_confirmedOnlyBy_echo_iff (writeSingleCoil 7 true) 7 0xFF00 0 ⟨0, 0, 0, 0⟩ 1 otherEcho {} rfl (by decide)

/-- A write to coil 7 succeeds on the confirmation of a write to coil 8. -/
theorem otherEcho_accepted : ¬(writeSingleCoil 7 true).ConfirmedOnlyBy (Tcp.transport 0) 1 Tcp.Received 7 0xFF00 otherEcho := by
  have hecho : (writeSingleCoil 7 true).echo = some (7, 0xFF00) := rfl
  intro hsound
  refine (succeedsOnly_tcp_iff (by decide) (fun p hp => write_tcp_bad_iff hecho hp 0) otherEcho).mp hsound
    ⟨⟨_, rfl, ?_⟩, _, [0x05, 0, 8, 0xFF, 0], ⟨rfl, [], rfl⟩, ⟨rfl, rfl, rfl, by decide, by decide⟩,
      Or.inr ⟨8, 0xFF00, ⟨[], rfl⟩, fun _ => rfl, by decide⟩⟩
  decide

/-! ## The packed coils -/

/-- A call writes a request: over any transport, that is the first thing it does. -/
def Writes (op : Operation) {k : RequestKind} (r : k.Pdu) : Prop :=
  ∀ (σ : Type) (T : Transport σ) (slave : UInt8), ∃ rest : UInt16 → Exec Fault σ (ErrorCode × Output),
    op.run T slave = T.writeRequest slave r >>= rest

theorem writes_of_plan (hp : op.plan = .ok p) : op.Writes p.request := by
  intro σ T slave
  refine ⟨fun transactionId => (assert p.asserts >>= fun _ => T.readResponse transactionId slave p.response) >>=
    fun r => pure (p.finish r.1 r.2), ?_⟩
  rw [run_eq_plan, hp]
  show p.run T slave = _
  unfold Plan.run Master.exchange
  simp only [bind_assoc]

/-- A transport that stops at the first request and keeps its bytes. -/
def recorder : Transport (List UInt8) where
  writeRequest _ r := fun _ => (.error .assertion, PduWrite.write r)
  readResponse _ _ _ := Exec.stop .assertion

/-- The bytes of the request that a call writes are determined by the call. -/
theorem Writes.unique {k k' : RequestKind} {r : k.Pdu} {r' : k'.Pdu} (h : op.Writes r) (h' : op.Writes r') :
    PduWrite.write r = PduWrite.write r' := by
  obtain ⟨rest, hrun⟩ := h (List UInt8) recorder 0
  obtain ⟨rest', hrun'⟩ := h' (List UInt8) recorder 0
  have hstate : op.run recorder 0 [] = (.error .assertion, PduWrite.write r) := by
    rw [hrun]
    rfl
  have hstate' : op.run recorder 0 [] = (.error .assertion, PduWrite.write r') := by
    rw [hrun']
    rfl
  exact (Prod.mk.inj (hstate.symm.trans hstate')).2

/-- The request of a write of coils is as it is to be: the quantity and the byte count are those of the values, and a bit of the value
bytes is set if and only if the coil of the bit is one of the values and not zero. -/
def PacksCoils (values : List UInt8) (r : WriteMultipleCoilsPduReq) : Prop :=
  r.quantityOfCoils.toNat = values.length ∧ r.byteCount.toNat = (values.length + 7) / 8 ∧
  r.values.length = r.byteCount.toNat ∧
  ∀ k < 8 * r.byteCount.toNat,
    (r.values.getD (k / 8) 0).toNat.testBit (k % 8) = decide (k < values.length ∧ values.getD k 0 ≠ 0)

/-- A request of coils is determined by its bytes. -/
theorem writeMultipleCoilsPduReq_inj {r r' : WriteMultipleCoilsPduReq} (h : PduWrite.write r = PduWrite.write r') : r = r' := by
  obtain ⟨address, quantity, byteCount, values⟩ := r
  obtain ⟨address', quantity', byteCount', values'⟩ := r'
  have hbytes : writeFunctionCode .writeMultipleCoils ++ writeUint16 address ++ writeUint16 quantity ++ writeUint8 byteCount ++
      values.flatMap writeUint8 = writeFunctionCode .writeMultipleCoils ++ writeUint16 address' ++ writeUint16 quantity' ++
      writeUint8 byteCount' ++ values'.flatMap writeUint8 := h
  obtain ⟨hhead, hvalues⟩ := List.append_inj hbytes rfl
  obtain ⟨hhead, hcount⟩ := List.append_inj hhead rfl
  obtain ⟨hhead, hquantity⟩ := List.append_inj hhead rfl
  obtain ⟨-, haddress⟩ := List.append_inj hhead rfl
  rw [flatMap_writeUint8, flatMap_writeUint8] at hvalues
  rw [writeUint16_inj haddress, writeUint16_inj hquantity, (List.cons.inj hcount).1, hvalues]

/-- The request of a write of coils. -/
theorem writeMultipleCoils_request {values : List UInt8} (address : UInt16) (hsize : 1 ≤ values.length ∧ values.length ≤ 1968) :
    ∃ r : WriteMultipleCoilsPduReq, (writeMultipleCoils address values).Writes (k := .writeMultipleCoils) r ∧
      r.quantityOfCoils.toNat = values.length ∧ r.byteCount.toNat = (values.length + 7) / 8 ∧
      r.values = (List.range r.byteCount.toNat).map (Master.packCoils ∘ Master.coilsOfByte values) := by
  have hcheck : checkArgument (1 ≤ values.length && values.length ≤ 1968) = .ok () := by
    simp [checkArgument, hsize]
  have hplan : ∃ p, (writeMultipleCoils address values).plan = .ok p := by
    simp only [plan, hcheck]
    exact ⟨_, rfl⟩
  obtain ⟨p, hp⟩ := hplan
  have hwrites := writes_of_plan hp
  obtain ⟨_, _, hp'⟩ := bind_eq_ok hp
  obtain rfl := Except.ok.inj hp'
  refine ⟨_, hwrites, Master.toNat_quantityOfCoils hsize.2, Master.toNat_coilByteCount hsize, ?_⟩
  exact List.map_congr_left fun i _ => congrArg Master.packCoils (Master.chunk_eq_coilsOfByte values i)

/-- The packed bits of a request are exact if and only if the excess of each byte is a multiple of 256. -/
theorem packsCoils_iff {values : List UInt8} {r : WriteMultipleCoilsPduReq} (hquantity : r.quantityOfCoils.toNat = values.length)
    (hcount : r.byteCount.toNat = (values.length + 7) / 8)
    (hvalues : r.values = (List.range r.byteCount.toNat).map (Master.packCoils ∘ Master.coilsOfByte values)) :
    PacksCoils values r ↔ ∀ i, 256 ∣ Master.excess (Master.coilsOfByte values i) := by
  have hlen : r.values.length = r.byteCount.toNat := by
    rw [hvalues, List.length_map, List.length_range]
  have hbyte : ∀ i < r.byteCount.toNat, r.values.getD i 0 = Master.packCoils (Master.coilsOfByte values i) := by
    intro i hi
    rw [hvalues, List.getD_eq_getElem?_getD, List.getElem?_map, List.getElem?_range hi]
    rfl
  have hcoil : ∀ k, (k < values.length ∧ values.getD k 0 ≠ 0) ↔ values.getD k 0 ≠ 0 := by
    intro k
    constructor
    · exact And.right
    · intro hne
      refine ⟨?_, hne⟩
      by_contra hk
      exact hne (List.getD_eq_default _ _ (by omega))
  constructor
  · rintro ⟨-, -, -, hbits⟩ i
    by_cases hi : i < r.byteCount.toNat
    · refine (Master.packCoils_exact_iff (Master.length_coilsOfByte values i)).mp fun c hc => ?_
      have hdiv : (8 * i + c) / 8 = i := by omega
      have hmod : (8 * i + c) % 8 = c := by omega
      have hbit := hbits (8 * i + c) (by omega)
      have hget := Master.getD_coilsOfByte values (8 * i + c)
      simp only [hcoil, hdiv, hmod, hbyte i hi] at hbit hget
      rw [hbit, hget]
    · rw [Master.coilsOfByte_eq_nil (by omega)]
      exact Nat.dvd_zero 256
  · intro hexcess
    refine ⟨hquantity, hcount, hlen, fun k hk => ?_⟩
    have hi : k / 8 < r.byteCount.toNat := by omega
    have hc : k % 8 < 8 := Nat.mod_lt _ (by decide)
    have hbit := (Master.packCoils_exact_iff (Master.length_coilsOfByte values (k / 8))).mpr (hexcess (k / 8)) (k % 8) hc
    simp only [hcoil]
    rw [hbyte _ hi, hbit, Master.getD_coilsOfByte]

/-- The request of a write of coils is exact if and only if in each group of eight values what they are more than one, each at the bit
of its coil, adds up to a multiple of 256: so whenever no value is more than one. -/
theorem writeMultipleCoils_packsCoils_iff (address : UInt16) (values : List UInt8)
    (hsize : 1 ≤ values.length ∧ values.length ≤ 1968) :
    (∃ r : WriteMultipleCoilsPduReq, (writeMultipleCoils address values).Writes (k := .writeMultipleCoils) r ∧
      PacksCoils values r) ↔ ∀ i, 256 ∣ Master.excess (Master.coilsOfByte values i) := by
  obtain ⟨r, hwrites, hquantity, hcount, hvalues⟩ := writeMultipleCoils_request address hsize
  have hiff := packsCoils_iff hquantity hcount hvalues
  constructor
  · rintro ⟨r', hwrites', hpacks⟩
    rw [← writeMultipleCoilsPduReq_inj (hwrites.unique hwrites')] at hpacks
    exact hiff.mp hpacks
  · intro hexcess
    exact ⟨r, hwrites, hiff.mpr hexcess⟩

theorem writeMultipleCoils_packsCoils_threeCoils :
    (∃ r : WriteMultipleCoilsPduReq, (writeMultipleCoils 0 [1, 0, 1]).Writes (k := .writeMultipleCoils) r ∧
      PacksCoils [1, 0, 1] r) ↔ ∀ i, 256 ∣ Master.excess (Master.coilsOfByte [1, 0, 1] i) :=
  writeMultipleCoils_packsCoils_iff 0 [1, 0, 1] (by decide)

/-- One coil with the value two: its own bit is clear, and the bit after it is set. -/
theorem coil_two_carries : ¬∃ r : WriteMultipleCoilsPduReq,
    (writeMultipleCoils 0 [2]).Writes (k := .writeMultipleCoils) r ∧ PacksCoils [2] r := by
  rintro ⟨r, hwrites, hpacks⟩
  have hsize : 1 ≤ [(2 : UInt8)].length ∧ [(2 : UInt8)].length ≤ 1968 := by decide
  obtain ⟨r', hwrites', hquantity, hcount, hvalues⟩ := writeMultipleCoils_request 0 hsize
  obtain rfl := writeMultipleCoilsPduReq_inj (hwrites.unique hwrites')
  have hexcess := (packsCoils_iff hquantity hcount hvalues).mp hpacks 0
  exact absurd hexcess (by decide)

/-- On values of zero and one the request is exact. -/
theorem writeMultipleCoils_packsCoils_of_le_one (address : UInt16) {values : List UInt8}
    (hsize : 1 ≤ values.length ∧ values.length ≤ 1968) (hvalues : ∀ v ∈ values, v.toNat ≤ 1) :
    ∃ r : WriteMultipleCoilsPduReq, (writeMultipleCoils address values).Writes (k := .writeMultipleCoils) r ∧
      PacksCoils values r := by
  obtain ⟨r, hwrites, hquantity, hcount, hbytes⟩ := writeMultipleCoils_request address hsize
  refine ⟨r, hwrites, (packsCoils_iff hquantity hcount hbytes).mpr fun i => ?_⟩
  rw [Master.excess_eq_zero fun v hv => hvalues v (Master.mem_of_mem_coilsOfByte hv)]
  exact Nat.dvd_zero 256

end Operation

end Mothbus
