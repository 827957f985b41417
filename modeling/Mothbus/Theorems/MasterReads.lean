import Mothbus.Lemmas.Reads

/-!
# What the reads of a master return

A read is to return the data of a response that came during the call. Three things stand against that: an exception with the code
zero ends the client with success and leaves the response object as it was constructed, with a byte count that is already the size
of the span; a read from slave 0 does not wait for a response at all; and the read and write of registers does not compare the byte
count with its span.
-/

namespace Mothbus

open ErrorLike (ok failed)

/-- The contents of a span are some data: the bytes, or the registers that are written as the bytes. -/
def Output.Holds (output : Output) (data : List UInt8) : Prop :=
  match output with
  | .none => False
  | .bytes out => out = data
  | .registers out => out.flatMap writeUint16 = data

/-! ## The reads over TCP -/

namespace Operation

variable {op : Operation} {p : Plan}

/-- A read that succeeds on data has them in its span. -/
theorem OnlyReads.holds (hread : op.OnlyReads) (hp : op.plan = .ok p) {x : UInt8} {data body : List UInt8}
    (hd : CarriesData op.function data body) (hok : failed (p.tcpResult x body).1 = false) :
    (p.tcpResult x body).2.Holds data := by
  obtain ⟨hfc, hmade⟩ := madeFor hp
  rw [← hfc] at hd
  cases op with
  | readCoils _ _ out | readDiscreteInputs _ _ out | readRegisterBytes _ out | readInputRegisterBytes _ out =>
    have hfit := Plan.fits_of_success hp hmade hd hok
    rw [Plan.tcpResult_bytes hmade x hd hfit] at hok ⊢
    by_cases hlen : data.length = out.length
    · show data ++ out.drop data.length = data
      rw [hlen, List.drop_length, List.append_nil]
    · rw [if_pos hlen] at hok
      cases hok
  | readRegisters _ out | readInputRegisters _ out =>
    have hfit := Plan.fits_of_success hp hmade hd hok
    rw [List.length_replicate] at hfit
    rw [Plan.tcpResult_registers hmade x hd hfit] at hok ⊢
    by_cases hlen : data.length = out.length * 2
    · rw [if_neg (not_not_intro hlen)]
      exact flatMap_makeRegisters hlen
    · rw [if_pos hlen] at hok
      cases hok
  | writeSingleCoil _ _ | writeMultipleCoils _ _ | writeSingleRegister _ _ | writeMultipleRegisters _ _
  | readWriteMultipleRegisters _ _ _ _ => exact hread.elim

/-- The plan of such an operation reads data. -/
theorem OnlyReads.readsData (hread : op.OnlyReads) (hp : op.plan = .ok p) : ∃ space finish, p.ReadsData space finish := by
  have hmade := (madeFor hp).2
  cases op with
  | readCoils _ _ _ | readDiscreteInputs _ _ _ | readRegisterBytes _ _ | readRegisters _ _ | readInputRegisterBytes _ _
  | readInputRegisters _ _ => exact ⟨_, _, hmade⟩
  | writeSingleCoil _ _ | writeMultipleCoils _ _ | writeSingleRegister _ _ | writeMultipleRegisters _ _
  | readWriteMultipleRegisters _ _ _ _ => exact hread.elim

/-- With the response object as it was constructed, an operation succeeds unless its span is too long for the byte count. -/
theorem failed_finish_untouched (hp : op.plan = .ok p) :
    failed (p.finish (makeErrorCode .success) p.response).1 = op.spanTooLong := by
  have hends := ends hp
  have hsame := hends.success (makeErrorCode .success) ok p.response rfl rfl
  rw [hsame.1.1, hends.untouched]

/-- The successes of a read that are not of data: an exception with the code zero, if the byte count of the response object is the
size of the span. -/
theorem OnlyReads.success_without_data_iff (hread : op.OnlyReads) (hp : op.plan = .ok p) (x : UInt8) (body : List UInt8) :
    (failed (p.tcpResult x body).1 = false ∧
      ¬∃ data, CarriesData op.function data body ∧ (p.tcpResult x body).2.Holds data) ↔
    op.spanTooLong = false ∧ Tcp.IsZeroException body := by
  have hfc := (madeFor hp).1
  constructor
  · rintro ⟨hok, hnot⟩
    obtain ⟨space, finish, hreads⟩ := hread.readsData hp
    rcases Plan.body_of_success hp hreads hok with hzero | ⟨data, hd, -⟩
    · rw [Plan.tcpResult_zeroException x hzero, failed_finish_untouched hp] at hok
      exact ⟨hok, hzero⟩
    · rw [hfc] at hd
      exact absurd ⟨data, hd, hread.holds hp hd hok⟩ hnot
  · rintro ⟨hshort, hzero⟩
    rw [Plan.tcpResult_zeroException x hzero, failed_finish_untouched hp]
    refine ⟨hshort, ?_⟩
    rintro ⟨data, hd, -⟩
    rw [← hfc] at hd
    exact hd.not_zeroException hzero

/-- A read from slave 0 takes nothing off the connection and ends with the response object as it was constructed. -/
theorem OnlyReads.run_slave_zero (hread : op.OnlyReads) (hp : op.plan = .ok p) (x : UInt8) (s : Tcp.Stream) :
    ∃ s', op.run (Tcp.transport x) 0 s = (.ok (p.finish (makeErrorCode .success) p.response), s') ∧
      s'.nextLayer.incoming = s.nextLayer.incoming := by
  obtain ⟨m, hrun⟩ := p.run_tcp x 0 (hread.sends hp) s
  rw [← run_of_plan _ 0 s hp] at hrun
  exact ⟨_, hrun, rfl⟩

/-- What a read is to be: whenever it succeeds, its span holds exactly the data of a response of the requested function that was
received during the call. -/
def ReadsOnlyData (op : Operation) (x slave : UInt8) (s : Tcp.Stream) : Prop :=
  op.SucceedsOnly (Tcp.transport x) slave Tcp.Received
    (fun pdu output => ∃ data, CarriesData op.function data pdu ∧ output.Holds data) s

/-- From slave 0 it is so only where the call never succeeds. -/
theorem OnlyReads.readsOnlyData_slave_zero_iff (hread : op.OnlyReads) (hp : op.plan = .ok p) (x : UInt8) (s : Tcp.Stream) :
    op.ReadsOnlyData x 0 s ↔ op.spanTooLong = true := by
  obtain ⟨s', hrun, hin⟩ := hread.run_slave_zero hp x s
  have hfailed := failed_finish_untouched hp
  constructor
  · intro hsound
    by_contra hlong
    obtain ⟨pdu, ⟨h, -, hreceived⟩, -⟩ := hsound _ _ s' hrun (hfailed.trans (Bool.eq_false_iff.mpr hlong))
    have hlen := congrArg List.length hreceived
    rw [hin, List.length_append, List.length_append, h.length_bytes] at hlen
    have hsize : Tcp.MbapHeader.headerSize = 7 := rfl
    omega
  · intro hlong ec output s'' hrun' hok
    obtain ⟨hec, -⟩ := Prod.mk.inj (Exec.ok_unique hrun hrun').1
    rw [hec, hok, hlong] at hfailed
    cases hfailed

/-- From another slave it is so unless the next frame is an exception with the code zero. -/
theorem OnlyReads.readsOnlyData_iff_of_slave (hread : op.OnlyReads) (hp : op.plan = .ok p) (x : UInt8) {slave : UInt8}
    (hslave : slave ≠ 0) (s : Tcp.Stream) :
    op.ReadsOnlyData x slave s ↔
      op.spanTooLong = true ∨ ¬∃ h body, Tcp.StartsWithFrame s.nextLayer.incoming h body ∧
        h.Expected s.transactionId slave ∧ Tcp.IsZeroException body := by
  have hbad := fun q (hq : op.plan = .ok q) => hread.success_without_data_iff hq x
  have hsends : op.Sends 313 := ⟨p, hp, hread.sends hp⟩
  unfold ReadsOnlyData
  rw [succeedsOnly_tcp_iff hslave hbad]
  cases hlong : op.spanTooLong with
  | true => simp
  | false => simp [hsends]

/-- A read is so if and only if its span is too long for a byte count, where the call never succeeds, or the slave is not 0 and the
next frame is not an exception with the code zero. -/
theorem readsOnlyData_iff (op : Operation) (p : Plan) (x slave : UInt8) (s : Tcp.Stream) (hread : op.OnlyReads)
    (hp : op.plan = .ok p) :
    op.ReadsOnlyData x slave s ↔
      op.spanTooLong = true ∨ slave ≠ 0 ∧ ¬∃ h body, Tcp.StartsWithFrame s.nextLayer.incoming h body ∧
        h.Expected s.transactionId slave ∧ Tcp.IsZeroException body := by
  by_cases hslave : slave = 0
  · subst hslave
    rw [hread.readsOnlyData_slave_zero_iff hp]
    simp
  · rw [hread.readsOnlyData_iff_of_slave hp x hslave]
    simp [hslave]

/-- A connection on which the answer to request 0 is one register. -/
def answeredStream : Tcp.Stream :=
  { nextLayer := { incoming := (Tcp.frameHeader 0 1 [0x03, 2, 0, 7]).bytes ++ [0x03, 2, 0, 7] } }

theorem readsOnlyData_oneRegister :
    (readRegisters 0 [0]).ReadsOnlyData 0 1 answeredStream ↔
      (readRegisters 0 [0]).spanTooLong = true ∨ (1 : UInt8) ≠ 0 ∧
        ¬∃ h body, Tcp.StartsWithFrame answeredStream.nextLayer.incoming h body ∧
          h.Expected answeredStream.transactionId 1 ∧ Tcp.IsZeroException body :=
  readsOnlyData_iff (readRegisters 0 [0]) _ 0 1 answeredStream trivial rfl

/-- A connection on which the answer to request 0 is an exception with the code zero. -/
def zeroExceptionStream : Tcp.Stream :=
  { nextLayer := { incoming := (Tcp.frameHeader 0 1 [0x83, 0]).bytes ++ [0x83, 0] } }

/-- A register of slave 0 is read without an answer, and one of slave 1 on an exception with the code zero. -/
theorem register_read_without_data :
    ¬(readRegisters 0 [0]).ReadsOnlyData 0 0 {} ∧ ¬(readRegisters 0 [0]).ReadsOnlyData 0 1 zeroExceptionStream := by
  have hread : (readRegisters 0 [0]).OnlyReads := trivial
  constructor
  · rw [hread.readsOnlyData_slave_zero_iff rfl]
    decide
  · rw [hread.readsOnlyData_iff_of_slave rfl 0 (by decide)]
    rintro (hlong | hnone)
    · cases hlong
    · exact hnone ⟨_, [0x83, 0], ⟨rfl, [], rfl⟩, ⟨rfl, rfl, rfl, by decide, by decide⟩, ⟨0x83, [], by decide, rfl⟩⟩

/-! ## The reads of coils and discrete inputs -/

/-- What a read of `quantity` bits is to make of a response with some data: it succeeds if and only if the data are as many as the
bits take, and then the data are in front of the rest of the caller's span. -/
def ReadsBits (op : Operation) (x slave : UInt8) (quantity : UInt16) (out data : List UInt8) (s : Tcp.Stream) : Prop :=
  ∃ ec out' s', op.run (Tcp.transport x) slave s = (.ok (ec, .bytes out'), s') ∧
    (failed ec = false ↔ data.length = (quantity.toNat + 7) / 8) ∧
    (failed ec = false → out' = data ++ out.drop ((quantity.toNat + 7) / 8))

/-- A read into a span of bytes succeeds on data of the size of the span, and only on those. -/
theorem tcpResult_bytes_cases {out data body : List UInt8} (hp : op.plan = .ok p) (h : p.ReadsData out (Plan.finishBytes out))
    (x : UInt8) (hd : CarriesData (PduRead.fc p.expected.Pdu) data body) :
    ∃ ec out', p.tcpResult x body = (ec, .bytes out') ∧ (failed ec = false ↔ data.length = out.length) ∧
      (failed ec = false → out' = data) := by
  by_cases hfit : data.length ≤ out.length
  · refine ⟨_, _, Plan.tcpResult_bytes h x hd hfit, ?_⟩
    by_cases hlen : data.length = out.length
    · rw [if_neg (not_not_intro hlen), hlen, List.drop_length, List.append_nil]
      exact ⟨⟨fun _ => rfl, fun _ => rfl⟩, fun _ => rfl⟩
    · rw [if_pos hlen]
      have hbad : failed (makeErrorCode .invalidResponse) = true := rfl
      simp [hlen, hbad]
  · obtain ⟨n, values, hr⟩ := ResponseKind.exists_data h.response (Tcp.Stream.verdict x p.response body).2
    have hresult : p.tcpResult x body = ((p.tcpResult x body).1, .bytes values.data) := by
      rw [Plan.tcpResult, h.finish_eq _ _ _ _ hr, Plan.finishBytes, Plan.checkByteCount_snd]
    have hfailed : failed (p.tcpResult x body).1 ≠ false := fun hok => hfit (Plan.fits_of_success hp h hd hok)
    have hlen : data.length ≠ out.length := by omega
    exact ⟨_, _, hresult, ⟨fun hok => absurd hok hfailed, fun he => absurd he hlen⟩, fun hok => absurd hok hfailed⟩

/-- The two reads of bits. -/
def IsBitRead (op : Operation) (address quantity : UInt16) (out : List UInt8) : Prop :=
  op = readCoils address quantity out ∨ op = readDiscreteInputs address quantity out

/-- The plan of a read of bits whose assertions hold. -/
theorem IsBitRead.exists_plan {address quantity : UInt16} {out : List UInt8} (hop : op.IsBitRead address quantity out)
    (hquantity : 1 ≤ quantity.toNat ∧ quantity.toNat ≤ 2000) (hroom : (quantity.toNat + 7) / 8 ≤ out.length) :
    ∃ p, op.plan = .ok p ∧ op.OnlyReads ∧ p.ReadsData out (Plan.finishBytes out) := by
  have hfirst : (1 ≤ quantity.toNat && quantity.toNat ≤ 2000) = true := by
    simp [hquantity]
  have hsecond : (quantity.toNat - 1) / 8 + 1 ≤ out.length := by omega
  have hplan : ∃ p, op.plan = .ok p := by
    rcases hop with rfl | rfl
    all_goals
      simp only [plan, hfirst, hsecond, checkArgument, decide_true, if_true]
      exact ⟨_, rfl⟩
  obtain ⟨p, hp⟩ := hplan
  have hmade := (madeFor hp).2
  rcases hop with rfl | rfl
  · exact ⟨p, hp, trivial, hmade⟩
  · exact ⟨p, hp, trivial, hmade⟩

/-- On a complete response whose frame the client lets through, a read of bits succeeds if and only if the data are as long as the
caller's span. -/
theorem IsBitRead.run_answered {address quantity : UInt16} {out : List UInt8} (hop : op.IsBitRead address quantity out)
    (hquantity : 1 ≤ quantity.toNat ∧ quantity.toNat ≤ 2000) (hroom : (quantity.toNat + 7) / 8 ≤ out.length) (x : UInt8)
    {slave : UInt8} (hslave : slave ≠ 0) {s : Tcp.Stream} {h : Tcp.MbapHeader} {data body : List UInt8}
    (hframe : Tcp.StartsWithFrame s.nextLayer.incoming h body) (hexp : h.Expected s.transactionId slave)
    (hdata : CarriesData op.function data body) :
    ∃ ec out' s', op.run (Tcp.transport x) slave s = (.ok (ec, .bytes out'), s') ∧
      (failed ec = false ↔ data.length = out.length) ∧ (failed ec = false → out' = data) := by
  obtain ⟨p, hp, hread, hreads⟩ := hop.exists_plan hquantity hroom
  obtain ⟨hlen, rest, hin⟩ := hframe
  obtain ⟨s', hrun, -⟩ := Plan.run_tcp_frame x hslave (hread.sends hp) hlen hin hexp
  rw [← (madeFor hp).1] at hdata
  obtain ⟨ec, out', hresult, hiff, hout⟩ := tcpResult_bytes_cases hp hreads x hdata
  rw [← run_of_plan _ slave s hp, hresult] at hrun
  exact ⟨ec, out', s', hrun, hiff, hout⟩

/-- A read of bits does with a complete response what it is to do if and only if the caller's span is exactly as long as the bits
take, or the data are neither as long as the bits take nor as long as the span. -/
theorem readsBits_iff (op : Operation) (address quantity : UInt16) (out : List UInt8) (x slave : UInt8) (s : Tcp.Stream)
    (h : Tcp.MbapHeader) (data body : List UInt8) (hop : op.IsBitRead address quantity out)
    (hquantity : 1 ≤ quantity.toNat ∧ quantity.toNat ≤ 2000) (hroom : (quantity.toNat + 7) / 8 ≤ out.length)
    (hslave : slave ≠ 0) (hframe : Tcp.StartsWithFrame s.nextLayer.incoming h body) (hexp : h.Expected s.transactionId slave)
    (hdata : CarriesData op.function data body) :
    op.ReadsBits x slave quantity out data s ↔
      out.length = (quantity.toNat + 7) / 8 ∨
        data.length ≠ (quantity.toNat + 7) / 8 ∧ data.length ≠ out.length := by
  obtain ⟨ec, out', s', hrun, hiff, hout⟩ := hop.run_answered hquantity hroom x hslave hframe hexp hdata
  constructor
  · rintro ⟨ec', out'', s'', hrun', hiff', -⟩
    obtain ⟨he, -⟩ := Prod.mk.inj (Exec.ok_unique hrun hrun').1
    rw [← he, hiff] at hiff'
    omega
  · intro hcount
    refine ⟨ec, out', s', hrun, ?_, ?_⟩
    · rw [hiff]
      omega
    · intro hok
      have hsize := hiff.mp hok
      have hspan : out.length ≤ (quantity.toNat + 7) / 8 := by omega
      rw [hout hok, List.drop_eq_nil_of_le hspan, List.append_nil]

/-- A connection on which the answer to request 0 is two bytes of coils. -/
def coilsStream : Tcp.Stream :=
  { nextLayer := { incoming := (Tcp.frameHeader 0 1 [0x01, 2, 0xFF, 0x03]).bytes ++ [0x01, 2, 0xFF, 0x03] } }

theorem readsBits_tenCoils :
    (readCoils 0 10 [0, 0]).ReadsBits 0 1 10 [0, 0] [0xFF, 0x03] coilsStream ↔
      [(0 : UInt8), 0].length = ((10 : UInt16).toNat + 7) / 8 ∨
        [(0xFF : UInt8), 0x03].length ≠ ((10 : UInt16).toNat + 7) / 8 ∧ [(0xFF : UInt8), 0x03].length ≠ [(0 : UInt8), 0].length :=
  readsBits_iff (readCoils 0 10 [0, 0]) 0 10 [0, 0] 0 1 coilsStream (Tcp.frameHeader 0 1 [0x01, 2, 0xFF, 0x03])
    [0xFF, 0x03] [0x01, 2, 0xFF, 0x03] (Or.inl rfl) (by decide) (by decide) (by decide) ⟨rfl, [], rfl⟩
    ⟨rfl, rfl, rfl, by decide, by decide⟩ ⟨2, [], rfl, rfl⟩

/-- Ten coils are asked for with room for 24; the response of two bytes, which answers the request, is an error. -/
theorem tenCoils_refused :
    CarriesData (readCoils 0 10 [0, 0, 0]).function [0xFF, 0x03] [0x01, 2, 0xFF, 0x03] ∧
    ¬(readCoils 0 10 [0, 0, 0]).ReadsBits 0 1 10 [0, 0, 0] [0xFF, 0x03] coilsStream := by
  have hop : (readCoils 0 10 [0, 0, 0]).IsBitRead 0 10 [0, 0, 0] := Or.inl rfl
  have hframe : Tcp.StartsWithFrame coilsStream.nextLayer.incoming (Tcp.frameHeader 0 1 [0x01, 2, 0xFF, 0x03])
      [0x01, 2, 0xFF, 0x03] := ⟨rfl, [], rfl⟩
  have hdata : CarriesData (readCoils 0 10 [0, 0, 0]).function [0xFF, 0x03] [0x01, 2, 0xFF, 0x03] := ⟨2, [], rfl, rfl⟩
  obtain ⟨ec, out', s', hrun, hiff, -⟩ := hop.run_answered (by decide) (by decide) 0 (by decide) hframe
    ⟨rfl, rfl, rfl, by decide, by decide⟩ hdata
  refine ⟨hdata, ?_⟩
  rintro ⟨ec', out'', s'', hrun', hiff', -⟩
  obtain ⟨he, -⟩ := Prod.mk.inj (Exec.ok_unique hrun hrun').1
  rw [← he, hiff] at hiff'
  exact absurd (hiff'.mpr rfl) (by decide)

/-! ## The read and write of registers -/

/-- What a read and write of registers is to be: whenever it succeeds, its span holds the data of a response that has exactly as many
as the registers take; whenever it returns an error, its span is as it was. -/
def FillsOrLeaves {σ : Type} (op : Operation) (T : Transport σ) (slave : UInt8) (received : σ → σ → List UInt8 → Prop)
    (readValues : List UInt16) (s : σ) : Prop :=
  op.SucceedsOnly T slave received
    (fun pdu output => ∃ data, CarriesData op.function data pdu ∧ data.length = readValues.length * 2 ∧ output.Holds data) s ∧
  ∀ ec output s', op.run T slave s = (.ok (ec, output), s') → failed ec = true → output = .registers readValues

section

variable {readAddress writeAddress : UInt16} {readValues writeValues : List UInt16}

/-- The error code of the client is the one that is returned. -/
theorem finish_readWrite (h : p.ReadsData (List.replicate (readValues.length * 2) 0) (Plan.finishReadWrite readValues))
    (ec : ErrorCode) (r : p.expected.Pdu) : (p.finish ec r).1 = ec ∧ (failed ec = true → (p.finish ec r).2 = .registers readValues) := by
  obtain ⟨n, values, hr⟩ := ResponseKind.exists_data h.response r
  rw [h.finish_eq _ _ _ _ hr, Plan.finishReadWrite]
  cases hec : failed ec with
  | true => exact ⟨rfl, fun _ => rfl⟩
  | false => exact ⟨rfl, fun hf => by cases hf⟩

/-- On an error the span is left, over any transport. -/
theorem readWrite_leaves {σ : Type} {T : Transport σ} {slave : UInt8} {s s' : σ} {ec : ErrorCode} {output : Output}
    (hrun : (readWriteMultipleRegisters readAddress readValues writeAddress writeValues).run T slave s = (.ok (ec, output), s'))
    (hfailed : failed ec = true) : output = .registers readValues := by
  obtain ⟨p, hp, hrun⟩ := exists_plan hrun
  obtain ⟨ec', r, hresult⟩ := Plan.run_eq_finish hrun
  obtain ⟨hec, hleft⟩ := finish_readWrite (madeFor hp).2 ec' r
  rw [← hresult] at hec hleft
  exact hleft (hec ▸ hfailed)

/-- Data as many as the registers take are what the span then holds. -/
theorem finishReadWrite_holds {ec : ErrorCode} (hok : failed ec = false) {data : List UInt8}
    (hlen : data.length = readValues.length * 2) (n : UInt8) :
    (Plan.finishReadWrite readValues ec n ((Span.ofData (List.replicate (readValues.length * 2) 0)).filled data)).2.Holds data := by
  rw [Plan.finishReadWrite, hok, Span.data_filled_of_length (hlen.trans List.length_replicate.symm)]
  exact flatMap_makeRegisters hlen

/-- The successes over TCP that are not on as many data as the registers take: on an exception with the code zero, and on fewer
data. -/
theorem readWrite_tcp_bad_iff (hp : (readWriteMultipleRegisters readAddress readValues writeAddress writeValues).plan = .ok p)
    (x : UInt8) (body : List UInt8) :
    (failed (p.tcpResult x body).1 = false ∧ ¬∃ data, CarriesData .readWriteMultipleRegisters data body ∧
      data.length = readValues.length * 2 ∧ (p.tcpResult x body).2.Holds data) ↔
    Tcp.IsZeroException body ∨
      ∃ data, CarriesData .readWriteMultipleRegisters data body ∧ data.length < readValues.length * 2 := by
  have hmade := (madeFor hp).2
  have hfc : PduRead.fc p.expected.Pdu = .readWriteMultipleRegisters := (madeFor hp).1
  have hsize : (List.replicate (readValues.length * 2) (0 : UInt8)).length = readValues.length * 2 := List.length_replicate
  constructor
  · rintro ⟨hok, hnot⟩
    rcases Plan.body_of_success hp hmade hok with hzero | ⟨data, hd, hfit⟩
    · exact Or.inl hzero
    · have hholds : data.length = readValues.length * 2 → (p.tcpResult x body).2.Holds data := by
        intro hlen
        rw [Plan.tcpResult_data hmade x hd hfit]
        exact finishReadWrite_holds rfl hlen _
      rw [hfc] at hd
      rw [hsize] at hfit
      exact Or.inr ⟨data, hd, Nat.lt_of_le_of_ne hfit fun hlen => hnot ⟨data, hd, hlen, hholds hlen⟩⟩
  · rintro (hzero | ⟨data, hd, hshort⟩)
    · rw [Plan.tcpResult_zeroException x hzero, (finish_readWrite hmade _ _).1]
      refine ⟨rfl, ?_⟩
      rintro ⟨data, hd, -⟩
      rw [← hfc] at hd
      exact hd.not_zeroException hzero
    · constructor
      · rw [← hfc] at hd
        rw [Plan.tcpResult_data hmade x hd (by omega)]
        rfl
      · rintro ⟨data', hd', hlen, -⟩
        rw [hd.unique hd'] at hshort
        omega

/-- Over RTU the checksum decides on success, and the registers are those of the response only if it has as many data as they
take. -/
theorem readWrite_rtu_bad_iff (hp : (readWriteMultipleRegisters readAddress readValues writeAddress writeValues).plan = .ok p)
    (y : Rtu.Indeterminate) (slave : UInt8) (body : List UInt8) :
    (failed (p.lineResult y slave body).1 = false ∧ ¬∃ data, CarriesData .readWriteMultipleRegisters data body ∧
      data.length = readValues.length * 2 ∧ (p.lineResult y slave body).2.Holds data) ↔
    (readWriteMultipleRegisters readAddress readValues writeAddress writeValues).ChecksumPasses y slave body ∧
      ¬∃ data, CarriesData .readWriteMultipleRegisters data body ∧ data.length = readValues.length * 2 := by
  have hmade := (madeFor hp).2
  have hfc : PduRead.fc p.expected.Pdu = .readWriteMultipleRegisters := (madeFor hp).1
  have hfailed : failed (p.lineResult y slave body).1 = false ↔ Rtu.Stream.ChecksumPasses y slave p.response body := by
    rw [Plan.lineResult, (finish_readWrite hmade _ _).1, Rtu.Stream.failed_verdict_iff]
  rw [checksumPasses_iff hp, hfailed]
  refine and_congr_right fun hsum => not_congr (exists_congr fun data => ?_)
  constructor
  · rintro ⟨hd, hlen, -⟩
    exact ⟨hd, hlen⟩
  · rintro ⟨hd, hlen⟩
    refine ⟨hd, hlen, ?_⟩
    have hfit : data.length ≤ (List.replicate (readValues.length * 2) (0 : UInt8)).length :=
      Nat.le_of_eq (hlen.trans List.length_replicate.symm)
    rw [← hfc] at hd
    obtain ⟨r, rest, hr, hrun⟩ := decodes_data (makeErrorCode .tooManyBytesReceived) y.functionCode hmade.response hd hfit
    have hdecode : (Rtu.Stream.decode y p.response body).1.2 = r := by
      unfold Rtu.Stream.decode
      rw [hrun]
    rw [Plan.lineResult, Rtu.Stream.verdict_checksum hsum, hdecode, hmade.finish_eq _ _ _ _ hr]
    exact finishReadWrite_holds rfl hlen _

end

/-- A read and write of registers is so over TCP if and only if the request cannot be sent or the next frame is neither an exception
with the code zero nor a response with fewer data than the registers take; over RTU, if and only if the request cannot be sent, no
frame of the slave that fits the array arrives, its checksum does not pass, or it is a response with as many data as the registers
take. -/
theorem readWrite_fillsOrLeaves_iff (readAddress : UInt16) (readValues : List UInt16) (writeAddress : UInt16)
    (writeValues : List UInt16) (x : UInt8) (y : Rtu.Indeterminate) (slave : UInt8) (s : Tcp.Stream) (t : Rtu.Stream)
    (hslave : slave ≠ 0) :
    let op := readWriteMultipleRegisters readAddress readValues writeAddress writeValues
    (op.FillsOrLeaves (Tcp.transport x) slave Tcp.Received readValues s ↔
      ¬(op.Sends 313 ∧ ∃ h body, Tcp.StartsWithFrame s.nextLayer.incoming h body ∧ h.Expected s.transactionId slave ∧
        (Tcp.IsZeroException body ∨
          ∃ data, CarriesData .readWriteMultipleRegisters data body ∧ data.length < readValues.length * 2))) ∧
    (op.FillsOrLeaves (Rtu.transport y) slave (Rtu.Received slave) readValues t ↔
      ¬(op.Sends 317 ∧ ∃ body, Rtu.frameBytes t.line = slave :: body ∧ 1 + body.length ≤ 320 ∧
        op.ChecksumPasses y slave body ∧
          ¬∃ data, CarriesData .readWriteMultipleRegisters data body ∧ data.length = readValues.length * 2)) := by
  intro op
  constructor
  · rw [FillsOrLeaves, and_iff_left fun ec output s' => readWrite_leaves]
    exact succeedsOnly_tcp_iff hslave (fun p hp => readWrite_tcp_bad_iff hp x) s
  · rw [FillsOrLeaves, and_iff_left fun ec output s' => readWrite_leaves]
    exact succeedsOnly_rtu_iff hslave (fun p hp => readWrite_rtu_bad_iff hp y slave) t

/-- Two registers are asked for, and a register more is written. -/
def twoRegisters : Operation := readWriteMultipleRegisters 0 [7, 8] 0 [1]

/-- A connection on which the answer to request 0 is one register. -/
def shortAnswer : Tcp.Stream :=
  { nextLayer := { incoming := (Tcp.frameHeader 0 1 [0x17, 2, 0, 5]).bytes ++ [0x17, 2, 0, 5] } }

theorem readWrite_fillsOrLeaves_twoRegisters :
    (twoRegisters.FillsOrLeaves (Tcp.transport 0) 1 Tcp.Received [7, 8] shortAnswer ↔
      ¬(twoRegisters.Sends 313 ∧ ∃ h body, Tcp.StartsWithFrame shortAnswer.nextLayer.incoming h body ∧
        h.Expected shortAnswer.transactionId 1 ∧ (Tcp.IsZeroException body ∨
          ∃ data, CarriesData .readWriteMultipleRegisters data body ∧ data.length < [(7 : UInt16), 8].length * 2))) ∧
    (twoRegisters.FillsOrLeaves (Rtu.transport ⟨0, 0, 0, 0⟩) 1 (Rtu.Received 1) [7, 8] {} ↔
      ¬(twoRegisters.Sends 317 ∧ ∃ body, Rtu.frameBytes [] = 1 :: body ∧ 1 + body.length ≤ 320 ∧
        twoRegisters.ChecksumPasses ⟨0, 0, 0, 0⟩ 1 body ∧
          ¬∃ data, CarriesData .readWriteMultipleRegisters data body ∧ data.length = [(7 : UInt16), 8].length * 2)) :=
  readWrite_fillsOrLeaves_iff 0 [7, 8] 0 [1] 0 ⟨0, 0, 0, 0⟩ 1 shortAnswer {} (by decide)

/-- On half of what was asked for, the call succeeds. -/
theorem shortAnswer_accepted :
    ¬twoRegisters.FillsOrLeaves (Tcp.transport 0) 1 Tcp.Received [7, 8] shortAnswer := by
  have hbad := fun p (hp : (readWriteMultipleRegisters 0 [7, 8] 0 [1]).plan = .ok p) => readWrite_tcp_bad_iff hp 0
  rintro ⟨hsound, -⟩
  refine (succeedsOnly_tcp_iff (by decide) hbad shortAnswer).mp hsound ⟨⟨_, rfl, ?_⟩, _, [0x17, 2, 0, 5], ⟨rfl, [], rfl⟩,
    ⟨rfl, rfl, rfl, by decide, by decide⟩, Or.inr ⟨[0, 5], ⟨2, [], rfl, rfl⟩, by decide⟩⟩
  decide

end Operation

end Mothbus
