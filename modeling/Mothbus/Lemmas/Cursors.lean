import Mothbus.Adu.Observed
import Mothbus.Lemmas.TcpViews

/-!
# The cursors of the buffer while something is received

The receive paths with notes are the receive paths: without the notes they are the calls of the client and of the server. And
every note is of an operation that stays within what has been received.
-/

namespace Mothbus

open ErrorLike (ok failed)

variable {n : Nat} {σ α γ : Type}

/-! ## Notes that are forgotten -/

namespace Observed

theorem erases_commit {j : Nat} {b : Buffer n} {k : Buffer n → Logged Fault σ (BufferEvent n) γ} {m : Exec Fault σ γ}
    (h : Logged.Erases (k (b.commit j)) m) : Logged.Erases (commit j b >>= k) m := by
  intro s log
  exact h s (log ++ [BufferEvent.commit (b.commit j)])

theorem erases_runSource {p : ReadProgram ErrorCode UInt8 α} {b : Buffer n}
    {k : α × Buffer n → Logged Fault σ (BufferEvent n) γ} {m : Exec Fault σ γ}
    (h : Logged.Erases (k (p.run Buffer.source b)) m) : Logged.Erases (runSource p b >>= k) m := by
  intro s log
  exact h s (log ++ gets p b)

end Observed

namespace Tcp.Observed

open Mothbus.Observed Logged

/-- The integer `length - 1`, where it is used. -/
theorem toNat_length_sub_one (k : Nat) : ((k : Int) - 1).toNat = k - 1 := by omega

/-- A receive without the note of its `prepare`. A negative size is none. -/
theorem erases_receive (source : Buffer 320) {size : Int} {k : Nat} (h : size.toNat = k) :
    Erases (receive source size) (Stream.receive source k) := by
  subst h
  exact (erases_quiet _).note_bind _

/-- `read_response` without the notes. -/
theorem erases_readResponse [PduRead α] (indeterminate : UInt8) (expectedTransactionId : UInt16) (expectedSlave : UInt8)
    (out : α) :
    Erases (readResponse indeterminate expectedTransactionId expectedSlave out)
      (Stream.readResponse indeterminate expectedTransactionId expectedSlave out) := by
  unfold readResponse Stream.readResponse
  refine .ite (erases_pure _) (.bind (erases_quiet _) fun s => .bind (erases_receive _ rfl) ?_)
  rintro ⟨readSize, source⟩
  refine erases_commit (erases_runSource ?_)
  refine .ite (erases_pure _) (.ite (erases_pure _) (.ite (erases_pure _) (.ite (erases_pure _) (.ite (erases_pure _) ?_))))
  refine .bind (erases_receive _ (toNat_length_sub_one _)) ?_
  rintro ⟨readSize, source⟩
  exact erases_commit (erases_runSource (.ite (erases_pure _) (erases_pure _)))

/-- `async_read_request` without the note. -/
theorem erases_asyncReadRequest : Erases asyncReadRequest Server.asyncReadRequest :=
  .bind (m := Exec.state) (erases_quiet _) fun _ => (erases_quiet _).note_bind _

/-- `request_read_op::parse_header` without the notes. -/
theorem erases_opParseHeader (op : RequestReadOp) (size : Nat) : Erases (opParseHeader op size) (Server.opParseHeader op size) := by
  unfold opParseHeader parseHeader
  rw [bind_assoc]
  refine erases_commit (erases_runSource (.ite (erases_quiet _) ?_))
  simp only [toNat_length_sub_one]
  exact (erases_quiet _).note_bind _

/-- `request_read_op::parse_body` without the notes. -/
theorem erases_opParseBody (indeterminate : UInt8) (op : RequestReadOp) (size : Nat) :
    Erases (opParseBody indeterminate op size) (Server.opParseBody indeterminate op size) := by
  unfold opParseBody Server.opParseBody parseBody
  refine .bind (erases_quiet _) fun s => ?_
  rw [bind_assoc]
  exact erases_commit (erases_runSource (.bind (erases_quiet _) fun _ => erases_quiet _))

/-- The handlers of a completed read without the notes. -/
theorem erases_handle (indeterminate : UInt8) (handler : Handler) (ec : ErrorCode) (readSize : Nat) :
    Erases (handle indeterminate handler ec readSize) (Server.handle indeterminate handler ec readSize) := by
  unfold handle Server.handle
  refine .ite (erases_quiet _) ?_
  cases handler with
  | parseHeader op => exact erases_opParseHeader op readSize
  | parseBody op => exact erases_opParseBody indeterminate op readSize

/-- The completion of the outstanding read without the notes. -/
theorem erases_complete (indeterminate : UInt8) : Erases (complete indeterminate) (Server.complete indeterminate) := by
  unfold complete Server.complete
  refine .bind (erases_quiet _) fun s => ?_
  rcases s.pending with _ | ⟨size, handler⟩
  · exact erases_pure _
  · refine .bind (erases_quiet _) fun source => .bind (erases_quiet _) fun _ => ?_
    exact .ite (erases_handle _ _ _ _) (erases_handle _ _ _ _)

/-- A move without the notes. -/
theorem erases_move (m : Move) : Erases (move m) (Server.move m) := by
  cases m with
  | call => exact .bind (erases_quiet _) fun s => .ite (erases_pure _) erases_asyncReadRequest
  | arrive bytes => exact erases_quiet _
  | complete indeterminate => exact erases_complete indeterminate
  | answer transactionId slave response => exact erases_quiet _

/-- A run of moves without the notes. -/
theorem erases_run (moves : List Move) : Erases (run moves) (Server.run moves) := .forM erases_move moves

end Tcp.Observed

/-! ## Cursors within what has been received -/

/-- The cursors of a receiver: what has been read, what has been received, and the longest frame. -/
def Buffer.InBounds (b : Buffer n) : Prop :=
  b.inputStart ≤ b.inputEnd ∧ b.inputEnd = b.outputStart ∧ b.outputStart ≤ Tcp.MbapHeader.maxAduSize

/-- An operation that stays within bounds: the region of a `prepare` lies within the array, the cursors are as they should be after a
`commit` and a `get`, and a `get` that succeeds has read what has been received. -/
def BufferEvent.InBounds : BufferEvent n → Prop
  | prepare before size => 0 ≤ size ∧ before.outputStart + size ≤ n
  | commit after => after.InBounds
  | get before ec after => after.InBounds ∧ (failed ec = false → before.inputStart < before.inputEnd)

/-- `k` bytes have been received, and some of them read. -/
structure Buffer.Filled (b : Buffer n) (k : Nat) : Prop where
  inputStart_le : b.inputStart ≤ k
  inputEnd_eq : b.inputEnd = k
  outputStart_eq : b.outputStart = k

namespace Buffer

variable {b : Buffer n} {e : Nat}

/-- Where everything has been read, as much has been received. -/
theorem Drained.filled (h : b.Drained e) : b.Filled e := ⟨Nat.le_of_eq h.inputStart_eq, h.inputEnd_eq, h.outputStart_eq⟩

/-- As long as no more than a frame has been received, the cursors are in bounds. -/
theorem Filled.inBounds (h : b.Filled e) (he : e ≤ 260) : b.InBounds := by
  obtain ⟨h1, h2, h3⟩ := h
  refine ⟨?_, ?_, ?_⟩
  · rwa [h2]
  · rw [h2, h3]
  · rwa [h3]

theorem Filled.withArray (h : b.Filled e) (m : Vector UInt8 n) : ({ b with messageBuffer := m } : Buffer n).Filled e :=
  ⟨h.inputStart_le, h.inputEnd_eq, h.outputStart_eq⟩

/-- After a `commit`, as much more has been received. -/
theorem Filled.commit (h : b.Filled e) (j : Nat) : (b.commit j).Filled (e + j) :=
  ⟨Nat.le_trans h.inputStart_le (Nat.le_add_right e j), congrArg (· + j) h.inputEnd_eq, congrArg (· + j) h.outputStart_eq⟩

/-- A `get` moves within what has been received. -/
theorem Filled.get (h : b.Filled e) (he : e ≤ 260) (old : UInt8) :
    (source.get old b).2.2.Filled e ∧ (BufferEvent.get b (source.get old b).1 (source.get old b).2.2).InBounds := by
  obtain ⟨h1, h2, h3⟩ := h
  by_cases hend : b.inputStart ≥ b.inputEnd
  · have hget : source.get old b = (makeErrorCode .tooManyBytesReceived, old, b) := if_pos hend
    rw [hget]
    refine ⟨⟨h1, h2, h3⟩, Filled.inBounds ⟨h1, h2, h3⟩ he, ?_⟩
    intro hok
    cases hok
  · have hget : source.get old b = (ok, b.messageBuffer.toList.getD b.inputStart 0, { b with inputStart := b.inputStart + 1 }) :=
      if_neg hend
    have hafter : ({ b with inputStart := b.inputStart + 1 } : Buffer n).Filled e := ⟨by show b.inputStart + 1 ≤ e; omega, h2, h3⟩
    rw [hget]
    exact ⟨hafter, hafter.inBounds he, fun _ => Nat.lt_of_not_le hend⟩

/-- Receiving moves no cursor. -/
theorem receive_eq_ok {l : List UInt8} {b' : Buffer n} (h : b.receive l = .ok b') : ∃ m, b' = { b with messageBuffer := m } := by
  unfold receive at h
  cases hs : store b.messageBuffer b.outputStart l with
  | error f =>
    rw [hs] at h
    cases h
  | ok m =>
    rw [hs] at h
    exact ⟨m, (Except.ok.inj h).symm⟩

end Buffer

namespace Observed

open Logged

variable {b : Buffer n} {e : Nat} {pre : σ → Prop} {post : γ → σ → Prop}

/-- The note of a `commit` is in bounds if what it adds still makes no more than a frame. -/
theorem notes_commit (hb : b.Filled e) {j : Nat} (hfit : e + j ≤ 260) {k : Buffer n → Logged Fault σ (BufferEvent n) γ}
    (h : ∀ b', b'.Filled (e + j) → Notes BufferEvent.InBounds pre (k b') post) :
    Notes BufferEvent.InBounds pre (commit j b >>= k) post := by
  have hafter := hb.commit j
  show Notes _ pre (note [.commit (b.commit j)] >>= fun _ => k (b.commit j)) post
  exact .note_one_bind (hafter.inBounds hfit) (h _ hafter)

/-- All that a program reads from a buffer is within what has been received. -/
theorem notes_runSource (hb : b.Filled e) (he : e ≤ 260) {p : ReadProgram ErrorCode UInt8 α}
    {k : α × Buffer n → Logged Fault σ (BufferEvent n) γ}
    (h : ∀ a b', b'.Filled e → Notes BufferEvent.InBounds pre (k (a, b')) post) :
    Notes BufferEvent.InBounds pre (runSource p b >>= k) post := by
  obtain ⟨hall, hrun⟩ := p.visits_all (S := Buffer.source) (I := fun b => b.Filled e)
    (Q := fun v => (BufferEvent.get v.1 v.2.1 v.2.2).InBounds) (fun old b hb => hb.get he old) hb
  show Notes _ pre (note (gets p b) >>= fun _ => k (p.run Buffer.source b)) post
  refine .note_bind ?_ (h _ _ hrun)
  intro ev hev
  obtain ⟨v, hv, rfl⟩ := List.mem_map.mp hev
  exact hall v hv

end Observed

namespace Tcp.Observed

open Mothbus.Observed Logged

variable {pre : σ → Prop} {e : Nat}

/-- What is received goes behind what was received before. -/
theorem receive_filled {source : Buffer 320} (h : source.Filled e) {size : Nat} {s s' : Stream} {r : Nat × Buffer 320}
    (hrun : Stream.receive source size s = (.ok r, s')) : r.1 = size ∧ r.2.Filled e := by
  unfold Stream.receive at hrun
  rw [Exec.bind_state] at hrun
  obtain ⟨source', s₁, hstore, hrun⟩ := Exec.bind_eq_ok hrun
  obtain ⟨m, rfl⟩ := Buffer.receive_eq_ok (Prod.mk.inj hstore).1
  rw [Exec.bind_update] at hrun
  by_cases hshort : (s.nextLayer.incoming.take size).length < size
  · rw [if_pos hshort] at hrun
    cases hrun
  · rw [if_neg hshort] at hrun
    cases hrun
    exact ⟨rfl, h.withArray m⟩

/-- The note of a `prepare` is in bounds if its region ends within the array, and the cursors are as they were. -/
theorem notes_receive {pre : Stream → Prop} {source : Buffer 320} (h : source.Filled e) {size : Int} (hsize : 0 ≤ size)
    (hfit : e + size ≤ 320) :
    Notes BufferEvent.InBounds pre (receive source size) fun r _ => r.1 = size.toNat ∧ r.2.Filled e := by
  refine .note_one_bind ⟨hsize, ?_⟩ (.quiet fun s r s' _ hrun => receive_filled h hrun)
  rwa [h.outputStart_eq]

/-- `read_response` stays within bounds. -/
theorem notes_readResponse [PduRead α] (indeterminate : UInt8) (expectedTransactionId : UInt16) (expectedSlave : UInt8)
    (out : α) :
    Notes BufferEvent.InBounds (fun _ => True) (readResponse indeterminate expectedTransactionId expectedSlave out)
      fun _ _ => True := by
  have hstop : ∀ {pre : Stream → Prop} (r : ErrorCode × α),
      Notes BufferEvent.InBounds pre (pure r : Noted Stream (ErrorCode × α)) fun _ _ => True :=
    fun r => .pure fun _ _ => trivial
  unfold readResponse
  refine .ite (fun _ => hstop _) fun _ => ?_
  refine .quiet_bind fun s => ?_
  have hempty : Buffer.Filled ({ messageBuffer := s.messageBuffer } : Buffer 320) 0 := (Buffer.drained_empty _).filled
  refine .bind (notes_receive hempty (by decide) (by decide)) ?_
  rintro ⟨readSize, source⟩
  refine .of_pre (fun _ h => h) ?_
  rintro ⟨rfl, hsource⟩
  refine notes_commit hsource (by decide) fun source hsource => notes_runSource hsource (by decide) ?_
  rintro ⟨ec, received⟩ source hsource
  refine .ite (fun _ => hstop _) fun _ => .ite (fun _ => hstop _) fun _ => .ite (fun _ => hstop _) fun _ =>
    .ite (fun _ => hstop _) fun _ => .ite (fun _ => hstop _) fun hlength => ?_
  -- the length that passed the check, behind the seven bytes of the header
  refine .bind (notes_receive hsource (by omega) (by show ((7 : Nat) : Int) + _ ≤ 320; omega)) ?_
  rintro ⟨readSize, source⟩
  refine .of_pre (fun _ h => h) ?_
  rintro ⟨rfl, hsource⟩
  have hfit : 0 + ((MbapHeader.headerSize : Int)).toNat + ((received.length.toNat : Int) - 1).toNat ≤ 260 := by
    show 7 + _ ≤ 260
    omega
  refine notes_commit hsource hfit fun source hsource => notes_runSource hsource hfit ?_
  rintro ⟨ec, out⟩ source -
  exact .ite (fun _ => hstop _) fun _ => hstop _

/-! ## The server -/

/-- `request_read_op::parse_header` stays within bounds. -/
theorem notes_opParseHeader {op : RequestReadOp} (h : op.source.Drained 0) :
    Notes BufferEvent.InBounds (fun _ => True) (opParseHeader op MbapHeader.headerSize) fun _ _ => True := by
  unfold opParseHeader parseHeader
  rw [bind_assoc]
  refine notes_commit h.filled (by decide) fun source hsource => notes_runSource hsource (by decide) ?_
  rintro header source hsource
  refine .ite (fun _ => .silent _) fun hvalid => ?_
  obtain ⟨hmin, hmax⟩ := header.isValidLength_iff.mp (by simpa using hvalid)
  refine .note_one_bind ⟨by omega, ?_⟩ (.silent _)
  rw [hsource.outputStart_eq]
  show ((7 : Nat) : Int) + _ ≤ 320
  omega

/-- `request_read_op::parse_body` stays within bounds. -/
theorem notes_opParseBody (indeterminate : UInt8) {op : RequestReadOp} {size : Nat} (h : op.source.Drained e)
    (hfit : e + size ≤ 260) :
    Notes BufferEvent.InBounds (fun _ => True) (opParseBody indeterminate op size) fun _ _ => True := by
  unfold opParseBody parseBody
  refine .quiet_bind fun s => ?_
  rw [bind_assoc]
  refine notes_commit h.filled hfit fun source hsource => notes_runSource hsource hfit ?_
  rintro ⟨ec, request⟩ source -
  exact .quiet_bind fun _ => .silent _

/-- The transfer into the region of an outstanding read moves no cursor. -/
theorem notes_transfer {pre : Server → Prop} {source : Buffer 320} (h : source.Drained e) (l : List UInt8) :
    Notes (BufferEvent.InBounds (n := 320)) pre (quiet (Exec.ofExcept (source.receive l))) fun source _ => source.Drained e := by
  refine .quiet ?_
  rintro s source' _ - hrun
  obtain ⟨m, rfl⟩ := Buffer.receive_eq_ok (Prod.mk.inj hrun).1
  exact h.withArray m

/-- The completion of an outstanding read stays within bounds. -/
theorem notes_complete (indeterminate : UInt8) :
    Notes BufferEvent.InBounds Server.Ready (complete indeterminate) fun _ _ => True := by
  unfold complete
  refine .state_bind fun s hs => ?_
  rcases hp : s.pending with _ | ⟨size, handler⟩
  · exact .pure fun _ _ => trivial
  obtain ⟨hsize, hdrained, hfits⟩ := hs _ hp
  refine .bind (notes_transfer (hdrained.withArray _) _) fun source => .of_pre (fun _ h => h) fun hsource => .quiet_bind fun _ => ?_
  unfold handle
  refine .ite (fun _ => ?_) fun _ => ?_
  · exact .ite (fun _ => .silent _) fun h => absurd rfl h
  refine .ite (fun h => ?_) fun _ => ?_
  · cases h
  cases handler with
  | parseHeader op =>
    obtain rfl : size = MbapHeader.headerSize := hsize
    exact notes_opParseHeader hsource
  | parseBody op => exact notes_opParseBody indeterminate hsource hfits

/-- A move of a server stays within bounds. -/
theorem notes_move (m : Move) : Notes BufferEvent.InBounds Server.Ready (move m) fun _ => Server.Ready := by
  refine .of_erases ?_ (erases_move m) fun s hs _ _ => (Server.move_refines m s hs).2.2
  cases m with
  | call =>
    refine .state_bind fun s _ => .ite (fun _ => .pure fun _ _ => trivial) fun _ => .state_bind fun s _ => ?_
    refine .note_one_bind ⟨by decide, ?_⟩ (.silent _)
    show (((0 : Nat) : Int) + ((7 : Nat) : Int)) ≤ ((320 : Nat) : Int)
    decide
  | arrive bytes => exact .silent _
  | complete indeterminate => exact notes_complete indeterminate
  | answer transactionId slave response => exact .silent _

/-- A run of a server stays within bounds. -/
theorem notes_run (moves : List Move) : Notes BufferEvent.InBounds Server.Ready (run moves) fun _ => Server.Ready :=
  .forM notes_move moves

end Tcp.Observed

end Mothbus
