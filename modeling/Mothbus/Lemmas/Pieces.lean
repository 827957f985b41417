import Mothbus.Adu.Pieces
import Mothbus.Lemmas.TcpViews

/-!
# Pieces and completions

A server that has stored some bytes is compared with the one that has not been given them yet (`PieceServer.flat`). Storing a piece
changes nothing about that but the array; the last piece does what the completion of the read does there.
-/

namespace Mothbus.Tcp

open ErrorLike (ok failed)

namespace PieceServer

/-- The bytes that the outstanding read has stored. -/
def held (s : PieceServer) : List UInt8 :=
  match s.server.pending with
  | none => []
  | some p => (s.server.stream.messageBuffer.toList.drop p.handler.op.source.outputStart).take s.transferred

/-- The server as if it had not been given them yet. -/
def flat (s : PieceServer) : Server :=
  { s.server with stream.nextLayer.incoming := s.held ++ s.server.stream.nextLayer.incoming }

/-- The outstanding read fits the array, and has not stored all it waits for. -/
structure Ready (s : PieceServer) : Prop where
  idle : s.server.pending = none → s.transferred = 0
  waiting : ∀ p, s.server.pending = some p → s.transferred < p.size
  fits : ∀ p, s.server.pending = some p → p.handler.op.source.outputStart + p.size ≤ 320

variable {s : PieceServer} {p : PendingRead}

/-- What is held stands in the array behind what had been received before the read. -/
theorem held_of_pending (hp : s.server.pending = some p) :
    s.held = (s.server.stream.messageBuffer.toList.drop p.handler.op.source.outputStart).take s.transferred := by
  rw [held, hp]

theorem held_of_zero (h : s.transferred = 0) : s.held = [] := by
  rw [held]
  split
  · rfl
  · rw [h, List.take_zero]

/-- Where nothing has been stored there is nothing to give back. -/
theorem flat_of_zero (h : s.transferred = 0) : s.flat = s.server := by
  rw [flat, held_of_zero h, List.nil_append]

/-- As much is held as has been transferred. -/
theorem length_held (hp : s.server.pending = some p) (hfits : p.handler.op.source.outputStart + s.transferred ≤ 320) :
    s.held.length = s.transferred := by
  rw [held_of_pending hp, List.length_take, List.length_drop, Vector.length_toList]
  omega

/-! ## A piece -/

/-- A piece goes behind what is held, and nothing else changes. -/
theorem storeSome_ok (h : s.Ready) (hp : s.server.pending = some p) (k : Nat) :
    let count := min (min k (p.size - s.transferred)) s.server.stream.nextLayer.incoming.length
    ∃ m s', storeSome p k s = (.ok (), s') ∧ s'.server.pending = some p ∧ s'.flat = { s.flat with stream.messageBuffer := m } ∧
      s'.transferred = s.transferred + count ∧
      s'.server.stream.nextLayer.incoming = s.server.stream.nextLayer.incoming.drop count := by
  intro count
  generalize hbytes : s.server.stream.nextLayer.incoming.take (min k (p.size - s.transferred)) = bytes
  have hfits := h.fits p hp
  have hwaiting := h.waiting p hp
  have hlen : bytes.length = count := by
    rw [← hbytes, List.length_take]
  have hall : bytes ++ s.server.stream.nextLayer.incoming.drop bytes.length = s.server.stream.nextLayer.incoming := by
    rw [← hbytes]
    exact List.prefix_iff_eq_append.mp (List.take_prefix _ _)
  obtain ⟨m, hm, hheld⟩ := Vector.exists_overwrite_behind s.server.stream.messageBuffer p.handler.op.source.outputStart s.transferred
    (l := bytes) (by omega)
  let s' : PieceServer := { s with
    server.stream.messageBuffer := m,
    server.stream.nextLayer.incoming := s.server.stream.nextLayer.incoming.drop bytes.length,
    transferred := s.transferred + bytes.length }
  have hp' : s'.server.pending = some p := hp
  refine ⟨m, s', ?_, hp, ?_, congrArg (s.transferred + ·) hlen, congrArg (s.server.stream.nextLayer.incoming.drop ·) hlen⟩
  · unfold storeSome
    rw [Exec.bind_state, hbytes, Buffer.store, hm]
    rfl
  · have hin : s'.held ++ s'.server.stream.nextLayer.incoming = s.held ++ s.server.stream.nextLayer.incoming := by
      rw [held_of_pending hp', ← hall, ← List.append_assoc, held_of_pending hp]
      exact congrArg (· ++ _) hheld
    unfold flat
    rw [hin]

/-- The array already holds what is held. -/
theorem receive_held (hp : s.server.pending = some p) (hfits : p.handler.op.source.outputStart + s.transferred ≤ 320) :
    ({ p.handler.op.source with messageBuffer := s.server.stream.messageBuffer } : Buffer 320).receive s.held =
      .ok { p.handler.op.source with messageBuffer := s.server.stream.messageBuffer } := by
  rw [Buffer.receive, Buffer.store, held_of_pending hp, Vector.overwrite_self _ hfits]
  rfl

/-- A completion that is given what is held. -/
theorem complete_flat (indeterminate : UInt8) {size : Nat} {handler : Handler} {rest : List UInt8}
    (hp : s.server.pending = some ⟨size, handler⟩) (hfits : handler.op.source.outputStart + s.transferred ≤ 320)
    (htake : s.flat.stream.nextLayer.incoming.take size = s.held) (hdrop : s.flat.stream.nextLayer.incoming.drop size = rest) :
    Server.complete indeterminate s.flat =
      (if s.held.length < size then Server.handle indeterminate handler endOfFile s.held.length
        else Server.handle indeterminate
          (handler.withSource { handler.op.source with messageBuffer := s.server.stream.messageBuffer }) ok size)
      { s.server with pending := none, stream.nextLayer.incoming := rest } := by
  have hflat : s.flat.pending = some ⟨size, handler⟩ := hp
  have hreceive := receive_held hp hfits
  unfold Server.complete
  rw [Exec.bind_state, hflat, ← hdrop]
  simp only [htake]
  rw [show s.flat.stream.messageBuffer = s.server.stream.messageBuffer from rfl, hreceive]
  rfl

/-- A read that has all it waits for goes on as at its completion. -/
theorem finish_ok (indeterminate : UInt8) (hp : s.server.pending = some p)
    (hfits : p.handler.op.source.outputStart + s.transferred ≤ 320) (hfull : s.transferred = p.size) :
    finish indeterminate p ok s = ((Server.complete indeterminate s.flat).1, ⟨(Server.complete indeterminate s.flat).2, 0⟩) := by
  have hlen := (length_held hp hfits).trans hfull
  rw [complete_flat indeterminate hp hfits (List.take_left' hlen) (List.drop_left' hlen),
    if_neg (Nat.not_lt.mpr (Nat.le_of_eq hlen.symm))]
  unfold finish
  rw [Exec.bind_state, Exec.bind_update, hfull]
  rfl

/-- A read that will not get all it waits for ends as when it is completed with less. -/
theorem finish_endOfFile (indeterminate : UInt8) (hp : s.server.pending = some p)
    (hfits : p.handler.op.source.outputStart + s.transferred ≤ 320) (hshort : s.transferred < p.size)
    (hin : s.server.stream.nextLayer.incoming = []) :
    finish indeterminate p endOfFile s =
      ((Server.complete indeterminate s.flat).1, ⟨(Server.complete indeterminate s.flat).2, 0⟩) := by
  have hlen := length_held hp hfits
  have hflat : s.flat.stream.nextLayer.incoming = s.held := by
    show s.held ++ s.server.stream.nextLayer.incoming = s.held
    rw [hin, List.append_nil]
  have htake : s.flat.stream.nextLayer.incoming.take p.size = s.held := by
    rw [hflat, List.take_of_length_le (by omega)]
  have hdrop : s.flat.stream.nextLayer.incoming.drop p.size = s.server.stream.nextLayer.incoming := by
    rw [hflat, hin, List.drop_of_length_le (by omega)]
  rw [complete_flat indeterminate hp hfits htake hdrop, if_pos (by omega)]
  unfold finish
  rw [Exec.bind_state, Exec.bind_update]
  rfl

/-- A piece that leaves the read waiting. -/
theorem readSome_more (indeterminate : UInt8) (h : s.Ready) (hp : s.server.pending = some p) {k : Nat}
    (hmore : s.transferred + min k s.server.stream.nextLayer.incoming.length < p.size) :
    ∃ m s', readSome indeterminate k s = (.ok (), s') ∧ s'.Ready ∧ s'.flat = { s.flat with stream.messageBuffer := m } ∧
      s'.server.pending = some p ∧ s'.transferred = s.transferred + min k s.server.stream.nextLayer.incoming.length := by
  obtain ⟨m, s', hstore, hp', hflat, htransferred, -⟩ := storeSome_ok h hp k
  have hlen : s'.transferred = s.transferred + min k s.server.stream.nextLayer.incoming.length := by omega
  refine ⟨m, s', ?_, ⟨?_, ?_, ?_⟩, hflat, hp', hlen⟩
  · unfold readSome
    rw [Exec.bind_state, hp]
    dsimp only
    rw [Exec.bind_ok hstore, Exec.bind_state, if_pos (by omega)]
    rfl
  · intro hnone
    rw [hp'] at hnone
    cases hnone
  · intro q hq
    obtain rfl := Option.some.inj (hp'.symm.trans hq)
    omega
  · intro q hq
    obtain rfl := Option.some.inj (hp'.symm.trans hq)
    exact h.fits p hp

/-- The last piece does what the completion does where nothing has been stored. -/
theorem readSome_last (indeterminate : UInt8) (h : s.Ready) (hp : s.server.pending = some p) {k : Nat}
    (hlast : p.size ≤ s.transferred + min k s.server.stream.nextLayer.incoming.length) :
    ∃ m, readSome indeterminate k s =
      ((Server.complete indeterminate { s.flat with stream.messageBuffer := m }).1,
        ⟨(Server.complete indeterminate { s.flat with stream.messageBuffer := m }).2, 0⟩) := by
  have hwaiting := h.waiting p hp
  have hfits := h.fits p hp
  obtain ⟨m, s', hstore, hp', hflat, htransferred, -⟩ := storeSome_ok h hp k
  have hfull : s'.transferred = p.size := by omega
  refine ⟨m, ?_⟩
  unfold readSome
  rw [Exec.bind_state, hp]
  dsimp only
  rw [Exec.bind_ok hstore, Exec.bind_state, if_neg (by omega), finish_ok indeterminate hp' (by omega) hfull, hflat]

/-- Where nothing is outstanding, nothing is read. -/
theorem readSome_none (indeterminate : UInt8) (hp : s.server.pending = none) (k : Nat) : readSome indeterminate k s = (.ok (), s) := by
  unfold readSome
  rw [Exec.bind_state, hp]
  rfl

/-- The end of the connection, where the outstanding read sees it. -/
theorem close_short (indeterminate : UInt8) (h : s.Ready) (hp : s.server.pending = some p)
    (hshort : s.transferred + s.server.stream.nextLayer.incoming.length < p.size) :
    ∃ m, close indeterminate s =
      ((Server.complete indeterminate { s.flat with stream.messageBuffer := m }).1,
        ⟨(Server.complete indeterminate { s.flat with stream.messageBuffer := m }).2, 0⟩) := by
  have hfits := h.fits p hp
  obtain ⟨m, s', hstore, hp', hflat, htransferred, hin⟩ := storeSome_ok h hp p.size
  refine ⟨m, ?_⟩
  unfold close
  rw [Exec.bind_state, hp]
  dsimp only
  rw [if_pos hshort, Exec.bind_ok hstore, finish_endOfFile indeterminate hp' (by omega) (by omega), hflat]
  rw [hin, List.drop_of_length_le (by omega)]

/-- The end of the connection, where it is not seen. -/
theorem close_later (indeterminate : UInt8)
    (h : ∀ p, s.server.pending = some p → p.size ≤ s.transferred + s.server.stream.nextLayer.incoming.length) :
    close indeterminate s = (.ok (), s) := by
  unfold close
  rw [Exec.bind_state]
  cases hp : s.server.pending with
  | none => rfl
  | some p =>
    dsimp only
    rw [if_neg (Nat.not_lt.mpr (h p hp))]
    rfl

end PieceServer

/-! ## Reads that are not empty -/

/-- What is waited for is at least one byte. -/
def ServerView.Waits (v : ServerView) : Prop := ∀ a, v.awaited = some a → 0 < a.size

namespace ServerView

/-- After a completion, the rest of a frame is waited for, or nothing. -/
theorem complete_waits (v : ServerView) : v.complete.Waits := by
  intro a ha
  unfold complete at ha
  split at ha
  · rename_i hnone
    rw [hnone] at ha
    cases ha
  · dsimp only at ha
    split at ha
    · cases ha
    · split at ha
      · split at ha
        · cases ha
        · rename_i hvalid
          obtain rfl := Option.some.inj ha
          have hlen := (MbapHeader.isValidLength_iff _).mp (Bool.not_eq_false _ ▸ hvalid)
          show 0 < _ - 1
          omega
      · cases ha

/-- Whatever is done, what is waited for is at least a byte. -/
theorem move_waits {v : ServerView} (h : v.Waits) (m : Move) : (move m v).2.Waits := by
  cases m with
  | call =>
    intro a ha
    have ha' : v.awaited.or (some .header) = some a := ha
    cases hv : v.awaited with
    | none =>
      rw [hv] at ha'
      obtain rfl := Option.some.inj ha'
      exact Nat.zero_lt_succ _
    | some b =>
      rw [hv] at ha'
      obtain rfl := Option.some.inj ha'
      exact h b hv
  | arrive bytes => exact h
  | complete indeterminate => exact complete_waits v
  | answer transactionId slave response => exact h

end ServerView

namespace PieceServer

/-! ## Runs -/

/-- A server in pieces and the outstanding read are as they should be. -/
structure Sound (s : PieceServer) : Prop where
  ready : s.Ready
  server : s.server.Ready

/-- A server that has stored nothing. -/
theorem sound_of_zero {t : Server} (h : t.Ready) (hwaits : t.view.Waits) : Sound ⟨t, 0⟩ := by
  refine ⟨⟨fun _ => rfl, fun p hp => ?_, fun p hp => ?_⟩, h⟩
  · rw [(h p hp).size_eq]
    exact hwaits _ (Server.view_awaited hp)
  · have hfits := (h p hp).fits
    rw [(h p hp).drained.outputStart_eq]
    exact Nat.le_trans hfits (by decide)

/-- A sound server in pieces waits for at least a byte. -/
theorem Sound.waits {s : PieceServer} (h : s.Sound) : s.server.view.Waits := by
  intro a ha
  cases hp : s.server.pending with
  | none =>
    rw [Server.view_awaited hp] at ha
    cases ha
  | some p =>
    rw [Server.view_awaited hp] at ha
    obtain rfl := Option.some.inj ha
    have hwaiting := h.ready.waiting p hp
    rw [(h.server p hp).size_eq] at hwaiting
    omega

/-- A server in pieces shows the same as another server would. -/
structure Like (s : PieceServer) (t : Server) : Prop where
  sound : s.Sound
  ready : t.Ready
  view_eq : s.flat.view = t.view

/-- A completion is like the completion of the other server. -/
theorem Like.complete {s : PieceServer} {t : Server} (h : s.Like t) (indeterminate : UInt8) (m : Vector UInt8 320) :
    let f : Server := { s.flat with stream.messageBuffer := m }
    (Server.complete indeterminate f).1 = (Server.complete indeterminate t).1 ∧
      Like ⟨(Server.complete indeterminate f).2, 0⟩ (Server.complete indeterminate t).2 := by
  intro f
  have hf : f.Ready := h.sound.server
  obtain ⟨h1, h2, h3⟩ := Server.complete_refines indeterminate f hf
  obtain ⟨h1', h2', h3'⟩ := Server.complete_refines indeterminate t h.ready
  have hview : f.view = t.view := h.view_eq
  have hwaits : (Server.complete indeterminate f).2.view.Waits := by
    rw [h2]
    exact ServerView.complete_waits _
  refine ⟨h1.trans h1'.symm, sound_of_zero h3 hwaits, h3', ?_⟩
  rw [flat_of_zero rfl, h2, h2', hview]

/-- Where nothing has been stored, the moves of the server are moves of the other. -/
theorem Like.onServer {s : PieceServer} {t : Server} (h : s.Like t) (hzero : s.transferred = 0) (m : Move) :
    (PieceServer.onServer (Server.move m) s).1 = (Server.move m t).1 ∧
      Like (PieceServer.onServer (Server.move m) s).2 (Server.move m t).2 := by
  obtain ⟨server, transferred⟩ := s
  obtain rfl : transferred = 0 := hzero
  have hview : server.view = t.view := by
    rw [← h.view_eq, flat_of_zero rfl]
  obtain ⟨h1, h2, h3⟩ := Server.move_refines m server h.sound.server
  obtain ⟨h1', h2', h3'⟩ := Server.move_refines m t h.ready
  have hwaits : (Server.move m server).2.view.Waits := by
    rw [h2]
    exact ServerView.move_waits h.sound.waits m
  refine ⟨h1.trans (by rw [h1', hview]), sound_of_zero h3 hwaits, h3', ?_⟩
  rw [flat_of_zero rfl]
  exact h2.trans (by rw [h2', hview])

/-- A move that stores nothing that the other server would not have to read. -/
theorem Like.withArray {s s' : PieceServer} {t : Server} {m : Vector UInt8 320} (h : s.Like t) (hready : s'.Ready)
    (hserver : s'.server.pending = s.server.pending) (hflat : s'.flat = { s.flat with stream.messageBuffer := m }) : s'.Like t := by
  refine ⟨⟨hready, fun p hp => h.sound.server p (hserver.symm.trans hp)⟩, h.ready, ?_⟩
  rw [hflat]
  exact h.view_eq

/-- A piece: it changes nothing that is shown, or it is the completion. -/
theorem Like.readSome {s : PieceServer} {t : Server} (h : s.Like t) (indeterminate : UInt8) (k : Nat) :
    ((PieceServer.readSome indeterminate k s).1 = .ok () ∧ (PieceServer.readSome indeterminate k s).2.Like t) ∨
    ((PieceServer.readSome indeterminate k s).1 = (Server.complete indeterminate t).1 ∧
      (PieceServer.readSome indeterminate k s).2.Like (Server.complete indeterminate t).2) := by
  cases hp : s.server.pending with
  | none =>
    rw [readSome_none indeterminate hp]
    exact Or.inl ⟨rfl, h⟩
  | some p =>
    by_cases hmore : s.transferred + min k s.server.stream.nextLayer.incoming.length < p.size
    · obtain ⟨m, s', hrun, hready, hflat, hp', -⟩ := readSome_more indeterminate h.sound.ready hp hmore
      rw [hrun]
      exact Or.inl ⟨rfl, h.withArray hready (hp'.trans hp.symm) hflat⟩
    · obtain ⟨m, hrun⟩ := readSome_last indeterminate h.sound.ready hp (Nat.not_lt.mp hmore)
      rw [hrun]
      exact Or.inr (h.complete indeterminate m)

/-- The end of the connection: it is not seen yet, or it is the completion with less than what is waited for. -/
theorem Like.close {s : PieceServer} {t : Server} (h : s.Like t) (indeterminate : UInt8) :
    ((PieceServer.close indeterminate s).1 = .ok () ∧ (PieceServer.close indeterminate s).2.Like t) ∨
    ((PieceServer.close indeterminate s).1 = (Server.complete indeterminate t).1 ∧
      (PieceServer.close indeterminate s).2.Like (Server.complete indeterminate t).2) := by
  by_cases hshort : ∃ p, s.server.pending = some p ∧ s.transferred + s.server.stream.nextLayer.incoming.length < p.size
  · obtain ⟨p, hp, hless⟩ := hshort
    obtain ⟨m, hrun⟩ := close_short indeterminate h.sound.ready hp hless
    rw [hrun]
    exact Or.inr (h.complete indeterminate m)
  · rw [close_later indeterminate fun p hp => Nat.not_lt.mp fun hless => hshort ⟨p, hp, hless⟩]
    exact Or.inl ⟨rfl, h⟩

/-- Bytes that arrive go behind what is held. -/
theorem flat_arrive (s : PieceServer) (bytes : List UInt8) : (move (.arrive bytes) s).2.flat = (Server.move (.arrive bytes) s.flat).2 := by
  show { s.server with stream.nextLayer.incoming := s.held ++ (s.server.stream.nextLayer.incoming ++ bytes) } =
    ({ s.server with stream.nextLayer.incoming := s.held ++ s.server.stream.nextLayer.incoming ++ bytes } : Server)
  rw [List.append_assoc]

/-- Bytes arrive at both servers alike. -/
theorem Like.arrive {s : PieceServer} {t : Server} (h : s.Like t) (bytes : List UInt8) :
    (move (.arrive bytes) s).1 = (Server.move (.arrive bytes) t).1 ∧ (move (.arrive bytes) s).2.Like (Server.move (.arrive bytes) t).2 := by
  refine ⟨rfl, ⟨⟨h.sound.ready.idle, h.sound.ready.waiting, h.sound.ready.fits⟩, h.sound.server⟩, h.ready, ?_⟩
  obtain ⟨-, hview, -⟩ := Server.move_refines (.arrive bytes) s.flat h.sound.server
  obtain ⟨-, hview', -⟩ := Server.move_refines (.arrive bytes) t h.ready
  rw [flat_arrive, hview, hview', h.view_eq]

/-- A call of `async_read_request`. While a read is outstanding there is none. -/
theorem Like.call {s : PieceServer} {t : Server} (h : s.Like t) :
    (move .call s).1 = (Server.move .call t).1 ∧ (move .call s).2.Like (Server.move .call t).2 := by
  by_cases hzero : s.transferred = 0
  · exact h.onServer hzero .call
  · cases hp : s.server.pending with
    | none => exact absurd (h.sound.ready.idle hp) hzero
    | some p =>
      have ht : t.pending.isSome := by
        have hawaited : t.view.awaited = some p.awaited := by
          rw [← h.view_eq]
          exact Server.view_awaited hp
        rw [← Option.isSome_map (f := PendingRead.awaited)]
        exact Option.isSome_of_eq_some hawaited
      obtain ⟨p', hp'⟩ := Option.isSome_iff_exists.mp ht
      have hmove : PieceServer.move .call s = (.ok (), s) := by
        rw [PieceServer.move, PieceServer.onServer, Exec.within, Server.move_call_outstanding hp]
      rw [hmove, Server.move_call_outstanding hp']
      exact ⟨rfl, h⟩

/-- A move is like no move of the other server, or like one. -/
theorem Like.move {s : PieceServer} {t : Server} (h : s.Like t) (m : PieceMove)
    (hbetween : ∀ transactionId slave response, m = .answer transactionId slave response → s.transferred = 0) :
    ∃ moves' : List Move, (∀ rest rest', Coarsens rest rest' → Coarsens (m :: rest) (moves' ++ rest')) ∧
      (PieceServer.move m s).1 = (Server.run moves' t).1 ∧ (PieceServer.move m s).2.Like (Server.run moves' t).2 := by
  have hone : ∀ m' : Move, Server.run [m'] t = Server.move m' t := fun m' => by
    show (Server.move m' >>= fun _ => pure PUnit.unit) t = _
    rw [bind_pure_unit]
  cases m with
  | call => exact ⟨[.call], fun _ _ h => .call h, by rw [hone]; exact h.call⟩
  | arrive bytes => exact ⟨[.arrive bytes], fun _ _ h => .arrive bytes h, by rw [hone]; exact h.arrive bytes⟩
  | answer transactionId slave response =>
    refine ⟨[.answer transactionId slave response], fun _ _ h => .answer _ _ _ h, ?_⟩
    rw [hone]
    exact h.onServer (hbetween _ _ _ rfl) _
  | readSome indeterminate k =>
    rcases h.readSome indeterminate k with hmore | hlast
    · exact ⟨[], fun _ _ h => .readSome _ _ h, hmore⟩
    · exact ⟨[.complete indeterminate], fun _ _ h => .readLast _ _ h, by rw [hone]; exact hlast⟩
  | close indeterminate =>
    rcases h.close indeterminate with hlater | hshort
    · exact ⟨[], fun _ _ h => .closeLater _ h, hlater⟩
    · exact ⟨[.complete indeterminate], fun _ _ h => .close _ h, by rw [hone]; exact hshort⟩

/-- Every run can be coarsened. -/
theorem exists_coarsens (moves : List PieceMove) : ∃ moves', Coarsens moves moves' := by
  induction moves with
  | nil => exact ⟨[], .nil⟩
  | cons m moves ih =>
    obtain ⟨moves', h⟩ := ih
    cases m with
    | call => exact ⟨_, .call h⟩
    | arrive bytes => exact ⟨_, .arrive bytes h⟩
    | readSome indeterminate k => exact ⟨_, .readSome indeterminate k h⟩
    | close indeterminate => exact ⟨_, .closeLater indeterminate h⟩
    | answer transactionId slave response => exact ⟨_, .answer transactionId slave response h⟩

/-- A run in which answers are written only while nothing is stored is like a run of the other server. -/
theorem Like.run (moves : List PieceMove) {s : PieceServer} {t : Server} (h : s.Like t) (hbetween : AnswersBetween moves s) :
    ∃ moves', Coarsens moves moves' ∧ (PieceServer.run moves s).1 = (Server.run moves' t).1 ∧
      (PieceServer.run moves s).2.Like (Server.run moves' t).2 := by
  induction moves generalizing s t with
  | nil => exact ⟨[], .nil, rfl, h⟩
  | cons m moves ih =>
    obtain ⟨hm, hmoves⟩ := hbetween
    obtain ⟨first, hcoarsens, hresult, hlike⟩ := h.move m hm
    have happend : ∀ rest, Server.run (first ++ rest) = Server.run first >>= fun _ => Server.run rest := fun _ => List.forM_append
    show ∃ moves', _ ∧ ((PieceServer.move m >>= fun _ => PieceServer.run moves) s).1 = _ ∧
      ((PieceServer.move m >>= fun _ => PieceServer.run moves) s).2.Like _
    rcases hrun : PieceServer.move m s with ⟨e | u, s₁⟩
    · rcases hrun' : Server.run first t with ⟨e' | u', t₁⟩
      · obtain ⟨rest, hrest⟩ := exists_coarsens moves
        refine ⟨first ++ rest, hcoarsens _ _ hrest, ?_⟩
        rw [happend, Exec.bind_error hrun, Exec.bind_error hrun']
        rw [hrun, hrun'] at hresult hlike
        exact ⟨by rw [Except.error.inj hresult], hlike⟩
      · rw [hrun, hrun'] at hresult
        cases hresult
    · rcases hrun' : Server.run first t with ⟨e' | u', t₁⟩
      · rw [hrun, hrun'] at hresult
        cases hresult
      · rw [hrun, hrun'] at hlike
        rw [hrun] at hmoves
        obtain ⟨rest, hrest, hresult', hlike'⟩ := ih hlike hmoves
        refine ⟨first ++ rest, hcoarsens _ _ hrest, ?_⟩
        rw [happend, Exec.bind_ok hrun, Exec.bind_ok hrun']
        exact ⟨hresult', hlike'⟩

/-- A completion of the other server is the read of one piece, or the end of the connection. -/
theorem Like.exists_complete {s : PieceServer} {t : Server} (h : s.Like t) (hzero : s.transferred = 0) (indeterminate : UInt8) :
    ∃ m : PieceMove, (∀ rest rest', Coarsens rest rest' → Coarsens (m :: rest) (.complete indeterminate :: rest')) ∧
      (PieceServer.move m s).1 = (Server.complete indeterminate t).1 ∧
      (PieceServer.move m s).2.Like (Server.complete indeterminate t).2 ∧ (PieceServer.move m s).2.transferred = 0 := by
  cases hp : s.server.pending with
  | none =>
    have ht : t.pending = none := by
      have hawaited : t.view.awaited = none := by
        rw [← h.view_eq]
        exact Server.view_awaited hp
      exact Option.map_eq_none_iff.mp hawaited
    refine ⟨.readSome indeterminate 0, fun _ _ h => .readLast _ _ h, ?_⟩
    rw [Server.complete_none indeterminate ht, show PieceServer.move (.readSome indeterminate 0) s = _ from readSome_none indeterminate hp 0]
    exact ⟨rfl, h, hzero⟩
  | some p =>
    by_cases hall : p.size ≤ s.server.stream.nextLayer.incoming.length
    · obtain ⟨m, hrun⟩ := readSome_last indeterminate h.sound.ready hp (k := p.size) (by omega)
      refine ⟨.readSome indeterminate p.size, fun _ _ h => .readLast _ _ h, ?_⟩
      rw [show PieceServer.move (.readSome indeterminate p.size) s = _ from hrun]
      obtain ⟨hresult, hlike⟩ := h.complete indeterminate m
      exact ⟨hresult, hlike, rfl⟩
    · obtain ⟨m, hrun⟩ := close_short indeterminate h.sound.ready hp (by omega)
      refine ⟨.close indeterminate, fun _ _ h => .close _ h, ?_⟩
      rw [show PieceServer.move (.close indeterminate) s = _ from hrun]
      obtain ⟨hresult, hlike⟩ := h.complete indeterminate m
      exact ⟨hresult, hlike, rfl⟩

/-- Each move of the other server is like one of a server in pieces that has stored nothing. -/
theorem Like.exists_move {s : PieceServer} {t : Server} (h : s.Like t) (hzero : s.transferred = 0) (m' : Move) :
    ∃ m : PieceMove, (∀ rest rest', Coarsens rest rest' → Coarsens (m :: rest) (m' :: rest')) ∧
      (PieceServer.move m s).1 = (Server.move m' t).1 ∧ (PieceServer.move m s).2.Like (Server.move m' t).2 ∧
      (PieceServer.move m s).2.transferred = 0 := by
  cases m' with
  | complete indeterminate => exact h.exists_complete hzero indeterminate
  | call =>
    obtain ⟨hresult, hlike⟩ := h.onServer hzero .call
    exact ⟨.call, fun _ _ h => .call h, hresult, hlike, hzero⟩
  | arrive bytes =>
    obtain ⟨hresult, hlike⟩ := h.onServer hzero (.arrive bytes)
    exact ⟨.arrive bytes, fun _ _ h => .arrive _ h, hresult, hlike, hzero⟩
  | answer transactionId slave response =>
    obtain ⟨hresult, hlike⟩ := h.onServer hzero (.answer transactionId slave response)
    exact ⟨.answer transactionId slave response, fun _ _ h => .answer _ _ _ h, hresult, hlike, hzero⟩

/-- Every run of the other server is like one of a server in pieces. -/
theorem Like.exists_run (moves' : List Move) {s : PieceServer} {t : Server} (h : s.Like t) (hzero : s.transferred = 0) :
    ∃ moves, Coarsens moves moves' ∧ AnswersBetween moves s ∧ (PieceServer.run moves s).1 = (Server.run moves' t).1 ∧
      (PieceServer.run moves s).2.Like (Server.run moves' t).2 := by
  induction moves' generalizing s t with
  | nil => exact ⟨[], .nil, trivial, rfl, h⟩
  | cons m' moves' ih =>
    obtain ⟨m, hcoarsens, hresult, hlike, hzero'⟩ := h.exists_move hzero m'
    obtain ⟨moves, hmoves, hbetween, hrest⟩ := ih hlike hzero'
    refine ⟨m :: moves, hcoarsens _ _ hmoves, ⟨fun _ _ _ _ => hzero, hbetween⟩, ?_⟩
    show ((PieceServer.move m >>= fun _ => PieceServer.run moves) s).1 = ((Server.move m' >>= fun _ => Server.run moves') t).1 ∧
      ((PieceServer.move m >>= fun _ => PieceServer.run moves) s).2.Like ((Server.move m' >>= fun _ => Server.run moves') t).2
    rcases hrun : PieceServer.move m s with ⟨e | u, s₁⟩ <;> rcases hrun' : Server.move m' t with ⟨e' | u', t₁⟩ <;>
      rw [hrun, hrun'] at hresult hlike hrest
    · rw [Exec.bind_error hrun, Exec.bind_error hrun']
      exact ⟨by rw [Except.error.inj hresult], hlike⟩
    · cases hresult
    · cases hresult
    · rw [Exec.bind_ok hrun, Exec.bind_ok hrun']
      exact hrest

end PieceServer

/-! ## Answers over what is held -/

/-- The bytes of a frame are put in two runs: all of them in order, then the length field once more. -/
theorem writeAdu_eq {α : Type} [PduWrite α] (transactionId : UInt16) (slave : UInt8) {pdu : α} (m : Vector UInt8 320)
    (hassert : PduWrite.asserts pdu = true) :
    writeAdu transactionId slave pdu m = (do
      let sink ← ({ messageBuffer := m } : Buffer 320).putAll
        (writeUint16 transactionId ++ (writeUint16 protocol ++ (writeUint16 0 ++ (writeUint8 slave ++ PduWrite.write pdu))))
      let length ← ({ sink with outputStart := 4 } : Buffer 320).putAll (writeUint16 (UInt16.ofNat (sink.outputStart - 6)))
      return ({ length with outputStart := sink.outputStart } : Buffer 320).commit sink.outputStart) := by
  unfold writeAdu
  simp only [hassert, Bool.true_eq_false, if_false, Buffer.putAll_append, bind_assoc]

/-- A frame is at the start of the array, and what was behind it is still there. -/
theorem writeAdu_array {α : Type} [PduWrite α] {transactionId : UInt16} {slave : UInt8} {pdu : α} {m : Vector UInt8 320} {b : Buffer 320}
    (hassert : PduWrite.asserts pdu = true) (hlen : (PduWrite.write pdu).length ≤ 313) (h : writeAdu transactionId slave pdu m = .ok b) :
    b.messageBuffer.toList = b.data ++ m.toList.drop b.data.length := by
  generalize hbytes : writeUint16 transactionId ++ (writeUint16 protocol ++ (writeUint16 0 ++ (writeUint8 slave ++ PduWrite.write pdu))) = bytes
  have hall : bytes.length = (PduWrite.write pdu).length + 7 := by
    rw [← hbytes]
    simp only [List.length_append, length_writeUint16, length_writeUint8]
    omega
  obtain ⟨m1, h1, t1⟩ := Buffer.putAll_ok m 0 (l := bytes) (by omega)
  obtain ⟨m2, h2, t2⟩ := Buffer.putAll_ok m1 4 (l := writeUint16 (UInt16.ofNat (bytes.length - 6))) (by rw [length_writeUint16]; omega)
  rw [writeAdu_eq transactionId slave m hassert, hbytes] at h
  rw [Nat.zero_add] at h1 t1
  simp only [h1, h2, Bind.bind, Except.bind, Pure.pure, Except.pure, Buffer.commit, Nat.zero_add] at h
  obtain rfl := Except.ok.inj h
  have hsame : m2.toList.drop bytes.length = m.toList.drop bytes.length := by
    generalize UInt16.ofNat (bytes.length - 6) = length at t2
    have hlong : 6 ≤ bytes.length := by omega
    have hfront : (m1.toList.take 4 ++ writeUint16 length).length = 6 := by
      rw [List.length_append, List.length_take, Vector.length_toList, length_writeUint16]
      rfl
    obtain ⟨k, hk⟩ := Nat.exists_eq_add_of_le hlong
    have hm1 : m1.toList.drop bytes.length = m.toList.drop bytes.length := by
      rw [t1, List.take_zero, List.nil_append, List.drop_left]
    rw [t2, hk, ← List.drop_drop, List.drop_left' hfront, length_writeUint16, List.drop_drop, ← hk, hm1]
  show m2.toList = (m2.toList.take bytes.length).drop 0 ++ m.toList.drop ((m2.toList.take bytes.length).drop 0).length
  rw [List.drop_zero, List.length_take, Vector.length_toList, Nat.min_eq_left (by omega), ← hsame, List.take_append_drop]

/-- An answer that is sent is at the start of the array. -/
theorem Stream.writeResponse_array (transactionId : UInt16) (slave : UInt8) (s : Stream) {response : Answer}
    (hlen : (PduWrite.write response).length ≤ 313) :
    let frame := (frameHeader transactionId slave (PduWrite.write response)).bytes ++ PduWrite.write response
    ∃ m : Vector UInt8 320, writeResponse transactionId slave response s = (.ok (), { s with
        messageBuffer := m, nextLayer.outgoing := s.nextLayer.outgoing ++ frame }) ∧
      m.toList = frame ++ s.messageBuffer.toList.drop frame.length := by
  intro frame
  obtain ⟨b, hb, hd⟩ := writeAdu_ok transactionId slave s.messageBuffer (asserts_answer response) hlen
  have harray := writeAdu_array (asserts_answer response) hlen hb
  rw [hd] at harray
  refine ⟨b.messageBuffer, ?_, harray⟩
  unfold writeResponse
  rw [Exec.bind_state, hb, show frame = b.data from hd.symm]
  rfl

namespace PieceServer

/-- Every move keeps a server in pieces as it should be. -/
theorem Sound.move {s : PieceServer} (h : s.Sound) (m : PieceMove) : (PieceServer.move m s).2.Sound := by
  have hlike : s.Like s.flat := ⟨h, h.server, rfl⟩
  by_cases hanswer : ∃ transactionId slave response, m = .answer transactionId slave response
  · obtain ⟨transactionId, slave, response, rfl⟩ := hanswer
    exact ⟨⟨h.ready.idle, h.ready.waiting, h.ready.fits⟩, h.server⟩
  · obtain ⟨moves', -, -, hlike'⟩ := hlike.move m fun transactionId slave response hm =>
      absurd ⟨transactionId, slave, response, hm⟩ hanswer
    exact hlike'.sound

/-- Whatever is done, a server in pieces stays as it should be. -/
theorem Sound.run (moves : List PieceMove) {s : PieceServer} (h : s.Sound) : (PieceServer.run moves s).2.Sound := by
  induction moves generalizing s with
  | nil => exact h
  | cons m moves ih =>
    have hm := h.move m
    show ((PieceServer.move m >>= fun _ => PieceServer.run moves) s).2.Sound
    rcases hrun : PieceServer.move m s with ⟨e | u, s₁⟩ <;> rw [hrun] at hm
    · rw [Exec.bind_error hrun]
      exact hm
    · rw [Exec.bind_ok hrun]
      exact ih hm

/-- An answer replaces what is held by its own bytes, as far as it is long enough. -/
theorem answer_ok {s : PieceServer} {p : PendingRead} (h : s.Sound) (hp : s.server.pending = some p) (transactionId : UInt16)
    (slave : UInt8) {response : Answer} (hlen : (PduWrite.write response).length ≤ 313) :
    let frame := (frameHeader transactionId slave (PduWrite.write response)).bytes ++ PduWrite.write response
    ∃ s', move (.answer transactionId slave response) s = (.ok (), s') ∧ s'.Sound ∧ s'.server.pending = some p ∧
      s'.transferred = s.transferred ∧ s'.server.stream.nextLayer.incoming = s.server.stream.nextLayer.incoming ∧
      s'.flat.view = { s.flat.view with
        stream.nextLayer := {
          incoming := frame.overlaid p.awaited.offset s.held ++ s.server.stream.nextLayer.incoming,
          outgoing := s.server.stream.nextLayer.outgoing ++ frame } } := by
  intro frame
  obtain ⟨m, hrun, harray⟩ := Stream.writeResponse_array transactionId slave s.server.stream hlen
  have hready := h.server p hp
  have hwaiting := h.ready.waiting p hp
  have hfits := h.ready.fits p hp
  rw [hready.drained.outputStart_eq] at hfits
  let s' : PieceServer := { s with
    server.stream.messageBuffer := m, server.stream.nextLayer.outgoing := s.server.stream.nextLayer.outgoing ++ frame }
  have hmove : move (.answer transactionId slave response) s = (.ok (), s') := by
    rw [move, onServer, Exec.within, Server.move, Exec.within, hrun]
  have hp' : s'.server.pending = some p := hp
  have hheld : s'.held = frame.overlaid p.awaited.offset s.held := by
    rw [held_of_pending hp', held_of_pending hp, hready.drained.outputStart_eq]
    show (m.toList.drop _).take s.transferred = _
    rw [harray, List.take_drop_overlaid _ _ (by rw [Vector.length_toList]; omega)]
  refine ⟨s', hmove, ⟨⟨h.ready.idle, h.ready.waiting, h.ready.fits⟩, h.server⟩, hp, rfl, rfl, ?_⟩
  unfold flat
  rw [hheld]
  rfl

/-- A read that is given all it waits for, without the array. -/
theorem Sound.readSome_view {s : PieceServer} (h : s.Sound) {a : Awaited} (ha : s.server.view.awaited = some a)
    (hthere : a.size ≤ s.flat.view.stream.nextLayer.incoming.length) {k : Nat} (hk : a.size ≤ k) (indeterminate : UInt8) :
    ∃ s', readSome indeterminate k s = (.ok (), s') ∧ s'.Sound ∧ s'.transferred = 0 ∧ s'.server.view = s.flat.view.complete := by
  obtain ⟨p, hp, rfl⟩ := Option.map_eq_some_iff.mp ha
  have hsize := (h.server p hp).size_eq
  have hwaiting := h.ready.waiting p hp
  have hlen := length_held hp (by have := h.ready.fits p hp; omega)
  have hall : p.size ≤ s.transferred + min k s.server.stream.nextLayer.incoming.length := by
    have hin : s.flat.view.stream.nextLayer.incoming.length = s.transferred + s.server.stream.nextLayer.incoming.length := by
      rw [← hlen]
      exact List.length_append
    omega
  obtain ⟨m, hrun⟩ := readSome_last indeterminate h.ready hp hall
  have hlike : s.Like s.flat := ⟨h, h.server, rfl⟩
  obtain ⟨-, hafter⟩ := hlike.complete indeterminate m
  obtain ⟨hok, hview, -⟩ := Server.complete_refines indeterminate { s.flat with stream.messageBuffer := m } h.server
  exact ⟨_, hrun.trans (Prod.ext hok rfl), hafter.sound, rfl, hview⟩

/-- A server that waits for a header, on a connection that goes on with a valid one, takes as many bytes behind it as it says for the
body. -/
theorem Sound.readFrame {s : PieceServer} (h : s.Sound) (hheader : s.server.view.awaited = some .header) {hdr : MbapHeader}
    {pdu rest : List UInt8} (hin : s.held ++ s.server.stream.nextLayer.incoming = hdr.bytes ++ (pdu ++ rest))
    (hvalid : hdr.isValidLength = true) (hsize : hdr.length.toNat - 1 = pdu.length) (hpdu : pdu.length ≤ 320) (indeterminate : UInt8) :
    ∃ s', PieceServer.run [.readSome indeterminate 320, .readSome indeterminate 320] s = (.ok (), s') ∧
      s'.server.calls = s.server.calls ++ [⟨hdr.transactionId, hdr.unitId, (Server.outcome 0 s.server.request pdu).1⟩] ∧
      s'.server.request = (Server.outcome 0 s.server.request pdu).2 ∧ s'.server.stream.nextLayer.incoming = rest := by
  have hin' : s.flat.view.stream.nextLayer.incoming = hdr.bytes ++ (pdu ++ rest) := hin
  obtain ⟨s₁, hrun₁, hsound₁, hzero₁, hview₁⟩ := h.readSome_view hheader
    (by rw [hin', List.length_append, hdr.length_bytes]; exact Nat.le_add_right _ _) (k := 320) (by decide) indeterminate
  rw [ServerView.complete_header (v := s.flat.view) hheader hin', if_neg (by rw [hvalid]; decide)] at hview₁
  have hawaited₁ : s₁.server.view.awaited = some (.body hdr) := by rw [hview₁]
  have hin₁ : s₁.flat.view.stream.nextLayer.incoming = pdu ++ rest := by rw [flat_of_zero hzero₁, hview₁]
  obtain ⟨s₂, hrun₂, -, -, hview₂⟩ := hsound₁.readSome_view hawaited₁
    (by rw [hin₁, List.length_append]; show hdr.length.toNat - 1 ≤ _; omega) (k := 320)
    (by show hdr.length.toNat - 1 ≤ _; omega) indeterminate
  rw [flat_of_zero hzero₁] at hin₁ hview₂
  rw [ServerView.complete_body hawaited₁ hsize.symm hin₁, hview₁] at hview₂
  refine ⟨s₂, ?_, congrArg ServerView.calls hview₂, congrArg ServerView.request hview₂,
    congrArg (fun v => v.stream.nextLayer.incoming) hview₂⟩
  show (readSome indeterminate 320 >>= fun _ => readSome indeterminate 320 >>= fun _ => pure PUnit.unit) s = _
  rw [Exec.bind_ok hrun₁, bind_pure_unit, hrun₂]

/-- A server that waits for a header, on a connection that goes on with a unit, hands the unit over. -/
theorem Sound.readUnit {s : PieceServer} (h : s.Sound) (hheader : s.server.view.awaited = some .header) {a : Adu} {rest : List UInt8}
    (hin : s.held ++ s.server.stream.nextLayer.incoming = a.bytes ++ rest) (indeterminate : UInt8) :
    ∃ s', PieceServer.run [.readSome indeterminate 320, .readSome indeterminate 320] s = (.ok (), s') ∧
      s'.server.calls = s.server.calls ++ [⟨a.transactionId, a.unitId, (Server.outcome 0 s.server.request a.pdu).1⟩] ∧
      s'.server.request = (Server.outcome 0 s.server.request a.pdu).2 ∧ s'.server.stream.nextLayer.incoming = rest := by
  have hpdu := a.pdu_length
  have hsize : a.header.length.toNat - 1 = a.pdu.length := by
    rw [a.header_length]
    omega
  rw [Adu.bytes, List.append_assoc] at hin
  exact h.readFrame hheader hin a.isValidLength_header hsize (by omega) indeterminate

/-- An answer while a header has arrived in part: its first bytes are taken for those that had arrived. -/
theorem Sound.answer_header {s : PieceServer} (h : s.Sound) (hheader : s.server.view.awaited = some .header) (transactionId : UInt16)
    (slave : UInt8) {response : Answer} (hlen : (PduWrite.write response).length ≤ 313) :
    let frame := (frameHeader transactionId slave (PduWrite.write response)).bytes ++ PduWrite.write response
    s.held.length = s.transferred ∧ ∃ s', PieceServer.move (.answer transactionId slave response) s = (.ok (), s') ∧ s'.Sound ∧
      s'.server.view.awaited = some .header ∧ s'.server.calls = s.server.calls ∧ s'.server.request = s.server.request ∧
      s'.held ++ s'.server.stream.nextLayer.incoming = frame.take s.transferred ++ s.server.stream.nextLayer.incoming := by
  intro frame
  obtain ⟨p, hp, hawaited⟩ := Option.map_eq_some_iff.mp hheader
  have hsize := (h.server p hp).size_eq
  have hwaiting := h.ready.waiting p hp
  rw [hawaited] at hsize
  have hheld : s.held.length = s.transferred := length_held hp (by have := h.ready.fits p hp; omega)
  have hlong : Awaited.header.offset + s.held.length ≤ frame.length := by
    have h7 : Awaited.header.size = 7 := rfl
    rw [List.length_append, MbapHeader.length_bytes]
    show 0 + _ ≤ 7 + _
    omega
  obtain ⟨s', hrun, hsound, hp', -, -, hview⟩ := answer_ok h hp transactionId slave hlen
  have hin : s'.held ++ s'.server.stream.nextLayer.incoming =
      frame.overlaid p.awaited.offset s.held ++ s.server.stream.nextLayer.incoming :=
    congrArg (fun v => v.stream.nextLayer.incoming) hview
  rw [hawaited, List.overlaid_of_le hlong, hheld] at hin
  refine ⟨hheld, s', hrun, hsound, ?_, congrArg ServerView.calls hview, congrArg ServerView.request hview, hin⟩
  rw [Server.view_awaited hp']
  exact congrArg some hawaited

/-- The first byte of a length field of a frame is zero. -/
theorem length_highByte {n : Nat} (h : n < 256) : ((UInt16.ofNat n >>> 8) &&& 0xff).toUInt8 = 0 := by
  apply UInt8.toNat_inj.mp
  rw [toNat_highByte, UInt16.toNat_ofNat', Nat.mod_eq_of_lt (by omega)]
  exact Nat.div_eq_of_lt h

/-- A unit with the start of its header replaced by that of the frame of an answer is a unit under the transaction id of the answer. -/
theorem exists_relabelled (a : Adu) (transactionId : UInt16) (slave : UInt8) {pdu : List UInt8} (hpdu : pdu.length ≤ 253) {k : Nat}
    (hmin : 2 ≤ k) (hmax : k ≤ 5) :
    ∃ protocol, ((frameHeader transactionId slave pdu).bytes ++ pdu).take k ++ a.bytes.drop k =
      ({ a with transactionId, protocol } : Adu).bytes := by
  obtain rfl | rfl | rfl | rfl : k = 2 ∨ k = 3 ∨ k = 4 ∨ k = 5 := by omega
  · exact ⟨a.protocol, rfl⟩
  · refine ⟨((protocol >>> 8) &&& 0xff).toUInt8.toUInt16 <<< 8 ||| (a.protocol &&& 0xff).toUInt8.toUInt16, ?_⟩
    simp only [Adu.bytes, Adu.header, MbapHeader.bytes, writeUint16_join]
    rfl
  · exact ⟨protocol, rfl⟩
  · have hsame : ((UInt16.ofNat (pdu.length + 1) >>> 8) &&& 0xff).toUInt8 = ((UInt16.ofNat (a.pdu.length + 1) >>> 8) &&& 0xff).toUInt8 := by
      have := a.pdu_length
      rw [length_highByte (by omega), length_highByte (by omega)]
    refine ⟨protocol, ?_⟩
    show writeUint16 transactionId ++ (writeUint16 protocol ++ (((UInt16.ofNat (pdu.length + 1) >>> 8) &&& 0xff).toUInt8 :: _)) = _
    rw [hsame]
    rfl

end PieceServer

end Mothbus.Tcp
