import Sas.Client.Playback
import Sas.System.Completion
import Sas.System.SendFailure

/-! # What becomes of a file

The server reads a file in pieces and sends each in one data packet. The client takes eight bytes off
the length of every packet, and of a piece that is long enough it hands the rest to its sink. So a
transfer that completes loses exactly the last eight bytes of every piece.
-/

namespace Sas.System

open Foundation Transport Formats

/-- A piece without as many bytes at its end as a configuration has. -/
def cut (piece : List UInt8) : List UInt8 := piece.take (piece.length - packetCfgAckSize)

/-- A chunk holds what the client leaves of a piece that is long enough. -/
def Holds (chunk : Chunk) (piece : List UInt8) : Prop :=
  packetCfgAckSize ≤ piece.length →
    chunk.size = piece.length - packetCfgAckSize ∧ chunk.buffer.read chunk.size = cut piece

section

variable {sink : Client.Sink} {addr : SockaddrIn6} {start : Client.Config}
  {pair next : Pair} {event : PairEvent} {events : List PairEvent} {file : List UInt8}
  {datagram piece : List UInt8} {header : PacketHeader} {chunks : List Chunk}
  {pieces : List (List UInt8)} {name : List UInt8} {memory : Chunk} {env : Env}

/-- The chunk for a data packet holds its piece. -/
theorem holds_dataChunk (carries : Carries datagram header piece)
    (fits : datagram.length ≤ bufferSize) (buffer : Memory) (chunk : Chunk) :
    Holds (Client.dataChunk header ((receiveInto buffer datagram).shift packetHeaderSize) chunk)
      piece := by
  intro long
  have small : header.length.toNat < 2 ^ 64 :=
    Nat.lt_trans header.length.toNat_lt (by decide)
  have size : sizeSub header.length.toNat packetCfgAckSize = piece.length - packetCfgAckSize := by
    rw [← carries.1] at small ⊢
    exact sizeSub_of_le long small
  refine ⟨size, ?_⟩
  change ((receiveInto buffer datagram).shift packetHeaderSize).read
    (sizeSub header.length.toNat packetCfgAckSize) = _
  rw [size, carries.payload_receiveInto fits, Memory.read_write _ _ (Nat.sub_le _ _), cut]

/-- Chunks that hold long pieces hold what is left of them. -/
theorem flatMap_read_of_holds (holds : List.Forall₂ Holds chunks pieces)
    (long : ∀ piece ∈ pieces, packetCfgAckSize ≤ piece.length) :
    (chunks.flatMap fun chunk => chunk.buffer.read chunk.size) = pieces.flatMap cut := by
  induction holds with
  | nil => rfl
  | cons first _ ih =>
      obtain ⟨own, others⟩ := List.forall_mem_cons.mp long
      rw [List.flatMap_cons, List.flatMap_cons, (first own).2, ih others]

/-- Chunks that hold long pieces are no longer than these. -/
theorem size_le_of_holds {limit : Nat} (holds : List.Forall₂ Holds chunks pieces)
    (long : ∀ piece ∈ pieces, packetCfgAckSize ≤ piece.length)
    (few : ∀ piece ∈ pieces, piece.length ≤ limit) : ∀ chunk ∈ chunks, chunk.size ≤ limit := by
  induction holds with
  | nil => exact fun _ member => (List.not_mem_nil member).elim
  | cons first _ ih =>
      obtain ⟨own, others⟩ := List.forall_mem_cons.mp long
      obtain ⟨few, fewer⟩ := List.forall_mem_cons.mp few
      refine List.forall_mem_cons.mpr ⟨?_, ih others fewer⟩
      rw [(first own).1]
      exact Nat.le_trans (Nat.sub_le _ _) few

/-! ## What is pushed -/

/-- No data packet on the way to the client carries more than the server reads at once. -/
def Short (pair : Pair) : Prop :=
  ∀ datagram ∈ pair.toClient.sent, isData datagram = true → (payloadOf datagram).length ≤ 1024

/-- Over lossless channels every chunk fits into the buffer of the client. -/
theorem FileRun.short (begun : Client.receive name memory env = .ok start)
    (waits : start.stage = .select) (run : FileRun sink addr file start events pair) :
    Short pair := by
  intro datagram member data
  obtain ⟨_, each⟩ := run.inStream begun waits
  obtain ⟨before, after, split⟩ := List.append_of_mem member
  exact ((each before datagram after split).1 data).2.1

/-- What the server has sent it has sent before. -/
theorem PairStep.sent_subset {delivery : Delivery} (step : PairStep delivery sink addr pair event next) :
    ∀ datagram ∈ pair.toClient.sent, datagram ∈ next.toClient.sent := by
  intro datagram member
  cases step with
  | server => exact List.mem_append_left _ member
  | client | marked | expired => exact member

/-- A datagram that arrives at the client brings the piece it carries, where it carries one. -/
theorem Backlog.holds_clientTurn (backlog : Backlog pair) {clientEvent : Client.ClientEvent}
    {client : Client.Config} (stepped : Client.ClientStep sink pair.client clientEvent client)
    (received : clientEvent.input.datagram? = some datagram)
    (arrives : inOrder pair.toClient.sent pair.toClient.arrived datagram)
    (after : Backlog (pair.clientTurn clientEvent client)) (short : Short pair)
    (holds : List.Forall₂ Holds pair.client.world.pushed.tail (chunksOf pair.toClient.delivered)) :
    List.Forall₂ Holds client.world.pushed.tail
      (chunksOf (pair.clientTurn clientEvent client).toClient.delivered) := by
  have formed := backlog.agreement.formed.1.formed
  have delivered : (pair.clientTurn clientEvent client).toClient.delivered =
      pair.toClient.delivered ++ [datagram] := by
    have one : takenBy clientEvent.input = 1 := if_pos (Option.isSome_of_eq_some received)
    rw [Pair.clientTurn, one]
    exact Channel.delivered_deliver arrives
  have count := after.delivered_eq
  rw [delivered, List.countP_append, backlog.delivered_eq] at count
  change pair.client.world.pushed.length - 1 + _ = client.world.pushed.length - 1 at count
  rw [delivered, chunksOf_append]
  rcases stepped.hears_or formed with ⟨heard, chunk, heeds⟩ | ⟨deaf, same, _⟩
  · cases received.symm.trans heeds.received
    rw [heeds.pushed, List.length_append, List.length_singleton, Nat.add_sub_cancel] at count
    rw [heeds.pushed]
    by_cases first : pair.client.world.pushed = []
    · -- the configuration is no piece
      have other : isData datagram = false := by
        rw [first, List.length_nil, Nat.zero_sub, Nat.zero_add, List.countP_singleton] at count
        by_contra data
        rw [if_pos ((Bool.not_eq_false _).mp data)] at count
        cases count
      rw [first] at holds
      rw [first, chunksOf_singleton_eq_nil other, List.append_nil]
      exact holds
    · have data : isData datagram = true := by
        have some := List.length_pos_of_ne_nil first
        rw [List.countP_singleton] at count
        by_contra other
        rw [if_neg other] at count
        omega
      have member : datagram ∈ pair.toClient.sent := List.mem_of_getElem? arrives
      obtain ⟨header, payload, carries⟩ := backlog.agreement.answered datagram member
      have few := short datagram member data
      rw [carries.payloadOf_eq] at few
      have fits : datagram.length ≤ bufferSize := by
        rw [carries.length_eq]
        exact Nat.le_trans (Nat.add_le_add_left few _) (by decide)
      have head : clientEvent.input.header datagram = header := input_header_eq _ carries
      rw [List.tail_append_of_ne_nil first, chunksOf_singleton data, carries.payloadOf_eq]
      refine List.rel_append holds (.cons ?_ .nil)
      cases heeds.pushes with
      | config waiting => exact (first (backlog.agreement.formed.1.waiting waiting).1).elim
      | data =>
          rw [head]
          exact holds_dataChunk carries fits clientEvent.input.buffer _
  · have reset := backlog.isRst_of_deaf stepped received arrives deaf
    rw [same, chunksOf_singleton_eq_nil (isData_of_isRst reset), List.append_nil]
    exact holds

/-- The chunks a client has pushed behind the configuration hold the pieces that have arrived. -/
theorem LosslessRun.holds (begun : Client.receive name memory env = .ok start)
    (run : LosslessRun sink addr start events pair) (short : Short pair) :
    List.Forall₂ Holds pair.client.world.pushed.tail (chunksOf pair.toClient.delivered) := by
  refine run.history (fun _ pair => Short pair →
    List.Forall₂ Holds pair.client.world.pushed.tail (chunksOf pair.toClient.delivered)) ?_ ?_ short
  · intro _
    obtain ⟨_, _, _, _, _, _, pushed, _⟩ := Client.receive_spec begun
    change List.Forall₂ Holds start.world.pushed.tail []
    rw [pushed]
    exact .nil
  · intro events pair event next before holds step short
    have backlog := LosslessRun.backlog begun before
    have after := backlog.step step
    have holds := holds fun datagram member => short datagram (step.1.sent_subset datagram member)
    obtain ⟨step, lossless⟩ := step
    cases step with
    | server =>
        change List.Forall₂ Holds _ (chunksOf (pair.toClient.send _).delivered)
        rw [Channel.delivered_send backlog.agreement.taken]
        exact holds
    | marked => exact holds
    | expired => exact lossless.elim
    | @client clientEvent client stepped arrives =>
        obtain ⟨datagram, received⟩ := Option.isSome_iff_exists.mp lossless.1
        exact backlog.holds_clientTurn stepped received (arrives datagram received) after short holds

/-! ## The pieces of a file -/

/-- What the reads return are the pieces and the header before them. -/
theorem bytesRead_eq_flatten (replies : List ReadReply) :
    bytesRead replies = (replies.filterMap chunk?).flatten := by
  induction replies with
  | nil => rfl
  | cons reply replies ih =>
      rw [bytesRead_cons, ih]
      match reply with
      | .failed _ => rfl
      | .data [] => rfl
      | .data (byte :: bytes) => rfl

/-- No piece is empty. -/
theorem ne_nil_of_mem_chunksRead {replies : List ReadReply} (member : piece ∈ chunksRead replies) :
    piece ≠ [] := by
  obtain ⟨reply, _, chunk⟩ := List.mem_filterMap.mp member
  match reply with
  | .failed _ => cases chunk
  | .data [] => cases chunk
  | .data (byte :: bytes) =>
      cases chunk
      exact List.cons_ne_nil _ _

/-- The pieces are parts of the file behind its header. -/
theorem flatten_chunksRead_isPrefix {replies : List ReadReply} (delivers : Delivers file replies)
    (header : Server.HeaderRead replies) :
    (chunksRead replies).flatten <+: file.drop Wav.waveHeaderSize := by
  cases replies with
  | nil => exact List.nil_prefix
  | cons first rest =>
      have whole := header first rest rfl
      obtain ⟨unread, same⟩ := delivers.bytesRead_isPrefix
      rw [chunksRead, List.tail_cons, ← bytesRead_eq_flatten, ← whole, ← same, bytesRead_cons,
        List.append_assoc, List.drop_left]
      exact List.prefix_append _ _

/-- The server has read what it has sent. -/
theorem LosslessRun.chunksOf_isPrefix (begun : Client.receive name memory env = .ok start)
    (waits : start.stage = .select) (run : LosslessRun sink addr start events pair) :
    chunksOf pair.toClient.sent <+: chunksRead (readsOf events) := by
  have lets := LosslessRun.lets begun waits run
  rw [← lets.sent, ← lets.reads]
  cases lets.tenant with
  | none idle =>
      rw [idle]
      exact List.nil_prefix
  | one memory loud run => exact sessionRun_chunks_isPrefix run

/-- The pieces that have arrived are the first of those that have been read, as many as the client has
pushed. -/
theorem LosslessRun.chunksOf_delivered (begun : Client.receive name memory env = .ok start)
    (waits : start.stage = .select) (run : LosslessRun sink addr start events pair) :
    chunksOf pair.toClient.delivered = (chunksRead (readsOf events)).take pair.chunksPushed := by
  have arrived : pair.toClient.delivered <+: pair.toClient.sent := List.take_prefix _ _
  have within := ((arrived.filter isData).map payloadOf).trans
    (LosslessRun.chunksOf_isPrefix begun waits run)
  have length : (chunksOf pair.toClient.delivered).length = pair.chunksPushed := by
    rw [chunksOf, List.length_map, ← List.countP_eq_length_filter]
    exact (LosslessRun.backlog begun run).delivered_eq
  rw [← length]
  exact List.prefix_iff_eq_take.mp within

/-- The client has pushed what is left of the pieces that have arrived. -/
theorem FileRun.pushedBytes_eq (begun : Client.receive name memory env = .ok start)
    (waits : start.stage = .select) (run : FileRun sink addr file start events pair)
    (long : ∀ piece ∈ chunksRead (readsOf events), packetCfgAckSize ≤ piece.length) :
    pair.pushedBytes = ((chunksRead (readsOf events)).take pair.chunksPushed).flatMap cut := by
  have holds := LosslessRun.holds begun run.run (run.short begun waits)
  rw [LosslessRun.chunksOf_delivered begun waits run.run] at holds
  exact flatMap_read_of_holds holds fun piece member => long piece (List.mem_of_mem_take member)

/-- When the client returns, all pieces have arrived, and they are the whole file behind its header. -/
theorem Transfer.whole (accepted : Accepts file)
    (begun : Client.receive name memory env = .ok start) (waits : start.stage = .select)
    (transfer : Transfer sink addr file start events pair) {code : Int32}
    (returned : pair.client.stage = .returned code) :
    (chunksRead (readsOf events)).flatten = file.drop Wav.waveHeaderSize ∧
      (chunksRead (readsOf events)).take pair.chunksPushed = chunksRead (readsOf events) := by
  obtain ⟨_, whole⟩ := transfer.returned accepted begun waits returned
  have within := flatten_chunksRead_isPrefix transfer.run.delivers transfer.run.header
  have taken : streamOf pair.toClient.delivered =
      ((chunksRead (readsOf events)).take pair.chunksPushed).flatten := by
    rw [← LosslessRun.chunksOf_delivered begun waits transfer.run.run]
    exact List.flatMap_def
  have split : (chunksRead (readsOf events)).flatten = file.drop Wav.waveHeaderSize ++
      ((chunksRead (readsOf events)).drop pair.chunksPushed).flatten := by
    rw [← whole, taken, ← List.flatten_append, List.take_append_drop]
  have nothing : ((chunksRead (readsOf events)).drop pair.chunksPushed).flatten = [] := by
    have short := within.length_le
    rw [split, List.length_append] at short
    exact List.eq_nil_of_length_eq_zero (by omega)
  refine ⟨by rw [split, nothing, List.append_nil], ?_⟩
  have none : (chunksRead (readsOf events)).drop pair.chunksPushed = [] := by
    refine List.eq_nil_iff_forall_not_mem.mpr fun piece member => ?_
    exact ne_nil_of_mem_chunksRead (List.mem_of_mem_drop member)
      (List.flatten_eq_nil_iff.mp nothing piece member)
  have both := List.take_append_drop pair.chunksPushed (chunksRead (readsOf events))
  rw [none, List.append_nil] at both
  exact both

/-- **What becomes of a file.** Over lossless channels, where every piece that is read has eight bytes
at least, a client has always handed its sink the pieces that have arrived, in order and each without
its last eight bytes. When it returns, these are all pieces of the file behind its header. -/
theorem transfer_cuts_pieces (accepted : Accepts file)
    (begun : Client.receive name memory env = .ok start) (waits : start.stage = .select)
    (transfer : Transfer sink addr file start events pair)
    (long : ∀ piece ∈ chunksRead (readsOf events), packetCfgAckSize ≤ piece.length) :
    pair.pushedBytes = ((chunksRead (readsOf events)).take pair.chunksPushed).flatMap cut ∧
      ∀ code, pair.client.stage = .returned code →
        (chunksRead (readsOf events)).flatten = file.drop Wav.waveHeaderSize ∧
          pair.pushedBytes = (chunksRead (readsOf events)).flatMap cut := by
  have pushed := transfer.run.pushedBytes_eq begun waits long
  refine ⟨pushed, fun code returned => ?_⟩
  obtain ⟨whole, all⟩ := transfer.whole accepted begun waits returned
  exact ⟨whole, by rw [pushed, all]⟩

/-! ## On an audio device -/

/-- **What a device plays of a file.** Over lossless channels, where the device obliges and every piece
that is read has eight bytes at least, a client with the OSS driver has always played the pieces that
have arrived, in order and each without its last eight bytes. When it returns, it has played all. -/
theorem device_plays {audio : Client.AudioEnv} (obliging : Client.Obliging audio)
    (accepted : Accepts file) (begun : Client.receive name memory env = .ok start)
    (waits : start.stage = .select)
    (transfer : Transfer (Client.driversOss audio) addr file start events pair)
    (long : ∀ piece ∈ chunksRead (readsOf events), packetCfgAckSize ≤ piece.length) :
    Client.playedBy (Client.ossAfter audio pair.client.world.pushed).kernel.calls =
        ((chunksRead (readsOf events)).take pair.chunksPushed).flatMap cut ∧
      ∀ code, pair.client.stage = .returned code →
        (chunksRead (readsOf events)).flatten = file.drop Wav.waveHeaderSize ∧
          Client.playedBy (Client.ossAfter audio pair.client.world.pushed).kernel.calls =
            (chunksRead (readsOf events)).flatMap cut := by
  have run := transfer.run.run
  have short := transfer.run.short begun waits
  have holds := LosslessRun.holds begun run short
  have tame : ∀ chunk ∈ pair.client.world.pushed.tail, chunk.size ≤ Client.ssizeMax := by
    have few : ∀ piece ∈ chunksOf pair.toClient.delivered, piece.length ≤ 1024 := by
      intro piece member
      obtain ⟨datagram, arrived, rfl⟩ := List.mem_map.mp member
      obtain ⟨arrived, data⟩ := List.mem_filter.mp arrived
      exact short datagram (List.mem_of_mem_take arrived) data
    have sizes := size_le_of_holds holds (fun piece member => ?_) few
    · exact fun chunk member => Nat.le_trans (sizes chunk member) (by decide)
    · rw [LosslessRun.chunksOf_delivered begun waits run] at member
      exact long piece (List.mem_of_mem_take member)
  have connects : (Client.driversOss audio).Bounded [] := Nat.zero_le 1
  obtain ⟨_, iterations⟩ := PairRun.clientRun (run.mono fun _ _ _ step => step.1)
  have performed := Client.performance obliging
    (Client.ClientRun.bounded connects begun iterations) tame
  have played := performed.played.trans (transfer.run.pushedBytes_eq begun waits long)
  refine ⟨played, fun code returned => ?_⟩
  obtain ⟨whole, all⟩ := transfer.whole accepted begun waits returned
  exact ⟨whole, by rw [played, all]⟩

end

/-- One byte of the song of nine bytes is pushed. -/
theorem transfer_cuts_pieces_nine : nineStreamed.2.pushedBytes = [1] :=
  ((transfer_cuts_pieces (by decide +kernel) Client.songStart_begun (by decide +kernel)
    ⟨nineStreamed_run, by decide +kernel⟩ (by decide +kernel)).2 0 (by decide +kernel)).2.trans
    (by decide +kernel)

/-- The song of nine bytes is streamed to an audio device. -/
def ninePlayed : List PairEvent × Pair :=
  (Pair.start Client.songStart).replay inOrder (Client.driversOss Client.songDevice) Server.listener
    nineTurns

/-- The example plays its file over lossless channels. -/
theorem ninePlayed_run : FileRun (Client.driversOss Client.songDevice) Server.listener nineBytes
    Client.songStart ninePlayed.1 ninePlayed.2 := by
  have reads : readsOf ninePlayed.1 =
      [.data Server.songHeader, .data [1, 2, 3, 4, 5, 6, 7, 8, 9], .data []] := by
    decide +kernel
  refine ⟨losslessRun_of_forall (Pair.replay_run _ _) (by decide +kernel), ?_, ?_, ?_⟩
  · rw [reads]
    exact nineStreamed_run.delivers
  · rw [reads]
    exact nineStreamed_run.header
  · rw [reads]
    exact nineStreamed_run.succeeds

/-- One byte of it is played. -/
theorem device_plays_nine :
    Client.playedBy (Client.ossAfter Client.songDevice ninePlayed.2.client.world.pushed).kernel.calls =
      [1] :=
  ((device_plays Client.songDevice_obliging (by decide +kernel) Client.songStart_begun
    (by decide +kernel) ⟨ninePlayed_run, by decide +kernel⟩ (by decide +kernel)).2 0
    (by decide +kernel)).2.trans (by decide +kernel)

end Sas.System
