import Sas.Stale
import Sas.Rxc.Erasure
import Sas.Client.Progress
import Sas.Client.Numbering

/-! # What a client makes of stale bytes

A chunk points into the receive buffer, so what is seen of a client are its chunks cut to their
sizes. What the client does with its chunks can be followed through this cut; it handles a datagram
by its own bytes exactly if the fields and the audio it reads from the buffer lie in the datagram.
-/

namespace Sas

/-- The chunk with nothing behind its size. -/
def Chunk.cut (chunk : Chunk) : Chunk :=
  { chunk with buffer := fun index => if index < chunk.size then chunk.buffer index else 0 }

end Sas

namespace Sas.Client

open Foundation Transport Rxc

/-- The client with its chunks cut to their sizes. -/
def World.visible (world : World) : World where
  session := { world.session with chunk := world.session.chunk.cut }
  kernel := world.kernel
  pushed := world.pushed.map Chunk.cut

/-- The sink answers a chunk by the bytes that are its own. -/
def Sink.Fair (sink : Sink) : Prop :=
  ∀ earlier chunk, sink.onPush (earlier.map Chunk.cut) chunk.cut = sink.onPush earlier chunk

/-- The state machine on a datagram that is received over these bytes. -/
def handles (sink : Sink) (world : World) (datagram : List UInt8) (old : Memory) :
    Except Fault (Int32 × World) :=
  sessionStateMachine sink (packetHeaderDecode (receiveInto old datagram))
    ((receiveInto old datagram).shift packetHeaderSize) (receivedCount datagram) world

/-- What is seen of a result: the error that is returned, and the client that is left. -/
def visibly (result : Int32 × World) : Int32 × World := (result.1, result.2.visible)

/-- What is seen of a datagram that is received over these bytes. -/
def seen (sink : Sink) (world : World) (datagram : List UInt8) (old : Memory) :
    Except Fault (Int32 × World) :=
  (handles sink world datagram old).map visibly

/-- The client handles the datagram alike over all bytes the buffer may have held. -/
def Judges (sink : Sink) (world : World) (datagram : List UInt8) : Prop :=
  ∀ old old', seen sink world datagram old = seen sink world datagram old'

/-- The client reads no byte behind the datagram: it drops the packet whatever the bytes of the
sequence number it is not given, or it is given the whole header and with it the error code of a
reset, the parameters and the audio of a configuration, or the audio of a data packet. -/
def Contains (world : World) (datagram : List UInt8) : Prop :=
  let header := packetHeaderDecode (receiveInto stale datagram)
  let count := receivedCount datagram
  let size := sizeSub header.length.toNat packetCfgAckSize
  header.seq < world.session.ack ∨
    14 ≤ count ∧
      (packetFlagIsset header.flags packetFlagRst = true →
        packetFlagIsset header.flags packetFlagErr = true → 20 ≤ count) ∧
      (packetFlagIsset header.flags packetFlagRst = false →
        (world.session.state = .synSent → 23 ≤ count ∧ (size = 0 ∨ 24 + size ≤ count)) ∧
        (world.session.state = .establsh → size = 0 ∨ 16 + size ≤ count))

/-! ## Following the cut -/

section

variable {sink : Sink} {world : World}

theorem erases_sessionSource : ErasesSource World.visible sessionSource :=
  ⟨fun _ _ => rfl, fun _ => rfl⟩

/-- The calls of the sink do not look at the erased bytes. -/
theorem erases_inletCall (call : InletCall) : Erases World.visible (inletCall call) := by
  cases call with
  | pull n => exact erases_pipelineInletPull erases_sessionSource 2 n
  | cancel => exact erases_pipelineInletCancel erases_sessionSource

/-- The calls of a sink can be followed through the cut. -/
theorem erases_inletCalls (calls : List InletCall) :
    Erases World.visible (inletCalls calls) := by
  induction calls with
  | nil => exact fun _ => rfl
  | cons call calls ih => exact (erases_inletCall call).bind ih

theorem holding_visible (world : World) : holding world.visible = (holding world).visible := by
  simp only [holding, World.visible, List.map_append, List.map_singleton]

/-- A push to a fair sink can be followed through the cut. -/
theorem sessionPush_visible (fair : sink.Fair) (world : World) :
    sessionPush sink world.visible = (sessionPush sink world).map World.visible := by
  have same : world.visible.session.sinkLogic = world.session.sinkLogic := rfl
  unfold sessionPush
  rw [same]
  cases world.session.sinkLogic with
  | none => rfl
  | some link =>
      have calls := fair world.pushed world.session.chunk
      have followed := erases_inletCalls (sink.onPush world.pushed world.session.chunk)
        ⟨link, holding world⟩
      change (inletCalls (sink.onPush (world.pushed.map Chunk.cut) world.session.chunk.cut)
        ⟨link, holding world.visible⟩).map ofStarted = _
      rw [calls, holding_visible]
      change (inletCalls _ (Started.seen World.visible ⟨link, holding world⟩)).map ofStarted =
        ((inletCalls (sink.onPush world.pushed world.session.chunk)
          ⟨link, holding world⟩).map ofStarted).map World.visible
      rw [followed]
      cases inletCalls (sink.onPush world.pushed world.session.chunk) ⟨link, holding world⟩ <;> rfl

theorem withChunk_visible (world : World) (chunk : Chunk) :
    (world.withChunk chunk).visible = world.visible.withChunk chunk.cut := rfl

/-- A data packet can be followed through the cut. -/
theorem stream_visible (fair : sink.Fair) (world : World) (chunk : Chunk) :
    ((sessionPush sink (world.withChunk chunk)).map fun after =>
        ((0 : Int32), (sessionAck (after.withWindow 0)).2)).map visibly =
      (sessionPush sink (world.visible.withChunk chunk.cut)).map fun after =>
        (0, (sessionAck (after.withWindow 0)).2) := by
  rw [← withChunk_visible, sessionPush_visible fair]
  cases sessionPush sink (world.withChunk chunk) <;> rfl

/-- A configuration can be followed through the cut. -/
theorem start_visible (fair : sink.Fair) (world : World) (chunk : Chunk) :
    ((inletCalls sink.onConnect ⟨Link.fresh, world.withChunk chunk⟩).bind fun started =>
        (sessionPush sink ((sessionAck (ofStarted started)).2.withState .establsh)).map
          fun next => ((0 : Int32), next)).map visibly =
      (inletCalls sink.onConnect ⟨Link.fresh, world.visible.withChunk chunk.cut⟩).bind
        fun started => (sessionPush sink
          ((sessionAck (ofStarted started)).2.withState .establsh)).map fun next => (0, next) := by
  have followed := erases_inletCalls sink.onConnect ⟨Link.fresh, world.withChunk chunk⟩
  rw [← withChunk_visible]
  change _ = (inletCalls sink.onConnect
    (Started.seen World.visible ⟨Link.fresh, world.withChunk chunk⟩)).bind _
  rw [followed]
  cases inletCalls sink.onConnect ⟨Link.fresh, world.withChunk chunk⟩ with
  | error fault => rfl
  | ok started =>
      have pushed := sessionPush_visible fair
        ((sessionAck (ofStarted started)).2.withState .establsh)
      change ((sessionPush sink ((sessionAck (ofStarted started)).2.withState .establsh)).map
        _).map visibly = (sessionPush sink
          ((sessionAck (ofStarted started)).2.withState .establsh).visible).map _
      rw [pushed]
      cases sessionPush sink ((sessionAck (ofStarted started)).2.withState .establsh) <;> rfl

end

/-! ## Chunks that are read alike -/

section

variable {header : PacketHeader} {payload payload' : Memory} {count : Nat}

/-- A cut chunk consists of the bytes it has. -/
theorem cut_congr (chunk : Chunk) {buffer buffer' : Memory}
    (same : ∀ index < chunk.size, buffer index = buffer' index) :
    ({ chunk with buffer := buffer } : Chunk).cut = ({ chunk with buffer := buffer' } : Chunk).cut := by
  have bytes : (fun index => if index < chunk.size then buffer index else 0) =
      fun index => if index < chunk.size then buffer' index else 0 := by
    funext index
    split
    · exact same index ‹_›
    · rfl
  simp only [Chunk.cut, bytes]

/-- A configuration whose parameters and audio are given is read alike. -/
theorem configChunk_congr (agree : Agree count payload payload') (enough : 7 ≤ count)
    (inside : sizeSub header.length.toNat packetCfgAckSize = 0 ∨
      packetCfgAckSize + sizeSub header.length.toNat packetCfgAckSize ≤ count) :
    (configChunk header payload).cut = (configChunk header payload').cut := by
  unfold configChunk
  rw [agree.cfgAck_eq enough]
  generalize sizeSub header.length.toNat packetCfgAckSize = size at inside ⊢
  apply cut_congr ⟨size, _, _, _, _, payload⟩
  intro index below
  have below : index < size := below
  rcases inside with none | inside
  · omega
  · exact agree (packetCfgAckSize + index) (by omega)

/-- A data packet whose audio is given is read alike. -/
theorem dataChunk_congr (chunk : Chunk) (agree : Agree count payload payload')
    (inside : sizeSub header.length.toNat packetCfgAckSize = 0 ∨
      sizeSub header.length.toNat packetCfgAckSize ≤ count) :
    (dataChunk header payload chunk).cut = (dataChunk header payload' chunk).cut := by
  unfold dataChunk
  generalize sizeSub header.length.toNat packetCfgAckSize = size at inside ⊢
  apply cut_congr { chunk with size := size }
  intro index below
  have below : index < size := below
  rcases inside with none | inside
  · omega
  · exact agree index (by omega)

end

/-! ## A datagram that holds what is read -/

section

variable {sink : Sink} {world : World} {datagram : List UInt8} {old : Memory}

/-- A packet behind the client is dropped. -/
theorem handles_behind
    (behind : (packetHeaderDecode (receiveInto old datagram)).seq < world.session.ack) :
    handles sink world datagram old = .ok (0, world) := if_pos behind

/-- What a client reads of a datagram it contains does not depend on the old bytes. -/
theorem judges_of_contains (fair : sink.Fair) (contains : Contains world datagram) :
    Judges sink world datagram := by
  have sixteen : packetHeaderSize = 16 := rfl
  have eight : packetCfgAckSize = 8 := rfl
  have settle : ∀ old, seen sink world datagram old = seen sink world datagram stale := by
    intro old
    have agree := agree_received old stale datagram
    unfold seen
    rcases contains with behind | ⟨enough, reset, heard⟩
    · have behind' : (packetHeaderDecode (receiveInto old datagram)).seq < world.session.ack :=
        UInt32.lt_of_le_of_lt (seq_le_stale old datagram) behind
      rw [handles_behind behind, handles_behind behind']
    have header := agree.header_eq enough
    have payload := agree.shift packetHeaderSize
    by_cases behind : (packetHeaderDecode (receiveInto stale datagram)).seq < world.session.ack
    · have behind' : (packetHeaderDecode (receiveInto old datagram)).seq < world.session.ack := by
        rw [header]
        exact behind
      rw [handles_behind behind, handles_behind behind']
    unfold handles
    rw [header]
    generalize packetHeaderDecode (receiveInto stale datagram) = header at reset heard behind ⊢
    cases flag : packetFlagIsset header.flags packetFlagRst with
    | true =>
        rw [stateMachine_reset behind flag, stateMachine_reset behind flag]
        cases error : packetFlagIsset header.flags packetFlagErr with
        | true =>
            have given := reset flag error
            have most : 4 ≤ receivedCount datagram - packetHeaderSize := by omega
            have err := payload.err_eq most
            rw [if_pos rfl, if_pos rfl, err]
        | false => rw [if_neg Bool.false_ne_true, if_neg Bool.false_ne_true]
    | false =>
        obtain ⟨config, data⟩ := heard flag
        have heard : Heard world header := ⟨behind, flag⟩
        by_cases waiting : world.session.state = .synSent
        · obtain ⟨parameters, audio⟩ := config waiting
          have cut := configChunk_congr payload (by omega)
            (audio.imp_right fun inside => by omega)
          rw [stateMachine_synSent heard _ waiting, stateMachine_synSent heard _ waiting,
            sessionStart_eq, sessionStart_eq, start_visible fair, start_visible fair, cut]
        by_cases streaming : world.session.state = .establsh
        · have audio := data streaming
          have cut := dataChunk_congr (acked world header).session.chunk payload
            (audio.imp_right fun inside => by omega)
          rw [stateMachine_establsh heard _ streaming, stateMachine_establsh heard _ streaming,
            sessionStream_eq, sessionStream_eq, stream_visible fair, stream_visible fair, cut]
        · rw [stateMachine_other heard _ waiting streaming,
            stateMachine_other heard _ waiting streaming]
  intro old old'
  rw [settle old, settle old']

/-! ## Two buffers that are told apart -/

/-- The chunk a packet heard is pushed as. -/
theorem Reaction.pushed_eq {next : World} {header : PacketHeader} {payload : Memory} {err : Int32}
    (reaction : Reaction world header payload err next) (heard : Heard world header) :
    (world.session.state = .synSent →
        next.pushed = world.pushed ++ [configChunk header payload]) ∧
      (world.session.state = .establsh →
        next.pushed = world.pushed ++ [dataChunk header payload world.session.chunk]) := by
  have takes : world.session.state = .synSent ∨ world.session.state = .establsh →
      ∃ chunk, Pushes world header payload next chunk ∧ next.pushed = world.pushed ++ [chunk] := by
    intro state
    rcases reaction.takes_or with ⟨_, chunk, pushes, acks⟩ | ⟨deaf, _⟩
    · exact ⟨chunk, pushes, (pushing_acks acks).2⟩
    · exact (deaf ⟨heard, state⟩).elim
  refine ⟨fun waiting => ?_, fun streaming => ?_⟩
  · obtain ⟨chunk, pushes, pushed⟩ := takes (.inl waiting)
    cases pushes with
    | config => exact pushed
    | data state => cases waiting.symm.trans state
  · obtain ⟨chunk, pushes, pushed⟩ := takes (.inr streaming)
    cases pushes with
    | config state => cases streaming.symm.trans state
    | data => exact pushed

/-- Chunks that are cut alike have the same parameters and the same audio. -/
theorem cut_inj {first second : Chunk} (same : first.cut = second.cut) :
    first.codec = second.codec ∧
      ∀ index, index < first.size → index < second.size →
        first.buffer index = second.buffer index := by
  have codec : first.cut.codec = second.cut.codec := congrArg Chunk.codec same
  refine ⟨codec, fun index below below' => ?_⟩
  have bytes : (if index < first.size then first.buffer index else 0) =
      if index < second.size then second.buffer index else 0 :=
    congrFun (congrArg Chunk.buffer same) index
  rwa [if_pos below, if_pos below'] at bytes

/-- Error codes that differ in their last byte differ. -/
theorem err_apart {first second : Memory} (before : Agree 3 first second)
    (last : first 3 ≠ second 3) : (packetErrDecode first).err ≠ (packetErrDecode second).err := by
  intro same
  have words : UInt32.ofNat (BigEndian.value (first.read 4)) =
      UInt32.ofNat (BigEndian.value (second.read 4)) := congrArg Int32.toUInt32 same
  have numbers := congrArg UInt32.toNat words
  rw [UInt32.toNat_ofNat_of_lt' (value_read_four_lt first),
    UInt32.toNat_ofNat_of_lt' (value_read_four_lt second), value_read_four, value_read_four,
    before 0 (by omega), before 1 (by omega), before 2 (by omega)] at numbers
  exact last (UInt8.toNat_inj.mp (by omega))

/-- The stale buffer with one byte changed. -/
def patched (index : Nat) : Memory := Function.update stale index 0

/-- A byte that is not given tells the two buffers apart, and is all that does. -/
theorem patched_apart {index : Nat} (behind : receivedCount datagram ≤ index) :
    Agree index (receiveInto (patched index) datagram) (receiveInto stale datagram) ∧
      receiveInto (patched index) datagram index ≠ receiveInto stale datagram index := by
  refine ⟨(agree_patched stale index 0).received datagram, ?_⟩
  rw [patched, patched_received behind, receiveInto_of_le behind]
  exact (by decide : (0 : UInt8) ≠ 255)

section

variable (once : sink.CancelsOnce) (underway : Underway world) (serving : Serving sink world)

include once underway serving

/-- A datagram is handled, over any bytes. -/
theorem handles_reacts (datagram : List UInt8) (old : Memory) :
    ∃ err next, handles sink world datagram old = .ok (err, next) ∧
      Reaction world (packetHeaderDecode (receiveInto old datagram))
        ((receiveInto old datagram).shift packetHeaderSize) err next := by
  obtain ⟨err, next, done, _⟩ := stateMachine_total once underway serving
    (packetHeaderDecode (receiveInto old datagram))
    ((receiveInto old datagram).shift packetHeaderSize) (receivedCount datagram)
  exact ⟨err, next, done, reaction_of_stateMachine underway.formed done⟩

/-- A client that judges the datagram by its own bytes is left alike over any two buffers. -/
theorem Judges.reacts (judges : Judges sink world datagram) (old old' : Memory) :
    ∃ err err' next next',
      Reaction world (packetHeaderDecode (receiveInto old datagram))
        ((receiveInto old datagram).shift packetHeaderSize) err next ∧
      Reaction world (packetHeaderDecode (receiveInto old' datagram))
        ((receiveInto old' datagram).shift packetHeaderSize) err' next' ∧
      next.visible = next'.visible := by
  obtain ⟨err, next, done, reaction⟩ := handles_reacts once underway serving datagram old
  obtain ⟨err', next', done', reaction'⟩ := handles_reacts once underway serving datagram old'
  have same := judges old old'
  unfold seen at same
  rw [done, done'] at same
  exact ⟨err, err', next, next', reaction, reaction',
    congrArg Prod.snd (Except.ok.inj same)⟩

/-- A client that judges the datagram by its own bytes has the whole header. -/
theorem header_given (judges : Judges sink world datagram)
    (accepted : Accepted (packetHeaderDecode (receiveInto stale datagram)) world.session.ack) :
    14 ≤ receivedCount datagram := by
  by_contra short
  have near : ∀ byte, Agree 13 (receiveInto (Function.update stale 13 byte) datagram)
      (receiveInto stale datagram) := fun byte => (agree_patched stale 13 byte).received datagram
  have seq : ∀ byte, (packetHeaderDecode (receiveInto (Function.update stale 13 byte)
      datagram)).seq = (packetHeaderDecode (receiveInto stale datagram)).seq :=
    fun byte => (near byte).seq_eq (by omega)
  have accepts : ∀ byte, Accepted (packetHeaderDecode (receiveInto
      (Function.update stale 13 byte) datagram)) world.session.ack := by
    intro byte
    rw [Accepted, seq]
    exact accepted
  obtain ⟨err, err', next, next', reaction, reaction', same⟩ := judges.reacts once underway serving
    (Function.update stale 13 2) (Function.update stale 13 3)
  have ack := reaction.ack_eq (accepts 2)
  have ack' := reaction'.ack_eq (accepts 3)
  have equal : next.visible.session.ack = next'.visible.session.ack := by rw [same]
  change next.session.ack = next'.session.ack at equal
  rw [ack, ack', seq, seq] at equal
  refine span_apart ?_ ?_ ?_ ((UInt32.add_right_inj _).mp equal)
  · exact (near 2 12 (by omega)).trans (near 3 12 (by omega)).symm
  · exact patched_received (by omega) 2 stale
  · exact patched_received (by omega) 3 stale

/-- A client that judges the datagram by its own bytes is left alike by one heard over the stale
buffer and over one that differs from it behind the header. -/
theorem Judges.patched (judges : Judges sink world datagram)
    (heard : Heard world (packetHeaderDecode (receiveInto stale datagram))) {index : Nat}
    (header : 14 ≤ index) (behind : receivedCount datagram ≤ index) :
    (world.session.state = .synSent →
      (configChunk (packetHeaderDecode (receiveInto stale datagram))
          ((receiveInto (patched index) datagram).shift packetHeaderSize)).cut =
        (configChunk (packetHeaderDecode (receiveInto stale datagram))
          ((receiveInto stale datagram).shift packetHeaderSize)).cut) ∧
    (world.session.state = .establsh →
      (dataChunk (packetHeaderDecode (receiveInto stale datagram))
          ((receiveInto (patched index) datagram).shift packetHeaderSize) world.session.chunk).cut =
        (dataChunk (packetHeaderDecode (receiveInto stale datagram))
          ((receiveInto stale datagram).shift packetHeaderSize) world.session.chunk).cut) := by
  obtain ⟨err, err', next, next', reaction, reaction', same⟩ := judges.reacts once underway serving
    (Client.patched index) stale
  rw [(patched_apart behind).1.header_eq header] at reaction
  obtain ⟨config, data⟩ := reaction.pushed_eq heard
  obtain ⟨config', data'⟩ := reaction'.pushed_eq heard
  have pushed : next.pushed.map Chunk.cut = next'.pushed.map Chunk.cut :=
    congrArg World.pushed same
  refine ⟨fun waiting => ?_, fun streaming => ?_⟩
  · rw [config waiting, config' waiting, List.map_append, List.map_append] at pushed
    exact List.singleton_inj.mp (List.append_cancel_left pushed)
  · rw [data streaming, data' streaming, List.map_append, List.map_append] at pushed
    exact List.singleton_inj.mp (List.append_cancel_left pushed)

/-- A client that judges the datagram by its own bytes has the error code of a reset. -/
theorem err_given (judges : Judges sink world datagram)
    (accepted : Accepted (packetHeaderDecode (receiveInto stale datagram)) world.session.ack)
    (reset : packetFlagIsset (packetHeaderDecode (receiveInto stale datagram)).flags
      packetFlagRst = true)
    (error : packetFlagIsset (packetHeaderDecode (receiveInto stale datagram)).flags
      packetFlagErr = true) : 20 ≤ receivedCount datagram := by
  by_contra short
  obtain ⟨near, apart⟩ := @patched_apart datagram 19 (by omega)
  obtain ⟨err, err', next, next', reaction, reaction', same⟩ := judges.reacts once underway serving
    (patched 19) stale
  have alike := judges (patched 19) stale
  unfold seen handles at alike
  rw [near.header_eq (by omega)] at alike
  generalize packetHeaderDecode (receiveInto stale datagram) = header at accepted reset error alike
  rw [stateMachine_reset accepted reset, stateMachine_reset accepted reset, if_pos error,
    if_pos error] at alike
  have before : Agree 3 ((receiveInto (patched 19) datagram).shift packetHeaderSize)
      ((receiveInto stale datagram).shift packetHeaderSize) := near.shift packetHeaderSize
  exact err_apart before apart (congrArg Prod.fst (Except.ok.inj alike))

/-- A client that judges the datagram by its own bytes has what it reads of a configuration. -/
theorem config_given (judges : Judges sink world datagram)
    (heard : Heard world (packetHeaderDecode (receiveInto stale datagram)))
    (waiting : world.session.state = .synSent) : 23 ≤ receivedCount datagram ∧
      (sizeSub (packetHeaderDecode (receiveInto stale datagram)).length.toNat
          packetCfgAckSize = 0 ∨
        24 + sizeSub (packetHeaderDecode (receiveInto stale datagram)).length.toNat
          packetCfgAckSize ≤ receivedCount datagram) := by
  have sixteen : packetHeaderSize = 16 := rfl
  have eight : packetCfgAckSize = 8 := rfl
  have header := header_given once underway serving judges heard.1
  refine ⟨?_, ?_⟩
  · by_contra short
    have behind : receivedCount datagram ≤ 22 := by omega
    have cut := (judges.patched once underway serving heard (by omega) behind).1 waiting
    exact (patched_apart behind).2 (cut_inj cut).1
  · by_contra outside
    rw [not_or, not_le] at outside
    obtain ⟨some, beyond⟩ := outside
    have behind : receivedCount datagram ≤ max (receivedCount datagram) 24 := Nat.le_max_left _ _
    have cut := (judges.patched once underway serving heard (by omega) behind).1 waiting
    have inside : max (receivedCount datagram) 24 - 24 <
        sizeSub (packetHeaderDecode (receiveInto stale datagram)).length.toNat packetCfgAckSize := by
      omega
    have place : packetHeaderSize + (packetCfgAckSize + (max (receivedCount datagram) 24 - 24)) =
        max (receivedCount datagram) 24 := by omega
    have byte := (cut_inj cut).2 _ inside inside
    simp only [configChunk, Memory.shift_apply, place] at byte
    exact (patched_apart behind).2 byte

/-- A client that judges the datagram by its own bytes has the audio it reads of a data packet. -/
theorem data_given (judges : Judges sink world datagram)
    (heard : Heard world (packetHeaderDecode (receiveInto stale datagram)))
    (streaming : world.session.state = .establsh) :
    sizeSub (packetHeaderDecode (receiveInto stale datagram)).length.toNat packetCfgAckSize = 0 ∨
      16 + sizeSub (packetHeaderDecode (receiveInto stale datagram)).length.toNat
        packetCfgAckSize ≤ receivedCount datagram := by
  have sixteen : packetHeaderSize = 16 := rfl
  have header := header_given once underway serving judges heard.1
  by_contra outside
  rw [not_or, not_le] at outside
  obtain ⟨some, beyond⟩ := outside
  have behind : receivedCount datagram ≤ max (receivedCount datagram) 16 := Nat.le_max_left _ _
  have cut := (judges.patched once underway serving heard (by omega) behind).2 streaming
  have inside : max (receivedCount datagram) 16 - 16 <
      sizeSub (packetHeaderDecode (receiveInto stale datagram)).length.toNat packetCfgAckSize := by
    omega
  have place : packetHeaderSize + (max (receivedCount datagram) 16 - 16) =
      max (receivedCount datagram) 16 := by omega
  have byte := (cut_inj cut).2 _ inside inside
  simp only [dataChunk, Memory.shift_apply, place] at byte
  exact (patched_apart behind).2 byte

/-- A client judges a datagram by its own bytes exactly if it reads no others. -/
theorem judges_iff_contains (fair : sink.Fair) :
    Judges sink world datagram ↔ Contains world datagram := by
  refine ⟨fun judges => ?_, judges_of_contains fair⟩
  by_cases behind : (packetHeaderDecode (receiveInto stale datagram)).seq < world.session.ack
  · exact .inl behind
  refine .inr ⟨header_given once underway serving judges behind, ?_, ?_⟩
  · exact err_given once underway serving judges behind
  · intro plain
    have heard : Heard world (packetHeaderDecode (receiveInto stale datagram)) := ⟨behind, plain⟩
    exact ⟨config_given once underway serving judges heard,
      data_given once underway serving judges heard⟩

end

end

end Sas.Client
