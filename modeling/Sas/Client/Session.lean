import Sas.Chunk
import Sas.Rxc.Pipeline
import Sas.Transport

/-! # The client session

`client.c` and `source.c`: the packets the client sends, the source that turns the pulls of the
sink into ACKs, and the state machine. The sink is the caller's: it is given by the calls it makes
on its inlet when it is connected and when a chunk is pushed to it.
-/

namespace Sas.Client

open Foundation Transport Rxc

/-- `SAS_CLIENT_SESSION_WINDOW_SIZE`. -/
def sessionWindowSize : UInt16 := 1024

/-- `struct sas_client_session`, without the pipeline, which only its deallocation reads. The sink
logic is kept with the link behind its inlet. -/
structure Session where
  state : Transport.State
  seq : UInt32
  ack : UInt32
  sendWindow : UInt16
  receiveWindow : UInt16
  sinkLogic : Option Link
  chunk : Chunk

/-- A call of a sink on its inlet. -/
inductive InletCall where
  | pull (n : Int)
  | cancel
  deriving DecidableEq, Repr

/-- A sink: the calls it makes on its inlet when it is connected, and when a chunk is pushed to
it after these earlier ones. -/
structure Sink where
  onConnect : List InletCall
  onPush : List Chunk → Chunk → List InletCall

/-- `struct sas_client` with its kernel, and the chunks pushed to the sink so far. -/
structure World where
  session : Session
  kernel : Kernel
  pushed : List Chunk

namespace World

/-- The client after `session.state` has been assigned. -/
def withState (world : World) (state : Transport.State) : World :=
  { world with session := { world.session with state := state } }

/-- The client after `session.receive_window` has been assigned. -/
def withWindow (world : World) (window : UInt16) : World :=
  { world with session := { world.session with receiveWindow := window } }

/-- The client after `session.chunk` has been assigned. -/
def withChunk (world : World) (chunk : Chunk) : World :=
  { world with session := { world.session with chunk := chunk } }

end World

/-- `sas_client_init`, over a chunk that is not initialized. -/
def clientInit (memory : Chunk) : Session where
  state := .initial
  seq := 0
  ack := 0
  sendWindow := 0
  receiveWindow := sessionWindowSize
  sinkLogic := none
  chunk := memory

/-! ## Sending -/

/-- The header `sas_client_session_send` completes from the flags and length of its caller. -/
def sessionHeader (session : Session) (flags : UInt8) (length : UInt16) : PacketHeader where
  seq := session.seq
  ack := session.ack
  reserved := 0
  flags := flags
  window := session.receiveWindow
  length := length

/-- `sas_client_session_send` for a packet with these flags and this length, whose memory behind
the header is `body`. -/
def sessionSend (flags : UInt8) (length : UInt16) (body : Memory) (world : World) :
    Int32 × World :=
  let datagram := packetDatagram (sessionHeader world.session flags length)
    world.kernel.garbage body
  let (err, kernel) := world.kernel.sendDatagram none datagram
  (err, { world with
    session := { world.session with seq := world.session.seq + span length }
    kernel := kernel })

/-- `sas_client_session_syn`. The length of the name is an `int16_t`; where it comes out negative,
the array on the stack and the copy have no defined size. -/
def sessionSyn (name : List UInt8) (world : World) : Except Fault (Int32 × World) :=
  let nameLen := (Int16.ofNat name.length).toInt
  if nameLen < 0 then .error .negativeLength
  else
    let world := world.withState .synSent
    let body := (world.kernel.garbage.shift packetHeaderSize).write
      (packetCfgEncode ⟨0⟩ ++ name.take nameLen.toNat)
    .ok (sessionSend packetFlagSyn (UInt16.ofNat (packetCfgSize + nameLen.toNat)) body world)

/-- `sas_client_session_ack`. -/
def sessionAck (world : World) : Int32 × World :=
  sessionSend packetFlagAck 0 (world.kernel.garbage.shift packetHeaderSize) world

/-! ## The source of a session -/

/-- `sas_client_session_source`: `create_logic` of `source.c`. A pull opens the window and tells
the server so. -/
def sessionSource : SourceLogic World where
  onPull _ started :=
    .ok { started with world := (sessionAck (started.world.withWindow sessionWindowSize)).2 }
  onDownstreamFinish := .ok

/-! ## The sink of the caller -/

/-- Perform one call on the inlet. The source schedules no further pull, so one round runs a
pull and a second one finds the queue empty. -/
def inletCall : InletCall → Action World
  | .pull n => pipelineInletPull sessionSource 2 n
  | .cancel => pipelineInletCancel sessionSource

/-- Perform calls on the inlet, in order. -/
def inletCalls : List InletCall → Action World
  | [], started => .ok started
  | call :: calls, started => (inletCall call started).bind (inletCalls calls)

/-- The logic of the caller's sink. The source of a session neither finishes nor fails. -/
def sinkLogicOf (sink : Sink) : SinkLogic World Chunk Unit where
  onConnect := inletCalls sink.onConnect
  onPush chunk started :=
    let world := started.world
    inletCalls (sink.onPush world.pushed chunk)
      { started with world := { world with pushed := world.pushed ++ [chunk] } }
  onUpstreamFinish := .ok
  onUpstreamFailure _ := .ok

/-- The client after calls through the sink logic: the link is written back. -/
def ofStarted (started : Started World) : World :=
  let world := started.world
  { world with session := { world.session with sinkLogic := some started.link } }

/-- `session.sink_logic->on_push(session.sink_logic, &session.chunk)`. -/
def sessionPush (sink : Sink) (world : World) : Except Fault World :=
  match world.session.sinkLogic with
  | none => .error .nullPointer
  | some link =>
      ((pipelineSinkLogic (sinkLogicOf sink)).onPush world.session.chunk ⟨link, world⟩).map
        ofStarted

/-! ## The state machine -/

/-- The chunk of the case `SAS_TRANSPORT_STATE_SYN_SENT`. -/
def configChunk (header : PacketHeader) (payload : Memory) : Chunk :=
  let cfg := packetCfgAckDecode payload
  { size := sizeSub header.length.toNat packetCfgAckSize
    sampleRate := cfg.sampleRate
    sampleSize := cfg.sampleSize
    channels := cfg.channels
    codec := cfg.codec
    buffer := payload.shift packetCfgAckSize }

/-- The chunk of the case `SAS_TRANSPORT_STATE_ESTABLSH`: the previous one with a new size and
buffer. The size is computed as for a SYN-ACK. -/
def dataChunk (header : PacketHeader) (payload : Memory) (chunk : Chunk) : Chunk :=
  { chunk with
    size := sizeSub header.length.toNat packetCfgAckSize
    buffer := payload }

/-- The case `SAS_TRANSPORT_STATE_SYN_SENT` of the state machine. -/
def sessionStart (sink : Sink) (header : PacketHeader) (payload : Memory) (world : World) :
    Except Fault (Int32 × World) := do
  let (err, started) ← pipelineStart (sinkLogicOf sink)
    (world.withChunk (configChunk header payload))
  let world := ofStarted started
  if err ≠ 0 then .ok (-1, world)
  else
    let (_, world) := sessionAck world
    let world ← sessionPush sink (world.withState .establsh)
    .ok (0, world)

/-- The case `SAS_TRANSPORT_STATE_ESTABLSH` of the state machine. -/
def sessionStream (sink : Sink) (header : PacketHeader) (payload : Memory) (world : World) :
    Except Fault (Int32 × World) := do
  let world ← sessionPush sink
    (world.withChunk (dataChunk header payload world.session.chunk))
  let (_, world) := sessionAck (world.withWindow 0)
  .ok (0, world)

/-- `sas_client_session_state_machine`, for a packet whose header has been decoded. Like the
source it does not look at the number of bytes received. -/
def sessionStateMachine (sink : Sink) (header : PacketHeader) (payload : Memory) (_count : Nat)
    (world : World) : Except Fault (Int32 × World) :=
  if header.seq < world.session.ack then .ok (0, world)
  else
    let world := { world with
      session := { world.session with
        sendWindow := header.window
        ack := header.seq + span header.length } }
    if packetFlagIsset header.flags packetFlagRst then
      if packetFlagIsset header.flags packetFlagErr then .ok ((packetErrDecode payload).err, world)
      else if packetFlagIsset header.flags packetFlagFin then
        .ok (0, world.withState .finished)
      else .ok (econnreset, world)
    else
      match world.session.state with
      | .synSent => sessionStart sink header payload world
      | .establsh => sessionStream sink header payload world
      | _ => .ok (0, world)

end Sas.Client
