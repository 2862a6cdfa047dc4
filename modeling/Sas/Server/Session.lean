import Sas.Server.Wav
import Sas.Transport

/-! # Server sessions

`session.c` and `sink.c` for one session: the packets it sends, the sink that turns the signals
of its pipeline into packets, and its state machine. Deleting the session, the last thing the
state machine does on some paths, is left to the table; here it is the `deleted` flag of the
outcome.
-/

namespace Sas.Server

open Foundation Transport Rxc Formats

/-- The address of an allocated session. -/
abbrev SessionPtr := Nat

/-- `struct sas_server_session`. The objects behind `pipeline` and `sink_logic` belong to one
session alone and are kept in it: the source of the pipeline, and the link the sink logic
reaches through its inlet. `next` is the link of the session table. -/
structure Session where
  addr : SockaddrIn6
  state : Transport.State
  seq : UInt32
  ack : UInt32
  sendWindow : UInt16
  receiveWindow : UInt16
  pipeline : Option Wav.Source
  sinkLogic : Option Link
  timeout : Int
  sampleRate : Int32
  sampleSize : Int8
  channels : Int8
  codec : UInt8
  fd : Int
  next : Option SessionPtr
  deriving DecidableEq, Repr

/-- `SAS_SERVER_SESSION_WINDOW_SIZE`. -/
def sessionWindowSize : UInt16 := 1024

/-- The fields a new session inherits from the memory `malloc` returns, because
`sas_server_session_get` does not set them. -/
structure Uninitialized where
  timeout : Int
  sampleRate : Int32
  sampleSize : Int8
  channels : Int8
  codec : UInt8
  deriving DecidableEq, Repr

/-- The session `sas_server_session_get` creates for an address. -/
def sessionCreate (addr : SockaddrIn6) (memory : Uninitialized) : Session where
  addr := addr
  state := .initial
  seq := 0
  ack := 0
  sendWindow := 0
  receiveWindow := sessionWindowSize
  pipeline := none
  sinkLogic := none
  timeout := memory.timeout
  sampleRate := memory.sampleRate
  sampleSize := memory.sampleSize
  channels := memory.channels
  codec := memory.codec
  fd := -1
  next := none

/-! ## Sending -/

/-- The header `sas_server_session_send` completes from the flags and length of its caller. -/
def sessionHeader (session : Session) (flags : UInt8) (length : UInt16) : PacketHeader where
  seq := session.seq
  ack := session.ack
  reserved := 0
  flags := flags
  window := session.receiveWindow
  length := length

/-- `sas_server_session_send` for a packet with these flags and this length, whose memory
behind the header is `body`. -/
def sessionSend (flags : UInt8) (length : UInt16) (body : Memory) (session : Session)
    (kernel : Kernel) : Int32 × Session × Kernel :=
  let datagram := packetDatagram (sessionHeader session flags length) kernel.garbage body
  let session := { session with seq := session.seq + span length }
  let (err, kernel) := kernel.sendDatagram (some session.addr) datagram
  (err, session, kernel)

/-- `sas_server_session_send_chunk`. -/
def sessionSendChunk (chunk : Chunk) (session : Session) (kernel : Kernel) :
    Int32 × Session × Kernel :=
  sessionSend 0 (UInt16.ofNat chunk.size)
    ((kernel.garbage.shift packetHeaderSize).write (chunk.buffer.read chunk.size)) session kernel

/-- `sas_server_session_reset`. -/
def sessionReset (fin : Bool) (session : Session) (kernel : Kernel) : Int32 × Session × Kernel :=
  sessionSend (if fin then packetFlagRst ||| packetFlagFin else packetFlagRst) 0
    (kernel.garbage.shift packetHeaderSize) session kernel

/-- `sas_server_session_error`. -/
def sessionError (code : Int32) (session : Session) (kernel : Kernel) :
    Int32 × Session × Kernel :=
  sessionSend (packetFlagRst ||| packetFlagErr) (UInt16.ofNat packetErrSize)
    ((kernel.garbage.shift packetHeaderSize).write (packetErrEncode ⟨code⟩)) session kernel

/-- `sas_server_session_syn_ack`. -/
def sessionSynAck (session : Session) (kernel : Kernel) : Int32 × Session × Kernel :=
  sessionSend (packetFlagSyn ||| packetFlagAck) (UInt16.ofNat packetCfgAckSize)
    ((kernel.garbage.shift packetHeaderSize).write
      (packetCfgAckEncode
        ⟨session.sampleRate, session.sampleSize, session.channels, session.codec⟩))
    session kernel

/-! ## The sink of a session -/

/-- What the pipeline of a session acts on. -/
abbrev World := Wav.World Session

/-- Perform a send of the session inside its pipeline; the callbacks drop its result. -/
def sending (send : Session → Kernel → Int32 × Session × Kernel) : Action World :=
  fun started =>
    let (_, session, kernel) := send started.world.rest started.world.kernel
    .ok { started with world := { started.world with kernel := kernel, rest := session } }

/-- `sas_server_session_sink`: the callbacks of `sink.c`. -/
def sessionSink : SinkLogic World Chunk Unit where
  onConnect started :=
    .ok { started with
      world := { started.world with
        rest := { started.world.rest with sinkLogic := some started.link } } }
  onPush chunk := sending (sessionSendChunk chunk)
  onUpstreamFinish := sending (sessionReset true)
  onUpstreamFailure _ started :=
    sending (sessionError started.world.kernel.errno) started

/-- The source logic that `connect` of `wav.c` wires to the wrapped sink of a session. -/
def sessionSource : SourceLogic World := Wav.createLogic (pipelineSinkLogic sessionSink)

/-! ## The state machine -/

/-- What a call of the state machine leaves: the session, the kernel, and whether it called
`sas_server_session_delete`. -/
structure Outcome where
  session : Session
  kernel : Kernel
  deleted : Bool

/-- The session and kernel behind a send whose result is dropped. -/
def sent (result : Int32 × Session × Kernel) (deleted : Bool) : Outcome :=
  ⟨result.2.1, result.2.2, deleted⟩

/-- The session after its pipeline has run: the objects of the pipeline are written back. -/
def Outcome.ofStarted (started : Started World) : Outcome where
  session := { started.world.rest with
    pipeline := some started.world.source
    sinkLogic := started.world.rest.sinkLogic.map fun _ => started.link }
  kernel := started.world.kernel
  deleted := false

/-- `rxc_inlet_pull(session->sink_logic->in, 1)`. Neither the source nor the sink of a session
schedules further pulls, so one round runs the pull and a second one finds the queue empty. -/
def sessionPull (session : Session) (kernel : Kernel) : Except Fault Outcome :=
  match session.sinkLogic, session.pipeline with
  | some link, some source =>
      (pipelineInletPull sessionSource 2 1 ⟨link, ⟨source, kernel, session⟩⟩).map
        Outcome.ofStarted
  | _, _ => .error .nullPointer

/-- The case `SAS_TRANSPORT_STATE_INITIAL` of the state machine, for the memory behind the
header of the received packet. -/
def sessionOpen (header : PacketHeader) (payload : Memory) (session : Session)
    (kernel : Kernel) : Except Fault Outcome :=
  if packetFlagIsset header.flags packetFlagSyn = false then
    .ok (sent (sessionReset false session kernel) false)
  else
    let cfg := packetCfgDecode payload
    let name := Memory.cstring (sizeSub header.length.toNat packetCfgSize)
      (payload.shift packetCfgSize)
    if cfg.codec ≠ 0 then
      .ok (sent (sessionError einval session kernel) true)
    else
      let (fd, kernel) := kernel.openFile name
      let session := { session with fd := fd }
      if fd < 0 then
        .ok (sent (sessionError kernel.errno session kernel) true)
      else
        match Wav.formatsWav fd kernel with
        | (none, kernel) => .ok (sent (sessionError kernel.errno session kernel) true)
        | (some source, kernel) =>
            let session := { session with
              pipeline := some source
              sampleRate := source.sampleRate
              sampleSize := source.sampleSize
              channels := source.channels }
            let (_, session, kernel) := sessionSynAck session kernel
            let session := { session with state := .sackSent }
            (pipelineStart sessionSink ⟨source, kernel, session⟩).map fun (err, started) =>
              let outcome := Outcome.ofStarted started
              if err ≠ 0 then
                sent (sessionError (Int32.ofInt err) outcome.session outcome.kernel) true
              else outcome

/-- `sas_server_session_state_machine`, for a packet whose header has been decoded. Like the
source it does not look at the number of bytes received. -/
def sessionStateMachine (header : PacketHeader) (payload : Memory) (_count : Nat)
    (session : Session) (kernel : Kernel) : Except Fault Outcome :=
  if header.seq < session.ack then .ok ⟨session, kernel, false⟩
  else
    let session := { session with
      sendWindow := header.window
      ack := header.seq + span header.length }
    if packetFlagIsset header.flags packetFlagRst then .ok ⟨session, kernel, true⟩
    else
      match session.state with
      | .initial => sessionOpen header payload session kernel
      | .sackSent => sessionPull { session with state := .establsh } kernel
      | .establsh => sessionPull session kernel
      | _ => .ok ⟨session, kernel, false⟩

end Sas.Server
