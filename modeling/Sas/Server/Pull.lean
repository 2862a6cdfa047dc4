import Sas.Server.Session

/-! # What one pull of a session does

The state machine asks the pipeline of a session for one chunk per packet. Through the scheduled
inlet, the trampoline, the connection, the WAV source and the session sink, such a pull comes to
one read and one send while the stream is open, and to nothing once it is closed.
-/

namespace Sas.Server

open Foundation Transport Rxc Formats

/-- The link of a pipeline between two pulls: the inlet is linked and the worker idle. -/
def idleLink (requested : Int) : Link := ⟨⟨requested⟩, some ⟨true⟩, ⟨[], false⟩⟩

/-- The demand left by the pulls so far: none while the stream is open, the closed mark after. -/
def demandOf (source : Wav.Source) : Int := if source.finished then longMin else 0

/-- A session as it is between two packets. It has a pipeline exactly when it has left the
initial state, the connection is closed exactly when the source has finished, and the source
reads the descriptor of the session. -/
def WellFormed (session : Session) : Prop :=
  match session.state with
  | .initial => session.pipeline = none ∧ session.sinkLogic = none ∧ session.fd = -1
  | .sackSent | .establsh => ∃ source,
      session.pipeline = some source ∧ source.fd = session.fd ∧
      session.sinkLogic = some (idleLink (demandOf source))
  | _ => False

theorem wellFormed_create (addr : SockaddrIn6) (memory : Uninitialized) :
    WellFormed (sessionCreate addr memory) := ⟨rfl, rfl, rfl⟩

/-! ## Pulling -/

/-- The world of a session whose pipeline has this source. -/
def worldOf (source : Wav.Source) (session : Session) (kernel : Kernel) : World :=
  ⟨source, kernel, session⟩

/-- Writing back a pipeline between two pulls. -/
theorem ofStarted_idle (source : Wav.Source) (session : Session) (kernel : Kernel)
    (requested : Int) (linked : session.sinkLogic.isSome) :
    Outcome.ofStarted ⟨idleLink requested, worldOf source session kernel⟩ =
      ⟨{ session with
          pipeline := some source
          sinkLogic := some (idleLink requested) }, kernel, false⟩ := by
  obtain ⟨link, set⟩ := Option.isSome_iff_exists.mp linked
  simp only [Outcome.ofStarted, worldOf, set, Option.map_some]

section

variable {session : Session} {kernel : Kernel} {source : Wav.Source}

/-- A pull is the pull of the connection, with the worker idle before and after. -/
theorem sessionPull_eq (pipeline : session.pipeline = some source)
    (linked : session.sinkLogic = some (idleLink (demandOf source)))
    {source' : Wav.Source} {session' : Session} {kernel' : Kernel} {requested : Int}
    (task : connectionInletPull sessionSource 1
        ⟨⟨⟨demandOf source⟩, some ⟨true⟩, ⟨[], true⟩⟩, worldOf source session kernel⟩ =
      .ok ⟨⟨⟨requested⟩, some ⟨true⟩, ⟨[], true⟩⟩, worldOf source' session' kernel'⟩)
    (kept : session'.sinkLogic.isSome) :
    sessionPull session kernel =
      .ok ⟨{ session' with
          pipeline := some source'
          sinkLogic := some (idleLink requested) }, kernel', false⟩ := by
  have pulled := pipelineInletPull_idle sessionSource 0 1 (idleLink (demandOf source))
    (worldOf source session kernel) _ rfl rfl task rfl
  unfold sessionPull
  rw [pipeline, linked]
  change (pipelineInletPull sessionSource 2 1
    ⟨idleLink (demandOf source), worldOf source session kernel⟩).map Outcome.ofStarted = _
  rw [pulled, ← ofStarted_idle source' session' kernel' requested kept]
  rfl

/-- A pull on a finished stream does nothing. -/
theorem sessionPull_finished (pipeline : session.pipeline = some source)
    (linked : session.sinkLogic = some (idleLink (demandOf source)))
    (finished : source.finished = true) :
    sessionPull session kernel = .ok ⟨session, kernel, false⟩ := by
  have closed : demandOf source = longMin := by simp only [demandOf, finished, ↓reduceIte]
  rw [sessionPull_eq pipeline linked (connectionInletPull_closed _ _ closed) (by rw [linked]; rfl)]
  cases session
  cases pipeline
  cases linked
  rfl

/-- The pull of an open connection reads one chunk. -/
theorem connectionInletPull_open (worker : Worker) (opened : source.finished = false) :
    connectionInletPull sessionSource 1
        ⟨⟨⟨demandOf source⟩, some ⟨true⟩, worker⟩, worldOf source session kernel⟩ =
      Wav.onPullLoop (pipelineSinkLogic sessionSink) 1
        ⟨⟨⟨1⟩, some ⟨true⟩, worker⟩, worldOf source session kernel⟩ := by
  have demand : demandOf source = 0 := by
    simp only [demandOf, opened, Bool.false_eq_true, ↓reduceIte]
  have pulled : demandAfter 0 1 = 1 := by decide
  rw [demand]
  simp only [connectionInletPull, Started.requested, Started.withRequested, pulled,
    sessionSource, Wav.createLogic, Wav.onPull, worldOf, opened, Bool.false_eq_true, ↓reduceIte]
  rw [if_neg (by decide)]
  rfl

/-- The answer to the next read of the stream. -/
def nextRead (kernel : Kernel) : ReadReply :=
  (kernel.env.readReply kernel.calls.length).atMost Wav.bufferSize

/-- The kernel after the next read of the stream. -/
def afterRead (kernel : Kernel) (source : Wav.Source) : Kernel :=
  (kernel.readFile source.fd Wav.bufferSize).2

/-- What is read next is what the kernel answers. -/
theorem readFile_fst (kernel : Kernel) (source : Wav.Source) :
    (kernel.readFile source.fd Wav.bufferSize).1 = nextRead kernel := by
  unfold Kernel.readFile nextRead
  cases (kernel.env.readReply kernel.calls.length).atMost Wav.bufferSize <;> rfl

/-- Reading is one call. -/
theorem afterRead_calls (kernel : Kernel) (source : Wav.Source) :
    (afterRead kernel source).calls = kernel.calls ++
      [.read source.fd Wav.bufferSize (nextRead kernel)] := by
  unfold afterRead Kernel.readFile nextRead
  cases (kernel.env.readReply kernel.calls.length).atMost Wav.bufferSize <;> rfl

/-- A read never returns more than it was asked for. -/
theorem length_le_of_nextRead {bytes : List UInt8} (read : nextRead kernel = .data bytes) :
    bytes.length ≤ Wav.bufferSize := by
  unfold nextRead at read
  cases reply : kernel.env.readReply kernel.calls.length with
  | data all =>
      rw [reply] at read
      cases read
      exact List.length_take_le _ _
  | failed errno =>
      rw [reply] at read
      cases read

/-- A read that returns bytes is answered by one data packet with these bytes. -/
theorem sessionPull_chunk (pipeline : session.pipeline = some source)
    (linked : session.sinkLogic = some (idleLink (demandOf source)))
    (opened : source.finished = false) {byte : UInt8} {bytes : List UInt8}
    (read : nextRead kernel = .data (byte :: bytes)) :
    sessionPull session kernel =
      .ok (sent (sessionSendChunk (Wav.chunkOf source kernel.garbage (byte :: bytes)) session
        (afterRead kernel source)) false) := by
  have demand : demandOf source = 0 := by
    simp only [demandOf, opened, Bool.false_eq_true, ↓reduceIte]
  have task : connectionInletPull sessionSource 1
      ⟨⟨⟨demandOf source⟩, some ⟨true⟩, ⟨[], true⟩⟩, worldOf source session kernel⟩ =
      .ok ⟨⟨⟨0⟩, some ⟨true⟩, ⟨[], true⟩⟩, worldOf source
        (sessionSendChunk (Wav.chunkOf source kernel.garbage (byte :: bytes)) session
          (afterRead kernel source)).2.1
        (sessionSendChunk (Wav.chunkOf source kernel.garbage (byte :: bytes)) session
          (afterRead kernel source)).2.2⟩ := by
    rw [connectionInletPull_open _ opened]
    unfold Wav.onPullLoop
    have reply := readFile_fst kernel source
    rw [read] at reply
    simp only [worldOf, reply]
    rfl
  rw [sessionPull_eq pipeline linked task (by
    change session.sinkLogic.isSome
    rw [linked]
    rfl)]
  cases session
  cases pipeline
  rw [demand] at linked
  cases linked
  rfl

/-- The end of the file is answered by one RST|FIN, and closes the stream. -/
theorem sessionPull_end (pipeline : session.pipeline = some source)
    (linked : session.sinkLogic = some (idleLink (demandOf source)))
    (opened : source.finished = false) (read : nextRead kernel = .data []) :
    sessionPull session kernel =
      .ok (sent (sessionReset true
        { session with
          pipeline := some { source with finished := true }
          sinkLogic := some (idleLink longMin) }
        ((afterRead kernel source).closeFile source.fd)) false) := by
  have task : connectionInletPull sessionSource 1
      ⟨⟨⟨demandOf source⟩, some ⟨true⟩, ⟨[], true⟩⟩, worldOf source session kernel⟩ =
      .ok ⟨⟨⟨longMin⟩, some ⟨true⟩, ⟨[], true⟩⟩, worldOf { source with finished := true }
        (sessionReset true session ((afterRead kernel source).closeFile source.fd)).2.1
        (sessionReset true session ((afterRead kernel source).closeFile source.fd)).2.2⟩ := by
    rw [connectionInletPull_open _ opened]
    unfold Wav.onPullLoop
    have reply := readFile_fst kernel source
    rw [read] at reply
    simp only [worldOf, reply]
    rfl
  rw [sessionPull_eq pipeline linked task (by
    change session.sinkLogic.isSome
    rw [linked]
    rfl)]
  rfl

/-- A failed read is answered by one RST|ERR, and closes the stream. -/
theorem sessionPull_failed (pipeline : session.pipeline = some source)
    (linked : session.sinkLogic = some (idleLink (demandOf source)))
    (opened : source.finished = false) {errno : Int32} (read : nextRead kernel = .failed errno) :
    sessionPull session kernel =
      .ok ⟨(sessionError errno
          { session with
            pipeline := some { source with finished := true }
            sinkLogic := some (idleLink longMin) } (afterRead kernel source)).2.1,
        (sessionError errno session (afterRead kernel source)).2.2.closeFile source.fd,
        false⟩ := by
  have code : (afterRead kernel source).errno = errno := by
    unfold nextRead at read
    simp only [afterRead, Kernel.readFile, read]
  have task : connectionInletPull sessionSource 1
      ⟨⟨⟨demandOf source⟩, some ⟨true⟩, ⟨[], true⟩⟩, worldOf source session kernel⟩ =
      .ok ⟨⟨⟨longMin⟩, some ⟨true⟩, ⟨[], true⟩⟩, worldOf { source with finished := true }
        (sessionError errno session (afterRead kernel source)).2.1
        ((sessionError errno session (afterRead kernel source)).2.2.closeFile source.fd)⟩ := by
    rw [connectionInletPull_open _ opened]
    unfold Wav.onPullLoop
    have reply := readFile_fst kernel source
    rw [read] at reply
    simp only [worldOf, reply]
    conv_rhs => rw [← code]
    rfl
  rw [sessionPull_eq pipeline linked task (by
    change session.sinkLogic.isSome
    rw [linked]
    rfl)]
  rfl

end

end Sas.Server
