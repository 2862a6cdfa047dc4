import Sas.Server.Stream

/-! # The answers of a session

While the stream is open, a session answers every packet it hears by one datagram; once it has
sent RST|FIN or RST|ERR it sends nothing more. How much it answers depends on the read of the
stream alone: the window in the packet is stored and never looked at.
-/

namespace Sas.Server

open Foundation Transport Rxc Formats

/-- Some packet among the datagrams has ended the stream. -/
def Closed (datagrams : List (List UInt8)) : Prop :=
  ∃ datagram ∈ datagrams, isFin datagram = true ∨ isErr datagram = true

instance (datagrams : List (List UInt8)) : Decidable (Closed datagrams) :=
  inferInstanceAs (Decidable (∃ datagram ∈ datagrams, _))

/-- The source of a session has finished. -/
def Finished (session : Session) : Prop :=
  ∃ source, session.pipeline = some source ∧ source.finished = true

/-- The stream of a session is open: it has a source that has not finished. -/
def Open (session : Session) : Prop :=
  ∃ source, session.pipeline = some source ∧ source.finished = false

/-- What a datagram says about the read it answers: one data chunk with the bytes read, RST|FIN
at the end of the file, or RST|ERR with the error. -/
def Answers (reply : ReadReply) (datagram : List UInt8) : Prop :=
  match reply with
  | .data [] => isFin datagram = true
  | .data bytes => isData datagram = true ∧ payloadOf datagram = bytes
  | .failed errno => isErr datagram = true ∧ payloadOf datagram = packetErrEncode ⟨errno⟩

/-- The packet makes the session send more bytes than the window in the packet allows. -/
def Overruns (session : Session) (exchange : Exchange) : Prop :=
  Heard session exchange.header ∧ Streaming session ∧ Open session ∧
    exchange.header.window.toNat < exchange.streamRead.bytes.length

/-- The packet makes the session send a data packet: the session hears it with its stream open, and
the next read of the stream returns bytes. -/
def Elicits (session : Session) (exchange : Exchange) : Prop :=
  Heard session exchange.header ∧ Streaming session ∧ Open session ∧
    exchange.streamRead.bytes ≠ []

section

variable {session next : Session} {exchange : Exchange} {calls more : List Syscall}
  {after : Option Session}

/-- A finished session has no open stream. -/
theorem not_open_of_finished (finished : Finished session) : ¬ Open session := by
  rintro ⟨source, set, unfinished⟩
  obtain ⟨source', set', finished⟩ := finished
  cases set.symm.trans set'
  rw [finished] at unfinished
  cases unfinished

theorem not_finished_of_pipeline {source : Wav.Source} (set : session.pipeline = some source)
    (unfinished : source.finished = false) : ¬ Finished session :=
  fun finished => not_open_of_finished finished ⟨source, set, unfinished⟩

/-- Before its handshake a session has no source. -/
theorem WellFormed.pipeline_initial (formed : WellFormed session)
    (state : session.state = .initial) : session.pipeline = none := by
  simp only [WellFormed, state] at formed
  exact formed.1

/-- A session that has not been opened is not finished. -/
theorem not_finished_initial (formed : WellFormed session) (state : session.state = .initial) :
    ¬ Finished session := by
  rintro ⟨source, set, _⟩
  rw [formed.pipeline_initial state] at set
  cases set

/-- Past its handshake a session streams or has finished. -/
theorem WellFormed.open_or_finished (formed : WellFormed session) (streaming : Streaming session) :
    Open session ∨ Finished session := by
  obtain ⟨source, set, _⟩ := (wellFormed_streaming streaming).mp formed
  cases finished : source.finished with
  | false => exact .inl ⟨source, set, finished⟩
  | true => exact .inr ⟨source, set, finished⟩

/-- A list of datagrams is closed by a packet that ends the stream, wherever it stands. -/
theorem closed_snoc {datagrams : List (List UInt8)} {datagram : List UInt8} :
    Closed (datagrams ++ [datagram]) ↔
      Closed datagrams ∨ isFin datagram = true ∨ isErr datagram = true := by
  simp only [Closed, List.mem_append, List.mem_singleton, or_and_right, exists_or,
    exists_eq_left]

/-- A packet that ends no stream leaves the stream as open as it was. -/
theorem closed_snoc_other {datagrams : List (List UInt8)} {datagram : List UInt8}
    (fin : isFin datagram = false) (err : isErr datagram = false) :
    Closed (datagrams ++ [datagram]) ↔ Closed datagrams := by
  rw [closed_snoc, fin, err]
  simp only [Bool.false_eq_true, or_self, or_false]

/-- A reaction finishes the source exactly when it ends the stream. -/
theorem Reaction.finished_iff (reaction : Reaction session exchange more (some next))
    (formed : WellFormed session) (ending : Finished session ↔ Closed (sentBy calls)) :
    Finished next ↔ Closed (sentBy (calls ++ more)) := by
  cases reaction with
  | dropped => simpa only [List.append_nil] using ending
  | reset heard state syn sends =>
      obtain ⟨datagram, sent, _, _, _, _, _, fin, err⟩ := sends.kind
      rw [sentBy_append, sent, sentBy_nil, closed_snoc_other fin err]
      exact ending
  | opened heard state syn codec offered sends =>
      obtain ⟨datagram, sent, _, _, _, _, _, fin, err⟩ := sends.kind
      rw [sentBy_append, sentBy_open, sentBy_read, sent, sentBy_nil, closed_snoc_other fin err,
        ← ending]
      exact iff_of_false (not_finished_of_pipeline rfl (source_of_offered offered).2)
        (not_finished_initial formed state)
  | silent =>
      rw [List.append_nil]
      exact ending
  | chunk heard streaming pipeline opened read some small sends =>
      obtain ⟨datagram, sent, _, _, _, _, _, fin, err⟩ := sends.kind
      rw [sentBy_append, sentBy_read, sent, sentBy_nil, closed_snoc_other fin err]
      exact ending
  | ended heard streaming pipeline opened read sends =>
      obtain ⟨datagram, sent, _, _, _, _, _, fin, _⟩ := sends.kind
      rw [sentBy_append, sentBy_read, sentBy_close, sent, sentBy_nil, closed_snoc]
      exact iff_of_true ⟨_, rfl, rfl⟩ (.inr (.inl fin))
  | failed heard streaming pipeline opened read sends =>
      obtain ⟨datagram, sent, _, _, _, _, _, _, err⟩ := sends.kind
      rw [sentBy_append, sentBy_read, sent, sentBy_close, sentBy_nil, closed_snoc]
      exact iff_of_true ⟨_, rfl, rfl⟩ (.inr (.inr err))

/-- A finished session reacts in silence, and stays finished. -/
theorem Reaction.silent_of_finished (reaction : Reaction session exchange calls after)
    (formed : WellFormed session) (finished : Finished session) :
    sentBy calls = [] ∧ ∀ next, after = some next → Finished next := by
  cases reaction with
  | dropped => exact ⟨rfl, by rintro _ ⟨⟩; exact finished⟩
  | forgotten => exact ⟨rfl, by rintro _ ⟨⟩⟩
  | reset heard state => exact (not_finished_initial formed state finished).elim
  | refused heard state => exact (not_finished_initial formed state finished).elim
  | opened heard state => exact (not_finished_initial formed state finished).elim
  | silent => exact ⟨rfl, by rintro _ ⟨⟩; exact finished⟩
  | chunk _ _ pipeline opened => exact (not_finished_of_pipeline pipeline opened finished).elim
  | ended _ _ pipeline opened => exact (not_finished_of_pipeline pipeline opened finished).elim
  | failed _ _ pipeline opened => exact (not_finished_of_pipeline pipeline opened finished).elim

/-- An open session answers every packet it hears by one datagram. -/
theorem Reaction.answers (reaction : Reaction session exchange calls after)
    (heard : Heard session exchange.header) (streaming : Streaming session)
    (opened : Open session) :
    ∃ datagram, sentBy calls = [datagram] ∧ Answers exchange.streamRead datagram := by
  cases reaction with
  | dropped old => exact (old heard.1).elim
  | forgotten _ reset =>
      rw [heard.2] at reset
      cases reset
  | reset _ state => exact (not_streaming_of_initial state streaming).elim
  | refused _ state => exact (not_streaming_of_initial state streaming).elim
  | opened _ state => exact (not_streaming_of_initial state streaming).elim
  | silent _ _ pipeline finished =>
      exact (not_open_of_finished ⟨_, pipeline, finished⟩ opened).elim
  | @chunk source bytes _ _ _ _ _ read some _ sends =>
      obtain ⟨datagram, sent, _, _, payload, data, _⟩ := sends.kind
      refine ⟨datagram, by rw [sentBy_read, sent, sentBy_nil], ?_⟩
      rw [read]
      cases bytes with
      | nil => exact absurd some (Nat.lt_irrefl 0)
      | cons byte bytes => exact ⟨data, payload⟩
  | ended _ _ _ _ read sends =>
      obtain ⟨datagram, sent, _, _, _, _, _, fin, _⟩ := sends.kind
      refine ⟨datagram, by rw [sentBy_read, sentBy_close, sent, sentBy_nil], ?_⟩
      rw [read]
      exact fin
  | failed _ _ _ _ read sends =>
      obtain ⟨datagram, sent, _, _, payload, _, _, _, err⟩ := sends.kind
      refine ⟨datagram, by rw [sentBy_read, sent, sentBy_close, sentBy_nil], ?_⟩
      rw [read]
      exact ⟨err, payload⟩

/-- What a reaction streams is what it reads from an open stream, and else nothing. -/
theorem Reaction.streamOf_eq (reaction : Reaction session exchange calls after) :
    (Heard session exchange.header ∧ Streaming session ∧ Open session ∧
      streamOf (sentBy calls) = exchange.streamRead.bytes) ∨
    (¬ (Heard session exchange.header ∧ Streaming session ∧ Open session) ∧
      streamOf (sentBy calls) = []) := by
  cases reaction with
  | dropped old => exact .inr ⟨fun due => old due.1.1, rfl⟩
  | forgotten _ reset =>
      refine .inr ⟨fun due => ?_, rfl⟩
      rw [due.1.2] at reset
      cases reset
  | reset _ state syn sends =>
      obtain ⟨datagram, sent, _, _, _, data, _⟩ := sends.kind
      refine .inr ⟨fun due => not_streaming_of_initial state due.2.1, ?_⟩
      rw [sent, sentBy_nil, streamOf_singleton_eq_nil data]
  | refused _ state syn refusal sends quiet =>
      obtain ⟨datagram, sent, _, _, _, data, _⟩ := sends.kind
      refine .inr ⟨fun due => not_streaming_of_initial state due.2.1, ?_⟩
      rw [sentBy_append, quiet, sent, sentBy_nil, List.nil_append, streamOf_singleton_eq_nil data]
  | opened _ state syn codec offered sends =>
      obtain ⟨datagram, sent, _, _, _, data, _⟩ := sends.kind
      refine .inr ⟨fun due => not_streaming_of_initial state due.2.1, ?_⟩
      rw [sentBy_open, sentBy_read, sent, sentBy_nil, streamOf_singleton_eq_nil data]
  | silent _ _ pipeline finished =>
      exact .inr ⟨fun due => not_open_of_finished ⟨_, pipeline, finished⟩ due.2.2, rfl⟩
  | chunk heard streaming pipeline opened read some small sends =>
      obtain ⟨datagram, sent, _, _, payload, data, _⟩ := sends.kind
      refine .inl ⟨heard, streaming, ⟨_, pipeline, opened⟩, ?_⟩
      rw [sentBy_read, sent, sentBy_nil, streamOf_singleton data, payload, read, ReadReply.bytes]
  | ended heard streaming pipeline opened read sends =>
      obtain ⟨datagram, sent, _, _, _, data, _⟩ := sends.kind
      refine .inl ⟨heard, streaming, ⟨_, pipeline, opened⟩, ?_⟩
      rw [sentBy_read, sentBy_close, sent, sentBy_nil, streamOf_singleton_eq_nil data, read,
        ReadReply.bytes]
  | failed heard streaming pipeline opened read sends =>
      obtain ⟨datagram, sent, _, _, _, data, _⟩ := sends.kind
      refine .inl ⟨heard, streaming, ⟨_, pipeline, opened⟩, ?_⟩
      rw [sentBy_read, sent, sentBy_close, sentBy_nil, streamOf_singleton_eq_nil data, read,
        ReadReply.bytes]

/-- A reaction sends one data packet if the packet elicits one, and none otherwise. -/
theorem Reaction.chunks_eq (reaction : Reaction session exchange calls after) :
    (Elicits session exchange ∧ (sentBy calls).countP isData = 1) ∨
      (¬ Elicits session exchange ∧ (sentBy calls).countP isData = 0) := by
  have other : ∀ {flags payload call}, Sends (acked session exchange.header) flags payload call →
      packetFlagIsset flags packetFlagSyn = true ∨ packetFlagIsset flags packetFlagRst = true →
      (sentBy [call]).countP isData = 0 := by
    intro flags payload call sends kind
    obtain ⟨datagram, sent, _, _, _, data, _⟩ := sends.kind
    rw [sent, sentBy_nil, List.countP_singleton, data]
    rcases kind with syn | rst
    · rw [syn]
      rfl
    · rw [rst, Bool.not_true, Bool.and_false]
      rfl
  cases reaction with
  | dropped old => exact .inr ⟨fun elicits => old elicits.1.1, rfl⟩
  | forgotten _ reset =>
      exact .inr ⟨fun elicits => absurd (elicits.1.2.symm.trans reset) (by decide), rfl⟩
  | reset _ state syn sends =>
      exact .inr ⟨fun elicits => not_streaming_of_initial state elicits.2.1,
        other sends (.inr (by decide))⟩
  | refused _ state syn refusal sends quiet =>
      refine .inr ⟨fun elicits => not_streaming_of_initial state elicits.2.1, ?_⟩
      rw [sentBy_append, quiet]
      exact other sends (.inr (by decide))
  | opened _ state syn codec offered sends =>
      exact .inr ⟨fun elicits => not_streaming_of_initial state elicits.2.1,
        other sends (.inl (by decide))⟩
  | silent _ _ pipeline finished =>
      exact .inr ⟨fun elicits => not_open_of_finished ⟨_, pipeline, finished⟩ elicits.2.2.1, rfl⟩
  | chunk heard streaming pipeline opened read some small sends =>
      obtain ⟨datagram, sent, _, _, _, data, _⟩ := sends.kind
      refine .inl ⟨⟨heard, streaming, ⟨_, pipeline, opened⟩, ?_⟩, ?_⟩
      · rw [read]
        exact List.ne_nil_of_length_pos some
      · rw [sentBy_read, sent, sentBy_nil, List.countP_singleton, data]
        rfl
  | ended heard streaming pipeline opened read sends =>
      refine .inr ⟨fun elicits => elicits.2.2.2 (by rw [read]; rfl), ?_⟩
      rw [sentBy_read, sentBy_close]
      exact other sends (.inr (by decide))
  | failed heard streaming pipeline opened read sends =>
      refine .inr ⟨fun elicits => elicits.2.2.2 (by rw [read]; rfl), ?_⟩
      obtain ⟨datagram, failure, rfl, _⟩ := id sends
      exact other sends (.inr (by decide))

/-- A reaction sends more than the window allows exactly when the stream was read beyond it. -/
theorem Reaction.within_window_iff (reaction : Reaction session exchange calls after) :
    (streamOf (sentBy calls)).length ≤ exchange.header.window.toNat ↔
      ¬ Overruns session exchange := by
  rw [← Nat.not_lt]
  refine not_congr ?_
  rcases reaction.streamOf_eq with ⟨heard, streaming, opened, stream⟩ | ⟨elsewhere, stream⟩
  · rw [stream]
    exact ⟨fun more => ⟨heard, streaming, opened, more⟩, fun overruns => overruns.2.2.2⟩
  · rw [stream]
    exact iff_of_false (Nat.not_lt_zero _)
      fun overruns => elsewhere ⟨overruns.1, overruns.2.1, overruns.2.2.1⟩

end

section

variable {addr : SockaddrIn6} {memory : Uninitialized} {events : List SessionEvent}
  {session : Session} {target : Option Session}

/-- In every run, the source has finished exactly when the stream has been ended. -/
theorem SessionRun.finished_iff (run : SessionRun addr memory events target) :
    ∀ session, target = some session → (Finished session ↔ Closed (sentBy (callsOf events))) := by
  refine run.history (fun events state => ∀ session, state = some session →
    (Finished session ↔ Closed (sentBy (callsOf events)))) ?_ ?_
  · rintro _ ⟨⟩
    refine iff_of_false (not_finished_initial (wellFormed_create addr memory) rfl) ?_
    rintro ⟨_, member, _⟩
    exact (List.not_mem_nil member).elim
  · intro events state event next before ending step
    obtain ⟨session, rfl, reacted | written⟩ := step.cases (SessionRun.wellFormed before)
    · obtain ⟨exchange, calls, rfl, reaction⟩ := reacted
      rintro session' rfl
      rw [callsOf_append, callsOf_singleton]
      exact reaction.finished_iff (SessionRun.wellFormed before session rfl) (ending session rfl)
    · obtain ⟨timeout, link, rfl, rfl⟩ := written
      rintro _ ⟨⟩
      rw [callsOf_append, callsOf_singleton, SessionEvent.calls, List.append_nil]
      exact ending session rfl

/-- From a finished session on, every run is silent. -/
theorem silent_of_finished {later : List SessionEvent}
    (run : Run SessionStep (some session) later target)
    (formed : WellFormed session) (finished : Finished session) : sentBy (callsOf later) = [] := by
  have silent := run.history (fun events state => sentBy (callsOf events) = [] ∧
    ∀ session, state = some session → WellFormed session ∧ Finished session)
    ⟨rfl, by rintro _ ⟨⟩; exact ⟨formed, finished⟩⟩ ?_
  · exact silent.1
  intro events state event next _ earlier step
  obtain ⟨quiet, holds⟩ := earlier
  have formed' : ∀ session, state = some session → WellFormed session :=
    fun session same => (holds session same).1
  obtain ⟨session, rfl, reacted | written⟩ := step.cases formed'
  · obtain ⟨exchange, calls, rfl, reaction⟩ := reacted
    obtain ⟨formed, finished⟩ := holds session rfl
    obtain ⟨more, still⟩ := reaction.silent_of_finished formed finished
    refine ⟨?_, fun session' same => ⟨step.wellFormed formed' session' same, still session' same⟩⟩
    rw [callsOf_append, callsOf_singleton, sentBy_append, quiet, SessionEvent.calls, more,
      List.append_nil]
  · obtain ⟨timeout, link, rfl, rfl⟩ := written
    refine ⟨?_, ?_⟩
    · rw [callsOf_append, callsOf_singleton, SessionEvent.calls, List.append_nil, quiet]
    · rintro _ ⟨⟩
      exact holds session rfl

/-- **One answer per packet, and silence after the end.** In every session that is past its
handshake, as long as it has not ended its stream, every packet it hears is handled and answered
by exactly one datagram; once it has ended the stream, no later run makes it send another. -/
theorem session_answers_until_end (run : SessionRun addr memory events (some session)) :
    (¬ Closed (sentBy (callsOf events)) → Streaming session →
      ∀ exchange : Exchange, Heard session exchange.header →
        ∃ outcome datagram, exchange.handledBy session = .ok outcome ∧
          sentBy outcome.kernel.calls = [datagram] ∧
          Answers exchange.streamRead datagram) ∧
    (Closed (sentBy (callsOf events)) → ∀ later target,
      Run SessionStep (some session) later target → sentBy (callsOf later) = []) := by
  have formed := run.wellFormed session rfl
  have ending := run.finished_iff session rfl
  constructor
  · intro unended streaming exchange heard
    obtain ⟨outcome, returned, reaction⟩ := handledBy_reacts formed exchange
    have opened : Open session :=
      (formed.open_or_finished streaming).resolve_right (mt ending.mp unended)
    obtain ⟨datagram, sent, answers⟩ := reaction.answers heard streaming opened
    exact ⟨outcome, datagram, returned, sent, answers⟩
  · intro ended later target run
    exact silent_of_finished run formed (ending.mpr ended)

/-- The session that has answered the SYN for the three-byte song. -/
def songSession : Session :=
  (replay (some (sessionCreate listener ⟨0, 0, 0, 0, 0⟩)) [songSyn]).2.getD
    (sessionCreate listener ⟨0, 0, 0, 0, 0⟩)

/-- The session of the example has opened its file. -/
theorem songSession_run : SessionRun listener ⟨0, 0, 0, 0, 0⟩
    (replay (some (sessionCreate listener ⟨0, 0, 0, 0, 0⟩)) [songSyn]).1 (some songSession) := by
  have lives : (replay (some (sessionCreate listener ⟨0, 0, 0, 0, 0⟩)) [songSyn]).2 =
      some songSession := by decide +kernel
  rw [← lives]
  exact replay_run _ _

/-- The session of the song answers the first ACK with its bytes. -/
theorem session_answers_until_end_song : ∃ outcome datagram,
    (songAck 5 [7, 8, 9]).handledBy songSession = .ok outcome ∧
      sentBy outcome.kernel.calls = [datagram] ∧ Answers (.data [7, 8, 9]) datagram := by
  exact (session_answers_until_end songSession_run).1 (by decide +kernel) (by decide +kernel)
    (songAck 5 [7, 8, 9]) ⟨by decide +kernel, by decide +kernel⟩

/-- **The window is not looked at.** In every run of a session, every packet is answered by no
more bytes than its window allows, unless it makes an open stream be read beyond the window; then
never. -/
theorem session_within_window_iff (run : SessionRun addr memory events target)
    {before later : List SessionEvent} {exchange : Exchange} {calls : List Syscall}
    (split : events = before ++ .packet exchange calls :: later) :
    ∃ session, SessionRun addr memory before (some session) ∧
      ((streamOf (sentBy calls)).length ≤ exchange.header.window.toNat ↔
        ¬ Overruns session exchange) := by
  subst split
  obtain ⟨middle, earlier, rest⟩ := Run.split run
  obtain ⟨after, step, _⟩ := rest.cons_inv
  obtain ⟨session, rfl, reacted | written⟩ := step.cases (SessionRun.wellFormed earlier)
  · obtain ⟨_, _, ⟨⟩, reaction⟩ := reacted
    exact ⟨session, earlier, reaction.within_window_iff⟩
  · obtain ⟨_, _, other, _⟩ := written
    cases other

end

/-- An ACK that closes the window, when the stream has three bytes. -/
def closedAck : Exchange := { songAck 5 [7, 8, 9] with header := ⟨5, 0, 0, packetFlagAck, 0, 0⟩ }

/-- What a session does when the song is asked for and the window then closed. -/
def closedEvents : List SessionEvent × Option Session :=
  replay (some (sessionCreate listener ⟨0, 0, 0, 0, 0⟩)) [songSyn, closedAck]

/-- The calls of the session of the song for a packet. -/
def songCalls (exchange : Exchange) : List Syscall :=
  match exchange.handledBy songSession with
  | .ok outcome => outcome.kernel.calls
  | .error _ => []

/-- The session of the example stays within the window that an acknowledgement closes exactly if its
answer does not overrun it. -/
theorem session_within_window_closedAck : ∃ session,
    SessionRun listener ⟨0, 0, 0, 0, 0⟩
      (replay (some (sessionCreate listener ⟨0, 0, 0, 0, 0⟩)) [songSyn]).1 (some session) ∧
    ((streamOf (sentBy (songCalls closedAck))).length ≤ closedAck.header.window.toNat ↔
      ¬ Overruns session closedAck) := by
  have run : SessionRun listener ⟨0, 0, 0, 0, 0⟩ closedEvents.1 closedEvents.2 := replay_run _ _
  exact @session_within_window_iff _ _ _ _ run _ [] _ _ rfl

/-- The three bytes are sent although the window is closed. -/
theorem session_not_within_window :
    ¬ ∀ (addr : SockaddrIn6) (memory : Uninitialized) (events : List SessionEvent)
      (target : Option Session), SessionRun addr memory events target →
      ∀ (exchange : Exchange) (calls : List Syscall), .packet exchange calls ∈ events →
        (streamOf (sentBy calls)).length ≤ exchange.header.window.toNat := by
  intro within
  have run : SessionRun listener ⟨0, 0, 0, 0, 0⟩ closedEvents.1 closedEvents.2 := replay_run _ _
  have member : .packet closedAck (songCalls closedAck) ∈ closedEvents.1 :=
    List.mem_cons_of_mem _ (List.mem_cons_self)
  exact absurd (within _ _ _ _ run _ _ member) (by decide +kernel)

end Sas.Server
