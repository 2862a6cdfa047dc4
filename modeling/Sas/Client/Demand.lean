import Sas.Client.Run
import Sas.Foundation.Each

/-! # The demand of the sink of a client

What a sink has asked for follows from the calls it has made on its inlet. The client hands every
packet it hears to its sink, whatever the sink has asked for, so it keeps to the demand exactly in
the runs in which no packet arrives without some.
-/

namespace Sas.Client

open Foundation Transport Rxc

/-- The calls a sink makes while these chunks are pushed to it after earlier ones. -/
def callsAfter (sink : Sink) : List Chunk → List Chunk → List InletCall
  | _, [] => []
  | earlier, chunk :: chunks =>
      sink.onPush earlier chunk ++ callsAfter sink (earlier ++ [chunk]) chunks

/-- The calls a sink has made once it has been connected and these chunks have been pushed to it. -/
def sinkCalls (sink : Sink) (pushed : List Chunk) : List InletCall :=
  sink.onConnect ++ callsAfter sink [] pushed

/-- The number of elements pulled by these calls. -/
def pulledBy (calls : List InletCall) : Int :=
  (calls.map fun call => match call with
    | .pull n => n
    | .cancel => 0).sum

/-- The sink has pulled more elements than have been pushed to it. -/
def Waiting (sink : Sink) (pushed : List Chunk) : Prop :=
  (pushed.length : Int) < pulledBy (sinkCalls sink pushed)

/-- The sink has cancelled its inlet. -/
def Cancelled (sink : Sink) (pushed : List Chunk) : Prop := .cancel ∈ sinkCalls sink pushed

instance (sink : Sink) (pushed : List Chunk) : Decidable (Waiting sink pushed) :=
  inferInstanceAs (Decidable (_ < _))

instance (sink : Sink) (pushed : List Chunk) : Decidable (Cancelled sink pushed) :=
  inferInstanceAs (Decidable (_ ∈ _))

/-- A push is due when the sink is waiting for an element and has not cancelled. -/
def Due (sink : Sink) (pushed : List Chunk) : Prop := Waiting sink pushed ∧ ¬ Cancelled sink pushed

/-- Every push was due when it was made. -/
def Respected (sink : Sink) (pushed : List Chunk) : Prop :=
  Each (fun before _ => Due sink before) pushed

/-- **When the client keeps to the demand of its sink.** In a run, every push was due exactly if
every packet the client heard arrived while a push was due: while the sink had pulled more elements
than had been pushed to it and had not cancelled. -/
theorem client_respects_sink_iff {sink : Sink} {name : List UInt8} {memory : Chunk} {env : Env}
    {start target : Config} {events : List ClientEvent}
    (begun : receive name memory env = .ok start) (run : ClientRun sink start events target) :
    Respected sink target.world.pushed ↔
      Run (fun config event next => ClientStep sink config event next ∧
        (Hears config event.input → Due sink config.world.pushed)) start events target := by
  refine run.holds_iff (clientStep_functional)
    (fun _ config => Respected sink config.world.pushed) ?_ ?_
  · obtain ⟨_, _, _, _, _, _, pushed, _⟩ := receive_spec begun
    rw [pushed]
    exact Each.nil
  · intro events config event next before step
    rcases step.hears_or (ClientRun.underway begun before).formed with
      ⟨_, chunk, heeds⟩ | ⟨deaf, pushed, _⟩
    · rw [heeds.pushed, Respected, Each.snoc_iff]
      exact and_congr_right fun _ => ⟨fun due _ => due, fun due => due heeds.hears⟩
    · rw [pushed]
      exact (and_iff_left fun hears => (deaf hears).elim).symm

/-! ### Two sinks -/

/-- `sas_drivers_ignore`: the sink pulls one element on connection and one for every push. -/
def driversIgnore : Sink := ⟨[.pull 1], fun _ _ => [.pull 1]⟩

/-- A sink that pulls one element, and cancels once it has it. -/
def cancelling : Sink := ⟨[.pull 1], fun earlier _ => if earlier.isEmpty then [.cancel] else []⟩

/-- The ignore driver has always pulled one element more than it has been pushed. -/
theorem driversIgnore_pulled (pushed : List Chunk) :
    pulledBy (sinkCalls driversIgnore pushed) = pushed.length + 1 := by
  have after : ∀ earlier : List Chunk,
      pulledBy (callsAfter driversIgnore earlier pushed) = pushed.length := by
    induction pushed with
    | nil => exact fun _ => rfl
    | cons chunk chunks ih =>
        intro earlier
        have rest := ih (earlier ++ [chunk])
        simp only [pulledBy, callsAfter, driversIgnore, List.cons_append, List.nil_append,
          List.map_cons, List.sum_cons, List.length_cons] at rest ⊢
        omega
  have rest := after []
  simp only [pulledBy, sinkCalls, driversIgnore, List.cons_append, List.nil_append, List.map_cons,
    List.sum_cons] at rest ⊢
  omega

/-- The sink of `drivers/ignore.c` always waits for the next chunk. -/
theorem driversIgnore_waiting (pushed : List Chunk) : Waiting driversIgnore pushed := by
  unfold Waiting
  rw [driversIgnore_pulled]
  omega

/-- The sink of `drivers/ignore.c` never cancels. -/
theorem driversIgnore_not_cancelled (pushed : List Chunk) : ¬ Cancelled driversIgnore pushed := by
  have after : ∀ earlier : List Chunk, .cancel ∉ callsAfter driversIgnore earlier pushed := by
    induction pushed with
    | nil => exact fun _ => List.not_mem_nil
    | cons chunk chunks ih =>
        intro earlier member
        rcases List.mem_cons.mp member with same | later
        · cases same
        · exact ih _ later
  intro cancelled
  rcases List.mem_cons.mp cancelled with same | later
  · cases same
  · exact after [] later

/-- For the ignore driver every push is due. -/
theorem driversIgnore_due (pushed : List Chunk) : Due driversIgnore pushed :=
  ⟨driversIgnore_waiting pushed, driversIgnore_not_cancelled pushed⟩

/-- An environment in which every send succeeds. -/
def calmEnv : Env where
  openReply _ := .descriptor 3
  readReply _ := .data []
  closeReply _ := none
  sendReply _ := none
  uninitialized _ _ := 0

/-- A packet with this header and payload. -/
def packetOf (header : PacketHeader) (payload : List UInt8) : List UInt8 :=
  packetDatagram header (fun _ => 0) (Memory.write (fun _ => 0) payload)

/-- The SYN-ACK for a stereo file. -/
def songSynAck : List UInt8 :=
  packetOf ⟨0, 5, 0, packetFlagSyn ||| packetFlagAck, 1024, 8⟩ [0, 0, 172, 68, 16, 2, 0, 0]

/-- The data packet with its three bytes. -/
def songData : List UInt8 := packetOf ⟨8, 6, 0, 0, 1024, 3⟩ [7, 8, 9]

/-- An iteration that receives a datagram. -/
def receiving (datagram : List UInt8) : Input := ⟨calmEnv, .readable, .ok datagram, fun _ => 0⟩

/-- The client that has asked for the song. -/
def songStart : Config :=
  (receive [115, 111, 110, 103] ⟨0, 0, 0, 0, 0, fun _ => 0⟩ calmEnv).toOption.getD
    ⟨⟨clientInit ⟨0, 0, 0, 0, 0, fun _ => 0⟩, ⟨calmEnv, 0, []⟩, []⟩, .select⟩

theorem songStart_begun :
    receive [115, 111, 110, 103] ⟨0, 0, 0, 0, 0, fun _ => 0⟩ calmEnv = .ok songStart :=
  eq_ok_getD (by decide +kernel) _

/-- What a client with this sink does with the SYN-ACK and the data packet. -/
def songRun (sink : Sink) : List ClientEvent × Config :=
  replay sink songStart [receiving songSynAck, receiving songData]

/-- The client keeps to the demand of the ignore driver. -/
theorem client_respects_sink_ignore :
    Respected driversIgnore (songRun driversIgnore).2.world.pushed :=
  (client_respects_sink_iff songStart_begun (replay_run _ _ _)).mpr
    ((replay_run _ _ _).mono fun _ _ _ step => ⟨step, fun _ => driversIgnore_due _⟩)

/-- The data packet is pushed to a sink that has cancelled. -/
theorem client_not_respects_sink :
    ¬ ∀ (sink : Sink) (name : List UInt8) (memory : Chunk) (env : Env) (start target : Config)
      (events : List ClientEvent), receive name memory env = .ok start →
      ClientRun sink start events target → Respected sink target.world.pushed := by
  intro respects
  have respected := respects cancelling _ _ _ _ _ _ songStart_begun (replay_run cancelling songStart
    [receiving songSynAck, receiving songData])
  have two : (songRun cancelling).2.world.pushed.length = 2 := by decide +kernel
  obtain ⟨configuration, chunk, pushed⟩ := List.length_eq_two.mp two
  have due := respected [configuration] chunk [] pushed
  exact due.2 (List.mem_cons_of_mem _ (List.mem_cons_self))

/-! ## The window -/

/-- The window in the last ACK among some datagrams. -/
def toldBy (datagrams : List (List UInt8)) : Option UInt16 :=
  (datagrams.filter isAck).getLast?.map fun datagram => (headerOf datagram).window

/-- What a client tells last once it has pushed these chunks: the window it began with after the
configuration, and none after data. -/
def toldAfter : List Chunk → Option UInt16
  | [] => none
  | [_] => some sessionWindowSize
  | _ => some 0

/-- The last datagram tells the window if it is an ACK. -/
theorem toldBy_snoc (earlier datagrams : List (List UInt8)) {datagram : List UInt8}
    (ack : isAck datagram = true) :
    toldBy (earlier ++ (datagrams ++ [datagram])) = some (headerOf datagram).window := by
  rw [toldBy, List.filter_append, List.filter_append, List.filter_cons_of_pos ack,
    List.filter_nil, ← List.append_assoc, List.getLast?_concat]
  rfl

/-- Behind a pushed chunk the window told last is closed. -/
theorem toldAfter_snoc {pushed : List Chunk} (some : pushed ≠ []) (chunk : Chunk) :
    toldAfter (pushed ++ [chunk]) = .some 0 := by
  match pushed with
  | [] => exact (some rfl).elim
  | [_] => rfl
  | _ :: _ :: _ => rfl

/-- The client always tells the window it told for the packet before: open after the configuration,
closed after data. -/
theorem ClientRun.toldBy_eq {sink : Sink} {name : List UInt8} {memory : Chunk} {env : Env}
    {start target : Config} {events : List ClientEvent}
    (begun : receive name memory env = .ok start) (run : ClientRun sink start events target) :
    toldBy (saidBy start events) = toldAfter target.world.pushed := by
  refine run.history (fun events config => toldBy (saidBy start events) =
    toldAfter config.world.pushed) ?_ ?_
  · obtain ⟨_, datagram, _, header, _, _, pushed, calls, carries, flags, _⟩ := receive_spec begun
    have syn : isAck datagram = false := by
      rw [isAck, carries.headerOf_eq, flags]
      decide
    rw [pushed, saidBy, calls]
    simp only [callsOf_nil, List.append_nil, sentBy_send, sentBy_nil, toldBy, List.filter_cons, syn,
      Bool.false_eq_true, ↓reduceIte, List.filter_nil, List.getLast?_nil, Option.map_none,
      toldAfter]
  · intro events config event next before told step
    have underway := ClientRun.underway begun before
    rw [saidBy_snoc]
    rcases step.hears_or underway.formed with ⟨_, chunk, heeds⟩ | ⟨deaf, pushed, quiet, _⟩
    · have calls := heeds.calls
      rw [heeds.pushed]
      cases heeds.pushes with
      | config state tells =>
          obtain ⟨nothing, window⟩ := underway.waiting state
          obtain ⟨calls', earlier, last, called, sent, ack, told⟩ := tells window
          rw [enter_calls, List.nil_append, calls] at called
          rw [called, sent, toldBy_snoc _ _ ack, told, nothing]
          rfl
      | data state tells =>
          obtain ⟨calls', earlier, last, called, sent, ack, told⟩ := tells
          rw [enter_calls, List.nil_append, calls] at called
          rw [called, sent, toldBy_snoc _ _ ack, told]
          exact (toldAfter_snoc (underway.streaming state) _).symm
    · rw [quiet, sentBy_nil, List.append_nil, pushed, told]

/-- **When the advertised window tracks the sink.** After any iterations, the window in the last ACK
of the client is open exactly if its sink is waiting for elements, if and only if the sink waits after
the configuration has been pushed and does not wait after data has. -/
theorem window_tracks_sink_iff {sink : Sink} {name : List UInt8} {memory : Chunk} {env : Env}
    {start target : Config} {events : List ClientEvent}
    (begun : receive name memory env = .ok start) (run : ClientRun sink start events target) :
    (∀ window, toldBy (saidBy start events) = some window →
      (window ≠ 0 ↔ Waiting sink target.world.pushed)) ↔
    (target.world.pushed.length = 1 → Waiting sink target.world.pushed) ∧
      (2 ≤ target.world.pushed.length → ¬ Waiting sink target.world.pushed) := by
  rw [ClientRun.toldBy_eq begun run]
  generalize target.world.pushed = pushed
  match pushed with
  | [] =>
      refine iff_of_true ?_ ⟨?_, ?_⟩
      · rintro window ⟨⟩
      · rintro ⟨⟩
      · intro long
        exact (Nat.not_succ_le_zero 1 long).elim
  | [chunk] =>
      constructor
      · intro tracks
        refine ⟨fun _ => (tracks sessionWindowSize rfl).mp (by decide), fun long => ?_⟩
        exact (Nat.not_succ_le_self 1 long).elim
      · rintro ⟨waits, _⟩ window ⟨⟩
        exact iff_of_true (by decide) (waits rfl)
  | first :: second :: later =>
      constructor
      · intro tracks
        refine ⟨fun short => ?_, fun _ waits => (tracks 0 rfl).mpr waits rfl⟩
        simp only [List.length_cons] at short
        omega
      · rintro ⟨_, rests⟩ window ⟨⟩
        exact iff_of_false (by decide) (rests (by simp only [List.length_cons]; omega))

/-- After the configuration alone, the ignore driver waits at an open window. -/
theorem window_tracks_sink_configured : sessionWindowSize ≠ 0 ↔
    Waiting driversIgnore (replay driversIgnore songStart [receiving songSynAck]).2.world.pushed := by
  have one : (replay driversIgnore songStart [receiving songSynAck]).2.world.pushed.length = 1 := by
    decide +kernel
  have told : toldBy (saidBy songStart (replay driversIgnore songStart [receiving songSynAck]).1) =
      some sessionWindowSize := by decide +kernel
  refine (window_tracks_sink_iff songStart_begun (replay_run _ _ _)).mpr
    ⟨fun _ => driversIgnore_waiting _, fun long => ?_⟩ sessionWindowSize told
  rw [one] at long
  omega

/-- After a data packet, the ignore driver waits at a closed window. -/
theorem window_not_tracks_sink :
    ¬ ∀ (sink : Sink) (name : List UInt8) (memory : Chunk) (env : Env) (start target : Config)
      (events : List ClientEvent), receive name memory env = .ok start →
      ClientRun sink start events target → ∀ window, toldBy (saidBy start events) = some window →
        (window ≠ 0 ↔ Waiting sink target.world.pushed) := by
  intro tracks
  have told : toldBy (saidBy songStart (songRun driversIgnore).1) = some 0 := by decide +kernel
  have opened := tracks driversIgnore _ _ _ _ _ _ songStart_begun (replay_run _ _ _) 0 told
  exact opened.mpr (driversIgnore_waiting _) rfl

end Sas.Client
