import Sas.Server.Chronicle
import Sas.Server.Resets

/-! # The clients of one server

What the loop does for a session is a run of that session, so what holds of all runs of one session
holds of every client of the server, whatever the other clients do: the stream it is sent, who it is
sent to, and how much is sent at all.
-/

namespace Sas.Server

open Foundation Transport Rxc Formats

/-- The call sends nothing, or sends to this address. -/
def AddressedTo (addr : SockaddrIn6) : Syscall → Prop
  | .send destination _ _ => destination = some addr
  | _ => True

/-- What is done for a session with this address sends one datagram at most, in answer to a packet and
to that address. -/
structure Modest (addr : SockaddrIn6) (made : Deed) : Prop where
  few : (sentBy made.calls).length ≤ made.sender?.toList.length
  addressed : ∀ call ∈ made.calls, AddressedTo addr call

/-- The calls made for a session, in order. -/
def callsIn (deeds : List Deed) : List Syscall := deeds.flatMap Deed.calls

@[simp] theorem callsIn_append (first second : List Deed) :
    callsIn (first ++ second) = callsIn first ++ callsIn second := List.flatMap_append

/-! ## One session -/

section

variable {session : Session} {exchange : Exchange} {calls : List Syscall} {after : Option Session}

/-- A session sends to its own client. -/
theorem Sends.addressedTo {flags : UInt8} {payload : List UInt8} {call : Syscall}
    (sends : Sends session flags payload call) : AddressedTo session.addr call := by
  obtain ⟨datagram, failure, rfl, _⟩ := sends
  rfl

/-- Calls that send nothing are addressed to everyone. -/
theorem addressedTo_of_silent (silent : sentBy calls = []) (addr : SockaddrIn6) :
    ∀ call ∈ calls, AddressedTo addr call := by
  intro call member
  cases call with
  | send destination datagram failure =>
      have sent : datagram ∈ sentBy calls := List.mem_filterMap.mpr ⟨_, member, rfl⟩
      rw [silent] at sent
      cases sent
  | _ => trivial

/-- What a session sends is one datagram. -/
theorem Sends.length_sentBy {flags : UInt8} {payload : List UInt8} {call : Syscall}
    (sends : Sends session flags payload call) (later : List Syscall) :
    (sentBy (call :: later)).length = (sentBy later).length + 1 := by
  obtain ⟨datagram, sent, _⟩ := sends.kind
  rw [sent, List.length_cons]

/-- A packet is answered by one datagram at most, to the address of its session. -/
theorem Reaction.modest (reaction : Reaction session exchange calls after) :
    (sentBy calls).length ≤ 1 ∧ ∀ call ∈ calls, AddressedTo session.addr call := by
  cases reaction with
  | dropped => exact ⟨Nat.zero_le 1, fun _ member => (List.not_mem_nil member).elim⟩
  | forgotten => exact ⟨Nat.zero_le 1, fun _ member => (List.not_mem_nil member).elim⟩
  | silent => exact ⟨Nat.zero_le 1, fun _ member => (List.not_mem_nil member).elim⟩
  | reset heard state syn sends =>
      refine ⟨le_of_eq (sends.length_sentBy []), ?_⟩
      simp only [List.mem_cons, List.not_mem_nil, or_false, forall_eq]
      exact sends.addressedTo
  | refused heard state syn unfit sends before =>
      refine ⟨?_, fun call member => ?_⟩
      · rw [sentBy_append, before, List.nil_append, sends.length_sentBy]
        exact le_refl 1
      · rcases List.mem_append.mp member with quiet | last
        · exact addressedTo_of_silent before session.addr call quiet
        · rw [List.mem_singleton.mp last]
          exact sends.addressedTo
  | opened heard state syn codec offered sends =>
      refine ⟨?_, ?_⟩
      · rw [sentBy_open, sentBy_read, sends.length_sentBy]
        exact le_refl 1
      · simp only [List.mem_cons, List.not_mem_nil, or_false, forall_eq_or_imp, forall_eq]
        exact ⟨trivial, trivial, sends.addressedTo⟩
  | chunk heard streaming pipeline opened read some small sends =>
      refine ⟨?_, ?_⟩
      · rw [sentBy_read, sends.length_sentBy]
        exact le_refl 1
      · simp only [List.mem_cons, List.not_mem_nil, or_false, forall_eq_or_imp, forall_eq]
        exact ⟨trivial, sends.addressedTo⟩
  | ended heard streaming pipeline opened read sends =>
      refine ⟨?_, ?_⟩
      · rw [sentBy_read, sentBy_close, sends.length_sentBy]
        exact le_refl 1
      · simp only [List.mem_cons, List.not_mem_nil, or_false, forall_eq_or_imp, forall_eq]
        exact ⟨trivial, trivial, sends.addressedTo⟩
  | failed heard streaming pipeline opened read sends =>
      refine ⟨?_, ?_⟩
      · rw [sentBy_read, sends.length_sentBy]
        exact le_refl 1
      · simp only [List.mem_cons, List.not_mem_nil, or_false, forall_eq_or_imp, forall_eq]
        exact ⟨trivial, sends.addressedTo, trivial⟩

/-- A session keeps its address, and answers every packet by one datagram at most, to that address. -/
theorem SessionRun.modest {addr : SockaddrIn6} {memory : Uninitialized} {events : List SessionEvent}
    {target : Option Session} (run : SessionRun addr memory events target) :
    (∀ session, target = some session → session.addr = addr) ∧
      ∀ event ∈ events, (sentBy event.calls).length ≤ 1 ∧
        ∀ call ∈ event.calls, AddressedTo addr call := by
  refine run.history (fun events target => (∀ session, target = some session →
      session.addr = addr) ∧ ∀ event ∈ events, (sentBy event.calls).length ≤ 1 ∧
        ∀ call ∈ event.calls, AddressedTo addr call) ⟨?_, ?_⟩ ?_
  · rintro _ ⟨⟩
    rfl
  · intro event member
    cases member
  · intro events state event next before earlier step
    obtain ⟨placed, modest⟩ := earlier
    obtain ⟨session, rfl, reacted | written⟩ := step.cases (SessionRun.wellFormed before)
    · obtain ⟨exchange, calls, rfl, reaction⟩ := reacted
      have addr := placed session rfl
      refine ⟨?_, fun event member => ?_⟩
      · rintro next rfl
        rw [reaction.place.1, addr]
      · rcases List.mem_append.mp member with older | last
        · exact modest event older
        · rw [List.mem_singleton.mp last, ← addr]
          exact reaction.modest
    · obtain ⟨timeout, link, rfl, rfl⟩ := written
      refine ⟨?_, fun event member => ?_⟩
      · rintro _ ⟨⟩
        exact placed session rfl
      · rcases List.mem_append.mp member with older | last
        · exact modest event older
        · rw [List.mem_singleton.mp last]
          exact ⟨Nat.zero_le 1, fun _ member => (List.not_mem_nil member).elim⟩

end

/-! ## The deeds for one session -/

section

variable {session : Session} {deeds : List Deed} {made : Deed} {addr : SockaddrIn6}

/-- The calls of a run of a session are those made for its packets. -/
theorem callsOf_packets (events : List SessionEvent) :
    callsOf events = (events.filterMap SessionEvent.packet?).flatMap Prod.snd := by
  induction events with
  | nil => rfl
  | cons event events ih =>
      rw [callsOf, List.flatMap_cons, ← callsOf, ih]
      cases event with
      | packet exchange calls => rfl
      | marked timeout next => rfl

/-- The calls of deeds that are packets are those made for the packets. -/
theorem callsIn_packets {packets : List (Exchange × List Syscall)}
    (same : deeds.map Deed.packet? = packets.map some) : callsIn deeds = packets.flatMap Prod.snd := by
  induction deeds generalizing packets with
  | nil =>
      cases List.map_eq_nil_iff.mp same.symm
      rfl
  | cons made deeds ih =>
      obtain ⟨packet, later, rfl, first, rest⟩ := List.map_eq_cons_iff.mp same.symm
      rw [callsIn, List.flatMap_cons, ← callsIn, ih rest.symm, List.flatMap_cons]
      cases made with
      | packet sender exchange calls =>
          cases first
          rfl
      | expiry calls => cases first

/-- The calls made for a session are those of the packets it has been handed. -/
theorem Served.callsOf (served : Served deeds session) : ∃ memory events,
    SessionRun session.addr memory events (some session) ∧ Server.callsOf events = callsIn deeds ∧
      deeds.map Deed.packet? = (events.filterMap SessionEvent.packet?).map some := by
  obtain ⟨_, memory, events, run, packets⟩ := served
  exact ⟨memory, events, run, by rw [callsIn_packets packets, callsOf_packets], packets⟩

/-- A session that is served answers its own client, with one datagram for a packet at most. -/
theorem Served.modest (served : Served deeds session) (member : made ∈ deeds) :
    Modest session.addr made := by
  obtain ⟨_, memory, events, run, packets⟩ := served
  have known : made.packet? ∈ (events.filterMap SessionEvent.packet?).map some := by
    rw [← packets]
    exact List.mem_map_of_mem member
  obtain ⟨packet, among, same⟩ := List.mem_map.mp known
  obtain ⟨event, happened, read⟩ := List.mem_filterMap.mp among
  obtain ⟨few, addressed⟩ := run.modest.2 event happened
  cases made with
  | expiry calls => cases same
  | packet sender exchange calls =>
      cases same
      cases event with
      | marked timeout next => cases read
      | packet exchange calls =>
          cases read
          exact ⟨few, addressed⟩

/-- Deleting a session sends and reads nothing. -/
theorem release_quiet (session : Session) (kernel : Kernel) :
    sentBy (release session kernel).calls = sentBy kernel.calls ∧
      readsBy (release session kernel).calls = readsBy kernel.calls := by
  have close (kernel : Kernel) (fd : Int) : sentBy (kernel.closeFile fd).calls = sentBy kernel.calls ∧
      readsBy (kernel.closeFile fd).calls = readsBy kernel.calls := by
    unfold Kernel.closeFile
    simp
  have pipeline : sentBy (pipelineDealloc session kernel).calls = sentBy kernel.calls ∧
      readsBy (pipelineDealloc session kernel).calls = readsBy kernel.calls := by
    unfold pipelineDealloc Wav.dealloc
    cases session.pipeline with
    | none => exact ⟨rfl, rfl⟩
    | some source =>
        dsimp only
        split
        · exact close kernel source.fd
        · exact ⟨rfl, rfl⟩
  unfold release
  dsimp only
  split
  · obtain ⟨sends, reads⟩ := close (pipelineDealloc session kernel) session.fd
    exact ⟨sends.trans pipeline.1, reads.trans pipeline.2⟩
  · exact pipeline

/-- A session is buried without a word. -/
theorem Buried.quiet (buried : Buried deeds) : ∃ earlier session calls, Served earlier session ∧
    deeds = earlier ++ [.expiry calls] ∧ sentBy calls = [] ∧ readsBy calls = [] := by
  obtain ⟨earlier, session, kernel, served, idle, rfl⟩ := buried
  obtain ⟨sends, reads⟩ := release_quiet session kernel
  rw [idle] at sends reads
  exact ⟨earlier, session, _, served, rfl, sends, reads⟩

/-- The sender of the first packet is the only one a session sends to. -/
theorem Served.opener (served : Served deeds session) :
    ∃ addr, deeds.head?.bind Deed.sender? = some addr ∧ ∀ made ∈ deeds, Modest addr made :=
  ⟨session.addr, served.opened, fun _ member => served.modest member⟩

/-- The deeds of a session that is gone have all been for the client that opened it. -/
theorem Buried.opener (buried : Buried deeds) :
    ∃ addr, deeds.head?.bind Deed.sender? = some addr ∧ ∀ made ∈ deeds, Modest addr made := by
  obtain ⟨earlier, session, calls, served, rfl, silent, _⟩ := buried.quiet
  obtain ⟨addr, opened, modest⟩ := served.opener
  refine ⟨addr, ?_, fun made member => ?_⟩
  · cases earlier with
    | nil => cases opened
    | cons first later => exact opened
  · rcases List.mem_append.mp member with older | last
    · exact modest made older
    · rw [List.mem_singleton.mp last]
      refine ⟨?_, addressedTo_of_silent silent addr⟩
      rw [Deed.calls, silent]
      exact Nat.zero_le _

/-! ## The stream for one session -/

/-- What a session that is served streams is in its file. -/
theorem Served.streams (served : Served deeds session) {file : List UInt8}
    (delivers : Delivers file (readsBy (callsIn deeds)))
    (whole : HeaderRead (readsBy (callsIn deeds))) :
    streamOf (sentBy (callsIn deeds)) <+: file.drop Wav.waveHeaderSize ∧
      Each (InStream file) (sentBy (callsIn deeds)) := by
  obtain ⟨memory, events, run, calls, _⟩ := served.callsOf
  rw [← calls] at delivers whole ⊢
  exact ⟨run.streamOf_isPrefix delivers whole, run.inStream delivers whole⟩

/-- What a session that is gone has streamed is in its file. -/
theorem Buried.streams (buried : Buried deeds) {file : List UInt8}
    (delivers : Delivers file (readsBy (callsIn deeds)))
    (whole : HeaderRead (readsBy (callsIn deeds))) :
    streamOf (sentBy (callsIn deeds)) <+: file.drop Wav.waveHeaderSize ∧
      Each (InStream file) (sentBy (callsIn deeds)) := by
  obtain ⟨earlier, session, calls, served, rfl, silent, unread⟩ := buried.quiet
  have last : callsIn [.expiry calls] = calls := List.flatMap_singleton _ _
  rw [callsIn_append, last, readsBy_append, unread, List.append_nil] at delivers whole
  rw [callsIn_append, last, sentBy_append, silent, List.append_nil]
  exact served.streams delivers whole

/-- Once the stream has been ended, nothing more is sent for the session. -/
theorem Served.silent (served : Served deeds session) {earlier later : List Deed}
    (split : deeds = earlier ++ later) (closed : Closed (sentBy (callsIn earlier))) :
    sentBy (callsIn later) = [] := by
  obtain ⟨memory, events, run, _, packets⟩ := served.callsOf
  rw [split, List.map_append] at packets
  obtain ⟨first, second, both, before, after⟩ := List.map_eq_append_iff.mp packets.symm
  obtain ⟨events₁, events₂, rfl, read₁, read₂⟩ := List.filterMap_eq_append_iff.mp both
  rw [← read₁] at before
  rw [← read₂] at after
  rw [callsIn_packets before.symm, ← callsOf_packets] at closed
  rw [callsIn_packets after.symm, ← callsOf_packets]
  obtain ⟨middle, run₁, run₂⟩ := run.split
  cases middle with
  | none =>
      cases events₂ with
      | nil => rfl
      | cons event events =>
          obtain ⟨next, step, _⟩ := run₂.cons_inv
          exact step.elim
  | some halfway =>
      have ended := (SessionRun.finished_iff run₁ halfway rfl).mpr closed
      exact silent_of_finished run₂ (SessionRun.wellFormed run₁ halfway rfl) ended

/-- A session that is gone has said nothing behind the end of its stream. -/
theorem Buried.silent (buried : Buried deeds) {earlier later : List Deed}
    (split : deeds = earlier ++ later) (closed : Closed (sentBy (callsIn earlier))) :
    sentBy (callsIn later) = [] := by
  obtain ⟨served, session, calls, serves, rfl, silent, _⟩ := buried.quiet
  rcases List.eq_nil_or_concat later with rfl | ⟨later, last, rfl⟩
  · rfl
  · rw [List.concat_eq_append, ← List.append_assoc] at split
    obtain ⟨whole, same⟩ := List.append_inj' split rfl
    cases same
    have last : callsIn [.expiry calls] = calls := List.flatMap_singleton _ _
    rw [List.concat_eq_append, callsIn_append, last, sentBy_append, silent, List.append_nil]
    exact serves.silent whole closed

end

/-! ## All sessions -/

section

variable {source : Config} {inputs : List Input} {chronicle : Chronicle}

/-- A session has never been there, is there, or has been deleted. -/
theorem Chronicled.cases (chronicled : Chronicled chronicle) (pointer : SessionPtr) :
    shareOf pointer chronicle.deeds = [] ∨
      (∃ session, Served (shareOf pointer chronicle.deeds) session) ∨
      Buried (shareOf pointer chronicle.deeds) := by
  cases live : chronicle.config.server.memory pointer with
  | some session => exact .inr (.inl ⟨session, chronicled.served pointer session live⟩)
  | none =>
      by_cases below : pointer < chronicle.config.server.fresh
      · exact .inr (.inr (chronicled.buried pointer below live))
      · refine .inl (shareOf_eq_nil fun entry member same => below ?_)
        rw [← same]
        exact chronicled.used entry member

/-- **Every client is sent its own stream.** In every run of the server with any clients, for each
session there is or has been: where the reads made for it deliver a file and the first one its header,
what it has been sent is a prefix of the samples, in data packets of 1 to 1024 bytes that are numbered
without gaps; and once it has been sent RST|FIN or RST|ERR, nothing is sent for it any more. -/
theorem loop_streams_files (initial : Initial source)
    (run : Run ChronicleStep (.begin source) inputs chronicle) (pointer : SessionPtr) :
    (∀ file, Delivers file (readsBy (callsIn (shareOf pointer chronicle.deeds))) →
      HeaderRead (readsBy (callsIn (shareOf pointer chronicle.deeds))) →
      streamOf (sentBy (callsIn (shareOf pointer chronicle.deeds))) <+:
          file.drop Wav.waveHeaderSize ∧
        Each (InStream file) (sentBy (callsIn (shareOf pointer chronicle.deeds)))) ∧
    ∀ earlier later, shareOf pointer chronicle.deeds = earlier ++ later →
      Closed (sentBy (callsIn earlier)) → sentBy (callsIn later) = [] := by
  rcases (chronicled_run initial run).cases pointer with nothing | ⟨session, served⟩ | buried
  · rw [nothing]
    refine ⟨fun file _ _ => ⟨List.nil_prefix, Each.nil⟩, fun earlier later split _ => ?_⟩
    rw [(List.append_eq_nil_iff.mp split.symm).2]
    rfl
  · exact ⟨fun _ delivers whole => served.streams delivers whole,
      fun _ _ split closed => served.silent split closed⟩
  · exact ⟨fun _ delivers whole => buried.streams delivers whole,
      fun _ _ split closed => buried.silent split closed⟩

/-- The senders of the datagrams a run has met. -/
def senders (inputs : List Input) : List SockaddrIn6 :=
  inputs.filterMap fun input => input.received.map Prod.fst

/-- Who is served in a step has sent its datagram. -/
theorem deed_senders {config : Config} {input : Input} {calls : List Syscall} :
    (((deed config input calls).toList.filterMap fun entry => entry.2.sender?)).Sublist
      (senders [input]) := by
  unfold deed
  cases stage : config.stage with
  | recvfrom =>
      cases received : input.received with
      | none => exact List.nil_sublist _
      | some datagram =>
          cases acts : actor config input with
          | none => exact List.nil_sublist _
          | some pointer =>
              simp only [Option.map_some, Option.toList_some, senders, received,
                List.filterMap_cons, List.filterMap_nil, Deed.sender?]
              exact List.Sublist.refl _
  | _ => cases expiring config input <;> exact List.nil_sublist _

theorem senders_append (first second : List Input) :
    senders (first ++ second) = senders first ++ senders second := List.filterMap_append

/-- The loop handles no packet that it has not received. -/
theorem deeds_senders (run : Run ChronicleStep (.begin source) inputs chronicle) :
    (chronicle.deeds.filterMap fun entry => entry.2.sender?).Sublist (senders inputs) := by
  refine run.history (fun inputs chronicle =>
    (chronicle.deeds.filterMap fun entry => entry.2.sender?).Sublist (senders inputs))
    (List.nil_sublist _) ?_
  intro inputs before input after _ earlier step
  rw [(chronicleStep_eq step).2.1, List.filterMap_append, senders_append]
  exact earlier.append deed_senders

/-- Deeds that send one datagram for every packet at most send as many as there are packets at most. -/
theorem length_sentBy_deeds {deeds : List (SessionPtr × Deed)}
    (few : ∀ entry ∈ deeds, (sentBy entry.2.calls).length ≤ entry.2.sender?.toList.length) :
    (sentBy (deeds.flatMap fun entry => entry.2.calls)).length ≤
      (deeds.filterMap fun entry => entry.2.sender?).length := by
  induction deeds with
  | nil => exact le_refl 0
  | cons entry deeds ih =>
      have first := few entry List.mem_cons_self
      have rest := ih fun other member => few other (List.mem_cons_of_mem entry member)
      rw [List.flatMap_cons, sentBy_append, List.length_append]
      cases sender : entry.2.sender? with
      | none =>
          simp only [List.filterMap_cons, sender]
          rw [sender, Option.toList_none, List.length_nil] at first
          omega
      | some addr =>
          simp only [List.filterMap_cons, sender, List.length_cons]
          rw [sender, Option.toList_some, List.length_singleton] at first
          omega

/-- All that is done under a pointer is done for the client that has opened the session. -/
theorem Chronicled.opener (chronicled : Chronicled chronicle) {pointer : SessionPtr} {made : Deed}
    (member : made ∈ shareOf pointer chronicle.deeds) :
    ∃ addr, (shareOf pointer chronicle.deeds).head?.bind Deed.sender? = some addr ∧
      Modest addr made := by
  rcases chronicled.cases pointer with nothing | ⟨session, served⟩ | buried
  · rw [nothing] at member
    cases member
  · obtain ⟨addr, opened, modest⟩ := served.opener
    exact ⟨addr, opened, modest made member⟩
  · obtain ⟨addr, opened, modest⟩ := buried.opener
    exact ⟨addr, opened, modest made member⟩

/-- **The server amplifies nothing.** In every run of the server with any clients, it has sent at most
as many datagrams as it has handled packets, and these have been received from their senders in this
order; and what it has done for a session has sent one datagram at most in answer to a packet, nothing
otherwise, and to no address but the sender of the packet that opened the session. -/
theorem loop_answers_opener (initial : Initial source)
    (run : Run ChronicleStep (.begin source) inputs chronicle) :
    (sentBy chronicle.calls).length ≤
        (chronicle.deeds.filterMap fun entry => entry.2.sender?).length ∧
      (chronicle.deeds.filterMap fun entry => entry.2.sender?).Sublist (senders inputs) ∧
      ∀ pointer made, made ∈ shareOf pointer chronicle.deeds →
        ∃ addr, (shareOf pointer chronicle.deeds).head?.bind Deed.sender? = some addr ∧
          Modest addr made := by
  have chronicled := chronicled_run initial run
  refine ⟨?_, deeds_senders run, fun pointer made member => chronicled.opener member⟩
  have few : ∀ entry ∈ chronicle.deeds,
      (sentBy entry.2.calls).length ≤ entry.2.sender?.toList.length := by
    intro entry member
    have among : entry.2 ∈ shareOf entry.1 chronicle.deeds :=
      List.mem_map_of_mem (List.mem_filter.mpr ⟨member, decide_eq_true rfl⟩)
    obtain ⟨addr, _, modest⟩ := chronicled.opener among
    exact modest.few
  rw [chronicled.whole]
  exact length_sentBy_deeds few

end

/-! ## Two clients -/

/-- The server after a run, with all it has done. -/
def chronicleAfter (inputs : List Input) : Chronicle :=
  (inputs.foldlM (fun chronicle input => chronicleStep input chronicle)
    (.begin beginning)).toOption.getD (.begin beginning)

/-- The chronicle of the example is one of a run. -/
theorem chronicleAfter_run {inputs : List Input}
    (fine : (inputs.foldlM (fun chronicle input => chronicleStep input chronicle)
      (.begin beginning)).isOk = true) :
    Run ChronicleStep (.begin beginning) inputs (chronicleAfter inputs) :=
  Run.of_foldlM (eq_ok_getD fine (.begin beginning))

/-- Of two clients, the first one has been served and its session is gone, and the second is served. -/
theorem loop_serves_sessions_two : ∃ session,
    (chronicleAfter numberReused).config.server.memory 1 = some session ∧
      Served (shareOf 1 (chronicleAfter numberReused).deeds) session ∧
      Buried (shareOf 0 (chronicleAfter numberReused).deeds) := by
  obtain ⟨_, served, buried⟩ := loop_serves_sessions initial_beginning
    (chronicleAfter_run (by decide +kernel) : Run ChronicleStep (.begin beginning) numberReused _)
  have live : ((chronicleAfter numberReused).config.server.memory 1).isSome = true := by
    decide +kernel
  obtain ⟨session, known⟩ := Option.isSome_iff_exists.mp live
  refine ⟨session, known, served 1 session known, (buried 0 (by decide +kernel)).resolve_left ?_⟩
  intro nothing
  have length : (shareOf 0 (chronicleAfter numberReused).deeds).length = 3 := by decide +kernel
  rw [nothing] at length
  cases length

/-- Two clients open a file each and read it in turn; the first one goes on behind its end. -/
def bothServed : List Input :=
  firstOpens ++ List.replicate 4 (datagramFrom secondClient 0 packetFlagSyn opening 0) ++
    List.replicate 4 (datagramFrom firstClient 5 0 (songEnv fun _ => .data [7, 8, 9]) 0) ++
    List.replicate 4 (datagramFrom secondClient 5 0 (songEnv fun _ => .data [4]) 0) ++
    List.replicate 4 (datagramFrom firstClient 10 0 (songEnv fun _ => .data []) 0) ++
    List.replicate 4 (datagramFrom secondClient 10 0 (songEnv fun _ => .data [5, 6]) 0) ++
    List.replicate 4 (datagramFrom firstClient 15 0 opening 0)

theorem bothServed_run : Run ChronicleStep (.begin beginning) bothServed
    (chronicleAfter bothServed) := chronicleAfter_run (by decide +kernel)

/-- The first of two clients is sent its three bytes, and nothing after the end of its stream. -/
theorem loop_streams_files_two :
    (streamOf (sentBy (callsIn (shareOf 0 (chronicleAfter bothServed).deeds))) <+:
        song.drop Wav.waveHeaderSize ∧
      Each (InStream song) (sentBy (callsIn (shareOf 0 (chronicleAfter bothServed).deeds)))) ∧
    sentBy (callsIn ((shareOf 0 (chronicleAfter bothServed).deeds).drop 3)) = [] := by
  obtain ⟨streams, silent⟩ := loop_streams_files initial_beginning bothServed_run 0
  have reads : readsBy (callsIn (shareOf 0 (chronicleAfter bothServed).deeds)) =
      [.data songHeader, .data [7, 8, 9], .data []] := by decide +kernel
  refine ⟨streams song ?_ ?_, silent ((shareOf 0 (chronicleAfter bothServed).deeds).take 3) _
    (List.take_append_drop 3 _).symm (by decide +kernel)⟩
  · rw [reads]
    exact ⟨List.prefix_append _ _, by decide, by decide, by decide, by decide, by decide, trivial⟩
  · rw [reads]
    rintro header rest ⟨⟩
    rfl

/-- The packets of two clients have been answered, each by one datagram at most. -/
theorem loop_answers_opener_two :
    (sentBy (chronicleAfter bothServed).calls).length ≤
        ((chronicleAfter bothServed).deeds.filterMap fun entry => entry.2.sender?).length ∧
      ((chronicleAfter bothServed).deeds.filterMap fun entry => entry.2.sender?).Sublist
        (senders bothServed) := by
  obtain ⟨few, received, _⟩ := loop_answers_opener initial_beginning bothServed_run
  exact ⟨few, received⟩

example : (sentBy (chronicleAfter bothServed).calls).length = 6 ∧
    ((chronicleAfter bothServed).deeds.filterMap fun entry => entry.2.sender?).length = 7 ∧
    streamOf (sentBy (callsIn (shareOf 0 (chronicleAfter bothServed).deeds))) = [7, 8, 9] ∧
    streamOf (sentBy (callsIn (shareOf 1 (chronicleAfter bothServed).deeds))) = [4, 5, 6] := by
  decide +kernel

end Sas.Server
