import Sas.Client.Oss

/-! # What the OSS driver plays

The driver drops the chunk it opens the device for, which from the client is the configuration, and
plays the others. An empty chunk looks to it like a device that takes nothing: it closes the device,
and the next chunk makes it cancel a second time.
-/

namespace Sas.Client

open Foundation Transport Rxc

/-! ## A device that obliges -/

/-- What a call makes of a descriptor: it is open from now on, or closed. -/
def AudioCall.turns (fd : Int) : AudioCall → Option Bool
  | .open _ (some opened) => if (opened : Int) = fd then some true else none
  | .close closed => if closed = fd then some false else none
  | _ => none

/-- A descriptor is open after these calls. -/
def Live (calls : List AudioCall) (fd : Int) : Prop :=
  (calls.filterMap (AudioCall.turns fd)).getLast? = some true

instance (calls : List AudioCall) (fd : Int) : Decidable (Live calls fd) :=
  inferInstanceAs (Decidable (_ = _))

/-- The device opens with a positive descriptor, has all settings the driver asks for, and takes
what is written to an open descriptor. A closed descriptor is written to in vain. -/
structure Obliging (env : AudioEnv) : Prop where
  opens : ∀ calls, ∃ fd, env.openReply calls = some fd ∧ 0 < fd
  settings : ∀ calls fd request, env.ioctlReply calls fd request = 0
  takes : ∀ calls fd size, Live calls fd → size ≤ ssizeMax →
    env.writeReply calls fd size = some size
  refuses : ∀ calls fd size, ¬ Live calls fd → env.writeReply calls fd size = none

/-- The device is open, and the driver writes to it. -/
structure Playing (logic : OssSinkLogic) : Prop where
  running : logic.finished = false
  positive : 0 < logic.fd
  live : Live logic.kernel.calls logic.fd

/-- The driver writes to a device it has closed. -/
structure Halted (logic : OssSinkLogic) : Prop where
  finished : logic.finished = true
  closed : ¬ Live logic.kernel.calls logic.fd

section

variable {env : AudioEnv} {self : OssSinkLogic} {kernel : AudioKernel} {chunk : Chunk}
  {pushed : List Chunk} {calls : List AudioCall} {fd : Int}

/-- Writing to a device does not close it. -/
theorem live_write (size : Nat) (taken : Option (List UInt8)) (other : Int) :
    Live (calls ++ [.write other size taken]) fd ↔ Live calls fd := by
  unfold Live
  rw [List.filterMap_append]
  exact iff_of_eq (congrArg (fun turns => List.getLast? turns = some true) (List.append_nil _))

/-- A device is no longer live once it has been closed. -/
theorem not_live_closed (calls : List AudioCall) (size : Nat) (taken : Option (List UInt8)) :
    ¬ Live (calls ++ [.write fd size taken, .close fd]) fd := by
  unfold Live
  have last : [AudioCall.write fd size taken, .close fd].filterMap (AudioCall.turns fd) =
      [false] := by
    have turned : AudioCall.turns fd (.close fd) = some false := if_pos rfl
    rw [List.filterMap_cons_none rfl, List.filterMap_cons_some turned]
    rfl
  rw [List.filterMap_append, last, List.getLast?_concat]
  exact fun same => Bool.noConfusion (Option.some.inj same)

theorem playedBy_write (size : Nat) (bytes : List UInt8) :
    playedBy [.write fd size (some bytes)] = bytes := List.flatMap_singleton _ _

/-- A device with all settings is configured. -/
theorem configureAudio_settings (settings : ∀ calls fd request,
    kernel.env.ioctlReply calls fd request = 0) (fd : Nat) (requests : List AudioRequest) :
    ∃ calls, configureAudio fd requests kernel = ((fd : Int), kernel.made calls) ∧
      playedBy calls = [] ∧ ∀ other, calls.filterMap (AudioCall.turns other) = [] := by
  induction requests generalizing kernel with
  | nil =>
      refine ⟨[], ?_, rfl, fun _ => rfl⟩
      rw [AudioKernel.made, List.append_nil]
      rfl
  | cons request requests ih =>
      obtain ⟨calls, done, played, same⟩ := @ih (kernel.made [.ioctl fd request
        (kernel.env.ioctlReply kernel.calls fd request)]) settings
      refine ⟨.ioctl fd request (kernel.env.ioctlReply kernel.calls fd request) :: calls, ?_, played,
        same⟩
      unfold configureAudio
      dsimp only [AudioKernel.ioctl]
      rw [if_neg (not_not_intro (settings kernel.calls fd request)), done, AudioKernel.made_made]
      rfl

/-- An obliging device is opened. -/
theorem openAudioFd_obliging (obliging : Obliging kernel.env)
    (sampleRate sampleSize channels : Int32) :
    ∃ (fd : Nat) (calls : List AudioCall),
      openAudioFd sampleRate sampleSize channels kernel = ((fd : Int), kernel.made calls) ∧ 0 < fd ∧
        playedBy calls = [] ∧ Live (kernel.calls ++ calls) fd := by
  obtain ⟨fd, opened, positive⟩ := obliging.opens kernel.calls
  obtain ⟨calls, done, played, same⟩ := @configureAudio_settings
    (kernel.made [.open (kernel.env.device.getD audiodev) (some fd)]) obliging.settings fd
    [.reset, .samplesize sampleSize, .channels channels, .speed sampleRate, .sync]
  refine ⟨fd, .open (kernel.env.device.getD audiodev) (some fd) :: calls, ?_, positive, played, ?_⟩
  · unfold openAudioFd
    dsimp only [AudioKernel.openDevice]
    rw [opened]
    dsimp only
    rw [done, AudioKernel.made_made]
    rfl
  · have turned : AudioCall.turns fd (.open (kernel.env.device.getD audiodev) (some fd)) =
        some true := if_pos rfl
    unfold Live
    rw [List.filterMap_append, List.filterMap_cons_some turned, same, List.getLast?_concat]

/-! ## One push -/

/-- The driver keeps its device. -/
theorem ossOnPush_env (chunk : Chunk) (self : OssSinkLogic) :
    (ossOnPush chunk self).1.kernel.env = self.kernel.env := by
  have push := ossOnPush_spec chunk self
  generalize (ossOnPush chunk self).1 = next at push ⊢
  generalize (ossOnPush chunk self).2 = inlet at push
  cases push with
  | opening | played | refused => rfl

/-- The device answers by the same rules throughout. -/
theorem ossAfter_env (env : AudioEnv) (pushed : List Chunk) :
    (ossAfter env pushed).kernel.env = env := by
  induction pushed using List.reverseRecOn with
  | nil => rfl
  | append_singleton pushed chunk ih => rw [ossAfter_snoc, ossOnPush_env, ih]

/-- The first chunk opens an obliging device. -/
theorem ossOnPush_opens (obliging : Obliging self.kernel.env) (low : self.fd ≤ 0)
    (running : self.finished = false) (chunk : Chunk) :
    Playing (ossOnPush chunk self).1 ∧
      playedBy (ossOnPush chunk self).1.kernel.calls = playedBy self.kernel.calls := by
  obtain ⟨fd, calls, done, positive, played, live⟩ := openAudioFd_obliging obliging chunk.sampleRate
    chunk.sampleSize.toInt32 chunk.channels.toInt32
  unfold ossOnPush
  rw [if_pos ⟨low, running⟩, done]
  refine ⟨⟨running, Int.natCast_pos.mpr positive, live⟩, ?_⟩
  rw [AudioKernel.made_calls, playedBy_append, played, List.append_nil]

/-- An open device that obliges takes the whole chunk. -/
theorem Playing.answer (playing : Playing self) (obliging : Obliging self.kernel.env)
    (tame : chunk.size ≤ ssizeMax) :
    self.kernel.answer self.fd chunk = some (chunk.buffer.read chunk.size) := by
  unfold AudioKernel.answer
  rw [obliging.takes _ _ _ playing.live tame, Nat.min_eq_left tame, Option.map_some, Nat.min_self]

theorem read_eq_nil_iff (memory : Memory) (size : Nat) : memory.read size = [] ↔ size = 0 := by
  rw [← List.length_eq_zero_iff, Memory.length_read]

/-- A driver that plays goes on, unless the chunk is empty. -/
theorem Playing.push (playing : Playing self) (obliging : Obliging self.kernel.env)
    (tame : chunk.size ≤ ssizeMax) :
    playedBy (ossOnPush chunk self).1.kernel.calls =
        playedBy self.kernel.calls ++ chunk.buffer.read chunk.size ∧
      (chunk.size ≠ 0 → Playing (ossOnPush chunk self).1) ∧
      (chunk.size = 0 → Halted (ossOnPush chunk self).1) := by
  have answered := playing.answer obliging tame
  have push := ossOnPush_spec chunk self
  generalize (ossOnPush chunk self).1 = next at push ⊢
  generalize (ossOnPush chunk self).2 = inlet at push
  cases push with
  | opening low => exact (Int.not_le.mpr playing.positive low).elim
  | played writes taken some =>
      cases answered.symm.trans taken
      refine ⟨?_, fun _ => ?_, fun zero => ?_⟩
      · rw [AudioKernel.made_calls, playedBy_append, playedBy_write]
      · exact ⟨playing.running, playing.positive, (live_write _ _ _).mpr playing.live⟩
      · exact (some ((read_eq_nil_iff _ _).mpr zero)).elim
  | @refused taken writes refused none =>
      have empty := refused _ answered
      have zero := (read_eq_nil_iff _ _).mp empty
      refine ⟨?_, fun some => (some zero).elim, fun _ => ⟨rfl, not_live_closed _ _ _⟩⟩
      rw [empty, List.append_nil, AudioKernel.made_calls, playedBy_append]
      cases taken with
      | none => exact List.append_nil _
      | some bytes =>
          obtain rfl : bytes = [] := none
          exact List.append_nil _

/-- A closed device takes nothing. -/
theorem Halted.refused (halted : Halted self) (obliging : Obliging self.kernel.env) (chunk : Chunk) :
    self.Refused chunk := by
  intro bytes answered
  rw [AudioKernel.answer, obliging.refuses _ _ _ halted.closed] at answered
  cases answered

/-! ## The inlet -/

/-- The driver has cancelled exactly if it has finished. -/
theorem count_cancel_eq_zero_iff (env : AudioEnv) (pushed : List Chunk) :
    (sinkCalls (driversOss env) pushed).count .cancel = 0 ↔
      (ossAfter env pushed).finished = false := by
  induction pushed using List.reverseRecOn with
  | nil => exact iff_of_true rfl rfl
  | append_singleton pushed chunk ih =>
      have push := ossOnPush_spec chunk (ossAfter env pushed)
      have made : (driversOss env).onPush pushed chunk =
          (ossOnPush chunk (ossAfter env pushed)).2 := rfl
      rw [sinkCalls_snoc, List.count_append, ossAfter_snoc, made]
      generalize (ossOnPush chunk (ossAfter env pushed)).1 = next at push ⊢
      generalize (ossOnPush chunk (ossAfter env pushed)).2 = inlet at push ⊢
      cases push with
      | opening low running => exact iff_of_true (by rw [ih.mpr running]; rfl) rfl
      | played => exact ih
      | refused => exact iff_of_false (Nat.succ_ne_zero _) (fun same => Bool.noConfusion same)

/-- A chunk makes the driver cancel a second time exactly if a device has refused it before, and
does so again. -/
theorem not_bounded_snoc_iff (bounded : (driversOss env).Bounded pushed) :
    ¬ (driversOss env).Bounded (pushed ++ [chunk]) ↔
      (ossAfter env pushed).finished = true ∧ (ossAfter env pushed).Refused chunk := by
  have count := count_cancel_eq_zero_iff env pushed
  have push := ossOnPush_spec chunk (ossAfter env pushed)
  have made : (driversOss env).onPush pushed chunk =
      (ossOnPush chunk (ossAfter env pushed)).2 := rfl
  unfold Sink.Bounded at bounded ⊢
  rw [sinkCalls_snoc, List.count_append, made]
  generalize (ossOnPush chunk (ossAfter env pushed)).1 = next at push
  generalize (ossOnPush chunk (ossAfter env pushed)).2 = inlet at push ⊢
  cases push with
  | opening low running =>
      refine iff_of_false (not_not_intro bounded) fun both => ?_
      cases running.symm.trans both.1
  | played writes answered some =>
      exact iff_of_false (not_not_intro bounded) fun both => some (both.2 _ answered)
  | refused writes refused none =>
      rw [and_iff_left refused, ← Bool.not_eq_false, ← count]
      change ¬ _ + 1 ≤ 1 ↔ _
      omega

/-! ## Runs -/

/-- What the driver has made of these chunks. -/
structure Performance (env : AudioEnv) (pushed : List Chunk) : Prop where
  played : playedBy (ossAfter env pushed).kernel.calls =
    pushed.tail.flatMap fun chunk => chunk.buffer.read chunk.size
  phase : pushed = [] ∨
    Playing (ossAfter env pushed) ∧ (∀ chunk ∈ pushed.tail, chunk.size ≠ 0) ∨
    Halted (ossAfter env pushed) ∧ ∃ chunk ∈ pushed.tail, chunk.size = 0

/-- The driver plays all chunks behind the first one, as long as it has not cancelled twice. -/
theorem performance (obliging : Obliging env) (bounded : (driversOss env).Bounded pushed)
    (tame : ∀ chunk ∈ pushed.tail, chunk.size ≤ ssizeMax) : Performance env pushed := by
  induction pushed using List.reverseRecOn with
  | nil => exact ⟨rfl, .inl rfl⟩
  | append_singleton pushed chunk ih =>
      have device : Obliging (ossAfter env pushed).kernel.env := by
        rw [ossAfter_env]
        exact obliging
      have earlier : ∀ other ∈ pushed.tail, other ∈ (pushed ++ [chunk]).tail := fun other member => by
        rw [List.tail_append_of_ne_nil (List.ne_nil_of_mem (List.mem_of_mem_tail member))]
        exact List.mem_append_left _ member
      have before := ih bounded.of_snoc fun other member => tame other (earlier other member)
      rcases before.phase with rfl | ⟨playing, full⟩ | ⟨halted, _⟩
      · have low : (ossCreateLogic env).fd ≤ 0 := (by decide : (-1 : Int) ≤ 0)
        obtain ⟨playing, played⟩ := ossOnPush_opens obliging low rfl chunk
        refine ⟨played, .inr (.inl ⟨playing, ?_⟩)⟩
        rintro _ ⟨⟩
      · have some : pushed ≠ [] := by
          rintro rfl
          exact absurd playing.positive (by decide : ¬ (0 : Int) < -1)
        rw [List.tail_append_of_ne_nil some] at tame
        obtain ⟨played, goes, halts⟩ := playing.push device (tame chunk List.mem_concat_self)
        constructor
        · rw [ossAfter_snoc, played, before.played, List.tail_append_of_ne_nil some, List.flatMap_append,
            List.flatMap_singleton]
        · rw [ossAfter_snoc, List.tail_append_of_ne_nil some]
          by_cases zero : chunk.size = 0
          · exact .inr (.inr ⟨halts zero, chunk, List.mem_concat_self, zero⟩)
          · refine .inr (.inl ⟨goes zero, fun other member => ?_⟩)
            rcases List.mem_append.mp member with earlier | last
            · exact full other earlier
            · rw [List.mem_singleton.mp last]
              exact zero
      · refine ((not_bounded_snoc_iff bounded.of_snoc).mpr ?_ bounded).elim
        exact ⟨halted.finished, halted.refused device chunk⟩

/-- **What the OSS driver plays.** In every run of a client with this driver over a device that
obliges, in which no size has wrapped, the device has played every byte of the chunks behind the
configuration. The next iteration fails exactly if it receives a packet the client takes although
one of these chunks was empty. -/
theorem oss_plays {audio : AudioEnv} (obliging : Obliging audio) {name : List UInt8}
    {memory : Chunk} {env : Env} {start config : Config} {events : List ClientEvent}
    (begun : receive name memory env = .ok start)
    (run : ClientRun (driversOss audio) start events config)
    (tame : ∀ chunk ∈ config.world.pushed.tail, chunk.size ≤ ssizeMax) :
    playedBy (ossAfter audio config.world.pushed).kernel.calls =
        (config.world.pushed.tail.flatMap fun chunk => chunk.buffer.read chunk.size) ∧
      ∀ (input : Input) (fault : Fault), clientStep (driversOss audio) input config = .error fault ↔
        fault = .nullPointer ∧ config.stage = .select ∧ Hears config input ∧
          ∃ chunk ∈ config.world.pushed.tail, chunk.size = 0 := by
  have connects : (driversOss audio).Bounded [] := Nat.zero_le 1
  have bounded := ClientRun.bounded connects begun run
  have performed := performance obliging bounded tame
  refine ⟨performed.played, fun input fault => ?_⟩
  rw [(ClientRun.patient begun run).fails_iff]
  have breaks : ∀ chunk, ¬ (driversOss audio).Bounded (config.world.pushed ++ [chunk]) ↔
      ∃ other ∈ config.world.pushed.tail, other.size = 0 := by
    intro chunk
    rw [not_bounded_snoc_iff bounded]
    rcases performed.phase with none | ⟨playing, full⟩ | ⟨halted, empty⟩
    · rw [none]
      refine iff_of_false (fun both => Bool.noConfusion both.1) ?_
      rintro ⟨_, ⟨⟩, _⟩
    · refine iff_of_false (fun both => ?_) fun ⟨other, member, zero⟩ => full other member zero
      cases playing.running.symm.trans both.1
    · have device : Obliging (ossAfter audio config.world.pushed).kernel.env := by
        rw [ossAfter_env]
        exact obliging
      exact iff_of_true ⟨halted.finished, halted.refused device chunk⟩ empty
  refine and_congr_right fun _ => and_congr_right fun _ => ?_
  constructor
  · rintro ⟨datagram, received, takes, twice⟩
    exact ⟨⟨datagram, received, takes⟩, (breaks _).mp twice⟩
  · rintro ⟨⟨datagram, received, takes⟩, empty⟩
    exact ⟨datagram, received, takes, (breaks _).mpr empty⟩

end

/-- A device that opens with the descriptor three and takes what is written to it. -/
def songDevice : AudioEnv where
  device := none
  openReply _ := some 3
  ioctlReply _ _ _ := 0
  writeReply calls fd size := if Live calls fd then some size else none

/-- The device of the example obliges. -/
theorem songDevice_obliging : Obliging songDevice where
  opens _ := ⟨3, rfl, Nat.succ_pos 2⟩
  settings _ _ _ := rfl
  takes _ _ _ live _ := if_pos live
  refuses _ _ _ closed := if_neg closed

/-- The client that has received a configuration, nine bytes and eight bytes. -/
def songPlayed : List ClientEvent × Config :=
  replay (driversOss songDevice) songStart [receiving songSynAck,
    receiving (packetOf ⟨8, 6, 0, 0, 1024, 9⟩ [1, 2, 3, 4, 5, 6, 7, 8, 9]),
    receiving (packetOf ⟨17, 7, 0, 0, 1024, 8⟩ [1, 2, 3, 4, 5, 6, 7, 8])]

/-- The device has played one byte, and the next packet crashes the client. -/
theorem oss_plays_song :
    playedBy (ossAfter songDevice songPlayed.2.world.pushed).kernel.calls = [1] ∧
      clientStep (driversOss songDevice) (receiving (packetOf ⟨25, 8, 0, 0, 1024, 1⟩ [1]))
        songPlayed.2 = .error .nullPointer := by
  obtain ⟨played, fails⟩ := oss_plays songDevice_obliging songStart_begun (replay_run _ _ _ : ClientRun
    (driversOss songDevice) songStart songPlayed.1 songPlayed.2) (by decide +kernel)
  exact ⟨played.trans (by decide +kernel), (fails _ _).mpr ⟨rfl, by decide +kernel,
    ⟨_, rfl, ⟨by decide +kernel, by decide +kernel⟩⟩, by decide +kernel⟩⟩

end Sas.Client
