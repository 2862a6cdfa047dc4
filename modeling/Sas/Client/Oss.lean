import Sas.Client.Faults
import Sas.Foundation.Ledger

/-! # The OSS driver

`drivers/oss.c`: a sink that plays on an audio device. It opens the device with the parameters of
the chunk pushed to it, drops this chunk, and writes the chunks behind it. A descriptor is kept as
an `int`, and zero counts as none.
-/

namespace Sas.Client

open Foundation Transport Rxc

/-! ## The device -/

/-- `AUDIODEV`. -/
def audiodev : String := "/dev/dsp"

/-- The requests of `open_audio_fd` to the device. -/
inductive AudioRequest where
  | reset
  | samplesize (bits : Int32)
  | channels (count : Int32)
  | speed (rate : Int32)
  | sync
  deriving DecidableEq, Repr

/-- One system call on the device with its answer. A write is answered by the bytes it took, if it
has not failed. -/
inductive AudioCall where
  | open (name : String) (reply : Option Nat)
  | ioctl (fd : Int) (request : AudioRequest) (reply : Int32)
  | write (fd : Int) (size : Nat) (taken : Option (List UInt8))
  | close (fd : Int)
  deriving DecidableEq, Repr

/-- The descriptor a call has opened. -/
def AudioCall.opened? : AudioCall → Option Int
  | .open _ (some fd) => some fd
  | _ => none

/-- The descriptor a call has closed. -/
def AudioCall.closed? : AudioCall → Option Int
  | .close fd => some fd
  | _ => none

/-- The bytes the device took. -/
def AudioCall.taken : AudioCall → List UInt8
  | .write _ _ (some bytes) => bytes
  | _ => []

instance : Ledger AudioCall := ⟨AudioCall.opened?, AudioCall.closed?⟩

/-- What a sequence of calls has played. -/
def playedBy (calls : List AudioCall) : List UInt8 := calls.flatMap AudioCall.taken

@[simp] theorem playedBy_append (first second : List AudioCall) :
    playedBy (first ++ second) = playedBy first ++ playedBy second := List.flatMap_append

/-- The largest `ssize_t`. -/
def ssizeMax : Nat := 2 ^ 63 - 1

/-- What the driver meets: the value of the variable `AUDIODEV`, and the answers of the device,
which may depend on all calls made before. -/
structure AudioEnv where
  device : Option String
  openReply : List AudioCall → Option Nat
  ioctlReply : List AudioCall → Int → AudioRequest → Int32
  writeReply : List AudioCall → Int → Nat → Option Nat

/-- The device as seen by the driver: the answers it gives, and the calls made so far. -/
structure AudioKernel where
  env : AudioEnv
  calls : List AudioCall

namespace AudioKernel

/-- The device once more calls have been made. -/
def made (kernel : AudioKernel) (calls : List AudioCall) : AudioKernel :=
  { kernel with calls := kernel.calls ++ calls }

/-- `open(name, O_WRONLY, 0)`. -/
def openDevice (kernel : AudioKernel) (name : String) : Option Nat × AudioKernel :=
  let reply := kernel.env.openReply kernel.calls
  (reply, kernel.made [.open name reply])

/-- `ioctl(fd, request, ..)`. -/
def ioctl (kernel : AudioKernel) (fd : Int) (request : AudioRequest) : Int32 × AudioKernel :=
  let reply := kernel.env.ioctlReply kernel.calls fd request
  (reply, kernel.made [.ioctl fd request reply])

/-- The bytes `write` takes of a chunk, unless it fails. -/
def answer (kernel : AudioKernel) (fd : Int) (chunk : Chunk) : Option (List UInt8) :=
  (kernel.env.writeReply kernel.calls fd chunk.size).map fun n =>
    chunk.buffer.read (min n (min chunk.size ssizeMax))

/-- `write(fd, chunk->buffer, chunk->size)`. -/
def writeChunk (kernel : AudioKernel) (fd : Int) (chunk : Chunk) : Int × AudioKernel :=
  let taken := kernel.answer fd chunk
  (taken.elim (-1) fun bytes => bytes.length, kernel.made [.write fd chunk.size taken])

/-- `close(fd)`. -/
def closeDevice (kernel : AudioKernel) (fd : Int) : AudioKernel := kernel.made [.close fd]

@[simp] theorem made_made (kernel : AudioKernel) (first second : List AudioCall) :
    (kernel.made first).made second = kernel.made (first ++ second) := by
  unfold made
  rw [List.append_assoc]

@[simp] theorem made_calls (kernel : AudioKernel) (calls : List AudioCall) :
    (kernel.made calls).calls = kernel.calls ++ calls := rfl

end AudioKernel

/-! ## The driver -/

/-- The requests of `open_audio_fd`, one after the other. Where one fails, the device is closed. -/
def configureAudio (fd : Nat) : List AudioRequest → AudioKernel → Int × AudioKernel
  | [], kernel => (fd, kernel)
  | request :: requests, kernel =>
      let (reply, kernel) := kernel.ioctl fd request
      if reply ≠ 0 then (-1, kernel.closeDevice fd) else configureAudio fd requests kernel

/-- `open_audio_fd`. -/
def openAudioFd (sampleRate sampleSize channels : Int32) (kernel : AudioKernel) :
    Int × AudioKernel :=
  let (reply, kernel) := kernel.openDevice (kernel.env.device.getD audiodev)
  match reply with
  | none => (-1, kernel)
  | some fd =>
      configureAudio fd
        [.reset, .samplesize sampleSize, .channels channels, .speed sampleRate, .sync] kernel

/-- `struct oss_sink_logic` with the device. -/
structure OssSinkLogic where
  fd : Int
  finished : Bool
  kernel : AudioKernel

/-- `create_logic`. -/
def ossCreateLogic (env : AudioEnv) : OssSinkLogic := ⟨-1, false, ⟨env, []⟩⟩

/-- `on_push`, with the calls it makes on its inlet. -/
def ossOnPush (chunk : Chunk) (self : OssSinkLogic) : OssSinkLogic × List InletCall :=
  if self.fd ≤ 0 ∧ self.finished = false then
    let (fd, kernel) := openAudioFd chunk.sampleRate chunk.sampleSize.toInt32
      chunk.channels.toInt32 self.kernel
    ({ self with fd := fd, kernel := kernel }, [.pull 1])
  else
    let (n, kernel) := self.kernel.writeChunk self.fd chunk
    if n ≤ 0 then
      ({ self with finished := true, kernel := kernel.closeDevice self.fd }, [.cancel])
    else ({ self with kernel := kernel }, [.pull 1])

/-- `dealloc`. -/
def ossDealloc (self : OssSinkLogic) : AudioKernel :=
  if 0 ≤ self.fd ∨ self.finished = true then self.kernel.closeDevice self.fd else self.kernel

/-- The logic once these chunks have been pushed to it. -/
def ossAfter (env : AudioEnv) (pushed : List Chunk) : OssSinkLogic :=
  pushed.foldl (fun self chunk => (ossOnPush chunk self).1) (ossCreateLogic env)

/-- `sas_drivers_oss`. -/
def driversOss (env : AudioEnv) : Sink :=
  ⟨[.pull 1], fun earlier chunk => (ossOnPush chunk (ossAfter env earlier)).2⟩

@[simp] theorem ossAfter_snoc (env : AudioEnv) (pushed : List Chunk) (chunk : Chunk) :
    ossAfter env (pushed ++ [chunk]) = (ossOnPush chunk (ossAfter env pushed)).1 :=
  List.foldl_concat ..

/-! ## One push -/

/-- The logic writes the chunks it is pushed. -/
def OssSinkLogic.Writes (self : OssSinkLogic) : Prop := 0 < self.fd ∨ self.finished = true

/-- The device takes nothing of a chunk. -/
def OssSinkLogic.Refused (self : OssSinkLogic) (chunk : Chunk) : Prop :=
  ∀ bytes, self.kernel.answer self.fd chunk = some bytes → bytes = []

/-- What `open_audio_fd` comes to: the descriptor it returns, and the calls it makes. -/
inductive Opening : Int → List AudioCall → Prop where
  /-- The device does not open, or is closed again. -/
  | failed {calls : List AudioCall} : Ledger.opened calls = Ledger.closed calls → playedBy calls = [] →
      Opening (-1) calls
  /-- The device is open. -/
  | opened {fd : Nat} {calls : List AudioCall} : Ledger.opened calls = [(fd : Int)] →
      Ledger.closed calls = [] → playedBy calls = [] → Opening fd calls

/-- What a push comes to. -/
inductive OssPush (self : OssSinkLogic) (chunk : Chunk) :
    OssSinkLogic → List InletCall → Prop where
  /-- The driver tries to open the device, and drops the chunk. -/
  | opening {fd : Int} {calls : List AudioCall} : self.fd ≤ 0 → self.finished = false →
      Opening fd calls → OssPush self chunk ⟨fd, false, self.kernel.made calls⟩ [.pull 1]
  /-- The device takes bytes of the chunk. -/
  | played {bytes : List UInt8} : self.Writes → self.kernel.answer self.fd chunk = some bytes →
      bytes ≠ [] →
      OssPush self chunk
        { self with kernel := self.kernel.made [.write self.fd chunk.size (some bytes)] } [.pull 1]
  /-- The device takes nothing: it is closed, and the inlet is cancelled. -/
  | refused {taken : Option (List UInt8)} : self.Writes → self.Refused chunk →
      taken.getD [] = [] →
      OssPush self chunk
        { self with
          finished := true
          kernel := self.kernel.made [.write self.fd chunk.size taken, .close self.fd] } [.cancel]

section

variable {env : AudioEnv} {self next : OssSinkLogic} {kernel : AudioKernel} {chunk : Chunk}
  {pushed : List Chunk} {calls : List AudioCall} {inlet : List InletCall} {fd : Int}

/-- Configuring the device closes it where a request is refused, and opens and plays nothing. -/
theorem configureAudio_spec (fd : Nat) (requests : List AudioRequest) (kernel : AudioKernel) :
    ∃ result calls, configureAudio fd requests kernel = (result, kernel.made calls) ∧
      Ledger.opened calls = [] ∧ playedBy calls = [] ∧
      (result = -1 ∧ Ledger.closed calls = [(fd : Int)] ∨ result = fd ∧ Ledger.closed calls = []) := by
  induction requests generalizing kernel with
  | nil =>
      refine ⟨fd, [], ?_, rfl, rfl, .inr ⟨rfl, rfl⟩⟩
      rw [AudioKernel.made, List.append_nil]
      rfl
  | cons request requests ih =>
      unfold configureAudio
      dsimp only [AudioKernel.ioctl]
      split
      · refine ⟨-1, [.ioctl fd request (kernel.env.ioctlReply kernel.calls fd request), .close fd], ?_,
          rfl, rfl, .inl ⟨rfl, rfl⟩⟩
        rw [AudioKernel.closeDevice, AudioKernel.made_made]
        rfl
      · obtain ⟨result, calls, done, opened, played, closed⟩ := ih (kernel.made [.ioctl fd request
          (kernel.env.ioctlReply kernel.calls fd request)])
        rw [done]
        refine ⟨result, _, by rw [AudioKernel.made_made], ?_, ?_, ?_⟩
        · rw [Ledger.opened_append, opened]
          rfl
        · rw [playedBy_append, played]
          rfl
        · rw [Ledger.closed_append]
          exact closed

/-- Opening the device either leaves one descriptor open or none. -/
theorem openAudioFd_spec (sampleRate sampleSize channels : Int32) (kernel : AudioKernel) :
    ∃ result calls, openAudioFd sampleRate sampleSize channels kernel =
      (result, kernel.made calls) ∧ Opening result calls := by
  unfold openAudioFd
  dsimp only [AudioKernel.openDevice]
  cases kernel.env.openReply kernel.calls with
  | none => exact ⟨-1, _, rfl, .failed rfl rfl⟩
  | some fd =>
      obtain ⟨result, calls, done, opened, played, closed⟩ := configureAudio_spec fd
        [.reset, .samplesize sampleSize, .channels channels, .speed sampleRate, .sync]
        (kernel.made [.open (kernel.env.device.getD audiodev) (some fd)])
      dsimp only
      rw [done, AudioKernel.made_made]
      refine ⟨result, _, rfl, ?_⟩
      rcases closed with ⟨rfl, closed⟩ | ⟨rfl, closed⟩
      · refine .failed ?_ ?_
        · rw [Ledger.opened_append, Ledger.closed_append, opened, closed]
          rfl
        · rw [playedBy_append, played]
          rfl
      · refine .opened ?_ ?_ ?_
        · rw [Ledger.opened_append, opened]
          rfl
        · rw [Ledger.closed_append, closed]
          rfl
        · rw [playedBy_append, played]
          rfl

/-- A write returns something positive exactly if the device has taken a byte. -/
theorem writeChunk_spec (kernel : AudioKernel) (fd : Int) (chunk : Chunk) :
    (kernel.writeChunk fd chunk).1 ≤ 0 ↔
      ∀ bytes, kernel.answer fd chunk = some bytes → bytes = [] := by
  unfold AudioKernel.writeChunk
  cases kernel.answer fd chunk with
  | none =>
      refine iff_of_true (by decide : (-1 : Int) ≤ 0) ?_
      rintro bytes ⟨⟩
  | some bytes =>
      have count : (bytes.length : Int) ≤ 0 ↔ bytes.length = 0 := by omega
      change (bytes.length : Int) ≤ 0 ↔ _
      rw [count, List.length_eq_zero_iff]
      exact ⟨by rintro rfl _ ⟨⟩; rfl, fun none => none bytes rfl⟩

/-- Every push is one of these. -/
theorem ossOnPush_spec (chunk : Chunk) (self : OssSinkLogic) :
    OssPush self chunk (ossOnPush chunk self).1 (ossOnPush chunk self).2 := by
  unfold ossOnPush
  by_cases opens : self.fd ≤ 0 ∧ self.finished = false
  · rw [if_pos opens]
    obtain ⟨fd, calls, done, opening⟩ := openAudioFd_spec chunk.sampleRate
      chunk.sampleSize.toInt32 chunk.channels.toInt32 self.kernel
    rw [done]
    have kept : ({ self with fd := fd, kernel := self.kernel.made calls } : OssSinkLogic) =
        ⟨fd, false, self.kernel.made calls⟩ := by
      rw [← opens.2]
    dsimp only
    rw [kept]
    exact .opening opens.1 opens.2 opening
  · rw [if_neg opens]
    have writes : self.Writes := by
      unfold OssSinkLogic.Writes
      cases finished : self.finished with
      | true => exact .inr rfl
      | false => exact .inl (Int.not_le.mp fun low => opens ⟨low, finished⟩)
    have spec := writeChunk_spec self.kernel self.fd chunk
    dsimp only
    split
    · rename_i nothing
      have refused := spec.mp nothing
      dsimp only [AudioKernel.writeChunk, AudioKernel.closeDevice]
      rw [AudioKernel.made_made]
      refine .refused writes refused ?_
      cases answered : self.kernel.answer self.fd chunk with
      | none => rfl
      | some bytes => exact refused bytes answered
    · rename_i something
      cases answered : self.kernel.answer self.fd chunk with
      | none =>
          refine (something (spec.mpr ?_)).elim
          rw [answered]
          rintro bytes ⟨⟩
      | some bytes =>
          dsimp only [AudioKernel.writeChunk]
          rw [answered]
          refine .played writes answered ?_
          rintro rfl
          refine something (spec.mpr ?_)
          rw [answered]
          rintro _ ⟨⟩
          rfl

/-! ## The ledger -/

/-- A chunk meets a driver that takes its descriptor for none, or a device that refuses it. -/
def Mishap (self : OssSinkLogic) (chunk : Chunk) : Prop :=
  self.finished = false ∧ self.fd = 0 ∨ self.Writes ∧ self.Refused chunk

theorem held_write (fd : Int) (size : Nat) (taken : Option (List UInt8)) (other : Int) :
    Ledger.held [AudioCall.write fd size taken] other = 0 := Ledger.held_of_neutral rfl rfl other

theorem held_close (fd other : Int) :
    Ledger.held [AudioCall.close fd] other = if other = fd then -1 else 0 :=
  Ledger.held_of_closed rfl rfl other

theorem held_refused (size : Nat) (taken : Option (List UInt8)) (fd other : Int) :
    Ledger.held [AudioCall.write fd size taken, .close fd] other = if other = fd then -1 else 0 :=
  Ledger.held_of_closed rfl rfl other

/-- The device is left open exactly where a descriptor is returned. -/
theorem Opening.only (opening : Opening fd calls) : Ledger.Only calls fd := by
  intro other
  cases opening with
  | failed same played =>
      rw [Ledger.held_of_eq same, if_neg fun both => absurd both.2 (by decide)]
  | @opened fd _ opens closed played =>
      rw [Ledger.held_of_opened opens closed]
      exact if_congr (and_iff_left (Int.natCast_nonneg fd)).symm rfl rfl

/-- The driver holds the descriptor it plays on, and nothing else. -/
structure Clean (logic : OssSinkLogic) : Prop where
  running : logic.finished = false
  floor : -1 ≤ logic.fd
  only : Ledger.Only logic.kernel.calls logic.fd

/-- The driver has closed its descriptor and goes on to close it, or has lost the descriptor zero. -/
structure Spoiled (logic : OssSinkLogic) : Prop where
  positive : logic.finished = true → 0 < logic.fd
  held : logic.finished = true ∧ Ledger.held logic.kernel.calls logic.fd ≤ 0 ∨
    (if logic.fd = 0 then 2 else 1) ≤ Ledger.held logic.kernel.calls 0

theorem OssSinkLogic.Writes.positive (writes : self.Writes)
    (positive : self.finished = true → 0 < self.fd) : 0 < self.fd :=
  writes.elim id positive

/-- A push keeps the ledger clean, unless it is a mishap. -/
theorem Clean.push (clean : Clean self) (push : OssPush self chunk next inlet) :
    (¬ Mishap self chunk → Clean next) ∧ (Mishap self chunk → Spoiled next) := by
  cases push with
  | @opening fd calls low running opening =>
      have held : ∀ other, Ledger.held (self.kernel.made calls).calls other =
          (if other = self.fd ∧ 0 ≤ self.fd then 1 else 0) +
            if other = fd ∧ 0 ≤ fd then 1 else 0 := by
        intro other
        rw [AudioKernel.made_calls, Ledger.held_append, clean.only, opening.only]
      constructor
      · intro calm
        have none : self.fd = -1 := by
          have floor := clean.floor
          have nonzero : self.fd ≠ 0 := fun zero => calm (.inl ⟨running, zero⟩)
          omega
        refine ⟨rfl, ?_, fun other => ?_⟩
        · cases opening with
          | failed => exact Int.le_refl _
          | opened => exact Int.le_trans (by decide) (Int.natCast_nonneg _)
        · rw [held, none, if_neg fun both => absurd both.2 (by decide), Int.zero_add]
      · intro mishap
        have zero : self.fd = 0 := by
          rcases mishap with ⟨_, zero⟩ | ⟨high | finished, _⟩
          · exact zero
          · omega
          · cases finished.symm.trans running
        refine ⟨fun finished => Bool.noConfusion finished, .inr ?_⟩
        rw [held, zero]
        by_cases again : fd = 0
        · rw [again]
          exact (by decide : (2 : Int) ≤ 1 + 1)
        · rw [if_neg again, if_neg fun both : (0 : Int) = fd ∧ 0 ≤ fd => again both.1.symm]
          decide
  | @played bytes writes answered some =>
      refine ⟨fun _ => ⟨clean.running, clean.floor, fun other => ?_⟩, fun mishap => ?_⟩
      · rw [AudioKernel.made_calls, Ledger.held_append, held_write, clean.only, Int.add_zero]
      · rcases mishap with ⟨running, zero⟩ | ⟨_, refused⟩
        · rcases writes with high | finished
          · omega
          · cases finished.symm.trans running
        · exact (some (refused bytes answered)).elim
  | @refused taken writes refused none =>
      refine ⟨fun calm => (calm (.inr ⟨writes, refused⟩)).elim, fun _ => ?_⟩
      have high : 0 < self.fd := writes.positive fun finished =>
        Bool.noConfusion (clean.running.symm.trans finished)
      refine ⟨fun _ => high, .inl ⟨rfl, ?_⟩⟩
      rw [AudioKernel.made_calls, Ledger.held_append, clean.only, held_refused, if_pos rfl,
        if_pos ⟨rfl, Int.le_of_lt high⟩]
      decide

/-- What is spoiled stays so. -/
theorem Spoiled.push (spoiled : Spoiled self) (push : OssPush self chunk next inlet) :
    Spoiled next := by
  cases push with
  | @opening fd calls low running opening =>
      refine ⟨fun finished => Bool.noConfusion finished, .inr ?_⟩
      have lost : 1 ≤ Ledger.held self.kernel.calls 0 := by
        rcases spoiled.held with ⟨finished, _⟩ | lost
        · cases finished.symm.trans running
        · split at lost <;> omega
      rw [AudioKernel.made_calls, Ledger.held_append, opening.only]
      by_cases again : fd = 0
      · rw [if_pos again, if_pos ⟨again.symm, Int.le_of_eq again.symm⟩]
        omega
      · rw [if_neg again, if_neg fun both => again both.1.symm]
        omega
  | played writes answered some =>
      refine ⟨spoiled.positive, ?_⟩
      rw [AudioKernel.made_calls, Ledger.held_append, Ledger.held_append, held_write, held_write,
        Int.add_zero, Int.add_zero]
      exact spoiled.held
  | @refused taken writes refused none =>
      have high := writes.positive spoiled.positive
      refine ⟨fun _ => high, ?_⟩
      rw [AudioKernel.made_calls, Ledger.held_append, Ledger.held_append, held_refused, held_refused,
        if_pos rfl, if_neg (Int.ne_of_lt high)]
      rcases spoiled.held with ⟨_, low⟩ | lost
      · refine .inl ⟨rfl, ?_⟩
        change Ledger.held self.kernel.calls self.fd + -1 ≤ 0
        omega
      · refine .inr ?_
        rw [Int.add_zero]
        exact lost

/-- A sink that has just been made is clean. -/
theorem clean_create (env : AudioEnv) : Clean (ossCreateLogic env) where
  running := rfl
  floor := Int.le_refl _
  only := Ledger.only_nil (by decide : (-1 : Int) < 0)

/-- The ledger is clean as long as there was no mishap. -/
theorem ossAfter_ledger (env : AudioEnv) (pushed : List Chunk) :
    Each (fun before chunk => ¬ Mishap (ossAfter env before) chunk) pushed ∧
        Clean (ossAfter env pushed) ∨
      ¬ Each (fun before chunk => ¬ Mishap (ossAfter env before) chunk) pushed ∧
        Spoiled (ossAfter env pushed) := by
  induction pushed using List.reverseRecOn with
  | nil => exact .inl ⟨Each.nil, clean_create env⟩
  | append_singleton pushed chunk ih =>
      have push := ossOnPush_spec chunk (ossAfter env pushed)
      rw [← ossAfter_snoc] at push
      rw [Each.snoc_iff]
      rcases ih with ⟨calm, clean⟩ | ⟨troubled, spoiled⟩
      · by_cases mishap : Mishap (ossAfter env pushed) chunk
        · exact .inr ⟨fun both => both.2 mishap, (clean.push push).2 mishap⟩
        · exact .inl ⟨⟨calm, mishap⟩, (clean.push push).1 mishap⟩
      · exact .inr ⟨fun both => troubled both.1, spoiled.push push⟩

/-- Deallocation releases what a clean driver holds. -/
theorem Clean.released (clean : Clean self) : Ledger.Released (ossDealloc self).calls := by
  unfold ossDealloc
  rw [clean.running]
  by_cases holds : 0 ≤ self.fd
  · rw [if_pos (.inl holds)]
    exact clean.only.released holds rfl rfl
  · rw [if_neg (not_or.mpr ⟨holds, Bool.false_ne_true⟩)]
    exact clean.only.released_of_neg (Int.not_le.mp holds)

/-- A spoiled driver has closed a descriptor too often or never. -/
theorem Spoiled.not_released (spoiled : Spoiled self) :
    ¬ Ledger.Released (ossDealloc self).calls := by
  rw [Ledger.released_iff]
  intro released
  unfold ossDealloc at released
  by_cases closes : 0 ≤ self.fd ∨ self.finished = true
  · have own := released self.fd
    have zero := released 0
    rw [if_pos closes, AudioKernel.closeDevice, AudioKernel.made_calls, Ledger.held_append,
      held_close] at own zero
    rw [if_pos rfl] at own
    rcases spoiled.held with ⟨finished, low⟩ | lost
    · omega
    · by_cases same : self.fd = 0
      · rw [if_pos same] at lost
        rw [if_pos same.symm] at zero
        omega
      · rw [if_neg same] at lost
        rw [if_neg fun equal => same equal.symm] at zero
        omega
  · rw [not_or] at closes
    have zero := released 0
    rw [if_neg (not_or.mpr closes)] at zero
    rcases spoiled.held with ⟨finished, _⟩ | lost
    · exact closes.2 finished
    · split at lost <;> omega

/-- **When the driver releases the device.** Whatever the device answers, once these chunks have been
pushed and the driver has been deallocated, every descriptor has been closed as often as it has been
opened exactly if no chunk was pushed while the driver held the descriptor zero and no write took
nothing. -/
theorem oss_releases_iff (env : AudioEnv) (pushed : List Chunk) :
    Ledger.Released (ossDealloc (ossAfter env pushed)).calls ↔
      Each (fun before chunk => ¬ Mishap (ossAfter env before) chunk) pushed := by
  rcases ossAfter_ledger env pushed with ⟨calm, clean⟩ | ⟨troubled, spoiled⟩
  · exact iff_of_true clean.released calm
  · exact iff_of_false spoiled.not_released troubled

end

end Sas.Client
