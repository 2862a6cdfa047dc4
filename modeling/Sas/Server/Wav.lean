import Sas.Chunk
import Sas.Rxc.Pipeline
import Sas.Foundation.BigEndian

/-! # The WAV source

`wav.c`: reading the header of the file, and the source that reads one chunk of at most 1024
bytes for every element pulled. Reading nothing completes the stream, a failed read fails it,
and both close the descriptor.
-/

namespace Sas.Formats.Wav

open Foundation Rxc

/-- `WaveHeader`, without the fields nothing reads. -/
structure WaveHeader where
  mainChunk : List UInt8
  chunkType : List UInt8
  format : UInt16
  chans : UInt16
  sampleFq : UInt32
  bitPSpl : UInt16
  deriving DecidableEq, Repr

/-- `sizeof(WaveHeader)`. -/
def waveHeaderSize : Nat := 44

/-- `RIFF`. -/
def riff : List UInt8 := [82, 73, 70, 70]

/-- `WAVEFMT`, `"WAVEfmt"`. -/
def wavefmt : List UInt8 := [87, 65, 86, 69, 102, 109, 116]

/-- `PCM_CODE`. -/
def pcmCode : UInt16 := 1

/-- The number a field holds in the memory of a little-endian machine. -/
def littleEndian (bytes : List UInt8) : Nat := BigEndian.value bytes.reverse

/-- The struct that lies in memory; `chunk_type` has seven bytes and is followed by one byte of
padding. -/
def waveHeader (memory : Memory) : WaveHeader where
  mainChunk := memory.read 4
  chunkType := (memory.shift 8).read 7
  format := UInt16.ofNat (littleEndian ((memory.shift 20).read 2))
  chans := UInt16.ofNat (littleEndian ((memory.shift 22).read 2))
  sampleFq := UInt32.ofNat (littleEndian ((memory.shift 24).read 4))
  bitPSpl := UInt16.ofNat (littleEndian ((memory.shift 34).read 2))

/-- `struct sas_formats_wav_source`. -/
structure Source where
  fd : Int
  finished : Bool
  sampleRate : Int32
  sampleSize : Int8
  channels : Int8
  deriving DecidableEq, Repr

/-- The source for a header, or nothing where the header is refused. -/
def sourceOf (fd : Int) (header : WaveHeader) : Option Source :=
  if header.mainChunk ≠ riff ∨ header.chunkType ≠ wavefmt then none
  else if header.format ≠ pcmCode then none
  else if header.chans > 2 then none
  else some
    { fd := fd
      finished := false
      sampleRate := header.sampleFq.toInt32
      sampleSize := header.bitPSpl.toUInt8.toInt8
      channels := header.chans.toUInt8.toInt8 }

/-- `sas_formats_wav`: the header is read over whatever the stack held, however many bytes the
read returns. -/
def formatsWav (fd : Int) (kernel : Kernel) : Option Source × Kernel :=
  let stack := kernel.garbage
  let (reply, kernel) := kernel.readFile fd waveHeaderSize
  let memory := match reply with
    | .data bytes => stack.write bytes
    | .failed _ => stack
  (sourceOf fd (waveHeader memory), kernel)

/-- What a running pipeline with a WAV source acts on: the source, the kernel, and what belongs
to the sink. -/
structure World (Rest : Type) where
  source : Source
  kernel : Kernel
  rest : Rest

variable {Rest : Type}

/-- `buffer_size` of `on_pull`. -/
def bufferSize : Nat := 1024

/-- The chunk of `on_pull` around the bytes read into its buffer. -/
def chunkOf (source : Source) (garbage : Memory) (bytes : List UInt8) : Chunk where
  size := bytes.length
  sampleRate := source.sampleRate
  sampleSize := source.sampleSize
  channels := source.channels
  codec := 0
  buffer := garbage.write bytes

/-- `source->finished = 1; close(source->fd);`. -/
def finish (started : Started (World Rest)) : Started (World Rest) :=
  { started with
    world := { started.world with
      source := { started.world.source with finished := true }
      kernel := started.world.kernel.closeFile started.world.source.fd } }

/-- The loop of `on_pull`, with the number of elements still to emit. -/
def onPullLoop (sink : SinkLogic (World Rest) Chunk Unit) : Nat → Action (World Rest)
  | 0, started => .ok started
  | n + 1, started =>
      let source := started.world.source
      let garbage := started.world.kernel.garbage
      let (reply, kernel) := started.world.kernel.readFile source.fd bufferSize
      let started := { started with world := { started.world with kernel := kernel } }
      match reply with
      | .data [] => outletComplete sink (finish started)
      | .failed _ => (outletFail sink () started).map finish
      | .data (byte :: bytes) => do
          let (_, started) ← outletEmit sink (chunkOf source garbage (byte :: bytes)) started
          onPullLoop sink n started

/-- `on_pull`. -/
def onPull (sink : SinkLogic (World Rest) Chunk Unit) (n : Int) : Action (World Rest) :=
  fun started =>
    if started.world.source.finished then outletComplete sink started
    else onPullLoop sink n.toNat started

/-- `on_downstream_finish`. -/
def onDownstreamFinish : Action (World Rest) := .ok

/-- `create_logic`. -/
def createLogic (sink : SinkLogic (World Rest) Chunk Unit) : SourceLogic (World Rest) where
  onPull := onPull sink
  onDownstreamFinish := onDownstreamFinish

/-- `dealloc`: the descriptor is closed again, whether or not the stream has closed it. -/
def dealloc (source : Source) (kernel : Kernel) : Kernel :=
  if source.fd ≥ 0 then kernel.closeFile source.fd else kernel

end Sas.Formats.Wav
