import Sas.Platform

/-! # Chunks of audio

`struct sas_chunk`, as it passes from the WAV source to the session sink of the server and from
the client to its sink.
-/

namespace Sas

open Foundation

/-- `struct sas_chunk`; `buffer` is the memory from the address of the buffer on. -/
structure Chunk where
  size : Nat
  sampleRate : Int32
  sampleSize : Int8
  channels : Int8
  codec : UInt8
  buffer : Memory

end Sas
