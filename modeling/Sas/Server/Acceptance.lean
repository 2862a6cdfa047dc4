import Sas.Server.Stream

/-! # What the WAV reader accepts

The header is read over whatever the stack held. The checks look at some of its first twenty-four
bytes, one by one, and the fields copied lie below the thirty-seventh. So a whole header is judged by
the file alone; of a shorter file the reader takes the rest from the stack, unless a byte the file has
is refused already.
-/

namespace Sas.Formats.Wav

open Foundation

/-- What the caller of `sas_formats_wav` sees of the stream: sample rate, sample size, channels. -/
def answer (fd : Int) (kernel : Kernel) : Option (Int32 × Int8 × Int8) :=
  (formatsWav fd kernel).1.map fun source =>
    (source.sampleRate, source.sampleSize, source.channels)

/-- The next read has these bytes to give: a file of which it returns as much as it is asked for. A
failing read has none. -/
def Gives (kernel : Kernel) (file : List UInt8) : Prop :=
  (kernel.env.readReply kernel.calls.length).bytes = file

/-- The answer is a function of the file, and a file shorter than the header is refused. -/
def JudgedByFile (file : List UInt8) : Prop :=
  (∀ fd fd' kernel kernel', Gives kernel file → Gives kernel' file →
    answer fd kernel = answer fd' kernel') ∧
  (file.length < waveHeaderSize → ∀ fd kernel, Gives kernel file → answer fd kernel = none)

/-- The checks let this byte of the header pass. -/
def passes : Nat → UInt8 → Bool
  | 0, byte => byte = 82
  | 1, byte => byte = 73
  | 2, byte => byte = 70
  | 3, byte => byte = 70
  | 8, byte => byte = 87
  | 9, byte => byte = 65
  | 10, byte => byte = 86
  | 11, byte => byte = 69
  | 12, byte => byte = 102
  | 13, byte => byte = 109
  | 14, byte => byte = 116
  | 20, byte => byte = 1
  | 21, byte => byte = 0
  | 22, byte => byte ≤ 2
  | 23, byte => byte = 0
  | _, _ => true

/-- One of the bytes of the file does not pass. -/
def Refused (file : List UInt8) : Prop :=
  ∃ index byte, file[index]? = some byte ∧ passes index byte = false

section

variable {file : List UInt8} {memory memory' : Memory} {kernel : Kernel} {fd : Int}

/-! ## The checks byte by byte -/

/-- A field of two bytes. -/
theorem littleEndian_two (memory : Memory) (offset : Nat) :
    littleEndian ((memory.shift offset).read 2) =
      (memory offset).toNat + 256 * (memory (offset + 1)).toNat := by
  have bytes : (memory.shift offset).read 2 = [memory offset, memory (offset + 1)] := rfl
  rw [bytes]
  simp only [littleEndian, List.reverse_cons, List.reverse_nil, List.nil_append, List.cons_append,
    BigEndian.value, List.length_cons, List.length_nil]
  omega

/-- The two bytes that spell the code of PCM. -/
theorem isPcm_iff (low high : UInt8) :
    UInt16.ofNat (low.toNat + 256 * high.toNat) = pcmCode ↔ low = 1 ∧ high = 0 := by
  have low_lt := low.toNat_lt
  have high_lt := high.toNat_lt
  have small : low.toNat + 256 * high.toNat < 65536 := by omega
  rw [pcmCode, ← UInt16.toNat_inj, ← UInt8.toNat_inj, ← UInt8.toNat_inj,
    UInt16.toNat_ofNat_of_lt' small]
  change low.toNat + 256 * high.toNat = 1 ↔ low.toNat = 1 ∧ high.toNat = 0
  omega

/-- The two bytes that spell a number of channels of two at most. -/
theorem isPlayable_iff (low high : UInt8) :
    ¬ UInt16.ofNat (low.toNat + 256 * high.toNat) > 2 ↔ low ≤ 2 ∧ high = 0 := by
  have low_lt := low.toNat_lt
  have high_lt := high.toNat_lt
  have small : low.toNat + 256 * high.toNat < 65536 := by omega
  rw [gt_iff_lt, UInt16.lt_iff_toNat_lt, UInt8.le_iff_toNat_le, ← UInt8.toNat_inj,
    UInt16.toNat_ofNat_of_lt' small]
  change ¬ 2 < low.toNat + 256 * high.toNat ↔ low.toNat ≤ 2 ∧ high.toNat = 0
  omega

/-- The four checks of `sas_formats_wav`. -/
theorem sourceOf_isSome (header : WaveHeader) : (sourceOf fd header).isSome = true ↔
    header.mainChunk = riff ∧ header.chunkType = wavefmt ∧ header.format = pcmCode ∧
      ¬ header.chans > 2 := by
  unfold sourceOf
  split
  case isTrue text => exact iff_of_false Bool.false_ne_true fun all => text.elim (· all.1) (· all.2.1)
  case isFalse text =>
    rw [not_or, not_not, not_not] at text
    split
    case isTrue code => exact iff_of_false Bool.false_ne_true fun all => code all.2.2.1
    case isFalse code =>
      split
      case isTrue tracks => exact iff_of_false Bool.false_ne_true fun all => all.2.2.2 tracks
      case isFalse tracks => exact iff_of_true rfl ⟨text.1, text.2, not_not.mp code, tracks⟩

/-- The header is accepted exactly if each of its bytes passes. -/
theorem sourceOf_isSome_iff : (sourceOf fd (waveHeader memory)).isSome = true ↔
    ∀ index, passes index (memory index) = true := by
  have main : (waveHeader memory).mainChunk = [memory 0, memory 1, memory 2, memory 3] := rfl
  have type : (waveHeader memory).chunkType = [memory 8, memory 9, memory 10, memory 11, memory 12,
    memory 13, memory 14] := rfl
  have format : (waveHeader memory).format =
    UInt16.ofNat (littleEndian ((memory.shift 20).read 2)) := rfl
  have chans : (waveHeader memory).chans =
    UInt16.ofNat (littleEndian ((memory.shift 22).read 2)) := rfl
  rw [sourceOf_isSome, main, type, format, chans, littleEndian_two, littleEndian_two, isPcm_iff,
    isPlayable_iff, riff, wavefmt]
  simp only [List.cons.injEq, and_true]
  constructor
  · rintro ⟨⟨b0, b1, b2, b3⟩, ⟨b8, b9, b10, b11, b12, b13, b14⟩, ⟨b20, b21⟩, b22, b23⟩ index
    unfold passes
    split <;> first | rfl | exact decide_eq_true (by assumption)
  · intro all
    exact ⟨⟨of_decide_eq_true (all 0), of_decide_eq_true (all 1), of_decide_eq_true (all 2),
        of_decide_eq_true (all 3)⟩,
      ⟨of_decide_eq_true (all 8), of_decide_eq_true (all 9), of_decide_eq_true (all 10),
        of_decide_eq_true (all 11), of_decide_eq_true (all 12), of_decide_eq_true (all 13),
        of_decide_eq_true (all 14)⟩,
      ⟨of_decide_eq_true (all 20), of_decide_eq_true (all 21)⟩,
      of_decide_eq_true (all 22), of_decide_eq_true (all 23)⟩

/-- The checks look at the first bytes only. -/
theorem lt_of_fails {index : Nat} {byte : UInt8} (fails : passes index byte = false) :
    index < 24 := by
  unfold passes at fails
  split at fails <;> first | decide | cases fails

/-! ## Two runs -/

/-- The header that `sas_formats_wav` checks: the bytes of the file over those of the stack. -/
theorem answer_eq (gives : Gives kernel file) :
    answer fd kernel =
      (sourceOf fd (waveHeader (kernel.garbage.write (file.take waveHeaderSize)))).map fun source =>
        (source.sampleRate, source.sampleSize, source.channels) := by
  unfold Gives at gives
  unfold answer formatsWav Kernel.readFile
  cases reply : kernel.env.readReply kernel.calls.length with
  | data bytes =>
      rw [reply] at gives
      change bytes = file at gives
      rw [gives]
      rfl
  | failed errno =>
      rw [reply] at gives
      change [] = file at gives
      rw [← gives]
      rfl

/-- Two headers that agree are answered alike, whatever descriptor they are read from. -/
theorem sourceOf_congr {fd' : Int} {header : WaveHeader} :
    (sourceOf fd header).map (fun source =>
        (source.sampleRate, source.sampleSize, source.channels)) =
      (sourceOf fd' header).map fun source =>
        (source.sampleRate, source.sampleSize, source.channels) := by
  unfold sourceOf
  split
  · rfl
  · split
    · rfl
    · split
      · rfl
      · rfl

/-- A whole header leaves nothing of what was in memory. -/
theorem waveHeader_write (whole : waveHeaderSize ≤ file.length) (memory memory' : Memory) :
    waveHeader (memory.write (file.take waveHeaderSize)) =
      waveHeader (memory'.write (file.take waveHeaderSize)) := by
  have same : ∀ index < waveHeaderSize, memory.write (file.take waveHeaderSize) index =
      memory'.write (file.take waveHeaderSize) index := by
    intro index below
    have inside : index < (file.take waveHeaderSize).length := by
      rw [List.length_take]
      omega
    rw [Memory.write_of_lt memory _ inside, Memory.write_of_lt memory' _ inside]
  have read : ∀ offset size, offset + size ≤ waveHeaderSize →
      ((memory.write (file.take waveHeaderSize)).shift offset).read size =
        ((memory'.write (file.take waveHeaderSize)).shift offset).read size :=
    fun offset size within => Memory.read_congr fun index below => same (offset + index) (by omega)
  have first := read 0 4 (by decide)
  rw [Memory.shift_zero, Memory.shift_zero] at first
  unfold waveHeader
  rw [first, read 8 7 (by decide), read 20 2 (by decide), read 22 2 (by decide),
    read 24 4 (by decide), read 34 2 (by decide)]

/-- A kernel whose next read has this file to give, over this stack. -/
def kernelOn (file : List UInt8) (stack : Memory) : Kernel :=
  ⟨⟨fun _ => .failed 2, fun _ => .data file, fun _ => none, fun _ => none, fun _ => stack⟩, 0, []⟩

/-- A refused file is refused over every stack. -/
theorem answer_of_refused (refused : Refused file) (gives : Gives kernel file) :
    answer fd kernel = none := by
  obtain ⟨index, byte, present, fails⟩ := refused
  rw [answer_eq gives, Option.map_eq_none_iff, ← Option.not_isSome_iff_eq_none,
    sourceOf_isSome_iff]
  intro all
  obtain ⟨inside, same⟩ := List.getElem?_eq_some_iff.mp present
  have early := lt_of_fails fails
  have within : index < (file.take waveHeaderSize).length := by
    rw [List.length_take, waveHeaderSize]
    omega
  have passing := all index
  rw [Memory.write_of_lt _ _ within, List.getElem_take, same, fails] at passing
  cases passing

/-- A short file without a byte that fails is accepted where the stack holds the header of a song. -/
theorem accepted_over_song (short : file.length < waveHeaderSize) (passing : ¬ Refused file) :
    (sourceOf 0 (waveHeader ((Memory.write (fun _ => 0) Server.songHeader).write
      (file.take waveHeaderSize)))).isSome = true := by
  have song : ∀ index, passes index (Memory.write (fun _ => 0) Server.songHeader index) = true :=
    (@sourceOf_isSome_iff _ 0).mp (by decide +kernel)
  rw [sourceOf_isSome_iff]
  intro index
  rw [List.take_of_length_le (le_of_lt short)]
  by_cases inside : index < file.length
  · rw [Memory.write_of_lt _ _ inside]
    by_contra fails
    exact passing ⟨index, file[index], List.getElem?_eq_getElem inside,
      Bool.not_eq_true _ ▸ fails⟩
  · rw [Memory.write_of_le _ _ (not_lt.mp inside)]
    exact song index

/-- **When acceptance depends on the file only.** For every file, the answer is the same over whatever
the stack holds, and a refusal if the file is shorter than the header, exactly if the file has a whole
header or one of its bytes does not pass. -/
theorem judged_by_file_iff (file : List UInt8) :
    JudgedByFile file ↔ waveHeaderSize ≤ file.length ∨ Refused file := by
  constructor
  · intro judged
    by_contra neither
    rw [not_or, not_le] at neither
    obtain ⟨short, passing⟩ := neither
    have refused := judged.2 short 0 (kernelOn file (Memory.write (fun _ => 0) Server.songHeader)) rfl
    have accepted := accepted_over_song short passing
    rw [answer_eq rfl, Option.map_eq_none_iff] at refused
    change sourceOf 0 (waveHeader ((Memory.write (fun _ => 0) Server.songHeader).write
      (file.take waveHeaderSize))) = none at refused
    rw [refused] at accepted
    cases accepted
  · rintro (whole | refused)
    · refine ⟨fun fd fd' kernel kernel' gives gives' => ?_, fun short => absurd whole (by omega)⟩
      rw [answer_eq gives, answer_eq gives', waveHeader_write whole kernel.garbage kernel'.garbage]
      exact sourceOf_congr
    · refine ⟨fun fd fd' kernel kernel' gives gives' => ?_, fun _ fd kernel gives => ?_⟩
      · rw [answer_of_refused refused gives, answer_of_refused refused gives']
      · exact answer_of_refused refused gives

end

/-- The empty file is accepted where the stack holds the header of a song. -/
theorem not_judged_by_file : ¬ ∀ file, JudgedByFile file := by
  intro judged
  have refused := (judged []).2 (by decide) 0
    (kernelOn [] (Memory.write (fun _ => 0) Server.songHeader)) rfl
  exact absurd refused (by decide +kernel)

end Sas.Formats.Wav
