import Sas.Foundation.Memory
import Mathlib.Algebra.Ring.Int.Defs
import Mathlib.Algebra.Ring.Nat

/-! # The platform below the program

The programs run on one thread above the kernel and the C library. What they cannot determine
(the answers to their system calls and the contents of uninitialized memory) reaches one call
into the program as an `Env`; what they do to the outside is recorded, in order, as the system
calls of a `Kernel`. An execution that C leaves undefined stops with a `Fault`.
-/

namespace Sas

open Foundation

/-- The ways an execution stops being defined. -/
inductive Fault where
  /-- A null pointer is followed. -/
  | nullPointer
  /-- A freed allocation is read or written. -/
  | useAfterFree (address : Nat)
  /-- A loop does not end. -/
  | diverge
  /-- An array or a copy gets a negative length. -/
  | negativeLength
  /-- An object is read past its end. -/
  | outOfBounds
  deriving DecidableEq, Repr

/-- `struct sockaddr_in6`; the port is kept as its two bytes in network order. -/
structure SockaddrIn6 where
  sin6Family : UInt16
  sin6Port : UInt8 × UInt8
  sin6Flowinfo : UInt32
  sin6Addr : Vector UInt8 16
  sin6ScopeId : UInt32
  deriving DecidableEq, Repr

/-- The answer to `open`: a descriptor, or the value of `errno`. -/
inductive OpenReply where
  | descriptor (fd : Nat)
  | failed (errno : Int32)
  deriving DecidableEq, Repr

/-- The answer to `read`: the bytes read, none of them at the end of the file, or the value of
`errno`. -/
inductive ReadReply where
  | data (bytes : List UInt8)
  | failed (errno : Int32)
  deriving DecidableEq, Repr

/-- No read returns more bytes than were asked for. -/
def ReadReply.atMost (size : Nat) : ReadReply → ReadReply
  | .data bytes => .data (bytes.take size)
  | .failed errno => .failed errno

/-- The bytes a read returned. -/
def ReadReply.bytes : ReadReply → List UInt8
  | .data bytes => bytes
  | .failed _ => []

/-- The bytes returned by a sequence of reads. -/
def bytesRead (replies : List ReadReply) : List UInt8 := replies.flatMap ReadReply.bytes

@[simp] theorem bytesRead_nil : bytesRead [] = [] := rfl

@[simp] theorem bytesRead_cons (reply : ReadReply) (replies : List ReadReply) :
    bytesRead (reply :: replies) = reply.bytes ++ bytesRead replies := List.flatMap_cons

@[simp] theorem bytesRead_append (first second : List ReadReply) :
    bytesRead (first ++ second) = bytesRead first ++ bytesRead second := List.flatMap_append

/-- The outcome of `select`. The socket is the only descriptor watched. -/
inductive Wake where
  | failed (errno : Int32)
  | timedOut
  | readable
  deriving DecidableEq, Repr

/-- The reads return successive pieces of a file, and nothing only at its end. A failed read
moves nothing. -/
def Delivers : List UInt8 → List ReadReply → Prop
  | _, [] => True
  | file, .data bytes :: replies =>
      bytes <+: file ∧ (bytes = [] → file = []) ∧ Delivers (file.drop bytes.length) replies
  | file, .failed _ :: replies => Delivers file replies

namespace Delivers

variable {file : List UInt8} {replies : List ReadReply}

/-- The file is what has been read, followed by what can still be read. -/
theorem of_append {later : List ReadReply} (delivers : Delivers file (replies ++ later)) :
    ∃ rest, file = bytesRead replies ++ rest ∧ Delivers file replies ∧ Delivers rest later := by
  induction replies generalizing file with
  | nil => exact ⟨file, rfl, trivial, delivers⟩
  | cons reply replies ih =>
      cases reply with
      | data bytes =>
          obtain ⟨⟨unread, rfl⟩, ended, delivers⟩ := delivers
          rw [List.drop_left] at delivers
          obtain ⟨rest, rfl, earlier, later⟩ := ih delivers
          refine ⟨rest, by rw [bytesRead_cons, ReadReply.bytes, List.append_assoc],
            ⟨List.prefix_append _ _, ended, ?_⟩, later⟩
          rwa [List.drop_left]
      | failed errno =>
          obtain ⟨rest, same, earlier, later⟩ := ih delivers
          exact ⟨rest, same, earlier, later⟩

/-- What has been read is a prefix of the file. -/
theorem bytesRead_isPrefix (delivers : Delivers file replies) : bytesRead replies <+: file := by
  rw [← List.append_nil replies] at delivers
  obtain ⟨rest, rfl, _⟩ := delivers.of_append
  exact List.prefix_append _ _

/-- Where a read has returned nothing, the whole file has been read. -/
theorem bytesRead_eq (delivers : Delivers file (replies ++ [.data []])) :
    bytesRead replies = file := by
  obtain ⟨rest, rfl, _, _, ended, _⟩ := delivers.of_append
  rw [ended rfl, List.append_nil]

end Delivers

/-- One system call with its answer; a failed `close` or send carries the value of `errno`. -/
inductive Syscall where
  | open (name : List UInt8) (reply : OpenReply)
  | read (fd : Int) (size : Nat) (reply : ReadReply)
  | close (fd : Int) (failure : Option Int32)
  | send (destination : Option SockaddrIn6) (datagram : List UInt8) (failure : Option Int32)
  deriving DecidableEq, Repr

namespace Syscall

/-- The datagram handed to `send` or `sendto`. -/
def datagram? : Syscall → Option (List UInt8)
  | .send _ datagram _ => some datagram
  | _ => none

/-- The answer to a `read`. -/
def readReply? : Syscall → Option ReadReply
  | .read _ _ reply => some reply
  | _ => none

end Syscall

/-- The datagrams handed over by a sequence of system calls, in order. -/
def sentBy (calls : List Syscall) : List (List UInt8) := calls.filterMap Syscall.datagram?

/-- The answers to the reads among a sequence of system calls, in order. -/
def readsBy (calls : List Syscall) : List ReadReply := calls.filterMap Syscall.readReply?

@[simp] theorem sentBy_nil : sentBy [] = [] := rfl

@[simp] theorem sentBy_append (first second : List Syscall) :
    sentBy (first ++ second) = sentBy first ++ sentBy second := List.filterMap_append

@[simp] theorem readsBy_nil : readsBy [] = [] := rfl

@[simp] theorem readsBy_append (first second : List Syscall) :
    readsBy (first ++ second) = readsBy first ++ readsBy second := List.filterMap_append

section

variable (name datagram : List UInt8) (fd : Int) (size : Nat) (destination : Option SockaddrIn6)
  (failure : Option Int32) (opening : OpenReply) (reply : ReadReply) (calls : List Syscall)

@[simp] theorem sentBy_open : sentBy (.open name opening :: calls) = sentBy calls := rfl

@[simp] theorem sentBy_read : sentBy (.read fd size reply :: calls) = sentBy calls := rfl

@[simp] theorem sentBy_close : sentBy (.close fd failure :: calls) = sentBy calls := rfl

@[simp] theorem sentBy_send :
    sentBy (.send destination datagram failure :: calls) = datagram :: sentBy calls := rfl

@[simp] theorem readsBy_open : readsBy (.open name opening :: calls) = readsBy calls := rfl

@[simp] theorem readsBy_read :
    readsBy (.read fd size reply :: calls) = reply :: readsBy calls := rfl

@[simp] theorem readsBy_close : readsBy (.close fd failure :: calls) = readsBy calls := rfl

end

/-- What one call into the program meets outside it. The answer to a system call is looked up
under the number of calls made before it, and so are the previous contents of the memory a
packet or a struct is built in. -/
structure Env where
  openReply : Nat → OpenReply
  readReply : Nat → ReadReply
  closeReply : Nat → Option Int32
  sendReply : Nat → Option Int32
  uninitialized : Nat → Memory

/-- The kernel as seen by the program: the answers it gives, the value of `errno`, and the
calls made so far. -/
structure Kernel where
  env : Env
  errno : Int32
  calls : List Syscall

namespace Kernel

/-- `open(name, O_RDONLY)`. -/
def openFile (kernel : Kernel) (name : List UInt8) : Int × Kernel :=
  let reply := kernel.env.openReply kernel.calls.length
  let kernel := { kernel with calls := kernel.calls ++ [.open name reply] }
  match reply with
  | .descriptor fd => (fd, kernel)
  | .failed errno => (-1, { kernel with errno := errno })

/-- `read(fd, buffer, size)`. -/
def readFile (kernel : Kernel) (fd : Int) (size : Nat) : ReadReply × Kernel :=
  let reply := (kernel.env.readReply kernel.calls.length).atMost size
  let kernel := { kernel with calls := kernel.calls ++ [.read fd size reply] }
  match reply with
  | .data bytes => (.data bytes, kernel)
  | .failed errno => (.failed errno, { kernel with errno := errno })

/-- `close(fd)`. -/
def closeFile (kernel : Kernel) (fd : Int) : Kernel :=
  let failure := kernel.env.closeReply kernel.calls.length
  { kernel with
    errno := failure.getD kernel.errno
    calls := kernel.calls ++ [.close fd failure] }

/-- `sendto` with a destination, `send` without: the result is `errno` on failure, else `0`,
as both session send functions return it. -/
def sendDatagram (kernel : Kernel) (destination : Option SockaddrIn6) (datagram : List UInt8) :
    Int32 × Kernel :=
  let failure := kernel.env.sendReply kernel.calls.length
  (failure.getD 0,
    { kernel with
      errno := failure.getD kernel.errno
      calls := kernel.calls ++ [.send destination datagram failure] })

/-- The previous contents of the memory the next packet is built in. -/
def garbage (kernel : Kernel) : Memory := kernel.env.uninitialized kernel.calls.length

end Kernel

/-- The difference of two numbers as a `size_t`. -/
@[irreducible] def sizeSub (a b : Nat) : Nat := (a + 2 ^ 64 - b) % 2 ^ 64

/-- A difference that is not negative does not wrap. -/
theorem sizeSub_of_le {a b : Nat} (le : b ≤ a) (small : a < 2 ^ 64) : sizeSub a b = a - b := by
  unfold sizeSub
  omega

/-- A negative difference wraps. -/
theorem sizeSub_of_lt {a b : Nat} (lt : a < b) :
    sizeSub a b = a + 2 ^ 64 - b := by
  unfold sizeSub
  omega

/-- `EINVAL`. -/
def einval : Int32 := 22

/-- `ECONNRESET`. -/
def econnreset : Int32 := 104

/-- `ETIMEDOUT`. -/
def etimedout : Int32 := 110

end Sas
