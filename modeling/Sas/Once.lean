import Sas.Packet

/-! # Packets accepted once

A session keeps one number, and accepts a packet unless its sequence number is below. As long as the
number behind an accepted packet is the one it keeps next, no packet is accepted twice. The numbers
are those of the protocol only up to the width of a sequence number: behind the last of them the
session starts over.
-/

namespace Sas.Transport

/-- What a session has heard: the packets it has accepted, and the values `ack` had before each. -/
structure Ledger where
  accepted : List PacketHeader
  acks : List UInt32

/-- Nothing has been heard. -/
def Ledger.empty : Ledger := ⟨[], []⟩

/-- The ledger once a packet has been delivered to a session with this `ack`. -/
def Ledger.note (ledger : Ledger) (ack : UInt32) (header : PacketHeader) : Ledger :=
  if header.seq < ack then ledger else ⟨ledger.accepted ++ [header], ledger.acks ++ [ack]⟩

/-- The number behind the last one a packet takes. -/
def PacketHeader.behind (header : PacketHeader) : Nat :=
  header.seq.toNat + max header.length.toNat 1

/-- The packet takes no number behind the last sequence number. -/
def PacketHeader.Fits (header : PacketHeader) : Prop := header.behind < 2 ^ 32

instance (header : PacketHeader) : Decidable header.Fits :=
  inferInstanceAs (Decidable (_ < _))

/-- Two packets have no number in common. -/
def Apart (first second : PacketHeader) : Prop :=
  first.behind ≤ second.seq.toNat ∨ second.behind ≤ first.seq.toNat

/-- With this `ack` a session drops every packet it has accepted; the packets it has accepted share
no numbers, and `ack` has never been greater. -/
structure Ledger.Once (ledger : Ledger) (ack : UInt32) : Prop where
  dropped : ∀ header ∈ ledger.accepted, header.seq < ack
  apart : ledger.accepted.Pairwise Apart
  forward : ∀ earlier ∈ ledger.acks, earlier ≤ ack

/-- The packets accepted so far lie one behind the other below `ack`. -/
structure Ledger.Ordered (ledger : Ledger) (ack : UInt32) : Prop where
  below : ∀ header ∈ ledger.accepted, header.behind ≤ ack.toNat
  apart : ledger.accepted.Pairwise Apart
  forward : ∀ earlier ∈ ledger.acks, earlier ≤ ack

section

variable {ledger : Ledger} {ack : UInt32} {header : PacketHeader}

/-- A packet takes as many numbers as it has bytes, and one if it has none. -/
theorem span_toNat (length : UInt16) : (span length).toNat = max length.toNat 1 := by
  unfold span
  by_cases some : length > 0
  · have positive : 0 < length.toNat := UInt16.lt_iff_toNat_lt.mp some
    rw [if_pos some, UInt16.toNat_toUInt32]
    omega
  · have none : length.toNat = 0 := by
      have zero := Nat.not_lt.mp fun positive => some (UInt16.lt_iff_toNat_lt.mpr positive)
      exact Nat.le_zero.mp zero
    rw [if_neg some, none]
    rfl

/-- A packet ends behind where it starts. -/
theorem seq_lt_behind (header : PacketHeader) : header.seq.toNat < header.behind := by
  unfold PacketHeader.behind
  omega

/-- The next `ack` is the number behind the packet, where that is a sequence number. -/
theorem next_toNat (header : PacketHeader) :
    (header.seq + span header.length).toNat = header.behind % 2 ^ 32 := by
  rw [UInt32.toNat_add, span_toNat]
  rfl

theorem next_toNat_of_fits (fits : header.Fits) :
    (header.seq + span header.length).toNat = header.behind := by
  rw [next_toNat, Nat.mod_eq_of_lt fits]

/-- A packet that does not fit is not below the next `ack`. -/
theorem next_le_of_not_fits (header : PacketHeader) (beyond : ¬ header.Fits) :
    ¬ header.seq < header.seq + span header.length := by
  rw [UInt32.lt_iff_toNat_lt, next_toNat]
  have number := header.seq.toNat_lt
  have length := header.length.toNat_lt
  unfold PacketHeader.Fits at beyond
  unfold PacketHeader.behind at beyond ⊢
  omega

/-- An accepted packet is not behind. -/
theorem ack_le_of_accepted (accepted : Accepted header ack) : ack.toNat ≤ header.seq.toNat :=
  Nat.not_lt.mp fun less => accepted (UInt32.lt_iff_toNat_lt.mpr less)

/-- An empty ledger is ordered. -/
theorem Ledger.ordered_empty (ack : UInt32) : Ledger.empty.Ordered ack :=
  ⟨fun _ none => (List.not_mem_nil none).elim, .nil, fun _ none => (List.not_mem_nil none).elim⟩

/-- A ledger that is ordered has every packet once. -/
theorem Ledger.Ordered.once (ordered : ledger.Ordered ack) : ledger.Once ack where
  dropped header member :=
    UInt32.lt_iff_toNat_lt.mpr
      (Nat.lt_of_lt_of_le (seq_lt_behind header) (ordered.below header member))
  apart := ordered.apart
  forward := ordered.forward

theorem Ledger.note_of_not_accepted (ledger : Ledger) (behind : ¬ Accepted header ack) :
    ledger.note ack header = ledger := if_pos (not_not.mp behind)

theorem Ledger.note_of_accepted (ledger : Ledger) (accepted : Accepted header ack) :
    ledger.note ack header = ⟨ledger.accepted ++ [header], ledger.acks ++ [ack]⟩ :=
  if_neg accepted

/-- A packet that fits keeps the order. -/
theorem Ledger.Ordered.note (ordered : ledger.Ordered ack) (accepted : Accepted header ack)
    (fits : header.Fits) :
    (ledger.note ack header).Ordered (header.seq + span header.length) := by
  have after := ack_le_of_accepted accepted
  have more : ack.toNat ≤ (header.seq + span header.length).toNat := by
    rw [next_toNat_of_fits fits]
    exact Nat.le_of_lt (Nat.lt_of_le_of_lt after (seq_lt_behind header))
  rw [ledger.note_of_accepted accepted]
  refine ⟨fun other member => ?_, ?_, fun earlier member => ?_⟩
  · rcases List.mem_append.mp member with before | last
    · exact Nat.le_trans (ordered.below other before) more
    · rw [List.mem_singleton.mp last, next_toNat_of_fits fits]
  · refine List.pairwise_append.mpr ⟨ordered.apart, List.pairwise_singleton _ _, ?_⟩
    intro other before last member
    rw [List.mem_singleton.mp member]
    exact .inl (Nat.le_trans (ordered.below other before) after)
  · rcases List.mem_append.mp member with before | last
    · exact UInt32.le_iff_toNat_le.mpr
        (Nat.le_trans (UInt32.le_iff_toNat_le.mp (ordered.forward earlier before)) more)
    · rw [List.mem_singleton.mp last]
      exact UInt32.le_iff_toNat_le.mpr more

/-- A session that still drops a packet it has just accepted has accepted one that fits. -/
theorem Ledger.Once.fits (accepted : Accepted header ack)
    (once : (ledger.note ack header).Once (header.seq + span header.length)) : header.Fits := by
  rw [ledger.note_of_accepted accepted] at once
  have dropped := once.dropped header (List.mem_append_right _ (List.mem_singleton_self header))
  exact not_not.mp fun beyond => next_le_of_not_fits header beyond dropped

end

end Sas.Transport
