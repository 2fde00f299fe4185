import Mathlib.Logic.Function.Basic
import DiyPs3Controller.Tools.LatencyResults

/-!
# The serial benchmark

The benchmark writes packets of random bytes to one serial port, reads them back
from another one and compares them. The size of a packet is an `unsigned int` of
the command line, while the loops that fill and compare a packet count with an
`unsigned char`.
-/

namespace DiyPs3Controller.SerialBench

open Loops

/-! ## The command line -/

/-- The baud rates of `termios` that the benchmark offers. -/
inductive Baudrate
  | b500000 | b1000000 | b1500000 | b2000000 | b3000000 | b4000000
  deriving DecidableEq, Repr

/-- An option as `getopt` gives it, with the value of `atoi(optarg)`. -/
inductive Flag
  | b (optarg : U32)
  | n (optarg : U32)
  | s (optarg : U32)
  | other
  deriving DecidableEq, Repr

/-- The variables that `read_args` sets. No baud rate stands for 0. -/
structure Args where
  baudrate : Option Baudrate
  rate : U32
  samples : U32
  packetSize : U32
  deriving DecidableEq, Repr

def Args.init : Args := ⟨none, 0#32, 0#32, 0#32⟩

/-- The inner `switch`. -/
def baudrateOf (rate : U32) : Option Baudrate :=
  if rate = 500000#32 then some .b500000
  else if rate = 1000000#32 then some .b1000000
  else if rate = 1500000#32 then some .b1500000
  else if rate = 2000000#32 then some .b2000000
  else if rate = 3000000#32 then some .b3000000
  else if rate = 4000000#32 then some .b4000000
  else none

/-- One round of the `while` of `read_args`, none when `usage` exits. -/
def readArg (a : Args) : Flag → Option Args
  | .b optarg => (baudrateOf optarg).map fun baudrate =>
      { a with rate := optarg, baudrate := some baudrate }
  | .n optarg => some { a with samples := optarg }
  | .s optarg => some { a with packetSize := optarg }
  | .other => none

/-- `read_args`, from the initial values of the variables. -/
def readArgs (argv : List Flag) : Option Args := argv.foldlM readArg Args.init

/-- The command lines with which `main` goes on to its loop. -/
def accept (argv : List Flag) : Option Args :=
  (readArgs argv).filter fun a =>
    a.baudrate.isSome && a.samples != 0#32 && a.packetSize != 0#32

/-! ## The loops over a packet -/

/-- `"read error: received=%d, expected=%d\n"` -/
structure ReadError where
  received : U8
  expected : U8
  deriving DecidableEq, Repr

/-- The variables of the main loop: the counter, the two buffers, how often `rand`
was called and what was printed. -/
structure Bench where
  i : U8
  buf : Nat → U8
  buf2 : Nat → U8
  rands : Nat
  printed : List ReadError

/-- `i = 0` -/
def Bench.restart (b : Bench) : Bench := { b with i := 0#8 }

/-- `i < packet_size` -/
def inPacket (packetSize : U32) (b : Bench) : Prop := b.i.toNat < packetSize.toNat

/-- `buf[i] = rand() % 255` and `++i`. -/
def fillByte (rand : Nat → Nat) (b : Bench) : Bench where
  i := b.i + 1#8
  buf := Function.update b.buf b.i.toNat (BitVec.ofNat 8 (rand b.rands % 255))
  buf2 := b.buf2
  rands := b.rands + 1
  printed := b.printed

/-- What `read` has put into `buf2`. -/
def receive (packetSize : U32) (received : Nat → U8) (b : Bench) : Bench :=
  { b with buf2 := fun k => if k < packetSize.toNat then received k else b.buf2 k }

/-- The comparison of one byte and `++i`. -/
def compareByte (b : Bench) : Bench where
  i := b.i + 1#8
  buf := b.buf
  buf2 := b.buf2
  rands := b.rands
  printed :=
    if b.buf2 b.i.toNat ≠ b.buf b.i.toNat then
      b.printed ++ [⟨b.buf2 b.i.toNat, b.buf b.i.toNat⟩]
    else b.printed

/-- The packet that was sent and what came back, when the comparison starts. -/
def toCompare (packetSize : U32) (rand : Nat → Nat) (received : Nat → U8) (b : Bench) : Bench :=
  (receive packetSize received ((fillByte rand)^[packetSize.toNat] b.restart)).restart

/-- The loop ends after `packet_size` rounds and is at index `k` in round `k`. -/
structure Visits (packetSize : U32) (body : Bench → Bench) (b : Bench) : Prop where
  rounds : LeftAfter (inPacket packetSize) body b packetSize.toNat
  index : ∀ k < packetSize.toNat, (body^[k] b).i.toNat = k

/-- Both loops handle every index of the packet once, and every byte that differs
is reported. -/
structure Handles (packetSize : U32) (rand : Nat → Nat) (received : Nat → U8) (b : Bench) :
    Prop where
  fill : Visits packetSize (fillByte rand) b.restart
  compare : Visits packetSize compareByte (toCompare packetSize rand received b)
  reported : ∀ k < packetSize.toNat,
    received k ≠ (toCompare packetSize rand received b).buf k →
      ⟨received k, (toCompare packetSize rand received b).buf k⟩ ∈
        (compareByte^[packetSize.toNat] (toCompare packetSize rand received b)).printed

/-! ## What the loops do -/

section Loops
variable {packetSize : U32} {rand : Nat → Nat} {received : Nat → U8} {b : Bench}

theorem fillByte_i (rand : Nat → Nat) (b : Bench) : (fillByte rand b).i = b.i + 1#8 := rfl

theorem compareByte_i (b : Bench) : (compareByte b).i = b.i + 1#8 := rfl

/-- A loop that counts the counter up covers a packet exactly if the counter can
reach its size. -/
theorem visits_iff {body : Bench → Bench} (count : ∀ b, (body b).i = b.i + 1#8)
    (start : b.i = 0#8) : Visits packetSize body b ↔ packetSize.toNat ≤ 255 := by
  have hrounds : LeftAfter (inPacket packetSize) body b packetSize.toNat ↔ packetSize.toNat < 256 :=
    leftAfter_bound_iff count start fun _ => Iff.rfl
  constructor
  · intro h
    exact Nat.le_of_lt_succ (hrounds.mp h.rounds)
  · intro hsize
    refine ⟨hrounds.mpr (Nat.lt_succ_of_le hsize), ?_⟩
    intro k hk
    exact counter_toNat count start (by omega)

/-- From 256 bytes on the first loop is never left. -/
theorem fill_endless (hsize : 256 ≤ packetSize.toNat) :
    Endless (inPacket packetSize) (fillByte rand) b :=
  @endless_of_le _ _ _ 8 _ Bench.i (fun _ => Iff.rfl) hsize _

theorem compare_buffers (k : Nat) :
    (compareByte^[k] b).buf = b.buf ∧ (compareByte^[k] b).buf2 = b.buf2 := by
  induction k with
  | zero => exact ⟨rfl, rfl⟩
  | succ k ih =>
      rw [Function.iterate_succ_apply']
      exact ih

/-- The reports are the differing bytes, in the order of the packet. -/
theorem compare_printed (start : b.i = 0#8) {k : Nat} (hk : k ≤ 256) :
    (compareByte^[k] b).printed =
      b.printed ++ ((List.range k).filter fun j => b.buf2 j ≠ b.buf j).map
        fun j => ⟨b.buf2 j, b.buf j⟩ := by
  induction k with
  | zero => simp
  | succ k ih =>
      have hi : (compareByte^[k] b).i.toNat = k := counter_toNat compareByte_i start (by omega)
      obtain ⟨hbuf, hbuf2⟩ := @compare_buffers b k
      rw [Function.iterate_succ_apply', List.range_succ, List.filter_append, List.map_append,
        ← List.append_assoc, ← ih (by omega)]
      simp only [compareByte, hi, hbuf, hbuf2]
      by_cases hdiffers : b.buf2 k = b.buf k
      · simp [hdiffers]
      · simp [hdiffers]

theorem toCompare_buf2 {k : Nat} (hk : k < packetSize.toNat) :
    (toCompare packetSize rand received b).buf2 k = received k :=
  if_pos hk

/-- With a size that fits the counter every differing byte is reported. -/
theorem reported_of_le (hsize : packetSize.toNat ≤ 255) {k : Nat} (hk : k < packetSize.toNat)
    (differs : received k ≠ (toCompare packetSize rand received b).buf k) :
    ⟨received k, (toCompare packetSize rand received b).buf k⟩ ∈
      (compareByte^[packetSize.toNat] (toCompare packetSize rand received b)).printed := by
  have hprinted := compare_printed (b := toCompare packetSize rand received b) rfl
    (k := packetSize.toNat) (by omega)
  rw [hprinted]
  apply List.mem_append_right
  apply List.mem_map.mpr
  refine ⟨k, List.mem_filter.mpr ⟨List.mem_range.mpr hk, ?_⟩, ?_⟩
  · rw [toCompare_buf2 hk]
    exact decide_eq_true differs
  · rw [toCompare_buf2 hk]

end Loops

/-- The sizes that `main` goes on with are those from 1 on. -/
theorem accept_iff (size : U32) :
    (∃ argv a, accept argv = some a ∧ a.packetSize = size) ↔ size ≠ 0#32 := by
  constructor
  · rintro ⟨argv, a, haccept, rfl⟩
    have hchecks := (Option.filter_eq_some_iff.mp haccept).2
    simp only [Bool.and_eq_true, bne_iff_ne] at hchecks
    exact hchecks.2
  · intro hsize
    have hread : readArgs [.b 500000#32, .n 1#32, .s size] =
        some ⟨some .b500000, 500000#32, 1#32, size⟩ := rfl
    refine ⟨[.b 500000#32, .n 1#32, .s size], ⟨some .b500000, 500000#32, 1#32, size⟩, ?_, rfl⟩
    rw [accept, hread]
    exact Option.filter_some_pos (by simp [hsize])

/-- The benchmark handles packets of up to 255 bytes, and only those. -/
theorem handles_iff (packetSize : U32) (rand : Nat → Nat) (received : Nat → U8) (b : Bench) :
    Handles packetSize rand received b ↔ packetSize.toNat ≤ 255 := by
  constructor
  · intro h
    exact (visits_iff (fillByte_i rand) rfl).mp h.fill
  · intro hsize
    refine ⟨(visits_iff (fillByte_i rand) rfl).mpr hsize,
      (visits_iff compareByte_i rfl).mpr hsize, ?_⟩
    intro k hk differs
    exact reported_of_le hsize hk differs

/-- With `-s 256` the loop that fills the packet is never left. -/
theorem packet256_not_handled :
    accept [.b 500000#32, .n 1#32, .s 256#32] =
        some ⟨some .b500000, 500000#32, 1#32, 256#32⟩ ∧
      Endless (inPacket 256#32) (fillByte id) ⟨0#8, fun _ => 0#8, fun _ => 0#8, 0, []⟩ ∧
      ¬Handles 256#32 id (fun _ => 0#8) ⟨0#8, fun _ => 0#8, fun _ => 0#8, 0, []⟩ := by
  refine ⟨rfl, fill_endless (by decide), ?_⟩
  intro h
  have hsize := (visits_iff (fillByte_i id) rfl).mp h.fill
  exact absurd hsize (by decide)

end DiyPs3Controller.SerialBench
