import MmwaveOs.Protocol

/-!
# Driver State

The records of `drivers/mmwave/mmwave_ld2410.h`: the reading `struct mmwave_data_s`, the
engineering reading `struct mmwave_eng_data_s` and the modelled part of the device
`struct mmwave_dev_s`.

The parser buffer `rxbuf` is a byte list that always has `LD2410_MAX_FRAME_LEN` entries (a
field of `MmwaveDev` says so). Every access to it goes through `MmwaveDev.rd` and
`MmwaveDev.wr`, which answer `none` for an index outside the array: in C that access is
undefined behaviour, so a model function that returns `none` has made one.

Positions are natural numbers updated with the wrap of their C type (`% 2^8` for `rxpos`);
the statistics are `UInt32`, whose increment wraps as `uint32_t` does.
-/

namespace MmwaveOs

/-- `struct mmwave_data_s`: the reading `read()` returns. -/
structure MmwaveData where
  targetState : UInt8
  motionDistance : UInt16
  motionEnergy : UInt8
  staticDistance : UInt16
  staticEnergy : UInt8
  detectionDistance : UInt16
  timestampMs : UInt32
  deriving DecidableEq, Repr

/-- `struct mmwave_eng_data_s`: a reading and the nine per-gate energies of each kind. -/
structure MmwaveEngData where
  basic : MmwaveData
  motionGateEnergy : List UInt8
  staticGateEnergy : List UInt8
  motionGateEnergy_length : motionGateEnergy.length = ld2410MaxGates
  staticGateEnergy_length : staticGateEnergy.length = ld2410MaxGates

/-- The parser states of `mmwave_dev_s.parse_state`. -/
inductive ParseState
  | parseHeader
  | parseLength
  | parsePayload
  | parseTail
  deriving DecidableEq, Repr

/-- `struct mmwave_dev_s` without the UART handle, its path and baud rate and the three
semaphores (the semaphores are modelled by the atomicity of the steps that take them). -/
structure MmwaveDev where
  data : MmwaveData
  engData : MmwaveEngData
  engMode : Bool
  dataValid : Bool
  rxbuf : List UInt8
  rxbuf_length : rxbuf.length = ld2410MaxFrameLen
  rxpos : Nat
  parseState : ParseState
  frameLen : Nat
  framesOk : UInt32
  framesErr : UInt32

/-- What the driver's functions return: `OK`, `-EINVAL`, `-EIO`, or the negative code of a
call that failed inside them. -/
inductive DrvRet
  | ok
  | einval
  | eio
  | err (code : Int)
  deriving DecidableEq, Repr

/-- A `uint32_t` counter after `++`. -/
theorem UInt32.toNat_add_one (c : UInt32) : (c + 1).toNat = (c.toNat + 1) % 2 ^ 32 := by
  rw [UInt32.add_def]; exact BitVec.toNat_add _ _

namespace MmwaveDev

/-- `priv->rxbuf[i] = v` on a valid index. -/
@[simps]
def setRx (d : MmwaveDev) (i : Nat) (v : UInt8) : MmwaveDev :=
  { d with
    rxbuf := d.rxbuf.set i v
    rxbuf_length := by rw [List.length_set]; exact d.rxbuf_length }

/-- The fields outside the parser: the reading, the engineering reading, `eng_mode` and
`data_valid`. -/
def reading (d : MmwaveDev) : MmwaveData × MmwaveEngData × Bool × Bool :=
  (d.data, d.engData, d.engMode, d.dataValid)

/-- A write `priv->rxbuf[i] = v`; `none` is an access outside the array. -/
def wr (d : MmwaveDev) (i : Nat) (v : UInt8) : Option MmwaveDev :=
  if i < ld2410MaxFrameLen then some (d.setRx i v) else none

theorem wr_eq_none_iff (d : MmwaveDev) (i : Nat) (v : UInt8) :
    d.wr i v = none ↔ ld2410MaxFrameLen ≤ i := by
  simp [wr]

theorem wr_of_lt (d : MmwaveDev) {i : Nat} (h : i < ld2410MaxFrameLen) (v : UInt8) :
    d.wr i v = some (d.setRx i v) := by
  simp [wr, h]

end MmwaveDev

/-- A read of `rxbuf[i]`; `none` is an access outside the array. -/
def rd (buf : List UInt8) (i : Nat) : Option UInt8 := buf[i]?

/-- Four bytes from `rxbuf[i]` on, assembled as a little-endian `uint32_t`. -/
def rdLe32 (buf : List UInt8) (i : Nat) : Option Nat := do
  let b0 ← rd buf i
  let b1 ← rd buf (i + 1)
  let b2 ← rd buf (i + 2)
  let b3 ← rd buf (i + 3)
  pure (le32 b0 b1 b2 b3)

theorem rd_eq_none_iff (d : MmwaveDev) (i : Nat) :
    rd d.rxbuf i = none ↔ ld2410MaxFrameLen ≤ i := by
  simp [rd, d.rxbuf_length]

theorem rd_of_lt {buf : List UInt8} {i : Nat} (h : i < buf.length) :
    rd buf i = some (buf.getD i 0) := by
  simp [rd, List.getD_eq_getElem?_getD, h]

/-- The four bytes a valid `rdLe32` reads, as the byte string they form. -/
theorem rdLe32_of_le {buf : List UInt8} {i : Nat} (h : i + 4 ≤ buf.length) :
    ∃ b0 b1 b2 b3, rdLe32 buf i = some (le32 b0 b1 b2 b3) ∧
      (buf.drop i).take 4 = [b0, b1, b2, b3] := by
  refine ⟨_, _, _, _, by simp only [rdLe32, rd_of_lt (show i < buf.length by omega),
    rd_of_lt (show i + 1 < buf.length by omega), rd_of_lt (show i + 2 < buf.length by omega),
    rd_of_lt (show i + 3 < buf.length by omega)]; rfl, ?_⟩
  apply List.ext_getElem?
  intro k
  simp only [List.getElem?_take, List.getElem?_drop]
  rcases k with _ | _ | _ | _ | k <;> simp [List.getD_eq_getElem?_getD]
  all_goals rw [List.getElem?_eq_getElem (by omega)]; rfl


end MmwaveOs
