import Mathlib

/-!
# LD2410 Wire Protocol

The constants of `drivers/mmwave/mmwave_ld2410.h` and the little-endian words the driver
assembles from single bytes with shifts and ors.

## Layout
- §1 protocol constants: magic words, buffer size, target states, command words
- §2 little-endian words `le16`, `le32`, computed as the C source computes them, their
  arithmetic form, and the two bytes `(v & 0xFF), ((v >> 8) & 0xFF)` written for a `uint16_t`
- §3 the magic words as byte strings (spec §4.1), so that the header and tail tests of the
  parser become byte comparisons
- §4 well-formed frames: `magic | len LE | payload | terminator` of one family
-/

namespace MmwaveOs

/-! ## §1 Protocol Constants -/

/-- `LD2410_DATA_HEADER`: the data magic `F1 F2 F3 F4` read little-endian. -/
def ld2410DataHeader : Nat := 0xF4F3F2F1
/-- `LD2410_DATA_TAIL`: the data terminator `F5 F6 F7 F8` read little-endian. -/
def ld2410DataTail : Nat := 0xF8F7F6F5
/-- `LD2410_CMD_HEADER`: the command magic `FA FB FC FD` read little-endian. -/
def ld2410CmdHeader : Nat := 0xFDFCFBFA
/-- `LD2410_CMD_TAIL`: the command terminator `01 02 03 04` read little-endian. -/
def ld2410CmdTail : Nat := 0x04030201

/-- `LD2410_MAX_FRAME_LEN`: the size of the parser buffer `rxbuf` and of the command
buffer of `mmwave_send_command`. -/
def ld2410MaxFrameLen : Nat := 64

/-- `LD2410_MAX_GATES`: the number of range gates (0-8). -/
def ld2410MaxGates : Nat := 9

def ld2410TargetNone : UInt8 := 0x00
def ld2410TargetMotion : UInt8 := 0x01
def ld2410TargetStatic : UInt8 := 0x02
def ld2410TargetBoth : UInt8 := 0x03

def ld2410CmdEnableConfig : UInt16 := 0x00FF
def ld2410CmdDisableConfig : UInt16 := 0x00FE
def ld2410CmdSetMaxgate : UInt16 := 0x0060
def ld2410CmdSetSensitivity : UInt16 := 0x0064
def ld2410CmdFactoryReset : UInt16 := 0x00A2
def ld2410CmdRestart : UInt16 := 0x00A3
def ld2410CmdEngModeOn : UInt16 := 0x0062
def ld2410CmdEngModeOff : UInt16 := 0x0063

/-! ## §2 Little-Endian Words -/

/-- An or with a value shifted past the bits of the other operand is a sum. -/
theorem or_shiftLeft_eq_add {a b n : Nat} (h : a < 2 ^ n) :
    a ||| (b <<< n) = a + 2 ^ n * b := by
  apply Nat.eq_of_testBit_eq
  intro j
  rw [Nat.testBit_or, Nat.testBit_shiftLeft, Nat.add_comm, Nat.testBit_mul_pow_two_add b h]
  by_cases hj : j < n
  · simp [hj]
  · have : a.testBit j = false :=
      Nat.testBit_lt_two_pow (lt_of_lt_of_le h (Nat.pow_le_pow_right (by omega) (by omega)))
    simp [hj, this]; omega

/-- `(uint16_t)lo | ((uint16_t)hi << 8)`. -/
def le16 (lo hi : UInt8) : Nat := lo.toNat ||| (hi.toNat <<< 8)

/-- `(uint32_t)b0 | ((uint32_t)b1 << 8) | ((uint32_t)b2 << 16) | ((uint32_t)b3 << 24)`. -/
def le32 (b0 b1 b2 b3 : UInt8) : Nat :=
  b0.toNat ||| (b1.toNat <<< 8) ||| (b2.toNat <<< 16) ||| (b3.toNat <<< 24)

theorem le16_eq (lo hi : UInt8) : le16 lo hi = lo.toNat + 256 * hi.toNat :=
  or_shiftLeft_eq_add (n := 8) lo.toNat_lt_size

theorem le16_lt (lo hi : UInt8) : le16 lo hi < 65536 := by
  have := lo.toNat_lt_size; have := hi.toNat_lt_size
  simp only [le16_eq]; simp only [UInt8.size] at *; omega

theorem le32_eq (b0 b1 b2 b3 : UInt8) :
    le32 b0 b1 b2 b3 =
      b0.toNat + 256 * b1.toNat + 65536 * b2.toNat + 16777216 * b3.toNat := by
  have h0 := b0.toNat_lt_size; have h1 := b1.toNat_lt_size; have h2 := b2.toNat_lt_size
  simp only [UInt8.size] at h0 h1 h2
  unfold le32
  rw [or_shiftLeft_eq_add (n := 8) (by omega), or_shiftLeft_eq_add (n := 16) (by omega),
    or_shiftLeft_eq_add (n := 24) (by omega)]
  norm_num

/-- Two 32-bit words read from bytes agree exactly when the bytes do. -/
theorem le32_inj {b0 b1 b2 b3 c0 c1 c2 c3 : UInt8} :
    le32 b0 b1 b2 b3 = le32 c0 c1 c2 c3 ↔ [b0, b1, b2, b3] = [c0, c1, c2, c3] := by
  constructor
  · intro h
    have := b0.toNat_lt_size; have := b1.toNat_lt_size; have := b2.toNat_lt_size
    have := b3.toNat_lt_size; have := c0.toNat_lt_size; have := c1.toNat_lt_size
    have := c2.toNat_lt_size; have := c3.toNat_lt_size
    simp only [le32_eq, UInt8.size] at *
    simp only [List.cons.injEq, and_true]
    exact ⟨UInt8.toNat.inj (by omega), UInt8.toNat.inj (by omega),
      UInt8.toNat.inj (by omega), UInt8.toNat.inj (by omega)⟩
  · intro h
    simp only [List.cons.injEq, and_true] at h
    obtain ⟨rfl, rfl, rfl, rfl⟩ := h
    rfl

/-- `uint16_t` addition wraps. -/
theorem uint16_toNat_add (a b : UInt16) : (a + b).toNat = (a.toNat + b.toNat) % 2 ^ 16 := by
  rw [UInt16.add_def]; exact BitVec.toNat_add _ _

theorem uint16_toNat_ofNat (n : Nat) : (UInt16.ofNat n).toNat = n % 2 ^ 16 := by
  simp [UInt16.ofNat, UInt16.toNat]

/-- The two bytes `(uint8_t)(v & 0xFF), (uint8_t)((v >> 8) & 0xFF)` a builder writes for a
`uint16_t`. -/
def le16Bytes (v : UInt16) : List UInt8 := [(v &&& 0xFF).toUInt8, ((v >>> 8) &&& 0xFF).toUInt8]

@[simp] theorem length_le16Bytes (v : UInt16) : (le16Bytes v).length = 2 := rfl

theorem toNat_shiftRight_eight (v : UInt16) : (v >>> 8).toNat = v.toNat / 256 := by
  show (v.toBitVec >>> (UInt16.mod 8 16).toBitVec).toNat = _
  simp [UInt16.toNat, Nat.shiftRight_eq_div_pow]
  rfl

theorem toNat_and_0xFF (v : UInt16) : (v &&& 0xFF).toNat = v.toNat % 256 := by
  show (v.toBitVec &&& (0xFF : UInt16).toBitVec).toNat = _
  rw [BitVec.toNat_and]
  exact Nat.and_pow_two_sub_one_eq_mod _ 8

theorem toNat_toUInt8 (v : UInt16) : v.toUInt8.toNat = v.toNat % 256 := by
  simp [UInt16.toUInt8, UInt8.toNat, Nat.toUInt8, UInt8.ofNat]

/-- The decoder's `(uint16_t)lo | ((uint16_t)hi << 8)` undoes the builders' split. -/
theorem ofNat_le16_le16Bytes (v : UInt16) :
    UInt16.ofNat (le16 (v &&& 0xFF).toUInt8 ((v >>> 8) &&& 0xFF).toUInt8) = v := by
  have hv := v.toNat_lt_size
  simp only [UInt16.size] at hv
  have hsplit : le16 (v &&& 0xFF).toUInt8 ((v >>> 8) &&& 0xFF).toUInt8 = v.toNat := by
    rw [le16_eq, toNat_toUInt8, toNat_toUInt8, toNat_and_0xFF, toNat_and_0xFF,
      toNat_shiftRight_eight]
    omega
  rw [hsplit]; simp [UInt16.ofNat, UInt16.toNat]

/-! ## §3 Magic Words as Byte Strings -/

/-- The data magic `F1 F2 F3 F4` (spec §4.1). -/
def dataMagic : List UInt8 := [0xF1, 0xF2, 0xF3, 0xF4]
/-- The data terminator `F5 F6 F7 F8`. -/
def dataTerminator : List UInt8 := [0xF5, 0xF6, 0xF7, 0xF8]
/-- The command magic `FA FB FC FD`. -/
def cmdMagic : List UInt8 := [0xFA, 0xFB, 0xFC, 0xFD]
/-- The command terminator `01 02 03 04`. -/
def cmdTerminator : List UInt8 := [0x01, 0x02, 0x03, 0x04]

/-- A byte string of four bytes is one of the two magics. -/
def isMagic (w : List UInt8) : Bool := w == dataMagic || w == cmdMagic

/-- The terminator `t` closes the family the magic `m` opened. -/
def tailMatches (m t : List UInt8) : Bool :=
  (m == dataMagic && t == dataTerminator) || (m == cmdMagic && t == cmdTerminator)

theorem le32_dataHeader {b0 b1 b2 b3 : UInt8} :
    le32 b0 b1 b2 b3 = ld2410DataHeader ↔ [b0, b1, b2, b3] = dataMagic :=
  show _ = le32 0xF1 0xF2 0xF3 0xF4 ↔ _ from le32_inj

theorem le32_cmdHeader {b0 b1 b2 b3 : UInt8} :
    le32 b0 b1 b2 b3 = ld2410CmdHeader ↔ [b0, b1, b2, b3] = cmdMagic :=
  show _ = le32 0xFA 0xFB 0xFC 0xFD ↔ _ from le32_inj

theorem le32_dataTail {b0 b1 b2 b3 : UInt8} :
    le32 b0 b1 b2 b3 = ld2410DataTail ↔ [b0, b1, b2, b3] = dataTerminator :=
  show _ = le32 0xF5 0xF6 0xF7 0xF8 ↔ _ from le32_inj

theorem le32_cmdTail {b0 b1 b2 b3 : UInt8} :
    le32 b0 b1 b2 b3 = ld2410CmdTail ↔ [b0, b1, b2, b3] = cmdTerminator :=
  show _ = le32 0x01 0x02 0x03 0x04 ↔ _ from le32_inj

/-- The parser's header test `header == DATA_HEADER || header == CMD_HEADER` is `isMagic`. -/
theorem le32_isMagic (b0 b1 b2 b3 : UInt8) :
    (le32 b0 b1 b2 b3 = ld2410DataHeader ∨ le32 b0 b1 b2 b3 = ld2410CmdHeader) ↔
      isMagic [b0, b1, b2, b3] = true := by
  simp only [le32_dataHeader, le32_cmdHeader, isMagic, Bool.or_eq_true, beq_iff_eq]

/-- The parser's tail test `tail_ok` is `tailMatches` of the header and tail bytes. -/
theorem le32_tailOk (h0 h1 h2 h3 t0 t1 t2 t3 : UInt8) :
    ((le32 h0 h1 h2 h3 == ld2410DataHeader && le32 t0 t1 t2 t3 == ld2410DataTail) ||
      (le32 h0 h1 h2 h3 == ld2410CmdHeader && le32 t0 t1 t2 t3 == ld2410CmdTail)) =
      tailMatches [h0, h1, h2, h3] [t0, t1, t2, t3] := by
  rw [Bool.eq_iff_iff]
  simp only [Bool.or_eq_true, Bool.and_eq_true, beq_iff_eq, le32_dataHeader, le32_cmdHeader,
    le32_dataTail, le32_cmdTail, tailMatches]

/-! ## §4 Well-Formed Frames -/

/-- The two frame families of spec §4.1. -/
inductive Family
  | data
  | command
  deriving DecidableEq, Repr

def Family.magic : Family → List UInt8
  | .data => dataMagic
  | .command => cmdMagic

def Family.terminator : Family → List UInt8
  | .data => dataTerminator
  | .command => cmdTerminator

/-- A well-formed frame: a family and a payload of at most `LD2410_MAX_FRAME_LEN - 10` bytes. -/
structure WireFrame where
  family : Family
  payload : List UInt8
  payload_length_le : payload.length ≤ 54

/-- The little-endian bytes of a 16-bit length. -/
def lenBytes (n : Nat) : List UInt8 := [UInt8.ofNat (n % 256), UInt8.ofNat (n / 256 % 256)]

/-- `magic[4] | len[2 LE] | payload[len] | terminator[4]`. -/
def WireFrame.bytes (f : WireFrame) : List UInt8 :=
  f.family.magic ++ lenBytes f.payload.length ++ f.payload ++ f.family.terminator

theorem le16_lenBytes {n : Nat} (h : n < 65536) :
    le16 (UInt8.ofNat (n % 256)) (UInt8.ofNat (n / 256 % 256)) = n := by
  rw [le16_eq, UInt8.toNat_ofNat_of_lt (by simp [UInt8.size]; omega),
    UInt8.toNat_ofNat_of_lt (by simp [UInt8.size]; omega)]
  omega

/-- The length bytes a builder writes for a `uint16_t` length are those of `lenBytes`. -/
theorem le16Bytes_ofNat {n : Nat} (h : n < 65536) : le16Bytes (UInt16.ofNat n) = lenBytes n := by
  have hn : (UInt16.ofNat n).toNat = n := by simp [UInt16.ofNat, UInt16.toNat, Nat.mod_eq_of_lt h]
  simp only [le16Bytes, lenBytes, List.cons.injEq, and_true]
  constructor <;> apply UInt8.toNat.inj <;>
    simp only [toNat_toUInt8, toNat_and_0xFF, toNat_shiftRight_eight, hn] <;>
    rw [UInt8.toNat_ofNat_of_lt (by simp [UInt8.size]; omega)] <;> omega

theorem WireFrame.length_bytes (f : WireFrame) : f.bytes.length = 10 + f.payload.length := by
  cases h : f.family <;> simp [WireFrame.bytes, h, Family.magic, Family.terminator, dataMagic,
    cmdMagic, dataTerminator, cmdTerminator, lenBytes] <;> omega

end MmwaveOs
