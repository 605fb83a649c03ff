import MmwaveOs.Parser.Resync

/-!
# Sending a Command: `mmwave_send_command`

`mmwave_send_command` builds `FA FB FC FD | payload_len LE | cmd LE | data | 01 02 03 04` in a
64-byte stack array and writes it to the UART. Its guard computes the payload and frame lengths
in `uint16_t`. For a body of at most 52 bytes the bytes written are a well-formed command frame
whose payload is `cmd` followed by the body, and the parser emits it on its last byte
(`sendCommand_frame_parsed`); for 53 to 65523 bytes the frame length exceeds 64 and the call
returns `-EINVAL` (`sendCommand_of_no_wrap`). The callers in the driver pass 0, 2 and 18 bytes.
For 65524 to 65535 bytes the sum wraps to 0..11, the guard passes and the copy of the body runs
past the array (`sendCommand_guard_wraps`).

## Layout
- §1 the stack-array writes, `mmwave_send_command`, `mmwave_enter_config`, `mmwave_exit_config`
- §2 the frame written for a body of at most 52 bytes, and what the parser makes of it
- §3 the guard over the lengths that do not wrap
- §4 the wrapped guard
-/

namespace MmwaveOs

/-! ## §1 The Sender -/

/-- `frame[pos++] = b` for each byte `b` of `src` on the stack array `frame`; `none` when a
write falls outside its `LD2410_MAX_FRAME_LEN` bytes. -/
def putBytes (frame : List UInt8) (pos : Nat) : List UInt8 → Option (List UInt8 × Nat)
  | [] => some (frame, pos)
  | b :: bs => if pos < ld2410MaxFrameLen then putBytes (frame.set pos b) (pos + 1) bs else none

/-- `mmwave_send_command`: the bytes it hands to `write` (`none` when it writes nothing) and
what it returns; `none` when it writes outside `frame` or reads past `data`. `waitRet` is what
`nxsem_wait(&priv->cmd_sem)` returns and `written` what `write` returns. -/
def mmwaveSendCommand (cmd : UInt16) (data : Option (List UInt8)) (datalen : UInt16)
    (waitRet written : Int) : Option (Option (List UInt8) × DrvRet) :=
  let payloadLen : UInt16 := 2 + datalen
  let frameLen : UInt16 := 4 + 2 + payloadLen + 4
  if frameLen.toNat > ld2410MaxFrameLen then some (none, .einval)
  else if waitRet < 0 then some (none, .err waitRet)
  else do
    let (frame, pos) ← putBytes (List.replicate ld2410MaxFrameLen 0) 0
      ([0xFA, 0xFB, 0xFC, 0xFD] ++ le16Bytes payloadLen ++ le16Bytes cmd)
    let (frame, pos) ← match data with
      | some d =>
        if datalen > 0 then
          if datalen.toNat ≤ d.length then putBytes frame pos (d.take datalen.toNat) else none
        else pure (frame, pos)
      | none => pure (frame, pos)
    let (frame, pos) ← putBytes frame pos [0x01, 0x02, 0x03, 0x04]
    pure (some (frame.take pos), if written ≠ (pos : Int) then .eio else .ok)

/-- `mmwave_enter_config`: `LD2410_CMD_ENABLE_CONFIG` with the value `01 00`. -/
def mmwaveEnterConfig (waitRet written : Int) : Option (Option (List UInt8) × DrvRet) :=
  mmwaveSendCommand ld2410CmdEnableConfig (some [0x01, 0x00]) 2 waitRet written

/-- `mmwave_exit_config`: `LD2410_CMD_DISABLE_CONFIG` without data. -/
def mmwaveExitConfig (waitRet written : Int) : Option (Option (List UInt8) × DrvRet) :=
  mmwaveSendCommand ld2410CmdDisableConfig none 0 waitRet written

/-! ## §2 The Frame for a Body of at Most 52 Bytes -/

/-- Writes that stay inside the array append their bytes to what `frame` holds below `pos`. -/
theorem putBytes_of_le {frame : List UInt8} {pos : Nat} {src : List UInt8}
    (hf : frame.length = ld2410MaxFrameLen) (h : pos + src.length ≤ ld2410MaxFrameLen) :
    ∃ frame', putBytes frame pos src = some (frame', pos + src.length) ∧
      frame'.length = ld2410MaxFrameLen ∧
      frame'.take (pos + src.length) = frame.take pos ++ src := by
  induction src generalizing frame pos with
  | nil => exact ⟨frame, rfl, hf, by simp⟩
  | cons b bs ih =>
    simp only [List.length_cons] at h
    obtain ⟨frame', hp, hl, ht⟩ := @ih (frame.set pos b) (pos + 1)
      (by rw [List.length_set, hf]) (by omega)
    refine ⟨frame', ?_, hl, ?_⟩
    · rw [putBytes, if_pos (by omega), hp, List.length_cons, Nat.add_right_comm]; rfl
    · rw [List.length_cons, show pos + (bs.length + 1) = pos + 1 + bs.length by omega, ht,
        take_set_succ (by omega)]
      simp

/-- Writes from inside the array that run past its end are out of bounds. -/
theorem putBytes_of_lt {frame : List UInt8} {pos : Nat} {src : List UInt8}
    (hp : pos ≤ ld2410MaxFrameLen) (h : ld2410MaxFrameLen < pos + src.length) :
    putBytes frame pos src = none := by
  induction src generalizing frame pos with
  | nil => simp at h; omega
  | cons b bs ih =>
    simp only [List.length_cons] at h
    rw [putBytes]
    split_ifs with hlt
    · exact ih (by omega) (by omega)
    · rfl

/-- The command frame of `cmd` with body `data`: its payload is `cmd` little-endian, then
`data`. -/
def cmdFrame (cmd : UInt16) (data : List UInt8) (h : data.length ≤ 52) : WireFrame where
  family := .command
  payload := le16Bytes cmd ++ data
  payload_length_le := by simp [le16Bytes]; omega

/-- Without wrapping, the guard's `frame_len` is `12 + datalen`. -/
theorem frameLen_toNat {n : Nat} (h : n ≤ 52) :
    (4 + 2 + (2 + UInt16.ofNat n) + 4 : UInt16).toNat = 12 + n := by
  simp only [uint16_toNat_add, uint16_toNat_ofNat]; simp [UInt16.size]; omega

/-- For a body of at most 52 bytes `mmwave_send_command` writes the command frame of `cmd`
and the body, `12 + datalen` bytes, and returns `OK` when `write` wrote them all. -/
theorem sendCommand_of_le (cmd : UInt16) (data : List UInt8) (h : data.length ≤ 52)
    {waitRet : Int} (hw : 0 ≤ waitRet) (written : Int) :
    mmwaveSendCommand cmd (some data) (UInt16.ofNat data.length) waitRet written =
      some (some (cmdFrame cmd data h).bytes,
        if written ≠ ((12 + data.length : Nat) : Int) then .eio else .ok) := by
  have hlen : (UInt16.ofNat data.length).toNat = data.length := by
    rw [uint16_toNat_ofNat]; omega
  have hpl : (2 + UInt16.ofNat data.length : UInt16) = UInt16.ofNat (2 + data.length) :=
    UInt16.toNat.inj (by simp only [uint16_toNat_add, uint16_toNat_ofNat]; simp)
  obtain ⟨f₁, h₁, hl₁, ht₁⟩ := putBytes_of_le (List.length_replicate _ (0 : UInt8))
    (show 0 + ([0xFA, 0xFB, 0xFC, 0xFD] ++ le16Bytes (2 + UInt16.ofNat data.length) ++
      le16Bytes cmd).length ≤ ld2410MaxFrameLen by simp [le16Bytes, ld2410MaxFrameLen])
  obtain ⟨f₂, h₂, hl₂, ht₂⟩ := putBytes_of_le hl₁
    (show 0 + 8 + data.length ≤ ld2410MaxFrameLen by unfold ld2410MaxFrameLen; omega)
  obtain ⟨f₃, h₃, -, ht₃⟩ := putBytes_of_le hl₂
    (show 0 + 8 + data.length + [0x01, 0x02, 0x03, 0x04].length ≤ ld2410MaxFrameLen by
      simp only [List.length_cons, List.length_nil, ld2410MaxFrameLen]; omega)
  have e8 : ([0xFA, 0xFB, 0xFC, 0xFD] ++ le16Bytes (2 + UInt16.ofNat data.length) ++
      le16Bytes cmd).length = 8 := rfl
  have e12 : 8 + data.length + [(1 : UInt8), 2, 3, 4].length = 12 + data.length := by
    simp only [List.length_cons, List.length_nil]; omega
  rw [e8, Nat.zero_add] at h₁ ht₁
  rw [Nat.zero_add] at h₂ ht₂ h₃ ht₃
  rw [e12] at h₃ ht₃
  -- the bytes written: header, body, terminator
  have hbytes : f₃.take (12 + data.length) = (cmdFrame cmd data h).bytes := by
    rw [ht₃, ht₂, ht₁, hpl, le16Bytes_ofNat (by omega)]
    simp [cmdFrame, WireFrame.bytes, Family.magic, Family.terminator, cmdMagic, cmdTerminator,
      le16Bytes, Nat.add_comm 2]
  rw [mmwaveSendCommand, if_neg (by rw [frameLen_toNat h]; unfold ld2410MaxFrameLen; omega),
    if_neg (by omega)]
  simp only [h₁, Option.bind_eq_bind, Option.some_bind]
  by_cases hd : UInt16.ofNat data.length > 0
  · rw [if_pos hd, if_pos (by rw [hlen]), hlen, List.take_length, h₂]
    simp only [Option.some_bind, h₃, hbytes]
    rfl
  · have h0 : data = [] := by
      simp only [gt_iff_lt, UInt16.lt_def, BitVec.lt_def] at hd
      exact List.length_eq_zero.mp (by rw [← hlen]; exact Nat.eq_zero_of_not_pos hd)
    subst h0
    rw [if_neg hd]
    simp only [putBytes, Option.some.injEq, Prod.mk.injEq] at h₂
    obtain ⟨rfl, -⟩ := h₂
    simp only [List.length_nil, Nat.add_zero] at h₃ hbytes
    simp only [pure, Option.some_bind, h₃, hbytes]
    rfl

/-- Without data, `mmwave_send_command` sends what it sends for an empty body. -/
theorem sendCommand_none_data (cmd : UInt16) (waitRet written : Int) :
    mmwaveSendCommand cmd none 0 waitRet written =
      mmwaveSendCommand cmd (some []) 0 waitRet written := by
  unfold mmwaveSendCommand; rfl

/-- A send of at most 52 data bytes writes its whole frame or nothing, and returns `OK` only
after writing it. -/
theorem sendCommand_cases (cmd : UInt16) (data : List UInt8) (h : data.length ≤ 52)
    (waitRet written : Int) :
    ∃ out ret, mmwaveSendCommand cmd (some data) (UInt16.ofNat data.length) waitRet written =
        some (out, ret) ∧
      (out = none ∨ out = some (cmdFrame cmd data h).bytes) ∧ (ret = .ok → out ≠ none) := by
  by_cases hw : waitRet < 0
  · refine ⟨none, .err waitRet, ?_, .inl rfl, nofun⟩
    rw [mmwaveSendCommand, if_neg (by rw [frameLen_toNat h]; unfold ld2410MaxFrameLen; omega),
      if_pos hw]
  · exact ⟨_, _, sendCommand_of_le cmd data h (by omega) written, .inr rfl, fun _ => nofun⟩

/-- What `nxsem_wait(&priv->cmd_sem)` and `write` return for one send. -/
structure SendEnv where
  waitRet : Int
  written : Int

/-- What a send of `frame` returns: the error of the wait, `-EIO` when `write` did not write the
whole frame, and `OK` otherwise. -/
def sendOutcome (frame : List UInt8) (e : SendEnv) : DrvRet :=
  if e.waitRet < 0 then .err e.waitRet else if e.written ≠ frame.length then .eio else .ok

theorem sendOutcome_eq_ok {frame : List UInt8} {e : SendEnv} :
    sendOutcome frame e = .ok ↔ 0 ≤ e.waitRet ∧ e.written = frame.length := by
  unfold sendOutcome
  split_ifs <;> simp_all

/-- A send of at most 52 data bytes hands its frame to `write` once the wait succeeded, and
returns `sendOutcome` of that frame. -/
theorem sendCommand_outcome (cmd : UInt16) (data : List UInt8) (h : data.length ≤ 52)
    (e : SendEnv) :
    mmwaveSendCommand cmd (some data) (UInt16.ofNat data.length) e.waitRet e.written =
      some (if e.waitRet < 0 then none else some (cmdFrame cmd data h).bytes,
        sendOutcome (cmdFrame cmd data h).bytes e) := by
  have hl : (cmdFrame cmd data h).bytes.length = 12 + data.length := by
    rw [WireFrame.length_bytes]; simp [cmdFrame]; omega
  by_cases hw : e.waitRet < 0
  · rw [mmwaveSendCommand, if_neg (by rw [frameLen_toNat h]; unfold ld2410MaxFrameLen; omega),
      if_pos hw, if_pos hw, sendOutcome, if_pos hw]
  · rw [sendCommand_of_le cmd data h (by omega), if_neg hw, sendOutcome, if_neg hw, hl]

/-- **What the guard admits without wrapping reaches the parser whole.** For a body of at most
52 bytes `mmwave_send_command` writes `12 + datalen` bytes, the command frame of `cmd` and the
body; fed to a parser seeking a header with an empty window, `mmwave_parse_byte` returns 0 on
each of its bytes but the last and 1 on the last, with `rxbuf` holding the frame. -/
theorem sendCommand_frame_parsed (cmd : UInt16) (data : List UInt8) (h : data.length ≤ 52)
    {waitRet : Int} (hw : 0 ≤ waitRet) (written : Int) {d : MmwaveDev}
    (hs : d.parseState = .parseHeader) (hp : d.rxpos = 0) :
    ∃ ret d', mmwaveSendCommand cmd (some data) (UInt16.ofNat data.length) waitRet written =
        some (some (cmdFrame cmd data h).bytes, ret) ∧
      (cmdFrame cmd data h).bytes.length = 12 + data.length ∧
      mmwaveFeed d (cmdFrame cmd data h).bytes =
        some (d', List.replicate (11 + data.length) none ++ [some (cmdFrame cmd data h).bytes]) := by
  obtain ⟨d', hf⟩ := mmwaveFeed_wireFrame hs hp (cmdFrame cmd data h)
  have hl : (cmdFrame cmd data h).payload.length = 2 + data.length := by
    simp [cmdFrame]
  refine ⟨_, d', sendCommand_of_le cmd data h hw written, ?_, ?_⟩
  · rw [WireFrame.length_bytes, hl]; omega
  · rw [hf, hl, show 9 + (2 + data.length) = 11 + data.length by omega]

/-! ## §3 The Guard without Wrapping -/

/-- A body of 53 to 65523 bytes: `frame_len = 12 + datalen` exceeds 64, and the call returns
`-EINVAL` without writing. -/
theorem sendCommand_of_gt (cmd : UInt16) (data : Option (List UInt8)) {datalen : UInt16}
    (h52 : 52 < datalen.toNat) (hd : datalen.toNat ≤ 65523) (waitRet written : Int) :
    mmwaveSendCommand cmd data datalen waitRet written = some (none, .einval) := by
  rw [mmwaveSendCommand, if_pos]
  simp only [uint16_toNat_add]; simp [UInt16.size, ld2410MaxFrameLen]; omega

/-- **The guard wraps.** For a body of 65524 bytes or more, `payload_len = 2 + datalen` and
`frame_len = 4 + 2 + payload_len + 4` wrap around in `uint16_t` to a frame length of at most 11,
the guard `frame_len > LD2410_MAX_FRAME_LEN` passes, and copying the body writes past the end of
the 64-byte `frame`. -/
theorem sendCommand_guard_wraps (cmd : UInt16) (data : List UInt8) (datalen : UInt16)
    (hd : 65524 ≤ datalen.toNat) (h : data.length = datalen.toNat) {waitRet : Int}
    (hw : 0 ≤ waitRet) (written : Int) :
    (4 + 2 + (2 + datalen) + 4 : UInt16).toNat ≤ 11 ∧
      mmwaveSendCommand cmd (some data) datalen waitRet written = none := by
  have hlt := datalen.toNat_lt_size
  have hframe : (4 + 2 + (2 + datalen) + 4 : UInt16).toNat ≤ 11 := by
    simp only [uint16_toNat_add]; simp only [UInt16.size] at hlt; simp [UInt16.size]; omega
  refine ⟨hframe, ?_⟩
  obtain ⟨f₁, h₁, hl₁, -⟩ := putBytes_of_le (List.length_replicate _ (0 : UInt8))
    (show 0 + ([0xFA, 0xFB, 0xFC, 0xFD] ++ le16Bytes (2 + datalen) ++
      le16Bytes cmd).length ≤ ld2410MaxFrameLen by simp [le16Bytes, ld2410MaxFrameLen])
  have hpos : datalen > 0 := by
    simp only [gt_iff_lt, UInt16.lt_def, BitVec.lt_def]; exact Nat.lt_of_lt_of_le (by decide) hd
  rw [mmwaveSendCommand, if_neg (by unfold ld2410MaxFrameLen; omega), if_neg (by omega)]
  simp only [h₁, Option.bind_eq_bind, Option.some_bind]
  rw [if_pos hpos, if_pos h.ge, putBytes_of_lt (by simp [ld2410MaxFrameLen])
    (by simp [le16Bytes, ld2410MaxFrameLen, h]; omega)]
  rfl

end MmwaveOs
