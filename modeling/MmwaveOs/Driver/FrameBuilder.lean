import MmwaveOs.Driver.DataFrame
import MmwaveOs.Parser.Resync

/-!
# The Test Frame Builders through the Poll Loop

`tests/helpers/frame_builder.h` builds the frames the decoder tests use: `build_data_frame`, an
11-byte payload of type `0x02`, and `build_eng_frame`, a 29-byte payload of type `0x01` that
carries nine motion and nine static gate energies after the reading. This module feeds them to
`mmwave_poll_task`'s loop from a parser seeking a header, as the driver receives them: the loop
decodes a well-formed frame on its last byte and on no other (`pollTask_wireFrame`). Every
field of a built data frame comes back (`pollTask_buildDataFrame`), and of an engineering frame
the reading and all nine motion gates; the static loop stops at `i < frame_len - 24 = 5`, so of
the static gates only the first five come back and the last four keep what the engineering
reading held before (`pollTask_buildEngFrame`).

The decoder reads the payload at fixed offsets whatever the frame's length: a command frame of
two payload bytes `02 AA` that follows a data frame is decoded from its own terminator and the
bytes the data frame left in `rxbuf` (`short_frame_decoded_from_stale_bytes`).

## Layout
- §1 the builders, as well-formed frames
- §2 the decoder on a built frame
- §3 the poll loop on a well-formed frame, and on the built frames
- §4 a short frame decoded from stale bytes
-/

namespace MmwaveOs

/-! ## §1 The Builders -/

/-- `build_data_frame`: the bytes it writes, as many as it returns. -/
def buildDataFrame (targetState : UInt8) (motionDist : UInt16) (motionEnergy : UInt8)
    (staticDist : UInt16) (staticEnergy : UInt8) (detectDist : UInt16) : List UInt8 :=
  dataMagic ++ le16Bytes 11 ++ [0x02, 0xAA, targetState] ++ le16Bytes motionDist ++
    [motionEnergy] ++ le16Bytes staticDist ++ [staticEnergy] ++ le16Bytes detectDist ++
    dataTerminator

/-- `build_eng_frame`: the bytes it writes, as many as it returns; `motionGates` and
`staticGates` are the two nine-byte arrays it copies. -/
def buildEngFrame (targetState : UInt8) (motionDist : UInt16) (motionEnergy : UInt8)
    (staticDist : UInt16) (staticEnergy : UInt8) (detectDist : UInt16)
    (motionGates staticGates : List UInt8) : List UInt8 :=
  dataMagic ++ le16Bytes 29 ++ [0x01, 0xAA, targetState] ++ le16Bytes motionDist ++
    [motionEnergy] ++ le16Bytes staticDist ++ [staticEnergy] ++ le16Bytes detectDist ++
    motionGates ++ staticGates ++ dataTerminator

/-- The frame `build_data_frame` builds, as a well-formed data frame. -/
def dataWireFrame (targetState : UInt8) (motionDist : UInt16) (motionEnergy : UInt8)
    (staticDist : UInt16) (staticEnergy : UInt8) (detectDist : UInt16) : WireFrame where
  family := .data
  payload := [0x02, 0xAA, targetState] ++ le16Bytes motionDist ++ [motionEnergy] ++
    le16Bytes staticDist ++ [staticEnergy] ++ le16Bytes detectDist
  payload_length_le := by simp

theorem buildDataFrame_eq (ts me se : UInt8) (md sd dd : UInt16) :
    buildDataFrame ts md me sd se dd = (dataWireFrame ts md me sd se dd).bytes := by
  have hl : (dataWireFrame ts md me sd se dd).payload.length = 11 := by simp [dataWireFrame]
  rw [WireFrame.bytes, hl, ← show le16Bytes 11 = lenBytes 11 from le16Bytes_ofNat (by norm_num)]
  simp only [buildDataFrame, dataWireFrame, Family.magic, Family.terminator, List.append_assoc]

/-- The frame `build_eng_frame` builds from two arrays of nine gates, as a well-formed data
frame. -/
def engWireFrame (targetState : UInt8) (motionDist : UInt16) (motionEnergy : UInt8)
    (staticDist : UInt16) (staticEnergy : UInt8) (detectDist : UInt16)
    {motionGates staticGates : List UInt8} (hmg : motionGates.length = 9)
    (hsg : staticGates.length = 9) : WireFrame where
  family := .data
  payload := [0x01, 0xAA, targetState] ++ le16Bytes motionDist ++ [motionEnergy] ++
    le16Bytes staticDist ++ [staticEnergy] ++ le16Bytes detectDist ++ motionGates ++ staticGates
  payload_length_le := by simp [hmg, hsg]

theorem buildEngFrame_eq (ts me se : UInt8) (md sd dd : UInt16) {mg sg : List UInt8}
    (hmg : mg.length = 9) (hsg : sg.length = 9) :
    buildEngFrame ts md me sd se dd mg sg = (engWireFrame ts md me sd se dd hmg hsg).bytes := by
  have hl : (engWireFrame ts md me sd se dd hmg hsg).payload.length = 29 := by
    simp [engWireFrame, hmg, hsg]
  rw [WireFrame.bytes, hl, ← show le16Bytes 29 = lenBytes 29 from le16Bytes_ofNat (by norm_num)]
  simp only [buildEngFrame, engWireFrame, Family.magic, Family.terminator, List.append_assoc]

/-! ## §2 Decoding the Built Frames -/

theorem getD_drop_take {l : List UInt8} {m n i : Nat} (hi : i < n) :
    ((l.drop m).take n).getD i 0 = l.getD (m + i) 0 := by
  simp [List.getD_eq_getElem?_getD, List.getElem?_take, hi]

/-- The reading decoded from a buffer that holds the built fields at offsets 8..16. -/
theorem decodeReading_fields {buf : List UInt8} {targetState motionEnergy staticEnergy : UInt8}
    {motionDist staticDist detectDist : UInt16} (t : UInt32)
    (h : (buf.drop 8).take 9 = targetState :: le16Bytes motionDist ++ motionEnergy ::
      le16Bytes staticDist ++ staticEnergy :: le16Bytes detectDist) :
    decodeReading buf t =
      ⟨targetState, motionDist, motionEnergy, staticDist, staticEnergy, detectDist, t⟩ := by
  have g : ∀ i, 8 ≤ i → i < 17 → buf.getD i 0 = ((buf.drop 8).take 9).getD (i - 8) 0 :=
    fun i h8 h17 => by rw [getD_drop_take (by omega), Nat.add_sub_cancel' h8]
  rw [decodeReading, MmwaveData.mk.injEq]
  simp only [g 8 (by omega) (by omega), g 9 (by omega) (by omega), g 10 (by omega) (by omega),
    g 11 (by omega) (by omega), g 12 (by omega) (by omega), g 13 (by omega) (by omega),
    g 14 (by omega) (by omega), g 15 (by omega) (by omega), g 16 (by omega) (by omega), h]
  exact ⟨rfl, ofNat_le16_le16Bytes _, rfl, ofNat_le16_le16Bytes _, rfl, ofNat_le16_le16Bytes _, trivial⟩

/-- A byte of `rxbuf` below `n`, read from what `rxbuf.take n` holds past its first `k` bytes. -/
theorem getD_of_take_eq {l m : List UInt8} {n : Nat} (h : l.take n = m) {k i : Nat}
    (hi : k + i < n) : l.getD (k + i) 0 = (m.drop k).getD i 0 := by
  rw [← h, List.drop_take, getD_drop_take (by omega)]

/-- **Every field of a built data frame comes back.** With `rxbuf` holding a `build_data_frame`
frame, the decoder accepts it and decodes every field, and leaves the engineering reading
alone. -/
theorem processDataFrame_buildDataFrame (tickPerSec : Nat) (priv : MmwaveDev) {waitRet : Int}
    (ticks : Nat) (hw : 0 ≤ waitRet) {ts me se : UInt8} {md sd dd : UInt16}
    (hbuf : priv.rxbuf.take 21 = buildDataFrame ts md me sd se dd) :
    mmwaveProcessDataFrame tickPerSec priv waitRet ticks =
      ({ priv with
          data := ⟨ts, md, me, sd, se, dd, timestampMs tickPerSec ticks⟩
          dataValid := true }, .ok) := by
  have h6 : priv.rxbuf.getD 6 0 = 0x02 := by
    rw [getD_of_take_eq hbuf (k := 6) (i := 0) (by omega)]; rfl
  have h7 : priv.rxbuf.getD 7 0 = 0xAA := by
    rw [getD_of_take_eq hbuf (k := 7) (i := 0) (by omega)]; rfl
  have hf : (priv.rxbuf.drop 8).take 9 = ((buildDataFrame ts md me sd se dd).drop 8).take 9 := by
    rw [← hbuf, List.drop_take, List.take_take]; rfl
  rw [processDataFrame_of_accepts _ ⟨.inl h6, h7, hw⟩, decodeReading_fields _ hf,
    if_neg (by rw [h6]; exact fun h => absurd h.1 (by decide))]

/-- Past its first 17 bytes a built engineering frame holds the two gate arrays. -/
theorem buildEngFrame_drop (ts me se : UInt8) (md sd dd : UInt16) (mg sg : List UInt8) :
    (buildEngFrame ts md me sd se dd mg sg).drop 17 = mg ++ sg ++ dataTerminator := rfl

/-- **A built engineering frame loses four static gates.** With `rxbuf` holding a
`build_eng_frame` frame (`frame_len = 29`) and `eng_mode` set, the decoder accepts it, decodes
the reading into both readings and copies all nine motion gates; of the static gates it copies
the first five only, and the last four keep their old values. -/
theorem processDataFrame_buildEngFrame (tickPerSec : Nat) (priv : MmwaveDev) {waitRet : Int}
    (ticks : Nat) (hw : 0 ≤ waitRet) {ts me se : UInt8} {md sd dd : UInt16} {mg sg : List UInt8}
    (hmg : mg.length = 9) (hsg : sg.length = 9)
    (hbuf : priv.rxbuf.take 39 = buildEngFrame ts md me sd se dd mg sg)
    (hL : priv.frameLen = 29) (he : priv.engMode = true) :
    let p := mmwaveProcessDataFrame tickPerSec priv waitRet ticks
    p.2 = .ok ∧ p.1.dataValid = true ∧
      p.1.data = ⟨ts, md, me, sd, se, dd, timestampMs tickPerSec ticks⟩ ∧
      p.1.engData.basic = p.1.data ∧ p.1.engData.motionGateEnergy = mg ∧
      p.1.engData.staticGateEnergy = sg.take 5 ++ priv.engData.staticGateEnergy.drop 5 := by
  have h6 : priv.rxbuf.getD 6 0 = 0x01 := by
    rw [getD_of_take_eq hbuf (k := 6) (i := 0) (by omega)]; rfl
  have h7 : priv.rxbuf.getD 7 0 = 0xAA := by
    rw [getD_of_take_eq hbuf (k := 7) (i := 0) (by omega)]; rfl
  have hf : (priv.rxbuf.drop 8).take 9 =
      ((buildEngFrame ts md me sd se dd mg sg).drop 8).take 9 := by
    rw [← hbuf, List.drop_take, List.take_take]; rfl
  -- bytes 17 .. 38 of `rxbuf` are the motion gates, the static gates and the terminator
  have hg : ∀ j < 22, priv.rxbuf.getD (17 + j) 0 = (mg ++ sg ++ dataTerminator).getD j 0 :=
    fun j hj => by rw [getD_of_take_eq hbuf (by omega), buildEngFrame_drop]
  rw [processDataFrame_of_accepts _ ⟨.inr h6, h7, hw⟩, decodeReading_fields _ hf,
    if_pos ⟨h6, he⟩]
  refine ⟨rfl, rfl, rfl, rfl, ?_, ?_⟩
  · -- motion gates: the loop runs while `i < 29 - 15`, past all nine
    show gateLoop _ _ ((priv.frameLen : Int) - 15) _ _ _ = _
    rw [hL, show ((29 : Nat) : Int) - 15 = ((14 : Nat) : Int) by norm_num,
      gateLoop_of_src priv.engData.motionGateEnergy_length hmg fun j hj => by
        rw [hg j (by simp [ld2410MaxGates] at hj; omega), List.append_assoc,
          List.getD_append _ _ _ _ (by rw [hmg]; exact hj)],
      List.take_of_length_le (by omega), List.drop_of_length_le
        (by rw [priv.engData.motionGateEnergy_length]; decide),
      List.append_nil]
  · -- static gates: the loop stops at `i < 29 - 24 = 5`
    show gateLoop _ _ ((priv.frameLen : Int) - 24) _ _ _ = _
    rw [hL, show ((29 : Nat) : Int) - 24 = ((5 : Nat) : Int) by norm_num,
      gateLoop_of_src priv.engData.staticGateEnergy_length hsg fun j hj => by
        simp only [ld2410MaxGates] at hj ⊢
        rw [show 6 + 11 + 9 + j = 17 + (9 + j) by omega, hg _ (by omega), List.append_assoc,
          List.getD_append_right _ _ _ _ (by omega), hmg, Nat.add_sub_cancel_left,
          List.getD_append _ _ _ _ (by omega)]]

/-! ## §3 The Poll Loop on a Frame -/

/-- Passes that read the bytes of a well-formed frame: nine before its payload, and one per
payload byte, besides the last. -/
theorem length_of_map_byte {f : WireFrame} {rs : List PollRead} {r : PollRead}
    (hb : (rs ++ [r]).map PollRead.byte = f.bytes) : rs.length = 9 + f.payload.length := by
  have := congrArg List.length hb
  rw [List.length_map, List.length_append, List.length_singleton, f.length_bytes] at this
  omega

/-- **The poll loop over a well-formed frame.** From a parser seeking a header with an empty
window, the passes over the bytes of a well-formed frame decode nothing until its last byte,
where the decoder runs on a device whose `rxbuf` begins with the frame, whose `frame_len` is
the frame's payload length and whose fields outside the parser are those of the start. -/
theorem pollTask_wireFrame (tickPerSec : Nat) {d : MmwaveDev} (hs : d.parseState = .parseHeader)
    (hp : d.rxpos = 0) (f : WireFrame) (rs : List PollRead) (r : PollRead)
    (hb : (rs ++ [r]).map PollRead.byte = f.bytes) :
    ∃ d₁, mmwavePollTask tickPerSec d (rs ++ [r]) =
        some ((mmwaveProcessDataFrame tickPerSec d₁ r.waitRet r.ticks).1,
          List.replicate rs.length none ++
            [some (d₁.rxbuf, (mmwaveProcessDataFrame tickPerSec d₁ r.waitRet r.ticks).2)]) ∧
      d₁.rxbuf.take (10 + f.payload.length) = f.bytes ∧ d₁.frameLen = f.payload.length ∧
      d₁.reading = d.reading := by
  have h₀ : ParserInv d := .inl ⟨hs, by omega⟩
  obtain ⟨d₀, outs, hf₀, hi₀⟩ := mmwaveFeed_inv h₀ (rs.map PollRead.byte)
  obtain ⟨d₁, c, hp₁, -, hr₁, hc⟩ := parseByte_inv hi₀ r.byte
  -- the parser alone: nothing before the last byte, the frame on it
  obtain ⟨d', hf⟩ := mmwaveFeed_wireFrame hs hp f
  nth_rewrite 1 [← hb] at hf
  rw [List.map_append, mmwaveFeed_append hf₀, List.map_singleton, mmwaveFeed_cons _ hp₁] at hf
  simp only [mmwaveFeed, Option.map_some', Option.some.injEq, Prod.mk.injEq] at hf
  obtain ⟨houts, hlast⟩ := List.append_inj' hf.2 rfl
  have hc1 : c = 1 := by by_contra h; simp [h] at hlast
  subst hc1
  simp only [if_true, List.cons.injEq, Option.some.injEq, and_true] at hlast
  obtain ⟨-, hfl₀, hL⟩ := hc.resolve_left one_ne_zero
  have hfl : d₁.frameLen = f.payload.length := by
    have := congrArg List.length hlast
    rw [MmwaveDev.frame, List.length_take, d₁.rxbuf_length, f.length_bytes] at this
    unfold ld2410MaxFrameLen at *
    omega
  refine ⟨d₁, ?_, by rw [← hfl]; exact hlast, hfl, hr₁.trans (mmwaveFeed_reading h₀ hf₀)⟩
  -- the poll loop: the parser's run, then the decoder on the last byte
  rw [pollTask_of_feed tickPerSec h₀ (by rw [hf₀, houts, length_of_map_byte hb]) [r]]
  simp only [mmwavePollTask, pollRead_of_parseByte hp₁, ne_eq, one_ne_zero, not_false_eq_true,
    if_true, Option.bind_eq_bind, Option.some_bind]
  rfl

/-- **Every field of a data frame comes back.** Fed the bytes of `build_data_frame` from a
parser seeking a header with an empty window, the poll loop decodes the frame on its last
byte: it returns `OK`, sets `data_valid` and every field of the reading, and leaves the
engineering reading and `eng_mode` alone. -/
theorem pollTask_buildDataFrame (tickPerSec : Nat) {d : MmwaveDev}
    (hs : d.parseState = .parseHeader) (hp : d.rxpos = 0) (ts me se : UInt8) (md sd dd : UInt16)
    (rs : List PollRead) (r : PollRead)
    (hb : (rs ++ [r]).map PollRead.byte = buildDataFrame ts md me sd se dd) (hw : 0 ≤ r.waitRet) :
    ∃ d' buf, mmwavePollTask tickPerSec d (rs ++ [r]) =
        some (d', List.replicate 20 none ++ [some (buf, .ok)]) ∧
      d'.dataValid = true ∧ d'.data = ⟨ts, md, me, sd, se, dd, timestampMs tickPerSec r.ticks⟩ ∧
      d'.engData = d.engData ∧ d'.engMode = d.engMode := by
  have hpl : (dataWireFrame ts md me sd se dd).payload.length = 11 := by simp [dataWireFrame]
  have hlen : rs.length = 20 := by rw [length_of_map_byte (hb.trans (buildDataFrame_eq ..)), hpl]
  obtain ⟨d₁, hrun, hbuf, -, hr⟩ := pollTask_wireFrame tickPerSec hs hp
    (dataWireFrame ts md me sd se dd) rs r (hb.trans (buildDataFrame_eq ..))
  rw [hpl, ← buildDataFrame_eq] at hbuf
  simp only [MmwaveDev.reading, Prod.mk.injEq] at hr
  rw [processDataFrame_buildDataFrame tickPerSec d₁ r.ticks hw hbuf, hlen] at hrun
  exact ⟨_, _, hrun, rfl, rfl, hr.2.1, hr.2.2.1⟩

/-- The moving-target frame of the data-extraction tests, fed to the poll loop of a fresh
device. -/
theorem pollTask_buildDataFrame_registered :
    ∃ d' buf, mmwavePollTask 100 mmwaveLd2410Register
        ((buildDataFrame 1 150 80 0 0 150).map fun b => ⟨b, 0, 0⟩) =
        some (d', List.replicate 20 none ++ [some (buf, .ok)]) ∧
      d'.dataValid = true ∧ d'.data = ⟨1, 150, 80, 0, 0, 150, timestampMs 100 0⟩ ∧
      d'.engData = mmwaveLd2410Register.engData ∧
      d'.engMode = mmwaveLd2410Register.engMode := by
  have hl : (buildDataFrame 1 150 80 0 0 150).map (fun b => (⟨b, 0, 0⟩ : PollRead)) =
      _ ++ [⟨0xF8, 0, 0⟩] := (List.dropLast_append_getLast (by simp [buildDataFrame])).symm
  rw [hl]
  exact pollTask_buildDataFrame 100 rfl rfl 1 80 0 150 0 150 _ _
    (by rw [← hl, List.map_map]; exact List.map_id _) le_rfl

/-- **A built engineering frame loses four static gates.** Fed the bytes of `build_eng_frame`
with two arrays of nine gates from a parser seeking a header, with `eng_mode` set, the poll loop
decodes the frame on its last byte: both readings get every field and the motion gates all
nine, but the static gates only the first five. -/
theorem pollTask_buildEngFrame (tickPerSec : Nat) {d : MmwaveDev}
    (hs : d.parseState = .parseHeader) (hp : d.rxpos = 0) (he : d.engMode = true)
    (ts me se : UInt8) (md sd dd : UInt16) {mg sg : List UInt8} (hmg : mg.length = 9)
    (hsg : sg.length = 9) (rs : List PollRead) (r : PollRead)
    (hb : (rs ++ [r]).map PollRead.byte = buildEngFrame ts md me sd se dd mg sg)
    (hw : 0 ≤ r.waitRet) :
    ∃ d' buf, mmwavePollTask tickPerSec d (rs ++ [r]) =
        some (d', List.replicate 38 none ++ [some (buf, .ok)]) ∧
      d'.dataValid = true ∧ d'.data = ⟨ts, md, me, sd, se, dd, timestampMs tickPerSec r.ticks⟩ ∧
      d'.engData.basic = d'.data ∧ d'.engData.motionGateEnergy = mg ∧
      d'.engData.staticGateEnergy = sg.take 5 ++ d.engData.staticGateEnergy.drop 5 := by
  obtain ⟨d₁, hrun, hbuf, hL, hr⟩ := pollTask_wireFrame tickPerSec hs hp
    (engWireFrame ts md me sd se dd hmg hsg) rs r (hb.trans (buildEngFrame_eq _ _ _ _ _ _ hmg hsg))
  have hpl : (engWireFrame ts md me sd se dd hmg hsg).payload.length = 29 := by
    simp [engWireFrame, hmg, hsg]
  simp only [MmwaveDev.reading, Prod.mk.injEq] at hr
  rw [hpl, ← buildEngFrame_eq _ _ _ _ _ _ hmg hsg] at hbuf
  obtain ⟨hok, hv, hdata, hbasic, hmot, hstat⟩ := processDataFrame_buildEngFrame tickPerSec d₁
    r.ticks hw hmg hsg hbuf (hL.trans hpl) (hr.2.2.1.trans he)
  have hlen : rs.length = 38 := by
    rw [length_of_map_byte (hb.trans (buildEngFrame_eq _ _ _ _ _ _ hmg hsg)), hpl]
  rw [hlen, hok] at hrun
  exact ⟨_, _, hrun, hv, hdata, hbasic, hmot, by rw [hstat, hr.2.1]⟩

/-- The inputs of the static-gate decoder test, fed to the poll loop of a fresh device in
engineering mode: static gates 5 to 8 stay 0. -/
theorem eng_frame_static_gates_lost :
    (mmwavePollTask 100 { mmwaveLd2410Register with engMode := true }
      ((buildEngFrame 0x02 0 0 300 50 300 [0, 0, 0, 0, 0, 0, 0, 0, 0]
        [5, 15, 25, 35, 45, 55, 65, 75, 85]).map fun b => ⟨b, 0, 0⟩)).map
      (fun p => p.1.engData.staticGateEnergy) = some [5, 15, 25, 35, 45, 0, 0, 0, 0] := by
  have hl : (buildEngFrame 0x02 0 0 300 50 300 [0, 0, 0, 0, 0, 0, 0, 0, 0]
      [5, 15, 25, 35, 45, 55, 65, 75, 85]).map (fun b => (⟨b, 0, 0⟩ : PollRead)) =
      _ ++ [⟨0xF8, 0, 0⟩] := (List.dropLast_append_getLast (by simp [buildEngFrame])).symm
  obtain ⟨d, buf, hrun, -, -, -, -, hsg⟩ := @pollTask_buildEngFrame 100
    { mmwaveLd2410Register with engMode := true } rfl rfl rfl 0x02 0 50 0 300 300
    [0, 0, 0, 0, 0, 0, 0, 0, 0] [5, 15, 25, 35, 45, 55, 65, 75, 85] rfl rfl _ _
    (by rw [← hl, List.map_map]; exact List.map_id _) le_rfl
  rw [hl, hrun, Option.map_some', hsg]
  rfl

/-! ## §4 A Short Frame Decoded from Stale Bytes -/

/-- After `build_data_frame(3, 0x1234, 0x55, 0x5678, 0x66, 0x9ABC)`, a command frame whose two
payload bytes are `02 AA` is accepted and decoded from its own terminator `01 02 03 04` and the
bytes the data frame left at `rxbuf[12..16]`: the reading mixes the two frames. -/
theorem short_frame_decoded_from_stale_bytes :
    (mmwavePollTask 100 mmwaveLd2410Register
      ((buildDataFrame 3 0x1234 0x55 0x5678 0x66 0x9ABC ++
        [0xFA, 0xFB, 0xFC, 0xFD, 0x02, 0x00, 0x02, 0xAA, 0x01, 0x02, 0x03, 0x04]).map
        fun b => ⟨b, 0, 0⟩)).map
      (fun p => (p.1.dataValid, p.1.data.targetState, p.1.data.motionDistance,
        p.1.data.motionEnergy, p.1.data.staticDistance, p.1.data.staticEnergy,
        p.1.data.detectionDistance)) =
      some (true, 1, 770, 4, 22136, 102, 39612) := by
  rfl

end MmwaveOs
