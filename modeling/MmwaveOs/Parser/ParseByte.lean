import MmwaveOs.Driver.State

/-!
# The Frame Parser `mmwave_parse_byte`

`mmwave_parse_byte` is a Mealy machine over the fields `rxbuf`, `rxpos`, `parse_state`,
`frame_len` and the two frame counters of the device. The model follows the C function
statement by statement; every buffer access is bounds-checked (`MmwaveDev.rd`,
`MmwaveDev.wr`), so `none` is exactly an access outside `rxbuf`.

## Layout
- §1 the device `mmwave_ld2410_register` sets up, and `mmwave_parse_byte`
- §2 one lemma per transition, stating the next device outright; nothing after §2 unfolds
  `mmwaveParseByte`
- §3 the reachable-state invariant `ParserInv` and the bounds theorem: from the initial
  state, no stream makes the parser touch `rxbuf` outside its 64 bytes
-/

namespace MmwaveOs

open MmwaveDev

/-! ## §1 The Parser -/

/-- The all-zero reading `kmm_zalloc` leaves in a new device. -/
def MmwaveData.zero : MmwaveData := ⟨0, 0, 0, 0, 0, 0, 0⟩

/-- The device `mmwave_ld2410_register` allocates (`kmm_zalloc`) and initialises. -/
def mmwaveLd2410Register : MmwaveDev where
  data := MmwaveData.zero
  engData := ⟨MmwaveData.zero, List.replicate 9 0, List.replicate 9 0, rfl, rfl⟩
  engMode := false
  dataValid := false
  rxbuf := List.replicate 64 0
  rxbuf_length := rfl
  rxpos := 0
  parseState := .parseHeader
  frameLen := 0
  framesOk := 0
  framesErr := 0

/-- `memmove(priv->rxbuf, priv->rxbuf + 1, 3)` on a buffer of 64 bytes: the sliding window
drops its oldest byte. -/
def MmwaveDev.slide (d : MmwaveDev) : MmwaveDev :=
  ((d.setRx 0 (d.rxbuf.getD 1 0)).setRx 1 (d.rxbuf.getD 2 0)).setRx 2 (d.rxbuf.getD 3 0)

/-- After the slide the window holds the last three of its four bytes. -/
theorem MmwaveDev.slide_take (d : MmwaveDev) : d.slide.rxbuf.take 3 = (d.rxbuf.take 4).drop 1 := by
  have hl := d.rxbuf_length
  unfold ld2410MaxFrameLen at hl
  apply List.ext_getElem?
  intro k
  simp only [MmwaveDev.slide, setRx_rxbuf, List.getElem?_take, List.getElem?_drop,
    List.getElem?_set, List.length_set, hl]
  rcases k with _ | _ | _ | k <;> simp [List.getD_eq_getElem?_getD, hl]
  rw [if_neg (by omega), if_neg (by omega)]

/-- `mmwave_parse_byte`: feed one byte to the frame parser. `some (priv', 1)` when a complete
frame is in `rxbuf`, `some (priv', 0)` otherwise, `none` on an access outside `rxbuf`. -/
def mmwaveParseByte (priv : MmwaveDev) (byte : UInt8) : Option (MmwaveDev × Nat) :=
  match priv.parseState with
  | .parseHeader => do
    -- shift byte into header detection window
    let priv ← if priv.rxpos < 4 then
        (fun p => { p with rxpos := (priv.rxpos + 1) % 256 }) <$> priv.wr priv.rxpos byte
      else pure priv
    if priv.rxpos = 4 then do
      let header ← rdLe32 priv.rxbuf 0
      if header = ld2410DataHeader ∨ header = ld2410CmdHeader then
        pure ({ priv with parseState := .parseLength }, 0)
      else do
        -- slide window: memmove(rxbuf, rxbuf + 1, 3)
        let b1 ← rd priv.rxbuf 1
        let b2 ← rd priv.rxbuf 2
        let b3 ← rd priv.rxbuf 3
        let priv ← priv.wr 0 b1
        let priv ← priv.wr 1 b2
        let priv ← priv.wr 2 b3
        pure ({ priv with rxpos := 3 }, 0)
    else pure (priv, 0)
  | .parseLength => do
    let priv ← priv.wr priv.rxpos byte
    let priv := { priv with rxpos := (priv.rxpos + 1) % 256 }
    if priv.rxpos = 6 then do
      let lo ← rd priv.rxbuf 4
      let hi ← rd priv.rxbuf 5
      let priv := { priv with frameLen := le16 lo hi }
      if priv.frameLen > ld2410MaxFrameLen - 10 then
        -- frame too large: reset parser
        pure ({ priv with rxpos := 0, parseState := .parseHeader,
                          framesErr := priv.framesErr + 1 }, 0)
      else pure ({ priv with parseState := .parsePayload }, 0)
    else pure (priv, 0)
  | .parsePayload => do
    let priv ← priv.wr priv.rxpos byte
    let priv := { priv with rxpos := (priv.rxpos + 1) % 256 }
    -- total frame = 4 (header) + 2 (len) + payload + 4 (tail)
    if priv.rxpos ≥ 6 + priv.frameLen + 4 then do
      let priv := { priv with parseState := .parseTail }
      let tailOff := (6 + priv.frameLen) % 2 ^ 16
      let tail ← rdLe32 priv.rxbuf tailOff
      let header ← rdLe32 priv.rxbuf 0
      let tailOk : Bool := (header == ld2410DataHeader && tail == ld2410DataTail) ||
        (header == ld2410CmdHeader && tail == ld2410CmdTail)
      if tailOk then
        pure ({ priv with framesOk := priv.framesOk + 1, rxpos := 0,
                          parseState := .parseHeader }, 1)
      else
        pure ({ priv with framesErr := priv.framesErr + 1, rxpos := 0,
                          parseState := .parseHeader }, 0)
    else pure (priv, 0)
  | .parseTail => pure ({ priv with rxpos := 0, parseState := .parseHeader }, 0)

/-! ## §2 One Lemma per Transition -/

section Steps

variable {d : MmwaveDev} {b : UInt8}

/-- A header byte while the window holds fewer than three bytes is stored. -/
theorem parseByte_header_fill (hs : d.parseState = .parseHeader) (hp : d.rxpos < 3) :
    mmwaveParseByte d b = some ({ d.setRx d.rxpos b with rxpos := d.rxpos + 1 }, 0) := by
  have hw := d.wr_of_lt (show d.rxpos < ld2410MaxFrameLen by unfold ld2410MaxFrameLen; omega) b
  simp only [mmwaveParseByte, hs, show d.rxpos < 4 by omega, ↓reduceIte,
    Nat.mod_eq_of_lt (show d.rxpos + 1 < 256 by omega), hw, Option.map_eq_map, Option.map_some',
    setRx_rxbuf, Option.pure_def, Option.bind_eq_bind, Option.some_bind, show d.rxpos + 1 ≠ 4 by omega]

/-- The header word read after the fourth byte is stored, and what the header test says. -/
private theorem header_word (d : MmwaveDev) :
    ∃ w, rdLe32 (d.rxbuf.set 3 b) 0 = some w ∧
      ((w = ld2410DataHeader ∨ w = ld2410CmdHeader) ↔
        isMagic ((d.rxbuf.set 3 b).take 4) = true) := by
  obtain ⟨b0, b1, b2, b3, hr, ht⟩ :=
    rdLe32_of_le (show 0 + 4 ≤ (d.rxbuf.set 3 b).length by simp [d.rxbuf_length, ld2410MaxFrameLen])
  refine ⟨_, hr, ?_⟩
  rw [List.drop_zero] at ht
  rw [ht, le32_isMagic]

/-- The fourth header byte completes a magic: the parser goes on to the length. -/
theorem parseByte_header_match (hs : d.parseState = .parseHeader) (hp : d.rxpos = 3)
    (hm : isMagic ((d.rxbuf.set 3 b).take 4) = true) :
    mmwaveParseByte d b =
      some ({ d.setRx 3 b with rxpos := 4, parseState := .parseLength }, 0) := by
  obtain ⟨w, hw, hiff⟩ := header_word (b := b) d
  have hw3 := d.wr_of_lt (show 3 < ld2410MaxFrameLen by decide) b
  simp only [mmwaveParseByte, hs, hp, Nat.lt_add_one, ↓reduceIte, Nat.reduceAdd, Nat.reduceMod, hw3,
    Option.map_eq_map, Option.map_some', setRx_rxbuf, Option.pure_def, Option.bind_eq_bind,
    Option.some_bind, hw, hiff.mpr hm]

/-- The fourth header byte does not complete a magic: the window slides by one byte. -/
theorem parseByte_header_slide (hs : d.parseState = .parseHeader) (hp : d.rxpos = 3)
    (hm : isMagic ((d.rxbuf.set 3 b).take 4) = false) :
    mmwaveParseByte d b = some ({ (d.setRx 3 b).slide with rxpos := 3 }, 0) := by
  obtain ⟨w, hw, hiff⟩ := header_word (b := b) d
  have hw3 := d.wr_of_lt (show 3 < ld2410MaxFrameLen by decide) b
  have hno : ¬(w = ld2410DataHeader ∨ w = ld2410CmdHeader) := by simpa [hm] using hiff
  have hl : (d.rxbuf.set 3 b).length = 64 := by simp [d.rxbuf_length, ld2410MaxFrameLen]
  simp only [mmwaveParseByte, hs, hp, Nat.lt_add_one, ↓reduceIte, Nat.reduceAdd, Nat.reduceMod,
    MmwaveDev.wr, ld2410MaxFrameLen, Nat.reduceLT, Option.map_eq_map, Option.map_some', setRx_rxbuf,
    Option.pure_def, Option.bind_eq_bind, Option.some_bind, hw, hl, rd_of_lt, hno, MmwaveDev.slide]
  simp

/-- The first length byte is stored. -/
theorem parseByte_length_first (hs : d.parseState = .parseLength) (hp : d.rxpos = 4) :
    mmwaveParseByte d b = some ({ d.setRx 4 b with rxpos := 5 }, 0) := by
  simp [mmwaveParseByte, hs, hp, MmwaveDev.wr, ld2410MaxFrameLen]

/-- The second length byte fixes `frame_len`: a length above 54 is an error and resets the
parser, any other length starts the payload. -/
theorem parseByte_length_second (hs : d.parseState = .parseLength) (hp : d.rxpos = 5) :
    mmwaveParseByte d b =
      some (if 54 < le16 (d.rxbuf.getD 4 0) b then
          ({ d.setRx 5 b with
              rxpos := 0, parseState := .parseHeader, frameLen := le16 (d.rxbuf.getD 4 0) b,
              framesErr := d.framesErr + 1 }, 0)
        else ({ d.setRx 5 b with
              rxpos := 6, parseState := .parsePayload, frameLen := le16 (d.rxbuf.getD 4 0) b }, 0)) := by
  have hl : (d.rxbuf.set 5 b).length = 64 := by simp [d.rxbuf_length, ld2410MaxFrameLen]
  have h4 : rd (d.rxbuf.set 5 b) 4 = some (d.rxbuf.getD 4 0) := by
    rw [rd_of_lt (by omega)]; simp [List.getD_eq_getElem?_getD, List.getElem?_set]
  have h5 : rd (d.rxbuf.set 5 b) 5 = some b := by
    rw [rd_of_lt (by omega)]
    simp [List.getD_eq_getElem?_getD, List.getElem?_set, d.rxbuf_length, ld2410MaxFrameLen]
  simp only [mmwaveParseByte, hs, hp, MmwaveDev.wr, ld2410MaxFrameLen]
  simp [h4, h5, hp]
  split_ifs <;> rfl

/-- A payload or tail byte before the last one is stored. -/
theorem parseByte_payload_more (hs : d.parseState = .parsePayload)
    (hp : d.rxpos + 1 < 10 + d.frameLen) (hb : d.rxpos < ld2410MaxFrameLen) :
    mmwaveParseByte d b = some ({ d.setRx d.rxpos b with rxpos := d.rxpos + 1 }, 0) := by
  unfold ld2410MaxFrameLen at hb
  simp only [mmwaveParseByte, hs, MmwaveDev.wr, ld2410MaxFrameLen, hb, if_true]
  simp [Nat.mod_eq_of_lt (show d.rxpos + 1 < 256 by omega)]
  omega

/-- The last tail byte: the frame is emitted when its tail closes the family its header
opened, and counted as an error otherwise; either way the parser resets. -/
theorem parseByte_payload_last (hs : d.parseState = .parsePayload)
    (hp : d.rxpos + 1 = 10 + d.frameLen) (hL : d.frameLen ≤ 54) :
    mmwaveParseByte d b =
      some (if tailMatches ((d.rxbuf.set d.rxpos b).take 4)
            (((d.rxbuf.set d.rxpos b).drop (6 + d.frameLen)).take 4) then
          ({ d.setRx d.rxpos b with
              rxpos := 0, parseState := .parseHeader, framesOk := d.framesOk + 1 }, 1)
        else ({ d.setRx d.rxpos b with
              rxpos := 0, parseState := .parseHeader, framesErr := d.framesErr + 1 }, 0)) := by
  have hl : (d.rxbuf.set d.rxpos b).length = 64 := by simp [d.rxbuf_length, ld2410MaxFrameLen]
  obtain ⟨h0, h1, h2, h3, hh, hht⟩ :=
    rdLe32_of_le (show 0 + 4 ≤ (d.rxbuf.set d.rxpos b).length by omega)
  obtain ⟨t0, t1, t2, t3, ht, htt⟩ :=
    rdLe32_of_le (show 6 + d.frameLen + 4 ≤ (d.rxbuf.set d.rxpos b).length by omega)
  rw [List.drop_zero] at hht
  simp only [mmwaveParseByte, hs, MmwaveDev.wr, ld2410MaxFrameLen,
    show d.rxpos < 64 by omega, if_true]
  have hge : 6 + d.frameLen + 4 ≤ d.rxpos + 1 := by omega
  simp only [Option.pure_def, Option.bind_eq_bind, Option.some_bind, setRx_rxbuf, setRx_frameLen,
    setRx_rxpos, Nat.mod_eq_of_lt (show d.rxpos + 1 < 256 by omega), ge_iff_le, hge, if_true,
    Nat.mod_eq_of_lt (show 6 + d.frameLen < 2 ^ 16 by omega), hh, ht, hht, htt, le32_tailOk]
  split_ifs <;> rfl

end Steps

/-! ## §3 The Bounds Invariant -/

/-- The frame `rxbuf` holds once the parser has returned 1: its first `10 + frame_len` bytes. -/
def MmwaveDev.frame (d : MmwaveDev) : List UInt8 := d.rxbuf.take (10 + d.frameLen)

/-- Feed a byte stream to `mmwave_parse_byte` one byte at a time, as the poll task and the
parser tests do: the final device and, per byte, the frame in `rxbuf` when the call returned 1.
`none` when some call accessed `rxbuf` outside its bounds. -/
def mmwaveFeed (d : MmwaveDev) : List UInt8 → Option (MmwaveDev × List (Option (List UInt8)))
  | [] => some (d, [])
  | b :: s => do
    let (d₁, r) ← mmwaveParseByte d b
    let (d₂, out) ← mmwaveFeed d₁ s
    pure (d₂, (if r = 1 then some d₁.frame else none) :: out)

theorem mmwaveFeed_cons {d d₁ : MmwaveDev} {b : UInt8} {r : Nat} (s : List UInt8)
    (h : mmwaveParseByte d b = some (d₁, r)) :
    mmwaveFeed d (b :: s) =
      (mmwaveFeed d₁ s).map fun p => (p.1, (if r = 1 then some d₁.frame else none) :: p.2) := by
  simp only [mmwaveFeed, h, Option.bind_eq_bind, Option.some_bind]
  cases mmwaveFeed d₁ s <;> rfl

/-- Feeding two streams one after the other is feeding their concatenation. -/
theorem mmwaveFeed_append {d d₁ : MmwaveDev} {s : List UInt8} {o₁ : List (Option (List UInt8))}
    (h : mmwaveFeed d s = some (d₁, o₁)) (t : List UInt8) :
    mmwaveFeed d (s ++ t) = (mmwaveFeed d₁ t).map fun p => (p.1, o₁ ++ p.2) := by
  induction s generalizing d o₁ with
  | nil =>
    simp only [mmwaveFeed, Option.some.injEq, Prod.mk.injEq] at h
    obtain ⟨rfl, rfl⟩ := h
    simp
  | cons b s ih =>
    cases hb : mmwaveParseByte d b with
    | none => simp [mmwaveFeed, hb] at h
    | some p =>
      obtain ⟨d₂, r⟩ := p
      rw [mmwaveFeed_cons s hb] at h
      cases hs : mmwaveFeed d₂ s with
      | none => simp [hs] at h
      | some q =>
        obtain ⟨d₃, o₂⟩ := q
        simp only [hs, Option.map_some', Option.some.injEq, Prod.mk.injEq] at h
        obtain ⟨rfl, rfl⟩ := h
        rw [List.cons_append, mmwaveFeed_cons _ hb, ih hs]
        cases mmwaveFeed d₃ t <;> rfl

/-- The states the parser can be in between two calls. -/
def ParserInv (d : MmwaveDev) : Prop :=
  (d.parseState = .parseHeader ∧ d.rxpos ≤ 3) ∨
  (d.parseState = .parseLength ∧ 4 ≤ d.rxpos ∧ d.rxpos ≤ 5) ∨
  (d.parseState = .parsePayload ∧ d.frameLen ≤ 54 ∧ 6 ≤ d.rxpos ∧ d.rxpos < 10 + d.frameLen)

/-- One call from a state of `ParserInv` stays inside `rxbuf`, ends in such a state and
writes only the parser's fields. It returns 0, or 1 on the last byte of a frame, whose payload
length it leaves in `frame_len`. -/
theorem parseByte_inv {d : MmwaveDev} (h : ParserInv d) (b : UInt8) :
    ∃ d' r, mmwaveParseByte d b = some (d', r) ∧ ParserInv d' ∧ d'.reading = d.reading ∧
      (r = 0 ∨ r = 1 ∧ d'.frameLen = d.frameLen ∧ d.frameLen ≤ 54) := by
  rcases h with ⟨hs, hp⟩ | ⟨hs, hp4, hp5⟩ | ⟨hs, hL, hp6, hp⟩
  · -- seeking the header: fill the window, or test it
    rcases Nat.lt_or_ge d.rxpos 3 with hp3 | hp3
    · exact ⟨_, _, parseByte_header_fill hs hp3, .inl ⟨hs, show d.rxpos + 1 ≤ 3 by omega⟩, rfl,
        .inl rfl⟩
    have hp3 : d.rxpos = 3 := by omega
    cases hm : isMagic ((d.rxbuf.set 3 b).take 4)
    · exact ⟨_, _, parseByte_header_slide hs hp3 hm, .inl ⟨hs, le_refl 3⟩, rfl, .inl rfl⟩
    · exact ⟨_, _, parseByte_header_match hs hp3 hm, .inr (.inl ⟨rfl, le_refl 4, Nat.le_succ 4⟩),
        rfl, .inl rfl⟩
  · -- reading the length
    rcases (show d.rxpos = 4 ∨ d.rxpos = 5 by omega) with hp | hp
    · exact ⟨_, _, parseByte_length_first hs hp, .inr (.inl ⟨hs, Nat.le_succ 4, le_refl 5⟩), rfl,
        .inl rfl⟩
    rw [parseByte_length_second hs hp]
    split_ifs with hL
    · exact ⟨_, _, rfl, .inl ⟨rfl, Nat.zero_le 3⟩, rfl, .inl rfl⟩
    · exact ⟨_, _, rfl, .inr (.inr ⟨rfl, Nat.le_of_not_lt hL, le_refl 6,
        show 6 < 10 + le16 (d.rxbuf.getD 4 0) b by omega⟩), rfl, .inl rfl⟩
  · -- reading payload and tail
    rcases Nat.lt_or_ge (d.rxpos + 1) (10 + d.frameLen) with hm | hm
    · exact ⟨_, _, parseByte_payload_more hs hm (by unfold ld2410MaxFrameLen; omega),
        .inr (.inr ⟨hs, hL, show 6 ≤ d.rxpos + 1 by omega, hm⟩), rfl, .inl rfl⟩
    rw [parseByte_payload_last hs (by omega) hL]
    split_ifs
    · exact ⟨_, _, rfl, .inl ⟨rfl, Nat.zero_le 3⟩, rfl, .inr ⟨rfl, rfl, hL⟩⟩
    · exact ⟨_, _, rfl, .inl ⟨rfl, Nat.zero_le 3⟩, rfl, .inl rfl⟩

/-- A whole stream fed from a state of `ParserInv` stays inside `rxbuf`. -/
theorem mmwaveFeed_inv {d : MmwaveDev} (h : ParserInv d) (S : List UInt8) :
    ∃ d' outs, mmwaveFeed d S = some (d', outs) ∧ ParserInv d' := by
  induction S generalizing d with
  | nil => exact ⟨d, [], rfl, h⟩
  | cons b s ih =>
    obtain ⟨d₁, r, h₁, hi₁, -⟩ := parseByte_inv h b
    obtain ⟨d', outs, h', hi'⟩ := ih hi₁
    exact ⟨d', _, by rw [mmwaveFeed_cons s h₁, h']; rfl, hi'⟩

/-- A stream fed from a state of `ParserInv` writes only the parser's fields. -/
theorem mmwaveFeed_reading {d d' : MmwaveDev} (h : ParserInv d) {S : List UInt8}
    {outs : List (Option (List UInt8))} (hf : mmwaveFeed d S = some (d', outs)) :
    d'.reading = d.reading := by
  induction S generalizing d outs with
  | nil => cases hf; rfl
  | cons b s ih =>
    obtain ⟨d₁, r, h₁, hi₁, hr₁, -⟩ := parseByte_inv h b
    rw [mmwaveFeed_cons s h₁] at hf
    obtain ⟨⟨d₂, o⟩, hf₁, hq⟩ := Option.map_eq_some'.mp hf
    cases hq
    exact (ih hi₁ hf₁).trans hr₁

/-- **The parser never leaves its buffer.** Fed any byte stream from the initial state
(`PARSE_HEADER`, `rxpos = 0`), no call of `mmwave_parse_byte` reads or writes `rxbuf` at an
index of `LD2410_MAX_FRAME_LEN` or more (the feed is `some`), every call from a state of
`ParserInv` ends in one, and the state after the stream satisfies `ParserInv`. -/
theorem parseByte_within_rxbuf (d : MmwaveDev) (hs : d.parseState = .parseHeader)
    (hp : d.rxpos = 0) (S : List UInt8) :
    (∀ (e : MmwaveDev) (b : UInt8), ParserInv e →
      ∃ e' r, mmwaveParseByte e b = some (e', r) ∧ ParserInv e') ∧
    ∃ d' outs, mmwaveFeed d S = some (d', outs) ∧ ParserInv d' :=
  ⟨fun _ b he => let ⟨e', r, h, hi, _⟩ := parseByte_inv he b; ⟨e', r, h, hi⟩,
    mmwaveFeed_inv (.inl ⟨hs, by omega⟩) S⟩

/-- The registered device starts in the initial parser state; here fed an empty data frame. -/
theorem parseByte_within_rxbuf_registered :
    mmwaveLd2410Register.parseState = .parseHeader ∧ mmwaveLd2410Register.rxpos = 0 ∧
    ((∀ (e : MmwaveDev) (b : UInt8), ParserInv e →
      ∃ e' r, mmwaveParseByte e b = some (e', r) ∧ ParserInv e') ∧
    ∃ d' outs, mmwaveFeed mmwaveLd2410Register
        [0xF1, 0xF2, 0xF3, 0xF4, 0x00, 0x00, 0xF5, 0xF6, 0xF7, 0xF8] = some (d', outs) ∧
      ParserInv d') :=
  ⟨rfl, rfl, parseByte_within_rxbuf mmwaveLd2410Register rfl rfl _⟩

end MmwaveOs
