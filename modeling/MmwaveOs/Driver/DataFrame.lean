import MmwaveOs.Parser.ParseByte

/-!
# The Data-Frame Decoder and the Poll Loop

`mmwave_process_data_frame` decodes the frame the parser has just completed from the payload
at `rxbuf[6]`, at fixed offsets: it checks the type byte and the `0xAA` head, and neither the
magic nor the length. Its reads reach `rxbuf[34]` at most, inside the 64-byte buffer, so the
model reads with `getD`. `mmwave_poll_task` feeds each byte it reads to `mmwave_parse_byte`
and calls the decoder on each completion; passes that read no byte change no state.

The poll loop is the parser's run with the decoder called at each completion: over bytes that
complete no frame it is the parser fed those bytes (`pollTask_of_feed`). Over every run, the
reading is decoded from `rxbuf` as it stood at the last frame the decoder accepted, and the
engineering reading from the last type-`0x01` frame accepted while `eng_mode` was set
(`pollTask_reflects`); a frame shorter than the decoder's offsets is read together with its
terminator and the bytes an earlier frame left in `rxbuf`.

## Layout
- §1 the decoder with its two gate loops, and the poll loop
- §2 one spec lemma for the decoder and one for a pass of the poll loop; the loop as the parser
- §3 the run lemma: the reading fields reflect the last frames the decoder accepted
- §4 ranges of the reading
-/

namespace MmwaveOs

/-! ## §1 The Decoder and the Poll Loop -/

/-- The reading `mmwave_process_data_frame` assigns: the payload fields at offsets 2..10 of the
payload at `rxbuf[6]`, and the timestamp `ts`. -/
def decodeReading (buf : List UInt8) (ts : UInt32) : MmwaveData where
  targetState := buf.getD 8 0
  motionDistance := UInt16.ofNat (le16 (buf.getD 9 0) (buf.getD 10 0))
  motionEnergy := buf.getD 11 0
  staticDistance := UInt16.ofNat (le16 (buf.getD 12 0) (buf.getD 13 0))
  staticEnergy := buf.getD 14 0
  detectionDistance := UInt16.ofNat (le16 (buf.getD 15 0) (buf.getD 16 0))
  timestampMs := ts

/-- `for (int i = 0; i < LD2410_MAX_GATES && i < lim; i++) dst[i] = rxbuf[base + i];`, from
index `i` on; `n` counts the passes left, `LD2410_MAX_GATES` from `i = 0`. -/
def gateLoop (buf : List UInt8) (base : Nat) (lim : Int) : List UInt8 → Nat → Nat → List UInt8
  | dst, _, 0 => dst
  | dst, i, n + 1 =>
    if i < ld2410MaxGates ∧ (i : Int) < lim then
      gateLoop buf base lim (dst.set i (buf.getD (base + i) 0)) (i + 1) n
    else dst

@[simp] theorem length_gateLoop (buf : List UInt8) (base : Nat) (lim : Int) (dst : List UInt8)
    (i n : Nat) : (gateLoop buf base lim dst i n).length = dst.length := by
  induction n generalizing dst i with
  | zero => rfl
  | succ n ih => unfold gateLoop; split_ifs <;> simp [ih]

/-- Entry `j` of the gates after the loop from `i`: copied when the loop reaches it. -/
theorem gateLoop_getElem? {buf : List UInt8} {base : Nat} {lim : Int} {dst : List UInt8}
    {i n : Nat} (hd : dst.length = ld2410MaxGates) (hn : ld2410MaxGates ≤ i + n) (j : Nat) :
    (gateLoop buf base lim dst i n)[j]? =
      if i ≤ j ∧ j < ld2410MaxGates ∧ (j : Int) < lim then some (buf.getD (base + j) 0)
      else dst[j]? := by
  induction n generalizing dst i with
  | zero => rw [gateLoop, if_neg (by omega)]
  | succ n ih =>
    by_cases h : i < ld2410MaxGates ∧ (i : Int) < lim
    · rw [gateLoop, if_pos h, ih (by rw [List.length_set, hd]) (by omega), List.getElem?_set]
      by_cases hj : j = i
      · subst hj; simp [h, hd]
      · by_cases hc : i + 1 ≤ j ∧ j < ld2410MaxGates ∧ (j : Int) < lim
        · rw [if_pos hc, if_pos (by omega)]
        · rw [if_neg hc, if_neg (Ne.symm hj), if_neg (by omega)]
    · rw [gateLoop, if_neg h, if_neg (by omega)]

/-- The loop from `0` over a buffer holding `src` from `base` on copies the first `lim` entries
of `src` and keeps the rest of `dst`. -/
theorem gateLoop_of_src {buf : List UInt8} {base lim : Nat} {dst src : List UInt8}
    (hd : dst.length = ld2410MaxGates) (hs : src.length = ld2410MaxGates)
    (hb : ∀ j < ld2410MaxGates, buf.getD (base + j) 0 = src.getD j 0) :
    gateLoop buf base (lim : Int) dst 0 ld2410MaxGates = src.take lim ++ dst.drop lim := by
  refine List.ext_getElem? fun j => ?_
  rw [gateLoop_getElem? hd (Nat.le_add_left _ _)]
  simp only [ld2410MaxGates] at hd hs hb ⊢
  by_cases hj : j < 9 ∧ j < lim
  · rw [if_pos (by omega), hb j hj.1, List.getD_eq_getElem?_getD,
      List.getElem?_append_left (by simp; omega), List.getElem?_take, if_pos hj.2,
      List.getElem?_eq_getElem (by omega)]
    rfl
  · rw [if_neg (by omega)]
    by_cases hj9 : j < 9
    · rw [List.getElem?_append_right (by simp; omega), List.getElem?_drop]
      congr 1; simp; omega
    · rw [List.getElem?_eq_none (by omega), List.getElem?_eq_none (by simp; omega)]

/-- The engineering reading after `memcpy(&eng_data.basic, &data, ...)` and the two gate loops:
motion gates from payload offset 11 while `i < frame_len - 15`, static gates from offset 20
while `i < frame_len - 24`. -/
def MmwaveEngData.fill (e : MmwaveEngData) (basic : MmwaveData) (buf : List UInt8)
    (frameLen : Nat) : MmwaveEngData where
  basic := basic
  motionGateEnergy := gateLoop buf (6 + 11) ((frameLen : Int) - 15) e.motionGateEnergy 0 ld2410MaxGates
  staticGateEnergy :=
    gateLoop buf (6 + 11 + ld2410MaxGates) ((frameLen : Int) - 24) e.staticGateEnergy 0
      ld2410MaxGates
  motionGateEnergy_length := by rw [length_gateLoop]; exact e.motionGateEnergy_length
  staticGateEnergy_length := by rw [length_gateLoop]; exact e.staticGateEnergy_length

/-- `priv->data.timestamp_ms = clock_systime_ticks() * (1000 / TICK_PER_SEC)`, cut to
`uint32_t`. -/
def timestampMs (tickPerSec ticks : Nat) : UInt32 := UInt32.ofNat (ticks * (1000 / tickPerSec))

/-- `mmwave_process_data_frame`: decode the frame in `rxbuf`. `waitRet` is what
`nxsem_wait(&priv->data_sem)` returns, `ticks` what `clock_systime_ticks()` returns and
`tickPerSec` the configuration's `TICK_PER_SEC`. -/
def mmwaveProcessDataFrame (tickPerSec : Nat) (priv : MmwaveDev) (waitRet : Int) (ticks : Nat) :
    MmwaveDev × DrvRet :=
  let dataType := priv.rxbuf.getD 6 0
  if dataType ≠ 0x02 ∧ dataType ≠ 0x01 then (priv, .einval)
  else if priv.rxbuf.getD 7 0 ≠ 0xAA then (priv, .einval)
  else if waitRet < 0 then (priv, .err waitRet)
  else
    let data := decodeReading priv.rxbuf (timestampMs tickPerSec ticks)
    ({ priv with
        data := data
        dataValid := true
        engData := if dataType = 0x01 ∧ priv.engMode = true then
          priv.engData.fill data priv.rxbuf priv.frameLen else priv.engData }, .ok)

/-- One pass of the poll loop that read a byte: the byte, and what `nxsem_wait` and
`clock_systime_ticks()` return should it complete a frame. -/
structure PollRead where
  byte : UInt8
  waitRet : Int
  ticks : Nat

/-- What a pass reports: for a byte that completed a frame, `rxbuf` as the decoder read it and
the decoder's return code. -/
abbrev PollEvent := Option (List UInt8 × DrvRet)

/-- The `nread == 1` branch of `mmwave_poll_task`'s loop. -/
def mmwavePollRead (tickPerSec : Nat) (priv : MmwaveDev) (r : PollRead) :
    Option (MmwaveDev × PollEvent) := do
  let (priv, complete) ← mmwaveParseByte priv r.byte
  if complete ≠ 0 then
    let (priv', ret) := mmwaveProcessDataFrame tickPerSec priv r.waitRet r.ticks
    pure (priv', some (priv.rxbuf, ret))
  else pure (priv, none)

/-- `mmwave_poll_task`'s loop over the bytes it reads. -/
def mmwavePollTask (tickPerSec : Nat) (priv : MmwaveDev) :
    List PollRead → Option (MmwaveDev × List PollEvent)
  | [] => some (priv, [])
  | r :: rs => do
    let (priv, ev) ← mmwavePollRead tickPerSec priv r
    let (priv, evs) ← mmwavePollTask tickPerSec priv rs
    pure (priv, ev :: evs)

/-! ## §2 Spec Lemmas -/

/-- The checks `mmwave_process_data_frame` makes before it writes: type `0x02` or `0x01`, head
`0xAA`, and `data_sem` taken. -/
def Accepts (buf : List UInt8) (waitRet : Int) : Prop :=
  (buf.getD 6 0 = 0x02 ∨ buf.getD 6 0 = 0x01) ∧ buf.getD 7 0 = 0xAA ∧ 0 ≤ waitRet

instance (buf : List UInt8) (waitRet : Int) : Decidable (Accepts buf waitRet) := by
  unfold Accepts; infer_instance

/-- A frame the decoder accepts: the reading is decoded from it, and the engineering reading
too for a type-`0x01` frame while `eng_mode` is set. -/
theorem processDataFrame_of_accepts {tickPerSec : Nat} {priv : MmwaveDev} {waitRet : Int}
    (ticks : Nat) (h : Accepts priv.rxbuf waitRet) :
    mmwaveProcessDataFrame tickPerSec priv waitRet ticks =
      ({ priv with
          data := decodeReading priv.rxbuf (timestampMs tickPerSec ticks)
          dataValid := true
          engData := if priv.rxbuf.getD 6 0 = 0x01 ∧ priv.engMode = true then
            priv.engData.fill (decodeReading priv.rxbuf (timestampMs tickPerSec ticks))
              priv.rxbuf priv.frameLen
          else priv.engData }, .ok) := by
  obtain ⟨ht, hh, hw⟩ := h
  rw [mmwaveProcessDataFrame, if_neg fun ⟨h2, h1⟩ => ht.elim h2 h1, if_neg (not_not.mpr hh),
    if_neg (by omega)]

/-- A frame the decoder rejects leaves the device as it is. -/
theorem processDataFrame_of_not_accepts {tickPerSec : Nat} {priv : MmwaveDev} {waitRet : Int}
    (ticks : Nat) (h : ¬Accepts priv.rxbuf waitRet) :
    (mmwaveProcessDataFrame tickPerSec priv waitRet ticks).1 = priv ∧
      (mmwaveProcessDataFrame tickPerSec priv waitRet ticks).2 ≠ .ok := by
  by_cases ht : priv.rxbuf.getD 6 0 ≠ 0x02 ∧ priv.rxbuf.getD 6 0 ≠ 0x01
  · rw [mmwaveProcessDataFrame, if_pos ht]; exact ⟨rfl, nofun⟩
  by_cases hh : priv.rxbuf.getD 7 0 ≠ 0xAA
  · rw [mmwaveProcessDataFrame, if_neg ht, if_pos hh]; exact ⟨rfl, nofun⟩
  by_cases hw : waitRet < 0
  · rw [mmwaveProcessDataFrame, if_neg ht, if_neg hh, if_pos hw]; exact ⟨rfl, nofun⟩
  exact absurd ⟨by tauto, not_not.mp hh, by omega⟩ h

/-- A pass of the poll loop, given what the parser did with its byte. -/
theorem pollRead_of_parseByte {tickPerSec : Nat} {d d₁ : MmwaveDev} {r : PollRead} {c : Nat}
    (hp : mmwaveParseByte d r.byte = some (d₁, c)) :
    mmwavePollRead tickPerSec d r =
      some (if c ≠ 0 then ((mmwaveProcessDataFrame tickPerSec d₁ r.waitRet r.ticks).1,
          some (d₁.rxbuf, (mmwaveProcessDataFrame tickPerSec d₁ r.waitRet r.ticks).2))
        else (d₁, none)) := by
  simp only [mmwavePollRead, hp, Option.bind_eq_bind, Option.some_bind]
  split_ifs <;> rfl

/-- **The poll loop runs the parser.** Over passes whose bytes complete no frame, the loop is
the parser fed those bytes: it decodes nothing and goes on from where the parser stops. -/
theorem pollTask_of_feed (tickPerSec : Nat) {d d' : MmwaveDev} (h : ParserInv d)
    {rs : List PollRead}
    (hf : mmwaveFeed d (rs.map PollRead.byte) = some (d', List.replicate rs.length none))
    (rs' : List PollRead) :
    mmwavePollTask tickPerSec d (rs ++ rs') =
      (mmwavePollTask tickPerSec d' rs').map fun q => (q.1, List.replicate rs.length none ++ q.2) := by
  induction rs generalizing d with
  | nil => cases hf; rw [List.nil_append]; cases mmwavePollTask tickPerSec d' rs' <;> rfl
  | cons r rs ih =>
    obtain ⟨d₁, c, hp, hi, -, hc⟩ := parseByte_inv h r.byte
    rw [List.map_cons, mmwaveFeed_cons _ hp] at hf
    obtain ⟨⟨d₂, outs⟩, hf₁, hq⟩ := Option.map_eq_some'.mp hf
    simp only [List.length_cons, List.replicate_succ, Prod.mk.injEq, List.cons.injEq] at hq
    obtain ⟨rfl, hnone, rfl⟩ := hq
    have hc0 : c = 0 := hc.resolve_right fun ⟨h1, _⟩ => by simp [h1] at hnone
    subst hc0
    rw [List.cons_append, mmwavePollTask, pollRead_of_parseByte hp, if_neg (not_not.mpr rfl)]
    simp only [Option.bind_eq_bind, Option.some_bind]
    rw [ih hi hf₁]
    cases mmwavePollTask tickPerSec d₂ rs' <;> rfl

/-! ## §3 The Reading over a Run -/

/-- What the decoder saw at a completed frame: `rxbuf`, `frame_len` and `eng_mode` as it read
them, the timestamp it assigns, and what it returned. -/
structure Decoded where
  buf : List UInt8
  frameLen : Nat
  engMode : Bool
  ts : UInt32
  ret : DrvRet

/-- The frame the pass `p` of the poll loop decoded, if any; the decoder leaves `frame_len` and
`eng_mode` as it read them. -/
def Decoded.ofPass (tickPerSec : Nat) (r : PollRead) (p : MmwaveDev × PollEvent) :
    Option Decoded :=
  p.2.map fun e => ⟨e.1, p.1.frameLen, p.1.engMode, timestampMs tickPerSec r.ticks, e.2⟩

theorem ofPass_map (tickPerSec : Nat) (r : PollRead) (p : MmwaveDev × PollEvent) :
    (Decoded.ofPass tickPerSec r p).map (fun e => (e.buf, e.ret)) = p.2 := by
  obtain ⟨_, _ | _⟩ := p <;> rfl

/-- A frame that fills the engineering reading: type `0x01`, decoded while `eng_mode` is set. -/
def Decoded.fillsEng (e : Decoded) : Bool := e.engMode && e.buf.getD 6 0 == 0x01

/-- After one more decoded frame, the last accepted frame satisfying `p`. -/
def nextAccepted (p : Decoded → Bool) (last : Option Decoded) : Option Decoded → Option Decoded
  | some e => if e.ret = .ok ∧ p e = true then some e else last
  | none => last

/-- The last accepted frame satisfying `p` among `evs`; `last` when there is none. -/
def lastAccepted (p : Decoded → Bool) (last : Option Decoded) (evs : List (Option Decoded)) :
    Option Decoded :=
  evs.foldl (nextAccepted p) last

theorem nextAccepted_or (p : Decoded → Bool) (last ev : Option Decoded) :
    nextAccepted p last ev = (nextAccepted p none ev).or last := by
  cases ev with
  | none => rfl
  | some e => dsimp only [nextAccepted]; split_ifs <;> rfl

/-- The last accepted frame is the one given at the start or an accepted frame of the run. -/
theorem lastAccepted_mem {p : Decoded → Bool} {last : Option Decoded}
    {evs : List (Option Decoded)} {e : Decoded} (h : lastAccepted p last evs = some e) :
    last = some e ∨ some e ∈ evs ∧ e.ret = .ok := by
  induction evs generalizing last with
  | nil => exact .inl h
  | cons ev evs ih =>
    rcases ih h with h' | ⟨h', hok⟩
    · cases ev with
      | none => exact .inl h'
      | some e' =>
        dsimp only [nextAccepted] at h'
        split_ifs at h' with hc
        · cases h'; exact .inr ⟨List.mem_cons_self _ _, hc.1⟩
        · exact .inl h'
    · exact .inr ⟨List.mem_cons_of_mem _ h', hok⟩

/-- The engineering reading `x` after the frame `e` filled it: its reading part decoded from
`e` with `e`'s timestamp, and each gate below its loop's bound (`frame_len - 15` for the motion
gates, `frame_len - 24` for the static ones) copied from the payload; the gates above the
bound keep what an earlier frame left. -/
structure FilledBy (x : MmwaveEngData) (e : Decoded) : Prop where
  basic : x.basic = decodeReading e.buf e.ts
  motion : ∀ j < ld2410MaxGates, (j : Int) < e.frameLen - 15 →
    x.motionGateEnergy[j]? = some (e.buf.getD (6 + 11 + j) 0)
  static : ∀ j < ld2410MaxGates, (j : Int) < e.frameLen - 24 →
    x.staticGateEnergy[j]? = some (e.buf.getD (6 + 11 + ld2410MaxGates + j) 0)

theorem fill_filledBy (x : MmwaveEngData) (e : Decoded) :
    FilledBy (x.fill (decodeReading e.buf e.ts) e.buf e.frameLen) e where
  basic := rfl
  motion j hj hl := by
    simp only [MmwaveEngData.fill]
    rw [gateLoop_getElem? x.motionGateEnergy_length (Nat.le_add_left _ _), if_pos ⟨Nat.zero_le _, hj, hl⟩]
  static j hj hl := by
    simp only [MmwaveEngData.fill]
    rw [gateLoop_getElem? x.staticGateEnergy_length (Nat.le_add_left _ _), if_pos ⟨Nat.zero_le _, hj, hl⟩]

/-- The reading fields of `d` come from the frames the decoder accepted last: `ld` the last of
all, `le` the last that filled the engineering reading; where there is none they are those of
`d₀`. -/
structure Reflects (d₀ d : MmwaveDev) (ld le : Option Decoded) : Prop where
  data : match ld with
    | none => d.data = d₀.data ∧ d.dataValid = d₀.dataValid
    | some e => d.dataValid = true ∧ d.data = decodeReading e.buf e.ts
  eng : match le with
    | none => d.engData = d₀.engData
    | some e => FilledBy d.engData e

theorem Reflects.refl (d : MmwaveDev) : Reflects d d none none := ⟨⟨rfl, rfl⟩, rfl⟩

/-- A state with the reading fields of `d` reflects what `d` reflects. -/
theorem Reflects.of_fields {d₀ d d' : MmwaveDev} {ld le : Option Decoded}
    (h : Reflects d₀ d ld le) (hd : d'.data = d.data) (hv : d'.dataValid = d.dataValid)
    (he : d'.engData = d.engData) : Reflects d₀ d' ld le := by
  obtain ⟨h1, h2⟩ := h
  refine ⟨?_, ?_⟩
  · cases ld <;> simpa [hd, hv] using h1
  · cases le <;> simpa [he] using h2

/-- Reflecting from `d` on top of reflecting up to `d`: a later accepted frame replaces the
earlier one. -/
theorem Reflects.trans {d₀ d d' : MmwaveDev} {ld le x y : Option Decoded}
    (h : Reflects d₀ d ld le) (h' : Reflects d d' x y) : Reflects d₀ d' (x.or ld) (y.or le) := by
  obtain ⟨hd, he⟩ := h'
  obtain ⟨h1, h2⟩ := h
  constructor
  · cases x with
    | none => obtain ⟨e1, e2⟩ := hd; cases ld <;> simpa [e1, e2] using h1
    | some _ => exact hd
  · cases y with
    | none => cases le <;> simpa [he] using h2
    | some _ => exact he

/-- One step of a run: reflecting the frames the step decoded on top of the run before it. -/
theorem Reflects.step {d₀ d d' : MmwaveDev} {ld le ev : Option Decoded}
    (h : Reflects d₀ d ld le)
    (h' : Reflects d d' (nextAccepted (fun _ => true) none ev) (nextAccepted Decoded.fillsEng none ev)) :
    Reflects d₀ d' (nextAccepted (fun _ => true) ld ev) (nextAccepted Decoded.fillsEng le ev) := by
  rw [nextAccepted_or _ ld, nextAccepted_or _ le]
  exact h.trans h'

/-- **One pass of the poll loop.** From a state of `ParserInv` the pass ends in one, and the
reading fields after it reflect the frame it accepted, if any. -/
theorem pollRead_reflects (tickPerSec : Nat) {d : MmwaveDev} (h : ParserInv d) (r : PollRead) :
    ∃ p, mmwavePollRead tickPerSec d r = some p ∧ ParserInv p.1 ∧
      Reflects d p.1 (nextAccepted (fun _ => true) none (Decoded.ofPass tickPerSec r p))
        (nextAccepted Decoded.fillsEng none (Decoded.ofPass tickPerSec r p)) := by
  obtain ⟨d₁, c, hp, hi, hr, -⟩ := parseByte_inv h r.byte
  simp only [MmwaveDev.reading, Prod.mk.injEq] at hr
  obtain ⟨hd, he, hm, hv⟩ := hr
  have hR₁ : Reflects d d₁ none none := (Reflects.refl d).of_fields hd hv he
  rw [pollRead_of_parseByte hp]
  by_cases hc : c = 0
  · exact ⟨_, by rw [if_neg (not_not.mpr hc)], hi, hR₁⟩
  rw [if_pos (show c ≠ 0 from hc)]
  by_cases ha : Accepts d₁.rxbuf r.waitRet
  · rw [processDataFrame_of_accepts _ ha]
    refine ⟨_, rfl, hi, ⟨⟨rfl, rfl⟩, ?_⟩⟩
    by_cases hE : d₁.rxbuf.getD 6 0 = 0x01 ∧ d₁.engMode = true
    · simp only [Decoded.ofPass, Option.map_some', nextAccepted, Decoded.fillsEng, hE, if_pos hE,
        beq_self_eq_true, Bool.and_self, and_self, if_true]
      exact fill_filledBy d₁.engData ⟨d₁.rxbuf, d₁.frameLen, true, _, .ok⟩
    · have hn : (d₁.engMode && d₁.rxbuf.getD 6 0 == 0x01) = false := by
        cases hE' : d₁.engMode <;> simp_all
      simp only [Decoded.ofPass, Option.map_some', nextAccepted, Decoded.fillsEng, hn, if_neg hE]
      exact he
  · obtain ⟨h1, h2⟩ := processDataFrame_of_not_accepts r.ticks ha
    refine ⟨_, rfl, by rw [h1]; exact hi, ?_⟩
    simp only [Decoded.ofPass, Option.map_some', nextAccepted, h2, false_and, if_false]
    rw [h1]; exact hR₁

/-- **The reading fields over a run.** A run of the poll loop from a state of `ParserInv` does
not fail, and the reading fields at its end reflect the last frames it accepted, among the
frames its passes decoded. -/
theorem pollTask_reflects (tickPerSec : Nat) {d₀ d : MmwaveDev} {ld le : Option Decoded}
    (h : ParserInv d) (hR : Reflects d₀ d ld le) (rs : List PollRead) :
    ∃ d' evs ds, mmwavePollTask tickPerSec d rs = some (d', evs) ∧
      ds.map (Option.map fun e => (e.buf, e.ret)) = evs ∧
      Reflects d₀ d' (lastAccepted (fun _ => true) ld ds) (lastAccepted Decoded.fillsEng le ds) := by
  induction rs generalizing d ld le with
  | nil => exact ⟨d, [], [], rfl, rfl, hR⟩
  | cons r rs ih =>
    obtain ⟨p, h₁, hi₁, hR₁⟩ := pollRead_reflects tickPerSec h r
    obtain ⟨d', evs, ds, h', hds, hR'⟩ := ih hi₁ (hR.step hR₁)
    refine ⟨d', p.2 :: evs, Decoded.ofPass tickPerSec r p :: ds, ?_, ?_, hR'⟩
    · simp only [mmwavePollTask, h₁, h', Option.bind_eq_bind, Option.some_bind]; rfl
    · rw [List.map_cons, ofPass_map, hds]

/-! ## §4 Ranges of the Reading -/

/-- The ranges of the spec's `Reading`: a target state among the four `LD2410_TARGET_*` values
and energies of at most 100. -/
def MmwaveData.InRange (r : MmwaveData) : Prop :=
  r.targetState ∈ [ld2410TargetNone, ld2410TargetMotion, ld2410TargetStatic, ld2410TargetBoth] ∧
    r.motionEnergy ≤ 100 ∧ r.staticEnergy ≤ 100

instance (r : MmwaveData) : Decidable r.InRange := by unfold MmwaveData.InRange; infer_instance

end MmwaveOs
