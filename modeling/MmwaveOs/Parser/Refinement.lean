import MmwaveOs.Parser.Reference

/-!
# `mmwave_parse_byte` Refines the Reference Decoder

The parser reads a stream one byte at a time and keeps in `rxbuf` only the bytes it has not
yet decided about: the *pending* bytes. `Pending d P` says the device `d` holds `P` at the
front of `rxbuf` in the parse state `P` calls for.

The refinement is proved in two layers:
- §2 `stepSim`: one call on pending `P` followed by byte `b` answers what the reference
  answers at that byte of `P ++ b :: S`, whatever `S` follows, and leaves new pending bytes;
  one lemma per parse state, each built from the transition lemmas of `ParseByte`
- §3 `feed_pending` by induction over the stream, and the main theorem
  `parseByte_refines_specDecode`: from the initial state the per-byte outputs of the parser
  are those of `specDecode`, and the two frame counters grow by its frames and errors
-/

namespace MmwaveOs

open ParseResult MmwaveDev

/-! ## §1 Pending Bytes -/

/-- What the pending bytes look like in each parse state: at most three bytes of the header
window; a magic and at most one length byte; a magic, both length bytes (`frame_len`, at most
54) and fewer than `frame_len + 4` payload and tail bytes. -/
inductive PendingShape : ParseState → Nat → List UInt8 → Prop
  | header {L : Nat} {P : List UInt8} : P.length ≤ 3 → PendingShape .parseHeader L P
  | length {L : Nat} {m0 m1 m2 m3 : UInt8} {q : List UInt8} :
      isMagic [m0, m1, m2, m3] = true → q.length ≤ 1 →
      PendingShape .parseLength L (m0 :: m1 :: m2 :: m3 :: q)
  | payload {m0 m1 m2 m3 l0 l1 : UInt8} {q : List UInt8} :
      isMagic [m0, m1, m2, m3] = true → le16 l0 l1 ≤ 54 → q.length < le16 l0 l1 + 4 →
      PendingShape .parsePayload (le16 l0 l1) (m0 :: m1 :: m2 :: m3 :: l0 :: l1 :: q)

/-- The device holds the pending bytes `P` at the front of `rxbuf`. -/
structure Pending (d : MmwaveDev) (P : List UInt8) : Prop where
  front : d.rxbuf.take d.rxpos = P
  pos : d.rxpos = P.length
  shape : PendingShape d.parseState d.frameLen P

theorem take_set_succ {l : List UInt8} {n : Nat} (h : n < l.length) (a : UInt8) :
    (l.set n a).take (n + 1) = l.take n ++ [a] := by
  rw [List.set_eq_take_append_cons_drop, if_pos h, List.take_append_eq_append_take]
  simp [Nat.min_eq_left h.le, Nat.succ_sub (Nat.min_le_left n l.length)]

/-- Storing `b` at `rxpos` appends it to the pending bytes. -/
theorem Pending.front_set {d : MmwaveDev} {P : List UInt8} (h : Pending d P)
    (hp : d.rxpos < ld2410MaxFrameLen) (b : UInt8) :
    (d.rxbuf.set d.rxpos b).take (d.rxpos + 1) = P ++ [b] := by
  rw [take_set_succ (by rw [d.rxbuf_length]; exact hp), h.front]

/-- A list that starts with `a` after `n` elements, dropped by `n`. -/
theorem drop_eq_cons_of_getElem? {α : Type} {l : List α} {n : Nat} {a : α}
    (h : l[n]? = some a) : l.drop n = a :: l.drop (n + 1) := by
  obtain ⟨hn, rfl⟩ := List.getElem?_eq_some_iff.mp h
  exact List.drop_eq_getElem_cons hn

/-! ## §2 One Call Against the Reference -/

/-- One call on pending bytes `P` and next byte `b` answers the reference's result `o` at that
byte of `P ++ b :: S`, moves the counters as `o` says, and leaves pending bytes `P₁` from
which the reference continues. -/
def StepSim (d : MmwaveDev) (P : List UInt8) (b : UInt8) (S : List UInt8) : Prop :=
  ∃ d₁ r P₁ o, mmwaveParseByte d b = some (d₁, r) ∧ Pending d₁ P₁ ∧
    (specDecode (P ++ b :: S)).drop P.length = o :: (specDecode (P₁ ++ S)).drop P₁.length ∧
    (if r = 1 then some d₁.frame else none) = o.frame? ∧
    d₁.framesOk = (if o.isComplete then d.framesOk + 1 else d.framesOk) ∧
    d₁.framesErr = (if o.isError then d.framesErr + 1 else d.framesErr)

/-- A call that only stores `b` and answers `incomplete`, where the reference answers
`incomplete` too. -/
private theorem stepSim_store {d d₁ : MmwaveDev} {P : List UInt8} {b : UInt8} {S : List UInt8}
    (hstep : mmwaveParseByte d b = some (d₁, 0)) (hpend : Pending d₁ (P ++ [b]))
    (hok : d₁.framesOk = d.framesOk) (herr : d₁.framesErr = d.framesErr)
    (href : (specDecode (P ++ b :: S))[P.length]? = some incomplete) :
    StepSim d P b S := by
  refine ⟨d₁, 0, P ++ [b], incomplete, hstep, hpend, ?_, rfl, hok, herr⟩
  rw [drop_eq_cons_of_getElem? href]
  simp

/-- Seeking the header. -/
theorem stepSim_header {d : MmwaveDev} {P : List UInt8} (h : Pending d P)
    (hs : d.parseState = .parseHeader) (b : UInt8) (S : List UInt8) : StepSim d P b S := by
  have h3 : P.length ≤ 3 := by have := h.shape; rw [hs] at this; cases this; assumption
  have hP := h.pos
  rcases Nat.lt_or_ge P.length 3 with hlt | hge
  · -- the window is not full: store the byte
    refine stepSim_store (parseByte_header_fill hs (by omega)) ⟨?_, ?_, ?_⟩ rfl rfl
      (specDecode_getElem?_of_lt_five (P ++ b :: S) (by omega) (by simp))
    · simpa using h.front_set (by unfold ld2410MaxFrameLen; omega) b
    · simp [hP]
    · simp only [setRx_parseState, hs]; exact .header (by simp; omega)
  · -- the fourth byte: a magic, or slide the window
    obtain ⟨p0, p1, p2, rfl⟩ : ∃ p0 p1 p2, P = [p0, p1, p2] := by
      match P, show P.length = 3 by omega with | [p0, p1, p2], _ => exact ⟨p0, p1, p2, rfl⟩
    have hp3 : d.rxpos = 3 := hP
    have hw : (d.rxbuf.set 3 b).take 4 = [p0, p1, p2, b] := by
      simpa [hp3] using h.front_set (by unfold ld2410MaxFrameLen; omega) b
    cases hm : isMagic [p0, p1, p2, b]
    · refine ⟨_, 0, [p1, p2, b], incomplete,
        parseByte_header_slide hs hp3 (by rw [hw, hm]), ⟨?_, rfl, ?_⟩, ?_, rfl, rfl, rfl⟩
      · simpa [hw] using (d.setRx 3 b).slide_take
      · simp only [MmwaveDev.slide, setRx_parseState, hs]; exact .header (by simp)
      · rw [show [p0, p1, p2] ++ b :: S = p0 :: ([p1, p2] ++ b :: S) from rfl,
          specDecode_junk (by simpa using hm)]
        exact drop_eq_cons_of_getElem? (n := 2)
          (specDecode_getElem?_of_lt_five ([p1, p2, b] ++ S) (by omega) (by simp))
    · refine stepSim_store (parseByte_header_match hs hp3 (by rw [hw, hm])) ⟨?_, ?_, ?_⟩ rfl rfl
        (specDecode_getElem?_of_lt_five ([p0, p1, p2] ++ b :: S) (by omega) (by simp))
      · simpa using hw
      · rfl
      · exact .length hm (by simp)

/-- Reading the length. -/
theorem stepSim_length {d : MmwaveDev} {P : List UInt8} (h : Pending d P)
    (hs : d.parseState = .parseLength) (b : UInt8) (S : List UInt8) : StepSim d P b S := by
  have hsh := h.shape
  rw [hs] at hsh
  generalize d.frameLen = L at hsh
  cases hsh with
  | @length L m0 m1 m2 m3 q hm hq =>
  have hP := h.pos
  rcases q with _ | ⟨l0, _ | ⟨_, _⟩⟩
  · -- the first length byte
    refine stepSim_store (parseByte_length_first hs (by simpa using hP)) ⟨?_, ?_, ?_⟩ rfl rfl
      (specDecode_getElem?_of_lt_five _ (by simp) (by simp))
    · simpa [hP] using h.front_set (by simp [hP, ld2410MaxFrameLen]) b
    · simp [hP]
    · simp only [setRx_parseState, hs]; exact .length hm (by simp)
  · -- the second length byte decides
    have hp5 : d.rxpos = 5 := by simpa using hP
    have h4 : d.rxbuf.getD 4 0 = l0 := by
      have := congrArg (fun l => l.getD 4 0) h.front
      simpa [hp5, List.getD_eq_getElem?_getD, List.getElem?_take] using this
    by_cases hL : 54 < le16 l0 b
    · -- oversized: an error, and the parser resets
      have hstep := parseByte_length_second (b := b) hs hp5
      rw [h4, if_pos hL] at hstep
      refine ⟨_, 0, [], error, hstep, ⟨by simp, by simp, .header (by simp)⟩, ?_, rfl, rfl, rfl⟩
      show (specDecode (m0 :: m1 :: m2 :: m3 :: l0 :: b :: S)).drop 5 = _
      rw [specDecode, if_pos hm, if_pos hL]
      rfl
    · -- the payload follows
      have hstep := parseByte_length_second (b := b) hs hp5
      rw [h4, if_neg hL] at hstep
      refine stepSim_store hstep ⟨?_, ?_, ?_⟩ rfl rfl
        (specDecode_frame_getElem? hm (by omega) (by omega) (by omega))
      · simpa [hp5] using h.front_set (by simp [hp5, ld2410MaxFrameLen]) b
      · simp
      · exact .payload (q := []) hm (by omega) (by simp)
  · simp at hq

/-- Reading payload and terminator. -/
theorem stepSim_payload {d : MmwaveDev} {P : List UInt8} (h : Pending d P)
    (hs : d.parseState = .parsePayload) (b : UInt8) (S : List UInt8) : StepSim d P b S := by
  have hsh := h.shape
  rw [hs] at hsh
  generalize hLd : d.frameLen = L at hsh
  cases hsh with
  | @payload m0 m1 m2 m3 l0 l1 q hm hL hq =>
  have hP : d.rxpos = 6 + q.length := by simp [h.pos]; omega
  have hw := h.front_set (by unfold ld2410MaxFrameLen; omega) b
  rcases Nat.lt_or_ge (q.length + 1) (le16 l0 l1 + 4) with hmore | hlast
  · -- a payload or terminator byte before the last
    refine stepSim_store (parseByte_payload_more hs (by omega) (by unfold ld2410MaxFrameLen; omega))
      ⟨?_, ?_, ?_⟩ rfl rfl (specDecode_frame_getElem? hm hL (by simp; omega) (by simp; omega))
    · simpa using hw
    · simp [hP]; omega
    · simp only [setRx_parseState, setRx_frameLen, hs, hLd]
      exact .payload (q := q ++ [b]) hm hL (by simp; omega)
  · -- the last terminator byte: emit or count an error, and reset
    have hq4 : (q ++ [b]).length = le16 l0 l1 + 4 := by simp; omega
    have hw' : (d.rxbuf.set d.rxpos b).take (10 + d.frameLen) =
        m0 :: m1 :: m2 :: m3 :: l0 :: l1 :: (q ++ [b]) := by
      rw [show 10 + d.frameLen = d.rxpos + 1 by omega, hw]; simp
    have hhead : (d.rxbuf.set d.rxpos b).take 4 = [m0, m1, m2, m3] := by
      have := congrArg (List.take 4) hw'
      rwa [List.take_take, Nat.min_eq_left (by omega)] at this
    have htail : ((d.rxbuf.set d.rxpos b).drop (6 + d.frameLen)).take 4 =
        (q ++ [b]).drop (le16 l0 l1) := by
      have := congrArg (List.drop (6 + d.frameLen)) hw'
      rw [List.drop_take, show 10 + d.frameLen - (6 + d.frameLen) = 4 by omega] at this
      rw [this, hLd, show 6 + le16 l0 l1 = le16 l0 l1 + 1 + 1 + 1 + 1 + 1 + 1 by omega]; rfl
    have hstep := parseByte_payload_last (b := b) hs (by omega) (by omega)
    rw [hhead, htail] at hstep
    have href := specDecode_frame_last S hm hL hq4
    rw [List.cons_append, List.cons_append, List.cons_append, List.cons_append, List.cons_append,
      List.cons_append, List.append_assoc] at href
    split_ifs at hstep href with ht
    · -- the terminator matches: the frame is emitted
      refine ⟨_, 1, [], complete (m0 :: m1 :: m2 :: m3 :: l0 :: l1 :: (q ++ [b])), hstep,
        ⟨by simp, by simp, .header (by simp)⟩, ?_, ?_, rfl, rfl⟩
      · show List.drop _ (specDecode (m0 :: m1 :: m2 :: m3 :: l0 :: l1 :: (q ++ ([b] ++ S)))) = _
        rw [href, List.drop_left' (by simp; omega)]
        simp
      · simp [MmwaveDev.frame, hw', ParseResult.frame?]
    · -- the terminator does not match: an error
      refine ⟨_, 0, [], error, hstep, ⟨by simp, by simp, .header (by simp)⟩, ?_, rfl, rfl, rfl⟩
      show List.drop _ (specDecode (m0 :: m1 :: m2 :: m3 :: l0 :: l1 :: (q ++ ([b] ++ S)))) = _
      rw [href, List.drop_left' (by simp; omega)]
      simp

/-- Every call from a state holding pending bytes matches the reference. -/
theorem Pending.stepSim {d : MmwaveDev} {P : List UInt8} (h : Pending d P) (b : UInt8)
    (S : List UInt8) : StepSim d P b S := by
  cases hs : d.parseState with
  | parseHeader => exact stepSim_header h hs b S
  | parseLength => exact stepSim_length h hs b S
  | parsePayload => exact stepSim_payload h hs b S
  | parseTail => have := h.shape; rw [hs] at this; cases this

/-! ## §3 Whole Streams -/

/-- A `uint32_t` counter bumped when `p` holds, then advanced by `n`. -/
theorem bump_toNat (c : UInt32) (p : Bool) (n : Nat) :
    ((if p then c + 1 else c).toNat + n) % 2 ^ 32 =
      (c.toNat + (n + if p then 1 else 0)) % 2 ^ 32 := by
  cases p
  · simp
  · simp only [if_true, UInt32.toNat_add_one, Nat.mod_add_mod]; congr 1; omega

/-- From a state holding pending bytes `P`, the parser's outputs on the rest `S` of the stream
are the reference's results on `P ++ S` after `P`. -/
theorem feed_pending {d : MmwaveDev} {P : List UInt8} (h : Pending d P) (S : List UInt8) :
    ∃ d', mmwaveFeed d S =
        some (d', ((specDecode (P ++ S)).drop P.length).map ParseResult.frame?) ∧
      d'.framesOk.toNat = (d.framesOk.toNat +
        ((specDecode (P ++ S)).drop P.length).countP ParseResult.isComplete) % 2 ^ 32 ∧
      d'.framesErr.toNat = (d.framesErr.toNat +
        ((specDecode (P ++ S)).drop P.length).countP ParseResult.isError) % 2 ^ 32 := by
  induction S generalizing d P with
  | nil =>
    have hnil : (specDecode (P ++ [])).drop P.length = [] := by simp
    refine ⟨d, by rw [hnil]; rfl, ?_, ?_⟩ <;> rw [hnil] <;>
      simp [Nat.mod_eq_of_lt (UInt32.toNat_lt_size _)]
  | cons b S ih =>
    obtain ⟨d₁, r, P₁, o, hstep, hpend, hdrop, hout, hok, herr⟩ := h.stepSim b S
    obtain ⟨d', hfeed, hok', herr'⟩ := ih hpend
    refine ⟨d', ?_, ?_, ?_⟩
    · rw [mmwaveFeed_cons S hstep, hfeed, hdrop, hout]; rfl
    · rw [hok', hok, bump_toNat, hdrop, List.countP_cons]
    · rw [herr', herr, bump_toNat, hdrop, List.countP_cons]

/-- **The parser refines the reference decoder of spec §4.1.** Fed any byte stream `S` from the
initial state (`PARSE_HEADER`, `rxpos = 0`), `mmwave_parse_byte` returns 1 exactly on the last
byte of each frame `specDecode` emits, with that frame in `rxbuf[0 .. 10 + frame_len)`; and
`frames_ok` and `frames_err` grow, modulo 2^32, by the numbers of frames and of errors of
`specDecode S`. -/
theorem parseByte_refines_specDecode (d : MmwaveDev) (hs : d.parseState = .parseHeader)
    (hp : d.rxpos = 0) (S : List UInt8) :
    ∃ d', mmwaveFeed d S = some (d', (specDecode S).map ParseResult.frame?) ∧
      d'.framesOk.toNat =
        (d.framesOk.toNat + (specDecode S).countP ParseResult.isComplete) % 2 ^ 32 ∧
      d'.framesErr.toNat =
        (d.framesErr.toNat + (specDecode S).countP ParseResult.isError) % 2 ^ 32 :=
  feed_pending (P := []) ⟨by simp [hp], hp, by rw [hs]; exact .header (by simp)⟩ S

/-- The registered device starts in the initial parser state; here fed an empty data frame. -/
theorem parseByte_refines_specDecode_registered :
    mmwaveLd2410Register.parseState = .parseHeader ∧ mmwaveLd2410Register.rxpos = 0 ∧
    ∃ d', mmwaveFeed mmwaveLd2410Register [0xF1, 0xF2, 0xF3, 0xF4, 0x00, 0x00, 0xF5, 0xF6, 0xF7, 0xF8] =
        some (d', (specDecode [0xF1, 0xF2, 0xF3, 0xF4, 0x00, 0x00, 0xF5, 0xF6, 0xF7, 0xF8]).map
          ParseResult.frame?) ∧
      d'.framesOk.toNat = (mmwaveLd2410Register.framesOk.toNat + (specDecode
        [0xF1, 0xF2, 0xF3, 0xF4, 0x00, 0x00, 0xF5, 0xF6, 0xF7, 0xF8]).countP
          ParseResult.isComplete) % 2 ^ 32 ∧
      d'.framesErr.toNat = (mmwaveLd2410Register.framesErr.toNat + (specDecode
        [0xF1, 0xF2, 0xF3, 0xF4, 0x00, 0x00, 0xF5, 0xF6, 0xF7, 0xF8]).countP
          ParseResult.isError) % 2 ^ 32 :=
  ⟨rfl, rfl, parseByte_refines_specDecode mmwaveLd2410Register rfl rfl _⟩

end MmwaveOs
