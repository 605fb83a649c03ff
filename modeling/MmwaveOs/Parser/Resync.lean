import MmwaveOs.Parser.Refinement

/-!
# Resynchronisation on a Garbage Prefix

Spec §8 asks that bytes inserted before a valid frame never stop the frame from being
emitted. The parser does not rewind: once a magic and a length are read it consumes the next
`frame_len + 4` bytes as that frame, whatever they are. So a prefix that ends inside a frame,
such as a frame cut short by a partial write, can swallow the first bytes of the next frame
(`garbage_prefix_swallows_frame`). What holds is the statement for prefixes after which the
parser is seeking a header again (`frame_emitted_after_seeking_prefix`): its window of at most
three bytes cannot start a magic that overlaps the next frame's magic.
-/

namespace MmwaveOs

open ParseResult

/-! ## §1 The Reference on a Well-Formed Frame -/

/-- The reference emits a well-formed frame on its last byte and goes on after it. -/
theorem specDecode_wireFrame (f : WireFrame) (S : List UInt8) :
    specDecode (f.bytes ++ S) =
      List.replicate (9 + f.payload.length) incomplete ++ complete f.bytes :: specDecode S := by
  obtain ⟨fam, pl, hpl⟩ := f
  have hlen := le16_lenBytes (show pl.length < 65536 by omega)
  cases fam <;>
  · refine (specDecode_frame_last (q := pl ++ _) S ?_ ?_ ?_).trans ?_
    · rfl
    · rwa [hlen]
    · rw [hlen, List.length_append]; rfl
    · rw [hlen, List.drop_left]; rfl

/-- A window that holds a magic's first byte past its own first byte is no magic: the two
magics share no byte and repeat none. -/
private theorem not_isMagic_shifted (a : UInt8) {w : List UInt8} (hw : w.length ≤ 2) (fam : Family)
    (r : List UInt8) : isMagic ((a :: (w ++ (fam.magic ++ r))).take 4) = false := by
  match w, hw with
  | [], _ | [_], _ | [_, _], _ =>
    cases fam <;> simp [isMagic, Family.magic, dataMagic, cmdMagic]

/-- Before a well-formed frame the reference skips a window of up to three bytes. -/
theorem specDecode_window_wireFrame {w : List UInt8} (hw : w.length ≤ 3) (f : WireFrame)
    (S : List UInt8) :
    specDecode (w ++ (f.bytes ++ S)) =
      List.replicate w.length incomplete ++ specDecode (f.bytes ++ S) := by
  induction w with
  | nil => rfl
  | cons a w ih =>
    have hm := not_isMagic_shifted a (show w.length ≤ 2 by simp at hw; omega) f.family
      (lenBytes f.payload.length ++ f.payload ++ f.family.terminator ++ S)
    simp only [WireFrame.bytes, List.append_assoc] at hm ih ⊢
    rw [List.cons_append, specDecode_junk hm, ih (by simp at hw; omega)]
    rfl

/-! ## §2 The Parser After a Prefix -/

/-- A parser seeking a header has the bytes of its window pending. -/
theorem pending_of_header {d : MmwaveDev} (hs : d.parseState = .parseHeader)
    (hp : d.rxpos ≤ 3) : Pending d (d.rxbuf.take d.rxpos) where
  front := rfl
  pos := by simp [d.rxbuf_length, ld2410MaxFrameLen]; omega
  shape := by rw [hs]; exact .header (by simp; omega)

/-- A parser seeking a header with an empty window emits a well-formed frame on its last byte
and on no other. -/
theorem mmwaveFeed_wireFrame {d : MmwaveDev} (hs : d.parseState = .parseHeader) (hp : d.rxpos = 0)
    (f : WireFrame) :
    ∃ d', mmwaveFeed d f.bytes =
      some (d', List.replicate (9 + f.payload.length) none ++ [some f.bytes]) := by
  have hP := pending_of_header hs (by omega)
  rw [hp, List.take_zero] at hP
  obtain ⟨d', hf, -, -⟩ := feed_pending hP f.bytes
  refine ⟨d', ?_⟩
  rw [hf, List.nil_append, List.length_nil, List.drop_zero, ← List.append_nil f.bytes,
    specDecode_wireFrame, specDecode_short (s := []) (by simp)]
  simp [frame?]

/-- **Resynchronisation.** Feed a fresh parser any prefix `g` after which it is seeking a
header again, then a well-formed frame `f`: `mmwave_parse_byte` returns 0 on every byte of `f`
but the last and 1 on the last, with `rxbuf[0 .. 10 + frame_len)` holding `f`. -/
theorem frame_emitted_after_seeking_prefix (d₀ : MmwaveDev)
    (hs₀ : d₀.parseState = .parseHeader) (hp₀ : d₀.rxpos = 0) (g : List UInt8) (f : WireFrame)
    (d : MmwaveDev) (outs : List (Option (List UInt8))) (hg : mmwaveFeed d₀ g = some (d, outs))
    (hs : d.parseState = .parseHeader) :
    ∃ d', mmwaveFeed d₀ (g ++ f.bytes) =
      some (d', outs ++ (List.replicate (9 + f.payload.length) none ++ [some f.bytes])) := by
  obtain ⟨d₁, outs₁, hg₁, hinv⟩ := mmwaveFeed_inv (.inl ⟨hs₀, by omega⟩ : ParserInv d₀) g
  obtain ⟨rfl, rfl⟩ := Prod.mk.inj (Option.some.inj (hg₁.symm.trans hg))
  have hp : d₁.rxpos ≤ 3 := by
    rcases hinv with ⟨-, h⟩ | ⟨h, -⟩ | ⟨h, -⟩ <;> simp_all
  have hP := pending_of_header hs hp
  obtain ⟨d', hf, -, -⟩ := feed_pending hP f.bytes
  have key := specDecode_window_wireFrame (by rw [← hP.pos]; exact hp) f []
  rw [specDecode_wireFrame, specDecode_short (s := []) (by simp), List.append_nil] at key
  refine ⟨d', ?_⟩
  rw [mmwaveFeed_append hg, hf, key, List.drop_left' (List.length_replicate _ _)]
  simp [frame?]

/-- One junk byte before an empty data frame. -/
theorem frame_emitted_after_seeking_prefix_junk :
    mmwaveFeed mmwaveLd2410Register [0x00] = some ({ mmwaveLd2410Register with rxpos := 1 }, [none]) ∧
    ∃ d', mmwaveFeed mmwaveLd2410Register ([0x00] ++ (⟨.data, [], Nat.zero_le _⟩ : WireFrame).bytes) =
      some (d', [none] ++ (List.replicate 9 none ++
        [some [0xF1, 0xF2, 0xF3, 0xF4, 0x00, 0x00, 0xF5, 0xF6, 0xF7, 0xF8]])) :=
  ⟨rfl, frame_emitted_after_seeking_prefix mmwaveLd2410Register rfl rfl [0x00] ⟨.data, [], Nat.zero_le _⟩
    { mmwaveLd2410Register with rxpos := 1 } [none] rfl rfl⟩

/-- A data frame cut short after eight of its bytes, as by a partial write, takes the first
fifteen bytes of the complete data frame after it as its own payload and terminator: it fails
with a counted error, and the complete frame is never emitted. -/
theorem truncated_frame_swallows_next :
    (mmwaveFeed mmwaveLd2410Register ([0xF1, 0xF2, 0xF3, 0xF4, 0x0D, 0x00, 0x02, 0xAA] ++
      (⟨.data, [0x02, 0xAA, 0x02, 0x51, 0x00, 0x00, 0x00, 0x00, 0x3B, 0x00, 0x00, 0x55, 0x00],
        by decide⟩ : WireFrame).bytes)).map Prod.snd = some (List.replicate 31 none) := by
  rfl

end MmwaveOs
