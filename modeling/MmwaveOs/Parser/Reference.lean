import MmwaveOs.Parser.ParseByte

/-!
# The Whole-Stream Reference Decoder

Spec §4.1 says what the parser finds in a byte stream: from the current position take the
earliest place where a magic starts, read the little-endian length `L`, count an error if
`L > 54` and go on after the length bytes, else take `L` payload and four terminator bytes,
emit the frame if the terminator closes the magic's family and count an error otherwise, and
go on after the terminator. `specDecode` states this over a whole stream, one result per byte,
in the words of the parser contract `feed(byte) → {Incomplete, Complete(Frame), Error}`.

This module proves the facts about `specDecode` the refinement proof needs: it answers once
per byte, its first five answers are `incomplete`, and how it unfolds at a junk byte, at an
oversized length and at a frame.
-/

namespace MmwaveOs

/-- The per-byte result of the parser contract of spec §4.1. -/
inductive ParseResult
  | incomplete
  | complete (frame : List UInt8)
  | error
  deriving DecidableEq, Repr

namespace ParseResult

/-- The frame a result emits. -/
def frame? : ParseResult → Option (List UInt8)
  | complete f => some f
  | _ => none

def isComplete : ParseResult → Bool
  | complete _ => true
  | _ => false

def isError : ParseResult → Bool
  | error => true
  | _ => false

end ParseResult

open ParseResult

/-- The reference decoder of spec §4.1 over a whole stream, one result per byte. -/
def specDecode : List UInt8 → List ParseResult
  | m0 :: m1 :: m2 :: m3 :: l0 :: l1 :: r =>
    if isMagic [m0, m1, m2, m3] then
      if 54 < le16 l0 l1 then List.replicate 5 incomplete ++ error :: specDecode r
      else if r.length < le16 l0 l1 + 4 then List.replicate (6 + r.length) incomplete
      else
        List.replicate (9 + le16 l0 l1) incomplete ++
          (if tailMatches [m0, m1, m2, m3] ((r.drop (le16 l0 l1)).take 4) then
            complete ([m0, m1, m2, m3, l0, l1] ++ r.take (le16 l0 l1 + 4))
          else error) :: specDecode (r.drop (le16 l0 l1 + 4))
    else incomplete :: specDecode (m1 :: m2 :: m3 :: l0 :: l1 :: r)
  | s => List.replicate s.length incomplete
termination_by s => s.length
decreasing_by all_goals simp_wf <;> simp only [le16_eq] at * <;> omega

/-- A stream too short to hold a magic and a length gives no result but `incomplete`. -/
theorem specDecode_short {s : List UInt8} (h : s.length < 6) :
    specDecode s = List.replicate s.length incomplete := by
  match s, h with
  | [], _ | [_], _ | [_, _], _ | [_, _, _], _ | [_, _, _, _], _ | [_, _, _, _, _], _ =>
    simp [specDecode]

private theorem length_lt_six {s : List UInt8}
    (h : ∀ (m0 m1 m2 m3 l0 l1 : UInt8) (r : List UInt8),
      s = m0 :: m1 :: m2 :: m3 :: l0 :: l1 :: r → False) : s.length < 6 := by
  match s with
  | _ :: _ :: _ :: _ :: _ :: _ :: _ => exact (h _ _ _ _ _ _ _ rfl).elim
  | [] | [_] | [_, _] | [_, _, _] | [_, _, _, _] | [_, _, _, _, _] => simp

@[simp] theorem length_specDecode (s : List UInt8) : (specDecode s).length = s.length := by
  induction s using specDecode.induct with
  | case1 m0 m1 m2 m3 l0 l1 r hm hL ih =>
    rw [specDecode]; simp [hm, hL, ih]
  | case2 m0 m1 m2 m3 l0 l1 r hm hL hr =>
    rw [specDecode]; simp [hm, hL, hr]; omega
  | case3 m0 m1 m2 m3 l0 l1 r hm hL hr ih =>
    rw [specDecode]; simp [hm, hL, hr, ih]; omega
  | case4 m0 m1 m2 m3 l0 l1 r hm ih =>
    rw [specDecode]; simp [hm, ih]
  | case5 s h => simp [specDecode_short (length_lt_six h)]

/-- The first five results are `incomplete`: no frame and no error ends on the first five
bytes. -/
theorem specDecode_getElem?_of_lt_five (s : List UInt8) {i : Nat} (hi : i < 5)
    (hs : i < s.length) : (specDecode s)[i]? = some incomplete := by
  induction s using specDecode.induct generalizing i with
  | case1 m0 m1 m2 m3 l0 l1 r hm hL ih =>
    rw [specDecode, if_pos hm, if_pos hL]
    match i, hi with
    | 0, _ | 1, _ | 2, _ | 3, _ | 4, _ => rfl
  | case2 m0 m1 m2 m3 l0 l1 r hm hL hr =>
    rw [specDecode, if_pos hm, if_neg hL, if_pos hr, List.getElem?_replicate,
      if_pos (by simp at hs; omega)]
  | case3 m0 m1 m2 m3 l0 l1 r hm hL hr ih =>
    rw [specDecode, if_pos hm, if_neg hL, if_neg hr,
      List.getElem?_append_left (by rw [List.length_replicate]; omega), List.getElem?_replicate,
      if_pos (by omega)]
  | case4 m0 m1 m2 m3 l0 l1 r hm ih =>
    rw [specDecode, if_neg hm]
    cases i with
    | zero => simp
    | succ j =>
      rw [List.getElem?_cons_succ]; exact ih (show j < 5 by omega) (by simp at hs ⊢; omega)
  | case5 s h => rw [specDecode_short (length_lt_six h)]; simp [hs]

/-- At a byte where no magic starts, the reference answers `incomplete` and goes on with the
next byte. -/
theorem specDecode_junk {a : UInt8} {s : List UInt8} (h : isMagic ((a :: s).take 4) = false) :
    specDecode (a :: s) = incomplete :: specDecode s := by
  match s, h with
  | m1 :: m2 :: m3 :: l0 :: l1 :: r, h => rw [specDecode]; simp_all
  | [], _ | [_], _ | [_, _], _ | [_, _, _], _ | [_, _, _, _], _ =>
    rw [specDecode_short (by simp), specDecode_short (by simp)]; rfl

/-- Inside a frame whose magic and length have been read, the reference answers `incomplete`
up to the last terminator byte. -/
theorem specDecode_frame_getElem? {m0 m1 m2 m3 l0 l1 : UInt8} {r : List UInt8}
    (hm : isMagic [m0, m1, m2, m3] = true) (hL : le16 l0 l1 ≤ 54) {i : Nat}
    (hi : i < 9 + le16 l0 l1) (hr : i < 6 + r.length) :
    (specDecode (m0 :: m1 :: m2 :: m3 :: l0 :: l1 :: r))[i]? = some incomplete := by
  rw [specDecode, if_pos hm, if_neg (by omega)]
  split_ifs
  · rw [List.getElem?_replicate, if_pos hr]
  all_goals rw [List.getElem?_append_left (by rw [List.length_replicate]; omega),
    List.getElem?_replicate, if_pos hi]

/-- The last byte of a frame: the reference emits it when its terminator closes the magic's
family, counts an error otherwise, and goes on with the rest of the stream. -/
theorem specDecode_frame_last {m0 m1 m2 m3 l0 l1 : UInt8} {q : List UInt8} (S : List UInt8)
    (hm : isMagic [m0, m1, m2, m3] = true) (hL : le16 l0 l1 ≤ 54)
    (hq : q.length = le16 l0 l1 + 4) :
    specDecode (m0 :: m1 :: m2 :: m3 :: l0 :: l1 :: (q ++ S)) =
      List.replicate (9 + le16 l0 l1) incomplete ++
        (if tailMatches [m0, m1, m2, m3] (q.drop (le16 l0 l1)) then
          complete ([m0, m1, m2, m3, l0, l1] ++ q)
        else error) :: specDecode S := by
  rw [specDecode, if_pos hm, if_neg (by omega), if_neg (by simp; omega), List.take_left' hq,
    List.drop_left' hq, List.drop_append_of_le_length (by omega),
    List.take_append_of_le_length (by simp; omega), List.take_of_length_le (by simp; omega)]

end MmwaveOs
