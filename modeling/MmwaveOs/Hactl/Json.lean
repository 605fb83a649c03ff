import MmwaveOs.Hactl.Format

/-!
# Reading the State Body Back

The body `ha_format_state_json` writes is meant to be a JSON object whose keys are those of
§4.5, each once and in order, with `"state"` telling presence and the five numbers as unsigned
decimals. This module gives a reader for the JSON the reporter writes (objects, strings without
escapes, unsigned integers), and shows that it reads every body back into the object that
describes the reading (`readJson_stateJson`); it then states the whole contract of
`ha_format_state_json` (`haFormatStateJson_spec`).

## Layout
- §1 the reader
- §2 one lemma per piece of text: a string, a decimal, an object, a member
- §3 the body reads back
- §4 the return value of `ha_format_state_json`
-/

namespace MmwaveOs

/-! ## §1 The Reader -/

/-- A JSON value of the kinds the reporter writes. -/
inductive JsonVal
  | str (s : List UInt8)
  | num (n : Nat)
  | obj (members : List (List UInt8 × JsonVal))

/-- The byte `b`, and what follows it. -/
def expect (b : UInt8) : List UInt8 → Option (List UInt8)
  | c :: s => if c = b then some s else none
  | [] => none

/-- The bytes of a string up to its closing quote, and what follows the quote. -/
def readStr : List UInt8 → Option (List UInt8 × List UInt8)
  | [] => none
  | c :: s => if c = 34 then some ([], s) else (readStr s).map fun p => (c :: p.1, p.2)

/-- A run of at least one digit: its value, and what follows it. -/
def readNum (s : List UInt8) : Option (Nat × List UInt8) :=
  if s.takeWhile isDigit = [] then none
  else some (digitsValue (s.takeWhile isDigit), s.dropWhile isDigit)

/-- A value; `readObj` reads the members of an object after its `{`. -/
def readValue (readObj : List UInt8 → Option (List (List UInt8 × JsonVal) × List UInt8)) :
    List UInt8 → Option (JsonVal × List UInt8)
  | [] => none
  | c :: s =>
    if c = 34 then (readStr s).map fun p => (.str p.1, p.2)
    else if c = 123 then (readObj s).map fun p => (.obj p.1, p.2)
    else (readNum (c :: s)).map fun p => (.num p.1, p.2)

/-- After a member `m`: a `,` and the members that follow, or the closing `}`. -/
def readNext (more : List UInt8 → Option (List (List UInt8 × JsonVal) × List UInt8))
    (m : List UInt8 × JsonVal) : List UInt8 → Option (List (List UInt8 × JsonVal) × List UInt8)
  | [] => none
  | c :: s =>
    if c = 44 then (more s).map fun p => (m :: p.1, p.2)
    else if c = 125 then some ([m], s) else none

/-- The members of an object after its `{`, up to and including its `}`, and what follows;
`fuel` bounds the number of members and the nesting together. -/
def readMembers : Nat → List UInt8 → Option (List (List UInt8 × JsonVal) × List UInt8)
  | 0, _ => none
  | fuel + 1, s => do
    let s ← expect 34 s
    let (key, s) ← readStr s
    let s ← expect 58 s
    let (v, s) ← readValue (readMembers fuel) s
    readNext (readMembers fuel) (key, v) s

/-- A whole text as one object, with nothing after it. Each member takes at least one byte,
so the length of the text is fuel enough. -/
def readJson : List UInt8 → Option JsonVal
  | [] => none
  | c :: s =>
    if c ≠ 123 then none
    else match readMembers s.length s with
      | some (ms, []) => some (.obj ms)
      | _ => none

/-! ## §2 One Lemma per Piece of Text -/

theorem readStr_append {t : List UInt8} (ht : 34 ∉ t) (rest : List UInt8) :
    readStr (t ++ 34 :: rest) = some (t, rest) := by
  induction t with
  | nil => simp [readStr]
  | cons c t ih =>
    have hc : c ≠ 34 := fun h => ht (h ▸ List.mem_cons_self _ _)
    rw [List.cons_append, readStr, if_neg hc, ih (fun h => ht (List.mem_cons_of_mem _ h))]
    rfl

/-- A decimal followed by a byte that is not a digit reads as its value. -/
theorem readNum_dec (n : Nat) {c : UInt8} (hc : isDigit c = false) (rest : List UInt8) :
    readNum (dec n ++ c :: rest) = some (n, c :: rest) := by
  obtain ⟨hne, hdig, hv⟩ := dec_digits n
  have ht : (dec n ++ c :: rest).takeWhile isDigit = dec n := by
    rw [List.takeWhile_append_of_pos hdig, List.takeWhile_cons_of_neg (by simp [hc]),
      List.append_nil]
  have hd : (dec n ++ c :: rest).dropWhile isDigit = c :: rest := by
    rw [List.dropWhile_append_of_pos hdig, List.dropWhile_cons_of_neg (by simp [hc])]
  rw [readNum, ht, hd, if_neg hne, hv]

section Value

variable (g : List UInt8 → Option (List (List UInt8 × JsonVal) × List UInt8))

@[simp] theorem readValue_str {v : List UInt8} (hv : 34 ∉ v) (rest : List UInt8) :
    readValue g (34 :: (v ++ 34 :: rest)) = some (.str v, rest) := by
  simp [readValue, readStr_append hv]

@[simp] theorem readValue_num (n : Nat) {c : UInt8} (hc : isDigit c = false)
    (rest : List UInt8) : readValue g (dec n ++ c :: rest) = some (.num n, c :: rest) := by
  obtain ⟨b, s, hbs⟩ := List.exists_cons_of_ne_nil (dec_digits n).1
  have hb : isDigit b = true := (dec_digits n).2.1 b (by rw [hbs]; exact List.mem_cons_self _ _)
  have h34 : b ≠ 34 := by rintro rfl; exact absurd hb (by decide)
  have h123 : b ≠ 123 := by rintro rfl; exact absurd hb (by decide)
  have := readNum_dec n hc rest
  rw [hbs, List.cons_append] at this ⊢
  simp only [readValue, if_neg h34, if_neg h123, this]
  rfl

@[simp] theorem readValue_obj (s : List UInt8) :
    readValue g (123 :: s) = (g s).map fun p => (.obj p.1, p.2) := rfl

@[simp] theorem readNext_comma (m : List UInt8 × JsonVal) (s : List UInt8) :
    readNext g m (44 :: s) = (g s).map fun p => (m :: p.1, p.2) := rfl

@[simp] theorem readNext_close (m : List UInt8 × JsonVal) (s : List UInt8) :
    readNext g m (125 :: s) = some ([m], s) := rfl

end Value

/-- A member: its key, a `:`, its value, and then `readNext`. -/
@[simp] theorem readMembers_member (fuel : Nat) {key : List UInt8} (hk : 34 ∉ key)
    (s : List UInt8) :
    readMembers (fuel + 1) (34 :: (key ++ 34 :: 58 :: s)) =
      (readValue (readMembers fuel) s).bind fun p => readNext (readMembers fuel) (key, p.1) p.2 := by
  simp [readMembers, expect, readStr_append hk]

/-! ## §3 The Body Reads Back -/

/-- The object §4.5 describes for a reading: `"state"` tells presence, and `"attributes"` holds
the two fixed texts and the five numbers as unsigned decimals, each key once and in this
order. -/
def stateJsonVal (d : MmwaveData) : JsonVal :=
  .obj [(ascii "state", .str (ascii (if d.targetState ≠ ld2410TargetNone then "on" else "off"))),
    (ascii "attributes", .obj [
      (ascii "friendly_name", .str (ascii "mmWave Presence")),
      (ascii "device_class", .str (ascii "occupancy")),
      (ascii "motion_energy", .num d.motionEnergy.toNat),
      (ascii "static_energy", .num d.staticEnergy.toNat),
      (ascii "motion_distance", .num d.motionDistance.toNat),
      (ascii "static_distance", .num d.staticDistance.toNat),
      (ascii "detection_distance", .num d.detectionDistance.toNat)])]

/-- The body cut at the quotes, colons, commas and braces the reader looks for. -/
theorem stateJson_eq (d : MmwaveData) : stateJson d =
    123 :: 34 :: ascii "state" ++ 34 :: 58 :: 34 ::
      ascii (if d.targetState ≠ ld2410TargetNone then "on" else "off") ++ 34 :: 44 ::
    34 :: ascii "attributes" ++ 34 :: 58 :: 123 ::
    34 :: ascii "friendly_name" ++ 34 :: 58 :: 34 :: ascii "mmWave Presence" ++ 34 :: 44 ::
    34 :: ascii "device_class" ++ 34 :: 58 :: 34 :: ascii "occupancy" ++ 34 :: 44 ::
    34 :: ascii "motion_energy" ++ 34 :: 58 :: dec d.motionEnergy.toNat ++ 44 ::
    34 :: ascii "static_energy" ++ 34 :: 58 :: dec d.staticEnergy.toNat ++ 44 ::
    34 :: ascii "motion_distance" ++ 34 :: 58 :: dec d.motionDistance.toNat ++ 44 ::
    34 :: ascii "static_distance" ++ 34 :: 58 :: dec d.staticDistance.toNat ++ 44 ::
    34 :: ascii "detection_distance" ++ 34 :: 58 :: dec d.detectionDistance.toNat ++
      [125, 125] := by
  simp only [stateJson, List.append_assoc]; rfl

/-- **The body of every reading reads back** as the object §4.5 describes: the nine keys once
each and in order, `"on"` exactly when a target is present, and the five numbers. -/
theorem readJson_stateJson (d : MmwaveData) : readJson (stateJson d) = some (stateJsonVal d) := by
  have hq : 34 ∉ ascii (if d.targetState ≠ ld2410TargetNone then "on" else "off") := by
    split_ifs <;> decide
  obtain ⟨k, hk⟩ : ∃ k, (stateJson d).tail.length = k + 9 :=
    Nat.exists_eq_add_of_le' (by have := length_stateJson_ge d; rw [List.length_tail]; omega)
  have hd : stateJson d = 123 :: (stateJson d).tail := by
    rw [stateJson_eq]; simp only [List.cons_append, List.append_assoc, List.tail_cons]
  rw [hd, readJson, if_neg (by decide), hk, stateJson_eq]
  simp (disch := first | decide | exact hq) only [List.cons_append, List.append_assoc,
    List.tail_cons, readMembers_member, readValue_str,
    readValue_num, readValue_obj, readNext_comma, readNext_close, Option.some_bind,
    Option.map_some']
  rfl

/-! ## §4 The Return Value of `ha_format_state_json` -/

theorem haFormatStateJson_eq (bufsize : Nat) (d : MmwaveData) :
    haFormatStateJson bufsize d = ((stateJson d).take (bufsize - 1),
      if (stateJson d).length ≥ bufsize then -1 else ((stateJson d).length : Int)) := rfl

/-- **The contract of `ha_format_state_json`.** For every reading and every buffer of at least
one byte, the call returns `-1` exactly when the body has at least `bufsize` bytes, and
otherwise writes the whole body and returns its length; the buffer holds at most `bufsize - 1`
bytes before its NUL, the start of the body; and the body reads back as the object §4.5
describes. -/
theorem haFormatStateJson_spec (bufsize : Nat) (hb : 1 ≤ bufsize) (d : MmwaveData) :
    ((haFormatStateJson bufsize d).2 = -1 ↔ bufsize ≤ (stateJson d).length) ∧
      ((stateJson d).length < bufsize →
        haFormatStateJson bufsize d = (stateJson d, ((stateJson d).length : Int))) ∧
      (haFormatStateJson bufsize d).1.length < bufsize ∧
      (haFormatStateJson bufsize d).1 <+: stateJson d ∧
      readJson (stateJson d) = some (stateJsonVal d) := by
  rw [haFormatStateJson_eq]
  refine ⟨?_, fun h => ?_, by rw [List.length_take]; omega, List.take_prefix _ _,
    readJson_stateJson d⟩
  · split_ifs with h
    · exact iff_of_true rfl h
    · exact iff_of_false not_false h
  · rw [if_neg (by omega), List.take_of_length_le (by omega)]

/-- The test's ten-byte buffer. -/
theorem haFormatStateJson_spec_ten_bytes :
    1 ≤ 10 ∧
      ((haFormatStateJson 10 ⟨1, 100, 50, 200, 30, 100, 0⟩).2 = -1 ↔
        10 ≤ (stateJson ⟨1, 100, 50, 200, 30, 100, 0⟩).length) ∧
      ((stateJson ⟨1, 100, 50, 200, 30, 100, 0⟩).length < 10 →
        haFormatStateJson 10 ⟨1, 100, 50, 200, 30, 100, 0⟩ =
          (stateJson ⟨1, 100, 50, 200, 30, 100, 0⟩,
            ((stateJson ⟨1, 100, 50, 200, 30, 100, 0⟩).length : Int))) ∧
      (haFormatStateJson 10 ⟨1, 100, 50, 200, 30, 100, 0⟩).1.length < 10 ∧
      (haFormatStateJson 10 ⟨1, 100, 50, 200, 30, 100, 0⟩).1 <+:
        stateJson ⟨1, 100, 50, 200, 30, 100, 0⟩ ∧
      readJson (stateJson ⟨1, 100, 50, 200, 30, 100, 0⟩) =
        some (stateJsonVal ⟨1, 100, 50, 200, 30, 100, 0⟩) :=
  ⟨by decide, haFormatStateJson_spec 10 (by decide) _⟩

end MmwaveOs
