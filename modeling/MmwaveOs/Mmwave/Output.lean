import MmwaveOs.Hactl.Json
import MmwaveOs.Driver.Read

/-!
# What `mmwave -j` Prints: `apps/mmwave/mmwave_cmd.c`

The `-j` option of `mmwave` reads the device once through `read_sensor(fd, &data, NULL,
false)` and prints the reading with `print_data(&data, true)`: one line, a JSON object of the
state's name and six unsigned numbers. When no whole reading comes back it prints an error
object on `stderr` and returns `EXIT_FAILURE`.

`read_sensor` asks the driver for an engineering packet only when its `eng_mode` argument is
set, and every call in `mmwave_cmd.c` passes `false`; its read into `data` is of
`sizeof(struct mmwave_data_s)` bytes, too few for the driver to copy an engineering packet. The
line `-j` prints reads back, through the reader of `Hactl.Json`, as the reading
(`readJson_printDataJson`).

## Layout
- §1 `target_state_str`, the JSON branch of `print_data`, `read_sensor` and the `-j` option
- §2 the line reads back
-/

namespace MmwaveOs

/-! ## §1 The Output -/

/-- `target_state_str()`. -/
def targetStateStr (state : UInt8) : List UInt8 :=
  if state = ld2410TargetNone then ascii "none"
  else if state = ld2410TargetMotion then ascii "motion"
  else if state = ld2410TargetStatic then ascii "static"
  else if state = ld2410TargetBoth then ascii "motion+static"
  else ascii "unknown"

/-- `print_data(data, true)`: `%u` of the promoted fields and `%lu` of the timestamp print
unsigned decimals. -/
def printDataJson (d : MmwaveData) : List UInt8 :=
  ascii "\x7b\"state\":\"" ++ targetStateStr d.targetState ++
  ascii "\",\"motion_dist\":" ++ dec d.motionDistance.toNat ++
  ascii ",\"motion_energy\":" ++ dec d.motionEnergy.toNat ++
  ascii ",\"static_dist\":" ++ dec d.staticDistance.toNat ++
  ascii ",\"static_energy\":" ++ dec d.staticEnergy.toNat ++
  ascii ",\"detect_dist\":" ++ dec d.detectionDistance.toNat ++
  ascii ",\"timestamp\":" ++ dec d.timestampMs.toNat ++ ascii "\x7d\n"

/-- `read_sensor(fd, data, eng, eng_mode)`: the return code and the packet it read. `engRead`
is what the driver answers to the `read` into `eng`, which is made only when `eng_mode` is set
and `eng` is given, and `dataRead` what it answers to the `read` into `data`; a `read` counts
only when it copied the size of its buffer. -/
def readSensor (engMode hasEng : Bool) (engRead dataRead : ReadResult) :
    Int × Option (MmwaveEngData ⊕ MmwaveData) :=
  let first : Option MmwaveEngData :=
    if engMode && hasEng then
      match engRead with
      | .engineering e => some e
      | _ => none
    else none
  match first with
  | some e => (1, some (.inl e))
  | none =>
    match dataRead with
    | .reading d => (0, some (.inr d))
    | _ => (-1, none)

/-- The error object `-j` prints on `stderr`. -/
def noDataJson : List UInt8 := ascii "\x7b\"error\":\"no data available\"\x7d\n"

/-- The `-j` option of `mmwave` on what the driver answers to its `read`: `stdout`, `stderr`
and the value `main` then returns. -/
def mmwaveJsonOpt (dataRead : ReadResult) : List UInt8 × List UInt8 × Int :=
  match readSensor false false dataRead dataRead with
  | (r, some (.inr d)) => if r ≥ 0 then (printDataJson d, [], 0) else ([], noDataJson, 1)
  | (r, _) => if r ≥ 0 then ([], [], 0) else ([], noDataJson, 1)

/-! ## §2 The Line Reads Back -/

/-- The object a reading's line describes: the state's name and the six numbers, each key
once and in the order `print_data` writes them. -/
def dataJsonVal (d : MmwaveData) : JsonVal :=
  .obj [(ascii "state", .str (targetStateStr d.targetState)),
    (ascii "motion_dist", .num d.motionDistance.toNat),
    (ascii "motion_energy", .num d.motionEnergy.toNat),
    (ascii "static_dist", .num d.staticDistance.toNat),
    (ascii "static_energy", .num d.staticEnergy.toNat),
    (ascii "detect_dist", .num d.detectionDistance.toNat),
    (ascii "timestamp", .num d.timestampMs.toNat)]

/-- No state name holds a quote or a newline. -/
theorem targetStateStr_plain (state : UInt8) :
    34 ∉ targetStateStr state ∧ 10 ∉ targetStateStr state := by
  unfold targetStateStr; split_ifs <;> decide

theorem ten_not_mem_dec (n : Nat) : 10 ∉ dec n := fun h =>
  absurd ((dec_digits n).2.1 10 h) (by decide)

/-- The line cut at the quotes, colons, commas and braces the reader looks for. -/
theorem printDataJson_eq (d : MmwaveData) : printDataJson d =
    (123 :: 34 :: ascii "state" ++ 34 :: 58 :: 34 :: targetStateStr d.targetState ++ 34 :: 44 ::
      34 :: ascii "motion_dist" ++ 34 :: 58 :: dec d.motionDistance.toNat ++ 44 ::
      34 :: ascii "motion_energy" ++ 34 :: 58 :: dec d.motionEnergy.toNat ++ 44 ::
      34 :: ascii "static_dist" ++ 34 :: 58 :: dec d.staticDistance.toNat ++ 44 ::
      34 :: ascii "static_energy" ++ 34 :: 58 :: dec d.staticEnergy.toNat ++ 44 ::
      34 :: ascii "detect_dist" ++ 34 :: 58 :: dec d.detectionDistance.toNat ++ 44 ::
      34 :: ascii "timestamp" ++ 34 :: 58 :: dec d.timestampMs.toNat ++ [125]) ++ [10] := by
  simp only [printDataJson, List.append_assoc]; rfl

/-- **Every reading's line reads back.** `print_data(data, true)` prints one line: a JSON
object, then its only newline; and the object reads back as the reading's state name and its
six numbers. -/
theorem readJson_printDataJson (d : MmwaveData) :
    ∃ body, printDataJson d = body ++ [10] ∧ 10 ∉ body ∧ readJson body = some (dataJsonVal d) := by
  obtain ⟨hq, hn⟩ := targetStateStr_plain d.targetState
  have hb := printDataJson_eq d
  refine ⟨(printDataJson d).dropLast, by rw [hb, List.dropLast_concat, ← hb], ?_, ?_⟩
  · rw [hb, List.dropLast_concat]
    simp +decide only [List.cons_append, List.append_assoc, List.mem_cons, List.mem_append,
      List.mem_singleton, hn, ten_not_mem_dec, or_false, false_or, not_false_eq_true]
  · obtain ⟨k, hk⟩ : ∃ k, (printDataJson d).dropLast.tail.length = k + 7 :=
      Nat.exists_eq_add_of_le' (by
        rw [hb, List.dropLast_concat]
        simp only [List.cons_append, List.tail_cons, List.length_cons, List.length_append]
        omega)
    have hd : (printDataJson d).dropLast = 123 :: (printDataJson d).dropLast.tail := by
      rw [hb, List.dropLast_concat]; simp only [List.cons_append, List.tail_cons]
    rw [hd, readJson, if_neg (by decide), hk, hb, List.dropLast_concat]
    simp (disch := first | decide | exact hq) only [List.cons_append, List.append_assoc,
      List.tail_cons, readMembers_member, readValue_str, readValue_num, readNext_comma,
      readNext_close, Option.some_bind, Option.map_some']
    rfl

end MmwaveOs
