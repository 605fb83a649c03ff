import MmwaveOs.Driver.State

/-!
# The Home Assistant Request Text

`ha_post_state` in `apps/hactl/hactl_cmd.c` formats a JSON body with `snprintf` into a 256-byte
buffer and the HTTP request around it into the 512-byte `http_buf`; `apps/hactl/ha_format.h`
holds the same two formats as the tested helpers `ha_format_state_json` and
`ha_format_http_request`, which report truncation with `-1`. C strings are byte lists without
their terminating NUL; the format strings are ASCII.

## Layout
- §1 `snprintf`, decimal conversions, and the two formatted texts
- §2 the helpers of `ha_format.h`
- §3 decimal digits: `%u` writes the digits of its value
- §4 lengths: the body has 189 to 206 bytes, so the 256-byte `body` of `ha_post_state` holds
  it, and the request is 161 bytes of format text around its arguments
-/

namespace MmwaveOs

/-! ## §1 The Formatted Texts -/

/-- The bytes of an ASCII text. -/
def ascii (s : String) : List UInt8 := s.toList.map fun c => c.toNat.toUInt8

/-- `%u` of an unsigned value. -/
def dec (n : Nat) : List UInt8 := ascii (Nat.repr n)

/-- `%d` of an `int`. -/
def decInt (n : Int) : List UInt8 := ascii (toString n)

/-- `snprintf(buf, size, ...)` whose formatted output is `out`: `buf` gets the first `size - 1`
bytes and a NUL, and the call returns the length of `out`. -/
def snprintf (size : Nat) (out : List UInt8) : List UInt8 × Nat :=
  (out.take (size - 1), out.length)

/-- `HA_ENTITY_ID`. -/
def haEntityId : List UInt8 := ascii "binary_sensor.mmwave_presence"

/-- The JSON body `ha_post_state` and `ha_format_state_json` format for a reading. -/
def stateJson (d : MmwaveData) : List UInt8 :=
  ascii "\x7b\"state\":\"" ++ ascii (if d.targetState ≠ ld2410TargetNone then "on" else "off") ++
    ascii "\",\"attributes\":\x7b\"friendly_name\":\"mmWave Presence\",\"device_class\":\"occupancy\",\"motion_energy\":" ++
    dec d.motionEnergy.toNat ++ ascii ",\"static_energy\":" ++ dec d.staticEnergy.toNat ++
    ascii ",\"motion_distance\":" ++ dec d.motionDistance.toNat ++
    ascii ",\"static_distance\":" ++ dec d.staticDistance.toNat ++
    ascii ",\"detection_distance\":" ++ dec d.detectionDistance.toNat ++ ascii "\x7d\x7d"

/-- The HTTP request `ha_post_state` and `ha_format_http_request` format around a body. -/
def httpRequest (entityId host : List UInt8) (port : UInt16) (token : List UInt8)
    (bodyLen : Int) (jsonBody : List UInt8) : List UInt8 :=
  ascii "POST /api/states/" ++ entityId ++ ascii " HTTP/1.1\r\nHost: " ++ host ++ ascii ":" ++
    dec port.toNat ++ ascii "\r\nAuthorization: Bearer " ++ token ++
    ascii "\r\nContent-Type: application/json\r\nContent-Length: " ++ decInt bodyLen ++
    ascii "\r\nConnection: close\r\n\r\n" ++ jsonBody

/-! ## §2 The Helpers of `ha_format.h` -/

/-- `ha_format_state_json`: the buffer, and the length written or `-1` on truncation. -/
def haFormatStateJson (bufsize : Nat) (d : MmwaveData) : List UInt8 × Int :=
  let (buf, n) := snprintf bufsize (stateJson d)
  (buf, if n ≥ bufsize then -1 else n)

/-- `ha_format_http_request`: the buffer, and the length written or `-1` on truncation. -/
def haFormatHttpRequest (bufsize : Nat) (entityId host : List UInt8) (port : UInt16)
    (token jsonBody : List UInt8) (bodyLen : Int) : List UInt8 × Int :=
  let (buf, n) := snprintf bufsize (httpRequest entityId host port token bodyLen jsonBody)
  (buf, if n ≥ bufsize then -1 else n)

/-! ## §3 Decimal Digits -/

/-- An ASCII decimal digit. -/
def isDigit (c : UInt8) : Bool := 48 ≤ c.toNat && c.toNat ≤ 57

/-- The value of a string of decimal digits, most significant first. -/
def digitsValue (s : List UInt8) : Nat := s.foldl (fun v c => 10 * v + (c.toNat - 48)) 0

theorem digitChar_toNat {k : Nat} (h : k < 10) : (Nat.digitChar k).toNat = 48 + k := by
  interval_cases k <;> rfl

/-- `Nat.toDigitsCore` with enough fuel puts the digits of `n` in front of `ds`. -/
theorem toDigitsCore_digits : ∀ (f n : Nat) (ds : List Char), n < f →
    ∃ l, Nat.toDigitsCore 10 f n ds = l ++ ds ∧ l ≠ [] ∧
      (∀ c ∈ l, 48 ≤ c.toNat ∧ c.toNat ≤ 57) ∧
      l.foldl (fun v c => 10 * v + (c.toNat - 48)) 0 = n
  | 0, _, _, h => absurd h (Nat.not_lt_zero _)
  | f + 1, n, ds, h => by
    have hd := digitChar_toNat (Nat.mod_lt n (by decide : 10 > 0))
    simp only [Nat.toDigitsCore]
    split_ifs with h0
    · refine ⟨[Nat.digitChar (n % 10)], rfl, List.cons_ne_nil _ _, ?_, ?_⟩
      · simp only [List.mem_singleton, forall_eq, hd]; omega
      · simp only [List.foldl_cons, List.foldl_nil, hd]; omega
    · obtain ⟨l, hl, -, hdig, hv⟩ := toDigitsCore_digits f (n / 10) _ (by omega)
      refine ⟨l ++ [Nat.digitChar (n % 10)], by rw [hl, List.append_assoc]; rfl, by simp, ?_, ?_⟩
      · intro c hc
        rcases List.mem_append.mp hc with hc | hc
        · exact hdig c hc
        · rw [List.mem_singleton.mp hc, hd]; omega
      · rw [List.foldl_append, hv]; simp only [List.foldl_cons, List.foldl_nil, hd]; omega

/-- `%u` writes digits only, at least one, and their value is the number. -/
theorem dec_digits (n : Nat) :
    dec n ≠ [] ∧ (∀ c ∈ dec n, isDigit c = true) ∧ digitsValue (dec n) = n := by
  obtain ⟨l, hl, hne, hdig, hv⟩ := toDigitsCore_digits (n + 1) n [] (Nat.lt_succ_self n)
  have hdec : dec n = l.map fun c => c.toNat.toUInt8 := by
    rw [dec, ascii, Nat.repr, Nat.toDigits, hl, List.append_nil]; rfl
  have hbyte : ∀ c ∈ l, (c.toNat.toUInt8).toNat = c.toNat := fun c hc => by
    have := hdig c hc
    rw [Nat.toUInt8, UInt8.toNat_ofNat_of_lt (by simp [UInt8.size]; omega)]
  refine ⟨by rw [hdec]; simpa using hne, fun c hc => ?_, ?_⟩
  · rw [hdec, List.mem_map] at hc
    obtain ⟨c', hc', rfl⟩ := hc
    have := hdig c' hc'
    simp only [isDigit, hbyte c' hc', Bool.and_eq_true, decide_eq_true_eq]; omega
  · rw [hdec, digitsValue, List.foldl_map, ← hv]
    exact List.foldl_ext _ _ _ fun v c hc => by rw [hbyte c hc]

/-! ## §4 Lengths -/

@[simp] theorem length_ascii (s : String) : (ascii s).length = s.length := by
  rw [ascii, List.length_map]; rfl

/-- A decimal has at least one digit. -/
theorem one_le_length_dec (n : Nat) : 1 ≤ (dec n).length :=
  List.length_pos.mpr (dec_digits n).1

/-- A decimal of a value below `10 ^ k` has at most `k` digits. -/
theorem length_dec_le {n k : Nat} (hk : 0 < k) (h : n < 10 ^ k) : (dec n).length ≤ k := by
  rw [dec, length_ascii]; exact Nat.repr_length n k hk h

/-- The body is 182 bytes of format text around the state and five decimals. -/
theorem length_stateJson (d : MmwaveData) :
    (stateJson d).length =
      182 + (ascii (if d.targetState ≠ ld2410TargetNone then "on" else "off")).length +
        (dec d.motionEnergy.toNat).length + (dec d.staticEnergy.toNat).length +
        (dec d.motionDistance.toNat).length + (dec d.staticDistance.toNat).length +
        (dec d.detectionDistance.toNat).length := by
  simp only [stateJson, List.length_append]
  rw [show (ascii "\x7b\"state\":\"").length = 10 from rfl,
    show (ascii "\",\"attributes\":\x7b\"friendly_name\":\"mmWave Presence\",\"device_class\":\"occupancy\",\"motion_energy\":").length = 93 from rfl,
    show (ascii ",\"static_energy\":").length = 17 from rfl,
    show (ascii ",\"motion_distance\":").length = 19 from rfl,
    show (ascii ",\"static_distance\":").length = 19 from rfl,
    show (ascii ",\"detection_distance\":").length = 22 from rfl,
    show (ascii "\x7d\x7d").length = 2 from rfl]
  omega

theorem length_onOff (d : MmwaveData) :
    2 ≤ (ascii (if d.targetState ≠ ld2410TargetNone then "on" else "off")).length ∧
      (ascii (if d.targetState ≠ ld2410TargetNone then "on" else "off")).length ≤ 3 := by
  split_ifs <;> decide

/-- The body has at least 189 bytes. -/
theorem length_stateJson_ge (d : MmwaveData) : 189 ≤ (stateJson d).length := by
  have := one_le_length_dec d.motionEnergy.toNat
  have := one_le_length_dec d.staticEnergy.toNat
  have := one_le_length_dec d.motionDistance.toNat
  have := one_le_length_dec d.staticDistance.toNat
  have := one_le_length_dec d.detectionDistance.toNat
  have := length_onOff d
  rw [length_stateJson]; omega

/-- The body has at most 206 bytes: `%u` of a `uint8_t` has at most three digits and of a
`uint16_t` at most five. -/
theorem length_stateJson_le (d : MmwaveData) : (stateJson d).length ≤ 206 := by
  have h8 (x : UInt8) : (dec x.toNat).length ≤ 3 := length_dec_le (by decide) (x.toNat_lt_size.trans (by decide))
  have h16 (x : UInt16) : (dec x.toNat).length ≤ 5 :=
    length_dec_le (by decide) (x.toNat_lt_size.trans (by decide))
  have := h8 d.motionEnergy
  have := h8 d.staticEnergy
  have := h16 d.motionDistance
  have := h16 d.staticDistance
  have := h16 d.detectionDistance
  have := length_onOff d
  rw [length_stateJson]; omega

/-- The request is 161 bytes of format text around its arguments. -/
theorem length_httpRequest (entityId host : List UInt8) (port : UInt16) (token : List UInt8)
    (bodyLen : Int) (jsonBody : List UInt8) :
    (httpRequest entityId host port token bodyLen jsonBody).length =
      132 + entityId.length + host.length + (dec port.toNat).length + token.length +
        (decInt bodyLen).length + jsonBody.length := by
  simp only [httpRequest, List.length_append]
  rw [show (ascii "POST /api/states/").length = 17 from rfl,
    show (ascii " HTTP/1.1\r\nHost: ").length = 17 from rfl, show (ascii ":").length = 1 from rfl,
    show (ascii "\r\nAuthorization: Bearer ").length = 24 from rfl,
    show (ascii "\r\nContent-Type: application/json\r\nContent-Length: ").length = 50 from rfl,
    show (ascii "\r\nConnection: close\r\n\r\n").length = 23 from rfl]
  omega

end MmwaveOs
