import MmwaveOs.Hactl.Report

/-!
# The Configuration File: `ha_save_config` and `ha_load_config`

`ha_save_config` writes `/config/ha.conf` as four lines, `url=`, `port=`, `token=` and
`interval=`. `ha_load_config` reads it back with `fgets` into a 384-byte `line`, splits each line
at its first `=`, strips one trailing newline from the value, copies `url` and `token` with
`strncpy` of at most `HA_MAX_*_LEN - 1` bytes, and converts `port` and `interval` with
`(uint16_t)atoi`. A file that cannot be opened gives the defaults and `-ENOENT`.

The main result is the round trip (`haLoadConfig_haSaveConfig`): whatever configuration was
loaded before, loading the file `ha_save_config` wrote restores the saved one, as soon as its
url and token hold no newline.

## Layout
- §1 the C library pieces: `fgets`, `strchr`, `strncpy`, `atoi` and the `uint16_t` cast
- §2 the configuration, `ha_save_config` and `ha_load_config`
- §3 one lemma per step of the loop
- §4 the round trip
-/

namespace MmwaveOs

/-! ## §1 The C Library Pieces -/

/-- The bytes `fgets` stores from the rest `s` of the file when it may store `n` of them: up to
and including the first newline, and what it leaves. -/
def fgetsTake : Nat → List UInt8 → List UInt8 × List UInt8
  | 0, s => ([], s)
  | _ + 1, [] => ([], [])
  | n + 1, c :: s =>
    if c = 10 then ([c], s) else let (l, r) := fgetsTake n s; (c :: l, r)

/-- `fgets(line, size, f)` on the rest `s` of the file: the bytes it stores in `line` before the
NUL and the rest of the file; `none` (`NULL`) at the end of the file. -/
def fgets (size : Nat) (s : List UInt8) : Option (List UInt8 × List UInt8) :=
  if s = [] then none else some (fgetsTake (size - 1) s)

/-- A buffer read as a C string: its bytes before the first NUL. -/
def cstr (buf : List UInt8) : List UInt8 := buf.takeWhile (· ≠ 0)

/-- `eq = strchr(line, b)`, `*eq = '\0'` and `val = eq + 1`: the bytes before the first `b` and
those after it; `none` when `line` has no `b`. -/
def strchr (line : List UInt8) (b : UInt8) : Option (List UInt8 × List UInt8) :=
  if b ∈ line then some (line.takeWhile (· ≠ b), (line.dropWhile (· ≠ b)).tail) else none

/-- `strncpy(dst, src, n)` into an array whose byte `n` stays NUL, read back as a C string: the
bytes of `src` before its NUL, at most `n` of them. -/
def strncpy (src : List UInt8) (n : Nat) : List UInt8 := (cstr src).take n

/-- `isspace` in the C locale. -/
def isSpace (c : UInt8) : Bool := c = 32 || (9 ≤ c.toNat && c.toNat ≤ 13)

/-- `atoi`: leading white space, an optional sign and the longest run of digits after it;
`none` when the value does not fit an `int`, where `atoi` is undefined. -/
def atoi (s : List UInt8) : Option Int :=
  let (neg, s) : Bool × List UInt8 := match s.dropWhile isSpace with
    | c :: t => if c = 45 then (true, t) else if c = 43 then (false, t) else (false, c :: t)
    | [] => (false, [])
  let v : Int := if neg then -(digitsValue (s.takeWhile isDigit) : Int)
    else digitsValue (s.takeWhile isDigit)
  if -2 ^ 31 ≤ v ∧ v < 2 ^ 31 then some v else none

/-- The cast `(uint16_t)` of an `int`. -/
def castUInt16 (v : Int) : UInt16 := UInt16.ofNat (v % 2 ^ 16).toNat

theorem zero_not_mem_cstr (buf : List UInt8) : 0 ∉ cstr buf := fun h => by
  simpa using List.mem_takeWhile_imp h

theorem cstr_of_zero_not_mem {s : List UInt8} (h : 0 ∉ s) : cstr s = s :=
  List.takeWhile_eq_self_iff.mpr fun c hc => by simpa using ne_of_mem_of_not_mem hc h

theorem length_strncpy_le (src : List UInt8) (n : Nat) : (strncpy src n).length ≤ n :=
  List.length_take_le _ _

theorem zero_not_mem_strncpy (src : List UInt8) (n : Nat) : 0 ∉ strncpy src n :=
  fun h => zero_not_mem_cstr src (List.mem_of_mem_take h)

/-- A C string that fits is copied whole. -/
theorem strncpy_of_fits {src : List UInt8} {n : Nat} (h0 : 0 ∉ src) (hn : src.length ≤ n) :
    strncpy src n = src := by
  rw [strncpy, cstr_of_zero_not_mem h0, List.take_of_length_le hn]

/-! ## §2 The Configuration and its File -/

/-- `HA_DEFAULT_PORT`. -/
def haDefaultPort : UInt16 := 8123

/-- `ENOENT`. -/
def enoent : Int := 2

/-- `struct ha_config_s` as the configuration file holds it: host, port and token, and
`report_interval_ms`. -/
structure HaConfigS extends HaConfig where
  reportIntervalMs : UInt16

/-- The configuration `ha_load_config` sets when the file cannot be opened: zeroed, with
`HA_DEFAULT_PORT` and 500 ms. -/
def haDefaultConfig : HaConfigS where
  url := []
  port := haDefaultPort
  token := []
  url_length_lt := by decide
  token_length_lt := by decide
  url_no_nul := List.not_mem_nil _
  token_no_nul := List.not_mem_nil _
  reportIntervalMs := 500

/-- `strncpy(g_ha_config.url, val, HA_MAX_URL_LEN - 1)`. -/
def HaConfigS.setUrl (c : HaConfigS) (val : List UInt8) : HaConfigS :=
  { c with
    url := strncpy val (haMaxUrlLen - 1)
    url_length_lt := (length_strncpy_le _ _).trans_lt (by decide)
    url_no_nul := zero_not_mem_strncpy _ _ }

/-- `strncpy(g_ha_config.token, val, HA_MAX_TOKEN_LEN - 1)`. -/
def HaConfigS.setToken (c : HaConfigS) (val : List UInt8) : HaConfigS :=
  { c with
    token := strncpy val (haMaxTokenLen - 1)
    token_length_lt := (length_strncpy_le _ _).trans_lt (by decide)
    token_no_nul := zero_not_mem_strncpy _ _ }

/-- `ha_save_config`: the file it leaves and its return code. `openErrno` is `errno` when `fopen`
fails; then nothing is written and the old file stays. -/
def haSaveConfig (c : HaConfigS) (openErrno : Option Int) : Option (List UInt8) × Int :=
  match openErrno with
  | some e => (none, -e)
  | none =>
    (some (ascii "url=" ++ c.url ++ ascii "\n" ++ ascii "port=" ++ dec c.port.toNat ++
      ascii "\n" ++ ascii "token=" ++ c.token ++ ascii "\n" ++ ascii "interval=" ++
      dec c.reportIntervalMs.toNat ++ ascii "\n"), 0)

/-- The `if`-chain of `ha_load_config` on a line's key and value. -/
def haLoadKey (c : HaConfigS) (key val : List UInt8) : Option HaConfigS :=
  if key = ascii "url" then some (c.setUrl val)
  else if key = ascii "port" then (atoi val).map fun v => { c with port := castUInt16 v }
  else if key = ascii "token" then some (c.setToken val)
  else if key = ascii "interval" then
    (atoi val).map fun v => { c with reportIntervalMs := castUInt16 v }
  else some c

/-- One turn of `ha_load_config`'s loop on the bytes `fgets` stored: skip a line without `=`,
split it at its first `=`, and strip one trailing newline from the value
(`if (vlen > 0 && val[vlen - 1] == '\n')`). -/
def haLoadLine (c : HaConfigS) (buf : List UInt8) : Option HaConfigS :=
  match strchr (cstr buf) 61 with
  | none => some c
  | some (key, val) => haLoadKey c key (if val.getLast? = some 10 then val.dropLast else val)

/-- `while (fgets(line, sizeof(line), f) != NULL)`; each turn that gets a line reads at least one
byte, so one turn more than the file has bytes, the one whose `fgets` returns `NULL`, is fuel
enough. -/
def haLoadLines : Nat → HaConfigS → List UInt8 → Option HaConfigS
  | 0, _, _ => none
  | fuel + 1, c, s =>
    match fgets 384 s with
    | none => some c
    | some (buf, rest) => (haLoadLine c buf).bind fun c => haLoadLines fuel c rest

/-- `ha_load_config` from the configuration `c` loaded before, on the file's bytes (`none` when
`fopen` fails): the configuration after it and its return code. -/
def haLoadConfig (c : HaConfigS) (file : Option (List UInt8)) : Option (HaConfigS × Int) :=
  match file with
  | none => some (haDefaultConfig, -enoent)
  | some s => (haLoadLines (s.length + 1) c s).map fun c => (c, 0)

/-! ## §3 One Lemma per Step of the Loop -/

/-- `fgets` takes a line that fits `line` up to and including its newline. -/
theorem fgetsTake_line {l : List UInt8} (h10 : 10 ∉ l) (rest : List UInt8) :
    ∀ {n}, l.length < n → fgetsTake n (l ++ 10 :: rest) = (l ++ [10], rest) := by
  induction l with
  | nil => intro n hn; cases n with
    | zero => exact absurd hn (Nat.lt_irrefl 0)
    | succ n => simp [fgetsTake]
  | cons c l ih =>
    intro n hn
    cases n with
    | zero => exact absurd hn (Nat.not_lt_zero _)
    | succ n =>
      have hc : c ≠ 10 := fun h => h10 (h ▸ List.mem_cons_self _ _)
      rw [List.cons_append, fgetsTake, if_neg hc,
        ih (fun h => h10 (List.mem_cons_of_mem _ h)) (by simp at hn; omega)]
      rfl

theorem haLoadLines_nil (fuel : Nat) (c : HaConfigS) : haLoadLines (fuel + 1) c [] = some c := rfl

/-- A turn of the loop on a line that fits `line` and ends in a newline. -/
theorem haLoadLines_line (fuel : Nat) (c : HaConfigS) {l : List UInt8} (h10 : 10 ∉ l)
    (hl : l.length < 383) (rest : List UInt8) :
    haLoadLines (fuel + 1) c (l ++ 10 :: rest) =
      (haLoadLine c (l ++ [10])).bind fun c => haLoadLines fuel c rest := by
  rw [haLoadLines, fgets, if_neg (by simp), fgetsTake_line h10 rest hl]

/-- `fgets` splits the rest of the file: the bytes it stores, then those it leaves. -/
theorem fgetsTake_append : ∀ (n : Nat) (s : List UInt8), (fgetsTake n s).1 ++ (fgetsTake n s).2 = s
  | 0, _ | _ + 1, [] => rfl
  | n + 1, c :: s => by
    unfold fgetsTake
    split_ifs
    · rfl
    · exact congrArg (c :: ·) (fgetsTake_append n s)

theorem fgets_append {s buf rest : List UInt8} (h : fgets 384 s = some (buf, rest)) :
    buf ++ rest = s := by
  unfold fgets at h
  split_ifs at h
  rw [← fgetsTake_append (384 - 1) s, Option.some.inj h]

/-- A turn of the loop that gets a line reads at least one byte of the file. -/
theorem fgets_rest_length {s buf rest : List UInt8} (h : fgets 384 s = some (buf, rest)) :
    rest.length < s.length := by
  have hs := fgets_append h
  unfold fgets at h
  split_ifs at h with hnil
  obtain ⟨c, t, rfl⟩ := List.exists_cons_of_ne_nil hnil
  have hbuf : buf ≠ [] := by
    rw [← show (fgetsTake 383 (c :: t)).1 = buf from congrArg Prod.fst (Option.some.inj h)]
    unfold fgetsTake; split_ifs <;> simp
  have := congrArg List.length hs
  have := List.length_pos.mpr hbuf
  simp only [List.length_append] at *
  omega

/-- **Fuel past the file's length changes nothing**: `s.length + 1` turns are the whole loop,
the last one the turn whose `fgets` returns `NULL`. -/
theorem haLoadLines_fuel (fuel : Nat) : ∀ {fuel' : Nat} {c : HaConfigS} {s : List UInt8},
    s.length < fuel → s.length < fuel' → haLoadLines fuel c s = haLoadLines fuel' c s := by
  induction fuel with
  | zero => intro _ _ _ h; omega
  | succ fuel ih =>
    intro fuel' c s h h'
    obtain ⟨fuel', rfl⟩ := Nat.exists_eq_succ_of_ne_zero (by omega : fuel' ≠ 0)
    unfold haLoadLines
    cases hf : fgets 384 s with
    | none => rfl
    | some p =>
      have := fgets_rest_length hf
      dsimp only
      congr 1; funext c; exact ih (by omega) (by omega)

/-- A file without `=` leaves the configuration as it was. -/
theorem haLoadLines_of_no_eq (fuel : Nat) : ∀ {c : HaConfigS} {s : List UInt8}, 61 ∉ s →
    s.length < fuel → haLoadLines fuel c s = some c := by
  induction fuel with
  | zero => intro _ _ _ h; omega
  | succ fuel ih =>
    intro c s h61 h
    unfold haLoadLines
    cases hf : fgets 384 s with
    | none => rfl
    | some p =>
      obtain ⟨buf, rest⟩ := p
      have hs := fgets_append hf
      have hlt := fgets_rest_length hf
      have hline : strchr (cstr buf) 61 = none :=
        if_neg fun h => h61 (hs ▸ List.mem_append_left _ ((List.takeWhile_sublist _).subset h))
      simp only [haLoadLine, hline, Option.some_bind]
      exact ih (fun h => h61 (hs ▸ List.mem_append_right _ h)) (by omega)

/-- **`ha_load_config` of a file without `=`** (an empty `ha.conf`, or one of newlines) returns
`OK` and leaves `g_ha_config` as it was. -/
theorem haLoadConfig_of_no_eq (c : HaConfigS) {s : List UInt8} (h : 61 ∉ s) :
    haLoadConfig c (some s) = some (c, 0) := by
  rw [haLoadConfig, haLoadLines_of_no_eq _ h (Nat.lt_succ_self _)]; rfl

/-- An `ha.conf` of `x` and two newlines loads as the defaults it started from. -/
theorem haLoadConfig_of_no_eq_x :
    (61 : UInt8) ∉ ascii "x\n\n" ∧
      haLoadConfig haDefaultConfig (some (ascii "x\n\n")) = some (haDefaultConfig, 0) :=
  ⟨by decide, haLoadConfig_of_no_eq haDefaultConfig (by decide)⟩

/-- A line `key=val` whose value holds no newline gives the key and the whole value. -/
theorem haLoadLine_key (c : HaConfigS) {key val : List UInt8} (hk61 : 61 ∉ key)
    (h0 : 0 ∉ key ++ 61 :: val) :
    haLoadLine c (key ++ 61 :: val ++ [10]) = haLoadKey c key val := by
  have hc : cstr (key ++ 61 :: val ++ [10]) = key ++ 61 :: val ++ [10] :=
    cstr_of_zero_not_mem (by simpa using h0)
  have hkey : ∀ b ∈ key, decide (b ≠ 61) = true := fun b hb => by
    simpa using ne_of_mem_of_not_mem hb hk61
  have hs : strchr (key ++ 61 :: val ++ [10]) 61 = some (key, val ++ [10]) := by
    rw [strchr, if_pos (by simp), List.append_assoc, List.takeWhile_append_of_pos hkey,
      List.dropWhile_append_of_pos hkey, List.cons_append, List.takeWhile_cons_of_neg (by simp),
      List.dropWhile_cons_of_neg (by simp), List.append_nil, List.tail_cons]
  rw [haLoadLine, hc, hs]
  simp only [List.getLast?_concat, if_true, List.dropLast_concat]

/-- The value of a line `key=val`, `'\n'`-free, no NUL, and short enough for `line`. -/
theorem haLoadLines_keyLine (fuel : Nat) (c : HaConfigS) (key : List UInt8)
    (hk : 61 ∉ key ∧ 0 ∉ key ∧ 10 ∉ key ∧ key.length ≤ 8) {val : List UInt8}
    (hv : 0 ∉ val ∧ 10 ∉ val ∧ val.length ≤ 255) (rest : List UInt8) :
    haLoadLines (fuel + 1) c (key ++ 61 :: val ++ 10 :: rest) =
      (haLoadKey c key val).bind fun c => haLoadLines fuel c rest := by
  obtain ⟨hk61, hk0, hk10, hkl⟩ := hk
  obtain ⟨hv0, hv10, hvl⟩ := hv
  rw [haLoadLines_line fuel c (by simp [hk10, hv10]) (by simp; omega),
    haLoadLine_key c hk61 (by simp [hk0, hv0])]

/-- `atoi` reads a decimal of an `int` back. -/
theorem atoi_dec {n : Nat} (h : n < 2 ^ 31) : atoi (dec n) = some (n : Int) := by
  obtain ⟨hne, hdig, hv⟩ := dec_digits n
  obtain ⟨b, s, hbs⟩ := List.exists_cons_of_ne_nil hne
  have hb : isDigit b = true := hdig b (by rw [hbs]; exact List.mem_cons_self _ _)
  have h45 : b ≠ 45 := by rintro rfl; exact absurd hb (by decide)
  have h43 : b ≠ 43 := by rintro rfl; exact absurd hb (by decide)
  have h32 : b ≠ 32 := by rintro rfl; exact absurd hb (by decide)
  have hsp : isSpace b = false := by
    simp only [isDigit, Bool.and_eq_true, decide_eq_true_eq] at hb
    simp only [isSpace, h32, decide_False, Bool.false_or, Bool.and_eq_false_iff,
      decide_eq_false_iff_not]
    omega
  have hd : (dec n).dropWhile isSpace = b :: s := by
    rw [hbs, List.dropWhile_cons_of_neg (by simp [hsp])]
  simp only [atoi, hd, if_neg h45, if_neg h43, Bool.false_eq_true, if_false]
  rw [← hbs, List.takeWhile_eq_self_iff.mpr hdig, hv, if_pos (by omega)]

/-- `(uint16_t)` of a value that fits keeps it. -/
theorem castUInt16_toNat (x : UInt16) : castUInt16 x.toNat = x := by
  have h := x.toNat_lt_size
  rw [castUInt16, Int.emod_eq_of_lt (by omega) (by simp [UInt16.size] at h; omega)]
  exact UInt16.toNat.inj (UInt16.toNat_ofNat_of_lt h)

/-- What `ha_save_config` writes for a decimal: digits only, at most five for a `uint16_t`. -/
theorem dec_line (x : UInt16) : 0 ∉ dec x.toNat ∧ 10 ∉ dec x.toNat ∧ (dec x.toNat).length ≤ 255 := by
  have hdig := (dec_digits x.toNat).2.1
  refine ⟨fun h => absurd (hdig 0 h) (by decide), fun h => absurd (hdig 10 h) (by decide),
    (length_dec_le (k := 5) (by decide) (x.toNat_lt_size.trans (by decide))).trans (by decide)⟩

/-- A field that is a C string without a newline and of at most 255 bytes fits its line. -/
theorem field_line {v : List UInt8} (h0 : 0 ∉ v) (h10 : 10 ∉ v) (hl : v.length < haMaxTokenLen) :
    0 ∉ v ∧ 10 ∉ v ∧ v.length ≤ 255 :=
  ⟨h0, h10, by rw [haMaxTokenLen] at hl; omega⟩

theorem haLoadKey_url (c : HaConfigS) (val : List UInt8) :
    haLoadKey c (ascii "url") val = some (c.setUrl val) := rfl

theorem haLoadKey_port (c : HaConfigS) (x : UInt16) :
    haLoadKey c (ascii "port") (dec x.toNat) = some { c with port := x } := by
  have h := x.toNat_lt_size
  rw [haLoadKey, if_neg (by decide), if_pos rfl, atoi_dec (by simp [UInt16.size] at h; omega),
    Option.map_some', castUInt16_toNat]

theorem haLoadKey_token (c : HaConfigS) (val : List UInt8) :
    haLoadKey c (ascii "token") val = some (c.setToken val) := rfl

theorem haLoadKey_interval (c : HaConfigS) (x : UInt16) :
    haLoadKey c (ascii "interval") (dec x.toNat) = some { c with reportIntervalMs := x } := by
  have h := x.toNat_lt_size
  rw [haLoadKey, if_neg (by decide), if_neg (by decide), if_neg (by decide), if_pos rfl,
    atoi_dec (by simp [UInt16.size] at h; omega), Option.map_some', castUInt16_toNat]

theorem HaConfigS.eq_of_fields {a b : HaConfigS} (hu : a.url = b.url) (hp : a.port = b.port)
    (ht : a.token = b.token) (hi : a.reportIntervalMs = b.reportIntervalMs) : a = b := by
  obtain ⟨⟨au, ap, at_, _, _, _, _⟩, ai⟩ := a
  obtain ⟨⟨bu, bp, bt, _, _, _, _⟩, bi⟩ := b
  subst hu hp ht hi
  rfl

/-! ## §4 The Round Trip -/

/-- The file cut at the `=` and the newlines `ha_load_config` looks for. -/
theorem haSaveConfig_eq (c : HaConfigS) :
    (haSaveConfig c none).1 = some (ascii "url" ++ 61 :: c.url ++ 10 ::
      (ascii "port" ++ 61 :: dec c.port.toNat ++ 10 ::
        (ascii "token" ++ 61 :: c.token ++ 10 ::
          (ascii "interval" ++ 61 :: dec c.reportIntervalMs.toNat ++ 10 :: [])))) := by
  simp only [haSaveConfig, List.append_assoc, List.cons_append]; rfl

/-- **Loading what was saved restores it.** From every configuration loaded before, loading the
file `ha_save_config` wrote for `c` gives back `c`, whenever its url and token hold no newline:
each line is split at its first `=`, so a value with `=` in it survives, only the trailing
newline is stripped, `strncpy` copies the whole of a url of up to 127 bytes and a token of up to
255, and `atoi` reads every `uint16_t` back. -/
theorem haLoadConfig_haSaveConfig (c₀ c : HaConfigS) (hu : 10 ∉ c.url) (ht : 10 ∉ c.token) :
    haLoadConfig c₀ (haSaveConfig c none).1 = some (c, 0) := by
  obtain ⟨T, hT⟩ : ∃ T, (haSaveConfig c none).1 = some T := ⟨_, rfl⟩
  obtain ⟨k, hk⟩ : ∃ k, T.length = k + 5 := Nat.exists_eq_add_of_le' (by
    rw [haSaveConfig_eq] at hT; cases hT; simp; omega)
  rw [hT, haLoadConfig, hk]
  rw [haSaveConfig_eq] at hT; cases hT
  have hul : c.url.length < haMaxTokenLen := c.url_length_lt.trans (by decide)
  have hport := c.port.toNat_lt_size
  have hint := c.reportIntervalMs.toNat_lt_size
  rw [haLoadLines_keyLine _ _ _ (by decide) (field_line c.url_no_nul hu hul), haLoadKey_url,
    Option.some_bind, haLoadLines_keyLine _ _ _ (by decide) (dec_line c.port), haLoadKey_port,
    Option.some_bind,
    haLoadLines_keyLine _ _ _ (by decide) (field_line c.token_no_nul ht c.token_length_lt),
    haLoadKey_token, Option.some_bind,
    haLoadLines_keyLine _ _ _ (by decide) (dec_line c.reportIntervalMs), haLoadKey_interval,
    Option.some_bind, haLoadLines_nil, Option.map_some']
  exact congrArg some (Prod.ext (HaConfigS.eq_of_fields
    (strncpy_of_fits c.url_no_nul (by have := c.url_length_lt; rw [haMaxUrlLen] at this ⊢; omega))
    rfl
    (strncpy_of_fits c.token_no_nul (by have := c.token_length_lt; rw [haMaxTokenLen] at this ⊢; omega))
    rfl) rfl)

/-- A configuration whose token holds `=`. -/
def eqTokenConfig : HaConfigS where
  url := ascii "192.168.1.100"
  port := 8123
  token := ascii "abc=def=="
  url_length_lt := by decide
  token_length_lt := by decide
  url_no_nul := by decide
  token_no_nul := by decide
  reportIntervalMs := 250

theorem haLoadConfig_haSaveConfig_eq_token :
    10 ∉ eqTokenConfig.url ∧ 10 ∉ eqTokenConfig.token ∧
      haLoadConfig haDefaultConfig (haSaveConfig eqTokenConfig none).1 = some (eqTokenConfig, 0) :=
  ⟨by decide, by decide, haLoadConfig_haSaveConfig _ _ (by decide) (by decide)⟩

end MmwaveOs
