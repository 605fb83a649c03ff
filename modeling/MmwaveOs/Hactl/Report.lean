import MmwaveOs.Hactl.Format

/-!
# Posting and Reporting: `ha_post_state` and `ha_report_task`

`ha_post_state` formats the body and the request, sends `httplen` bytes of `http_buf` and
accepts the reply when `200` or `201` occurs anywhere in it. `ha_report_task` posts a reading
whose target state differs from the last one posted, starting from the sentinel `0xFF`, and
remembers the state only when the post returned `OK`.

Two properties the spec asks for do not hold. `snprintf` returns the length the request would
have, not what fits: for a host and token of 161 bytes together (a Home Assistant long-lived
token alone has about 180) `httplen` exceeds the 512 bytes of `http_buf`, and `send` reads
past it (`haPostState_overruns_http_buf`), where the tested helper `ha_format_http_request`
reports `-1`. And a reply whose status is not 200 or 201 is accepted as soon as its headers or
body contain one of the two numbers (`haReportRead_accepts_401`).

## Layout
- §1 the configuration, `strstr`, `ha_post_state` and one pass of `ha_report_task`
- §2 when the post returns `OK`, and what the report pass remembers
- §3 the overrun of `http_buf`
- §4 a 401 reply taken for success
-/

namespace MmwaveOs

/-! ## §1 Posting -/

/-- `HA_MAX_URL_LEN`. -/
def haMaxUrlLen : Nat := 128
/-- `HA_MAX_TOKEN_LEN`. -/
def haMaxTokenLen : Nat := 256
/-- `HA_HTTP_BUF_SIZE`, the size of `http_buf`. -/
def haHttpBufSize : Nat := 512

/-- The part of `struct ha_config_s` that `ha_post_state` reads: host, port and token. Host and
token are C strings that fit their arrays, as `strncpy` of at most `HA_MAX_*_LEN - 1` bytes
into a zeroed array leaves them. -/
structure HaConfig where
  url : List UInt8
  port : UInt16
  token : List UInt8
  url_length_lt : url.length < haMaxUrlLen
  token_length_lt : token.length < haMaxTokenLen
  url_no_nul : 0 ∉ url
  token_no_nul : 0 ∉ token

/-- `strstr(hay, pat) != NULL`. -/
def strstr (hay pat : List UInt8) : Bool := hay.tails.any fun t => pat.isPrefixOf t

/-- `recv` of at most `sizeof(http_buf) - 1` bytes, `http_buf[nread] = '\0'`, and the two
`strstr` calls: whether `ha_post_state` takes the sink's reply for an acknowledgement. -/
def replyAccepted (response : List UInt8) : Bool :=
  let reply := response.take (haHttpBufSize - 1)
  let text := reply.takeWhile (· ≠ 0)
  0 < reply.length && (strstr text (ascii "200") || strstr text (ascii "201"))

/-- `ha_post_state`: the bytes handed to `send`, if any, and the return code; `none` when `send`
reads past `http_buf`. `connectErr` is the code returned when `socket`, the address lookup or
`connect` fails, `sent` what `send` returns, and `response` the bytes the sink sends back. -/
def haPostState (cfg : HaConfig) (d : MmwaveData) (connectErr : Option Int) (sent : Int)
    (response : List UInt8) : Option (Option (List UInt8) × DrvRet) :=
  if cfg.url = [] ∨ cfg.token = [] then some (none, .einval)
  else match connectErr with
  | some e => some (none, .err e)
  | none =>
    let (body, bodylen) := snprintf 256 (stateJson d)
    let (httpBuf, httplen) := snprintf haHttpBufSize
      (httpRequest haEntityId cfg.url cfg.port cfg.token bodylen body)
    if httplen > haHttpBufSize then none
    else
      let bytes := (httpBuf ++ [0]).take httplen
      if sent ≠ httplen then some (some bytes, .eio)
      else if replyAccepted response then some (some bytes, .ok)
      else some (some bytes, .eio)

/-- The `prev_state` `ha_report_task` starts with, to force a first report. -/
def haReportInitState : UInt8 := 0xFF

/-- One pass of `ha_report_task`'s loop that read a whole reading: post it when its target state
differs from `prevState`, and keep its state only when the post returned `OK`; `none` when the
post reads past `http_buf`. -/
def haReportRead (cfg : HaConfig) (prevState : UInt8) (d : MmwaveData) (connectErr : Option Int)
    (sent : Int) (response : List UInt8) : Option UInt8 :=
  if d.targetState ≠ prevState then
    (haPostState cfg d connectErr sent response).map fun p =>
      if p.2 = .ok then d.targetState else prevState
  else some prevState

/-! ## §2 What a Post Returns -/

/-- The request `ha_post_state` formats for a reading, around the whole body. -/
def haRequest (cfg : HaConfig) (d : MmwaveData) : List UInt8 :=
  httpRequest haEntityId cfg.url cfg.port cfg.token (stateJson d).length (stateJson d)

/-- The 256-byte `body` always holds the whole body. -/
theorem snprintf_stateJson (d : MmwaveData) :
    snprintf 256 (stateJson d) = (stateJson d, (stateJson d).length) := by
  have := length_stateJson_le d
  rw [snprintf, List.take_of_length_le (by omega)]

/-- With host and token set and the connection made, `ha_post_state` sends what `http_buf` holds
of the request and returns `OK` exactly when all of it went out and the reply is accepted. -/
theorem haPostState_connected {cfg : HaConfig} (hu : cfg.url ≠ []) (ht : cfg.token ≠ [])
    (d : MmwaveData) (sent : Int) (response : List UInt8) :
    haPostState cfg d none sent response =
      if haHttpBufSize < (haRequest cfg d).length then none
      else some (some (((haRequest cfg d).take (haHttpBufSize - 1) ++ [0]).take
          (haRequest cfg d).length),
        if sent = (haRequest cfg d).length ∧ replyAccepted response = true then .ok else .eio) := by
  generalize hr : haRequest cfg d = req
  rw [haRequest] at hr
  unfold haPostState
  rw [if_neg (by tauto), snprintf_stateJson]
  simp only [snprintf, hr]
  by_cases hs : sent = req.length <;> by_cases ha : replyAccepted response <;> simp [hs, ha]

/-- **When a post succeeds.** `ha_post_state` returns `OK` exactly when host and token are set,
the connection is made, the request fits `http_buf`, `send` takes all of it, and the reply is
accepted. -/
theorem haPostState_ok_iff (cfg : HaConfig) (d : MmwaveData) (connectErr : Option Int)
    (sent : Int) (response : List UInt8) :
    (haPostState cfg d connectErr sent response).map Prod.snd = some .ok ↔
      cfg.url ≠ [] ∧ cfg.token ≠ [] ∧ connectErr = none ∧
        (haRequest cfg d).length ≤ haHttpBufSize ∧ sent = (haRequest cfg d).length ∧
          replyAccepted response = true := by
  by_cases hut : cfg.url = [] ∨ cfg.token = []
  · have h : haPostState cfg d connectErr sent response = some (none, .einval) := by
      unfold haPostState; rw [if_pos hut]
    rw [h]
    exact ⟨(fun h => by cases h), fun ⟨hu, ht, _⟩ => (hut.elim hu ht).elim⟩
  rw [not_or] at hut
  cases connectErr with
  | some e =>
    have h : haPostState cfg d (some e) sent response = some (none, .err e) := by
      unfold haPostState; rw [if_neg (by tauto)]
    rw [h]
    exact ⟨(fun h => by cases h), fun ⟨_, _, h, _⟩ => by cases h⟩
  | none =>
    rw [haPostState_connected hut.1 hut.2]
    by_cases hlen : haHttpBufSize < (haRequest cfg d).length
    · rw [if_pos hlen]
      exact ⟨(fun h => by cases h), fun ⟨_, _, _, h, _⟩ => absurd h (Nat.not_le.mpr hlen)⟩
    rw [if_neg hlen]
    by_cases hok : sent = (haRequest cfg d).length ∧ replyAccepted response = true
    · rw [if_pos hok]
      exact ⟨fun _ => ⟨hut.1, hut.2, rfl, Nat.not_lt.mp hlen, hok⟩, fun _ => rfl⟩
    · rw [if_neg hok]
      exact ⟨(fun h => by cases h), fun ⟨_, _, _, _, h⟩ => absurd h hok⟩

/-! ## §3 The Overrun of `http_buf` -/

theorem length_haEntityId : haEntityId.length = 29 := rfl

theorem decInt_natCast (n : Nat) : decInt (n : Int) = dec n := rfl

/-- Beside host and token, the request has 352 to 375 bytes: 161 of format text, a port of one
to five digits, a body of 189 to 206 bytes and its length in three digits. -/
theorem length_haRequest_bounds (cfg : HaConfig) (d : MmwaveData) :
    352 + cfg.url.length + cfg.token.length ≤ (haRequest cfg d).length ∧
      (haRequest cfg d).length ≤ 375 + cfg.url.length + cfg.token.length := by
  have := one_le_length_dec cfg.port.toNat
  have := length_dec_le (n := cfg.port.toNat) (k := 5) (by decide)
    (cfg.port.toNat_lt_size.trans (by decide))
  have := one_le_length_dec (stateJson d).length
  have := length_stateJson_ge d
  have := length_stateJson_le d
  have := length_dec_le (n := (stateJson d).length) (k := 3) (by decide) (by omega)
  rw [haRequest, length_httpRequest, length_haEntityId, decInt_natCast]
  omega

/-- `ha_format_state_json` with a 256-byte buffer never truncates. -/
theorem haFormatStateJson_256 (d : MmwaveData) :
    haFormatStateJson 256 d = (stateJson d, ((stateJson d).length : Int)) := by
  have := length_stateJson_le d
  unfold haFormatStateJson
  rw [snprintf_stateJson]
  exact congrArg _ (if_neg (by omega))

/-- `ha_format_http_request` around the body `ha_format_state_json` builds formats the request
of `ha_post_state`. -/
theorem haFormatHttpRequest_haRequest (cfg : HaConfig) (d : MmwaveData) (bufsize : Nat) :
    haFormatHttpRequest bufsize haEntityId cfg.url cfg.port cfg.token
        (haFormatStateJson 256 d).1 (haFormatStateJson 256 d).2 =
      ((haRequest cfg d).take (bufsize - 1),
        if (haRequest cfg d).length ≥ bufsize then -1 else ((haRequest cfg d).length : Int)) := by
  rw [haFormatStateJson_256]; rfl

/-- **A long token overruns `http_buf`.** Once host and token have 161 bytes together, the
request no longer fits the 512-byte `http_buf`: `send` is asked for more bytes than `http_buf`
holds, where `ha_format_http_request` reports the truncation with `-1`. -/
theorem haPostState_overruns_http_buf (cfg : HaConfig) (d : MmwaveData) (sent : Int)
    (response : List UInt8) (hu : cfg.url ≠ []) (ht : cfg.token ≠ [])
    (h : 161 ≤ cfg.url.length + cfg.token.length) :
    haHttpBufSize < (haRequest cfg d).length ∧ haPostState cfg d none sent response = none ∧
      (haFormatHttpRequest haHttpBufSize haEntityId cfg.url cfg.port cfg.token
        (haFormatStateJson 256 d).1 (haFormatStateJson 256 d).2).2 = -1 := by
  have hlen : haHttpBufSize < (haRequest cfg d).length := by
    have := (length_haRequest_bounds cfg d).1
    simp only [haHttpBufSize]; omega
  refine ⟨hlen, by rw [haPostState_connected hu ht, if_pos hlen], ?_⟩
  rw [haFormatHttpRequest_haRequest, if_pos hlen.le]

/-- A host given as its address and a 183-byte long-lived access token. -/
def longTokenConfig : HaConfig where
  url := ascii "192.168.1.100"
  port := 8123
  token := List.replicate 183 0x61
  url_length_lt := by decide
  token_length_lt := by rw [List.length_replicate]; decide
  url_no_nul := by decide
  token_no_nul := by rw [List.mem_replicate]; decide

theorem haPostState_overruns_http_buf_long_token :
    haHttpBufSize < (haRequest longTokenConfig ⟨1, 100, 50, 200, 30, 100, 0⟩).length ∧
      haPostState longTokenConfig ⟨1, 100, 50, 200, 30, 100, 0⟩ none 0 [] = none ∧
      (haFormatHttpRequest haHttpBufSize haEntityId longTokenConfig.url longTokenConfig.port
        longTokenConfig.token (haFormatStateJson 256 ⟨1, 100, 50, 200, 30, 100, 0⟩).1
        (haFormatStateJson 256 ⟨1, 100, 50, 200, 30, 100, 0⟩).2).2 = -1 :=
  haPostState_overruns_http_buf longTokenConfig _ 0 [] (by decide) (by decide)
    (by simp only [longTokenConfig, List.length_replicate]; decide)

/-! ## §4 A 401 Reply Taken for Success -/

/-- The configuration of the request tests, with the token `my_secret_token`. -/
def testConfig : HaConfig where
  url := ascii "192.168.1.100"
  port := 8123
  token := ascii "my_secret_token"
  url_length_lt := by decide
  token_length_lt := by decide
  url_no_nul := by decide
  token_no_nul := by decide

/-- **A 401 counts as an acknowledgement.** A reply whose status line says 401 but whose
headers contain `200` is accepted: `ha_post_state` returns `OK`, and `ha_report_task` records
the state as reported and does not retry it. -/
theorem haReportRead_accepts_401 :
    replyAccepted (ascii "HTTP/1.1 401 Unauthorized\r\nContent-Length: 200\r\n\r\n") = true ∧
      haReportRead testConfig haReportInitState ⟨1, 100, 50, 200, 30, 100, 0⟩ none
        (haRequest testConfig ⟨1, 100, 50, 200, 30, 100, 0⟩).length
        (ascii "HTTP/1.1 401 Unauthorized\r\nContent-Length: 200\r\n\r\n") = some 1 := by
  have hacc : replyAccepted
      (ascii "HTTP/1.1 401 Unauthorized\r\nContent-Length: 200\r\n\r\n") = true := by decide
  have hfit : ¬haHttpBufSize < (haRequest testConfig ⟨1, 100, 50, 200, 30, 100, 0⟩).length := by
    have := (length_haRequest_bounds testConfig ⟨1, 100, 50, 200, 30, 100, 0⟩).2
    have : testConfig.url.length + testConfig.token.length = 28 := by decide
    simp only [haHttpBufSize]; omega
  refine ⟨hacc, ?_⟩
  rw [haReportRead, if_pos (by decide), haPostState_connected (by decide) (by decide),
    if_neg hfit, if_pos ⟨rfl, hacc⟩]
  rfl

end MmwaveOs
