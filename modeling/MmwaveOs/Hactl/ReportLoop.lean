import MmwaveOs.Hactl.Report
import MmwaveOs.Driver.Read

/-!
# The Reporting Loop: `ha_report_task`

While `g_reporting` holds, `ha_report_task` reads a reading from the device, posts it when its
target state differs from `prev_state`, and moves `prev_state` to that state only when the post
returned `OK`; `prev_state` starts at `0xFF` to force a first report. This module runs the loop
over any sequence of passes, each with what the driver answers to its `read` and what the
network answers to its post, and proves two properties of whole runs:

- Home Assistant never acknowledges one state twice in a row, and `prev_state` is the last
  state it acknowledged (`haReportLoop_acked`): the loop reports changes, not every 30 seconds
  as its comment says.
- Once the network takes every post the loop makes, `prev_state` catches up with the sensor at
  the next whole reading, whatever happened before (`haReportLoop_catches_up`).

## Layout
- §1 one pass and the loop
- §2 one lemma per pass
- §3 runs
-/

namespace MmwaveOs

/-! ## §1 The Loop -/

/-- What one pass of the loop meets: what the driver answers to its `read` of a reading's size,
and what `socket`/`connect`, `send` and the reply give a post. -/
structure ReportPass where
  read : ReadResult
  connectErr : Option Int
  sent : Int
  response : List UInt8

/-- One pass of `ha_report_task`'s loop from `prev_state`: the post it makes, with the reading
and what `ha_post_state` returned, and `prev_state` after it; `none` when the post reads past
`http_buf`. A `read` counts only when it copied a whole reading. -/
def haReportPass (cfg : HaConfig) (prev : UInt8) (p : ReportPass) :
    Option (Option (MmwaveData × DrvRet) × UInt8) :=
  match p.read with
  | .reading d =>
    if d.targetState ≠ prev then
      (haPostState cfg d p.connectErr p.sent p.response).map fun r =>
        (some (d, r.2), if r.2 = .ok then d.targetState else prev)
    else some (none, prev)
  | _ => some (none, prev)

/-- The loop over its passes from `prev_state`: the posts it makes in order and the
`prev_state` it ends with. -/
def haReportLoop (cfg : HaConfig) : UInt8 → List ReportPass →
    Option (List (MmwaveData × DrvRet) × UInt8)
  | prev, [] => some ([], prev)
  | prev, p :: ps => (haReportPass cfg prev p).bind fun r =>
      (haReportLoop cfg r.2 ps).map fun s => (r.1.toList ++ s.1, s.2)

/-- The states Home Assistant acknowledged, in order. -/
def ackedStates (posts : List (MmwaveData × DrvRet)) : List UInt8 :=
  (posts.filter fun post => post.2 = .ok).map fun post => post.1.targetState

/-- The target state of the last whole reading among the passes, `s` when there is none. -/
def lastReadState (s : UInt8) : List ReportPass → UInt8
  | [] => s
  | p :: ps =>
    lastReadState (match p.read with
      | .reading d => d.targetState
      | _ => s) ps

/-! ## §2 One Lemma per Pass -/

/-- A pass makes no post and keeps `prev_state`, or posts a reading whose state differs from
`prev_state` and moves to that state exactly when the post returned `OK`. -/
theorem haReportPass_cases {cfg : HaConfig} {prev prev' : UInt8} {p : ReportPass}
    {post : Option (MmwaveData × DrvRet)} (h : haReportPass cfg prev p = some (post, prev')) :
    (post = none ∧ prev' = prev) ∨
      ∃ d ret, post = some (d, ret) ∧ d.targetState ≠ prev ∧
        prev' = if ret = .ok then d.targetState else prev := by
  unfold haReportPass at h
  split at h
  · next d _ =>
    split_ifs at h with hne
    · obtain ⟨r, -, hr⟩ := Option.map_eq_some'.mp h
      cases hr
      exact .inr ⟨d, r.2, rfl, hne, rfl⟩
    · cases h; exact .inl ⟨rfl, rfl⟩
  · cases h; exact .inl ⟨rfl, rfl⟩

/-- A post a pass makes is of its reading, and what `ha_post_state` returned for it. -/
theorem haReportPass_post {cfg : HaConfig} {prev prev' : UInt8} {p : ReportPass}
    {d : MmwaveData} {ret : DrvRet} (h : haReportPass cfg prev p = some (some (d, ret), prev')) :
    p.read = .reading d ∧
      ∃ x, haPostState cfg d p.connectErr p.sent p.response = some x ∧ x.2 = ret := by
  unfold haReportPass at h
  split at h
  · next d' hd =>
    split_ifs at h
    · obtain ⟨x, hx, hx'⟩ := Option.map_eq_some'.mp h
      simp only [Prod.mk.injEq, Option.some.injEq] at hx'
      obtain ⟨⟨rfl, rfl⟩, -⟩ := hx'
      exact ⟨hd, x, hx, rfl⟩
    · cases h
  · cases h

/-- A pass whose post, if it makes one, is taken moves `prev_state` to the state of its
reading. -/
theorem haReportPass_of_ok {cfg : HaConfig} {prev prev' : UInt8} {p : ReportPass}
    {post : Option (MmwaveData × DrvRet)} (h : haReportPass cfg prev p = some (post, prev'))
    (hok : ∀ x ∈ post, x.2 = .ok) : prev' = lastReadState prev [p] := by
  unfold haReportPass at h
  rw [lastReadState, lastReadState]
  split at h
  · split_ifs at h with hne
    · obtain ⟨r, -, hr⟩ := Option.map_eq_some'.mp h
      cases hr
      rw [if_pos (hok _ rfl)]
    · cases h; exact (not_not.mp hne).symm
  · cases h; rfl

theorem haReportLoop_append (cfg : HaConfig) (prev : UInt8) (ps₁ ps₂ : List ReportPass) :
    haReportLoop cfg prev (ps₁ ++ ps₂) = (haReportLoop cfg prev ps₁).bind fun r =>
      (haReportLoop cfg r.2 ps₂).map fun s => (r.1 ++ s.1, s.2) := by
  induction ps₁ generalizing prev with
  | nil => simp [haReportLoop]
  | cons p ps ih =>
    rw [List.cons_append, haReportLoop, haReportLoop, Option.bind_assoc]
    congr 1; funext r
    rw [ih, Option.map_bind, Option.bind_map]
    congr 1; funext r'
    simp only [Option.map_map, Function.comp_def, List.append_assoc]

theorem lastReadState_append (s : UInt8) (ps₁ ps₂ : List ReportPass) :
    lastReadState s (ps₁ ++ ps₂) = lastReadState (lastReadState s ps₁) ps₂ := by
  induction ps₁ generalizing s with
  | nil => rfl
  | cons p ps ih => exact ih _

/-! ## §3 Runs -/

/-- **No state is acknowledged twice in a row.** Over every run of the loop, each state Home
Assistant acknowledges differs from the one acknowledged before it (the first from the
`prev_state` the run starts with), and `prev_state` ends at the last acknowledged state. -/
theorem haReportLoop_acked (cfg : HaConfig) (prev : UInt8) (ps : List ReportPass)
    (posts : List (MmwaveData × DrvRet)) (q : UInt8)
    (h : haReportLoop cfg prev ps = some (posts, q)) :
    List.Chain (· ≠ ·) prev (ackedStates posts) ∧ q = (ackedStates posts).getLast?.getD prev := by
  induction ps generalizing prev posts q with
  | nil =>
    cases h
    exact ⟨.nil, rfl⟩
  | cons p ps ih =>
    obtain ⟨⟨post, prev'⟩, hp, hr⟩ := Option.bind_eq_some.mp h
    obtain ⟨⟨posts', q'⟩, hl, hq⟩ := Option.map_eq_some'.mp hr
    cases hq
    obtain ⟨hc, hq⟩ := ih prev' posts' q' hl
    rcases haReportPass_cases hp with ⟨rfl, rfl⟩ | ⟨d, ret, rfl, hne, rfl⟩
    · exact ⟨hc, hq⟩
    · by_cases hok : ret = .ok
      · subst hok
        simp only [if_true] at hc hq
        simp only [ackedStates, Option.toList_some, List.singleton_append, List.filter_cons,
          decide_True, if_true, List.map_cons] at hc hq ⊢
        exact ⟨.cons (Ne.symm hne) hc, by rw [List.getLast?_cons, Option.getD_some, hq]⟩
      · simp only [hok, if_false] at hc hq
        simp only [ackedStates, Option.toList_some, List.singleton_append, List.filter_cons,
          hok, decide_False, if_false] at hc hq ⊢
        exact ⟨hc, hq⟩

/-- The request tests' configuration, a connection made, the whole request sent and a `200`
reply: the post of a reading is taken. -/
theorem haPostState_testConfig_ok :
    (haPostState testConfig ⟨1, 100, 50, 200, 30, 100, 0⟩ none
      (haRequest testConfig ⟨1, 100, 50, 200, 30, 100, 0⟩).length
      (ascii "HTTP/1.1 200 OK\r\n\r\n")).map Prod.snd = some .ok := by
  have hlen : (haRequest testConfig ⟨1, 100, 50, 200, 30, 100, 0⟩).length ≤ haHttpBufSize := by
    have := (length_haRequest_bounds testConfig ⟨1, 100, 50, 200, 30, 100, 0⟩).2
    have : testConfig.url.length + testConfig.token.length = 28 := by decide
    simp only [haHttpBufSize]; omega
  exact (haPostState_ok_iff _ _ _ _ _).mpr ⟨by decide, by decide, rfl, hlen, rfl, by decide⟩

theorem haReportLoop_testConfig_ok :
    haReportLoop testConfig haReportInitState
      [⟨.reading ⟨1, 100, 50, 200, 30, 100, 0⟩, none,
        (haRequest testConfig ⟨1, 100, 50, 200, 30, 100, 0⟩).length,
        ascii "HTTP/1.1 200 OK\r\n\r\n"⟩] =
    some ([(⟨1, 100, 50, 200, 30, 100, 0⟩, .ok)], 1) := by
  obtain ⟨x, hx, hx2⟩ := Option.map_eq_some'.mp haPostState_testConfig_ok
  rw [haReportLoop, haReportPass]
  dsimp only
  rw [if_pos (by decide), hx]
  simp [hx2, haReportLoop]

/-- A first reading, taken by Home Assistant. -/
theorem haReportLoop_acked_first :
    haReportLoop testConfig haReportInitState
      [⟨.reading ⟨1, 100, 50, 200, 30, 100, 0⟩, none,
        (haRequest testConfig ⟨1, 100, 50, 200, 30, 100, 0⟩).length,
        ascii "HTTP/1.1 200 OK\r\n\r\n"⟩] =
      some ([(⟨1, 100, 50, 200, 30, 100, 0⟩, .ok)], 1) ∧
    List.Chain (· ≠ ·) haReportInitState (ackedStates [(⟨1, 100, 50, 200, 30, 100, 0⟩, .ok)]) ∧
    1 = (ackedStates [(⟨1, 100, 50, 200, 30, 100, 0⟩, .ok)]).getLast?.getD haReportInitState :=
  ⟨haReportLoop_testConfig_ok, haReportLoop_acked _ _ _ _ _ haReportLoop_testConfig_ok⟩

/-- A run of the loop whose posts were all taken ends with `prev_state` at the state of its last
whole reading. -/
theorem haReportLoop_of_ok (cfg : HaConfig) {prev q : UInt8} {ps : List ReportPass}
    {posts : List (MmwaveData × DrvRet)} (h : haReportLoop cfg prev ps = some (posts, q))
    (hok : ∀ post ∈ posts, post.2 = .ok) : q = lastReadState prev ps := by
  induction ps generalizing prev posts with
  | nil => cases h; rfl
  | cons p ps ih =>
    obtain ⟨⟨post, prev'⟩, hp, hr⟩ := Option.bind_eq_some.mp h
    obtain ⟨⟨posts', q'⟩, hl, hq⟩ := Option.map_eq_some'.mp hr
    cases hq
    have hprev := haReportPass_of_ok hp fun x hx =>
      hok x (List.mem_append_left _ (Option.mem_toList.mpr hx))
    rw [ih hl fun x hx => hok x (List.mem_append_right _ hx), hprev, ← lastReadState_append,
      List.singleton_append]

/-- **Once the network takes every post, the loop catches up.** Whatever a run did before, the
passes that follow it end with `prev_state` at the state of their last whole reading as soon as
every post they make is taken. -/
theorem haReportLoop_catches_up (cfg : HaConfig) (prev : UInt8) (ps₁ ps₂ : List ReportPass)
    (posts₁ posts₂ : List (MmwaveData × DrvRet)) (q₁ q₂ : UInt8)
    (h₁ : haReportLoop cfg prev ps₁ = some (posts₁, q₁))
    (h₂ : haReportLoop cfg q₁ ps₂ = some (posts₂, q₂)) (hok : ∀ post ∈ posts₂, post.2 = .ok) :
    haReportLoop cfg prev (ps₁ ++ ps₂) = some (posts₁ ++ posts₂, lastReadState q₁ ps₂) := by
  rw [haReportLoop_append, h₁, Option.some_bind, h₂, Option.map_some',
    haReportLoop_of_ok cfg h₂ hok]

/-- A post the network refuses, then a reading taken. -/
theorem haReportLoop_catches_up_after_refusal :
    haReportLoop testConfig haReportInitState
        [⟨.reading ⟨1, 100, 50, 200, 30, 100, 0⟩, some 111, 0, []⟩] =
      some ([(⟨1, 100, 50, 200, 30, 100, 0⟩, .err 111)], haReportInitState) ∧
    haReportLoop testConfig haReportInitState
      [⟨.reading ⟨1, 100, 50, 200, 30, 100, 0⟩, none,
        (haRequest testConfig ⟨1, 100, 50, 200, 30, 100, 0⟩).length,
        ascii "HTTP/1.1 200 OK\r\n\r\n"⟩] =
      some ([(⟨1, 100, 50, 200, 30, 100, 0⟩, .ok)], 1) ∧
    (∀ post ∈ [((⟨1, 100, 50, 200, 30, 100, 0⟩ : MmwaveData), DrvRet.ok)], post.2 = .ok) ∧
    haReportLoop testConfig haReportInitState
        ([⟨.reading ⟨1, 100, 50, 200, 30, 100, 0⟩, some 111, 0, []⟩] ++
          [⟨.reading ⟨1, 100, 50, 200, 30, 100, 0⟩, none,
            (haRequest testConfig ⟨1, 100, 50, 200, 30, 100, 0⟩).length,
            ascii "HTTP/1.1 200 OK\r\n\r\n"⟩]) =
      some ([(⟨1, 100, 50, 200, 30, 100, 0⟩, .err 111)] ++ [(⟨1, 100, 50, 200, 30, 100, 0⟩, .ok)],
        lastReadState haReportInitState
          [⟨.reading ⟨1, 100, 50, 200, 30, 100, 0⟩, none,
            (haRequest testConfig ⟨1, 100, 50, 200, 30, 100, 0⟩).length,
            ascii "HTTP/1.1 200 OK\r\n\r\n"⟩]) :=
  have h₁ : haReportLoop testConfig haReportInitState
      [⟨.reading ⟨1, 100, 50, 200, 30, 100, 0⟩, some 111, 0, []⟩] =
      some ([(⟨1, 100, 50, 200, 30, 100, 0⟩, .err 111)], haReportInitState) := rfl
  have hok : ∀ post ∈ [((⟨1, 100, 50, 200, 30, 100, 0⟩ : MmwaveData), DrvRet.ok)],
      post.2 = .ok := by simp
  ⟨h₁, haReportLoop_testConfig_ok, hok,
    haReportLoop_catches_up _ _ _ _ _ _ _ _ h₁ haReportLoop_testConfig_ok hok⟩

end MmwaveOs
