import CodexBridge.Tool.Events

/-!
# Settlement values and `renderResult`

The three values `execute` settles with: the result before start (`codex/index.ts` lines
132 to 145), the close handler's result (lines 238 to 265), and the error of the `error`
handler (lines 268 to 279; lines 303 to 323 of the experimental version, which tells a
missing executable and a refused one apart). Then `renderResult` (lines 303 to 368; 347 to
412), which picks one of three branches, streaming, error and success, and builds its text.

The close handler counts an exit as failed when `code !== 0 && code !== null`: a child
killed by a signal (code `null`) is a success unless the abort signal fired. It puts the
captured stderr in `details.error`, which `renderResult` tests for truthiness.

**Theorem (`stream_chunk_independent`).** The close handler's result depends on the stdout
text only, not on the chunks it came in: its events and last message are those of the text's
lines, and every update before it was a snapshot of a growing prefix of them.

**Theorem (`settled_result_banner`).** A resolved result shows the error banner, for every
`expanded`, when the signal had fired or the code is a number other than `0` with stderr
written, and the success banner when the signal had not fired and the code is `0` or `null`.

**Theorem (`update_view`).** The streaming view of every update shows its event count and its
own text, `Starting...` when its newest event is falsy.

**Theorem (`handed_values_typed`).** Update texts are strings; events, `lastMessage` and the
final text have their declared types when every line that parses is an event object whose
agent message, if any, is a string. The casts check nothing, so other lines break them
(`non_event_lines_handed_over`).
-/

namespace CodexBridge

/-- The result when the signal had fired before `execute` started. -/
def abortedBeforeStart : ToolResult :=
  ⟨[.string "Codex execution aborted before start."], ⟨[], none, false, none, some "aborted"⟩⟩

/-- `${v || fallback}`: `none` where `ToString` throws. -/
def textOr (v : Option JsValue) (fallback : String) : Option String :=
  anyToString (orElse v (some (.string fallback)))

/-- `${code}` for a close code. -/
def codeText : Option Int → String
  | some n => toString n
  | none => "null"

/-- `code !== 0 && code !== null`. -/
def hasError (code : Option Int) : Bool := code != some 0 && code != none

/-- The text of the close handler's result, `none` where a template literal throws. -/
def closeText (lastMessage : JsValue) (stderr : String) (code : Option Int)
    (wasAborted : Bool) : Option JsValue :=
  if wasAborted then
    (textOr (some lastMessage) "(no output)").map fun t =>
      .string ("Codex execution aborted.\n\nPartial output:\n" ++ t)
  else if hasError code then
    (textOr (some lastMessage) "(no output)").map fun t =>
      .string ("Codex exited with code " ++ codeText code ++ ".\n\nStderr:\n" ++
        (if stderr = "" then "(no stderr)" else stderr) ++ "\n\nOutput:\n" ++ t)
  else orElse (some lastMessage) (some (.string "(Codex completed with no message output)"))

/-- The close handler's `details.error`. -/
def closeError (stderr : String) (code : Option Int) (wasAborted : Bool) : Option String :=
  if wasAborted then some "aborted" else if hasError code then some stderr else none

/-- The close handler's result, after the buffer flush: `none` where building it throws, and
the handler with it, so that it settles nothing. -/
def closeResult (st : LineState) (stderr : String) (code : Option Int) (wasAborted : Bool) :
    Option ToolResult :=
  (closeText st.lastMessage stderr code wasAborted).map fun text =>
    ⟨[text], ⟨st.events, code, false, some st.lastMessage, closeError stderr code wasAborted⟩⟩

/-- The error the `error` handler passes to the host: an `err` with a `code` and a
`message`. -/
structure SpawnError where
  code : Option String
  message : String
  deriving DecidableEq

/-- The `error` handler's message. -/
def spawnErrorMessage : Version → SpawnError → String
  | .codex, err => "Failed to spawn Codex: " ++ err.message ++ ". Is Codex CLI installed?"
  | .experimental, err =>
    if err.code = some "ENOENT" then "Codex CLI not found. Install with: npm install -g @openai/codex"
    else if err.code = some "EACCES" then "Permission denied running Codex CLI: " ++ err.message
    else "Failed to spawn Codex: " ++ err.message

/-! ## `renderResult` -/

/-- The theme's two methods. -/
structure Theme where
  fg : String → String → String
  bold : String → String

/-- The object `renderResult` is given: `execute`'s result, with the host's `isError`. -/
structure ResultView where
  content : List JsValue
  details : Option CodexDetails
  isError : Bool := false

/-- The three things `renderResult` can show. -/
inductive RenderBranch
  | streaming
  | error
  | success
  deriving DecidableEq, Repr

/-- `details?.streaming`, then `isError || details?.error`. -/
def renderBranch (r : ResultView) : RenderBranch :=
  if (r.details.map (·.streaming)).getD false then .streaming
  else if r.isError || truthy ((r.details.bind (·.error)).map .string) then .error
  else .success

/-- `message.length > 200 ? message.slice(0, 197) + "..." : message`, `none` where it
throws: `slice` of an object, or its `length` that `ToPrimitive` refuses. -/
def previewMessage : JsValue → Option JsValue
  | .string s => some (.string (if utf16Length s > 200 then
      String.mk (utf16Take 197 s.toList) ++ "..." else s))
  | .array xs => if xs.length > 200 then
      (toJsString (.array (xs.take 197))).map (.string <| · ++ "...") else some (.array xs)
  | .object fs => (gtNat (JsValue.field fs "length") 200).bind fun long =>
      if long then none else some (.object fs)
  | .null => none
  | v => some v

/-- The error banner and its message. -/
def errorText (ver : Version) (theme : Theme) (msg : String) : String :=
  theme.fg "error" ver.markers.errorBanner ++ theme.fg "muted" msg

def renderResult (ver : Version) (r : ResultView) (expanded : Bool) (theme : Theme) :
    Option String :=
  let m := ver.markers
  match renderBranch r with
  | .streaming =>
    let events := (r.details.map (·.events)).getD []
    let status := match events.getLast? with
      | some e => if truthy (some e) then formatEventForDisplay ver e else some "Starting..."
      | none => some "Starting..."
    status.map fun s => theme.fg "warning" m.running ++
      theme.fg "muted" (m.runningLabel ++ toString events.length ++ " events)") ++ "\n" ++ s
  | .error =>
    some (errorText ver theme (match r.details.bind (·.error) with
      | some e => if e = "" then "Unknown error" else e
      | none => "Unknown error"))
  | .success =>
    let message := (orElse (orElse (r.details.bind (·.lastMessage)) r.content.head?)
      (some (.string ""))).getD (.string "")
    (previewMessage message).bind fun preview =>
      if expanded then
        (toJsString message).map fun text => theme.fg "success" m.okBanner ++
          theme.fg "muted" ("Codex completed (exit " ++
            toString ((r.details.bind (·.exitCode)).getD 0) ++ ", " ++
            toString ((r.details.map (·.events.length)).getD 0) ++ " events)") ++ "\n\n" ++ text
      else (toJsString preview).map fun text =>
        theme.fg "success" m.okBanner ++ theme.fg "muted" "Codex: " ++ text

/-- **The error branch always renders**, its banner first, whatever `expanded` is. -/
theorem renderResult_error {ver : Version} {r : ResultView} (h : renderBranch r = .error)
    (expanded : Bool) (theme : Theme) :
    ∃ msg, renderResult ver r expanded theme = some (errorText ver theme msg) := by
  simp only [renderResult, h]
  exact ⟨_, rfl⟩

/-- The success branch shows the success banner first, where it renders. -/
theorem renderResult_success {ver : Version} {r : ResultView} (h : renderBranch r = .success)
    (expanded : Bool) (theme : Theme) (out : String)
    (hout : renderResult ver r expanded theme = some out) :
    ∃ rest, out = theme.fg "success" ver.markers.okBanner ++ rest := by
  simp only [renderResult, h, Option.bind_eq_some] at hout
  obtain ⟨preview, -, hout⟩ := hout
  split at hout <;> obtain ⟨text, -, rfl⟩ := Option.map_eq_some'.mp hout <;>
    exact ⟨_, by simp only [String.append_assoc]; rfl⟩

/-! ## The close handler's error field -/

theorem closeResult_details {st : LineState} {stderr : String} {code : Option Int}
    {wasAborted : Bool} {r : ToolResult} (h : closeResult st stderr code wasAborted = some r) :
    r.details = ⟨st.events, code, false, some st.lastMessage, closeError stderr code wasAborted⟩ := by
  obtain ⟨text, -, rfl⟩ := Option.map_eq_some'.mp h
  rfl

theorem closeError_spec (stderr : String) (code : Option Int) (wasAborted : Bool) :
    closeError stderr code wasAborted =
      if wasAborted then some "aborted"
      else if code = some 0 ∨ code = none then none else some stderr := by
  unfold closeError hasError
  cases wasAborted <;> cases code <;> simp

/-- `renderResult` on a settled result: the error branch exactly when `details.error` is a
nonempty string. -/
theorem renderBranch_settled (content : List JsValue) (d : CodexDetails) (hs : d.streaming = false) :
    renderBranch ⟨content, some d, false⟩ =
      if d.error = none ∨ d.error = some "" then .success else .error := by
  unfold renderBranch
  cases he : d.error with
  | none => simp [hs, he, truthy]
  | some e => by_cases h : e = "" <;> simp [hs, he, h, truthy]

/-- **What a settled result shows.** The error branch when `details.error` is a nonempty
string, with its banner for every `expanded`; the success branch, with its banner wherever it
renders, when `details.error` is absent. -/
theorem settled_view_banner (ver : Version) (content : List JsValue) (d : CodexDetails)
    (hs : d.streaming = false) :
    ((∃ e, d.error = some e ∧ e ≠ "") → ∀ expanded theme,
      ∃ msg, renderResult ver ⟨content, some d, false⟩ expanded theme = some (errorText ver theme msg)) ∧
    (d.error = none → ∀ expanded theme out,
      renderResult ver ⟨content, some d, false⟩ expanded theme = some out →
        ∃ rest, out = theme.fg "success" ver.markers.okBanner ++ rest) := by
  have hb := renderBranch_settled content d hs
  constructor
  · rintro ⟨e, he, hne⟩
    exact renderResult_error (by simp [hb, he, hne])
  · intro he
    exact renderResult_success (by simp [hb, he])

/-- **The banner of every resolution.** The result before start shows the error banner. The
close handler's result shows it, for every `expanded`, when the signal had fired or the code is
a number other than `0` and stderr is not empty; it shows the success banner when the signal had
not fired and the code is `0` or `null`, a child killed by a signal it was not asked to send. -/
theorem settled_result_banner (ver : Version) :
    (∀ expanded theme, ∃ msg, renderResult ver
      ⟨abortedBeforeStart.content, some abortedBeforeStart.details, false⟩ expanded theme =
        some (errorText ver theme msg)) ∧
    ∀ (lines : LineState) (stderr : String) (code : Option Int) (wasAborted : Bool) (r : ToolResult),
      closeResult lines stderr code wasAborted = some r →
      (wasAborted = true ∨ (code ≠ some 0 ∧ code ≠ none ∧ stderr ≠ "") →
        (∃ e, r.details.error = some e ∧ e ≠ "") ∧ ∀ expanded theme, ∃ msg,
          renderResult ver ⟨r.content, some r.details, false⟩ expanded theme =
            some (errorText ver theme msg)) ∧
      (wasAborted = false ∧ (code = some 0 ∨ code = none) →
        r.details.error = none ∧ ∀ expanded theme out,
          renderResult ver ⟨r.content, some r.details, false⟩ expanded theme = some out →
            ∃ rest, out = theme.fg "success" ver.markers.okBanner ++ rest) := by
  refine ⟨(settled_view_banner ver _ _ rfl).1 ⟨"aborted", rfl, by decide⟩, ?_⟩
  intro lines stderr code wasAborted r hr
  have hd := closeResult_details hr
  have hv := settled_view_banner ver r.content r.details (by rw [hd])
  have herr : r.details.error = if wasAborted then some "aborted"
      else if code = some 0 ∨ code = none then none else some stderr := by
    rw [hd]; exact closeError_spec stderr code wasAborted
  refine ⟨fun h => ?_, fun h => ?_⟩
  · have : ∃ e, r.details.error = some e ∧ e ≠ "" := by
      cases wasAborted
      · obtain ⟨h₀, h₁, h₂⟩ := h.resolve_left Bool.false_ne_true
        exact ⟨stderr, by simp [herr, h₀, h₁], h₂⟩
      · exact ⟨"aborted", by simp [herr], by decide⟩
    exact ⟨this, hv.1 this⟩
  · have : r.details.error = none := by rw [herr, h.1]; simp [h.2]
    exact ⟨this, hv.2 this⟩

/-- A child killed by a signal nobody requested closes with code `null`, and its result shows
the success banner with no error. -/
theorem killed_child_shows_success :
    closeResult {} "" none false = some ⟨[.string "(Codex completed with no message output)"],
      ⟨[], none, false, some (.string ""), none⟩⟩ ∧
    renderBranch ⟨[.string "(Codex completed with no message output)"],
      some ⟨[], none, false, some (.string ""), none⟩, false⟩ = .success := by
  decide

/-! ## The result depends on the text, not on its chunks -/

/-- **Chunk boundaries do not matter.** Whatever chunks the stdout text arrived in, and whatever
the code and the abort flag, the close handler's result is the one the text's lines give: its
events are the events of the lines and its `lastMessage` their last message. Every update was a
snapshot of a prefix of those events, with its own last message, each longer than the one
before. -/
theorem stream_chunk_independent (ver : Version) (chunks : List String) (stderr : String)
    (code : Option Int) (wasAborted : Bool) :
    let events := streamEvents (String.join chunks).toList
    let st := chunks.foldl (onStdoutData ver) {}
    closeResult (flushBuffer st) stderr code wasAborted =
        closeResult ⟨events, lastMessageOf events⟩ stderr code wasAborted ∧
    (∀ r, closeResult (flushBuffer st) stderr code wasAborted = some r →
      r.details.events = events ∧ r.details.lastMessage = some (lastMessageOf events)) ∧
    (∀ u ∈ st.updates, u.details.events <+: events ∧
      u.details.lastMessage = some (lastMessageOf u.details.events)) ∧
    st.updates.Pairwise fun u v => u.details.events.length < v.details.events.length := by
  dsimp only
  obtain ⟨hev, hlm, hup, hgrow, -⟩ := flushBuffer_foldl_onStdoutData ver chunks
  generalize chunks.foldl (onStdoutData ver) {} = st at *
  generalize streamEvents (String.join chunks).toList = events at *
  have hfl : flushBuffer st = ⟨events, lastMessageOf events⟩ := by
    calc flushBuffer st = ⟨(flushBuffer st).events, (flushBuffer st).lastMessage⟩ := rfl
      _ = _ := by rw [hlm, hev]
  refine ⟨by rw [hfl], fun r hr => ?_, fun u hu => hev ▸ hup u hu, hgrow⟩
  simp [closeResult_details hr, hfl]

/-! ## The declared types -/

/-- What `CodexEvent` declares: an object with a string `type`, whose agent message, if it
carries one, is a string. -/
def EventShaped (e : JsValue) : Prop :=
  (∃ fs t, e = .object fs ∧ JsValue.field fs "type" = some (.string t)) ∧
    ∀ v, agentMessageText e = some v → ∃ s, v = .string s

/-- A value handed to the host as declared: string texts, event objects, a string
`lastMessage`. -/
def WellTyped (r : ToolResult) : Prop :=
  (∀ c ∈ r.content, ∃ s, c = .string s) ∧ (∀ e ∈ r.details.events, EventShaped e) ∧
    ∀ v, r.details.lastMessage = some v → ∃ s, v = .string s

theorem lastMessageOf_string {es : List JsValue} (h : ∀ e ∈ es, EventShaped e) :
    ∃ s, lastMessageOf es = .string s := by
  suffices ∀ m : JsValue, (∃ s, m = .string s) →
      ∃ s, es.foldl (fun m e => (agentMessageText e).getD m) m = .string s from this _ ⟨"", rfl⟩
  induction es with
  | nil => exact fun m hm => hm
  | cons e es ih =>
    intro m hm
    refine ih (fun x hx => h x (List.mem_cons_of_mem e hx)) _ ?_
    show ∃ s, (agentMessageText e).getD m = .string s
    cases he : agentMessageText e with
    | none => simpa using hm
    | some v => simpa using (h e (List.mem_cons_self e es)).2 v he

theorem closeText_string (s stderr : String) (code : Option Int) (wasAborted : Bool) :
    ∃ t, closeText (.string s) stderr code wasAborted = some (.string t) := by
  unfold closeText textOr orElse
  split_ifs <;> simp [anyToString, toJsString]

/-- **What the host is handed.** Update texts are always strings. When every line that parses is
an event object whose agent message is a string, every update and the close handler's result
have their declared types, and the close handler does not throw. -/
theorem handed_values_typed (ver : Version) (chunks : List String) (stderr : String)
    (code : Option Int) (wasAborted : Bool) :
    let st := chunks.foldl (onStdoutData ver) {}
    (∀ u ∈ st.updates, ∀ c ∈ u.content, ∃ s, c = .string s) ∧
    ((∀ e ∈ streamEvents (String.join chunks).toList, EventShaped e) →
      (∀ u ∈ st.updates, WellTyped u) ∧
      ∃ r, closeResult (flushBuffer st) stderr code wasAborted = some r ∧ WellTyped r) := by
  dsimp only
  obtain ⟨hev, hlm, hup, -, htexts⟩ := flushBuffer_foldl_onStdoutData ver chunks
  generalize chunks.foldl (onStdoutData ver) {} = st at *
  have hstr : ∀ u ∈ st.updates, ∀ c ∈ u.content, ∃ s, c = .string s := fun u hu c hc => by
    obtain ⟨t, ht⟩ := htexts u hu
    exact ⟨t, by simpa [ht] using hc⟩
  refine ⟨hstr, fun h => ⟨fun u hu => ?_, ?_⟩⟩
  · obtain ⟨hp, hm⟩ := hup u hu
    have hsh : ∀ e ∈ u.details.events, EventShaped e := fun e he => h e (hev ▸ hp.subset he)
    obtain ⟨s, hs⟩ := lastMessageOf_string hsh
    exact ⟨hstr u hu, hsh, fun v hv => ⟨s, by rw [hm, hs] at hv; exact (Option.some.inj hv).symm⟩⟩
  · obtain ⟨s, hs⟩ := lastMessageOf_string (hev ▸ h)
    rw [← hev] at h
    obtain ⟨t, ht⟩ := closeText_string s stderr code wasAborted
    refine ⟨_, by rw [closeResult, hlm, hs, ht]; rfl, fun c hc => ⟨t, by simpa using hc⟩, h,
      fun v hv => ⟨s, ?_⟩⟩
    simp only [Option.some.injEq] at hv
    exact hv.symm


/-- A line `42` is pushed as an event and handed over in an update, and an agent message whose
`text` is `5` becomes `lastMessage` and the final text. -/
theorem non_event_lines_handed_over :
    let st := ["42\n\x7b\"type\":\"item.completed\",\"item\":\x7b\"type\":\"agent_message\",\"text\":5\x7d\x7d\n"].foldl
      (onStdoutData .codex) {}
    st.updates.head?.map (·.details.events) = some [.number (JsNumber.ofNat 42)] ∧
    (closeResult (flushBuffer st) "" (some 0) false).map (·.content) =
      some [.number (JsNumber.ofNat 5)] := by
  decide

/-! ## The streaming view of an update -/

/-- What an update carries: the display of its newest event, in a streaming snapshot. -/
def UpdateShows (ver : Version) (u : ToolResult) : Prop :=
  u.details.streaming = true ∧ ∃ e t, u.details.events.getLast? = some e ∧
    formatEventForDisplay ver e = some t ∧ u.content = [.string t]

/-- An update is the display of the event its line parsed to. -/
theorem lineUpdate_shows {ver : Version} {s : LineState} {l : String} {u : ToolResult}
    (h : lineUpdate ver s l = some u) : UpdateShows ver u := by
  unfold lineUpdate at h
  split at h
  next => cases h
  next => cases h
  next _ e _ he =>
    obtain ⟨text, ht, rfl⟩ := Option.map_eq_some'.mp h
    exact ⟨rfl, e, text, by simp [classifyLine, he], ht, rfl⟩

theorem processLines_shows {ver : Version} (ls : List (List Char)) :
    ∀ st : StdoutState, (∀ u ∈ st.updates, UpdateShows ver u) →
      ∀ u ∈ (processLines ver st ls).updates, UpdateShows ver u := by
  induction ls with
  | nil => exact fun st h => h
  | cons l ls ih =>
    intro st h
    refine ih _ fun u hu => ?_
    rcases List.mem_append.1 hu with hu | hu
    · exact h u hu
    · exact lineUpdate_shows (Option.mem_toList.1 hu)

theorem foldl_onStdoutData_shows (ver : Version) (chunks : List String) :
    ∀ st : StdoutState, (∀ u ∈ st.updates, UpdateShows ver u) →
      ∀ u ∈ (chunks.foldl (onStdoutData ver) st).updates, UpdateShows ver u := by
  induction chunks with
  | nil => exact fun st h => h
  | cons c cs ih => exact fun st h => ih _ (processLines_shows _ _ h)

/-- **What the streaming view shows.** Whatever chunks the stdout text arrives in, every progress
update carries the display of its newest event, and `renderResult` of the update shows its count
of events and that display. When the newest event is falsy (a line `0`, `false` or `""`), the
view shows `Starting...` instead of the update's text. -/
theorem update_view (ver : Version) (chunks : List String) :
    ∀ u ∈ (chunks.foldl (onStdoutData ver) {}).updates, ∃ e t,
      u.details.events.getLast? = some e ∧ formatEventForDisplay ver e = some t ∧
      u.content = [.string t] ∧ ∀ expanded theme,
        renderResult ver ⟨u.content, some u.details, false⟩ expanded theme =
          some (theme.fg "warning" ver.markers.running ++
            theme.fg "muted" (ver.markers.runningLabel ++ toString u.details.events.length ++
              " events)") ++ "\n" ++ if truthy (some e) then t else "Starting...") := by
  intro u hu
  obtain ⟨hs, e, t, hlast, ht, hc⟩ := foldl_onStdoutData_shows ver chunks {} (by simp) u hu
  refine ⟨e, t, hlast, ht, hc, fun expanded theme => ?_⟩
  have hb : renderBranch ⟨u.content, some u.details, false⟩ = .streaming := by
    simp [renderBranch, hs]
  simp only [renderResult, hb, Option.map_some', Option.getD_some]
  rw [hlast]
  by_cases htr : truthy (some e) = true <;> simp [htr, ht]


/-- A `turn.started` line: its update shows `[turn started]`, and so does its streaming view. -/
theorem turn_started_update_view :
    ∃ u ∈ (["\x7b\"type\":\"turn.started\"\x7d\n"].foldl (onStdoutData .codex) {}).updates, ∃ e t,
      u.details.events.getLast? = some e ∧ formatEventForDisplay .codex e = some t ∧
      u.content = [.string t] ∧ ∀ expanded theme,
        renderResult .codex ⟨u.content, some u.details, false⟩ expanded theme =
          some (theme.fg "warning" Version.codex.markers.running ++
            theme.fg "muted" (Version.codex.markers.runningLabel ++ toString u.details.events.length ++
              " events)") ++ "\n" ++ if truthy (some e) then t else "Starting...") :=
  let u : ToolResult := ⟨[.string "[turn started]"],
    ⟨[.object [("type", .string "turn.started")]], none, true, some (.string ""), none⟩⟩
  have hu : u ∈ (["\x7b\"type\":\"turn.started\"\x7d\n"].foldl (onStdoutData .codex) {}).updates := by
    decide
  ⟨u, hu, update_view .codex _ u hu⟩

end CodexBridge
