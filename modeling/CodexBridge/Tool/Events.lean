import CodexBridge.Js.Json

/-!
# The event stream: line reassembly, classification, display

`execute`'s stdout handler (`codex/index.ts` lines 174 to 208, and the same lines 209 to 243
of the experimental version) appends each chunk to `buffer`, splits it at `\n`, keeps the last
piece as the new buffer and classifies every other piece: a blank line is skipped, a line
`JSON.parse` refuses is dropped, and any other is pushed onto `events`; an `item.completed`
event of an `agent_message` item with a truthy `text` overwrites `lastMessage`; then
`onUpdate` gets a snapshot. The close handler (lines 222 to 236) classifies the leftover
buffer once more, with no update.

The classification is `classifyLine`, one step on `LineState`; a chunk is `onStdoutData`,
the close-time flush `flushBuffer`. Their meaning is `StreamSpec`: the events and the last
message of everything received so far are a fold over the *lines* of the text, whatever the
chunks were.

**Theorem (`flushBuffer_foldl_onStdoutData`).** After any chunks and the close flush,
`events` and `lastMessage` are those of the lines of the concatenated text; every update is a
snapshot of a prefix of the final events, each one longer than the one before.

**Theorem (`updates_one_per_shown_event`).** The updates are one per event of a complete line
that reading its `type` and displaying it do not throw on, in order, each carrying the events up
to its own: a function of the text, not of the chunks.

**Theorem (`declared_events_all_reported`).** When every event has the types `CodexEvent` and
`CodexItem` declare, none of them is lost: the updates carry every non-empty prefix of the
events, in order.
-/

namespace CodexBridge

/-- Which of the two tool files a definition follows. -/
inductive Version
  | codex
  | experimental
  deriving DecidableEq, Repr

/-- The text markers a version prints, in `formatEventForDisplay` and `renderResult`.
`codex/index.ts` stores its symbols double-encoded (each UTF-8 byte read as a Windows-1252
character); they are kept as the file has them. -/
structure Markers where
  arrow : String
  thinking : String
  ok : String
  exitOpen : String
  exitClose : String
  message : String
  file : String
  running : String
  runningLabel : String
  errorBanner : String
  okBanner : String

def Version.markers : Version → Markers
  | .codex => ⟨"\u00e2\u2020\u2019", "\u00f0\u0178\u2019\u00ad", "\u00e2\u0153\u201c",
      "\u00e2\u0153\u2014 (", ")", "\u00f0\u0178\u2019\u00ac", "\u00f0\u0178\u201c\u201e",
      "\u00e2\u00b3 ", "Codex running (", "\u00e2\u0153\u2014 Codex error: ", "\u00e2\u0153\u201c "⟩
  | .experimental => ⟨"->", "[thinking]", "[ok]", "[exit ", "]", "[message]", "[file]",
      "[running] ", "Codex (", "[error] Codex: ", "[ok] "⟩

/-! ## `formatEventForDisplay` -/

/-- `output.length > 50 ? output.slice(0, 47) + "..." : output` for a truthy `output`, where
the caller then calls `.trim()`: `none` where that throws (`trim` of an array, number,
boolean or object; `slice` of an object). -/
def previewOf : JsValue → Option String
  | .string s => some (if utf16Length s > 50 then String.mk (utf16Take 47 s.toList) ++ "..." else s)
  | .array xs => if xs.length > 50 then (toJsString (.array (xs.take 47))).map (· ++ "...") else none
  | _ => none

/-- The rendering of a completed item, `item` not `null`. -/
def formatCompletedItem (m : Markers) (item : JsValue) : Option String :=
  let ty := item.get "type"
  if ty = some (.string "reasoning") then
    (anyToString (orElse (item.get "text") (some (.string "")))).map (m.thinking ++ " " ++ ·)
  else if ty = some (.string "command_execution") then
    (previewOf ((orElse (item.get "aggregated_output") (some (.string ""))).getD .null)).bind
      fun preview =>
        (if item.get "exit_code" = some (.number .zero) then some m.ok
          else (anyToString (item.get "exit_code")).map (m.exitOpen ++ · ++ m.exitClose)).map
          fun status => status ++ " " ++ jsTrim preview
  else if ty = some (.string "agent_message") then
    (anyToString (orElse (item.get "text") (some (.string "")))).map (m.message ++ " " ++ ·)
  else if ty = some (.string "file_create") ∨ ty = some (.string "file_edit") then
    (anyToString ty).map (m.file ++ " " ++ ·)
  else (anyToString ty).map ("[" ++ · ++ "]")

/-- `formatEventForDisplay(event)` for an `event` whose `type` was read; `none` where it
throws (an `item` event without an item). -/
def formatEventForDisplay (ver : Version) (event : JsValue) : Option String :=
  let ty := event.get "type"
  if ty = some (.string "thread.started") then some "[starting]"
  else if ty = some (.string "turn.started") then some "[turn started]"
  else if ty = some (.string "turn.completed") then
    (anyToString (orElse (optMember (event.get "usage") "output_tokens")
      (some (.number .zero)))).map ("[turn completed: " ++ · ++ " tokens]")
  else if ty = some (.string "item.started") then
    match event.get "item" with
    | some .null | none => none
    | some item =>
      if item.get "type" = some (.string "command_execution") then
        (anyToString (orElse (item.get "command") (some (.string "(command)")))).map
          (ver.markers.arrow ++ " Running: " ++ ·)
      else (anyToString (item.get "type")).map (ver.markers.arrow ++ " " ++ ·)
  else if ty = some (.string "item.completed") then
    match event.get "item" with
    | some .null | none => none
    | some item => formatCompletedItem ver.markers item
  else (anyToString ty).map ("[" ++ · ++ "]")

/-! ## Classifying a line -/

/-- What the tool hands the host: `content[i].text`, and `details`. -/
structure CodexDetails where
  events : List JsValue
  exitCode : Option Int
  streaming : Bool
  lastMessage : Option JsValue
  error : Option String
  deriving DecidableEq

structure ToolResult where
  content : List JsValue
  details : CodexDetails
  deriving DecidableEq

/-- The message an event carries: the `text` of a completed `agent_message` item, when
truthy. `null` has none (reading its `type` throws before the test). -/
def agentMessageText (event : JsValue) : Option JsValue :=
  if event.get "type" = some (.string "item.completed") ∧
      optMember (event.get "item") "type" = some (.string "agent_message") ∧
      truthy (optMember (event.get "item") "text") then
    optMember (event.get "item") "text"
  else none

/-- `lastMessage` after the events: the last message any of them carries, or `""`. -/
def lastMessageOf (events : List JsValue) : JsValue :=
  events.foldl (fun m e => (agentMessageText e).getD m) (.string "")

/-- The variables the stdout handler shares with the close handler. -/
structure LineState where
  events : List JsValue := []
  lastMessage : JsValue := .string ""
  deriving DecidableEq

/-- The event a line contributes: none for a blank line or one `JSON.parse` refuses. -/
def parseLine (line : String) : Option JsValue :=
  if isBlank line then none else jsonParse line

/-- One line of the loop body, or the close-time flush: push the event, then let an agent
message overwrite `lastMessage`. -/
def classifyLine (st : LineState) (line : String) : LineState :=
  match parseLine line with
  | none => st
  | some e => ⟨st.events ++ [e], (agentMessageText e).getD st.lastMessage⟩

/-- The `onUpdate` after a line, if any: none for a skipped line, for `null` (reading its
`type` throws) and where `formatEventForDisplay` throws. The snapshot is of the state after
the line. -/
def lineUpdate (ver : Version) (st : LineState) (line : String) : Option ToolResult :=
  match parseLine line with
  | some .null | none => none
  | some e =>
    (formatEventForDisplay ver e).map fun text =>
      let st' := classifyLine st line
      ⟨[.string text], ⟨st'.events, none, true, some st'.lastMessage, none⟩⟩

/-! ## Splitting and the stdout handler -/

/-- The last piece of a split: `lines.pop() || ""`. -/
def lastPiece (pieces : List (List Char)) : List Char := pieces.getLast?.getD []

/-- Put a character in front of the first piece. -/
def consHead (c : Char) : List (List Char) → List (List Char)
  | l :: ls => (c :: l) :: ls
  | [] => [[c]]

/-- `text.split("\n")`, on characters: always at least one piece. -/
def splitLines : List Char → List (List Char)
  | [] => [[]]
  | c :: cs => if c = '\n' then [] :: splitLines cs else consHead c (splitLines cs)

/-- The stdout handler's variables, and the updates it has made. -/
structure StdoutState where
  lines : LineState := {}
  buffer : List Char := []
  updates : List ToolResult := []

/-- The loop over the complete lines of a chunk. -/
def processLines (ver : Version) : StdoutState → List (List Char) → StdoutState
  | st, [] => st
  | st, l :: ls =>
    processLines ver { st with
      lines := classifyLine st.lines (String.mk l)
      updates := st.updates ++ (lineUpdate ver st.lines (String.mk l)).toList } ls

/-- `child.stdout.on("data")`: append, split, keep the last piece, classify the rest. -/
def onStdoutData (ver : Version) (st : StdoutState) (chunk : String) : StdoutState :=
  let pieces := splitLines (st.buffer ++ chunk.toList)
  processLines ver { st with buffer := pieces.getLast?.getD [] } pieces.dropLast

/-- The close handler's `if (buffer.trim())` flush. -/
def flushBuffer (st : StdoutState) : LineState :=
  classifyLine st.lines (String.mk st.buffer)

/-! ## Splitting is compatible with concatenation -/

theorem splitLines_ne_nil (xs : List Char) : splitLines xs ≠ [] := by
  cases xs with
  | nil => simp [splitLines]
  | cons c cs =>
    unfold splitLines
    split_ifs
    · simp
    · cases splitLines cs <;> simp [consHead]

theorem lastPiece_cons {l : List Char} {P : List (List Char)} (hP : P ≠ []) :
    lastPiece (l :: P) = lastPiece P := by
  obtain ⟨m, rest, rfl⟩ := List.exists_cons_of_ne_nil hP
  simp [lastPiece, List.getLast?_cons_cons]

theorem dropLast_append_lastPiece (xs : List Char) :
    (splitLines xs).dropLast ++ [lastPiece (splitLines xs)] = splitLines xs := by
  have hne := splitLines_ne_nil xs
  rw [lastPiece, List.getLast?_eq_getLast _ hne, Option.getD_some]
  exact List.dropLast_append_getLast hne

theorem splitLines_newline (cs : List Char) : splitLines ('\n' :: cs) = [] :: splitLines cs := by
  simp [splitLines]

theorem splitLines_cons_of_ne {c : Char} (hc : c ≠ '\n') (cs : List Char) :
    splitLines (c :: cs) = consHead c (splitLines cs) := by
  simp [splitLines, hc]

/-- **Splitting a concatenation.** The pieces of `xs ++ ys` are the complete pieces of `xs`,
then the pieces of `xs`'s last piece followed by `ys`: what the stdout handler computes
from its buffer. -/
theorem splitLines_append (xs ys : List Char) :
    splitLines (xs ++ ys) =
      (splitLines xs).dropLast ++ splitLines (lastPiece (splitLines xs) ++ ys) := by
  induction xs with
  | nil => simp [splitLines, lastPiece]
  | cons c xs ih =>
    have hne := splitLines_ne_nil xs
    rw [List.cons_append]
    by_cases hc : c = '\n'
    · subst hc
      rw [splitLines_newline, splitLines_newline, ih, lastPiece_cons hne,
        List.dropLast_cons_of_ne_nil hne, List.cons_append]
    · rw [splitLines_cons_of_ne hc, splitLines_cons_of_ne hc, ih]
      generalize splitLines xs = P at hne ⊢
      rcases P with _ | ⟨l, _ | ⟨m, rest⟩⟩
      · exact absurd rfl hne
      · simp [consHead, lastPiece, splitLines_cons_of_ne hc]
      · simp [consHead, lastPiece_cons, List.dropLast_cons_of_ne_nil]

/-! ## Classification as a fold over lines -/

/-- The events of a text: those of its lines, blank and malformed ones left out. -/
def streamEvents (text : List Char) : List JsValue :=
  ((splitLines text).map String.mk).filterMap parseLine

theorem classifyLine_events (s : LineState) (l : String) :
    (classifyLine s l).events = s.events ++ (parseLine l).toList := by
  unfold classifyLine; split <;> simp_all

theorem lastMessageOf_append (es : List JsValue) (e : JsValue) :
    lastMessageOf (es ++ [e]) = (agentMessageText e).getD (lastMessageOf es) := by
  simp [lastMessageOf]

/-- `lastMessage` is the fold of `agentMessageText` over `events`. -/
def LineState.Coherent (s : LineState) : Prop := s.lastMessage = lastMessageOf s.events

theorem LineState.Coherent.classifyLine {s : LineState} (h : s.Coherent) (l : String) :
    (CodexBridge.classifyLine s l).Coherent := by
  unfold CodexBridge.classifyLine LineState.Coherent
  split
  · exact h
  · rw [lastMessageOf_append, show s.lastMessage = _ from h]

theorem lineUpdate_eq_some {ver : Version} {s : LineState} {l : String} {u : ToolResult}
    (h : lineUpdate ver s l = some u) :
    ∃ e, parseLine l = some e ∧ u.details.events = s.events ++ [e] ∧
      u.details.lastMessage = some (classifyLine s l).lastMessage := by
  unfold lineUpdate at h
  split at h
  next => cases h
  next => cases h
  next _ e _ he =>
    obtain ⟨text, -, rfl⟩ := Option.map_eq_some'.mp h
    exact ⟨e, he, by simp [classifyLine, he], rfl⟩

theorem lineUpdate_content {ver : Version} {s : LineState} {l : String} {u : ToolResult}
    (h : lineUpdate ver s l = some u) : ∃ t, u.content = [.string t] := by
  unfold lineUpdate at h
  split at h
  next => cases h
  next => cases h
  next => obtain ⟨text, -, rfl⟩ := Option.map_eq_some'.mp h; exact ⟨text, rfl⟩

/-- What the updates made so far satisfy: each is a snapshot of a prefix of the current
events with its own `lastMessage`, each longer than the one before. -/
structure UpdatesInv (st : StdoutState) : Prop where
  coherent : st.lines.Coherent
  snapshots : ∀ u ∈ st.updates, u.details.events <+: st.lines.events ∧
    u.details.lastMessage = some (lastMessageOf u.details.events)
  growing : st.updates.Pairwise fun u v => u.details.events.length < v.details.events.length
  texts : ∀ u ∈ st.updates, ∃ t, u.content = [.string t]

theorem UpdatesInv.step {ver : Version} {st : StdoutState} (h : UpdatesInv st) (l : String) :
    UpdatesInv { st with lines := classifyLine st.lines l
                         updates := st.updates ++ (lineUpdate ver st.lines l).toList } := by
  have hev := classifyLine_events st.lines l
  refine ⟨h.coherent.classifyLine l, ?_, ?_, ?_⟩
  · intro u hu
    rcases List.mem_append.mp hu with hu | hu
    · obtain ⟨hp, hm⟩ := h.snapshots u hu
      exact ⟨hp.trans (by rw [hev]; exact List.prefix_append _ _), hm⟩
    · obtain ⟨e, he, hue, hum⟩ := lineUpdate_eq_some (Option.mem_toList.mp hu)
      refine ⟨by rw [hue, hev, he]; exact List.prefix_refl _, ?_⟩
      rw [hum, h.coherent.classifyLine l, hev, he, hue]; rfl
  · refine List.pairwise_append.mpr ⟨h.growing, by cases lineUpdate ver st.lines l <;> simp,
      fun u hu v hv => ?_⟩
    obtain ⟨e, -, hve, -⟩ := lineUpdate_eq_some (Option.mem_toList.mp hv)
    have := (h.snapshots u hu).1.length_le
    rw [hve, List.length_append, List.length_singleton]
    omega
  · intro u hu
    rcases List.mem_append.mp hu with hu | hu
    · exact h.texts u hu
    · exact lineUpdate_content (Option.mem_toList.mp hu)

theorem processLines_spec (ver : Version) (ls : List (List Char)) :
    ∀ st : StdoutState, UpdatesInv st →
      UpdatesInv (processLines ver st ls) ∧
      (processLines ver st ls).lines.events =
        st.lines.events ++ (ls.map String.mk).filterMap parseLine ∧
      (processLines ver st ls).buffer = st.buffer := by
  induction ls with
  | nil => intro st h; simp [processLines, h]
  | cons l ls ih =>
    intro st h
    obtain ⟨h₁, h₂, h₃⟩ := ih _ (h.step (String.mk l))
    refine ⟨h₁, ?_, h₃⟩
    rw [processLines, h₂, classifyLine_events]
    cases hl : parseLine (String.mk l) <;> simp [List.filterMap_cons, hl]

/-- **The stdout handler's invariant.** After the text `received`, the classified lines are
its complete lines and the buffer its last piece. -/
structure StreamInv (received : List Char) (st : StdoutState) extends UpdatesInv st : Prop where
  events : st.lines.events = ((splitLines received).dropLast.map String.mk).filterMap parseLine
  buffer : st.buffer = lastPiece (splitLines received)

theorem streamInv_initial : StreamInv [] {} :=
  ⟨⟨rfl, by simp, by simp, by simp⟩, by simp [splitLines], by simp [splitLines, lastPiece]⟩

/-- **One chunk keeps the invariant.** -/
theorem StreamInv.onStdoutData {ver : Version} {received : List Char} {st : StdoutState}
    (h : StreamInv received st) (chunk : String) :
    StreamInv (received ++ chunk.toList) (CodexBridge.onStdoutData ver st chunk) := by
  have hsplit := splitLines_append received chunk.toList
  rw [← h.buffer] at hsplit
  have hne := splitLines_ne_nil (st.buffer ++ chunk.toList)
  obtain ⟨hinv, hev, hbuf⟩ := processLines_spec ver (splitLines (st.buffer ++ chunk.toList)).dropLast
    { st with buffer := lastPiece (splitLines (st.buffer ++ chunk.toList)) }
    ⟨h.coherent, h.snapshots, h.growing, h.texts⟩
  refine ⟨hinv, ?_, ?_⟩
  · rw [CodexBridge.onStdoutData, ← lastPiece, hev, hsplit, List.dropLast_append_of_ne_nil _ hne]
    simp [h.events]
  · rw [CodexBridge.onStdoutData, ← lastPiece, hbuf, hsplit, lastPiece, lastPiece,
      List.getLast?_append, List.getLast?_eq_getLast _ hne]
    rfl

theorem StreamInv.foldl {ver : Version} {received : List Char} {st : StdoutState}
    (h : StreamInv received st) (chunks : List String) :
    StreamInv (received ++ (chunks.map String.toList).flatten)
      (chunks.foldl (CodexBridge.onStdoutData ver) st) := by
  induction chunks generalizing received st with
  | nil => simpa using h
  | cons c cs ih => simpa [List.append_assoc] using ih (h.onStdoutData c)

theorem toList_join (chunks : List String) :
    (String.join chunks).toList = (chunks.map String.toList).flatten := by
  suffices ∀ acc : String, (chunks.foldl (· ++ ·) acc).toList =
      acc.toList ++ (chunks.map String.toList).flatten from this ""
  induction chunks with
  | nil => simp
  | cons c cs ih =>
    intro acc
    rw [List.foldl_cons, ih, show (acc ++ c).toList = acc.toList ++ c.toList from rfl]
    simp

/-- **Chunk boundaries do not matter.** Whatever chunks the text arrived in, the close-time
flush leaves the events and the last message of its lines; every update was a snapshot of a
prefix of those events, with its own last message, each longer than the one before. -/
theorem flushBuffer_foldl_onStdoutData (ver : Version) (chunks : List String) :
    let st := chunks.foldl (onStdoutData ver) {}
    (flushBuffer st).events = streamEvents (String.join chunks).toList ∧
    (flushBuffer st).lastMessage = lastMessageOf (flushBuffer st).events ∧
    (∀ u ∈ st.updates, u.details.events <+: (flushBuffer st).events ∧
      u.details.lastMessage = some (lastMessageOf u.details.events)) ∧
    st.updates.Pairwise (fun u v => u.details.events.length < v.details.events.length) ∧
    ∀ u ∈ st.updates, ∃ t, u.content = [.string t] := by
  intro st
  have h : StreamInv _ st := StreamInv.foldl streamInv_initial chunks
  have hev : (flushBuffer st).events = streamEvents (String.join chunks).toList := by
    rw [flushBuffer, classifyLine_events, h.events, h.buffer, toList_join, List.nil_append,
      streamEvents]
    conv_rhs => rw [← dropLast_append_lastPiece ((chunks.map String.toList).flatten)]
    rw [List.map_append, List.filterMap_append]
    cases hl : parseLine (String.mk (lastPiece (splitLines (chunks.map String.toList).flatten))) <;>
      simp [hl]
  refine ⟨hev, h.coherent.classifyLine _, fun u hu => ?_, h.growing, h.texts⟩
  obtain ⟨hp, hm⟩ := h.snapshots u hu
  exact ⟨hp.trans (by rw [flushBuffer, classifyLine_events]; exact List.prefix_append _ _), hm⟩

/-! ## One update per shown event -/

/-- An event the loop reports: reading its `type` does not throw, nor does its display. -/
def shownEvent (ver : Version) : JsValue → Bool
  | .null => false
  | e => (formatEventForDisplay ver e).isSome

/-- The events the updates should carry: for each shown event of `es`, the events up to it,
after the events `done` that came before. -/
def snapshots (ver : Version) (done : List JsValue) : List JsValue → List (List JsValue)
  | [] => []
  | e :: es => (if shownEvent ver e then [done ++ [e]] else []) ++ snapshots ver (done ++ [e]) es

theorem snapshots_append (ver : Version) (done es es' : List JsValue) :
    snapshots ver done (es ++ es') = snapshots ver done es ++ snapshots ver (done ++ es) es' := by
  induction es generalizing done with
  | nil => simp [snapshots]
  | cons e es ih => simp [snapshots, ih, List.append_assoc]

theorem lineUpdate_events (ver : Version) (s : LineState) (l : String) :
    (lineUpdate ver s l).toList.map (·.details.events) = snapshots ver s.events (parseLine l).toList := by
  unfold lineUpdate
  split
  next h => simp [h, snapshots, shownEvent]
  next h => simp [h, snapshots]
  next e hne h =>
    have hs : shownEvent ver e = (formatEventForDisplay ver e).isSome := by
      cases e <;> simp_all [shownEvent]
    cases hf : formatEventForDisplay ver e <;> simp [h, hf, hs, snapshots, classifyLine]

theorem filterMap_parseLine_cons (l : List Char) (ls : List (List Char)) :
    ((l :: ls).map String.mk).filterMap parseLine =
      (parseLine (String.mk l)).toList ++ (ls.map String.mk).filterMap parseLine := by
  cases h : parseLine (String.mk l) <;> simp [List.filterMap_cons, h]

/-- The loop over complete lines adds their events, and one snapshot per shown one. -/
theorem processLines_snapshots (ver : Version) (ls : List (List Char)) :
    ∀ st : StdoutState,
      (processLines ver st ls).lines.events = st.lines.events ++ (ls.map String.mk).filterMap parseLine ∧
      (processLines ver st ls).updates.map (·.details.events) =
        st.updates.map (·.details.events) ++
          snapshots ver st.lines.events ((ls.map String.mk).filterMap parseLine) := by
  induction ls with
  | nil => intro st; simp [processLines, snapshots]
  | cons l ls ih =>
    intro st
    obtain ⟨hev, hup⟩ := ih _
    rw [processLines, hev, hup, filterMap_parseLine_cons]
    constructor
    · rw [classifyLine_events, List.append_assoc]
    · simp only [List.map_append, lineUpdate_events, classifyLine_events, snapshots_append,
        List.append_assoc]

/-- The updates of any chunks carry the snapshots of the events of their complete lines. -/
theorem foldl_onStdoutData_snapshots (ver : Version) (chunks : List String) :
    (chunks.foldl (onStdoutData ver) {}).updates.map (·.details.events) =
      snapshots ver [] (((splitLines (String.join chunks).toList).dropLast.map String.mk).filterMap
        parseLine) := by
  have hinv : ∀ (cs : List String) (st : StdoutState),
      st.updates.map (·.details.events) = snapshots ver [] st.lines.events →
      (cs.foldl (onStdoutData ver) st).updates.map (·.details.events) =
        snapshots ver [] (cs.foldl (onStdoutData ver) st).lines.events := by
    intro cs
    induction cs with
    | nil => exact fun _ h => h
    | cons c cs ih =>
      intro st h
      refine ih _ ?_
      obtain ⟨hev, hup⟩ := processLines_snapshots ver (splitLines (st.buffer ++ c.toList)).dropLast
        { st with buffer := (splitLines (st.buffer ++ c.toList)).getLast?.getD [] }
      rw [onStdoutData, hup, hev, snapshots_append, ← h, List.nil_append]
  rw [hinv chunks {} rfl, (StreamInv.foldl streamInv_initial chunks).events, toList_join, List.nil_append]

/-- **One update per shown event.** Whatever chunks the text came in, the updates carry, in
order, one snapshot for each shown event of its complete lines: the events up to that one. -/
theorem updates_one_per_shown_event (ver : Version) (chunks : List String) :
    (chunks.foldl (onStdoutData ver) {}).updates.map (·.details.events) =
      snapshots ver [] (((splitLines (String.join chunks).toList).dropLast.map String.mk).filterMap
        parseLine) :=
  foldl_onStdoutData_snapshots ver chunks

/- A `turn.started` line then a line `null`: one update, for the first. -/
example :
    (["\x7b\"type\":\"turn.started\"\x7d\nnull\n"].foldl (onStdoutData .codex) {}).updates.map
        (·.details.events) =
      [[.object [("type", .string "turn.started")]]] := by
  decide

/-! ## Events of the declared types

`CodexEvent`, `CodexItem` and `CodexTurnEvent` declare what the display reads: a string `type`;
for an item event an item whose `type` is a string, whose `text`, `command` and
`aggregated_output` are strings when present, and whose `exit_code` is a number or `null`; for
`turn.completed` an optional `usage` record whose `output_tokens` is a number. -/

/-- A property that is a string. -/
def isStringValue : Option JsValue → Bool
  | some (.string _) => true
  | _ => false

/-- A property that is absent or a string. -/
def stringField : Option JsValue → Bool
  | none | some (.string _) => true
  | _ => false

/-- A property that is absent, `null` or a number. -/
def numberField : Option JsValue → Bool
  | none | some .null | some (.number _) => true
  | _ => false

/-- `CodexItem`, as far as the display reads it. -/
def declaredItem : JsValue → Bool
  | .object fs =>
    isStringValue (JsValue.field fs "type") && stringField (JsValue.field fs "text") &&
      stringField (JsValue.field fs "command") && stringField (JsValue.field fs "aggregated_output") &&
      numberField (JsValue.field fs "exit_code")
  | _ => false

/-- `CodexEvent` with the item and usage its subtypes declare. -/
def declaredEvent : JsValue → Bool
  | .object fs =>
    match JsValue.field fs "type" with
    | some (.string t) =>
      (if t = "item.started" ∨ t = "item.completed" then (JsValue.field fs "item").any declaredItem
        else true) &&
      (if t = "turn.completed" then
        match JsValue.field fs "usage" with
        | none => true
        | some (.object u) => numberField (JsValue.field u "output_tokens")
        | _ => false
      else true)
    | _ => false
  | _ => false

theorem declaredItem_object {item : JsValue} (h : declaredItem item = true) :
    ∃ fs, item = .object fs := by
  cases item with
  | object fs => exact ⟨fs, rfl⟩
  | _ => cases h

theorem declaredEvent_object {e : JsValue} (h : declaredEvent e = true) : ∃ fs, e = .object fs := by
  cases e with
  | object fs => exact ⟨fs, rfl⟩
  | _ => cases h

theorem isStringValue_some {v : Option JsValue} (h : isStringValue v = true) :
    ∃ s, v = some (.string s) := by
  rcases v with _ | ⟨_ | _ | _ | s | _ | _⟩ <;> first | exact ⟨s, rfl⟩ | cases h

theorem anyToString_of_numberField {v : Option JsValue} (h : numberField v = true) :
    (anyToString v).isSome := by
  rcases v with _ | ⟨_ | _ | _ | _ | _ | _⟩ <;> first | rfl | cases h

theorem numberField_orElse {a b : Option JsValue} (ha : numberField a = true)
    (hb : numberField b = true) : numberField (orElse a b) = true := by
  unfold orElse; split_ifs <;> assumption

theorem anyToString_orElse_string {v : Option JsValue} (h : stringField v = true) (d : String) :
    ∃ s, orElse v (some (.string d)) = some (.string s) := by
  unfold orElse
  split_ifs
  · rcases v with _ | ⟨_ | _ | _ | s | _ | _⟩ <;> first | exact ⟨s, rfl⟩ | simp_all [stringField, truthy]
  · exact ⟨d, rfl⟩

theorem formatCompletedItem_some (m : Markers) {item : JsValue} (h : declaredItem item = true) :
    (formatCompletedItem m item).isSome := by
  obtain ⟨fs, rfl⟩ := declaredItem_object h
  simp only [declaredItem, Bool.and_eq_true] at h
  obtain ⟨⟨⟨⟨hty, htext⟩, -⟩, hout⟩, hcode⟩ := h
  obtain ⟨t, ht⟩ := isStringValue_some hty
  obtain ⟨s, hs⟩ := anyToString_orElse_string htext ""
  obtain ⟨o, ho⟩ := anyToString_orElse_string hout ""
  have hc := anyToString_of_numberField hcode
  unfold formatCompletedItem
  simp only [JsValue.get, ht, hs, ho]
  split_ifs <;> simp_all [anyToString, toJsString, previewOf, Option.isSome_iff_exists]

/-- Every event of the declared types is shown: reading its `type` and displaying it do not
throw. -/
theorem shownEvent_of_declared (ver : Version) {e : JsValue} (h : declaredEvent e = true) :
    shownEvent ver e = true := by
  obtain ⟨fs, rfl⟩ := declaredEvent_object h
  obtain ⟨t, ht⟩ : ∃ t, JsValue.field fs "type" = some (.string t) := by
    revert h; simp only [declaredEvent]; split <;> simp_all
  simp only [declaredEvent, ht, Bool.and_eq_true] at h
  obtain ⟨hitem, husage⟩ := h
  have hdecl : t = "item.started" ∨ t = "item.completed" →
      ∃ item, JsValue.field fs "item" = some item ∧ declaredItem item = true := fun hi => by
    rw [if_pos hi] at hitem
    cases hf : JsValue.field fs "item" <;> simp_all
  unfold shownEvent formatEventForDisplay
  simp only [JsValue.get, ht, Option.some.injEq, JsValue.string.injEq]
  split
  · rfl
  split
  · rfl
  split
  next h3 =>
    rw [if_pos h3] at husage
    rw [Option.isSome_map']
    refine anyToString_of_numberField (numberField_orElse ?_ rfl)
    rcases hu : JsValue.field fs "usage" with _ | ⟨_ | _ | _ | _ | _ | u⟩ <;>
      simp only [hu, Bool.false_eq_true] at husage
    · rfl
    · simpa [optMember, member, JsValue.get] using husage
  split
  next h4 =>
    obtain ⟨item, hi, hd⟩ := hdecl (.inl h4)
    obtain ⟨ifs, rfl⟩ := declaredItem_object hd
    simp only [declaredItem, Bool.and_eq_true] at hd
    obtain ⟨⟨⟨⟨hty, -⟩, hcmd⟩, -⟩, -⟩ := hd
    obtain ⟨c, hc⟩ := anyToString_orElse_string hcmd "(command)"
    obtain ⟨ty, hty⟩ := isStringValue_some hty
    simp only [hi, JsValue.get, hc, hty]
    split_ifs <;> rfl
  split
  next h5 =>
    obtain ⟨item, hi, hd⟩ := hdecl (.inr h5)
    obtain ⟨ifs, rfl⟩ := declaredItem_object hd
    simpa [hi] using formatCompletedItem_some ver.markers hd
  · rfl

/-- When every event is shown, the snapshots are the non-empty prefixes. -/
theorem snapshots_all_shown (ver : Version) :
    ∀ (es done : List JsValue), (∀ e ∈ es, shownEvent ver e = true) →
      snapshots ver done es = es.inits.tail.map (done ++ ·)
  | [], _, _ => rfl
  | e :: es, done, h => by
    have hinits : es.inits = [] :: es.inits.tail := by cases es <;> rfl
    rw [snapshots, if_pos (h e (List.mem_cons_self e es)),
      snapshots_all_shown ver es _ fun x hx => h x (List.mem_cons_of_mem e hx)]
    conv_rhs => rw [List.inits, List.tail_cons, hinits]
    simp [Function.comp_def]

/-- **Output of the declared types is reported whole.** When every event of the complete lines
has the types `CodexEvent` declares, the updates carry, in order, every non-empty prefix of the
events: one update per event, none lost. -/
theorem declared_events_all_reported (ver : Version) (chunks : List String)
    (h : ∀ e ∈ ((splitLines (String.join chunks).toList).dropLast.map String.mk).filterMap parseLine,
      declaredEvent e = true) :
    (chunks.foldl (onStdoutData ver) {}).updates.map (·.details.events) =
      (((splitLines (String.join chunks).toList).dropLast.map String.mk).filterMap parseLine).inits.tail := by
  rw [foldl_onStdoutData_snapshots, snapshots_all_shown ver _ [] fun e he =>
    shownEvent_of_declared ver (h e he)]
  simp

/-- A turn whose agent answers `hi`, in two chunks cut inside the second line. -/
theorem answered_turn_reported :
    (∀ e ∈ ((splitLines (String.join ["\x7b\"type\":\"turn.started\"\x7d\n\x7b\"type\":\"item.com",
        "pleted\",\"item\":\x7b\"type\":\"agent_message\",\"text\":\"hi\"\x7d\x7d\n"]).toList).dropLast.map
          String.mk).filterMap parseLine, declaredEvent e = true) ∧
      (["\x7b\"type\":\"turn.started\"\x7d\n\x7b\"type\":\"item.com",
        "pleted\",\"item\":\x7b\"type\":\"agent_message\",\"text\":\"hi\"\x7d\x7d\n"].foldl
          (onStdoutData .experimental) {}).updates.map (·.details.events) =
      (((splitLines (String.join ["\x7b\"type\":\"turn.started\"\x7d\n\x7b\"type\":\"item.com",
        "pleted\",\"item\":\x7b\"type\":\"agent_message\",\"text\":\"hi\"\x7d\x7d\n"]).toList).dropLast.map
          String.mk).filterMap parseLine).inits.tail :=
  have h : ∀ e ∈ ((splitLines (String.join ["\x7b\"type\":\"turn.started\"\x7d\n\x7b\"type\":\"item.com",
      "pleted\",\"item\":\x7b\"type\":\"agent_message\",\"text\":\"hi\"\x7d\x7d\n"]).toList).dropLast.map
        String.mk).filterMap parseLine, declaredEvent e = true := by decide
  ⟨h, declared_events_all_reported .experimental _ h⟩

end CodexBridge
