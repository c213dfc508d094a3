import CodexBridge.Tool.Execute

/-!
# The two versions run alike

`codex/index.ts` and `codex-experimental/index.ts` register the same handlers with the same
bodies, but for the argument vector, the text of a spawn error, and the markers the streaming
updates show. The experimental version's `settled` flag changes nothing
(`GuardedState.guarded_run_eq`).

**Theorem (`versions_agree`).** Called with the same parameters and offered the same events, the
two versions reach states that differ only in the streaming updates and in the text of a
rejection: the same child, `kill` calls and timer, the same events, last message and stderr,
and the same settlement, a rejection in one exactly when in the other and the same result
when resolved.
-/

namespace CodexBridge

/-- A settlement with the text of a rejection forgotten. -/
def Settlement.erase : Settlement → Settlement
  | .rejected _ => .rejected ""
  | v => v

/-- A state with the streaming updates and the text of a rejection forgotten. -/
def ExecState.erase (s : ExecState) : ExecState :=
  { s with stdout := { s.stdout with updates := [] }, promise := s.promise.map Settlement.erase }

@[simp] theorem map_erase_settle (p : Option Settlement) (v : Settlement) :
    (settle p v).map Settlement.erase = settle (p.map Settlement.erase) v.erase := by
  cases p <;> rfl

/-- The loop over complete lines classifies them alike whatever the version and the updates
made so far. -/
theorem processLines_lines (ver ver' : Version) (ls : List (List Char)) (lines : LineState)
    (buffer : List Char) (u u' : List ToolResult) :
    (processLines ver ⟨lines, buffer, u⟩ ls).lines = (processLines ver' ⟨lines, buffer, u'⟩ ls).lines ∧
      (processLines ver ⟨lines, buffer, u⟩ ls).buffer =
        (processLines ver' ⟨lines, buffer, u'⟩ ls).buffer := by
  induction ls generalizing lines u u' with
  | nil => exact ⟨rfl, rfl⟩
  | cons _ _ ih => exact ih _ _ _

theorem spawnThrows_versions (p : CodexParams) :
    spawnThrows .codex p = spawnThrows .experimental p := by
  cases hm : p.modelArg <;> rcases hs : p.sandbox with _ | ⟨_ | _⟩ <;>
    simp [spawnThrows, spawnArgs, codexArgs, experimentalArgs, CodexParams.sandboxMode, hm, hs,
      Sandbox.name]

theorem execute_erase (p : CodexParams) (signal abortedBefore : Bool) :
    (execute .codex p signal abortedBefore).erase = (execute .experimental p signal abortedBefore).erase := by
  simp only [execute, spawnThrows_versions]

/-- **One step.** States that agree up to erasing stay so under every event, whichever
version handles it. -/
theorem erase_step {a b : ExecState} (h : a.erase = b.erase) (ver ver' : Version) (e : Event) :
    (step ver a e).erase = (step ver' b e).erase := by
  obtain ⟨sg, ab, li, ch, ti, ⟨ln, bu, ua⟩, se, pa, ki⟩ := a
  obtain ⟨sg', ab', li', ch', ti', ⟨ln', bu', ub⟩, se', pb, ki'⟩ := b
  simp only [ExecState.erase, ExecState.mk.injEq, StdoutState.mk.injEq] at h
  obtain ⟨rfl, rfl, rfl, rfl, rfl, ⟨rfl, rfl, -⟩, rfl, hp, rfl⟩ := h
  cases e with
  | stdoutData d =>
    have := processLines_lines ver ver' (splitLines (bu ++ (utf8Decode d))).dropLast ln
      ((splitLines (bu ++ (utf8Decode d))).getLast?.getD []) ua ub
    simp only [step, onStdoutData, ExecState.erase, ExecState.pipesOpen]
    split_ifs <;> simp [this.1, this.2, hp]
  | close =>
    rcases ch with _ | ⟨_ | code | _, k⟩
    · simp [step, ExecState.erase, hp]
    · simp [step, ExecState.erase, hp]
    · simp only [step, onClose, flushBuffer]
      cases closeResult (classifyLine ln (String.mk bu)) se code ab <;> simp [ExecState.erase, hp]
    · simp [step, ExecState.erase, hp]
  | _ =>
    simp only [step, onAbort, onTimer, killChild, onError, ExecState.running, ExecState.killable,
      ExecState.pipesOpen]
    repeat' split
    all_goals simp [ExecState.erase, Settlement.erase, hp]

theorem erase_foldl_step {a b : ExecState} (h : a.erase = b.erase) (ver ver' : Version)
    (es : List Event) : (es.foldl (step ver) a).erase = (es.foldl (step ver') b).erase := by
  induction es generalizing a b with
  | nil => exact h
  | cons e es ih => exact ih (erase_step h ver ver' e)

/-- **The two versions agree** on every run, up to the streaming updates and the text of a
rejection. -/
theorem versions_agree (p : CodexParams) (signal abortedBefore : Bool) (es : List Event) :
    (es.foldl (step .codex) (execute .codex p signal abortedBefore)).erase =
      (es.foldl (step .experimental) (execute .experimental p signal abortedBefore)).erase :=
  erase_foldl_step (execute_erase p signal abortedBefore) _ _ es

end CodexBridge
