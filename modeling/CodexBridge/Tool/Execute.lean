import CodexBridge.Tool.Outcome
import CodexBridge.Tool.Args
import CodexBridge.Js.Utf8

/-!
# `execute`: the child, the abort signal and the promise

One call of `execute` (`codex/index.ts` lines 130 to 281, `codex-experimental/index.ts`
lines 147 to 325) as a state machine. The environment offers events, in any order Node's
`ChildProcess` contract allows: chunks on either pipe, the abort signal, the child's exit or a
failed spawn, the `close` event after the exit, and the firing of the grace timer. Each event
runs the handler the code registers for it.

`ChildProcess.kill` is modelled on Node's: while the process runs, a delivered signal sets
`killed` at once, whether or not the child then exits; a refused one emits `error` before
`kill` returns; after the exit it does nothing. The promise keeps its first settlement, as a
JavaScript promise does; the experimental version's `settled` flag, set in the same places,
adds nothing to it.

**Theorem (`sigkill_only_after_failed_sigterm`).** A `SIGKILL` is sent only when the `SIGTERM`
was not delivered: once `SIGTERM` reaches the child, `killed` is set and the timer's guard
skips the forced kill (`grace_timer_skips_sigkill`).

**Theorem (`settlement_is_final`).** The promise keeps its first settlement, the abort
listener is gone from then on, and after a resolution no update and no signal follows. After a
rejection by a refused `kill` the child runs on (`update_after_rejection`).
-/

namespace CodexBridge

/-- The signals `onAbort` and its timer send. -/
inductive Signal
  | sigterm
  | sigkill
  deriving DecidableEq, Repr

/-- What `kill(2)` answers `ChildProcess.kill`: the signal is delivered; the process has
already gone (`ESRCH`), and nothing happens; or the call is refused (`EPERM`), and `error` is
emitted at once. -/
inductive KillOutcome
  | delivered
  | esrch
  | refused
  deriving DecidableEq, Repr

/-- A child's process: running, exited with a code (`null` when a signal ended it), or its
`close` event emitted. -/
inductive ChildPhase
  | running
  | exited (code : Option Int)
  | closed
  deriving DecidableEq, Repr

/-- The `ChildProcess` object. -/
structure Child where
  phase : ChildPhase := .running
  killed : Bool := false
  deriving DecidableEq, Repr

/-- The grace timer `onAbort` arms. -/
inductive TimerState
  | unset
  | pending
  | fired
  deriving DecidableEq, Repr

/-- How the promise `execute` returns is settled. -/
inductive Settlement
  | resolved (r : ToolResult)
  | rejected (message : String)
  /-- `spawn` threw in the executor. -/
  | thrown
  deriving DecidableEq

/-- One call of `execute`: whether a signal was passed and has fired, whether `onAbort` is
registered, the child, the timer, the handlers' variables, the promise, and every `kill` the
code has made while the process ran, with its answer. -/
structure ExecState where
  signal : Bool
  aborted : Bool
  listening : Bool
  child : Option Child
  timer : TimerState
  stdout : StdoutState
  stderr : String
  promise : Option Settlement
  kills : List (Signal × KillOutcome)

/-- What the environment does next. -/
inductive Event
  /-- The signal fires; `kill("SIGTERM")` meets `term` if `onAbort` sends it. -/
  | abort (term : KillOutcome)
  | stdoutData (data : Bytes)
  | stderrData (data : Bytes)
  /-- The process ends: with a code, or `null` when a signal ended it. -/
  | exit (code : Option Int)
  /-- The process could not be started: `error` now, `close` with `code` later. -/
  | spawnFailed (err : SpawnError) (code : Int)
  | close
  /-- The timer fires; `kill("SIGKILL")` meets `kill` if the callback sends it. -/
  | timer (kill : KillOutcome)

/-- `resolve` or `reject`: a promise keeps its first settlement. -/
def settle (p : Option Settlement) (v : Settlement) : Option Settlement :=
  match p with
  | some w => some w
  | none => some v

/-- The vector `spawn` is given. -/
def spawnArgs : Version → CodexParams → List String
  | .codex, p => codexArgs p
  | .experimental, p => experimentalArgs p

/-- `spawn` throws in the executor when an argument or the working directory holds a null
character. -/
def spawnThrows (ver : Version) (p : CodexParams) : Bool :=
  (spawnArgs ver p).any (·.toList.contains '\x00') || (p.workDir.getD "").toList.contains '\x00'

/-- `execute(...)` up to the return of the promise's executor: the result before start when
the signal has already fired, a rejection when `spawn` throws, and otherwise a running child,
with `onAbort` registered if a signal was passed. -/
def execute (ver : Version) (p : CodexParams) (signal abortedBefore : Bool) : ExecState :=
  let base : ExecState := ⟨signal, signal && abortedBefore, false, none, .unset, {}, "", none, []⟩
  if signal && abortedBefore then { base with promise := some (.resolved abortedBeforeStart) }
  else if spawnThrows ver p then { base with promise := some .thrown }
  else { base with child := some {}, listening := signal }

/-! ## The handlers -/

/-- The `error` handler: remove `onAbort`, reject. -/
def onError (ver : Version) (s : ExecState) (err : SpawnError) : ExecState :=
  { s with listening := false, promise := settle s.promise (.rejected (spawnErrorMessage ver err)) }

/-- The process has not exited. -/
def ExecState.running (s : ExecState) : Bool :=
  match s.child with
  | some c => c.phase == .running
  | none => false

/-- `child && !child.killed`. -/
def ExecState.killable (s : ExecState) : Bool :=
  match s.child with
  | some c => !c.killed
  | none => false

/-- `child.kill(sig)` meeting `k`: while the process runs, the call is logged, a delivered
signal sets `killed`, and a refused one runs the `error` handler; after the exit, nothing. -/
def killChild (ver : Version) (s : ExecState) (sig : Signal) (k : KillOutcome) : ExecState :=
  if s.running then
    let s' := { s with child := s.child.map fun c => { c with killed := c.killed || k == .delivered },
                       kills := s.kills ++ [(sig, k)] }
    if k = .refused then onError ver s' ⟨some "EPERM", "kill EPERM"⟩ else s'
  else s

/-- `onAbort`: unless `child.killed`, send `SIGTERM` and arm the timer. -/
def onAbort (ver : Version) (s : ExecState) (term : KillOutcome) : ExecState :=
  if s.killable then { killChild ver s .sigterm term with timer := .pending } else s

/-- The timer's callback: unless `child.killed`, send `SIGKILL`. -/
def onTimer (ver : Version) (s : ExecState) (k : KillOutcome) : ExecState :=
  if s.killable then killChild ver s .sigkill k else s

/-- The `close` handler: remove `onAbort`, flush the buffer, resolve with the result unless
building it throws. -/
def onClose (s : ExecState) (code : Option Int) : ExecState :=
  let lines := flushBuffer s.stdout
  let s' := { s with listening := false, child := s.child.map ({ · with phase := .closed }),
                     stdout := { s.stdout with lines := lines } }
  match closeResult lines s.stderr code s.aborted with
  | some r => { s' with promise := settle s.promise (.resolved r) }
  | none => s'

/-- The pipes deliver data until `close`. -/
def ExecState.pipesOpen (s : ExecState) : Bool :=
  match s.child with
  | some c => c.phase != .closed
  | none => false

/-- One event and the handler it runs. An event the contract does not allow in a state, such
as `close` before the exit, leaves it unchanged. -/
def step (ver : Version) (s : ExecState) : Event → ExecState
  | .abort term =>
    if s.signal && !s.aborted then
      let s' := { s with aborted := true, listening := false }
      if s.listening then onAbort ver s' term else s'
    else s
  | .stdoutData data =>
    if s.pipesOpen then { s with stdout := onStdoutData ver s.stdout (String.mk (utf8Decode data)) }
    else s
  | .stderrData data =>
    if s.pipesOpen then { s with stderr := s.stderr ++ String.mk (utf8Decode data) } else s
  | .exit code =>
    if s.running then { s with child := s.child.map ({ · with phase := .exited code }) } else s
  | .spawnFailed err code =>
    if s.running then
      onError ver { s with child := s.child.map ({ · with phase := .exited (some code) }) } err
    else s
  | .close =>
    match s.child with
    | some ⟨.exited code, _⟩ => onClose s code
    | _ => s
  | .timer k => if s.timer = .pending then onTimer ver { s with timer := .fired } k else s

/-- The states a call reaches. -/
inductive Reachable (ver : Version) : ExecState → Prop
  | init (p : CodexParams) (signal abortedBefore : Bool) :
      Reachable ver (execute ver p signal abortedBefore)
  | step {s : ExecState} (e : Event) : Reachable ver s → Reachable ver (step ver s e)

/-! ## The control state and its invariant -/

/-- What the settlement logic reads: all of a state but the handlers' text variables. -/
structure Control where
  aborted : Bool
  listening : Bool
  child : Option Child
  timer : TimerState
  promise : Option Settlement
  kills : List (Signal × KillOutcome)

def ExecState.control (s : ExecState) : Control :=
  ⟨s.aborted, s.listening, s.child, s.timer, s.promise, s.kills⟩

section ControlFields

variable (s : ExecState)

@[simp] theorem control_aborted : s.control.aborted = s.aborted := rfl
@[simp] theorem control_listening : s.control.listening = s.listening := rfl
@[simp] theorem control_child : s.control.child = s.child := rfl
@[simp] theorem control_timer : s.control.timer = s.timer := rfl
@[simp] theorem control_promise : s.control.promise = s.promise := rfl
@[simp] theorem control_kills : s.control.kills = s.kills := rfl

end ControlFields

/-- What holds of the control state of every reachable state. -/
structure Control.Inv (c : Control) : Prop where
  /-- `onAbort` is registered only while nothing is settled. -/
  listening : c.listening = true → c.promise = none
  /-- The timer is armed only by `onAbort`. -/
  timer : c.timer ≠ .unset → c.aborted = true
  /-- No `kill` before the signal fires. -/
  quiet : c.aborted = false → c.kills = []
  /-- The `kill` calls made: none, a `SIGTERM`, or a `SIGTERM` that was not delivered and the
  timer's `SIGKILL`. -/
  kills : c.kills = [] ∨ (∃ k, c.kills = [(.sigterm, k)]) ∨
    ∃ k k', c.kills = [(.sigterm, k), (.sigkill, k')] ∧ k ≠ .delivered ∧ c.timer = .fired
  /-- `child.killed` is set exactly by a delivered signal. -/
  killed : ∀ ch, c.child = some ch → ch.killed = c.kills.any (·.2 == .delivered)
  /-- A timer armed with no `SIGTERM` sent: the process had already exited. -/
  armed : c.timer = .pending → c.kills = [] → ∀ ch, c.child = some ch → ch.phase ≠ .running
  /-- A resolution comes after `close`, or with no child. -/
  closed : ∀ r, c.promise = some (.resolved r) → ∀ ch, c.child = some ch → ch.phase = .closed
  /-- A resolution is one of the two results the code builds. -/
  source : ∀ r, c.promise = some (.resolved r) →
    r = abortedBeforeStart ∨ ∃ lines stderr code a, closeResult lines stderr code a = some r

@[simp] theorem settle_some (w v : Settlement) : settle (some w) v = some w := rfl

@[simp] theorem settle_none (v : Settlement) : settle none v = some v := rfl

theorem settle_eq_resolved {p : Option Settlement} {v : Settlement} {r : ToolResult}
    (h : settle p v = some (.resolved r)) : p = some (.resolved r) ∨ (p = none ∧ v = .resolved r) := by
  cases p <;> simp_all

theorem resolved_of_kill {p : Option Settlement} {b : Prop} [Decidable b] {m : String} {r : ToolResult}
    (h : (if b then settle p (.rejected m) else p) = some (.resolved r)) : p = some (.resolved r) := by
  split_ifs at h
  · rcases settle_eq_resolved h with h | ⟨-, h⟩
    · exact h
    · cases h
  · exact h

section Preservation

variable {ver : Version} {s : ExecState}

theorem killChild_control {ch : Child} (hch : s.child = some ch) (hr : ch.phase = .running)
    (sig : Signal) (k : KillOutcome) :
    (killChild ver s sig k).control =
      ⟨s.aborted, s.listening && k != .refused, some { ch with killed := ch.killed || k == .delivered },
        s.timer, if k = .refused then settle s.promise (.rejected (spawnErrorMessage ver
          ⟨some "EPERM", "kill EPERM"⟩)) else s.promise, s.kills ++ [(sig, k)]⟩ := by
  have hrun : s.running = true := by simp [ExecState.running, hch, hr]
  cases k <;> simp [killChild, hrun, hch, onError, ExecState.control]

theorem killChild_of_not_running (s : ExecState) (h : ∀ ch, s.child = some ch → ch.phase ≠ .running)
    (sig : Signal) (k : KillOutcome) : killChild ver s sig k = s := by
  have : s.running = false := by
    unfold ExecState.running; split
    · rename_i ch hch; simpa using h ch hch
    · rfl
  simp [killChild, this]

theorem inv_onError (h : s.control.Inv) (err : SpawnError) : (onError ver s err).control.Inv where
  listening := by simp [onError, ExecState.control]
  timer := h.timer
  quiet := h.quiet
  kills := h.kills
  killed := h.killed
  armed := h.armed
  closed r hr := h.closed r (by simpa using (settle_eq_resolved hr))
  source r hr := h.source r (by simpa using (settle_eq_resolved hr))

theorem inv_abort (h : s.control.Inv) (term : KillOutcome) :
    (step ver s (.abort term)).control.Inv := by
  unfold step
  by_cases ha : s.signal && !s.aborted
  swap
  · simpa only [ha, Bool.false_eq_true, if_false] using h
  have hab : s.aborted = false := by simp_all
  have hk : s.kills = [] := h.quiet hab
  have ht : s.timer = .unset := by
    by_contra ht
    simpa [hab] using h.timer ht
  simp only [ha, if_true]
  set s' : ExecState := { s with aborted := true, listening := false } with hs'
  split_ifs with hl
  · have hp : s.promise = none := h.listening hl
    rcases hch : s.child with _ | ⟨phase, killed⟩
    · constructor <;> simp [onAbort, ExecState.killable, hs', hch, hp, hk, ht]
    · have hkd : killed = false := by simpa [hk] using h.killed _ hch
      subst hkd
      have hon : (onAbort ver s' term).control =
          { (killChild ver s' .sigterm term).control with timer := .pending } := by
        simp [onAbort, ExecState.killable, hs', hch]; rfl
      by_cases hr : phase = .running
      · subst hr
        rw [hon, killChild_control (s := s') hch rfl, hp, hk]
        constructor <;> simp
      · rw [hon, killChild_of_not_running s' (by simpa [hs', hch] using hr)]
        constructor <;> simp [hs', hch, hp, hk, hr]
  · exact ⟨by simp, by simp, by simp, by simp [hk], h.killed, by simp [ht], h.closed, h.source⟩

theorem control_stdoutData (data : Bytes) : (step ver s (.stdoutData data)).control = s.control := by
  simp only [step]; split <;> rfl

theorem control_stderrData (data : Bytes) : (step ver s (.stderrData data)).control = s.control := by
  simp only [step]; split <;> rfl

theorem inv_exit (h : s.control.Inv) (code : Option Int) : (step ver s (.exit code)).control.Inv := by
  simp only [step]
  rcases hch : s.child with _ | ⟨phase, killed⟩
  · simpa [ExecState.running, hch] using h
  · have hd : killed = s.kills.any (·.2 == .delivered) := h.killed _ hch
    by_cases hr : phase = .running
    · subst hr
      have hc : ∀ r, s.promise ≠ some (.resolved r) := fun r hr => by simpa using h.closed r hr _ hch
      have hrun : s.running = true := by simp [ExecState.running, hch]
      simp only [hrun, if_true]
      exact ⟨h.listening, h.timer, h.quiet, h.kills, by simp [hch, hd], by simp [hch],
        by simp [hc], by simp [hc]⟩
    · simpa [ExecState.running, hch, hr] using h

theorem inv_spawnFailed (h : s.control.Inv) (err : SpawnError) (code : Int) :
    (step ver s (.spawnFailed err code)).control.Inv := by
  simp only [step]
  split_ifs with hr
  · refine inv_onError ?_ err
    rcases hch : s.child with _ | ⟨phase, killed⟩
    · simp [ExecState.running, hch] at hr
    · have hd : killed = s.kills.any (·.2 == .delivered) := h.killed _ hch
      have hc : ∀ r, s.promise ≠ some (.resolved r) := fun r hres => by
        have hp : phase = .closed := h.closed r hres _ hch
        simp [ExecState.running, hch, hp] at hr
      exact ⟨h.listening, h.timer, h.quiet, h.kills, by simp [hch, hd], by simp [hch],
        by simp [hc], by simp [hc]⟩
  · exact h

theorem inv_close (h : s.control.Inv) : (step ver s .close).control.Inv := by
  simp only [step]
  rcases hch : s.child with _ | ⟨phase, killed⟩
  · exact h
  · cases phase with
    | exited code =>
      have hd : killed = s.kills.any (·.2 == .delivered) := h.killed _ hch
      cases hr : closeResult (flushBuffer s.stdout) s.stderr code s.aborted with
      | none =>
        simp only [onClose, hr]
        exact ⟨by simp, h.timer, h.quiet, h.kills, by simp [hch, hd], by simp [hch], by simp [hch],
          h.source⟩
      | some r =>
        simp only [onClose, hr]
        refine ⟨by simp, h.timer, h.quiet, h.kills, by simp [hch, hd], by simp [hch], by simp [hch],
          fun r' hr' => ?_⟩
        rcases settle_eq_resolved hr' with hp | ⟨-, hv⟩
        · exact h.source r' hp
        · cases hv; exact .inr ⟨_, _, _, _, hr⟩
    | _ => exact h

theorem kills_of_pending (h : s.control.Inv) (ht : s.timer = .pending) :
    s.kills = [] ∨ ∃ k, s.kills = [(.sigterm, k)] := by
  rcases h.kills with hk | hk | ⟨_, _, -, -, hf⟩
  · exact .inl hk
  · exact .inr hk
  · simp [ht] at hf

theorem inv_timer (h : s.control.Inv) (k : KillOutcome) : (step ver s (.timer k)).control.Inv := by
  simp only [step]
  split_ifs with ht
  swap
  · exact h
  have hab : s.aborted = true := h.timer (by simp [ht])
  have hks := kills_of_pending h ht
  generalize hs' : ({ s with timer := .fired } : ExecState) = s'
  have hfix : s'.control.Inv := hs' ▸
    ⟨h.listening, by simp [hab], by simp [hab], hks.elim .inl fun h => .inr (.inl h), h.killed,
      by simp, h.closed, h.source⟩
  have hch' : s'.child = s.child := by rw [← hs']
  rcases hch : s.child with _ | ⟨phase, killed⟩
  · simpa [onTimer, ExecState.killable, hch', hch] using hfix
  · have hd : killed = s.kills.any (·.2 == .delivered) := h.killed _ hch
    by_cases hsend : phase = .running ∧ killed = false
    · obtain ⟨rfl, rfl⟩ := hsend
      obtain ⟨k₀, hk₀, hk⟩ : ∃ k₀, k₀ ≠ .delivered ∧ s.kills = [(.sigterm, k₀)] := by
        rcases hks with hk | ⟨k₀, hk⟩
        · exact absurd rfl (h.armed ht hk _ hch)
        · refine ⟨k₀, fun h₀ => ?_, hk⟩
          simp [hk, h₀] at hd
      have hc : ∀ r, s.promise ≠ some (.resolved r) := fun r hr => by
        simpa using h.closed r hr _ hch
      simp only [onTimer, ExecState.killable, hch', hch, Bool.not_false, if_true]
      rw [killChild_control (hch'.trans hch) rfl]
      subst hs'
      refine ⟨fun hl => ?_, by simp [hab], by simp [hab], .inr (.inr ⟨k₀, k, by simp [hk], hk₀, rfl⟩),
        by simp [hk, hk₀], by simp, fun r hr => absurd (resolved_of_kill hr) (hc r),
        fun r hr => absurd (resolved_of_kill hr) (hc r)⟩
      simp only [Bool.and_eq_true, bne_iff_ne] at hl
      simpa [hl.2] using h.listening hl.1
    · have hnone : onTimer ver s' k = s' := by
        unfold onTimer
        split_ifs with hkill
        · refine killChild_of_not_running _ (fun ch hc => ?_) _ _
          simp only [ExecState.killable, hch', hch, Bool.not_eq_true'] at hkill
          rw [hch', hch, Option.some.injEq] at hc
          subst hc
          simpa [hkill] using hsend
        · rfl
      rw [hnone]
      exact hfix

theorem inv_step (h : s.control.Inv) : ∀ e, (step ver s e).control.Inv
  | .abort term => inv_abort h term
  | .stdoutData data => by rw [control_stdoutData]; exact h
  | .stderrData data => by rw [control_stderrData]; exact h
  | .exit code => inv_exit h code
  | .spawnFailed err code => inv_spawnFailed h err code
  | .close => inv_close h
  | .timer k => inv_timer h k

end Preservation

theorem inv_execute (ver : Version) (p : CodexParams) (signal abortedBefore : Bool) :
    (execute ver p signal abortedBefore).control.Inv := by
  unfold execute
  split_ifs with h₁ <;> constructor <;> simp_all [ExecState.control]

/-- **Every reachable state satisfies the invariant.** -/
theorem Reachable.inv {ver : Version} {s : ExecState} (h : Reachable ver s) : s.control.Inv := by
  induction h with
  | init p signal abortedBefore => exact inv_execute ver p signal abortedBefore
  | step e _ ih => exact inv_step ih e


/-! ## Settlement -/

section Settled

variable {ver : Version} {s : ExecState} {v : Settlement}

theorem killChild_keeps (hv : s.promise = some v) (sig : Signal) (k : KillOutcome) :
    (killChild ver s sig k).promise = some v := by
  unfold killChild
  split_ifs <;> simp [onError, hv]

theorem onClose_keeps (hv : s.promise = some v) (code : Option Int) : (onClose s code).promise = some v := by
  unfold onClose
  dsimp only
  split <;> simp [hv]

/-- **A promise settles once.** No step changes a settled promise. -/
theorem step_keeps_settlement (hv : s.promise = some v) : ∀ e, (step ver s e).promise = some v
  | .abort term => by
    simp only [step, onAbort]
    split_ifs <;> simp [killChild_keeps, hv]
  | .stdoutData _ | .stderrData _ | .exit _ => by simp only [step]; split_ifs <;> exact hv
  | .spawnFailed _ _ => by simp only [step]; split_ifs <;> simp [onError, hv]
  | .close => by
    simp only [step]
    split
    · exact onClose_keeps hv _
    · exact hv
  | .timer k => by
    simp only [step, onTimer]
    split_ifs <;> simp [killChild_keeps, hv]

/-- After a resolution the child has closed, or never was: no update and no `kill` follows. -/
theorem step_after_resolution (h : s.control.Inv) {r : ToolResult}
    (hr : s.promise = some (.resolved r)) (e : Event) :
    (step ver s e).stdout.updates = s.stdout.updates ∧ (step ver s e).kills = s.kills := by
  have hclosed : ∀ ch, s.child = some ch → ch.phase = .closed := h.closed r hr
  have hopen : s.pipesOpen = false := by
    unfold ExecState.pipesOpen; split <;> simp_all
  have hrun : s.running = false := by
    unfold ExecState.running; split <;> simp_all
  have hkill : ∀ ch, s.child = some ch → ch.phase ≠ .running := fun ch hch => by
    simp [hclosed ch hch]
  cases e with
  | abort term =>
    simp only [step, onAbort]
    split_ifs <;> simp [killChild_of_not_running { s with aborted := true, listening := false } hkill]
  | timer k =>
    simp only [step, onTimer]
    split_ifs <;> simp [killChild_of_not_running { s with timer := .fired } hkill]
  | close =>
    simp only [step]
    split
    · exact absurd (hclosed _ ‹_›) (by simp)
    · exact ⟨rfl, rfl⟩
  | _ => simp [step, hopen, hrun]

end Settled

/-- **Settlement is final.** From a reachable state with a settled promise, whatever events
follow, the promise keeps its value and the abort listener stays removed. After a resolution
no update is made and no `kill` is called. -/
theorem settlement_is_final {ver : Version} {s : ExecState} (h : Reachable ver s)
    {v : Settlement} (hv : s.promise = some v) (es : List Event) :
    let t := es.foldl (step ver) s
    t.promise = some v ∧ t.listening = false ∧
      ∀ r, v = .resolved r → t.stdout.updates = s.stdout.updates ∧ t.kills = s.kills := by
  induction es generalizing s with
  | nil =>
    refine ⟨hv, ?_, fun _ _ => ⟨rfl, rfl⟩⟩
    cases hl : s.listening
    · exact hl
    · simpa [hv] using h.inv.listening (by simpa using hl)
  | cons e es ih =>
    obtain ⟨h₁, h₂, h₃⟩ := ih (h.step e) (step_keeps_settlement hv e)
    refine ⟨h₁, h₂, fun r hr => ?_⟩
    obtain ⟨hu, hk⟩ := step_after_resolution h.inv (hr ▸ hv) e
    obtain ⟨hu', hk'⟩ := h₃ r hr
    exact ⟨hu'.trans hu, hk'.trans hk⟩

/-- A call whose child exits before the signal fires: `onAbort` finds no process to kill but
arms the timer, and the close handler resolves. -/
def exitedThenAborted : ExecState :=
  [Event.exit (some 0), .abort .esrch, .close].foldl (step .codex)
    (execute .codex { prompt := "hello" } true false)

/-- Its result: aborted, with no output. -/
def exitedThenAbortedResult : ToolResult :=
  ⟨[.string "Codex execution aborted.\n\nPartial output:\n(no output)"],
    ⟨[], some 0, false, some (.string ""), some "aborted"⟩⟩

theorem exitedThenAborted_reachable : Reachable .codex exitedThenAborted :=
  .step .close (.step (.abort .esrch) (.step (.exit (some 0)) (.init { prompt := "hello" } true false)))

/-- The close handler's resolution stays, the timer armed: a late chunk and the timer's firing
change nothing. -/
theorem close_settlement_final :
    let t := [Event.stdoutData (utf8Encode "\x7b\"type\":\"turn.started\"\x7d\n".toList),
      .timer .delivered].foldl (step .codex) exitedThenAborted
    exitedThenAborted.timer = .pending ∧
      t.promise = some (.resolved exitedThenAbortedResult) ∧ t.listening = false ∧
      ∀ r, Settlement.resolved exitedThenAbortedResult = .resolved r →
        t.stdout.updates = exitedThenAborted.stdout.updates ∧ t.kills = exitedThenAborted.kills :=
  ⟨by decide, settlement_is_final exitedThenAborted_reachable (by decide) _⟩

/-- A refused `SIGTERM` rejects the promise while the child runs on: its next line still
reaches `onUpdate`, and the timer still calls `kill("SIGKILL")`. -/
theorem update_after_rejection :
    let s₁ := step .codex (execute .codex { prompt := "hello" } true false) (.abort .refused)
    let s₂ := [Event.stdoutData (utf8Encode "\x7b\"type\":\"turn.started\"\x7d\n".toList),
      .timer .refused].foldl (step .codex) s₁
    s₁.promise = some (.rejected "Failed to spawn Codex: kill EPERM. Is Codex CLI installed?") ∧
    s₁.stdout.updates = [] ∧ s₂.stdout.updates.length = 1 ∧
    s₂.kills = [(.sigterm, .refused), (.sigkill, .refused)] := by
  decide

/-- Every resolution of a reachable state is the result before start or one the close handler
built. -/
theorem resolution_source {ver : Version} {s : ExecState} (h : Reachable ver s) {r : ToolResult}
    (hr : s.promise = some (.resolved r)) :
    r = abortedBeforeStart ∨ ∃ lines stderr code wasAborted, closeResult lines stderr code wasAborted = some r :=
  h.inv.source r hr

/-- The close handler's result above is one `closeResult` builds. -/
theorem exitedThenAborted_result_source :
    exitedThenAbortedResult = abortedBeforeStart ∨
      ∃ lines stderr code wasAborted, closeResult lines stderr code wasAborted = some exitedThenAbortedResult :=
  resolution_source exitedThenAborted_reachable (by decide)

/-! ## The forced kill -/

/-- **The forced kill.** In every reachable state a `SIGKILL` has been sent only by the timer,
after a `SIGTERM` that was not delivered, and at most once. -/
theorem sigkill_only_after_failed_sigterm {ver : Version} {s : ExecState} (h : Reachable ver s)
    {k : KillOutcome} (hk : (Signal.sigkill, k) ∈ s.kills) :
    ∃ k₀, k₀ ≠ .delivered ∧ s.kills = [(.sigterm, k₀), (.sigkill, k)] := by
  have hks := h.inv.kills
  simp only [control_kills] at hks
  rcases hks with h₀ | ⟨k₀, h₁⟩ | ⟨k₀, k₁, h₂, hne, -⟩
  · simp [h₀] at hk
  · simp [h₁] at hk
  · rw [h₂] at hk
    obtain rfl : k = k₁ := by simpa using hk
    exact ⟨k₀, hne, h₂⟩

/-- A refused `SIGTERM`, then the timer's `SIGKILL`. -/
theorem refused_sigterm_then_sigkill :
    ∃ k₀, k₀ ≠ .delivered ∧ ([Event.abort .refused, .timer .refused].foldl (step .codex)
      (execute .codex { prompt := "hello" } true false)).kills = [(.sigterm, k₀), (.sigkill, .refused)] :=
  @sigkill_only_after_failed_sigterm .codex _
    (.step (.timer .refused) (.step (.abort .refused) (.init { prompt := "hello" } true false))) .refused
    (by decide)

/-- Once a `SIGTERM` has been delivered, `killed` is set, and the timer sends nothing, whether
or not the child has exited. -/
theorem timer_after_delivered_sigterm {ver : Version} {s : ExecState} (h : Reachable ver s)
    (hd : (Signal.sigterm, KillOutcome.delivered) ∈ s.kills) (k : KillOutcome) :
    (step ver s (.timer k)).kills = s.kills ∧ (step ver s (.timer k)).child = s.child := by
  have hkill : s.killable = false := by
    unfold ExecState.killable
    split
    · rename_i ch hch
      have hany : s.kills.any (·.2 == .delivered) = true := List.any_eq_true.mpr ⟨_, hd, rfl⟩
      simpa [hany] using h.inv.killed ch hch
    · rfl
  simp only [step]
  split_ifs
  · simp [onTimer, ExecState.killable] at hkill ⊢
    split <;> simp_all
  · exact ⟨rfl, rfl⟩

/-- After a delivered `SIGTERM` the timer's firing leaves the kills and the child alone. -/
theorem delivered_sigterm_quiet_timer :
    let s := step .codex (execute .codex { prompt := "hello" } true false) (.abort .delivered)
    (step .codex s (.timer .delivered)).kills = s.kills ∧ (step .codex s (.timer .delivered)).child = s.child :=
  timer_after_delivered_sigterm (.step _ (.init _ _ _)) (by decide) _

/-- A `SIGTERM` the child ignores: the signal fires while it runs, the `SIGTERM` is
delivered, the timer fires, and the child is still running with no `SIGKILL` sent. -/
theorem grace_timer_skips_sigkill (ver : Version) :
    let s := [Event.abort .delivered, .timer .delivered].foldl (step ver)
      (execute ver { prompt := "hello" } true false)
    s.timer = .fired ∧ s.child = some ⟨.running, true⟩ ∧ s.kills = [(.sigterm, .delivered)] := by
  cases ver <;> decide


/-! ## Decoding chunk by chunk -/

/-- A character the pipe cuts in two: each half decodes to U+FFFD. -/
theorem split_character_replaced :
    (([[0xC3], [0xA9]] : List Bytes).map utf8Decode).flatten = [replacementChar, replacementChar] ∧
    utf8Decode ([[0xC3], [0xA9]] : List Bytes).flatten = ['é'] := by
  decide

/-- **Chunks cut between characters.** When every chunk but the last ends between characters,
the text the handlers accumulate is the decoding of the whole stream, and the close flush leaves
the events and the last message of that text's lines. -/
theorem chunks_decode_whole (ver : Version) (chunks : List Bytes)
    (h : ∀ b ∈ chunks.dropLast, Utf8Whole b) :
    let st := (chunks.map fun b => String.mk (utf8Decode b)).foldl (onStdoutData ver) {}
    (chunks.map utf8Decode).flatten = utf8Decode chunks.flatten ∧
    (flushBuffer st).events = streamEvents (utf8Decode chunks.flatten) ∧
    (flushBuffer st).lastMessage = lastMessageOf (streamEvents (utf8Decode chunks.flatten)) := by
  intro st
  have hdec := utf8Decode_flatten chunks h
  obtain ⟨hev, hlm, -⟩ := flushBuffer_foldl_onStdoutData ver (chunks.map fun b => String.mk (utf8Decode b))
  have htext : (String.join (chunks.map fun b => String.mk (utf8Decode b))).toList =
      utf8Decode chunks.flatten := by
    rw [toList_join, List.map_map, ← hdec]
    rfl
  rw [htext] at hev
  exact ⟨hdec, hev, hlm.trans (congrArg lastMessageOf hev)⟩

/-- An `é` in one chunk and a line feed in the next. -/
theorem split_between_characters :
    let chunks : List Bytes := [utf8Encode ['é'], [0x0A]]
    let st := (chunks.map fun b => String.mk (utf8Decode b)).foldl (onStdoutData .codex) {}
    (chunks.map utf8Decode).flatten = utf8Decode chunks.flatten ∧
    (flushBuffer st).events = streamEvents (utf8Decode chunks.flatten) ∧
    (flushBuffer st).lastMessage = lastMessageOf (streamEvents (utf8Decode chunks.flatten)) :=
  chunks_decode_whole .codex _ fun b hb => ⟨['é'], by simpa using hb⟩

end CodexBridge
