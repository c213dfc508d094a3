import CodexBridge.Tool.Execute

/-!
# The experimental version's `settled` flag

`codex-experimental/index.ts` (lines 125 and 148 to 164) guards its promise with a flag:
`safeResolve` and `safeReject` settle only while `settled` is `false`, and set it. The close
handler resolves through `safeResolve`, the `error` handler rejects through `safeReject`, and the
check before start resolves through `safeResolve`. A `spawn` that throws rejects the promise
through the executor and leaves the flag unset.

**The state** (`GuardedState`). The plain `ExecState` and the flag. The handlers that settle are
written again with the guard; the data and exit handlers do not read the flag and are the plain
ones.

**The invariant.** A promise that `spawn`'s throw rejected has no child, so no handler can run
after it (`NoThrownChild`). Under it, a guarded step is the plain step with the flag its promise
implies (`step_lift`): where the guard stops a handler, the promise already holds a settlement,
which a plain `resolve` or `reject` would keep anyway.

**Theorem (`guarded_run_eq`).** Every run of the guarded version reaches the state of the plain
promise's run, its flag set exactly when `safeResolve` or `safeReject` has settled the promise.
-/

namespace CodexBridge

/-- The experimental version's `execute` state: the plain state and the `settled` flag. -/
structure GuardedState where
  state : ExecState
  settled : Bool

namespace GuardedState

/-- `safeResolve` or `safeReject`: unless `settled`, set it and settle the promise. -/
def safeSettle (s : GuardedState) (v : Settlement) : GuardedState :=
  if s.settled then s else ⟨{ s.state with promise := settle s.state.promise v }, true⟩

/-- `execute(...)` up to the return of the executor, with `settled` starting `false`. -/
def execute (p : CodexParams) (signal abortedBefore : Bool) : GuardedState :=
  let base : ExecState := ⟨signal, signal && abortedBefore, false, none, .unset, {}, "", none, []⟩
  if signal && abortedBefore then safeSettle ⟨base, false⟩ (.resolved abortedBeforeStart)
  else if spawnThrows .experimental p then ⟨{ base with promise := some .thrown }, false⟩
  else ⟨{ base with child := some {}, listening := signal }, false⟩

/-- The `error` handler: remove `onAbort`, `safeReject`. -/
def onError (s : GuardedState) (err : SpawnError) : GuardedState :=
  safeSettle ⟨{ s.state with listening := false }, s.settled⟩
    (.rejected (spawnErrorMessage .experimental err))

/-- `child.kill(sig)` meeting `k`, a refused call running the `error` handler. -/
def killChild (s : GuardedState) (sig : Signal) (k : KillOutcome) : GuardedState :=
  if s.state.running then
    let s' : GuardedState :=
      ⟨{ s.state with child := s.state.child.map fun c => { c with killed := c.killed || k == .delivered },
                      kills := s.state.kills ++ [(sig, k)] }, s.settled⟩
    if k = .refused then onError s' ⟨some "EPERM", "kill EPERM"⟩ else s'
  else s

/-- `onAbort`. -/
def onAbort (s : GuardedState) (term : KillOutcome) : GuardedState :=
  if s.state.killable then
    let t := killChild s .sigterm term
    ⟨{ t.state with timer := .pending }, t.settled⟩
  else s

/-- The timer's callback. -/
def onTimer (s : GuardedState) (k : KillOutcome) : GuardedState :=
  if s.state.killable then killChild s .sigkill k else s

/-- The `close` handler: remove `onAbort`, flush the buffer, `safeResolve` with the result. -/
def onClose (s : GuardedState) (code : Option Int) : GuardedState :=
  let lines := flushBuffer s.state.stdout
  let s' : GuardedState :=
    ⟨{ s.state with listening := false, child := s.state.child.map ({ · with phase := .closed }),
                    stdout := { s.state.stdout with lines := lines } }, s.settled⟩
  match closeResult lines s.state.stderr code s.state.aborted with
  | some r => safeSettle s' (.resolved r)
  | none => s'

/-- One event of the experimental version, with its guarded handlers. The data and exit
handlers do not touch `settled`. -/
def step (s : GuardedState) : Event → GuardedState
  | .abort term =>
    if s.state.signal && !s.state.aborted then
      let s' : GuardedState := ⟨{ s.state with aborted := true, listening := false }, s.settled⟩
      if s.state.listening then onAbort s' term else s'
    else s
  | .spawnFailed err code =>
    if s.state.running then
      onError ⟨{ s.state with child := s.state.child.map ({ · with phase := .exited (some code) }) },
        s.settled⟩ err
    else s
  | .close =>
    match s.state.child with
    | some ⟨.exited code, _⟩ => onClose s code
    | _ => s
  | .timer k => if s.state.timer = .pending then onTimer ⟨{ s.state with timer := .fired }, s.settled⟩ k else s
  | e => ⟨CodexBridge.step .experimental s.state e, s.settled⟩

end GuardedState

/-- Whether `safeResolve` or `safeReject` has settled the promise. -/
def handlerSettled (s : ExecState) : Bool :=
  match s.promise with
  | some (.resolved _) | some (.rejected _) => true
  | _ => false

/-! ## The plain run: a thrown `spawn` leaves no child -/

section Thrown

variable {ver : Version} {s : ExecState}

theorem killChild_ne_thrown (h : s.promise = none) (sig : Signal) (k : KillOutcome) :
    (killChild ver s sig k).promise ≠ some .thrown := by
  unfold killChild
  split_ifs <;> simp [onError, settle, h]

theorem step_ne_thrown (h : s.promise = none) : ∀ e, (step ver s e).promise ≠ some .thrown
  | .abort term => by
    simp only [step, onAbort]
    split_ifs <;> simp [killChild_ne_thrown, h]
  | .stdoutData _ | .stderrData _ | .exit _ => by simp only [step]; split_ifs <;> simp [h]
  | .spawnFailed _ _ => by simp only [step]; split_ifs <;> simp [onError, settle, h]
  | .close => by
    simp only [step]
    split
    · unfold onClose; dsimp only; split <;> simp [settle, h]
    · simp [h]
  | .timer k => by
    simp only [step, onTimer]
    split_ifs <;> simp [killChild_ne_thrown, h]

theorem step_of_no_child (h : s.child = none) (e : Event) :
    (step ver s e).promise = s.promise ∧ (step ver s e).child = none := by
  have hr : s.running = false := by simp [ExecState.running, h]
  have hk : s.killable = false := by simp [ExecState.killable, h]
  have ho : s.pipesOpen = false := by simp [ExecState.pipesOpen, h]
  cases e with
  | abort term =>
    simp only [step, onAbort]
    split_ifs <;> simp_all [ExecState.killable]
  | timer k =>
    simp only [step, onTimer]
    split_ifs <;> simp_all [ExecState.killable]
  | close => simp [step, h]
  | _ => simp [step, hr, ho, h]

/-- A promise `spawn`'s throw rejected has no child. -/
def NoThrownChild (s : ExecState) : Prop := s.promise = some .thrown → s.child = none

theorem NoThrownChild.ne_thrown (h : NoThrownChild s) (hr : s.running = true) :
    s.promise ≠ some .thrown := fun ht => by
  simp [ExecState.running, h ht] at hr

theorem NoThrownChild.step (h : NoThrownChild s) (e : Event) : NoThrownChild (step ver s e) := by
  intro ht
  cases hp : s.promise with
  | none => exact absurd ht (step_ne_thrown hp e)
  | some w =>
    have hk : (CodexBridge.step ver s e).promise = some w := step_keeps_settlement hp e
    rw [hk] at ht
    cases ht
    exact (step_of_no_child (h hp) e).2

end Thrown

/-! ## The guarded run is the plain run -/

namespace GuardedState

/-- The plain state with the flag its promise implies. -/
def lift (s : ExecState) : GuardedState := ⟨s, handlerSettled s⟩

variable {s t : ExecState} {b : Bool}

theorem safeSettle_lift (hs : t.promise ≠ some .thrown) {v : Settlement} (hv : v ≠ .thrown)
    (hb : b = handlerSettled t) : safeSettle ⟨t, b⟩ v = lift { t with promise := settle t.promise v } := by
  subst hb
  cases t with
  | mk signal aborted listening child timer stdout stderr promise kills =>
    rcases promise with _ | ⟨r | m | _⟩
    · cases v <;> simp_all [safeSettle, lift, handlerSettled, settle]
    · rfl
    · rfl
    · exact absurd rfl hs

theorem onError_lift (hs : t.promise ≠ some .thrown) (hb : b = handlerSettled t) (err : SpawnError) :
    onError ⟨t, b⟩ err = lift (CodexBridge.onError .experimental t err) :=
  safeSettle_lift (t := { t with listening := false }) hs (by simp) hb

theorem killChild_lift (hT : NoThrownChild s) (sig : Signal) (k : KillOutcome) :
    killChild (lift s) sig k = lift (CodexBridge.killChild .experimental s sig k) := by
  unfold killChild CodexBridge.killChild
  by_cases hr : s.running
  · simp only [lift, if_pos hr]
    split_ifs
    · exact onError_lift (by exact hT.ne_thrown hr) rfl _
    · rfl
  · simp only [lift, if_neg hr]

theorem onClose_lift {c : Child} (hc : s.child = some c) (hT : NoThrownChild s) (code : Option Int) :
    onClose (lift s) code = lift (CodexBridge.onClose s code) := by
  have hs : s.promise ≠ some .thrown := fun ht => by simp [hT ht] at hc
  unfold onClose CodexBridge.onClose
  simp only [lift]
  generalize closeResult (flushBuffer s.stdout) s.stderr code s.aborted = R
  rcases R with _ | r
  · rfl
  · exact safeSettle_lift (by exact hs) (by simp) rfl

@[simp] theorem lift_state (s : ExecState) : (lift s).state = s := rfl

@[simp] theorem lift_settled (s : ExecState) : (lift s).settled = handlerSettled s := rfl

theorem mk_eq_lift (h : t.promise = s.promise) : (⟨t, handlerSettled s⟩ : GuardedState) = lift t := by
  simp only [lift, handlerSettled, h]

theorem onAbort_lift (hT : NoThrownChild s) (term : KillOutcome) :
    onAbort (lift s) term = lift (CodexBridge.onAbort .experimental s term) := by
  unfold onAbort CodexBridge.onAbort
  simp only [lift_state]
  split_ifs
  · rw [killChild_lift hT]; rfl
  · rfl

theorem onTimer_lift (hT : NoThrownChild s) (k : KillOutcome) :
    onTimer (lift s) k = lift (CodexBridge.onTimer .experimental s k) := by
  unfold onTimer CodexBridge.onTimer
  simp only [lift_state]
  split_ifs
  · exact killChild_lift hT _ _
  · rfl

/-- **One guarded step is one plain step**, with the flag its promise implies. -/
theorem step_lift (hT : NoThrownChild s) :
    ∀ e, step (lift s) e = lift (CodexBridge.step .experimental s e)
  | .abort term => by
    simp only [step, CodexBridge.step, lift_state, lift_settled]
    split_ifs
    · exact onAbort_lift (s := { s with aborted := true, listening := false }) hT term
    all_goals rfl
  | .spawnFailed err code => by
    simp only [step, CodexBridge.step, lift_state, lift_settled]
    split_ifs with hr
    · exact onError_lift (by exact hT.ne_thrown hr) rfl err
    · rfl
  | .close => by
    simp only [step, CodexBridge.step, lift_state]
    rcases hc : s.child with _ | ⟨_ | code | _, killed⟩
    · rfl
    · rfl
    · exact onClose_lift hc hT code
    · rfl
  | .timer k => by
    simp only [step, CodexBridge.step, lift_state, lift_settled]
    split_ifs
    · exact onTimer_lift (s := { s with timer := .fired }) hT k
    · rfl
  | .stdoutData d => mk_eq_lift (congrArg Control.promise (control_stdoutData d))
  | .stderrData d => mk_eq_lift (congrArg Control.promise (control_stderrData d))
  | .exit code => mk_eq_lift (by simp only [CodexBridge.step]; split_ifs <;> rfl)

theorem foldl_step_lift (es : List Event) :
    ∀ s, NoThrownChild s → es.foldl step (lift s) = lift (es.foldl (CodexBridge.step .experimental) s) := by
  induction es with
  | nil => exact fun _ _ => rfl
  | cons e es ih =>
    intro s hT
    rw [List.foldl_cons, List.foldl_cons, step_lift hT, ih _ (hT.step e)]

theorem execute_lift (p : CodexParams) (signal abortedBefore : Bool) :
    execute p signal abortedBefore = lift (CodexBridge.execute .experimental p signal abortedBefore) := by
  unfold execute CodexBridge.execute
  split_ifs
  · exact safeSettle_lift (by simp) (by simp) rfl
  · rfl
  · rfl

theorem noThrownChild_execute (p : CodexParams) (signal abortedBefore : Bool) :
    NoThrownChild (CodexBridge.execute .experimental p signal abortedBefore) := by
  unfold CodexBridge.execute NoThrownChild
  split_ifs <;> simp

/-- **The `settled` flag changes nothing.** Every run of the experimental version with its
`safeResolve` and `safeReject` reaches the state the plain promise reaches, whatever the events,
and its flag is set exactly when one of them has settled the promise. -/
theorem guarded_run_eq (p : CodexParams) (signal abortedBefore : Bool) (es : List Event) :
    es.foldl step (execute p signal abortedBefore) =
      lift (es.foldl (CodexBridge.step .experimental) (CodexBridge.execute .experimental p signal abortedBefore)) := by
  rw [execute_lift, foldl_step_lift es _ (noThrownChild_execute p signal abortedBefore)]

end GuardedState
end CodexBridge
