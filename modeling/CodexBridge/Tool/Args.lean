import Mathlib.Data.List.Basic

/-!
# The argument vector `execute` passes to `spawn`

Both versions of the tool, `codex/index.ts` and `codex-experimental/index.ts`, build the
argument vector of `codex exec --json` from the tool parameters, the prompt last. The codex
version always passes `--full-auto`, then `-m` and `-s` when given; the experimental version
defaults the sandbox to `read-only` and passes `--full-auto` only with `workspace-write`.

To say what the vector means, `parseArgv` reads it with the standard option grammar: a
token that starts with `-` and is not `-` itself is an option unless a `--` came before it,
and `-m` and `-s` take the next token as their value. The grammar is narrower than codex's own
parser, which also reads `--model` and `--sandbox`, and values attached to the option (`-mX`,
`--model=X`). A result that keeps only `-m` and `-s` out of the prompt, such as
`renderCall_shows_invocation`, holds in this grammar alone.

**Theorem (`spawnArgs_parse_iff`).** For every parameter record and both versions, the parse
is `exec`, `--json`, the sandbox and the model as requested, with the prompt as the single task
argument, exactly when the prompt does not look like an option. No `--` precedes the prompt.

**Theorem (`experimental_full_auto_iff`).** In the experimental version `--full-auto` reaches
codex exactly when the sandbox is `workspace-write` or the prompt is `--full-auto` itself. The
comment above the vector (line 128) keeps `--full-auto` to `workspace-write`; a call with no
sandbox and the prompt `--full-auto` passes it, with no task (`read_only_run_passes_full_auto`).
-/

namespace CodexBridge

/-- The `sandbox` parameter's two values. -/
inductive Sandbox
  | readOnly
  | workspaceWrite
  deriving DecidableEq, Repr

/-- The value `codex` is given for a sandbox mode. -/
def Sandbox.name : Sandbox → String
  | .readOnly => "read-only"
  | .workspaceWrite => "workspace-write"

/-- `CodexParams`. -/
structure CodexParams where
  prompt : String
  model : Option String := none
  sandbox : Option Sandbox := none
  workDir : Option String := none
  deriving DecidableEq, Repr

/-- `if (params.model)`: the model, when given and not empty. -/
def CodexParams.modelArg (p : CodexParams) : Option String :=
  match p.model with
  | some m => if m = "" then none else some m
  | none => none

/-- The arguments of the codex version (`codex/index.ts`, lines 115 to 126). -/
def codexArgs (p : CodexParams) : List String :=
  ["exec", "--json", "--full-auto"] ++
    (match p.modelArg with | some m => ["-m", m] | none => []) ++
    (match p.sandbox with | some s => ["-s", s.name] | none => []) ++
    [p.prompt]

/-- `params.sandbox || "read-only"`. -/
def CodexParams.sandboxMode (p : CodexParams) : Sandbox := p.sandbox.getD .readOnly

/-- The arguments of the experimental version (`codex-experimental/index.ts`, lines 129
to 144). -/
def experimentalArgs (p : CodexParams) : List String :=
  ["exec", "--json"] ++
    (if p.sandboxMode = .workspaceWrite then ["--full-auto", "-s", "workspace-write"]
      else ["-s", "read-only"]) ++
    (match p.modelArg with | some m => ["-m", m] | none => []) ++
    [p.prompt]

/-! ## Reading an argument vector -/

/-- What an argument vector asks for: positional arguments, flags, and the values of `-m`
and `-s`. -/
structure Invocation where
  positionals : List String := []
  flags : List String := []
  model : Option String := none
  sandbox : Option String := none
  deriving DecidableEq, Repr

/-- A token the grammar reads as an option: it starts with `-` and is not `-` itself. -/
def looksLikeOption (tok : String) : Bool :=
  match tok.toList with
  | ['-'] => false
  | '-' :: _ => true
  | _ => false

/-- Read an argument vector; `afterDashDash` once a `--` has ended the options. A value
option with no token after it is a usage error (`none`). -/
def parseArgv : List String → Bool → Invocation → Option Invocation
  | [], _, inv => some inv
  | tok :: rest, true, inv => parseArgv rest true { inv with positionals := inv.positionals ++ [tok] }
  | tok :: rest, false, inv =>
    if tok = "--" then parseArgv rest true inv
    else if tok = "-m" then
      match rest with
      | v :: rest => parseArgv rest false { inv with model := some v }
      | [] => none
    else if tok = "-s" then
      match rest with
      | v :: rest => parseArgv rest false { inv with sandbox := some v }
      | [] => none
    else if looksLikeOption tok then parseArgv rest false { inv with flags := inv.flags ++ [tok] }
    else parseArgv rest false { inv with positionals := inv.positionals ++ [tok] }

theorem looksLikeOption_of_special {tok : String} (h : tok = "--" ∨ tok = "-m" ∨ tok = "-s") :
    looksLikeOption tok = true := by
  rcases h with rfl | rfl | rfl <;> decide

theorem parseArgv_last_option {tok : String} (h : looksLikeOption tok = true) (inv : Invocation) :
    ∀ inv', parseArgv [tok] false inv = some inv' → inv'.positionals = inv.positionals := by
  unfold parseArgv
  split_ifs <;> simp_all [parseArgv]

/-- **The last token.** It is read as a positional argument exactly when it does not look
like an option; otherwise it is an option, an end of options, or a usage error. -/
theorem parseArgv_last (tok : String) (inv : Invocation) :
    parseArgv [tok] false inv = some { inv with positionals := inv.positionals ++ [tok] } ↔
      looksLikeOption tok = false := by
  by_cases h : looksLikeOption tok = true
  · simp only [h, Bool.true_eq_false, iff_false]
    intro heq
    simpa using congrArg List.length (parseArgv_last_option h inv _ heq)
  · have hs : ¬ (tok = "--" ∨ tok = "-m" ∨ tok = "-s") := fun hs => h (looksLikeOption_of_special hs)
    simp only [not_or] at hs
    simp [parseArgv, hs.1, hs.2.1, hs.2.2, h]

/-- The options of `codex/index.ts`'s vector, with the task argument still to come. -/
def codexPrefix (p : CodexParams) : Invocation :=
  ⟨["exec"], ["--json", "--full-auto"], p.modelArg, p.sandbox.map Sandbox.name⟩

/-- The options of `codex-experimental/index.ts`'s vector. -/
def experimentalPrefix (p : CodexParams) : Invocation :=
  ⟨["exec"], ["--json"] ++ (if p.sandboxMode = .workspaceWrite then ["--full-auto"] else []),
    p.modelArg, some p.sandboxMode.name⟩

private theorem exec_not_option : looksLikeOption "exec" = false := by decide
private theorem json_option : looksLikeOption "--json" = true := by decide
private theorem fullAuto_option : looksLikeOption "--full-auto" = true := by decide

theorem parseArgv_codexArgs_eq (p : CodexParams) :
    parseArgv (codexArgs p) false {} = parseArgv [p.prompt] false (codexPrefix p) := by
  cases hm : p.modelArg <;> cases hs : p.sandbox <;>
    simp [codexArgs, codexPrefix, hm, hs, parseArgv, exec_not_option, json_option,
      fullAuto_option]

theorem parseArgv_experimentalArgs_eq (p : CodexParams) :
    parseArgv (experimentalArgs p) false {} = parseArgv [p.prompt] false (experimentalPrefix p) := by
  cases hm : p.modelArg <;> cases hs : p.sandboxMode <;>
    simp [experimentalArgs, experimentalPrefix, hm, hs, parseArgv, exec_not_option, json_option,
      fullAuto_option, Sandbox.name]

/-- **What `spawn` is asked to run.** Both vectors parse to the requested invocation, the
prompt its one task argument, exactly when the prompt does not look like an option. -/
theorem spawnArgs_parse_iff (p : CodexParams) :
    (parseArgv (codexArgs p) false {} =
        some { codexPrefix p with positionals := ["exec", p.prompt] } ↔
      looksLikeOption p.prompt = false) ∧
    (parseArgv (experimentalArgs p) false {} =
        some { experimentalPrefix p with positionals := ["exec", p.prompt] } ↔
      looksLikeOption p.prompt = false) := by
  rw [parseArgv_codexArgs_eq, parseArgv_experimentalArgs_eq]
  exact ⟨parseArgv_last _ _, parseArgv_last _ _⟩

theorem parseArgv_last_flags {tok : String} {inv inv' : Invocation}
    (h : parseArgv [tok] false inv = some inv') :
    inv'.flags = inv.flags ++ if looksLikeOption tok = true ∧ tok ≠ "--" then [tok] else [] := by
  unfold parseArgv at h
  split_ifs at h <;> simp [parseArgv] at h <;> subst h <;> simp [*]

/-- **When `--full-auto` reaches codex.** In the experimental version the parsed flags hold
`--full-auto` exactly when the sandbox is `workspace-write` or the prompt is `--full-auto`. -/
theorem experimental_full_auto_iff (p : CodexParams) {inv : Invocation}
    (h : parseArgv (experimentalArgs p) false {} = some inv) :
    "--full-auto" ∈ inv.flags ↔ p.sandboxMode = .workspaceWrite ∨ p.prompt = "--full-auto" := by
  rw [parseArgv_experimentalArgs_eq] at h
  rw [parseArgv_last_flags h, experimentalPrefix]
  by_cases hp : p.prompt = "--full-auto"
  · simp [hp, fullAuto_option]
  · by_cases hw : p.sandboxMode = .workspaceWrite <;> split_ifs <;> simp [hw, hp, Ne.symm hp]

/-- The parse of a read-only call whose prompt is `--full-auto` holds `--full-auto`. -/
theorem full_auto_prompt_flag :
    ∃ inv, parseArgv (experimentalArgs { prompt := "--full-auto" }) false {} = some inv ∧
      "--full-auto" ∈ inv.flags :=
  ⟨⟨["exec"], ["--json", "--full-auto"], none, some "read-only"⟩, by decide,
    (experimental_full_auto_iff { prompt := "--full-auto" } (by decide)).2 (.inr rfl)⟩

/-- A call with no sandbox whose prompt is `--full-auto`: the run is read-only, and the vector
hands codex `--full-auto` and no task. -/
theorem read_only_run_passes_full_auto :
    CodexParams.sandboxMode { prompt := "--full-auto" } = .readOnly ∧
      parseArgv (experimentalArgs { prompt := "--full-auto" }) false {} =
        some ⟨["exec"], ["--json", "--full-auto"], none, some "read-only"⟩ :=
  ⟨rfl, by decide⟩

end CodexBridge
