import CodexBridge.Tool.Execute

/-!
# What the host shows of a call

`renderCall` (`codex/index.ts` lines 284 to 299, `codex-experimental/index.ts` lines 328 to
343) titles the call with its model and sandbox and shows the prompt, cut to 80 UTF-16 units;
`renderResult`'s collapsed success view shows the final message cut to 200. Both cut the same
way: `text.length > limit ? text.slice(0, keep) + "..." : text`.

**Theorem (`renderCall_shows_invocation`).** For every parameter record and both versions, the
title names exactly the model and sandbox the spawned argument vector asks for, read-only when
the experimental version defaults it, and the prompt line abbreviates the prompt within 80
units. The prompt is kept off `-m` and `-s` only, the two value options of `parseArgv`'s
grammar; codex's own parser reads more of them (`Tool/Args.lean`).

**Theorem (`success_view_abbreviates`).** A successful result whose message is a non-empty
string shows that string whole when expanded and abbreviated within 200 units when collapsed.
-/

namespace CodexBridge

/-! ## Cutting a text -/

/-- `text.length > limit ? text.slice(0, keep) + "..." : text`. -/
def truncate (limit keep : Nat) (text : String) : String :=
  if utf16Length text > limit then String.mk (utf16Take keep text.toList) ++ "..." else text

theorem utf16Width_le (c : Char) : 0 < utf16Width c ∧ utf16Width c ≤ 2 := by
  unfold utf16Width; split <;> omega

theorem utf16Length_append (a b : String) : utf16Length (a ++ b) = utf16Length a + utf16Length b := by
  show ((a.data ++ b.data).map utf16Width).sum =
    (a.data.map utf16Width).sum + (b.data.map utf16Width).sum
  induction a.data with
  | nil => simp
  | cons c cs ih => simp only [List.cons_append, List.map_cons, List.sum_cons, ih, Nat.add_assoc]

/-- The characters `utf16Take n` keeps fill at most `n` units, and at least `n - 1` when there
were enough: the cut loses at most one half of a pair. -/
theorem utf16Take_units (n : Nat) (cs : List Char) :
    ((utf16Take n cs).map utf16Width).sum ≤ n ∧
      (n ≤ (cs.map utf16Width).sum → n ≤ ((utf16Take n cs).map utf16Width).sum + 1) := by
  induction cs generalizing n with
  | nil => simp only [utf16Take, List.map_nil, List.sum_nil]; omega
  | cons c cs ih =>
    have hw := utf16Width_le c
    by_cases h : utf16Width c ≤ n
    · have := ih (n - utf16Width c)
      simp only [utf16Take, if_pos h, List.map_cons, List.sum_cons]
      omega
    · simp only [utf16Take, if_neg h, List.map_nil, List.sum_nil]
      omega

theorem utf16Take_prefix (n : Nat) (cs : List Char) : utf16Take n cs <+: cs := by
  induction cs generalizing n with
  | nil => exact List.nil_prefix
  | cons c cs ih =>
    unfold utf16Take
    split_ifs
    · exact List.cons_prefix_cons.2 ⟨rfl, ih _⟩
    · exact List.nil_prefix

/-- What a cut to `limit` units keeping `keep` shows of `text`: at most `limit` units; the text
itself when it fits, and otherwise a prefix of it within one unit of `keep`, then `...`. -/
structure Abbreviates (limit keep : Nat) (text shown : String) : Prop where
  fits : utf16Length shown ≤ limit
  whole : utf16Length text ≤ limit → shown = text
  cut : limit < utf16Length text → ∃ head, shown = head ++ "..." ∧ head.toList <+: text.toList ∧
    keep ≤ utf16Length head + 1 ∧ utf16Length head ≤ keep

theorem truncate_abbreviates {limit keep : Nat} (h : keep + 3 ≤ limit) (text : String) :
    Abbreviates limit keep text (truncate limit keep text) := by
  by_cases hl : limit < utf16Length text
  · have hu := utf16Take_units keep text.toList
    have hhead : utf16Length (String.mk (utf16Take keep text.toList)) ≤ keep := hu.1
    have hdots : utf16Length "..." = 3 := by decide
    rw [truncate, if_pos hl]
    refine ⟨?_, fun h' => absurd h' (by omega),
      fun _ => ⟨_, rfl, utf16Take_prefix _ _, hu.2 (by unfold utf16Length at hl; omega), hhead⟩⟩
    rw [utf16Length_append, hdots]
    omega
  · rw [truncate, if_neg hl]
    exact ⟨by omega, fun _ => rfl, fun h' => absurd h' hl⟩

/-! ## `renderCall` -/

/-- The model's part of the title: the model in parentheses when it is given and not empty. -/
def modelLabel (args : CodexParams) : String :=
  match args.modelArg with
  | some m => " (" ++ m ++ ")"
  | none => ""

/-- The sandbox's part: the sandbox in brackets when it is given; otherwise nothing in the
codex version, and `[read-only]` in the experimental one. -/
def sandboxLabel : Version → Option Sandbox → String
  | _, some s => " [" ++ s.name ++ "]"
  | .codex, none => ""
  | .experimental, none => " [read-only]"

/-- `renderCall(args, theme)`: the text of the `Text` it returns. -/
def renderCall (ver : Version) (args : CodexParams) (theme : Theme) : String :=
  theme.fg "toolTitle" (theme.bold "codex") ++
    theme.fg "dim" (modelLabel args ++ sandboxLabel ver args.sandbox) ++ "\n" ++
    theme.fg "muted" (truncate 80 77 args.prompt)

/-- The title an invocation calls for: its model in parentheses and its sandbox in brackets,
each when it sets one. -/
def invocationLabel (inv : Invocation) : String :=
  (inv.model.map (" (" ++ · ++ ")")).getD "" ++ (inv.sandbox.map (" [" ++ · ++ "]")).getD ""

theorem parseArgv_last_keeps {tok : String} (hm : tok ≠ "-m") (hs : tok ≠ "-s") (inv : Invocation) :
    ∃ inv', parseArgv [tok] false inv = some inv' ∧ inv'.model = inv.model ∧
      inv'.sandbox = inv.sandbox := by
  unfold parseArgv
  split_ifs <;> simp_all [parseArgv]

/-- The options of either vector call for the title `renderCall` shows. -/
theorem spawnArgs_label (ver : Version) (p : CodexParams) :
    ∃ pre, parseArgv (spawnArgs ver p) false {} = parseArgv [p.prompt] false pre ∧
      invocationLabel pre = modelLabel p ++ sandboxLabel ver p.sandbox := by
  cases ver
  · refine ⟨codexPrefix p, parseArgv_codexArgs_eq p, ?_⟩
    cases hm : p.modelArg <;> cases hs : p.sandbox <;>
      simp [invocationLabel, codexPrefix, modelLabel, sandboxLabel, hm, hs]
  · refine ⟨experimentalPrefix p, parseArgv_experimentalArgs_eq p, ?_⟩
    cases hm : p.modelArg <;> rcases hs : p.sandbox with _ | ⟨_ | _⟩ <;>
      simp [invocationLabel, experimentalPrefix, CodexParams.sandboxMode, modelLabel, sandboxLabel,
        Sandbox.name, hm, hs]

theorem renderCall_shows_invocation (ver : Version) (p : CodexParams)
    (hp : p.prompt ≠ "-m" ∧ p.prompt ≠ "-s") (theme : Theme) :
    ∃ inv shown, parseArgv (spawnArgs ver p) false {} = some inv ∧
      renderCall ver p theme = theme.fg "toolTitle" (theme.bold "codex") ++
        theme.fg "dim" (invocationLabel inv) ++ "\n" ++ theme.fg "muted" shown ∧
      Abbreviates 80 77 p.prompt shown := by
  obtain ⟨pre, hpre, hlabel⟩ := spawnArgs_label ver p
  obtain ⟨inv, hinv, hm, hs⟩ := parseArgv_last_keeps hp.1 hp.2 pre
  refine ⟨inv, _, hpre.trans hinv, ?_, truncate_abbreviates (by decide) p.prompt⟩
  rw [renderCall, ← hlabel, invocationLabel, invocationLabel, hm, hs]

/-- A theme that paints nothing. -/
def plainTheme : Theme := ⟨fun _ text => text, id⟩

/-- An experimental call given no sandbox is titled read-only, as its vector asks. -/
theorem read_only_call_title :
    ("explain" ≠ "-m" ∧ "explain" ≠ "-s") ∧
      ∃ inv shown, parseArgv (spawnArgs .experimental ⟨"explain", none, none, none⟩) false {} = some inv ∧
        renderCall .experimental ⟨"explain", none, none, none⟩ plainTheme =
          plainTheme.fg "toolTitle" (plainTheme.bold "codex") ++
            plainTheme.fg "dim" (invocationLabel inv) ++ "\n" ++ plainTheme.fg "muted" shown ∧
        Abbreviates 80 77 "explain" shown :=
  ⟨⟨by decide, by decide⟩,
    renderCall_shows_invocation .experimental ⟨"explain", none, none, none⟩ ⟨by decide, by decide⟩ plainTheme⟩

/-! ## The success view -/

theorem previewMessage_string (s : String) :
    previewMessage (.string s) = some (.string (truncate 200 197 s)) := rfl

theorem success_view_abbreviates (ver : Version) (r : ResultView) {text : String}
    (hb : renderBranch r = .success) (hm : r.details.bind (·.lastMessage) = some (.string text))
    (ht : text ≠ "") (theme : Theme) :
    (∃ banner, renderResult ver r true theme = some (banner ++ text)) ∧
      ∃ shown, renderResult ver r false theme =
        some (theme.fg "success" ver.markers.okBanner ++ theme.fg "muted" "Codex: " ++ shown) ∧
        Abbreviates 200 197 text shown := by
  have htruthy : truthy (some (.string text)) = true := by
    unfold truthy; split <;> simp_all
  have hmsg : orElse (orElse (r.details.bind (·.lastMessage)) r.content.head?) (some (.string "")) =
      some (.string text) := by
    simp only [orElse, hm, htruthy, if_true]
  simp only [renderResult, hb, hmsg, Option.getD_some, previewMessage_string, Option.some_bind]
  exact ⟨⟨_, rfl⟩, _, rfl, truncate_abbreviates (by decide) text⟩

/-- The view of a run that answered `done`. -/
def doneView : ResultView :=
  ⟨[.string "done"], some ⟨[], some 0, false, some (.string "done"), none⟩, false⟩

/-- A run that answered `done` shows it whole either way. -/
theorem done_success_view :
    (renderBranch doneView = .success ∧
      doneView.details.bind (·.lastMessage) = some (.string "done") ∧ "done" ≠ "") ∧
    (∃ banner, renderResult .experimental doneView true plainTheme = some (banner ++ "done")) ∧
      ∃ shown, renderResult .experimental doneView false plainTheme =
        some (plainTheme.fg "success" Version.experimental.markers.okBanner ++
          plainTheme.fg "muted" "Codex: " ++ shown) ∧
        Abbreviates 200 197 "done" shown :=
  ⟨⟨by decide, rfl, by decide⟩,
    success_view_abbreviates .experimental doneView (by decide) rfl (by decide) plainTheme⟩

end CodexBridge
