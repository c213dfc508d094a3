import CodexBridge.Auth.Refresh

/-!
# What a refresh stores, and what a failure keeps

The three laws of the credential file under `getCodexCliAuth`, over every document, every
response of the token endpoint and every outcome of the file operations.

**Theorem (`failed_refresh_keeps_file`).** A call that throws leaves `authJsonPath` as it was.
A due refresh with a refresh token either throws or returns the credential the exchange issued.

**Theorem (`exchange_failure_keeps_file`).** Each failure of the token exchange (a rejected
`fetch`, a status other than 2xx, a body that is not JSON or not a record, no non-blank access
token) makes the call throw with every path as it was.

**Theorem (`exchange_success_outcome`).** After a successful exchange the new credential is
returned when the writeback is off or succeeds. When a file operation fails it is neither
returned nor stored.

**Theorem (`read_after_refresh`).** A call after a refresh whose writeback succeeded, while the
issued token is not yet due, returns the refreshed credential without a request or a write.

**Theorem (`returned_credential_source`).** A call returns the stored credential only when no
refresh is due or no refresh token is stored; any other credential it returns is the one a
successful exchange just issued.

**Theorem (`refresh_persists_document`).** A successful refresh and writeback store the parsed
document with only the token fields and `last_refresh` changed, and reading the file back gives
the returned credential. This needs every number of the document to be finite:
`JSON.stringify` writes `Infinity`, which `JSON.parse` gives for a literal beyond the double
range, as `null`.
-/

namespace CodexBridge

/-! ## Failures -/

theorem readStoredAuth_eq_some {D : JsValue} {st : StoredAuth} (h : readStoredAuth (some D) = some st) :
    D = .object st.file ∧ JsValue.field st.file "tokens" = some (.object st.tokens) ∧
      getOptionalString st.tokens "access_token" = some st.accessToken ∧
      getOptionalString st.tokens "refresh_token" = st.refreshToken ∧
      getOptionalString st.tokens "id_token" = st.idToken := by
  cases D with
  | object file =>
    simp only [readStoredAuth] at h
    split at h
    · obtain ⟨a, ha, rfl⟩ := Option.map_eq_some'.1 h
      exact ⟨rfl, ‹_›, ha, rfl, rfl⟩
    · cases h
  | _ => simp [readStoredAuth] at h

theorem getOptionalString_congr {a b : List (String × JsValue)} {key : String}
    (h : JsValue.field a key = JsValue.field b key) : getOptionalString a key = getOptionalString b key := by
  simp [getOptionalString, h]

/-- The document a refresh writes is written as it is, when the one it read was. -/
theorem updatedDocument_serializable {file tokens : List (String × JsValue)}
    (hfile : (JsValue.object file).serializable) (htok : JsValue.field file "tokens" = some (.object tokens))
    (a r : String) (i : Option String) (lastRefresh : String) :
    (JsValue.object (updatedDocument file tokens a r i lastRefresh)).serializable := by
  have ht : (JsValue.object tokens).serializable := wf_field hfile htok
  have hT : (JsValue.object (updatedTokens tokens a r i)).serializable := by
    unfold updatedTokens
    cases i <;> simp only <;>
      repeat first | exact ht | apply wf_setField | rfl
  exact wf_setField (wf_setField hfile hT _) (show (JsValue.string lastRefresh).wf _ = true from rfl) _

theorem getOptionalString_updatedTokens_id {tokens : List (String × JsValue)} {a r : String}
    {i : Option String} (hi : ∀ t, i = some t → isBlank t = false)
    (hnone : i = none → getOptionalString tokens "id_token" = none) :
    getOptionalString (updatedTokens tokens a r i) "id_token" = i := by
  cases i with
  | none =>
    have h : JsValue.field (updatedTokens tokens a r none) "id_token" = JsValue.field tokens "id_token" := by
      simp [field_updatedTokens]
    rw [getOptionalString_congr h, hnone rfl]
  | some t => exact getOptionalString_of_field (by simp [field_updatedTokens]) (hi t rfl)

/-- The updated document reads back as the credential made of its three tokens. -/
theorem readStoredAuth_updatedDocument (file tokens : List (String × JsValue)) {a r : String}
    {i : Option String} (ha : isBlank a = false) (hr : isBlank r = false)
    (hi : getOptionalString (updatedTokens tokens a r i) "id_token" = i) (lastRefresh : String) :
    (readStoredAuth (some (.object (updatedDocument file tokens a r i lastRefresh)))).map
      StoredAuth.credential = some ⟨a, some r, i, extractJwtExpMs a⟩ := by
  have hA : getOptionalString (updatedTokens tokens a r i) "access_token" = some a :=
    getOptionalString_of_field (by simp [field_updatedTokens]) ha
  have hR : getOptionalString (updatedTokens tokens a r i) "refresh_token" = some r :=
    getOptionalString_of_field (by simp [field_updatedTokens]) hr
  simp [readStoredAuth, field_updatedDocument, hA, hR, hi, StoredAuth.credential]

/-- **The stored credential reads back as the one returned.** -/
theorem credential_updatedDocument {D : JsValue} {st : StoredAuth} (hst : readStoredAuth (some D) = some st)
    {refreshToken : String} (hrt : st.refreshToken = some refreshToken) {refreshed : TokenRefreshResponse}
    (hblank : isBlank refreshed.accessToken = false ∧
      (∀ t, refreshed.refreshToken = some t → isBlank t = false) ∧
      (∀ t, refreshed.idToken = some t → isBlank t = false))
    (lastRefresh : String) :
    (readStoredAuth (some (.object (updatedDocument st.file st.tokens refreshed.accessToken
        (refreshed.refreshToken.getD refreshToken) (refreshed.idToken.or st.idToken) lastRefresh)))).map
      StoredAuth.credential = some (refreshedCredential refreshed refreshToken st.idToken) := by
  obtain ⟨-, -, -, hrefresh, hid⟩ := readStoredAuth_eq_some hst
  obtain ⟨ha, hr, hi⟩ := hblank
  have hr' : isBlank (refreshed.refreshToken.getD refreshToken) = false := by
    cases h : refreshed.refreshToken with
    | none => exact (getOptionalString_some (hrefresh.trans hrt)).2
    | some t => exact hr t h
  have hi' : ∀ t, refreshed.idToken.or st.idToken = some t → isBlank t = false := by
    intro t h
    cases h₁ : refreshed.idToken with
    | none => rw [h₁, Option.none_or] at h; exact (getOptionalString_some (hid.trans h)).2
    | some t' => rw [h₁] at h; cases h; exact hi _ h₁
  have hnone : refreshed.idToken.or st.idToken = none → getOptionalString st.tokens "id_token" = none :=
    fun h => hid.trans (Option.or_eq_none.1 h).2
  exact readStoredAuth_updatedDocument st.file st.tokens ha hr'
    (getOptionalString_updatedTokens_id hi' hnone) lastRefresh

/-! ## Sample runs

A document whose access token, of payload `{"exp":1}`, expired one second after the epoch; a
clock at the epoch; an endpoint that issues `a2` and `r2`.
-/

/-- Equality of outcomes, so that a run can be checked by evaluation. -/
instance decEqExcept {ε α : Type} [DecidableEq ε] [DecidableEq α] : DecidableEq (Except ε α)
  | .error a, .error b => decidable_of_iff (a = b) (by simp)
  | .ok a, .ok b => decidable_of_iff (a = b) (by simp)
  | .error _, .ok _ => isFalse (by simp)
  | .ok _, .error _ => isFalse (by simp)

/-- The credential file at `/home/u/.codex/auth.json`, holding `doc`. -/
def sampleFile (doc : String) : Fs :=
  fun p => if p = "/home/u/.codex/auth.json" then some (utf8Encode doc.toList) else none

/-- The sample document, its member `n` written as `n`. -/
def sampleDoc (n : String) : String :=
  "\x7b\"tokens\":\x7b\"access_token\":\"h.eyJleHAiOjF9.s\",\"refresh_token\":\"r1\"\x7d,\"n\":" ++ n ++
    "\x7d"

/-- The `tokens` record of the sample document. -/
def sampleTokens : List (String × JsValue) :=
  [("access_token", .string "h.eyJleHAiOjF9.s"), ("refresh_token", .string "r1")]

/-- What `getCodexCliAuth` reads from the sample document with `n` equal to one. -/
def sampleStored : StoredAuth :=
  ⟨[("tokens", .object sampleTokens), ("n", .number (.finite ⟨1, 0, .inl (by decide)⟩))], sampleTokens,
    "h.eyJleHAiOjF9.s", some "r1", none⟩

/-- What the sample endpoint issues. -/
def sampleRefreshed : TokenRefreshResponse := ⟨"a2", some "r2", none, none, none⟩

/-- The sample environment, the rename ending as `rename` says. -/
def sampleEnv (rename : Option String) : AuthEnv where
  homedir := "/home/u"
  now := 0
  isoNow := "1970-01-01T00:00:00.000Z"
  fetch := fun _ => .ok ⟨200, "\x7b\"access_token\":\"a2\",\"refresh_token\":\"r2\"\x7d"⟩
  store := { pid := 7, random := "9f", rename := rename }

/-! ## The outcome of the exchange -/

/-- **A failed exchange keeps the file.** When a refresh is due and there is a refresh token, a
rejected `fetch`, a status other than 2xx, a body that is not JSON, JSON that is not a record
and a record with no non-blank `access_token` each make the call throw with every path as it
was. -/
theorem exchange_failure_keeps_file {options : CodexCliAuthOptions} {env : AuthEnv} {fs : Fs}
    {st : StoredAuth} {refreshToken : String}
    (hst : readStoredAuth (readJsonFile fs (options.path env.homedir)) = some st)
    (hdue : isExpiringSoon (extractJwtExpMs st.accessToken) env.now options.leeway = true)
    (hrt : st.refreshToken = some refreshToken)
    (hfail : ExchangeFailure env.fetch (tokenRequest options.endpoint options.clientId refreshToken)) :
    ∃ e, getCodexCliAuth options env fs = (.error e, fs) := by
  obtain ⟨e, he⟩ := refreshTokens_error_of_failure hfail
  exact ⟨e, by rw [getCodexCliAuth_of_due hst hdue hrt, he]⟩

/-- The sample document, with an endpoint that answers 400: the call throws, the file unchanged. -/
theorem http_400_keeps_file :
    ∃ e, getCodexCliAuth {} { sampleEnv none with fetch := fun _ => .ok ⟨400, "\x7b\x7d"⟩ }
      (sampleFile (sampleDoc "1")) = (.error e, sampleFile (sampleDoc "1")) :=
  @exchange_failure_keeps_file {} { sampleEnv none with fetch := fun _ => .ok ⟨400, "\x7b\x7d"⟩ }
    (sampleFile (sampleDoc "1")) sampleStored "r1" rfl rfl rfl (.inr ⟨_, rfl, .inl rfl⟩)

/-- **After a successful exchange.** With the writeback off, the new credential is returned and no
file changes. With it on, it is returned and stored when `mkdir`, the temporary file and the
rename succeed. When one of them fails, the call throws its error and `authJsonPath` keeps its
old content: the new credential is neither returned nor stored. -/
theorem exchange_success_outcome {options : CodexCliAuthOptions} {env : AuthEnv} {fs : Fs}
    {st : StoredAuth} {refreshToken : String} {refreshed : TokenRefreshResponse}
    (hst : readStoredAuth (readJsonFile fs (options.path env.homedir)) = some st)
    (hdue : isExpiringSoon (extractJwtExpMs st.accessToken) env.now options.leeway = true)
    (hrt : st.refreshToken = some refreshToken)
    (hR : refreshTokens env.fetch options.endpoint options.clientId refreshToken = .ok refreshed) :
    (options.writesBack = false →
      getCodexCliAuth options env fs = (.ok (some (refreshedCredential refreshed refreshToken st.idToken)), fs)) ∧
    (options.writesBack = true → env.store.failure = none →
      (getCodexCliAuth options env fs).1 = .ok (some (refreshedCredential refreshed refreshToken st.idToken)) ∧
      (getCodexCliAuth options env fs).2 (options.path env.homedir) =
        some (jsonFileBytes (.object (updatedDocument st.file st.tokens refreshed.accessToken
          (refreshed.refreshToken.getD refreshToken) (refreshed.idToken.or st.idToken) env.isoNow)))) ∧
    (∀ message, options.writesBack = true → env.store.failure = some message →
      (getCodexCliAuth options env fs).1 = .error (.rejected message) ∧
      (getCodexCliAuth options env fs).2 (options.path env.homedir) = fs (options.path env.homedir)) := by
  rw [getCodexCliAuth_of_exchange hst hdue hrt hR]
  refine ⟨fun hwb => ?_, fun hwb hok => ?_, fun message hwb hf => ?_⟩
  · simp [finishRefresh, hwb]
  · simp [finishRefresh_fst, finishRefresh_target, hwb, hok]
  · simp [finishRefresh_fst, finishRefresh_target, hwb, hf]

/-- The sample refresh with a writeback that succeeds returns `a2` and `r2`. -/
theorem sample_refresh_returns_credential :
    (getCodexCliAuth {} (sampleEnv none) (sampleFile (sampleDoc "1"))).1 =
      .ok (some (refreshedCredential sampleRefreshed "r1" none)) :=
  ((@exchange_success_outcome {} (sampleEnv none) (sampleFile (sampleDoc "1")) sampleStored "r1"
    sampleRefreshed rfl rfl rfl rfl).2.1 rfl rfl).1

/-- The exchange issues `a2` and `r2`, then the rename fails: the call throws, and the file still
holds the document with `r1`. -/
theorem rename_failure_loses_credential :
    refreshTokens (sampleEnv (some "EXDEV")).fetch codexTokenUrl codexClientId "r1" = .ok sampleRefreshed ∧
    (getCodexCliAuth {} (sampleEnv (some "EXDEV")) (sampleFile (sampleDoc "1"))).1 =
      .error (.rejected "EXDEV") ∧
    (getCodexCliAuth {} (sampleEnv (some "EXDEV")) (sampleFile (sampleDoc "1"))).2
      "/home/u/.codex/auth.json" = sampleFile (sampleDoc "1") "/home/u/.codex/auth.json" :=
  ⟨rfl, rfl, rfl⟩

/-- **What a refresh stores.** Take a document `D` whose numbers are all finite, a due refresh
with a refresh token, a successful exchange and a writeback that succeeds. The file then holds
`D` with `tokens.access_token`, `tokens.refresh_token` (the old one when none was issued),
`tokens.id_token` (the issued one, else the old non-blank one, else untouched) and `last_refresh`
set, every other member of `D` and of `tokens` as parsed. Reading it back gives the credential
the call returns. -/
theorem refresh_persists_document {options : CodexCliAuthOptions} {env : AuthEnv} {fs : Fs}
    {D : JsValue} {st : StoredAuth} {refreshToken : String} {refreshed : TokenRefreshResponse}
    (hD : readJsonFile fs (options.path env.homedir) = some D) (hfin : D.wf JsNumber.isFinite)
    (hst : readStoredAuth (some D) = some st)
    (hdue : isExpiringSoon (extractJwtExpMs st.accessToken) env.now options.leeway = true)
    (hrt : st.refreshToken = some refreshToken)
    (hR : refreshTokens env.fetch options.endpoint options.clientId refreshToken = .ok refreshed)
    (hwb : options.writesBack = true) (hok : env.store.failure = none) :
    ∃ fields tokens,
      readJsonFile (getCodexCliAuth options env fs).2 (options.path env.homedir) = some (.object fields) ∧
      JsValue.field fields "tokens" = some (.object tokens) ∧
      JsValue.field fields "last_refresh" = some (.string env.isoNow) ∧
      (∀ key, key ≠ "tokens" → key ≠ "last_refresh" → JsValue.field fields key = JsValue.field st.file key) ∧
      JsValue.field tokens "access_token" = some (.string refreshed.accessToken) ∧
      JsValue.field tokens "refresh_token" = some (.string (refreshed.refreshToken.getD refreshToken)) ∧
      JsValue.field tokens "id_token" =
        ((refreshed.idToken.or st.idToken).map JsValue.string).or (JsValue.field st.tokens "id_token") ∧
      (∀ key, key ≠ "access_token" → key ≠ "refresh_token" → key ≠ "id_token" →
        JsValue.field tokens key = JsValue.field st.tokens key) ∧
      (getCodexCliAuth options env fs).1 = .ok (some (refreshedCredential refreshed refreshToken st.idToken)) ∧
      (readStoredAuth (readJsonFile (getCodexCliAuth options env fs).2 (options.path env.homedir))).map
        StoredAuth.credential = some (refreshedCredential refreshed refreshToken st.idToken) := by
  have hrun := getCodexCliAuth_of_exchange (hD ▸ hst) hdue hrt hR
  obtain ⟨hDst, htok, -⟩ := readStoredAuth_eq_some hst
  have hdoc := updatedDocument_serializable
    (hDst ▸ serializable_of_parsed (readJsonFile_wf hD) hfin) htok refreshed.accessToken
    (refreshed.refreshToken.getD refreshToken) (refreshed.idToken.or st.idToken) env.isoNow
  have htarget : (getCodexCliAuth options env fs).2 (options.path env.homedir) =
      some (jsonFileBytes (.object (updatedDocument st.file st.tokens refreshed.accessToken
        (refreshed.refreshToken.getD refreshToken) (refreshed.idToken.or st.idToken) env.isoNow))) := by
    rw [hrun, finishRefresh_target]; simp [hwb, hok]
  have hread := readJsonFile_jsonFileBytes htarget hdoc
  refine ⟨_, updatedTokens st.tokens refreshed.accessToken (refreshed.refreshToken.getD refreshToken)
    (refreshed.idToken.or st.idToken), hread, ?_, ?_, fun key h₁ h₂ => ?_, ?_, ?_, ?_,
    fun key h₁ h₂ h₃ => ?_, ?_, ?_⟩
  · simp [field_updatedDocument]
  · simp [field_updatedDocument]
  · simp [field_updatedDocument, h₁, h₂]
  · simp [field_updatedTokens]
  · simp [field_updatedTokens]
  · simp [field_updatedTokens]
  · simp [field_updatedTokens, h₁, h₂, h₃]
  · rw [hrun, finishRefresh_fst]; simp [hwb, hok]
  · rw [hread]; exact credential_updatedDocument hst hrt (refreshTokens_nonblank hR) env.isoNow

/-- The sample refresh stores a document that reads back as `a2` and `r2`. -/
theorem sample_refresh_reads_back :
    (readStoredAuth (readJsonFile (getCodexCliAuth {} (sampleEnv none) (sampleFile (sampleDoc "1"))).2
      "/home/u/.codex/auth.json")).map StoredAuth.credential =
      some (refreshedCredential sampleRefreshed "r1" none) := by
  obtain ⟨_, _, -, -, -, -, -, -, -, -, -, h⟩ :=
    @refresh_persists_document {} (sampleEnv none) (sampleFile (sampleDoc "1"))
      (.object sampleStored.file) sampleStored "r1" sampleRefreshed
      rfl rfl rfl rfl rfl rfl rfl rfl
  exact h

set_option maxRecDepth 20000 in
/-- `n` is `1e400`: `JSON.parse` reads it as `Infinity`, and the refresh writes it back as `null`. -/
theorem refresh_turns_infinity_into_null :
    (readJsonFile (sampleFile (sampleDoc "1e400")) "/home/u/.codex/auth.json").bind (·.get "n") =
      some (.number .posInf) ∧
    (readJsonFile (getCodexCliAuth {} (sampleEnv none) (sampleFile (sampleDoc "1e400"))).2
      "/home/u/.codex/auth.json").bind (·.get "n") = some .null :=
  ⟨rfl, rfl⟩

/-! ## A call after a stored refresh -/

section AfterRefresh

variable {options : CodexCliAuthOptions} {env : AuthEnv} {fs : Fs} {D : JsValue} {st : StoredAuth}
  {refreshToken : String} {refreshed : TokenRefreshResponse}

/-- A stored refresh: the file reads back as the updated document. -/
theorem readJsonFile_after_refresh (hD : readJsonFile fs (options.path env.homedir) = some D)
    (hfin : D.wf JsNumber.isFinite) (hst : readStoredAuth (some D) = some st)
    (hdue : isExpiringSoon (extractJwtExpMs st.accessToken) env.now options.leeway = true)
    (hrt : st.refreshToken = some refreshToken)
    (hR : refreshTokens env.fetch options.endpoint options.clientId refreshToken = .ok refreshed)
    (hwb : options.writesBack = true) (hok : env.store.failure = none) :
    readJsonFile (getCodexCliAuth options env fs).2 (options.path env.homedir) =
      some (.object (updatedDocument st.file st.tokens refreshed.accessToken
        (refreshed.refreshToken.getD refreshToken) (refreshed.idToken.or st.idToken) env.isoNow)) := by
  obtain ⟨hDst, htok, -⟩ := readStoredAuth_eq_some hst
  have hdoc := updatedDocument_serializable
    (hDst ▸ serializable_of_parsed (readJsonFile_wf hD) hfin) htok refreshed.accessToken
    (refreshed.refreshToken.getD refreshToken) (refreshed.idToken.or st.idToken) env.isoNow
  refine readJsonFile_jsonFileBytes ?_ hdoc
  rw [getCodexCliAuth_of_exchange (hD ▸ hst) hdue hrt hR, finishRefresh_target]
  simp [hwb, hok]

/-- **Reading after a stored refresh.** After a refresh whose writeback succeeds, a later call
from the same home that finds the issued token not yet due returns the credential the refresh
returned, whatever the endpoint would answer, and writes nothing. -/
theorem read_after_refresh (hD : readJsonFile fs (options.path env.homedir) = some D)
    (hfin : D.wf JsNumber.isFinite) (hst : readStoredAuth (some D) = some st)
    (hdue : isExpiringSoon (extractJwtExpMs st.accessToken) env.now options.leeway = true)
    (hrt : st.refreshToken = some refreshToken)
    (hR : refreshTokens env.fetch options.endpoint options.clientId refreshToken = .ok refreshed)
    (hwb : options.writesBack = true) (hok : env.store.failure = none) (env' : AuthEnv)
    (hhome : env'.homedir = env.homedir)
    (hnd : isExpiringSoon (extractJwtExpMs refreshed.accessToken) env'.now options.leeway = false) :
    getCodexCliAuth options env' (getCodexCliAuth options env fs).2 =
      (.ok (some (refreshedCredential refreshed refreshToken st.idToken)),
        (getCodexCliAuth options env fs).2) := by
  have hread := readJsonFile_after_refresh hD hfin hst hdue hrt hR hwb hok
  have hcred := credential_updatedDocument hst hrt (refreshTokens_nonblank hR) env.isoNow
  rw [← hread, ← hhome] at hcred
  obtain ⟨st', hst', hc⟩ := Option.map_eq_some'.1 hcred
  have hacc : st'.accessToken = refreshed.accessToken := congrArg CodexCliAuth.accessToken hc
  rw [getCodexCliAuth_of_not_due hst' (.inl (hacc ▸ hnd)), hc]

end AfterRefresh

/-- The sample refresh, then a second call at the same time: `a2` carries no expiry, so the
second call returns `a2` and `r2` again. -/
theorem sample_read_after_refresh :
    getCodexCliAuth {} (sampleEnv none) (getCodexCliAuth {} (sampleEnv none) (sampleFile (sampleDoc "1"))).2 =
      (.ok (some (refreshedCredential sampleRefreshed "r1" none)),
        (getCodexCliAuth {} (sampleEnv none) (sampleFile (sampleDoc "1"))).2) :=
  @read_after_refresh {} (sampleEnv none) (sampleFile (sampleDoc "1")) (.object sampleStored.file)
    sampleStored "r1" sampleRefreshed rfl rfl rfl rfl rfl rfl rfl rfl (sampleEnv none) rfl rfl

/-! ## Where a returned credential comes from -/

/-- **A returned credential is current or could not be refreshed, or it was just issued.** The
stored credential comes back only when no refresh is due or no refresh token is stored;
otherwise the call returns what a successful exchange issued, or throws. -/
theorem returned_credential_source (options : CodexCliAuthOptions) (env : AuthEnv) (fs : Fs)
    {c : CodexCliAuth} (h : (getCodexCliAuth options env fs).1 = .ok (some c)) :
    ∃ st, readStoredAuth (readJsonFile fs (options.path env.homedir)) = some st ∧
      ((c = st.credential ∧ (isExpiringSoon (extractJwtExpMs st.accessToken) env.now options.leeway = false ∨
          st.refreshToken = none)) ∨
        ∃ refreshToken refreshed, st.refreshToken = some refreshToken ∧
          refreshTokens env.fetch options.endpoint options.clientId refreshToken = .ok refreshed ∧
          c = refreshedCredential refreshed refreshToken st.idToken) := by
  cases hst : readStoredAuth (readJsonFile fs (options.path env.homedir)) with
  | none => simp [getCodexCliAuth, hst] at h
  | some st =>
    refine ⟨st, rfl, ?_⟩
    by_cases hnd : isExpiringSoon (extractJwtExpMs st.accessToken) env.now options.leeway = false ∨
        st.refreshToken = none
    · rw [getCodexCliAuth_of_not_due hst hnd] at h
      cases h
      exact .inl ⟨rfl, hnd⟩
    · simp only [not_or, Bool.not_eq_false, ← ne_eq, Option.ne_none_iff_exists'] at hnd
      obtain ⟨hdue, refreshToken, hrt⟩ := hnd
      rw [getCodexCliAuth_of_due hst hdue hrt] at h
      cases hR : refreshTokens env.fetch options.endpoint options.clientId refreshToken with
      | error e => simp [hR] at h
      | ok refreshed =>
        simp only [hR, finishRefresh_fst] at h
        split at h
        · cases h
        · cases h
          exact .inr ⟨refreshToken, refreshed, hrt, hR, rfl⟩

/-- The sample call returns the credential the exchange issued. -/
theorem sample_returned_credential :
    (getCodexCliAuth {} (sampleEnv none) (sampleFile (sampleDoc "1"))).1 =
        .ok (some (refreshedCredential sampleRefreshed "r1" none)) ∧
      ∃ st, readStoredAuth (readJsonFile (sampleFile (sampleDoc "1")) "/home/u/.codex/auth.json") = some st ∧
        ((refreshedCredential sampleRefreshed "r1" none = st.credential ∧
            (isExpiringSoon (extractJwtExpMs st.accessToken) 0 120 = false ∨ st.refreshToken = none)) ∨
          ∃ refreshToken refreshed, st.refreshToken = some refreshToken ∧
            refreshTokens (sampleEnv none).fetch codexTokenUrl codexClientId refreshToken = .ok refreshed ∧
            refreshedCredential sampleRefreshed "r1" none = refreshedCredential refreshed refreshToken st.idToken) :=
  ⟨rfl, returned_credential_source {} (sampleEnv none) (sampleFile (sampleDoc "1")) rfl⟩

end CodexBridge
