import CodexBridge.Auth.Jwt
import CodexBridge.Auth.Store

/-!
# Refreshing the Codex CLI credential: `getCodexCliAuth`

The refreshing variant reads `~/.codex/auth.json` (or `options.authJsonPath`). It needs the
document to be a record with a record `tokens` holding a non-blank `access_token`. When the
token's decoded expiry is at most `max(0, leeway)` seconds away and a non-blank `refresh_token`
exists, it POSTs the refresh token to the token endpoint (`refreshTokens`). It then updates the
parsed document in place and, unless `writeBack` is `false`, writes it back with
`writeJsonFile`. Any exchange or writeback failure propagates as an exception.

The environment (`AuthEnv`) fixes what the code asks of the outside world: the home directory,
`Date.now()` and `new Date().toISOString()`, the response or rejection of `fetch` for each
request, and the outcome of each file operation.

**Theorem (`getCodexCliAuth_fs_or_finish`).** A run either leaves the file system as it was or
ends with the writeback of a refresh (`finishRefresh`).

**Theorem (`getCodexCliAuth_frame`).** A run changes no path but the credential file and its
temporary file, and the temporary file is left as it was, or removed, unless the run throws.
-/

namespace CodexBridge

/-! ## `refreshTokens` -/

/-- The request `refreshTokens` sends to the token endpoint. -/
structure TokenRequest where
  url : String
  method : String
  headers : List (String × String)
  form : List (String × String)
  deriving DecidableEq

/-- The form-encoded POST of a refresh token, fields in the order the code sets them. -/
def tokenRequest (tokenUrl clientId refreshToken : String) : TokenRequest where
  url := tokenUrl
  method := "POST"
  headers := [("Content-Type", "application/x-www-form-urlencoded"), ("Accept", "application/json")]
  form := [("client_id", clientId), ("grant_type", "refresh_token"), ("refresh_token", refreshToken),
    ("scope", "openid profile email")]

/-- A response: its status and its body as `resp.text()` decodes it. -/
structure HttpResponse where
  status : Nat
  text : String
  deriving DecidableEq

/-- `resp.ok`. -/
def HttpResponse.ok (resp : HttpResponse) : Bool := 200 ≤ resp.status && resp.status ≤ 299

/-- `TokenRefreshResponse`. -/
structure TokenRefreshResponse where
  accessToken : String
  refreshToken : Option String
  idToken : Option String
  expiresIn : Option Decimal
  tokenType : Option String
  deriving DecidableEq

/-- Why `getCodexCliAuth` throws: a rejection of `fetch` or of a file operation, with the
runtime's message; the `SyntaxError` of `JSON.parse`; or an `Error` the code throws. -/
inductive AuthError
  | rejected (message : String)
  | syntaxError
  | thrown (message : String)
  deriving DecidableEq

/-- `refreshTokens`. -/
def refreshTokens (fetch : TokenRequest → Except String HttpResponse)
    (tokenUrl clientId refreshToken : String) : Except AuthError TokenRefreshResponse :=
  match fetch (tokenRequest tokenUrl clientId refreshToken) with
  | .error message => .error (.rejected message)
  | .ok resp =>
    if !resp.ok then
      .error (.thrown ("Codex token refresh failed (" ++ toString resp.status ++ "): " ++ resp.text))
    else
      match jsonParse resp.text with
      | none => .error .syntaxError
      | some (.object json) =>
        match getOptionalString json "access_token" with
        | none => .error (.thrown "Codex token refresh response missing access_token")
        | some accessToken =>
          .ok { accessToken := accessToken
                refreshToken := getOptionalString json "refresh_token"
                idToken := getOptionalString json "id_token"
                expiresIn :=
                  match JsValue.field json "expires_in" with
                  | some (.number (.finite d)) => if 0 < d.mantissa then some d else none
                  | _ => none
                tokenType := getOptionalString json "token_type" }
      | some _ => .error (.thrown "Codex token refresh returned non-object JSON")

theorem getOptionalString_some {obj : List (String × JsValue)} {key s : String}
    (h : getOptionalString obj key = some s) :
    JsValue.field obj key = some (.string s) ∧ isBlank s = false := by
  unfold getOptionalString at h
  split at h
  · split_ifs at h with hb
    cases h
    exact ⟨‹_›, by simpa using hb⟩
  · cases h

theorem getOptionalString_of_field {obj : List (String × JsValue)} {key s : String}
    (h : JsValue.field obj key = some (.string s)) (hs : isBlank s = false) :
    getOptionalString obj key = some s := by
  simp [getOptionalString, h, hs]

/-- The tokens of a successful exchange are non-blank strings. -/
theorem refreshTokens_nonblank {fetch : TokenRequest → Except String HttpResponse}
    {tokenUrl clientId refreshToken : String} {refreshed : TokenRefreshResponse}
    (h : refreshTokens fetch tokenUrl clientId refreshToken = .ok refreshed) :
    isBlank refreshed.accessToken = false ∧
      (∀ t, refreshed.refreshToken = some t → isBlank t = false) ∧
      (∀ t, refreshed.idToken = some t → isBlank t = false) := by
  unfold refreshTokens at h
  split at h
  · cases h
  · split_ifs at h
    split at h
    · cases h
    · split at h
      · cases h
      · cases h
        exact ⟨(getOptionalString_some ‹_›).2, fun t ht => (getOptionalString_some ht).2,
          fun t ht => (getOptionalString_some ht).2⟩
    · cases h

/-- The exchange's failures, in the order `refreshTokens` meets them: `fetch` rejects, the
status is not 2xx, the body is not JSON, the JSON is not a record, or the record has no
non-blank `access_token`. -/
def ExchangeFailure (fetch : TokenRequest → Except String HttpResponse) (req : TokenRequest) : Prop :=
  (∃ message, fetch req = .error message) ∨
    ∃ resp, fetch req = .ok resp ∧
      (resp.ok = false ∨ jsonParse resp.text = none ∨
        (∃ v, jsonParse resp.text = some v ∧ ∀ fields, v ≠ .object fields) ∨
        ∃ json, jsonParse resp.text = some (.object json) ∧ getOptionalString json "access_token" = none)

theorem refreshTokens_error_of_failure {fetch : TokenRequest → Except String HttpResponse}
    {tokenUrl clientId refreshToken : String}
    (h : ExchangeFailure fetch (tokenRequest tokenUrl clientId refreshToken)) :
    ∃ e, refreshTokens fetch tokenUrl clientId refreshToken = .error e := by
  unfold refreshTokens
  rcases h with ⟨m, hm⟩ | ⟨resp, hresp, hbad⟩
  · exact ⟨_, by rw [hm]⟩
  rw [hresp]; dsimp only
  by_cases hok : resp.ok = false
  · exact ⟨_, by rw [hok]; rfl⟩
  rw [if_neg (by simpa using hok)]
  rcases hbad with hbad | hbad | ⟨v, hv, hno⟩ | ⟨json, hj, ha⟩
  · exact absurd hbad hok
  · exact ⟨_, by rw [hbad]⟩
  · cases v <;> first | exact absurd rfl (hno _) | exact ⟨_, by rw [hv]⟩
  · exact ⟨_, by rw [hj]; dsimp only; rw [ha]⟩

/-! ## `getCodexCliAuth` -/

/-- `CodexCliAuthOptions`. -/
structure CodexCliAuthOptions where
  authJsonPath : Option String := none
  refreshLeewaySeconds : Option Int := none
  oauthClientId : Option String := none
  tokenUrl : Option String := none
  writeBack : Option Bool := none

/-- `CODEX_CLIENT_ID`. -/
def codexClientId : String := "app_EMoamEEZ73f0CkXaXp7hrann"

/-- `CODEX_TOKEN_URL`. -/
def codexTokenUrl : String := "https://auth.openai.com/oauth/token"

/-- `DEFAULT_REFRESH_LEEWAY_SECONDS`. -/
def defaultRefreshLeewaySeconds : Int := 120

/-- `defaultAuthJsonPath`: `join(homedir(), ".codex", "auth.json")`. -/
def defaultAuthJsonPath (homedir : String) : String := homedir ++ "/.codex/auth.json"

namespace CodexCliAuthOptions

/-- `options.authJsonPath ?? defaultAuthJsonPath()`. -/
def path (options : CodexCliAuthOptions) (homedir : String) : String :=
  options.authJsonPath.getD (defaultAuthJsonPath homedir)

/-- `options.refreshLeewaySeconds ?? DEFAULT_REFRESH_LEEWAY_SECONDS`. -/
def leeway (options : CodexCliAuthOptions) : Int :=
  options.refreshLeewaySeconds.getD defaultRefreshLeewaySeconds

/-- `options.oauthClientId ?? CODEX_CLIENT_ID`. -/
def clientId (options : CodexCliAuthOptions) : String := options.oauthClientId.getD codexClientId

/-- `options.tokenUrl ?? CODEX_TOKEN_URL`. -/
def endpoint (options : CodexCliAuthOptions) : String := options.tokenUrl.getD codexTokenUrl

/-- `options.writeBack ?? true`. -/
def writesBack (options : CodexCliAuthOptions) : Bool := options.writeBack.getD true

end CodexCliAuthOptions

/-- `CodexCliAuth`. -/
structure CodexCliAuth where
  accessToken : String
  refreshToken : Option String
  idToken : Option String
  expiresAtMs : Option Millis
  deriving DecidableEq

/-- What `getCodexCliAuth` finds in the file: the document's members, those of its `tokens`
record, and the three tokens `getOptionalString` reads. -/
structure StoredAuth where
  file : List (String × JsValue)
  tokens : List (String × JsValue)
  accessToken : String
  refreshToken : Option String
  idToken : Option String
  deriving DecidableEq

/-- The checks before any decision: a record document, a record `tokens`, a non-blank access
token. -/
def readStoredAuth (file : Option JsValue) : Option StoredAuth :=
  match file with
  | some (.object file) =>
    match JsValue.field file "tokens" with
    | some (.object tokens) =>
      (getOptionalString tokens "access_token").map fun accessToken =>
        ⟨file, tokens, accessToken, getOptionalString tokens "refresh_token",
          getOptionalString tokens "id_token"⟩
    | _ => none
  | _ => none

/-- The credential returned without a refresh. -/
def StoredAuth.credential (st : StoredAuth) : CodexCliAuth :=
  ⟨st.accessToken, st.refreshToken, st.idToken, extractJwtExpMs st.accessToken⟩

/-- `isExpiringSoon`: a known expiry at most `max(0, leeway)` seconds after `now`. -/
def isExpiringSoon (expiresAtMs : Option Millis) (now leeway : Int) : Bool :=
  match expiresAtMs with
  | some (.ms t) => decide (t - now ≤ max 0 leeway * 1000)
  | _ => false

/-- The credential returned after an exchange: `refresh_token ?? refreshToken` and
`id_token ?? idToken`. -/
def refreshedCredential (refreshed : TokenRefreshResponse) (refreshToken : String)
    (idToken : Option String) : CodexCliAuth :=
  ⟨refreshed.accessToken, some (refreshed.refreshToken.getD refreshToken),
    refreshed.idToken.or idToken, extractJwtExpMs refreshed.accessToken⟩

/-- The `tokens` record after the in-place update: the three tokens, the id token only when there
is one (a non-blank string is truthy). -/
def updatedTokens (tokens : List (String × JsValue)) (nextAccessToken nextRefreshToken : String)
    (nextIdToken : Option String) : List (String × JsValue) :=
  let tokens := setField tokens "access_token" (.string nextAccessToken)
  let tokens := setField tokens "refresh_token" (.string nextRefreshToken)
  match nextIdToken with
  | some idToken => setField tokens "id_token" (.string idToken)
  | none => tokens

/-- The document after the in-place update: the updated `tokens`, then `last_refresh`. -/
def updatedDocument (file tokens : List (String × JsValue)) (nextAccessToken nextRefreshToken : String)
    (nextIdToken : Option String) (lastRefresh : String) : List (String × JsValue) :=
  setField (setField file "tokens" (.object (updatedTokens tokens nextAccessToken nextRefreshToken nextIdToken)))
    "last_refresh" (.string lastRefresh)

/-- Every member of the updated `tokens`. -/
theorem field_updatedTokens (tokens : List (String × JsValue)) (a r : String) (i : Option String)
    (key : String) :
    JsValue.field (updatedTokens tokens a r i) key =
      if key = "access_token" then some (.string a)
      else if key = "refresh_token" then some (.string r)
      else if key = "id_token" then (i.map JsValue.string).or (JsValue.field tokens key)
      else JsValue.field tokens key := by
  unfold updatedTokens
  cases i <;> split_ifs <;> subst_vars <;>
    simp_all [field_setField_self, field_setField_ne]

/-- Every member of the updated document. -/
theorem field_updatedDocument (file tokens : List (String × JsValue)) (a r : String)
    (i : Option String) (lastRefresh key : String) :
    JsValue.field (updatedDocument file tokens a r i lastRefresh) key =
      if key = "last_refresh" then some (.string lastRefresh)
      else if key = "tokens" then some (.object (updatedTokens tokens a r i))
      else JsValue.field file key := by
  unfold updatedDocument
  split_ifs <;> subst_vars <;> simp_all [field_setField_self, field_setField_ne]

/-- What `getCodexCliAuth` asks of the outside world. -/
structure AuthEnv where
  homedir : String
  /-- `Date.now()`. -/
  now : Int
  /-- `new Date().toISOString()`, after the exchange. -/
  isoNow : String
  fetch : TokenRequest → Except String HttpResponse
  store : StoreEnv

/-- The end of a refresh: `if (writeBack) await writeJsonFile(authJsonPath, file)`, then the new
credential. -/
def finishRefresh (store : StoreEnv) (writeBack : Bool) (path : String) (file : JsValue)
    (credential : CodexCliAuth) (fs : Fs) : Except AuthError (Option CodexCliAuth) × Fs :=
  if writeBack then
    match writeJsonFile store path file fs with
    | (.error message, fs) => (.error (.rejected message), fs)
    | (.ok (), fs) => (.ok (some credential), fs)
  else (.ok (some credential), fs)

/-- `getCodexCliAuth` (refreshing variant): the credential, `undefined` (`none`), or the
exception, and the file system after the call. -/
def getCodexCliAuth (options : CodexCliAuthOptions) (env : AuthEnv) (fs : Fs) :
    Except AuthError (Option CodexCliAuth) × Fs :=
  match readStoredAuth (readJsonFile fs (options.path env.homedir)) with
  | none => (.ok none, fs)
  | some st =>
    match isExpiringSoon (extractJwtExpMs st.accessToken) env.now options.leeway, st.refreshToken with
    | true, some refreshToken =>
      match refreshTokens env.fetch options.endpoint options.clientId refreshToken with
      | .error e => (.error e, fs)
      | .ok refreshed =>
        let nextAccessToken := refreshed.accessToken
        let nextRefreshToken := refreshed.refreshToken.getD refreshToken
        let nextIdToken := refreshed.idToken.or st.idToken
        finishRefresh env.store options.writesBack (options.path env.homedir)
          (.object (updatedDocument st.file st.tokens nextAccessToken nextRefreshToken nextIdToken
            env.isoNow))
          (refreshedCredential refreshed refreshToken st.idToken) fs
    | _, _ => (.ok (some st.credential), fs)

/-! ## The end of a refresh -/

section Finish

variable (store : StoreEnv) (writeBack : Bool) (path : String) (file : JsValue)
  (credential : CodexCliAuth) (fs : Fs)

/-- The refresh returns the credential unless the writeback runs and one of its operations
fails; then it throws that operation's error. -/
theorem finishRefresh_fst :
    (finishRefresh store writeBack path file credential fs).1 =
      match writeBack, store.failure with
      | true, some message => .error (.rejected message)
      | _, _ => .ok (some credential) := by
  have h := writeJsonFile_fst store path file fs
  unfold finishRefresh
  cases writeBack
  · rfl
  · revert h
    cases writeJsonFile store path file fs with
    | mk r fs' => cases hf : store.failure <;> cases r <;> simp_all

/-- The refresh leaves the target as it was unless the writeback runs and succeeds. -/
theorem finishRefresh_target :
    (finishRefresh store writeBack path file credential fs).2 path =
      if writeBack ∧ store.failure = none then some (jsonFileBytes file) else fs path := by
  have h := writeJsonFile_target store path file fs
  unfold finishRefresh
  cases writeBack
  · simp
  · revert h
    cases writeJsonFile store path file fs with
    | mk r fs' => cases r <;> simp_all

/-- The refresh touches the target and its temporary file only, and leaves the temporary file
as it was, or removed, unless it throws. -/
theorem finishRefresh_frame :
    (∀ q, q ≠ path → q ≠ tmpPath store path → (finishRefresh store writeBack path file credential fs).2 q = fs q) ∧
      ((finishRefresh store writeBack path file credential fs).2 (tmpPath store path) = fs (tmpPath store path) ∨
        (finishRefresh store writeBack path file credential fs).2 (tmpPath store path) = none ∨
        ∃ e, (finishRefresh store writeBack path file credential fs).1 = .error e) := by
  have h := writeJsonFile_frame store path file fs
  unfold finishRefresh
  cases writeBack
  · exact ⟨fun _ _ _ => rfl, .inl rfl⟩
  · revert h
    cases writeJsonFile store path file fs with
    | mk r fs' => cases r <;> simp_all

end Finish

/-! ## The two branches -/

section Branches

variable {options : CodexCliAuthOptions} {env : AuthEnv} {fs : Fs} {st : StoredAuth}

/-- Without a due refresh and a refresh token, the stored credential, and no file changed. -/
theorem getCodexCliAuth_of_not_due
    (hst : readStoredAuth (readJsonFile fs (options.path env.homedir)) = some st)
    (h : isExpiringSoon (extractJwtExpMs st.accessToken) env.now options.leeway = false ∨
      st.refreshToken = none) :
    getCodexCliAuth options env fs = (.ok (some st.credential), fs) := by
  rcases h with h | h <;> simp [getCodexCliAuth, hst, h]

/-- A due refresh with a refresh token runs the exchange and, on success, finishes the refresh. -/
theorem getCodexCliAuth_of_due {refreshToken : String}
    (hst : readStoredAuth (readJsonFile fs (options.path env.homedir)) = some st)
    (hdue : isExpiringSoon (extractJwtExpMs st.accessToken) env.now options.leeway = true)
    (hrt : st.refreshToken = some refreshToken) :
    getCodexCliAuth options env fs =
      match refreshTokens env.fetch options.endpoint options.clientId refreshToken with
      | .error e => (.error e, fs)
      | .ok refreshed =>
        finishRefresh env.store options.writesBack (options.path env.homedir)
          (.object (updatedDocument st.file st.tokens refreshed.accessToken
            (refreshed.refreshToken.getD refreshToken) (refreshed.idToken.or st.idToken) env.isoNow))
          (refreshedCredential refreshed refreshToken st.idToken) fs := by
  simp only [getCodexCliAuth, hst, hdue, hrt]

/-- **Every run either leaves the file system as it was or finishes a refresh.** -/
theorem getCodexCliAuth_fs_or_finish (options : CodexCliAuthOptions) (env : AuthEnv) (fs : Fs) :
    (getCodexCliAuth options env fs).2 = fs ∨
      ∃ file credential, getCodexCliAuth options env fs =
        finishRefresh env.store options.writesBack (options.path env.homedir) file credential fs := by
  unfold getCodexCliAuth
  split
  · exact .inl rfl
  · split
    · split
      · exact .inl rfl
      · exact .inr ⟨_, _, rfl⟩
    · exact .inl rfl

/-- **What a run touches.** No path but the credential file and its temporary file, and the
temporary file is left as it was, or removed, unless the run throws. -/
theorem getCodexCliAuth_frame (options : CodexCliAuthOptions) (env : AuthEnv) (fs : Fs) :
    (∀ q, q ≠ options.path env.homedir → q ≠ tmpPath env.store (options.path env.homedir) →
      (getCodexCliAuth options env fs).2 q = fs q) ∧
    ((getCodexCliAuth options env fs).2 (tmpPath env.store (options.path env.homedir)) =
        fs (tmpPath env.store (options.path env.homedir)) ∨
      (getCodexCliAuth options env fs).2 (tmpPath env.store (options.path env.homedir)) = none ∨
      ∃ e, (getCodexCliAuth options env fs).1 = .error e) := by
  rcases getCodexCliAuth_fs_or_finish options env fs with h | ⟨file, credential, h⟩
  · rw [h]
    exact ⟨fun _ _ _ => rfl, .inl rfl⟩
  · rw [h]
    exact finishRefresh_frame ..

/-- After a successful exchange the run finishes the refresh. -/
theorem getCodexCliAuth_of_exchange {refreshToken : String} {refreshed : TokenRefreshResponse}
    (hst : readStoredAuth (readJsonFile fs (options.path env.homedir)) = some st)
    (hdue : isExpiringSoon (extractJwtExpMs st.accessToken) env.now options.leeway = true)
    (hrt : st.refreshToken = some refreshToken)
    (hR : refreshTokens env.fetch options.endpoint options.clientId refreshToken = .ok refreshed) :
    getCodexCliAuth options env fs =
      finishRefresh env.store options.writesBack (options.path env.homedir)
        (.object (updatedDocument st.file st.tokens refreshed.accessToken
          (refreshed.refreshToken.getD refreshToken) (refreshed.idToken.or st.idToken) env.isoNow))
        (refreshedCredential refreshed refreshToken st.idToken) fs := by
  rw [getCodexCliAuth_of_due hst hdue hrt, hR]

end Branches

end CodexBridge
