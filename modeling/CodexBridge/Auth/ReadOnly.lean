import CodexBridge.Auth.Refresh

/-!
# The read-only credential reader

The read-only module reads `~/.codex/auth.json` and never refreshes. Its `getOptionalString`,
`base64UrlDecodeToUtf8`, `extractJwtExpMs` and `readJsonFile` have the same text as the
refreshing module's, so they are those definitions here; its `isRecord` tests, like the
refreshing module's, are the matches on an object in `readStoredAuth`. Its own `getCodexCliAuth`
makes the refreshing reader's first checks: a record document, a record `tokens`, and a non-blank
`access_token`. It then returns that token and its expiry, unless the expiry is known and not
after `Date.now()`.

**Theorem (`getCodexCliAuth_eq`).** The read-only reader is the refreshing reader's
`readStoredAuth`, followed by the expiry test.

**Theorem (`readOnly_refreshing_agree`).** The read-only reader refuses exactly the tokens the
refreshing reader with no leeway would refresh. It returns the stored token wherever the
refreshing reader returns it because no refresh is due.

**Theorem (`exp_read_from_encoded_payload`).** Both copies of `extractJwtExpMs` read `e * 1000`
from a token `h.p.s`. Here `p` is the unpadded base64url encoding of the UTF-8 bytes of a JSON
text whose object's `exp` is a positive integer `e` with `e * 1000 < 2 ^ 53`, and `h` and `s`
hold no dot. Both copies of `base64UrlDecodeToUtf8` invert unpadded base64url for every input
length.
-/

namespace CodexBridge.ReadOnly

/-- The read-only module's `base64UrlDecodeToUtf8`: the refreshing module's text. -/
def base64UrlDecodeToUtf8 (data : String) : String := CodexBridge.base64UrlDecodeToUtf8 data

/-- The read-only module's `extractJwtExpMs`: the refreshing module's text. -/
def extractJwtExpMs (jwt : String) : Option Millis := CodexBridge.extractJwtExpMs jwt

/-- `CodexCliAuth` of the read-only module. -/
structure CodexCliAuth where
  accessToken : String
  expiresAtMs : Option Millis
  deriving DecidableEq

/-- `CodexCliAuthOptions` of the read-only module. -/
structure CodexCliAuthOptions where
  authJsonPath : Option String := none

/-- `getCodexCliAuth` of the read-only module, in the home directory `homedir`, with `Date.now()`
equal to `now`. -/
def getCodexCliAuth (options : CodexCliAuthOptions) (homedir : String) (now : Int) (fs : Fs) :
    Option CodexCliAuth :=
  let authJsonPath := options.authJsonPath.getD (defaultAuthJsonPath homedir)
  match readJsonFile fs authJsonPath with
  | some (.object file) =>
    match JsValue.field file "tokens" with
    | some (.object tokens) =>
      match getOptionalString tokens "access_token" with
      | some accessToken =>
        let expiresAtMs := extractJwtExpMs accessToken
        match expiresAtMs with
        | some (.ms t) => if t ≤ now then none else some ⟨accessToken, expiresAtMs⟩
        | _ => some ⟨accessToken, expiresAtMs⟩
      | none => none
    | _ => none
  | _ => none

/-- A known expiry at or before `now`; `Infinity` is after every time. -/
def expired (expiresAtMs : Option Millis) (now : Int) : Bool :=
  match expiresAtMs with
  | some (.ms t) => decide (t ≤ now)
  | _ => false

/-- **The same checks as the refreshing reader.** The read-only reader returns the token that
`readStoredAuth` finds, with its expiry, unless that expiry has passed. -/
theorem getCodexCliAuth_eq (options : CodexCliAuthOptions) (homedir : String) (now : Int) (fs : Fs) :
    getCodexCliAuth options homedir now fs =
      (readStoredAuth (readJsonFile fs (options.authJsonPath.getD (defaultAuthJsonPath homedir)))).bind
        fun st => if expired (extractJwtExpMs st.accessToken) now then none
          else some ⟨st.accessToken, extractJwtExpMs st.accessToken⟩ := by
  dsimp only [getCodexCliAuth]
  generalize readJsonFile fs (options.authJsonPath.getD (defaultAuthJsonPath homedir)) = file
  rcases file with _ | ⟨_ | _ | _ | _ | _ | file⟩ <;> try rfl
  dsimp only [readStoredAuth]
  generalize JsValue.field file "tokens" = tokens
  rcases tokens with _ | ⟨_ | _ | _ | _ | _ | tokens⟩ <;> try rfl
  dsimp only
  generalize getOptionalString tokens "access_token" = accessToken
  rcases accessToken with _ | accessToken
  · rfl
  · dsimp only [Option.map_some', Option.some_bind]
    generalize extractJwtExpMs accessToken = expiresAtMs
    rcases expiresAtMs with _ | ⟨t | _⟩ <;> simp [expired]

/-! ## Against the refreshing reader -/

/-- The read-only expiry test is the refreshing one's with no leeway. -/
theorem expired_eq_isExpiringSoon (expiresAtMs : Option Millis) (now : Int) :
    expired expiresAtMs now = isExpiringSoon expiresAtMs now 0 := by
  rcases expiresAtMs with _ | ⟨t | _⟩ <;> simp [expired, isExpiringSoon]

theorem isExpiringSoon_of_zero {expiresAtMs : Option Millis} {now : Int} (leeway : Int)
    (h : isExpiringSoon expiresAtMs now 0 = true) : isExpiringSoon expiresAtMs now leeway = true := by
  rcases expiresAtMs with _ | ⟨t | _⟩ <;> simp_all [isExpiringSoon]
  omega

/-- **The read-only reader against the refreshing one.** Both find no credential in the same
files. Of a stored credential, the read-only reader refuses exactly the tokens the refreshing
reader with no leeway finds due, so every token it refuses is due for the refreshing reader
whatever its leeway. And wherever the refreshing reader returns the stored credential because no
refresh is due, the read-only reader returns the same token and expiry. -/
theorem readOnly_refreshing_agree (options : CodexBridge.CodexCliAuthOptions) (env : AuthEnv) (fs : Fs) :
    (readStoredAuth (readJsonFile fs (options.path env.homedir)) = none →
      getCodexCliAuth ⟨options.authJsonPath⟩ env.homedir env.now fs = none ∧
        CodexBridge.getCodexCliAuth options env fs = (.ok none, fs)) ∧
    ∀ st, readStoredAuth (readJsonFile fs (options.path env.homedir)) = some st →
      (getCodexCliAuth ⟨options.authJsonPath⟩ env.homedir env.now fs = none ↔
        isExpiringSoon (extractJwtExpMs st.accessToken) env.now 0 = true) ∧
      (getCodexCliAuth ⟨options.authJsonPath⟩ env.homedir env.now fs = none →
        isExpiringSoon (extractJwtExpMs st.accessToken) env.now options.leeway = true) ∧
      (isExpiringSoon (extractJwtExpMs st.accessToken) env.now options.leeway = false →
        getCodexCliAuth ⟨options.authJsonPath⟩ env.homedir env.now fs =
          some ⟨st.accessToken, st.credential.expiresAtMs⟩ ∧
        CodexBridge.getCodexCliAuth options env fs = (.ok (some st.credential), fs)) := by
  have heq := getCodexCliAuth_eq ⟨options.authJsonPath⟩ env.homedir env.now fs
  simp only [expired_eq_isExpiringSoon] at heq
  change _ = (readStoredAuth (readJsonFile fs (options.path env.homedir))).bind _ at heq
  refine ⟨fun hnone => ⟨by rw [heq, hnone]; rfl, by simp [CodexBridge.getCodexCliAuth, hnone]⟩,
    fun st hst => ?_⟩
  rw [heq, hst, Option.some_bind]
  have hzero : isExpiringSoon (extractJwtExpMs st.accessToken) env.now options.leeway = false →
      isExpiringSoon (extractJwtExpMs st.accessToken) env.now 0 = false := fun h => by
    cases h0 : isExpiringSoon (extractJwtExpMs st.accessToken) env.now 0
    · rfl
    · rw [isExpiringSoon_of_zero _ h0] at h; cases h
  refine ⟨?_, fun h => ?_, fun h => ⟨?_, getCodexCliAuth_of_not_due hst (.inl h)⟩⟩
  · split_ifs with h <;> simp [h]
  · split_ifs at h with h0
    exact isExpiringSoon_of_zero _ h0
  · rw [if_neg (by simp [hzero h])]; rfl

/-! ## Both copies on a token with an encoded payload -/

/-- **`exp` read back from an encoded payload, by both copies.** -/
theorem exp_read_from_encoded_payload (h s payload : String) (hh : '.' ∉ h.toList)
    (hs : '.' ∉ s.toList) (fields : List (String × JsValue))
    (hp : jsonParse payload = some (.object fields)) (d : Decimal)
    (hexp : JsValue.field fields "exp" = some (.number (.finite d))) (e : Nat)
    (he : (d.mantissa : ℚ) * 10 ^ d.exponent = e) (hpos : 0 < e) (hsafe : e * 1000 < 2 ^ 53) :
    (CodexBridge.extractJwtExpMs (h ++ "." ++ base64UrlEncode (utf8Encode payload.toList) ++ "." ++ s) =
        some (.ms (e * 1000)) ∧
      extractJwtExpMs (h ++ "." ++ base64UrlEncode (utf8Encode payload.toList) ++ "." ++ s) =
        some (.ms (e * 1000))) ∧
    ∀ bytes, CodexBridge.base64UrlDecodeToUtf8 (base64UrlEncode bytes) = String.mk (utf8Decode bytes) ∧
      base64UrlDecodeToUtf8 (base64UrlEncode bytes) = String.mk (utf8Decode bytes) := by
  have hread := extractJwtExpMs_encoded hh hs hp hexp (Decimal.mantissa_pos_of_eq_nat he hpos)
  rw [expMillis_of_nat he hpos hsafe] at hread
  exact ⟨⟨hread, hread⟩, fun bytes =>
    ⟨base64UrlDecodeToUtf8_base64UrlEncode bytes, base64UrlDecodeToUtf8_base64UrlEncode bytes⟩⟩

/-- The payload `{"exp":1}` between the header `h` and the signature `s`: both copies read
`1000`. -/
theorem exp_read_from_sample_token :
    CodexBridge.extractJwtExpMs
        ("h" ++ "." ++ base64UrlEncode (utf8Encode "\x7b\"exp\":1\x7d".toList) ++ "." ++ "s") =
      some (.ms ((1 : Nat) * 1000)) ∧
    extractJwtExpMs ("h" ++ "." ++ base64UrlEncode (utf8Encode "\x7b\"exp\":1\x7d".toList) ++ "." ++ "s") =
      some (.ms ((1 : Nat) * 1000)) :=
  (exp_read_from_encoded_payload "h" "s" "\x7b\"exp\":1\x7d" (by decide) (by decide)
    [("exp", .number (.finite ⟨1, 0, Or.inl (by decide)⟩))] rfl ⟨1, 0, Or.inl (by decide)⟩ rfl 1
    (by norm_num) (by decide) (by decide)).1

end CodexBridge.ReadOnly
