/-
# S3Desk.Runner.Transport — `_request` and the three `request_*` helpers

`_request` (lines 70–156) builds a request with the API token, the optional profile id,
`Accept` and a JSON or raw body, performs one `urlopen`, and normalises how it can fail: an
`HTTPError` is logged (status, request id, `Retry-After`, the error codes of an
`{"error": {...}}` body, the body clipped to 4000 characters) and raised as an `HTTPFailure`
carrying those fields; a `URLError` becomes `RuntimeError("Network error …")`; anything else
propagates unchanged. `request_json`, `request_bytes` and `request_text` (lines 159–185) add the
2xx check and decode the body.

§2 states each helper as a pure function of the one reply it receives (`replyResult`,
`jsonResult`, …): the spec lemmas `request_apply` and `requestJson_apply` say that a call is one
exchange, the lines the reply makes it log, and that function's outcome. Every later module
reasons through these lemmas and never unfolds the helpers.
-/
import S3Desk.Runner.Run

namespace S3Desk.Runner

open Json

/-! ## §1 — the code -/

/-- `bool(x)` of an optional `str`. -/
def truthyStr : Option String → Bool
  | some s => s ≠ ""
  | none => false

/-- `a or b` on optional `str`s. -/
def pyOr (a b : Option String) : Option String := if truthyStr a then a else b

/-- `BASE_URL` (line 10), from the value of the environment variable. -/
def baseUrl (env : Option String) : String := Py.rstripBy (· == '/') (env.getD "http://localhost:8080")

/-- `API_TOKEN` (line 11). -/
def apiToken (env : Option String) : String := env.getD "change-me"

/-- Lines 80–97: the request `_request` sends, given `BASE_URL` and `API_TOKEN` as read from
the environment. -/
def buildRequest (baseEnv tokenEnv : Option String) (method path : String) (profileId : Json)
    (jsonBody : Option Json) (body : Option (List UInt8)) (contentType accept : Option String) :
    Request :=
  let headers := [("X-Api-Token", apiToken tokenEnv)]
  let headers := if profileId.truthy then headers ++ [("X-Profile-Id", pyStr profileId)] else headers
  let headers := if truthyStr accept then headers ++ [("Accept", accept.getD "")] else headers
  let (data, headers) : Payload × List (String × String) :=
    match jsonBody, body with
    | some v, _ => (.json v, headers ++ [("Content-Type", "application/json")])
    | none, some b =>
      (.bytes b, if truthyStr contentType then headers ++ [("Content-Type", contentType.getD "")]
        else headers)
    | none, none => (.none, headers)
  ⟨method, baseUrl baseEnv ++ path, headers, data, 30⟩

/-- `d[k] = v` on a `str`-valued dict. -/
def setHeader : List (String × String) → String → String → List (String × String)
  | [], k, v => [(k, v)]
  | (k', v') :: d, k, v => if k' = k then (k, v) :: d else (k', v') :: setHeader d k v

/-- `{k: v for k, v in headers.items()}`: a repeated name keeps its first place and its last
value. -/
def headerDict (hs : List (String × String)) : List (String × String) :=
  hs.foldl (fun d kv => setHeader d kv.1 kv.2) []

/-- `headers.get(k)`. -/
def headerGet (d : List (String × String)) (k : String) : Option String :=
  (d.find? (·.1 == k)).map (·.2)

/-- Lines 115–127: `err_code`, `norm_code` and `norm_retryable` of an error body. -/
def errorFields : Except Exn Json → Json × Json × Json
  | .ok (.obj parsed) =>
    match Dict.get parsed "error" with
    | .obj er =>
      match Dict.get er "normalizedError" with
      | .obj norm => (Dict.get er "code", Dict.get norm "code", Dict.get norm "retryable")
      | _ => (Dict.get er "code", .null, .null)
    | _ => (.null, .null, .null)
  | _ => (.null, .null, .null)

/-- Line 141: the body as logged, at most 4000 characters. -/
def clipBody (decoded : String) : String :=
  if decoded.length ≤ 4000 then decoded else String.mk (decoded.toList.take 4000) ++ "...<clipped>"

/-- Lines 104–155 on an `HTTPError`: the lines `_request` logs and the `HTTPFailure` it
raises. -/
def httpErrorReport (method path : String) (code : Nat) (headers : Option (List (String × String)))
    (body : Body) : List String × HTTPFailure :=
  let respHeaders := match headers with
    | some hs => headerDict hs
    | none => []
  let retryAfter := headerGet respHeaders "Retry-After"
  let requestId := pyOr (pyOr (headerGet respHeaders "X-Request-Id")
    (headerGet respHeaders "X-Request-ID")) (headerGet respHeaders "X-Amzn-Requestid")
  let decoded := body.text
  let (errCode, normCode, normRetryable) := errorFields body.textJson
  let lines := [s!"HTTP {code} {method} {path}"] ++
    (if truthyStr requestId then ["  X-Request-Id: " ++ optStr requestId] else []) ++
    (if truthyStr retryAfter then ["  Retry-After: " ++ optStr retryAfter] else []) ++
    (if errCode.truthy then ["  ErrorResponse.code: " ++ pyStr errCode] else []) ++
    (if normCode ≠ .null then
      ["  ErrorResponse.normalizedError: " ++ pyStr normCode ++ " retryable=" ++ pyStr normRetryable]
     else []) ++
    (if decoded ≠ "" then ["  Body: " ++ clipBody decoded] else [])
  (lines, ⟨code, method, path, respHeaders, some decoded, errCode, normCode, normRetryable,
    retryAfter, requestId⟩)

/-- `log` each line in turn. -/
def logAll {σ : Type} : List String → Run σ Unit
  | [] => pure ()
  | l :: ls => do log l; logAll ls

section Code

variable {σ : Type}

/-- `_request(method, path, …)` (lines 70–156): the status, the header dict and the body of a
2xx-or-other response. -/
def request (method path : String) (profileId : Json) (jsonBody : Option Json)
    (body : Option (List UInt8)) (contentType accept : Option String) :
    Run σ (Nat × List (String × String) × Body) := do
  let baseEnv ← getenv "BASE_URL"
  let tokenEnv ← getenv "API_TOKEN"
  let reply ← urlopen (buildRequest baseEnv tokenEnv method path profileId jsonBody body contentType accept)
  match reply with
  | .response status hs respBody => pure (status, headerDict hs, respBody)
  | .httpError code _ hs errBody =>
    let report := httpErrorReport method path code hs errBody
    do logAll report.1; throw (.http report.2)
  | .urlError text => throw (runtimeError s!"Network error {method} {path}: {text}")
  | .raised e => throw e

/-- The 2xx check shared by the three helpers (lines 162–163, 172–173, 179–180). -/
def checkStatus (method path : String) (status : Nat) : Run σ Unit :=
  if status < 200 ∨ 300 ≤ status then throw (runtimeError s!"Unexpected HTTP {status} {method} {path}")
  else pure ()

/-- `request_json(method, path, profile_id=…, json_body=…)` (lines 159–167). -/
def requestJson (method path : String) (profileId : Json) (jsonBody : Option Json) : Run σ Json := do
  let (status, _, body) ← request method path profileId jsonBody none none (some "application/json")
  checkStatus method path status
  if body.bytes.isEmpty then pure (.obj [])
  else match body.json with
    | .ok v => pure v
    | .error e => throw e

/-- `request_bytes(method, path, profile_id=…)` (lines 170–174). -/
def requestBytes (method path : String) (profileId : Json) : Run σ (List UInt8) := do
  let (status, _, body) ← request method path profileId none none none none
  checkStatus method path status
  pure body.bytes

/-- `request_text(method, path, profile_id=…)` (lines 177–185); decoding with
`errors="replace"` never raises, so the `except` branch is dead. -/
def requestText (method path : String) (profileId : Json) : Run σ String := do
  let (status, _, body) ← request method path profileId none none none (some "text/plain")
  checkStatus method path status
  pure body.text

end Code

/-! ## §2 — each helper as a function of its reply -/

/-- What `_request` does with a reply: its outcome and the lines it logs. -/
def replyResult (method path : String) :
    Reply → Outcome (Nat × List (String × String) × Body) × List String
  | .response status hs body => (.ok (status, headerDict hs, body), [])
  | .httpError code _ hs body =>
    (.error (.http (httpErrorReport method path code hs body).2),
      (httpErrorReport method path code hs body).1)
  | .urlError text => (.error (runtimeError s!"Network error {method} {path}: {text}"), [])
  | .raised e => (.error e, [])

/-- The 2xx check as an outcome. -/
def statusResult (method path : String) (status : Nat) : Outcome Unit :=
  if status < 200 ∨ 300 ≤ status then .error (runtimeError s!"Unexpected HTTP {status} {method} {path}")
  else .ok ()

/-- What `request_json` makes of the response `_request` returned. -/
def jsonResult (method path : String) (r : Nat × List (String × String) × Body) : Outcome Json :=
  (statusResult method path r.1).bind fun _ =>
    if r.2.2.bytes.isEmpty then .ok (.obj [])
    else match r.2.2.json with
      | .ok v => .ok v
      | .error e => .error e

/-- What `request_text` makes of the response `_request` returned. -/
def textResult (method path : String) (r : Nat × List (String × String) × Body) : Outcome String :=
  (statusResult method path r.1).bind fun _ => .ok r.2.2.text

/-- What `request_bytes` makes of the response `_request` returned. -/
def bytesResult (method path : String) (r : Nat × List (String × String) × Body) :
    Outcome (List UInt8) :=
  (statusResult method path r.1).bind fun _ => .ok r.2.2.bytes

theorem replyResult_ne_diverge (method path : String) (r : Reply) :
    (replyResult method path r).1 ≠ .diverge := by
  cases r <;> simp [replyResult]

theorem statusResult_ne_diverge (method path : String) (status : Nat) :
    statusResult method path status ≠ .diverge := by
  unfold statusResult; split_ifs <;> simp

theorem Outcome.bind_ne_diverge {α β : Type} {o : Outcome α} {f : α → Outcome β}
    (ho : o ≠ .diverge) (hf : ∀ a, f a ≠ .diverge) : o.bind f ≠ .diverge := by
  cases o <;> simp_all [Outcome.bind]

theorem textResult_ne_diverge (method path : String) (r : Nat × List (String × String) × Body) :
    textResult method path r ≠ .diverge :=
  Outcome.bind_ne_diverge (statusResult_ne_diverge _ _ _) fun _ => by simp

theorem jsonResult_ne_diverge (method path : String) (r : Nat × List (String × String) × Body) :
    jsonResult method path r ≠ .diverge :=
  Outcome.bind_ne_diverge (statusResult_ne_diverge _ _ _) fun _ => by
    split
    · simp
    · split <;> simp

/-- A `200` carrying a JSON object decodes to it. -/
theorem jsonResult_ofJson_obj (method path : String) (hs : List (String × String)) (d : Dict) :
    jsonResult method path (200, hs, Body.ofJson (.obj d)) = .ok (.obj d) := by
  simp only [jsonResult, statusResult, Outcome.bind, Body.ofJson]
  rfl

/-- A `200` with an empty body decodes to `{}`. -/
theorem jsonResult_empty (method path : String) (hs : List (String × String)) :
    jsonResult method path (200, hs, Body.empty) = .ok (.obj []) := by
  simp [jsonResult, statusResult, Outcome.bind, Body.empty]

/-- The request `request_json` sends. -/
def jsonRequest {σ : Type} (E : Env σ) (method path : String) (profileId : Json)
    (jsonBody : Option Json) : Request :=
  buildRequest (E.environ "BASE_URL") (E.environ "API_TOKEN") method path profileId jsonBody none none
    (some "application/json")

@[simp] theorem buildRequest_method (baseEnv tokenEnv : Option String) (method path : String)
    (profileId : Json) (jsonBody : Option Json) (body : Option (List UInt8))
    (contentType accept : Option String) :
    (buildRequest baseEnv tokenEnv method path profileId jsonBody body contentType accept).method =
      method := rfl

@[simp] theorem buildRequest_url (baseEnv tokenEnv : Option String) (method path : String)
    (profileId : Json) (jsonBody : Option Json) (body : Option (List UInt8))
    (contentType accept : Option String) :
    (buildRequest baseEnv tokenEnv method path profileId jsonBody body contentType accept).url =
      baseUrl baseEnv ++ path := rfl

@[simp] theorem buildRequest_data_json (baseEnv tokenEnv : Option String) (method path : String)
    (profileId : Json) (v : Json) (body : Option (List UInt8)) (contentType accept : Option String) :
    (buildRequest baseEnv tokenEnv method path profileId (some v) body contentType accept).data =
      .json v := rfl

section Spec

variable {σ : Type}

@[simp] theorem logAll_apply (ls : List String) (E : Env σ) (w : World σ) :
    logAll ls E w = (.ok (), { w with out := w.out ++ ls }) := by
  induction ls generalizing w with
  | nil => simp [logAll]
  | cons l ls ih => simp [logAll, ih]

/-- `_request` is one exchange; the reply decides the rest. -/
theorem request_apply (method path : String) (profileId : Json) (jsonBody : Option Json)
    (body : Option (List UInt8)) (contentType accept : Option String) (E : Env σ) (w : World σ) :
    let x := E.exchange (buildRequest (E.environ "BASE_URL") (E.environ "API_TOKEN") method path
      profileId jsonBody body contentType accept) w.ext
    request method path profileId jsonBody body contentType accept E w =
      ((replyResult method path x.1).1, ⟨x.2, w.out ++ (replyResult method path x.1).2⟩) := by
  intro x
  simp only [request, Run.bind_apply, getenv_apply, urlopen_apply]
  rcases x.1 with _ | _ | _ | _ <;> simp [replyResult]

theorem checkStatus_apply (method path : String) (status : Nat) (E : Env σ) (w : World σ) :
    checkStatus method path status E w = (statusResult method path status, w) := by
  unfold checkStatus statusResult
  split_ifs <;> rfl

/-- `request_json` is one exchange, the lines `_request` logs for its reply, and
`jsonResult`. -/
theorem requestJson_apply (method path : String) (profileId : Json) (jsonBody : Option Json)
    (E : Env σ) (w : World σ) :
    let x := E.exchange (jsonRequest E method path profileId jsonBody) w.ext
    requestJson method path profileId jsonBody E w =
      ((replyResult method path x.1).1.bind (jsonResult method path),
        ⟨x.2, w.out ++ (replyResult method path x.1).2⟩) := by
  refine Run.bind_of_stateless (fun r w => ?_) (request_apply ..)
  obtain ⟨status, hs, body⟩ := r
  simp only [Run.bind_apply, checkStatus_apply, jsonResult]
  rcases statusResult method path status with _ | _ | _ <;> simp only [Outcome.bind]
  split
  · rfl
  · rcases body.json <;> rfl

/-- `request_text` is one exchange, the lines `_request` logs for its reply, and
`textResult`. -/
theorem requestText_apply (method path : String) (profileId : Json) (E : Env σ) (w : World σ) :
    let x := E.exchange (buildRequest (E.environ "BASE_URL") (E.environ "API_TOKEN") method path
      profileId none none none (some "text/plain")) w.ext
    requestText method path profileId E w =
      ((replyResult method path x.1).1.bind (textResult method path),
        ⟨x.2, w.out ++ (replyResult method path x.1).2⟩) := by
  refine Run.bind_of_stateless (fun r w => ?_) (request_apply ..)
  simp only [Run.bind_apply, checkStatus_apply, textResult]
  rcases statusResult method path r.1 with _ | _ | _ <;> rfl

/-- `request_bytes` is one exchange, the lines `_request` logs for its reply, and
`bytesResult`. -/
theorem requestBytes_apply (method path : String) (profileId : Json) (E : Env σ) (w : World σ) :
    let x := E.exchange (buildRequest (E.environ "BASE_URL") (E.environ "API_TOKEN") method path
      profileId none none none none) w.ext
    requestBytes method path profileId E w =
      ((replyResult method path x.1).1.bind (bytesResult method path),
        ⟨x.2, w.out ++ (replyResult method path x.1).2⟩) := by
  refine Run.bind_of_stateless (fun r w => ?_) (request_apply ..)
  simp only [Run.bind_apply, checkStatus_apply, bytesResult]
  rcases statusResult method path r.1 with _ | _ | _ <;> rfl

end Spec

end S3Desk.Runner
