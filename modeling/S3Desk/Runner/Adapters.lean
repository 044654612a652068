/-
# S3Desk.Runner.Adapters — the three bucket-policy adapters

`exercise_bucket_policy` (S3, lines 246–299), `exercise_azure_container_policy` (Azure,
lines 304–363) and `exercise_gcs_iam_policy` (GCS, lines 366–480) drive one policy through
GET, static validation, PUT, GET, and DELETE (a reset on Azure, an expected rejection on GCS),
checking the shape of each answer. The S3 and Azure adapters raise on the first unexpected
answer. The GCS adapter wraps each request in `try`: outside strict mode (`E2E_GCS_IAM` unset
or falsy) a failed request logs a skip and the adapter returns; in strict mode `skip`
re-raises the very exception.

`attempt m` is `try: x = m except Exception as e: …`, the shape of every `try` block of the
GCS adapter, so each of its stages reads as the source does. The edit of the GCS policy is
`modifiedPolicy` of `S3Desk.Policy.GcsEdit`.
-/
import S3Desk.Runner.Transport
import S3Desk.Policy.GcsEdit

namespace S3Desk.Runner

open Json Policy

/-- `f"/buckets/{bucket}/policy"`. -/
def policyPath (bucket : String) : String := "/buckets/" ++ bucket ++ "/policy"

/-- `isinstance(v, dict) and v.get("ok") is False`: the static validation said no. -/
def validationRejected : Json → Bool
  | .obj d => Dict.get d "ok" = .bool false
  | _ => false

/-- `isinstance(v, dict) and v.get(key) is b`. -/
def flagIs (key : String) (b : Bool) : Json → Bool
  | .obj d => Dict.get d key = .bool b
  | _ => false

section Code

variable {σ α : Type}

/-- `try: x = m except Exception as e: …`: the value, or the exception caught. -/
def attempt (m : Run σ α) : Run σ (Except Exn α) :=
  tryCatch (do let a ← m; pure (.ok a)) fun e => pure (.error e)

/-! ## §1 — S3 -/

/-- The policy document the S3 adapter sets (lines 260–271). -/
def s3PolicyDoc (bucket : String) : Json :=
  .obj [("Version", .str "2012-10-17"),
    ("Statement", .arr [.obj [("Sid", .str "PublicReadGetObject"), ("Effect", .str "Allow"),
      ("Principal", .str "*"), ("Action", .arr [.str "s3:GetObject"]),
      ("Resource", .arr [.str ("arn:aws:s3:::" ++ bucket ++ "/*")])]])]

/-- Lines 273–276: the static validation request, raising when it answers `ok: false`. -/
def validatePolicy (profileId : Json) (bucket : String) (doc : Json) : Run σ Unit := do
  let v ← requestJson "POST" (policyPath bucket ++ "/validate") profileId (some (.obj [("policy", doc)]))
  if validationRejected v then throw (runtimeError ("Static validation failed: " ++ pyRepr v))
  else pure ()

/-- `exercise_bucket_policy(profile_id, bucket)` (lines 246–299). -/
def exerciseBucketPolicy (profileId : Json) (bucket : String) : Run σ Unit := do
  log "Bucket policy: GET (initial)"
  let initial ← requestJson "GET" (policyPath bucket) profileId none
  match initial with
  | .obj d =>
    if !isStr bucket (Dict.get d "bucket") then
      throw (runtimeError ("Unexpected bucket in policy response: " ++ pyRepr initial))
    else if !Dict.contains d "exists" then
      throw (runtimeError ("Missing " ++ squote ++ "exists" ++ squote ++ " in policy response: " ++
        pyRepr initial))
    else do
      log "Bucket policy: VALIDATE (static)"
      validatePolicy profileId bucket (s3PolicyDoc bucket)
      log "Bucket policy: PUT"
      let _ ← requestJson "PUT" (policyPath bucket) profileId (some (.obj [("policy", s3PolicyDoc bucket)]))
      log "Bucket policy: GET (after put)"
      let afterPut ← requestJson "GET" (policyPath bucket) profileId none
      if !flagIs "exists" true afterPut then
        throw (runtimeError ("Policy should exist after PUT: " ++ pyRepr afterPut))
      else do
        log "Bucket policy: DELETE"
        let _ ← requestJson "DELETE" (policyPath bucket) profileId none
        log "Bucket policy: GET (after delete)"
        let afterDel ← requestJson "GET" (policyPath bucket) profileId none
        if !flagIs "exists" false afterDel then
          throw (runtimeError ("Policy should not exist after DELETE: " ++ pyRepr afterDel))
        else log "Bucket policy OK"
  | _ => throw (runtimeError ("Unexpected bucket policy response: " ++ pyRepr initial))

/-! ## §2 — Azure -/

/-- The container policy the Azure adapter sets (lines 318–326). -/
def azurePolicyDoc : Json :=
  .obj [("publicAccess", .str "container"),
    ("storedAccessPolicies", .arr [.obj [("id", .str "e2e-read"), ("permission", .str "r")]])]

/-- Line 345: some stored access policy has the id `e2e-read`. -/
def hasE2eRead : Json → Bool
  | .arr xs => xs.any fun x => match x with
    | .obj d => Dict.get d "id" = .str "e2e-read"
    | _ => false
  | _ => false

/-- Lines 337–346: the checks on the policy read back after the PUT. -/
def checkAzureAfterPut (afterPut : Json) : Run σ Unit :=
  if !flagIs "exists" true afterPut then
    throw (runtimeError ("Policy should exist after PUT: " ++ pyRepr afterPut))
  else
    match afterPut with
    | .obj ad =>
      match Dict.get ad "policy" with
      | .obj pol =>
        if Dict.get pol "publicAccess" ≠ .str "container" then
          throw (runtimeError ("Expected publicAccess=container: " ++ pyRepr afterPut))
        else if !hasE2eRead (Dict.get pol "storedAccessPolicies") then
          throw (runtimeError ("Expected stored access policy e2e-read: " ++ pyRepr afterPut))
        else pure ()
      | _ => throw (runtimeError ("Expected policy object: " ++ pyRepr afterPut))
    | _ => throw (runtimeError ("Expected policy object: " ++ pyRepr afterPut))

/-- Lines 352–361: the checks on the policy read back after the reset. A `storedAccessPolicies`
that is neither a list nor `None` passes. -/
def checkAzureAfterReset (afterReset : Json) : Run σ Unit :=
  let pol2 := match afterReset with
    | .obj d => Dict.get d "policy"
    | _ => .null
  match pol2 with
  | .obj pol =>
    if Dict.get pol "publicAccess" ≠ .str "private" then
      throw (runtimeError ("Expected publicAccess=private after reset: " ++ pyRepr afterReset))
    else
      match Dict.get pol "storedAccessPolicies" with
      | .arr (_ :: _) =>
        throw (runtimeError ("Expected storedAccessPolicies=[] after reset: " ++ pyRepr afterReset))
      | _ => pure ()
  | _ => throw (runtimeError ("Expected policy object after reset: " ++ pyRepr afterReset))

/-- `exercise_azure_container_policy(profile_id, bucket)` (lines 304–363). -/
def exerciseAzureContainerPolicy (profileId : Json) (bucket : String) : Run σ Unit := do
  log "Azure container policy: GET (initial)"
  let initial ← requestJson "GET" (policyPath bucket) profileId none
  match initial with
  | .obj _ => do
    log "Azure container policy: VALIDATE (static)"
    validatePolicy profileId bucket azurePolicyDoc
    log "Azure container policy: PUT"
    let _ ← requestJson "PUT" (policyPath bucket) profileId (some (.obj [("policy", azurePolicyDoc)]))
    log "Azure container policy: GET (after put)"
    let afterPut ← requestJson "GET" (policyPath bucket) profileId none
    checkAzureAfterPut afterPut
    log "Azure container policy: RESET (DELETE)"
    let _ ← requestJson "DELETE" (policyPath bucket) profileId none
    log "Azure container policy: GET (after reset)"
    let afterReset ← requestJson "GET" (policyPath bucket) profileId none
    checkAzureAfterReset afterReset
    log "Azure container policy OK"
  | _ => throw (runtimeError ("Unexpected bucket policy response: " ++ pyRepr initial))

/-! ## §3 — GCS -/

/-- Line 373: `E2E_GCS_IAM` turns on strict mode. -/
def strictMode (env : Option String) : Bool := Py.lower (env.getD "") ∈ ["1", "true", "yes", "y"]

/-- `skip(where, e)` (lines 375–383): re-raise in strict mode, else log why the scenario is
skipped. -/
def skip (required : Bool) (stage : String) (e : Exn) : Run σ Unit :=
  if required then throw e
  else match e with
    | .http f => log ("Skipping GCS IAM policy scenario (" ++ stage ++ "): status=" ++ toString f.status ++
        " code=" ++ pyStr f.errorCode ++ " normalized=" ++ pyStr f.normalizedCode ++ " retryAfter=" ++
        optStr f.retryAfter)
    | e => log ("Skipping GCS IAM policy scenario (" ++ stage ++ "): " ++ e.str)

/-- The `{"policy": doc}` body of the GCS adapter's requests. -/
def policyBody (doc : Dict) : Option Json := some (.obj [("policy", .obj doc)])

/-- Lines 465–478: the expected rejection of DELETE. -/
def gcsDelete (profileId : Json) (bucket : String) : Run σ Unit := do
  log "GCS IAM policy: DELETE (expected to fail)"
  match ← attempt (requestJson "DELETE" (policyPath bucket) profileId none) with
  | .ok _ => throw (runtimeError "Expected GCS IAM delete to fail")
  | .error (.http f) =>
    if !isStr "bucket_policy_delete_unsupported" f.errorCode then
      throw (runtimeError ("Expected bucket_policy_delete_unsupported, got " ++ pyStr f.errorCode ++
        " (status=" ++ toString f.status ++ ")"))
    else pure ()
  | .error e => throw e

/-- Lines 455–480: restore the original policy (best effort outside strict mode), then check
that DELETE is rejected. -/
def gcsRestore (required : Bool) (profileId : Json) (bucket : String) (original : Dict) :
    Run σ Unit := do
  log "GCS IAM policy: RESTORE"
  match ← attempt (requestJson "PUT" (policyPath bucket) profileId (policyBody original)) with
  | .ok _ => pure ()
  | .error e =>
    if required then throw e else log ("GCS IAM policy restore failed (ignored): " ++ e.str)
  gcsDelete profileId bucket
  log "GCS IAM policy OK"

/-- Lines 434–480: validate and PUT the edited policy, read it back, then restore. -/
def gcsApply (required : Bool) (profileId : Json) (bucket : String) (original : Dict) :
    Run σ Unit := do
  let modified := modifiedPolicy original
  log "GCS IAM policy: VALIDATE (static)"
  match ← attempt (validatePolicy profileId bucket (.obj modified)) with
  | .error e => skip required "validate" e
  | .ok () => do
    log "GCS IAM policy: PUT"
    match ← attempt (requestJson "PUT" (policyPath bucket) profileId (policyBody modified)) with
    | .error e => skip required "put" e
    | .ok _ => do
      log "GCS IAM policy: GET (after put)"
      match ← attempt (requestJson "GET" (policyPath bucket) profileId none) with
      | .error e => skip required "get-after-put" e
      | .ok after =>
        match after with
        | .obj ad =>
          match Dict.get ad "policy" with
          | .obj _ => gcsRestore required profileId bucket original
          | _ => throw (runtimeError ("Expected policy object after PUT: " ++ pyRepr after))
        | _ => throw (runtimeError ("Expected policy object after PUT: " ++ pyRepr after))

/-- `exercise_gcs_iam_policy(profile_id, bucket)` (lines 366–480). -/
def exerciseGcsIamPolicy (profileId : Json) (bucket : String) : Run σ Unit := do
  let required := strictMode (← getenv "E2E_GCS_IAM")
  log "GCS IAM policy: GET (initial)"
  match ← attempt (requestJson "GET" (policyPath bucket) profileId none) with
  | .error e => skip required "get" e
  | .ok initial =>
    match initial with
    | .obj d => gcsApply required profileId bucket (originalPolicy (Dict.get d "policy"))
    | _ => throw (runtimeError ("Unexpected bucket policy response: " ++ pyRepr initial))

end Code

/-- `attempt` turns the outcome of `m` into a value, leaving `diverge` as it is. -/
@[simp] theorem attempt_apply {σ α : Type} (m : Run σ α) (E : Env σ) (w : World σ) :
    attempt m E w = match m E w with
      | (.ok a, w') => (.ok (.ok a), w')
      | (.error e, w') => (.ok (.error e), w')
      | (.diverge, w') => (.diverge, w') := by
  simp only [attempt, Run.tryCatch_apply, Run.bind_apply, Run.pure_apply]
  rcases m E w with ⟨_ | _ | _, w'⟩ <;> rfl

end S3Desk.Runner
