/-
# S3Desk.Runner.GcsBackend — the GCS adapter under its retry wrapper, against a faulty backend

`run_scenario` drives `exercise_gcs_iam_policy` through `retry(…, attempts=3,
base_delay_s=0.8)` (lines 517–518). `gcsEnv` is a GCS policy endpoint as the adapter expects
it: GET answers the bucket's current IAM policy, a PUT replaces it, validation answers
`ok: true`, DELETE is rejected with `bucket_policy_delete_unsupported`; and each request may
instead fail, raising any exception, with no effect (`faults`, consumed one per request).

An attempt that fails after its PUT of the edited policy and before the restore leaves the
edited policy behind, and the next attempt reads that as its original: in strict mode the
wrapper can return normally with the `allUsers` binding still granted
(`retry_gcs_leavesPublicBinding`). What does hold, for every initial policy and every pattern
of faults (`retry_gcs_finalPolicy`): in strict mode an attempt only ever leaves the policy as
it found it, restored, or edited (§2, one lemma per stage of the adapter), so a wrapper that
returns normally leaves the first attempt's original, or that original with the public binding
added, and nothing else.
-/
import S3Desk.Runner.Adapters
import S3Desk.Runner.Retry

namespace S3Desk.Runner

open Json Policy

/-! ## §1 — the backend -/

/-- The backend's error document `{"error": {"code": code}}`. -/
def errorDoc (code : String) : Json := .obj [("error", .obj [("code", .str code)])]

/-- The answer to `GET /buckets/{bucket}/policy`. -/
def policyDoc (bucket : String) (policy : Json) : Json :=
  .obj [("bucket", .str bucket), ("exists", .bool true), ("policy", policy)]

@[simp] theorem get_policyDoc_policy (bucket : String) (policy : Json) :
    Dict.get [("bucket", .str bucket), ("exists", .bool true), ("policy", policy)] "policy" = policy := by
  rw [Dict.get, if_neg (by decide), Dict.get, if_neg (by decide), Dict.get, if_pos rfl]

/-- The bucket's policy, and the fate of the requests to come: `some e` makes the next request
raise `e` and change nothing. -/
structure GcsWorld where
  policy : Json
  faults : List (Option Exn)
  deriving DecidableEq, Repr

/-- The next request's fate, and the faults after it. -/
def popFault : List (Option Exn) → Option Exn × List (Option Exn)
  | [] => (none, [])
  | f :: fs => (f, fs)

/-- How the GCS policy endpoint of `bucket` answers a request it serves, and the policy after. -/
def gcsServe (bucket : String) (r : Request) (policy : Json) : Reply × Json :=
  let url := baseUrl none ++ policyPath bucket
  if r.method = "GET" ∧ r.url = url then
    (.response 200 [] (Body.ofJson (policyDoc bucket policy)), policy)
  else if r.method = "PUT" ∧ r.url = url then
    match r.data with
    | .json (.obj d) => (.response 200 [] Body.empty, Dict.get d "policy")
    | _ => (.httpError 400 "Bad Request" (some []) (Body.ofJson (errorDoc "invalid_request")), policy)
  else if r.method = "POST" ∧ r.url = url ++ "/validate" then
    (.response 200 [] (Body.ofJson (.obj [("ok", .bool true)])), policy)
  else if r.method = "DELETE" ∧ r.url = url then
    (.httpError 400 "Bad Request" (some []) (Body.ofJson (errorDoc "bucket_policy_delete_unsupported")), policy)
  else (.httpError 404 "Not Found" (some []) (Body.ofJson (errorDoc "not_found")), policy)

/-- The GCS backend of `bucket`, with `E2E_GCS_IAM` set to `strict`. -/
def gcsEnv (bucket : String) (strict : Option String) : Env GcsWorld where
  environ k := if k = "E2E_GCS_IAM" then strict else none
  exchange r s :=
    match popFault s.faults with
    | (some e, fs) => (.raised e, ⟨s.policy, fs⟩)
    | (none, fs) =>
      match gcsServe bucket r s.policy with
      | (reply, policy) => (reply, ⟨policy, fs⟩)
  time s := (0, s)
  sleep _ s := s
  uuidHex s := ("", s)

/-- The retry wrapper of `run_scenario` around the GCS adapter (lines 517–518). -/
def gcsScenarioPolicy (profileId : Json) (bucket : String) : Run GcsWorld Unit :=
  retry ("Bucket policy (" ++ "fake-gcs" ++ ")") (exerciseGcsIamPolicy profileId bucket) 3 ⟨8, 1⟩

/-! ## §2 — one attempt in strict mode -/

section Attempt

variable {bucket : String} {strict : Option String} {profileId : Json}

@[simp] theorem gcsEnv_environ_baseUrl : (gcsEnv bucket strict).environ "BASE_URL" = none := rfl

@[simp] theorem gcsEnv_environ_token : (gcsEnv bucket strict).environ "API_TOKEN" = none := rfl

@[simp] theorem gcsEnv_environ_iam : (gcsEnv bucket strict).environ "E2E_GCS_IAM" = strict := rfl

@[simp] theorem gcsEnv_sleep (d : Decimal) (s : GcsWorld) : (gcsEnv bucket strict).sleep d s = s := rfl

/-- A request to the backend: a fault raises and changes nothing, otherwise the backend
serves it. -/
theorem requestJson_gcsEnv (method path : String) (body : Option Json) (s : GcsWorld)
    (out : List String) :
    requestJson method path profileId body (gcsEnv bucket strict) ⟨s, out⟩ =
      match popFault s.faults with
      | (some e, fs) => (.error e, ⟨⟨s.policy, fs⟩, out⟩)
      | (none, fs) =>
        let x := gcsServe bucket (jsonRequest (gcsEnv bucket strict) method path profileId body) s.policy
        ((replyResult method path x.1).1.bind (jsonResult method path),
          ⟨⟨x.2, fs⟩, out ++ (replyResult method path x.1).2⟩) := by
  rw [requestJson_apply]
  simp only [gcsEnv]
  rcases popFault s.faults with ⟨_ | e, fs⟩
  · rfl
  · simp [replyResult, Outcome.bind]

theorem gcsServe_get (P : Json) :
    gcsServe bucket (jsonRequest (gcsEnv bucket strict) "GET" (policyPath bucket) profileId none) P =
      (.response 200 [] (Body.ofJson (policyDoc bucket P)), P) := by
  simp [gcsServe, jsonRequest]

theorem gcsServe_put (d : Dict) (P : Json) :
    gcsServe bucket (jsonRequest (gcsEnv bucket strict) "PUT" (policyPath bucket) profileId
      (policyBody d)) P = (.response 200 [] Body.empty, .obj d) := by
  simp [gcsServe, jsonRequest, policyBody, Dict.get]

theorem gcsServe_validate (doc P : Json) :
    gcsServe bucket (jsonRequest (gcsEnv bucket strict) "POST" (policyPath bucket ++ "/validate")
      profileId (some (.obj [("policy", doc)]))) P =
      (.response 200 [] (Body.ofJson (.obj [("ok", .bool true)])), P) := by
  simp [gcsServe, jsonRequest, String.append_assoc]

theorem gcsServe_delete (P : Json) :
    gcsServe bucket (jsonRequest (gcsEnv bucket strict) "DELETE" (policyPath bucket) profileId none) P =
      (.httpError 400 "Bad Request" (some []) (Body.ofJson (errorDoc "bucket_policy_delete_unsupported")), P) := by
  simp [gcsServe, jsonRequest]

/-- DELETE never changes the policy, and the stage always ends. -/
theorem gcsDelete_gcsEnv {w : World GcsWorld} {r : Outcome Unit × World GcsWorld}
    (h : gcsDelete profileId bucket (gcsEnv bucket strict) w = r) :
    r.1 ≠ .diverge ∧ r.2.ext.policy = w.ext.policy := by
  subst h
  obtain ⟨s, out⟩ := w
  unfold gcsDelete
  simp only [Run.bind_apply, log_apply, attempt_apply, requestJson_gcsEnv]
  rcases popFault s.faults with ⟨_ | e, fs⟩
  · simp [gcsServe_delete, replyResult, Outcome.bind, httpErrorReport, errorFields, errorDoc,
      Body.ofJson, Dict.get]
  · rcases e with f | ⟨c, m⟩
    · simp only
      split_ifs <;> simp
    · simp

/-- The restore stage in strict mode: it ends, leaves the policy as it was or restored, and
returns only after restoring. -/
theorem gcsRestore_gcsEnv (o : Dict) {w : World GcsWorld} {r : Outcome Unit × World GcsWorld}
    (h : gcsRestore true profileId bucket o (gcsEnv bucket strict) w = r) :
    r.1 ≠ .diverge ∧ (r.2.ext.policy = w.ext.policy ∨ r.2.ext.policy = .obj o) ∧
      (r.1 = .ok () → r.2.ext.policy = .obj o) := by
  subst h
  obtain ⟨s, out⟩ := w
  unfold gcsRestore
  simp only [Run.bind_apply, log_apply, attempt_apply, requestJson_gcsEnv]
  rcases popFault s.faults with ⟨_ | e, fs⟩
  · simp only [gcsServe_put, replyResult, Outcome.bind, jsonResult_empty, Run.pure_apply,
      Run.bind_apply]
    split <;> rename_i heq <;> obtain ⟨hd, hp⟩ := gcsDelete_gcsEnv heq <;> simp only at hd hp
    · simp [hp]
    · simp [hp]
    · exact absurd rfl hd
  · simp

@[simp] theorem skip_strict {σ : Type} (stage : String) (e : Exn) :
    (skip true stage e : Run σ Unit) = throw e := rfl

/-- The stages after the first GET in strict mode, restoring `o`: they end, leave the policy as
it was, edited, or restored, and return only after restoring. -/
theorem gcsApply_gcsEnv (o : Dict) {w : World GcsWorld} {r : Outcome Unit × World GcsWorld}
    (h : gcsApply true profileId bucket o (gcsEnv bucket strict) w = r) :
    r.1 ≠ .diverge ∧ (r.2.ext.policy = w.ext.policy ∨ r.2.ext.policy = .obj (modifiedPolicy o) ∨
      r.2.ext.policy = .obj o) ∧ (r.1 = .ok () → r.2.ext.policy = .obj o) := by
  subst h
  obtain ⟨s, out⟩ := w
  unfold gcsApply validatePolicy
  simp only [Run.bind_apply, log_apply, attempt_apply, requestJson_gcsEnv, skip_strict,
    Run.throw_apply, Run.pure_apply]
  rcases popFault s.faults with ⟨_ | e, fs⟩
  · have hv : validationRejected (.obj [("ok", .bool true)]) = false := by decide
    simp only [gcsServe_validate, replyResult, Outcome.bind, jsonResult_ofJson_obj, hv,
      Bool.false_eq_true, if_false, Run.pure_apply, Run.bind_apply, log_apply, attempt_apply,
      requestJson_gcsEnv, skip_strict, Run.throw_apply]
    rcases popFault fs with ⟨_ | e, fs⟩
    · simp only [gcsServe_put, replyResult, Outcome.bind, jsonResult_empty, Run.bind_apply, log_apply,
        attempt_apply, requestJson_gcsEnv, skip_strict, Run.throw_apply, Run.pure_apply]
      rcases popFault fs with ⟨_ | e, fs⟩
      · simp only [gcsServe_get, replyResult, Outcome.bind, jsonResult_ofJson_obj, policyDoc,
          get_policyDoc_policy]
        obtain ⟨h1, h2, h3⟩ := @gcsRestore_gcsEnv bucket strict profileId o _ _ rfl
        exact ⟨h1, .inr h2, h3⟩
      · simp
    · simp
  · simp

/-- One attempt of the adapter in strict mode: it ends, leaves the policy as it found it,
edited, or restored to the original it read, and returns only after restoring. -/
theorem exerciseGcsIamPolicy_gcsEnv (hs : strictMode strict = true) {w : World GcsWorld}
    {r : Outcome Unit × World GcsWorld}
    (h : exerciseGcsIamPolicy profileId bucket (gcsEnv bucket strict) w = r) :
    r.1 ≠ .diverge ∧ (r.2.ext.policy = w.ext.policy ∨
      r.2.ext.policy = .obj (modifiedPolicy (originalPolicy w.ext.policy)) ∨
      r.2.ext.policy = .obj (originalPolicy w.ext.policy)) ∧
      (r.1 = .ok () → r.2.ext.policy = .obj (originalPolicy w.ext.policy)) := by
  subst h
  obtain ⟨s, out⟩ := w
  unfold exerciseGcsIamPolicy
  simp only [Run.bind_apply, getenv_apply, gcsEnv_environ_iam, hs, log_apply, attempt_apply,
    requestJson_gcsEnv, skip_strict, Run.throw_apply]
  rcases popFault s.faults with ⟨_ | e, fs⟩
  · simp only [gcsServe_get, replyResult, Outcome.bind, jsonResult_ofJson_obj, policyDoc,
      get_policyDoc_policy]
    exact gcsApply_gcsEnv _ rfl
  · simp

end Attempt

/-! ## §3 — the retried scenario -/

/-- The policies a strict-mode run that started at `P` can leave: `P` itself, the original the
first attempt read, or that original with the public binding added. -/
def reachablePolicy (P q : Json) : Prop :=
  q = P ∨ q = .obj (originalPolicy P) ∨ q = .obj (modifiedPolicy (originalPolicy P))

theorem originalPolicy_of_reachable {P q : Json} (h : reachablePolicy P q) :
    originalPolicy q = originalPolicy P ∨ originalPolicy q = modifiedPolicy (originalPolicy P) := by
  rcases h with rfl | rfl | rfl <;> simp [originalPolicy]

/-- An attempt from a reachable policy leaves a reachable one: editing is idempotent, so the
edit of an edited original is that edited original. -/
theorem reachablePolicy_of_attempt {P q q' : Json} (h : reachablePolicy P q)
    (h' : q' = q ∨ q' = .obj (modifiedPolicy (originalPolicy q)) ∨ q' = .obj (originalPolicy q)) :
    reachablePolicy P q' := by
  rcases h' with rfl | rfl | rfl
  · exact h
  · rcases originalPolicy_of_reachable h with ho | ho <;> rw [ho]
    · exact .inr (.inr rfl)
    · rw [modifiedPolicy_modifiedPolicy]
      exact .inr (.inr rfl)
  · rcases originalPolicy_of_reachable h with ho | ho <;> rw [ho]
    · exact .inr (.inl rfl)
    · exact .inr (.inr rfl)

/-- In strict mode the retried scenario ends, and when it returns normally the bucket holds the
original the first attempt read, or that original with the public binding added. -/
theorem retry_gcs_finalPolicy (profileId : Json) (bucket : String) (strict : Option String)
    (hs : strictMode strict = true) (s : GcsWorld) (out : List String) :
    let r := gcsScenarioPolicy profileId bucket (gcsEnv bucket strict) ⟨s, out⟩
    r.1 ≠ .diverge ∧ (r.1 = .ok () → r.2.ext.policy = .obj (originalPolicy s.policy) ∨
      r.2.ext.policy = .obj (modifiedPolicy (originalPolicy s.policy))) := by
  obtain ⟨hend, -, hok⟩ := retryLoop_invariant (w := ⟨s, out⟩)
    (fun w : World GcsWorld => reachablePolicy s.policy w.ext.policy)
    (fun w hw => (exerciseGcsIamPolicy_gcsEnv hs (w := w) rfl).imp_right
      fun h => reachablePolicy_of_attempt hw h.1)
    (fun _ _ hw => hw) (fun _ _ hw => hw) rfl (Or.inl rfl)
  refine ⟨hend, fun h => ?_⟩
  obtain ⟨w₀, hw₀, hrun⟩ := hok () h
  have hf := (exerciseGcsIamPolicy_gcsEnv hs hrun).2.2 rfl
  rcases originalPolicy_of_reachable hw₀ with ho | ho <;> rw [ho] at hf
  exacts [.inl hf, .inr hf]

theorem retry_gcs_finalPolicy_strict :
    strictMode (some "1") = true ∧
      let r := gcsScenarioPolicy (.str "p") "b" (gcsEnv "b" (some "1")) ⟨⟨.null, []⟩, []⟩
      r.1 ≠ .diverge ∧ (r.1 = .ok () → r.2.ext.policy = .obj (originalPolicy .null) ∨
        r.2.ext.policy = .obj (modifiedPolicy (originalPolicy .null))) :=
  ⟨by decide, retry_gcs_finalPolicy _ _ _ (by decide) _ _⟩

/-- A fault on the read-back after the PUT fails the first attempt with the edited policy in
place; the second attempt takes it for the original, restores it, and the wrapper returns
normally with the `allUsers` binding still granted. -/
theorem retry_gcs_leavesPublicBinding :
    let w₀ : World GcsWorld :=
      ⟨⟨.obj defaultPolicy, [none, none, none, some (runtimeError "Network error")]⟩, []⟩
    let r := gcsScenarioPolicy (.str "p") "b" (gcsEnv "b" (some "1")) w₀
    r.1 = .ok () ∧ r.2.ext.policy = .obj (modifiedPolicy defaultPolicy) ∧
      r.2.ext.policy ≠ .obj defaultPolicy := by
  intro w₀ r
  have h₁ := Run.eq_of_fst_ext
    (r := exerciseGcsIamPolicy (.str "p") "b" (gcsEnv "b" (some "1")) w₀)
    (o := .error (runtimeError "Network error")) (s := ⟨.obj (modifiedPolicy defaultPolicy), []⟩)
    (by decide) (by decide)
  have hd := sleepBackoff_nonneg (b := ⟨8, 1⟩) (by norm_num [Decimal.toRat]) (1 : Nat)
  have h₂ := Run.eq_of_fst_ext
    (r := exerciseGcsIamPolicy (.str "p") "b" (gcsEnv "b" (some "1"))
      ⟨(gcsEnv "b" (some "1")).sleep (sleepBackoff ⟨8, 1⟩ (1 : Nat) backoffFactor backoffMax)
        ⟨.obj (modifiedPolicy defaultPolicy), []⟩,
      (exerciseGcsIamPolicy (.str "p") "b" (gcsEnv "b" (some "1")) w₀).2.out ++
        [attemptLine ("Bucket policy (" ++ "fake-gcs" ++ ")") 1 3 (runtimeError "Network error")]⟩)
    (o := .ok ()) (s := ⟨.obj (modifiedPolicy defaultPolicy), []⟩) (by decide) (by decide)
  dsimp only [r, gcsScenarioPolicy, retry]
  rw [show List.range' 1 (Int.toNat 3) = [1, 2, 3] from rfl, retryLoop_of_error h₁ (by decide) hd
      (sleepBackoff_lt_sleepLimit le_rfl (.inl (by decide))),
    retryLoop_of_ok h₂]
  exact ⟨rfl, rfl, by decide⟩

end S3Desk.Runner
