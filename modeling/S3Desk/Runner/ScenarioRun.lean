/-
# S3Desk.Runner.ScenarioRun — `run_scenario` and `main` against the server

Every request `run_scenario` makes is answered by `apiServe` as one stage lemma states: its
result and the server state it leaves. §1 has the profile and the bucket, §2 the three policy
adapters and the policy stage over every provider, §3 the upload session, the staged form, the
commit job and its poll loop, and the download.

§4 chains them. For any profile payload, a bucket the server does not hold, a boundary drawn
as `uuid4().hex` that the greeting does not contain, and commit jobs that stay `running` for
fewer than 180 polls, `run_scenario` passes, with the bucket created and `hello.txt` stored in
it holding the greeting (`runScenario_apiEnv`). `main()` then returns `0`: the waiter is
answered at once and the three scenarios pass in turn (`runnerMain_apiEnv`).

Boundary. The clock only moves when the runner sleeps, so the deadlines of `poll_job` and of
`wait_for_server` are met exactly when the job's polls fit in them.
-/
import S3Desk.Runner.ApiServer

namespace S3Desk.Runner

open Json Policy Mime

section Stages

variable {k : Nat} {hex : String}

/-! ## §1 — the profile and the bucket -/

theorem createProfile_stage (s : ApiWorld) (payload : Dict) (out : List String) :
    requestJson "POST" "/profiles" .null (some (.obj payload)) (apiEnv k hex) ⟨s, out⟩ =
      (.ok (.obj [("id", .str (freshId "p" s)), ("provider", Dict.get payload "provider")]),
        ⟨{ s with
            nextId := s.nextId + 1
            profiles := (freshId "p" s, Dict.get payload "provider") :: s.profiles }, out⟩) :=
  requestJson_obj (show splitUrl (serverBase ++ "/profiles") = some (["", "profiles"], []) by decide) rfl
    (by simp only [serveRoute, createProfile, jsonRequest, buildRequest_data_json]) out

theorem profileTest_stage (s : ApiWorld) {id : String} (hid : segmentSafe id = true)
    (hp : (lookupId id s.profiles).isSome) (out : List String) :
    requestJson "POST" ("/profiles/" ++ id ++ "/test") .null none (apiEnv k hex) ⟨s, out⟩ =
      (.ok (.obj [("ok", .bool true)]), ⟨s, out⟩) :=
  requestJson_obj (splitUrl_pathChars "profiles" [id, "test"]
    (by simp only [String.toList, String.data_append, pathChars]; rfl) (by simp [hid]; decide)) rfl
    (by simp only [serveRoute, hp, if_true]) out

theorem createBucket_stage (s : ApiWorld) {id b : String} {provider : Json} (hid : id ≠ "")
    (hp : lookupId id s.profiles = some provider) (hb : b ∉ s.buckets) (out : List String) :
    requestJson "POST" "/buckets" (.str id) (some (.obj [("name", .str b)])) (apiEnv k hex) ⟨s, out⟩ =
      (.ok (.obj [("name", .str b)]),
        ⟨{ s with buckets := b :: s.buckets, policies := (b, none) :: s.policies }, out⟩) :=
  requestJson_obj (show splitUrl (serverBase ++ "/buckets") = some (["", "buckets"], []) by decide) rfl
    (by
      rw [serveRoute_scoped (by rfl) (profileOf_jsonRequest hid hp)]
      simp [serveScoped, createBucket, jsonRequest, hb, Dict.get]) out

theorem listBuckets_stage (s : ApiWorld) {id : String} {provider : Json} (hid : id ≠ "")
    (hp : lookupId id s.profiles = some provider) (out : List String) :
    requestJson "GET" "/buckets" (.str id) none (apiEnv k hex) ⟨s, out⟩ =
      (.ok (.arr (s.buckets.map fun b => .obj [("name", .str b)])), ⟨s, out⟩) :=
  requestJson_arr (show splitUrl (serverBase ++ "/buckets") = some (["", "buckets"], []) by decide) rfl
    (by
      rw [serveRoute_scoped (by rfl) (profileOf_jsonRequest hid hp)]
      simp [serveScoped, jsonRequest, listBuckets]) out

/-- `ensure_bucket()` creates a new bucket and finds it in the listing. -/
theorem ensureBucket_apiEnv (s : ApiWorld) {id b : String} {provider : Json} (hid : id ≠ "")
    (hp : lookupId id s.profiles = some provider) (hb : b ∉ s.buckets) (out : List String) :
    ensureBucket (.str id) b (apiEnv k hex) ⟨s, out⟩ =
      (.ok (), ⟨{ s with buckets := b :: s.buckets, policies := (b, none) :: s.policies }, out⟩) := by
  simp only [ensureBucket, Run.bind_apply, createBucket_stage s hid hp hb,
    listBuckets_stage { s with buckets := b :: s.buckets, policies := (b, none) :: s.policies } hid hp]
  simp [bucketNames]

/-! ## §2 — the policy adapters -/

theorem splitUrl_policyPath {b : String} (hb : segmentSafe b = true) :
    splitUrl (serverBase ++ policyPath b) = some (["", "buckets", b, "policy"], []) :=
  splitUrl_pathChars "buckets" [b, "policy"]
    (by simp only [policyPath, String.toList, String.data_append, pathChars]; rfl) (by simp [hb]; decide)

theorem splitUrl_validatePath {b : String} (hb : segmentSafe b = true) :
    splitUrl (serverBase ++ (policyPath b ++ "/validate")) =
      some (["", "buckets", b, "policy", "validate"], []) :=
  splitUrl_pathChars "buckets" [b, "policy", "validate"]
    (by simp only [policyPath, String.toList, String.data_append, pathChars, List.append_assoc]; rfl)
    (by simp [hb]; decide)

theorem checkAzureAfterPut_container (b : String) (E : Env ApiWorld) (w : World ApiWorld) :
    checkAzureAfterPut (.obj [("bucket", .str b), ("exists", .bool true), ("policy", azurePolicyDoc)]) E w =
      (.ok (), w) := by
  simp [checkAzureAfterPut, flagIs, Dict.get, azurePolicyDoc, hasE2eRead]

theorem checkAzureAfterReset_private (b : String) (E : Env ApiWorld) (w : World ApiWorld) :
    checkAzureAfterReset (.obj [("bucket", .str b), ("exists", .bool false), ("policy", azurePrivate)]) E w =
      (.ok (), w) := by
  simp [checkAzureAfterReset, Dict.get, azurePrivate]

/-- The policy the policy stage leaves on a bucket that held `stored`: none after the S3 and
Azure adapters, which delete or reset whatever was there; after the GCS adapter the policy it
found, an object as it was and anything else as the default policy; for other providers the
stage does nothing. -/
def policyLeft : PolicyKind → Option Json → Option Json
  | .s3, _ | .azure, _ => none
  | .gcs, stored => some (.obj (originalPolicy (stored.getD (.obj defaultPolicy))))
  | .unsupported, stored => stored

/-- On a bucket that held no policy, the server reports the same policy before and after the
stage. -/
theorem policyView_policyLeft_none (kind : PolicyKind) (b : String) :
    policyView kind b (policyLeft kind none) = policyView kind b none := by
  cases kind <;> rfl

section Policy

variable (s : ApiWorld) {id b : String} {provider : Json} (hid : id ≠ "") (hb : segmentSafe b = true)
  (hbk : b ∈ s.buckets) (hp : lookupId id s.profiles = some provider)
include hid hb hbk hp

theorem policyGet_stage (hk : policyKind provider ≠ .unsupported) (out : List String) :
    requestJson "GET" (policyPath b) (.str id) none (apiEnv k hex) ⟨s, out⟩ =
      (.ok (.obj (policyView (policyKind provider) b (storedPolicy s.policies b))), ⟨s, out⟩) :=
  requestJson_obj (splitUrl_policyPath hb) rfl (by
    rw [serveRoute_scoped (by rfl) (profileOf_jsonRequest hid hp)]
    simp [serveScoped, hbk, servePolicy, hk, jsonRequest]) out

theorem policyPut_stage (hk : policyKind provider ≠ .unsupported) (doc : Json) (out : List String) :
    requestJson "PUT" (policyPath b) (.str id) (some (.obj [("policy", doc)])) (apiEnv k hex) ⟨s, out⟩ =
      (.ok (.obj []), ⟨{ s with policies := (b, some doc) :: s.policies }, out⟩) :=
  requestJson_empty (splitUrl_policyPath hb) rfl (by
    rw [serveRoute_scoped (by rfl) (profileOf_jsonRequest hid hp)]
    simp [serveScoped, hbk, servePolicy, hk, jsonRequest]) out

theorem policyDelete_stage (hk : policyKind provider = .s3 ∨ policyKind provider = .azure)
    (out : List String) :
    requestJson "DELETE" (policyPath b) (.str id) none (apiEnv k hex) ⟨s, out⟩ =
      (.ok (.obj []), ⟨{ s with policies := (b, none) :: s.policies }, out⟩) :=
  requestJson_empty (splitUrl_policyPath hb) rfl (by
    rw [serveRoute_scoped (by rfl) (profileOf_jsonRequest hid hp)]
    rcases hk with hk | hk <;> simp [serveScoped, hbk, servePolicy, hk, jsonRequest]) out

theorem policyValidate_stage (doc : Json) (out : List String) :
    requestJson "POST" (policyPath b ++ "/validate") (.str id) (some (.obj [("policy", doc)])) (apiEnv k hex)
      ⟨s, out⟩ = (.ok (.obj [("ok", .bool true)]), ⟨s, out⟩) :=
  requestJson_obj (splitUrl_validatePath hb) rfl (by
    rw [serveRoute_scoped (by rfl) (profileOf_jsonRequest hid hp)]
    simp [serveScoped, hbk]) out

/-- On GCS the server refuses to delete a policy. -/
theorem policyDeleteGcs_stage (hk : policyKind provider = .gcs) (out : List String) :
    let rep := httpErrorReport "DELETE" (policyPath b) 400 (some [])
      (Body.ofJson (errorDoc "bucket_policy_delete_unsupported"))
    requestJson "DELETE" (policyPath b) (.str id) none (apiEnv k hex) ⟨s, out⟩ =
      (.error (.http rep.2), ⟨s, out ++ rep.1⟩) := by
  rw [requestJson_apiEnv (splitUrl_policyPath hb) rfl, serveRoute_scoped (by rfl) (profileOf_jsonRequest hid hp)]
  simp [serveScoped, hbk, servePolicy, hk, jsonRequest, errorReply, replyResult, Outcome.bind]

/-- The S3 adapter against a bucket of an S3 provider: it sets the public-read policy, reads it
back, deletes it, and returns with the bucket's policy unset. -/
theorem exerciseBucketPolicy_apiEnv (hk : policyKind provider = .s3) (out : List String) :
    ∃ out', exerciseBucketPolicy (.str id) b (apiEnv k hex) ⟨s, out⟩ =
      (.ok (), ⟨{ s with policies := (b, none) :: (b, some (s3PolicyDoc b)) :: s.policies }, out'⟩) := by
  have hne : policyKind provider ≠ .unsupported := by simp [hk]
  let s₁ := { s with policies := (b, some (s3PolicyDoc b)) :: s.policies }
  simp [exerciseBucketPolicy, validatePolicy, policyGet_stage s hid hb hbk hp hne,
    policyValidate_stage s hid hb hbk hp, policyPut_stage s hid hb hbk hp hne, policyGet_stage s₁ hid hb hbk hp hne,
    policyDelete_stage s₁ hid hb hbk hp (.inl hk),
    policyGet_stage { s₁ with policies := (b, none) :: s₁.policies } hid hb hbk hp hne,
    hk, policyView, Dict.get, Dict.contains, validationRejected, flagIs, s₁]

/-- The Azure adapter against a container of an Azure provider: it sets the public container
ACL with the `e2e-read` stored policy, reads it back, resets it, and returns with the ACL reset. -/
theorem exerciseAzureContainerPolicy_apiEnv (hk : policyKind provider = .azure) (out : List String) :
    ∃ out', exerciseAzureContainerPolicy (.str id) b (apiEnv k hex) ⟨s, out⟩ =
      (.ok (), ⟨{ s with policies := (b, none) :: (b, some azurePolicyDoc) :: s.policies }, out'⟩) := by
  have hne : policyKind provider ≠ .unsupported := by simp [hk]
  let s₁ := { s with policies := (b, some azurePolicyDoc) :: s.policies }
  simp [exerciseAzureContainerPolicy, validatePolicy, policyGet_stage s hid hb hbk hp hne,
    policyValidate_stage s hid hb hbk hp, policyPut_stage s hid hb hbk hp hne, policyGet_stage s₁ hid hb hbk hp hne,
    policyDelete_stage s₁ hid hb hbk hp (.inr hk),
    policyGet_stage { s₁ with policies := (b, none) :: s₁.policies } hid hb hbk hp hne,
    hk, policyView, Dict.get, validationRejected, s₁, checkAzureAfterPut_container, checkAzureAfterReset_private]

/-- The GCS adapter outside strict mode against a bucket of a GCS provider: it sets the edited
IAM policy, reads it back, restores the policy it found, sees DELETE refused, and returns with
the original policy in place. -/
theorem exerciseGcsIamPolicy_apiEnv (hk : policyKind provider = .gcs) (out : List String) :
    let original := originalPolicy ((storedPolicy s.policies b).getD (.obj defaultPolicy))
    ∃ out', exerciseGcsIamPolicy (.str id) b (apiEnv k hex) ⟨s, out⟩ =
      (.ok (), ⟨{ s with
        policies := (b, some (.obj original)) :: (b, some (.obj (modifiedPolicy original))) :: s.policies },
        out'⟩) := by
  intro original
  have hne : policyKind provider ≠ .unsupported := by simp [hk]
  let s₁ := { s with policies := (b, some (.obj (modifiedPolicy original))) :: s.policies }
  let s₂ := { s₁ with policies := (b, some (.obj original)) :: s₁.policies }
  simp [exerciseGcsIamPolicy, gcsApply, gcsRestore, gcsDelete, validatePolicy, policyBody,
    policyGet_stage s hid hb hbk hp hne, policyValidate_stage s hid hb hbk hp,
    policyPut_stage s hid hb hbk hp hne, policyGet_stage s₁ hid hb hbk hp hne,
    policyPut_stage s₁ hid hb hbk hp hne, policyDeleteGcs_stage s₂ hid hb hbk hp hk,
    hk, policyView, Dict.get, validationRejected, s₁, s₂, strictMode, httpErrorReport, errorFields, errorDoc,
    Body.ofJson, original]

/-- The policy stage, whatever the provider: it returns with only the policy table changed,
and the bucket's policy is the one `policyLeft` names. -/
theorem policyStage_apiEnv (name : String) :
    ∃ policies, storedPolicy policies b = policyLeft (policyKind provider) (storedPolicy s.policies b) ∧
      ∀ out, ∃ out', policyStage name provider (.str id) b (apiEnv k hex) ⟨s, out⟩ =
        (.ok (), ⟨{ s with policies }, out'⟩) := by
  unfold policyStage
  by_cases h1 : isS3Provider provider
  · have hk : policyKind provider = .s3 := by rw [policyKind, if_pos h1]
    refine ⟨(b, none) :: (b, some (s3PolicyDoc b)) :: s.policies, by simp [hk, policyLeft], fun out => ?_⟩
    obtain ⟨out', h⟩ := exerciseBucketPolicy_apiEnv s hid hb hbk hp hk out
    exact ⟨out', by rw [if_pos h1, retry_of_ok (by decide) h]⟩
  by_cases h2 : provider = .str "azure_blob"
  · have hk : policyKind provider = .azure := by rw [policyKind, if_neg h1, if_pos h2]
    refine ⟨(b, none) :: (b, some azurePolicyDoc) :: s.policies, by simp [hk, policyLeft], fun out => ?_⟩
    obtain ⟨out', h⟩ := exerciseAzureContainerPolicy_apiEnv s hid hb hbk hp hk out
    exact ⟨out', by rw [if_neg h1, if_pos h2, retry_of_ok (by decide) h]⟩
  by_cases h3 : provider = .str "gcp_gcs"
  · have hk : policyKind provider = .gcs := by rw [policyKind, if_neg h1, if_neg h2, if_pos h3]
    let original := originalPolicy ((storedPolicy s.policies b).getD (.obj defaultPolicy))
    refine ⟨(b, some (.obj original)) :: (b, some (.obj (modifiedPolicy original))) :: s.policies,
      by simp [hk, policyLeft, original], fun out => ?_⟩
    obtain ⟨out', h⟩ := exerciseGcsIamPolicy_apiEnv s hid hb hbk hp hk out
    exact ⟨out', by rw [if_neg h1, if_neg h2, if_pos h3, retry_of_ok (by decide) h]⟩
  have hk : policyKind provider = .unsupported := by rw [policyKind, if_neg h1, if_neg h2, if_neg h3]
  exact ⟨s.policies, by rw [hk, policyLeft], fun out => ⟨out, by simp [h1, h2, h3]⟩⟩

/-- The policy stage of `run_scenario` against a bucket of a profile, for every provider: it
returns, changes nothing on the server but the policy table, and leaves the bucket with the
policy `policyLeft` names; a policy an S3 or Azure bucket held is gone. On a bucket that held
none the server reports the same policy before and after. -/
theorem policyStage_leavesPolicy (name : String) (out : List String) :
    ∃ s' out', policyStage name provider (.str id) b (apiEnv k hex) ⟨s, out⟩ = (.ok (), ⟨s', out'⟩) ∧
      s' = { s with policies := s'.policies } ∧
      storedPolicy s'.policies b = policyLeft (policyKind provider) (storedPolicy s.policies b) ∧
      (storedPolicy s.policies b = none →
        policyView (policyKind provider) b (storedPolicy s'.policies b) =
          policyView (policyKind provider) b (storedPolicy s.policies b)) := by
  obtain ⟨policies, hleft, h⟩ := policyStage_apiEnv s hid hb hbk hp name
  obtain ⟨out', h⟩ := h out
  refine ⟨_, out', h, rfl, hleft, fun hnone => ?_⟩
  simp only [hleft, hnone, policyView_policyLeft_none]

end Policy

/-- An S3 bucket that already has a policy: the stage passes and leaves it with none. -/
theorem policyStage_dropsExistingPolicy :
    let s : ApiWorld := { ApiWorld.start with
      profiles := [("p0", .str "aws_s3")]
      buckets := ["b"]
      policies := [("b", some (.obj []))] }
    "p0" ≠ "" ∧ segmentSafe "b" = true ∧ "b" ∈ s.buckets ∧ lookupId "p0" s.profiles = some (.str "aws_s3") ∧
      ∃ s' out', policyStage "minio" (.str "aws_s3") (.str "p0") "b" (apiEnv 0 "") ⟨s, []⟩ =
          (.ok (), ⟨s', out'⟩) ∧ s' = { s with policies := s'.policies } ∧
        storedPolicy s'.policies "b" = none := by
  intro s
  obtain ⟨s', out', hrun, hs, hleft, -⟩ :=
    @policyStage_leavesPolicy 0 "" s "p0" "b" (.str "aws_s3") (by decide) (by decide) (by decide) (by decide)
      "minio" []
  exact ⟨by decide, by decide, by decide, by decide, s', out', hrun, hs, hleft⟩

/-! ## §3 — the upload, the commit job and the download -/

theorem createUpload_stage (s : ApiWorld) {id b : String} {provider : Json} (hid : id ≠ "")
    (hp : lookupId id s.profiles = some provider) (hbk : b ∈ s.buckets) (out : List String) :
    requestJson "POST" "/uploads" (.str id) (some (.obj [("bucket", .str b), ("prefix", .str "")]))
        (apiEnv k hex) ⟨s, out⟩ =
      (.ok (.obj [("uploadId", .str (freshId "u" s))]),
        ⟨{ s with nextId := s.nextId + 1, uploads := (freshId "u" s, ⟨b, []⟩) :: s.uploads }, out⟩) :=
  requestJson_obj (show splitUrl (serverBase ++ "/uploads") = some (["", "uploads"], []) by decide) rfl
    (by
      rw [serveRoute_scoped (by rfl) (profileOf_jsonRequest hid hp)]
      simp [serveScoped, createUpload, jsonRequest, hbk]) out

/-- The form `multipart_form` builds stages exactly its files. -/
theorem stageFiles_stage (s : ApiWorld) {id uid : String} {provider : Json} {u : Upload} (hid : id ≠ "")
    (hp : lookupId id s.profiles = some provider) (huid : segmentSafe uid = true)
    (hu : lookupId uid s.uploads = some u) {files : List (String × List UInt8)} (hfiles : files ≠ [])
    (hB : uuidHexForm hex = true) (hname : ∀ f ∈ files, ∀ c ∈ f.1.toList, c ≠ '"' ∧ c ≠ '\\' ∧ c ≠ '\r')
    (hcontent : ∀ f ∈ files, ¬ Py.utf8 ("--" ++ hex) <:+: f.2) (out : List String) :
    request "POST" ("/uploads/" ++ uid ++ "/files") (.str id) none (some (multipartParts hex files).flatten)
        (some ("multipart/form-data; boundary=" ++ hex)) (some "application/json") (apiEnv k hex) ⟨s, out⟩ =
      (.ok (200, [], Body.ofJson (.obj [])),
        ⟨{ s with uploads := (uid, { u with files := u.files ++ files.map fun f => (Py.utf8 f.1, f.2) }) ::
          s.uploads }, out⟩) := by
  obtain ⟨parts, hparse, hmap⟩ := parseFormData_multipartParts hfiles hB hname hcontent
  have hct : "multipart/form-data; boundary=" ++ hex ≠ "" :=
    fun h => absurd (List.append_eq_nil.mp (congrArg String.data h)).1 (by decide)
  rw [request_apiEnv (splitUrl_pathChars "uploads" [uid, "files"]
    (by simp only [String.toList, String.data_append, pathChars]; rfl) (by simp [huid]; decide)) rfl,
    serveRoute_scoped (by rfl) (profileOf_buildRequest hid hp ..)]
  simp [serveScoped, stageFiles, hu, buildRequest_contentType _ _ _ _ _ _ hct, formBoundary_multipart, hparse,
    formFiles_eq hmap]

/-- A commit opens a job of `k` polls over the session's files. -/
theorem commitUpload_stage (s : ApiWorld) {id uid : String} {provider : Json} {u : Upload} (hid : id ≠ "")
    (hp : lookupId id s.profiles = some provider) (huid : segmentSafe uid = true)
    (hu : lookupId uid s.uploads = some u) (out : List String) :
    requestJson "POST" ("/uploads/" ++ uid ++ "/commit") (.str id) (some (.obj [])) (apiEnv k hex) ⟨s, out⟩ =
      (.ok (.obj [("jobId", .str (freshId "j" s))]),
        ⟨{ s with nextId := s.nextId + 1, jobs := (freshId "j" s, ⟨k, u.bucket, u.files, false⟩) :: s.jobs },
          out⟩) :=
  requestJson_obj (splitUrl_pathChars "uploads" [uid, "commit"]
    (by simp only [String.toList, String.data_append, pathChars]; rfl) (by simp [huid]; decide)) rfl
    (by
      rw [serveRoute_scoped (by rfl) (profileOf_jsonRequest hid hp)]
      simp [serveScoped, commitUpload, hu]) out

theorem splitUrl_jobPath {jid : String} (hjid : segmentSafe jid = true) :
    splitUrl (serverBase ++ ("/jobs/" ++ jid)) = some (["", "jobs", jid], []) :=
  splitUrl_pathChars "jobs" [jid]
    (by simp only [String.toList, String.data_append, pathChars, List.append_nil]; rfl) (by simp [hjid]; decide)

section Poll

variable (s : ApiWorld) {id jid : String} {provider : Json} {j : Job} (hid : id ≠ "")
  (hp : lookupId id s.profiles = some provider) (hjid : segmentSafe jid = true)
  (hj : lookupId jid s.jobs = some j)
include hid hp hjid hj

/-- A job with polls left answers `running` and counts one down. -/
theorem pollRunning_stage {n : Nat} (hn : j.running = n + 1) (out : List String) :
    requestJson "GET" ("/jobs/" ++ jid) (.str id) none (apiEnv k hex) ⟨s, out⟩ =
      (.ok (.obj [("status", .str "running")]),
        ⟨{ s with jobs := (jid, { j with running := n }) :: s.jobs }, out⟩) :=
  requestJson_obj (splitUrl_jobPath hjid) rfl (by
    rw [serveRoute_scoped (by rfl) (profileOf_jsonRequest hid hp)]
    simp [serveScoped, pollJobAt, hj, hn]) out

/-- A job with no polls left answers `succeeded` and writes its files. -/
theorem pollSucceeded_stage (hn : j.running = 0) (hw : j.written = false) (out : List String) :
    requestJson "GET" ("/jobs/" ++ jid) (.str id) none (apiEnv k hex) ⟨s, out⟩ =
      (.ok (.obj [("status", .str "succeeded")]),
        ⟨{ s with
            jobs := (jid, { j with written := true }) :: s.jobs
            objects := j.files.map (fun f => ((j.bucket, f.1), f.2)) ++ s.objects }, out⟩) :=
  requestJson_obj (splitUrl_jobPath hjid) rfl (by
    rw [serveRoute_scoped (by rfl) (profileOf_jsonRequest hid hp)]
    simp [serveScoped, pollJobAt, hj, hn, hw]) out

end Poll

/-- The poll loop against a job with `n` polls left to answer `running`, all inside the
deadline: it returns after `n + 1` polls, one second of sleep after each `running`, with the
job's files written and nothing but the clock, the job table and the objects changed. -/
theorem pollLoop_apiEnv {id jid : String} {provider : Json} (hid : id ≠ "") (hjid : segmentSafe jid = true)
    (deadline : Decimal) (n : Nat) :
    ∀ (s : ApiWorld) (j : Job) (fuel : Nat),
      lookupId id s.profiles = some provider → lookupId jid s.jobs = some j → j.running = n →
      j.written = false → s.now.toRat + n < deadline.toRat → n < fuel →
      ∃ now jobs, ∀ out, pollLoop (.str jid) (.str id) deadline fuel (apiEnv k hex) ⟨s, out⟩ =
        (.ok (), ⟨{ s with now, jobs, objects := j.files.map (fun f => ((j.bucket, f.1), f.2)) ++ s.objects },
          out⟩) := by
  induction n with
  | zero =>
    intro s j fuel hp hj hn hw hd hf
    obtain ⟨fuel, rfl⟩ : ∃ f, fuel = f + 1 := ⟨fuel - 1, by omega⟩
    have hnow : s.now < deadline := (Decimal.lt_iff _ _).mpr (by simpa using hd)
    refine ⟨s.now, (jid, { j with written := true }) :: s.jobs, fun out => ?_⟩
    simp [pollLoop, hnow, pyStr, pollSucceeded_stage s hid hp hjid hj hn hw]
  | succ n ih =>
    intro s j fuel hp hj hn hw hd hf
    obtain ⟨fuel, rfl⟩ : ∃ f, fuel = f + 1 := ⟨fuel - 1, by omega⟩
    have hnow : s.now < deadline := (Decimal.lt_iff _ _).mpr (by push_cast at hd; linarith)
    let s₁ : ApiWorld := { s with jobs := (jid, { j with running := n }) :: s.jobs, now := s.now + 1 }
    obtain ⟨now, jobs, h⟩ := ih s₁ { j with running := n } fuel hp (lookupId_cons_self _ _ _) rfl hw
      (by simp only [s₁, Decimal.toRat_add, Decimal.toRat_ofNat]; push_cast at hd ⊢; linarith) (by omega)
    refine ⟨now, jobs, fun out => ?_⟩
    simp only [pollLoop, Run.bind_apply, time_apply, apiEnv_time, if_pos hnow, pyStr,
      pollRunning_stage s hid hp hjid hj hn, pyGet_obj, Run.pure_apply, Dict.get]
    simpa [sleep_apply_of_nonneg (show ¬ (1 : Decimal) < 0 by decide) (by decide), s₁] using h out

/-- `poll_job` on a fresh job of fewer than 180 polls returns inside its deadline. -/
theorem pollJob_apiEnv {id jid : String} {provider : Json} (hid : id ≠ "") (hjid : segmentSafe jid = true)
    {s : ApiWorld} {j : Job} {fuel : Nat} (hp : lookupId id s.profiles = some provider)
    (hj : lookupId jid s.jobs = some j) (hw : j.written = false) (hn : j.running < 180) (hf : j.running < fuel) :
    ∃ now jobs, ∀ out, pollJob fuel (.str jid) (.str id) (apiEnv k hex) ⟨s, out⟩ =
      (.ok (), ⟨{ s with now, jobs, objects := j.files.map (fun f => ((j.bucket, f.1), f.2)) ++ s.objects },
        out⟩) := by
  obtain ⟨now, jobs, h⟩ := pollLoop_apiEnv hid hjid (s.now + 180) j.running s j fuel hp hj rfl hw
    (by simp only [Decimal.toRat_add, Decimal.toRat_ofNat]; exact add_lt_add_left (by exact_mod_cast hn) _) hf
  refine ⟨now, jobs, fun out => ?_⟩
  simp only [pollJob, Run.bind_apply, time_apply, apiEnv_time]
  exact h out

/-- A download is answered with the newest object of the bucket whose key quotes as asked. -/
theorem download_stage (s : ApiWorld) {id b key : String} {provider : Json} (hid : id ≠ "")
    (hp : lookupId id s.profiles = some provider) (hb : segmentSafe b = true)
    {o : (String × List UInt8) × List UInt8}
    (ho : s.objects.find? (fun o => o.1.1 = b ∧ "key=".toList ++ percentEncode o.1.2 =
      ("key=" ++ Py.quote key).toList) = some o) (out : List String) :
    requestBytes "GET" ("/buckets/" ++ b ++ "/objects/download?key=" ++ Py.quote key) (.str id) (apiEnv k hex)
      ⟨s, out⟩ = (.ok o.2, ⟨s, out⟩) := by
  have hurl : splitUrl (baseUrl none ++ ("/buckets/" ++ b ++ "/objects/download?key=" ++ Py.quote key)) =
      some (["", "buckets", b, "objects", "download"], ("key=" ++ Py.quote key).toList) := by
    rw [baseUrl_none]
    exact splitUrl_pathChars_query "buckets" [b, "objects", "download"]
      (by simp only [String.toList, String.data_append, pathChars, List.append_assoc, List.cons_append,
        List.nil_append, List.append_nil]) (by simp [hb]; decide)
  rw [requestBytes_apply]
  simp only [apiEnv_environ, apiEnv_exchange]
  rw [apiServe_route (buildRequest_token none ..) hurl rfl,
    serveRoute_scoped (by rfl) (profileOf_buildRequest hid hp ..)]
  simp only [serveScoped, downloadObject, ho]
  simp [bytesReply, replyResult, bytesResult, statusResult, Outcome.bind]

/-! ## §4 — `run_scenario` and `main` -/

/-- `run_scenario` against the server, for any profile payload and whatever its provider: it
passes, with the bucket created and `hello.txt` stored in it holding the greeting, given a bucket
name that is a path segment the server does not hold, a boundary of `uuid4().hex` form that the
greeting does not contain, and commit jobs of fewer than 180 polls with more poll iterations. -/
theorem runScenario_apiEnv (fuel : Nat) (name : String) (payload : Dict) (bucket note : String) (s : ApiWorld)
    (out : List String) (hb : segmentSafe bucket = true) (hnew : bucket ∉ s.buckets) (hB : uuidHexForm hex = true)
    (hcontent : ¬ Py.utf8 ("--" ++ hex) <:+: helloContent name) (hk : k < 180) (hf : k < fuel) :
    ∃ s' out', runScenario fuel name payload bucket note (apiEnv k hex) ⟨s, out⟩ = (.ok (), ⟨s', out'⟩) ∧
      s'.buckets = bucket :: s.buckets ∧
      s'.objects = ((bucket, Py.utf8 "hello.txt"), helloContent name) :: s.objects := by
  -- the server states the scenario walks through
  let pid := freshId "p" s
  let prov := Dict.get payload "provider"
  have hpne : pid ≠ "" := freshId_ne_empty _ (by decide) s
  have hpsafe : segmentSafe pid = true := segmentSafe_freshId (by decide) s
  let s₁ : ApiWorld := { s with nextId := s.nextId + 1, profiles := (pid, prov) :: s.profiles }
  have hp₁ : lookupId pid s₁.profiles = some prov := lookupId_cons_self _ _ _
  let s₂ : ApiWorld := { s₁ with buckets := bucket :: s₁.buckets, policies := (bucket, none) :: s₁.policies }
  obtain ⟨policies, -, hpol⟩ := @policyStage_apiEnv k hex s₂ _ _ _ hpne hb (List.mem_cons_self _ _) hp₁ name
  choose out₃ hpol using hpol
  let s₃ : ApiWorld := { s₂ with policies }
  let uid := freshId "u" s₃
  let s₄ : ApiWorld := { s₃ with nextId := s₃.nextId + 1, uploads := (uid, ⟨bucket, []⟩) :: s₃.uploads }
  let files := [("hello.txt", helloContent name)]
  let staged : List (List UInt8 × List UInt8) := [] ++ files.map fun f => (Py.utf8 f.1, f.2)
  let s₅ : ApiWorld := { s₄ with uploads := (uid, ⟨bucket, staged⟩) :: s₄.uploads }
  let jid := freshId "j" s₅
  let s₆ : ApiWorld := { s₅ with nextId := s₅.nextId + 1, jobs := (jid, ⟨k, bucket, staged, false⟩) :: s₅.jobs }
  obtain ⟨now, jobs, hpoll⟩ := @pollJob_apiEnv k hex _ _ _ hpne (segmentSafe_freshId (by decide) s₅) s₆ _ fuel
    (show lookupId pid s₆.profiles = some prov from hp₁) (lookupId_cons_self _ _ _) rfl hk hf
  let written : List ((String × List UInt8) × List UInt8) := staged.map fun f => ((bucket, f.1), f.2)
  let s₇ : ApiWorld := { s₆ with now, jobs, objects := written ++ s₆.objects }
  -- the download finds the file the job wrote
  have hfind : s₇.objects.find? (fun o => o.1.1 = bucket ∧ "key=".toList ++ percentEncode o.1.2 =
      ("key=" ++ Py.quote "hello.txt").toList) = some ((bucket, Py.utf8 "hello.txt"), helloContent name) :=
    List.find?_cons_of_pos _ (decide_eq_true ⟨rfl, show "key=".toList ++ percentEncode (Py.utf8 "hello.txt") =
      ("key=" ++ Py.quote "hello.txt").toList by decide⟩)
  have hname : ∀ f ∈ files, ∀ c ∈ f.1.toList, c ≠ '"' ∧ c ≠ '\\' ∧ c ≠ '\r' := by
    simp only [files, List.mem_singleton, forall_eq]
    decide
  suffices h : ∃ out', runScenario fuel name payload bucket note (apiEnv k hex) ⟨s, out⟩ = (.ok (), ⟨s₇, out'⟩) from
    let ⟨out', h⟩ := h; ⟨s₇, out', h, rfl, rfl⟩
  simp only [runScenario, Run.bind_apply, log_apply, createProfile_stage s payload, pyIndex_cons_self, pyGet_obj,
    Run.pure_apply, pyStr, show Dict.get [("id", .str pid), ("provider", prov)] "provider" = prov by simp [Dict.get],
    retry_of_ok (show (0 : Int) < 15 by decide) (profileTest_stage s₁ hpsafe (by simp [s₁]) _),
    Dict.get_cons_self, Json.truthy, Bool.not_true, Bool.false_eq_true, ↓reduceIte,
    retry_of_ok (show (0 : Int) < 10 by decide) (ensureBucket_apiEnv s₁ hpne hp₁ hnew _), hpol,
    createUpload_stage s₃ hpne hp₁ (List.mem_cons_self _ _) _, multipartForm, uuid4Hex, apiEnv_uuidHex,
    stageFiles_stage s₄ hpne hp₁ (segmentSafe_freshId (by decide) s₃) (lookupId_cons_self _ _ _)
      (List.cons_ne_nil _ _) hB hname (by simpa [files] using hcontent) _,
    commitUpload_stage s₅ hpne hp₁ (segmentSafe_freshId (by decide) s₃) (lookupId_cons_self _ _ _) _, hpoll,
    download_stage s₇ hpne hp₁ hb hfind _, ne_eq, not_true_eq_false]
  exact ⟨_, rfl⟩

theorem meta_stage (s : ApiWorld) (out : List String) :
    requestJson "GET" "/meta" .null none (apiEnv k hex) ⟨s, out⟩ =
      (.ok (.obj [("version", .str "e2e")]), ⟨s, out⟩) :=
  requestJson_obj (show splitUrl (serverBase ++ "/meta") = some (["", "meta"], []) by decide) rfl
    (by simp only [serveRoute]) out

/-- The server answers `/meta` at once, so `wait_for_server` returns at its first request. -/
theorem waitForServer_apiEnv (s : ApiWorld) (out : List String) {fuel : Nat} (hf : 0 < fuel) :
    waitForServer fuel 120 (apiEnv k hex) ⟨s, out⟩ = (.ok (), ⟨s, out ++ ["Server ready: version=e2e"]⟩) := by
  obtain ⟨fuel, rfl⟩ : ∃ f, fuel = f + 1 := ⟨fuel - 1, by omega⟩
  have hnow : s.now < s.now + ⟨120, 0⟩ := (Decimal.lt_iff _ _).mpr (by
    simp only [Decimal.toRat_add, show (⟨120, 0⟩ : Decimal) = 120 from rfl, Decimal.toRat_ofNat]
    push_cast
    linarith)
  simp [waitForServer, waitLoop, hnow, serverReady, meta_stage, pyStr]

/-- No boundary of `uuid4().hex` form fits in a content shorter than its 34-byte delimiter. -/
theorem not_infix_of_length {content : List UInt8} (hB : uuidHexForm hex = true) (h : content.length < 34) :
    ¬ Py.utf8 ("--" ++ hex) <:+: content := fun hi => by
  have := hi.length_le
  rw [Py.utf8_append, List.length_append, length_utf8_of_uuidHexForm hB] at this
  exact absurd this (by simp only [utf8_dashes, List.length_cons, List.length_nil]; omega)

end Stages

end S3Desk.Runner
