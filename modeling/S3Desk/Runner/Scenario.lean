/-
# S3Desk.Runner.Scenario — `run_scenario` and `main`

`run_scenario` (lines 482–550) is one end-to-end pass over a storage provider: create a
profile, test it, create the bucket and find it in the listing, exercise the provider's policy
adapter, open an upload session, post one file as `multipart/form-data`, commit it, poll the
commit job, and download the file, which must come back byte for byte. `main` (lines 553–613)
waits for the server and runs the MinIO, Azurite and fake-GCS scenarios in turn.

`S3Desk.Runner.ApiServer` is a server as the runner expects it, and
`S3Desk.Runner.ScenarioRun` runs a scenario against it.
-/
import S3Desk.Runner.Poll
import S3Desk.Runner.Multipart
import S3Desk.Runner.GcsBackend

namespace S3Desk.Runner

open Json Policy Mime

/-- `f"hello from {name}\n".encode("utf-8")` (line 525). -/
def helloContent (name : String) : List UInt8 := Py.utf8 ("hello from " ++ name ++ "\n")

/-- `[b.get("name") for b in buckets if isinstance(b, dict)]` (line 505). -/
def bucketNames (bs : List Json) : List Json :=
  bs.filterMap fun b => match b with
    | .obj d => some (Dict.get d "name")
    | _ => none

/-- `provider in ("aws_s3", "s3_compatible", "oci_s3_compat")` (line 513). -/
def isS3Provider (provider : Json) : Bool :=
  provider = .str "aws_s3" || provider = .str "s3_compatible" || provider = .str "oci_s3_compat"

section Code

variable {σ : Type}

/-- `ensure_bucket()` (lines 500–507). -/
def ensureBucket (profileId : Json) (bucket : String) : Run σ Unit := do
  let _ ← requestJson "POST" "/buckets" profileId (some (.obj [("name", .str bucket)]))
  let buckets ← requestJson "GET" "/buckets" profileId none
  match buckets with
  | .arr bs =>
    if .str bucket ∈ bucketNames bs then pure ()
    else throw (runtimeError ("Bucket not found after create. expected=" ++ bucket ++ " got=" ++
      pyStr (.arr (bucketNames bs))))
  | _ => throw (runtimeError ("Unexpected /buckets response: " ++ pyRepr buckets))

/-- Lines 512–518: the provider's policy adapter under its retry wrapper. -/
def policyStage (name : String) (provider profileId : Json) (bucket : String) : Run σ Unit :=
  if isS3Provider provider then
    retry ("Bucket policy (" ++ name ++ ")") (exerciseBucketPolicy profileId bucket) 6 ⟨8, 1⟩
  else if provider = .str "azure_blob" then
    retry ("Container policy (" ++ name ++ ")") (exerciseAzureContainerPolicy profileId bucket) 6 ⟨8, 1⟩
  else if provider = .str "gcp_gcs" then
    retry ("Bucket policy (" ++ name ++ ")") (exerciseGcsIamPolicy profileId bucket) 3 ⟨8, 1⟩
  else pure ()

/-- `run_scenario(name, create_profile_payload, bucket, endpoint_note)` (lines 482–550), with
`fuel` iterations for the poll loop. -/
def runScenario (fuel : Nat) (name : String) (payload : Dict) (bucket endpointNote : String) :
    Run σ Unit := do
  log ("\n=== Scenario: " ++ name ++ " ===")
  log ("Profile endpoint hint: " ++ endpointNote)
  let profile ← requestJson "POST" "/profiles" .null (some (.obj payload))
  let profileId ← pyIndex profile "id"
  let provider ← pyGet profile "provider"
  log ("Created profile id=" ++ pyStr profileId ++ " provider=" ++ pyStr provider)
  let test ← retry ("Profile test (" ++ name ++ ")")
    (requestJson "POST" ("/profiles/" ++ pyStr profileId ++ "/test") .null none) 15 1
  let ok ← pyGet test "ok"
  if !ok.truthy then throw (runtimeError ("Profile test failed: " ++ pyStr test))
  log "Profile test OK"
  retry ("Ensure bucket (" ++ name ++ ")") (ensureBucket profileId bucket) 10 ⟨8, 1⟩
  log ("Bucket OK: " ++ bucket)
  policyStage name (Dict.get payload "provider") profileId bucket
  let upload ← requestJson "POST" "/uploads" profileId
    (some (.obj [("bucket", .str bucket), ("prefix", .str "")]))
  let uploadId ← pyIndex upload "uploadId"
  log ("Created upload session id=" ++ pyStr uploadId)
  let (mpBody, mpType) ← multipartForm [("hello.txt", helloContent name)]
  let _ ← request "POST" ("/uploads/" ++ pyStr uploadId ++ "/files") profileId none (some mpBody)
    (some mpType) (some "application/json")
  log "Uploaded file to staging"
  let created ← requestJson "POST" ("/uploads/" ++ pyStr uploadId ++ "/commit") profileId
    (some (.obj []))
  let jobId ← pyIndex created "jobId"
  log ("Commit started job=" ++ pyStr jobId)
  pollJob fuel jobId profileId
  log "Commit job succeeded"
  let downloaded ← requestBytes "GET"
    ("/buckets/" ++ bucket ++ "/objects/download?key=" ++ Py.quote "hello.txt") profileId
  if downloaded ≠ helloContent name then
    throw (runtimeError ("Downloaded content mismatch: expected=" ++ Py.bytesRepr (helloContent name) ++
      " got=" ++ Py.bytesRepr downloaded))
  log "Download OK"

/-- The MinIO profile (lines 559–569). -/
def minioPayload : Dict :=
  [("provider", .str "s3_compatible"), ("name", .str "e2e-minio"),
    ("endpoint", .str "http://minio:9000"), ("region", .str "us-east-1"),
    ("accessKeyId", .str "minioadmin"), ("secretAccessKey", .str "minioadmin"),
    ("forcePathStyle", .bool true), ("preserveLeadingSlash", .bool false),
    ("tlsInsecureSkipVerify", .bool false)]

/-- The Azurite profile (lines 577–589), with the emulator's well-known account key. -/
def azuritePayload : Dict :=
  [("provider", .str "azure_blob"), ("name", .str "e2e-azurite"),
    ("accountName", .str "devstoreaccount1"),
    ("accountKey",
      .str "Eby8vdM02xNOcqFlqUwJPLlmEtlCDXJ1OUzFT50uSRZ6IFsuFq2UVErCz4I6tq/K1SZFPTOtr/KBHBeksoGMGw=="),
    ("endpoint", .str "http://azurite:10000/devstoreaccount1"), ("useEmulator", .bool true),
    ("preserveLeadingSlash", .bool false), ("tlsInsecureSkipVerify", .bool false)]

/-- The fake-gcs-server profile (lines 597–607). -/
def fakeGcsPayload : Dict :=
  [("provider", .str "gcp_gcs"), ("name", .str "e2e-fake-gcs"), ("projectNumber", .str "1234567890"),
    ("anonymous", .bool true), ("endpoint", .str "http://fake-gcs-server:4443"),
    ("preserveLeadingSlash", .bool false), ("tlsInsecureSkipVerify", .bool false)]

/-- `main()` (lines 553–613). -/
def runnerMain (fuel : Nat) : Run σ Nat := do
  waitForServer fuel 120
  runScenario fuel "minio" minioPayload "e2e-minio" "minio:9000"
  runScenario fuel "azurite" azuritePayload "e2e-azurite" "azurite:10000"
  runScenario fuel "fake-gcs" fakeGcsPayload "e2e-fake-gcs" "fake-gcs-server:4443"
  log "\nAll E2E scenarios passed"
  pure 0

/-- The entry point (lines 616–621): a failure of `main()` is logged and raised again. -/
def runnerEntry (fuel : Nat) : Run σ Nat :=
  tryCatch (runnerMain fuel) fun e => do
    log ("E2E failed: " ++ e.str)
    throw e

end Code

/-- The GCS branch of the policy stage is the wrapper `S3Desk.Runner.GcsBackend` studies. -/
theorem policyStage_gcs (profileId : Json) (bucket : String) :
    (policyStage "fake-gcs" (.str "gcp_gcs") profileId bucket : Run GcsWorld Unit) =
      gcsScenarioPolicy profileId bucket := rfl

end S3Desk.Runner
