/-
# S3Desk.Runner.ApiServer — a server as the e2e runner expects it

The backend the runner drives is not part of this repository. `apiServe` is the API its requests
presuppose: profiles, buckets, per-bucket policies whose shape follows the profile's provider
(S3: a document that exists or not; Azure: a container ACL that resets to private; GCS: an IAM
policy that cannot be deleted), upload sessions that read their body with the RFC 2046 reader of
`S3Desk.Mime`, commit jobs that stay `running` for a fixed number of polls and then write the
staged files, and downloads. Requests need the API token; every resource but `/meta`, `/profiles`
and a profile's test needs the `X-Profile-Id` of a known profile. `apiEnv` puts the server behind
`urlopen`, with a clock that moves only when the runner sleeps.

§2 shows that the server reads the runner's URLs as the runner means them: a path built from
segments with no `/` or `?` splits back into those segments (`splitUrl_pathChars`), and the ids
the server hands out are such segments. §3 states the server's answer to a request as what
`request_json` returns.

Boundary. The server keys buckets, policies and objects by name alone, not by profile, and it
answers a download with the object's bytes only: `request_bytes` reads nothing else of the
reply, so the body's text and JSON readings are left undecoded. A table is a list read from the
front, where a change puts a new entry in front.
-/
import S3Desk.Runner.Scenario

namespace S3Desk.Runner

open Json Policy Mime

/-! ## §1 — the server -/

/-- An upload session: its bucket and the files staged so far, as name and content bytes. -/
structure Upload where
  bucket : String
  files : List (List UInt8 × List UInt8)
  deriving DecidableEq, Repr

/-- A commit job: the polls it still answers `running`, the files it writes, and whether it has
written them. -/
structure Job where
  running : Nat
  bucket : String
  files : List (List UInt8 × List UInt8)
  written : Bool
  deriving DecidableEq, Repr

/-- The server's tables and the clock. A table is read from the front, and a change puts a new
entry in front. -/
structure ApiWorld where
  now : Decimal
  nextId : Nat
  profiles : List (String × Json)
  buckets : List String
  policies : List (String × Option Json)
  uploads : List (String × Upload)
  jobs : List (String × Job)
  objects : List ((String × List UInt8) × List UInt8)

/-- The server as it starts: no profiles, buckets, sessions, jobs or objects, the clock at `0`. -/
def ApiWorld.start : ApiWorld := ⟨0, 0, [], [], [], [], [], []⟩

/-- The entry of `id` in a table. -/
def lookupId {α : Type} (id : String) (t : List (String × α)) : Option α :=
  (t.find? fun e => e.1 = id).map (·.2)

/-- The address the runner reaches the server at when `BASE_URL` is unset. -/
def serverBase : String := "http://localhost:8080"

/-- A path's segments between its slashes: `/a/b` has the segments `""`, `a` and `b`. -/
def segs : List Char → List (List Char)
  | [] => [[]]
  | c :: cs => if c = '/' then [] :: segs cs else
    match segs cs with
    | [] => [[c]]
    | w :: ws => (c :: w) :: ws

/-- A URL's path and its query, split at the first `?`. -/
def splitQuery : List Char → List Char × List Char
  | [] => ([], [])
  | c :: cs => if c = '?' then ([], cs) else ((c :: (splitQuery cs).1), (splitQuery cs).2)

/-- The path segments and query of a URL on the server. -/
def splitUrl (url : String) : Option (List String × List Char) :=
  if serverBase.toList.isPrefixOf url.toList then
    let pq := splitQuery (url.toList.drop serverBase.length)
    some ((segs pq.1).map String.mk, pq.2)
  else none

/-- The server's resources. -/
inductive Route where
  | meta
  | profiles
  | profileTest (id : String)
  | buckets
  | policy (bucket : String)
  | validate (bucket : String)
  | download (bucket : String)
  | uploads
  | uploadFiles (id : String)
  | commit (id : String)
  | job (id : String)
  | jobLogs (id : String)
  deriving DecidableEq, Repr

/-- The resource a path names. -/
def route : List String → Option Route
  | ["", "meta"] => some .meta
  | ["", "profiles"] => some .profiles
  | ["", "profiles", id, "test"] => some (.profileTest id)
  | ["", "buckets"] => some .buckets
  | ["", "buckets", b, "policy"] => some (.policy b)
  | ["", "buckets", b, "policy", "validate"] => some (.validate b)
  | ["", "buckets", b, "objects", "download"] => some (.download b)
  | ["", "uploads"] => some .uploads
  | ["", "uploads", id, "files"] => some (.uploadFiles id)
  | ["", "uploads", id, "commit"] => some (.commit id)
  | ["", "jobs", id] => some (.job id)
  | ["", "jobs", id, "logs"] => some (.jobLogs id)
  | _ => none

/-- A JSON answer. -/
def jsonReply (v : Json) : Reply := .response 200 [] (Body.ofJson v)

/-- The reason phrase of the statuses the server answers with. -/
def reasonPhrase : Nat → String
  | 400 => "Bad Request"
  | 401 => "Unauthorized"
  | 404 => "Not Found"
  | 405 => "Method Not Allowed"
  | 409 => "Conflict"
  | _ => ""

/-- An error answer `{"error": {"code": code}}`. -/
def errorReply (status : Nat) (code : String) : Reply :=
  .httpError status (reasonPhrase status) (some []) (Body.ofJson (errorDoc code))

/-- A raw answer: the bytes, with no text or JSON reading. -/
def bytesReply (bs : List UInt8) : Reply :=
  let e := Exn.error "UnicodeDecodeError" "undecoded"
  .response 200 [] ⟨bs, "", .error e, .error e⟩

/-- How a provider keeps a bucket's policy. -/
inductive PolicyKind where
  | s3
  | azure
  | gcs
  | unsupported
  deriving DecidableEq, Repr

/-- The policy model of a profile's provider. -/
def policyKind (provider : Json) : PolicyKind :=
  if isS3Provider provider then .s3
  else if provider = .str "azure_blob" then .azure
  else if provider = .str "gcp_gcs" then .gcs
  else .unsupported

/-- An Azure container with no public access and no stored access policy. -/
def azurePrivate : Json := .obj [("publicAccess", .str "private"), ("storedAccessPolicies", .arr [])]

/-- `GET /buckets/{bucket}/policy` with `stored` the policy set last (`none` when unset or
deleted). -/
def policyView (kind : PolicyKind) (bucket : String) (stored : Option Json) : Dict :=
  match kind with
  | .s3 => [("bucket", .str bucket), ("exists", .bool stored.isSome), ("policy", stored.getD .null)]
  | .azure =>
    [("bucket", .str bucket), ("exists", .bool stored.isSome), ("policy", stored.getD azurePrivate)]
  | _ => [("bucket", .str bucket), ("exists", .bool true), ("policy", stored.getD (.obj defaultPolicy))]

/-- The bytes of an RFC 3986 unreserved character, and `/`: what `urllib.parse.quote` keeps. -/
def quoteSafe (b : UInt8) : Bool :=
  let n := b.toNat
  (48 ≤ n && n ≤ 57) || (65 ≤ n && n ≤ 90) || (97 ≤ n && n ≤ 122) || n = 95 || n = 46 || n = 45 ||
    n = 126 || n = 47

/-- A key's bytes as they stand in a query: safe bytes as they are, the others as `%XX`. -/
def percentEncode (bs : List UInt8) : List Char :=
  bs.flatMap fun b =>
    if quoteSafe b then [Char.ofNat b.toNat]
    else ['%', Py.hexDigit true (b.toNat / 16), Py.hexDigit true (b.toNat % 16)]

/-- The boundary named by a `multipart/form-data` content type. -/
def formBoundary (ct : String) : Option String :=
  let p := "multipart/form-data; boundary="
  if p.toList.isPrefixOf ct.toList then some (String.mk (ct.toList.drop p.length)) else none

/-- The files of a form body: the parts that are fields named `files`, as name and content. -/
def formFiles (parts : List Part) : List (List UInt8 × List UInt8) :=
  parts.filterMap fun p => (formFile p).bind fun (field, filename, content) =>
    if field = Py.utf8 "files" then some (filename, content) else none

/-- The policy set last on bucket `b` (`none` when unset or deleted). -/
def storedPolicy (policies : List (String × Option Json)) (b : String) : Option Json :=
  (lookupId b policies).join

/-- The id the server hands out next. -/
def freshId (tag : String) (s : ApiWorld) : String := tag ++ toString s.nextId

section Serve

variable (jobPolls : Nat) (r : Request) (s : ApiWorld)

/-- `POST /profiles`: a new profile with the payload's provider. -/
def createProfile : Reply × ApiWorld :=
  match r.data with
  | .json (.obj payload) =>
    let id := freshId "p" s
    (jsonReply (.obj [("id", .str id), ("provider", Dict.get payload "provider")]),
      { s with nextId := s.nextId + 1, profiles := (id, Dict.get payload "provider") :: s.profiles })
  | _ => (errorReply 400 "invalid_request", s)

/-- `POST /buckets`: a bucket of a name not yet taken. -/
def createBucket : Reply × ApiWorld :=
  match r.data with
  | .json (.obj d) =>
    match Dict.get d "name" with
    | .str b =>
      if b ∈ s.buckets then (errorReply 409 "bucket_exists", s)
      else (jsonReply (.obj [("name", .str b)]),
        { s with buckets := b :: s.buckets, policies := (b, none) :: s.policies })
    | _ => (errorReply 400 "invalid_request", s)
  | _ => (errorReply 400 "invalid_request", s)

/-- `GET /buckets`. -/
def listBuckets : Reply := jsonReply (.arr (s.buckets.map fun b => .obj [("name", .str b)]))

/-- The policy endpoint of an existing bucket. -/
def servePolicy (kind : PolicyKind) (b : String) : Reply × ApiWorld :=
  let stored := storedPolicy s.policies b
  if kind = .unsupported then (errorReply 400 "bucket_policy_unsupported", s)
  else if r.method = "GET" then (jsonReply (.obj (policyView kind b stored)), s)
  else if r.method = "PUT" then
    match r.data with
    | .json (.obj d) => (.response 200 [] Body.empty, { s with policies := (b, some (Dict.get d "policy")) :: s.policies })
    | _ => (errorReply 400 "invalid_request", s)
  else if r.method = "DELETE" then
    if kind = .gcs then (errorReply 400 "bucket_policy_delete_unsupported", s)
    else (.response 200 [] Body.empty, { s with policies := (b, none) :: s.policies })
  else (errorReply 405 "method_not_allowed", s)

/-- `POST /uploads`: a new session for an existing bucket. -/
def createUpload : Reply × ApiWorld :=
  match r.data with
  | .json (.obj d) =>
    match Dict.get d "bucket" with
    | .str b =>
      if b ∈ s.buckets then
        let id := freshId "u" s
        (jsonReply (.obj [("uploadId", .str id)]),
          { s with nextId := s.nextId + 1, uploads := (id, ⟨b, []⟩) :: s.uploads })
      else (errorReply 404 "bucket_not_found", s)
    | _ => (errorReply 400 "invalid_request", s)
  | _ => (errorReply 400 "invalid_request", s)

/-- `POST /uploads/{id}/files`: the form's files join the session's. -/
def stageFiles (id : String) : Reply × ApiWorld :=
  match lookupId id s.uploads, r.data, (headerGet r.headers "Content-Type").bind formBoundary with
  | some u, .bytes body, some bd =>
    match parseFormData (Py.utf8 bd) body with
    | some parts =>
      (jsonReply (.obj []), { s with uploads := (id, { u with files := u.files ++ formFiles parts }) :: s.uploads })
    | none => (errorReply 400 "invalid_multipart", s)
  | none, _, _ => (errorReply 404 "upload_not_found", s)
  | _, _, _ => (errorReply 400 "invalid_request", s)

/-- `POST /uploads/{id}/commit`: a job that stays `running` for `jobPolls` polls. -/
def commitUpload (id : String) : Reply × ApiWorld :=
  match lookupId id s.uploads with
  | some u =>
    let jid := freshId "j" s
    (jsonReply (.obj [("jobId", .str jid)]),
      { s with nextId := s.nextId + 1, jobs := (jid, ⟨jobPolls, u.bucket, u.files, false⟩) :: s.jobs })
  | none => (errorReply 404 "upload_not_found", s)

/-- `GET /jobs/{id}`: a running job counts down; a finished one writes its files, once. -/
def pollJobAt (id : String) : Reply × ApiWorld :=
  match lookupId id s.jobs with
  | some j =>
    match j.running with
    | n + 1 => (jsonReply (.obj [("status", .str "running")]), { s with jobs := (id, { j with running := n }) :: s.jobs })
    | 0 =>
      (jsonReply (.obj [("status", .str "succeeded")]),
        if j.written then s
        else
          { s with
            jobs := (id, { j with written := true }) :: s.jobs
            objects := j.files.map (fun f => ((j.bucket, f.1), f.2)) ++ s.objects })
  | none => (errorReply 404 "job_not_found", s)

/-- `GET /buckets/{b}/objects/download?key=…`: the newest object of that key. -/
def downloadObject (b : String) (query : List Char) : Reply :=
  match s.objects.find? fun o => o.1.1 = b ∧ "key=".toList ++ percentEncode o.1.2 = query with
  | some o => bytesReply o.2
  | none => errorReply 404 "object_not_found"

/-- A resource, for the provider of the profile the request names. -/
def serveScoped (provider : Json) (query : List Char) : Route → Reply × ApiWorld
  | .buckets => if r.method = "POST" then createBucket r s else (listBuckets s, s)
  | .policy b =>
    if b ∈ s.buckets then servePolicy r s (policyKind provider) b else (errorReply 404 "bucket_not_found", s)
  | .validate b =>
    if b ∈ s.buckets then (jsonReply (.obj [("ok", .bool true)]), s) else (errorReply 404 "bucket_not_found", s)
  | .download b => (downloadObject s b query, s)
  | .uploads => createUpload r s
  | .uploadFiles id => stageFiles r s id
  | .commit id => commitUpload jobPolls s id
  | .job id => pollJobAt s id
  | .jobLogs _ => (.response 200 [] Body.empty, s)
  | _ => (errorReply 404 "not_found", s)

/-- A resource of the server. -/
def serveRoute (query : List Char) : Route → Reply × ApiWorld
  | .meta => (jsonReply (.obj [("version", .str "e2e")]), s)
  | .profiles => createProfile r s
  | .profileTest id =>
    if (lookupId id s.profiles).isSome then (jsonReply (.obj [("ok", .bool true)]), s)
    else (errorReply 404 "profile_not_found", s)
  | rt =>
    match (headerGet r.headers "X-Profile-Id").bind fun p => lookupId p s.profiles with
    | some provider => serveScoped jobPolls r s provider query rt
    | none => (errorReply 400 "profile_required", s)

/-- The server's answer to a request, and its state after. -/
def apiServe : Reply × ApiWorld :=
  if headerGet r.headers "X-Api-Token" ≠ some "change-me" then (errorReply 401 "unauthorized", s)
  else
    match splitUrl r.url with
    | none => (errorReply 404 "not_found", s)
    | some (path, query) =>
      match route path with
      | some rt => serveRoute jobPolls r s query rt
      | none => (errorReply 404 "not_found", s)

end Serve

/-- The runner's outside: the server, whose jobs stay `running` for `jobPolls` polls, a clock
that moves only when the runner sleeps, `uuid4().hex` returning `hex`, and no environment
variables set. -/
def apiEnv (jobPolls : Nat) (hex : String) : Env ApiWorld where
  environ _ := none
  exchange r s := apiServe jobPolls r s
  time s := (s.now, s)
  sleep d s := { s with now := s.now + d }
  uuidHex s := (hex, s)

/-! ## §2 — the server reads the runner's paths -/

/-- A path segment that needs no escaping: no `/` and no `?`. -/
def segmentSafe (a : String) : Bool := a.toList.all fun c => c ≠ '/' && c ≠ '?'

/-- `/a₁/a₂/…` -/
def pathChars : List String → List Char
  | [] => []
  | a :: as => '/' :: (a.toList ++ pathChars as)

/-- The resources a request may name without a profile. -/
def Route.scoped : Route → Bool
  | .meta | .profiles | .profileTest _ => false
  | _ => true

theorem segs_of_not_mem {xs : List Char} (h : '/' ∉ xs) : segs xs = [xs] := by
  induction xs with
  | nil => rfl
  | cons c cs ih =>
    rw [List.mem_cons, not_or] at h
    rw [segs, if_neg (Ne.symm h.1), ih h.2]

theorem segs_append_slash {xs : List Char} (h : '/' ∉ xs) (ys : List Char) :
    segs (xs ++ '/' :: ys) = xs :: segs ys := by
  induction xs with
  | nil => rfl
  | cons c cs ih =>
    rw [List.mem_cons, not_or] at h
    rw [List.cons_append, segs, if_neg (Ne.symm h.1), ih h.2]

theorem splitQuery_of_not_mem {xs : List Char} (h : '?' ∉ xs) : splitQuery xs = (xs, []) := by
  induction xs with
  | nil => rfl
  | cons c cs ih =>
    rw [List.mem_cons, not_or] at h
    rw [splitQuery, if_neg (Ne.symm h.1), ih h.2]

theorem splitQuery_append {xs : List Char} (h : '?' ∉ xs) (ys : List Char) :
    splitQuery (xs ++ '?' :: ys) = (xs, ys) := by
  induction xs with
  | nil => simp [splitQuery]
  | cons c cs ih =>
    rw [List.mem_cons, not_or] at h
    rw [List.cons_append, splitQuery, if_neg (Ne.symm h.1), ih h.2]

theorem not_mem_of_segmentSafe {a : String} (h : segmentSafe a = true) :
    '/' ∉ a.toList ∧ '?' ∉ a.toList :=
  ⟨fun hc => by simpa using List.all_eq_true.mp h _ hc, fun hc => by simpa using List.all_eq_true.mp h _ hc⟩

theorem segs_append_pathChars (a : String) (as : List String) (h : ∀ b ∈ a :: as, segmentSafe b = true) :
    segs (a.toList ++ pathChars as) = (a :: as).map String.toList := by
  induction as generalizing a with
  | nil =>
    rw [pathChars, List.append_nil, segs_of_not_mem (not_mem_of_segmentSafe (h a (List.mem_cons_self _ _))).1]
    rfl
  | cons b as ih =>
    rw [pathChars, segs_append_slash (not_mem_of_segmentSafe (h a (List.mem_cons_self _ _))).1,
      ih b fun c hc => h c (List.mem_cons_of_mem _ hc)]
    rfl

theorem not_mem_pathChars {as : List String} (h : ∀ a ∈ as, segmentSafe a = true) : '?' ∉ pathChars as := by
  induction as with
  | nil => simp [pathChars]
  | cons a as ih =>
    simp only [pathChars, List.mem_cons, List.mem_append, not_or]
    exact ⟨by decide, (not_mem_of_segmentSafe (h a (List.mem_cons_self _ _))).2,
      ih fun b hb => h b (List.mem_cons_of_mem _ hb)⟩

theorem splitUrl_base (p : String) :
    splitUrl (serverBase ++ p) =
      some ((segs (splitQuery p.toList).1).map String.mk, (splitQuery p.toList).2) := by
  have hp : (serverBase ++ p).toList = serverBase.toList ++ p.toList := String.data_append _ _
  rw [splitUrl, if_pos (List.isPrefixOf_iff_prefix.mpr (hp ▸ List.prefix_append _ _)), hp,
    @List.drop_left' Char serverBase.toList p.toList serverBase.length rfl]

theorem map_mk_toList (as : List String) : (as.map String.toList).map String.mk = as := by
  induction as with
  | nil => rfl
  | cons a as ih => rw [List.map_cons, List.map_cons, ih]; rfl

/-- A path of safe segments reaches the server as those segments. -/
theorem splitUrl_pathChars {p : String} (a : String) (as : List String) (hp : p.toList = pathChars (a :: as))
    (h : ∀ b ∈ a :: as, segmentSafe b = true) : splitUrl (serverBase ++ p) = some ("" :: a :: as, []) := by
  rw [splitUrl_base, hp, splitQuery_of_not_mem (not_mem_pathChars h), pathChars,
    show '/' :: (a.toList ++ pathChars as) = [] ++ '/' :: (a.toList ++ pathChars as) from rfl,
    segs_append_slash (List.not_mem_nil _), segs_append_pathChars a as h, List.map_cons, map_mk_toList]

/-- The same with a query. -/
theorem splitUrl_pathChars_query {p : String} (a : String) (as : List String) {q : List Char}
    (hp : p.toList = pathChars (a :: as) ++ '?' :: q)
    (h : ∀ b ∈ a :: as, segmentSafe b = true) : splitUrl (serverBase ++ p) = some ("" :: a :: as, q) := by
  rw [splitUrl_base, hp, splitQuery_append (not_mem_pathChars h), pathChars,
    show '/' :: (a.toList ++ pathChars as) = [] ++ '/' :: (a.toList ++ pathChars as) from rfl,
    segs_append_slash (List.not_mem_nil _), segs_append_pathChars a as h, List.map_cons, map_mk_toList]

theorem digitChar_safe : ∀ d < 10, Nat.digitChar d ≠ '/' ∧ Nat.digitChar d ≠ '?' := by
  decide

/-- The ids the server hands out are safe segments. -/
theorem segmentSafe_freshId {tag : String} (htag : segmentSafe tag = true) (s : ApiWorld) :
    segmentSafe (freshId tag s) = true := by
  refine List.all_eq_true.mpr fun c hc => ?_
  rcases List.mem_append.mp hc with h | h
  · exact List.all_eq_true.mp htag c h
  rcases Py.mem_toDigitsCore h with h | ⟨m, rfl⟩
  · simp at h
  · simpa using digitChar_safe _ (Nat.mod_lt m (by decide : 10 > 0))

theorem freshId_ne_empty (tag : String) (htag : tag ≠ "") (s : ApiWorld) : freshId tag s ≠ "" := by
  intro h
  exact htag (String.ext (List.append_eq_nil.mp (congrArg String.data h)).1)

/-! ## §3 — the server's answers to the runner's requests -/

theorem formBoundary_multipart (hex : String) :
    formBoundary ("multipart/form-data; boundary=" ++ hex) = some hex := by
  have hp : ("multipart/form-data; boundary=" ++ hex).toList =
      "multipart/form-data; boundary=".toList ++ hex.toList := String.data_append _ _
  rw [formBoundary, if_pos (List.isPrefixOf_iff_prefix.mpr (hp ▸ List.prefix_append _ _)), hp,
    @List.drop_left' Char "multipart/form-data; boundary=".toList hex.toList
      "multipart/form-data; boundary=".length rfl]
  rfl

/-- A form whose parts are the file fields named `files` stages exactly those files. -/
theorem formFiles_eq {parts : List Part} {files : List (String × List UInt8)}
    (h : parts.map formFile = files.map fun f => some (Py.utf8 "files", Py.utf8 f.1, f.2)) :
    formFiles parts = files.map fun f => (Py.utf8 f.1, f.2) := by
  induction files generalizing parts with
  | nil => simp_all [formFiles]
  | cons f fs ih =>
    obtain ⟨p, ps, rfl⟩ := List.exists_cons_of_ne_nil (show parts ≠ [] by rintro rfl; simp at h)
    simp only [List.map_cons, List.cons.injEq] at h
    simp [formFiles, h.1, ← ih h.2]

section Answers

variable {k : Nat} {hex : String} {s : ApiWorld}

@[simp] theorem apiEnv_exchange (r : Request) (s : ApiWorld) : (apiEnv k hex).exchange r s = apiServe k r s :=
  rfl

@[simp] theorem apiEnv_time (s : ApiWorld) : (apiEnv k hex).time s = (s.now, s) := rfl

@[simp] theorem apiEnv_sleep (d : Decimal) (s : ApiWorld) : (apiEnv k hex).sleep d s = { s with now := s.now + d } :=
  rfl

@[simp] theorem apiEnv_environ (name : String) : (apiEnv k hex).environ name = none := rfl

@[simp] theorem apiEnv_uuidHex (s : ApiWorld) : (apiEnv k hex).uuidHex s = (hex, s) := rfl

@[simp] theorem lookupId_cons_self {α : Type} (id : String) (a : α) (t : List (String × α)) :
    lookupId id ((id, a) :: t) = some a := by
  simp [lookupId]

@[simp] theorem storedPolicy_cons_self (b : String) (p : Option Json) (ps : List (String × Option Json)) :
    storedPolicy ((b, p) :: ps) b = p := by
  simp [storedPolicy]

theorem lookupId_cons_of_ne {α : Type} {id id' : String} (h : id' ≠ id) (a : α) (t : List (String × α)) :
    lookupId id ((id', a) :: t) = lookupId id t := by
  simp [lookupId, h]

theorem apiServe_route {r : Request} {path : List String} {query : List Char} {rt : Route}
    (htok : headerGet r.headers "X-Api-Token" = some "change-me")
    (hurl : splitUrl r.url = some (path, query)) (hroute : route path = some rt) :
    apiServe k r s = serveRoute k r s query rt := by
  rw [apiServe, htok, if_neg (by simp), hurl]
  dsimp only
  rw [hroute]

theorem serveRoute_scoped {r : Request} {query : List Char} {rt : Route} {provider : Json}
    (hs : rt.scoped = true)
    (hprof : (headerGet r.headers "X-Profile-Id").bind (fun p => lookupId p s.profiles) = some provider) :
    serveRoute k r s query rt = serveScoped k r s provider query rt := by
  cases rt <;> simp only [Route.scoped, Bool.false_eq_true] at hs <;> (unfold serveRoute; simp only [hprof])

theorem baseUrl_none : baseUrl none = serverBase := by decide

/-- The headers `_request` sends. -/
theorem buildRequest_headers (baseEnv tokenEnv : Option String) (method path : String) (pid : Json)
    (jsonBody : Option Json) (body : Option (List UInt8)) (ct accept : Option String) :
    (buildRequest baseEnv tokenEnv method path pid jsonBody body ct accept).headers =
      [("X-Api-Token", apiToken tokenEnv)] ++
        (if pid.truthy then [("X-Profile-Id", pyStr pid)] else []) ++
        (if truthyStr accept then [("Accept", accept.getD "")] else []) ++
        (match jsonBody, body with
          | some _, _ => [("Content-Type", "application/json")]
          | none, some _ => if truthyStr ct then [("Content-Type", ct.getD "")] else []
          | none, none => []) := by
  unfold buildRequest
  cases jsonBody <;> cases body <;> by_cases hp : pid.truthy <;> by_cases ha : truthyStr accept <;>
    by_cases hc : truthyStr ct <;> simp [hp, ha, hc]

theorem buildRequest_token (tokenEnv : Option String) (baseEnv : Option String) (method path : String)
    (pid : Json) (jsonBody : Option Json) (body : Option (List UInt8)) (ct accept : Option String) :
    headerGet (buildRequest baseEnv tokenEnv method path pid jsonBody body ct accept).headers "X-Api-Token" =
      some (apiToken tokenEnv) := by
  rw [buildRequest_headers]
  simp [headerGet]

theorem buildRequest_profile (baseEnv tokenEnv : Option String) (method path id : String) (hid : id ≠ "")
    (jsonBody : Option Json) (body : Option (List UInt8)) (ct accept : Option String) :
    headerGet (buildRequest baseEnv tokenEnv method path (.str id) jsonBody body ct accept).headers
      "X-Profile-Id" = some id := by
  have : id.isEmpty = false := Bool.eq_false_iff.mpr fun h => hid ((String.isEmpty_iff _).mp h)
  rw [buildRequest_headers]
  simp [headerGet, Json.truthy, this, pyStr]

@[simp] theorem buildRequest_data_bytes (baseEnv tokenEnv : Option String) (method path : String)
    (pid : Json) (body : List UInt8) (ct accept : Option String) :
    (buildRequest baseEnv tokenEnv method path pid none (some body) ct accept).data = .bytes body := rfl

theorem buildRequest_contentType (baseEnv tokenEnv : Option String) (method path : String) (pid : Json)
    (body : List UInt8) {ct : String} (hct : ct ≠ "") (accept : Option String) :
    headerGet (buildRequest baseEnv tokenEnv method path pid none (some body) (some ct) accept).headers
      "Content-Type" = some ct := by
  have hct' : truthyStr (some ct) = true := by simp [truthyStr, hct]
  rw [buildRequest_headers]
  split_ifs <;> simp [headerGet, hct']

theorem jsonRequest_token (method path : String) (pid : Json) (body : Option Json) :
    headerGet (jsonRequest (apiEnv k hex) method path pid body).headers "X-Api-Token" = some "change-me" :=
  buildRequest_token _ _ _ _ _ _ _ _ _

theorem jsonRequest_url (method path : String) (pid : Json) (body : Option Json) :
    (jsonRequest (apiEnv k hex) method path pid body).url = serverBase ++ path := by
  simp [jsonRequest, apiEnv, baseUrl_none]

/-- A request naming a known profile is served for that profile's provider. -/
theorem profileOf_buildRequest {method path id : String} (hid : id ≠ "") {provider : Json}
    (hp : lookupId id s.profiles = some provider) (baseEnv tokenEnv : Option String) (jsonBody : Option Json)
    (body : Option (List UInt8)) (ct accept : Option String) :
    (headerGet (buildRequest baseEnv tokenEnv method path (.str id) jsonBody body ct accept).headers
      "X-Profile-Id").bind (fun p => lookupId p s.profiles) = some provider := by
  rw [buildRequest_profile _ _ _ _ _ hid]
  exact hp

theorem profileOf_jsonRequest {method path id : String} (hid : id ≠ "") {body : Option Json} {provider : Json}
    (hp : lookupId id s.profiles = some provider) :
    (headerGet (jsonRequest (apiEnv k hex) method path (.str id) body).headers "X-Profile-Id").bind
      (fun p => lookupId p s.profiles) = some provider :=
  profileOf_buildRequest hid hp ..

@[simp] theorem replyResult_jsonReply (method path : String) (v : Json) :
    replyResult method path (jsonReply v) = (.ok (200, [], Body.ofJson v), []) := rfl

theorem jsonResult_ofJson_arr (method path : String) (hs : List (String × String)) (xs : List Json) :
    jsonResult method path (200, hs, Body.ofJson (.arr xs)) = .ok (.arr xs) := by
  simp only [jsonResult, statusResult, Outcome.bind, Body.ofJson]
  rfl

/-- A request of the runner reaches the resource its path names. -/
theorem requestJson_apiEnv {method path : String} {pid : Json} {body : Option Json}
    {segsP : List String} {query : List Char} {rt : Route}
    (hurl : splitUrl (serverBase ++ path) = some (segsP, query)) (hroute : route segsP = some rt)
    (s : ApiWorld) (out : List String) :
    requestJson method path pid body (apiEnv k hex) ⟨s, out⟩ =
      let x := serveRoute k (jsonRequest (apiEnv k hex) method path pid body) s query rt
      ((replyResult method path x.1).1.bind (jsonResult method path),
        ⟨x.2, out ++ (replyResult method path x.1).2⟩) := by
  rw [requestJson_apply, apiEnv_exchange,
    apiServe_route (jsonRequest_token ..) (by rw [jsonRequest_url]; exact hurl) hroute]

/-- So does a request of `_request`. -/
theorem request_apiEnv {method path : String} {pid : Json} {jsonBody : Option Json}
    {body : Option (List UInt8)} {ct accept : Option String} {segsP : List String} {query : List Char}
    {rt : Route} (hurl : splitUrl (serverBase ++ path) = some (segsP, query)) (hroute : route segsP = some rt)
    (s : ApiWorld) (out : List String) :
    request method path pid jsonBody body ct accept (apiEnv k hex) ⟨s, out⟩ =
      let x := serveRoute k (buildRequest none none method path pid jsonBody body ct accept) s query rt
      ((replyResult method path x.1).1, ⟨x.2, out ++ (replyResult method path x.1).2⟩) := by
  rw [request_apply]
  simp only [apiEnv_environ, apiEnv_exchange]
  rw [apiServe_route (buildRequest_token none ..) (by rw [buildRequest_url, baseUrl_none]; exact hurl) hroute]

section Reply

variable {method path : String} {pid : Json} {body : Option Json} {segsP : List String}
  {query : List Char} {rt : Route} {s' : ApiWorld}
  (hurl : splitUrl (serverBase ++ path) = some (segsP, query)) (hroute : route segsP = some rt)
include hurl hroute

/-- An object the server answers with is what `request_json` returns. -/
theorem requestJson_obj {d : Dict}
    (h : serveRoute k (jsonRequest (apiEnv k hex) method path pid body) s query rt = (jsonReply (.obj d), s'))
    (out : List String) :
    requestJson method path pid body (apiEnv k hex) ⟨s, out⟩ = (.ok (.obj d), ⟨s', out⟩) := by
  rw [requestJson_apiEnv hurl hroute]
  simp only [h, replyResult_jsonReply, Outcome.bind, jsonResult_ofJson_obj, List.append_nil]

/-- So is a list. -/
theorem requestJson_arr {xs : List Json}
    (h : serveRoute k (jsonRequest (apiEnv k hex) method path pid body) s query rt = (jsonReply (.arr xs), s'))
    (out : List String) :
    requestJson method path pid body (apiEnv k hex) ⟨s, out⟩ = (.ok (.arr xs), ⟨s', out⟩) := by
  rw [requestJson_apiEnv hurl hroute]
  simp only [h, replyResult_jsonReply, Outcome.bind, jsonResult_ofJson_arr, List.append_nil]

/-- An empty answer is `{}`. -/
theorem requestJson_empty
    (h : serveRoute k (jsonRequest (apiEnv k hex) method path pid body) s query rt =
      (.response 200 [] Body.empty, s'))
    (out : List String) :
    requestJson method path pid body (apiEnv k hex) ⟨s, out⟩ = (.ok (.obj []), ⟨s', out⟩) := by
  rw [requestJson_apiEnv hurl hroute]
  simp only [h, replyResult, headerDict, List.foldl_nil, Outcome.bind, jsonResult_empty, List.append_nil]

end Reply

end Answers

end S3Desk.Runner
