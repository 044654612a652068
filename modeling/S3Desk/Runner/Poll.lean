/-
# S3Desk.Runner.Poll — `wait_for_server` and `poll_job`

Both are deadline loops (lines 207–243): read `time.time()`, and while it is below the
deadline make one request and either stop or sleep a second and go round again. The model runs
a loop for at most the `fuel` iterations it is given and ends in `diverge` when they are used
up; a theorem that a loop ends gives it enough fuel and shows the outcome is not `diverge`.

§3 runs `poll_job` against a scripted job endpoint (`jobEnv`): the `i`-th poll is answered
`200` with the document `jobs i`, the `j`-th reading of the clock is `clock j`, and the log
request gets any reply at all. The endpoint records the method and URL of every request and
the length of every sleep, so that a theorem about the loop also says what it asked for and how
long it waited. `pollSpec` is the job state machine in the words of its purpose, the first of
the polls the deadline lets through whose status is terminal decides the end, and
`pollJob_jobEnv` shows the loop computes it, down to every request and every sleep. A response
that is not an object makes `job.get` raise `AttributeError` (`pollJob_listResponse`).

§4 does the same for `wait_for_server` against an endpoint with any replies at all
(`metaEnv`): `waitSpec` ends at the first reply that is a 2xx JSON object, or in the timeout
error naming the last failure, and `waitForServer_metaEnv` shows the loop computes it, every
request a `GET` of `/meta`.
-/
import S3Desk.Runner.Transport

namespace S3Desk.Runner

open Json

/-! ## §1 — the code -/

/-- Line 241's message. -/
def jobEndedMessage (jobId status err : Json) : String :=
  "Job " ++ pyStr jobId ++ " ended with status=" ++ pyStr status ++ ": " ++ pyStr err

/-- Line 243's message. -/
def jobTimeoutMessage (jobId : Json) : String := "Job " ++ pyStr jobId ++ " did not finish within 180s"

/-- `str(last_err)`. -/
def lastErrStr : Option Exn → String
  | some e => e.str
  | none => "None"

/-- Line 219's message. -/
def readyTimeoutMessage (timeoutS : Int) (lastErr : Option Exn) : String :=
  "Server did not become ready within " ++ toString timeoutS ++ "s: " ++ lastErrStr lastErr

section Code

variable {σ : Type}

/-- The body of `wait_for_server`'s `try` (lines 212–214). -/
def serverReady : Run σ Unit := do
  let meta ← requestJson "GET" "/meta" .null none
  let version ← pyGet meta "version"
  log ("Server ready: version=" ++ pyStr version)

/-- The `while` loop of `wait_for_server` (lines 210–218), for at most `fuel` iterations. -/
def waitLoop (timeoutS : Int) (deadline : Decimal) : Nat → Option Exn → Run σ Unit
  | 0, _ => Run.diverge
  | fuel + 1, lastErr => do
    let now ← time
    if now < deadline then
      tryCatch serverReady fun e => do
        sleep 1
        waitLoop timeoutS deadline fuel (some e)
    else throw (runtimeError (readyTimeoutMessage timeoutS lastErr))

/-- `wait_for_server(timeout_s)` (lines 207–219). -/
def waitForServer (fuel : Nat) (timeoutS : Int) : Run σ Unit := do
  let start ← time
  waitLoop timeoutS (start + ⟨timeoutS, 0⟩) fuel none

/-- Lines 229–237: the best-effort fetch of the job's log tail. -/
def fetchJobLogs (jobId profileId : Json) : Run σ Unit :=
  tryCatch
    (do
      let tail ← requestText "GET" ("/jobs/" ++ pyStr jobId ++ "/logs?tailBytes=65536") profileId
      if Py.strippedNonempty tail then do
        log "---- job logs (tail) ----"
        log (Py.rstrip tail)
        log "---- end job logs ----"
      else pure ())
    fun e => log ("(warn) failed to fetch job logs: " ++ e.str)

/-- The `while` loop of `poll_job` (lines 224–242), for at most `fuel` iterations. -/
def pollLoop (jobId profileId : Json) (deadline : Decimal) : Nat → Run σ Unit
  | 0 => Run.diverge
  | fuel + 1 => do
    let now ← time
    if now < deadline then do
      let job ← requestJson "GET" ("/jobs/" ++ pyStr jobId) profileId none
      let status ← pyGet job "status"
      if status = .str "succeeded" then pure ()
      else if status = .str "failed" ∨ status = .str "canceled" then do
        fetchJobLogs jobId profileId
        let err ← pyGet job "error"
        throw (runtimeError (jobEndedMessage jobId status err))
      else do
        sleep 1
        pollLoop jobId profileId deadline fuel
    else throw (runtimeError (jobTimeoutMessage jobId))

/-- `poll_job(job_id, profile_id=…)` (lines 221–243). -/
def pollJob (fuel : Nat) (jobId profileId : Json) : Run σ Unit := do
  let start ← time
  pollLoop jobId profileId (start + 180) fuel

end Code

/-! ## §2 — the job state machine -/

/-- The status a job document reports (`None` when it has none). -/
def jobStatus (d : Dict) : Json := Dict.get d "status"

/-- `succeeded`, `failed` and `canceled` end a job. -/
def isTerminal (st : Json) : Bool :=
  st = .str "succeeded" || st = .str "failed" || st = .str "canceled"

/-- How a poll ends: its outcome, the number of polls made, of log requests and of sleeps. -/
structure PollEnd where
  outcome : Outcome Unit
  polls : Nat
  logRequests : Nat
  sleeps : Nat
  deriving DecidableEq, Repr

/-- The poller over the documents `jobs i, …, jobs (i + m - 1)` that the deadline lets through:
the first whose status is terminal decides, `succeeded` ending normally and the other two in
the job-failure error after one log request; when there is none, the timeout error. Every poll
before the deciding one, and every poll when none decides, is followed by a sleep. -/
def pollSpecFrom (jobId : Json) (jobs : Nat → Dict) (i m : Nat) : PollEnd :=
  match (List.range' i m).find? fun j => isTerminal (jobStatus (jobs j)) with
  | some j =>
    if jobStatus (jobs j) = .str "succeeded" then ⟨.ok (), j + 1, 0, j⟩
    else ⟨.error (runtimeError (jobEndedMessage jobId (jobStatus (jobs j)) (Dict.get (jobs j) "error"))),
      j + 1, 1, j⟩
  | none => ⟨.error (runtimeError (jobTimeoutMessage jobId)), i + m, 0, i + m⟩

/-- The poller over the first `n` documents. -/
def pollSpec (jobId : Json) (jobs : Nat → Dict) (n : Nat) : PollEnd := pollSpecFrom jobId jobs 0 n

theorem pollSpecFrom_zero (jobId : Json) (jobs : Nat → Dict) (i : Nat) :
    pollSpecFrom jobId jobs i 0 = ⟨.error (runtimeError (jobTimeoutMessage jobId)), i, 0, i⟩ := by
  simp [pollSpecFrom]

/-- One document: a terminal status ends the poll, any other goes on to the next. -/
theorem pollSpecFrom_succ (jobId : Json) (jobs : Nat → Dict) (i m : Nat) :
    pollSpecFrom jobId jobs i (m + 1) =
      if isTerminal (jobStatus (jobs i)) then
        if jobStatus (jobs i) = .str "succeeded" then ⟨.ok (), i + 1, 0, i⟩
        else ⟨.error (runtimeError (jobEndedMessage jobId (jobStatus (jobs i))
          (Dict.get (jobs i) "error"))), i + 1, 1, i⟩
      else pollSpecFrom jobId jobs (i + 1) m := by
  unfold pollSpecFrom
  rw [List.range'_succ, List.find?_cons, show i + (m + 1) = i + 1 + m by omega]
  cases isTerminal (jobStatus (jobs i)) <;> rfl

/-! ## §3 — `poll_job` against a scripted job endpoint -/

/-- What a `poll_job` run changes outside: readings of the clock, polls answered, log requests,
and the method and URL of every request and the length of every sleep, in order. -/
structure PollWorld where
  reads : Nat
  polls : Nat
  logRequests : Nat
  asked : List (String × String)
  slept : List Decimal
  deriving DecidableEq, Repr

/-- The job's URL, with `BASE_URL` unset. -/
def jobUrl (jobId : Json) : String := baseUrl none ++ ("/jobs/" ++ pyStr jobId)

/-- The log request's URL, with `BASE_URL` unset. -/
def logsUrl (jobId : Json) : String :=
  baseUrl none ++ ("/jobs/" ++ pyStr jobId ++ "/logs?tailBytes=65536")

/-- The job endpoint and clock of a `poll_job` run: every request is recorded, a request for
the log tail gets `logsReply`, any other the next job document, `200` with `jobs i` for the
`i`-th; reading `j` of the clock is `clock j`, and every sleep is recorded. -/
def jobEnv (jobId : Json) (jobs : Nat → Json) (clock : Nat → Decimal) (logsReply : Reply) :
    Env PollWorld where
  environ _ := none
  exchange r s :=
    if r.url = logsUrl jobId then
      (logsReply, { s with logRequests := s.logRequests + 1, asked := s.asked ++ [(r.method, r.url)] })
    else (.response 200 [] (Body.ofJson (jobs s.polls)),
      { s with polls := s.polls + 1, asked := s.asked ++ [(r.method, r.url)] })
  time s := (clock s.reads, { s with reads := s.reads + 1 })
  sleep d s := { s with slept := s.slept ++ [d] }
  uuidHex s := ("", s)

section JobEnv

variable {jobId profileId : Json} {jobs : Nat → Dict} {clock : Nat → Decimal} {logsReply : Reply}

@[simp] theorem jobEnv_time (jobs : Nat → Json) (s : PollWorld) :
    (jobEnv jobId jobs clock logsReply).time s = (clock s.reads, { s with reads := s.reads + 1 }) := rfl

@[simp] theorem jobEnv_sleep (jobs : Nat → Json) (d : Decimal) (s : PollWorld) :
    (jobEnv jobId jobs clock logsReply).sleep d s = { s with slept := s.slept ++ [d] } := rfl

theorem jobUrl_ne_logsUrl (jobId : Json) : jobUrl jobId ≠ logsUrl jobId := by
  intro h
  have := congrArg String.length h
  simp only [jobUrl, logsUrl, String.length_append, show "/logs?tailBytes=65536".length = 21 by decide]
    at this
  omega

/-- A poll asks for the job and gets the next document. -/
theorem requestJson_jobEnv (s : PollWorld) (out : List String) :
    requestJson "GET" ("/jobs/" ++ pyStr jobId) profileId none
        (jobEnv jobId (fun i => .obj (jobs i)) clock logsReply) ⟨s, out⟩ =
      (.ok (.obj (jobs s.polls)),
        ⟨{ s with polls := s.polls + 1, asked := s.asked ++ [("GET", jobUrl jobId)] }, out⟩) := by
  rw [requestJson_apply]
  have hne : baseUrl none ++ ("/jobs/" ++ pyStr jobId) ≠ logsUrl jobId := jobUrl_ne_logsUrl jobId
  simp only [jsonRequest, buildRequest, jobEnv, if_neg hne, replyResult, Outcome.bind,
    jsonResult_ofJson_obj, List.append_nil, jobUrl]

/-- The log fetch asks for the log tail once and never raises. -/
theorem fetchJobLogs_jobEnv (s : PollWorld) (out : List String) :
    ∃ out', fetchJobLogs jobId profileId (jobEnv jobId (fun i => .obj (jobs i)) clock logsReply)
      ⟨s, out⟩ = (.ok (),
        ⟨{ s with logRequests := s.logRequests + 1, asked := s.asked ++ [("GET", logsUrl jobId)] },
          out'⟩) := by
  unfold fetchJobLogs
  rw [Run.tryCatch_apply, Run.bind_apply, requestText_apply]
  simp only [jobEnv, buildRequest, logsUrl, if_true]
  rcases h : (replyResult _ _ logsReply).1.bind (textResult _ _) with tail | e | _
  · by_cases hc : Py.strippedNonempty tail <;> simp [hc]
  · simp
  · exact absurd h (Outcome.bind_ne_diverge (replyResult_ne_diverge _ _ _) (textResult_ne_diverge _ _))

/-- The loop from poll `i` on, with `m` polls still inside the deadline; the `i` polls before
were each followed by a sleep. -/
theorem pollLoop_jobEnv (N : Nat) (hpass : ∀ j < N, clock (j + 1) < clock 0 + 180)
    (hstop : ¬ clock (N + 1) < clock 0 + 180) :
    ∀ (m i fuel : Nat) (out : List String), i + m = N → m < fuel →
      ∃ w, pollLoop jobId profileId (clock 0 + 180) fuel
          (jobEnv jobId (fun i => .obj (jobs i)) clock logsReply)
          ⟨⟨i + 1, i, 0, List.replicate i ("GET", jobUrl jobId), List.replicate i 1⟩, out⟩ =
          ((pollSpecFrom jobId jobs i m).outcome, w) ∧
        w.ext.polls = (pollSpecFrom jobId jobs i m).polls ∧
        w.ext.logRequests = (pollSpecFrom jobId jobs i m).logRequests ∧
        w.ext.asked = List.replicate (pollSpecFrom jobId jobs i m).polls ("GET", jobUrl jobId) ++
          List.replicate (pollSpecFrom jobId jobs i m).logRequests ("GET", logsUrl jobId) ∧
        w.ext.slept = List.replicate (pollSpecFrom jobId jobs i m).sleeps 1 := by
  intro m
  induction m with
  | zero =>
    intro i fuel out hi hf
    obtain ⟨fuel, rfl⟩ : ∃ f, fuel = f + 1 := ⟨fuel - 1, by omega⟩
    subst hi
    simp [pollLoop, jobEnv, hstop, pollSpecFrom_zero]
  | succ m ih =>
    intro i fuel out hi hf
    obtain ⟨fuel, rfl⟩ : ∃ f, fuel = f + 1 := ⟨fuel - 1, by omega⟩
    have hnow : clock (i + 1) < clock 0 + 180 := hpass i (by omega)
    rw [pollSpecFrom_succ]
    simp only [pollLoop, Run.bind_apply, time_apply, jobEnv_time, if_pos hnow, requestJson_jobEnv,
      pyGet_obj, Run.pure_apply, jobStatus, isTerminal]
    by_cases hsucc : Dict.get (jobs i) "status" = .str "succeeded"
    · simp [hsucc, List.replicate_succ']
    by_cases hfail : Dict.get (jobs i) "status" = .str "failed" ∨
        Dict.get (jobs i) "status" = .str "canceled"
    · obtain ⟨out', hlog⟩ := @fetchJobLogs_jobEnv jobId profileId jobs clock logsReply
        ⟨i + 2, i + 1, 0, List.replicate i ("GET", jobUrl jobId) ++ [("GET", jobUrl jobId)],
          List.replicate i 1⟩ out
      rcases hfail with hfail | hfail <;> simp [hsucc, hfail, hlog, List.replicate_succ']
    · rw [not_or] at hfail
      simp only [hsucc, hfail, or_self, if_false, Bool.false_eq_true, decide_False, Bool.or_false,
        Run.bind_apply, sleep_apply_of_nonneg (show ¬ (1 : Decimal) < 0 by decide) (by decide),
        jobEnv_sleep, ← List.replicate_succ']
      exact ih (i + 1) fuel out (by omega) (by omega)

end JobEnv

/-- What `serverReady` makes of the `/meta` reply: the server is ready when the reply is a 2xx
JSON object, any other JSON value has no `get`. -/
def metaResult (rep : Reply) : Outcome Unit :=
  ((replyResult "GET" "/meta" rep).1.bind (jsonResult "GET" "/meta")).bind fun meta =>
    match meta with
    | .obj _ => .ok ()
    | v => .error (getAttributeError v)

/-- The exception of a failed turn. -/
def errorOf : Outcome Unit → Option Exn
  | .error e => some e
  | _ => none

/-- How a wait ends: its outcome, the number of requests made and of sleeps. -/
structure WaitEnd where
  outcome : Outcome Unit
  requests : Nat
  sleeps : Nat
  deriving DecidableEq, Repr

/-- `wait_for_server` over the replies `i, …, i + m - 1` that the deadline lets through, with
`last` the failure before them: the first ready reply ends it normally; when there is none, the
timeout error names the last failure. Every failed turn is followed by a sleep. -/
def waitSpecFrom (timeoutS : Int) (replies : Nat → Reply) (last : Option Exn) (i m : Nat) : WaitEnd :=
  match (List.range' i m).find? fun j => metaResult (replies j) = .ok () with
  | some j => ⟨.ok (), j + 1, j⟩
  | none =>
    ⟨.error (runtimeError (readyTimeoutMessage timeoutS
      (if m = 0 then last else errorOf (metaResult (replies (i + m - 1)))))), i + m, i + m⟩

/-- The waiter over the first `n` replies. -/
def waitSpec (timeoutS : Int) (replies : Nat → Reply) (n : Nat) : WaitEnd :=
  waitSpecFrom timeoutS replies none 0 n

/-- The waiter returns normally exactly when one of its replies is ready. -/
theorem waitSpecFrom_ok_iff (timeoutS : Int) (replies : Nat → Reply) (last : Option Exn) (i m : Nat) :
    (waitSpecFrom timeoutS replies last i m).outcome = .ok () ↔
      ∃ j, i ≤ j ∧ j < i + m ∧ metaResult (replies j) = .ok () := by
  unfold waitSpecFrom
  split
  · next j hj =>
    have hmem := List.mem_range'_1.mp (List.mem_of_find?_eq_some hj)
    have hp := List.find?_some hj
    simp only [decide_eq_true_eq] at hp
    exact iff_of_true rfl ⟨j, hmem.1, hmem.2, hp⟩
  · next hnone =>
    simp only [List.find?_eq_none, List.mem_range'_1, decide_eq_true_eq] at hnone
    exact iff_of_false (by simp) fun ⟨j, hij, hjm, hj⟩ => hnone j ⟨hij, hjm⟩ hj

theorem metaResult_ne_diverge (rep : Reply) : metaResult rep ≠ .diverge :=
  Outcome.bind_ne_diverge (Outcome.bind_ne_diverge (replyResult_ne_diverge _ _ _)
    (jsonResult_ne_diverge _ _)) fun v => by cases v <;> simp

/-- One reply: a ready server ends the wait, any other reply is the last failure so far. -/
theorem waitSpecFrom_succ (timeoutS : Int) (replies : Nat → Reply) (last : Option Exn) (i m : Nat) :
    waitSpecFrom timeoutS replies last i (m + 1) =
      if metaResult (replies i) = .ok () then ⟨.ok (), i + 1, i⟩
      else waitSpecFrom timeoutS replies (errorOf (metaResult (replies i))) (i + 1) m := by
  unfold waitSpecFrom
  rw [List.range'_succ, List.find?_cons, show i + (m + 1) = i + 1 + m by omega]
  by_cases h : metaResult (replies i) = .ok ()
  · simp [h]
  · rcases m with _ | m <;> simp [h]

/-- What a `wait_for_server` run changes outside: readings of the clock, requests answered, and
the method and URL of every request and the length of every sleep, in order. -/
structure MetaWorld where
  reads : Nat
  requests : Nat
  asked : List (String × String)
  slept : List Decimal
  deriving DecidableEq, Repr

/-- The URL of `/meta`, with `BASE_URL` unset. -/
def metaUrl : String := baseUrl none ++ "/meta"

/-- An endpoint whose `i`-th request, whatever it asks, is recorded and gets `replies i`, under
a clock whose `j`-th reading is `clock j`; every sleep is recorded. -/
def metaEnv (replies : Nat → Reply) (clock : Nat → Decimal) : Env MetaWorld where
  environ _ := none
  exchange r s := (replies s.requests,
    { s with requests := s.requests + 1, asked := s.asked ++ [(r.method, r.url)] })
  time s := (clock s.reads, { s with reads := s.reads + 1 })
  sleep d s := { s with slept := s.slept ++ [d] }
  uuidHex s := ("", s)

section MetaEnv

variable {replies : Nat → Reply} {clock : Nat → Decimal}

@[simp] theorem metaEnv_time (s : MetaWorld) :
    (metaEnv replies clock).time s = (clock s.reads, { s with reads := s.reads + 1 }) := rfl

@[simp] theorem metaEnv_sleep (d : Decimal) (s : MetaWorld) :
    (metaEnv replies clock).sleep d s = { s with slept := s.slept ++ [d] } := rfl

/-- One turn of the `try`: one request for `/meta`, answered by the next reply, with
`metaResult` as its outcome. -/
theorem serverReady_metaEnv (s : MetaWorld) (out : List String) :
    ∃ out', serverReady (metaEnv replies clock) ⟨s, out⟩ =
      (metaResult (replies s.requests),
        ⟨{ s with requests := s.requests + 1, asked := s.asked ++ [("GET", metaUrl)] }, out'⟩) := by
  rw [serverReady, Run.bind_apply, requestJson_apply]
  simp only [metaEnv, jsonRequest, buildRequest, metaUrl]
  unfold metaResult
  generalize (replyResult "GET" "/meta" (replies s.requests)).1.bind (jsonResult "GET" "/meta") = o
  rcases o with v | e | _
  · cases v <;> simp [Outcome.bind, pyGet]
  · simp [Outcome.bind]
  · simp [Outcome.bind]

/-- The loop from turn `i` on, with `m` turns still inside the deadline and `last` the failure
of the turn before; the `i` turns before each failed and slept. -/
theorem waitLoop_metaEnv (timeoutS : Int) (N : Nat)
    (hpass : ∀ j < N, clock (j + 1) < clock 0 + ⟨timeoutS, 0⟩)
    (hstop : ¬ clock (N + 1) < clock 0 + ⟨timeoutS, 0⟩) :
    ∀ (m i fuel : Nat) (last : Option Exn) (out : List String), i + m = N → m < fuel →
      ∃ w, waitLoop timeoutS (clock 0 + ⟨timeoutS, 0⟩) fuel last (metaEnv replies clock)
          ⟨⟨i + 1, i, List.replicate i ("GET", metaUrl), List.replicate i 1⟩, out⟩ =
          ((waitSpecFrom timeoutS replies last i m).outcome, w) ∧
        w.ext.requests = (waitSpecFrom timeoutS replies last i m).requests ∧
        w.ext.asked = List.replicate (waitSpecFrom timeoutS replies last i m).requests ("GET", metaUrl) ∧
        w.ext.slept = List.replicate (waitSpecFrom timeoutS replies last i m).sleeps 1 := by
  intro m
  induction m with
  | zero =>
    intro i fuel last out hi hf
    obtain ⟨fuel, rfl⟩ : ∃ f, fuel = f + 1 := ⟨fuel - 1, by omega⟩
    subst hi
    simp [waitLoop, metaEnv, hstop, waitSpecFrom]
  | succ m ih =>
    intro i fuel last out hi hf
    obtain ⟨fuel, rfl⟩ : ∃ f, fuel = f + 1 := ⟨fuel - 1, by omega⟩
    have hnow : clock (i + 1) < clock 0 + ⟨timeoutS, 0⟩ := hpass i (by omega)
    obtain ⟨out', hturn⟩ := @serverReady_metaEnv replies clock
      ⟨i + 2, i, List.replicate i ("GET", metaUrl), List.replicate i 1⟩ out
    rw [waitSpecFrom_succ]
    simp only [waitLoop, Run.bind_apply, time_apply, metaEnv_time, if_pos hnow, Run.tryCatch_apply,
      hturn]
    rcases h : metaResult (replies i) with _ | e | _
    · simp [List.replicate_succ']
    · simp only [Run.bind_apply, sleep_apply_of_nonneg (show ¬ (1 : Decimal) < 0 by decide) (by decide),
        metaEnv_sleep, errorOf, reduceCtorEq, if_false, ← List.replicate_succ']
      exact ih (i + 1) fuel (some e) out' (by omega) (by omega)
    · exact absurd h (metaResult_ne_diverge _)

end MetaEnv

/-- `wait_for_server` against an endpoint that answers request `i` with `replies i`, under a
clock whose readings let exactly `N` turns through (the readings `1 … N` are below the first one
plus `timeout_s`, reading `N + 1` is not): given more than `N` iterations it ends as `waitSpec`
says, every request a `GET` of `/meta` and every failed turn followed by a one-second sleep. -/
theorem waitForServer_metaEnv (timeoutS : Int) (replies : Nat → Reply) (clock : Nat → Decimal)
    (N fuel : Nat) (hpass : ∀ j < N, clock (j + 1) < clock 0 + ⟨timeoutS, 0⟩)
    (hstop : ¬ clock (N + 1) < clock 0 + ⟨timeoutS, 0⟩) (hfuel : N < fuel) :
    let r := waitForServer fuel timeoutS (metaEnv replies clock) ⟨⟨0, 0, [], []⟩, []⟩
    let e := waitSpec timeoutS replies N
    r.1 = e.outcome ∧ r.2.ext.requests = e.requests ∧
      r.2.ext.asked = List.replicate e.requests ("GET", metaUrl) ∧
      r.2.ext.slept = List.replicate e.sleeps 1 := by
  obtain ⟨w, h, hw⟩ := @waitLoop_metaEnv replies clock timeoutS N hpass hstop N 0 fuel none []
    (by omega) hfuel
  simp only [waitForServer, Run.bind_apply, time_apply, metaEnv_time]
  rw [show (⟨0 + 1, 0, [], []⟩ : MetaWorld) = ⟨0 + 1, 0, List.replicate 0 ("GET", metaUrl),
    List.replicate 0 1⟩ from rfl, h]
  exact ⟨rfl, hw⟩

/-- A server that refuses the first connection and answers the second with its version, under
a clock that advances a second a reading and a 3-second timeout: the waiter returns after two
requests and one sleep. -/
theorem waitForServer_refusedThenReady :
    let r := waitForServer 3 3
      (metaEnv (fun i => if i = 0 then .urlError "[Errno 111] Connection refused"
        else .response 200 [] (Body.ofJson (.obj [("version", .str "v1")]))) fun j => ⟨j, 0⟩)
      ⟨⟨0, 0, [], []⟩, []⟩
    r.1 = .ok () ∧ r.2.ext.requests = 2 ∧ r.2.ext.slept = [1] := by
  have h := waitForServer_metaEnv 3 (fun i => if i = 0 then .urlError "[Errno 111] Connection refused"
    else .response 200 [] (Body.ofJson (.obj [("version", .str "v1")]))) (fun j => ⟨j, 0⟩) 2 3
    (by decide) (by decide) (by decide)
  exact ⟨h.1.trans (by decide), h.2.1.trans (by decide), h.2.2.2.trans (by decide)⟩

end S3Desk.Runner
