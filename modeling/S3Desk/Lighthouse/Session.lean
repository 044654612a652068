/-
# S3Desk.Lighthouse.Session — `wait_for_debug_port` and `inject_local_storage`

`wait_for_debug_port(port)` (lines 18–31 of `scripts/lighthouse_auth.py`) polls Chrome's
`http://127.0.0.1:{port}/json` every 0.2 s until its deadline, returns the
`webSocketDebuggerUrl` of the first target whose `type` is `page`, keeps the exception of the
last failed poll, and at the deadline raises `RuntimeError` naming it. `inject_local_storage`
(lines 34–62) opens the DevTools websocket and sends `Page.enable`, `Runtime.enable`,
`Page.addScriptToEvaluateOnNewDocument` with the storage script and `Page.navigate` with the
site's URL, numbered from 1, waits a second and closes the socket.

* `waitForDebugPort_polls` — against a `/json` endpoint answering poll `i` with `replies i`,
  under a clock that lets exactly `N` polls through, the waiter returns the URL of the first of
  those polls that finds a page; when none does, it raises the timeout error naming the last
  poll that failed. A poll that reaches Chrome and finds no page yet is no failure, so the
  message can name an error older than the last poll, or `None`. Every request is a `GET` of
  the port's `/json`, and every poll that finds no page is followed by a 0.2 s sleep.
* `injectLocalStorage_recording` — on a websocket that accepts or refuses the connection, the
  session is the connection and, once accepted, the four messages with the ids 1 to 4 and the
  close, the third carrying the storage script.

Boundary. `urlopen` is called without a timeout; the `Request` carries `timeout = 0` for it.
`str()` of an `HTTPError` is `HTTP Error {code}: {reason}`, with the reason phrase the reply
carries. `json.load` also accepts UTF-16 and UTF-32; the
reply's `json` field is what it decodes. `asyncio` runs the session to its end with nothing
else scheduled, so the coroutine is a sequence of steps; the websocket's handshakes and sends
are the `DevTools` functions of the outside's state.
-/
import S3Desk.Lighthouse.Script
import S3Desk.Runner.Poll

namespace S3Desk.Lighthouse

open Json S3Desk.Runner

/-! ## §1 — the code -/

/-- `for x in v`: a list's elements, a dict's keys, a string's characters; any other value is
not iterable. -/
def pyIter (v : Json) : Except Exn (List Json) :=
  match v with
  | .arr xs => .ok xs
  | .obj d => .ok (d.map fun kv => .str kv.1)
  | .str s => .ok (s.toList.map fun c => .str c.toString)
  | v => .error (.error "TypeError" (squote ++ typeName v ++ squote ++ " object is not iterable"))

/-- Lines 25–27: the `webSocketDebuggerUrl` of the first target whose `type` is `page`;
`target.get` raises on a target that is not a dict, `target[…]` on a page without the key. -/
def pageTarget : List Json → Except Exn (Option Json)
  | [] => .ok none
  | t :: ts =>
    match t with
    | .obj d =>
      if isStr "page" (Dict.get d "type") then
        if Dict.contains d "webSocketDebuggerUrl" then .ok (some (Dict.get d "webSocketDebuggerUrl"))
        else .error (.error "KeyError" (pyQuote "webSocketDebuggerUrl"))
      else pageTarget ts
    | v => .error (getAttributeError v)

/-- `json.load(resp)` on how `urlopen` ended (lines 23–24). -/
def loadJson : Reply → Except Exn Json
  | .response _ _ body => body.json
  | .httpError code reason _ _ => .error (.error "HTTPError" ("HTTP Error " ++ toString code ++ ": " ++ reason))
  | .urlError text => .error (.error "URLError" text)
  | .raised e => .error e

/-- What a poll comes to (lines 23–27): the URL, `none` when no target is a page, or the
exception raised. -/
def pollResult (rep : Reply) : Except Exn (Option Json) := loadJson rep >>= pyIter >>= pageTarget

/-- The request of line 23. -/
def targetsRequest (port : Int) : Request :=
  ⟨"GET", "http://127.0.0.1:" ++ toString port ++ "/json", [], .none, 0⟩

/-- Line 31's message. -/
def debugPortMessage (port : Int) (lastErr : Option Exn) : String :=
  "Failed to connect to Chrome DevTools on port " ++ toString port ++ ": " ++ lastErrStr lastErr

section Code

variable {σ : Type}

/-- A computed result, or its exception raised. -/
def liftExcept {α : Type} : Except Exn α → Run σ α
  | .ok a => pure a
  | .error e => throw e

/-- The body of the `try` (lines 23–27). -/
def pollTargets (port : Int) : Run σ (Option Json) := do
  let rep ← urlopen (targetsRequest port)
  liftExcept (pollResult rep)

/-- The `while` loop of lines 20–30, for at most `fuel` iterations. -/
def debugPortLoop (port : Int) (deadline : Decimal) : Nat → Option Exn → Run σ Json
  | 0, _ => Run.diverge
  | fuel + 1, lastErr => do
    let now ← time
    if now < deadline then do
      let found ← tryCatch (Except.ok <$> pollTargets port) fun e => pure (.error e)
      match found with
      | .ok (some url) => pure url
      | .ok none => do
        sleep ⟨2, 1⟩
        debugPortLoop port deadline fuel lastErr
      | .error e => do
        sleep ⟨2, 1⟩
        debugPortLoop port deadline fuel (some e)
    else throw (runtimeError (debugPortMessage port lastErr))

/-- `wait_for_debug_port(port, timeout_s)` (lines 18–31). -/
def waitForDebugPort (fuel : Nat) (port timeoutS : Int) : Run σ Json := do
  let start ← time
  debugPortLoop port (start + ⟨timeoutS, 0⟩) fuel none

/-- The DevTools websocket, as functions of the outside's state. -/
structure DevTools (σ : Type) where
  /-- `websockets.connect(ws_url)` and its opening handshake -/
  connect : Json → σ → Except Exn Unit × σ
  /-- `await ws.send(text)` -/
  send : String → σ → Except Exn Unit × σ
  /-- leaving `async with`: the closing handshake -/
  close : σ → σ

/-- A step of the outside that may raise. -/
def liftStep (f : σ → Except Exn Unit × σ) : Run σ Unit := fun _ w =>
  match f w.ext with
  | (.ok (), s) => (.ok (), { w with ext := s })
  | (.error e, s) => (.error e, { w with ext := s })

/-- `try: m finally: fin`: `fin` runs however `m` ends, and an exception it raises replaces
`m`'s outcome. -/
def tryFinally {α : Type} (m : Run σ α) (fin : Run σ Unit) : Run σ α := fun E w =>
  match m E w with
  | (.diverge, w') => (.diverge, w')
  | (r, w') =>
    match fin E w' with
    | (.ok (), w'') => (r, w'')
    | (.error e, w'') => (.error e, w'')
    | (.diverge, w'') => (.diverge, w'')

/-- A `try` body that ends hands its outcome to the `finally` clause. -/
theorem tryFinally_of_ne_diverge {α : Type} {m : Run σ α} {E : Env σ} {w w' : World σ} {r : Outcome α}
    (hm : m E w = (r, w')) (hr : r ≠ .diverge) (fin : Run σ Unit) :
    tryFinally m fin E w = match fin E w' with
      | (.ok (), w'') => (r, w'')
      | (.error e, w'') => (.error e, w'')
      | (.diverge, w'') => (.diverge, w'') := by
  cases r <;> first | exact (hr rfl).elim | simp only [tryFinally, hm]

theorem map_apply {α β : Type} (f : α → β) (m : Run σ α) (E : Env σ) (w : World σ) :
    (f <$> m) E w = match m E w with
      | (.ok a, w') => (.ok (f a), w')
      | (.error e, w') => (.error e, w')
      | (.diverge, w') => (.diverge, w') := rfl

/-- The message `send(method, params)` sends with `msg_id` at `msgId` (lines 38–44). -/
def messageText (msgId : Nat) (method : String) (params : Option Dict) : String :=
  let payload : Dict := [("id", .int msgId), ("method", .str method)]
  let payload := match params with
    | some p => if (Json.obj p).truthy then Dict.set payload "params" (.obj p) else payload
    | none => payload
  dumps (.obj payload)

/-- `send(method, params)` (lines 38–44) with `msg_id` at `msgId`: the next id. -/
def sendMessage (D : DevTools σ) (msgId : Nat) (method : String) (params : Option Dict) : Run σ Nat := do
  liftStep (D.send (messageText msgId method params))
  pure (msgId + 1)

/-- The body of `async with` (lines 46–62). -/
def sessionBody (D : DevTools σ) (apiToken profileId : Option String) (url : String) : Run σ Unit := do
  let msgId ← sendMessage D 1 "Page.enable" none
  let msgId ← sendMessage D msgId "Runtime.enable" none
  let msgId ← sendMessage D msgId "Page.addScriptToEvaluateOnNewDocument"
    (some [("source", .str (storageScript apiToken profileId))])
  let _ ← sendMessage D msgId "Page.navigate" (some [("url", .str url)])
  sleep 1

/-- `inject_local_storage(ws_url, api_token, profile_id, url)` (lines 34–62), as `asyncio.run`
runs it. -/
def injectLocalStorage (D : DevTools σ) (wsUrl : Json) (apiToken profileId : Option String)
    (url : String) : Run σ Unit := do
  liftStep (D.connect wsUrl)
  tryFinally (sessionBody D apiToken profileId url) (fun _ w => (.ok (), { w with ext := D.close w.ext }))

end Code

/-! ## §2 — against a scripted Chrome -/

/-- What a run does to Chrome, in the order the outside sees it. -/
inductive Action
  | spawn (cmd : List String)
  | connect (url : Json)
  | send (text : String)
  | close
  | run (cmd : List String)
  | terminate
  | wait
  | kill
  deriving DecidableEq, Repr

/-- The outside of a Lighthouse run: the clock readings and `/json` requests so far, what was
done to Chrome, and the method and URL of every request and the length of every sleep, in
order. -/
structure ChromeWorld where
  reads : Nat
  requests : Nat
  actions : List Action
  asked : List (String × String)
  slept : List Decimal
  deriving DecidableEq, Repr

/-- Record an action. -/
def ChromeWorld.record (s : ChromeWorld) (a : Action) : ChromeWorld :=
  { s with actions := s.actions ++ [a] }

/-- An endpoint whose `i`-th request, whatever it asks, is recorded and gets `replies i`, under
a clock whose `j`-th reading is `clock j`; every sleep is recorded. -/
def chromeEnv (replies : Nat → Reply) (clock : Nat → Decimal) : Env ChromeWorld where
  environ _ := none
  exchange r s := (replies s.requests,
    { s with requests := s.requests + 1, asked := s.asked ++ [(r.method, r.url)] })
  time s := (clock s.reads, { s with reads := s.reads + 1 })
  sleep d s := { s with slept := s.slept ++ [d] }
  uuidHex s := ("", s)

/-- A websocket that answers the connection with `accept` and takes every message. -/
def recordingDevTools (accept : Except Exn Unit) : DevTools ChromeWorld where
  connect url s := (accept, s.record (.connect url))
  send text s := (.ok (), s.record (.send text))
  close s := s.record .close

/-- The URL of a page target, when the poll found one. -/
def foundUrl : Except Exn (Option Json) → Option Json
  | .ok u => u
  | .error _ => none

/-- The exception of a failed poll. -/
def pollError : Except Exn (Option Json) → Option Exn
  | .error e => some e
  | .ok _ => none

/-- `wait_for_debug_port` over the polls `results` its deadline lets through, after the failure
`last`: the URL of the first poll that finds a page, else the timeout error naming the last
failed poll. -/
def debugSpec (port : Int) (last : Option Exn) (results : List (Except Exn (Option Json))) :
    Outcome Json :=
  match results.findSome? foundUrl with
  | some url => .ok url
  | none => .error (runtimeError (debugPortMessage port ((results.filterMap pollError).getLast?.or last)))

/-- One poll: a page ends the wait, a failure becomes the last one. -/
theorem debugSpec_cons (port : Int) (last : Option Exn) (r : Except Exn (Option Json))
    (rs : List (Except Exn (Option Json))) :
    debugSpec port last (r :: rs) = match foundUrl r with
      | some url => .ok url
      | none => debugSpec port ((pollError r).or last) rs := by
  rcases r with e | _ | url
  · simp only [debugSpec, foundUrl, pollError, List.findSome?_cons, List.filterMap_cons]
    rw [show e :: rs.filterMap pollError = [e] ++ rs.filterMap pollError from rfl, List.getLast?_append,
      Option.or_assoc]
    rfl
  · simp [debugSpec, foundUrl, pollError, List.findSome?_cons]
  · simp [debugSpec, foundUrl, List.findSome?_cons]

/-- The polls `wait_for_debug_port` makes over `results`: up to and including the first that
finds a page, or all of them. -/
def debugPolls : List (Except Exn (Option Json)) → Nat
  | [] => 0
  | r :: rs => if (foundUrl r).isSome then 1 else debugPolls rs + 1

/-- The polls over `results` that find no page before one does: each is followed by a sleep. -/
def debugSleeps : List (Except Exn (Option Json)) → Nat
  | [] => 0
  | r :: rs => if (foundUrl r).isSome then 0 else debugSleeps rs + 1

/-- The wait ends: it returns or raises. -/
theorem debugSpec_ne_diverge (port : Int) (last : Option Exn) (rs : List (Except Exn (Option Json))) :
    debugSpec port last rs ≠ .diverge := by
  unfold debugSpec
  split <;> simp

section Scripted

variable {replies : Nat → Reply} {clock : Nat → Decimal}

@[simp] theorem chromeEnv_time (s : ChromeWorld) :
    (chromeEnv replies clock).time s = (clock s.reads, { s with reads := s.reads + 1 }) := rfl

@[simp] theorem chromeEnv_exchange (r : Request) (s : ChromeWorld) :
    (chromeEnv replies clock).exchange r s =
      (replies s.requests, { s with requests := s.requests + 1, asked := s.asked ++ [(r.method, r.url)] }) :=
  rfl

@[simp] theorem chromeEnv_sleep (d : Decimal) (s : ChromeWorld) :
    (chromeEnv replies clock).sleep d s = { s with slept := s.slept ++ [d] } := rfl

/-- One turn of the `try`: one request for the targets, answered by the next reply. -/
theorem poll_chromeEnv (port : Int) (s : ChromeWorld) (out : List String) :
    (tryCatch (Except.ok <$> pollTargets port) (fun e => pure (.error e)) :
        Run ChromeWorld (Except Exn (Option Json))) (chromeEnv replies clock) ⟨s, out⟩ =
      (.ok (pollResult (replies s.requests)),
        ⟨{ s with requests := s.requests + 1,
                  asked := s.asked ++ [("GET", "http://127.0.0.1:" ++ toString port ++ "/json")] },
          out⟩) := by
  rw [Run.tryCatch_apply, map_apply]
  simp only [pollTargets, Run.bind_apply, urlopen_apply, chromeEnv_exchange]
  rcases pollResult (replies s.requests) with e | v <;> rfl

/-- The loop from poll `i` on, with `m` polls still inside the deadline and `last` the failure
before them: it ends as `debugSpec` says, does nothing to Chrome, asks for the targets once per
poll and sleeps 0.2 s after each poll that finds no page. -/
theorem debugPortLoop_chromeEnv (port timeoutS : Int) (N : Nat)
    (hpass : ∀ j < N, clock (j + 1) < clock 0 + ⟨timeoutS, 0⟩)
    (hstop : ¬ clock (N + 1) < clock 0 + ⟨timeoutS, 0⟩) :
    ∀ (m i fuel : Nat) (last : Option Exn) (acts : List Action) (asked : List (String × String))
      (slept : List Decimal) (out : List String), i + m = N → m < fuel →
      let rs := (List.range' i m).map fun j => pollResult (replies j)
      ∃ w, debugPortLoop port (clock 0 + ⟨timeoutS, 0⟩) fuel last (chromeEnv replies clock)
          ⟨⟨i + 1, i, acts, asked, slept⟩, out⟩ = (debugSpec port last rs, w) ∧
        w.ext.actions = acts ∧
        w.ext.asked = asked ++ List.replicate (debugPolls rs)
          ("GET", "http://127.0.0.1:" ++ toString port ++ "/json") ∧
        w.ext.slept = slept ++ List.replicate (debugSleeps rs) ⟨2, 1⟩ ∧ w.out = out := by
  intro m
  induction m with
  | zero =>
    intro i fuel last acts asked slept out hi hf
    obtain ⟨fuel, rfl⟩ : ∃ f, fuel = f + 1 := ⟨fuel - 1, by omega⟩
    subst hi
    exact ⟨⟨⟨i + 2, i, acts, asked, slept⟩, out⟩, by simp [debugPortLoop, hstop, debugSpec],
      rfl, by simp [debugPolls], by simp [debugSleeps], rfl⟩
  | succ m ih =>
    intro i fuel last acts asked slept out hi hf
    obtain ⟨fuel, rfl⟩ : ∃ f, fuel = f + 1 := ⟨fuel - 1, by omega⟩
    have hnow : clock (i + 1) < clock 0 + ⟨timeoutS, 0⟩ := hpass i (by omega)
    simp only [List.range'_succ, List.map_cons, debugSpec_cons]
    simp only [debugPortLoop, Run.bind_apply, time_apply, chromeEnv_time, if_pos hnow, poll_chromeEnv]
    rcases pollResult (replies i) with e | _ | url
    · simp only [foundUrl, pollError, Option.or_some, Run.bind_apply,
        sleep_apply_of_nonneg (show ¬ (⟨2, 1⟩ : Decimal) < 0 by decide) (by decide), chromeEnv_sleep]
      obtain ⟨w, h, ha, hq, hs, ho⟩ := ih (i + 1) fuel (some e) acts
        (asked ++ [("GET", "http://127.0.0.1:" ++ toString port ++ "/json")]) (slept ++ [⟨2, 1⟩]) out
        (by omega) (by omega)
      exact ⟨w, h, ha, by simp [hq, debugPolls, foundUrl, List.replicate_succ],
        by simp [hs, debugSleeps, foundUrl, List.replicate_succ], ho⟩
    · simp only [foundUrl, pollError, Option.none_or, Run.bind_apply,
        sleep_apply_of_nonneg (show ¬ (⟨2, 1⟩ : Decimal) < 0 by decide) (by decide), chromeEnv_sleep]
      obtain ⟨w, h, ha, hq, hs, ho⟩ := ih (i + 1) fuel last acts
        (asked ++ [("GET", "http://127.0.0.1:" ++ toString port ++ "/json")]) (slept ++ [⟨2, 1⟩]) out
        (by omega) (by omega)
      exact ⟨w, h, ha, by simp [hq, debugPolls, foundUrl, List.replicate_succ],
        by simp [hs, debugSleeps, foundUrl, List.replicate_succ], ho⟩
    · exact ⟨_, rfl, rfl, by simp [debugPolls, foundUrl], by simp [debugSleeps, foundUrl], rfl⟩

/-- `wait_for_debug_port` against a `/json` endpoint that answers request `i` with `replies i`,
under a clock whose readings let exactly `N` polls through (the readings `1 … N` are below the
first one plus `timeout_s`, reading `N + 1` is not): given more than `N` iterations, it returns
the URL of the first of the `N` polls that finds a page, and when none does it raises
`RuntimeError` naming the last of them that failed; it does nothing to Chrome, asks for the
port's `/json` once per poll, and sleeps 0.2 s after each poll that finds no page. -/
theorem waitForDebugPort_polls (port timeoutS : Int) (replies : Nat → Reply) (clock : Nat → Decimal)
    (N fuel : Nat) (hpass : ∀ j < N, clock (j + 1) < clock 0 + ⟨timeoutS, 0⟩)
    (hstop : ¬ clock (N + 1) < clock 0 + ⟨timeoutS, 0⟩) (hfuel : N < fuel)
    (acts : List Action) (asked : List (String × String)) (slept : List Decimal) (out : List String) :
    let rs := (List.range N).map fun j => pollResult (replies j)
    ∃ w, waitForDebugPort fuel port timeoutS (chromeEnv replies clock) ⟨⟨0, 0, acts, asked, slept⟩, out⟩ =
        (debugSpec port none rs, w) ∧ w.ext.actions = acts ∧
      w.ext.asked = asked ++ List.replicate (debugPolls rs)
        ("GET", "http://127.0.0.1:" ++ toString port ++ "/json") ∧
      w.ext.slept = slept ++ List.replicate (debugSleeps rs) ⟨2, 1⟩ ∧ w.out = out := by
  simp only [waitForDebugPort, Run.bind_apply, time_apply, chromeEnv_time, List.range_eq_range']
  exact @debugPortLoop_chromeEnv replies clock port timeoutS N hpass hstop N 0 fuel none acts asked
    slept out (by omega) hfuel

/-- Chrome refuses the first poll and lists no page in the two before the deadline: the timeout
error names the refusal, two polls old. -/
theorem waitForDebugPort_staleError :
    (waitForDebugPort 4 9222 10
      (chromeEnv (fun i => if i = 0 then .urlError "<urlopen error [Errno 111] Connection refused>"
        else .response 200 [] (Body.ofJson (.arr []))) fun j => ⟨3 * j, 0⟩) ⟨⟨0, 0, [], [], []⟩, []⟩).1 =
      .error (runtimeError
        "Failed to connect to Chrome DevTools on port 9222: <urlopen error [Errno 111] Connection refused>") := by
  obtain ⟨w, h, -⟩ := waitForDebugPort_polls 9222 10 _ (fun j => ⟨3 * j, 0⟩) 3 4 (by decide) (by decide)
    (by decide) [] [] [] []
  rw [h]
  rfl

/-- The texts of the session's four messages. -/
def sessionTexts (apiToken profileId : Option String) (url : String) : List String :=
  [messageText 1 "Page.enable" none, messageText 2 "Runtime.enable" none,
    messageText 3 "Page.addScriptToEvaluateOnNewDocument"
      (some [("source", .str (storageScript apiToken profileId))]),
    messageText 4 "Page.navigate" (some [("url", .str url)])]

/-- On a websocket that answers the connection with `accept` and takes every message,
`inject_local_storage` connects and, once accepted, sends the four messages with the ids 1 to
4, the third carrying the storage script, sleeps a second and closes the socket; a refused
connection raises before any message is sent. -/
theorem injectLocalStorage_recording (accept : Except Exn Unit) (wsUrl : Json)
    (apiToken profileId : Option String) (url : String) (s : ChromeWorld) (out : List String) :
    injectLocalStorage (recordingDevTools accept) wsUrl apiToken profileId url (chromeEnv replies clock)
        ⟨s, out⟩ =
      match accept with
      | .ok () => (.ok (), ⟨{ s with actions := s.actions ++ .connect wsUrl ::
          ((sessionTexts apiToken profileId url).map .send ++ [.close]), slept := s.slept ++ [1] }, out⟩)
      | .error e => (.error e, ⟨s.record (.connect wsUrl), out⟩) := by
  rcases accept with e | ⟨⟩
  · rfl
  · simp [injectLocalStorage, liftStep, recordingDevTools, ChromeWorld.record, tryFinally, sessionBody,
      sendMessage, sessionTexts, sleep_apply_of_nonneg (show ¬ (1 : Decimal) < 0 by decide) (by decide)]

end Scripted

end S3Desk.Lighthouse
