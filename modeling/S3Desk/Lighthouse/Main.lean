/-
# S3Desk.Lighthouse.Main — `main` of the Lighthouse helper: Chrome from start to stop

`main` (lines 83–119 of `scripts/lighthouse_auth.py`) starts Chrome with remote debugging on
`--port`, waits for its DevTools endpoint, installs the storage script, runs `lighthouse`
against the site and returns its exit code; in a `finally` it terminates Chrome unless
`--keep-chrome` was given, and kills it when it has not exited five seconds later.

`lighthouseMain_scripted` runs `main` against a scripted Chrome: any answers of its `/json`
endpoint under a clock that lets `N` polls through, the DevTools connection accepted or refused,
any outcome of `lighthouse`, and Chrome exiting or not after `terminate` and after `kill`. It
gives the run's outcome and the whole sequence of actions on Chrome: Chrome is started once;
unless `--keep-chrome` it is terminated however the run went (the wait timed out, the connection
was refused, `lighthouse` failed to start); it is killed exactly when it outlived `terminate`;
and when it outlives `kill` as well, the second `proc.wait` raises `TimeoutExpired`, which
replaces what the run would have returned, `lighthouse`'s exit code included
(`lighthouseMain_chromeSurvivesKill`).

Boundary. `argparse` is the library's: the arguments arrive parsed (`LighthouseArgs`), `--chrome`
with its default already read from `CHROME_BIN`. `Popen`, `subprocess.run` and the methods of
the Chrome process are the `Processes` functions of the outside's state; `sys.exit` turns the
returned code into the exit status and is not modelled.
-/
import S3Desk.Lighthouse.Session

namespace S3Desk.Lighthouse

open Json S3Desk.Runner

/-! ## §1 — the code -/

/-- The arguments `parser.parse_args()` returns (lines 84–94). -/
structure LighthouseArgs where
  url : String
  apiToken : String
  profileId : Option String
  output : String
  port : Int
  chrome : String
  userDataDir : String
  keepChrome : Bool
  noHeadless : Bool

/-- `chrome_cmd` (lines 96–105). -/
def chromeCommand (args : LighthouseArgs) : List String :=
  let cmd := [args.chrome, "--remote-debugging-port=" ++ toString args.port,
    "--user-data-dir=" ++ args.userDataDir, "--disable-gpu", "--no-sandbox"]
  let cmd := if !args.noHeadless then cmd.insertIdx 1 "--headless=new" else cmd
  cmd ++ ["about:blank"]

/-- `cmd` of `run_lighthouse(url, port, output_path)` (lines 66–78). -/
def lighthouseCommand (url : String) (port : Int) (outputPath : String) : List String :=
  ["lighthouse", url, "--port", toString port, "--disable-storage-reset", "--output", "html",
    "--output", "json", "--output-path", outputPath]

/-- The processes `main` starts and stops, as functions of the outside's state. -/
structure Processes (σ : Type) where
  /-- `subprocess.Popen(cmd, …)` -/
  popen : List String → σ → Except Exn Unit × σ
  /-- `subprocess.run(cmd, check=False).returncode` -/
  run : List String → σ → Except Exn Int × σ
  /-- `proc.terminate()` -/
  terminate : σ → σ
  /-- `proc.wait(timeout=5)`: whether Chrome has exited within the five seconds -/
  wait : σ → Bool × σ
  /-- `proc.kill()` -/
  kill : σ → σ

/-- The `TimeoutExpired` that `proc.wait(timeout=5)` raises for the command `cmd`. -/
def timeoutExpired (cmd : List String) : Exn :=
  .error "TimeoutExpired"
    ("Command " ++ squote ++ pyRepr (.arr (cmd.map .str)) ++ squote ++ " timed out after 5 seconds")

section Code

variable {σ : Type}

/-- `run_lighthouse(url, port, output_path)` (lines 65–80). -/
def runLighthouse (P : Processes σ) (url : String) (port : Int) (outputPath : String) : Run σ Int :=
  fun _ w =>
    match P.run (lighthouseCommand url port outputPath) w.ext with
    | (.ok code, s) => (.ok code, { w with ext := s })
    | (.error e, s) => (.error e, { w with ext := s })

/-- A step of the outside that cannot fail. -/
def doStep (f : σ → σ) : Run σ Unit := fun _ w => (.ok (), { w with ext := f w.ext })

/-- `proc.wait(timeout=5)` on the process started with `cmd`. -/
def waitChrome (P : Processes σ) (cmd : List String) : Run σ Unit := fun _ w =>
  match P.wait w.ext with
  | (true, s) => (.ok (), { w with ext := s })
  | (false, s) => (.error (timeoutExpired cmd), { w with ext := s })

/-- The `finally` clause (lines 113–119) for `--keep-chrome` not given. -/
def stopChrome (P : Processes σ) (cmd : List String) : Run σ Unit := do
  doStep P.terminate
  tryCatch (waitChrome P cmd) fun e =>
    match e with
    | .error "TimeoutExpired" _ => do
      doStep P.kill
      waitChrome P cmd
    | e => throw e

/-- The body of the `try` (lines 109–111), with at most `fuel` polls of the DevTools
endpoint. -/
def mainTry (P : Processes σ) (D : DevTools σ) (fuel : Nat) (args : LighthouseArgs) : Run σ Int := do
  let wsUrl ← waitForDebugPort fuel args.port 10
  injectLocalStorage D wsUrl (some args.apiToken) args.profileId args.url
  runLighthouse P args.url args.port args.output

/-- `main()` (lines 96–119), after `parse_args`. -/
def lighthouseMain (P : Processes σ) (D : DevTools σ) (fuel : Nat) (args : LighthouseArgs) :
    Run σ Int := do
  let chromeCmd := chromeCommand args
  liftStep (P.popen chromeCmd)
  tryFinally (mainTry P D fuel args) (if !args.keepChrome then stopChrome P chromeCmd else pure ())

end Code

/-! ## §2 — against a scripted Chrome -/

/-- Chrome and `lighthouse` as scripted: `Popen` ends with `started`, `lighthouse` with
`lighthouse`, and Chrome has exited within the five seconds of `proc.wait` after `terminate`
when `exitsOnTerminate`, after `kill` when `exitsOnKill`. -/
def chromeProcesses (started : Except Exn Unit) (lighthouse : Except Exn Int)
    (exitsOnTerminate exitsOnKill : Bool) : Processes ChromeWorld where
  popen cmd s := (started, s.record (.spawn cmd))
  run cmd s := (lighthouse, s.record (.run cmd))
  terminate s := s.record .terminate
  wait s := (if .kill ∈ s.actions then exitsOnKill else exitsOnTerminate, s.record .wait)
  kill s := s.record .kill

/-- What the `try` body does to Chrome when the wait ended with `found`: the connection once a
page was found, and once it is accepted the session's messages, the close and `lighthouse`. -/
def sessionActions (args : LighthouseArgs) (found : Outcome Json) (accept : Except Exn Unit) :
    List Action :=
  match found, accept with
  | .ok wsUrl, .ok () => .connect wsUrl :: ((sessionTexts (some args.apiToken) args.profileId args.url).map .send ++
      [.close, .run (lighthouseCommand args.url args.port args.output)])
  | .ok wsUrl, .error _ => [.connect wsUrl]
  | _, _ => []

/-- What the `finally` clause does to Chrome: nothing under `--keep-chrome`, else `terminate`
and `wait`, and `kill` and `wait` again when Chrome outlived the first. -/
def stopActions (keepChrome exitsOnTerminate : Bool) : List Action :=
  if keepChrome then [] else .terminate :: .wait :: if exitsOnTerminate then [] else [.kill, .wait]

/-- How the `try` body ends when the wait ended with `found`. -/
def bodyOutcome (found : Outcome Json) (accept : Except Exn Unit) (lighthouse : Except Exn Int) :
    Outcome Int :=
  found.bind fun _ =>
    match accept, lighthouse with
    | .error e, _ => .error e
    | .ok (), .ok code => .ok code
    | .ok (), .error e => .error e

/-- How `main` ends: `Popen`'s exception; else the body's outcome, unless the `finally` clause
raises `TimeoutExpired` because Chrome outlived `kill`. -/
def mainOutcome (keepChrome : Bool) (cmd : List String) (found : Outcome Json)
    (started accept : Except Exn Unit) (lighthouse : Except Exn Int) (exitsOnTerminate exitsOnKill : Bool) :
    Outcome Int :=
  match started with
  | .error e => .error e
  | .ok () =>
    if keepChrome || exitsOnTerminate || exitsOnKill then bodyOutcome found accept lighthouse
    else .error (timeoutExpired cmd)

/-- Everything `main` does to Chrome. -/
def mainActions (args : LighthouseArgs) (found : Outcome Json) (started accept : Except Exn Unit)
    (exitsOnTerminate : Bool) : List Action :=
  .spawn (chromeCommand args) ::
    match started with
    | .error _ => []
    | .ok () => sessionActions args found accept ++ stopActions args.keepChrome exitsOnTerminate

theorem bodyOutcome_ne_diverge {found : Outcome Json} (hf : found ≠ .diverge) (accept : Except Exn Unit)
    (lighthouse : Except Exn Int) : bodyOutcome found accept lighthouse ≠ .diverge := by
  rcases found with _ | _ | _
  · rcases accept with _ | _ <;> rcases lighthouse with _ | _ <;> simp [bodyOutcome, Outcome.bind]
  · simp [bodyOutcome, Outcome.bind]
  · exact (hf rfl).elim

theorem kill_not_mem_sessionActions (args : LighthouseArgs) (found : Outcome Json)
    (accept : Except Exn Unit) : .kill ∉ sessionActions args found accept := by
  unfold sessionActions
  split <;> simp

section Scripted

variable {replies : Nat → Reply} {clock : Nat → Decimal} {started : Except Exn Unit}
  {lighthouse : Except Exn Int} {exitsOnTerminate exitsOnKill : Bool}

/-- The `finally` clause on a Chrome not yet killed: `terminate` and `wait`, then `kill` and
`wait` when Chrome outlived the first; `TimeoutExpired` when it outlived both. -/
theorem stopChrome_chromeProcesses (cmd : List String) (s : ChromeWorld) (out : List String)
    (hs : .kill ∉ s.actions) :
    stopChrome (chromeProcesses started lighthouse exitsOnTerminate exitsOnKill) cmd (chromeEnv replies clock)
        ⟨s, out⟩ =
      (if exitsOnTerminate || exitsOnKill then .ok () else .error (timeoutExpired cmd),
        ⟨{ s with actions := s.actions ++ stopActions false exitsOnTerminate }, out⟩) := by
  cases exitsOnTerminate <;> cases exitsOnKill <;>
    simp [stopChrome, doStep, waitChrome, chromeProcesses, ChromeWorld.record, stopActions, hs,
      timeoutExpired]

/-- The `try` body from a Chrome not yet killed, under a clock that lets exactly `N` polls
through: it ends as `bodyOutcome` says and does `sessionActions` to Chrome. -/
theorem mainTry_scripted (args : LighthouseArgs) (N fuel : Nat)
    (hpass : ∀ j < N, clock (j + 1) < clock 0 + ⟨10, 0⟩) (hstop : ¬ clock (N + 1) < clock 0 + ⟨10, 0⟩)
    (hfuel : N < fuel) (accept : Except Exn Unit) (acts : List Action) (out : List String) :
    let found := debugSpec args.port none ((List.range N).map fun j => pollResult (replies j))
    ∃ w, mainTry (chromeProcesses started lighthouse exitsOnTerminate exitsOnKill) (recordingDevTools accept)
        fuel args (chromeEnv replies clock) ⟨⟨0, 0, acts, [], []⟩, out⟩ =
      (bodyOutcome found accept lighthouse, w) ∧ w.ext.actions = acts ++ sessionActions args found accept ∧
      w.out = out := by
  intro found
  obtain ⟨⟨s, out'⟩, hwait, ha, -, -, ho⟩ := @debugPortLoop_chromeEnv replies clock args.port 10 N hpass
    hstop N 0 fuel none acts [] [] out (by omega) hfuel
  simp only at ha ho
  subst ha ho
  have hw : waitForDebugPort fuel args.port 10 (chromeEnv replies clock) ⟨⟨0, 0, s.actions, [], []⟩, out'⟩ =
      (found, ⟨s, out'⟩) := by
    simp only [waitForDebugPort, Run.bind_apply, time_apply, chromeEnv_time, found, List.range_eq_range']
    exact hwait
  simp only [mainTry, Run.bind_apply, hw]
  rcases hf : found with url | e | _
  · dsimp only
    rw [injectLocalStorage_recording]
    rcases accept with e | ⟨⟩ <;> rcases lighthouse with e' | code <;>
      simp [runLighthouse, chromeProcesses, ChromeWorld.record, bodyOutcome, sessionActions, Outcome.bind]
  · exact ⟨⟨s, out'⟩, by simp [bodyOutcome, sessionActions, Outcome.bind]⟩
  · exact (debugSpec_ne_diverge _ _ _ hf).elim

/-- `main` against a scripted Chrome: a `/json` endpoint answering request `i` with `replies i`
under a clock whose readings let exactly `N` polls through the ten seconds, a websocket answering
the connection with `accept`, `Popen` ending with `started`, `lighthouse` with `lighthouse`, and
Chrome exiting after `terminate` when `exitsOnTerminate` and after `kill` when `exitsOnKill`.
Given more than `N` iterations of the wait, `main` ends as `mainOutcome` says and does exactly
`mainActions` to Chrome: once started, Chrome is terminated unless `--keep-chrome` however the
body ended, and killed exactly when it outlived `terminate`; when it outlives `kill` too, the
`TimeoutExpired` of the second `wait` replaces the body's outcome, `lighthouse`'s exit code
included. -/
theorem lighthouseMain_scripted (args : LighthouseArgs) (replies : Nat → Reply) (clock : Nat → Decimal)
    (N fuel : Nat) (hpass : ∀ j < N, clock (j + 1) < clock 0 + ⟨10, 0⟩)
    (hstop : ¬ clock (N + 1) < clock 0 + ⟨10, 0⟩) (hfuel : N < fuel) (started accept : Except Exn Unit)
    (lighthouse : Except Exn Int) (exitsOnTerminate exitsOnKill : Bool) :
    let found := debugSpec args.port none ((List.range N).map fun j => pollResult (replies j))
    ∃ w, lighthouseMain (chromeProcesses started lighthouse exitsOnTerminate exitsOnKill)
        (recordingDevTools accept) fuel args (chromeEnv replies clock) ⟨⟨0, 0, [], [], []⟩, []⟩ =
      (mainOutcome args.keepChrome (chromeCommand args) found started accept lighthouse exitsOnTerminate
        exitsOnKill, w) ∧
      w.ext.actions = mainActions args found started accept exitsOnTerminate ∧ w.out = [] := by
  intro found
  rcases started with e | u
  · exact ⟨_, rfl, rfl, rfl⟩
  cases u
  obtain ⟨⟨s, out⟩, hbody, ha, ho⟩ := @mainTry_scripted replies clock (.ok ()) lighthouse exitsOnTerminate
    exitsOnKill args N fuel hpass hstop hfuel accept [.spawn (chromeCommand args)] []
  simp only at ha ho
  subst ho
  have hne : bodyOutcome found accept lighthouse ≠ .diverge :=
    bodyOutcome_ne_diverge (debugSpec_ne_diverge _ _ _) _ _
  have hspawn : liftStep ((chromeProcesses (.ok ()) lighthouse exitsOnTerminate exitsOnKill).popen
      (chromeCommand args)) (chromeEnv replies clock) ⟨⟨0, 0, [], [], []⟩, []⟩ =
      (.ok (), ⟨⟨0, 0, [.spawn (chromeCommand args)], [], []⟩, []⟩) := rfl
  simp only [lighthouseMain, Run.bind_apply, hspawn]
  rw [tryFinally_of_ne_diverge hbody hne]
  cases hk : args.keepChrome
  · have hs : .kill ∉ s.actions := by simp [ha, kill_not_mem_sessionActions]
    rw [Bool.not_false, if_pos rfl, stopChrome_chromeProcesses _ _ _ hs]
    cases exitsOnTerminate <;> cases exitsOnKill <;> simp [mainOutcome, mainActions, ha, hk]
  · simp [mainOutcome, mainActions, ha, hk, stopActions]

/-- Chrome serves a page at once but outlives both `terminate` and `kill`: `lighthouse` exits
with 0, and `main` raises the `TimeoutExpired` of the second `wait` in its place. -/
theorem lighthouseMain_chromeSurvivesKill :
    (lighthouseMain (chromeProcesses (.ok ()) (.ok 0) false false) (recordingDevTools (.ok ())) 2
      ⟨"http://127.0.0.1:8080/", "token", none, "/tmp/lh", 9222, "/usr/bin/google-chrome",
        "/tmp/lighthouse-profile-auth", false, false⟩
      (chromeEnv (fun _ => .response 200 [] (Body.ofJson (.arr [.obj [("type", .str "page"),
        ("webSocketDebuggerUrl", .str "ws://127.0.0.1:9222/devtools/page/1")]]))) fun j => ⟨5 * j, 0⟩)
      ⟨⟨0, 0, [], [], []⟩, []⟩).1 =
      .error (timeoutExpired ["/usr/bin/google-chrome", "--headless=new", "--remote-debugging-port=9222",
        "--user-data-dir=/tmp/lighthouse-profile-auth", "--disable-gpu", "--no-sandbox", "about:blank"]) := by
  obtain ⟨w, h, -, -⟩ := lighthouseMain_scripted ⟨"http://127.0.0.1:8080/", "token", none, "/tmp/lh", 9222,
    "/usr/bin/google-chrome", "/tmp/lighthouse-profile-auth", false, false⟩ _ (fun j => ⟨5 * j, 0⟩) 1 2
    (by decide) (by decide) (by decide) (.ok ()) (.ok ()) (.ok 0) false false
  rw [h]
  rfl

end Scripted

end S3Desk.Lighthouse
