/-
# S3Desk.Notices.Main — `parse_args`, `write_notices` and `main` of the notices generator

`main` checks that `backend/` exists, reads its arguments with `parse_args`, collects the Go
modules (`parse_go_modules`) and the npm packages (`parse_npm_packages`), writes
`THIRD_PARTY_NOTICES.md` (`write_notices`) and copies the license files
(`copy_license_files`).

* `parseArgs_eq` — `parse_args` answers from the first argument that is not one of its two
  options: the usage text for `-h` and `--help`, `Unknown argument: …` on standard error for
  any other; when there is none, `include_dev` is whether the last option was
  `--include-dev`.
* `textLines_writeNotices` — read back line by line, the notices file is the list of lines
  `write_notices` built, and the lines under each list's heading are that list's packages, one
  per line, in order (the dev-only heading is there only with `--include-dev`), as long as no
  name, version or license and not the timestamp holds a newline.
* `noticesMain_spec` — `main` returns 0 exactly when `backend/` exists, every argument is an
  option, `go list` succeeds, the lockfile is missing or readable and `curl` is there; a run
  that does not writes nothing, except that a missing `curl` raises only after the notices
  and the license copies are written; and every file a run writes into
  `third_party/licenses/go/` is the license file picked in the directory of a Go module it
  keeps, or a manual file named for such a module.

Boundary. The machine enters as data (`NoticesHost`): whether `backend/` exists, the decoded
output of `go list -m -json all` (`none` when the command fails, and `check_output` raises out
of `main`), the filesystem as `parse_go_modules` sees it, what `package-lock.json` is
(`LockFile`), the timestamp `strftime` printed, how the `curl` of the rclone license ends
(`Curl`) and the listings of the manual license directories. `FRONTEND_DIR / path` is
`frontendDir ++ "/" ++ path` for the lockfile's `node_modules/…` keys.
-/
import S3Desk.Notices.GoModules
import S3Desk.Notices.Licenses

namespace S3Desk.Notices

/-! ## §1 — `parse_args` -/

/-- What a run prints, line by line, on standard output and on standard error. -/
structure Printed where
  stdout : List String
  stderr : List String
  deriving DecidableEq, Repr

/-- The help text of lines 358–361. -/
def usageLines : List String :=
  ["Usage: scripts/generate_third_party_notices.py [--include-dev | --runtime-only]", "",
    "  --include-dev  Include dev-only npm packages and licenses.",
    "  --runtime-only Generate runtime-only notices/licenses (default)."]

/-- The two options `parse_args` knows. -/
def isOption (arg : String) : Bool := arg == "--include-dev" || arg == "--runtime-only"

/-- The loop of lines 353–366 over the arguments left, with `include_dev` so far. -/
def parseArgsLoop : Bool → List String → Option Bool × Printed
  | includeDev, [] => (some includeDev, ⟨[], []⟩)
  | _, arg :: rest =>
    if arg = "--include-dev" then parseArgsLoop true rest
    else if arg = "--runtime-only" then parseArgsLoop false rest
    else if arg = "-h" ∨ arg = "--help" then (none, ⟨usageLines, []⟩)
    else (none, ⟨[], ["Unknown argument: " ++ arg]⟩)

/-- `parse_args(argv)` (lines 351–367): `some b` for `{"include_dev": b}`, and what it printed. -/
def parseArgs (argv : List String) : Option Bool × Printed := parseArgsLoop false argv.tail

theorem parseArgsLoop_eq (b : Bool) (args : List String) :
    parseArgsLoop b args = match args.find? (fun a => !isOption a) with
      | none => (some ((args.getLast?.map (· == "--include-dev")).getD b), ⟨[], []⟩)
      | some a => (none, if a = "-h" ∨ a = "--help" then ⟨usageLines, []⟩
          else ⟨[], ["Unknown argument: " ++ a]⟩) := by
  induction args generalizing b with
  | nil => rfl
  | cons a rest ih =>
    have hlast : ((a :: rest).getLast?.map (· == "--include-dev")).getD b =
        (rest.getLast?.map (· == "--include-dev")).getD (a == "--include-dev") := by
      rw [List.getLast?_cons, Option.map_some', Option.getD_some, Option.getD_map]
    rw [hlast]
    by_cases hi : a = "--include-dev"
    · subst hi
      simpa [parseArgsLoop, isOption] using ih true
    by_cases hr : a = "--runtime-only"
    · subst hr
      simpa [parseArgsLoop, isOption] using ih false
    · have ho : isOption a = false := by simp [isOption, hi, hr]
      simp only [parseArgsLoop, if_neg hi, if_neg hr, List.find?_cons, ho, Bool.not_false]
      split <;> rfl

/-- `parse_args` answers from the first argument that is not an option: the usage text on
standard output for `-h` and `--help`, `Unknown argument: …` on standard error for any other;
when every argument is an option it prints nothing and `include_dev` is whether the last one
is `--include-dev` (`False` with no arguments). -/
theorem parseArgs_eq (argv : List String) :
    parseArgs argv = match argv.tail.find? (fun a => !isOption a) with
      | none => (some (argv.tail.getLast? == some "--include-dev"), ⟨[], []⟩)
      | some a => (none, if a = "-h" ∨ a = "--help" then ⟨usageLines, []⟩
          else ⟨[], ["Unknown argument: " ++ a]⟩) := by
  rw [parseArgs, parseArgsLoop_eq]
  rcases argv.tail.getLast? with _ | x <;> rfl

theorem parseArgs_isSome (argv : List String) :
    (parseArgs argv).1.isSome ↔ ∀ a ∈ argv.tail, isOption a = true := by
  rw [parseArgs, parseArgsLoop_eq]
  rcases h : argv.tail.find? (fun a => !isOption a) with _ | a
  · simpa using List.find?_eq_none.mp h
  · simp only [Option.isSome_none, Bool.false_eq_true, false_iff, not_forall]
    exact ⟨a, List.mem_of_find?_eq_some h, by simpa using List.find?_some h⟩

/-! ## §2 — `write_notices` -/

/-- One line of a package list (lines 228, 233 and 239): `- {name}@{version} - {license}`. -/
def packageLine (p : Package) (license : String) : String :=
  "- " ++ p.name ++ "@" ++ p.version ++ " - " ++ license

/-- `pkg["license"] or "UNKNOWN"` (lines 232 and 238). -/
def orUnknown (license : String) : String := if license = "" then "UNKNOWN" else license

/-- The lines of the Go module list. -/
def goLines (goModules : List Package) : List String := goModules.map fun m => packageLine m m.license

/-- The lines of an npm package list. -/
def npmLines (packages : List Package) : List String :=
  packages.map fun p => packageLine p (orUnknown p.license)

/-- The heading of the Go module list. -/
def goHeading : String := "## Go modules (backend)"

/-- The heading of the runtime npm list. -/
def runtimeHeading : String := "## npm packages (frontend runtime)"

/-- The heading of the dev-only npm list. -/
def devHeading : String := "## npm packages (frontend dev-only)"

/-- The lines before the Go module list (lines 213–226). -/
def headerLines (timestamp : String) (goModules npmRuntime npmDev : List Package)
    (includeDev : Bool) : List String :=
  ["# Third-Party Notices", "", "This file is generated by scripts/generate_third_party_notices.py.",
    "Generated at " ++ timestamp ++ ".", "", "## Summary",
    "- Go modules (backend): " ++ toString goModules.length,
    "- npm packages (frontend runtime): " ++ toString npmRuntime.length,
    if includeDev then "- npm packages (frontend dev-only): " ++ toString npmDev.length
    else "- npm packages (frontend dev-only): omitted (use --include-dev)",
    "- External tools: 1", ""]

/-- The lines after the package lists (lines 245–254). -/
def footerLines : List String :=
  ["## External tools", "- rclone - MIT (https://github.com/rclone/rclone)", "", "Notes:",
    "- License identifiers are best-effort and derived from dependency metadata or license files.",
    "- Dev-only npm packages are not bundled into production builds by default.",
    "- License texts are stored under third_party/licenses/.",
    "- If you redistribute dependency binaries or sources, include their license texts and notices.",
    ""]

/-- The list `lines` that `write_notices` builds (lines 211–254). -/
def noticesLines (timestamp : String) (goModules npmRuntime npmDev : List Package)
    (includeDev : Bool) : List String :=
  headerLines timestamp goModules npmRuntime npmDev includeDev ++
    goHeading :: goLines goModules ++ "" :: runtimeHeading :: npmLines npmRuntime ++ "" ::
    ((if includeDev then devHeading :: npmLines npmDev ++ [""] else []) ++ footerLines)

/-- The text `write_notices` writes to `THIRD_PARTY_NOTICES.md` (line 256). -/
def writeNotices (timestamp : String) (goModules npmRuntime npmDev : List Package)
    (includeDev : Bool) : String :=
  "\n".intercalate (noticesLines timestamp goModules npmRuntime npmDev includeDev)

/-- The lines of a text, split at each newline. -/
def textLines (text : String) : List String := (text.toList.splitOn '\n').map String.mk

/-- The lines under the first line equal to `heading`, up to the next blank line; `none` when
no line is `heading`. -/
def sectionUnder (heading : String) (lines : List String) : Option (List String) :=
  match lines.dropWhile (· != heading) with
  | [] => none
  | _ :: rest => some (rest.takeWhile (· != ""))

/-- Splitting a join of newline-free lines at its newlines gives the lines back. -/
theorem textLines_intercalate {lines : List String} (h : ∀ l ∈ lines, '\n' ∉ l.toList)
    (hne : lines ≠ []) : textLines ("\n".intercalate lines) = lines := by
  rw [textLines, Py.toList_intercalate, show "\n".toList = ['\n'] from rfl,
    List.splitOn_intercalate _ '\n' (by simpa using h) (by simpa using hne), List.map_map]
  exact List.map_id'' (fun _ => rfl) lines

theorem head?_append_of_head? {s : String} {c : Char} (hs : s.toList.head? = some c) (t : String) :
    (s ++ t).toList.head? = some c := by
  rw [String.toList, String.data_append, List.head?_append, ← String.toList, hs]
  rfl

theorem head?_packageLine (p : Package) (license : String) :
    (packageLine p license).toList.head? = some '-' := by
  unfold packageLine
  repeat apply head?_append_of_head?
  rfl

theorem sectionUnder_append {heading : String} {pre body post : List String}
    (hpre : heading ∉ pre) (hbody : "" ∉ body) :
    sectionUnder heading (pre ++ heading :: (body ++ "" :: post)) = some body := by
  have hd : (pre ++ heading :: (body ++ "" :: post)).dropWhile (· != heading) =
      heading :: (body ++ "" :: post) := by
    induction pre with
    | nil => simp [List.dropWhile]
    | cons x pre ih =>
      have hx : (x != heading) = true := bne_iff_ne.mpr fun h => hpre (h ▸ List.mem_cons_self _ _)
      simp only [List.cons_append, List.dropWhile_cons, hx, ↓reduceIte]
      exact ih fun h => hpre (List.mem_cons_of_mem _ h)
  rw [sectionUnder, hd]
  simp only [Option.some.injEq]
  rw [List.takeWhile_append_of_pos fun l hl => by simpa using ne_of_mem_of_not_mem hl hbody]
  simp

theorem sectionUnder_of_not_mem {heading : String} {lines : List String} (h : heading ∉ lines) :
    sectionUnder heading lines = none := by
  rw [sectionUnder, List.dropWhile_eq_nil_iff.mpr fun l hl => by simpa using ne_of_mem_of_not_mem hl h]

theorem newline_not_mem_toString (n : Nat) : '\n' ∉ (toString n).toList := by
  intro h
  rcases Py.mem_toDigitsCore h with h | ⟨m, hm⟩
  · simp at h
  · have digit : ∀ d < 10, Nat.digitChar d ≠ '\n' := by decide
    exact digit _ (Nat.mod_lt m (by decide)) hm.symm

theorem newline_not_mem_packageLine {p : Package} {license : String} (hn : '\n' ∉ p.name.toList)
    (hv : '\n' ∉ p.version.toList) (hl : '\n' ∉ license.toList) :
    '\n' ∉ (packageLine p license).toList := by
  simp only [packageLine, String.toList, String.data_append, List.mem_append, not_or]
  exact ⟨⟨⟨⟨⟨by decide, hn⟩, by decide⟩, hv⟩, by decide⟩, hl⟩

/-- No line of the notices holds a newline when no name, version or license and not the
timestamp does. -/
theorem newline_not_mem_noticesLines {timestamp : String} {goModules npmRuntime npmDev : List Package}
    {includeDev : Bool} (ht : '\n' ∉ timestamp.toList)
    (hp : ∀ p ∈ goModules ++ npmRuntime ++ npmDev,
      '\n' ∉ p.name.toList ∧ '\n' ∉ p.version.toList ∧ '\n' ∉ p.license.toList) :
    ∀ l ∈ noticesLines timestamp goModules npmRuntime npmDev includeDev, '\n' ∉ l.toList := by
  have hline : ∀ p ∈ goModules ++ npmRuntime ++ npmDev, ∀ license : String,
      '\n' ∉ license.toList → '\n' ∉ (packageLine p license).toList := fun p hm _ hl =>
    newline_not_mem_packageLine (hp p hm).1 (hp p hm).2.1 hl
  have hgo : ∀ l ∈ goLines goModules, '\n' ∉ l.toList := by
    simp only [goLines, List.mem_map]
    rintro _ ⟨p, hm, rfl⟩
    exact hline p (by simp [hm]) _ (hp p (by simp [hm])).2.2
  have hnpm : ∀ ps, (∀ p ∈ ps, p ∈ goModules ++ npmRuntime ++ npmDev) →
      ∀ l ∈ npmLines ps, '\n' ∉ l.toList := by
    intro ps hps
    simp only [npmLines, List.mem_map]
    rintro _ ⟨p, hm, rfl⟩
    refine hline p (hps p hm) _ ?_
    unfold orUnknown
    split
    · decide
    · exact (hp p (hps p hm)).2.2
  have hcount : ∀ (s : String) (n : Nat), '\n' ∉ s.toList → '\n' ∉ (s ++ toString n).toList :=
    fun s n hs => by
      simp only [String.toList, String.data_append, List.mem_append, not_or]
      exact ⟨hs, newline_not_mem_toString n⟩
  have hgen : '\n' ∉ ("Generated at " ++ timestamp ++ ".").toList := by
    simp only [String.toList, String.data_append, List.mem_append, not_or]
    exact ⟨⟨by decide, ht⟩, by decide⟩
  have hheader : ∀ l ∈ headerLines timestamp goModules npmRuntime npmDev includeDev, '\n' ∉ l.toList := by
    rw [headerLines]
    repeat rw [List.forall_mem_cons]
    refine ⟨by decide, by decide, by decide, hgen, by decide, by decide, hcount _ _ (by decide),
      hcount _ _ (by decide), ?_, by decide, by decide, List.forall_mem_nil _⟩
    split
    · exact hcount _ _ (by decide)
    · decide
  have hfooter : ∀ l ∈ footerLines, '\n' ∉ l.toList := by decide
  simp only [noticesLines, List.forall_mem_append, List.forall_mem_cons]
  refine ⟨⟨⟨hheader, by decide, hgo⟩, by decide, by decide, hnpm _ fun p hm => by simp [hm]⟩, by decide,
    ?_, hfooter⟩
  split
  · simp only [List.forall_mem_append, List.forall_mem_cons, List.forall_mem_nil]
    exact ⟨⟨by decide, hnpm _ fun p hm => by simp [hm]⟩, by decide, List.forall_mem_nil _⟩
  · simp

/-- The lines of the header that start with `#` are its title and the summary heading. -/
theorem hash_headerLines (timestamp : String) (goModules npmRuntime npmDev : List Package)
    (includeDev : Bool) : ∀ l ∈ headerLines timestamp goModules npmRuntime npmDev includeDev,
      l.toList.head? = some '#' → l = "# Third-Party Notices" ∨ l = "## Summary" := by
  have hcount : ∀ (s : String) (n : Nat), s.toList.head? = some '-' →
      (s ++ toString n).toList.head? ≠ some '#' := fun s n hs h =>
    absurd ((head?_append_of_head? hs _).symm.trans h) (by decide)
  rw [headerLines]
  repeat rw [List.forall_mem_cons]
  refine ⟨by decide, by decide, by decide, fun h => ?_, by decide, by decide,
    fun h => (hcount _ _ (by rfl) h).elim, fun h => (hcount _ _ (by rfl) h).elim, ?_, by decide, by decide,
    List.forall_mem_nil _⟩
  · have hg : ("Generated at " ++ timestamp ++ ".").toList.head? = some 'G' :=
      head?_append_of_head? (head?_append_of_head? (by rfl) timestamp) "."
    exact absurd (hg.symm.trans h) (by decide)
  · split
    · exact fun h => (hcount _ _ (by rfl) h).elim
    · decide

theorem heading_not_mem_headerLines {heading timestamp : String} {goModules npmRuntime npmDev : List Package}
    {includeDev : Bool} (hh : heading.toList.head? = some '#') (h1 : heading ≠ "# Third-Party Notices")
    (h2 : heading ≠ "## Summary") : heading ∉ headerLines timestamp goModules npmRuntime npmDev includeDev :=
  fun hm => (hash_headerLines _ _ _ _ _ heading hm hh).elim h1 h2

/-- A package line starts with `-`: it is neither blank nor a heading. -/
theorem not_mem_map_packageLine {l : String} (hl : l.toList.head? ≠ some '-') (ps : List Package)
    (license : Package → String) : l ∉ ps.map fun p => packageLine p (license p) := by
  simp only [List.mem_map, not_exists, not_and]
  intro p _ hp
  exact hl (hp ▸ head?_packageLine p (license p))

/-- Read back line by line, the notices file is the list of lines `write_notices` built, and
the lines under each list's heading are that list's packages, one per line, in order; the
dev-only heading is there only with `--include-dev`. -/
theorem textLines_writeNotices (timestamp : String) (goModules npmRuntime npmDev : List Package)
    (includeDev : Bool) (ht : '\n' ∉ timestamp.toList)
    (hp : ∀ p ∈ goModules ++ npmRuntime ++ npmDev,
      '\n' ∉ p.name.toList ∧ '\n' ∉ p.version.toList ∧ '\n' ∉ p.license.toList) :
    let lines := textLines (writeNotices timestamp goModules npmRuntime npmDev includeDev)
    lines = noticesLines timestamp goModules npmRuntime npmDev includeDev ∧
      sectionUnder goHeading lines = some (goLines goModules) ∧
      sectionUnder runtimeHeading lines = some (npmLines npmRuntime) ∧
      sectionUnder devHeading lines = if includeDev then some (npmLines npmDev) else none := by
  intro lines
  have hlines : lines = noticesLines timestamp goModules npmRuntime npmDev includeDev :=
    textLines_intercalate (newline_not_mem_noticesLines ht hp) (by simp [noticesLines])
  have hgo (l : String) (hl : l.toList.head? ≠ some '-') : l ∉ goLines goModules :=
    not_mem_map_packageLine hl goModules _
  have hnpm (l : String) (hl : l.toList.head? ≠ some '-') (ps : List Package) : l ∉ npmLines ps :=
    not_mem_map_packageLine hl ps _
  have hheader (heading : String) (hh : heading.toList.head? = some '#')
      (hne : heading ≠ "# Third-Party Notices" ∧ heading ≠ "## Summary") :
      heading ∉ headerLines timestamp goModules npmRuntime npmDev includeDev :=
    heading_not_mem_headerLines hh hne.1 hne.2
  refine ⟨hlines, ?_, ?_, ?_⟩ <;> rw [hlines, noticesLines]
  · simp only [List.append_assoc, List.cons_append]
    exact sectionUnder_append (hheader _ rfl (by decide)) (hgo _ (by decide))
  · have h := @sectionUnder_append runtimeHeading
      (headerLines timestamp goModules npmRuntime npmDev includeDev ++ goHeading :: goLines goModules ++ [""])
      (npmLines npmRuntime) ((if includeDev then devHeading :: npmLines npmDev ++ [""] else []) ++ footerLines)
      (by
        simp only [List.mem_append, List.mem_cons, List.mem_singleton, not_or]
        exact ⟨⟨hheader _ rfl (by decide), by decide, hgo _ (by decide)⟩, by decide⟩)
      (hnpm _ (by decide) _)
    simpa only [List.append_assoc, List.cons_append, List.singleton_append] using h
  · cases includeDev
    · refine sectionUnder_of_not_mem ?_
      simp only [Bool.false_eq_true, ↓reduceIte, List.nil_append, List.mem_append, List.mem_cons, not_or]
      exact ⟨⟨⟨hheader _ rfl (by decide), by decide, hgo _ (by decide)⟩, by decide, by decide,
        hnpm _ (by decide) _⟩, by decide, by decide⟩
    · have h := @sectionUnder_append devHeading
        (headerLines timestamp goModules npmRuntime npmDev true ++ goHeading :: goLines goModules ++
          "" :: runtimeHeading :: npmLines npmRuntime ++ [""])
        (npmLines npmDev) footerLines
        (by
          simp only [List.mem_append, List.mem_cons, List.mem_singleton, not_or]
          exact ⟨⟨⟨hheader _ rfl (by decide), by decide, hgo _ (by decide)⟩, by decide, by decide,
            hnpm _ (by decide) _⟩, by decide⟩)
        (hnpm _ (by decide) _)
      simpa only [List.append_assoc, List.cons_append, List.singleton_append, ↓reduceIte] using h

theorem textLines_writeNotices_oneModule :
    let go : List Package := [⟨"golang.org/x/sys", "v0.1.0", "BSD-3-Clause", "/go/sys/LICENSE"⟩]
    '\n' ∉ "2026-01-01 00:00:00Z".toList ∧
      (∀ p ∈ go ++ [] ++ [], '\n' ∉ p.name.toList ∧ '\n' ∉ p.version.toList ∧ '\n' ∉ p.license.toList) ∧
      sectionUnder goHeading (textLines (writeNotices "2026-01-01 00:00:00Z" go [] [] false)) =
        some (goLines go) ∧
      sectionUnder devHeading (textLines (writeNotices "2026-01-01 00:00:00Z" go [] [] false)) = none :=
  have h := textLines_writeNotices "2026-01-01 00:00:00Z"
    [⟨"golang.org/x/sys", "v0.1.0", "BSD-3-Clause", "/go/sys/LICENSE"⟩] [] [] false (by decide) (by decide)
  ⟨by decide, by decide, h.2.1, h.2.2.2⟩

/-! ## §3 — `main` -/

/-- What `package-lock.json` is to `parse_npm_packages` (lines 142–145): missing; present but
not a JSON object whose `packages` is an object of objects, so that `json.loads`, `data.get` or
`packages.items()` raises; or the entries of its `packages` map. -/
inductive LockFile
  | missing
  | malformed
  | entries (packages : List (String × LockEntry))

/-- What `main` reads from the machine. -/
structure NoticesHost where
  /-- `BACKEND_DIR.exists()`. -/
  backendExists : Bool
  /-- The objects `go list -m -json all` prints, `none` when the command fails. -/
  goList : Option (List GoModule)
  /-- The filesystem and `go mod download`, as `parse_go_modules` uses them. -/
  go : GoHost
  /-- `FRONTEND_DIR`. -/
  frontendDir : String
  /-- `FRONTEND_LOCK`. -/
  lock : LockFile
  /-- `Path.exists()`. -/
  pathExists : String → Bool
  /-- `datetime.now(timezone.utc).strftime("%Y-%m-%d %H:%M:%SZ")`. -/
  timestamp : String
  /-- How the `curl` of the rclone license ends. -/
  curl : Curl
  manualGo : Option (List ManualEntry)
  manualNpm : Option (List ManualEntry)
  manualExternal : Option (List ManualEntry)

/-- Line 156: the license file of the package installed at `path`, as `str` gives its path. -/
def npmLicenseFile (host : NoticesHost) (path : String) : Option String :=
  let dir := host.frontendDir ++ "/" ++ path
  if host.pathExists dir then (findLicenseFile (host.go.listing dir)).map (foundPath dir) else none

/-- `parse_npm_packages()` (lines 141–185) on the machine: `(runtime, dev)`, `none` when it
raises. -/
def npmPackages (host : NoticesHost) : Option (List Package × List Package) :=
  match host.lock with
  | .missing => some ([], [])
  | .malformed => none
  | .entries packages => some (parseNpmPackages (npmLicenseFile host) packages)

/-- How the process ends: `main` returns a code, or an exception escapes it. -/
inductive Exit
  | code (n : Nat)
  | raised
  deriving DecidableEq, Repr

/-- What a run of `main` does: how it ends, what it prints, the text it writes to
`THIRD_PARTY_NOTICES.md` and the license files it writes. -/
structure NoticesRun where
  exit : Exit
  printed : Printed
  notices : Option String
  licenses : List Written

/-- `main()` (lines 370–381). -/
def noticesMain (host : NoticesHost) (argv : List String) : NoticesRun :=
  if host.backendExists then
    match parseArgs argv with
    | (none, printed) => ⟨.code 1, printed, none, []⟩
    | (some includeDev, printed) =>
      match host.goList with
      | none => ⟨.raised, printed, none, []⟩
      | some modules =>
        let goModules := parseGoModules host.go modules
        match npmPackages host with
        | none => ⟨.raised, printed, none, []⟩
        | some npm =>
          let copies := copyLicenseFiles goModules npm.1 npm.2 includeDev host.curl host.manualGo
            host.manualNpm host.manualExternal
          ⟨if copies.raised then .raised else .code 0, printed,
            some (writeNotices host.timestamp goModules npm.1 npm.2 includeDev), copies.written⟩
  else ⟨.code 1, ⟨[], ["backend directory not found"]⟩, none, []⟩

/-- The ways `main` ends: it reaches `copy_license_files`, which returns or raises; or it stops
before writing anything, without `backend/`, when `parse_args` refuses, when `go list` fails or
when the lockfile cannot be read. -/
theorem noticesMain_cases (host : NoticesHost) (argv : List String) :
    (∃ includeDev modules npm, (parseArgs argv).1 = some includeDev ∧ host.backendExists ∧
        host.goList = some modules ∧ npmPackages host = some npm ∧
        let copies := copyLicenseFiles (parseGoModules host.go modules) npm.1 npm.2 includeDev host.curl
          host.manualGo host.manualNpm host.manualExternal
        (noticesMain host argv).exit = (if copies.raised then .raised else .code 0) ∧
        (noticesMain host argv).notices.isSome ∧ (noticesMain host argv).licenses = copies.written) ∨
      (noticesMain host argv).exit ≠ .code 0 ∧ ((parseArgs argv).1 = none ∨ host.backendExists = false ∨
        host.goList = none ∨ npmPackages host = none) ∧ (noticesMain host argv).notices = none ∧
        (noticesMain host argv).licenses = [] := by
  unfold noticesMain
  cases hb : host.backendExists
  · simp
  rcases hp : parseArgs argv with ⟨_ | includeDev, printed⟩
  · simp
  rcases hg : host.goList with _ | modules
  · simp
  rcases hn : npmPackages host with _ | npm
  · simp
  · exact .inl ⟨includeDev, modules, npm, rfl, rfl, rfl, rfl, rfl, rfl, rfl⟩

theorem npmPackages_eq_none_iff (host : NoticesHost) : npmPackages host = none ↔ host.lock = .malformed := by
  unfold npmPackages
  split <;> simp_all

/-- Every file a run writes into `third_party/licenses/go/` is the license file
`find_license_file` picked in the directory of a Go module it keeps, or a file of the manual
Go directory whose name starts with such a module's `name@version-` prefix. -/
theorem mem_noticesMain_go {host : NoticesHost} {argv : List String} {w : Written}
    (hw : w ∈ (noticesMain host argv).licenses) (hdir : w.dir = .go) :
    ∃ modules, host.goList = some modules ∧
      ((∃ m d f, m ∈ modules ∧ keptModule m ∧ ensureGoModuleDir host.go m.path m.version m.dir = some d ∧
          findLicenseFile (host.go.listing d) = some f ∧ licenseNameMatch f.name ∧
          w.source = .file (foundPath d f)) ∨
        ∃ files m, host.manualGo = some files ∧ ⟨w.name, true⟩ ∈ files ∧ w.source = .manual w.name ∧
          m ∈ modules ∧ keptModule m ∧
          Py.startsWith w.name (sanitizeIdentifier m.path ++ "@" ++ sanitizeIdentifier m.version ++ "-")) := by
  rcases noticesMain_cases host argv with ⟨includeDev, modules, npm, -, -, hg, -, -, -, hl⟩ | ⟨-, -, -, hl⟩
  · rw [hl] at hw
    refine ⟨modules, hg, ?_⟩
    rcases mem_copyLicenseFiles_go hw hdir with ⟨p, hp, hne, rfl⟩ |
      ⟨files, hfiles, ⟨n, b⟩, hf, hfile, ⟨p, hp, hs⟩, rfl⟩
    · -- a license copy: the module's directory has a candidate, and the copy is the one picked
      obtain ⟨m, hm, hkept, rfl⟩ := mem_parseGoModules hp
      obtain ⟨-, -, hempty, -, hfound⟩ := goPackage_spec host.go m
      obtain ⟨d, hd, hc⟩ : ∃ d, ensureGoModuleDir host.go m.path m.version m.dir = some d ∧
          candidates (host.go.listing d) ≠ [] := by
        by_contra hno
        push_neg at hno
        exact hne (hempty.mpr hno)
      obtain ⟨f, hf⟩ := Option.ne_none_iff_exists'.mp (mt (findLicenseFile_eq_none_iff _).mp hc)
      obtain ⟨hcand, hpath, -⟩ := hfound d f hd hf
      exact .inl ⟨m, d, f, hm, hkept, hd, hf, (mem_candidates.mp hcand).1, by simp [licenseCopy, hpath]⟩
    · -- a manual file named for one of the modules
      obtain ⟨m, hm, hkept, rfl⟩ := mem_parseGoModules hp
      obtain ⟨hname, hversion, -⟩ := goPackage_spec host.go m
      simp only at hfile
      exact .inr ⟨files, m, hfiles, hfile ▸ hf, rfl, hm, hkept, by rwa [hname, hversion] at hs⟩
  · rw [hl] at hw
    exact absurd hw (List.not_mem_nil _)

/-- `main` returns 0 exactly when `backend/` exists, every argument is an option, `go list`
succeeds, the lockfile is missing or readable and `curl` is there to run; it prints
`backend directory not found` without `backend/` and what `parse_args` printed otherwise. A
run that does not return 0 writes nothing, unless `curl` is missing: then the notices are
written and the license copies made before its `FileNotFoundError` escapes. Every file a run
writes into `third_party/licenses/go/` is the license file `find_license_file` picked in the
directory of a Go module it keeps, or a file of the manual Go directory whose name starts with
such a module's `name@version-` prefix. -/
theorem noticesMain_spec (host : NoticesHost) (argv : List String) :
    let run := noticesMain host argv
    (run.exit = .code 0 ↔ host.backendExists ∧ (∀ a ∈ argv.tail, isOption a = true) ∧
        host.goList.isSome ∧ host.lock ≠ .malformed ∧ host.curl ≠ .notFound) ∧
      run.printed = (if host.backendExists then (parseArgs argv).2
        else ⟨[], ["backend directory not found"]⟩) ∧
      (run.exit ≠ .code 0 → run.notices = none ∧ run.licenses = [] ∨
        host.curl = .notFound ∧ run.exit = .raised ∧ run.notices.isSome ∧
          ∀ w ∈ run.licenses, ∃ path, w.source = .file path) ∧
      ∀ w ∈ run.licenses, w.dir = .go → ∃ modules, host.goList = some modules ∧
        ((∃ m d f, m ∈ modules ∧ keptModule m ∧ ensureGoModuleDir host.go m.path m.version m.dir = some d ∧
            findLicenseFile (host.go.listing d) = some f ∧ licenseNameMatch f.name ∧
            w.source = .file (foundPath d f)) ∨
          ∃ files m, host.manualGo = some files ∧ ⟨w.name, true⟩ ∈ files ∧ w.source = .manual w.name ∧
            m ∈ modules ∧ keptModule m ∧
            Py.startsWith w.name (sanitizeIdentifier m.path ++ "@" ++ sanitizeIdentifier m.version ++ "-")) := by
  intro run
  refine ⟨?_, ?_, ?_, fun w hw hdir => mem_noticesMain_go hw hdir⟩
  · have hlock : host.lock ≠ .malformed ↔ npmPackages host ≠ none := by rw [Ne, Ne, npmPackages_eq_none_iff]
    rw [← parseArgs_isSome, hlock]
    rcases noticesMain_cases host argv with ⟨includeDev, modules, npm, hp, hb, hg, hn, h0, -, -⟩ |
      ⟨h0, hfail, -, -⟩
    · obtain ⟨-, -, hr, -⟩ := copyLicenseFiles_written (parseGoModules host.go modules) npm.1 npm.2
        includeDev host.curl host.manualGo host.manualNpm host.manualExternal
      simp only [run, h0, hp, hb, hg, hn]
      by_cases hc : host.curl = .notFound <;> simp_all
    · simp only [run, h0, false_iff, not_and, Option.isSome_iff_exists]
      rintro hb ⟨_, hp⟩ ⟨_, hg⟩ hn
      rcases hfail with h | h | h | h <;> simp_all
  · simp only [run, noticesMain]
    split
    · rcases parseArgs argv with ⟨_ | _, printed⟩
      · rfl
      · rcases host.goList with _ | _
        · rfl
        · rcases npmPackages host with _ | _ <;> rfl
    · rfl
  · intro h0
    rcases noticesMain_cases host argv with ⟨includeDev, modules, npm, -, -, -, -, he, hs, hl⟩ |
      ⟨-, -, hn, hl⟩
    · by_cases hc : host.curl = .notFound
      · rw [hc] at he hl
        obtain ⟨hr, hf⟩ := @copyLicenseFiles_of_notFound (parseGoModules host.go modules) npm.1 npm.2
          includeDev host.manualGo host.manualNpm host.manualExternal
        rw [hr, if_pos rfl] at he
        exact .inr ⟨hc, he, hs, hl ▸ hf⟩
      · obtain ⟨-, -, hr, -⟩ := copyLicenseFiles_written (parseGoModules host.go modules) npm.1 npm.2
          includeDev host.curl host.manualGo host.manualNpm host.manualExternal
        simp only [hr, hc, if_false, decide_False] at he
        exact absurd he h0
    · exact .inl ⟨hn, hl⟩

end S3Desk.Notices
