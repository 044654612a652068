/-
# S3Desk.Notices.Licenses — `copy_license_files` and the names it writes

`copy_license_files` empties `third_party/licenses/{go,npm,external}`, copies the license file of
every Go module and then of every npm package it includes into its ecosystem's directory under
`format_license_filename(name, version, Path(license_path).name)`, skipping a name already in
the one `seen` set the two loops share, downloads the rclone license, and finally copies the
hand-kept files of `third_party/licenses-manual/` that the run does not already hold.

The filesystem enters as data: a manual directory is the listing `iterdir()` gives of it
(`none` when it does not exist), and the rclone download is how `curl` ended (`Curl`): with
the text, with a non-zero exit that `CalledProcessError` reports and the code catches, or with
no `curl` to run, whose `FileNotFoundError` escapes. The result is the list of files the run
writes, in order, and whether an exception escaped; the directories start empty
(`reset_dir`), so a file "exists" exactly when an earlier copy of the run wrote it.

§3 says which entries the license loops copy. A loop keeps an entry exactly when no earlier
entry of its list had the same destination name (`freshEntries`, stated over all earlier
entries, where the code tracks only the names it copied), and `sanitize_identifier` is not
injective, so distinct packages can share a name (`copyLicenseFiles_fileCopies`). The `seen`
set is shared by the two loops: an npm package whose name a Go module took is skipped though
`npm/` holds no file of that name, where `copy_manual_licenses` asks `dest.exists()` of its
own directory (`copyLicenseFiles_licenseCopies`).
-/
import S3Desk.Notices.Npm

namespace S3Desk.Notices

/-! ## §1 — names -/

/-- The characters `sanitize_identifier` keeps: `[A-Za-z0-9._+-]`. -/
def identChar (c : Char) : Bool :=
  c.isAlphanum && c.toNat < 128 || c = '.' || c = '_' || c = '+' || c = '-'

/-- `sanitize_identifier(value)` (lines 346–348). -/
def sanitizeIdentifier (value : String) : String :=
  let cleaned := Py.replace (Py.replace value "@" "") "/" "_"
  String.mk (cleaned.toList.map fun c => if identChar c then c else '_')

/-- `format_license_filename(name, version, license_name)` (lines 342–343). -/
def formatLicenseFilename (name version licenseName : String) : String :=
  sanitizeIdentifier name ++ "@" ++ sanitizeIdentifier version ++ "-" ++ licenseName

/-- The destination name of an entry's license file. -/
def destName (p : Package) : String :=
  formatLicenseFilename p.name p.version (Py.pathName p.licensePath)

/-! ## §2 — the code -/

/-- The three directories under `third_party/licenses/`. -/
inductive LicenseDir
  | go
  | npm
  | external
  deriving DecidableEq, Repr

/-- Where a written file comes from. -/
inductive Source
  | file (path : String)
  | manual (name : String)
  | download
  deriving DecidableEq, Repr

/-- A file the run writes: `dir / name`, from `source`. -/
structure Written where
  dir : LicenseDir
  name : String
  source : Source
  deriving DecidableEq, Repr

/-- An entry of a manual directory listing: its name and whether it is a file. -/
structure ManualEntry where
  name : String
  isFile : Bool
  deriving DecidableEq, Repr

/-- The license loops of lines 270–279 and 282–291: an entry with a license path is copied
unless its destination name is in `seen`. Returns the copies and the final `seen`. -/
def copyLoop (dir : LicenseDir) : List String → List Package → List Written × List String
  | seen, [] => ([], seen)
  | seen, p :: ps =>
    if p.licensePath = "" then copyLoop dir seen ps
    else if destName p ∈ seen then copyLoop dir seen ps
    else
      let r := copyLoop dir (seen ++ [destName p]) ps
      (⟨dir, destName p, .file p.licensePath⟩ :: r.1, r.2)

/-- The names already written to `dir`. -/
def namesIn (dir : LicenseDir) (written : List Written) : List String :=
  (written.filter (·.dir = dir)).map (·.name)

/-- The copy loop of `copy_manual_licenses` and `copy_manual_external_licenses`: each file of
the listing that `wanted` accepts and that is not in the directory yet. -/
def copyManualLoop (dir : LicenseDir) (wanted : String → Bool) :
    List String → List ManualEntry → List Written
  | _, [] => []
  | present, f :: fs =>
    if f.isFile && wanted f.name && !(f.name ∈ present) then
      ⟨dir, f.name, .manual f.name⟩ :: copyManualLoop dir wanted (present ++ [f.name]) fs
    else copyManualLoop dir wanted present fs

/-- `copy_manual_licenses(target_dir, manual_dir, packages)` (lines 312–327). -/
def copyManualLicenses (dir : LicenseDir) (manual : Option (List ManualEntry))
    (packages : List Package) (present : List String) : List Written :=
  match manual with
  | none => []
  | some files =>
    let prefixes := packages.map fun p =>
      sanitizeIdentifier p.name ++ "@" ++ sanitizeIdentifier p.version ++ "-"
    if prefixes.isEmpty then []
    else copyManualLoop dir (fun n => prefixes.any (Py.startsWith n ·)) present files

/-- `copy_manual_external_licenses(target_dir, manual_dir)` (lines 330–339). -/
def copyManualExternalLicenses (manual : Option (List ManualEntry)) (present : List String) :
    List Written :=
  match manual with
  | none => []
  | some files => copyManualLoop .external (fun _ => true) present files

/-- How `run(["curl", "-fsSL", RCLONE_LICENSE_URL])` ends (lines 295–299): with the license
text; with a non-zero exit, whose `CalledProcessError` is caught; or with no `curl` on the
machine, whose `FileNotFoundError` escapes. -/
inductive Curl
  | ok
  | exitError
  | notFound
  deriving DecidableEq, Repr

/-- How `copy_license_files` ends: the files it wrote, in order, and whether an exception
escaped it. -/
structure CopyRun where
  written : List Written
  raised : Bool
  deriving DecidableEq, Repr

/-- `copy_license_files(go_modules, npm_runtime, npm_dev, include_dev)` (lines 259–303), with
`curl` how the download of the rclone license ends. -/
def copyLicenseFiles (goModules npmRuntime npmDev : List Package) (includeDev : Bool) (curl : Curl)
    (manualGo manualNpm manualExternal : Option (List ManualEntry)) : CopyRun :=
  let goRun := copyLoop .go [] goModules
  let packages := if includeDev then npmRuntime ++ npmDev else npmRuntime
  let npmRun := copyLoop .npm goRun.2 packages
  let w := goRun.1 ++ npmRun.1
  if curl = .notFound then ⟨w, true⟩
  else
    let w := w ++ (if curl = .ok then [⟨.external, "rclone-LICENSE", .download⟩] else [])
    let w := w ++ copyManualLicenses .go manualGo goModules (namesIn .go w)
    let w := w ++ copyManualLicenses .npm manualNpm packages (namesIn .npm w)
    ⟨w ++ copyManualExternalLicenses manualExternal (namesIn .external w), false⟩

/-! ## §3 — which licenses the loops copy -/

/-- The copy of an entry's license file into `dir`. -/
def licenseCopy (dir : LicenseDir) (p : Package) : Written := ⟨dir, destName p, .file p.licensePath⟩

/-- The entries of a list whose destination name no entry before them has: `taken` holds the
names of the entries already passed. -/
def freshEntries : List String → List Package → List Package
  | _, [] => []
  | taken, p :: ps =>
    if destName p ∈ taken then freshEntries (taken ++ [destName p]) ps
    else p :: freshEntries (taken ++ [destName p]) ps

/-- The entries the loops look at: those with a license path. -/
def licensed (ps : List Package) : List Package := ps.filter (·.licensePath ≠ "")

/-- A license loop copies the entries with a license path whose name no earlier such entry had;
its `seen` set ends holding the names it started with and those of every such entry. `seen`
only records the names it copied, so the loop starts from any list with the members of
`taken`. -/
theorem copyLoop_spec (dir : LicenseDir) (ps : List Package) :
    ∀ (seen taken : List String), (∀ x, x ∈ seen ↔ x ∈ taken) →
      (copyLoop dir seen ps).1 = (freshEntries taken (licensed ps)).map (licenseCopy dir) ∧
      ∀ x, x ∈ (copyLoop dir seen ps).2 ↔ x ∈ taken ∨ x ∈ (licensed ps).map destName := by
  induction ps with
  | nil => intro seen taken h; simpa [copyLoop, freshEntries, licensed] using h
  | cons p ps ih =>
    intro seen taken h
    by_cases hp : p.licensePath = ""
    · simpa [copyLoop, hp, licensed] using ih seen taken h
    · have hl : licensed (p :: ps) = p :: licensed ps := by simp [licensed, hp]
      rw [hl]
      by_cases hs : destName p ∈ seen
      · have ht : destName p ∈ taken := (h _).mp hs
        obtain ⟨h1, h2⟩ := ih seen (taken ++ [destName p]) fun x => by
          rw [h x, List.mem_append, List.mem_singleton]
          exact ⟨.inl, fun h' => h'.elim id fun e => e ▸ ht⟩
        refine ⟨by simpa [copyLoop, hp, hs, freshEntries, ht] using h1, fun x => ?_⟩
        simp only [copyLoop, hp, hs, if_false, if_true, h2, List.mem_append, List.mem_singleton,
          List.map_cons, List.mem_cons]
        tauto
      · have ht : destName p ∉ taken := fun h' => hs ((h _).mpr h')
        obtain ⟨h1, h2⟩ := ih (seen ++ [destName p]) (taken ++ [destName p]) fun x => by
          simp [h x]
        refine ⟨by simpa [copyLoop, hp, hs, freshEntries, ht, licenseCopy] using h1, fun x => ?_⟩
        simp only [copyLoop, hp, hs, if_false, h2, List.mem_append, List.mem_singleton,
          List.map_cons, List.mem_cons]
        tauto

/-- When no two entries share a destination name, and none has one of `taken`, every entry is
fresh. -/
theorem freshEntries_of_nodup :
    ∀ (taken : List String) (ps : List Package), (ps.map destName).Nodup →
      (∀ p ∈ ps, destName p ∉ taken) → freshEntries taken ps = ps
  | _, [], _, _ => rfl
  | taken, p :: ps, hn, ht => by
    rw [List.map_cons, List.nodup_cons] at hn
    have hp := ht p (List.mem_cons_self _ _)
    rw [freshEntries, if_neg hp, freshEntries_of_nodup _ ps hn.2 fun q hq => by
      simp only [List.mem_append, List.mem_singleton, not_or]
      exact ⟨ht q (List.mem_cons_of_mem _ hq), fun e => hn.1 (e ▸ List.mem_map_of_mem _ hq)⟩]

/-- Starting from more taken names drops exactly the entries whose names are among them. -/
theorem freshEntries_append (t : List String) :
    ∀ (u : List String) (ps : List Package),
      freshEntries (t ++ u) ps = (freshEntries u ps).filter fun p => destName p ∉ t
  | _, [] => rfl
  | u, p :: ps => by
    have ih := freshEntries_append t (u ++ [destName p]) ps
    by_cases hu : destName p ∈ u
    · simp [freshEntries, hu, ih]
    · by_cases ht : destName p ∈ t <;> simp [freshEntries, hu, ht, ih]

theorem freshEntries_sublist : ∀ (taken : List String) (ps : List Package), (freshEntries taken ps).Sublist ps
  | _, [] => List.Sublist.slnil
  | taken, p :: ps => by
    unfold freshEntries
    split
    · exact (freshEntries_sublist _ ps).cons p
    · exact (freshEntries_sublist _ ps).cons₂ p

theorem mem_licensed {p : Package} {ps : List Package} : p ∈ licensed ps ↔ p ∈ ps ∧ p.licensePath ≠ "" := by
  simp [licensed]

/-- When the names of the Go and the npm entries with a license path are all distinct, both
loops copy every such entry. -/
theorem freshEntries_licensed_of_nodup {goModules packages : List Package}
    (hn : ((licensed goModules ++ licensed packages).map destName).Nodup) :
    freshEntries [] (licensed goModules) = licensed goModules ∧
      freshEntries ((licensed goModules).map destName) (licensed packages) = licensed packages := by
  rw [List.map_append, List.nodup_append] at hn
  obtain ⟨hgo, hnpm, hdisj⟩ := hn
  exact ⟨freshEntries_of_nodup [] _ hgo fun _ _ => List.not_mem_nil _,
    freshEntries_of_nodup _ _ hnpm fun p hp h => hdisj h (List.mem_map_of_mem _ hp)⟩

/-- A file the manual loop writes is a file of the listing that `wanted` accepts, copied under
its own name. -/
theorem mem_copyManualLoop {dir : LicenseDir} {wanted : String → Bool} {w : Written} :
    ∀ {present : List String} {fs : List ManualEntry}, w ∈ copyManualLoop dir wanted present fs →
      ∃ f ∈ fs, f.isFile = true ∧ wanted f.name = true ∧ w = ⟨dir, f.name, .manual f.name⟩
  | _, [], h => by simp [copyManualLoop] at h
  | present, f :: fs, h => by
    have tail {present' : List String} (h : w ∈ copyManualLoop dir wanted present' fs) :
        ∃ g ∈ f :: fs, g.isFile = true ∧ wanted g.name = true ∧ w = ⟨dir, g.name, .manual g.name⟩ :=
      let ⟨g, hg, h⟩ := mem_copyManualLoop h
      ⟨g, List.mem_cons_of_mem _ hg, h⟩
    rw [copyManualLoop] at h
    split at h
    · next hf =>
      simp only [Bool.and_eq_true] at hf
      rcases List.mem_cons.mp h with rfl | h
      · exact ⟨f, List.mem_cons_self _ _, hf.1.1, hf.1.2, rfl⟩
      · exact tail h
    · exact tail h

/-- A file `copy_manual_licenses` writes is a file of the manual directory whose name starts
with the prefix of one of the packages, copied under its own name. -/
theorem mem_copyManualLicenses {dir : LicenseDir} {manual : Option (List ManualEntry)}
    {packages : List Package} {present : List String} {w : Written}
    (h : w ∈ copyManualLicenses dir manual packages present) :
    ∃ files, manual = some files ∧ ∃ f ∈ files, f.isFile = true ∧
      (∃ p ∈ packages, Py.startsWith f.name
        (sanitizeIdentifier p.name ++ "@" ++ sanitizeIdentifier p.version ++ "-") = true) ∧
      w = ⟨dir, f.name, .manual f.name⟩ := by
  simp only [copyManualLicenses] at h
  split at h
  · simp at h
  · next files =>
    split at h
    · simp at h
    · obtain ⟨f, hf, hfile, hwant, rfl⟩ := mem_copyManualLoop h
      obtain ⟨_, hx, hs⟩ := List.any_eq_true.mp hwant
      obtain ⟨p, hp, rfl⟩ := List.mem_map.mp hx
      exact ⟨files, rfl, f, hf, hfile, ⟨p, hp, hs⟩, rfl⟩

/-- A file `copy_manual_external_licenses` writes goes to `external/` from the manual
directory. -/
theorem mem_copyManualExternalLicenses {manual : Option (List ManualEntry)} {present : List String}
    {w : Written} (h : w ∈ copyManualExternalLicenses manual present) :
    w.dir = .external ∧ w.source = .manual w.name := by
  simp only [copyManualExternalLicenses] at h
  split at h
  · simp at h
  · obtain ⟨f, -, -, -, rfl⟩ := mem_copyManualLoop h
    exact ⟨rfl, rfl⟩

/-- `copy_license_files` writes the copies of its two license loops and then `rest`: nothing
when `curl` is missing, and the run raises exactly then; otherwise the rclone download when
`curl` succeeded and the manual copies, none of them a license copy, and those in `go/` the
ones of `copy_manual_licenses` for the Go modules. -/
theorem copyLicenseFiles_written (goModules npmRuntime npmDev : List Package) (includeDev : Bool)
    (curl : Curl) (manualGo manualNpm manualExternal : Option (List ManualEntry)) :
    let packages := if includeDev then npmRuntime ++ npmDev else npmRuntime
    let run := copyLicenseFiles goModules npmRuntime npmDev includeDev curl manualGo manualNpm
      manualExternal
    ∃ rest,
      run.written = (freshEntries [] (licensed goModules)).map (licenseCopy .go) ++
          (freshEntries ((licensed goModules).map destName) (licensed packages)).map
            (licenseCopy .npm) ++ rest ∧
      (run.raised = true ↔ curl = .notFound) ∧ (curl = .notFound → rest = []) ∧
      (∀ w ∈ rest, ∀ path, w.source ≠ .file path) ∧
      ∀ w ∈ rest, w.dir = .go → ∃ present, w ∈ copyManualLicenses .go manualGo goModules present := by
  intro packages run
  obtain ⟨hg1, hg2⟩ := copyLoop_spec .go goModules [] [] fun _ => Iff.rfl
  obtain ⟨hn1, -⟩ := copyLoop_spec .npm packages (copyLoop .go [] goModules).2
    ((licensed goModules).map destName) fun x => by simpa using hg2 x
  rw [← hg1, ← hn1]
  by_cases hc : curl = .notFound
  · refine ⟨[], by simp [run, copyLicenseFiles, hc], by simp [run, copyLicenseFiles, hc], fun _ => rfl,
      by simp, by simp⟩
  obtain ⟨rest, hrest⟩ : (copyLoop .go [] goModules).1 ++ (copyLoop .npm (copyLoop .go [] goModules).2
      packages).1 <+: run.written := by
    simp only [run, copyLicenseFiles, if_neg hc, List.append_assoc]
    exact ⟨_, List.append_assoc _ _ _⟩
  refine ⟨rest, hrest.symm, by simp [run, copyLicenseFiles, hc], fun h => absurd h hc, ?_⟩
  simp only [run, copyLicenseFiles, if_neg hc, List.append_assoc, List.append_cancel_left_eq] at hrest
  subst hrest
  have hmanual : ∀ {dir m ps present w}, w ∈ copyManualLicenses dir m ps present →
      w.dir = dir ∧ ∀ path, w.source ≠ .file path := fun h => by
    obtain ⟨-, -, f, -, -, -, rfl⟩ := mem_copyManualLicenses h
    exact ⟨rfl, nofun⟩
  have hext : ∀ {present w}, w ∈ copyManualExternalLicenses manualExternal present →
      w.dir = .external ∧ ∀ path, w.source ≠ .file path := fun h => by
    obtain ⟨hd, hs⟩ := mem_copyManualExternalLicenses h
    exact ⟨hd, fun path => by simp [hs]⟩
  have hdl : ∀ {w}, w ∈ (if curl = .ok then [(⟨.external, "rclone-LICENSE", .download⟩ : Written)] else []) →
      w.dir = .external ∧ ∀ path, w.source ≠ .file path := fun h => by
    split at h
    · obtain rfl := List.mem_singleton.mp h
      exact ⟨rfl, nofun⟩
    · simp at h
  constructor
  · intro w hw
    simp only [List.mem_append] at hw
    rcases hw with hw | hw | hw | hw
    exacts [(hdl hw).2, (hmanual hw).2, (hmanual hw).2, (hext hw).2]
  · intro w hw hdir
    simp only [List.mem_append] at hw
    rcases hw with hw | hw | hw | hw
    · simp [(hdl hw).1] at hdir
    · exact ⟨_, hw⟩
    · simp [(hmanual hw).1] at hdir
    · simp [(hext hw).1] at hdir

/-- A file `copy_license_files` writes into `go/` is the license copy of a Go module with a
license path, or a file of the manual Go directory whose name starts with a Go module's
`name@version-` prefix, copied under its own name. -/
theorem mem_copyLicenseFiles_go {goModules npmRuntime npmDev : List Package} {includeDev : Bool}
    {curl : Curl} {manualGo manualNpm manualExternal : Option (List ManualEntry)} {w : Written}
    (hw : w ∈ (copyLicenseFiles goModules npmRuntime npmDev includeDev curl manualGo manualNpm
      manualExternal).written) (hdir : w.dir = .go) :
    (∃ p ∈ goModules, p.licensePath ≠ "" ∧ w = licenseCopy .go p) ∨
      ∃ files, manualGo = some files ∧ ∃ f ∈ files, f.isFile = true ∧
        (∃ p ∈ goModules, Py.startsWith f.name
          (sanitizeIdentifier p.name ++ "@" ++ sanitizeIdentifier p.version ++ "-") = true) ∧
        w = ⟨.go, f.name, .manual f.name⟩ := by
  obtain ⟨rest, h, -, -, -, hgo⟩ := copyLicenseFiles_written goModules npmRuntime npmDev includeDev curl
    manualGo manualNpm manualExternal
  rw [h] at hw
  simp only [List.mem_append, List.mem_map] at hw
  rcases hw with (⟨p, hp, rfl⟩ | ⟨p, -, rfl⟩) | hw
  · obtain ⟨hp, hl⟩ := mem_licensed.mp ((freshEntries_sublist _ _).subset hp)
    exact .inl ⟨p, hp, hl, rfl⟩
  · simp [licenseCopy] at hdir
  · obtain ⟨_, hm⟩ := hgo w hw hdir
    exact .inr (mem_copyManualLicenses hm)

/-- Without `curl`, the run raises after the license loops, having written only license
copies. -/
theorem copyLicenseFiles_of_notFound {goModules npmRuntime npmDev : List Package} {includeDev : Bool}
    {manualGo manualNpm manualExternal : Option (List ManualEntry)} :
    let run := copyLicenseFiles goModules npmRuntime npmDev includeDev .notFound manualGo manualNpm
      manualExternal
    run.raised = true ∧ ∀ w ∈ run.written, ∃ path, w.source = .file path := by
  intro run
  obtain ⟨rest, h, hr, hnil, -⟩ := copyLicenseFiles_written goModules npmRuntime npmDev includeDev .notFound
    manualGo manualNpm manualExternal
  refine ⟨hr.mpr rfl, fun w hw => ?_⟩
  rw [h, hnil rfl, List.append_nil] at hw
  simp only [List.mem_append, List.mem_map] at hw
  rcases hw with ⟨p, -, rfl⟩ | ⟨p, -, rfl⟩ <;> exact ⟨_, rfl⟩

/-- The license copies of `copy_license_files`: into `go/`, in order, the license of each Go
module with a license path whose destination name no earlier such module had; into `npm/`,
licenses of included npm packages with a license path only, never one whose destination name
an earlier such package had, and every one whose name neither an earlier such package nor any
Go module with a license path had; every later file (the rclone license, the manual files)
comes from elsewhere. When all these destination names are distinct, every entry with a
license path is copied. -/
theorem copyLicenseFiles_fileCopies (goModules npmRuntime npmDev : List Package) (includeDev : Bool)
    (curl : Curl) (manualGo manualNpm manualExternal : Option (List ManualEntry)) :
    let packages := if includeDev then npmRuntime ++ npmDev else npmRuntime
    let run := copyLicenseFiles goModules npmRuntime npmDev includeDev curl manualGo manualNpm
      manualExternal
    ∃ npmCopies rest,
      run.written = (freshEntries [] (licensed goModules)).map (licenseCopy .go) ++ npmCopies ++ rest ∧
      npmCopies.Sublist ((freshEntries [] (licensed packages)).map (licenseCopy .npm)) ∧
      (∀ p ∈ freshEntries [] (licensed packages), destName p ∉ (licensed goModules).map destName →
        licenseCopy .npm p ∈ npmCopies) ∧
      (∀ w ∈ rest, ∀ path, w.source ≠ .file path) ∧
      (((licensed goModules ++ licensed packages).map destName).Nodup →
        run.written = (licensed goModules).map (licenseCopy .go) ++
          (licensed packages).map (licenseCopy .npm) ++ rest) := by
  intro packages run
  obtain ⟨rest, h, -, -, hsrc, -⟩ := copyLicenseFiles_written goModules npmRuntime npmDev includeDev curl
    manualGo manualNpm manualExternal
  have hfresh : freshEntries ((licensed goModules).map destName) (licensed packages) =
      (freshEntries [] (licensed packages)).filter fun p => destName p ∉ (licensed goModules).map destName := by
    simpa using freshEntries_append ((licensed goModules).map destName) [] (licensed packages)
  refine ⟨_, rest, h, ?_, fun p hp hn => ?_, hsrc, fun hn => ?_⟩
  · rw [hfresh]
    exact (List.filter_sublist _).map _
  · rw [hfresh]
    exact List.mem_map_of_mem _ (List.mem_filter.mpr ⟨hp, by simpa using hn⟩)
  · obtain ⟨hg, hp⟩ := freshEntries_licensed_of_nodup hn
    rwa [hg, hp] at h

/-- A Go module and an npm package whose destination names differ: both licenses are copied. -/
theorem copyLicenseFiles_distinctNames :
    ∃ rest,
      ((licensed [⟨"a/b", "v1.0.0", "MIT", "/go/a/b/LICENSE"⟩] ++
          licensed [⟨"@a/b", "1.0.0", "MIT", "/x/@a/b/LICENSE"⟩]).map destName).Nodup ∧
      (copyLicenseFiles [⟨"a/b", "v1.0.0", "MIT", "/go/a/b/LICENSE"⟩]
          [⟨"@a/b", "1.0.0", "MIT", "/x/@a/b/LICENSE"⟩] [] false .exitError none none none).written =
        [⟨.go, "a_b@v1.0.0-LICENSE", .file "/go/a/b/LICENSE"⟩,
          ⟨.npm, "a_b@1.0.0-LICENSE", .file "/x/@a/b/LICENSE"⟩] ++ rest := by
  obtain ⟨-, rest, -, -, -, -, h⟩ := copyLicenseFiles_fileCopies [⟨"a/b", "v1.0.0", "MIT", "/go/a/b/LICENSE"⟩]
    [⟨"@a/b", "1.0.0", "MIT", "/x/@a/b/LICENSE"⟩] [] false .exitError none none none
  exact ⟨rest, by decide, (h (by decide)).trans (congrArg (· ++ rest) (by decide))⟩

/-- `sanitize_identifier` maps `@a/b` and `a_b` to the same name: of two npm packages so named,
with the same version and license file name, only the first license is copied. -/
theorem copyLicenseFiles_nameCollision :
    sanitizeIdentifier "@a/b" = sanitizeIdentifier "a_b" ∧
    (copyLicenseFiles [] [⟨"@a/b", "1.0.0", "MIT", "/x/@a/b/LICENSE"⟩,
        ⟨"a_b", "1.0.0", "MIT", "/x/a_b/LICENSE"⟩] [] false .exitError none none none).written =
      [⟨.npm, "a_b@1.0.0-LICENSE", .file "/x/@a/b/LICENSE"⟩] := by
  decide

/-- What the license loops copy, the `seen` set shared across `go/` and `npm/` included: first
the Go modules whose destination name no earlier Go module with a license path had, then the
included npm packages whose name neither an earlier such package nor any Go module with a
license path had, so that an npm package is skipped for a name only `go/` holds; every later
file comes from elsewhere, and none is written when `curl` is missing, which raises. When all
these destination names are distinct, every entry with a license path is copied. -/
theorem copyLicenseFiles_licenseCopies (goModules npmRuntime npmDev : List Package) (includeDev : Bool)
    (curl : Curl) (manualGo manualNpm manualExternal : Option (List ManualEntry)) :
    let packages := if includeDev then npmRuntime ++ npmDev else npmRuntime
    let run := copyLicenseFiles goModules npmRuntime npmDev includeDev curl manualGo manualNpm
      manualExternal
    ∃ rest,
      run.written = (freshEntries [] (licensed goModules)).map (licenseCopy .go) ++
          (freshEntries ((licensed goModules).map destName) (licensed packages)).map
            (licenseCopy .npm) ++ rest ∧
      (∀ w ∈ rest, ∀ path, w.source ≠ .file path) ∧
      (run.raised = true ↔ curl = .notFound) ∧ (curl = .notFound → rest = []) ∧
      (((licensed goModules ++ licensed packages).map destName).Nodup →
        run.written = (licensed goModules).map (licenseCopy .go) ++
          (licensed packages).map (licenseCopy .npm) ++ rest) := by
  intro packages run
  obtain ⟨rest, h, hr, hnil, hsrc, -⟩ := copyLicenseFiles_written goModules npmRuntime npmDev includeDev
    curl manualGo manualNpm manualExternal
  refine ⟨rest, h, hsrc, hr, hnil, fun hn => ?_⟩
  obtain ⟨hg, hp⟩ := freshEntries_licensed_of_nodup hn
  rwa [hg, hp] at h

/-- A Go module and an npm package whose destination names meet in `a_b@1.0.0-LICENSE`: the npm
loop finds the name in `seen` and copies nothing into `npm/`, which holds no such file. -/
theorem copyLicenseFiles_goNameHidesNpm :
    ∃ rest, (copyLicenseFiles [⟨"a/b", "1.0.0", "BSD-3-Clause", "/go/a/b/LICENSE"⟩]
        [⟨"@a/b", "1.0.0", "MIT", "/x/@a/b/LICENSE"⟩] [] false .exitError none none none).written =
      [⟨.go, "a_b@1.0.0-LICENSE", .file "/go/a/b/LICENSE"⟩] ++ rest ∧
      ∀ w ∈ rest, ∀ path, w.source ≠ .file path := by
  obtain ⟨rest, h, hsrc, -⟩ := copyLicenseFiles_licenseCopies [⟨"a/b", "1.0.0", "BSD-3-Clause",
    "/go/a/b/LICENSE"⟩] [⟨"@a/b", "1.0.0", "MIT", "/x/@a/b/LICENSE"⟩] [] false .exitError none none none
  exact ⟨rest, h.trans (congrArg (· ++ rest) (by decide)), hsrc⟩

end S3Desk.Notices
