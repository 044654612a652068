/-
# S3Desk.Notices.GoModules — `find_license_file`, `detect_license` and `parse_go_modules`

For every module of `go list -m -json all` that is not the main module and has a path and a
version, `parse_go_modules` finds the module's directory (the `Dir` go reports, else the one
`go mod download` reports), picks a license file in it with `find_license_file`, names its
license with `detect_license`, and returns the records sorted by `(name, version)`.

`find_license_file` keeps the files whose name `LICENSE_RE` matches, looking into the
subdirectories only when the directory itself has none, and returns the first of least rank
(`LICENSE…`, then `COPYING…`, then `NOTICE…`) in listing order (`findLicenseFile_spec`).
`detect_license` tries the patterns of `LICENSE_PATTERNS` in order, then the MIT and BSD
phrases (`detectLicense_spec`). §1 is the matcher those patterns are run with: a pattern is a
list of ASCII characters and `\s*` gaps, matched case-insensitively, and `search` finds exactly
the texts that have a stretch the pattern matches (`search_iff`).

Boundary. `re.IGNORECASE` on a `str` pattern compares simple lower cases, and `sre` adds a
second case to a few letters; the characters that meet an ASCII letter this way are `İ` and
`ı` for `i`, `ſ` for `s` and the Kelvin sign for `k`. Every pattern of the source is ASCII, and
a pattern character carries that bound (`PatChar`), so `ciEq` is `re.IGNORECASE` wherever it
is used; on other pattern characters it would not be, and none can be built. `rank` lowers the name with
ASCII `lower`: on a name that `LICENSE_RE` matched, Python's full `str.lower` answers the two
`startswith` tests the same way (the one non-ASCII letter whose full lower case starts with an
ASCII letter, `İ`, lowers to `i` followed by a combining dot). The module objects carry the
fields go prints as strings and booleans, absent ones read as `""` and `false`; decoding the
stream with `raw_decode` is the library's. A directory is given by its entries as `iterdir()`
lists them, and a module directory's path as go prints it, so that `str(path / name)` is
`path ++ "/" ++ name`.
-/
import S3Desk.Notices.Npm

namespace S3Desk.Notices

/-! ## §1 — the patterns -/

/-- A character of a pattern: the patterns of the source are ASCII. -/
structure PatChar where
  char : Char
  ascii : char.toNat < 128
  deriving DecidableEq, Repr

/-- `re.IGNORECASE` on a `str` pattern: a character matches the ASCII pattern character `p`
when its lower case is that of `p`, or when `sre` lists it as another case of `p`. -/
def ciEq (c : Char) (p : PatChar) : Bool :=
  c.toLower == p.char.toLower ||
    (p.char.toLower == 'i' && (c == 'İ' || c == 'ı')) || (p.char.toLower == 's' && c == 'ſ') ||
    (p.char.toLower == 'k' && c == 'K')

/-- One piece of a license pattern: a character, or `\s*`. -/
inductive Tok where
  | lit (c : PatChar)
  | spaces
  deriving DecidableEq, Repr

/-- The characters of the ASCII string `s`, each matched as itself. -/
def lits (s : String) (h : ∀ c ∈ s.toList, c.toNat < 128) : List Tok :=
  s.toList.attach.map fun c => .lit ⟨c.1, h c.1 c.2⟩

/-- Whether a prefix of `s` matches the pattern: `\s*` tries every run of whitespace the text
starts with. -/
def matchHere : List Tok → List Char → Bool
  | [], _ => true
  | .lit p :: ts, c :: cs => ciEq c p && matchHere ts cs
  | .lit _ :: _, [] => false
  | .spaces :: ts, s => (List.range ((s.takeWhile Py.isSpace).length + 1)).any fun k => matchHere ts (s.drop k)

/-- `pattern.search(text) is not None`: the pattern matches from some position. -/
def search (ts : List Tok) (text : String) : Bool :=
  (List.range (text.toList.length + 1)).any fun i => matchHere ts (text.toList.drop i)

/-- The words a pattern matches: each character one character it matches, each `\s*` a run of
whitespace. -/
inductive Matches : List Tok → List Char → Prop
  | nil : Matches [] []
  | lit {p : PatChar} {c : Char} {ts : List Tok} {w : List Char} : ciEq c p = true → Matches ts w →
      Matches (.lit p :: ts) (c :: w)
  | spaces {ts : List Tok} {sp w : List Char} : (∀ c ∈ sp, Py.isSpace c = true) → Matches ts w →
      Matches (.spaces :: ts) (sp ++ w)

theorem mem_take_of_le_takeWhile {p : Char → Bool} {s : List Char} {k : Nat}
    (hk : k ≤ (s.takeWhile p).length) {c : Char} (hc : c ∈ s.take k) : p c = true := by
  rw [← List.takeWhile_append_dropWhile p s, List.take_append_of_le_length hk] at hc
  exact List.mem_takeWhile_imp (List.mem_of_mem_take hc)

theorem length_le_takeWhile {p : Char → Bool} {sp : List Char} (h : ∀ c ∈ sp, p c = true)
    (t : List Char) : sp.length ≤ ((sp ++ t).takeWhile p).length := by
  induction sp with
  | nil => simp
  | cons c cs ih =>
    simp only [List.cons_append, List.takeWhile_cons, h c (List.mem_cons_self _ _), List.length_cons]
    exact Nat.succ_le_succ (ih fun x hx => h x (List.mem_cons_of_mem _ hx))

/-- The matcher finds exactly the prefixes the pattern matches. -/
theorem matchHere_iff (ts : List Tok) (s : List Char) :
    matchHere ts s = true ↔ ∃ w rest, s = w ++ rest ∧ Matches ts w := by
  induction ts generalizing s with
  | nil =>
    refine iff_of_true rfl ⟨[], s, rfl, .nil⟩
  | cons t ts ih =>
    cases t with
    | lit p =>
      cases s with
      | nil =>
        simp only [matchHere, Bool.false_eq_true, false_iff, not_exists, not_and]
        intro w rest h hm
        cases hm
        simp at h
      | cons c cs =>
        simp only [matchHere, Bool.and_eq_true, ih]
        constructor
        · rintro ⟨hc, w, rest, rfl, hm⟩
          exact ⟨c :: w, rest, rfl, .lit hc hm⟩
        · rintro ⟨w, rest, h, hm⟩
          cases hm with
          | lit hc hm =>
            obtain ⟨rfl, rfl⟩ := List.cons.inj h
            exact ⟨hc, _, rest, rfl, hm⟩
    | spaces =>
      simp only [matchHere, List.any_eq_true, List.mem_range, ih]
      constructor
      · rintro ⟨k, hk, w, rest, h, hm⟩
        refine ⟨s.take k ++ w, rest, ?_, .spaces (fun c hc => ?_) hm⟩
        · rw [List.append_assoc, ← h, List.take_append_drop]
        · exact mem_take_of_le_takeWhile (Nat.lt_succ_iff.mp hk) hc
      · rintro ⟨w, rest, rfl, hm⟩
        cases hm with
        | @spaces _ sp w hsp hm =>
          refine ⟨sp.length, Nat.lt_succ_of_le ?_, w, rest, by simp, hm⟩
          simpa [List.append_assoc] using length_le_takeWhile hsp (w ++ rest)

/-- `search` finds exactly the texts with a stretch the pattern matches. -/
theorem search_iff (ts : List Tok) (text : String) :
    search ts text = true ↔ ∃ pre w post, text.toList = pre ++ w ++ post ∧ Matches ts w := by
  simp only [search, List.any_eq_true, List.mem_range, matchHere_iff]
  constructor
  · rintro ⟨i, -, w, post, h, hm⟩
    exact ⟨text.toList.take i, w, post, by rw [List.append_assoc, ← h, List.take_append_drop], hm⟩
  · rintro ⟨pre, w, post, h, hm⟩
    refine ⟨pre.length, ?_, w, post, by rw [h, List.append_assoc, List.drop_left], hm⟩
    rw [h, List.length_append, List.length_append]
    omega

/-! ## §2 — `find_license_file` -/

/-- An entry of a directory as `iterdir()` lists it: a file, a directory with its entries, or
anything else (for which `is_file()` and `is_dir()` are both false). -/
inductive Entry where
  | file (name : String)
  | dir (name : String) (entries : List Entry)
  | other (name : String)

/-- A license file found: the subdirectory it is in, if any, and its name. -/
structure Found where
  sub : Option String
  name : String
  deriving DecidableEq, Repr

/-- The stems of `LICENSE_RE` (line 28), the class `[sc]` written out. -/
def licenseStems : List (List Tok) :=
  [lits "license" (by decide), lits "licence" (by decide), lits "copying" (by decide),
    lits "notice" (by decide)]

/-- `(\..*)?$` after the stem: nothing, or a dot and characters other than a newline; `$` also
matches before a final newline. -/
def licenseTail (rest : List Char) : Bool :=
  let body := if rest.getLast? = some '\n' then rest.dropLast else rest
  body = [] || (body.head? = some '.' && !body.contains '\n')

/-- `LICENSE_RE.match(name)`: `^(licen[sc]e|copying|notice)(\..*)?$` with `re.I`. -/
def licenseNameMatch (name : String) : Bool :=
  licenseStems.any fun stem => matchHere stem name.toList && licenseTail (name.toList.drop stem.length)

/-- `[p for p in d.iterdir() if p.is_file() and LICENSE_RE.match(p.name)]`, for the directory
itself (`sub = none`) or its subdirectory `sub`. -/
def licenseFiles (sub : Option String) (es : List Entry) : List Found :=
  es.filterMap fun e => match e with
    | .file n => if licenseNameMatch n then some ⟨sub, n⟩ else none
    | _ => none

/-- The files of lines 105–111: the license files of the directory, or, when it has none,
those of its subdirectories in listing order. -/
def candidates (es : List Entry) : List Found :=
  match licenseFiles none es with
  | [] => es.flatMap fun e => match e with
    | .dir n sub => licenseFiles (some n) sub
    | _ => []
  | fs => fs

/-- `rank(p)` (lines 114–120). -/
def rank (f : Found) : Nat :=
  if Py.startsWith (Py.lower f.name) "licen" then 0
  else if Py.startsWith (Py.lower f.name) "copying" then 1
  else 2

/-- `find_license_file(module_dir)` (lines 104–123): `files.sort(key=rank)` and its first
element. -/
def findLicenseFile (es : List Entry) : Option Found :=
  ((candidates es).insertionSort fun a b => rank a ≤ rank b).head?

example : findLicenseFile [.file "README.md", .file "NOTICE", .file "COPYING", .file "LICENSE.txt"] =
    some ⟨none, "LICENSE.txt"⟩ := by decide

example : findLicenseFile [.file "go.mod", .dir "legal" [.file "notice.md"]] = some ⟨some "legal", "notice.md"⟩ := by
  decide

theorem mem_licenseFiles {sub : Option String} {es : List Entry} {f : Found} :
    f ∈ licenseFiles sub es ↔ f.sub = sub ∧ licenseNameMatch f.name = true ∧ Entry.file f.name ∈ es := by
  simp only [licenseFiles, List.mem_filterMap]
  constructor
  · rintro ⟨e, he, hf⟩
    cases e with
    | file n =>
      simp only [Option.ite_none_right_eq_some, Option.some.injEq] at hf
      obtain ⟨hn, rfl⟩ := hf
      exact ⟨rfl, hn, he⟩
    | dir => simp at hf
    | other => simp at hf
  · rintro ⟨hs, hn, he⟩
    exact ⟨_, he, by simp [hn, ← hs]⟩

/-- The candidates are the license-named files of the directory, or, when it has none, the
license-named files of its subdirectories. -/
theorem mem_candidates {es : List Entry} {f : Found} :
    f ∈ candidates es ↔ licenseNameMatch f.name = true ∧
      (f.sub = none ∧ Entry.file f.name ∈ es ∨
        licenseFiles none es = [] ∧ ∃ n sub, f.sub = some n ∧ Entry.dir n sub ∈ es ∧ Entry.file f.name ∈ sub) := by
  unfold candidates
  split
  · next h =>
    have htop : ¬ (f.sub = none ∧ Entry.file f.name ∈ es ∧ licenseNameMatch f.name = true) := fun ⟨hs, he, hn⟩ =>
      by simpa [h] using mem_licenseFiles.mpr ⟨hs, hn, he⟩
    simp only [List.mem_flatMap]
    constructor
    · rintro ⟨e, he, hf⟩
      cases e with
      | dir n sub =>
        obtain ⟨hs, hn, hsub⟩ := mem_licenseFiles.mp hf
        exact ⟨hn, .inr ⟨h, n, sub, hs, he, hsub⟩⟩
      | file => simp at hf
      | other => simp at hf
    · rintro ⟨hn, ⟨hs, he⟩ | ⟨-, n, sub, hs, he, hsub⟩⟩
      · exact absurd ⟨hs, he, hn⟩ htop
      · exact ⟨.dir n sub, he, mem_licenseFiles.mpr ⟨hs, hn, hsub⟩⟩
  · next h =>
    rw [mem_licenseFiles]
    constructor
    · rintro ⟨hs, hn, he⟩
      exact ⟨hn, .inl ⟨hs, he⟩⟩
    · rintro ⟨hn, ⟨hs, he⟩ | ⟨h', -⟩⟩
      · exact ⟨hs, hn, he⟩
      · exact absurd h' h

/-- The head of a stable sort by a key is the first element of least key. -/
theorem head?_insertionSort_key {α : Type} (key : α → Nat) (l : List α) (f : α) :
    (l.insertionSort fun a b => key a ≤ key b).head? = some f ↔
      ∃ pre post, l = pre ++ f :: post ∧ (∀ g ∈ pre, key f < key g) ∧ ∀ g ∈ post, key f ≤ key g := by
  induction l generalizing f with
  | nil => simp
  | cons a l ih =>
    rw [List.insertionSort]
    rcases hs : l.insertionSort (fun a b => key a ≤ key b) with _ | ⟨h, t⟩
    · obtain rfl : l = [] := List.eq_nil_of_length_eq_zero (by
        rw [← List.length_insertionSort (fun a b => key a ≤ key b), hs, List.length_nil])
      simp only [List.orderedInsert, List.head?_cons, Option.some.injEq]
      constructor
      · rintro rfl
        exact ⟨[], [], rfl, by simp, by simp⟩
      · rintro ⟨pre, post, h, -, -⟩
        rcases pre with _ | ⟨b, pre⟩
        · exact (List.cons.inj h).1
        · simp at h
    · -- `h` is the first element of least key of `l`
      obtain ⟨pre, post, rfl, hpre, hpost⟩ := (ih h).mp (by rw [hs]; rfl)
      have hmin : ∀ g ∈ pre ++ h :: post, key h ≤ key g := by
        intro g hg
        rcases List.mem_append.mp hg with hg | hg
        · exact (hpre g hg).le
        · rcases List.mem_cons.mp hg with rfl | hg
          · exact le_rfl
          · exact hpost g hg
      simp only [List.orderedInsert]
      split
      · next hah =>
        simp only [List.head?_cons, Option.some.injEq]
        constructor
        · rintro rfl
          exact ⟨[], _, rfl, by simp, fun g hg => hah.trans (hmin g hg)⟩
        · rintro ⟨_ | ⟨b, pre'⟩, post', heq, hpre', -⟩
          · exact (List.cons.inj heq).1
          · obtain ⟨hab, htl⟩ := List.cons.inj heq
            have hf : f ∈ pre ++ h :: post := htl ▸ List.mem_append_right _ (List.mem_cons_self _ _)
            have hfa : key f < key a := hab ▸ hpre' b (List.mem_cons_self _ _)
            exact absurd (hmin f hf) (not_le.mpr (hfa.trans_le hah))
      · next hah =>
        simp only [List.head?_cons, Option.some.injEq]
        constructor
        · rintro rfl
          exact ⟨a :: pre, post, rfl, by
            intro g hg
            rcases List.mem_cons.mp hg with rfl | hg
            · exact lt_of_not_le hah
            · exact hpre g hg, hpost⟩
        · rintro ⟨_ | ⟨b, pre'⟩, post', heq, hpre', hpost'⟩
          · obtain ⟨rfl, rfl⟩ := List.cons.inj heq
            exact absurd (hpost' h (List.mem_append_right _ (List.mem_cons_self _ _))) hah
          · obtain ⟨-, htl⟩ := List.cons.inj heq
            have := (ih f).mpr ⟨pre', post', htl, fun g hg => hpre' g (List.mem_cons_of_mem _ hg), hpost'⟩
            rw [hs] at this
            exact Option.some.inj this

theorem findLicenseFile_eq_none_iff (es : List Entry) : findLicenseFile es = none ↔ candidates es = [] := by
  rw [findLicenseFile, List.head?_eq_none_iff, ← List.length_eq_zero, List.length_insertionSort,
    List.length_eq_zero]

/-- `find_license_file` returns the first candidate of least rank, and `None` exactly when
there is no candidate: no license-named file in the directory nor, when it has none, in any of
its subdirectories (`mem_candidates`). -/
theorem findLicenseFile_spec (es : List Entry) :
    (findLicenseFile es = none ↔ candidates es = []) ∧
      ∀ f, findLicenseFile es = some f ↔ ∃ pre post, candidates es = pre ++ f :: post ∧
        (∀ g ∈ pre, rank f < rank g) ∧ ∀ g ∈ post, rank f ≤ rank g :=
  ⟨findLicenseFile_eq_none_iff es, head?_insertionSort_key rank (candidates es)⟩

theorem mem_candidates_of_findLicenseFile {es : List Entry} {f : Found} (h : findLicenseFile es = some f) :
    f ∈ candidates es := by
  obtain ⟨pre, post, hc, -, -⟩ := (head?_insertionSort_key rank _ f).mp h
  exact hc ▸ List.mem_append_right _ (List.mem_cons_self _ _)

/-! ## §3 — `detect_license` -/

/-- `LICENSE_PATTERNS` (lines 30–39), in the dict's order. -/
def licensePatterns : List (String × List Tok) :=
  [("Apache-2.0", lits "Apache License" (by decide) ++ .spaces :: lits "Version" (by decide) ++
      .spaces :: lits "2" (by decide)),
    ("MPL-2.0", lits "Mozilla Public License" (by decide) ++ .spaces :: lits "Version" (by decide) ++
      .spaces :: lits "2" (by decide)),
    ("GPL-3.0", lits "GNU GENERAL PUBLIC LICENSE" (by decide) ++ .spaces :: lits "Version" (by decide) ++
      .spaces :: lits "3" (by decide)),
    ("GPL-2.0", lits "GNU GENERAL PUBLIC LICENSE" (by decide) ++ .spaces :: lits "Version" (by decide) ++
      .spaces :: lits "2" (by decide)),
    ("LGPL", lits "GNU LESSER GENERAL PUBLIC LICENSE" (by decide)),
    ("ISC", lits "ISC License" (by decide)),
    ("0BSD", lits "BSD Zero Clause License" (by decide)),
    ("CC-BY-4.0", lits "Creative Commons Attribution 4.0" (by decide))]

/-- `MIT_PHRASE` (line 41). -/
def mitPhrase : List Tok :=
  lits "Permission is hereby granted, free of charge, to any person obtaining a copy" (by decide)

/-- `BSD_PHRASE` (line 42). -/
def bsdPhrase : List Tok := lits "Redistribution and use in source and binary forms" (by decide)

/-- `BSD_NEITHER` (line 43). -/
def bsdNeither : List Tok := lits "Neither the name of" (by decide)

/-- `detect_license(path)` (lines 126–138), with `content` the text `read_text` returns
(`errors="ignore"` never raises), `none` when reading raises `OSError`. -/
def detectLicense (content : Option String) : String :=
  let text := content.getD ""
  match licensePatterns.find? fun p => search p.2 text with
  | some p => p.1
  | none =>
    if search mitPhrase text then "MIT"
    else if search bsdPhrase text then (if search bsdNeither text then "BSD-3-Clause" else "BSD-2-Clause")
    else "UNKNOWN"

/-- The text has a stretch the pattern matches. -/
def Occurs (ts : List Tok) (text : String) : Prop :=
  ∃ pre w post, text.toList = pre ++ w ++ post ∧ Matches ts w

instance (ts : List Tok) (text : String) : Decidable (Occurs ts text) :=
  decidable_of_iff _ (search_iff ts text)

theorem search_eq_decide (ts : List Tok) (text : String) : search ts text = decide (Occurs ts text) := by
  rw [Bool.eq_iff_iff, decide_eq_true_iff]
  exact search_iff ts text

example : detectLicense (some "Apache License\n  Version 2.0, January 2004") = "Apache-2.0" := by decide

/-! ## §4 — `parse_go_modules` -/

/-- The fields `parse_go_modules` reads from one object of `go list -m -json all`. -/
structure GoModule where
  main : Bool
  path : String
  version : String
  dir : String

/-- What the loop asks of the machine: `os.path.isdir`, the `Dir` that
`go mod download -json name@version` reports (`""` when it reports none, `none` when the
command fails or prints no JSON), the entries of a directory, and the text of a file. -/
structure GoHost where
  isDir : String → Bool
  download : String → String → Option String
  listing : String → List Entry
  readText : String → Option String

/-- `ensure_go_module_dir(name, version, existing)` (lines 91–101). -/
def ensureGoModuleDir (host : GoHost) (name version existing : String) : Option String :=
  if existing ≠ "" ∧ host.isDir existing then some existing
  else match host.download name version with
    | some d => if d ≠ "" ∧ host.isDir d then some d else none
    | none => none

/-- `str(license_file)` for a file found in the directory `d`. -/
def foundPath (d : String) (f : Found) : String :=
  match f.sub with
  | some s => d ++ "/" ++ s ++ "/" ++ f.name
  | none => d ++ "/" ++ f.name

/-- Lines 70–86: the record of a module that is kept (its `license_file` key, the found file's
name, is read by nothing and left out). -/
def goPackage (host : GoHost) (m : GoModule) : Package :=
  match (ensureGoModuleDir host m.path m.version m.dir).bind fun d =>
      (findLicenseFile (host.listing d)).map (d, ·) with
  | some (d, f) => ⟨m.path, m.version, detectLicense (host.readText (foundPath d f)), foundPath d f⟩
  | none => ⟨m.path, m.version, "UNKNOWN", ""⟩

/-- Lines 65–69: the main module and modules without a path or a version are skipped. -/
def keptModule (m : GoModule) : Bool := !m.main && m.path ≠ "" && m.version ≠ ""

/-- `parse_go_modules()` (lines 50–88) on the decoded module objects. -/
def parseGoModules (host : GoHost) (modules : List GoModule) : List Package :=
  sortByKey (modules.filterMap fun m => if keptModule m then some (goPackage host m) else none)

/-- `parse_go_modules` keeps one record per module that is not the main one and has a path and
a version. -/
theorem parseGoModules_perm (host : GoHost) (modules : List GoModule) :
    (parseGoModules host modules).Perm ((modules.filter keptModule).map (goPackage host)) := by
  have hkept : (modules.filterMap fun m => if keptModule m then some (goPackage host m) else none) =
      (modules.filter keptModule).map (goPackage host) := by
    rw [← List.filterMap_eq_map, List.filterMap_filter]
    rfl
  rw [parseGoModules, hkept]
  exact sortByKey_perm _

theorem foundPath_ne_empty (d : String) (f : Found) : foundPath d f ≠ "" := by
  intro h
  have := congrArg String.length h
  unfold foundPath at this
  split at this <;> simp only [String.length_append, show "/".length = 1 from rfl, String.length_empty]
    at this <;> omega

theorem mem_parseGoModules {host : GoHost} {modules : List GoModule} {p : Package}
    (hp : p ∈ parseGoModules host modules) : ∃ m ∈ modules, keptModule m ∧ p = goPackage host m := by
  obtain ⟨m, hm, rfl⟩ := List.mem_map.mp ((parseGoModules_perm host modules).subset hp)
  exact ⟨m, (List.mem_filter.mp hm).1, (List.mem_filter.mp hm).2, rfl⟩

/-- A module's record names its path and version; its license path is empty exactly when
`ensure_go_module_dir` found no directory or the directory has no candidate, and the license
is then `UNKNOWN`; otherwise it is the path of the file `find_license_file` picked, a
candidate, and the license is what `detect_license` read from it. -/
theorem goPackage_spec (host : GoHost) (m : GoModule) :
    let r := goPackage host m
    r.name = m.path ∧ r.version = m.version ∧
      (r.licensePath = "" ↔ ∀ d, ensureGoModuleDir host m.path m.version m.dir = some d →
        candidates (host.listing d) = []) ∧
      (r.licensePath = "" → r.license = "UNKNOWN") ∧
      ∀ d f, ensureGoModuleDir host m.path m.version m.dir = some d → findLicenseFile (host.listing d) = some f →
        f ∈ candidates (host.listing d) ∧ r.licensePath = foundPath d f ∧
          r.license = detectLicense (host.readText (foundPath d f)) := by
  intro r
  rcases hd : ensureGoModuleDir host m.path m.version m.dir with _ | d
  · simp [r, goPackage, hd]
  rcases hf : findLicenseFile (host.listing d) with _ | f
  · have hg : r = ⟨m.path, m.version, "UNKNOWN", ""⟩ := by simp [r, goPackage, hd, hf]
    rw [hg]
    refine ⟨rfl, rfl, iff_of_true rfl fun d' hd' => ?_, fun _ => rfl, fun d' f' hd' hf' => ?_⟩
    · obtain rfl := Option.some.inj hd'
      exact (findLicenseFile_eq_none_iff _).mp hf
    · obtain rfl := Option.some.inj hd'
      simp [hf] at hf'
  have hg : r = ⟨m.path, m.version, detectLicense (host.readText (foundPath d f)), foundPath d f⟩ := by
    simp [r, goPackage, hd, hf]
  have hc := mem_candidates_of_findLicenseFile hf
  rw [hg]
  refine ⟨rfl, rfl, iff_of_false (foundPath_ne_empty d f) fun h => ?_, fun h => absurd h (foundPath_ne_empty d f),
    fun d' f' hd' hf' => ?_⟩
  · simp [h d rfl] at hc
  · obtain rfl := Option.some.inj hd'
    obtain rfl := Option.some.inj (hf.symm.trans hf')
    exact ⟨hc, rfl, rfl⟩

end S3Desk.Notices
