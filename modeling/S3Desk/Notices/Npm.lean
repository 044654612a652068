/-
# S3Desk.Notices.Npm — `parse_npm_packages` and `normalize_npm_license`

`parse_npm_packages` walks the `packages` map of `frontend/package-lock.json`, keeps the
entries under `node_modules/`, names each one (its `name` field, else its path with every
`node_modules/` removed), merges entries of the same `(name, version)` into one item (dev-only
while every copy is `dev`, the first non-empty license and license path win), splits the items
into runtime and dev-only and sorts each list by `(name, version)`.

The lockfile arrives as the entries of its `packages` map in file order, each with the fields
the code reads; `name` and `version` are strings in npm's lockfile schema, absent ones read as
`""`. The filesystem enters as `licenseFileOf path`: what `find_license_file(FRONTEND_DIR /
path)` returns when that directory exists. Python's stable `sort` is modelled by `insertionSort`,
which is stable as well, under the same order on the key tuple.
-/
import S3Desk.Json
import S3Desk.PyText
import Mathlib.Data.List.Sort
import Mathlib.Data.List.Dedup

namespace S3Desk.Notices

open Json

/-! ## §1 — the data -/

/-- The fields `parse_npm_packages` and `normalize_npm_license` read from one lockfile entry. -/
structure LockEntry where
  name : String
  version : String
  dev : Json
  license : Json
  licenses : Json

/-- An item of the notices: `{"name", "version", "license", "license_path"}`. -/
structure Package where
  name : String
  version : String
  license : String
  licensePath : String
  deriving DecidableEq, Repr

/-- The sort key `(item["name"], item["version"])`. -/
def Package.key (p : Package) : String × String := (p.name, p.version)

/-- Python's order on the key tuples: by name, then by version, each on code points. -/
def KeyLe (a b : Package) : Prop :=
  a.name.toList < b.name.toList ∨ (a.name = b.name ∧ ¬ b.version.toList < a.version.toList)

instance : DecidableRel KeyLe := fun _ _ => inferInstanceAs (Decidable (_ ∨ _))

theorem keyLe_iff (a b : Package) :
    KeyLe a b ↔ a.name < b.name ∨ (a.name = b.name ∧ a.version ≤ b.version) := by
  simp only [KeyLe, String.lt_iff_toList_lt, ← not_lt]

instance : IsTrans Package KeyLe where
  trans a b c := by
    rw [keyLe_iff, keyLe_iff, keyLe_iff]
    rintro (h | ⟨h, h'⟩) (k | ⟨k, k'⟩)
    · exact .inl (h.trans k)
    · exact .inl (k ▸ h)
    · exact .inl (h ▸ k)
    · exact .inr ⟨h.trans k, h'.trans k'⟩

instance : IsTotal Package KeyLe where
  total a b := by
    rw [keyLe_iff, keyLe_iff]
    rcases lt_trichotomy a.name b.name with h | h | h
    · exact .inl (.inl h)
    · rcases le_total a.version b.version with k | k
      · exact .inl (.inr ⟨h, k⟩)
      · exact .inr (.inr ⟨h.symm, k⟩)
    · exact .inr (.inl h)

/-- `list.sort(key=lambda item: (item["name"], item["version"]))`. -/
def sortByKey (l : List Package) : List Package := l.insertionSort KeyLe

/-! ## §2 — the code -/

/-- The values the `licenses` list contributes (lines 195–201): an item's `type` when it is a
dict, else the item, when truthy. -/
def licenseParts (items : List Json) : List String :=
  items.filterMap fun item =>
    let val := match item with
      | .obj d => Dict.get d "type"
      | v => v
    if val.truthy then some (pyStr val) else none

/-- `normalize_npm_license(info)` (lines 188–206). -/
def normalizeNpmLicense (info : LockEntry) : String :=
  if info.license.truthy then pyStr info.license
  else match info.licenses with
    | .arr items => " OR ".intercalate (licenseParts items)
    | .obj d => if (Dict.get d "type").truthy then pyStr (Dict.get d "type") else ""
    | _ => ""

/-- Line 153: `info.get("name") or path.replace("node_modules/", "")`. -/
def npmName (path : String) (info : LockEntry) : String :=
  if info.name ≠ "" then info.name else Py.replace path "node_modules/" ""

/-- One key of the two dicts `merged` and `dev_only` (they are filled together, so they have the
same keys in the same order): the item and its dev-only flag. -/
structure Merged where
  item : Package
  devOnly : Bool
  deriving DecidableEq, Repr

/-- Lines 167–173: a later entry of a key already merged. -/
def Merged.absorb (m : Merged) (info : LockEntry) (licenseId licensePath : String) : Merged where
  devOnly := m.devOnly && info.dev.truthy
  item := { m.item with
    license := if m.item.license = "" ∧ licenseId ≠ "" then licenseId else m.item.license
    licensePath := if m.item.licensePath = "" then licensePath else m.item.licensePath }

/-- One turn of the loop of lines 150–173 on the entry `(path, info)`. -/
def mergeEntry (licenseFileOf : String → Option String) (merged : List Merged)
    (entry : String × LockEntry) : List Merged :=
  let (path, info) := entry
  if Py.startsWith path "node_modules/" then
    let key := (npmName path info, info.version)
    let licenseId := normalizeNpmLicense info
    let licensePath := (licenseFileOf path).getD ""
    if merged.any (·.item.key = key) then
      merged.map fun m => if m.item.key = key then m.absorb info licenseId licensePath else m
    else
      merged ++ [⟨⟨key.1, key.2, licenseId, licensePath⟩, info.dev.truthy⟩]
  else merged

/-- `parse_npm_packages()` (lines 141–185) on the lockfile's `packages` entries:
`(runtime, dev)`. -/
def parseNpmPackages (licenseFileOf : String → Option String)
    (packages : List (String × LockEntry)) : List Package × List Package :=
  let merged := packages.foldl (mergeEntry licenseFileOf) []
  (sortByKey ((merged.filter (!·.devOnly)).map (·.item)),
   sortByKey ((merged.filter (·.devOnly)).map (·.item)))

/-! ## §3 — what the loop computes -/

/-- The first non-empty string of a list, `""` when there is none. -/
def firstNonempty : List String → String
  | [] => ""
  | s :: ss => if s = "" then firstNonempty ss else s

theorem firstNonempty_append_singleton (l : List String) (x : String) :
    firstNonempty (l ++ [x]) = if firstNonempty l = "" then x else firstNonempty l := by
  induction l with
  | nil => by_cases h : x = "" <;> simp [firstNonempty, h]
  | cons s l ih => by_cases h : s = "" <;> simp [firstNonempty, h, ih]

section
variable (licenseFileOf : String → Option String)

/-- The entries `parse_npm_packages` counts: those under `node_modules/`. -/
def counted (ps : List (String × LockEntry)) : List (String × LockEntry) :=
  ps.filter (fun e => Py.startsWith e.1 "node_modules/")

/-- The key an entry is merged under. -/
def entryKey (e : String × LockEntry) : String × String := (npmName e.1 e.2, e.2.version)

/-- The counted entries of key `k`, in lockfile order. -/
def copiesOf (ps : List (String × LockEntry)) (k : String × String) : List (String × LockEntry) :=
  (counted ps).filter (entryKey · = k)

/-- What `merged` holds after the loop has read the entries `ps`: one item per key, keys in
no particular order, each with the fields its copies determine. -/
structure MergedInv (ps : List (String × LockEntry)) (merged : List Merged) : Prop where
  nodup : (merged.map (·.item.key)).Nodup
  keys : ∀ k, k ∈ merged.map (·.item.key) ↔ k ∈ (counted ps).map entryKey
  devOnly : ∀ m ∈ merged, m.devOnly = (copiesOf ps m.item.key).all (·.2.dev.truthy)
  license : ∀ m ∈ merged,
    m.item.license = firstNonempty ((copiesOf ps m.item.key).map (normalizeNpmLicense ·.2))
  licensePath : ∀ m ∈ merged,
    m.item.licensePath = firstNonempty ((copiesOf ps m.item.key).map fun e => (licenseFileOf e.1).getD "")

theorem mergedInv_nil : MergedInv licenseFileOf [] [] :=
  ⟨by simp, by simp [counted], by simp, by simp, by simp⟩

theorem counted_append (ps : List (String × LockEntry)) (e : String × LockEntry) :
    counted (ps ++ [e]) =
      counted ps ++ (if Py.startsWith e.1 "node_modules/" then [e] else []) := by
  by_cases h : Py.startsWith e.1 "node_modules/" <;> simp [counted, List.filter_append, h]

theorem copiesOf_append (ps : List (String × LockEntry)) (e : String × LockEntry) (k) :
    copiesOf (ps ++ [e]) k = copiesOf ps k ++
      (if Py.startsWith e.1 "node_modules/" ∧ entryKey e = k then [e] else []) := by
  by_cases h : Py.startsWith e.1 "node_modules/" <;> by_cases hk : entryKey e = k <;>
    simp [copiesOf, counted_append, List.filter_append, h, hk]

@[simp] theorem key_absorb (m : Merged) (info : LockEntry) (l p : String) :
    (m.absorb info l p).item.key = m.item.key := rfl

@[simp] theorem devOnly_absorb (m : Merged) (info : LockEntry) (l p : String) :
    (m.absorb info l p).devOnly = (m.devOnly && info.dev.truthy) := rfl

theorem license_absorb (m : Merged) (info : LockEntry) (l p : String) :
    (m.absorb info l p).item.license =
      if m.item.license = "" ∧ l ≠ "" then l else m.item.license := rfl

theorem licensePath_absorb (m : Merged) (info : LockEntry) (l p : String) :
    (m.absorb info l p).item.licensePath =
      if m.item.licensePath = "" then p else m.item.licensePath := rfl

theorem firstNonempty_singleton (x : String) : firstNonempty [x] = x := by
  by_cases h : x = "" <;> simp [firstNonempty, h]

theorem mergedInv_skip {ps : List (String × LockEntry)} {merged : List Merged}
    {e : String × LockEntry} (he : Py.startsWith e.1 "node_modules/" = false)
    (h : MergedInv licenseFileOf ps merged) : MergedInv licenseFileOf (ps ++ [e]) merged := by
  have hc : counted (ps ++ [e]) = counted ps := by simp [counted_append, he]
  have hk : ∀ k, copiesOf (ps ++ [e]) k = copiesOf ps k := by simp [copiesOf_append, he]
  exact ⟨h.nodup, by simpa [hc] using h.keys, by simpa [hk] using h.devOnly,
    by simpa [hk] using h.license, by simpa [hk] using h.licensePath⟩

/-- The table after an entry of a key it already holds. -/
theorem mergedInv_absorb {ps : List (String × LockEntry)} {merged : List Merged}
    {e : String × LockEntry} (he : Py.startsWith e.1 "node_modules/" = true)
    (hin : entryKey e ∈ merged.map (·.item.key)) (h : MergedInv licenseFileOf ps merged) :
    MergedInv licenseFileOf (ps ++ [e]) (merged.map fun m => if m.item.key = entryKey e then
      m.absorb e.2 (normalizeNpmLicense e.2) ((licenseFileOf e.1).getD "") else m) := by
  have hkeys : (merged.map fun m => if m.item.key = entryKey e then
      m.absorb e.2 (normalizeNpmLicense e.2) ((licenseFileOf e.1).getD "") else m).map
        (·.item.key) = merged.map (·.item.key) := by
    simp only [List.map_map]
    exact List.map_congr_left fun m _ => by dsimp only [Function.comp_def]; split_ifs <;> rfl
  have hk : entryKey e ∈ (counted ps).map entryKey := (h.keys _).mp hin
  refine ⟨hkeys ▸ h.nodup, fun k' => ?_, ?_, ?_, ?_⟩
  · rw [hkeys, h.keys, counted_append, if_pos he]
    simp only [List.map_append, List.mem_append, List.map_cons, List.map_nil, List.mem_singleton]
    exact ⟨.inl, fun h' => h'.elim id (fun h'' => h'' ▸ hk)⟩
  all_goals
    intro m' hm'
    obtain ⟨m, hm, rfl⟩ := List.mem_map.mp hm'
    by_cases hmk : m.item.key = entryKey e
    all_goals
      have hc : copiesOf (ps ++ [e]) m.item.key = copiesOf ps m.item.key ++
          (if m.item.key = entryKey e then [e] else []) := by
        rw [copiesOf_append]; simp only [he, true_and, eq_comm]
      simp only [hmk, if_true, if_false, key_absorb] at hc ⊢
  · rw [devOnly_absorb, h.devOnly m hm, hc, hmk]; simp
  · rw [h.devOnly m hm, hc, List.append_nil]
  · rw [license_absorb, h.license m hm, hc, hmk, List.map_append, List.map_cons, List.map_nil,
      firstNonempty_append_singleton]
    split_ifs <;> simp_all
  · rw [h.license m hm, hc, List.append_nil]
  · rw [licensePath_absorb, h.licensePath m hm, hc, hmk, List.map_append, List.map_cons,
      List.map_nil, firstNonempty_append_singleton]
  · rw [h.licensePath m hm, hc, List.append_nil]

theorem copiesOf_eq_nil {ps : List (String × LockEntry)} {k : String × String}
    (hk : k ∉ (counted ps).map entryKey) : copiesOf ps k = [] := by
  rw [copiesOf, List.filter_eq_nil_iff]
  intro e he hek
  exact hk (List.mem_map.mpr ⟨e, he, of_decide_eq_true hek⟩)

/-- The table after the first counted entry of a key. -/
theorem mergedInv_insert {ps : List (String × LockEntry)} {merged : List Merged}
    {e : String × LockEntry} (he : Py.startsWith e.1 "node_modules/" = true)
    (hnin : entryKey e ∉ merged.map (·.item.key)) (h : MergedInv licenseFileOf ps merged) :
    MergedInv licenseFileOf (ps ++ [e]) (merged ++
      [⟨⟨(entryKey e).1, (entryKey e).2, normalizeNpmLicense e.2, (licenseFileOf e.1).getD ""⟩,
        e.2.dev.truthy⟩]) := by
  have hk : entryKey e ∉ (counted ps).map entryKey := fun h' => hnin ((h.keys _).mpr h')
  have hc : ∀ k, copiesOf (ps ++ [e]) k = copiesOf ps k ++ (if entryKey e = k then [e] else []) :=
    fun k => by rw [copiesOf_append]; simp only [he, true_and]
  have hkey : ∀ l p, (Package.mk (entryKey e).1 (entryKey e).2 l p).key = entryKey e :=
    fun _ _ => rfl
  refine ⟨?_, fun k' => ?_, ?_, ?_, ?_⟩
  · simp only [List.map_append, List.map_cons, List.map_nil, hkey]
    exact List.nodup_append.mpr ⟨h.nodup, List.nodup_singleton _, by simpa using hnin⟩
  · simp only [List.map_append, List.map_cons, List.map_nil, hkey, List.mem_append,
      List.mem_singleton, h.keys, counted_append, he, if_true]
  all_goals
    intro m hm
    rcases List.mem_append.mp hm with hm | hm
  · have hne : entryKey e ≠ m.item.key := fun h' => hnin (h' ▸ List.mem_map_of_mem _ hm)
    simp [hc, hne, h.devOnly m hm]
  · rw [List.mem_singleton] at hm; subst hm
    simp [hkey, hc, copiesOf_eq_nil hk]
  · have hne : entryKey e ≠ m.item.key := fun h' => hnin (h' ▸ List.mem_map_of_mem _ hm)
    simp [hc, hne, h.license m hm]
  · rw [List.mem_singleton] at hm; subst hm
    simp [hkey, hc, copiesOf_eq_nil hk, firstNonempty_singleton]
  · have hne : entryKey e ≠ m.item.key := fun h' => hnin (h' ▸ List.mem_map_of_mem _ hm)
    simp [hc, hne, h.licensePath m hm]
  · rw [List.mem_singleton] at hm; subst hm
    simp [hkey, hc, copiesOf_eq_nil hk, firstNonempty_singleton]

/-- One turn of the loop keeps the invariant. -/
theorem mergedInv_mergeEntry {ps : List (String × LockEntry)} {merged : List Merged}
    (e : String × LockEntry) (h : MergedInv licenseFileOf ps merged) :
    MergedInv licenseFileOf (ps ++ [e]) (mergeEntry licenseFileOf merged e) := by
  obtain ⟨path, info⟩ := e
  by_cases he : Py.startsWith path "node_modules/" = true
  · simp only [mergeEntry, he, if_true]
    by_cases hin : entryKey (path, info) ∈ merged.map (·.item.key)
    · rw [if_pos (by simpa [entryKey] using hin)]
      exact mergedInv_absorb licenseFileOf he hin h
    · rw [if_neg (by simpa [entryKey] using hin)]
      exact mergedInv_insert licenseFileOf he hin h
  · simp only [mergeEntry, he]
    exact mergedInv_skip licenseFileOf (by simpa using he) h

/-- The whole loop: after reading every entry, `merged` satisfies the invariant for them. -/
theorem mergedInv_foldl (ps : List (String × LockEntry)) :
    MergedInv licenseFileOf ps (ps.foldl (mergeEntry licenseFileOf) []) := by
  suffices ∀ qs acc, MergedInv licenseFileOf qs acc →
      MergedInv licenseFileOf (qs ++ ps) (ps.foldl (mergeEntry licenseFileOf) acc) by
    simpa using this [] [] (mergedInv_nil licenseFileOf)
  induction ps with
  | nil => simp
  | cons e ps ih =>
    intro qs acc h
    simpa using ih (qs ++ [e]) _ (mergedInv_mergeEntry licenseFileOf e h)

end

/-- Strictly increasing in `(name, version)`. -/
def KeyLt (a b : Package) : Prop := a.name < b.name ∨ (a.name = b.name ∧ a.version < b.version)

theorem keyLt_of_keyLe {a b : Package} (h : KeyLe a b) (hne : a.key ≠ b.key) : KeyLt a b := by
  rw [keyLe_iff] at h
  rcases h with h | ⟨h, h'⟩
  · exact .inl h
  · exact .inr ⟨h, lt_of_le_of_ne h' fun hv => hne (by simp [Package.key, h, hv])⟩

theorem sortByKey_perm (l : List Package) : (sortByKey l).Perm l := List.perm_insertionSort _ _

theorem pairwise_keyLt_sortByKey {l : List Package} (hl : (l.map Package.key).Nodup) :
    (sortByKey l).Pairwise KeyLt := by
  have hn : ((sortByKey l).map Package.key).Nodup :=
    ((List.perm_insertionSort KeyLe l).map _).nodup_iff.mpr hl
  rw [List.Nodup, List.pairwise_map] at hn
  exact ((List.sorted_insertionSort KeyLe l).and hn).imp fun ⟨h, h'⟩ => keyLt_of_keyLe h h'

/-- `parse_npm_packages`, for every lockfile: each list strictly increasing in
`(name, version)`; between them exactly one item per distinct key of the entries under
`node_modules/`; an item is dev-only exactly when every copy of its key is `dev`; and its
license and license path are the first non-empty ones among its copies, in file order. -/
theorem parseNpmPackages_spec (licenseFileOf : String → Option String)
    (packages : List (String × LockEntry)) :
    let r := parseNpmPackages licenseFileOf packages
    r.1.Pairwise KeyLt ∧ r.2.Pairwise KeyLt ∧
    ((r.1 ++ r.2).map Package.key).Perm ((counted packages).map entryKey).dedup ∧
    ∀ p ∈ r.1 ++ r.2,
      (p ∈ r.2 ↔ ∀ e ∈ copiesOf packages p.key, e.2.dev.truthy = true) ∧
      p.license = firstNonempty ((copiesOf packages p.key).map fun e => normalizeNpmLicense e.2) ∧
      p.licensePath =
        firstNonempty ((copiesOf packages p.key).map fun e => (licenseFileOf e.1).getD "") := by
  have h := mergedInv_foldl licenseFileOf packages
  simp only [parseNpmPackages]
  generalize packages.foldl (mergeEntry licenseFileOf) [] = merged at h ⊢
  have hkeys : ∀ q : Merged → Bool, (((merged.filter q).map (·.item)).map Package.key).Nodup :=
    fun q => by rw [List.map_map]; exact h.nodup.sublist ((List.filter_sublist _).map _)
  have hall : (sortByKey ((merged.filter (!·.devOnly)).map (·.item)) ++
      sortByKey ((merged.filter (·.devOnly)).map (·.item))).Perm (merged.map (·.item)) := by
    refine ((sortByKey_perm _).append (sortByKey_perm _)).trans ?_
    rw [← List.map_append]
    exact (List.perm_append_comm.trans
      (List.filter_append_perm (fun m : Merged => m.devOnly) merged)).map _
  refine ⟨pairwise_keyLt_sortByKey (hkeys _), pairwise_keyLt_sortByKey (hkeys _), ?_, ?_⟩
  · refine (hall.map Package.key).trans ?_
    rw [List.map_map]
    exact (List.perm_ext_iff_of_nodup h.nodup (List.nodup_dedup _)).2
      fun k => by rw [List.mem_dedup]; exact h.keys k
  · intro p hp
    obtain ⟨m, hm, rfl⟩ := List.mem_map.mp (hall.subset hp)
    refine ⟨?_, h.license m hm, h.licensePath m hm⟩
    rw [(sortByKey_perm _).mem_iff, ← List.all_eq_true, ← h.devOnly m hm]
    constructor
    · rintro hd
      obtain ⟨m', hm', he⟩ := List.mem_map.mp hd
      rw [List.mem_filter] at hm'
      have : m' = m := List.inj_on_of_nodup_map h.nodup hm'.1 hm (by simp [he])
      exact this ▸ hm'.2
    · intro hd
      exact List.mem_map.mpr ⟨m, List.mem_filter.mpr ⟨hm, hd⟩, rfl⟩

/-! ## §4 — a package installed twice -/

/-- A lockfile with `@s/b` at the top level and again under `a`, same version. -/
def twiceInstalled : List (String × LockEntry) :=
  [("node_modules/@s/b", ⟨"", "1.0.0", .null, .str "MIT", .null⟩),
   ("node_modules/a/node_modules/@s/b", ⟨"", "1.0.0", .null, .str "MIT", .null⟩)]

/-- The nested copy is named `a/@s/b` (`str.replace` drops every `node_modules/`, not only the
last one), so one package becomes two runtime items. -/
theorem parseNpmPackages_twiceInstalled :
    parseNpmPackages (fun _ => none) twiceInstalled =
      ([⟨"@s/b", "1.0.0", "MIT", ""⟩, ⟨"a/@s/b", "1.0.0", "MIT", ""⟩], []) := by
  decide

end S3Desk.Notices
