/-
# S3Desk.Policy.GcsEdit — the `allUsers` binding edit of `exercise_gcs_iam_policy`

Lines 395–432 of `runner.py` turn the `policy` field of the first GET into the document the GCS
adapter PUTs: fall back to `{"version": 1, "bindings": []}` when the field is not a dict, take a
deep copy, walk `bindings` and give every object binding of role `roles/storage.objectViewer`
the member `allUsers`, append such a binding when there was none, and default `version`.

§1 translates that code: `originalPolicy` (395–397), the loop body `ensureBinding`
(416–426), the `for` loop with its `found` flag `ensureBindings` (415–426) and the whole edit
`modifiedPolicy` (400–432). The deep copy `json.loads(json.dumps(original))` is the identity on
the values `json.loads` returns, so the two fallbacks after it are never taken and the model
goes straight on with `original`.

§2 says what the edit is for, in a second, separately written description (`grantedBinding`:
an object binding of role `R` ends with `allUsers` among its members, nothing else changes),
and proves the loop computes it: positions kept, no member or binding lost, `allUsers` added at
most once, the new binding appended exactly when no binding had the role, top-level keys kept,
and the edit idempotent.
-/
import S3Desk.Json

namespace S3Desk.Policy

open Json

/-! ## §1 — the code -/

/-- `role` in the loop: the GCS viewer role the edit grants to everybody. -/
def viewerRole : String := "roles/storage.objectViewer"

/-- The member that makes a binding public. -/
def allUsers : String := "allUsers"

/-- The policy used when the bucket reports none (lines 397, 403 and 406). -/
def defaultPolicy : Dict := [("version", .int 1), ("bindings", .arr [])]

/-- The binding appended when no binding has the viewer role (line 428). -/
def publicReadBinding : Json := .obj [("role", .str viewerRole), ("members", .arr [.str allUsers])]

/-- Lines 395–397: `original`, the `policy` field of the initial GET when it is a dict. -/
def originalPolicy : Json → Dict
  | .obj d => d
  | _ => defaultPolicy

/-- Lines 408–410: `bindings`, the `bindings` field of the copy when it is a list. -/
def bindingsOf (d : Dict) : List Json :=
  match Dict.get d "bindings" with
  | .arr bs => bs
  | _ => []

/-- Lines 420–424: `members`, a list that holds `allUsers` once the body has run. -/
def ensureMembers (members : Json) : List Json :=
  let ms := match members with
    | .arr ms => ms
    | _ => []
  if Json.str allUsers ∈ ms then ms else ms ++ [.str allUsers]

/-- The loop body (lines 416–426) on one binding: the binding as the in-place edit leaves it,
and whether it set `found`. -/
def ensureBinding : Json → Json × Bool
  | .obj d =>
    if Dict.get d "role" = .str viewerRole then
      (.obj (Dict.set d "members" (.arr (ensureMembers (Dict.get d "members")))), true)
    else (.obj d, false)
  | b => (b, false)

/-- The loop `for b in bindings` (lines 415–426), threading `found`. -/
def ensureBindings : List Json → Bool → List Json × Bool
  | [], found => ([], found)
  | b :: bs, found =>
    let r := ensureBinding b
    let rest := ensureBindings bs (found || r.2)
    (r.1 :: rest.1, rest.2)

/-- Lines 400–432: `modified`, the document the adapter validates and PUTs. -/
def modifiedPolicy (original : Dict) : Dict :=
  let r := ensureBindings (bindingsOf original) false
  let bindings := if r.2 then r.1 else r.1 ++ [publicReadBinding]
  let modified := Dict.set original "bindings" (.arr bindings)
  if Dict.contains modified "version" then modified else Dict.set modified "version" (.int 1)

/-! ## §2 — what the edit does -/

/-- An object binding of the viewer role: the bindings the loop edits. -/
def isViewerBinding : Json → Bool
  | .obj d => Dict.get d "role" = .str viewerRole
  | _ => false

/-- The edit of one binding, in the words of its purpose: an object binding of the viewer role
whose members are a list lacking `allUsers` gets it appended, one whose members are not a list
gets `["allUsers"]`; every other binding is left as it is. -/
def grantedBinding : Json → Json
  | .obj d =>
    if Dict.get d "role" = .str viewerRole then
      match Dict.get d "members" with
      | .arr ms =>
        if Json.str allUsers ∈ ms then .obj d
        else .obj (Dict.set d "members" (.arr (ms ++ [.str allUsers])))
      | _ => .obj (Dict.set d "members" (.arr [.str allUsers]))
    else .obj d
  | b => b

/-- A binding that grants the viewer role to `allUsers`. -/
def GrantsPublicRead (b : Json) : Prop :=
  ∃ d ms, b = .obj d ∧ Dict.get d "role" = .str viewerRole ∧ Dict.get d "members" = .arr ms ∧
    Json.str allUsers ∈ ms

theorem ensureBinding_fst (b : Json) : (ensureBinding b).1 = grantedBinding b := by
  rcases b with _ | _ | _ | _ | _ | _ | d <;> simp only [ensureBinding, grantedBinding]
  split_ifs with hr
  · rcases hm : Dict.get d "members" with _ | _ | _ | _ | _ | ms | _ <;> simp [ensureMembers]
    split_ifs
    · rw [← hm, Dict.set_of_get (Dict.contains_of_get_ne_null (by simp [hm]))]
    · rfl
  · rfl

theorem ensureBinding_snd (b : Json) : (ensureBinding b).2 = isViewerBinding b := by
  rcases b with _ | _ | _ | _ | _ | _ | d <;> simp only [ensureBinding, isViewerBinding]
  split_ifs <;> simp [*]

/-- The loop edits each binding in place and `found` ends as "some binding had the role". -/
theorem ensureBindings_eq (bs : List Json) (found : Bool) :
    ensureBindings bs found = (bs.map grantedBinding, found || bs.any isViewerBinding) := by
  induction bs generalizing found with
  | nil => simp [ensureBindings]
  | cons b bs ih => simp [ensureBindings, ih, ensureBinding_fst, ensureBinding_snd, Bool.or_assoc]

/-! ### One binding -/

/-- The members a binding lists (`[]` when `members` is not a list). -/
def membersOf : Json → List Json
  | .obj d => match Dict.get d "members" with
    | .arr ms => ms
    | _ => []
  | _ => []

theorem isViewerBinding_grantedBinding (b : Json) :
    isViewerBinding (grantedBinding b) = isViewerBinding b := by
  rcases b with _ | _ | _ | _ | _ | _ | d <;> simp only [grantedBinding]
  split_ifs with hr
  · split <;> (try split_ifs) <;> simp [isViewerBinding, Dict.get_set_of_ne, hr]
  · rfl

theorem grantedBinding_of_not_viewer {b : Json} (h : isViewerBinding b = false) :
    grantedBinding b = b := by
  rcases b with _ | _ | _ | _ | _ | _ | d <;> simp_all [grantedBinding, isViewerBinding]

/-- A viewer binding comes out with its members extended by `allUsers` exactly when it lacked
it: no member is dropped and `allUsers` is not added twice. -/
theorem membersOf_grantedBinding {b : Json} (h : isViewerBinding b = true) :
    membersOf (grantedBinding b) =
      if Json.str allUsers ∈ membersOf b then membersOf b
      else membersOf b ++ [.str allUsers] := by
  rcases b with _ | _ | _ | _ | _ | _ | d <;> simp [isViewerBinding] at h
  rcases hm : Dict.get d "members" with _ | _ | _ | _ | _ | ms | _ <;>
    simp [grantedBinding, membersOf, h, hm]
  split_ifs <;> simp [membersOf, hm]

theorem grantsPublicRead_grantedBinding {b : Json} (h : isViewerBinding b = true) :
    GrantsPublicRead (grantedBinding b) := by
  rcases b with _ | _ | _ | _ | _ | _ | d <;> simp [isViewerBinding] at h
  rcases hm : Dict.get d "members" with _ | _ | _ | _ | _ | ms | _
  all_goals simp only [grantedBinding, h, hm, if_true]
  all_goals try exact ⟨_, [.str allUsers], rfl, by rw [Dict.get_set_of_ne (by decide), h], by simp, by simp⟩
  split_ifs with hu
  · exact ⟨d, ms, rfl, h, hm, hu⟩
  · exact ⟨_, ms ++ [.str allUsers], rfl, by rw [Dict.get_set_of_ne (by decide), h], by simp, by simp⟩

theorem grantedBinding_grantedBinding (b : Json) :
    grantedBinding (grantedBinding b) = grantedBinding b := by
  cases hv : isViewerBinding b
  · rw [grantedBinding_of_not_viewer hv, grantedBinding_of_not_viewer hv]
  · obtain ⟨d, ms, hb, hr, hm, hu⟩ := grantsPublicRead_grantedBinding hv
    rw [hb]; simp [grantedBinding, hr, hm, hu]

theorem grantsPublicRead_publicReadBinding : GrantsPublicRead publicReadBinding :=
  ⟨_, [.str allUsers], rfl, by decide, by decide, by simp⟩

theorem grantedBinding_publicReadBinding : grantedBinding publicReadBinding = publicReadBinding := by
  decide

theorem isViewerBinding_publicReadBinding : isViewerBinding publicReadBinding = true := by decide

/-! ### The whole document -/

/-- The bindings list `modifiedPolicy` stores. -/
def editedBindings (d : Dict) : List Json :=
  (bindingsOf d).map grantedBinding ++
    (if (bindingsOf d).any isViewerBinding then [] else [publicReadBinding])

/-- Line 431–432: `version` defaults to `1`. -/
def withVersion (m : Dict) : Dict :=
  if Dict.contains m "version" then m else Dict.set m "version" (.int 1)

theorem modifiedPolicy_eq (d : Dict) :
    modifiedPolicy d = withVersion (Dict.set d "bindings" (.arr (editedBindings d))) := by
  simp only [modifiedPolicy, ensureBindings_eq, Bool.false_or, editedBindings, withVersion]
  split_ifs <;> simp_all

theorem get_withVersion_of_ne {k : String} (h : k ≠ "version") (m : Dict) :
    Dict.get (withVersion m) k = Dict.get m k := by
  unfold withVersion; split_ifs <;> simp [Dict.get_set_of_ne h]

theorem contains_withVersion (m : Dict) (k : String) (h : Dict.contains m k = true) :
    Dict.contains (withVersion m) k = true := by
  unfold withVersion; split_ifs
  · exact h
  · by_cases hk : k = "version"
    · simp [hk]
    · rw [Dict.contains_set_of_ne hk, h]

theorem contains_withVersion_version (m : Dict) : Dict.contains (withVersion m) "version" = true := by
  unfold withVersion; split_ifs <;> simp_all

theorem get_modifiedPolicy_bindings (d : Dict) :
    Dict.get (modifiedPolicy d) "bindings" = .arr (editedBindings d) := by
  rw [modifiedPolicy_eq, get_withVersion_of_ne (by decide), Dict.get_set_self]

/-- The edited bindings: each binding edited in place, then the public-read binding when none
of them had the viewer role. -/
theorem bindingsOf_modifiedPolicy (d : Dict) :
    bindingsOf (modifiedPolicy d) = editedBindings d := by
  simp [bindingsOf, get_modifiedPolicy_bindings]

/-- Every top-level key other than `bindings` keeps its value (`version` included, when the
original had one). -/
theorem get_modifiedPolicy_of_ne {d : Dict} {k : String} (hk : k ≠ "bindings")
    (hc : Dict.contains d k = true) : Dict.get (modifiedPolicy d) k = Dict.get d k := by
  rw [modifiedPolicy_eq]
  by_cases hv : k = "version"
  · subst hv
    have : Dict.contains (Dict.set d "bindings" (.arr (editedBindings d))) "version" = true := by
      rw [Dict.contains_set_of_ne hk, hc]
    simp [withVersion, this, Dict.get_set_of_ne hk]
  · rw [get_withVersion_of_ne hv, Dict.get_set_of_ne hk]

theorem contains_modifiedPolicy {d : Dict} {k : String} (hc : Dict.contains d k = true) :
    Dict.contains (modifiedPolicy d) k = true := by
  rw [modifiedPolicy_eq]
  apply contains_withVersion
  by_cases hk : k = "bindings"
  · simp [hk]
  · rw [Dict.contains_set_of_ne hk, hc]

theorem exists_grantsPublicRead_editedBindings (d : Dict) :
    ∃ b ∈ editedBindings d, GrantsPublicRead b := by
  unfold editedBindings
  split_ifs with h
  · obtain ⟨b, hb, hv⟩ := List.any_eq_true.mp h
    exact ⟨_, by simp; exact ⟨b, hb, rfl⟩, grantsPublicRead_grantedBinding hv⟩
  · exact ⟨_, by simp, grantsPublicRead_publicReadBinding⟩

theorem any_isViewerBinding_editedBindings (d : Dict) :
    (editedBindings d).any isViewerBinding = true := by
  unfold editedBindings
  split_ifs with h
  · simpa [isViewerBinding_grantedBinding] using h
  · simp [isViewerBinding_publicReadBinding]

theorem map_grantedBinding_editedBindings (d : Dict) :
    (editedBindings d).map grantedBinding = editedBindings d := by
  unfold editedBindings
  split_ifs <;> simp [grantedBinding_grantedBinding, grantedBinding_publicReadBinding,
    Function.comp_def]

theorem contains_modifiedPolicy_version (d : Dict) :
    Dict.contains (modifiedPolicy d) "version" = true := by
  rw [modifiedPolicy_eq]; exact contains_withVersion_version _

/-- Running the edit on its own output changes nothing. -/
theorem modifiedPolicy_modifiedPolicy (d : Dict) :
    modifiedPolicy (modifiedPolicy d) = modifiedPolicy d := by
  have hg := get_modifiedPolicy_bindings d
  have he : editedBindings (modifiedPolicy d) = editedBindings d := by
    conv_lhs => rw [editedBindings]
    simp [bindingsOf_modifiedPolicy, any_isViewerBinding_editedBindings,
      map_grantedBinding_editedBindings]
  rw [modifiedPolicy_eq (modifiedPolicy d), he, ← hg,
    Dict.set_of_get (Dict.contains_of_get_ne_null (by simp [hg])), withVersion,
    if_pos (contains_modifiedPolicy_version d)]

/-! ### The edit from the GET response -/

/-- A `policy` field that is not an object with a list of bindings edits no bindings. -/
theorem bindingsOf_originalPolicy_eq_nil {p : Json}
    (h : ¬ ∃ d bs, p = .obj d ∧ Dict.get d "bindings" = .arr bs) : bindingsOf (originalPolicy p) = [] := by
  rcases p with _ | _ | _ | _ | _ | _ | d
  all_goals try rfl
  simp only [originalPolicy, bindingsOf]
  split
  · next bs hbs => exact absurd ⟨d, bs, rfl, hbs⟩ h
  · rfl

/-- For every `policy` field `p` of the initial GET (absent reads as `None`), the document the
adapter PUTs keeps `p`'s keys and their values (all but `bindings`) and has a `version`; its
bindings are those of `originalPolicy p`, each edited in place by `grantedBinding`, followed by
the public-read binding exactly when none had the viewer role: `p`'s own bindings when it is an
object holding a list of them, and the public-read binding alone otherwise. So some binding
grants the viewer role to `allUsers`; an edited binding keeps its members and gains `allUsers`
only when it lacked it; and editing the result again changes nothing. -/
theorem modifiedPolicy_spec (p : Json) :
    let q := modifiedPolicy (originalPolicy p)
    Dict.contains q "version" = true ∧
    (∀ d, p = .obj d → ∀ k, Dict.contains d k = true →
      Dict.contains q k = true ∧ (k ≠ "bindings" → Dict.get q k = Dict.get d k)) ∧
    Dict.get q "bindings" = .arr (bindingsOf q) ∧
    (∃ b ∈ bindingsOf q, GrantsPublicRead b) ∧
    bindingsOf q = (bindingsOf (originalPolicy p)).map grantedBinding ++
      (if (bindingsOf (originalPolicy p)).any isViewerBinding then [] else [publicReadBinding]) ∧
    (∀ d bs, p = .obj d → Dict.get d "bindings" = .arr bs →
      bindingsOf q = bs.map grantedBinding ++
        (if bs.any isViewerBinding then [] else [publicReadBinding])) ∧
    ((¬ ∃ d bs, p = .obj d ∧ Dict.get d "bindings" = .arr bs) → bindingsOf q = [publicReadBinding]) ∧
    (∀ b, isViewerBinding b = false → grantedBinding b = b) ∧
    (∀ b, isViewerBinding b = true → GrantsPublicRead (grantedBinding b) ∧
      membersOf (grantedBinding b) =
        if Json.str allUsers ∈ membersOf b then membersOf b
        else membersOf b ++ [.str allUsers]) ∧
    modifiedPolicy (originalPolicy (.obj q)) = q := by
  intro q
  refine ⟨contains_modifiedPolicy_version _, ?_, ?_, ?_, bindingsOf_modifiedPolicy _, ?_, ?_,
    fun b => grantedBinding_of_not_viewer,
    fun b h => ⟨grantsPublicRead_grantedBinding h, membersOf_grantedBinding h⟩,
    modifiedPolicy_modifiedPolicy _⟩
  · rintro d rfl k hk
    exact ⟨contains_modifiedPolicy hk, fun hne => get_modifiedPolicy_of_ne hne hk⟩
  · rw [get_modifiedPolicy_bindings, bindingsOf_modifiedPolicy]
  · rw [bindingsOf_modifiedPolicy]; exact exists_grantsPublicRead_editedBindings _
  · rintro d bs rfl hbs
    have : bindingsOf d = bs := by simp [bindingsOf, hbs]
    rw [bindingsOf_modifiedPolicy, editedBindings, originalPolicy, this]
  · intro h
    rw [bindingsOf_modifiedPolicy, editedBindings, bindingsOf_originalPolicy_eq_nil h]
    rfl

example : modifiedPolicy (originalPolicy .null) =
    [("version", .int 1), ("bindings", .arr [publicReadBinding])] := by decide

end S3Desk.Policy
