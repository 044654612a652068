/-
# S3Desk.Lighthouse.Script — the script `inject_local_storage` installs, and how it is read

`inject_local_storage` (lines 34–62 of `scripts/lighthouse_auth.py`) builds a script of one
`localStorage.setItem(key, JSON.stringify(literal));` statement per credential it is given, the
value written as the string literal `json.dumps` prints, and `void 0;` when it is given none;
Chrome runs the script before every document of the audited site.

§1 reads a string literal by the string grammar of JSON, which is also what JavaScript makes of
a literal `json.dumps` wrote (its escapes are JSON's, and it holds no raw line terminator):
`readString_jsonQuote` — for every string, reading the literal `json.dumps` prints gives the
string back and stops right after the closing quote. §2 reads the script as the statements it
is made of: `readScript_storageScript` — for every API token and profile id, whatever quotes,
backslashes, newlines or other characters they hold, the script is exactly the `setItem` calls
for the credentials given, with those values, in that order.

Boundary. Values are Lean strings, sequences of Unicode scalar values; a Python `str` can also
hold lone surrogates (`sys.argv` decodes undecodable bytes to them), which are not modelled.
-/
import S3Desk.Json
import S3Desk.PyText

namespace S3Desk.Lighthouse

open Json

/-! ## §1 — string literals -/

/-- The value of a hexadecimal digit. -/
def hexValue (c : Char) : Option Nat :=
  if '0' ≤ c ∧ c ≤ '9' then some (c.toNat - 48)
  else if 'a' ≤ c ∧ c ≤ 'f' then some (c.toNat - 87)
  else if 'A' ≤ c ∧ c ≤ 'F' then some (c.toNat - 55)
  else none

/-- Four hexadecimal digits, as a number, and the text after them. -/
def hex4 : List Char → Option (Nat × List Char)
  | a :: b :: c :: d :: rest =>
    match hexValue a, hexValue b, hexValue c, hexValue d with
    | some a, some b, some c, some d => some (((a * 16 + b) * 16 + c) * 16 + d, rest)
    | _, _, _, _ => none
  | _ => none

/-- The character of the code unit `n` of a `\uXXXX` escape, and the text after it: a high
surrogate must be followed by the escape of a low one, and the pair stands for one character. -/
def readCodeUnit (n : Nat) (rest : List Char) : Option (Char × List Char) :=
  if n < 0xD800 ∨ 0xDFFF < n then some (Char.ofNat n, rest)
  else if n ≤ 0xDBFF then
    match rest with
    | '\\' :: 'u' :: rest =>
      match hex4 rest with
      | some (m, rest) =>
        if 0xDC00 ≤ m ∧ m ≤ 0xDFFF then
          some (Char.ofNat (0x10000 + (n - 0xD800) * 0x400 + (m - 0xDC00)), rest)
        else none
      | none => none
    | _ => none
  else none

/-- The character an escape stands for, given the character after the backslash, and the text
after the escape. -/
def readEscape (e : Char) (rest : List Char) : Option (Char × List Char) :=
  if e = '"' then some ('"', rest)
  else if e = '\\' then some ('\\', rest)
  else if e = '/' then some ('/', rest)
  else if e = 'b' then some (Char.ofNat 8, rest)
  else if e = 'f' then some (Char.ofNat 12, rest)
  else if e = 'n' then some ('\n', rest)
  else if e = 'r' then some ('\r', rest)
  else if e = 't' then some ('\t', rest)
  else if e = 'u' then (hex4 rest).bind fun r => readCodeUnit r.1 r.2
  else none

/-- One character of a literal's body and the text after it; `none` at the closing quote, at a
raw control character and at a malformed escape. -/
def readChar : List Char → Option (Char × List Char)
  | [] => none
  | c :: rest =>
    if c = '\\' then
      match rest with
      | e :: rest => readEscape e rest
      | [] => none
    else if c = '"' ∨ c.toNat < 32 then none
    else some (c, rest)

/-- A literal's body up to its closing quote, reading at most `fuel` characters: the characters
and the text after the quote. -/
def readLit : Nat → List Char → Option (List Char × List Char)
  | 0, _ => none
  | fuel + 1, l =>
    if l.head? = some '"' then some ([], l.tail)
    else
      match readChar l with
      | some (c, rest) => (readLit fuel rest).map fun r => (c :: r.1, r.2)
      | none => none

/-- A string literal at the start of a text: its value and the text after it. -/
def readString : List Char → Option (String × List Char)
  | '"' :: body => (readLit (body.length + 1) body).map fun r => (String.mk r.1, r.2)
  | _ => none

/-- The hexadecimal digit `hex2` writes for `k < 16`. -/
def hexChar (k : Nat) : Char := if k < 10 then Char.ofNat (48 + k) else Char.ofNat (87 + k)

theorem toList_hex2 (k : Nat) : (hex2 k).toList = [hexChar (k / 16 % 16), hexChar (k % 16)] := rfl

theorem hexValue_hexChar : ∀ k < 16, hexValue (hexChar k) = some k := by decide

/-- The four digits of `\uXXXX` that `json.dumps` writes for a code unit `n` read back as `n`. -/
theorem hex4_hex2 {n : Nat} (hn : n < 65536) (more : List Char) :
    hex4 ((hex2 (n / 256)).toList ++ (hex2 (n % 256)).toList ++ more) = some (n, more) := by
  simp only [toList_hex2, List.cons_append, List.singleton_append, List.nil_append, hex4]
  rw [hexValue_hexChar _ (Nat.mod_lt _ (by decide)), hexValue_hexChar _ (Nat.mod_lt _ (by decide)),
    hexValue_hexChar _ (Nat.mod_lt _ (by decide)), hexValue_hexChar _ (Nat.mod_lt _ (by decide))]
  simp only [Option.some.injEq, Prod.mk.injEq, and_true]
  omega

/-- `\uXXXX` for a code unit `n`, as `json.dumps` writes it. -/
theorem toList_u4 (n : Nat) (more : List Char) :
    ("\\u" ++ hex2 (n / 256) ++ hex2 (n % 256)).toList ++ more =
      '\\' :: 'u' :: ((hex2 (n / 256)).toList ++ (hex2 (n % 256)).toList ++ more) := by
  simp [String.data_append]

/-- The code point of a character that is not a surrogate. -/
theorem toNat_valid (c : Char) : c.toNat < 0xD800 ∨ 0xDFFF < c.toNat ∧ c.toNat < 0x110000 := c.valid

theorem readChar_backslash_u (rest : List Char) :
    readChar ('\\' :: 'u' :: rest) = (hex4 rest).bind fun r => readCodeUnit r.1 r.2 := rfl

theorem readCodeUnit_of_not_surrogate {n : Nat} (hn : n < 0xD800 ∨ 0xDFFF < n) (rest : List Char) :
    readCodeUnit n rest = some (Char.ofNat n, rest) := by
  unfold readCodeUnit
  rw [if_pos hn]

/-- A high surrogate followed by the escape `json.dumps` writes for a low one. -/
theorem readCodeUnit_pair {hi lo : Nat} (hhi : 0xD800 ≤ hi ∧ hi ≤ 0xDBFF) (hlo : 0xDC00 ≤ lo ∧ lo ≤ 0xDFFF)
    (more : List Char) :
    readCodeUnit hi ('\\' :: 'u' :: ((hex2 (lo / 256)).toList ++ (hex2 (lo % 256)).toList ++ more)) =
      some (Char.ofNat (0x10000 + (hi - 0xD800) * 0x400 + (lo - 0xDC00)), more) := by
  unfold readCodeUnit
  rw [if_neg (by omega), if_pos hhi.2]
  simp only [hex4_hex2 (show lo < 65536 by omega)]
  rw [if_pos hlo]

/-- Reading the escape `json.dumps` writes for a character gives the character back. -/
theorem readChar_jsonEscapeChar (c : Char) (more : List Char) :
    readChar ((jsonEscapeChar c).toList ++ more) = some (c, more) := by
  have hv := toNat_valid c
  unfold jsonEscapeChar
  -- the short escapes
  by_cases h1 : c = '"'
  · subst h1; rfl
  rw [if_neg h1]
  by_cases h2 : c = '\\'
  · subst h2; rfl
  rw [if_neg h2]
  by_cases h3 : c = '\n'
  · subst h3; rfl
  rw [if_neg h3]
  by_cases h4 : c = '\r'
  · subst h4; rfl
  rw [if_neg h4]
  by_cases h5 : c = '\t'
  · subst h5; rfl
  rw [if_neg h5]
  by_cases h6 : c.toNat = 8
  · rw [if_pos h6, ← Char.ofNat_toNat c, h6]; rfl
  rw [if_neg h6]
  by_cases h7 : c.toNat = 12
  · rw [if_pos h7, ← Char.ofNat_toNat c, h7]; rfl
  rw [if_neg h7]
  by_cases h8 : 32 ≤ c.toNat ∧ c.toNat ≤ 126
  · -- a printable ASCII character stands for itself
    rw [if_pos h8]
    have hq : ¬ (c = '"' ∨ c.toNat < 32) := fun h => h.elim h1 fun h' => by omega
    show readChar (c :: more) = _
    simp only [readChar, if_neg h2, if_neg hq]
  rw [if_neg h8]
  by_cases h9 : c.toNat < 65536
  · -- a character of the basic plane other than those: `\uXXXX`
    rw [if_pos h9, toList_u4, readChar_backslash_u, hex4_hex2 h9, Option.some_bind,
      readCodeUnit_of_not_surrogate (by omega), Char.ofNat_toNat]
  · -- a character above it: the escapes of its surrogate pair
    rw [if_neg h9]
    have hhi : 55296 + (c.toNat - 65536) / 1024 < 65536 := by omega
    have hc : 0x10000 + (55296 + (c.toNat - 65536) / 1024 - 0xD800) * 0x400 +
        (56320 + (c.toNat - 65536) % 1024 - 0xDC00) = c.toNat := by omega
    rw [String.toList, String.data_append, List.append_assoc, ← String.toList, ← String.toList,
      toList_u4, toList_u4, readChar_backslash_u, hex4_hex2 hhi, Option.some_bind,
      readCodeUnit_pair (by omega) (by omega), hc, Char.ofNat_toNat]

/-- The characters `json.dumps` writes between the quotes for the characters `cs`. -/
def escaped (cs : List Char) : List Char := (cs.map fun c => (jsonEscapeChar c).toList).flatten

theorem toList_jsonQuote (s : String) : (jsonQuote s).toList = '"' :: (escaped s.toList ++ ['"']) := by
  simp [jsonQuote, escaped, String.data_append, Py.toList_join, List.map_map]
  rfl

theorem escaped_cons (c : Char) (cs : List Char) :
    escaped (c :: cs) = (jsonEscapeChar c).toList ++ escaped cs := by
  simp [escaped]

/-- Every character is written as at least one character. -/
theorem length_le_escaped : ∀ cs : List Char, cs.length ≤ (escaped cs).length
  | [] => le_rfl
  | c :: cs => by
    have hne : (jsonEscapeChar c).toList ≠ [] := fun h => by
      have hc := readChar_jsonEscapeChar c []
      rw [h] at hc
      simp [readChar] at hc
    have := length_le_escaped cs
    have := List.length_pos.mpr hne
    rw [escaped_cons, List.length_append, List.length_cons]
    omega

/-- The body of a literal `json.dumps` wrote reads back as its characters, given one step per
character. -/
theorem readLit_escaped (rest : List Char) :
    ∀ (cs : List Char) (fuel : Nat), cs.length < fuel →
      readLit fuel (escaped cs ++ '"' :: rest) = some (cs, rest)
  | _, 0, h => absurd h (Nat.not_lt_zero _)
  | [], fuel + 1, _ => rfl
  | c :: cs, fuel + 1, h => by
    have hc := readChar_jsonEscapeChar c (escaped cs ++ '"' :: rest)
    have hq : ((jsonEscapeChar c).toList ++ (escaped cs ++ '"' :: rest)).head? ≠ some '"' := by
      intro hq
      obtain ⟨t, ht⟩ := List.head?_eq_some_iff.mp hq
      rw [ht, show readChar ('"' :: t) = none from rfl] at hc
      cases hc
    rw [escaped_cons, List.append_assoc, readLit, if_neg hq, hc]
    dsimp only
    rw [readLit_escaped rest cs fuel (Nat.lt_of_succ_lt_succ h)]
    rfl

/-- For every string, reading the literal `json.dumps` prints for it gives the string back and
stops right after the closing quote. -/
theorem readString_jsonQuote (s : String) (rest : List Char) :
    readString ((jsonQuote s).toList ++ rest) = some (s, rest) := by
  have hlen := length_le_escaped s.toList
  rw [toList_jsonQuote, List.cons_append, readString, List.append_assoc, List.singleton_append,
    readLit_escaped rest _ _ (by simp only [List.length_append, List.length_cons]; omega)]
  rfl

/-! ## §2 — the script -/

/-- `localStorage.setItem('key', JSON.stringify(<json.dumps(value)>));`, the statement of
lines 49–51 and 53–55 for the item `key`. -/
def setItemStatement (key value : String) : String :=
  "localStorage.setItem(\x27" ++ key ++ "\x27, JSON.stringify(" ++ dumps (.str value) ++ "));"

/-- Lines 49–51. -/
def apiTokenStatement (apiToken : String) : String := setItemStatement "apiToken" apiToken

/-- Lines 53–55. -/
def profileIdStatement (profileId : String) : String := setItemStatement "profileId" profileId

/-- `script` (lines 47–57): the statements for the credentials given, or `void 0;`. -/
def storageScript (apiToken profileId : Option String) : String :=
  let scriptLines := (apiToken.map apiTokenStatement).toList ++ (profileId.map profileIdStatement).toList
  let script := String.join scriptLines
  if script = "" then "void 0;" else script

/-- The text after the prefix `p`, when the text starts with it. -/
def dropPrefix (p : String) (l : List Char) : Option (List Char) :=
  if p.toList.isPrefixOf l then some (l.drop p.length) else none

/-- The items a run of `setItem` statements stores, reading at most `fuel` statements: each
`localStorage.setItem('key', JSON.stringify(literal));` stores under `key` the JSON text of
the literal's value, given here as that value. -/
def readStatements : Nat → List Char → Option (List (String × String))
  | _, [] => some []
  | 0, _ :: _ => none
  | fuel + 1, l@(_ :: _) => do
    let r ← dropPrefix "localStorage.setItem(\x27" l
    let key := r.takeWhile (· ≠ Char.ofNat 39)
    let r ← dropPrefix "\x27, JSON.stringify(" (r.drop key.length)
    let (value, r) ← readString r
    let r ← dropPrefix "));" r
    let items ← readStatements fuel r
    pure ((String.mk key, value) :: items)

/-- The items a script stores: none for `void 0;`. -/
def readScript (script : String) : Option (List (String × String)) :=
  if script = "void 0;" then some [] else readStatements script.length script.toList

theorem dropPrefix_append (p : String) (l : List Char) : dropPrefix p (p.toList ++ l) = some l := by
  rw [dropPrefix, if_pos (List.isPrefixOf_iff_prefix.mpr (List.prefix_append _ _))]
  exact congrArg some (List.drop_left _ _)

theorem toList_setItemStatement (key value : String) (l : List Char) :
    (setItemStatement key value).toList ++ l = "localStorage.setItem(\x27".toList ++ (key.toList ++
      ("\x27, JSON.stringify(".toList ++ ((jsonQuote value).toList ++ ("));".toList ++ l)))) := by
  simp [setItemStatement, dumps, String.data_append]

/-- A statement starts with the `l` of `localStorage`. -/
theorem exists_setItemStatement_cons (key value : String) (l : List Char) :
    ∃ t, (setItemStatement key value).toList ++ l = 'l' :: t :=
  ⟨_, (toList_setItemStatement key value l).trans rfl⟩

/-- One statement, for a key without a quote, and the statements after it. -/
theorem readStatements_setItem {key : String} (hk : Char.ofNat 39 ∉ key.toList) (value : String)
    (fuel : Nat) (l : List Char) :
    readStatements (fuel + 1) ((setItemStatement key value).toList ++ l) =
      (readStatements fuel l).map ((key, value) :: ·) := by
  have htake : (key.toList ++ ("\x27, JSON.stringify(".toList ++ ((jsonQuote value).toList ++
      ("));".toList ++ l)))).takeWhile (· ≠ Char.ofNat 39) = key.toList := by
    rw [List.takeWhile_append_of_pos fun c hc => by simpa using ne_of_mem_of_not_mem hc hk]
    simp [show "\x27, JSON.stringify(".toList = Char.ofNat 39 :: ", JSON.stringify(".toList from rfl]
  obtain ⟨t, hcons⟩ := exists_setItemStatement_cons key value l
  rw [hcons, readStatements, ← hcons, toList_setItemStatement, dropPrefix_append]
  simp only [Option.bind_eq_bind, Option.some_bind]
  rw [htake, List.drop_left, dropPrefix_append, Option.some_bind,
    readString_jsonQuote, Option.some_bind, dropPrefix_append, Option.some_bind]
  cases readStatements fuel l <;> rfl

/-- The statements of a list of items, one after the other. -/
def statementsOf (items : List (String × String)) : String :=
  String.join (items.map fun kv => setItemStatement kv.1 kv.2)

theorem toList_statementsOf_cons (kv : String × String) (items : List (String × String)) :
    (statementsOf (kv :: items)).toList = (setItemStatement kv.1 kv.2).toList ++ (statementsOf items).toList := by
  simp only [statementsOf, Py.toList_join, List.map_cons, List.flatten_cons]

/-- The statements for items whose keys hold no quote read back as the items. -/
theorem readStatements_statementsOf :
    ∀ items : List (String × String), (∀ kv ∈ items, Char.ofNat 39 ∉ kv.1.toList) →
      ∀ fuel, items.length ≤ fuel → readStatements fuel (statementsOf items).toList = some items
  | [], _, fuel, _ => by cases fuel <;> rfl
  | _ :: _, _, 0, hlen => absurd hlen (by simp)
  | kv :: items, hk, fuel + 1, hlen => by
    rw [toList_statementsOf_cons, readStatements_setItem (hk kv (List.mem_cons_self _ _)),
      readStatements_statementsOf items (fun kv h => hk kv (List.mem_cons_of_mem _ h)) fuel
        (by simpa using hlen)]
    rfl

/-- Each statement has at least one character. -/
theorem length_le_statementsOf :
    ∀ items : List (String × String), items.length ≤ (statementsOf items).toList.length
  | [] => le_rfl
  | kv :: items => by
    obtain ⟨t, ht⟩ := exists_setItemStatement_cons kv.1 kv.2 []
    rw [List.append_nil] at ht
    have := length_le_statementsOf items
    rw [toList_statementsOf_cons, ht, List.cons_append, List.length_cons, List.length_cons,
      List.length_append]
    omega

/-- The items a script stores, as pairs. -/
def storedItems (apiToken profileId : Option String) : List (String × String) :=
  (apiToken.map ("apiToken", ·)).toList ++ (profileId.map ("profileId", ·)).toList

theorem storageScript_eq (apiToken profileId : Option String) :
    storageScript apiToken profileId =
      if storedItems apiToken profileId = [] then "void 0;" else statementsOf (storedItems apiToken profileId) := by
  cases apiToken <;> cases profileId <;> rfl

/-- For every API token and profile id, the script `inject_local_storage` installs stores
exactly the given credentials, the token under `apiToken` and then the profile id under
`profileId`, each as the JSON text of the very value given, whatever characters it holds. -/
theorem readScript_storageScript (apiToken profileId : Option String) :
    readScript (storageScript apiToken profileId) = some (storedItems apiToken profileId) := by
  rw [storageScript_eq]
  split
  · next h => rw [h]; rfl
  · next h =>
    obtain ⟨kv, items, hkv⟩ := List.exists_cons_of_ne_nil h
    have hk : ∀ kv ∈ storedItems apiToken profileId, Char.ofNat 39 ∉ kv.1.toList := by
      cases apiToken <;> cases profileId <;> simp [storedItems]
    have hne : statementsOf (storedItems apiToken profileId) ≠ "void 0;" := by
      rw [hkv]
      intro he
      obtain ⟨t, ht⟩ := exists_setItemStatement_cons kv.1 kv.2 (statementsOf items).toList
      have := congrArg String.toList he
      rw [toList_statementsOf_cons, ht] at this
      exact absurd (List.cons.inj this).1 (by decide)
    rw [readScript, if_neg hne]
    exact readStatements_statementsOf _ hk _ (length_le_statementsOf _)

end S3Desk.Lighthouse
