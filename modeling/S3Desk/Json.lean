/-
# S3Desk.Json — the values `json.loads` hands to the runner, and Python's view of them

Every response the e2e runner reads, every policy document it edits and every lockfile entry
the notices generator walks is a value of Python's JSON data model: `None`, a `bool`, an `int`,
a `float`, a `str`, a `list` or an insertion-ordered `dict` with `str` keys. `Json` is that
model; a `dict` is a list of key/value pairs in insertion order.

On top sit the few Python operations the code applies to such values: `d.get(k)` (absent is
`None`), `d[k] = v` (an existing key keeps its place, a new one goes last), `k in d`, truth
testing, and `str`/`repr` for the text of log lines and exception messages.

Boundary. `float` is kept as the decimal `mantissa · 10^-exponent` that the JSON text spelled;
`repr` prints it in positional notation (Python switches to scientific notation below `1e-4`
and from `1e16` on), and `repr` of a `str` escapes the ASCII and C1 control characters but
keeps every other code point (Python also escapes the remaining non-printable ones).
`NaN` and `Infinity`, which `json.loads` also accepts, are not modelled.
-/
import Mathlib.Data.List.Basic

namespace S3Desk

/-- A JSON value as Python holds it after `json.loads`. -/
inductive Json where
  | null
  | bool (b : Bool)
  | int (n : Int)
  | float (mantissa : Int) (exponent : Nat)
  | str (s : String)
  | arr (xs : List Json)
  | obj (kvs : List (String × Json))
  deriving Repr, Inhabited

/-- A Python `dict` read from JSON: its items in insertion order. -/
abbrev Dict := List (String × Json)

namespace Json

/-! ## Decidable equality (structural, through the nested lists) -/

mutual
/-- Structural equality test on values. -/
def beq : Json → Json → Bool
  | .null, .null => true
  | .bool a, .bool b => a == b
  | .int a, .int b => a == b
  | .float m e, .float n f => m == n && e == f
  | .str a, .str b => a == b
  | .arr xs, .arr ys => beqList xs ys
  | .obj xs, .obj ys => beqDict xs ys
  | _, _ => false
/-- `beq` on lists of values. -/
def beqList : List Json → List Json → Bool
  | [], [] => true
  | x :: xs, y :: ys => beq x y && beqList xs ys
  | _, _ => false
/-- `beq` on dicts. -/
def beqDict : Dict → Dict → Bool
  | [], [] => true
  | (k, x) :: xs, (l, y) :: ys => k == l && beq x y && beqDict xs ys
  | _, _ => false
end

mutual
theorem beq_iff : ∀ a b : Json, beq a b = true ↔ a = b
  | .null, .null => ⟨fun _ => rfl, fun _ => rfl⟩
  | .bool a, .bool b => show (a == b) = true ↔ _ by simp
  | .int a, .int b => show (a == b) = true ↔ _ by simp
  | .float m e, .float n f => show (m == n && e == f) = true ↔ _ by simp
  | .str a, .str b => show (a == b) = true ↔ _ by simp
  | .arr xs, .arr ys => show beqList xs ys = true ↔ _ by simp [beqList_iff xs ys]
  | .obj xs, .obj ys => show beqDict xs ys = true ↔ _ by simp [beqDict_iff xs ys]
  | .null, .bool _ | .null, .int _ | .null, .float _ _ | .null, .str _ | .null, .arr _
  | .null, .obj _ | .bool _, .null | .bool _, .int _ | .bool _, .float _ _ | .bool _, .str _
  | .bool _, .arr _ | .bool _, .obj _ | .int _, .null | .int _, .bool _ | .int _, .float _ _
  | .int _, .str _ | .int _, .arr _ | .int _, .obj _ | .float _ _, .null | .float _ _, .bool _
  | .float _ _, .int _ | .float _ _, .str _ | .float _ _, .arr _ | .float _ _, .obj _
  | .str _, .null | .str _, .bool _ | .str _, .int _ | .str _, .float _ _ | .str _, .arr _
  | .str _, .obj _ | .arr _, .null | .arr _, .bool _ | .arr _, .int _ | .arr _, .float _ _
  | .arr _, .str _ | .arr _, .obj _ | .obj _, .null | .obj _, .bool _ | .obj _, .int _
  | .obj _, .float _ _ | .obj _, .str _ | .obj _, .arr _ =>
    ⟨fun h => absurd h Bool.false_ne_true, fun h => Json.noConfusion h⟩
theorem beqList_iff : ∀ xs ys : List Json, beqList xs ys = true ↔ xs = ys
  | [], [] => ⟨fun _ => rfl, fun _ => rfl⟩
  | [], _ :: _ | _ :: _, [] => ⟨fun h => absurd h Bool.false_ne_true, fun h => List.noConfusion h⟩
  | x :: xs, y :: ys => show (beq x y && beqList xs ys) = true ↔ _ by
    simp [beq_iff x y, beqList_iff xs ys]
theorem beqDict_iff : ∀ xs ys : Dict, beqDict xs ys = true ↔ xs = ys
  | [], [] => ⟨fun _ => rfl, fun _ => rfl⟩
  | [], _ :: _ | _ :: _, [] => ⟨fun h => absurd h Bool.false_ne_true, fun h => List.noConfusion h⟩
  | (k, x) :: xs, (l, y) :: ys => show (k == l && beq x y && beqDict xs ys) = true ↔ _ by
    simp [beq_iff x y, beqDict_iff xs ys, and_assoc]
end

instance : DecidableEq Json := fun a b => decidable_of_iff _ (beq_iff a b)

/-! ## Truth testing -/

/-- `bool(x)`: `None`, `False`, zero, and empty strings, lists and dicts are false. -/
def truthy : Json → Bool
  | .null => false
  | .bool b => b
  | .int n => n != 0
  | .float m _ => m != 0
  | .str s => !s.isEmpty
  | .arr xs => !xs.isEmpty
  | .obj kvs => !kvs.isEmpty

/-! ## `repr` and `str` -/

/-- Two lowercase hexadecimal digits of a code point below 256, as `\x` escapes print them. -/
def hex2 (n : Nat) : String :=
  let d := fun k => if k < 10 then Char.ofNat (48 + k) else Char.ofNat (87 + k)
  String.mk [d (n / 16 % 16), d (n % 16)]

/-- One character of `repr(s)` between the quotes `q`. -/
def escapeChar (q c : Char) : String :=
  if c = q ∨ c = '\\' then String.mk ['\\', c]
  else if c = '\t' then "\\t"
  else if c = '\n' then "\\n"
  else if c = '\r' then "\\r"
  else if c.toNat < 32 ∨ (127 ≤ c.toNat ∧ c.toNat ≤ 160) ∨ c.toNat = 173 then "\\x" ++ hex2 c.toNat
  else c.toString

/-- `repr` of a `str`: single quotes, unless the text holds a single quote and no double one. -/
def pyQuote (s : String) : String :=
  let q := if s.toList.contains (Char.ofNat 39) && !s.toList.contains '"' then '"' else Char.ofNat 39
  String.mk [q] ++ String.join (s.toList.map (escapeChar q)) ++ String.mk [q]

/-- Strip trailing zeros of a decimal `m · 10^-e`, keeping at least the units digit. -/
def trimZeros : Int → Nat → Int × Nat
  | m, 0 => (m, 0)
  | m, e + 1 => if m % 10 = 0 then trimZeros (m / 10) e else (m, e + 1)

/-- `repr` of a `float` written in positional notation. -/
def floatRepr (m : Int) (e : Nat) : String :=
  let (m, e) := trimZeros m e
  let sign := if m < 0 then "-" else ""
  let ds := (toString m.natAbs).toList
  let ds := List.replicate (e + 1 - ds.length) '0' ++ ds
  if e = 0 then sign ++ String.mk ds ++ ".0"
  else sign ++ String.mk (ds.take (ds.length - e)) ++ "." ++ String.mk (ds.drop (ds.length - e))

mutual
/-- Python's `repr` of a value. -/
def pyRepr : Json → String
  | .null => "None"
  | .bool b => if b then "True" else "False"
  | .int n => toString n
  | .float m e => floatRepr m e
  | .str s => pyQuote s
  | .arr xs => "[" ++ ", ".intercalate (pyReprList xs) ++ "]"
  | .obj kvs => "\x7b" ++ ", ".intercalate (pyReprDict kvs) ++ "\x7d"
/-- `repr` of each element. -/
def pyReprList : List Json → List String
  | [] => []
  | x :: xs => pyRepr x :: pyReprList xs
/-- `repr` of each item, as `key: value`. -/
def pyReprDict : Dict → List String
  | [] => []
  | (k, v) :: kvs => (pyQuote k ++ ": " ++ pyRepr v) :: pyReprDict kvs
end

/-- Python's `str` of a value (what an f-string prints): a `str` is its own text. -/
def pyStr : Json → String
  | .str s => s
  | v => pyRepr v

/-- `type(x).__name__`, as Python's error messages print it. -/
def typeName : Json → String
  | .null => "NoneType"
  | .bool _ => "bool"
  | .int _ => "int"
  | .float _ _ => "float"
  | .str _ => "str"
  | .arr _ => "list"
  | .obj _ => "dict"

/-- One character of a `json.dumps` string literal (`ensure_ascii`): the quote, the backslash
and the usual control characters get their short escapes, everything outside `' '..'~'`
becomes `\uXXXX` (a surrogate pair above the BMP). -/
def jsonEscapeChar (c : Char) : String :=
  let u4 := fun n : Nat => "\\u" ++ hex2 (n / 256) ++ hex2 (n % 256)
  if c = '"' then "\\\""
  else if c = '\\' then "\\\\"
  else if c = '\n' then "\\n"
  else if c = '\r' then "\\r"
  else if c = '\t' then "\\t"
  else if c.toNat = 8 then "\\b"
  else if c.toNat = 12 then "\\f"
  else if 32 ≤ c.toNat ∧ c.toNat ≤ 126 then c.toString
  else if c.toNat < 65536 then u4 c.toNat
  else
    let v := c.toNat - 65536
    u4 (55296 + v / 1024) ++ u4 (56320 + v % 1024)

/-- A `json.dumps` string literal. -/
def jsonQuote (s : String) : String := "\"" ++ String.join (s.toList.map jsonEscapeChar) ++ "\""

mutual
/-- `json.dumps(x)` with the default separators `", "` and `": "`. -/
def dumps : Json → String
  | .null => "null"
  | .bool b => if b then "true" else "false"
  | .int n => toString n
  | .float m e => floatRepr m e
  | .str s => jsonQuote s
  | .arr xs => "[" ++ ", ".intercalate (dumpsList xs) ++ "]"
  | .obj kvs => "\x7b" ++ ", ".intercalate (dumpsDict kvs) ++ "\x7d"
/-- `dumps` of each element. -/
def dumpsList : List Json → List String
  | [] => []
  | x :: xs => dumps x :: dumpsList xs
/-- `dumps` of each item, as `"key": value`. -/
def dumpsDict : Dict → List String
  | [] => []
  | (k, v) :: kvs => (jsonQuote k ++ ": " ++ dumps v) :: dumpsDict kvs
end

example : dumps (.obj [("ok", .bool true), ("id", .str "é")]) = "\x7b\"ok\": true, \"id\": \"\\u00e9\"\x7d" := by
  decide

/-- `x == s` for a `str` literal `s`: only a `str` with the same text is equal. -/
def isStr (s : String) : Json → Bool
  | .str t => t == s
  | _ => false

@[simp] theorem isStr_str (s t : String) : isStr s (.str t) = (t == s) := rfl

end Json

/-! ## `dict` operations -/

namespace Dict

/-- `d.get(k)`: the value stored under `k`, `None` when there is none. -/
def get : Dict → String → Json
  | [], _ => .null
  | (k', v) :: d, k => if k' = k then v else get d k

@[simp] theorem get_cons_self (k : String) (v : Json) (d : Dict) : get ((k, v) :: d) k = v := by
  simp [get]

/-- `k in d`. -/
def contains : Dict → String → Bool
  | [], _ => false
  | (k', _) :: d, k => k' == k || contains d k

/-- `d[k] = v`: an existing key keeps its position, a new key is appended. -/
def set : Dict → String → Json → Dict
  | [], k, v => [(k, v)]
  | (k', v') :: d, k, v => if k' = k then (k, v) :: d else (k', v') :: set d k v

@[simp] theorem get_set_self (d : Dict) (k : String) (v : Json) : get (set d k v) k = v := by
  induction d with
  | nil => simp [set, get]
  | cons p d ih => by_cases h : p.1 = k <;> simp [set, get, h, ih]

theorem get_set_of_ne {k k' : String} (h : k' ≠ k) (d : Dict) (v : Json) :
    get (set d k v) k' = get d k' := by
  induction d with
  | nil => simp [set, get, Ne.symm h]
  | cons p d ih =>
    by_cases hk : p.1 = k
    · simp [set, get, hk, Ne.symm h]
    · simp [set, get, hk, ih]

@[simp] theorem contains_set_self (d : Dict) (k : String) (v : Json) :
    contains (set d k v) k = true := by
  induction d with
  | nil => simp [set, contains]
  | cons p d ih => by_cases h : p.1 = k <;> simp [set, contains, h, ih]

theorem contains_set_of_ne {k k' : String} (h : k' ≠ k) (d : Dict) (v : Json) :
    contains (set d k v) k' = contains d k' := by
  induction d with
  | nil => simp [set, contains, Ne.symm h]
  | cons p d ih =>
    by_cases hk : p.1 = k
    · simp [set, contains, hk, Ne.symm h]
    · simp [set, contains, hk, ih]

theorem contains_of_get_ne_null {d : Dict} {k : String} (h : get d k ≠ .null) :
    contains d k = true := by
  induction d with
  | nil => simp [get] at h
  | cons p d ih =>
    obtain ⟨k', v'⟩ := p
    by_cases hk : k' = k
    · simp [contains, hk]
    · simp [contains, get, hk] at h ⊢; exact ih h

/-- Setting a key the dict already holds, to the value it already holds, changes nothing. -/
theorem set_of_get {d : Dict} {k : String} (hk : contains d k = true) :
    set d k (get d k) = d := by
  induction d with
  | nil => simp [contains] at hk
  | cons p d ih =>
    obtain ⟨k', v'⟩ := p
    by_cases h : k' = k
    · subst h; simp [set, get]
    · simp [set, get, h, ih (by simpa [contains, h] using hk)]

end Dict

end S3Desk
