/-
# S3Desk.PyText — the `str` operations the scripts apply to names and paths

`str.startswith`, `str.replace`, the code-point order `sort` uses on `str` keys,
`pathlib.PurePosixPath(p).name`, and the few text operations of the e2e runner (`strip`,
`rstrip`, `lower`, `urllib.parse.quote`, `str.encode("utf-8")` and `repr` of `bytes`) and the
digits of `str(n)`, each
written by structural recursion over the characters so that a concrete input evaluates by
`decide`. `replace` carries the length of its input as fuel: every step consumes at least one
character, so the fuel never runs out first.

Boundary. `lower` is modelled on ASCII letters only; the runner applies it to an environment
variable it compares with `"1"`, `"true"`, `"yes"` and `"y"`, and no other code point has a
lowercase form among their letters, so the comparison comes out as in Python.
-/
import Mathlib.Data.String.Basic
import Mathlib.Data.Nat.Digits

namespace S3Desk.Py

/-- `s.startswith(p)`. -/
def startsWith (s p : String) : Bool := p.toList.isPrefixOf s.toList

/-- The loop of `str.replace`: at each position, an occurrence of `old` is replaced and
skipped, any other character is kept. -/
def replaceGo (old new : List Char) : Nat → List Char → List Char
  | 0, s => s
  | _ + 1, [] => []
  | n + 1, c :: cs =>
    if old ≠ [] ∧ old <+: c :: cs then new ++ replaceGo old new n ((c :: cs).drop old.length)
    else c :: replaceGo old new n cs

/-- `s.replace(old, new)` for a non-empty `old` (the only kind the scripts pass): every
occurrence, left to right, without overlap. -/
def replace (s old new : String) : String :=
  String.mk (replaceGo old.toList new.toList s.length s.toList)

/-- `a < b` on `str`: lexicographic on code points. -/
def strLt (a b : String) : Bool := decide (a.toList < b.toList)

theorem strLt_iff (a b : String) : strLt a b = true ↔ a < b := by
  simp [strLt, String.lt_iff_toList_lt]

/-- The loop behind `PurePosixPath(p).name`: the last component that is neither empty nor `.`. -/
def nameGo : List Char → List Char → List Char → List Char
  | [], cur, last => if cur = [] ∨ cur = ['.'] then last else cur
  | c :: cs, cur, last =>
    if c = '/' then nameGo cs [] (if cur = [] ∨ cur = ['.'] then last else cur)
    else nameGo cs (cur ++ [c]) last

/-- `Path(p).name`. -/
def pathName (p : String) : String := String.mk (nameGo p.toList [] [])

example : replace "node_modules/a/node_modules/@s/b" "node_modules/" "" = "a/@s/b" := by decide
example : pathName "/go/pkg/mod/x@v1/LICENSE" = "LICENSE" := by decide

/-! ## The runner's text operations -/

/-- The code points `str.isspace` accepts, which `strip()` and `rstrip()` remove. -/
def isSpace (c : Char) : Bool :=
  let n := c.toNat
  (9 ≤ n && n ≤ 13) || (28 ≤ n && n ≤ 32) || n = 133 || n = 160 || n = 5760 ||
    (8192 ≤ n && n ≤ 8202) || n = 8232 || n = 8233 || n = 8239 || n = 8287 || n = 12288

/-- `s.rstrip(chars)`: drop the trailing characters `drop` accepts. -/
def rstripBy (drop : Char → Bool) (s : String) : String :=
  String.mk (s.toList.reverse.dropWhile drop).reverse

/-- `s.rstrip()`. -/
def rstrip (s : String) : String := rstripBy isSpace s

/-- `bool(s.strip())`: some character is not whitespace. -/
def strippedNonempty (s : String) : Bool := s.toList.any fun c => !isSpace c

/-- `s.lower()` on ASCII letters. -/
def lower (s : String) : String := String.mk (s.toList.map Char.toLower)

/-- `s.encode("utf-8")`. -/
def utf8 (s : String) : List UInt8 := s.toList.flatMap String.utf8EncodeChar

/-- A digit of `%XX` and of `\xhh`. -/
def hexDigit (upper : Bool) (k : Nat) : Char :=
  if k < 10 then Char.ofNat (48 + k) else Char.ofNat ((if upper then 55 else 87) + k)

/-- `urllib.parse.quote(s)`: letters, digits, `_.-~` and `/` stay, every other character becomes
the `%XX` escapes of its UTF-8 bytes. -/
def quote (s : String) : String :=
  String.join <| s.toList.map fun c =>
    if (c.isAlphanum && c.toNat < 128) || c ∈ ['_', '.', '-', '~', '/'] then c.toString
    else String.join <| (String.utf8EncodeChar c).map fun b =>
      String.mk ['%', hexDigit true (b.toNat / 16), hexDigit true (b.toNat % 16)]

/-- `repr(b)` of a `bytes` value: `b'…'`, or `b"…"` when the bytes hold a single quote and no
double quote; printable ASCII stays, `\t`, `\n`, `\r`, the quote and the backslash are
escaped, every other byte is `\xhh`. -/
def bytesRepr (bs : List UInt8) : String :=
  let q : Char := if bs.contains 39 && !bs.contains 34 then '"' else Char.ofNat 39
  let esc : UInt8 → String := fun b =>
    let n := b.toNat
    if n = q.toNat ∨ n = 92 then String.mk ['\\', Char.ofNat n]
    else if n = 9 then "\\t"
    else if n = 10 then "\\n"
    else if n = 13 then "\\r"
    else if n < 32 ∨ 127 ≤ n then String.mk ['\\', 'x', hexDigit false (n / 16), hexDigit false (n % 16)]
    else (Char.ofNat n).toString
  "b" ++ q.toString ++ String.join (bs.map esc) ++ q.toString

example : quote "hello.txt" = "hello.txt" := by decide
example : bytesRepr (utf8 "hi\n") = "b'hi\\n'" := by decide

/-! ## UTF-8 and ASCII -/

theorem utf8_append (s t : String) : utf8 (s ++ t) = utf8 s ++ utf8 t := by
  simp [utf8, String.toList, String.data_append]

theorem le_toNat_or {x y : UInt8} (hy : 128 ≤ y.toNat) : 128 ≤ (x ||| y).toNat := by
  refine hy.trans ?_
  show y.toBitVec.toNat ≤ (x.toBitVec ||| y.toBitVec).toNat
  rw [BitVec.toNat_or]
  exact Nat.le_of_testBit fun i h => by simp [h]

/-- A byte below 128 in the UTF-8 form of a character is that character: every byte of a longer
form has its top bit set. -/
theorem toNat_of_mem_utf8EncodeChar {c : Char} {b : UInt8} (hb : b ∈ String.utf8EncodeChar c)
    (h : b.toNat < 128) : b.toNat = c.toNat := by
  simp only [String.utf8EncodeChar] at hb
  split_ifs at hb with h1
  · rw [List.mem_singleton] at hb
    subst hb
    have : c.val.toNat ≤ 127 := h1
    simp [Char.toNat, UInt32.toUInt8, Nat.toUInt8, UInt8.ofNat, UInt8.toNat]
    omega
  all_goals
    simp only [List.mem_cons, List.mem_singleton, List.not_mem_nil, or_false] at hb
    rcases hb with rfl | rfl | rfl | rfl <;> exact absurd h (Nat.not_lt.mpr (le_toNat_or (by decide)))

/-- An ASCII character's byte is in `s.encode("utf-8")` only where `s` holds the character. -/
theorem not_mem_utf8 {s : String} {c : Char} (hc : c.toNat < 128) (h : c ∉ s.toList) :
    c.toNat.toUInt8 ∉ utf8 s := by
  intro hb
  obtain ⟨d, hd, hb⟩ := List.mem_flatMap.mp hb
  have hlt : (c.toNat.toUInt8).toNat = c.toNat := Nat.mod_eq_of_lt (by omega)
  have := toNat_of_mem_utf8EncodeChar hb (by omega)
  rw [hlt] at this
  exact h (by rw [← Char.ofNat_toNat c, this, Char.ofNat_toNat]; exact hd)

/-- The UTF-8 form of ASCII text is its code points. -/
theorem utf8_of_ascii {s : String} (h : ∀ c ∈ s.toList, c.toNat < 128) :
    utf8 s = s.toList.map fun c => c.toNat.toUInt8 := by
  obtain ⟨l⟩ := s
  simp only [utf8, String.toList] at h ⊢
  induction l with
  | nil => rfl
  | cons c cs ih =>
    rw [List.flatMap_cons, List.map_cons, ih fun d hd => h d (List.mem_cons_of_mem _ hd)]
    have hc : c.val ≤ 127 := by
      have := h c (List.mem_cons_self _ _)
      rw [UInt32.le_def, BitVec.le_def]
      exact Nat.le_of_lt_succ this
    simp [String.utf8EncodeChar, hc, UInt32.toUInt8, Char.toNat]

/-! ## `str.join` -/

theorem toList_foldl_append (l : List String) :
    ∀ acc : String, (l.foldl (· ++ ·) acc).toList = acc.toList ++ (l.map String.toList).flatten := by
  induction l with
  | nil => intro acc; simp
  | cons a l ih => intro acc; rw [List.foldl_cons, ih]; simp

/-- `"".join(l)` has the characters of the strings of `l`, in order. -/
theorem toList_join (l : List String) : (String.join l).toList = (l.map String.toList).flatten :=
  toList_foldl_append l ""

theorem toList_intercalate_go (sep : String) (as : List String) :
    ∀ acc : String, (String.intercalate.go acc sep as).toList =
      sep.toList.intercalate (acc.toList :: as.map String.toList) := by
  induction as with
  | nil => intro acc; simp [String.intercalate.go, List.intercalate]
  | cons a as ih =>
    intro acc
    rw [String.intercalate.go, ih]
    cases as <;> simp [List.intercalate, List.intersperse_cons_cons]

/-- `sep.join(lines)` has the characters of the lines with those of `sep` between them. -/
theorem toList_intercalate (sep : String) (lines : List String) :
    (sep.intercalate lines).toList = sep.toList.intercalate (lines.map String.toList) := by
  cases lines with
  | nil => rfl
  | cons a as => exact toList_intercalate_go sep as a

/-! ## `str` of an `int` -/

/-- A character of a numeral `Nat.toDigitsCore` builds is a digit in the base or was already in
the accumulator; `str(n)` is `Nat.toDigitsCore 10 (n + 1) n []`. -/
theorem mem_toDigitsCore {b f n : Nat} {l : List Char} {c : Char} (h : c ∈ Nat.toDigitsCore b f n l) :
    c ∈ l ∨ ∃ m, c = Nat.digitChar (m % b) := by
  induction f generalizing n l with
  | zero => exact .inl h
  | succ f ih =>
    simp only [Nat.toDigitsCore] at h
    split at h
    · exact (List.mem_cons.mp h).elim (fun h => .inr ⟨n, h⟩) .inl
    · exact (ih h).elim (fun h => (List.mem_cons.mp h).elim (fun h => .inr ⟨n, h⟩) .inl) .inr

end S3Desk.Py
