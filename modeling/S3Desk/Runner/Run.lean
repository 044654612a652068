/-
# S3Desk.Runner.Run — the world the e2e runner runs in

`runner.py` reaches the outside through `urllib.request.urlopen` (one HTTP exchange with the
server), `time.time()`, `time.sleep(d)`, `uuid.uuid4()` and `os.environ`, and it prints log
lines. `Env σ` is the outside as functions of a state `σ` of everything beyond the process
(the server, the clock, the random source): a statement over every `σ` and every `Env σ` is a
statement over every behaviour of the outside. `World σ` is that state together with the lines
printed so far.

`Run σ α` is a computation of the runner: reading the environment, it takes a world to an
`Outcome` (a value, a raised exception, or `diverge` for a loop that used up the iterations it
was given) and the world after. Python exceptions are values (`Exn`), so a handler that
re-raises can be seen to raise the very value it caught.

Boundary. Python floats are exact decimals (`Decimal`): every double is one, and the runner's
literals (`1.3`, `0.8`, `5.0`) are read at their written value. Rounding is not modelled; the
one float error the code catches, `1.3 ** k` leaving the double range, is, and so is the
`OverflowError` of `time.sleep` from `2^63` ns on (`sleepLimit`). A reply carries its
body together with what the code's decoders make of it (`Body`), since `json.loads` and
`bytes.decode` are library functions.
-/
import S3Desk.Json
import S3Desk.PyText
import Mathlib.Algebra.Order.Field.Rat
import Mathlib.Algebra.Order.Field.Basic
import Mathlib.Tactic.Positivity
import Mathlib.Tactic.Ring

namespace S3Desk.Runner

open Json

/-! ## §1 — numbers -/

/-- A Python `float` (or `int`) value: `mantissa · 10^-exponent`. -/
structure Decimal where
  mantissa : Int
  exponent : Nat
  deriving DecidableEq, Repr

namespace Decimal

instance : OfNat Decimal n := ⟨⟨n, 0⟩⟩

/-- The exact value. -/
def toRat (a : Decimal) : ℚ := a.mantissa / 10 ^ a.exponent

/-- `a < b`, compared exactly. -/
def Lt (a b : Decimal) : Prop := a.mantissa * 10 ^ b.exponent < b.mantissa * 10 ^ a.exponent

/-- `a <= b`, compared exactly. -/
def Le (a b : Decimal) : Prop := a.mantissa * 10 ^ b.exponent ≤ b.mantissa * 10 ^ a.exponent

instance : LT Decimal := ⟨Lt⟩
instance : LE Decimal := ⟨Le⟩
instance (a b : Decimal) : Decidable (Lt a b) := Int.decLt _ _
instance (a b : Decimal) : Decidable (Le a b) := Int.decLe _ _
instance (a b : Decimal) : Decidable (a < b) := inferInstanceAs (Decidable (Lt a b))
instance (a b : Decimal) : Decidable (a ≤ b) := inferInstanceAs (Decidable (Le a b))

instance : Add Decimal :=
  ⟨fun a b => ⟨a.mantissa * 10 ^ b.exponent + b.mantissa * 10 ^ a.exponent, a.exponent + b.exponent⟩⟩
instance : Mul Decimal := ⟨fun a b => ⟨a.mantissa * b.mantissa, a.exponent + b.exponent⟩⟩
instance : HPow Decimal Nat Decimal := ⟨fun a k => ⟨a.mantissa ^ k, a.exponent * k⟩⟩

/-- `abs(a)`. -/
def abs (a : Decimal) : Decimal := ⟨a.mantissa.natAbs, a.exponent⟩

/-- `min(a, b)`: the first argument unless the second is smaller. -/
def pyMin (a b : Decimal) : Decimal := if b < a then b else a

theorem ten_pow_pos (e : Nat) : (0 : ℚ) < 10 ^ e := by positivity

theorem lt_iff (a b : Decimal) : a < b ↔ a.toRat < b.toRat := by
  rw [toRat, toRat, div_lt_div_iff₀ (ten_pow_pos _) (ten_pow_pos _)]
  show Lt a b ↔ _
  rw [Lt]
  exact_mod_cast Iff.rfl

theorem le_iff (a b : Decimal) : a ≤ b ↔ a.toRat ≤ b.toRat := by
  rw [toRat, toRat, div_le_div_iff₀ (ten_pow_pos _) (ten_pow_pos _)]
  show Le a b ↔ _
  rw [Le]
  exact_mod_cast Iff.rfl

@[simp] theorem toRat_ofNat (n : Nat) : (no_index (OfNat.ofNat n : Decimal)).toRat = n := by
  show ((n : Int) : ℚ) / 10 ^ 0 = n
  simp

@[simp] theorem toRat_add (a b : Decimal) : (a + b).toRat = a.toRat + b.toRat := by
  show ((a.mantissa * 10 ^ b.exponent + b.mantissa * 10 ^ a.exponent : Int) : ℚ) /
    10 ^ (a.exponent + b.exponent) = _
  rw [toRat, toRat, div_add_div _ _ (ten_pow_pos _).ne' (ten_pow_pos _).ne', pow_add]
  push_cast; ring

@[simp] theorem toRat_mul (a b : Decimal) : (a * b).toRat = a.toRat * b.toRat := by
  show ((a.mantissa * b.mantissa : Int) : ℚ) / 10 ^ (a.exponent + b.exponent) = _
  rw [toRat, toRat, div_mul_div_comm, pow_add]
  push_cast; rfl

@[simp] theorem toRat_pow (a : Decimal) (k : Nat) : (a ^ k).toRat = a.toRat ^ k := by
  show ((a.mantissa ^ k : Int) : ℚ) / 10 ^ (a.exponent * k) = _
  rw [toRat, div_pow, pow_mul]
  push_cast; rfl

@[simp] theorem toRat_abs (a : Decimal) : a.abs.toRat = |a.toRat| := by
  rw [abs, toRat, toRat, abs_div, abs_of_pos (ten_pow_pos _)]
  simp

theorem toRat_pyMin (a b : Decimal) : (pyMin a b).toRat = min a.toRat b.toRat := by
  rw [pyMin]
  split_ifs with h
  · rw [lt_iff] at h; rw [min_eq_right h.le]
  · rw [lt_iff, not_lt] at h; rw [min_eq_left h]

end Decimal

/-! ## §2 — exceptions -/

/-- `HTTPFailure` (lines 14–40): the error `_request` raises for an HTTP error reply. -/
structure HTTPFailure where
  status : Nat
  method : String
  path : String
  headers : List (String × String)
  bodyText : Option String
  errorCode : Json
  normalizedCode : Json
  normalizedRetryable : Json
  retryAfter : Option String
  requestId : Option String
  deriving DecidableEq, Repr

/-- A raised Python exception: an `HTTPFailure`, or any other exception, by its class name and
its `str()`. -/
inductive Exn where
  | http (e : HTTPFailure)
  | error (cls : String) (msg : String)
  deriving DecidableEq, Repr

/-- `RuntimeError(msg)`. -/
def runtimeError (msg : String) : Exn := .error "RuntimeError" msg

/-- `2^63` ns, in seconds: the least length `time.sleep` cannot convert to a `_PyTime_t`. -/
def sleepLimit : Decimal := ⟨9223372036854775808, 9⟩

/-- The `OverflowError` `time.sleep` raises for a length it cannot convert (CPython 3.12's
text). -/
def sleepOverflow : Exn := .error "OverflowError" "timestamp too large to convert to C _PyTime_t"

/-- `str(e)`, what an f-string prints for an exception; `HTTPFailure` passes
`f"HTTP {status} {method} {path}"` to its base class. -/
def Exn.str : Exn → String
  | .http e => s!"HTTP {e.status} {e.method} {e.path}"
  | .error _ msg => msg

/-- `str(x)` of an optional value: `None` prints as `None`. -/
def optStr : Option String → String
  | some s => s
  | none => "None"

/-! ## §3 — HTTP exchanges -/

/-- The body `_request` sends: none, `json.dumps(json_body).encode("utf-8")` (kept as the value
it encodes), or raw bytes. -/
inductive Payload where
  | none
  | json (v : Json)
  | bytes (b : List UInt8)
  deriving DecidableEq, Repr

/-- The `urllib.request.Request` that `_request` builds, and its `timeout`. -/
structure Request where
  method : String
  url : String
  headers : List (String × String)
  data : Payload
  timeout : Nat
  deriving DecidableEq, Repr

/-- A body as read from the wire, with what the code's decoders make of it. -/
structure Body where
  /-- `resp.read()` -/
  bytes : List UInt8
  /-- `bytes.decode("utf-8", errors="replace")` -/
  text : String
  /-- `json.loads(bytes.decode("utf-8"))`, or the exception it raises -/
  json : Except Exn Json
  /-- `json.loads(text)`, or the exception it raises -/
  textJson : Except Exn Json

/-- The body of a JSON document `v`, as a server sends it. -/
def Body.ofJson (v : Json) : Body :=
  ⟨Py.utf8 (dumps v), dumps v, .ok v, .ok v⟩

/-- An empty body. -/
def Body.empty : Body :=
  let e := Exn.error "JSONDecodeError" "Expecting value: line 1 column 1 (char 0)"
  ⟨[], "", .error e, .error e⟩

/-- How `urlopen` ends: a response, an `HTTPError` (status, the reason phrase of its status
line, headers when present, body), a `URLError` (its `str()`), or any other exception, which
propagates unchanged. -/
inductive Reply where
  | response (status : Nat) (headers : List (String × String)) (body : Body)
  | httpError (code : Nat) (reason : String) (headers : Option (List (String × String))) (body : Body)
  | urlError (text : String)
  | raised (e : Exn)

/-! ## §4 — the outside, and computations in it -/

/-- The outside of the runner process, as functions of its state `σ`. -/
structure Env (σ : Type) where
  /-- `os.environ.get(name)` -/
  environ : String → Option String
  /-- `urllib.request.urlopen(request)` and the reading of its reply -/
  exchange : Request → σ → Reply × σ
  /-- `time.time()` -/
  time : σ → Decimal × σ
  /-- `time.sleep(d)` for a length it accepts -/
  sleep : Decimal → σ → σ
  /-- `uuid.uuid4().hex` -/
  uuidHex : σ → String × σ

/-- The outside's state and the lines printed so far. -/
structure World (σ : Type) where
  ext : σ
  out : List String
  deriving DecidableEq, Repr

/-- How a computation ends. -/
inductive Outcome (α : Type) where
  | ok (a : α)
  | error (e : Exn)
  | diverge
  deriving DecidableEq, Repr

/-- How an outcome continues. -/
def Outcome.bind {α β : Type} : Outcome α → (α → Outcome β) → Outcome β
  | .ok a, f => f a
  | .error e, _ => .error e
  | .diverge, _ => .diverge

/-- A computation of the runner. -/
def Run (σ α : Type) : Type := Env σ → World σ → Outcome α × World σ

namespace Run

variable {σ α β : Type}

instance : Monad (Run σ) where
  pure a := fun _ w => (.ok a, w)
  bind m f := fun E w =>
    match m E w with
    | (.ok a, w') => f a E w'
    | (.error e, w') => (.error e, w')
    | (.diverge, w') => (.diverge, w')

/-- `try: m except Exception as e: h(e)`. -/
protected def tryCatch (m : Run σ α) (h : Exn → Run σ α) : Run σ α := fun E w =>
  match m E w with
  | (.error e, w') => h e E w'
  | r => r

instance : MonadExceptOf Exn (Run σ) := ⟨fun e _ w => (.error e, w), Run.tryCatch⟩

/-- A loop that has used up its iterations. -/
def diverge : Run σ α := fun _ w => (.diverge, w)

/-- A continuation that only computes: it leaves the world as it is. -/
theorem bind_of_stateless {m : Run σ α} {f : α → Run σ β} {g : α → Outcome β} {E : Env σ}
    {w w' : World σ} {o : Outcome α} (hf : ∀ a w, f a E w = (g a, w)) (h : m E w = (o, w')) :
    (m >>= f) E w = (o.bind g, w') := by
  show (match m E w with
    | (.ok a, w') => f a E w'
    | (.error e, w') => (.error e, w')
    | (.diverge, w') => (.diverge, w')) = _
  rw [h]
  cases o <;> simp [Outcome.bind, hf]

@[simp] theorem pure_apply (a : α) (E : Env σ) (w : World σ) :
    (pure a : Run σ α) E w = (.ok a, w) := rfl

@[simp] theorem bind_apply (m : Run σ α) (f : α → Run σ β) (E : Env σ) (w : World σ) :
    (m >>= f) E w = match m E w with
      | (.ok a, w') => f a E w'
      | (.error e, w') => (.error e, w')
      | (.diverge, w') => (.diverge, w') := rfl

@[simp] theorem throw_apply (e : Exn) (E : Env σ) (w : World σ) :
    (throw e : Run σ α) E w = (.error e, w) := rfl

@[simp] theorem tryCatch_apply (m : Run σ α) (h : Exn → Run σ α) (E : Env σ) (w : World σ) :
    (tryCatch m h : Run σ α) E w = match m E w with
      | (.error e, w') => h e E w'
      | r => r := rfl

@[simp] theorem diverge_apply (E : Env σ) (w : World σ) : (diverge : Run σ α) E w = (.diverge, w) :=
  rfl

/-- A result is determined by its outcome and the outside state it ends in; the lines printed
ride along. -/
theorem eq_of_fst_ext {r : Outcome α × World σ} {o : Outcome α} {s : σ} (h₁ : r.1 = o)
    (h₂ : r.2.ext = s) : r = (o, ⟨s, r.2.out⟩) := by
  obtain ⟨o', ⟨s', out⟩⟩ := r
  simp only at h₁ h₂
  rw [h₁, h₂]

theorem bind_of_ok {m : Run σ α} {E : Env σ} {w w' : World σ} {a : α} (h : m E w = (.ok a, w'))
    (f : α → Run σ β) : (m >>= f) E w = f a E w' := by
  simp [h]

theorem bind_of_error {m : Run σ α} {E : Env σ} {w w' : World σ} {e : Exn}
    (h : m E w = (.error e, w')) (f : α → Run σ β) : (m >>= f) E w = (.error e, w') := by
  simp [h]

end Run

/-! ## §5 — the primitives -/

section Primitives

variable {σ : Type}

/-- `log(msg)` (lines 43–44): `print(msg, flush=True)`. -/
def log (msg : String) : Run σ Unit := fun _ w => (.ok (), { w with out := w.out ++ [msg] })

/-- `os.environ.get(name)`. -/
def getenv (name : String) : Run σ (Option String) := fun E w => (.ok (E.environ name), w)

/-- `time.time()`. -/
def time : Run σ Decimal := fun E w => ((.ok (E.time w.ext).1), { w with ext := (E.time w.ext).2 })

/-- `time.sleep(d)`: the length is first converted to nanoseconds in a signed 64-bit
`_PyTime_t`, and one of `2^63` ns or more either way raises `OverflowError`; then a negative
length raises `ValueError`. -/
def sleep (d : Decimal) : Run σ Unit := fun E w =>
  if sleepLimit ≤ d ∨ d < ⟨-9223372036854775808, 9⟩ then (.error sleepOverflow, w)
  else if d < 0 then (.error (.error "ValueError" "sleep length must be non-negative"), w)
  else (.ok (), { w with ext := E.sleep d w.ext })

/-- `urllib.request.urlopen(request)`: one exchange with the server. -/
def urlopen (r : Request) : Run σ Reply := fun E w =>
  (.ok (E.exchange r w.ext).1, { w with ext := (E.exchange r w.ext).2 })

/-- `uuid.uuid4().hex`. -/
def uuid4Hex : Run σ String := fun E w => (.ok (E.uuidHex w.ext).1, { w with ext := (E.uuidHex w.ext).2 })

/-- `'`, for the quoted type names of Python's messages. -/
def squote : String := (Char.ofNat 39).toString

/-- The `AttributeError` that `v.get` raises on a value that is not a dict. -/
def getAttributeError (v : Json) : Exn :=
  .error "AttributeError" (squote ++ typeName v ++ squote ++ " object has no attribute " ++ squote ++
    "get" ++ squote)

/-- `v.get(k)`: a dict's value (`None` when absent); any other value has no `get`. -/
def pyGet (v : Json) (k : String) : Run σ Json :=
  match v with
  | .obj d => pure (Dict.get d k)
  | v => throw (getAttributeError v)

/-- `v[k]` for a `str` key. -/
def pyIndex (v : Json) (k : String) : Run σ Json :=
  match v with
  | .obj d => if Dict.contains d k then pure (Dict.get d k) else throw (.error "KeyError" (pyQuote k))
  | .arr _ => throw (.error "TypeError" "list indices must be integers or slices, not str")
  | .str _ => throw (.error "TypeError" ("string indices must be integers, not " ++ squote ++ "str" ++ squote))
  | v => throw (.error "TypeError" (squote ++ typeName v ++ squote ++ " object is not subscriptable"))

@[simp] theorem log_apply (msg : String) (E : Env σ) (w : World σ) :
    log msg E w = (.ok (), { w with out := w.out ++ [msg] }) := rfl

@[simp] theorem time_apply (E : Env σ) (w : World σ) :
    time E w = (.ok (E.time w.ext).1, { w with ext := (E.time w.ext).2 }) := rfl

@[simp] theorem urlopen_apply (r : Request) (E : Env σ) (w : World σ) :
    urlopen r E w = (.ok (E.exchange r w.ext).1, { w with ext := (E.exchange r w.ext).2 }) := rfl

@[simp] theorem getenv_apply (name : String) (E : Env σ) (w : World σ) :
    getenv name E w = (.ok (E.environ name), w) := rfl

@[simp] theorem pyGet_obj (d : Dict) (k : String) : (pyGet (.obj d) k : Run σ Json) = pure (Dict.get d k) :=
  rfl

@[simp] theorem pyIndex_cons_self (k : String) (v : Json) (d : Dict) :
    (pyIndex (.obj ((k, v) :: d)) k : Run σ Json) = pure v := by
  simp [pyIndex, Dict.contains]

/-- A length from `0` up to `2^63` ns is slept. -/
theorem sleep_apply_of_nonneg {d : Decimal} (hd : ¬ d < 0) (hs : d < sleepLimit) (E : Env σ)
    (w : World σ) : sleep d E w = (.ok (), { w with ext := E.sleep d w.ext }) := by
  have hlow : ¬ d < ⟨-9223372036854775808, 9⟩ := fun h => hd (by
    rw [Decimal.lt_iff] at h ⊢
    have : (⟨-9223372036854775808, 9⟩ : Decimal).toRat < 0 := by norm_num [Decimal.toRat]
    simpa using h.trans this)
  have hhigh : ¬ sleepLimit ≤ d := fun h =>
    not_lt.mpr ((Decimal.le_iff _ _).mp h) ((Decimal.lt_iff _ _).mp hs)
  simp [sleep, hd, hlow, hhigh]

/-- `time.sleep` sleeps, or raises and changes nothing. -/
theorem sleep_cases (d : Decimal) (E : Env σ) (w : World σ) :
    sleep d E w = (.ok (), { w with ext := E.sleep d w.ext }) ∨ ∃ e, sleep d E w = (.error e, w) := by
  unfold sleep
  split_ifs <;> simp

/-- A length of `2^63` ns or more raises `OverflowError` and changes nothing. -/
theorem sleep_apply_of_le {d : Decimal} (hs : sleepLimit ≤ d) (E : Env σ) (w : World σ) :
    sleep d E w = (.error sleepOverflow, w) := by
  simp [sleep, hs]

end Primitives

end S3Desk.Runner
