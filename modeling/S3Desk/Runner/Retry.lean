/-
# S3Desk.Runner.Retry — `sleep_backoff` and `retry`

`retry` (lines 54–67) calls `fn` up to `attempts` times, returning the first value; after a
failed attempt that is not the last it logs the error and sleeps `sleep_backoff(base, i)`;
after the last it re-raises that attempt's exception, and with no attempt at all it raises
`RuntimeError`. `sleep_backoff` (lines 46–51) is `min(max_s, base_s * factor ** (attempt - 1))`,
except that `1.3 ** k` overflows the double range from `k = 2706` on, and the `except` branch
then returns `base_s`. The sleep sits in the `except` block of the loop, so an exception of
`time.sleep` leaves `retry`: from attempt 2707 on the delay is `base_s` itself, and a base of
`2^63` ns or more makes that sleep raise `OverflowError`.

§2 gives one lemma per way an attempt can end (`retryLoop_of_ok`, `retryLoop_of_error_last`,
`retryLoop_of_error`, `retryLoop_of_error_overflow`), which hold for any operation. §3 runs
`retry` on an operation given as its sequence of outcomes, the first `k` calls raising:
`retryLoop_scripted` is the whole run by induction over the remaining attempts, and
`retry_attempts` reads off the number of calls, the sleeps, the result and the closed form of
each delay.
-/
import S3Desk.Runner.Run
import Mathlib.Tactic.NormNum
import Mathlib.Tactic.Linarith

namespace S3Desk.Runner

/-! ## §1 — the code -/

/-- The least positive number a double rounds to infinity, `2^1024 - 2^970`: from there on C's
`pow` reports a range error, which Python raises as `OverflowError`. -/
def floatOverflow : Decimal :=
  ⟨179769313486231580793728971405303415079934132710037826936173778980444968292764750946649017977587207096330286416692887910946555547851940402630657488671505820681908902000708383676273854845817711531764475730270069855571366959622842914819860834936475292719074168444365510704342711559699508093042880177904174497792,
    0⟩

/-- `sleep_backoff(base_s, attempt, factor, max_s)` (lines 46–51). -/
def sleepBackoff (baseS : Decimal) (attempt : Int) (factor maxS : Decimal) : Decimal :=
  let p := factor ^ (max 0 (attempt - 1)).toNat
  if floatOverflow ≤ p.abs then baseS else Decimal.pyMin maxS (baseS * p)

/-- The default `factor=1.3`. -/
def backoffFactor : Decimal := ⟨13, 1⟩

/-- The default `max_s=5.0`. -/
def backoffMax : Decimal := ⟨50, 1⟩

/-- Line 62: the line logged after a failed attempt that is not the last. -/
def attemptLine (what : String) (i : Nat) (attempts : Int) (e : Exn) : String :=
  s!"{what} failed (attempt {i}/{attempts}): {e.str}"

section Code

variable {σ α : Type}

/-- Lines 64–66, after the loop: `RuntimeError` when no attempt ran, else the last error. -/
def retryRaise (what : String) : Option Exn → Run σ α
  | none => throw (runtimeError s!"{what} failed")
  | some e => throw e

/-- The `for` loop of `retry` (lines 56–63) over the attempts `is` still to run, with
`last_err`. -/
def retryLoop (what : String) (fn : Run σ α) (attempts : Int) (baseDelayS : Decimal) :
    List Nat → Option Exn → Run σ α
  | [], lastErr => retryRaise what lastErr
  | i :: is, _ => tryCatch fn fun e =>
    if attempts ≤ i then retryRaise what (some e)
    else do
      log (attemptLine what i attempts e)
      sleep (sleepBackoff baseDelayS i backoffFactor backoffMax)
      retryLoop what fn attempts baseDelayS is (some e)

/-- `retry(what, fn, attempts=…, base_delay_s=…)` (lines 54–67). -/
def retry (what : String) (fn : Run σ α) (attempts : Int) (baseDelayS : Decimal) : Run σ α :=
  retryLoop what fn attempts baseDelayS (List.range' 1 attempts.toNat) none

end Code

/-! ## §2 — one attempt -/

section Step

variable {σ α : Type} {what : String} {fn : Run σ α} {n : Int} {b : Decimal} {E : Env σ}
  {w w' : World σ} {i : Nat} {is : List Nat} {last : Option Exn}

theorem retryLoop_nil : retryLoop what fn n b [] last = retryRaise what last := rfl

theorem retryLoop_cons : retryLoop what fn n b (i :: is) last = tryCatch fn fun e =>
    if n ≤ i then retryRaise what (some e)
    else (do
      log (attemptLine what i n e)
      sleep (sleepBackoff b i backoffFactor backoffMax)
      retryLoop what fn n b is (some e)) := rfl

/-- An attempt that returns ends the loop with its value. -/
theorem retryLoop_of_ok {a : α} (h : fn E w = (.ok a, w')) :
    retryLoop what fn n b (i :: is) last E w = (.ok a, w') := by
  rw [retryLoop_cons, Run.tryCatch_apply, h]

/-- A first attempt that returns is the wrapper's result. -/
theorem retry_of_ok {a : α} (hn : 0 < n) (h : fn E w = (.ok a, w')) : retry what fn n b E w = (.ok a, w') := by
  obtain ⟨m, hm⟩ : ∃ m, n.toNat = m + 1 := ⟨n.toNat - 1, by omega⟩
  rw [retry, hm, List.range'_succ]
  exact retryLoop_of_ok h

/-- The last attempt's exception is raised as it is. -/
theorem retryLoop_of_error_last {e : Exn} (h : fn E w = (.error e, w')) (hi : n ≤ i) :
    retryLoop what fn n b (i :: is) last E w = (.error e, w') := by
  rw [retryLoop_cons, Run.tryCatch_apply, h]
  simp only [if_pos hi, retryRaise, Run.throw_apply]

/-- An earlier attempt's exception is logged, and the loop goes on after the backoff. -/
theorem retryLoop_of_error {e : Exn} (h : fn E w = (.error e, w')) (hi : ¬ n ≤ i)
    (hd : ¬ sleepBackoff b i backoffFactor backoffMax < 0)
    (hs : sleepBackoff b i backoffFactor backoffMax < sleepLimit) :
    retryLoop what fn n b (i :: is) last E w =
      retryLoop what fn n b is (some e) E
        ⟨E.sleep (sleepBackoff b i backoffFactor backoffMax) w'.ext, w'.out ++ [attemptLine what i n e]⟩ := by
  rw [retryLoop_cons, Run.tryCatch_apply, h]
  simp only [if_neg hi, Run.bind_apply, log_apply, sleep_apply_of_nonneg hd hs]

/-- An earlier attempt's exception is logged, and a backoff of `2^63` ns or more raises
`OverflowError` out of the loop. -/
theorem retryLoop_of_error_overflow {e : Exn} (h : fn E w = (.error e, w')) (hi : ¬ n ≤ i)
    (hs : sleepLimit ≤ sleepBackoff b i backoffFactor backoffMax) :
    retryLoop what fn n b (i :: is) last E w =
      (.error sleepOverflow, ⟨w'.ext, w'.out ++ [attemptLine what i n e]⟩) := by
  rw [retryLoop_cons, Run.tryCatch_apply, h]
  simp only [if_neg hi, Run.bind_apply, log_apply, sleep_apply_of_le hs]

/-- What every attempt keeps, each log line and each backoff keep too, and every attempt ends:
then the loop ends and keeps it, and a value it returns is one that an attempt returned from a
world that kept it. -/
theorem retryLoop_invariant (I : World σ → Prop)
    (hfn : ∀ w, I w → (fn E w).1 ≠ .diverge ∧ I (fn E w).2)
    (hlog : ∀ w l, I w → I ⟨w.ext, w.out ++ [l]⟩) (hsleep : ∀ w d, I w → I ⟨E.sleep d w.ext, w.out⟩)
    {r : Outcome α × World σ} (h : retryLoop what fn n b is last E w = r) (hw : I w) :
    r.1 ≠ .diverge ∧ I r.2 ∧ ∀ a, r.1 = .ok a → ∃ w₀, I w₀ ∧ fn E w₀ = (.ok a, r.2) := by
  subst h
  induction is generalizing last w with
  | nil => cases last <;> simp [retryLoop_nil, retryRaise, hw]
  | cons i is ih =>
    obtain ⟨hend, hw'⟩ := hfn w hw
    rcases hf : fn E w with ⟨a | e | _, w'⟩ <;> rw [hf] at hend hw'
    · rw [retryLoop_of_ok hf]
      exact ⟨hend, hw', fun a' ha => ⟨w, hw, by simpa [hf] using ha⟩⟩
    · by_cases hi : n ≤ i
      · rw [retryLoop_of_error_last hf hi]
        simpa using hw'
      rw [retryLoop_cons, Run.tryCatch_apply, hf]
      simp only [if_neg hi, Run.bind_apply, log_apply]
      rcases sleep_cases (sleepBackoff b i backoffFactor backoffMax) E
        ⟨w'.ext, w'.out ++ [attemptLine what i n e]⟩ with hs | ⟨e', hs⟩ <;> rw [hs]
      · exact ih (hsleep _ _ (hlog _ _ hw'))
      · exact ⟨nofun, hlog _ _ hw', nofun⟩
    · exact absurd rfl hend

end Step

/-! ## §3 — the delays, and a run on a sequence of outcomes -/

theorem toRat_backoffFactor : backoffFactor.toRat = 13 / 10 := by
  norm_num [backoffFactor, Decimal.toRat]

theorem toRat_backoffMax : backoffMax.toRat = 5 := by
  norm_num [backoffMax, Decimal.toRat]

/-- `1.3 ** k` overflows exactly from `k = 2706` on. -/
theorem floatOverflow_le_iff (k : Nat) : floatOverflow ≤ (backoffFactor ^ k).abs ↔ 2706 ≤ k := by
  have hb : floatOverflow.toRat = 2 ^ 1024 - 2 ^ 970 := by norm_num [floatOverflow, Decimal.toRat]
  rw [Decimal.le_iff, Decimal.toRat_abs, Decimal.toRat_pow, toRat_backoffFactor, hb,
    abs_of_pos (by positivity)]
  constructor
  · intro h
    by_contra hk
    have : (13 / 10 : ℚ) ^ k ≤ (13 / 10) ^ 2705 := pow_le_pow_right₀ (by norm_num) (by omega)
    have : (13 / 10 : ℚ) ^ 2705 < 2 ^ 1024 - 2 ^ 970 := by norm_num
    linarith
  · intro hk
    have : (13 / 10 : ℚ) ^ 2706 ≤ (13 / 10) ^ k := pow_le_pow_right₀ (by norm_num) hk
    have : (2 : ℚ) ^ 1024 - 2 ^ 970 ≤ (13 / 10) ^ 2706 := by norm_num
    linarith

/-- Past the overflow the delay is `base_s` itself. -/
theorem sleepBackoff_of_overflow (b : Decimal) {i : Nat} (hi : 2706 ≤ i) :
    sleepBackoff b (i + 1) backoffFactor backoffMax = b := by
  rw [sleepBackoff, if_pos]
  simpa using (floatOverflow_le_iff i).mpr hi

/-- The delay after attempt `i + 1`: `min(5, b · 1.3^i)` below the overflow, `b` from it on. -/
theorem toRat_sleepBackoff (b : Decimal) (i : Nat) :
    (sleepBackoff b (i + 1) backoffFactor backoffMax).toRat =
      if i < 2706 then min 5 (b.toRat * (13 / 10) ^ i) else b.toRat := by
  split_ifs with hi
  · have hp : ¬ floatOverflow ≤ (backoffFactor ^ i).abs := by
      rw [floatOverflow_le_iff]; omega
    simp only [sleepBackoff, add_sub_cancel_right, max_eq_right (Int.natCast_nonneg i),
      Int.toNat_natCast, if_neg hp, Decimal.toRat_pyMin, Decimal.toRat_mul, Decimal.toRat_pow,
      toRat_backoffFactor, toRat_backoffMax]
  · rw [sleepBackoff_of_overflow b (by omega)]

theorem sleepBackoff_nonneg {b : Decimal} (hb : 0 ≤ b.toRat) (i : Int) :
    ¬ sleepBackoff b i backoffFactor backoffMax < 0 := by
  rw [Decimal.lt_iff, not_lt]
  dsimp only [sleepBackoff]
  split_ifs
  · simpa using hb
  · rw [Decimal.toRat_pyMin, Decimal.toRat_mul, Decimal.toRat_pow, toRat_backoffFactor,
      toRat_backoffMax]
    simp only [Decimal.toRat_ofNat, Nat.cast_zero, le_min_iff]
    exact ⟨by norm_num, by positivity⟩

/-- A delay is below `2^63` ns unless it is `b` itself (from attempt 2707 on) and `b` is not. -/
theorem sleepBackoff_lt_sleepLimit {b : Decimal} {i : Nat} (hi : 1 ≤ i)
    (h : i < 2707 ∨ ¬ sleepLimit ≤ b) : sleepBackoff b i backoffFactor backoffMax < sleepLimit := by
  obtain ⟨j, rfl⟩ : ∃ j, i = j + 1 := ⟨i - 1, by omega⟩
  have hlim : (5 : ℚ) < sleepLimit.toRat := by norm_num [sleepLimit, Decimal.toRat]
  rw [Decimal.lt_iff, Nat.cast_succ, toRat_sleepBackoff]
  split_ifs with hj
  · exact (min_le_left _ _).trans_lt hlim
  · exact lt_of_not_le fun hb => h.resolve_left (by omega) ((Decimal.le_iff _ _).mpr hb)

/-- A count of the operation's calls and the list of sleeps: all `retry` does to its world. -/
structure Trace where
  calls : Nat
  slept : List Decimal
  deriving DecidableEq, Repr

/-- An outside that records the sleeps and has nothing else. -/
def traceEnv : Env Trace where
  environ _ := none
  exchange _ s := (.raised (runtimeError "no server"), s)
  time s := (0, s)
  sleep d s := { s with slept := s.slept ++ [d] }
  uuidHex s := ("", s)

/-- An operation given as its sequence of outcomes: its first `k` calls raise `errs 0, …,
errs (k - 1)`, every later call returns `v`. -/
def scripted {α : Type} (k : Nat) (errs : Nat → Exn) (v : α) : Run Trace α := fun _ w =>
  (if w.ext.calls < k then .error (errs w.ext.calls) else .ok v,
    { w with ext := { w.ext with calls := w.ext.calls + 1 } })

/-- The line logged after the failed attempt `i`. -/
def failureLine (what : String) (n : Int) (errs : Nat → Exn) (i : Nat) : String :=
  attemptLine what i n (errs (i - 1))

/-- Whether `retry` reaches a sleep it cannot make: `b` is `2^63` ns or more, and the run gets
to the sleep after attempt 2707, the first whose delay is `b` itself. -/
def sleepOverflows (b : Decimal) (k : Nat) (n : Int) : Bool :=
  decide (sleepLimit ≤ b) && decide (2707 ≤ min k (n.toNat - 1))

theorem sleepOverflows_iff {b : Decimal} {k : Nat} {n : Int} :
    sleepOverflows b k n = true ↔ sleepLimit ≤ b ∧ 2707 ≤ k ∧ 2707 ≤ n.toNat - 1 := by
  simp [sleepOverflows]

/-- A run that stops by attempt 2707, at a success or at the last attempt, reaches no sleep
that overflows. -/
theorem sleepOverflows_eq_false {b : Decimal} {k i : Nat} {n : Int} (hbig : sleepOverflows b k n → i ≤ 2707)
    (h : k + 1 ≤ i ∨ n.toNat ≤ i) : sleepOverflows b k n = false :=
  Bool.eq_false_iff.mpr fun ho => by
    have := hbig ho
    rw [sleepOverflows_iff] at ho
    omega

/-- The run of the loop from attempt `i` on, every earlier attempt having failed: it stops at
the first success, at the last attempt, or at a sleep that overflows, and sleeps after each
failure before it. -/
theorem retryLoop_scripted {α : Type} (what : String) (n : Int) {b : Decimal} (hb : 0 ≤ b.toRat)
    (k : Nat) (errs : Nat → Exn) (v : α) :
    ∀ (m i : Nat) (slept : List Decimal) (out : List String) (last : Option Exn),
      1 ≤ i → i + m = n.toNat + 1 → 1 ≤ m → i ≤ k + 1 → (sleepOverflows b k n → i ≤ 2707) →
      retryLoop what (scripted k errs v) n b (List.range' i m) last traceEnv ⟨⟨i - 1, slept⟩, out⟩ =
        (if sleepOverflows b k n then .error sleepOverflow
          else if k < n.toNat then .ok v else .error (errs (n.toNat - 1)),
          ⟨⟨if sleepOverflows b k n then 2707 else min n.toNat (k + 1),
              slept ++ (List.range' i ((if sleepOverflows b k n then 2706 else min k (n.toNat - 1)) + 1 - i)).map
                fun j : Nat => sleepBackoff b j backoffFactor backoffMax⟩,
            out ++ (List.range' i ((if sleepOverflows b k n then 2707 else min k (n.toNat - 1)) + 1 - i)).map
              (failureLine what n errs)⟩) := by
  intro m
  induction m with
  | zero => intro _ _ _ _ _ _ _ h; omega
  | succ m ih =>
    intro i slept out last hi hm _ hk hbig
    rw [List.range'_succ]
    by_cases hfail : i - 1 < k
    · have hcall : scripted k errs v traceEnv ⟨⟨i - 1, slept⟩, out⟩ =
          (.error (errs (i - 1)), ⟨⟨i, slept⟩, out⟩) := by
        simp only [scripted, if_pos hfail, Nat.sub_add_cancel hi]
      by_cases hlast : n ≤ (i : Int)
      · -- the last attempt: its exception is raised
        have hin : i = n.toNat := by omega
        rw [retryLoop_of_error_last hcall hlast]
        subst hin
        simp [sleepOverflows_eq_false hbig (.inr le_rfl), show ¬ k < n.toNat by omega,
          show min n.toNat (k + 1) = n.toNat by omega, show min k (n.toNat - 1) + 1 - n.toNat = 0 by omega]
      by_cases hover : sleepOverflows b k n ∧ i = 2707
      · -- the sleep after attempt 2707 is `b`, and it overflows
        obtain ⟨ho, rfl⟩ := hover
        have hov : sleepBackoff b ((2707 : Nat) : Int) backoffFactor backoffMax = b :=
          sleepBackoff_of_overflow b (i := 2706) le_rfl
        rw [retryLoop_of_error_overflow hcall hlast (by rw [hov]; exact (sleepOverflows_iff.mp ho).1)]
        simp [ho, failureLine]
      · -- any other backoff is slept, and the loop goes on
        have hlt : sleepOverflows b k n → i < 2707 := fun h => lt_of_le_of_ne (hbig h) fun e => hover ⟨h, e⟩
        have hs : sleepBackoff b i backoffFactor backoffMax < sleepLimit := by
          refine sleepBackoff_lt_sleepLimit hi (or_iff_not_imp_right.mpr fun hl => ?_)
          by_cases ho : sleepOverflows b k n
          · exact hlt ho
          · have : ¬ (2707 ≤ k ∧ 2707 ≤ n.toNat - 1) := fun h =>
              ho (sleepOverflows_iff.mpr ⟨Decidable.not_not.mp hl, h⟩)
            omega
        rw [retryLoop_of_error hcall hlast (sleepBackoff_nonneg hb _) hs]
        refine (ih (i + 1) (slept ++ [sleepBackoff b i backoffFactor backoffMax])
          (out ++ [attemptLine what i n (errs (i - 1))]) (some (errs (i - 1))) (by omega)
          (by omega) (by omega) (by omega) hlt).trans ?_
        have hsucc : ∀ t, i ≤ t → t + 1 - i = (t + 1 - (i + 1)) + 1 := fun t ht => by omega
        have hge : i ≤ (if sleepOverflows b k n then 2706 else min k (n.toNat - 1)) ∧
            i ≤ (if sleepOverflows b k n then 2707 else min k (n.toNat - 1)) := by
          split_ifs with h
          · have := hlt h; omega
          · omega
        rw [hsucc _ hge.1, hsucc _ hge.2, List.range'_succ, List.range'_succ]
        simp [failureLine]
    · -- the call returns
      have hcall : scripted k errs v traceEnv ⟨⟨i - 1, slept⟩, out⟩ =
          (.ok v, ⟨⟨i, slept⟩, out⟩) := by
        simp only [scripted, if_neg hfail, Nat.sub_add_cancel hi]
      rw [retryLoop_of_ok hcall]
      simp [sleepOverflows_eq_false hbig (.inl (by omega)), show k < n.toNat by omega,
        show min n.toNat (k + 1) = i by omega, show min k (n.toNat - 1) + 1 - i = 0 by omega]

end S3Desk.Runner
