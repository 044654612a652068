/-
# S3Desk.Mime — a `multipart/form-data` body as RFC 2046 reads it

The reader the runner's uploads are written for, stated from the standard and not from any
code of the repository: the body grammar of RFC 2046 §5.1.1 (dash-boundary, delimiters
`CRLF "--" boundary`, transport padding, the close-delimiter, preamble and epilogue), the
header fields of each body part with their unfolding, and the `Content-Disposition` value with
its parameters, each a token or a quoted string with quoted pairs. It reads bytes; each loop
that is not structural carries the length of its input as fuel, and every round consumes a
byte.

§1 is the search for a delimiter and the list facts under it: a delimiter whose first byte does
not recur in it (CR here) is found exactly where it was written, whatever comes before, as long
as it does not occur there. §5 writes the framing of §2 for a list of parts and proves that the
reader gives every part back.

Boundary. The reader skips no comments in structured fields, and lets the bytes from 128 up
through in quoted strings, where RFC 822 has ASCII only: a file name is sent as UTF-8.
-/
import S3Desk.PyText
import Mathlib.Data.List.Infix

namespace S3Desk.Mime

/-! ## §1 — finding a delimiter -/

/-- `CR LF`. -/
def crlf : List UInt8 := [13, 10]

/-- The first occurrence of `pat` in `bs`: the bytes before it and the bytes after it. -/
def breakOn (pat : List UInt8) : List UInt8 → Option (List UInt8 × List UInt8)
  | [] => if pat.isPrefixOf [] then some ([], []) else none
  | b :: bs =>
    if pat.isPrefixOf (b :: bs) then some ([], (b :: bs).drop pat.length)
    else (breakOn pat bs).map fun p => (b :: p.1, p.2)

section Search

variable {α : Type} {a c : α} {q r X Z : List α}

/-- A prefix that does not hold `a` ends before it. -/
theorem prefix_of_prefix_append_cons (ha : a ∉ q) (h : q <+: X ++ a :: Z) : q <+: X := by
  rw [List.prefix_iff_eq_take, List.take_append_eq_append_take] at h
  by_cases hq : q.length ≤ X.length
  · rw [Nat.sub_eq_zero_of_le hq, List.take_zero, List.append_nil] at h
    exact h ▸ List.take_prefix _ _
  · obtain ⟨k, hk⟩ : ∃ k, q.length - X.length = k + 1 := ⟨q.length - X.length - 1, by omega⟩
    rw [hk, List.take_succ_cons] at h
    exact absurd (by rw [h]; simp) ha

/-- A pattern whose first element does not recur in it cannot start inside `X` and run on
into a copy of itself after `X`: it would be a prefix of `X`. -/
theorem prefix_of_prefix_append_self (hc : c ∉ r) (hX : X ≠ []) (h : c :: r <+: X ++ c :: Z) :
    c :: r <+: X := by
  obtain ⟨x, X, rfl⟩ := List.exists_cons_of_ne_nil hX
  rw [List.cons_append, List.cons_prefix_cons] at h
  obtain ⟨rfl, h⟩ := h
  exact (List.prefix_cons_inj c).mpr (prefix_of_prefix_append_cons hc h)

/-- An infix that does not hold `a` lies on one side of it. -/
theorem infix_of_infix_append_cons (ha : a ∉ q) (h : q <:+: X ++ a :: Z) : q <:+: X ∨ q <:+: Z := by
  induction X with
  | nil =>
    rcases List.infix_cons_iff.mp h with h | h
    · have hq := prefix_of_prefix_append_cons (X := []) ha h
      rw [List.prefix_nil.mp hq]
      exact .inr List.nil_infix
    · exact .inr h
  | cons x X ih =>
    rcases List.infix_cons_iff.mp h with h | h
    · exact .inl (prefix_of_prefix_append_cons ha h).isInfix
    · exact (ih h).imp_left (List.infix_cons ·)

/-- Such a pattern, found in `X ++ c :: Z`, lies in `X` or in `c :: Z`. -/
theorem infix_of_infix_append_self (hc : c ∉ r) (h : c :: r <:+: X ++ c :: Z) :
    c :: r <:+: X ∨ c :: r <:+: c :: Z := by
  induction X with
  | nil => exact .inr h
  | cons x X ih =>
    rcases List.infix_cons_iff.mp h with h | h
    · exact .inl (prefix_of_prefix_append_self hc (List.cons_ne_nil _ _) h).isInfix
    · exact (ih h).imp_left (List.infix_cons ·)

end Search

/-- The delimiter is found where it was written when it does not occur before it. -/
theorem breakOn_append {c : UInt8} {r X Z : List UInt8} (hc : c ∉ r) (hX : ¬ c :: r <:+: X) :
    breakOn (c :: r) (X ++ c :: r ++ Z) = some (X, Z) := by
  induction X with
  | nil => simp [breakOn, List.isPrefixOf_iff_prefix]
  | cons x X ih =>
    have hp : ¬ (c :: r).isPrefixOf (x :: (X ++ c :: r ++ Z)) := by
      rw [List.isPrefixOf_iff_prefix]
      intro h
      rw [show x :: (X ++ c :: r ++ Z) = (x :: X) ++ c :: (r ++ Z) by simp] at h
      exact hX (prefix_of_prefix_append_self hc (List.cons_ne_nil _ _) h).isInfix
    rw [List.cons_append, List.cons_append, breakOn, if_neg hp, ih fun h => hX (List.infix_cons h)]
    rfl

/-! ## §2 — the body (RFC 2046 §5.1.1) -/

/-- `bchars`: digits, letters, `'()+_,-./:=?` and space. -/
def isBchar (b : UInt8) : Bool :=
  let n := b.toNat
  (48 ≤ n && n ≤ 57) || (65 ≤ n && n ≤ 90) || (97 ≤ n && n ≤ 122) ||
    [39, 40, 41, 43, 95, 44, 45, 46, 47, 58, 61, 63, 32].contains n

/-- `boundary := 0*69<bchars> bcharsnospace`. -/
def validBoundary (bd : List UInt8) : Bool :=
  1 ≤ bd.length && bd.length ≤ 70 && bd.all isBchar && bd.getLast? != some 32

/-- `LWSP-char`: space or tab. -/
def isLwsp (b : UInt8) : Bool := b = 32 || b = 9

/-- `transport-padding CRLF`: the bytes after it. -/
def paddingCrlf (bs : List UInt8) : Option (List UInt8) :=
  let r := bs.dropWhile isLwsp
  if crlf.isPrefixOf r then some (r.drop 2) else none

/-- What may follow a close-delimiter: `transport-padding [CRLF epilogue]`. -/
def closeTail (bs : List UInt8) : Bool :=
  let r := bs.dropWhile isLwsp
  r.isEmpty || crlf.isPrefixOf r

/-- The body parts after the first dash-boundary line: each part ends at the next `delim`; a
delimiter followed by `--` is the close-delimiter, any other is followed by
`transport-padding CRLF` and the next part. -/
def encapsulations (delim : List UInt8) : Nat → List UInt8 → Option (List (List UInt8))
  | 0, _ => none
  | fuel + 1, bs =>
    match breakOn delim bs with
    | none => none
    | some (part, rest) =>
      if [45, 45].isPrefixOf rest then (if closeTail (rest.drop 2) then some [part] else none)
      else match paddingCrlf rest with
        | none => none
        | some rest => (encapsulations delim fuel rest).map (part :: ·)

/-- `multipart-body` with boundary `bd`: the bytes of its body parts, in order. A preamble before
the first dash-boundary is skipped. -/
def bodyParts (bd body : List UInt8) : Option (List (List UInt8)) :=
  let dash := [45, 45] ++ bd
  if !validBoundary bd then none
  else
    let first := if dash.isPrefixOf body then some (body.drop dash.length)
      else (breakOn (crlf ++ dash) body).map Prod.snd
    match first.bind paddingCrlf with
    | none => none
    | some rest => encapsulations (crlf ++ dash) (rest.length + 1) rest

/-- The framing of a body whose parts are `p :: ps`, after its first dash-boundary line: each
part is followed by `delim`, then by `CRLF` and the next part, or by the `--` that closes the
body. -/
def encapsulated (delim : List UInt8) : List UInt8 → List (List UInt8) → List UInt8
  | p, [] => p ++ delim ++ [45, 45] ++ crlf
  | p, q :: qs => p ++ delim ++ crlf ++ encapsulated delim q qs

/-- A body with boundary `bd` and the parts `p :: ps`, with no preamble and no epilogue. -/
def framed (bd p : List UInt8) (ps : List (List UInt8)) : List UInt8 :=
  [45, 45] ++ bd ++ crlf ++ encapsulated (crlf ++ [45, 45] ++ bd) p ps

theorem crlf_append (l : List UInt8) : crlf ++ l = 13 :: 10 :: l := rfl

theorem length_lt_encapsulated (delim p : List UInt8) (ps : List (List UInt8)) :
    ps.length < (encapsulated delim p ps).length := by
  induction ps generalizing p with
  | nil => simp [encapsulated, crlf]
  | cons q qs ih =>
    have := ih q
    simp only [encapsulated, crlf, List.length_append, List.length_cons]
    omega

theorem paddingCrlf_crlf (bs : List UInt8) : paddingCrlf (crlf ++ bs) = some bs := by
  simp [paddingCrlf, crlf, isLwsp, List.isPrefixOf]

/-- The reader gives back every part the writer framed, when the delimiter occurs in none of
them. -/
theorem encapsulations_encapsulated {c : UInt8} {r : List UInt8} (hc : c ∉ r) :
    ∀ (ps : List (List UInt8)) (p : List UInt8) (fuel : Nat), ps.length < fuel →
      (∀ q ∈ p :: ps, ¬ c :: r <:+: q) →
      encapsulations (c :: r) fuel (encapsulated (c :: r) p ps) = some (p :: ps) := by
  intro ps
  induction ps with
  | nil =>
    intro p fuel hf hq
    obtain ⟨fuel, rfl⟩ : ∃ f, fuel = f + 1 := ⟨fuel - 1, by omega⟩
    rw [encapsulated, List.append_assoc (p ++ c :: r), encapsulations,
      breakOn_append hc (hq p (List.mem_cons_self _ _))]
    simp [closeTail, crlf, isLwsp, List.isPrefixOf]
  | cons q qs ih =>
    intro p fuel hf hq
    obtain ⟨fuel, rfl⟩ : ∃ f, fuel = f + 1 := ⟨fuel - 1, by omega⟩
    rw [encapsulated, List.append_assoc (p ++ c :: r), encapsulations,
      breakOn_append hc (hq p (List.mem_cons_self _ _))]
    simp only [crlf_append, List.isPrefixOf]
    rw [if_neg (by decide), ← crlf_append, paddingCrlf_crlf]
    dsimp only
    rw [ih q fuel (by simp at hf; omega) fun q' hq' => hq q' (List.mem_cons_of_mem _ hq')]
    rfl

theorem not_mem_of_validBoundary {bd : List UInt8} (hbd : validBoundary bd = true) :
    (13 : UInt8) ∉ bd := fun h => by
  simp only [validBoundary, Bool.and_eq_true, List.all_eq_true] at hbd
  exact absurd (hbd.1.2 13 h) (by decide)

/-- A framed body reads back as its parts, when the boundary is valid and no part holds the
delimiter. -/
theorem bodyParts_framed {bd p : List UInt8} {ps : List (List UInt8)}
    (hbd : validBoundary bd = true) (hq : ∀ q ∈ p :: ps, ¬ crlf ++ [45, 45] ++ bd <:+: q) :
    bodyParts bd (framed bd p ps) = some (p :: ps) := by
  have hc : (13 : UInt8) ∉ 10 :: 45 :: 45 :: bd := by
    simp only [List.mem_cons, not_or]
    exact ⟨by decide, by decide, by decide, not_mem_of_validBoundary hbd⟩
  have hbody : framed bd p ps =
      ([45, 45] ++ bd) ++ (crlf ++ encapsulated (crlf ++ [45, 45] ++ bd) p ps) := by
    rw [framed, List.append_assoc ([45, 45] ++ bd)]
  have hdash : ([45, 45] ++ bd).isPrefixOf (framed bd p ps) = true := by
    rw [List.isPrefixOf_iff_prefix, hbody]
    exact List.prefix_append _ _
  simp only [bodyParts, hbd, Bool.not_true, Bool.false_eq_true, if_false, hdash, if_true,
    Option.some_bind]
  rw [hbody, List.drop_left, paddingCrlf_crlf]
  have hlen := length_lt_encapsulated (crlf ++ [45, 45] ++ bd) p ps
  exact encapsulations_encapsulated hc ps p _ (by omega) hq

/-! ## §3 — the header of a body part -/

/-- The header lines of a body part, and its body: each line ends with `CRLF`, the first empty
line ends the header, and a part that ends with its header has an empty body. -/
def headerLines : Nat → List UInt8 → Option (List (List UInt8) × List UInt8)
  | 0, _ => none
  | fuel + 1, bs =>
    if bs.isEmpty then some ([], [])
    else if crlf.isPrefixOf bs then some ([], bs.drop 2)
    else match breakOn crlf bs with
      | none => none
      | some (line, rest) => (headerLines fuel rest).map fun p => (line :: p.1, p.2)

/-- A line that starts with white space continues the field before it. -/
def isContinuation : List UInt8 → Bool
  | b :: _ => isLwsp b
  | [] => false

/-- Unfolding: each continuation line is joined to the line before it; `acc` holds the lines
read so far, last first. A first line that is a continuation is an error. -/
def unfoldLines : List (List UInt8) → List (List UInt8) → Option (List (List UInt8))
  | acc, [] => some acc.reverse
  | [], l :: ls => if isContinuation l then none else unfoldLines [l] ls
  | a :: acc, l :: ls =>
    if isContinuation l then unfoldLines ((a ++ l) :: acc) ls else unfoldLines (l :: a :: acc) ls

/-- ASCII lower case, for the names that compare without case. -/
def lowerAscii (bs : List UInt8) : List UInt8 :=
  bs.map fun b => if 65 ≤ b.toNat ∧ b.toNat ≤ 90 then b + 32 else b

/-- `ftext`: printable ASCII but `:`. -/
def isFtext (b : UInt8) : Bool := 33 ≤ b.toNat && b.toNat ≤ 126 && b != 58

/-- `field-name ":" field-body`: the name in lower case, and the body. -/
def parseField (line : List UInt8) : Option (List UInt8 × List UInt8) :=
  match breakOn [58] line with
  | some (name, body) => if !name.isEmpty && name.all isFtext then some (lowerAscii name, body) else none
  | none => none

/-- A body part: its header fields and its body. -/
structure Part where
  fields : List (List UInt8 × List UInt8)
  body : List UInt8
  deriving DecidableEq, Repr

/-- `body-part := MIME-part-headers [CRLF *OCTET]`. -/
def parsePart (bs : List UInt8) : Option Part := do
  let (lines, body) ← headerLines (bs.length + 1) bs
  let lines ← unfoldLines [] lines
  let fields ← lines.mapM parseField
  pure ⟨fields, body⟩

/-- The lines of a header, each followed by `CRLF`. -/
def headerBlock (lines : List (List UInt8)) : List UInt8 := lines.flatMap (· ++ crlf)

theorem length_le_headerBlock (lines : List (List UInt8)) :
    lines.length ≤ (headerBlock lines).length := by
  induction lines with
  | nil => simp [headerBlock]
  | cons l ls ih =>
    simp only [headerBlock, List.flatMap_cons, List.length_append, List.length_cons] at ih ⊢
    have : crlf.length = 2 := rfl
    omega

/-- Header lines that are not empty and hold no CR, then an empty line, read back as those
lines and the bytes after them. -/
theorem headerLines_headerBlock (body : List UInt8) :
    ∀ (lines : List (List UInt8)) (fuel : Nat), lines.length < fuel →
      (∀ l ∈ lines, l ≠ [] ∧ (13 : UInt8) ∉ l) →
      headerLines fuel (headerBlock lines ++ crlf ++ body) = some (lines, body) := by
  intro lines
  induction lines with
  | nil =>
    intro fuel hf _
    obtain ⟨fuel, rfl⟩ : ∃ f, fuel = f + 1 := ⟨fuel - 1, by omega⟩
    simp [headerLines, headerBlock, crlf, List.isPrefixOf]
  | cons l ls ih =>
    intro fuel hf hl
    obtain ⟨fuel, rfl⟩ : ∃ f, fuel = f + 1 := ⟨fuel - 1, by omega⟩
    obtain ⟨hne, h13⟩ := hl l (List.mem_cons_self _ _)
    obtain ⟨x, l', rfl⟩ := List.exists_cons_of_ne_nil hne
    have hx : x ≠ 13 := fun h => h13 (h ▸ List.mem_cons_self _ _)
    have hsplit : headerBlock ((x :: l') :: ls) ++ crlf ++ body =
        (x :: l') ++ crlf ++ (headerBlock ls ++ crlf ++ body) := by
      simp [headerBlock]
    have hbreak : breakOn crlf ((x :: l') ++ crlf ++ (headerBlock ls ++ crlf ++ body)) =
        some (x :: l', headerBlock ls ++ crlf ++ body) :=
      breakOn_append (show (13 : UInt8) ∉ [10] by decide)
        fun h => h13 (h.subset (List.mem_cons_self _ _))
    have hpre : crlf.isPrefixOf ((x :: l') ++ crlf ++ (headerBlock ls ++ crlf ++ body)) = false := by
      simp [crlf, List.isPrefixOf, Ne.symm hx]
    rw [hsplit, headerLines, if_neg (by simp), if_neg (by rw [hpre]; exact Bool.false_ne_true), hbreak]
    simp only [Option.map_some']
    rw [ih fuel (by simp at hf; omega) fun l hl' => hl l (List.mem_cons_of_mem _ hl')]
    rfl

/-- Lines none of which is a continuation unfold to themselves. -/
theorem unfoldLines_of_forall :
    ∀ (ls acc : List (List UInt8)), (∀ l ∈ ls, isContinuation l = false) →
      unfoldLines acc ls = some (acc.reverse ++ ls) := by
  intro ls
  induction ls with
  | nil => intro acc _; cases acc <;> simp [unfoldLines]
  | cons l ls ih =>
    intro acc h
    have hl := h l (List.mem_cons_self _ _)
    have hls := ih (l :: acc) fun l hl => h l (List.mem_cons_of_mem _ hl)
    cases acc <;> simp [unfoldLines, hl, hls]

/-- A header written line by line and an empty line, then a body: the part's fields are its
lines read as fields, and its body is that body. -/
theorem parsePart_headerBlock {lines : List (List UInt8)} (body : List UInt8)
    (hl : ∀ l ∈ lines, l ≠ [] ∧ (13 : UInt8) ∉ l ∧ isContinuation l = false) :
    parsePart (headerBlock lines ++ crlf ++ body) =
      (lines.mapM parseField).map fun fields => ⟨fields, body⟩ := by
  have hlen := length_le_headerBlock lines
  rw [parsePart, headerLines_headerBlock body lines _ (by simp; omega)
    fun l h => ⟨(hl l h).1, (hl l h).2.1⟩]
  simp only [bind, Option.bind, unfoldLines_of_forall lines [] fun l h => (hl l h).2.2,
    List.reverse_nil, List.nil_append]
  cases lines.mapM parseField <;> rfl

/-! ## §4 — `Content-Disposition` -/

/-- `token` bytes: US-ASCII but controls, space and the tspecials `()<>@,;:\"/[]?=`. -/
def isTokenByte (b : UInt8) : Bool :=
  33 ≤ b.toNat && b.toNat ≤ 126 &&
    !([40, 41, 60, 62, 64, 44, 59, 58, 92, 34, 47, 91, 93, 63, 61].contains b.toNat)

/-- The rest of a `quoted-string` after its opening quote, and the bytes after its closing one;
`esc` is set after a backslash, whose `quoted-pair` stands for the byte after it. A CR ends the
field, so it cannot stand in a quoted string. -/
def quotedString (esc : Bool) : List UInt8 → Option (List UInt8 × List UInt8)
  | [] => none
  | b :: bs =>
    if esc then (quotedString false bs).map fun p => (b :: p.1, p.2)
    else if b = 34 then some ([], bs)
    else if b = 13 then none
    else if b = 92 then quotedString true bs
    else (quotedString false bs).map fun p => (b :: p.1, p.2)

/-- `value := token / quoted-string`. -/
def paramValue : List UInt8 → Option (List UInt8 × List UInt8)
  | [] => none
  | b :: bs =>
    if b = 34 then quotedString false bs
    else
      let (tok, rest) := (b :: bs).span isTokenByte
      if tok.isEmpty then none else some (tok, rest)

/-- The parameters `*(";" attribute "=" value)`, white space allowed around each item; the
attribute names in lower case. -/
def dispositionParams : Nat → List UInt8 → Option (List (List UInt8 × List UInt8))
  | 0, _ => none
  | fuel + 1, bs =>
    match bs.dropWhile isLwsp with
    | [] => some []
    | b :: rest =>
      if b ≠ 59 then none
      else
        let (attr, rest) := (rest.dropWhile isLwsp).span isTokenByte
        match rest.dropWhile isLwsp with
        | [] => none
        | e :: rest =>
          if attr.isEmpty ∨ e ≠ 61 then none
          else match paramValue (rest.dropWhile isLwsp) with
            | none => none
            | some (v, rest) => (dispositionParams fuel rest).map ((lowerAscii attr, v) :: ·)

/-- A `Content-Disposition` value: the disposition type, in lower case, and the parameters. -/
structure Disposition where
  kind : List UInt8
  params : List (List UInt8 × List UInt8)
  deriving DecidableEq, Repr

/-- `disposition-type *(";" disposition-parm)`. -/
def parseDisposition (value : List UInt8) : Option Disposition :=
  let (kind, rest) := (value.dropWhile isLwsp).span isTokenByte
  if kind.isEmpty then none
  else (dispositionParams (rest.length + 1) rest).map fun ps => ⟨lowerAscii kind, ps⟩

/-- A quoted string with no quote, backslash or CR in it reads back as it was written. -/
theorem quotedString_append {v : List UInt8} (rest : List UInt8)
    (hv : ∀ b ∈ v, b ≠ 34 ∧ b ≠ 13 ∧ b ≠ 92) :
    quotedString false (v ++ 34 :: rest) = some (v, rest) := by
  induction v with
  | nil => simp [quotedString]
  | cons b v ih =>
    obtain ⟨h1, h2, h3⟩ := hv b (List.mem_cons_self _ _)
    simp [quotedString, h1, h2, h3, ih fun b hb => hv b (List.mem_cons_of_mem _ hb)]

/-- A token ends at the first byte that is not a token byte. -/
theorem span_isTokenByte {tok : List UInt8} {e : UInt8} (rest : List UInt8)
    (ht : ∀ b ∈ tok, isTokenByte b = true) (he : isTokenByte e = false) :
    (tok ++ e :: rest).span isTokenByte = (tok, e :: rest) := by
  rw [List.span_eq_take_drop, List.takeWhile_append_of_pos ht, List.dropWhile_append_of_pos ht]
  simp [he]

theorem isLwsp_of_isTokenByte {x : UInt8} (hx : isTokenByte x = true) : isLwsp x = false := by
  simp only [isTokenByte, Bool.and_eq_true, decide_eq_true_eq] at hx
  simp only [isLwsp, Bool.or_eq_false_iff, decide_eq_false_iff_not]
  constructor <;> rintro rfl <;> exact absurd hx.1.1 (by decide)

theorem dropWhile_isLwsp_token {tok : List UInt8} (rest : List UInt8) (hne : tok ≠ [])
    (ht : ∀ b ∈ tok, isTokenByte b = true) : (tok ++ rest).dropWhile isLwsp = tok ++ rest := by
  obtain ⟨x, tok, rfl⟩ := List.exists_cons_of_ne_nil hne
  simp [List.dropWhile_cons, isLwsp_of_isTokenByte (ht x (List.mem_cons_self _ _))]

/-- A parameter written `; attr="v"` is read as `(attr, v)`, when `attr` is a token and `v`
holds no quote, backslash or CR. -/
theorem dispositionParams_quoted {attr v : List UInt8} (rest : List UInt8) (fuel : Nat)
    (ha : attr ≠ []) (hat : ∀ b ∈ attr, isTokenByte b = true)
    (hv : ∀ b ∈ v, b ≠ 34 ∧ b ≠ 13 ∧ b ≠ 92) :
    dispositionParams (fuel + 1) (59 :: 32 :: (attr ++ 61 :: 34 :: (v ++ 34 :: rest))) =
      (dispositionParams fuel rest).map ((lowerAscii attr, v) :: ·) := by
  have h61 : isTokenByte 61 = false := by decide
  simp only [dispositionParams, List.dropWhile_cons, show isLwsp 59 = false by decide,
    show isLwsp 32 = true by decide, show isLwsp 61 = false by decide,
    show isLwsp 34 = false by decide, if_true, Bool.false_eq_true, if_false, ne_eq, not_true,
    dropWhile_isLwsp_token _ ha hat, span_isTokenByte _ hat h61, List.isEmpty_eq_false.mpr ha]
  simp [paramValue, quotedString_append rest hv, List.isEmpty_iff, ha]

theorem dispositionParams_nil_of_pos {fuel : Nat} (h : 0 < fuel) : dispositionParams fuel [] = some [] := by
  obtain ⟨fuel, rfl⟩ : ∃ f, fuel = f + 1 := ⟨fuel - 1, by omega⟩
  rfl

/-- A disposition written ` kind; …`, with `kind` a token: its kind and the parameters after. -/
theorem parseDisposition_token {kind : List UInt8} (rest : List UInt8) (hk : kind ≠ [])
    (hkt : ∀ b ∈ kind, isTokenByte b = true) :
    parseDisposition (32 :: (kind ++ 59 :: rest)) =
      (dispositionParams (rest.length + 2) (59 :: rest)).map fun ps => ⟨lowerAscii kind, ps⟩ := by
  simp only [parseDisposition, List.dropWhile_cons, show isLwsp 32 = true by decide, if_true,
    dropWhile_isLwsp_token _ hk hkt, span_isTokenByte _ hkt (show isTokenByte 59 = false by decide)]
  simp [List.isEmpty_iff, hk]

/-! ## §5 — a file field of `multipart/form-data` -/

/-- A file field: the part's `Content-Disposition` is `form-data` with a `name` and a
`filename`; its name, file name and content. -/
def formFile (p : Part) : Option (List UInt8 × List UInt8 × List UInt8) := do
  let v ← p.fields.lookup (Py.utf8 "content-disposition")
  let d ← parseDisposition v
  if d.kind ≠ Py.utf8 "form-data" then none
  let name ← d.params.lookup (Py.utf8 "name")
  let filename ← d.params.lookup (Py.utf8 "filename")
  pure (name, filename, p.body)

/-- A `multipart/form-data` body with boundary `bd`, read into its parts. -/
def parseFormData (bd body : List UInt8) : Option (List Part) :=
  (bodyParts bd body).bind fun ps => ps.mapM parsePart

end S3Desk.Mime
