/-
# S3Desk.Runner.Multipart — `multipart_form`, read back by the RFC 2046 reader

`multipart_form(files)` (lines 187–204) draws its boundary from `uuid.uuid4().hex` and writes,
for each `(filename, content)`, a dash-boundary line, a `Content-Disposition` line and a
`Content-Type` line, an empty line, the content and a `CRLF`; then the close-delimiter line.

Read by the reader of `S3Desk.Mime` with the boundary it returns, such a body gives back one
part per file, in order, each a file field named `files` with the file's name and exactly its
content, empty contents and contents holding `CRLF` or `--` included
(`multipartForm_parts`), when no file name holds a quote, a backslash or a CR and no content
holds `--` and the boundary. The backslash cannot be left out: in a quoted string it escapes
the byte after it, so the reader drops it from the name (`multipartForm_backslashName`).

§2 shows the joined parts are the framing `Mime.framed` of the file parts, §3 that each file
part reads back as its field, §4 that the delimiter occurs in none of them.
-/
import S3Desk.Runner.Run
import S3Desk.Mime

namespace S3Desk.Runner

open Mime

/-! ## §1 — the encoder -/

/-- The header of one file's part (lines 193–198). -/
def partHeader (filename : String) : String :=
  "Content-Disposition: form-data; name=\"files\"; filename=\"" ++ filename ++ "\"\r\n" ++
    "Content-Type: application/octet-stream\r\n\r\n"

/-- The `parts` that `multipart_form` joins (lines 189–201). -/
def multipartParts (boundary : String) (files : List (String × List UInt8)) : List (List UInt8) :=
  (files.flatMap fun (filename, content) =>
    [Py.utf8 ("--" ++ boundary ++ "\r\n"), Py.utf8 (partHeader filename), content,
      Py.utf8 "\r\n"]) ++ [Py.utf8 ("--" ++ boundary ++ "--\r\n")]

/-- `multipart_form(files)` (lines 187–204). -/
def multipartForm {σ : Type} (files : List (String × List UInt8)) : Run σ (List UInt8 × String) := do
  let boundary ← uuid4Hex
  pure ((multipartParts boundary files).flatten, "multipart/form-data; boundary=" ++ boundary)

/-- What `uuid.uuid4().hex` returns: 32 lower-case hexadecimal digits. -/
def uuidHexForm (s : String) : Bool :=
  s.length = 32 && s.toList.all fun c => (48 ≤ c.toNat && c.toNat ≤ 57) || (97 ≤ c.toNat && c.toNat ≤ 102)

/-- An outside whose `uuid4().hex` is `hex`, and that has nothing else. -/
def uuidEnv (hex : String) : Env Unit where
  environ _ := none
  exchange _ s := (.raised (runtimeError "no server"), s)
  time s := (0, s)
  sleep _ s := s
  uuidHex s := (hex, s)

/-! ## §2 — the joined parts are a framed body -/

/-- One file's body part, as the reader delimits it: its header and its content. -/
def filePart (f : String × List UInt8) : List UInt8 := Py.utf8 (partHeader f.1) ++ f.2

@[simp] theorem utf8_dashes : Py.utf8 "--" = [45, 45] := rfl

@[simp] theorem utf8_crlf : Py.utf8 "\r\n" = crlf := rfl

@[simp] theorem utf8_close : Py.utf8 "--\r\n" = [45, 45] ++ crlf := rfl

theorem flatten_multipartParts (B : String) :
    ∀ (fs : List (String × List UInt8)) (f : String × List UInt8),
      (multipartParts B (f :: fs)).flatten = framed (Py.utf8 B) (filePart f) (fs.map filePart) := by
  intro fs
  induction fs with
  | nil =>
    intro f
    simp [multipartParts, framed, encapsulated, filePart, Py.utf8_append]
  | cons g gs ih =>
    intro f
    have hrest : multipartParts B (f :: g :: gs) =
        [Py.utf8 ("--" ++ B ++ "\r\n"), Py.utf8 (partHeader f.1), f.2, Py.utf8 "\r\n"] ++
          multipartParts B (g :: gs) := by
      simp [multipartParts]
    rw [hrest, List.flatten_append, ih g]
    simp [framed, encapsulated, filePart, Py.utf8_append]

/-! ## §3 — a file part reads back as its field -/

/-- The `Content-Disposition` value of a file part, as bytes. -/
def dispositionValue (filename : String) : List UInt8 :=
  32 :: (Py.utf8 "form-data" ++ 59 :: 32 :: (Py.utf8 "name" ++ 61 :: 34 :: (Py.utf8 "files" ++
    34 :: 59 :: 32 :: (Py.utf8 "filename" ++ 61 :: 34 :: (Py.utf8 filename ++ [34])))))

/-- The two header lines of a file part. -/
def fileHeaderLines (filename : String) : List (List UInt8) :=
  [Py.utf8 "Content-Disposition" ++ 58 :: dispositionValue filename,
    Py.utf8 "Content-Type: application/octet-stream"]

theorem filePart_eq (f : String × List UInt8) :
    filePart f = headerBlock (fileHeaderLines f.1) ++ crlf ++ f.2 := by
  simp [filePart, partHeader, headerBlock, fileHeaderLines, dispositionValue, Py.utf8_append]
  rfl

/-- The bytes of a name with no quote, backslash or CR hold none of them. -/
theorem safe_utf8 {filename : String}
    (hname : ∀ c ∈ filename.toList, c ≠ '"' ∧ c ≠ '\\' ∧ c ≠ '\r') :
    ∀ b ∈ Py.utf8 filename, b ≠ 34 ∧ b ≠ 13 ∧ b ≠ 92 := by
  have h34 : (34 : UInt8) ∉ Py.utf8 filename :=
    Py.not_mem_utf8 (c := '"') (by decide) fun h => (hname _ h).1 rfl
  have h92 : (92 : UInt8) ∉ Py.utf8 filename :=
    Py.not_mem_utf8 (c := '\\') (by decide) fun h => (hname _ h).2.1 rfl
  have h13 : (13 : UInt8) ∉ Py.utf8 filename :=
    Py.not_mem_utf8 (c := '\r') (by decide) fun h => (hname _ h).2.2 rfl
  exact fun b hb => ⟨fun h => h34 (h ▸ hb), fun h => h13 (h ▸ hb), fun h => h92 (h ▸ hb)⟩

theorem parseDisposition_dispositionValue {filename : String}
    (hname : ∀ c ∈ filename.toList, c ≠ '"' ∧ c ≠ '\\' ∧ c ≠ '\r') :
    parseDisposition (dispositionValue filename) =
      some ⟨Py.utf8 "form-data", [(Py.utf8 "name", Py.utf8 "files"),
        (Py.utf8 "filename", Py.utf8 filename)]⟩ := by
  rw [dispositionValue, parseDisposition_token _ (by decide) (by decide), List.length_cons,
    dispositionParams_quoted _ _ (by decide) (by decide) (by decide),
    dispositionParams_quoted _ _ (by decide) (by decide) (safe_utf8 hname),
    dispositionParams_nil_of_pos (by simp)]
  rfl

theorem parseField_dispositionLine (v : List UInt8) :
    parseField (Py.utf8 "Content-Disposition" ++ 58 :: v) = some (Py.utf8 "content-disposition", v) := by
  rw [parseField, show Py.utf8 "Content-Disposition" ++ 58 :: v =
    Py.utf8 "Content-Disposition" ++ 58 :: [] ++ v by simp, breakOn_append (by decide) (by decide)]
  rfl

/-- The header fields of a file part, as the reader gives them back. -/
def fileFields (filename : String) : List (List UInt8 × List UInt8) :=
  [(Py.utf8 "content-disposition", dispositionValue filename),
    (Py.utf8 "content-type", Py.utf8 " application/octet-stream")]

theorem cr_not_mem_utf8 {filename : String} (hcr : ∀ c ∈ filename.toList, c ≠ '\r') :
    (13 : UInt8) ∉ Py.utf8 filename :=
  Py.not_mem_utf8 (c := '\r') (by decide) fun h => hcr _ h rfl

/-- A file part whose name holds no CR reads back as its two header fields and its content. -/
theorem parsePart_filePart (f : String × List UInt8) (hcr : ∀ c ∈ f.1.toList, c ≠ '\r') :
    parsePart (filePart f) = some ⟨fileFields f.1, f.2⟩ := by
  have h13 : (13 : UInt8) ∉ dispositionValue f.1 := by
    simp only [dispositionValue, List.mem_cons, List.mem_append, not_or]
    exact ⟨by decide, by decide, by decide, by decide, by decide, by decide, by decide, by decide,
      by decide, by decide, by decide, by decide, by decide, by decide, cr_not_mem_utf8 hcr,
      by decide⟩
  have hlines : ∀ l ∈ fileHeaderLines f.1, l ≠ [] ∧ (13 : UInt8) ∉ l ∧ isContinuation l = false := by
    simp only [fileHeaderLines, List.mem_cons, List.mem_singleton, List.not_mem_nil, or_false]
    rintro l (rfl | rfl)
    · refine ⟨by simp, ?_, rfl⟩
      simp only [List.mem_append, List.mem_cons, not_or]
      exact ⟨by decide, by decide, h13⟩
    · exact ⟨by decide, by decide, rfl⟩
  rw [filePart_eq, parsePart_headerBlock f.2 hlines, fileHeaderLines, List.mapM_cons,
    parseField_dispositionLine]
  rfl

/-- When the name holds no quote or backslash either, those fields are the file field named
`files` with the file's name. -/
theorem formFile_fileFields {filename : String} (body : List UInt8)
    (hname : ∀ c ∈ filename.toList, c ≠ '"' ∧ c ≠ '\\' ∧ c ≠ '\r') :
    formFile ⟨fileFields filename, body⟩ = some (Py.utf8 "files", Py.utf8 filename, body) := by
  have hv : (fileFields filename).lookup (Py.utf8 "content-disposition") =
      some (dispositionValue filename) := rfl
  simp only [formFile, hv, Option.bind_eq_bind, Option.some_bind,
    parseDisposition_dispositionValue hname]
  rfl

/-! ## §4 — the delimiter occurs in no file part -/

section Boundary

variable {B : String}

/-- The bytes of a `uuid4().hex` boundary are hexadecimal digits. -/
theorem hexByte_of_uuidHexForm (hB : uuidHexForm B = true) :
    ∀ b ∈ Py.utf8 B, (48 ≤ b.toNat ∧ b.toNat ≤ 57) ∨ (97 ≤ b.toNat ∧ b.toNat ≤ 102) := by
  simp only [uuidHexForm, Bool.and_eq_true, decide_eq_true_eq, List.all_eq_true,
    Bool.or_eq_true] at hB
  rw [Py.utf8_of_ascii fun c hc => by have := hB.2 c hc; omega]
  intro b hb
  obtain ⟨c, hc, rfl⟩ := List.mem_map.mp hb
  have := hB.2 c hc
  rw [show (c.toNat.toUInt8).toNat = c.toNat from Nat.mod_eq_of_lt (by omega)]
  exact this

theorem not_mem_of_uuidHexForm (hB : uuidHexForm B = true) {a : UInt8} (ha : a.toNat < 48) :
    a ∉ Py.utf8 B := fun h => by
  have := hexByte_of_uuidHexForm hB a h
  omega

theorem length_utf8_of_uuidHexForm (hB : uuidHexForm B = true) : (Py.utf8 B).length = 32 := by
  simp only [uuidHexForm, Bool.and_eq_true, decide_eq_true_eq, List.all_eq_true,
    Bool.or_eq_true] at hB
  rw [Py.utf8_of_ascii fun c hc => by have := hB.2 c hc; omega, List.length_map]
  exact hB.1

theorem validBoundary_of_uuidHexForm (hB : uuidHexForm B = true) :
    validBoundary (Py.utf8 B) = true := by
  have hhex := hexByte_of_uuidHexForm hB
  simp only [validBoundary, length_utf8_of_uuidHexForm hB, Bool.and_eq_true, decide_eq_true_eq, List.all_eq_true,
    bne_iff_ne, ne_eq]
  refine ⟨⟨by decide, fun b hb => ?_⟩, fun h => ?_⟩
  · simp only [isBchar, Bool.or_eq_true, Bool.and_eq_true, decide_eq_true_eq]
    rcases hhex b hb with h | h
    · exact .inl (.inl (.inl h))
    · exact .inl (.inr ⟨by omega, by omega⟩)
  · exact absurd (hhex 32 (List.mem_of_getLast?_eq_some h)) (by decide)

/-- A file part holds no delimiter `CRLF "--" B`: the name holds no CR, the fixed text no `--`,
and a delimiter that starts at the `CRLF` before the content would put `--` and the boundary
in the content. -/
theorem not_infix_filePart (hB : uuidHexForm B = true) (f : String × List UInt8)
    (hcr : ∀ c ∈ f.1.toList, c ≠ '\r') (hcontent : ¬ Py.utf8 ("--" ++ B) <:+: f.2) :
    ¬ crlf ++ [45, 45] ++ Py.utf8 B <:+: filePart f := by
  have h13 := not_mem_of_uuidHexForm hB (a := 13) (by decide)
  have h10 := not_mem_of_uuidHexForm hB (a := 10) (by decide)
  have h34 := not_mem_of_uuidHexForm hB (a := 34) (by decide)
  have hpart : filePart f =
      Py.utf8 "Content-Disposition: form-data; name=\"files\"; filename=" ++ 34 :: (Py.utf8 f.1 ++
        34 :: (Py.utf8 "\r\nContent-Type: application/octet-stream\r\n" ++ 13 :: 10 :: f.2)) := by
    simp [filePart, partHeader, Py.utf8_append]
    rfl
  have hdash : [45, 45] <:+: crlf ++ [45, 45] ++ Py.utf8 B := ⟨crlf, Py.utf8 B, rfl⟩
  rw [hpart]
  rw [show crlf ++ [45, 45] ++ Py.utf8 B = 13 :: 10 :: 45 :: 45 :: Py.utf8 B from rfl] at hdash ⊢
  intro h
  have hd34 : (34 : UInt8) ∉ 13 :: 10 :: 45 :: 45 :: Py.utf8 B := by simp [h34]
  rcases infix_of_infix_append_cons hd34 h with h | h
  · exact absurd (hdash.trans h) (by decide)
  rcases infix_of_infix_append_cons hd34 h with h | h
  · exact cr_not_mem_utf8 hcr (h.subset (List.mem_cons_self _ _))
  rcases infix_of_infix_append_self (by simp [h13]) h with h | h
  · exact absurd (hdash.trans h) (by decide)
  have hq : 45 :: 45 :: Py.utf8 B <:+: 13 :: 10 :: f.2 := List.IsInfix.trans ⟨[13, 10], [], by simp⟩ h
  rcases infix_of_infix_append_cons (X := []) (by simp [h13]) hq with h | h
  · exact absurd (List.infix_nil.mp h) (List.cons_ne_nil _ _)
  rcases infix_of_infix_append_cons (X := []) (by simp [h10]) h with h | h
  · exact absurd (List.infix_nil.mp h) (List.cons_ne_nil _ _)
  exact hcontent (by rw [Py.utf8_append]; exact h)

end Boundary

/-! ## §5 — the whole body -/

/-- `mapM` of a function that succeeds on every element. -/
theorem mapM_map_eq_some {α β γ δ : Type} {f : β → Option γ} {k : α → β} {g : γ → δ} {v : α → δ} :
    ∀ l : List α, (∀ a ∈ l, ∃ c, f (k a) = some c ∧ g c = v a) →
      ∃ cs, (l.map k).mapM f = some cs ∧ cs.map g = l.map v
  | [], _ => ⟨[], rfl, rfl⟩
  | a :: l, h => by
    obtain ⟨c, hc, hg⟩ := h a (List.mem_cons_self _ _)
    obtain ⟨cs, hcs, hmap⟩ := mapM_map_eq_some l fun a ha => h a (List.mem_cons_of_mem _ ha)
    exact ⟨c :: cs, by rw [List.map_cons, List.mapM_cons, hc, hcs]; rfl, by simp [hg, hmap]⟩

/-- Read with its boundary, the joined parts give back one part per file, in order, each the
file field named `files` with the file's name and exactly its content. -/
theorem parseFormData_multipartParts {B : String} {files : List (String × List UInt8)}
    (hfiles : files ≠ []) (hB : uuidHexForm B = true)
    (hname : ∀ f ∈ files, ∀ c ∈ f.1.toList, c ≠ '"' ∧ c ≠ '\\' ∧ c ≠ '\r')
    (hcontent : ∀ f ∈ files, ¬ Py.utf8 ("--" ++ B) <:+: f.2) :
    ∃ parts, parseFormData (Py.utf8 B) (multipartParts B files).flatten = some parts ∧
      parts.map formFile = files.map fun f => some (Py.utf8 "files", Py.utf8 f.1, f.2) := by
  obtain ⟨f, fs, rfl⟩ := List.exists_cons_of_ne_nil hfiles
  have hdelim : ∀ q ∈ filePart f :: fs.map filePart, ¬ crlf ++ [45, 45] ++ Py.utf8 B <:+: q := by
    rw [← List.map_cons]
    rintro _ hq
    obtain ⟨g, hg, rfl⟩ := List.mem_map.mp hq
    exact not_infix_filePart hB g (fun c hc => (hname g hg c hc).2.2) (hcontent g hg)
  rw [parseFormData, flatten_multipartParts, bodyParts_framed (validBoundary_of_uuidHexForm hB) hdelim,
    Option.some_bind, ← List.map_cons]
  exact mapM_map_eq_some _ fun g hg =>
    ⟨_, parsePart_filePart g fun c hc => (hname g hg c hc).2.2, formFile_fileFields g.2 (hname g hg)⟩

/-- `multipart_form(files)` returns the joined parts and the content type naming its boundary;
read with that boundary, the body gives back one part per file, in order, each the file field
named `files` with the file's name and exactly its content. -/
theorem multipartForm_parts {σ : Type} (E : Env σ) (w : World σ) (files : List (String × List UInt8))
    (hfiles : files ≠ []) (hB : uuidHexForm (E.uuidHex w.ext).1 = true)
    (hname : ∀ f ∈ files, ∀ c ∈ f.1.toList, c ≠ '"' ∧ c ≠ '\\' ∧ c ≠ '\r')
    (hcontent : ∀ f ∈ files, ¬ Py.utf8 ("--" ++ (E.uuidHex w.ext).1) <:+: f.2) :
    let B := (E.uuidHex w.ext).1
    multipartForm files E w =
        (.ok ((multipartParts B files).flatten, "multipart/form-data; boundary=" ++ B),
          ⟨(E.uuidHex w.ext).2, w.out⟩) ∧
      ∃ parts, parseFormData (Py.utf8 B) (multipartParts B files).flatten = some parts ∧
        parts.map formFile = files.map fun f => some (Py.utf8 "files", Py.utf8 f.1, f.2) :=
  ⟨rfl, parseFormData_multipartParts hfiles hB hname hcontent⟩

theorem multipartForm_parts_hello :
    let E := uuidEnv "0123456789abcdef0123456789abcdef"
    let files := [("hello.txt", Py.utf8 "hello from minio\n")]
    let B := "0123456789abcdef0123456789abcdef"
    files ≠ [] ∧ uuidHexForm B = true ∧
      (∀ f ∈ files, ∀ c ∈ f.1.toList, c ≠ '"' ∧ c ≠ '\\' ∧ c ≠ '\r') ∧
      (∀ f ∈ files, ¬ Py.utf8 ("--" ++ B) <:+: f.2) ∧
      (multipartForm files E ⟨(), []⟩ =
          (.ok ((multipartParts B files).flatten, "multipart/form-data; boundary=" ++ B), ⟨(), []⟩) ∧
        ∃ parts, parseFormData (Py.utf8 B) (multipartParts B files).flatten = some parts ∧
          parts.map formFile = files.map fun f => some (Py.utf8 "files", Py.utf8 f.1, f.2)) :=
  ⟨by simp, by decide, by decide, by decide,
    multipartForm_parts _ _ _ (by simp) (by decide) (by decide) (by decide)⟩

/-- A file named `a\b` reads back as `ab`, and one named `a\` is no file field at all: in the
quoted file name the backslash escapes the byte after it. -/
theorem multipartForm_backslashName :
    let B := "0123456789abcdef0123456789abcdef"
    (parseFormData (Py.utf8 B) (multipartParts B [("a\\b", [])]).flatten).map (·.map formFile) =
        some [some (Py.utf8 "files", Py.utf8 "ab", [])] ∧ Py.utf8 "ab" ≠ Py.utf8 "a\\b" ∧
      (parseFormData (Py.utf8 B) (multipartParts B [("a\\", [])]).flatten).map (·.map formFile) =
        some [none] := by
  intro B
  have hB : uuidHexForm B = true := by decide
  have hread : ∀ name : String, (∀ c ∈ name.toList, c ≠ '\r') →
      parseFormData (Py.utf8 B) (multipartParts B [(name, [])]).flatten =
        some [⟨fileFields name, []⟩] := by
    intro name hcr
    rw [parseFormData, flatten_multipartParts, bodyParts_framed (validBoundary_of_uuidHexForm hB)]
    · simp only [Option.some_bind, List.map_nil, List.mapM_cons, parsePart_filePart (name, []) hcr]
      rfl
    · simp only [List.map_nil, List.mem_singleton]
      rintro _ rfl
      exact not_infix_filePart hB _ hcr (by simp [Py.utf8_append])
  rw [hread _ (by decide), hread _ (by decide)]
  exact ⟨by decide, by decide, by decide⟩

end S3Desk.Runner
