import Libhid.Framework.Text
import Libhid.Parser.Holding
import Libhid.Device.Formatting
import Mathlib.Data.Nat.Log

/-!
# The raw descriptor in the trace (`hid_prepare_parser`, `extract_report_descriptor.py`)

Before it parses a descriptor, `hid_prepare_parser` writes its bytes to the debug stream, eight to a
line, and the script reads them back from there.  `rawDump` is the loop of the library, with the
arrays it formats the lines in; `extractBytesLibhid` is the function of the script.  Whatever else
the library writes in between, the script reads the descriptors of all the interfaces that were
prepared, one after the other (`trace_extracted`).
-/

namespace Libhid

open Framework

/-- The characters of a string. -/
def ascii (s : String) : List UInt8 := s.toList.map fun c => UInt8.ofNat c.toNat

/-! ## What the library writes -/

/-- A text in an array of `n` characters, with the zero that ends it. -/
structure CString (n : ℕ) where
  text : List UInt8
  fits : text.length < n

/-- `sprintf` into an array of `n` characters, unless the text does not fit. -/
def sprintf (n : ℕ) (text : List UInt8) : Option (CString n) :=
  if h : text.length < n then some ⟨text, h⟩ else none

/-- `strcat`, unless the text does not fit. -/
def CString.strcat {n m : ℕ} (dest : CString n) (src : CString m) : Option (CString n) :=
  sprintf n (dest.text ++ src.text)

/-- A number as `%0kx` shows it. -/
def hexPadded (k n : ℕ) : List UInt8 := hexDigits (max k (Nat.log 16 n + 1)) n

/-- `0x%03x: ` with a position. -/
def positionText (i : ℕ) : List UInt8 := ascii "0x" ++ hexPadded 3 i ++ ascii ": "

/-- `0x%02x ` with a byte. -/
def byteText (b : UInt8) : List UInt8 := ascii "0x" ++ hexPadded 2 b.toNat ++ ascii " "

/-- The line that the `i`-th byte comes to: every eight bytes, a new one. -/
def lineOf (i : ℕ) (buffer : CString 160) : Option (CString 160) :=
  if i % 8 = 0 then sprintf 160 (positionText i) else some buffer

/-- The dump loop of `hid_prepare_parser` with `n` bytes left: the texts it traces. -/
def dumpLoop (p : HIDParser) : ℕ → ℕ → CString 160 → Option (List (List UInt8))
  | 0, _, buffer => some [buffer.text]
  | n + 1, i, buffer => do
      let line ← lineOf i buffer
      let b ← p.reportDesc[i]?
      let tmp ← sprintf 10 (byteText b)
      let texts ← dumpLoop p n (i + 1) (← line.strcat tmp)
      some (if i % 8 = 0 ∧ i ≠ 0 then buffer.text :: texts else texts)

/-- The texts of the descriptor that `hid_prepare_parser` traces. -/
def rawDump (p : HIDParser) : Option (List (List UInt8)) := do
  dumpLoop p p.reportDescSize.toNat 0 (← sprintf 160 (positionText 0))

/-- A line of `TRACE` in `hid_prepare_parser`, without its newline. -/
def traceLine (text : List UInt8) : List UInt8 :=
  ascii "  TRACE: hid_prepare_parser(): " ++ text

/-- What comes to the debug stream: the dump of a parser, from the line in front of it to the line
behind it, or a line from elsewhere. -/
inductive TracePart
  | line (text : List UInt8)
  | dump (id : List UInt8) (p : HIDParser)

/-- The lines of a part. -/
def TracePart.lines : TracePart → Option (List (List UInt8))
  | .line text => some [text]
  | .dump id p => do
      let texts ← rawDump p
      some (traceLine (ascii "dumping the raw report descriptor") :: texts.map traceLine ++
        [traceLine (ascii "parsing the HID tree of USB device " ++ id ++ ascii "...")])

/-- What is in the file that the debug stream writes. -/
def traceFile (parts : List TracePart) : Option (List UInt8) := do
  let lines ← parts.mapM TracePart.lines
  some (lines.flatten.flatMap (· ++ [0x0A]))

/-! ## What the script reads -/

/-- The characters that `split` cuts at. -/
def isSpace (c : UInt8) : Bool := c = 0x20 || (0x09 ≤ c && c ≤ 0x0D)

/-- The value of a hexadecimal digit. -/
def hexDigitValue (c : UInt8) : Option ℕ :=
  if 0x30 ≤ c ∧ c ≤ 0x39 then some (c.toNat - 0x30)
  else if 0x61 ≤ c ∧ c ≤ 0x66 then some (c.toNat - 0x57)
  else if 0x41 ≤ c ∧ c ≤ 0x46 then some (c.toNat - 0x37)
  else none

/-- The value of some digits behind others. -/
def hexValue : ℕ → List UInt8 → Option ℕ
  | n, [] => some n
  | n, c :: digits => do hexValue (16 * n + (← hexDigitValue c)) digits

/-- `int(digits, 16)` without a sign. -/
def unsignedInt16 (word : List UInt8) : Option ℕ :=
  let digits := if ascii "0x" <+: word ∨ ascii "0X" <+: word then word.drop 2 else word
  if digits = [] then none else hexValue 0 digits

/-- `int(word, 16)` of a word without spaces; `none` where it raises `ValueError`. -/
def int16 (word : List UInt8) : Option ℤ :=
  if word.head? = some 0x2D then (unsignedInt16 word.tail).map fun n => -n
  else if word.head? = some 0x2B then (unsignedInt16 word.tail).map fun n => n
  else (unsignedInt16 word).map fun n => n

/-- The loop of `extract_bytes_libhid`: the `descriptor_text` from the lines of a file. -/
def descriptorText : Bool → List (List UInt8) → List (List UInt8)
  | _, [] => []
  | true, line :: file =>
      if ascii "parsing the HID tree" <:+: line then descriptorText false file
      else (words isSpace line).drop 3 ++ descriptorText true file
  | false, line :: file => descriptorText (ascii "raw report descriptor" <:+: line) file

/-- `extract_bytes_libhid`. -/
def extractBytesLibhid (file : List UInt8) : Option (List ℤ) :=
  (descriptorText false (lines 0x0A file)).mapM int16

/-! ## The words of a line

A line of the dump is a list of words, each with a space behind it. -/

/-- The position in front of the bytes. -/
def positionWord (i : ℕ) : List UInt8 := ascii "0x" ++ hexPadded 3 i ++ ascii ":"

/-- A byte. -/
def byteWord (b : UInt8) : List UInt8 := ascii "0x" ++ hexPadded 2 b.toNat

/-- The text of a line with some bytes from a position on. -/
def rowText (i : ℕ) (bytes : List UInt8) : List UInt8 :=
  (positionWord i :: bytes.map byteWord).flatMap (· ++ [0x20])

/-- The words in front of the text. -/
def traceWords : List (List UInt8) := [ascii "TRACE:", ascii "hid_prepare_parser():"]

/-- A word of a line: it has no spaces, and no `g`. -/
def LineWord (w : List UInt8) : Prop := w ≠ [] ∧ ∀ c ∈ w, isSpace c = false ∧ c ≠ 0x67

instance (w : List UInt8) : Decidable (LineWord w) :=
  @instDecidableAnd _ _ _ (List.decidableBAll _ w)

section Words

variable {i k n : ℕ} {c b : UInt8} {bytes : List UInt8}

lemma mem_hexDigits (h : c ∈ hexDigits k n) : ∃ d < 16, c = hexDigit d := by
  induction k generalizing n with
  | zero => cases h
  | succ k ih =>
      rcases List.mem_append.mp h with h | h
      · exact ih h
      · exact ⟨n % 16, Nat.mod_lt _ (by omega), List.mem_singleton.mp h⟩

lemma hexDigit_plain : ∀ d < 16, isSpace (hexDigit d) = false ∧ hexDigit d ≠ 0x67 := by decide

lemma hexDigitValue_hexDigit : ∀ d < 16, hexDigitValue (hexDigit d) = some d := by decide

/-- Digits between other characters of a line. -/
lemma LineWord.hex {before behind : List UInt8} (hbefore : LineWord before)
    (hbehind : ∀ c ∈ behind, isSpace c = false ∧ c ≠ 0x67) :
    LineWord (before ++ hexDigits k n ++ behind) := by
  refine ⟨by simp [hbefore.1], fun c hc => ?_⟩
  rcases List.mem_append.mp hc with hc | hc
  · rcases List.mem_append.mp hc with hc | hc
    · exact hbefore.2 c hc
    · obtain ⟨d, hd, rfl⟩ := mem_hexDigits hc
      exact hexDigit_plain d hd
  · exact hbehind c hc

lemma positionWord_plain (i : ℕ) : LineWord (positionWord i) :=
  LineWord.hex (by decide) (by decide +kernel)

lemma byteWord_plain (b : UInt8) : LineWord (byteWord b) := by
  have h : LineWord (ascii "0x" ++ hexDigits (max 2 (Nat.log 16 b.toNat + 1)) b.toNat ++ []) :=
    LineWord.hex (by decide) (by simp)
  rwa [List.append_nil] at h

/-- The words of a traced line are words of a line. -/
lemma rowWords_plain (i : ℕ) (bytes : List UInt8) :
    ∀ w ∈ traceWords ++ positionWord i :: bytes.map byteWord, LineWord w := by
  intro w hw
  rcases List.mem_append.mp hw with hw | hw
  · have htrace : ∀ w ∈ traceWords, LineWord w := by decide
    exact htrace w hw
  · rcases List.mem_cons.mp hw with rfl | hw
    · exact positionWord_plain i
    · obtain ⟨b, -, rfl⟩ := List.mem_map.mp hw
      exact byteWord_plain b

/-- A traced line begins with two spaces. -/
lemma traceLine_rowText (i : ℕ) (bytes : List UInt8) :
    traceLine (rowText i bytes) =
      0x20 :: 0x20 ::
        (traceWords ++ positionWord i :: bytes.map byteWord).flatMap (· ++ [0x20]) := by
  have hprefix : ascii "  TRACE: hid_prepare_parser(): " =
      0x20 :: 0x20 :: traceWords.flatMap (· ++ [0x20]) := by decide
  rw [traceLine, hprefix, rowText, List.flatMap_append]
  rfl

/-- The script cuts the line into its words. -/
lemma words_rowText (i : ℕ) (bytes : List UInt8) :
    (words isSpace (traceLine (rowText i bytes))).drop 3 = bytes.map byteWord := by
  have hspace : isSpace 0x20 = true := rfl
  rw [traceLine_rowText, words_cons hspace, words_cons hspace, words_flatMap hspace]
  · rfl
  · exact fun w hw => ⟨(rowWords_plain i bytes w hw).1,
      fun c hc => ((rowWords_plain i bytes w hw).2 c hc).1⟩

/-- A character of a line is a space, or one of a word. -/
lemma mem_rowText (h : c ∈ traceLine (rowText i bytes)) :
    c = 0x20 ∨ isSpace c = false ∧ c ≠ 0x67 := by
  rw [traceLine_rowText, List.mem_cons, List.mem_cons, List.mem_flatMap] at h
  rcases h with h | h | ⟨w, hw, hc⟩
  · exact .inl h
  · exact .inl h
  · rcases List.mem_append.mp hc with hc | hc
    · exact .inr ((rowWords_plain i bytes w hw).2 c hc)
    · exact .inl (List.mem_singleton.mp hc)

end Words

/-! ## The numbers that are read -/

section Numbers

variable {k n m : ℕ}

lemma hexValue_append (digits digits' : List UInt8) :
    hexValue n (digits ++ digits') = (hexValue n digits).bind fun m => hexValue m digits' := by
  induction digits generalizing n with
  | nil => rfl
  | cons c digits ih =>
      rw [List.cons_append, hexValue, hexValue]
      cases hexDigitValue c with
      | none => rfl
      | some d => exact ih

/-- The digits of a number are read as the number. -/
lemma hexValue_hexDigits (h : n < 16 ^ k) : hexValue m (hexDigits k n) = some (16 ^ k * m + n) := by
  induction k generalizing n with
  | zero =>
      rw [show n = 0 by simpa using h]
      simp [hexDigits, hexValue]
  | succ k ih =>
      have hdiv : n / 16 < 16 ^ k := by
        rw [pow_succ'] at h
        exact Nat.div_lt_of_lt_mul h
      have hdigit := hexDigitValue_hexDigit (n % 16) (Nat.mod_lt _ (by omega))
      rw [hexDigits, hexValue_append, ih hdiv]
      simp only [Option.bind_some, hexValue, hdigit, bind]
      have hn := Nat.div_add_mod n 16
      rw [pow_succ', Nat.mul_add, Nat.mul_assoc, Nat.add_assoc, hn]

lemma log_byte (b : UInt8) : max 2 (Nat.log 16 b.toNat + 1) = 2 := by
  have hlt : Nat.log 16 b.toNat < 2 :=
    Nat.log_lt_of_lt_pow' (by omega) (by have := b.toNat_lt; omega)
  omega

/-- **Digits behind `0x` are read as their number.** -/
lemma int16_hex {k n : ℕ} (hk : k ≠ 0) (hn : n < 16 ^ k) :
    int16 (ascii "0x" ++ hexDigits k n) = some (n : ℤ) := by
  have hvalue : hexValue 0 (hexDigits k n) = some n := by
    rw [hexValue_hexDigits hn, Nat.mul_zero, Nat.zero_add]
  have hne : hexDigits k n ≠ [] := by
    intro hnil
    have hlen := hexDigits_length k n
    rw [hnil] at hlen
    exact hk hlen.symm
  have hpre : ascii "0x" <+: (0x30 :: 0x78 :: hexDigits k n) := ⟨_, rfl⟩
  have hunsigned : unsignedInt16 (0x30 :: 0x78 :: hexDigits k n) = some n := by
    simp only [unsignedInt16, hpre, true_or, if_true]
    exact (if_neg hne).trans hvalue
  show int16 (0x30 :: 0x78 :: hexDigits k n) = _
  rw [int16, if_neg (by simp), if_neg (by simp), hunsigned]
  rfl

lemma int16_byteWord (b : UInt8) : int16 (byteWord b) = some (b.toNat : ℤ) := by
  rw [byteWord, hexPadded, log_byte]
  exact int16_hex (by decide) (by have := b.toNat_lt; omega)

lemma mapM_byteWord (bytes : List UInt8) :
    (bytes.map byteWord).mapM int16 = some (bytes.map fun b => (b.toNat : ℤ)) := by
  induction bytes with
  | nil => rfl
  | cons b bytes ih => simp [int16_byteWord, ih]

end Numbers

/-! ## The dump -/

section Dump

variable {p : HIDParser} {bytes : List UInt8}

lemma sprintf_of_lt {n : ℕ} {text : List UInt8} (h : text.length < n) :
    sprintf n text = some ⟨text, h⟩ := dif_pos h

lemma positionText_eq (i : ℕ) : positionText i = rowText i [] := by
  rw [positionText, rowText, positionWord]
  simp [ascii]

lemma byteText_eq (b : UInt8) : byteText b = byteWord b ++ [0x20] := rfl

lemma rowText_append (i : ℕ) (bytes : List UInt8) (b : UInt8) :
    rowText i bytes ++ byteText b = rowText i (bytes ++ [b]) := by
  simp [rowText, byteText_eq]

lemma byteText_length (b : UInt8) : (byteText b).length = 5 := by
  rw [byteText, hexPadded, log_byte]
  simp [hexDigits_length, ascii]

lemma positionText_length {i : ℕ} (hi : i < 65536) : (positionText i).length ≤ 8 := by
  have hlog : Nat.log 16 i < 4 := Nat.log_lt_of_lt_pow' (by omega) (by omega)
  have hlen : 2 + max 3 (Nat.log 16 i + 1) ≤ 6 := by omega
  rw [positionText, hexPadded]
  simp only [List.length_append, hexDigits_length, ascii, List.length_map]
  simpa using hlen

/-- A line with eight bytes is far shorter than the array. -/
lemma rowText_length {i : ℕ} (hi : i < 65536) (bytes : List UInt8) :
    (rowText i bytes).length ≤ 8 + 5 * bytes.length := by
  induction bytes using List.reverseRecOn with
  | nil =>
      rw [← positionText_eq]
      exact positionText_length hi
  | append_singleton bytes b ih =>
      rw [← rowText_append, List.length_append, List.length_append, byteText_length]
      simp only [List.length_singleton]
      omega

/-- One byte: it is added to the row in the array, or to a new one. -/
lemma dumpLoop_byte {n i start : ℕ} {b : UInt8} {row : List UInt8} {buffer line : CString 160}
    (hb : p.reportDesc[i]? = some b)
    (hline : lineOf i buffer = some line) (htext : line.text = rowText start row)
    (hstart : start < 65536) (hrow : row.length < 8) :
    ∃ next : CString 160, next.text = rowText start (row ++ [b]) ∧
      dumpLoop p (n + 1) i buffer = (dumpLoop p n (i + 1) next).map fun texts =>
        if i % 8 = 0 ∧ i ≠ 0 then buffer.text :: texts else texts := by
  have htmp : (byteText b).length < 10 := by
    rw [byteText_length]
    omega
  have hnext : (line.text ++ byteText b).length < 160 := by
    have hlen := rowText_length hstart (row ++ [b])
    rw [List.length_append, List.length_singleton] at hlen
    rw [htext, rowText_append]
    omega
  refine ⟨⟨_, hnext⟩, (congrArg (· ++ byteText b) htext).trans (rowText_append start row b), ?_⟩
  have hcat : line.strcat ⟨byteText b, htmp⟩ = some ⟨_, hnext⟩ := sprintf_of_lt hnext
  simp only [dumpLoop, hline, hb, sprintf_of_lt htmp, hcat, Option.bind_eq_bind, Option.bind_some]
  cases dumpLoop p n (i + 1) ⟨_, hnext⟩ <;> rfl

/-- **The dump loop stays in its arrays, and shows the bytes in rows.**  The row in the array begins
at a multiple of eight. -/
lemma dumpLoop_rows (hp : p.Holds bytes) {start : ℕ} {row rest : List UInt8} {buffer : CString 160}
    (hstart : start % 8 = 0) (hrow : row.length ≤ 8)
    (hrest : bytes.drop (start + row.length) = rest) (hbuffer : buffer.text = rowText start row) :
    ∃ rows : List (ℕ × List UInt8), dumpLoop p rest.length (start + row.length) buffer =
        some (rows.map fun r => rowText r.1 r.2) ∧ rows.flatMap (·.2) = row ++ rest := by
  induction rest generalizing start row buffer with
  | nil =>
      refine ⟨[(start, row)], ?_, by simp⟩
      rw [List.length_nil, dumpLoop, hbuffer]
      rfl
  | cons b rest ih =>
      have hlt : start + row.length < bytes.length := by
        by_contra hge
        rw [List.drop_eq_nil_of_le (Nat.le_of_not_lt hge)] at hrest
        cases hrest
      have hle := hp.length_le
      have hdsc : reportDscSize = 6144 := rfl
      rw [List.drop_eq_getElem_cons hlt, List.cons.injEq] at hrest
      obtain ⟨rfl, hrest⟩ := hrest
      have hb : p.reportDesc[start + row.length]? = some bytes[start + row.length] := by
        rw [Vector.getElem?_eq_getElem (by omega), hp.getElem hlt (by omega)]
      by_cases hnew : (start + row.length) % 8 = 0
      · -- a new row begins, behind the one in the array
        have hlen := positionText_length (i := start + row.length) (by omega)
        obtain ⟨next, htext, hloop⟩ := dumpLoop_byte (n := rest.length) hb
          ((if_pos hnew).trans (sprintf_of_lt (by omega))) (positionText_eq _) (by omega)
          (Nat.zero_lt_succ 7)
        obtain ⟨rows, hrows, hbytes⟩ := @ih (start + row.length) [_] _ hnew (by simp) hrest htext
        rw [List.length_singleton] at hrows
        rw [List.length_cons, hloop, hrows, Option.map_some]
        by_cases hzero : start + row.length = 0
        · obtain rfl : row = [] := List.eq_nil_of_length_eq_zero (by omega)
          exact ⟨rows, by rw [if_neg fun h => h.2 hzero], hbytes⟩
        · refine ⟨(start, row) :: rows, ?_, ?_⟩
          · rw [if_pos ⟨hnew, hzero⟩, hbuffer]
            rfl
          · rw [List.flatMap_cons, hbytes]
            rfl
      · -- the row in the array gets the byte
        obtain ⟨next, htext, hloop⟩ := dumpLoop_byte (n := rest.length) hb (if_neg hnew) hbuffer
          (by omega) (by omega)
        have hlen : (row ++ [bytes[start + row.length]]).length = row.length + 1 := by simp
        obtain ⟨rows, hrows, hbytes⟩ := @ih start (row ++ [_]) _ hstart (by omega)
          (by rw [hlen]; exact hrest) htext
        rw [hlen, ← Nat.add_assoc] at hrows
        refine ⟨rows, ?_, by rw [hbytes, List.append_assoc]; rfl⟩
        rw [List.length_cons, hloop, hrows, Option.map_some, if_neg fun h => hnew h.1]

/-- The dump of a parser is made of rows with its bytes. -/
lemma rawDump_rows (hp : p.Holds bytes) :
    ∃ rows : List (ℕ × List UInt8), rawDump p = some (rows.map fun r => rowText r.1 r.2) ∧
      rows.flatMap (·.2) = bytes := by
  have hlen : (positionText 0).length < 160 :=
    (positionText_length (by omega)).trans_lt (by omega)
  obtain ⟨rows, hrows, hbytes⟩ := @dumpLoop_rows p bytes hp 0 [] bytes ⟨positionText 0, hlen⟩
    rfl (Nat.zero_le 8) rfl (positionText_eq 0)
  refine ⟨rows, ?_, hbytes⟩
  rw [rawDump, sprintf_of_lt hlen, hp.size]
  exact hrows

end Dump

/-! ## The file -/

/-- The bytes of the descriptor that a part shows. -/
def TracePart.bytes : TracePart → List UInt8
  | .line _ => []
  | .dump _ p => p.reportDesc.toList.take p.reportDescSize.toNat

/-- A part is as the library writes it: a line from elsewhere has not the words in front of a dump,
no line is broken in two, and a descriptor that is dumped was received. -/
def TracePart.Plain : TracePart → Prop
  | .line text => 0x0A ∉ text ∧ ¬ ascii "raw report descriptor" <:+: text
  | .dump id p => 0x0A ∉ id ∧ p.reportDescSize.toNat ≤ reportDscSize

section File

variable {l : List UInt8} {file : List (List UInt8)} {part : TracePart} {parts : List TracePart}

lemma rowText_clean (i : ℕ) (bytes : List UInt8) : 0x0A ∉ traceLine (rowText i bytes) := by
  intro h
  rcases mem_rowText h with h | h
  · exact absurd h (by decide)
  · exact absurd h.1 (by decide)

/-- A row of bytes has no `g`. -/
lemma rowText_unended (i : ℕ) (bytes : List UInt8) :
    ¬ ascii "parsing the HID tree" <:+: traceLine (rowText i bytes) := by
  intro h
  have hg : (0x67 : UInt8) ∈ ascii "parsing the HID tree" := by decide
  rcases mem_rowText (h.subset hg) with h | h
  · exact absurd h (by decide)
  · exact h.2 rfl

/-- The script collects the bytes of the rows. -/
lemma descriptorText_rows (rows : List (ℕ × List UInt8)) :
    descriptorText true ((rows.map fun r => traceLine (rowText r.1 r.2)) ++ file) =
      (rows.flatMap (·.2)).map byteWord ++ descriptorText true file := by
  induction rows with
  | nil => rfl
  | cons r rows ih =>
      rw [List.map_cons, List.cons_append, descriptorText, if_neg (rowText_unended r.1 r.2),
        words_rowText, ih, List.flatMap_cons, List.map_append, List.append_assoc]

lemma begins_dump :
    ascii "raw report descriptor" <:+: traceLine (ascii "dumping the raw report descriptor") :=
  ⟨ascii "  TRACE: hid_prepare_parser(): dumping the ", [], by decide⟩

lemma ends_dump (id : List UInt8) : ascii "parsing the HID tree" <:+:
    traceLine (ascii "parsing the HID tree of USB device " ++ id ++ ascii "...") := by
  have hsplit : ascii "parsing the HID tree of USB device " =
      ascii "parsing the HID tree" ++ ascii " of USB device " := by decide
  refine ⟨ascii "  TRACE: hid_prepare_parser(): ", ascii " of USB device " ++ id ++ ascii "...", ?_⟩
  rw [traceLine, hsplit]
  simp only [List.append_assoc]

/-- **A part of the file is read as the bytes it shows**, and the next part is read as before. -/
lemma TracePart.Plain.read (h : part.Plain) : ∃ ls, part.lines = some ls ∧
    (∀ l ∈ ls, 0x0A ∉ l) ∧
    descriptorText false (ls ++ file) = part.bytes.map byteWord ++ descriptorText false file := by
  cases part with
  | line text =>
      refine ⟨[text], rfl, by simpa using h.1, ?_⟩
      have hread : descriptorText false (text :: file) = descriptorText false file := by
        rw [descriptorText, decide_eq_false h.2]
      exact hread
  | dump id p =>
      have hholds : p.Holds (TracePart.dump id p).bytes := by
        have hlen : (TracePart.dump id p).bytes.length = p.reportDescSize.toNat := by
          rw [TracePart.bytes, List.length_take, Vector.length_toList]
          exact Nat.min_eq_left h.2
        exact ⟨hlen.symm, by rw [hlen]; rfl⟩
      obtain ⟨rows, hrows, hbytes⟩ := rawDump_rows hholds
      refine ⟨_, by rw [TracePart.lines, hrows]; rfl, ?_, ?_⟩
      · have hbegin : 0x0A ∉ traceLine (ascii "dumping the raw report descriptor") := by decide
        have hend : 0x0A ∉ ascii "  TRACE: hid_prepare_parser(): " ++
            ascii "parsing the HID tree of USB device " ++ ascii "..." := by decide
        simp only [List.mem_append, List.mem_cons, List.mem_map, List.not_mem_nil, or_false]
        rintro l ((rfl | ⟨text, ⟨r, -, rfl⟩, rfl⟩) | rfl)
        · exact hbegin
        · exact rowText_clean r.1 r.2
        · simp only [List.mem_append, not_or] at hend
          simpa only [traceLine, List.mem_append, not_or] using
            ⟨hend.1.1, ⟨hend.1.2, h.1⟩, hend.2⟩
      · rw [List.append_assoc, List.cons_append, descriptorText, decide_eq_true begins_dump,
          List.map_map, ← hbytes]
        have hread := @descriptorText_rows (traceLine
          (ascii "parsing the HID tree of USB device " ++ id ++ ascii "...") :: file) rows
        rw [descriptorText, if_pos (ends_dump id)] at hread
        exact hread

/-- The parts of a file are read one after the other. -/
lemma mapM_lines_read (h : ∀ part ∈ parts, part.Plain) :
    ∃ lss, parts.mapM TracePart.lines = some lss ∧ (∀ l ∈ lss.flatten, 0x0A ∉ l) ∧
      descriptorText false lss.flatten = (parts.flatMap TracePart.bytes).map byteWord := by
  induction parts with
  | nil => exact ⟨[], rfl, by simp, rfl⟩
  | cons part parts ih =>
      obtain ⟨hpart, hparts⟩ := List.forall_mem_cons.mp h
      obtain ⟨lss, hlss, hclean, hread⟩ := ih hparts
      obtain ⟨ls, hls, hclean', hread'⟩ := @TracePart.Plain.read lss.flatten _ hpart
      refine ⟨ls :: lss, by simp [hls, hlss], ?_, ?_⟩
      · rw [List.flatten_cons]
        exact List.forall_mem_append.mpr ⟨hclean', hclean⟩
      · rw [List.flatten_cons, hread', hread, List.flatMap_cons, List.map_append]

/-- No dump leaves the arrays it is formatted in. -/
lemma traceFile_written (h : ∀ part ∈ parts, part.Plain) : ∃ file, traceFile parts = some file := by
  obtain ⟨lss, hlss, -, -⟩ := mapM_lines_read h
  exact ⟨_, by rw [traceFile, hlss]; rfl⟩

/-- The script takes the bytes of all descriptors from the file. -/
lemma traceFile_read {file : List UInt8} (h : ∀ part ∈ parts, part.Plain)
    (hfile : traceFile parts = some file) :
    extractBytesLibhid file =
      some ((parts.flatMap TracePart.bytes).map fun b => (b.toNat : ℤ)) := by
  obtain ⟨lss, hlss, hclean, hread⟩ := mapM_lines_read h
  rw [traceFile, hlss] at hfile
  obtain rfl := Option.some.inj hfile
  rw [extractBytesLibhid, lines_flatMap hclean, hread, mapM_byteWord]

/-- **The script reads the descriptors that the library dumped.**  The library writes the file: no
dump leaves the arrays it is formatted in.  And the script takes from it the bytes of all the
descriptors, in order, whatever lines stand in front of the dumps, between and behind them. -/
theorem trace_extracted (h : ∀ part ∈ parts, part.Plain) :
    ∃ file, traceFile parts = some file ∧ extractBytesLibhid file =
      some ((parts.flatMap TracePart.bytes).map fun b => (b.toNat : ℤ)) := by
  obtain ⟨file, hfile⟩ := traceFile_written h
  exact ⟨file, hfile, traceFile_read h hfile⟩

/-- A notice of the library and the dump of a keyboard's first two items. -/
theorem trace_extracted_bench :
    ∃ file, traceFile [.line (ascii " NOTICE: hid_init(): successfully initialised HID library."),
        .dump (ascii "001/003[0]") (.holding [0x05, 0x01, 0x09, 0x06])] = some file ∧
      extractBytesLibhid file = some [0x05, 0x01, 0x09, 0x06] :=
  trace_extracted (List.forall_mem_cons.mpr
    ⟨⟨by decide, by decide⟩, List.forall_mem_singleton.mpr ⟨by decide, by decide⟩⟩)

end File

end Libhid
