import Flowplane.Basic

/-
**Reading a URL's query, as a client that follows a redirect does.**

A client reads the `Location` of a redirect as a path and a query, and the query as the
`application/x-www-form-urlencoded` pairs that `form_urlencoded::parse` of the `url` crates
yields.  Each name and each value is decoded: a `+` becomes a space, a `%` followed by two
hexadecimal digits becomes the byte they write (`percent_encoding::percent_decode`), and the bytes
are read as UTF-8, a sequence that is not valid giving `U+FFFD` (`String::from_utf8_lossy`).  None
of these functions is among the sources: they are library code, modelled here after the crates
they come from, on the bytes they work on.

What the rest stands on is that the UTF-8 bytes of a string decode to the string.  The encoder,
`char::encode_utf8`, is written with `/` and `%` on `ℕ` rather than with bit operations, so that
each of its four cases is closed by `omega`; the decoder checks the byte ranges `Utf8Chunks`
checks, and takes a byte past the end as `0`, as its `safe_get` does.  The decoder gets one rule
per length of sequence (`Flowplane.decodeUtf8Step_one` to `Flowplane.decodeUtf8Step_four`), and
the round trip of a character is assembled from them.

Main definitions:

* `Flowplane.encodeUtf8`, `Flowplane.utf8Bytes` — `char::encode_utf8` and `str::as_bytes`;
* `Flowplane.decodeUtf8Step`, `Flowplane.decodeUtf8Lossy` — `String::from_utf8_lossy`;
* `Flowplane.percentDecode`, `Flowplane.formDecode`, `Flowplane.parseForm` — `percent_decode`, the
  decoding of a name or a value, and `form_urlencoded::parse`;
* `Flowplane.splitPathQuery` — the path and the query of a URI reference.

Main results:

* `Flowplane.decodeUtf8Lossy_utf8Bytes` — **the UTF-8 bytes of a string decode to the string**;
* `Flowplane.formDecode_utf8Bytes` — a text without `+` and `%` decodes to itself;
* `Flowplane.parseForm_pair` — **a query of one pair reads back as that pair**, when neither part
  holds `&`, `+` or `%` and the name holds no `=`.
-/

set_option autoImplicit false

namespace Flowplane

/-! ### UTF-8 -/

/-- `char::encode_utf8`: one byte below `0x80`; otherwise a lead byte that carries the length of
the sequence and the high bits, then six bits per continuation byte, under the tag `0b10`. -/
def encodeUtf8 (c : Char) : List UInt8 :=
  let n := c.toNat
  if n < 0x80 then [n.toUInt8]
  else if n < 0x800 then [(0xC0 + n / 0x40).toUInt8, (0x80 + n % 0x40).toUInt8]
  else if n < 0x10000 then
    [(0xE0 + n / 0x1000).toUInt8, (0x80 + n / 0x40 % 0x40).toUInt8, (0x80 + n % 0x40).toUInt8]
  else
    [(0xF0 + n / 0x40000).toUInt8, (0x80 + n / 0x1000 % 0x40).toUInt8,
      (0x80 + n / 0x40 % 0x40).toUInt8, (0x80 + n % 0x40).toUInt8]

/-- `str::as_bytes`: the UTF-8 encoding of a string. -/
def utf8Bytes (s : String) : List UInt8 := s.data.flatMap encodeUtf8

/-- A continuation byte, `0b10xxxxxx`. -/
def isContinuationByte (b : ℕ) : Bool := 0x80 ≤ b && b < 0xC0

/-- The second bytes `Utf8Chunks` accepts after the lead byte of a three-byte sequence: none that
makes the sequence overlong after `0xE0`, or a surrogate after `0xED`. -/
def secondOfThreeOk (lead b : ℕ) : Bool :=
  if lead = 0xE0 then 0xA0 ≤ b && b ≤ 0xBF
  else if lead = 0xED then 0x80 ≤ b && b ≤ 0x9F
  else 0x80 ≤ b && b ≤ 0xBF

/-- The second bytes `Utf8Chunks` accepts after the lead byte of a four-byte sequence: none that
makes the sequence overlong after `0xF0`, or goes past `U+10FFFF` after `0xF4`. -/
def secondOfFourOk (lead b : ℕ) : Bool :=
  if lead = 0xF0 then 0x90 ≤ b && b ≤ 0xBF
  else if lead = 0xF4 then 0x80 ≤ b && b ≤ 0x8F
  else 0x80 ≤ b && b ≤ 0xBF

/-- `char::REPLACEMENT_CHARACTER`, `U+FFFD`. -/
def replacementCharacter : Char := Char.ofNat 0xFFFD

/-- One step of `String::from_utf8_lossy`, from the lead byte `b` of what is left: the scalar of
the sequence `b` starts and the bytes after it, or `U+FFFD` for the part of the sequence read
before a check failed and the bytes after that part.  A byte past the end reads as `0`, which no
check accepts. -/
def decodeUtf8Step (b : UInt8) (rest : List UInt8) : Char × List UInt8 :=
  let n := b.toNat
  let b1 := (rest.getD 0 0).toNat
  let b2 := (rest.getD 1 0).toNat
  let b3 := (rest.getD 2 0).toNat
  if n < 0x80 then (Char.ofNat n, rest)
  else if 0xC2 ≤ n ∧ n ≤ 0xDF then
    if isContinuationByte b1 then (Char.ofNat (n % 0x20 * 0x40 + b1 % 0x40), rest.drop 1)
    else (replacementCharacter, rest)
  else if 0xE0 ≤ n ∧ n ≤ 0xEF then
    if secondOfThreeOk n b1 then
      if isContinuationByte b2 then
        (Char.ofNat (n % 0x10 * 0x1000 + b1 % 0x40 * 0x40 + b2 % 0x40), rest.drop 2)
      else (replacementCharacter, rest.drop 1)
    else (replacementCharacter, rest)
  else if 0xF0 ≤ n ∧ n ≤ 0xF4 then
    if secondOfFourOk n b1 then
      if isContinuationByte b2 then
        if isContinuationByte b3 then
          (Char.ofNat (n % 0x08 * 0x40000 + b1 % 0x40 * 0x1000 + b2 % 0x40 * 0x40 + b3 % 0x40),
            rest.drop 3)
        else (replacementCharacter, rest.drop 2)
      else (replacementCharacter, rest.drop 1)
    else (replacementCharacter, rest)
  else (replacementCharacter, rest)

/-- The loop of `String::from_utf8_lossy`.  A step consumes at least one byte, so as many steps as
there are bytes are enough. -/
def decodeUtf8LossyAux : ℕ → List UInt8 → List Char
  | 0, _ => []
  | _ + 1, [] => []
  | fuel + 1, b :: rest =>
      let step := decodeUtf8Step b rest
      step.1 :: decodeUtf8LossyAux fuel step.2

/-- `String::from_utf8_lossy`. -/
def decodeUtf8Lossy (bytes : List UInt8) : String := ⟨decodeUtf8LossyAux bytes.length bytes⟩

theorem toNat_toUInt8_of_lt {n : ℕ} (h : n < 256) : n.toUInt8.toNat = n :=
  UInt8.toNat_ofNat_of_lt h

@[simp] theorem isContinuationByte_eq_true_iff (b : ℕ) :
    isContinuationByte b = true ↔ 0x80 ≤ b ∧ b < 0xC0 := by
  simp [isContinuationByte]

@[simp] theorem secondOfThreeOk_eq_true_iff (lead b : ℕ) :
    secondOfThreeOk lead b = true ↔
      (lead = 0xE0 → 0xA0 ≤ b) ∧ (lead = 0xED → b ≤ 0x9F) ∧ 0x80 ≤ b ∧ b ≤ 0xBF := by
  unfold secondOfThreeOk
  split_ifs <;> simp_all <;> omega

@[simp] theorem secondOfFourOk_eq_true_iff (lead b : ℕ) :
    secondOfFourOk lead b = true ↔
      (lead = 0xF0 → 0x90 ≤ b) ∧ (lead = 0xF4 → b ≤ 0x8F) ∧ 0x80 ≤ b ∧ b ≤ 0xBF := by
  unfold secondOfFourOk
  split_ifs <;> simp_all <;> omega

/-- A byte below `0x80` is a character by itself. -/
theorem decodeUtf8Step_one {b : UInt8} (h : b.toNat < 0x80) (rest : List UInt8) :
    decodeUtf8Step b rest = (Char.ofNat b.toNat, rest) :=
  if_pos h

/-- A lead byte of two bytes, then a continuation byte. -/
theorem decodeUtf8Step_two {b b1 : UInt8} (h : 0xC2 ≤ b.toNat ∧ b.toNat ≤ 0xDF)
    (h1 : isContinuationByte b1.toNat = true) (rest : List UInt8) :
    decodeUtf8Step b (b1 :: rest) =
      (Char.ofNat (b.toNat % 0x20 * 0x40 + b1.toNat % 0x40), rest) := by
  simp only [decodeUtf8Step, List.getD_cons_zero, if_neg (show ¬ b.toNat < 0x80 by omega),
    if_pos h, h1, if_true, List.drop_succ_cons, List.drop_zero]

/-- A lead byte of three bytes, a second byte in its range, then a continuation byte. -/
theorem decodeUtf8Step_three {b b1 b2 : UInt8} (h : 0xE0 ≤ b.toNat ∧ b.toNat ≤ 0xEF)
    (h1 : secondOfThreeOk b.toNat b1.toNat = true) (h2 : isContinuationByte b2.toNat = true)
    (rest : List UInt8) :
    decodeUtf8Step b (b1 :: b2 :: rest) =
      (Char.ofNat (b.toNat % 0x10 * 0x1000 + b1.toNat % 0x40 * 0x40 + b2.toNat % 0x40), rest) := by
  simp only [decodeUtf8Step, List.getD_cons_zero, List.getD_cons_succ,
    if_neg (show ¬ b.toNat < 0x80 by omega),
    if_neg (show ¬ (0xC2 ≤ b.toNat ∧ b.toNat ≤ 0xDF) by omega), if_pos h, h1, h2, if_true,
    List.drop_succ_cons, List.drop_zero]

/-- A lead byte of four bytes, a second byte in its range, then two continuation bytes. -/
theorem decodeUtf8Step_four {b b1 b2 b3 : UInt8} (h : 0xF0 ≤ b.toNat ∧ b.toNat ≤ 0xF4)
    (h1 : secondOfFourOk b.toNat b1.toNat = true) (h2 : isContinuationByte b2.toNat = true)
    (h3 : isContinuationByte b3.toNat = true) (rest : List UInt8) :
    decodeUtf8Step b (b1 :: b2 :: b3 :: rest) =
      (Char.ofNat (b.toNat % 0x08 * 0x40000 + b1.toNat % 0x40 * 0x1000 + b2.toNat % 0x40 * 0x40 +
        b3.toNat % 0x40), rest) := by
  simp only [decodeUtf8Step, List.getD_cons_zero, List.getD_cons_succ,
    if_neg (show ¬ b.toNat < 0x80 by omega),
    if_neg (show ¬ (0xC2 ≤ b.toNat ∧ b.toNat ≤ 0xDF) by omega),
    if_neg (show ¬ (0xE0 ≤ b.toNat ∧ b.toNat ≤ 0xEF) by omega), if_pos h, h1, h2, h3, if_true,
    List.drop_succ_cons, List.drop_zero]

/-- Six bits under the tag `0b10` fit in a byte, and make a continuation byte. -/
theorem toNat_tag (k : ℕ) : (0x80 + k % 0x40).toUInt8.toNat = 0x80 + k % 0x40 :=
  toNat_toUInt8_of_lt (by omega)

theorem isContinuationByte_tag (k : ℕ) :
    isContinuationByte (0x80 + k % 0x40).toUInt8.toNat = true := by
  rw [toNat_tag, isContinuationByte_eq_true_iff]
  omega

/-- **A step reads a character back from its encoding**, whatever follows it: the checks of the
decoder accept exactly the ranges the encoder writes in, surrogates and all. -/
theorem decodeUtf8Step_encodeUtf8 (c : Char) (rest : List UInt8) :
    ∃ b bs, encodeUtf8 c = b :: bs ∧ decodeUtf8Step b (bs ++ rest) = (c, rest) := by
  have hv : c.toNat < 0xD800 ∨ (0xDFFF < c.toNat ∧ c.toNat < 0x110000) := c.valid
  dsimp only [encodeUtf8]
  split_ifs with h1 h2 h3 <;> refine ⟨_, _, rfl, ?_⟩ <;>
    simp only [List.cons_append, List.nil_append]
  · have h0 := toNat_toUInt8_of_lt (show c.toNat < 256 by omega)
    rw [decodeUtf8Step_one (by rw [h0]; exact h1), h0, Char.ofNat_toNat]
  · have h0 := toNat_toUInt8_of_lt (show 0xC0 + c.toNat / 0x40 < 256 by omega)
    rw [decodeUtf8Step_two (by rw [h0]; omega) (isContinuationByte_tag _), h0, toNat_tag]
    rw [show (0xC0 + c.toNat / 0x40) % 0x20 * 0x40 + (0x80 + c.toNat % 0x40) % 0x40 = c.toNat by
      omega, Char.ofNat_toNat]
  · have h0 := toNat_toUInt8_of_lt (show 0xE0 + c.toNat / 0x1000 < 256 by omega)
    have hsecond : secondOfThreeOk (0xE0 + c.toNat / 0x1000) (0x80 + c.toNat / 0x40 % 0x40) := by
      rw [secondOfThreeOk_eq_true_iff]
      omega
    rw [decodeUtf8Step_three (by rw [h0]; omega) (by rw [h0, toNat_tag]; exact hsecond)
      (isContinuationByte_tag _), h0, toNat_tag, toNat_tag]
    rw [show (0xE0 + c.toNat / 0x1000) % 0x10 * 0x1000 +
        (0x80 + c.toNat / 0x40 % 0x40) % 0x40 * 0x40 + (0x80 + c.toNat % 0x40) % 0x40 = c.toNat by
      omega, Char.ofNat_toNat]
  · have hlt : c.toNat < 0x110000 := by omega
    clear hv
    have h0 := toNat_toUInt8_of_lt (show 0xF0 + c.toNat / 0x40000 < 256 by omega)
    have hsecond : secondOfFourOk (0xF0 + c.toNat / 0x40000) (0x80 + c.toNat / 0x1000 % 0x40) := by
      rw [secondOfFourOk_eq_true_iff]
      omega
    rw [decodeUtf8Step_four (by rw [h0]; omega) (by rw [h0, toNat_tag]; exact hsecond)
      (isContinuationByte_tag _) (isContinuationByte_tag _), h0, toNat_tag, toNat_tag, toNat_tag]
    rw [show (0xF0 + c.toNat / 0x40000) % 0x08 * 0x40000 +
        (0x80 + c.toNat / 0x1000 % 0x40) % 0x40 * 0x1000 +
        (0x80 + c.toNat / 0x40 % 0x40) % 0x40 * 0x40 + (0x80 + c.toNat % 0x40) % 0x40 = c.toNat by
      omega, Char.ofNat_toNat]

/-- The loop reads a list of characters back from its encoding, given a step per character. -/
theorem decodeUtf8LossyAux_flatMap (l : List Char) {fuel : ℕ} (h : l.length ≤ fuel) :
    decodeUtf8LossyAux fuel (l.flatMap encodeUtf8) = l := by
  induction l generalizing fuel with
  | nil => cases fuel <;> rfl
  | cons c l ih =>
      obtain ⟨fuel, rfl⟩ := Nat.exists_eq_add_of_lt (Nat.lt_of_lt_of_le (Nat.zero_lt_succ _) h)
      obtain ⟨b, bs, hc, hstep⟩ := decodeUtf8Step_encodeUtf8 c (l.flatMap encodeUtf8)
      rw [List.flatMap_cons, hc, List.cons_append, decodeUtf8LossyAux, hstep,
        ih (by simp at h; omega)]

/-- A string has at least as many bytes as characters. -/
theorem length_le_length_utf8Bytes (s : String) : s.data.length ≤ (utf8Bytes s).length := by
  unfold utf8Bytes
  induction s.data with
  | nil => exact Nat.le_refl _
  | cons c l ih =>
      obtain ⟨b, bs, hc, -⟩ := decodeUtf8Step_encodeUtf8 c []
      simp only [List.flatMap_cons, List.length_append, List.length_cons, hc]
      omega

/-- **The UTF-8 bytes of a string decode to the string.** -/
theorem decodeUtf8Lossy_utf8Bytes (s : String) : decodeUtf8Lossy (utf8Bytes s) = s :=
  congrArg String.mk (decodeUtf8LossyAux_flatMap s.data (length_le_length_utf8Bytes s))

/-- A byte below `0x80` occurs in the encoding of a character only as the character itself: the
bytes of a longer sequence all have the high bit set. -/
theorem toNat_eq_of_mem_encodeUtf8 {c : Char} {b : UInt8} (hb : b ∈ encodeUtf8 c)
    (hlt : b.toNat < 0x80) : c.toNat = b.toNat := by
  have hv : c.toNat < 0xD800 ∨ (0xDFFF < c.toNat ∧ c.toNat < 0x110000) := c.valid
  dsimp only [encodeUtf8] at hb
  split_ifs at hb <;> simp only [List.mem_cons, List.mem_singleton, List.not_mem_nil,
    or_false] at hb <;> rcases hb with rfl | rfl | rfl | rfl <;>
    rw [toNat_toUInt8_of_lt (by omega)] at hlt ⊢ <;> omega

theorem utf8Bytes_append (s t : String) : utf8Bytes (s ++ t) = utf8Bytes s ++ utf8Bytes t := by
  simp [utf8Bytes]

/-- The encoding of a string holds an ASCII byte only where the string holds its character. -/
theorem toNat_ne_of_mem_utf8Bytes {s : String} {c : Char} (hc : c.toNat < 0x80)
    (h : c ∉ s.data) : ∀ b ∈ utf8Bytes s, b.toNat ≠ c.toNat := by
  intro b hb e
  obtain ⟨d, hd, hmem⟩ := List.mem_flatMap.1 hb
  have hdc : d.toNat = c.toNat := (toNat_eq_of_mem_encodeUtf8 hmem (e ▸ hc)).trans e
  exact h (by rw [← Char.ofNat_toNat c, ← hdc, Char.ofNat_toNat]; exact hd)

/-! ### Percent-decoding -/

/-- `char::from(b).to_digit(16)`: the value of a hexadecimal digit, in either case. -/
def hexDigitValue (b : UInt8) : Option ℕ :=
  let n := b.toNat
  if 0x30 ≤ n ∧ n ≤ 0x39 then some (n - 0x30)
  else if 0x61 ≤ n ∧ n ≤ 0x66 then some (n - 0x61 + 10)
  else if 0x41 ≤ n ∧ n ≤ 0x46 then some (n - 0x41 + 10)
  else none

/-- `percent_encoding::percent_decode`: a `%` and two hexadecimal digits become the byte they
write; every other byte, a `%` without two digits after it included, is kept. -/
def percentDecode : List UInt8 → List UInt8
  | [] => []
  | b :: h :: l :: rest =>
      if b.toNat = 0x25 then
        match hexDigitValue h, hexDigitValue l with
        | some hv, some lv => (hv * 0x10 + lv).toUInt8 :: percentDecode rest
        | _, _ => b :: percentDecode (h :: l :: rest)
      else b :: percentDecode (h :: l :: rest)
  | b :: rest => b :: percentDecode rest

/-- `replace_plus`: every `+` becomes a space. -/
def replacePlus (bytes : List UInt8) : List UInt8 :=
  bytes.map fun b => if b.toNat = 0x2B then 0x20 else b

/-- The decoding `form_urlencoded` applies to a name or a value. -/
def formDecode (bytes : List UInt8) : String := decodeUtf8Lossy (percentDecode (replacePlus bytes))

/-- A byte other than `%` is kept by the percent-decoding. -/
theorem percentDecode_cons_of_ne {b : UInt8} (hb : b.toNat ≠ 0x25) (rest : List UInt8) :
    percentDecode (b :: rest) = b :: percentDecode rest := by
  match rest with
  | [] => rfl
  | [_] => rfl
  | _ :: _ :: _ => rw [percentDecode, if_neg hb]

/-- Bytes without `%` are kept by the percent-decoding. -/
theorem percentDecode_of_forall {bytes : List UInt8} (h : ∀ b ∈ bytes, b.toNat ≠ 0x25) :
    percentDecode bytes = bytes := by
  induction bytes with
  | nil => rfl
  | cons b rest ih =>
      rw [percentDecode_cons_of_ne (h b (List.mem_cons_self _ _)),
        ih fun b' hb' => h b' (List.mem_cons_of_mem _ hb')]

/-- Bytes without `+` are kept by `replace_plus`. -/
theorem replacePlus_of_forall {bytes : List UInt8} (h : ∀ b ∈ bytes, b.toNat ≠ 0x2B) :
    replacePlus bytes = bytes := by
  rw [replacePlus, List.map_congr_left fun b hb => if_neg (h b hb), List.map_id']

/-- **A text without `+` and `%` decodes to itself.** -/
theorem formDecode_utf8Bytes {s : String} (h : ∀ c ∈ s.data, c ≠ '+' ∧ c ≠ '%') :
    formDecode (utf8Bytes s) = s := by
  rw [formDecode, replacePlus_of_forall (toNat_ne_of_mem_utf8Bytes (c := '+') (by decide)
      fun hc => (h _ hc).1 rfl),
    percentDecode_of_forall (toNat_ne_of_mem_utf8Bytes (c := '%') (by decide)
      fun hc => (h _ hc).2 rfl),
    decodeUtf8Lossy_utf8Bytes]

/-! ### Queries -/

/-- `form_urlencoded::parse`: the query is cut at every `&`, empty pieces are skipped, and each
piece is cut at its first `=` into a name and a value, both decoded. -/
def parseForm (input : List UInt8) : List (String × String) :=
  ((input.splitOn 0x26).filter fun piece => !piece.isEmpty).map fun piece =>
    (formDecode (piece.takeWhile (·.toNat ≠ 0x3D)),
      formDecode ((piece.dropWhile (·.toNat ≠ 0x3D)).drop 1))

/-- The path and the query of a URI reference (RFC 3986): the text before the first `?` or `#`,
and, when a `?` ends the path, the text after it up to a `#`, where the fragment begins. -/
def splitPathQuery (s : String) : String × String :=
  let path := s.data.takeWhile fun c => c ≠ '?' ∧ c ≠ '#'
  match s.data.drop path.length with
  | '?' :: rest => (⟨path⟩, ⟨rest.takeWhile (· ≠ '#')⟩)
  | _ => (⟨path⟩, "")

/-- A query without `&` is a single piece, cut at its first `=`. -/
theorem parseForm_of_forall {input : List UInt8} (h : ∀ b ∈ input, b.toNat ≠ 0x26)
    (hne : input ≠ []) :
    parseForm input = [(formDecode (input.takeWhile (·.toNat ≠ 0x3D)),
      formDecode ((input.dropWhile (·.toNat ≠ 0x3D)).drop 1))] := by
  have hsplit : input.splitOn 0x26 = [input] :=
    List.splitOnP_eq_single _ _ fun b hb e => h b hb (by rw [beq_iff_eq.1 e]; rfl)
  simp [parseForm, hsplit, hne]

/-- **A query of one pair reads back as that pair**, when neither part holds `&`, `+` or `%` and
the name holds no `=`. -/
theorem parseForm_pair {k v : String} (hk : ∀ c ∈ k.data, c ≠ '&' ∧ c ≠ '+' ∧ c ≠ '%' ∧ c ≠ '=')
    (hv : ∀ c ∈ v.data, c ≠ '&' ∧ c ≠ '+' ∧ c ≠ '%') :
    parseForm (utf8Bytes (k ++ "=" ++ v)) = [(k, v)] := by
  have hkeq := toNat_ne_of_mem_utf8Bytes (c := '=') (by decide) fun hc => (hk _ hc).2.2.2 rfl
  have hkamp := toNat_ne_of_mem_utf8Bytes (c := '&') (by decide) fun hc => (hk _ hc).1 rfl
  have hvamp := toNat_ne_of_mem_utf8Bytes (c := '&') (by decide) fun hc => (hv _ hc).1 rfl
  have hbytes : utf8Bytes (k ++ "=" ++ v) = utf8Bytes k ++ 0x3D :: utf8Bytes v := by
    rw [utf8Bytes_append, utf8Bytes_append, List.append_assoc]
    rfl
  have htake : ∀ b ∈ utf8Bytes k, decide (b.toNat ≠ 0x3D) = true := fun b hb =>
    decide_eq_true (hkeq b hb)
  rw [hbytes, parseForm_of_forall _ (by simp), List.takeWhile_append_of_pos htake,
    List.dropWhile_append_of_pos htake]
  · simp [formDecode_utf8Bytes fun c hc => ⟨(hk c hc).2.1, (hk c hc).2.2.1⟩,
      formDecode_utf8Bytes fun c hc => ⟨(hv c hc).2.1, (hv c hc).2.2⟩]
  · simp only [List.mem_append, List.mem_cons]
    rintro b (hb | rfl | hb)
    exacts [hkamp b hb, by decide, hvamp b hb]

/-- The path and the query of `p ?q`, when the path holds no `?` or `#` and the query no `#`. -/
theorem splitPathQuery_append {p q : String} (hp : ∀ c ∈ p.data, c ≠ '?' ∧ c ≠ '#')
    (hq : '#' ∉ q.data) : splitPathQuery (p ++ "?" ++ q) = (p, q) := by
  have hpath : ∀ c ∈ p.data, decide (c ≠ '?' ∧ c ≠ '#') = true := fun c hc =>
    decide_eq_true (hp c hc)
  have hdata : (p ++ "?" ++ q).data = p.data ++ '?' :: q.data := by simp
  have hquery : q.data.takeWhile (fun c => !decide (c = '#')) = q.data :=
    List.takeWhile_eq_self_iff.2 fun c hc => by simpa using fun e : c = '#' => hq (e ▸ hc)
  simp only [splitPathQuery, hdata]
  rw [List.takeWhile_append_of_pos hpath]
  simp [hquery]

end Flowplane
