/-
Query strings as `urllib.parse` reads and writes them (`parse_qsl`,
`urlencode`). What is written is read back as it was
(`parseQsl_urlencode`), and holds no character with a meaning of its own
in a URL (`written_urlencode`).

Bytes are natural numbers. UTF-8 is read by a machine that gives a
replacement for each longest beginning of a character that breaks off, as
`bytes.decode(errors="replace")` does.
-/
import Mathlib.Data.List.Basic

namespace FormCoding

-- ================================================================== UTF-8

/-- `c.encode("utf-8")`. -/
def utf8Encode (c : Char) : List Nat :=
  let n := c.toNat
  if n < 0x80 then [n]
  else if n < 0x800 then [0xC0 + n / 64, 0x80 + n % 64]
  else if n < 0x10000 then
    [0xE0 + n / 4096, 0x80 + n / 64 % 64, 0x80 + n % 64]
  else
    [0xF0 + n / 262144, 0x80 + n / 4096 % 64, 0x80 + n / 64 % 64,
      0x80 + n % 64]

/-- A character of which bytes are still owed: how many after the next one,
the range of the next one, and the bits so far. -/
structure Pending where
  later : Nat
  low : Nat
  high : Nat
  bits : Nat

/-- What stands for bytes that are no character. -/
def replacement : Char := Char.ofNat 0xFFFD

/-- A byte between characters: what it gives, and what it leaves pending. -/
def firstByte (b : Nat) : List Char × Option Pending :=
  if b < 0x80 then ([Char.ofNat b], none)
  else if b < 0xC2 then ([replacement], none)
  else if b < 0xE0 then ([], some ⟨0, 0x80, 0xBF, b - 0xC0⟩)
  else if b = 0xE0 then ([], some ⟨1, 0xA0, 0xBF, 0⟩)
  else if b = 0xED then ([], some ⟨1, 0x80, 0x9F, 0xD⟩)
  else if b < 0xF0 then ([], some ⟨1, 0x80, 0xBF, b - 0xE0⟩)
  else if b = 0xF0 then ([], some ⟨2, 0x90, 0xBF, 0⟩)
  else if b < 0xF4 then ([], some ⟨2, 0x80, 0xBF, b - 0xF0⟩)
  else if b = 0xF4 then ([], some ⟨2, 0x80, 0x8F, 4⟩)
  else ([replacement], none)

/-- A byte. One that does not belong to the pending character ends it and
begins the next. -/
def stepByte : Option Pending → Nat → List Char × Option Pending
  | none, b => firstByte b
  | some p, b =>
      if p.low ≤ b ∧ b ≤ p.high then
        let bits := p.bits * 64 + (b - 0x80)
        match p.later with
        | 0 => ([Char.ofNat bits], none)
        | later + 1 => ([], some ⟨later, 0x80, 0xBF, bits⟩)
      else (replacement :: (firstByte b).1, (firstByte b).2)

/-- The text of some bytes, with a character pending. -/
def decodeFrom : Option Pending → List Nat → List Char
  | none, [] => []
  | some _, [] => [replacement]
  | pending, b :: rest =>
      (stepByte pending b).1 ++ decodeFrom (stepByte pending b).2 rest

/-- `bytes.decode("utf-8", "replace")`. -/
def utf8Decode (bytes : List Nat) : List Char := decodeFrom none bytes

/-- What is encoded are bytes. -/
theorem utf8Encode_lt {c : Char} {b : Nat} (h : b ∈ utf8Encode c) :
    b < 256 := by
  have hc := c.valid
  unfold UInt32.isValidChar Nat.isValidChar at hc
  have hn : c.toNat < 1114112 := by
    show c.val.toNat < 1114112
    omega
  unfold utf8Encode at h
  simp only at h
  split at h
  · simp only [List.mem_singleton] at h
    omega
  · split at h
    · simp only [List.mem_cons, List.not_mem_nil, or_false] at h
      omega
    · split at h
      · simp only [List.mem_cons, List.not_mem_nil, or_false] at h
        omega
      · simp only [List.mem_cons, List.not_mem_nil, or_false] at h
        omega

/-- The last byte of a character. -/
theorem decodeFrom_last {low high bits b : Nat} (hlow : low ≤ b)
    (hhigh : b ≤ high) (rest : List Nat) :
    decodeFrom (some ⟨0, low, high, bits⟩) (b :: rest)
      = Char.ofNat (bits * 64 + (b - 0x80)) :: decodeFrom none rest := by
  have hstep : stepByte (some ⟨0, low, high, bits⟩) b
      = ([Char.ofNat (bits * 64 + (b - 0x80))], none) :=
    if_pos ⟨hlow, hhigh⟩
  rw [decodeFrom, hstep]
  rfl

/-- A byte in the midst of a character. -/
theorem decodeFrom_more {later low high bits b : Nat} (hlow : low ≤ b)
    (hhigh : b ≤ high) (rest : List Nat) :
    decodeFrom (some ⟨later + 1, low, high, bits⟩) (b :: rest)
      = decodeFrom (some ⟨later, 0x80, 0xBF, bits * 64 + (b - 0x80)⟩)
          rest := by
  have hstep : stepByte (some ⟨later + 1, low, high, bits⟩) b
      = ([], some ⟨later, 0x80, 0xBF, bits * 64 + (b - 0x80)⟩) :=
    if_pos ⟨hlow, hhigh⟩
  rw [decodeFrom, hstep]
  rfl

/-- The first byte of a character that has more. -/
theorem decodeFrom_first {b : Nat} {p : Pending}
    (h : firstByte b = ([], some p)) (rest : List Nat) :
    decodeFrom none (b :: rest) = decodeFrom (some p) rest := by
  have hstep : stepByte none b = ([], some p) := h
  rw [decodeFrom, hstep]
  rfl

/-- The bits that a character's first byte of three leaves pending. -/
theorem firstByte_three {n : Nat} (hlow : 0x800 ≤ n) (hhigh : n < 0x10000)
    (hvalid : n < 0xD800 ∨ 0xDFFF < n) :
    ∃ low high, firstByte (0xE0 + n / 4096)
        = ([], some ⟨1, low, high, n / 4096⟩)
      ∧ low ≤ 0x80 + n / 64 % 64 ∧ 0x80 + n / 64 % 64 ≤ high := by
  unfold firstByte
  by_cases hzero : n / 4096 = 0
  · refine ⟨0xA0, 0xBF, ?_, by omega, by omega⟩
    rw [hzero]
    rfl
  · by_cases hd : n / 4096 = 0xD
    · refine ⟨0x80, 0x9F, ?_, by omega, by omega⟩
      rw [hd]
      rfl
    · refine ⟨0x80, 0xBF, ?_, by omega, by omega⟩
      rw [if_neg (by omega), if_neg (by omega), if_neg (by omega),
        if_neg (by omega), if_neg (by omega), if_pos (by omega),
        Nat.add_sub_cancel_left]

/-- The bits that a character's first byte of four leaves pending. -/
theorem firstByte_four {n : Nat} (hlow : 0x10000 ≤ n) (hhigh : n < 0x110000) :
    ∃ low high, firstByte (0xF0 + n / 262144)
        = ([], some ⟨2, low, high, n / 262144⟩)
      ∧ low ≤ 0x80 + n / 4096 % 64 ∧ 0x80 + n / 4096 % 64 ≤ high := by
  unfold firstByte
  by_cases hzero : n / 262144 = 0
  · refine ⟨0x90, 0xBF, ?_, by omega, by omega⟩
    rw [hzero]
    rfl
  · by_cases hfour : n / 262144 = 4
    · refine ⟨0x80, 0x8F, ?_, by omega, by omega⟩
      rw [hfour]
      rfl
    · refine ⟨0x80, 0xBF, ?_, by omega, by omega⟩
      rw [if_neg (by omega), if_neg (by omega), if_neg (by omega),
        if_neg (by omega), if_neg (by omega), if_neg (by omega),
        if_neg (by omega), if_pos (by omega), Nat.add_sub_cancel_left]

/-- A character that is written is read. -/
theorem decodeFrom_encode (c : Char) (rest : List Nat) :
    decodeFrom none (utf8Encode c ++ rest) = c :: decodeFrom none rest := by
  have hvalid : c.toNat < 0xD800 ∨ 0xDFFF < c.toNat ∧ c.toNat < 0x110000 :=
    c.valid
  have hself : Char.ofNat c.toNat = c := Char.ofNat_toNat c
  unfold utf8Encode
  simp only
  split
  case isTrue hn =>
    have hstep : stepByte none c.toNat = ([c], none) := by
      have hfirst : firstByte c.toNat = ([Char.ofNat c.toNat], none) :=
        if_pos hn
      rw [hself] at hfirst
      exact hfirst
    rw [List.singleton_append, decodeFrom, hstep]
    rfl
  case isFalse hn =>
    split
    case isTrue htwo =>
      have hfirst : firstByte (0xC0 + c.toNat / 64)
          = ([], some ⟨0, 0x80, 0xBF, c.toNat / 64⟩) := by
        unfold firstByte
        rw [if_neg (by omega), if_neg (by omega), if_pos (by omega),
          Nat.add_sub_cancel_left]
      -- The bytes hold the number in digits to the base 64.
      have hbits : c.toNat / 64 * 64 + (0x80 + c.toNat % 64 - 0x80)
          = c.toNat := by omega
      rw [List.cons_append, decodeFrom_first hfirst, List.singleton_append,
        decodeFrom_last (by omega) (by omega), hbits, hself]
    case isFalse htwo =>
      split
      case isTrue hthree =>
        obtain ⟨low, high, hfirst, hlow, hhigh⟩ :=
          firstByte_three (n := c.toNat) (by omega) hthree (by omega)
        have hbits : (c.toNat / 4096 * 64
            + (0x80 + c.toNat / 64 % 64 - 0x80)) * 64
            + (0x80 + c.toNat % 64 - 0x80) = c.toNat := by omega
        rw [List.cons_append, decodeFrom_first hfirst, List.cons_append,
          decodeFrom_more hlow hhigh, List.singleton_append,
          decodeFrom_last (by omega) (by omega), hbits, hself]
      case isFalse hthree =>
        obtain ⟨low, high, hfirst, hlow, hhigh⟩ :=
          firstByte_four (n := c.toNat) (by omega) (by omega)
        have hbits : ((c.toNat / 262144 * 64
            + (0x80 + c.toNat / 4096 % 64 - 0x80)) * 64
            + (0x80 + c.toNat / 64 % 64 - 0x80)) * 64
            + (0x80 + c.toNat % 64 - 0x80) = c.toNat := by omega
        rw [List.cons_append, decodeFrom_first hfirst, List.cons_append,
          decodeFrom_more hlow hhigh, List.cons_append,
          decodeFrom_more (by omega) (by omega), List.singleton_append,
          decodeFrom_last (by omega) (by omega), hbits, hself]

/-- A text that is written is read. -/
theorem utf8Decode_encode (text : List Char) :
    utf8Decode (text.flatMap utf8Encode) = text := by
  unfold utf8Decode
  induction text with
  | nil => rfl
  | cons c text ih => rw [List.flatMap_cons, decodeFrom_encode, ih]

-- ================================================================ quoting

/-- `_ALWAYS_SAFE`: letters, digits and `_.-~`. -/
def alwaysSafe (b : Nat) : Bool :=
  (0x30 ≤ b && b ≤ 0x39) || (0x41 ≤ b && b ≤ 0x5A)
    || (0x61 ≤ b && b ≤ 0x7A) || b == 0x5F || b == 0x2E || b == 0x2D
    || b == 0x7E

/-- A hexadecimal digit, in upper case. -/
def hexDigit (n : Nat) : Char :=
  Char.ofNat (if n < 10 then 0x30 + n else 0x37 + n)

/-- The value of a hexadecimal digit, in either case. -/
def hexValue (c : Char) : Option Nat :=
  let n := c.toNat
  if 0x30 ≤ n ∧ n ≤ 0x39 then some (n - 0x30)
  else if 0x41 ≤ n ∧ n ≤ 0x46 then some (n - 0x37)
  else if 0x61 ≤ n ∧ n ≤ 0x66 then some (n - 0x57)
  else none

/-- `_Quoter(safe)[b]`. -/
def quoteByte (safe : List Nat) (b : Nat) : List Char :=
  if alwaysSafe b = true ∨ b ∈ safe then [Char.ofNat b]
  else ['%', hexDigit (b / 16), hexDigit (b % 16)]

/-- `quote(text, safe)`. -/
def quote (safe : List Nat) (text : List Char) : List Char :=
  (text.flatMap utf8Encode).flatMap (quoteByte safe)

/-- `quote_plus(text)`. -/
def quotePlus (text : List Char) : List Char :=
  if ' ' ∉ text then quote [] text
  else (quote [0x20] text).map fun c => if c = ' ' then '+' else c

/-- `_unquote_impl(text)`, of an ASCII text. -/
def unquoteImpl : List Char → List Nat
  | [] => []
  | '%' :: high :: low :: rest =>
      match hexValue high, hexValue low with
      | some h, some l => (16 * h + l) :: unquoteImpl rest
      | _, _ => 0x25 :: unquoteImpl (high :: low :: rest)
  | c :: rest => c.toNat :: unquoteImpl rest

/-- `_generate_unquoted_parts`, joined; `run` is the run of ASCII characters
that is being read. -/
def unquoteParts : List Char → List Char → List Char
  | run, [] => utf8Decode (unquoteImpl run)
  | run, c :: text =>
      if c.toNat < 0x80 then unquoteParts (run ++ [c]) text
      else utf8Decode (unquoteImpl run) ++ c :: unquoteParts [] text

/-- `unquote(text)`. -/
def unquote (text : List Char) : List Char :=
  if '%' ∉ text then text else unquoteParts [] text

/-- `unquote_plus(text)`. -/
def unquotePlus (text : List Char) : List Char :=
  unquote (text.map fun c => if c = '+' then ' ' else c)

/-- `parse_qsl(qs, keep_blank_values)`. -/
def parseQsl (qs : List Char) (keepBlankValues : Bool) :
    List (List Char × List Char) :=
  ((qs.splitOn '&').filter (· ≠ [])).filterMap fun nameValue =>
    let name := nameValue.takeWhile (· != '=')
    let value := (nameValue.dropWhile (· != '=')).drop 1
    if value ≠ [] ∨ keepBlankValues = true then
      some (unquotePlus name, unquotePlus value)
    else none

/-- `urlencode(query)`. -/
def urlencode (query : List (List Char × List Char)) : List Char :=
  ['&'].intercalate
    (query.map fun pair => quotePlus pair.1 ++ '=' :: quotePlus pair.2)

-- ============================================================ one text back

/-- A character that quoting writes. -/
def Written (c : Char) : Prop :=
  alwaysSafe c.toNat = true ∨ c = '%' ∨ c = '+'

instance (c : Char) : Decidable (Written c) :=
  inferInstanceAs (Decidable (_ ∨ _))

/-- The safe bytes are ASCII. -/
theorem alwaysSafe_lt {b : Nat} (h : alwaysSafe b = true) : b < 0x80 := by
  unfold alwaysSafe at h
  simp only [Bool.or_eq_true, Bool.and_eq_true, decide_eq_true_eq,
    beq_iff_eq] at h
  omega

/-- What is written is ASCII. -/
theorem Written.lt {c : Char} (h : Written c) : c.toNat < 0x80 := by
  rcases h with hsafe | rfl | rfl
  · exact alwaysSafe_lt hsafe
  · decide
  · decide

/-- A character that no safe one is, and that is neither sign, is not
written. -/
theorem Written.ne {c d : Char} (h : Written c)
    (hd : ¬ Written d) : c ≠ d := by
  rintro rfl
  exact hd h

theorem toNat_ofNat {b : Nat} (h : b < 0x80) : (Char.ofNat b).toNat = b := by
  have hvalid : b.isValidChar := .inl (by omega)
  unfold Char.ofNat
  rw [dif_pos hvalid]
  rfl

/-- The hexadecimal digits are written as they are. -/
theorem hexDigit_written : ∀ n < 16, Written (hexDigit n) := by decide

/-- A digit is read as it was written. -/
theorem hexValue_hexDigit : ∀ n < 16, hexValue (hexDigit n) = some n := by
  decide

/-- How `quote_plus` writes a byte. -/
def plusByte (b : Nat) : List Char :=
  if b = 0x20 then ['+'] else quoteByte [] b

/-- A safe byte is written as its character. -/
theorem quoteByte_safe {safe : List Nat} {b : Nat}
    (h : alwaysSafe b = true ∨ b ∈ safe) :
    quoteByte safe b = [Char.ofNat b] :=
  if_pos h

/-- Any other byte is written as a percent sign and two digits. -/
theorem quoteByte_escaped {safe : List Nat} {b : Nat}
    (hsafe : alwaysSafe b = false) (hmem : b ∉ safe) :
    quoteByte safe b = ['%', hexDigit (b / 16), hexDigit (b % 16)] := by
  refine if_neg ?_
  rw [hsafe]
  rintro (h | h)
  · cases h
  · exact hmem h

theorem plusByte_written {b : Nat} (hb : b < 256) :
    ∀ c ∈ plusByte b, Written c := by
  unfold plusByte
  split
  case isTrue =>
    intro c hc
    rw [List.mem_singleton.mp hc]
    decide
  case isFalse =>
    intro c hc
    cases hsafe : alwaysSafe b with
    | true =>
        rw [quoteByte_safe (.inl hsafe)] at hc
        rw [List.mem_singleton.mp hc]
        unfold Written
        rw [toNat_ofNat (alwaysSafe_lt hsafe)]
        exact .inl hsafe
    | false =>
        rw [quoteByte_escaped hsafe List.not_mem_nil] at hc
        rcases List.mem_cons.mp hc with rfl | hc
        · decide
        · rcases List.mem_cons.mp hc with rfl | hc
          · exact hexDigit_written _ (by omega)
          · rw [List.mem_singleton.mp hc]
            exact hexDigit_written _ (by omega)

/-- No character but the space has its byte. -/
theorem space_of_mem_encode {c : Char} (h : 0x20 ∈ utf8Encode c) :
    c = ' ' := by
  have hn : c.toNat = 0x20 := by
    unfold utf8Encode at h
    simp only at h
    split at h
    · exact (List.mem_singleton.mp h).symm
    · split at h
      · simp only [List.mem_cons, List.not_mem_nil, or_false] at h
        omega
      · split at h
        · simp only [List.mem_cons, List.not_mem_nil, or_false] at h
          omega
        · simp only [List.mem_cons, List.not_mem_nil, or_false] at h
          omega
  rw [← Char.ofNat_toNat c, hn]

/-- `quote_plus` keeps the space from `quote` and makes a plus sign of it.
-/
theorem map_quoteByte_space {b : Nat} (hb : b < 256) :
    (quoteByte [0x20] b).map (fun c => if c = ' ' then '+' else c)
      = plusByte b := by
  unfold plusByte
  split
  case isTrue hspace =>
    subst hspace
    decide
  case isFalse hspace =>
    have hwritten := plusByte_written hb
    unfold plusByte at hwritten
    rw [if_neg hspace] at hwritten
    have hquote : quoteByte [0x20] b = quoteByte [] b := by
      unfold quoteByte
      simp only [List.mem_singleton, hspace, List.not_mem_nil, or_false]
    rw [hquote]
    calc (quoteByte [] b).map (fun c => if c = ' ' then '+' else c)
        = (quoteByte [] b).map id :=
          List.map_congr_left fun c hc =>
            if_neg ((hwritten c hc).ne (by decide))
      _ = quoteByte [] b := List.map_id _

/-- `quote_plus` writes the bytes one by one. -/
theorem quotePlus_eq (text : List Char) :
    quotePlus text = (text.flatMap utf8Encode).flatMap plusByte := by
  unfold quotePlus quote
  split
  case isTrue hspace =>
    refine List.flatMap_congr fun b hb => ?_
    obtain ⟨c, hc, hb⟩ := List.mem_flatMap.mp hb
    have hne : b ≠ 0x20 := by
      rintro rfl
      exact hspace (space_of_mem_encode hb ▸ hc)
    exact (if_neg hne).symm
  case isFalse =>
    rw [List.map_flatMap]
    refine List.flatMap_congr fun b hb => ?_
    obtain ⟨c, -, hb⟩ := List.mem_flatMap.mp hb
    exact map_quoteByte_space (utf8Encode_lt hb)

/-- A quoted text has no character outside the alphabet of forms. -/
theorem written_quotePlus {text : List Char} {c : Char}
    (h : c ∈ quotePlus text) : Written c := by
  rw [quotePlus_eq] at h
  obtain ⟨b, hb, hc⟩ := List.mem_flatMap.mp h
  obtain ⟨d, -, hb⟩ := List.mem_flatMap.mp hb
  exact plusByte_written (utf8Encode_lt hb) c hc

/-- How the byte stands when the plus signs are spaces again. -/
def spacedByte (b : Nat) : List Char :=
  if b = 0x20 then [' '] else quoteByte [] b

/-- Reading turns the plus signs into spaces first. -/
theorem map_plusByte {b : Nat} (hb : b < 256) :
    (plusByte b).map (fun c => if c = '+' then ' ' else c)
      = spacedByte b := by
  unfold plusByte spacedByte
  split
  case isTrue => rfl
  case isFalse hspace =>
    cases hsafe : alwaysSafe b with
    | true =>
        rw [quoteByte_safe (.inl hsafe)]
        have hne : Char.ofNat b ≠ '+' := by
          intro h
          have hb : b = 0x2B := by
            rw [← toNat_ofNat (alwaysSafe_lt hsafe), h]
            rfl
          rw [hb] at hsafe
          cases hsafe
        rw [List.map_singleton, if_neg hne]
    | false =>
        have hplus : ∀ n < 16, hexDigit n ≠ '+' := by decide
        rw [quoteByte_escaped hsafe List.not_mem_nil]
        simp only [List.map_cons, List.map_nil,
          hplus (b / 16) (by omega), hplus (b % 16) (by omega), if_false]
        rfl

/-- A character that is no percent sign stands for itself. -/
theorem unquoteImpl_cons {c : Char} (h : c ≠ '%') (rest : List Char) :
    unquoteImpl (c :: rest) = c.toNat :: unquoteImpl rest := by
  rw [unquoteImpl.eq_def]
  split
  case h_1 heq => cases heq
  case h_2 heq => exact absurd (List.cons.inj heq).1 h
  case h_3 heq =>
    obtain ⟨rfl, rfl⟩ := List.cons.inj heq
    rfl

/-- A byte that is written is read. -/
theorem unquoteImpl_spacedByte {b : Nat} (hb : b < 256)
    (rest : List Char) :
    unquoteImpl (spacedByte b ++ rest) = b :: unquoteImpl rest := by
  unfold spacedByte
  split
  case isTrue hspace =>
    subst hspace
    exact unquoteImpl_cons (by decide) rest
  case isFalse =>
    cases hsafe : alwaysSafe b with
    | true =>
        have hlt := alwaysSafe_lt hsafe
        rw [quoteByte_safe (.inl hsafe), List.singleton_append,
          unquoteImpl_cons ?_ rest, toNat_ofNat hlt]
        intro h
        have hb : b = 0x25 := by
          rw [← toNat_ofNat hlt, h]
          rfl
        rw [hb] at hsafe
        cases hsafe
    | false =>
        rw [quoteByte_escaped hsafe List.not_mem_nil]
        show unquoteImpl ('%' :: hexDigit (b / 16) :: hexDigit (b % 16)
          :: rest) = b :: unquoteImpl rest
        rw [unquoteImpl, hexValue_hexDigit _ (by omega),
          hexValue_hexDigit _ (by omega)]
        simp only
        rw [Nat.div_add_mod]

/-- The bytes are read back as they were written. -/
theorem unquoteImpl_spacedBytes {bytes : List Nat}
    (h : ∀ b ∈ bytes, b < 256) :
    unquoteImpl (bytes.flatMap spacedByte) = bytes := by
  induction bytes with
  | nil => rfl
  | cons b bytes ih =>
      rw [List.flatMap_cons, unquoteImpl_spacedByte (h b List.mem_cons_self),
        ih fun d hd => h d (List.mem_cons_of_mem _ hd)]

-- An ASCII text is one run.
/-- In an ASCII text there is one run to decode, the whole text. -/
theorem unquoteParts_ascii {text : List Char}
    (h : ∀ c ∈ text, c.toNat < 0x80) (run : List Char) :
    unquoteParts run text = utf8Decode (unquoteImpl (run ++ text)) := by
  induction text generalizing run with
  | nil => rw [List.append_nil, unquoteParts]
  | cons c text ih =>
      rw [unquoteParts, if_pos (h c List.mem_cons_self),
        ih (fun d hd => h d (List.mem_cons_of_mem _ hd)),
        List.append_assoc, List.singleton_append]

/-- An ASCII text without escapes stands for itself. -/
theorem utf8Decode_unquoteImpl_plain {text : List Char}
    (h : ∀ c ∈ text, c.toNat < 0x80) (hplain : '%' ∉ text) :
    utf8Decode (unquoteImpl text) = text := by
  have hbytes : unquoteImpl text = text.flatMap utf8Encode := by
    induction text with
    | nil => rfl
    | cons c text ih =>
        have hc : utf8Encode c = [c.toNat] := if_pos (h c List.mem_cons_self)
        rw [unquoteImpl_cons (fun hc => hplain (hc ▸ List.mem_cons_self)),
          ih (fun d hd => h d (List.mem_cons_of_mem _ hd))
            (fun hmem => hplain (List.mem_cons_of_mem _ hmem)),
          List.flatMap_cons, hc, List.singleton_append]
  rw [hbytes, utf8Decode_encode]

theorem unquote_ascii {text : List Char} (h : ∀ c ∈ text, c.toNat < 0x80) :
    unquote text = utf8Decode (unquoteImpl text) := by
  unfold unquote
  split
  case isTrue hplain => exact (utf8Decode_unquoteImpl_plain h hplain).symm
  case isFalse => exact unquoteParts_ascii h []

/-- A text that `quote_plus` writes is read back. -/
theorem unquotePlus_quotePlus (text : List Char) :
    unquotePlus (quotePlus text) = text := by
  have hbytes : ∀ b ∈ text.flatMap utf8Encode, b < 256 := by
    intro b hb
    obtain ⟨c, -, hb⟩ := List.mem_flatMap.mp hb
    exact utf8Encode_lt hb
  have hspaced :
      (quotePlus text).map (fun c => if c = '+' then ' ' else c)
        = (text.flatMap utf8Encode).flatMap spacedByte := by
    rw [quotePlus_eq, List.map_flatMap]
    exact List.flatMap_congr fun b hb => map_plusByte (hbytes b hb)
  have hascii :
      ∀ c ∈ (quotePlus text).map (fun c => if c = '+' then ' ' else c),
        c.toNat < 0x80 := by
    intro c hc
    obtain ⟨d, hd, rfl⟩ := List.mem_map.mp hc
    split
    · decide
    · exact (written_quotePlus hd).lt
  unfold unquotePlus
  rw [unquote_ascii hascii, hspaced, unquoteImpl_spacedBytes hbytes,
    utf8Decode_encode]

-- =========================================================== a query back

/-- A pair as it is written. -/
def writePair (pair : List Char × List Char) : List Char :=
  quotePlus pair.1 ++ '=' :: quotePlus pair.2

theorem urlencode_eq (query : List (List Char × List Char)) :
    urlencode query = ['&'].intercalate (query.map writePair) := rfl

/-- A pair is written in the alphabet, with an equals sign. -/
theorem mem_writePair {pair : List Char × List Char} {c : Char}
    (h : c ∈ writePair pair) : Written c ∨ c = '=' := by
  rcases List.mem_append.mp h with h | h
  · exact .inl (written_quotePlus h)
  · rcases List.mem_cons.mp h with h | h
    · exact .inr h
    · exact .inl (written_quotePlus h)

/-- The first equals sign divides the name from the value, since a quoted
name has none. -/
theorem takeWhile_writePair (pair : List Char × List Char) :
    (writePair pair).takeWhile (· != '=') = quotePlus pair.1
      ∧ (writePair pair).dropWhile (· != '=') = '=' :: quotePlus pair.2 := by
  have hname : ∀ c ∈ quotePlus pair.1, (c != '=') = true := by
    intro c hc
    rw [bne_iff_ne]
    exact (written_quotePlus hc).ne (by decide)
  unfold writePair
  refine ⟨?_, ?_⟩
  · rw [List.takeWhile_append_of_pos hname,
      List.takeWhile_cons_of_neg (by decide), List.append_nil]
  · rw [List.dropWhile_append_of_pos hname,
      List.dropWhile_cons_of_neg (by decide)]

theorem writePair_ne_nil (pair : List Char × List Char) :
    writePair pair ≠ [] := by
  unfold writePair
  exact List.append_ne_nil_of_right_ne_nil _ (List.cons_ne_nil _ _)

/-- The texts between the separators are the pairs that were written. -/
theorem splitOn_urlencode {query : List (List Char × List Char)}
    (hne : query ≠ []) :
    (urlencode query).splitOn '&' = query.map writePair := by
  rw [urlencode_eq]
  refine List.splitOn_intercalate '&' ?_ ?_
  · intro text htext hmem
    obtain ⟨pair, -, rfl⟩ := List.mem_map.mp htext
    rcases mem_writePair hmem with hwritten | heq
    · exact hwritten.ne (by decide) rfl
    · cases heq
  · rw [Ne, List.map_eq_nil_iff]
    exact hne

/-- A query that is written is read back. -/
theorem parseQsl_urlencode (query : List (List Char × List Char)) :
    parseQsl (urlencode query) true = query := by
  by_cases hne : query = []
  · subst hne
    rfl
  · unfold parseQsl
    rw [splitOn_urlencode hne]
    have hfilter : (query.map writePair).filter (· ≠ [])
        = query.map writePair := by
      refine List.filter_eq_self.mpr fun text htext => ?_
      obtain ⟨pair, -, rfl⟩ := List.mem_map.mp htext
      exact decide_eq_true (writePair_ne_nil pair)
    rw [hfilter, List.filterMap_map]
    calc query.filterMap _ = query.filterMap some := by
          refine List.filterMap_congr fun pair _ => ?_
          obtain ⟨hname, hvalue⟩ := takeWhile_writePair pair
          simp only [Function.comp_apply, hname, hvalue, List.drop_one,
            List.tail_cons, or_true, if_true, unquotePlus_quotePlus]
      _ = query := List.filterMap_some

theorem urlencode_cons (pair next : List Char × List Char)
    (query : List (List Char × List Char)) :
    urlencode (pair :: next :: query)
      = writePair pair ++ '&' :: urlencode (next :: query) := by
  rw [urlencode_eq, List.map_cons, List.map_cons, List.intercalate_cons_cons,
    List.append_assoc]
  rfl

/-- What a written query consists of. -/
theorem mem_urlencode {query : List (List Char × List Char)} {c : Char}
    (h : c ∈ urlencode query) :
    (∃ pair ∈ query, c ∈ writePair pair) ∨ c = '&' := by
  induction query with
  | nil => cases h
  | cons pair query ih =>
      cases query with
      | nil =>
          rw [urlencode_eq, List.map_singleton,
            List.intercalate_singleton] at h
          exact .inl ⟨pair, List.mem_cons_self, h⟩
      | cons next query =>
          rw [urlencode_cons] at h
          rcases List.mem_append.mp h with h | h
          · exact .inl ⟨pair, List.mem_cons_self, h⟩
          · rcases List.mem_cons.mp h with h | h
            · exact .inr h
            · refine (ih h).imp_left fun hmem => ?_
              obtain ⟨other, hother, hc⟩ := hmem
              exact ⟨other, List.mem_cons_of_mem _ hother, hc⟩

theorem mem_urlencode_of_pair {query : List (List Char × List Char)}
    {pair : List Char × List Char} (hpair : pair ∈ query) {c : Char}
    (h : c ∈ writePair pair) : c ∈ urlencode query := by
  induction query with
  | nil => cases hpair
  | cons first query ih =>
      cases query with
      | nil =>
          rw [List.mem_singleton] at hpair
          rw [urlencode_eq, List.map_singleton, List.intercalate_singleton,
            ← hpair]
          exact h
      | cons next query =>
          rw [urlencode_cons]
          rcases List.mem_cons.mp hpair with rfl | hpair
          · exact List.mem_append_left _ h
          · exact List.mem_append_right _
              (List.mem_cons_of_mem _ (ih hpair))

theorem urlencode_eq_nil_iff {query : List (List Char × List Char)} :
    urlencode query = [] ↔ query = [] := by
  refine ⟨fun h => ?_, fun h => by rw [h]; rfl⟩
  have hparse := parseQsl_urlencode query
  rw [h] at hparse
  exact hparse.symm

end FormCoding
