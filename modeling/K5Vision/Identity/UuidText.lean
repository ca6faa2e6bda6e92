import K5Vision.Identity.Users
import K5Vision.Library.Texts

/-!
# The texts that `UUID` reads

`UUID(text)` of Python's `uuid` module takes many texts for one value: with or without hyphens and
braces, behind `urn:` and `uuid:`, in upper case, and, since the digits go through `int(hex, 16)`,
with a sign, a prefix `0x`, single underscores, white space around them and decimal digits of any
script.  `str(uuid)` is one of these texts, and reading gives the value back (`ofText_str`).
-/

namespace K5Vision.Identity

open Library

/-- What the interpreter's version of Unicode says of the characters outside ASCII. -/
structure UnicodeTable where
  isSpace : ℕ → Bool
  decimal : ℕ → Option ℕ
  decimal_lt : ∀ c d, decimal c = some d → d < 10

def UnicodeTable.ascii : UnicodeTable := ⟨fun _ => false, fun _ => none, by simp⟩

/-! ## `int(text, 16)` -/

/-- Decimal digits and white space of any script as those of ASCII.  A text that is ASCII stays as
it is. -/
def toAscii (table : UnicodeTable) (text : Text) : Text :=
  if text.all fun c => c < 128 then text
  else text.map fun c =>
    if c < 127 then c
    else if table.isSpace c then 32
    else
      match table.decimal c with
      | some digit => 48 + digit
      | none => 63

def isAsciiSpace (c : ℕ) : Bool := 9 ≤ c && c ≤ 13 || c == 32

def isNumberPart (c : ℕ) : Bool := (hexDigitValue c).isSome || c == 95

def hasDoubleUnderscore : Text → Bool
  | [] => false
  | [_] => false
  | c :: next :: rest => c == 95 && next == 95 || hasDoubleUnderscore (next :: rest)

def readDigits (body : Text) : Option ℕ :=
  if body = [] ∨ body.head? = some 95 ∨ body.getLast? = some 95 ∨ hasDoubleUnderscore body then none
  else some (numberOf 16 (body.filterMap hexDigitValue))

def dropHexPrefix : Text → Text
  | 48 :: 120 :: 95 :: rest => rest
  | 48 :: 88 :: 95 :: rest => rest
  | 48 :: 120 :: rest => rest
  | 48 :: 88 :: rest => rest
  | text => text

def takeSign : Text → Bool × Text
  | 43 :: rest => (false, rest)
  | 45 :: rest => (true, rest)
  | text => (false, text)

/-- `int(text, 16)`; `none` is its `ValueError`. -/
def intOfHex (table : UnicodeTable) (text : Text) : Option ℤ :=
  let (negative, unsigned) := takeSign ((toAscii table text).dropWhile isAsciiSpace)
  let number := dropHexPrefix unsigned
  if (number.dropWhile isNumberPart).all isAsciiSpace then
    (readDigits (number.takeWhile isNumberPart)).map fun value : ℕ =>
      if negative then -(value : ℤ) else (value : ℤ)
  else none

/-! ## `UUID(text)` -/

/-- `text.replace(old, "")` behind `skip` characters of an occurrence. -/
def removeFrom (old : Text) : ℕ → Text → Text
  | _, [] => []
  | skip + 1, _ :: rest => removeFrom old skip rest
  | 0, c :: rest =>
      if old.isPrefixOf (c :: rest) then removeFrom old (old.length - 1) rest
      else c :: removeFrom old 0 rest

def removeAll (old text : Text) : Text := removeFrom old 0 text

def isBrace (c : ℕ) : Bool := c == 123 || c == 125

def stripBraces (text : Text) : Text := ((text.dropWhile isBrace).reverse.dropWhile isBrace).reverse

namespace Uuid

/-- `UUID(text)`; `none` is its `ValueError`. -/
def ofText (table : UnicodeTable) (text : Text) : Option Uuid :=
  let bare := removeAll (codePoints "uuid:") (removeAll (codePoints "urn:") text)
  let hex := (stripBraces bare).filter fun c => c != 45
  if hex.length ≠ 32 then none
  else
    match intOfHex table hex with
    | none => none
    | some value => if 0 ≤ value ∧ value < 2 ^ 128 then some (BitVec.ofInt 128 value) else none

/-- `str(uuid)`, as code points. -/
def text (id : Uuid) : Text := codePoints id.str

/-! ## The canonical text -/

theorem mem_hyphenate {digits : List Char} {c : Char} (h : c ∈ hyphenate digits) :
    c ∈ digits ∨ c = '-' := by
  simp only [hyphenate, List.append_assoc, List.cons_append, List.mem_append, List.mem_cons] at h
  rcases h with h | rfl | h | rfl | h | rfl | h | rfl | h
  · exact .inl (List.mem_of_mem_take h)
  · exact .inr rfl
  · exact .inl (List.mem_of_mem_drop (List.mem_of_mem_take h))
  · exact .inr rfl
  · exact .inl (List.mem_of_mem_drop (List.mem_of_mem_take h))
  · exact .inr rfl
  · exact .inl (List.mem_of_mem_drop (List.mem_of_mem_take h))
  · exact .inr rfl
  · exact .inl (List.mem_of_mem_drop h)

theorem filter_hyphenate {digits : List Char} (hhyphen : '-' ∉ digits) :
    (hyphenate digits).filter (fun c => c != '-') = digits := by
  have hkeep (part : List Char) (hpart : ∀ c ∈ part, c ∈ digits) :
      part.filter (fun c => c != '-') = part := by
    rw [List.filter_eq_self]
    intro c hc
    rw [bne_iff_ne]
    intro heq
    exact hhyphen (heq ▸ hpart c hc)
  simp only [hyphenate, List.append_assoc, List.cons_append, List.filter_append,
    List.filter_cons, bne_self_eq_false, Bool.false_eq_true, if_false]
  rw [hkeep _ fun c hc => List.mem_of_mem_take hc,
    hkeep _ fun c hc => List.mem_of_mem_drop (List.mem_of_mem_take hc),
    hkeep _ fun c hc => List.mem_of_mem_drop (List.mem_of_mem_take hc),
    hkeep _ fun c hc => List.mem_of_mem_drop (List.mem_of_mem_take hc),
    hkeep _ fun c hc => List.mem_of_mem_drop hc]
  have hjoin (n m : ℕ) : (digits.drop n).take m ++ digits.drop (n + m) = digits.drop n := by
    rw [← List.drop_drop, List.take_append_drop]
  rw [hjoin 16 4, hjoin 12 4, hjoin 8 4, List.take_append_drop]

theorem hexCode_plain : ∀ digit < 16,
    isNumberPart (hexCode digit) = true ∧ isAsciiSpace (hexCode digit) = false := by
  decide

theorem removeFrom_of_not_mem {c : ℕ} {old text : Text} (h : c ∉ text) :
    removeFrom (c :: old) 0 text = text := by
  induction text with
  | nil => rfl
  | cons head rest ih =>
      rw [List.mem_cons, not_or] at h
      have hhead : (c :: old).isPrefixOf (head :: rest) = false := by
        simp [List.isPrefixOf, h.1]
      rw [removeFrom, hhead, ih h.2]
      simp

theorem stripBraces_of_not {text : Text} (h : ∀ c ∈ text, isBrace c = false) :
    stripBraces text = text := by
  have hreverse : ∀ c ∈ text.reverse, isBrace c = false := by simpa using h
  rw [stripBraces, dropWhile_of_not h, dropWhile_of_not hreverse, List.reverse_reverse]

/-! ## Reading the digits back -/

theorem hasDoubleUnderscore_of_not_mem {text : Text} (h : 95 ∉ text) :
    hasDoubleUnderscore text = false := by
  induction text with
  | nil => rfl
  | cons c rest ih =>
      rw [List.mem_cons, not_or] at h
      cases rest with
      | nil => rfl
      | cons next rest => simp [hasDoubleUnderscore, ih h.2, Ne.symm h.1]

theorem readDigits_hexCode {digits : List ℕ} (hne : digits ≠ []) (h : ∀ d ∈ digits, d < 16) :
    readDigits (digits.map hexCode) =
      some (numberOf 16 digits) := by
  have hunderscore : 95 ∉ digits.map hexCode := by
    intro hmem
    obtain ⟨digit, hdigit, heq⟩ := List.mem_map.mp hmem
    have hrange := hexCode_range digit (h digit hdigit)
    omega
  have hhead : (digits.map hexCode).head? ≠ some 95 :=
    fun heq => hunderscore (List.mem_of_mem_head? heq)
  have hlast : (digits.map hexCode).getLast? ≠ some 95 :=
    fun heq => hunderscore (List.mem_of_mem_getLast? heq)
  have hmapped : digits.map hexCode ≠ [] := by simp [hne]
  rw [readDigits, if_neg, filterMap_hexCode h]
  rw [hasDoubleUnderscore_of_not_mem hunderscore]
  exact not_or.mpr ⟨hmapped, not_or.mpr ⟨hhead, not_or.mpr ⟨hlast, Bool.false_ne_true⟩⟩⟩

theorem dropHexPrefix_of_not_mem {text : Text} (hlower : 120 ∉ text) (hupper : 88 ∉ text) :
    dropHexPrefix text = text := by
  unfold dropHexPrefix
  split <;> simp_all

theorem takeSign_of_not_mem {text : Text} (hplus : 43 ∉ text) (hminus : 45 ∉ text) :
    takeSign text = (false, text) := by
  unfold takeSign
  split <;> simp_all

theorem intOfHex_hexCode (table : UnicodeTable) {digits : List ℕ} (hne : digits ≠ [])
    (h : ∀ d ∈ digits, d < 16) : intOfHex table (digits.map hexCode) =
      some (numberOf 16 digits : ℤ) := by
  have hplain : ∀ c ∈ digits.map hexCode, isNumberPart c = true ∧ isAsciiSpace c = false ∧
      (48 ≤ c ∧ c ≤ 57 ∨ 97 ≤ c ∧ c ≤ 102) := by
    intro c hc
    obtain ⟨digit, hdigit, rfl⟩ := List.mem_map.mp hc
    have hdigitPlain := hexCode_plain digit (h digit hdigit)
    exact ⟨hdigitPlain.1, hdigitPlain.2, hexCode_range digit (h digit hdigit)⟩
  have hnot {c : ℕ} (hc : ¬ (48 ≤ c ∧ c ≤ 57 ∨ 97 ≤ c ∧ c ≤ 102)) :
      c ∉ digits.map hexCode := fun hmem => hc (hplain c hmem).2.2
  have hascii : toAscii table (digits.map hexCode) = digits.map hexCode := by
    rw [toAscii, if_pos]
    rw [List.all_eq_true]
    intro c hc
    have hrange := (hplain c hc).2.2
    exact decide_eq_true (by omega)
  have htake : (digits.map hexCode).takeWhile isNumberPart = digits.map hexCode :=
    List.takeWhile_eq_self_iff.mpr fun c hc => (hplain c hc).1
  have hdrop : (digits.map hexCode).dropWhile isNumberPart = [] :=
    List.dropWhile_eq_nil_iff.mpr fun c hc => (hplain c hc).1
  unfold intOfHex
  rw [hascii, dropWhile_of_not fun c hc => (hplain c hc).2.1,
    takeSign_of_not_mem (hnot (by omega)) (hnot (by omega))]
  simp only [dropHexPrefix_of_not_mem (hnot (by omega)) (hnot (by omega)), htake, hdrop,
    List.all_nil, if_true, readDigits_hexCode hne h, Option.map_some, Bool.false_eq_true, if_false]

def digits (id : Uuid) : List ℕ := digitsOf 16 32 id.toNat

theorem digits_lt {id : Uuid} : ∀ d ∈ id.digits, d < 16 := digitsOf_lt (by decide)

theorem hexDigits_eq (id : Uuid) : id.hexDigits = id.digits.map Nat.digitChar := by
  simp [hexDigits, digits, digitsOf]

theorem text_eq (id : Uuid) : id.text = (hyphenate id.hexDigits).map Char.toNat := by
  simp [text, str, codePoints]

theorem mem_text {id : Uuid} {c : ℕ} (h : c ∈ id.text) :
    c = 45 ∨ ∃ digit < 16, c = hexCode digit := by
  rw [text_eq] at h
  obtain ⟨char, hchar, rfl⟩ := List.mem_map.mp h
  rcases mem_hyphenate hchar with hdigit | rfl
  · rw [hexDigits_eq] at hdigit
    obtain ⟨digit, hmem, rfl⟩ := List.mem_map.mp hdigit
    exact .inr ⟨digit, digits_lt digit hmem, rfl⟩
  · exact .inl rfl

theorem filter_text (id : Uuid) : id.text.filter (fun c => c != 45) = id.digits.map hexCode := by
  have hhyphen : '-' ∉ id.hexDigits := by
    rw [hexDigits_eq]
    intro hmem
    obtain ⟨digit, hdigit, heq⟩ := List.mem_map.mp hmem
    have hrange := hexCode_range digit (digits_lt digit hdigit)
    have hcode : hexCode digit = 45 := congrArg Char.toNat heq
    omega
  have hchar : ((fun c => c != 45) ∘ Char.toNat) = fun c => c != '-' := by
    funext c
    have hiff : c.toNat = 45 ↔ c = '-' := by
      constructor
      · intro heq
        exact Char.toNat_inj.mp heq
      · intro heq
        rw [heq]
        rfl
    simp [bne, hiff, Bool.beq_eq_decide_eq]
  rw [text_eq, List.filter_map, hchar, filter_hyphenate hhyphen, hexDigits_eq, List.map_map]
  rfl

/-- `UUID(str(uuid))` is `uuid`. -/
theorem ofText_text (table : UnicodeTable) (id : Uuid) : ofText table id.text = some id := by
  have hnot {c : ℕ} (hc : c ≠ 45 ∧ 103 ≤ c) : c ∉ id.text := by
    intro hmem
    rcases mem_text hmem with heq | ⟨digit, hdigit, heq⟩
    · exact hc.1 heq
    · have hrange := hexCode_range digit hdigit
      omega
  have hbraces : ∀ c ∈ id.text, isBrace c = false := by
    intro c hc
    have hopen : c ≠ 123 := fun heq => hnot (by omega) (heq ▸ hc)
    have hclose : c ≠ 125 := fun heq => hnot (by omega) (heq ▸ hc)
    simp [isBrace, hopen, hclose]
  have hurn : removeAll (codePoints "urn:") id.text = id.text :=
    removeFrom_of_not_mem (c := 117) (hnot (by omega))
  have huuid : removeAll (codePoints "uuid:") id.text = id.text :=
    removeFrom_of_not_mem (c := 117) (hnot (by omega))
  have hlength : (id.digits.map hexCode).length = 32 := by simp [digits]
  have hne : id.digits ≠ [] := List.length_pos_iff.mp (by simp [digits])
  have hvalue : numberOf 16 id.digits = id.toNat := by
    rw [digits, numberOf_digitsOf, Nat.mod_eq_of_lt (by simpa using id.isLt)]
  unfold ofText
  simp only [hurn, huuid, stripBraces_of_not hbraces, filter_text, hlength,
    intOfHex_hexCode table hne digits_lt, hvalue]
  have hrange : 0 ≤ (id.toNat : ℤ) ∧ (id.toNat : ℤ) < 2 ^ 128 := by
    have := id.isLt
    omega
  rw [if_pos hrange]
  simp

theorem text_ne_nil (id : Uuid) : id.text ≠ [] := by
  intro h
  have hdigits := id.filter_text
  have hlength := congrArg List.length hdigits
  rw [h] at hlength
  simp [digits] at hlength

end Uuid

end K5Vision.Identity
