import K5Vision.Library.Texts

/-!
# Texts in JSON

`json.loads`, and `json.dumps` of a list of strings, of Python's `json` module.  The writer escapes
everything outside printable ASCII, with a pair of surrogates for a code point beyond `0xffff`; the
reader is that of the module, which refuses control characters in strings and gives up on arrays
and objects that are nested more deeply than the interpreter allows.  A string that was written is
read back wherever it stands (`scanOnce_dumpString`).
-/

namespace Library

/-- What `json.loads` returns. -/
inductive Json
  | null
  | bool (value : Bool)
  | number (literal : Text)
  | string (text : Text)
  | array (items : List Json)
  /-- The last field with a key counts. -/
  | object (fields : List (Text × Json))

/-- What `json.loads` raises. -/
inductive LoadsFailure
  | decodeError
  | recursion
  deriving DecidableEq, Repr

/-! ## Reading -/

def isJsonSpace (c : ℕ) : Bool := c == 32 || c == 9 || c == 10 || c == 13

def skipSpace (text : Text) : Text := text.dropWhile isJsonSpace

def hexUnit (a b c d : ℕ) : Option ℕ := ([a, b, c, d].mapM hexDigitValue).map (numberOf 16)

def isHighSurrogate (unit : ℕ) : Bool := 0xd800 ≤ unit && unit ≤ 0xdbff

def isLowSurrogate (unit : ℕ) : Bool := 0xdc00 ≤ unit && unit ≤ 0xdfff

def joinSurrogates (high low : ℕ) : ℕ := 0x10000 + (high - 0xd800) * 1024 + (low - 0xdc00)

/-- The character of a short escape. -/
def unescape : ℕ → Option ℕ
  | 34 => some 34
  | 92 => some 92
  | 47 => some 47
  | 98 => some 8
  | 102 => some 12
  | 110 => some 10
  | 114 => some 13
  | 116 => some 9
  | _ => none

def pushChar (c : ℕ) (scanned : Option (Text × Text)) : Option (Text × Text) :=
  scanned.map fun found => (c :: found.1, found.2)

/-- `scanstring`, behind the opening quote: the string, and what follows the closing one. -/
def scanString : Text → Option (Text × Text)
  | [] => none
  | 34 :: rest => some ([], rest)
  | 92 :: 117 :: a :: b :: c :: d :: rest =>
      match hexUnit a b c d with
      | none => none
      | some unit =>
          match rest with
          | 92 :: 117 :: e :: f :: g :: h :: behind =>
              if isHighSurrogate unit then
                match hexUnit e f g h with
                | none => none
                | some low =>
                    if isLowSurrogate low then
                      pushChar (joinSurrogates unit low) (scanString behind)
                    else pushChar unit (scanString (92 :: 117 :: e :: f :: g :: h :: behind))
              else pushChar unit (scanString (92 :: 117 :: e :: f :: g :: h :: behind))
          | rest => pushChar unit (scanString rest)
  | 92 :: c :: rest =>
      match unescape c with
      | none => none
      | some found => pushChar found (scanString rest)
  | c :: rest => if c < 32 then none else pushChar c (scanString rest)

def isDigit (c : ℕ) : Bool := 48 ≤ c && c ≤ 57

def scanExponent (text : Text) : Text × Text :=
  let found (sign digits : Text) (behind : Text) : Text × Text :=
    if digits.head?.any isDigit then
      (sign ++ digits.takeWhile isDigit, digits.dropWhile isDigit)
    else ([], behind)
  match text with
  | e :: 43 :: rest => if e = 101 ∨ e = 69 then found [e, 43] rest text else ([], text)
  | e :: 45 :: rest => if e = 101 ∨ e = 69 then found [e, 45] rest text else ([], text)
  | e :: rest => if e = 101 ∨ e = 69 then found [e] rest text else ([], text)
  | [] => ([], [])

def scanFraction : Text → Text × Text
  | 46 :: rest =>
      if rest.head?.any isDigit then (46 :: rest.takeWhile isDigit, rest.dropWhile isDigit)
      else ([], 46 :: rest)
  | text => ([], text)

/-- The literal of a number without its sign. -/
def scanUnsigned (text : Text) : Option (Text × Text) :=
  let whole : Option (Text × Text) :=
    match text with
    | 48 :: rest => some ([48], rest)
    | _ =>
        if text.head?.any isDigit then some (text.takeWhile isDigit, text.dropWhile isDigit)
        else none
  whole.map fun (digits, rest) =>
    let (fraction, rest) := scanFraction rest
    let (exponent, rest) := scanExponent rest
    (digits ++ fraction ++ exponent, rest)

def afterWord (word : String) (text : Text) : Option Text :=
  if (codePoints word).isPrefixOf text then some (text.drop word.length) else none

def scanLiteral (text : Text) : Option (Json × Text) :=
  match afterWord "null" text, afterWord "true" text, afterWord "false" text,
      afterWord "NaN" text, afterWord "Infinity" text, afterWord "-Infinity" text with
  | some rest, _, _, _, _, _ => some (.null, rest)
  | _, some rest, _, _, _, _ => some (.bool true, rest)
  | _, _, some rest, _, _, _ => some (.bool false, rest)
  | _, _, _, some rest, _, _ => some (.number (codePoints "NaN"), rest)
  | _, _, _, _, some rest, _ => some (.number (codePoints "Infinity"), rest)
  | _, _, _, _, _, some rest => some (.number (codePoints "-Infinity"), rest)
  | _, _, _, _, _, _ =>
      match text with
      | 45 :: rest => (scanUnsigned rest).map fun found => (.number (45 :: found.1), found.2)
      | _ => (scanUnsigned text).map fun found => (.number found.1, found.2)

mutual

/-- `scan_once`: a value, and what follows it.  Arrays and objects may be nested `depth` deep; the
first argument bounds the calls, by the length of the text. -/
def scanOnce : ℕ → ℕ → Text → Except LoadsFailure (Json × Text)
  | 0, _, _ => .error .decodeError
  | calls + 1, depth, text =>
      match text with
      | 34 :: rest =>
          match scanString rest with
          | none => .error .decodeError
          | some (found, rest) => .ok (.string found, rest)
      | 91 :: rest =>
          match depth, skipSpace rest with
          | 0, _ => .error .recursion
          | _ + 1, 93 :: rest => .ok (.array [], rest)
          | depth + 1, rest =>
              match scanItems calls depth rest with
              | .error failure => .error failure
              | .ok (items, rest) => .ok (.array items, rest)
      | 123 :: rest =>
          match depth, skipSpace rest with
          | 0, _ => .error .recursion
          | _ + 1, 125 :: rest => .ok (.object [], rest)
          | depth + 1, rest =>
              match scanFields calls depth rest with
              | .error failure => .error failure
              | .ok (fields, rest) => .ok (.object fields, rest)
      | _ =>
          match scanLiteral text with
          | none => .error .decodeError
          | some found => .ok found

/-- The items of an array, up to its closing bracket. -/
def scanItems : ℕ → ℕ → Text → Except LoadsFailure (List Json × Text)
  | 0, _, _ => .error .decodeError
  | calls + 1, depth, text =>
      match scanOnce calls depth text with
      | .error failure => .error failure
      | .ok (item, rest) =>
          match skipSpace rest with
          | 93 :: rest => .ok ([item], rest)
          | 44 :: rest =>
              match scanItems calls depth (skipSpace rest) with
              | .error failure => .error failure
              | .ok (items, rest) => .ok (item :: items, rest)
          | _ => .error .decodeError

/-- The fields of an object, up to its closing bracket. -/
def scanFields : ℕ → ℕ → Text → Except LoadsFailure (List (Text × Json) × Text)
  | 0, _, _ => .error .decodeError
  | calls + 1, depth, text =>
      match text with
      | 34 :: rest =>
          match scanString rest with
          | none => .error .decodeError
          | some (key, rest) =>
              match skipSpace rest with
              | 58 :: rest =>
                  match scanOnce calls depth (skipSpace rest) with
                  | .error failure => .error failure
                  | .ok (value, rest) =>
                      match skipSpace rest with
                      | 125 :: rest => .ok ([(key, value)], rest)
                      | 44 :: rest =>
                          match scanFields calls depth (skipSpace rest) with
                          | .error failure => .error failure
                          | .ok (fields, rest) => .ok ((key, value) :: fields, rest)
                      | _ => .error .decodeError
              | _ => .error .decodeError
      | _ => .error .decodeError

end

/-- `json.loads`, of an interpreter that lets arrays and objects be nested `depth` deep. -/
def loads (depth : ℕ) (text : Text) : Except LoadsFailure Json :=
  if text.head? = some 0xfeff then .error .decodeError
  else
    match scanOnce (2 * text.length + 2) depth (skipSpace text) with
    | .error failure => .error failure
    | .ok (value, rest) => if skipSpace rest = [] then .ok value else .error .decodeError

/-! ## Writing -/

/-- `\\uXXXX`. -/
def escapeUnit (unit : ℕ) : Text := 92 :: 117 :: (digitsOf 16 4 unit).map hexCode

/-- A character of a string, as `json.dumps` writes it. -/
def escapeChar (c : ℕ) : Text :=
  if c = 92 then [92, 92]
  else if c = 34 then [92, 34]
  else if c = 8 then [92, 98]
  else if c = 12 then [92, 102]
  else if c = 10 then [92, 110]
  else if c = 13 then [92, 114]
  else if c = 9 then [92, 116]
  else if 32 ≤ c ∧ c ≤ 126 then [c]
  else if c < 0x10000 then escapeUnit c
  else escapeUnit (0xd800 + (c - 0x10000) / 1024 % 1024) ++
    escapeUnit (0xdc00 + (c - 0x10000) % 1024)

def dumpString (text : Text) : Text := 34 :: (text.flatMap escapeChar ++ [34])

/-- `json.dumps` of a list of strings, without blanks behind the commas. -/
def dumps (items : List Text) : Text := 91 :: ([44].intercalate (items.map dumpString) ++ [93])

/-! ## Reading what was written -/

/-- A code point that a string of UTF-8 can have. -/
def IsScalar (c : ℕ) : Prop := c < 0xd800 ∨ 0xdfff < c ∧ c < 0x110000

instance : DecidablePred IsScalar := fun c =>
  inferInstanceAs (Decidable (c < 0xd800 ∨ 0xdfff < c ∧ c < 0x110000))

theorem hexUnit_digitsOf {unit : ℕ} (h : unit < 65536) :
    ∃ a b c d, (digitsOf 16 4 unit).map hexCode = [a, b, c, d] ∧ hexUnit a b c d = some unit := by
  have hdigits : ∀ digit ∈ digitsOf 16 4 unit, digit < 16 := digitsOf_lt (by decide)
  have hvalue : numberOf 16 (digitsOf 16 4 unit) = unit := by
    rw [numberOf_digitsOf, Nat.mod_eq_of_lt (by simpa using h)]
  have hlength : (digitsOf 16 4 unit).length = 4 := length_digitsOf _ _ _
  generalize digitsOf 16 4 unit = digits at hdigits hvalue hlength
  obtain ⟨a, b, c, d, rfl⟩ := List.length_eq_four.mp hlength
  refine ⟨hexCode a, hexCode b, hexCode c, hexCode d, rfl, ?_⟩
  simp only [List.forall_mem_cons] at hdigits
  obtain ⟨ha, hb, hc, hd, -⟩ := hdigits
  simp [hexUnit, hexDigitValue_hexCode _ ha, hexDigitValue_hexCode _ hb,
    hexDigitValue_hexCode _ hc, hexDigitValue_hexCode _ hd, hvalue]

theorem scanString_escapeUnit {unit : ℕ} (hunit : unit < 65536)
    (hhigh : isHighSurrogate unit = false) (rest : Text) :
    scanString (escapeUnit unit ++ rest) = pushChar unit (scanString rest) := by
  obtain ⟨a, b, c, d, hcodes, hvalue⟩ := hexUnit_digitsOf hunit
  rw [escapeUnit, hcodes]
  simp only [List.cons_append, List.nil_append]
  rw [scanString.eq_def]
  simp only [hvalue]
  split
  · simp [hhigh]
  · rfl

theorem scanString_pair {high low : ℕ} (hhigh : high < 65536) (hlow : low < 65536)
    (hisHigh : isHighSurrogate high = true) (hisLow : isLowSurrogate low = true) (rest : Text) :
    scanString (escapeUnit high ++ (escapeUnit low ++ rest)) =
      pushChar (joinSurrogates high low) (scanString rest) := by
  obtain ⟨a, b, c, d, hcodes, hvalue⟩ := hexUnit_digitsOf hhigh
  obtain ⟨e, f, g, h, hcodes', hvalue'⟩ := hexUnit_digitsOf hlow
  rw [escapeUnit, escapeUnit, hcodes, hcodes']
  simp only [List.cons_append, List.nil_append]
  rw [scanString.eq_def]
  simp [hvalue, hvalue', hisHigh, hisLow]

theorem scanString_escapeChar {c : ℕ} (hc : IsScalar c) (rest : Text) :
    scanString (escapeChar c ++ rest) = pushChar c (scanString rest) := by
  unfold escapeChar
  split_ifs with h1 h2 h3 h4 h5 h6 h7 h8 h9
  · subst h1
    simp [scanString, unescape]
  · subst h2
    simp [scanString, unescape]
  · subst h3
    simp [scanString, unescape]
  · subst h4
    simp [scanString, unescape]
  · subst h5
    simp [scanString, unescape]
  · subst h6
    simp [scanString, unescape]
  · subst h7
    simp [scanString, unescape]
  · rw [List.singleton_append, scanString.eq_def]
    split
    · simp_all
    · simp_all
    · simp_all
    · simp_all
    next c rest' _ _ _ heq =>
      simp only [List.cons.injEq] at heq
      obtain ⟨rfl, rfl⟩ := heq
      rw [if_neg (by omega)]
  · refine scanString_escapeUnit h9 ?_ rest
    unfold IsScalar at hc
    simp [isHighSurrogate]
    omega
  · unfold IsScalar at hc
    have hjoined : joinSurrogates (0xd800 + (c - 0x10000) / 1024 % 1024)
        (0xdc00 + (c - 0x10000) % 1024) = c := by
      unfold joinSurrogates
      omega
    rw [List.append_assoc, scanString_pair (by omega) (by omega) ?_ ?_, hjoined]
    · simp [isHighSurrogate]
      omega
    · simp [isLowSurrogate]
      omega

theorem scanString_dumpString {text : Text} (h : ∀ c ∈ text, IsScalar c) (rest : Text) :
    scanString (text.flatMap escapeChar ++ 34 :: rest) = some (text, rest) := by
  induction text with
  | nil => simp [scanString]
  | cons c text ih =>
      rw [List.forall_mem_cons] at h
      rw [List.flatMap_cons, List.append_assoc, scanString_escapeChar h.1, ih h.2]
      rfl

theorem scanOnce_dumpString {text : Text} (h : ∀ c ∈ text, IsScalar c) (calls depth : ℕ)
    (rest : Text) :
    scanOnce (calls + 1) depth (dumpString text ++ rest) = .ok (.string text, rest) := by
  simp [scanOnce, dumpString, scanString_dumpString h]

end Library
