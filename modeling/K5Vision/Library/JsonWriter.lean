import K5Vision.Library.JsonText
import Mathlib.Data.Nat.Log
import Mathlib.Tactic.NormNum

/-!
# Values in JSON

Compact JSON of any value, and that a reader gives the value back (`loads_write`).  A number is
written in decimal digits.

## Strategy

The reader gets a number of calls that it may make.  `Readable depth` says of a value that it is
nested at most `depth` deep and that its texts can be written; by induction on it, a value is read
back wherever it stands (`Readable.scanOnce`), with twice its length as the number of calls.  The
only values whose end does not show in themselves are numbers, so what follows must not go on with
one (`Ends`).
-/

namespace Library

/-! ## Numbers -/

def decimal (n : ℕ) : Text := (digitsOf 10 (Nat.log 10 n + 1) n).map hexCode

def naturalOf (literal : Text) : Option ℕ :=
  if literal ≠ [] ∧ literal.all isDigit then some (numberOf 10 (literal.map (· - 48))) else none

theorem length_decimal (n : ℕ) : (decimal n).length = Nat.log 10 n + 1 := by
  rw [decimal, List.length_map, length_digitsOf]

theorem hexCode_of_lt_ten : ∀ digit < 10, hexCode digit = 48 + digit := by decide

theorem decimal_digits (n : ℕ) : ∀ c ∈ decimal n, isDigit c = true := by
  intro c hc
  obtain ⟨digit, hdigit, rfl⟩ := List.mem_map.mp hc
  have hlt : digit < 10 := digitsOf_lt (by omega) digit hdigit
  rw [hexCode_of_lt_ten digit hlt, isDigit]
  simp only [Bool.and_eq_true, decide_eq_true_eq]
  omega

theorem naturalOf_decimal (n : ℕ) : naturalOf (decimal n) = some n := by
  have hne : decimal n ≠ [] := by
    rw [← List.length_pos_iff, length_decimal]
    omega
  have hvalues : (decimal n).map (· - 48) = digitsOf 10 (Nat.log 10 n + 1) n := by
    rw [decimal, List.map_map]
    conv_rhs => rw [← List.map_id (digitsOf 10 (Nat.log 10 n + 1) n)]
    refine List.map_congr_left fun digit hdigit => ?_
    have hlt : digit < 10 := digitsOf_lt (by omega) digit hdigit
    simp [hexCode_of_lt_ten digit hlt]
  rw [naturalOf, if_pos ⟨hne, List.all_eq_true.mpr (decimal_digits n)⟩, hvalues, numberOf_digitsOf,
    Nat.mod_eq_of_lt (Nat.lt_pow_succ_log_self (by omega) n)]

theorem decimal_cases (n : ℕ) : decimal n = [48] ∨
    ∃ first rest, decimal n = first :: rest ∧ 49 ≤ first ∧ first ≤ 57 := by
  by_cases hzero : n = 0
  · subst hzero
    exact .inl (by decide)
  right
  have hpow : 10 ^ Nat.log 10 n ≤ n := Nat.pow_log_le_self 10 hzero
  have hlt : n < 10 ^ (Nat.log 10 n + 1) := Nat.lt_pow_succ_log_self (by omega) n
  have hhead : ∃ rest, decimal n = hexCode (n / 10 ^ Nat.log 10 n % 10) :: rest := by
    rw [decimal, digitsOf, List.range_succ_eq_map]
    exact ⟨_, rfl⟩
  obtain ⟨rest, hhead⟩ := hhead
  have hpos : 1 ≤ n / 10 ^ Nat.log 10 n := Nat.div_pos hpow (by positivity)
  have hten : n / 10 ^ Nat.log 10 n < 10 := by
    rw [Nat.div_lt_iff_lt_mul (by positivity)]
    rwa [pow_succ, mul_comm] at hlt
  rw [Nat.mod_eq_of_lt hten, hexCode_of_lt_ten _ hten] at hhead
  exact ⟨_, rest, hhead, by omega, by omega⟩

/-! ## Writing -/

mutual

/-- Compact JSON, as `json.dumps` with `separators=(",", ":")` writes it. -/
def Json.write : Json → Text
  | .null => codePoints "null"
  | .bool true => codePoints "true"
  | .bool false => codePoints "false"
  | .number literal => literal
  | .string text => dumpString text
  | .array items => 91 :: ([44].intercalate (Json.writeItems items) ++ [93])
  | .object fields => 123 :: ([44].intercalate (Json.writeFields fields) ++ [125])

def Json.writeItems : List Json → List Text
  | [] => []
  | item :: rest => item.write :: Json.writeItems rest

def Json.writeFields : List (Text × Json) → List Text
  | [] => []
  | (key, value) :: rest => (dumpString key ++ 58 :: value.write) :: Json.writeFields rest

end

theorem writeItems_eq_map (items : List Json) : Json.writeItems items = items.map Json.write := by
  induction items with
  | nil => rfl
  | cons item rest ih => rw [Json.writeItems, ih, List.map_cons]

def writeField (field : Text × Json) : Text := dumpString field.1 ++ 58 :: field.2.write

theorem writeFields_eq_map (fields : List (Text × Json)) :
    Json.writeFields fields = fields.map writeField := by
  induction fields with
  | nil => rfl
  | cons field rest ih => rw [Json.writeFields, ih, List.map_cons, writeField]

/-! ## Reading what was written -/

/-- Values that are nested at most `depth` deep, of texts that can be written; their numbers are
natural. -/
inductive Json.Readable : ℕ → Json → Prop
  | null {depth : ℕ} : Readable depth .null
  | bool {depth : ℕ} (value : Bool) : Readable depth (.bool value)
  | number {depth : ℕ} (n : ℕ) : Readable depth (.number (decimal n))
  | string {depth : ℕ} {text : Text} (h : ∀ c ∈ text, IsScalar c) : Readable depth (.string text)
  | array {depth : ℕ} {items : List Json} (h : ∀ item ∈ items, Readable depth item) :
      Readable (depth + 1) (.array items)
  | object {depth : ℕ} {fields : List (Text × Json)}
      (hkeys : ∀ field ∈ fields, ∀ c ∈ field.1, IsScalar c)
      (h : ∀ field ∈ fields, Readable depth field.2) : Readable (depth + 1) (.object fields)

/-- A text does not go on with a number. -/
def Ends (rest : Text) : Prop := ∀ c ∈ rest.head?, isDigit c = false ∧ c ≠ 46 ∧ c ≠ 69 ∧ c ≠ 101

theorem ends_nil : Ends [] := by rintro c ⟨⟩

variable {rest : Text} {c : ℕ}

theorem ends_cons (h : isDigit c = false ∧ c ≠ 46 ∧ c ≠ 69 ∧ c ≠ 101) : Ends (c :: rest) := by
  intro first hfirst
  cases hfirst
  exact h

theorem scanFraction_of_ends (h : Ends rest) : scanFraction rest = ([], rest) := by
  cases rest with
  | nil => rfl
  | cons c rest =>
      have hc := (h c rfl).2.1
      rw [scanFraction]
      intro behind heq
      cases heq
      exact hc rfl

theorem scanExponent_of_ends (h : Ends rest) : scanExponent rest = ([], rest) := by
  cases rest with
  | nil => rfl
  | cons c rest =>
      obtain ⟨-, -, hupper, hlower⟩ := h c rfl
      have hc : ¬ (c = 101 ∨ c = 69) := by omega
      unfold scanExponent
      dsimp only
      split <;> simp_all

theorem takeWhile_digits {digits : Text} (hdigits : ∀ c ∈ digits, isDigit c = true)
    (h : Ends rest) : (digits ++ rest).takeWhile isDigit = digits ∧
      (digits ++ rest).dropWhile isDigit = rest := by
  induction digits with
  | nil =>
      cases rest with
      | nil => exact ⟨rfl, rfl⟩
      | cons c rest =>
          have hc := (h c rfl).1
          simp [hc]
  | cons c digits ih =>
      rw [List.forall_mem_cons] at hdigits
      obtain ⟨htake, hdrop⟩ := ih hdigits.2
      rw [List.cons_append, List.takeWhile_cons_of_pos hdigits.1,
        List.dropWhile_cons_of_pos hdigits.1, htake, hdrop]
      exact ⟨rfl, rfl⟩

theorem scanUnsigned_decimal (n : ℕ) (h : Ends rest) :
    scanUnsigned (decimal n ++ rest) = some (decimal n, rest) := by
  unfold scanUnsigned
  refine (congrArg (Option.map _) (?_ : _ = some (decimal n, rest))).trans ?_
  swap
  · simp only [Option.map_some, scanFraction_of_ends h, scanExponent_of_ends h, List.append_nil]
  obtain ⟨htake, hdrop⟩ := takeWhile_digits (decimal_digits n) h
  rcases decimal_cases n with hzero | ⟨first, others, heq, hle, hge⟩
  · rw [hzero]
    rfl
  have hdigit : (decimal n ++ rest).head?.any isDigit = true := by
    rw [heq]
    simp [isDigit]
    omega
  split
  · next behind hbegins =>
      rw [heq, List.cons_append, List.cons.injEq] at hbegins
      omega
  · rw [if_pos hdigit, htake, hdrop]

theorem afterWord_of_head {word : String} (hne : codePoints word ≠ [])
    (hhead : (codePoints word).head? ≠ some c) : afterWord word (c :: rest) = none := by
  rw [afterWord]
  cases hword : codePoints word with
  | nil => exact absurd hword hne
  | cons first others =>
      rw [hword, List.head?_cons, ne_eq, Option.some.injEq] at hhead
      simp [List.isPrefixOf, hhead]

theorem afterWord_append (word : String) (rest : Text) :
    afterWord word (codePoints word ++ rest) = some rest := by
  have hlength : (codePoints word).length = word.length := by
    rw [codePoints, List.length_map, String.length_toList]
  have hprefix : (codePoints word).isPrefixOf (codePoints word ++ rest) = true :=
    List.isPrefixOf_iff_prefix.mpr (List.prefix_append _ _)
  rw [afterWord, if_pos hprefix, ← hlength, List.drop_left]

theorem scanLiteral_null (rest : Text) :
    scanLiteral (codePoints "null" ++ rest) = some (.null, rest) := by
  unfold scanLiteral
  rw [afterWord_append]

theorem scanLiteral_true (rest : Text) :
    scanLiteral (codePoints "true" ++ rest) = some (.bool true, rest) := by
  have hnull : afterWord "null" (codePoints "true" ++ rest) = none :=
    afterWord_of_head (by decide) (by decide)
  unfold scanLiteral
  rw [afterWord_append, hnull]

theorem scanLiteral_false (rest : Text) :
    scanLiteral (codePoints "false" ++ rest) = some (.bool false, rest) := by
  have hnull : afterWord "null" (codePoints "false" ++ rest) = none :=
    afterWord_of_head (by decide) (by decide)
  have htrue : afterWord "true" (codePoints "false" ++ rest) = none :=
    afterWord_of_head (by decide) (by decide)
  unfold scanLiteral
  rw [afterWord_append, hnull, htrue]

theorem scanLiteral_decimal (n : ℕ) (h : Ends rest) :
    scanLiteral (decimal n ++ rest) = some (.number (decimal n), rest) := by
  have hfirst : ∃ first others, decimal n ++ rest = first :: others ∧ 48 ≤ first ∧ first ≤ 57 := by
    rcases decimal_cases n with hzero | ⟨first, others, heq, hle, hge⟩
    · exact ⟨48, rest, by rw [hzero]; rfl, by omega, by omega⟩
    · exact ⟨first, others ++ rest, by rw [heq]; rfl, by omega, by omega⟩
  obtain ⟨first, others, heq, hle, hge⟩ := hfirst
  have hwords : ∀ word ∈ ["null", "true", "false", "NaN", "Infinity", "-Infinity"],
      codePoints word ≠ [] ∧ (codePoints word).head?.any isDigit = false := by
    decide
  have hnone : ∀ word ∈ ["null", "true", "false", "NaN", "Infinity", "-Infinity"],
      afterWord word (first :: others) = none := by
    intro word hword
    obtain ⟨hne, hdigit⟩ := hwords word hword
    refine afterWord_of_head hne fun hhead => ?_
    rw [hhead] at hdigit
    simp [isDigit] at hdigit
    omega
  have hscan := scanUnsigned_decimal n h
  rw [heq] at hscan ⊢
  unfold scanLiteral
  rw [hnone "null" (by simp), hnone "true" (by simp), hnone "false" (by simp),
    hnone "NaN" (by simp), hnone "Infinity" (by simp), hnone "-Infinity" (by simp)]
  dsimp only
  split
  · next behind hbegins =>
      rw [List.cons.injEq] at hbegins
      omega
  · rw [hscan]
    rfl

/-! ### Lists of values -/

theorem skipSpace_cons (h : isJsonSpace c = false) : skipSpace (c :: rest) = c :: rest := by
  rw [skipSpace, List.dropWhile_cons_of_neg (by simp [h])]

/-- A text that begins neither with a blank nor with what closes an array or an object. -/
def Begins (text : Text) : Prop :=
  ∃ first rest, text = first :: rest ∧ isJsonSpace first = false ∧ first ≠ 93 ∧ first ≠ 125

variable {text : Text}

theorem Begins.append (h : Begins text) (behind : Text) : Begins (text ++ behind) := by
  obtain ⟨first, rest, rfl, hfirst⟩ := h
  exact ⟨first, rest ++ behind, rfl, hfirst⟩

theorem Begins.skipSpace (h : Begins text) : skipSpace text = text := by
  obtain ⟨first, rest, rfl, hspace, -⟩ := h
  exact skipSpace_cons hspace

theorem Begins.length_pos (h : Begins text) : 1 ≤ text.length := by
  obtain ⟨first, rest, rfl, -⟩ := h
  simp

theorem begins_dumpString (text : Text) : Begins (dumpString text) :=
  ⟨34, _, rfl, by decide, by decide, by decide⟩

variable {json : Json} {depth : ℕ}

theorem Json.Readable.begins (h : json.Readable depth) : Begins json.write := by
  cases h with
  | null => exact ⟨110, _, rfl, by decide, by decide, by decide⟩
  | bool value =>
      cases value with
      | true => exact ⟨116, _, rfl, by decide, by decide, by decide⟩
      | false => exact ⟨102, _, rfl, by decide, by decide, by decide⟩
  | number n =>
      rw [Json.write]
      rcases decimal_cases n with hzero | ⟨first, others, heq, hle, hge⟩
      · exact ⟨48, [], hzero, by decide, by decide, by decide⟩
      · refine ⟨first, others, heq, ?_, by omega, by omega⟩
        simp [isJsonSpace]
        omega
  | string => exact begins_dumpString _
  | array => exact ⟨91, _, rfl, by decide, by decide, by decide⟩
  | object => exact ⟨123, _, rfl, by decide, by decide, by decide⟩

def ReadBack (depth : ℕ) (json : Json) : Prop :=
  ∀ calls rest, 2 * json.write.length ≤ calls → Ends rest →
    scanOnce calls depth (json.write ++ rest) = .ok (json, rest)

theorem joined_cons (first : Text) {rest : List Text} (hne : rest ≠ []) :
    [44].intercalate (first :: rest) = first ++ 44 :: [44].intercalate rest := by
  cases rest with
  | nil => exact absurd rfl hne
  | cons second rest =>
      rw [List.intercalate_cons_cons]
      simp

theorem begins_joined {texts : List Text} (hne : texts ≠ []) (h : ∀ text ∈ texts, Begins text) :
    Begins ([44].intercalate texts) := by
  cases texts with
  | nil => exact absurd rfl hne
  | cons first rest =>
      have hfirst := h first List.mem_cons_self
      by_cases hrest : rest = []
      · subst hrest
        simpa using hfirst
      · rw [joined_cons first hrest]
        exact hfirst.append _

variable {calls : ℕ} {items : List Json}

theorem scanItems_write (hne : items ≠ []) (hbegins : ∀ item ∈ items, Begins item.write)
    (h : ∀ item ∈ items, ReadBack depth item)
    (hcalls : 2 * ([44].intercalate (items.map Json.write)).length + 1 ≤ calls) (rest : Text) :
    scanItems calls depth ([44].intercalate (items.map Json.write) ++ 93 :: rest) =
      .ok (items, rest) := by
  induction items generalizing calls with
  | nil => exact absurd rfl hne
  | cons item items ih =>
      rw [List.forall_mem_cons] at h hbegins
      obtain ⟨calls, rfl⟩ : ∃ less, calls = less + 1 := ⟨calls - 1, by omega⟩
      by_cases hlast : items = []
      · subst hlast
        simp only [List.map_cons, List.map_nil, List.intercalate_singleton] at hcalls ⊢
        rw [scanItems, h.1 calls _ (by omega) (ends_cons (by decide))]
        simp only [skipSpace_cons (show isJsonSpace 93 = false by decide)]
      have hnext : items.map Json.write ≠ [] := by simpa using hlast
      have hbehind : Begins ([44].intercalate (items.map Json.write)) :=
        begins_joined hnext (by simpa using hbegins.2)
      rw [List.map_cons, joined_cons _ hnext, List.length_append, List.length_cons] at hcalls
      have hrest : scanItems calls depth
          ([44].intercalate (items.map Json.write) ++ 93 :: rest) = .ok (items, rest) :=
        ih hlast hbegins.2 h.2 (by omega)
      rw [List.map_cons, joined_cons _ hnext, List.append_assoc, List.cons_append, scanItems,
        h.1 calls _ (by omega) (ends_cons (by decide))]
      simp only [skipSpace_cons (show isJsonSpace 44 = false by decide),
        (hbehind.append (93 :: rest)).skipSpace, hrest]

theorem scanFields_writeField {field : Text × Json} (hkey : ∀ c ∈ field.1, IsScalar c)
    (hbegins : Begins field.2.write) (h : ReadBack depth field.2) {behind : Text}
    (hends : Ends behind) (hcalls : 2 * field.2.write.length ≤ calls) :
    scanFields (calls + 1) depth (writeField field ++ behind) =
      match skipSpace behind with
      | 125 :: rest => .ok ([field], rest)
      | 44 :: rest =>
          match scanFields calls depth (skipSpace rest) with
          | .error failure => .error failure
          | .ok (fields, rest) => .ok (field :: fields, rest)
      | _ => .error .decodeError := by
  rw [writeField, dumpString, List.append_assoc, List.cons_append, List.append_assoc, scanFields]
  simp only [List.cons_append, List.nil_append, scanString_dumpString hkey,
    skipSpace_cons (show isJsonSpace 58 = false by decide), (hbegins.append behind).skipSpace,
    h calls behind hcalls hends] <;> rfl

theorem scanFields_write {fields : List (Text × Json)} (hne : fields ≠ [])
    (hkeys : ∀ field ∈ fields, ∀ c ∈ field.1, IsScalar c)
    (hbegins : ∀ field ∈ fields, Begins field.2.write)
    (h : ∀ field ∈ fields, ReadBack depth field.2)
    (hcalls : 2 * ([44].intercalate (fields.map writeField)).length + 1 ≤ calls) (rest : Text) :
    scanFields calls depth ([44].intercalate (fields.map writeField) ++ 125 :: rest) =
      .ok (fields, rest) := by
  induction fields generalizing calls with
  | nil => exact absurd rfl hne
  | cons field fields ih =>
      rw [List.forall_mem_cons] at h hbegins hkeys
      obtain ⟨calls, rfl⟩ : ∃ less, calls = less + 1 := ⟨calls - 1, by omega⟩
      have hvalue : 2 * field.2.write.length ≤ 2 * (writeField field).length := by
        simp [writeField]
        omega
      by_cases hlast : fields = []
      · subst hlast
        simp only [List.map_cons, List.map_nil, List.intercalate_singleton] at hcalls ⊢
        rw [scanFields_writeField hkeys.1 hbegins.1 h.1 (ends_cons (by decide)) (by omega)]
        simp only [skipSpace_cons (show isJsonSpace 125 = false by decide)]
      have hnext : fields.map writeField ≠ [] := by simpa using hlast
      have hbehind : Begins ([44].intercalate (fields.map writeField)) := by
        refine begins_joined hnext fun text htext => ?_
        obtain ⟨other, -, rfl⟩ := List.mem_map.mp htext
        exact (begins_dumpString other.1).append _
      rw [List.map_cons, joined_cons _ hnext, List.length_append, List.length_cons] at hcalls
      have hrest : scanFields calls depth
          ([44].intercalate (fields.map writeField) ++ 125 :: rest) = .ok (fields, rest) :=
        ih hlast hkeys.2 hbegins.2 h.2 (by omega)
      rw [List.map_cons, joined_cons _ hnext, List.append_assoc, List.cons_append,
        scanFields_writeField hkeys.1 hbegins.1 h.1 (ends_cons (by decide)) (by omega)]
      simp only [skipSpace_cons (show isJsonSpace 44 = false by decide),
        (hbehind.append (125 :: rest)).skipSpace, hrest]

/-! ### Values -/

theorem scanOnce_literal {found : Json × Text} (h : scanLiteral text = some found)
    (hhead : ∀ c ∈ text.head?, c ≠ 34 ∧ c ≠ 91 ∧ c ≠ 123) (calls depth : ℕ) :
    scanOnce (calls + 1) depth text = .ok found := by
  cases text with
  | nil =>
      rw [scanOnce, h]
      all_goals simp
  | cons c rest =>
      obtain ⟨hquote, hbracket, hbrace⟩ := hhead c rfl
      rw [scanOnce, h]
      · rintro behind ⟨⟩
        exact hquote rfl
      · rintro behind ⟨⟩
        exact hbracket rfl
      · rintro behind ⟨⟩
        exact hbrace rfl

theorem scanOnce_array (hbegins : Begins text)
    (h : scanItems calls depth text = .ok (items, rest)) :
    scanOnce (calls + 1) (depth + 1) (91 :: text) = .ok (.array items, rest) := by
  obtain ⟨first, others, rfl, hspace, hclose, -⟩ := hbegins
  unfold scanOnce
  simp only [skipSpace_cons hspace]
  split
  · next heq => cases heq
  · next heq =>
      rw [List.cons.injEq] at heq
      exact absurd heq.1 hclose
  · next hdepth _ =>
      cases hdepth
      rw [h]

theorem scanOnce_object {fields : List (Text × Json)} (hbegins : Begins text)
    (h : scanFields calls depth text = .ok (fields, rest)) :
    scanOnce (calls + 1) (depth + 1) (123 :: text) = .ok (.object fields, rest) := by
  obtain ⟨first, others, rfl, hspace, -, hclose⟩ := hbegins
  unfold scanOnce
  simp only [skipSpace_cons hspace]
  split
  · next heq => cases heq
  · next heq =>
      rw [List.cons.injEq] at heq
      exact absurd heq.1 hclose
  · next hdepth _ =>
      cases hdepth
      rw [h]

theorem readBack_of (hpos : Begins json.write)
    (h : ∀ calls rest, 2 * json.write.length ≤ calls + 1 → Ends rest →
      scanOnce (calls + 1) depth (json.write ++ rest) = .ok (json, rest)) :
    ReadBack depth json := by
  intro calls rest hcalls hends
  have := hpos.length_pos
  obtain ⟨calls, rfl⟩ : ∃ less, calls = less + 1 := ⟨calls - 1, by omega⟩
  exact h calls rest hcalls hends

theorem Json.Readable.readBack (h : json.Readable depth) : ReadBack depth json := by
  induction h with
  | @null depth =>
      refine readBack_of (@Readable.null depth).begins fun calls rest _ _ => ?_
      exact scanOnce_literal (scanLiteral_null rest) (by rintro c ⟨⟩; decide) calls _
  | @bool depth value =>
      refine readBack_of (@Readable.bool depth value).begins fun calls rest _ _ => ?_
      cases value with
      | true => exact scanOnce_literal (scanLiteral_true rest) (by rintro c ⟨⟩; decide) calls _
      | false => exact scanOnce_literal (scanLiteral_false rest) (by rintro c ⟨⟩; decide) calls _
  | @number depth n =>
      refine readBack_of (@Readable.number depth n).begins fun calls rest _ hends => ?_
      refine scanOnce_literal (scanLiteral_decimal n hends) (fun c hc => ?_) calls _
      have hdigit : isDigit c = true := by
        rcases decimal_cases n with hzero | ⟨first, others, heq, -⟩
        · rw [hzero] at hc
          cases hc
          decide
        · rw [heq] at hc
          cases hc
          exact decimal_digits n c (by rw [heq]; exact List.mem_cons_self)
      simp only [isDigit, Bool.and_eq_true, decide_eq_true_eq] at hdigit
      omega
  | @string depth text h =>
      refine readBack_of (@Readable.string depth text h).begins fun calls rest _ _ => ?_
      exact scanOnce_dumpString h calls _ rest
  | @array depth items h ih =>
      refine readBack_of (Readable.array h).begins fun calls rest hcalls _ => ?_
      rw [Json.write, writeItems_eq_map] at hcalls ⊢
      by_cases hempty : items = []
      · subst hempty
        simp [scanOnce, skipSpace, isJsonSpace]
      have hbegins : ∀ item ∈ items, Begins item.write := fun item hitem => (h item hitem).begins
      have hjoined : Begins ([44].intercalate (items.map Json.write)) :=
        begins_joined (by simpa using hempty) (by simpa using hbegins)
      simp only [List.length_cons, List.length_append, List.length_nil] at hcalls
      rw [List.cons_append, List.append_assoc, List.singleton_append]
      exact scanOnce_array (hjoined.append _)
        (scanItems_write hempty hbegins ih (by omega) rest)
  | @object depth fields hkeys h ih =>
      refine readBack_of (Readable.object hkeys h).begins fun calls rest hcalls _ => ?_
      rw [Json.write, writeFields_eq_map] at hcalls ⊢
      by_cases hempty : fields = []
      · subst hempty
        simp [scanOnce, skipSpace, isJsonSpace]
      have hbegins : ∀ field ∈ fields, Begins field.2.write := fun field hfield =>
        (h field hfield).begins
      have hjoined : Begins ([44].intercalate (fields.map writeField)) := by
        refine begins_joined (by simpa using hempty) fun text htext => ?_
        obtain ⟨field, -, rfl⟩ := List.mem_map.mp htext
        exact (begins_dumpString field.1).append _
      simp only [List.length_cons, List.length_append, List.length_nil] at hcalls
      rw [List.cons_append, List.append_assoc, List.singleton_append]
      exact scanOnce_object (hjoined.append _)
        (scanFields_write hempty hkeys hbegins ih (by omega) rest)

/-! ### What is written is in ASCII -/

theorem escapeUnit_ascii (unit : ℕ) : ∀ c ∈ escapeUnit unit, c < 128 := by
  intro c hc
  simp only [escapeUnit, List.mem_cons, List.mem_map] at hc
  rcases hc with rfl | rfl | ⟨digit, hdigit, rfl⟩
  · decide
  · decide
  · have hlt : digit < 16 := digitsOf_lt (by omega) digit hdigit
    have hrange := hexCode_range digit hlt
    omega

theorem escapeChar_ascii (c : ℕ) : ∀ d ∈ escapeChar c, d < 128 := by
  intro d hd
  unfold escapeChar at hd
  split_ifs at hd
  iterate 7
    · simp only [List.mem_cons, List.not_mem_nil, or_false] at hd
      omega
  · rw [List.mem_singleton.mp hd]
    omega
  · exact escapeUnit_ascii c d hd
  · rcases List.mem_append.mp hd with hhigh | hlow
    · exact escapeUnit_ascii _ d hhigh
    · exact escapeUnit_ascii _ d hlow

theorem dumpString_ascii (text : Text) : ∀ c ∈ dumpString text, c < 128 := by
  intro c hc
  rw [dumpString, List.mem_cons, List.mem_append, List.mem_singleton] at hc
  rcases hc with rfl | hescaped | rfl
  · decide
  · obtain ⟨d, -, hd⟩ := List.mem_flatMap.mp hescaped
    exact escapeChar_ascii d c hd
  · decide

theorem Json.Readable.ascii (h : json.Readable depth) : ∀ c ∈ json.write, c < 128 := by
  induction h with
  | null => decide
  | bool value => cases value <;> decide
  | number n =>
      intro c hc
      have hdigit := decimal_digits n c hc
      simp only [isDigit, Bool.and_eq_true, decide_eq_true_eq] at hdigit
      omega
  | string => exact dumpString_ascii _
  | array h ih =>
      intro c hc
      rw [Json.write, writeItems_eq_map, List.mem_cons, List.mem_append, List.mem_singleton] at hc
      rcases hc with rfl | hitems | rfl
      · decide
      · rcases mem_intercalate hitems with rfl | ⟨part, hpart, hmem⟩
        · decide
        · obtain ⟨item, hitem, rfl⟩ := List.mem_map.mp hpart
          exact ih item hitem c hmem
      · decide
  | object hkeys h ih =>
      intro c hc
      rw [Json.write, writeFields_eq_map, List.mem_cons, List.mem_append, List.mem_singleton] at hc
      rcases hc with rfl | hfields | rfl
      · decide
      · rcases mem_intercalate hfields with rfl | ⟨part, hpart, hmem⟩
        · decide
        · obtain ⟨field, hfield, rfl⟩ := List.mem_map.mp hpart
          rw [writeField, List.mem_append, List.mem_cons] at hmem
          rcases hmem with hkey | rfl | hvalue
          · exact dumpString_ascii _ c hkey
          · decide
          · exact ih field hfield c hvalue
      · decide

/-- **What was written is read back.** -/
theorem loads_write (h : json.Readable depth) : loads depth json.write = .ok json := by
  have hmark : json.write.head? ≠ some 0xfeff := by
    intro hhead
    have := h.ascii _ (List.mem_of_mem_head? hhead)
    omega
  have hread : scanOnce (2 * json.write.length + 2) depth (json.write ++ []) = .ok (json, []) :=
    h.readBack _ _ (by omega) ends_nil
  rw [List.append_nil] at hread
  rw [loads, if_neg hmark, h.begins.skipSpace, hread]
  rfl

/-! ### The length of what is written -/

theorem length_joined {texts : List Text} (hne : texts ≠ []) :
    ([44].intercalate texts).length + 1 = (texts.map fun text => text.length + 1).sum := by
  induction texts with
  | nil => exact absurd rfl hne
  | cons first rest ih =>
      by_cases hrest : rest = []
      · subst hrest
        simp
      · rw [joined_cons first hrest, List.length_append, List.length_cons, List.map_cons,
          List.sum_cons, ← ih hrest]
        omega

theorem length_write_array (hne : items ≠ []) :
    (Json.array items).write.length = 1 + (items.map fun item => item.write.length + 1).sum := by
  have hjoined : _ = ((items.map Json.write).map fun text => text.length + 1).sum :=
    length_joined (by simpa using hne)
  rw [List.map_map] at hjoined
  rw [Json.write, writeItems_eq_map, List.length_cons, List.length_append, List.length_singleton]
  show _ = 1 + (items.map ((fun text : Text => text.length + 1) ∘ Json.write)).sum
  omega

section Array

variable {α : Type} {items : List α} {write : α → Json}

theorem length_array (hne : items ≠ []) : (Json.array (items.map write)).write.length =
    1 + (items.map fun item => (write item).write.length + 1).sum := by
  rw [length_write_array (by simpa using hne), List.map_map]
  rfl

theorem length_array_le {most : ℕ} (hne : items ≠ [])
    (h : ∀ item ∈ items, (write item).write.length ≤ most) :
    (Json.array (items.map write)).write.length ≤ 1 + items.length * (most + 1) := by
  rw [length_array hne]
  clear hne
  induction items with
  | nil => simp
  | cons item rest ih =>
      rw [List.forall_mem_cons] at h
      have hrest := ih h.2
      simp only [List.map_cons, List.sum_cons, List.length_cons, Nat.add_mul,
        Nat.one_mul] at hrest ⊢
      omega

theorem le_length_array {least : ℕ} (hne : items ≠ [])
    (h : ∀ item ∈ items, least ≤ (write item).write.length) :
    1 + items.length * (least + 1) ≤ (Json.array (items.map write)).write.length := by
  rw [length_array hne]
  clear hne
  induction items with
  | nil => simp
  | cons item rest ih =>
      rw [List.forall_mem_cons] at h
      have hrest := ih h.2
      simp only [List.map_cons, List.sum_cons, List.length_cons, Nat.add_mul,
        Nat.one_mul] at hrest ⊢
      omega

end Array

theorem length_write_object {fields : List (Text × Json)} (hne : fields ≠ []) :
    (Json.object fields).write.length =
      1 + (fields.map fun field => (writeField field).length + 1).sum := by
  have hjoined : _ = ((fields.map writeField).map fun text => text.length + 1).sum :=
    length_joined (by simpa using hne)
  rw [List.map_map] at hjoined
  rw [Json.write, writeFields_eq_map, List.length_cons, List.length_append, List.length_singleton]
  show _ = 1 + (fields.map ((fun text : Text => text.length + 1) ∘ writeField)).sum
  omega

theorem length_writeField (key : Text) (value : Json) :
    (writeField (key, value)).length = (dumpString key).length + 1 + value.write.length := by
  rw [writeField, List.length_append, List.length_cons]
  dsimp only
  omega

theorem loads_dumps {depth : ℕ} (hdepth : 1 ≤ depth) {items : List Text}
    (h : ∀ item ∈ items, ∀ c ∈ item, IsScalar c) :
    loads depth (dumps items) = .ok (.array (items.map .string)) := by
  obtain ⟨depth, rfl⟩ : ∃ less, depth = less + 1 := ⟨depth - 1, by omega⟩
  have hwrite : dumps items = (Json.array (items.map .string)).write := by
    rw [Json.write, writeItems_eq_map, List.map_map, dumps]
    rfl
  rw [hwrite]
  refine loads_write (.array fun item hitem => ?_)
  obtain ⟨text, htext, rfl⟩ := List.mem_map.mp hitem
  exact .string (h text htext)

end Library
