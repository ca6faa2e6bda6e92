import K5Vision.Library.JsonText

/-!
# UTF-8

`str.encode("utf-8")` and `bytes.decode("utf-8")`, strictly.
-/

namespace Library

/-- `text.encode("utf-8")`; `none` is its `UnicodeEncodeError`. -/
def encodeUtf8 (text : Text) : Option (List UInt8) :=
  if ∀ c ∈ text, IsScalar c then some (String.ofList (text.map Char.ofNat)).toUTF8.data.toList
  else none

/-- `bytes.decode("utf-8")`; `none` is its `UnicodeDecodeError`. -/
def decodeUtf8 (bytes : List UInt8) : Option Text :=
  (ByteArray.utf8Decode? ⟨bytes.toArray⟩).map fun chars => chars.toList.map Char.toNat

theorem toNat_ofNat_of_isScalar {c : ℕ} (h : IsScalar c) : (Char.ofNat c).toNat = c := by
  have hvalid : c.isValidChar := h
  unfold Char.ofNat
  rw [dif_pos hvalid]
  rfl

theorem decodeUtf8_encodeUtf8 {text : Text} {bytes : List UInt8}
    (h : encodeUtf8 text = some bytes) : decodeUtf8 bytes = some text := by
  unfold encodeUtf8 at h
  split at h
  case isFalse => cases h
  case isTrue hscalar =>
    cases h
    have hback : (text.map Char.ofNat).map Char.toNat = text := by
      rw [List.map_map]
      conv_rhs => rw [← List.map_id text]
      exact List.map_congr_left fun c hc => toNat_ofNat_of_isScalar (hscalar c hc)
    have hdecode : ByteArray.utf8Decode? (String.ofList (text.map Char.ofNat)).toUTF8 =
        some (text.map Char.ofNat).toArray := List.utf8Decode?_utf8Encode
    rw [decodeUtf8, Array.toArray_toList, hdecode, Option.map_some, hback]

/-! ## ASCII -/

theorem isScalar_of_ascii {c : ℕ} (h : c < 128) : IsScalar c := .inl (by omega)

theorem encodeUtf8_ascii {text : Text} (h : ∀ c ∈ text, c < 128) :
    ∃ bytes, encodeUtf8 text = some bytes ∧ bytes.length = text.length := by
  refine ⟨_, if_pos fun c hc => isScalar_of_ascii (h c hc), ?_⟩
  have hsize : ∀ chars : List ℕ, (∀ c ∈ chars, c < 128) →
      (chars.map Char.ofNat).utf8Encode.size = chars.length := by
    intro chars
    induction chars with
    | nil => intro _; rfl
    | cons c chars ih =>
        intro hchars
        rw [List.forall_mem_cons] at hchars
        have hchar : (Char.ofNat c).utf8Size = 1 := by
          have hval := toNat_ofNat_of_isScalar (isScalar_of_ascii hchars.1)
          rw [Char.utf8Size_eq_one_iff, UInt32.le_iff_toNat_le]
          show (Char.ofNat c).toNat ≤ 127
          omega
        rw [List.map_cons, List.utf8Encode_cons, ByteArray.size_append, List.utf8Encode_singleton,
          ih hchars.2]
        simp [hchar]
        omega
  exact hsize text h

end Library
