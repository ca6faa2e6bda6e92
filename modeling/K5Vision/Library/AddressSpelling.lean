import K5Vision.Library.IpAddress

/-!
# Spellings of addresses

The letter case of a text does not count for the address it is read as, unless it names a scope
(`readAddress_lower`).  An address of version 4 has one text only (`writeV4_of_readV4`).
-/

namespace Library

/-! ## Letter case -/

def lowerCode (c : ℕ) : ℕ := if 65 ≤ c ∧ c ≤ 90 then c + 32 else c

def lower (text : Text) : Text := text.map lowerCode

variable {text : Text} {c : ℕ}

@[simp] theorem length_lower (text : Text) : (lower text).length = text.length := List.length_map _

@[simp] theorem lower_eq_nil_iff : lower text = [] ↔ text = [] := List.map_eq_nil_iff

theorem lower_cons (c : ℕ) (text : Text) : lower (c :: text) = lowerCode c :: lower text := rfl

theorem lower_eq_self (h : ∀ c ∈ text, ¬ (65 ≤ c ∧ c ≤ 90)) : lower text = text := by
  refine (List.map_congr_left ?_).trans (List.map_id _)
  intro c hc
  exact if_neg (h c hc)

theorem lowerCode_eq_iff {sep : ℕ} (hsep : sep < 65) : lowerCode c = sep ↔ c = sep := by
  unfold lowerCode
  split <;> omega

theorem mem_lower_iff {sep : ℕ} (hsep : sep < 65) : sep ∈ lower text ↔ sep ∈ text := by
  simp only [lower, List.mem_map, lowerCode_eq_iff hsep, exists_eq_right]

theorem splitOn_lower {sep : ℕ} (hsep : sep < 65) (text : Text) :
    (lower text).splitOn sep = (text.splitOn sep).map lower := by
  induction text with
  | nil => rfl
  | cons c text ih =>
      have hhead : (lowerCode c == sep) = (c == sep) := by
        rw [Bool.eq_iff_iff, beq_iff_eq, beq_iff_eq, lowerCode_eq_iff hsep]
      rw [lower_cons, List.splitOn_cons_eq_if_modifyHead, hhead, ih,
        List.splitOn_cons_eq_if_modifyHead]
      split
      · rfl
      · cases hparts : text.splitOn sep with
        | nil => exact absurd hparts (List.splitOn_ne_nil _ _)
        | cons first rest => rfl

theorem hexDigitValue_lowerCode (c : ℕ) : hexDigitValue (lowerCode c) = hexDigitValue c := by
  unfold hexDigitValue lowerCode
  grind

theorem readHextet_lower (text : Text) : readHextet (lower text) = readHextet text := by
  have hany : (lower text).any (fun c => (hexDigitValue c).isNone) =
      text.any (fun c => (hexDigitValue c).isNone) := by
    simp only [lower, List.any_map, Function.comp_def, hexDigitValue_lowerCode]
  have hvalues : (lower text).filterMap hexDigitValue = text.filterMap hexDigitValue := by
    simp only [lower, List.filterMap_map, Function.comp_def, hexDigitValue_lowerCode]
  simp only [readHextet, hany, hvalues, lower_eq_nil_iff, length_lower]

theorem readOctet_lower (text : Text) : readOctet (lower text) = readOctet text := by
  have hany : (lower text).any (fun c => c < 48 || 57 < c) =
      text.any (fun c => c < 48 || 57 < c) := by
    have hcode : ∀ c, (decide (lowerCode c < 48) || decide (57 < lowerCode c)) =
        (decide (c < 48) || decide (57 < c)) := by
      intro c
      unfold lowerCode
      grind
    simp only [lower, List.any_map, Function.comp_def, hcode]
  by_cases hbad : text.any (fun c => c < 48 || 57 < c) = true
  · rw [readOctet, if_pos (.inr (.inl (hany.trans hbad))), readOctet, if_pos (.inr (.inl hbad))]
  -- digits have no case
  rw [lower_eq_self]
  intro c hc
  rw [Bool.not_eq_true, List.any_eq_false] at hbad
  have hdigit := hbad c hc
  simp only [Bool.or_eq_true, decide_eq_true_eq, not_or, Nat.not_lt] at hdigit
  omega

theorem mapM_lower {α : Type*} {read : Text → Option α} (h : ∀ part, read (lower part) = read part)
    (parts : List Text) : (parts.map lower).mapM read = parts.mapM read := by
  induction parts with
  | nil => rfl
  | cons part parts ih => rw [List.map_cons, List.mapM_cons, List.mapM_cons, h, ih]

theorem readV4_lower (text : Text) : readV4 (lower text) = readV4 text := by
  simp only [readV4, mem_lower_iff (show 47 < 65 by decide),
    splitOn_lower (show 46 < 65 by decide), mapM_lower readOctet_lower]

theorem readSkipped_lower (high low : List Text) :
    readSkipped (high.map lower) (low.map lower) = readSkipped high low := by
  simp only [readSkipped, List.length_map, mapM_lower readHextet_lower]

theorem lower_writeHextet (hextet : ℕ) : lower (writeHextet hextet) = writeHextet hextet := by
  refine lower_eq_self ?_
  intro c hc
  obtain ⟨digit, hdigit, rfl⟩ := mem_writeHextet hc
  have hrange := hexCode_range digit hdigit
  omega

theorem convertSuffix_lower (parts : List Text) :
    convertSuffix (parts.map lower) = (convertSuffix parts).map (List.map lower) := by
  unfold convertSuffix
  rw [List.getLast?_map]
  cases parts.getLast? with
  | none => rfl
  | some last =>
      simp only [Option.map_some, mem_lower_iff (show 46 < 65 by decide), readV4_lower]
      split
      · cases readV4 last with
        | none => rfl
        | some value =>
            simp only [Option.map_some, List.map_dropLast, List.map_append, List.map_cons,
              List.map_nil, lower_writeHextet]
      · rfl

theorem readParts_lower (first : Text) (interior : List Text) (last : Text) :
    readParts (lower first) (interior.map lower) (lower last) = readParts first interior last := by
  have hempty : ((fun part : Text => decide (part ≠ [])) ∘ lower) =
      fun part => decide (part ≠ []) := by
    funext part
    simp only [Function.comp, ne_eq, lower_eq_nil_iff]
  have hparts : lower first :: interior.map lower ++ [lower last] =
      (first :: interior ++ [last]).map lower := by
    simp
  unfold readParts
  simp only [List.dropWhile_map, List.takeWhile_map, hempty, hparts, List.length_map,
    lower_eq_nil_iff, mapM_lower readHextet_lower]
  cases interior.dropWhile fun part => decide (part ≠ []) with
  | nil => rfl
  | cons skipped after =>
      -- both sides read the same groups
      have hnil : [] ∈ after.map lower ↔ [] ∈ after := by
        simp only [List.mem_map, lower_eq_nil_iff, exists_eq_right]
      have hhigh : (if first = [] then [] else
          lower first :: (interior.takeWhile fun part => decide (part ≠ [])).map lower) =
            (if first = [] then [] else
              first :: interior.takeWhile fun part => decide (part ≠ [])).map lower := by
        split <;> rfl
      have hlow : (if last = [] then [] else after.map lower ++ [lower last]) =
          (if last = [] then [] else after ++ [last]).map lower := by
        split <;> simp
      simp only [List.map_cons, hnil, ne_eq, List.map_eq_nil_iff, hhigh, hlow, readSkipped_lower]

theorem readGroups_lower (text : Text) : readGroups (lower text) = readGroups text := by
  unfold readGroups
  simp only [splitOn_lower (show 58 < 65 by decide), List.length_map, convertSuffix_lower]
  split
  · rfl
  cases convertSuffix (text.splitOn 58) with
  | none => rfl
  | some parts =>
      simp only [Option.map_some, List.length_map]
      split
      · rfl
      cases parts with
      | nil => rfl
      | cons first rest =>
          simp only [List.map_cons, List.getLast?_map]
          cases rest.getLast? with
          | none => rfl
          | some last =>
              simp only [Option.map_some, ← List.map_dropLast]
              exact readParts_lower first rest.dropLast last

theorem dropWhile_noScope (h : 37 ∉ text) : text.dropWhile (fun c => c ≠ 37) = [] := by
  refine List.dropWhile_eq_nil_iff.mpr ?_
  intro c hc
  exact decide_eq_true fun heq => h (heq ▸ hc)

theorem readAddress_lower (h : 37 ∉ text) : readAddress (lower text) = readAddress text := by
  have hlower : 37 ∉ lower text := fun hmem => h ((mem_lower_iff (by decide)).mp hmem)
  simp only [readAddress, readV4_lower, readV6, mem_lower_iff (show 47 < 65 by decide),
    dropWhile_noScope h, dropWhile_noScope hlower, readGroups_lower]

theorem readAddress_cases {address : IpAddress} (hscope : 37 ∉ text)
    (h : readAddress text = some address) :
    (∃ value, readV4 text = some value ∧ address = .v4 value) ∨
      58 ∈ text ∧ ∃ value, address = .v6 value none := by
  unfold readAddress at h
  cases hread : readV4 text with
  | some value =>
      rw [hread] at h
      exact .inl ⟨value, rfl, (Option.some.inj h).symm⟩
  | none =>
      rw [hread] at h
      simp only [readV6, dropWhile_noScope hscope] at h
      split at h
      · cases h
      obtain ⟨value, hgroups, rfl⟩ := Option.map_eq_some_iff.mp h
      refine .inr ⟨?_, _, rfl⟩
      by_contra hcolon
      -- a single part is too few
      simp [readGroups, List.splitOn_eq_singleton hcolon] at hgroups

/-! ## A point at the end -/

theorem splitOn_concat {sep : ℕ} (h : c ≠ sep) (text : Text) : ∃ parts last,
    text.splitOn sep = parts ++ [last] ∧ (text ++ [c]).splitOn sep = parts ++ [last ++ [c]] := by
  induction text with
  | nil => exact ⟨[], [], rfl, List.splitOn_eq_singleton (by simpa using h.symm)⟩
  | cons first text ih =>
      obtain ⟨parts, last, htext, hconcat⟩ := ih
      by_cases hsep : (first == sep) = true
      · refine ⟨[] :: parts, last, ?_, ?_⟩
        · rw [List.splitOn_cons_eq_if_modifyHead, if_pos hsep, htext, List.cons_append]
        · rw [List.cons_append, List.splitOn_cons_eq_if_modifyHead, if_pos hsep, hconcat,
            List.cons_append]
      · rw [List.splitOn_cons_eq_if_modifyHead, if_neg hsep, htext, List.cons_append,
          List.splitOn_cons_eq_if_modifyHead, if_neg hsep, hconcat]
        cases parts with
        | nil => exact ⟨[], first :: last, rfl, rfl⟩
        | cons head parts => exact ⟨(first :: head) :: parts, last, rfl, rfl⟩

theorem octets_of_readV4 {value : BitVec 32} (h : readV4 text = some value) :
    ∃ octets, (text.splitOn 46).mapM readOctet = some octets ∧ octets.length = 4 ∧
      value = BitVec.ofNat 32 (numberOf 256 octets) := by
  unfold readV4 at h
  split_ifs at h
  cases hoctets : (text.splitOn 46).mapM readOctet with
  | none =>
      rw [hoctets] at h
      cases h
  | some octets =>
      rw [hoctets] at h
      dsimp only at h
      split_ifs at h with hlength
      exact ⟨octets, rfl, not_not.mp hlength, (Option.some.inj h).symm⟩

theorem readV4_concat_point (text : Text) : readV4 (text ++ [46]) = none := by
  cases hread : readV4 (text ++ [46]) with
  | none => rfl
  | some value =>
      obtain ⟨octets, hoctets, -⟩ := octets_of_readV4 hread
      rw [List.splitOn_append_cons_self] at hoctets
      obtain ⟨octet, hempty⟩ := exists_of_mapM_eq_some hoctets []
        (List.mem_append_right _ (List.mem_singleton_self _))
      cases hempty

theorem readAddress_concat_point (h : 37 ∉ text) : readAddress (text ++ [46]) = none := by
  have hscope : 37 ∉ text ++ [46] := by simp [h]
  have hgroups : readGroups (text ++ [46]) = none := by
    obtain ⟨parts, last, -, hparts⟩ := splitOn_concat (show 46 ≠ 58 by decide) text
    have hsuffix : convertSuffix ((text ++ [46]).splitOn 58) = none := by
      simp only [convertSuffix, hparts, List.getLast?_concat, List.mem_append,
        List.mem_singleton, or_true, if_true, readV4_concat_point, Option.map_none]
    simp only [readGroups, hsuffix, ite_self]
  simp only [readAddress, readV4_concat_point, readV6, dropWhile_noScope hscope, hgroups,
    Option.map_none, ite_self]

/-! ## The texts of version 4 -/

theorem digitsOf_numberOf {base : ℕ} {digits : List ℕ} (h : ∀ digit ∈ digits, digit < base) :
    digitsOf base digits.length (numberOf base digits) = digits := by
  induction digits using List.reverseRecOn with
  | nil => rfl
  | append_singleton digits digit ih =>
      have hdigit : digit < base := h digit (List.mem_append_right _ (List.mem_singleton_self _))
      have hbase : 0 < base := by omega
      rw [List.length_append, List.length_singleton, digitsOf_succ, numberOf_append,
        Nat.mul_add_div hbase, Nat.div_eq_of_lt hdigit, Nat.add_zero,
        ih fun other hother => h other (List.mem_append_left _ hother), Nat.mul_add_mod,
        Nat.mod_eq_of_lt hdigit]

theorem writeOctet_of_readOctet {octet : ℕ} (h : readOctet text = some octet) :
    octet < 256 ∧ writeOctet octet = text := by
  have hcases : text ≠ [] ∧ (∀ c ∈ text, 48 ≤ c ∧ c ≤ 57) ∧ text.length ≤ 3 := by
    unfold readOctet at h
    split_ifs at h with hbad
    rw [not_or, not_or, not_or] at hbad
    refine ⟨hbad.1, ?_, by omega⟩
    intro c hc
    have hdigits := hbad.2.1
    rw [Bool.not_eq_true, List.any_eq_false] at hdigits
    simpa using hdigits c hc
  obtain ⟨hne, hdigits, hlength⟩ := hcases
  -- there are at most three digits
  have hone : ∀ a < 10, (readOctet [48 + a]).all fun octet =>
      decide (octet < 256 ∧ writeOctet octet = [48 + a]) := by
    decide +kernel
  have htwo : ∀ a < 10, ∀ b < 10, (readOctet [48 + a, 48 + b]).all fun octet =>
      decide (octet < 256 ∧ writeOctet octet = [48 + a, 48 + b]) := by
    decide +kernel
  have hthree : ∀ a < 10, ∀ b < 10, ∀ c < 10,
      (readOctet [48 + a, 48 + b, 48 + c]).all fun octet =>
        decide (octet < 256 ∧ writeOctet octet = [48 + a, 48 + b, 48 + c]) := by
    decide +kernel
  have hdigit : ∀ c ∈ text, ∃ digit < 10, c = 48 + digit := by
    intro c hc
    have := hdigits c hc
    exact ⟨c - 48, by omega, by omega⟩
  have hfound : (readOctet text).all fun octet =>
      decide (octet < 256 ∧ writeOctet octet = text) := by
    match text, hne, hdigit, hlength with
    | [first], _, hdigit, _ =>
        obtain ⟨a, ha, hfirst⟩ := hdigit first (by simp)
        rw [hfirst]
        exact hone a ha
    | [first, second], _, hdigit, _ =>
        obtain ⟨a, ha, hfirst⟩ := hdigit first (by simp)
        obtain ⟨b, hb, hsecond⟩ := hdigit second (by simp)
        rw [hfirst, hsecond]
        exact htwo a ha b hb
    | [first, second, third], _, hdigit, _ =>
        obtain ⟨a, ha, hfirst⟩ := hdigit first (by simp)
        obtain ⟨b, hb, hsecond⟩ := hdigit second (by simp)
        obtain ⟨c, hc, hthird⟩ := hdigit third (by simp)
        rw [hfirst, hsecond, hthird]
        exact hthree a ha b hb c hc
  rw [h] at hfound
  exact of_decide_eq_true hfound

theorem octets_of_mapM {parts : List Text} {octets : List ℕ}
    (h : parts.mapM readOctet = some octets) :
    octets.map writeOctet = parts ∧ ∀ octet ∈ octets, octet < 256 := by
  induction parts generalizing octets with
  | nil =>
      cases h
      exact ⟨rfl, fun _ hoctet => absurd hoctet List.not_mem_nil⟩
  | cons part parts ih =>
      rw [List.mapM_cons] at h
      obtain ⟨octet, hpart, h⟩ := Option.bind_eq_some_iff.mp h
      obtain ⟨rest, hrest, h⟩ := Option.bind_eq_some_iff.mp h
      cases h
      obtain ⟨hlt, hwrite⟩ := writeOctet_of_readOctet hpart
      obtain ⟨hwrites, hlts⟩ := ih hrest
      exact ⟨by rw [List.map_cons, hwrite, hwrites], List.forall_mem_cons.mpr ⟨hlt, hlts⟩⟩

theorem writeV4_of_readV4 {value : BitVec 32} (h : readV4 text = some value) :
    writeV4 value = text := by
  obtain ⟨octets, hoctets, hlength, rfl⟩ := octets_of_readV4 h
  obtain ⟨hwrite, hlt⟩ := octets_of_mapM hoctets
  have hnumber : numberOf 256 octets < 2 ^ 32 := by
    rw [← digitsOf_numberOf hlt, numberOf_digitsOf, hlength]
    exact Nat.mod_lt _ (by decide)
  rw [writeV4, BitVec.toNat_ofNat, Nat.mod_eq_of_lt hnumber, ← hlength, digitsOf_numberOf hlt,
    hwrite]
  exact List.intercalate_splitOn 46

/-! ## How long the texts are -/

theorem length_intercalate_le {sep most : ℕ} {parts : List Text}
    (h : ∀ part ∈ parts, part.length ≤ most) :
    ([sep].intercalate parts).length ≤ parts.length * (most + 1) := by
  induction parts with
  | nil => simp
  | cons first rest ih =>
      obtain ⟨hfirst, hrest⟩ := List.forall_mem_cons.mp h
      cases rest with
      | nil =>
          simp only [List.intercalate_singleton, List.length_singleton]
          omega
      | cons second rest =>
          have hlength := ih hrest
          rw [List.intercalate_cons_cons, List.length_append, List.length_append,
            List.length_singleton, List.length_cons, Nat.add_mul]
          omega

theorem length_writeHextet_le (hextet : ℕ) : (writeHextet hextet).length ≤ 4 := by
  have hne : digitsOf 16 4 hextet ≠ [] := List.length_pos_iff.mp (by simp)
  simpa [writeHextet] using length_shortest_le hne

theorem length_writeOctet_le (octet : ℕ) : (writeOctet octet).length ≤ 3 := by
  have hne : digitsOf 10 3 octet ≠ [] := List.length_pos_iff.mp (by simp)
  simpa [writeOctet] using length_shortest_le hne

theorem length_writeV4_le (value : BitVec 32) : (writeV4 value).length ≤ 16 := by
  have hoctets : ∀ part ∈ (digitsOf 256 4 value.toNat).map writeOctet, part.length ≤ 3 := by
    intro part hpart
    obtain ⟨octet, -, rfl⟩ := List.mem_map.mp hpart
    exact length_writeOctet_le octet
  have hlength : (writeV4 value).length ≤ _ := length_intercalate_le hoctets
  simpa using hlength

theorem length_compressHextets_le (hextets : List ℕ) :
    (compressHextets hextets).length ≤ 2 * hextets.length + 3 := by
  rw [compressHextets_eq]
  dsimp only
  split
  · have hhigh : ∀ texts : List ℕ, (if texts = [] then [[]] else ([] : List Text)).length ≤ 1 := by
      intro texts
      split <;> simp
    have hfirst := hhigh (hextets.take (longestRun hextets).bestStart)
    have hlast := hhigh
      (hextets.drop ((longestRun hextets).bestStart + (longestRun hextets).bestLength))
    simp only [List.length_append, List.length_cons, List.length_map, List.length_take,
      List.length_drop]
    omega
  · rw [List.length_map]
    omega

theorem length_writeGroups_le (value : BitVec 128) : (writeGroups value).length ≤ 95 := by
  have hparts : ∀ part ∈ compressHextets (digitsOf 65536 8 value.toNat), part.length ≤ 4 := by
    intro part hpart
    rcases mem_compressHextets hpart with rfl | ⟨hextet, rfl⟩
    · exact Nat.zero_le _
    · exact length_writeHextet_le hextet
  have hlength : (writeGroups value).length ≤ _ := length_intercalate_le hparts
  have hcount := length_compressHextets_le (digitsOf 65536 8 value.toNat)
  rw [length_digitsOf] at hcount
  omega

end Library
