import K5Vision.Media.RecordingCatalog

/-!
# The catalog and the loader

The catalog lists exactly the recordings that the loader opens, as far as the two read names alike.
`candidate_eq_ok_iff` and `loadRecordingPair_eq_ok_iff` say what each of them accepts, both by
`Pair`: the catalog takes a pair under any name whose stem reads as the id, the loader under one
name only.  So a descriptor under a second spelling of its id is listed although it cannot be
opened, or is listed twice; and a descriptor that is nested too deeply ends the scan with an
exception.  Without these the two agree (`catalog_agrees_iff`).
-/

namespace K5Vision.Media.Catalog

open Identity Library

variable {reader : DescriptorReader} {config : CatalogConfig} {root : RecordingRoot}

/-! ## Pairs -/

/-- The files under two names, the first a descriptor of a size that is read. -/
def Files (root : RecordingRoot) (name : Text) (id : Uuid) (bytes : ByteArray) (size : ℕ) : Prop :=
  ∃ stored recording, root.find? name = some (.file stored) ∧
    root.find? (recordingName id) = some (.file recording) ∧
      (1 ≤ stored.size ∧ stored.size ≤ maxDescriptorBytes) ∧ stored.bytes = some bytes ∧
        recording.size = size

/-- The file under a name describes the recording with an id, and that recording is there. -/
def Pair (reader : DescriptorReader) (root : RecordingRoot) (name : Text) (id : Uuid)
    (descriptor : StoredDescriptor) : Prop :=
  ∃ bytes, Files root name id bytes descriptor.fileBytes ∧
    parseRecordingDescriptor reader bytes = .ok descriptor ∧ descriptor.recordingId = id

/-- A descriptor file whose text `json.loads` gives up on, beside a recording. -/
def Bottomless (reader : DescriptorReader) (root : RecordingRoot) (name : Text) : Prop :=
  ∃ id bytes size, Uuid.ofText reader.unicode (stem name) = some id ∧
    Files root name id bytes size ∧ parseRecordingDescriptor reader bytes = .error .recursion

/-- A recording that playback, timeline and export open, and that has a packet. -/
def Openable (reader : DescriptorReader) (root : Option RecordingRoot) (id : Uuid) : Prop :=
  ∃ descriptor, loadRecordingPair reader root id = .ok descriptor ∧ 1 ≤ descriptor.packetCount

variable {descriptor : StoredDescriptor} {id : Uuid}

theorem loadRecordingPair_eq_ok_iff : loadRecordingPair reader (some root) id = .ok descriptor ↔
      Pair reader root (descriptorName id) id descriptor := by
  constructor
  · intro h
    unfold loadRecordingPair at h
    simp only [lstat, Option.bind_some] at h
    split at h
    · next recording stored hrecording hstored =>
        split_ifs at h with hsize
        split at h
        · cases h
        next bytes hbytes =>
          split at h
          · cases h
          · cases h
          next found hparse =>
            split_ifs at h with hdiffer
            cases h
            rw [not_or, not_not, not_not] at hdiffer
            exact ⟨bytes, ⟨stored, recording, hstored, hrecording, hsize, hbytes,
              hdiffer.2⟩, hparse, hdiffer.1⟩
    · cases h
    · cases h
  · intro h
    obtain ⟨bytes, ⟨stored, recording, hstored, hrecording, hsize, hbytes, hlength⟩, hparse, hid⟩ := h
    unfold loadRecordingPair
    simp [lstat, hstored, hrecording, hsize, hbytes, hparse, hid, hlength]

/-! ## Accepted names -/

variable {bytes : ByteArray}

theorem modelValidate_of_parse (h : parseRecordingDescriptor reader bytes = .ok descriptor) :
    ∃ fields, modelValidate reader fields = some descriptor := by
  unfold parseRecordingDescriptor at h
  split_ifs at h
  split at h
  · cases h
  split at h
  · cases h
  · cases h
  · next fields _ =>
      split_ifs at h
      split at h
      · cases h
      · next found hfound =>
          cases h
          exact ⟨fields, hfound⟩
  · cases h

theorem payload_of_validateContract {descriptor : RecordingStreamDescriptor}
    (h : descriptor.validateContract = .ok ()) (hpackets : 1 ≤ descriptor.packetCount) :
    descriptor.packetCount * 12 ≤ descriptor.payloadBytes := by
  by_contra hbelow
  have hne : descriptor.packetCount ≠ 0 := by omega
  have hlt : descriptor.payloadBytes < descriptor.packetCount * 12 := by omega
  unfold RecordingStreamDescriptor.validateContract at h
  simp only [bind, Except.bind, pure, Except.pure, throw, throwThe, MonadExceptOf.throw, hne, hlt,
    if_true, if_false] at h
  -- the last check raises, so every way through the earlier ones ends with an error
  repeat' split at h
  all_goals cases h

/-- A descriptor that was parsed keeps its contract, so one with a packet makes an entry. -/
theorem entryOf_eq_some (hparse : parseRecordingDescriptor reader bytes = .ok descriptor)
    (hpackets : 1 ≤ descriptor.packetCount) :
    ∃ entry, entryOf descriptor = some entry ∧ entry.recordingId = descriptor.recordingId := by
  obtain ⟨fields, hfields⟩ := modelValidate_of_parse hparse
  rw [modelValidate, Option.filter_eq_some_iff] at hfields
  have hvalid := hfields.2
  unfold RecordingStreamDescriptor.validate at hvalid
  split_ifs at hvalid with hrange
  · cases hvalid
  have hcontract : descriptor.validateContract = .ok () := by
    cases hresult : descriptor.validateContract with
    | error message =>
        rw [hresult] at hvalid
        cases hvalid
    | ok _ => rfl
  have hpayload := payload_of_validateContract hcontract hpackets
  simp only [RecordingStreamDescriptor.fieldsInRange, Bool.not_eq_true', Bool.not_eq_false,
    Bool.and_eq_true, decide_eq_true_eq] at hrange
  simp only [RecordingStreamDescriptor.maxDurationMs, RecordingStreamDescriptor.maxPackets,
    RecordingStreamDescriptor.maxPayloadBytes] at hrange
  have hfits : descriptor.durationMs ≤ 7 * 24 * 60 * 60 * 1000 ∧
      (1 ≤ descriptor.packetCount ∧ descriptor.packetCount ≤ 1000000) ∧
        12 ≤ descriptor.payloadBytes ∧
          descriptor.payloadBytes ≤ 8 * 1024 * 1024 * 1024 := by
    omega
  rw [entryOf, dif_pos hfits]
  exact ⟨_, rfl, rfl⟩

variable {name : Text}

theorem candidate_of_files {size : ℕ} (hid : Uuid.ofText reader.unicode (stem name) = some id)
    (hfiles : Files root name id bytes size) :
    candidate reader root name =
      match parseRecordingDescriptor reader bytes with
      | .error .recursion => .error .recursion
      | .error (.error _) => .error .rejected
      | .ok descriptor =>
          if descriptor.recordingId ≠ id ∨ descriptor.packetCount < 1 ∨
              size ≠ descriptor.fileBytes then .error .rejected
          else
            match entryOf descriptor with
            | none => .error .rejected
            | some entry => .ok entry := by
  obtain ⟨stored, recording, hstored, hrecording, hsize, hbytes, rfl⟩ := hfiles
  unfold candidate
  rw [hid]
  simp only [hstored, hrecording, hbytes]
  exact if_neg (not_not_intro hsize)

theorem candidate_cases (reader : DescriptorReader) (root : RecordingRoot) (name : Text) :
    candidate reader root name = .error .rejected ∨ ∃ id bytes size,
      Uuid.ofText reader.unicode (stem name) = some id ∧ Files root name id bytes size := by
  unfold candidate
  cases hid : Uuid.ofText reader.unicode (stem name) with
  | none => exact .inl rfl
  | some id =>
      simp only
      split
      · next stored recording hstored hrecording =>
          by_cases hsize : 1 ≤ stored.size ∧ stored.size ≤ maxDescriptorBytes
          · rw [if_neg (not_not_intro hsize)]
            cases hbytes : stored.bytes with
            | none => exact .inl rfl
            | some bytes =>
                exact .inr ⟨id, bytes, recording.size, rfl, stored, recording, hstored, hrecording,
                  hsize, hbytes, rfl⟩
          · exact .inl (if_pos hsize)
      · exact .inl rfl

theorem candidate_eq_recursion_iff :
    candidate reader root name = .error .recursion ↔ Bottomless reader root name := by
  constructor
  · intro h
    rcases candidate_cases reader root name with hrejected | ⟨id, bytes, size, hid, hfiles⟩
    · rw [hrejected] at h
      cases h
    refine ⟨id, bytes, size, hid, hfiles, ?_⟩
    rw [candidate_of_files hid hfiles] at h
    split at h
    · next hparse => exact hparse
    · cases h
    · split_ifs at h
      · cases h
      · split at h <;> cases h
  · intro h
    obtain ⟨id, bytes, size, hid, hfiles, hparse⟩ := h
    rw [candidate_of_files hid hfiles, hparse]

theorem candidate_eq_ok_iff :
    (∃ entry, candidate reader root name = .ok entry ∧ entry.recordingId = id) ↔
      Uuid.ofText reader.unicode (stem name) = some id ∧
        ∃ descriptor, Pair reader root name id descriptor ∧ 1 ≤ descriptor.packetCount := by
  constructor
  · intro h
    obtain ⟨entry, hentry, rfl⟩ := h
    rcases candidate_cases reader root name with hrejected | ⟨id, bytes, size, hid, hfiles⟩
    · rw [hrejected] at hentry
      cases hentry
    rw [candidate_of_files hid hfiles] at hentry
    split at hentry
    · cases hentry
    · cases hentry
    next descriptor hparse =>
      split_ifs at hentry with hdiffer
      rw [not_or, not_or, not_not, not_not, Nat.not_lt] at hdiffer
      obtain ⟨hsame, hpackets, rfl⟩ := hdiffer
      obtain ⟨made, hmade, hmadeId⟩ := entryOf_eq_some hparse hpackets
      rw [hmade] at hentry
      cases hentry
      rw [hmadeId, hsame]
      exact ⟨hid, descriptor, ⟨bytes, hfiles, hparse, hsame⟩, hpackets⟩
  · intro h
    obtain ⟨hid, descriptor, ⟨bytes, hfiles, hparse, hsame⟩, hpackets⟩ := h
    obtain ⟨entry, hentry, hentryId⟩ := entryOf_eq_some hparse hpackets
    refine ⟨entry, ?_, hentryId.trans hsame⟩
    rw [candidate_of_files hid hfiles, hparse]
    have hnot : ¬ (descriptor.recordingId ≠ id ∨ descriptor.packetCount < 1 ∨
        descriptor.fileBytes ≠ descriptor.fileBytes) := by
      simp [hsame]
      omega
    simp only [if_neg hnot, hentry]

/-! ## The name of a descriptor -/

theorem isDescriptorName_descriptorName (id : Uuid) : isDescriptorName (descriptorName id) := by
  simp [isDescriptorName, descriptorName]

theorem stem_descriptorName (id : Uuid) : stem (descriptorName id) = id.text := by
  have hlength : (codePoints ".k5d").length = 4 := by decide
  have hpos : 0 < id.text.length := List.length_pos_iff.mpr id.text_ne_nil
  unfold stem descriptorName
  rw [if_neg (by rw [List.length_append]; omega), List.length_append, hlength,
    Nat.add_sub_cancel, List.take_left' rfl]

/-! ## The scan -/

def accepted (reader : DescriptorReader) (root : RecordingRoot) (name : Text) :
    Option RecordingCatalogEntry :=
  (candidate reader root name).toOption

theorem accepted_eq_some_iff {entry : RecordingCatalogEntry} :
    accepted reader root name = some entry ↔ candidate reader root name = .ok entry := by
  unfold accepted
  cases candidate reader root name <;> simp [Except.toOption]

/-- The names that the scan looks at when it may take so many more entries. -/
def reached (reader : DescriptorReader) (root : RecordingRoot) : ℕ → List Text → List Text
  | _, [] => []
  | 0, _ :: _ => []
  | left + 1, name :: names =>
      name :: reached reader root
        (if (accepted reader root name).isSome then left else left + 1) names

/-- As long as no more is taken than may be, every name that is taken is looked at. -/
theorem filterMap_reached {left : ℕ} {names : List Text}
    (h : (names.filterMap (accepted reader root)).length ≤ left) :
    (reached reader root left names).filterMap (accepted reader root) =
      names.filterMap (accepted reader root) := by
  induction names generalizing left with
  | nil => simp [reached]
  | cons name names ih =>
      cases left with
      | zero =>
          have hnil : (name :: names).filterMap (accepted reader root) = [] :=
            List.length_eq_zero_iff.mp (by omega)
          rw [hnil]
          rfl
      | succ left =>
          rw [reached]
          cases haccepted : accepted reader root name with
          | none =>
              rw [List.filterMap_cons_none haccepted] at h ⊢
              rw [List.filterMap_cons_none haccepted]
              exact ih h
          | some entry =>
              rw [List.filterMap_cons_some haccepted] at h ⊢
              rw [List.filterMap_cons_some haccepted]
              rw [List.length_cons] at h
              rw [Option.isSome_some, if_pos rfl, ih (by omega)]

/-- The loop of `recover`: it raises at a descriptor without a bottom, and else it takes what may
be taken of the names that it looks at. -/
theorem scanCandidates_cases (reader : DescriptorReader) (root : RecordingRoot)
    (config : CatalogConfig) (scan : CatalogScan) (names : List Text) (hroom : scan.recovered.length ≤ config.maxEntries) :
    let looked := reached reader root (config.maxEntries - scan.recovered.length) names
    (scanCandidates reader config root scan names = none ∧
        ∃ name ∈ looked, Bottomless reader root name) ∨
      ∃ final, scanCandidates reader config root scan names = some final ∧
        (∀ name ∈ looked, ¬ Bottomless reader root name) ∧
          final.recovered = scan.recovered ++ looked.filterMap (accepted reader root) ∧
            final.rejected ≤ scan.rejected + names.length ∧
              final.recovered.length ≤ config.maxEntries := by
  induction names generalizing scan with
  | nil =>
      refine .inr ⟨scan, rfl, ?_⟩
      simpa [reached] using hroom
  | cons name names ih =>
      intro looked
      by_cases hfull : config.maxEntries ≤ scan.recovered.length
      · have hlooked : looked = [] := by
          have hzero : config.maxEntries - scan.recovered.length = 0 := by omega
          simp only [looked, hzero, reached]
        refine .inr ⟨{ scan with truncated := true }, ?_, ?_⟩
        · rw [scanCandidates, if_pos hfull]
        · simp [hlooked, hroom]
      obtain ⟨left, hleft⟩ : ∃ left, config.maxEntries - scan.recovered.length = left + 1 :=
        ⟨config.maxEntries - scan.recovered.length - 1, by omega⟩
      have hlooked : looked = name :: reached reader root
          (if (accepted reader root name).isSome then left else left + 1) names := by
        simp only [looked, hleft, reached]
      rw [hlooked, scanCandidates, if_neg hfull]
      cases hcandidate : candidate reader root name with
      | ok entry =>
          have haccepted := accepted_eq_some_iff.mpr hcandidate
          have hnot : ¬ Bottomless reader root name := by
            rw [← candidate_eq_recursion_iff, hcandidate]
            simp
          have hleft' : config.maxEntries - (scan.recovered ++ [entry]).length = left := by
            rw [List.length_append, List.length_singleton]
            omega
          have hroom' : (scan.recovered ++ [entry]).length ≤ config.maxEntries := by
            rw [List.length_append, List.length_singleton]
            omega
          have hrest := ih { scan with recovered := scan.recovered ++ [entry] } hroom'
          simp only [haccepted, Option.isSome_some, if_true, hleft'] at hrest ⊢
          rcases hrest with ⟨hnone, bottom, hbottom, hmem⟩ | ⟨final, hfinal, hno, hentries, hrest⟩
          · exact .inl ⟨hnone, bottom, List.mem_cons_of_mem _ hbottom, hmem⟩
          refine .inr ⟨final, hfinal, List.forall_mem_cons.mpr ⟨hnot, hno⟩, ?_, ?_, hrest.2⟩
          · rw [List.filterMap_cons_some haccepted, hentries]
            simp
          · rw [List.length_cons]
            omega
      | error failure =>
          have haccepted : accepted reader root name = none := by
            rw [accepted, hcandidate]
            rfl
          cases failure with
          | rejected =>
              have hnot : ¬ Bottomless reader root name := by
                rw [← candidate_eq_recursion_iff, hcandidate]
                simp
              have hrest := ih { scan with rejected := scan.rejected + 1 } hroom
              simp only [haccepted, hleft, Option.isSome_none, Bool.false_eq_true, if_false]
                at hrest ⊢
              rcases hrest with
                ⟨hnone, bottom, hbottom, hmem⟩ | ⟨final, hfinal, hno, hentries, hrest⟩
              · exact .inl ⟨hnone, bottom, List.mem_cons_of_mem _ hbottom, hmem⟩
              refine .inr ⟨final, hfinal, List.forall_mem_cons.mpr ⟨hnot, hno⟩, ?_, ?_, hrest.2⟩
              · rw [List.filterMap_cons_none haccepted, hentries]
              · rw [List.length_cons]
                omega
          | recursion =>
              exact .inl ⟨rfl, name, List.mem_cons_self, candidate_eq_recursion_iff.mp hcandidate⟩

theorem perm_candidates (hscan : (root.keys.filter isDescriptorName).length ≤ config.maxScanFiles) :
    (candidates config root).Perm (root.keys.filter isDescriptorName) := by
  have hlimited : limited config root = root.keys.filter isDescriptorName :=
    List.take_of_length_le (by omega)
  unfold candidates
  rw [hlimited, List.take_of_length_le hscan]
  exact List.mergeSort_perm _ _

theorem notOlder_trans (first second third : RecordingCatalogEntry)
    (hfirst : notOlder first second) (hsecond : notOlder second third) : notOlder first third := by
  simp only [notOlder, Bool.or_eq_true, Bool.and_eq_true, decide_eq_true_eq] at *
  rcases hfirst with hlt | ⟨heq, hle⟩
  · rcases hsecond with hlt' | ⟨heq', -⟩
    · exact .inl (hlt'.trans hlt)
    · exact .inl (heq' ▸ hlt)
  · rcases hsecond with hlt' | ⟨heq', hle'⟩
    · exact .inl (heq ▸ hlt')
    · exact .inr ⟨heq'.trans heq, hle'.trans hle⟩

theorem notOlder_total (first second : RecordingCatalogEntry) :
    notOlder first second || notOlder second first := by
  simp only [notOlder, Bool.or_eq_true, Bool.and_eq_true, decide_eq_true_eq]
  rcases lt_trichotomy first.startedAtUtc.micros second.startedAtUtc.micros with hlt | heq | hlt
  · exact .inr (.inl hlt)
  · rcases le_total first.recordingId.str second.recordingId.str with hle | hle
    · exact .inr (.inr ⟨heq, hle⟩)
    · exact .inl (.inr ⟨heq.symm, hle⟩)
  · exact .inl (.inl hlt)

/-! ## Agreement -/

/-- What the catalog lists is what the loader opens, each recording once, newest first. -/
structure Lists (reader : DescriptorReader) (root : Option RecordingRoot)
    (catalog : RecordingCatalog) : Prop where
  openable : ∀ id, id ∈ catalog.entries.map RecordingCatalogEntry.recordingId ↔
    Openable reader root id
  once : (catalog.entries.map RecordingCatalogEntry.recordingId).Nodup
  newest_first : catalog.entries.Pairwise fun first second =>
    second.startedAtUtc.micros ≤ first.startedAtUtc.micros

/-- `recover` does not fail, and the catalog agrees with the loader. -/
def Agrees (reader : DescriptorReader) (config : CatalogConfig) (root : Option RecordingRoot) :
    Prop :=
  ∃ catalog, recover reader config root = some catalog ∧ Lists reader root catalog

/-- No descriptor that the scan looks at is without a bottom, and no pair has its descriptor under
a second spelling of its id. -/
structure Canonical (reader : DescriptorReader) (config : CatalogConfig) (root : RecordingRoot) :
    Prop where
  bounded : ∀ name ∈ reached reader root config.maxEntries (candidates config root),
    ¬ Bottomless reader root name
  spelled : ∀ name, isDescriptorName name → ∀ id descriptor,
    Uuid.ofText reader.unicode (stem name) = some id → Pair reader root name id descriptor →
      1 ≤ descriptor.packetCount → name = descriptorName id

/-- The content of the directory is within the bounds of the scan and of the entries. -/
structure WithinBounds (reader : DescriptorReader) (config : CatalogConfig)
    (root : RecordingRoot) : Prop where
  scan : (root.keys.filter isDescriptorName).length ≤ config.maxScanFiles
  entries : ((candidates config root).filterMap (accepted reader root)).length ≤ config.maxEntries

theorem mem_candidates (hbounds : WithinBounds reader config root) :
    name ∈ candidates config root ↔ name ∈ root.keys ∧ isDescriptorName name := by
  rw [(perm_candidates hbounds.scan).mem_iff, List.mem_filter]

theorem nodup_candidates (hbounds : WithinBounds reader config root) :
    (candidates config root).Nodup :=
  (perm_candidates hbounds.scan).nodup_iff.mpr (root.nodup_keys.filter _)

theorem recover_cases (hbounds : WithinBounds reader config root) :
    (recover reader config (some root) = none ∧
        ∃ name ∈ reached reader root config.maxEntries (candidates config root),
          Bottomless reader root name) ∨
      ∃ catalog, recover reader config (some root) = some catalog ∧
        (∀ name ∈ reached reader root config.maxEntries (candidates config root),
          ¬ Bottomless reader root name) ∧
          catalog.entries.Perm ((candidates config root).filterMap (accepted reader root)) ∧
            catalog.entries.Pairwise fun first second => notOlder first second := by
  have hlength : (candidates config root).length ≤ config.maxScanFiles :=
    (perm_candidates hbounds.scan).length_eq ▸ hbounds.scan
  rcases scanCandidates_cases reader root config ⟨[], 0, config.maxScanFiles < (limited config root).length⟩ (candidates config root)
      (Nat.zero_le _) with ⟨hnone, hbottom⟩ | ⟨final, hfinal, hno, hentries, hrejected, hroom⟩
  · refine .inl ⟨?_, hbottom⟩
    simp only [recover, hnone]
  have hfits : (final.recovered.mergeSort notOlder).length ≤ 10000 ∧ final.rejected ≤ 20000 := by
    have hentriesFit := config.entries_fit.2
    have hscanFits := config.scan_fits.2
    rw [List.length_mergeSort]
    simp only at hrejected
    omega
  refine .inr ⟨⟨final.recovered.mergeSort notOlder, ⟨_, _, final.truncated, hfits⟩⟩, ?_, hno,
    ?_, ?_⟩
  · simp only [recover, hfinal, dif_pos hfits]
  · refine (List.mergeSort_perm _ _).trans ?_
    rw [hentries, List.nil_append]
    simp only [List.length_nil, Nat.sub_zero]
    rw [filterMap_reached hbounds.entries]
  · exact List.pairwise_mergeSort notOlder_trans notOlder_total _

theorem mem_candidates_of_ok (hbounds : WithinBounds reader config root)
    (hname : isDescriptorName name) {entry : RecordingCatalogEntry}
    (h : candidate reader root name = .ok entry) : name ∈ candidates config root := by
  obtain ⟨-, descriptor, ⟨bytes, ⟨stored, -, hstored, -⟩, -⟩, -⟩ :=
    candidate_eq_ok_iff.mp ⟨entry, h, rfl⟩
  exact (mem_candidates hbounds).mpr ⟨Table.mem_keys.mpr ⟨_, hstored⟩, hname⟩

theorem mem_taken (hbounds : WithinBounds reader config root) :
    id ∈ ((candidates config root).filterMap (accepted reader root)).map
        RecordingCatalogEntry.recordingId ↔
      ∃ name, isDescriptorName name ∧ Uuid.ofText reader.unicode (stem name) = some id ∧
        ∃ descriptor, Pair reader root name id descriptor ∧ 1 ≤ descriptor.packetCount := by
  rw [List.mem_map]
  constructor
  · intro h
    obtain ⟨entry, hentry, hid⟩ := h
    obtain ⟨name, hname, haccepted⟩ := List.mem_filterMap.mp hentry
    have hpair := candidate_eq_ok_iff.mp ⟨entry, accepted_eq_some_iff.mp haccepted, hid⟩
    exact ⟨name, ((mem_candidates hbounds).mp hname).2, hpair⟩
  · intro h
    obtain ⟨name, hname, hpair⟩ := h
    obtain ⟨entry, hentry, hid⟩ := candidate_eq_ok_iff.mpr hpair
    have hmem := mem_candidates_of_ok hbounds hname hentry
    exact ⟨entry, List.mem_filterMap.mpr ⟨name, hmem, accepted_eq_some_iff.mpr hentry⟩, hid⟩

theorem openable_iff : Openable reader (some root) id ↔ ∃ descriptor,
    Pair reader root (descriptorName id) id descriptor ∧ 1 ≤ descriptor.packetCount := by
  unfold Openable
  simp only [loadRecordingPair_eq_ok_iff]

theorem stem_reads : Uuid.ofText reader.unicode (stem (descriptorName id)) = some id := by
  rw [stem_descriptorName]
  exact id.ofText_text reader.unicode

theorem nodup_map_filterMap {α β γ : Type*} {l : List α} (hnodup : l.Nodup) (f : α → Option β)
    (g : β → γ) : ((l.filterMap f).map g).Nodup ↔ ∀ a ∈ l, ∀ b ∈ l, ∀ x y, f a = some x →
      f b = some y → g x = g y → a = b := by
  rw [List.Nodup, List.pairwise_map, List.pairwise_filterMap]
  constructor
  · intro h a ha b hb x y hx hy heq
    by_contra hne
    have hsymm : Std.Symm fun a b => ∀ x, f a = some x → ∀ y, f b = some y → g x ≠ g y :=
      ⟨fun a b hab y hy x hx heq => hab x hx y hy heq.symm⟩
    exact h.forall ha hb hne x hx y hy heq
  · intro h
    refine hnodup.imp_of_mem ?_
    intro a b ha hb hne x hx y hy heq
    exact hne (h a ha b hb x y hx hy heq)

/-- For every content of the recording directory within the bounds: the catalog agrees with
playback if and only if no descriptor that the scan looks at is nested beyond what `json.loads`
takes, and no descriptor that makes a pair stands under another spelling of its id than `str`. -/
theorem catalog_agrees_iff (reader : DescriptorReader) (config : CatalogConfig)
    (root : RecordingRoot) (hbounds : WithinBounds reader config root) :
    Agrees reader config (some root) ↔ Canonical reader config root := by
  constructor
  · intro h
    obtain ⟨catalog, hrecover, hlists⟩ := h
    rcases recover_cases hbounds with ⟨hnone, -⟩ | ⟨found, hfound, hno, hperm, -⟩
    · rw [hnone] at hrecover
      cases hrecover
    rw [hfound] at hrecover
    cases hrecover
    refine ⟨hno, ?_⟩
    intro name hname id descriptor hid hpair hpackets
    by_contra hne
    have hids := hperm.map RecordingCatalogEntry.recordingId
    have hlisted := (mem_taken hbounds).mpr ⟨name, hname, hid, descriptor, hpair, hpackets⟩
    -- it is listed, so it can be opened, so it is taken under its own name too
    have hopen := openable_iff.mp ((hlists.openable id).mp (hids.mem_iff.mpr hlisted))
    obtain ⟨first, hfirst, hfirstId⟩ := candidate_eq_ok_iff.mpr ⟨hid, descriptor, hpair, hpackets⟩
    obtain ⟨second, hsecond, hsecondId⟩ := candidate_eq_ok_iff.mpr ⟨stem_reads, hopen⟩
    have honce := (nodup_map_filterMap (nodup_candidates hbounds) _ _).mp
      (hids.nodup_iff.mp hlists.once)
    exact hne (honce name (mem_candidates_of_ok hbounds hname hfirst) (descriptorName id)
      (mem_candidates_of_ok hbounds (isDescriptorName_descriptorName id) hsecond) first second
      (accepted_eq_some_iff.mpr hfirst) (accepted_eq_some_iff.mpr hsecond)
      (hfirstId.trans hsecondId.symm))
  · intro h
    rcases recover_cases hbounds with ⟨-, bottom, hbottom, hmem⟩ | ⟨found, hfound, -, hperm, hsorted⟩
    · exact absurd hmem (h.bounded bottom hbottom)
    have hids := hperm.map RecordingCatalogEntry.recordingId
    refine ⟨found, hfound, ?_, ?_, ?_⟩
    · intro id
      rw [hids.mem_iff, mem_taken hbounds, openable_iff]
      constructor
      · intro htaken
        obtain ⟨name, hname, hid, descriptor, hpair, hpackets⟩ := htaken
        rw [← h.spelled name hname id descriptor hid hpair hpackets]
        exact ⟨descriptor, hpair, hpackets⟩
      · intro hopen
        exact ⟨descriptorName id, isDescriptorName_descriptorName id, stem_reads, hopen⟩
    · rw [hids.nodup_iff, nodup_map_filterMap (nodup_candidates hbounds)]
      intro first hfirst second hsecond entry other hentry hother heq
      have hspelled (name : Text) (hname : name ∈ candidates config root)
          (entry : RecordingCatalogEntry) (hentry : accepted reader root name = some entry) :
          name = descriptorName entry.recordingId := by
        obtain ⟨hid, descriptor, hpair, hpackets⟩ :=
          candidate_eq_ok_iff.mp ⟨entry, accepted_eq_some_iff.mp hentry, rfl⟩
        exact h.spelled name ((mem_candidates hbounds).mp hname).2 _ descriptor hid hpair hpackets
      rw [hspelled first hfirst entry hentry, hspelled second hsecond other hother, heq]
    · refine hsorted.imp ?_
      intro first second hnotOlder
      simp only [notOlder, Bool.or_eq_true, Bool.and_eq_true, decide_eq_true_eq] at hnotOlder
      rcases hnotOlder with hlt | ⟨heq, -⟩
      · exact hlt.le
      · exact heq.le

/-! ## A descriptor under another spelling -/

/-- One packet of twelve bytes, recorded at the first instant of 2026. -/
def sampleDescriptor : StoredDescriptor where
  codec := .h264
  payloadType := 96
  clockRateHz := 90000
  startedAtUtc := ⟨63902822400000000, some 0⟩
  endedAtUtc := ⟨63902822400000000, some 0⟩
  durationMs := 0
  rtpTimestampOrigin := 0
  packetCount := 1
  payloadBytes := 12
  fileBytes := 28
  recordingId := 0x0123456789abcdef0123456789abcdef
  sourceId := 0

/-- The fields of the descriptor, as `to_json_bytes` writes them. -/
def sampleFields : List (String × String) :=
  [("clock_rate_hz", "90000"), ("codec", "\"h264\""), ("duration_ms", "0"),
    ("ended_at_utc", "\"2026-01-01T00:00:00Z\""), ("file_bytes", "28"),
    ("integrity", "\"crc32-per-record\""), ("media_kind", "\"video\""), ("packet_count", "1"),
    ("payload_bytes", "12"), ("payload_type", "96"), ("recording_format_version", "\"1\""),
    ("recording_id", "\"01234567-89ab-cdef-0123-456789abcdef\""), ("rtp_timestamp_origin", "0"),
    ("schema_version", "\"1\""), ("source_id", "\"00000000-0000-0000-0000-000000000000\""),
    ("started_at_utc", "\"2026-01-01T00:00:00Z\"")]

def sampleChars : List Char :=
  '\x7b' :: ([','].intercalate (sampleFields.map fun field =>
    '"' :: field.1.toList ++ ['"', ':'] ++ field.2.toList) ++ ['\x7d'])

def sampleText : String := String.ofList sampleChars

/-- A reader with the usual recursion limit, for which every object has these fields. -/
def sampleReader : DescriptorReader where
  unicode := .ascii
  depth := 1000
  modelFields _ := some sampleDescriptor

theorem supported_sampleText : (match loads sampleReader.depth (sampleChars.map Char.toNat) with
      | .ok (.object fields) => hasSupportedVersion fields
      | _ => false) = true := by
  decide +kernel

theorem loads_sampleText : ∃ fields,
    loads sampleReader.depth (codePoints sampleText) = .ok (.object fields) ∧
      hasSupportedVersion fields = true := by
  have hloads := supported_sampleText
  rw [codePoints, sampleText, String.toList_ofList]
  split at hloads
  · next fields hfields => exact ⟨fields, hfields, hloads⟩
  · cases hloads

theorem size_utf8Encode_le (chars : List Char) : chars.utf8Encode.size ≤ 4 * chars.length := by
  induction chars with
  | nil => simp
  | cons c chars ih =>
      have hchar := c.utf8Size_le_four
      rw [List.utf8Encode_cons, ByteArray.size_append, List.utf8Encode_singleton]
      simp
      omega

theorem fromUTF8?_toUTF8 (text : String) : String.fromUTF8? text.toUTF8 = some text := by
  have hvalid : text.toUTF8.IsValidUTF8 := text.isValidUTF8
  rw [String.fromUTF8?, dif_pos hvalid]
  rfl

theorem toUTF8_ofList (chars : List Char) : (String.ofList chars).toUTF8 = chars.utf8Encode := rfl

theorem size_ofList {chars : List Char} (hne : chars ≠ []) (hlength : chars.length ≤ 1024) :
    1 ≤ (String.ofList chars).toUTF8.size ∧
      (String.ofList chars).toUTF8.size ≤ maxDescriptorBytes := by
  have hle := size_utf8Encode_le chars
  have hpos : chars.utf8Encode.size ≠ 0 := by
    rw [ne_eq, ByteArray.size_eq_zero_iff, List.utf8Encode_eq_empty]
    exact hne
  rw [toUTF8_ofList, maxDescriptorBytes]
  omega

theorem size_sampleText :
    1 ≤ sampleText.toUTF8.size ∧ sampleText.toUTF8.size ≤ maxDescriptorBytes :=
  size_ofList (List.cons_ne_nil _ _) (by decide +kernel)

theorem parse_text {text : String} {fields : List (Text × Json)}
    (hsize : text.toUTF8.size ≤ maxDescriptorBytes)
    (hloads : loads reader.depth (codePoints text) = .ok (.object fields))
    (hversion : hasSupportedVersion fields = true)
    (hmodel : modelValidate reader fields = some descriptor) :
    parseRecordingDescriptor reader text.toUTF8 = .ok descriptor := by
  rw [parseRecordingDescriptor, if_neg (Nat.not_lt.mpr hsize), fromUTF8?_toUTF8]
  simp only [hloads, hversion, hmodel]
  rfl

theorem parse_sampleText :
    parseRecordingDescriptor sampleReader sampleText.toUTF8 = .ok sampleDescriptor := by
  have hduration : expectedMilliseconds 0 = 0 := by
    simp [expectedMilliseconds, totalSeconds, trueDivide, floatMul, truncate]
  have hvalid : sampleDescriptor.validate = .ok () := by
    simp [sampleDescriptor, RecordingStreamDescriptor.validate,
      RecordingStreamDescriptor.validateContract, RecordingStreamDescriptor.validateTimestamp,
      RecordingStreamDescriptor.fieldsInRange, hduration, RecordingStreamDescriptor.maxDurationMs,
      RecordingStreamDescriptor.maxPackets, RecordingStreamDescriptor.maxPayloadBytes,
      RecordingStreamDescriptor.maxFileBytes, RecordingStreamDescriptor.formatMagicBytes,
      RecordingStreamDescriptor.recordOverheadBytes]
    rfl
  have hmodel (fields : List (Text × Json)) :
      modelValidate sampleReader fields = some sampleDescriptor := by
    simp only [modelValidate, sampleReader, Option.filter_some, hvalid]
    rfl
  obtain ⟨fields, hloads, hversion⟩ := loads_sampleText
  exact parse_text size_sampleText.2 hloads hversion (hmodel fields)

/-- The name of the descriptor is spelled without hyphens. -/
def plainName : Text := codePoints "0123456789abcdef0123456789abcdef.k5d"

def textFile (text : String) : StoredFile := ⟨text.toUTF8.size, some text.toUTF8, by simp⟩

@[simp] theorem size_textFile (text : String) : (textFile text).size = text.toUTF8.size := rfl

@[simp] theorem bytes_textFile (text : String) : (textFile text).bytes = some text.toUTF8 := rfl

def sampleRecording : StoredFile := ⟨28, none, by simp⟩

def plainRoot : RecordingRoot :=
  ⟨[(plainName, .file (textFile sampleText)),
    (recordingName sampleDescriptor.recordingId, .file sampleRecording)], by decide +kernel⟩

def defaultCatalog : CatalogConfig := ⟨10000, 20000, by decide, by decide⟩

theorem pair_plainRoot :
    Pair sampleReader plainRoot plainName sampleDescriptor.recordingId sampleDescriptor := by
  have hsize : 1 ≤ (textFile sampleText).size ∧
      (textFile sampleText).size ≤ maxDescriptorBytes := by
    rw [size_textFile]
    exact size_sampleText
  have hstored : plainRoot.find? plainName = some (.file (textFile sampleText)) :=
    Table.mem_rows.mp (by simp [plainRoot])
  have hrecording : plainRoot.find? (recordingName sampleDescriptor.recordingId) =
      some (.file sampleRecording) :=
    Table.mem_rows.mp (by simp [plainRoot])
  exact ⟨sampleText.toUTF8,
    ⟨textFile sampleText, sampleRecording, hstored, hrecording, hsize, bytes_textFile sampleText,
      rfl⟩, parse_sampleText, rfl⟩

theorem withinBounds_plainRoot : WithinBounds sampleReader defaultCatalog plainRoot := by
  have hkeys : (plainRoot.keys.filter isDescriptorName).length ≤ 2 := List.length_filter_le _ _
  have hscan : (plainRoot.keys.filter isDescriptorName).length ≤ defaultCatalog.maxScanFiles :=
    hkeys.trans (by decide)
  refine ⟨hscan, (List.length_filterMap_le _ _).trans ?_⟩
  rw [(perm_candidates hscan).length_eq]
  exact hkeys.trans (by decide)

theorem not_bottomless_plainRoot (name : Text) : ¬ Bottomless sampleReader plainRoot name := by
  intro h
  obtain ⟨id, bytes, size, -, ⟨stored, -, hstored, -, -, hbytes, -⟩, hparse⟩ := h
  have hrow := Table.mem_rows.mpr hstored
  simp only [plainRoot, List.mem_cons, List.not_mem_nil, or_false, Prod.mk.injEq,
    Node.file.injEq] at hrow
  rcases hrow with ⟨-, rfl⟩ | ⟨-, rfl⟩
  · rw [bytes_textFile, Option.some.injEq] at hbytes
    rw [← hbytes, parse_sampleText] at hparse
    cases hparse
  · cases hbytes

/-- A descriptor whose name has no hyphens is listed, and its recording cannot be opened. -/
theorem listed_not_openable : WithinBounds sampleReader defaultCatalog plainRoot ∧
    ∃ catalog, recover sampleReader defaultCatalog (some plainRoot) = some catalog ∧
      sampleDescriptor.recordingId ∈ catalog.entries.map RecordingCatalogEntry.recordingId ∧
        loadRecordingPair sampleReader (some plainRoot) sampleDescriptor.recordingId =
          .error (.error .recordingNotFound "recording was not found") := by
  have hname : isDescriptorName plainName := by decide +kernel
  have hid : Uuid.ofText sampleReader.unicode (stem plainName) =
      some sampleDescriptor.recordingId := by
    decide +kernel
  have hbounds := withinBounds_plainRoot
  refine ⟨hbounds, ?_⟩
  rcases recover_cases hbounds with ⟨-, bottom, -, hbottom⟩ | ⟨catalog, hrecover, -, hperm, -⟩
  · exact absurd hbottom (not_bottomless_plainRoot bottom)
  refine ⟨catalog, hrecover, ?_, ?_⟩
  · rw [(hperm.map RecordingCatalogEntry.recordingId).mem_iff, mem_taken hbounds]
    exact ⟨plainName, hname, hid, sampleDescriptor, pair_plainRoot, by decide⟩
  · have habsent : lstat (some plainRoot) (descriptorName sampleDescriptor.recordingId) = none := by
      rw [lstat, Option.bind_some, Table.find?_eq_none]
      decide +kernel
    unfold loadRecordingPair
    rw [habsent]
    split <;> simp_all

theorem catalog_agrees_iff_plain : Agrees sampleReader defaultCatalog (some plainRoot) ↔
    Canonical sampleReader defaultCatalog plainRoot :=
  catalog_agrees_iff sampleReader defaultCatalog plainRoot withinBounds_plainRoot

end K5Vision.Media.Catalog
