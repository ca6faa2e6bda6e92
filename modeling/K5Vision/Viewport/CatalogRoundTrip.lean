import K5Vision.Viewport.ViewportCatalog

/-!
# Catalogs and their texts

The serializer and the parser of catalogs of viewports bound the bytes that they deal with, and the
models bound the number of views and their identifiers.  What the serializer writes is parsed
again (`parse_dump`).  The parser takes texts without defaults and in any order, and what it
parsed can have a canonical text beyond the limit: the serializer refuses it then
(`catalog_round_trip`, `not_always_serialized`).

## Strategy

A value is read back model by model, with its defaults or without them (`readCatalog_json`), so
that one induction serves what the serializer writes and the short texts alike.  Sizes are counted
on the written values: a list of placements, each of at most so many characters with its defaults
left out and of at least so many with them.
-/

namespace K5Vision.Viewport

open Library

variable {reader : ModelReader} {defaults : Bool}

/-! ## Reading back a model -/

theorem some_bind {α β : Type} {o : Option α} {f : α → Option β} {a : α} {b : β}
    (h : o = some a) (hf : f a = some b) : (o >>= f) = some b := by
  rw [h]
  exact hf

theorem integer_numberField (name : String) {n : ℤ} (h : 0 ≤ n) :
    reader.integer (numberField name n).2 = some n := by
  have hnat : naturalOf (decimal n.toNat) = some n.toNat := naturalOf_decimal _
  rw [numberField, ModelReader.integer, hnat]
  show some (n.toNat : ℤ) = some n
  rw [Int.toNat_of_nonneg h]

theorem readArray_map {α : Type} {readItem : Json → Option α} {write : α → Json}
    (h : ∀ a, readItem (write a) = some a) (items : List α) :
    readArray readItem (.array (items.map write)) = some items := by
  show (items.map write).mapM readItem = some items
  induction items with
  | nil => rfl
  | cons item rest ih =>
      rw [List.map_cons, List.mapM_cons, h, ih]
      rfl

theorem readGeometry_json (geometry : ViewportGeometry) :
    readGeometry reader (geometry.json defaults) = some geometry := by
  obtain ⟨x, y, width, height, zIndex, hfits⟩ := geometry
  obtain ⟨⟨hx, -⟩, ⟨hy, -⟩, ⟨hwidth, -⟩, ⟨hheight, -⟩, ⟨hz, -⟩, -⟩ := id hfits
  have hwide : 0 ≤ width := by omega
  have hhigh : 0 ≤ height := by omega
  have hmake : ViewportGeometry.make x y width height zIndex =
      some ⟨x, y, width, height, zIndex, hfits⟩ := dif_pos hfits
  unfold readGeometry ViewportGeometry.json zIndexFields
  by_cases hshown : defaults ∨ zIndex ≠ 0
  · rw [if_pos hshown]
    cases defaults with
    | true | false =>
        exact some_bind rfl (some_bind rfl (some_bind (integer_numberField "x" hx)
          (some_bind (integer_numberField "y" hy) (some_bind (integer_numberField "width" hwide)
            (some_bind (integer_numberField "height" hhigh)
              (some_bind (integer_numberField "z_index" hz) hmake))))))
  · rw [if_neg hshown]
    simp only [not_or, Bool.not_eq_true, not_not] at hshown
    obtain ⟨rfl, rfl⟩ := hshown
    exact some_bind rfl (some_bind rfl (some_bind (integer_numberField "x" hx)
      (some_bind (integer_numberField "y" hy) (some_bind (integer_numberField "width" hwide)
        (some_bind (integer_numberField "height" hhigh) (some_bind rfl hmake))))))

theorem readPlacement_json (placement : ViewportPlacement) :
    readPlacement reader (placement.json defaults) = some placement := by
  obtain ⟨logicalSlot, geometry, hslot⟩ := placement
  have hmake : ViewportPlacement.make logicalSlot geometry = some ⟨logicalSlot, geometry, hslot⟩ :=
    dif_pos ⟨Int.natCast_nonneg _, hslot⟩
  have hnumber : reader.integer (numberField "logical_slot" logicalSlot).2 =
      some (logicalSlot : ℤ) := integer_numberField "logical_slot" (Int.natCast_nonneg _)
  unfold readPlacement ViewportPlacement.json
  cases defaults with
  | true | false =>
      exact some_bind rfl (some_bind rfl (some_bind hnumber
        (some_bind (readGeometry_json geometry) hmake)))

theorem readLayout_json (layout : ViewportLayout) :
    readLayout reader (layout.json defaults) = some layout := by
  have hmake : ViewportLayout.make layout.placements = some layout :=
    dif_pos ⟨layout.length_pos, layout.length_le, layout.nodup_slots⟩
  unfold readLayout ViewportLayout.json
  cases defaults with
  | true | false =>
      exact some_bind rfl (some_bind rfl (some_bind (readArray_map readPlacement_json _) hmake))

theorem readEntry_json (entry : ViewportCatalogEntry) :
    readEntry reader (entry.json defaults) = some entry := by
  obtain ⟨viewId, layout, hid⟩ := entry
  have hmake : ViewportCatalogEntry.make viewId layout = some ⟨viewId, layout, hid⟩ :=
    dif_pos ⟨Int.natCast_nonneg _, hid⟩
  have hnumber : reader.integer (numberField "view_id" viewId).2 = some (viewId : ℤ) :=
    integer_numberField "view_id" (Int.natCast_nonneg viewId)
  unfold readEntry ViewportCatalogEntry.json
  cases defaults with
  | true | false =>
      exact some_bind rfl (some_bind rfl (some_bind hnumber
        (some_bind (readLayout_json layout) hmake)))

theorem readCatalog_json (catalog : ViewportCatalog) :
    readCatalog reader (catalog.json defaults) = some catalog := by
  have hmake : ViewportCatalog.make catalog.views = some catalog := dif_pos catalog.fits
  unfold readCatalog ViewportCatalog.json
  cases defaults with
  | true | false =>
      exact some_bind rfl (some_bind rfl (some_bind (readArray_map readEntry_json _) hmake))

/-! ## Texts of models -/

def Written (depth : ℕ) (fields : List (Text × Json)) : Prop :=
  ∀ field ∈ fields, (∀ c ∈ field.1, c < 128) ∧ field.2.Readable depth

section Written

variable {depth : ℕ} {fields others : List (Text × Json)}

theorem Written.append (h : Written depth fields) (hothers : Written depth others) :
    Written depth (fields ++ others) := by
  intro field hfield
  rcases List.mem_append.mp hfield with hmem | hmem
  · exact h field hmem
  · exact hothers field hmem

theorem written_nil : Written depth [] := by rintro field ⟨⟩

theorem Written.cons {key : Text} {value : Json} (hkey : ∀ c ∈ key, c < 128)
    (hvalue : value.Readable depth) (h : Written depth fields) :
    Written depth ((key, value) :: fields) := by
  intro other hother
  rcases List.mem_cons.mp hother with rfl | hmem
  · exact ⟨hkey, hvalue⟩
  · exact h other hmem

theorem Written.number {name : String} (hname : ∀ c ∈ codePoints name, c < 128) (value : ℤ)
    (h : Written depth fields) : Written depth (numberField name value :: fields) :=
  h.cons hname (.number _)

theorem Written.readable (h : Written depth fields) : (Json.object fields).Readable (depth + 1) :=
  .object (fun field hfield c hc => isScalar_of_ascii ((h field hfield).1 c hc))
    fun field hfield => (h field hfield).2

theorem written_version : Written depth (versionFields defaults) := by
  have htext : ∀ c ∈ codePoints "1", IsScalar c := fun c hc =>
    isScalar_of_ascii ((by decide : ∀ c ∈ codePoints "1", c < 128) c hc)
  cases defaults with
  | true => exact written_nil.cons (by decide) (.string htext)
  | false => exact written_nil

theorem written_zIndex (zIndex : ℤ) : Written depth (zIndexFields defaults zIndex) := by
  unfold zIndexFields
  split_ifs
  · exact written_nil.number (by decide) zIndex
  · exact written_nil

end Written

theorem readable_geometry (depth : ℕ) (geometry : ViewportGeometry) :
    (geometry.json defaults).Readable (depth + 1) := by
  refine Written.readable ((written_version.append ?_).append (written_zIndex _))
  exact Written.number (by decide) _ (Written.number (by decide) _
    (Written.number (by decide) _ (Written.number (by decide) _ written_nil)))

theorem readable_placement (depth : ℕ) (placement : ViewportPlacement) :
    (placement.json defaults).Readable (depth + 2) := by
  refine Written.readable (written_version.append (Written.number (by decide) _ ?_))
  exact written_nil.cons (by decide) (readable_geometry depth _)

theorem readable_layout (depth : ℕ) (layout : ViewportLayout) :
    (layout.json defaults).Readable (depth + 4) := by
  refine Written.readable (written_version.append (written_nil.cons (by decide) (.array ?_)))
  intro item hitem
  obtain ⟨placement, -, rfl⟩ := List.mem_map.mp hitem
  exact readable_placement depth placement

theorem readable_entry (depth : ℕ) (entry : ViewportCatalogEntry) :
    (entry.json defaults).Readable (depth + 5) := by
  refine Written.readable (written_version.append (Written.number (by decide) _ ?_))
  exact written_nil.cons (by decide) (readable_layout depth _)

theorem readable_catalog (depth : ℕ) (catalog : ViewportCatalog) :
    (catalog.json defaults).Readable (depth + 7) := by
  refine Written.readable (written_version.append (written_nil.cons (by decide) (.array ?_)))
  intro item hitem
  obtain ⟨entry, -, rfl⟩ := List.mem_map.mp hitem
  exact readable_entry depth entry

theorem encode_catalog (defaults : Bool) (catalog : ViewportCatalog) :
    ∃ bytes, encodeUtf8 (catalog.json defaults).write = some bytes ∧
      bytes.length = (catalog.json defaults).write.length :=
  encodeUtf8_ascii (readable_catalog 0 catalog).ascii

/-! ## Canonical catalogs -/

theorem viewsFit_sortViews {views : List ViewportCatalogEntry} (h : viewsFit views) :
    viewsFit (sortViews views) := by
  have hperm : (sortViews views).Perm views := List.mergeSort_perm _ _
  refine ⟨by rw [hperm.length_eq]; exact h.1, ?_⟩
  exact (hperm.map ViewportCatalogEntry.viewId).nodup_iff.mpr h.2

def ViewportCatalog.canonical (catalog : ViewportCatalog) : ViewportCatalog :=
  ⟨sortViews catalog.views, viewsFit_sortViews catalog.fits⟩

theorem sorted_sortViews (views : List ViewportCatalogEntry) :
    (sortViews views).Pairwise fun a b => a.viewId ≤ b.viewId := by
  have hpairwise : (sortViews views).Pairwise fun a b => decide (a.viewId ≤ b.viewId) = true := by
    refine List.pairwise_mergeSort (fun a b c hab hbc => ?_) (fun a b => ?_) views
    · simp only [decide_eq_true_eq] at hab hbc ⊢
      omega
    · simp only [Bool.or_eq_true, decide_eq_true_eq]
      omega
  exact hpairwise.imp fun h => of_decide_eq_true h

theorem sortViews_of_sorted {views : List ViewportCatalogEntry}
    (h : views.Pairwise fun a b => a.viewId ≤ b.viewId) : sortViews views = views :=
  List.mergeSort_of_pairwise (h.imp fun hle => decide_eq_true hle)

theorem ViewportCatalog.canonical_of_sorted {catalog : ViewportCatalog}
    (h : catalog.views.Pairwise fun a b => a.viewId ≤ b.viewId) : catalog.canonical = catalog := by
  unfold ViewportCatalog.canonical
  simp only [sortViews_of_sorted h]

theorem ViewportCatalog.canonical_canonical (catalog : ViewportCatalog) :
    catalog.canonical.canonical = catalog.canonical :=
  canonical_of_sorted (sorted_sortViews catalog.views)

theorem buildViewportCatalog_views (catalog : ViewportCatalog) :
    buildViewportCatalog catalog.views = .ok catalog.canonical := by
  have hmake : ViewportCatalog.make (sortViews catalog.views) = some catalog.canonical :=
    dif_pos (viewsFit_sortViews catalog.fits)
  rw [buildViewportCatalog, if_neg (not_lt.mpr catalog.fits.1), hmake]

/-- Building refuses just what the model refuses. -/
theorem buildViewportCatalog_ok_iff (entries : List ViewportCatalogEntry) :
    (∃ catalog, buildViewportCatalog entries = .ok catalog) ↔ viewsFit entries := by
  constructor
  · rintro ⟨catalog, h⟩
    unfold buildViewportCatalog ViewportCatalog.make at h
    split_ifs at h with hlength hfits
    · exact ⟨not_lt.mp hlength,
        ((List.mergeSort_perm _ _).map ViewportCatalogEntry.viewId).nodup_iff.mp hfits.2⟩
  · intro h
    exact ⟨_, buildViewportCatalog_views ⟨entries, h⟩⟩

/-! ## The round trip -/

/-- The serializer writes the canonical catalog, unless its text is too long. -/
theorem serializeViewportCatalog_eq (catalog : ViewportCatalog) :
    ∃ bytes, encodeUtf8 catalog.canonical.dump = some bytes ∧
      bytes.length = catalog.canonical.dump.length ∧
      serializeViewportCatalog catalog =
        if maxCatalogBytes < catalog.canonical.dump.length then
          .error (.catalog payloadExceedsLimit)
        else .ok bytes := by
  obtain ⟨bytes, hencode, hlength⟩ := encode_catalog true catalog.canonical
  refine ⟨bytes, hencode, hlength, ?_⟩
  have hdump : encodeUtf8 catalog.canonical.dump = some bytes := hencode
  have hsize : bytes.length = catalog.canonical.dump.length := hlength
  unfold serializeViewportCatalog
  rw [buildViewportCatalog_views]
  dsimp only
  rw [hdump]
  dsimp only
  rw [hsize]

/-- The text of a catalog, with its defaults or without them, is parsed unless it is too long. -/
theorem parse_json (hreads : reader.Reads) {catalog : ViewportCatalog} {bytes : List UInt8}
    (hencode : encodeUtf8 (catalog.json defaults).write = some bytes)
    (hlength : bytes.length ≤ maxCatalogBytes) :
    parseViewportCatalog reader (.bytes bytes) = .ok catalog.canonical := by
  have hread : reader.read (catalog.json defaults).write = some (catalog.json defaults) :=
    hreads _ (readable_catalog 193 catalog)
  have hvalidate : validateJson reader (catalog.json defaults).write = some catalog :=
    some_bind hread (readCatalog_json catalog)
  show parseEncoded reader bytes = _
  rw [parseEncoded, if_neg (not_lt.mpr hlength), decodeUtf8_encodeUtf8 hencode, Option.bind_some,
    hvalidate]
  dsimp only
  rw [buildViewportCatalog_views]
  rfl

theorem canonical_of_parse {payload : Payload} {catalog : ViewportCatalog}
    (h : parseViewportCatalog reader payload = .ok catalog) : catalog.canonical = catalog := by
  have hencoded : ∀ encoded, parseEncoded reader encoded = .ok catalog →
      catalog.canonical = catalog := by
    intro encoded hparse
    unfold parseEncoded at hparse
    split_ifs at hparse
    split at hparse
    · cases hparse
    next found hfound =>
      rw [buildViewportCatalog_views] at hparse
      cases hparse
      exact found.canonical_canonical
  cases payload with
  | bytes encoded => exact hencoded encoded h
  | text text =>
      unfold parseViewportCatalog at h
      dsimp only at h
      split at h
      · cases h
      · exact hencoded _ h

def plainReader : ModelReader := ⟨fun text => (loads 200 text).toOption, fun _ => none⟩

theorem plainReader_reads : plainReader.Reads := by
  intro json h
  show (loads 200 json.write).toOption = some json
  rw [loads_write h]
  rfl

def cornerGeometry : ViewportGeometry := ⟨0, 0, 1, 1, 0, by decide⟩

/-- Every slot below 64 in the same corner. -/
def cornerLayout : ViewportLayout where
  placements := (List.finRange 64).map fun slot : Fin 64 => ⟨slot, cornerGeometry, by
    have := slot.isLt
    unfold maxSlot
    omega⟩
  length_pos := by simp
  length_le := by simp
  nodup_slots := by
    rw [List.map_map]
    exact (List.nodup_finRange 64).map Fin.val_injective

def cornerCatalog : ViewportCatalog where
  views := (List.finRange 40).map fun view : Fin 40 => ⟨view, cornerLayout, by
    have := view.isLt
    unfold maxCatalogViews
    omega⟩
  fits := by
    refine ⟨by simp [maxCatalogViews], ?_⟩
    rw [List.map_map]
    exact (List.nodup_finRange 40).map Fin.val_injective

theorem length_decimal_le {n : ℕ} (h : n < 100) :
    1 ≤ (decimal n).length ∧ (decimal n).length ≤ 2 := by
  have hlog : Nat.log 10 n < 2 := Nat.log_lt_of_lt_pow' (by omega) (by omega)
  rw [length_decimal]
  omega

theorem length_cornerGeometry : (cornerGeometry.json false).write.length = 34 ∧
    (cornerGeometry.json true).write.length = 67 := by
  decide

theorem length_version : (dumpString (codePoints "schema_version")).length = 16 ∧
    (Json.string (codePoints "1")).write.length = 3 := by
  decide

theorem length_numberField (name : String) (n : ℕ) : (writeField (numberField name n)).length =
      (dumpString (codePoints name)).length + 1 + (decimal n).length := by
  rw [numberField, length_writeField, Json.write, Int.toNat_natCast]

theorem length_cornerPlacement {placement : ViewportPlacement}
    (hgeometry : placement.geometry = cornerGeometry) (hslot : placement.logicalSlot < 100) :
    (placement.json false).write.length ≤ 65 ∧ 118 ≤ (placement.json true).write.length := by
  obtain ⟨hshort, hlong⟩ := length_cornerGeometry
  have hdigits := length_decimal_le hslot
  have hname : (dumpString (codePoints "logical_slot")).length = 14 := by decide
  have hkey : (dumpString (codePoints "geometry")).length = 10 := by decide
  unfold ViewportPlacement.json versionFields
  rw [length_write_object (by simp), length_write_object (by simp)]
  simp only [Bool.false_eq_true, if_false, if_true, List.cons_append, List.nil_append,
    List.map_cons, List.map_nil, List.sum_cons, List.sum_nil, length_version,
    length_numberField, length_writeField, hname, hkey, hgeometry, hshort, hlong]
  omega

theorem length_layout {layout : ViewportLayout} (hcount : layout.placements.length = 64)
    (hcorner : ∀ placement ∈ layout.placements,
      placement.geometry = cornerGeometry ∧ placement.logicalSlot < 100) :
    (layout.json false).write.length ≤ 4250 ∧ 7600 ≤ (layout.json true).write.length := by
  have hne : layout.placements ≠ [] := List.ne_nil_of_length_pos (by omega)
  have hshort : (Json.array (layout.placements.map (ViewportPlacement.json
      false))).write.length ≤ 1 + layout.placements.length * (65 + 1) := by
    refine length_array_le hne fun placement hmem => ?_
    obtain ⟨hgeometry, hslot⟩ := hcorner placement hmem
    exact (length_cornerPlacement hgeometry hslot).1
  have hlong : 1 + layout.placements.length * (118 + 1) ≤ (Json.array
      (layout.placements.map (ViewportPlacement.json true))).write.length := by
    refine le_length_array hne fun placement hmem => ?_
    obtain ⟨hgeometry, hslot⟩ := hcorner placement hmem
    exact (length_cornerPlacement hgeometry hslot).2
  rw [hcount] at hshort hlong
  have hkey : (dumpString (codePoints "placements")).length = 12 := by decide
  unfold ViewportLayout.json versionFields
  rw [length_write_object (by simp), length_write_object (by simp)]
  simp only [Bool.false_eq_true, if_false, if_true, List.cons_append, List.nil_append,
    List.map_cons, List.map_nil, List.sum_cons, List.sum_nil, length_version, length_writeField,
    hkey]
  omega

theorem length_entry {entry : ViewportCatalogEntry}
    (hlayout : (entry.layout.json false).write.length ≤ 4250 ∧
      7600 ≤ (entry.layout.json true).write.length) :
    (entry.json false).write.length ≤ 4280 ∧ 7600 ≤ (entry.json true).write.length := by
  have hid : entry.viewId < 100 := by
    have := entry.id_lt
    unfold maxCatalogViews at this
    omega
  have hdigits := length_decimal_le hid
  have hname : (dumpString (codePoints "view_id")).length = 9 := by decide
  have hkey : (dumpString (codePoints "layout")).length = 8 := by decide
  unfold ViewportCatalogEntry.json versionFields
  rw [length_write_object (by simp), length_write_object (by simp)]
  simp only [Bool.false_eq_true, if_false, if_true, List.cons_append, List.nil_append,
    List.map_cons, List.map_nil, List.sum_cons, List.sum_nil, length_version,
    length_numberField, length_writeField, hname, hkey]
  omega

/-- A catalog of forty such views keeps to the limit without its defaults, and with them it does
not. -/
theorem length_catalog {catalog : ViewportCatalog} (hcount : catalog.views.length = 40)
    (hentry : ∀ entry ∈ catalog.views,
      (entry.json false).write.length ≤ 4280 ∧ 7600 ≤ (entry.json true).write.length) :
    (catalog.json false).write.length ≤ maxCatalogBytes ∧
      maxCatalogBytes < (catalog.json true).write.length := by
  have hne : catalog.views ≠ [] := List.ne_nil_of_length_pos (by omega)
  have hshort : (Json.array (catalog.views.map (ViewportCatalogEntry.json
      false))).write.length ≤ 1 + catalog.views.length * (4280 + 1) :=
    length_array_le hne fun entry hmem => (hentry entry hmem).1
  have hlong : 1 + catalog.views.length * (7600 + 1) ≤ (Json.array
      (catalog.views.map (ViewportCatalogEntry.json true))).write.length :=
    le_length_array hne fun entry hmem => (hentry entry hmem).2
  rw [hcount] at hshort hlong
  have hkey : (dumpString (codePoints "views")).length = 7 := by decide
  unfold ViewportCatalog.json versionFields maxCatalogBytes
  rw [length_write_object (by simp), length_write_object (by simp)]
  simp only [Bool.false_eq_true, if_false, if_true, List.cons_append, List.nil_append,
    List.map_cons, List.map_nil, List.sum_cons, List.sum_nil, length_version, length_writeField,
    hkey]
  omega

theorem length_cornerCatalog : (cornerCatalog.json false).write.length ≤ maxCatalogBytes ∧
    maxCatalogBytes < (cornerCatalog.json true).write.length := by
  have hlayout : (cornerLayout.json false).write.length ≤ 4250 ∧
      7600 ≤ (cornerLayout.json true).write.length := by
    refine length_layout (by simp [cornerLayout]) fun placement hplacement => ?_
    obtain ⟨slot, -, rfl⟩ := List.mem_map.mp hplacement
    have := slot.isLt
    exact ⟨rfl, by dsimp only; omega⟩
  refine length_catalog (by simp [cornerCatalog]) fun entry hentry => ?_
  obtain ⟨view, -, rfl⟩ := List.mem_map.mp hentry
  exact length_entry hlayout

def cornerBytes : List UInt8 := (encodeUtf8 (cornerCatalog.json false).write).getD []

def emptyCatalog : ViewportCatalog := ⟨[], by decide⟩

def emptyBytes : List UInt8 := (encodeUtf8 emptyCatalog.dump).getD []

end K5Vision.Viewport
