import CosmicMounter.Data.Renaming
import CosmicMounter.Pending.Preview

/-!
# Previews of redacted listings

Redaction renames the files of a listing.  The count of differences survives
as long as no two names are merged and no defect of a listing is hidden.
-/

namespace CosmicMounter.Preview

open Rust Serde

/-! ## Sound listings -/

/-- A file with a proper relative path and a readable time. -/
structure IsReadable (timestamp : ParseTimestamp) (item : Item) : Prop where
  isFile : item.isDir = false
  path : isRefusedPath item.path = false
  time : (timestamp item.modTime).isSome

instance (timestamp : ParseTimestamp) (item : Item) : Decidable (IsReadable timestamp item) :=
  decidable_of_iff
    (item.isDir = false ∧ isRefusedPath item.path = false ∧ (timestamp item.modTime).isSome)
    ⟨fun ⟨a, b, c⟩ ↦ ⟨a, b, c⟩, fun ⟨a, b, c⟩ ↦ ⟨a, b, c⟩⟩

/-- Every entry is readable, and no path stands twice. -/
structure IsSound (timestamp : ParseTimestamp) (items : List Item) : Prop where
  readable : ∀ item ∈ items, IsReadable timestamp item
  nodup : (items.map Item.path).Nodup

instance (timestamp : ParseTimestamp) (items : List Item) : Decidable (IsSound timestamp items) :=
  decidable_of_iff ((∀ item ∈ items, IsReadable timestamp item) ∧ (items.map Item.path).Nodup)
    ⟨fun ⟨a, b⟩ ↦ ⟨a, b⟩, fun ⟨a, b⟩ ↦ ⟨a, b⟩⟩

def entryOf (timestamp : ParseTimestamp) (item : Item) : String × Nat × Int :=
  (item.path, item.size, (timestamp item.modTime).getD 0)

theorem insertItem_eq (timestamp : ParseTimestamp) (map : Inventory) (item : Item) :
    insertItem timestamp map item =
      if IsReadable timestamp item ∧ item.path ∉ map.map Prod.fst then
        .ok (entryOf timestamp item :: map)
      else .error responseIncomplete := by
  have hlookup : (map.lookup item.path).isSome = true ↔ item.path ∈ map.map Prod.fst := by
    rw [List.lookup_isSome_iff]
    simp
  unfold insertItem
  by_cases hbad : (item.isDir || isRefusedPath item.path) = true
  · rw [if_pos hbad, if_neg]
    rintro ⟨hreadable, -⟩
    rw [hreadable.isFile, hreadable.path] at hbad
    exact absurd hbad (by decide)
  · rw [if_neg hbad]
    rw [Bool.not_eq_true, Bool.or_eq_false_iff] at hbad
    cases htime : timestamp item.modTime with
    | none =>
        rw [if_neg]
        rintro ⟨hreadable, -⟩
        have hsome := hreadable.time
        rw [htime] at hsome
        cases hsome
    | some time =>
        have hreadable : IsReadable timestamp item := ⟨hbad.1, hbad.2, by rw [htime]; rfl⟩
        simp only [hlookup, hreadable, true_and, entryOf, htime, Option.getD_some, ite_not]

theorem foldlM_insertItem (timestamp : ParseTimestamp) (items : List Item) (map : Inventory) :
    items.foldlM (insertItem timestamp) map =
      if IsSound timestamp items ∧ ∀ item ∈ items, item.path ∉ map.map Prod.fst then
        .ok ((items.map (entryOf timestamp)).reverse ++ map)
      else .error responseIncomplete := by
  induction items generalizing map with
  | nil =>
      rw [if_pos ⟨⟨by simp, by simp⟩, by simp⟩]
      rfl
  | cons item items ih =>
      rw [List.foldlM_cons, insertItem_eq]
      by_cases hitem : IsReadable timestamp item ∧ item.path ∉ map.map Prod.fst
      · rw [if_pos hitem, Rust.Result.ok_bind, ih]
        have hiff : (IsSound timestamp items ∧
              ∀ other ∈ items, other.path ∉ (entryOf timestamp item :: map).map Prod.fst) ↔
            IsSound timestamp (item :: items) ∧
              ∀ other ∈ item :: items, other.path ∉ map.map Prod.fst := by
          constructor
          · rintro ⟨hsound, hfresh⟩
            have hfresh' : ∀ other ∈ items, other.path ≠ item.path ∧ other.path ∉ map.map Prod.fst := by
              intro other hother
              simpa [entryOf] using hfresh other hother
            refine ⟨⟨?_, ?_⟩, ?_⟩
            · exact List.forall_mem_cons.mpr ⟨hitem.1, hsound.readable⟩
            · rw [List.map_cons, List.nodup_cons]
              refine ⟨?_, hsound.nodup⟩
              intro hmem
              obtain ⟨other, hother, heq⟩ := List.mem_map.mp hmem
              exact (hfresh' other hother).1 heq
            · exact List.forall_mem_cons.mpr ⟨hitem.2, fun other hother ↦ (hfresh' other hother).2⟩
          · rintro ⟨hsound, hfresh⟩
            have hnodup := hsound.nodup
            rw [List.map_cons, List.nodup_cons] at hnodup
            refine ⟨⟨(List.forall_mem_cons.mp hsound.readable).2, hnodup.2⟩, ?_⟩
            intro other hother
            have hother' := (List.forall_mem_cons.mp hfresh).2 other hother
            rw [List.map_cons, List.mem_cons, not_or]
            refine ⟨?_, hother'⟩
            intro heq
            exact hnodup.1 (List.mem_map.mpr ⟨other, hother, heq⟩)
        simp only [hiff]
        simp
      · rw [if_neg hitem, if_neg]
        · rfl
        · rintro ⟨hsound, hfresh⟩
          exact hitem ⟨hsound.readable item (by simp), hfresh item (by simp)⟩

theorem inventoryOf_eq (timestamp : ParseTimestamp) (items : List Item) :
    inventoryOf timestamp items =
      if IsSound timestamp items then .ok (items.map (entryOf timestamp)).reverse
      else .error responseIncomplete := by
  rw [inventoryOf, foldlM_insertItem]
  simp

/-! ## Counting -/

def valueIn (map : Inventory) (name : String) : Nat × Int := (map.lookup name).getD (0, 0)

def namesOf (map : Inventory) : Finset String := (map.map Prod.fst).toFinset

theorem isSome_lookup_iff {map : Inventory} {name : String} :
    (map.lookup name).isSome = true ↔ name ∈ namesOf map := by
  rw [List.lookup_isSome_iff, namesOf]
  simp

theorem differences_eq (remote local' : Inventory) :
    differences remote local' =
      (Renaming.differing (namesOf remote) (namesOf local') (valueIn remote) (valueIn local')
        isClose).card := by
  have hnodup := (List.nodup_dedup (remote.map Prod.fst ++ local'.map Prod.fst))
  rw [differences, ← List.toFinset_card_of_nodup (hnodup.filter _)]
  congr 1
  ext name
  have hremote : (remote.lookup name).isSome = true ↔ name ∈ namesOf remote := isSome_lookup_iff
  have hlocal : (local'.lookup name).isSome = true ↔ name ∈ namesOf local' := isSome_lookup_iff
  have hunion : name ∈ (remote.map Prod.fst ++ local'.map Prod.fst).dedup ↔
      name ∈ namesOf remote ∪ namesOf local' := by
    rw [List.mem_dedup, List.mem_append, Finset.mem_union, namesOf, namesOf, List.mem_toFinset,
      List.mem_toFinset]
  rw [List.mem_toFinset, List.mem_filter, hunion, Renaming.differing, Finset.mem_sdiff,
    Renaming.agreeing, Finset.mem_filter, Finset.mem_inter, ← hremote, ← hlocal, valueIn, valueIn]
  cases remote.lookup name <;> cases local'.lookup name <;> simp

theorem lookup_of_mem {map : Inventory} {entry : String × Nat × Int} (hmem : entry ∈ map)
    (hnodup : (map.map Prod.fst).Nodup) : map.lookup entry.1 = some entry.2 := by
  induction map with
  | nil => exact absurd hmem List.not_mem_nil
  | cons head rest ih =>
      rw [List.map_cons, List.nodup_cons] at hnodup
      rcases List.mem_cons.mp hmem with rfl | hrest
      · simp [List.lookup]
      · have hne : entry.1 ≠ head.1 := by
          intro heq
          exact hnodup.1 (heq ▸ List.mem_map_of_mem hrest)
        rw [List.lookup_cons, beq_false_of_ne hne]
        exact ih hrest hnodup.2

/-- The inventory of a sound listing. -/
def inventoryMap (timestamp : ParseTimestamp) (items : List Item) : Inventory :=
  (items.map (entryOf timestamp)).reverse

theorem map_fst_inventoryMap (timestamp : ParseTimestamp) (items : List Item) :
    (inventoryMap timestamp items).map Prod.fst = (items.map Item.path).reverse := by
  rw [inventoryMap, List.map_reverse, List.map_map]
  rfl

theorem mem_namesOf {timestamp : ParseTimestamp} {items : List Item} {name : String} :
    name ∈ namesOf (inventoryMap timestamp items) ↔ ∃ item ∈ items, item.path = name := by
  rw [namesOf, map_fst_inventoryMap, List.mem_toFinset, List.mem_reverse, List.mem_map]

theorem valueIn_of_mem (timestamp : ParseTimestamp) {items : List Item} {item : Item}
    (hmem : item ∈ items) (hnodup : (items.map Item.path).Nodup) :
    valueIn (inventoryMap timestamp items) item.path = (entryOf timestamp item).2 := by
  have hentry : entryOf timestamp item ∈ inventoryMap timestamp items := by
    rw [inventoryMap, List.mem_reverse]
    exact List.mem_map_of_mem hmem
  have hkeys : ((inventoryMap timestamp items).map Prod.fst).Nodup := by
    rw [map_fst_inventoryMap]
    exact List.nodup_reverse.mpr hnodup
  have hlookup := lookup_of_mem hentry hkeys
  rw [valueIn, show item.path = (entryOf timestamp item).1 from rfl, hlookup, Option.getD_some]

/-! ## Redacted items -/

def redactItem (item : Item) : Item :=
  { item with path := redactPlainText item.path, modTime := redactPlainText item.modTime }

theorem itemOfParts_redact (path size modTime isDir : Option Value) :
    itemOfParts (path.map redactJsonValue) (size.map redactJsonValue) (modTime.map redactJsonValue)
        (isDir.map redactJsonValue) =
      (itemOfParts path size modTime isDir).map redactItem := by
  cases path with
  | none => rfl
  | some path => cases size with
    | none => simp [itemOfParts]
    | some size => cases modTime with
      | none => simp [itemOfParts]
      | some modTime => cases isDir with
        | none => simp [itemOfParts]
        | some isDir =>
            simp only [itemOfParts, Option.map_some, Option.bind_some, asStr_redactJsonValue,
              asU64_redactJsonValue, asBool_redactJsonValue]
            cases path.asStr <;> cases size.asU64 <;> cases modTime.asStr <;> cases isDir.asBool <;> rfl

theorem itemOf_redact (value : Value) :
    itemOf (redactJsonValue value) = (itemOf value).map redactItem := by
  cases value with
  | object fields =>
      have hplain : isSensitiveField "Path" = false ∧ isSensitiveField "Size" = false ∧
          isSensitiveField "ModTime" = false ∧ isSensitiveField "IsDir" = false := by decide
      obtain ⟨hpath, hsize, htime, hdir⟩ := hplain
      rw [redactJsonValue, itemOf, itemOf]
      simp only [get_redactFields, hpath, hsize, htime, hdir, Bool.false_eq_true, if_false]
      exact itemOfParts_redact ..
  | array items =>
      rw [redactJsonValue, itemOf, itemOf, toList_redactItems]
      match items.toList with
      | [path, size, modTime, isDir] => exact itemOfParts_redact (some path) (some size) (some modTime) (some isDir)
      | [] | [_] | [_, _] | [_, _, _] | _ :: _ :: _ :: _ :: _ :: _ => rfl
  | null | bool | number | string => rfl

theorem itemsOf_redact (value : Value) :
    itemsOf (redactJsonValue value) = (itemsOf value).map (List.map redactItem) := by
  cases value with
  | array items =>
      rw [redactJsonValue, itemsOf, itemsOf, toList_redactItems]
      induction items.toList with
      | nil => rfl
      | cons value rest ih =>
          rw [List.map_cons, List.mapM_cons, List.mapM_cons, itemOf_redact, ih]
          cases itemOf value <;> cases rest.mapM itemOf <;> rfl
  | null | bool | number | string | object => rfl

theorem itemOfParts_reread (f : String → String) (path size modTime isDir : Option Value) :
    itemOfParts (path.map (·.rereadFloats f)) (size.map (·.rereadFloats f))
        (modTime.map (·.rereadFloats f)) (isDir.map (·.rereadFloats f)) =
      itemOfParts path size modTime isDir := by
  have hbind {α : Type} (read : Value → Option α) (value : Option Value)
      (hread : ∀ v : Value, read (v.rereadFloats f) = read v) :
      (value.map (·.rereadFloats f)).bind read = value.bind read := by
    cases value with
    | none => rfl
    | some v => exact hread v
  rw [itemOfParts, itemOfParts, hbind _ path (Value.asStr_rereadFloats f),
    hbind _ size (Value.asU64_rereadFloats f), hbind _ modTime (Value.asStr_rereadFloats f),
    hbind _ isDir (Value.asBool_rereadFloats f)]

theorem itemOf_reread (f : String → String) (value : Value) :
    itemOf (value.rereadFloats f) = itemOf value := by
  cases value with
  | number n => cases n <;> rfl
  | object fields =>
      rw [Value.rereadFloats, itemOf, itemOf]
      simp only [Fields.get_rereadFloats]
      exact itemOfParts_reread f ..
  | array items =>
      rw [Value.rereadFloats, itemOf, itemOf, Items.toList_rereadFloats]
      match items.toList with
      | [path, size, modTime, isDir] =>
          exact itemOfParts_reread f (some path) (some size) (some modTime) (some isDir)
      | [] | [_] | [_, _] | [_, _, _] | _ :: _ :: _ :: _ :: _ :: _ => rfl
  | null | bool | string => rfl

theorem itemsOf_reread (f : String → String) (value : Value) :
    itemsOf (value.rereadFloats f) = itemsOf value := by
  cases value with
  | number n => cases n <;> rfl
  | array items =>
      rw [Value.rereadFloats, itemsOf, itemsOf, Items.toList_rereadFloats]
      induction items.toList with
      | nil => rfl
      | cons value rest ih => rw [List.map_cons, List.mapM_cons, List.mapM_cons, itemOf_reread, ih]
  | null | bool | string | object => rfl

/-! ## Renaming -/

/-- A time as it is printed: a digit first, and no equals sign. -/
structure IsTimeText (text : String) : Prop where
  isToken : Str.IsToken text
  digit : ∃ c rest, text.toList = c :: rest ∧ c.isDigit = true
  noEquals : '=' ∉ text.toList

theorem IsTimeText.redactPlainText {text : String} (h : IsTimeText text) :
    redactPlainText text = text := by
  obtain ⟨c, rest, htext, hdigit⟩ := h.digit
  exact redactPlainText_of_quiet h.isToken htext (isQuiet_of_isDigit hdigit) h.noEquals

theorem isRefusedPath_of_redacted {path : String}
    (h : isRefusedPath (redactPlainText path) = true) : isRefusedPath path = true := by
  have hredacts := redacts_plainText path
  rw [isRefusedPath, Bool.or_eq_true, Bool.or_eq_true] at h ⊢
  rcases h with (hempty | hslash) | hpart
  · left; left
    have heq : redactPlainText path = "" := eq_of_beq hempty
    have hsame := hredacts.eq_of_unmarked (by rw [heq]; decide)
    rw [← hsame]
    exact hempty
  · left; right
    exact hredacts.startsWith_of_startsWith (by decide) hslash
  · right
    obtain ⟨part, hpart, hbad⟩ := List.any_eq_true.mp hpart
    have hcases : part = "" ∨ part = "." ∨ part = ".." := by simpa using hbad
    have hplain : '/' ∉ part.toList ∧ Redacts.Unmarked part := by
      rcases hcases with rfl | rfl | rfl <;> decide
    exact List.any_eq_true.mpr ⟨part, Redacts.mem_split_of_marked hredacts hplain.1 hplain.2 hpart, hbad⟩

section Listings

variable {timestamp : ParseTimestamp} {items remote local' : List Item}

/-- The times of a listing are the ones `rclone` prints. -/
def HasTimes (items : List Item) : Prop := ∀ item ∈ items, IsTimeText item.modTime

theorem IsReadable.redact {item : Item} (htime : IsTimeText item.modTime)
    (h : IsReadable timestamp item) : IsReadable timestamp (redactItem item) := by
  refine ⟨h.isFile, ?_, ?_⟩
  · rw [← Bool.not_eq_true]
    intro hrefused
    have hraw := isRefusedPath_of_redacted hrefused
    rw [h.path] at hraw
    cases hraw
  · rw [redactItem, htime.redactPlainText]
    exact h.time

theorem map_path_redact : (items.map redactItem).map Item.path =
    (items.map Item.path).map redactPlainText := by
  rw [List.map_map, List.map_map]
  rfl

/-- The names of the two listings. -/
def names (remote local' : List Item) : Set String :=
  {name | ∃ item ∈ remote ++ local', item.path = name}

/-- Redaction merges no two names of the listings. -/
def KeepsNamesApart (remote local' : List Item) : Prop :=
  Set.InjOn redactPlainText (names remote local')

theorem IsSound.redact (htimes : HasTimes items)
    (hapart : Set.InjOn redactPlainText {name | ∃ item ∈ items, item.path = name})
    (h : IsSound timestamp items) : IsSound timestamp (items.map redactItem) := by
  constructor
  · intro redacted hredacted
    obtain ⟨item, hitem, rfl⟩ := List.mem_map.mp hredacted
    exact (h.readable item hitem).redact (htimes item hitem)
  · rw [map_path_redact]
    apply List.Nodup.map_on _ h.nodup
    intro name hname other hother heq
    exact hapart (List.mem_map.mp hname) (List.mem_map.mp hother) heq

theorem namesOf_redact :
    namesOf (inventoryMap timestamp (items.map redactItem)) =
      (namesOf (inventoryMap timestamp items)).image redactPlainText := by
  ext name
  rw [mem_namesOf, Finset.mem_image]
  constructor
  · rintro ⟨redacted, hredacted, rfl⟩
    obtain ⟨item, hitem, rfl⟩ := List.mem_map.mp hredacted
    exact ⟨item.path, mem_namesOf.mpr ⟨item, hitem, rfl⟩, rfl⟩
  · rintro ⟨raw, hraw, rfl⟩
    obtain ⟨item, hitem, rfl⟩ := mem_namesOf.mp hraw
    exact ⟨redactItem item, List.mem_map_of_mem hitem, rfl⟩

theorem valueIn_redact (htimes : HasTimes items) (h : IsSound timestamp items)
    (h' : IsSound timestamp (items.map redactItem)) :
    ∀ name ∈ namesOf (inventoryMap timestamp items),
      valueIn (inventoryMap timestamp (items.map redactItem)) (redactPlainText name) =
        valueIn (inventoryMap timestamp items) name := by
  intro name hname
  obtain ⟨item, hitem, rfl⟩ := mem_namesOf.mp hname
  have hredacted := valueIn_of_mem timestamp (List.mem_map_of_mem hitem) h'.nodup
  rw [valueIn_of_mem timestamp hitem h.nodup]
  rw [redactItem, (htimes item hitem).redactPlainText] at hredacted
  exact hredacted

theorem namesOf_union :
    ((namesOf (inventoryMap timestamp remote) ∪ namesOf (inventoryMap timestamp local') :
      Finset String) : Set String) = names remote local' := by
  ext name
  simp only [Finset.coe_union, Set.mem_union, Finset.mem_coe, mem_namesOf, names, List.mem_append,
    Set.mem_ofPred_eq]
  constructor
  · rintro (⟨item, hitem, rfl⟩ | ⟨item, hitem, rfl⟩)
    · exact ⟨item, Or.inl hitem, rfl⟩
    · exact ⟨item, Or.inr hitem, rfl⟩
  · rintro ⟨item, hitem | hitem, rfl⟩
    · exact Or.inl ⟨item, hitem, rfl⟩
    · exact Or.inr ⟨item, hitem, rfl⟩

theorem injOn_of_isSound_redact (h' : IsSound timestamp (items.map redactItem)) :
    Set.InjOn redactPlainText (namesOf (inventoryMap timestamp items)) := by
  have hnodup := h'.nodup
  rw [map_path_redact] at hnodup
  intro name hname other hother heq
  obtain ⟨item, hitem, rfl⟩ := mem_namesOf.mp hname
  obtain ⟨item', hitem', rfl⟩ := mem_namesOf.mp hother
  exact List.inj_on_of_nodup_map hnodup (List.mem_map_of_mem hitem) (List.mem_map_of_mem hitem') heq

/-- The two listings are compared. -/
def compare (timestamp : ParseTimestamp) (remote local' : List Item) : Except Message Nat := do
  let remote ← inventoryOf timestamp remote
  let local' ← inventoryOf timestamp local'
  return differences remote local'

theorem compare_eq : compare timestamp remote local' =
    if IsSound timestamp remote ∧ IsSound timestamp local' then
      .ok (differences (inventoryMap timestamp remote) (inventoryMap timestamp local'))
    else .error responseIncomplete := by
  rw [compare, inventoryOf_eq, inventoryOf_eq]
  by_cases hremote : IsSound timestamp remote
  · by_cases hlocal : IsSound timestamp local'
    · rw [if_pos hremote, if_pos hlocal, if_pos ⟨hremote, hlocal⟩]
      rfl
    · have hboth : ¬(IsSound timestamp remote ∧ IsSound timestamp local') := fun h ↦ hlocal h.2
      rw [if_pos hremote, if_neg hlocal, if_neg hboth]
      rfl
  · have hboth : ¬(IsSound timestamp remote ∧ IsSound timestamp local') := fun h ↦ hremote h.1
    rw [if_neg hremote, if_neg hboth]
    rfl

/-- What redaction must not do to a pair of listings: merge two names of sound
ones, or make unsound ones look sound. -/
structure SurvivesRedaction (timestamp : ParseTimestamp) (remote local' : List Item) : Prop where
  apart : IsSound timestamp remote ∧ IsSound timestamp local' → KeepsNamesApart remote local'
  defects : IsSound timestamp (remote.map redactItem) ∧ IsSound timestamp (local'.map redactItem) →
    IsSound timestamp remote ∧ IsSound timestamp local'

theorem compare_redact_iff (timestamp : ParseTimestamp) (hremote : HasTimes remote) (hlocal : HasTimes local') :
    compare timestamp (remote.map redactItem) (local'.map redactItem) =
        compare timestamp remote local' ↔ SurvivesRedaction timestamp remote local' := by
  rw [compare_eq, compare_eq]
  by_cases hraw : IsSound timestamp remote ∧ IsSound timestamp local'
  · by_cases hredacted : IsSound timestamp (remote.map redactItem) ∧
        IsSound timestamp (local'.map redactItem)
    · have hcount := Renaming.card_differing_image_eq_iff isClose
        (injOn_of_isSound_redact hredacted.1) (valueIn_redact hremote hraw.1 hredacted.1)
        (valueIn_redact hlocal hraw.2 hredacted.2)
      rw [← namesOf_redact, ← namesOf_redact, ← differences_eq, ← differences_eq, namesOf_union] at hcount
      rw [if_pos hraw, if_pos hredacted, Except.ok.injEq, hcount]
      exact ⟨fun h ↦ ⟨fun _ ↦ h, fun _ ↦ hraw⟩, fun h ↦ h.apart hraw⟩
    · rw [if_pos hraw, if_neg hredacted]
      constructor
      · intro h
        cases h
      · intro h
        exfalso
        have hapart := h.apart hraw
        have hsub : ∀ side : List Item, (∀ item ∈ side, item ∈ remote ++ local') →
            Set.InjOn redactPlainText {name | ∃ item ∈ side, item.path = name} := by
          intro side hside
          apply hapart.mono
          rintro name ⟨item, hitem, rfl⟩
          exact ⟨item, hside item hitem, rfl⟩
        apply hredacted
        exact ⟨hraw.1.redact hremote (hsub remote fun _ hi ↦ List.mem_append_left _ hi),
          hraw.2.redact hlocal (hsub local' fun _ hi ↦ List.mem_append_right _ hi)⟩
  · by_cases hredacted : IsSound timestamp (remote.map redactItem) ∧
        IsSound timestamp (local'.map redactItem)
    · rw [if_neg hraw, if_pos hredacted]
      constructor
      · intro h
        cases h
      · intro h
        exact absurd (h.defects hredacted) hraw
    · rw [if_neg hraw, if_neg hredacted]
      exact ⟨fun _ ↦ ⟨fun h ↦ absurd h hraw, fun h ↦ absurd h hredacted⟩, fun _ ↦ rfl⟩

end Listings

/-! ## Documents -/

/-- A printed listing: a document, which is read back as it is written. -/
structure IsListing (json : SerdeJson) (text : String) (value : Value) : Prop where
  fromStr : json.fromStr text = .ok value
  reread : ∃ f, json.fromStr (json.toString (redactJsonValue value)) =
    .ok ((redactJsonValue value).rereadFloats f)
  times : ∀ items, itemsOf value = some items → HasTimes items

section Documents

variable {json : SerdeJson} {timestamp : ParseTimestamp} {remote local' : String} {rv lv : Value}

theorem IsListing.inventory {text : String} {value : Value} (h : IsListing json text value) :
    inventory json timestamp text =
      match itemsOf value with
      | none => .error responseIncomplete
      | some items => inventoryOf timestamp items := by
  rewrite [Preview.inventory, h.fromStr]
  rfl

theorem IsListing.inventory_redact {text : String} {value : Value} (h : IsListing json text value) :
    Preview.inventory json timestamp (redactText json text) =
      match itemsOf value with
      | none => .error responseIncomplete
      | some items => inventoryOf timestamp (items.map redactItem) := by
  obtain ⟨f, hreread⟩ := h.reread
  have hitems : itemsOf ((redactJsonValue value).rereadFloats f) =
      (itemsOf value).map (List.map redactItem) := by rw [itemsOf_reread, itemsOf_redact]
  rw [redactText, h.fromStr]
  dsimp only
  rw [Preview.inventory, hreread]
  dsimp only
  rw [hitems]
  cases itemsOf value <;> rfl

/-- The exact condition for a pair of documents. -/
def ListingsSurvive (timestamp : ParseTimestamp) (remote local' : Value) : Prop :=
  ∀ remoteItems localItems, itemsOf remote = some remoteItems → itemsOf local' = some localItems →
    SurvivesRedaction timestamp remoteItems localItems

theorem difference_redact_iff (hremote : IsListing json remote rv)
    (hlocal : IsListing json local' lv) :
    previewInventoryDifference json timestamp (redactText json remote) (redactText json local') =
        previewInventoryDifference json timestamp remote local' ↔
      ListingsSurvive timestamp rv lv := by
  rw [previewInventoryDifference, previewInventoryDifference, hremote.inventory, hlocal.inventory,
    hremote.inventory_redact, hlocal.inventory_redact, ListingsSurvive]
  cases hrv : itemsOf rv with
  | none =>
      constructor
      · intro _ remoteItems _ hnone
        cases hnone
      · intro _
        rfl
  | some remoteItems =>
      cases hlv : itemsOf lv with
      | none =>
          constructor
          · intro _ _ localItems _ hnone
            cases hnone
          · intro _
            dsimp only
            rw [inventoryOf_eq, inventoryOf_eq]
            split_ifs <;> rfl
      | some localItems =>
          have hiff := compare_redact_iff timestamp (hremote.times _ hrv) (hlocal.times _ hlv)
          constructor
          · rintro h _ _ hremoteItems hlocalItems
            obtain rfl := Option.some.inj hremoteItems
            obtain rfl := Option.some.inj hlocalItems
            exact hiff.mp h
          · intro h
            exact hiff.mpr (h _ _ rfl rfl)

theorem listing_redacting {runner : Runner} {target filters text : String}
    (h : listing runner target filters = .ok text) :
    listing (redacting json runner) target filters = .ok (redactText json text) := by
  unfold listing at h ⊢
  cases hrequest : lsjsonRequest target filters with
  | none => simp [hrequest] at h
  | some request =>
      simp only [hrequest] at h ⊢
      unfold redacting
      cases hrun : runner request with
      | error e => simp [hrun] at h
      | ok output =>
          simp only [hrun, Except.map, redactOutput] at h ⊢
          split_ifs at h ⊢ with hincomplete
          obtain rfl := Except.ok.inj h
          rfl

/-- The snapshot over redacted output, for two listings printed in full. -/
theorem snapshot_redact_iff (timestamp : ParseTimestamp) {runner : Runner} {remoteTarget localTarget filters : String}
    (hremotePrinted : listing runner remoteTarget filters = .ok remote)
    (hlocalPrinted : listing runner localTarget filters = .ok local')
    (hremote : IsListing json remote rv) (hlocal : IsListing json local' lv) :
    rclonePreviewSnapshot json timestamp (redacting json runner) remoteTarget localTarget filters
          false false =
        rclonePreviewSnapshot json timestamp runner remoteTarget localTarget filters false false ↔
      ListingsSurvive timestamp rv lv := by
  rw [← difference_redact_iff hremote hlocal, rclonePreviewSnapshot, rclonePreviewSnapshot,
    hremotePrinted, hlocalPrinted, listing_redacting hremotePrinted, listing_redacting hlocalPrinted]
  exact Iff.rfl

end Documents

end CosmicMounter.Preview
