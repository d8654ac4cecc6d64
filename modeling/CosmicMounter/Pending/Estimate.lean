import CosmicMounter.Pending.PreviewAgreement

/-!
# What a preview counts

The listings as `rclone lsjson` prints them, and the estimate of
`preview_inventory_difference` as the number of paths that differ.
-/

namespace CosmicMounter.Preview

open Rust Serde

/-! ## Listings -/

/-- An entry of a listing; the size of something that is no file may be -1. -/
structure LsjsonItem where
  path : String
  size : Int
  modTime : String
  isDir : Bool
  deriving DecidableEq, Repr

def sizeNumber : Int → Number
  | .ofNat n => .unsigned n
  | .negSucc n => .negative (.negSucc n)

/-- The printed entry, each field once; its other fields do not matter. -/
structure Prints (value : Value) (item : LsjsonItem) : Prop where
  isObject : ∃ fields, value = .object fields ∧ (fields.toList.map Prod.fst).Nodup
  path : value.get "Path" = some (.string item.path)
  size : value.get "Size" = some (.number (sizeNumber item.size))
  modTime : value.get "ModTime" = some (.string item.modTime)
  isDir : value.get "IsDir" = some (.bool item.isDir)

def IsLsjson (json : SerdeJson) (text : String) (items : List LsjsonItem) : Prop :=
  ∃ values, json.fromStr text = .ok (.array values) ∧ List.Forall₂ Prints values.toList items

/-- The entry as the applet reads it: without a negative size. -/
def LsjsonItem.toItem (item : LsjsonItem) : Option Item :=
  if 0 ≤ item.size then some ⟨item.path, item.size.toNat, item.modTime, item.isDir⟩ else none

theorem asU64_sizeNumber (size : Int) :
    (sizeNumber size).asU64 = if 0 ≤ size then some size.toNat else none := by
  cases size with
  | ofNat n => simp [sizeNumber, Number.asU64]
  | negSucc n =>
      rw [if_neg (by omega)]
      rfl

theorem Prints.itemOf {value : Value} {item : LsjsonItem} (h : Prints value item) :
    itemOf value = item.toItem := by
  obtain ⟨fields, rfl, -⟩ := h.isObject
  have hpath : fields.get "Path" = some (.string item.path) := h.path
  have hsize : fields.get "Size" = some (.number (sizeNumber item.size)) := h.size
  have htime : fields.get "ModTime" = some (.string item.modTime) := h.modTime
  have hdir : fields.get "IsDir" = some (.bool item.isDir) := h.isDir
  have hnumber : (Value.number (sizeNumber item.size)).asU64 =
      if 0 ≤ item.size then some item.size.toNat else none := asU64_sizeNumber item.size
  rw [Preview.itemOf, hpath, hsize, htime, hdir, itemOfParts, LsjsonItem.toItem, Option.bind_some,
    Option.bind_some, Option.bind_some, Option.bind_some, hnumber]
  split_ifs <;> rfl

/-- The items of a listing, where every size is one. -/
def itemsOfListing (items : List LsjsonItem) : List Item :=
  items.map fun item ↦ ⟨item.path, item.size.toNat, item.modTime, item.isDir⟩

theorem itemsOf_prints {values : Items} {items : List LsjsonItem}
    (h : List.Forall₂ Prints values.toList items) :
    itemsOf (.array values) =
      if ∀ item ∈ items, 0 ≤ item.size then some (itemsOfListing items) else none := by
  have hread : values.toList.mapM Preview.itemOf = items.mapM LsjsonItem.toItem := by
    generalize values.toList = listed at h
    induction h with
    | nil => rfl
    | cons hitem _ ih => rw [List.mapM_cons, List.mapM_cons, hitem.itemOf, ih]
  have hmapM : ∀ items : List LsjsonItem, (items.mapM LsjsonItem.toItem) =
      if ∀ item ∈ items, 0 ≤ item.size then some (itemsOfListing items) else none := by
    intro items
    induction items with
    | nil => rfl
    | cons item rest ih =>
        rw [List.mapM_cons, ih]
        simp only [LsjsonItem.toItem, List.forall_mem_cons]
        by_cases hsize : 0 ≤ item.size
        · by_cases hrest : ∀ item ∈ rest, 0 ≤ item.size
          · rw [if_pos hsize, if_pos hrest, if_pos ⟨hsize, hrest⟩]
            rfl
          · have hboth : ¬(0 ≤ item.size ∧ ∀ item ∈ rest, 0 ≤ item.size) := fun h ↦ hrest h.2
            rw [if_pos hsize, if_neg hrest, if_neg hboth]
            rfl
        · have hboth : ¬(0 ≤ item.size ∧ ∀ item ∈ rest, 0 ≤ item.size) := fun h ↦ hsize h.1
          rw [if_neg hsize, if_neg hboth]
          rfl
  rw [itemsOf, hread, hmapM]

/-! ## Proper listings -/

/-- No component of the path is empty, `.` or `..`. -/
def IsCleanRelative (path : String) : Prop := ∀ part ∈ Str.split '/' path, part ∉ ["", ".", ".."]

theorem isRefusedPath_eq_false_iff (path : String) : isRefusedPath path = false ↔ IsCleanRelative path := by
  have hempty : path = "" → ¬IsCleanRelative path := by
    rintro rfl h
    exact h "" (by decide) (by decide)
  have hrooted : Str.startsWith "/" path = true → ¬IsCleanRelative path := by
    intro hroot h
    obtain ⟨rest, hrest⟩ := (Str.startsWith_iff _ _).mp hroot
    have hsplit : Str.split '/' ("" ++ '/'.toString ++ .ofList rest) = "" :: Str.split '/' (.ofList rest) := by
      rw [Path.split_append_cons]
      rfl
    have hpath : path = "" ++ '/'.toString ++ .ofList rest := by
      rw [← String.toList_inj, ← hrest]
      simp
    rw [hpath] at h
    exact h "" (hsplit ▸ List.mem_cons_self) (by decide)
  have hparts : ((Str.split '/' path).any fun part ↦ decide (part ∈ ["", ".", ".."])) = false ↔
      IsCleanRelative path := by
    simp only [List.any_eq_false, decide_eq_true_eq, IsCleanRelative]
  rw [isRefusedPath, Bool.or_eq_false_iff, Bool.or_eq_false_iff, hparts]
  constructor
  · exact fun h ↦ h.2
  · intro h
    refine ⟨⟨?_, ?_⟩, h⟩
    · exact beq_false_of_ne fun hpath ↦ hempty hpath h
    · exact Bool.eq_false_iff.mpr fun hroot ↦ hrooted hroot h

section Proper

variable (timestamp : ParseTimestamp)

/-- A file with a clean relative path, a size and a time. -/
structure IsProperItem (item : LsjsonItem) : Prop where
  isFile : item.isDir = false
  path : IsCleanRelative item.path
  size : 0 ≤ item.size
  time : (timestamp item.modTime).isSome

structure IsProper (items : List LsjsonItem) : Prop where
  proper : ∀ item ∈ items, IsProperItem timestamp item
  nodup : (items.map LsjsonItem.path).Nodup

theorem isProper_iff (items : List LsjsonItem) :
    IsProper timestamp items ↔ (∀ item ∈ items, 0 ≤ item.size) ∧ IsSound timestamp (itemsOfListing items) := by
  have hpaths : (itemsOfListing items).map Item.path = items.map LsjsonItem.path := by
    rw [itemsOfListing, List.map_map]
    rfl
  constructor
  · intro h
    refine ⟨fun item hitem ↦ (h.proper item hitem).size, ?_, hpaths ▸ h.nodup⟩
    intro item hitem
    obtain ⟨listed, hlisted, rfl⟩ := List.mem_map.mp hitem
    have hproper := h.proper listed hlisted
    exact ⟨hproper.isFile, (isRefusedPath_eq_false_iff _).mpr hproper.path, hproper.time⟩
  · rintro ⟨hsizes, hsound⟩
    refine ⟨fun item hitem ↦ ?_, hpaths ▸ hsound.nodup⟩
    have hreadable := hsound.readable _ (List.mem_map_of_mem hitem)
    exact ⟨hreadable.isFile, (isRefusedPath_eq_false_iff _).mp hreadable.path, hsizes item hitem, hreadable.time⟩

/-! ## The estimate -/

/-- Another size, or times at least a second apart. -/
def Changed (item item' : LsjsonItem) : Prop :=
  item.size ≠ item'.size ∨
    1000000000 ≤ |(timestamp item.modTime).getD 0 - (timestamp item'.modTime).getD 0|

/-- The path is on one side only, or its files are not the same. -/
def Differs (items items' : List LsjsonItem) (path : String) : Prop :=
  (path ∈ items.map LsjsonItem.path ∧ path ∉ items'.map LsjsonItem.path) ∨
    (path ∉ items.map LsjsonItem.path ∧ path ∈ items'.map LsjsonItem.path) ∨
    ∃ item ∈ items, ∃ item' ∈ items', item.path = path ∧ item'.path = path ∧ Changed timestamp item item'

noncomputable def estimate (items items' : List LsjsonItem) : Nat := {path | Differs timestamp items items' path}.ncard

theorem differences_eq_estimate {items items' : List LsjsonItem} (h : IsProper timestamp items)
    (h' : IsProper timestamp items') :
    differences (inventoryMap timestamp (itemsOfListing items)) (inventoryMap timestamp (itemsOfListing items')) =
      estimate timestamp items items' := by
  have hnames : ∀ (items : List LsjsonItem) (path : String),
      path ∈ namesOf (inventoryMap timestamp (itemsOfListing items)) ↔ path ∈ items.map LsjsonItem.path := by
    intro items path
    rw [mem_namesOf, itemsOfListing]
    simp
  have hvalue : ∀ {items : List LsjsonItem}, IsProper timestamp items → ∀ item ∈ items,
      valueIn (inventoryMap timestamp (itemsOfListing items)) item.path =
        (item.size.toNat, (timestamp item.modTime).getD 0) := by
    intro items h item hitem
    have hsound := ((isProper_iff timestamp items).mp h).2
    exact valueIn_of_mem timestamp (List.mem_map_of_mem hitem) hsound.nodup
  have hclose : ∀ item ∈ items, ∀ item' ∈ items', item.path = item'.path →
      (isClose (valueIn (inventoryMap timestamp (itemsOfListing items)) item.path)
        (valueIn (inventoryMap timestamp (itemsOfListing items')) item.path) = true ↔
          ¬Changed timestamp item item') := by
    intro item hitem item' hitem' hpath
    have hsize := (h.proper item hitem).size
    have hsize' := (h'.proper item' hitem').size
    rw [hvalue h item hitem, hpath, hvalue h' item' hitem', isClose, Changed, Bool.and_eq_true, beq_iff_eq,
      decide_eq_true_eq, not_or, not_ne_iff, not_le]
    refine and_congr_left fun _ ↦ ?_
    omega
  rw [differences_eq, estimate, ← Set.ncard_coe_finset]
  congr 1
  ext path
  simp only [Renaming.differing, Renaming.agreeing, Finset.coe_sdiff, Set.mem_sdiff, Finset.mem_coe,
    Finset.mem_union, Finset.mem_filter, Finset.mem_inter, hnames, Set.mem_ofPred_eq, Differs]
  by_cases hpath : path ∈ items.map LsjsonItem.path
  · by_cases hpath' : path ∈ items'.map LsjsonItem.path
    · obtain ⟨item, hitem, rfl⟩ := List.mem_map.mp hpath
      obtain ⟨item', hitem', heq⟩ := List.mem_map.mp hpath'
      have hcloseItem := hclose item hitem item' hitem' heq.symm
      have honly : (∃ other ∈ items, ∃ other' ∈ items', other.path = item.path ∧ other'.path = item.path ∧
          Changed timestamp other other') ↔ Changed timestamp item item' := by
        constructor
        · rintro ⟨other, hother, other', hother', hsame, hsame', hchanged⟩
          obtain rfl := List.inj_on_of_nodup_map h.nodup hother hitem hsame
          obtain rfl := List.inj_on_of_nodup_map h'.nodup hother' hitem' (hsame'.trans heq.symm)
          exact hchanged
        · exact fun hchanged ↦ ⟨item, hitem, item', hitem', rfl, heq, hchanged⟩
      rw [honly, hcloseItem]
      simp [hpath, hpath']
    · simp [hpath, hpath']
  · by_cases hpath' : path ∈ items'.map LsjsonItem.path
    · simp [hpath, hpath']
    · have hnone : ¬∃ item ∈ items, ∃ item' ∈ items', item.path = path ∧ item'.path = path ∧
          Changed timestamp item item' := by
        rintro ⟨item, hitem, -, -, hsame, -⟩
        exact hpath (List.mem_map.mpr ⟨item, hitem, hsame⟩)
      simp only [hpath, hpath', hnone, or_self, false_and, and_false]

theorem differs_comm (items items' : List LsjsonItem) (path : String) :
    Differs timestamp items items' path ↔ Differs timestamp items' items path := by
  have hchanged (item item' : LsjsonItem) :
      Changed timestamp item item' ↔ Changed timestamp item' item := by
    rw [Changed, Changed, abs_sub_comm, ne_comm]
  have hdirection : ∀ items items' : List LsjsonItem,
      Differs timestamp items items' path → Differs timestamp items' items path := by
    rintro items items' (⟨hmem, hnot⟩ | ⟨hnot, hmem⟩ | ⟨item, hitem, item', hitem', hsame, hsame', h⟩)
    · exact .inr (.inl ⟨hnot, hmem⟩)
    · exact .inl ⟨hmem, hnot⟩
    · exact .inr (.inr ⟨item', hitem', item, hitem, hsame', hsame, (hchanged item item').mp h⟩)
  exact ⟨hdirection _ _, hdirection _ _⟩

theorem estimate_comm (items items' : List LsjsonItem) :
    estimate timestamp items items' = estimate timestamp items' items := by
  rw [estimate, estimate]
  congr 1
  ext path
  exact differs_comm timestamp items items' path

/-! ## Rewritten listings -/

/-- The same entry, its time perhaps written in another zone. -/
structure SameEntry (item item' : LsjsonItem) : Prop where
  path : item'.path = item.path
  size : item'.size = item.size
  isDir : item'.isDir = item.isDir
  time : timestamp item'.modTime = timestamp item.modTime

/-- The entries in another order, with times in other zones. -/
def Rewrites (items items' : List LsjsonItem) : Prop :=
  ∃ middle, items.Perm middle ∧ List.Forall₂ (SameEntry timestamp) middle items'

variable {timestamp} {items items' : List LsjsonItem}

theorem Rewrites.exists_same (h : Rewrites timestamp items items') :
    ∀ item ∈ items, ∃ item' ∈ items', SameEntry timestamp item item' := by
  obtain ⟨middle, hperm, hsame⟩ := h
  intro item hitem
  replace hitem := hperm.mem_iff.mp hitem
  clear hperm
  induction hsame with
  | nil => cases hitem
  | @cons first first' _ _ hfirst _ ih =>
      rcases List.mem_cons.mp hitem with rfl | hrest
      · exact ⟨first', List.mem_cons_self, hfirst⟩
      · obtain ⟨item', hmem, hitem'⟩ := ih hrest
        exact ⟨item', List.mem_cons_of_mem _ hmem, hitem'⟩

theorem Rewrites.symm (h : Rewrites timestamp items items') : Rewrites timestamp items' items := by
  obtain ⟨middle, hperm, hsame⟩ := h
  obtain ⟨middle', hsame', hperm'⟩ := List.perm_comp_forall₂ hperm hsame
  exact ⟨middle', hperm'.symm, hsame'.flip.imp fun _ _ h ↦ ⟨h.path.symm, h.size.symm, h.isDir.symm, h.time.symm⟩⟩

theorem Rewrites.paths_perm (h : Rewrites timestamp items items') :
    (items.map LsjsonItem.path).Perm (items'.map LsjsonItem.path) := by
  obtain ⟨middle, hperm, hsame⟩ := h
  have hpaths : middle.map LsjsonItem.path = items'.map LsjsonItem.path := by
    induction hsame generalizing items with
    | nil => rfl
    | cons hfirst _ ih => rw [List.map_cons, List.map_cons, ih (List.Perm.refl _), hfirst.path]
  exact hpaths ▸ hperm.map _

theorem Rewrites.isProper (h : Rewrites timestamp items items') (hproper : IsProper timestamp items) :
    IsProper timestamp items' := by
  refine ⟨fun item' hitem' ↦ ?_, h.paths_perm.nodup_iff.mp hproper.nodup⟩
  obtain ⟨item, hitem, hsame⟩ := h.symm.exists_same item' hitem'
  have hfile := hproper.proper item hitem
  exact ⟨hsame.isDir.symm.trans hfile.isFile, hsame.path ▸ hfile.path, hsame.size ▸ hfile.size,
    hsame.time ▸ hfile.time⟩

theorem Rewrites.isProper_iff (h : Rewrites timestamp items items') :
    IsProper timestamp items ↔ IsProper timestamp items' :=
  ⟨h.isProper, h.symm.isProper⟩

theorem Rewrites.differs {others others' : List LsjsonItem} {path : String}
    (h : Rewrites timestamp items items') (h' : Rewrites timestamp others others')
    (hdiffers : Differs timestamp items others path) : Differs timestamp items' others' path := by
  have hmem := h.paths_perm.mem_iff (a := path)
  have hmem' := h'.paths_perm.mem_iff (a := path)
  rcases hdiffers with ⟨hin, hout⟩ | ⟨hout, hin⟩ | ⟨item, hitem, other, hother, hpath, hpath', hchanged⟩
  · exact .inl ⟨hmem.mp hin, fun hback ↦ hout (hmem'.mpr hback)⟩
  · exact .inr (.inl ⟨fun hback ↦ hout (hmem.mpr hback), hmem'.mp hin⟩)
  · obtain ⟨item', hitem', hsame⟩ := h.exists_same item hitem
    obtain ⟨other', hother', hsame'⟩ := h'.exists_same other hother
    refine .inr (.inr ⟨item', hitem', other', hother', hsame.path.trans hpath, hsame'.path.trans hpath', ?_⟩)
    rwa [Changed, hsame.size, hsame'.size, hsame.time, hsame'.time]

theorem Rewrites.estimate {others others' : List LsjsonItem} (h : Rewrites timestamp items items')
    (h' : Rewrites timestamp others others') :
    estimate timestamp items' others' = Preview.estimate timestamp items others := by
  rw [Preview.estimate, Preview.estimate]
  congr 1
  ext path
  exact ⟨fun hpath ↦ h.symm.differs h'.symm hpath, fun hpath ↦ h.differs h' hpath⟩

/-! ## The preview -/

variable {json : SerdeJson} {remote local' : String}

open scoped Classical in
theorem inventory_eq (h : IsLsjson json remote items) :
    inventory json timestamp remote =
      if IsProper timestamp items then .ok (inventoryMap timestamp (itemsOfListing items))
      else .error responseIncomplete := by
  obtain ⟨values, hparse, hprints⟩ := h
  rw [inventory, hparse]
  dsimp only
  rw [itemsOf_prints hprints]
  by_cases hsizes : ∀ item ∈ items, 0 ≤ item.size
  · rw [if_pos hsizes]
    have hiff : IsProper timestamp items ↔ IsSound timestamp (itemsOfListing items) := by
      rw [Preview.isProper_iff, and_iff_right hsizes]
    rw [if_congr hiff rfl rfl]
    exact inventoryOf_eq timestamp _
  · have hnot : ¬IsProper timestamp items := fun h ↦ hsizes fun item hitem ↦ (h.proper item hitem).size
    rw [if_neg hsizes, if_neg hnot]

open scoped Classical in
theorem previewInventoryDifference_eq (h : IsLsjson json remote items) (h' : IsLsjson json local' items') :
    previewInventoryDifference json timestamp remote local' =
      if IsProper timestamp items ∧ IsProper timestamp items' then .ok (estimate timestamp items items')
      else .error responseIncomplete := by
  rw [previewInventoryDifference, inventory_eq h, inventory_eq h']
  by_cases hproper : IsProper timestamp items
  · by_cases hproper' : IsProper timestamp items'
    · rw [if_pos hproper, if_pos hproper', if_pos ⟨hproper, hproper'⟩, ← differences_eq_estimate timestamp hproper hproper']
      rfl
    · have hboth : ¬(IsProper timestamp items ∧ IsProper timestamp items') := fun h ↦ hproper' h.2
      rw [if_pos hproper, if_neg hproper', if_neg hboth]
      rfl
  · have hboth : ¬(IsProper timestamp items ∧ IsProper timestamp items') := fun h ↦ hproper h.1
    rw [if_neg hproper, if_neg hboth]
    rfl

/-- The estimate is the number of paths that differ, in whatever order and zone
the listings are written and whichever side is which. -/
theorem previewInventoryDifference_spec (h : IsLsjson json remote items) (h' : IsLsjson json local' items') :
    (∀ n, previewInventoryDifference json timestamp remote local' = .ok n ↔
      IsProper timestamp items ∧ IsProper timestamp items' ∧ n = estimate timestamp items items') ∧
    (∀ rewritten rewritten' others others', IsLsjson json rewritten others → IsLsjson json rewritten' others' →
      Rewrites timestamp items others → Rewrites timestamp items' others' →
        previewInventoryDifference json timestamp rewritten rewritten' =
          previewInventoryDifference json timestamp remote local') ∧
    previewInventoryDifference json timestamp local' remote =
      previewInventoryDifference json timestamp remote local' := by
  classical
  refine ⟨fun n ↦ ?_, ?_, ?_⟩
  · rw [previewInventoryDifference_eq h h']
    by_cases hproper : IsProper timestamp items ∧ IsProper timestamp items'
    · rw [if_pos hproper, Except.ok.injEq, ← and_assoc, and_iff_right hproper, eq_comm]
    · rw [if_neg hproper]
      constructor
      · intro hcontra
        cases hcontra
      · exact fun hok ↦ absurd ⟨hok.1, hok.2.1⟩ hproper
  · intro rewritten rewritten' others others' hothers hothers' hrewrites hrewrites'
    rw [previewInventoryDifference_eq h h', previewInventoryDifference_eq hothers hothers',
      hrewrites.estimate hrewrites', if_congr (and_congr hrewrites.isProper_iff hrewrites'.isProper_iff) rfl rfl]
  · rw [previewInventoryDifference_eq h h', previewInventoryDifference_eq h' h, estimate_comm,
      if_congr and_comm rfl rfl]

end Proper

def printed (item : LsjsonItem) : Value :=
  .ofFields [("Path", .string item.path), ("Size", .number (sizeNumber item.size)),
    ("ModTime", .string item.modTime), ("IsDir", .bool item.isDir)]

theorem prints_printed (item : LsjsonItem) : Prints (printed item) item where
  isObject := ⟨_, rfl, show ["Path", "Size", "ModTime", "IsDir"].Nodup by decide⟩
  path := rfl
  size := rfl
  modTime := rfl
  isDir := rfl

def sampleRemote : List LsjsonItem := [⟨"a.txt", 1, "2026-01-01T01:00:00+01:00", false⟩]

def sampleLocal : List LsjsonItem :=
  [⟨"notes/b.txt", 2, "2026-01-01T00:00:00Z", false⟩, ⟨"a.txt", 1, "2026-01-01T00:00:00Z", false⟩]

def entryText (item : LsjsonItem) : String :=
  "\x7b\"Path\":\"" ++ item.path ++ "\",\"Size\":" ++ toString item.size ++ ",\"ModTime\":\"" ++ item.modTime ++
    "\",\"IsDir\":false\x7d"

def listingText (items : List LsjsonItem) : String := "[" ++ ",".intercalate (items.map entryText) ++ "]"

def listed (items : List LsjsonItem) : Value := .array (items.foldr (fun item ↦ .cons (printed item)) .nil)

theorem isLsjson_of_listed {json : SerdeJson} {text : String} {items : List LsjsonItem}
    (h : json.fromStr text = .ok (listed items)) : IsLsjson json text items := by
  refine ⟨_, h, ?_⟩
  clear h
  induction items with
  | nil => exact .nil
  | cons item _ ih => exact .cons (prints_printed item) ih

/-- A parser that knows two listings. -/
def listingJson : SerdeJson where
  fromStr text :=
    match [sampleRemote, sampleLocal].find? (listingText · == text) with
    | some items => .ok (listed items)
    | none => .error "expected value at line 1 column 1"
  toString _ := "null"

def listingTimestamp (text : String) : Option Int :=
  if text ∈ ["2026-01-01T01:00:00+01:00", "2026-01-01T00:00:00Z"] then some 1767225600000000000 else none

theorem previewInventoryDifference_sample :
    previewInventoryDifference listingJson listingTimestamp (listingText sampleLocal)
        (listingText sampleRemote) = .ok 1 ∧
      estimate listingTimestamp sampleRemote sampleLocal = 1 := by
  have hremote : IsLsjson listingJson (listingText sampleRemote) sampleRemote := by
    have hfind : [sampleRemote, sampleLocal].find? (listingText · == listingText sampleRemote) = some sampleRemote := by
      decide +kernel
    apply isLsjson_of_listed
    simp only [listingJson, hfind]
  have hlocal : IsLsjson listingJson (listingText sampleLocal) sampleLocal := by
    have hfind : [sampleRemote, sampleLocal].find? (listingText · == listingText sampleLocal) = some sampleLocal := by
      decide +kernel
    apply isLsjson_of_listed
    simp only [listingJson, hfind]
  have hrun : previewInventoryDifference listingJson listingTimestamp (listingText sampleRemote)
      (listingText sampleLocal) = .ok 1 := by
    decide +kernel
  have hspec := @previewInventoryDifference_spec listingTimestamp _ _ _ _ _ hremote hlocal
  exact ⟨hspec.2.2.trans hrun, ((hspec.1 1).mp hrun).2.2.symm⟩

end CosmicMounter.Preview
