import CosmicMounter.Sync.Plan

/-!
# Normalized directories

How the configuration compares directories (`config.rs`): absolute paths are
rid of their `.` and `..` components without looking at the file system.
-/

namespace CosmicMounter

open Rust

namespace Config

/-- A `..` takes the last name away, and there must be one. -/
def normalizeComponent (normalized : String) : Component → Option String
  | .rootDir | .curDir => some normalized
  | .normal part => some (Path.join normalized part)
  | .parentDir => Path.parent normalized

def normalizeAbsolute (path : String) : Option String :=
  if Path.isAbsolute path then (Path.components path).foldlM normalizeComponent "/" else none

/-- The same test as `sync.rs` has. -/
def pathsOverlap (first second : String) : Bool := CosmicMounter.pathsOverlap first second

def unsafeTrees : List String :=
  ["/", "/bin", "/boot", "/dev", "/etc", "/lib", "/lib64", "/proc", "/root", "/run", "/sbin",
    "/sys", "/usr", "/var"]

def isUnsafeSystemPath (path : String) : Bool :=
  unsafeTrees.any fun unsafePath ↦ decide (Path.Same path unsafePath) ||
    (decide (¬Path.Same unsafePath "/") && Path.startsWith unsafePath path)

/-! ## Names of a normalized path -/

/-- The text of the absolute path with these names. -/
def absolute (names : List String) : String := Path.render (.rootDir :: names.map .normal)

theorem absolute_eq (names : List String) : absolute names = "/" ++ Str.join "/" names := by
  rw [absolute, Path.render, List.map_map]
  congr 1
  congr 1
  exact List.map_id'' (fun _ ↦ rfl) names

theorem components_absolute {names : List String} (h : ∀ name ∈ names, Path.IsName name) :
    Path.components (absolute names) = .rootDir :: names.map .normal := by
  have hroot : Path.hasRoot (absolute names) = true := by
    rw [absolute_eq, Path.hasRoot_append (by decide)]
    rfl
  have hsplit : Str.split '/' (absolute names) = "" :: Str.split '/' (Str.join "/" names) := by
    have hempty : Str.split '/' "" = [""] := by decide
    rw [absolute_eq, ← List.singleton_append, ← hempty]
    exact Path.split_append_cons '/' "" _
  rw [Path.components, hroot, hsplit]
  by_cases hnil : names = []
  · subst hnil
    decide
  · have hnames : Str.split '/' (Str.join "/" names) = names :=
      Str.split_join (fun name hname ↦ (h name hname).noSlash) hnil
    have hcomponents : names.filterMap Path.component? = names.map .normal := by
      rw [← List.filterMap_eq_map]
      exact List.filterMap_congr fun name hname ↦ (h name hname).component?
    rw [hnames, Path.ofParts, if_pos rfl]
    exact congrArg _ hcomponents

theorem component?_eq_normal {part name : String}
    (h : Path.component? part = some (.normal name)) :
    part = name ∧ name ≠ "" ∧ name ≠ "." ∧ name ≠ ".." := by
  unfold Path.component? at h
  by_cases hplain : part = "" ∨ part = "."
  · rw [if_pos hplain] at h
    cases h
  · by_cases hdots : part = ".."
    · rw [if_neg hplain, if_pos hdots] at h
      cases h
    · rw [if_neg hplain, if_neg hdots] at h
      obtain rfl := Component.normal.inj (Option.some.inj h)
      push Not at hplain
      exact ⟨rfl, hplain.1, hplain.2, hdots⟩

/-- The ordinary components of a path are file names. -/
theorem isName_of_mem_components {p name : String} (h : .normal name ∈ Path.components p) :
    Path.IsName name := by
  have hparts (parts : List String) (hsplit : ∀ part ∈ parts, part ∈ Str.split '/' p)
      (hmem : .normal name ∈ parts.filterMap Path.component?) : Path.IsName name := by
    obtain ⟨part, hpart, hcomponent⟩ := List.mem_filterMap.mp hmem
    obtain ⟨rfl, hempty, hdot, hdots⟩ := component?_eq_normal hcomponent
    exact ⟨Str.notMem_of_mem_split (hsplit part hpart), hempty, hdot, hdots⟩
  unfold Path.components Path.ofParts at h
  split_ifs at h
  · exact hparts _ (fun _ hpart ↦ hpart) ((List.mem_cons.mp h).resolve_left Component.noConfusion)
  · exact hparts _ (fun _ hpart ↦ List.mem_of_mem_tail hpart)
      ((List.mem_cons.mp h).resolve_left Component.noConfusion)
  · exact hparts _ (fun _ hpart ↦ hpart) h

theorem exists_absolute_append (before : List String) (last : String) :
    ∃ base, absolute (before ++ [last]) = base ++ last := by
  rw [absolute_eq]
  by_cases hnil : before = []
  · subst hnil
    exact ⟨"/", by simp⟩
  · rw [Str.join_append_singleton hnil]
    exact ⟨"/" ++ (Str.join "/" before ++ "/"), by simp [String.append_assoc]⟩

theorem join_absolute {names : List String} {name : String}
    (hnames : ∀ name ∈ names, Path.IsName name) (hname : Path.IsName name) :
    Path.join (absolute names) name = absolute (names ++ [name]) := by
  rw [Path.join, hname.not_hasRoot, if_neg Bool.false_ne_true]
  rcases List.eq_nil_or_concat names with rfl | ⟨before, last, rfl⟩
  · have hroot : absolute [] = "/" := by decide
    have hslash : "/" = "" ∨ Str.endsWith "/" "/" = true := by decide
    rw [hroot, if_pos hslash, List.nil_append, absolute_eq, Str.join_singleton]
  · have hlast : Path.IsName last := hnames last (by simp)
    have hne : before.concat last ≠ [] := by simp
    have hslash : ¬(absolute (before.concat last) = "" ∨
        Str.endsWith "/" (absolute (before.concat last)) = true) := by
      obtain ⟨base, hbase⟩ := exists_absolute_append before last
      rw [List.concat_eq_append, hbase]
      rintro (hempty | hend)
      · have hparts : base = "" ∧ last = "" := by simpa using hempty
        exact hlast.notEmpty hparts.2
      · obtain ⟨text, htext⟩ := Path.endsWith_slash_iff.mp hend
        have hchars : base.toList ++ last.toList = text.toList ++ ['/'] := by
          simpa using congrArg String.toList htext
        have hlastChar : last.toList.getLast? = some '/' := by
          have hne : last.toList ≠ [] := by simpa using hlast.notEmpty
          rw [← List.getLast?_append_of_ne_nil base.toList hne, hchars, List.getLast?_concat]
        exact hlast.noSlash (List.mem_of_getLast? hlastChar)
    rw [if_neg hslash, absolute_eq, absolute_eq, Str.join_append_singleton hne]
    simp [String.append_assoc]

/-- The names that are left when every `..` has taken one away. -/
def resolve : List String → List Component → Option (List String)
  | names, [] => some names
  | names, .rootDir :: rest => resolve names rest
  | names, .curDir :: rest => resolve names rest
  | names, .normal name :: rest => resolve (names ++ [name]) rest
  | names, .parentDir :: rest => if names = [] then none else resolve names.dropLast rest

theorem foldlM_normalizeComponent {components : List Component} {names : List String}
    (hcomponents : ∀ name, .normal name ∈ components → Path.IsName name)
    (hnames : ∀ name ∈ names, Path.IsName name) :
    components.foldlM normalizeComponent (absolute names) =
      (resolve names components).map absolute := by
  induction components generalizing names with
  | nil => rfl
  | cons component rest ih =>
      have hrest : ∀ name, .normal name ∈ rest → Path.IsName name :=
        fun name hname ↦ hcomponents name (List.mem_cons_of_mem _ hname)
      rw [List.foldlM_cons]
      cases component with
      | rootDir => exact ih hrest hnames
      | curDir => exact ih hrest hnames
      | normal name =>
          have hname := hcomponents name List.mem_cons_self
          rw [normalizeComponent, join_absolute hnames hname]
          exact ih hrest (by simpa [or_imp, forall_and, hname] using hnames)
      | parentDir =>
          rw [normalizeComponent, Path.parent, components_absolute hnames]
          rcases List.eq_nil_or_concat names with rfl | ⟨before, last, rfl⟩
          · rfl
          · have hbefore : ∀ name ∈ before, Path.IsName name :=
              fun name hname ↦ hnames name (by simp [hname])
            have hsplit : Component.rootDir :: (before.concat last).map .normal =
                (.rootDir :: before.map .normal) ++ [.normal last] := by simp
            rw [hsplit, List.getLast?_concat, List.dropLast_concat, resolve, if_neg (by simp),
              List.concat_eq_append, List.dropLast_concat]
            exact ih hrest hbefore

theorem normalizeAbsolute_eq {path : String} (h : Path.isAbsolute path = true) :
    normalizeAbsolute path = (resolve [] (Path.components path)).map absolute := by
  rw [normalizeAbsolute, if_pos h]
  have hroot : absolute [] = "/" := by decide
  rw [← hroot]
  exact foldlM_normalizeComponent (fun name hname ↦ isName_of_mem_components hname)
    fun name hname ↦ absurd hname List.not_mem_nil

theorem isName_of_resolve {components : List Component} {names result : List String}
    (hcomponents : ∀ name, .normal name ∈ components → Path.IsName name)
    (hnames : ∀ name ∈ names, Path.IsName name) (h : resolve names components = some result) :
    ∀ name ∈ result, Path.IsName name := by
  induction components generalizing names with
  | nil =>
      obtain rfl := Option.some.inj h
      exact hnames
  | cons component rest ih =>
      have hrest : ∀ name, .normal name ∈ rest → Path.IsName name :=
        fun name hname ↦ hcomponents name (List.mem_cons_of_mem _ hname)
      cases component with
      | rootDir => exact ih hrest hnames h
      | curDir => exact ih hrest hnames h
      | normal name =>
          have hname := hcomponents name List.mem_cons_self
          exact ih hrest (by simpa [or_imp, forall_and, hname] using hnames) h
      | parentDir =>
          rw [resolve] at h
          split_ifs at h
          exact ih hrest (fun name hname ↦ hnames name (List.mem_of_mem_dropLast hname)) h

/-- A normalized path is an absolute path made of file names. -/
theorem normalizeAbsolute_eq_some {path normalized : String}
    (h : normalizeAbsolute path = some normalized) :
    Path.isAbsolute path = true ∧ ∃ names, resolve [] (Path.components path) = some names ∧
      normalized = absolute names ∧ ∀ name ∈ names, Path.IsName name := by
  have habsolute : Path.isAbsolute path = true := by
    by_contra hrelative
    rw [normalizeAbsolute, if_neg hrelative] at h
    cases h
  rw [normalizeAbsolute_eq habsolute] at h
  obtain ⟨names, hnames, rfl⟩ := Option.map_eq_some_iff.mp h
  refine ⟨habsolute, names, hnames, rfl, isName_of_resolve ?_ ?_ hnames⟩
  · exact fun name hname ↦ isName_of_mem_components hname
  · exact fun name hname ↦ absurd hname List.not_mem_nil

theorem isAbsolute_absolute (names : List String) : Path.isAbsolute (absolute names) = true := by
  rw [Path.isAbsolute, absolute_eq, Path.hasRoot_append (by decide)]
  rfl

theorem pathsOverlap_iff {first second : String} :
    pathsOverlap first second = true ↔
      Path.components first <+: Path.components second ∨
        Path.components second <+: Path.components first := by
  rw [pathsOverlap, CosmicMounter.pathsOverlap, Bool.or_eq_true, Bool.or_eq_true,
    decide_eq_true_eq, Path.startsWith, Path.startsWith, List.isPrefixOf_iff_prefix,
    List.isPrefixOf_iff_prefix]
  constructor
  · rintro ((hsame | hsecond) | hfirst)
    · rw [Path.Same] at hsame
      exact .inl (hsame ▸ List.prefix_refl _)
    · exact .inr hsecond
    · exact .inl hfirst
  · rintro (hfirst | hsecond)
    · exact .inr hfirst
    · exact .inl (.inr hsecond)

theorem pathsOverlap_comm (first second : String) :
    pathsOverlap first second = pathsOverlap second first := by
  rw [Bool.eq_iff_iff, pathsOverlap_iff, pathsOverlap_iff, or_comm]

/-- Outside the trees of the system, in either direction; the root is one of them. -/
def OutsideSystemTrees (path : String) : Prop :=
  ¬Path.Same path "/" ∧
    ∀ tree ∈ unsafeTrees, ¬Path.Same tree "/" → pathsOverlap path tree = false

/-- The test looks inside the trees only, but nothing but the root is above them. -/
theorem outsideSystemTrees_of_not_unsafe {names : List String}
    (hnames : ∀ name ∈ names, Path.IsName name)
    (h : isUnsafeSystemPath (absolute names) = false) : OutsideSystemTrees (absolute names) := by
  simp only [isUnsafeSystemPath, List.any_eq_false, Bool.or_eq_true, Bool.and_eq_true,
    decide_eq_true_eq, not_or, not_and] at h
  have hroot : ¬Path.Same (absolute names) "/" := (h "/" (by decide)).1
  refine ⟨hroot, fun tree htree hne ↦ ?_⟩
  obtain ⟨hsame, hinside⟩ := h tree htree
  have hsingle : ∀ tree ∈ unsafeTrees, ¬Path.Same tree "/" →
      ∃ name, Path.components tree = [.rootDir, .normal name] := by
    intro tree htree hne
    have hshape : ∀ tree ∈ unsafeTrees, Path.components tree = [.rootDir] ∨
        Path.components tree = [.rootDir, .normal ((Str.stripPrefix "/" tree).getD "")] := by
      decide
    rcases hshape tree htree with hshape | hshape
    · exact absurd (hshape.trans (by decide)) hne
    · exact ⟨_, hshape⟩
  obtain ⟨name, hname⟩ := hsingle tree htree hne
  rw [← Bool.not_eq_true, pathsOverlap_iff]
  rintro (hbelow | habove)
  · rw [components_absolute hnames, hname, List.cons_prefix_cons] at hbelow
    have hshort := hbelow.2.length_le
    simp only [List.length_map, List.length_singleton] at hshort
    cases names with
    | nil => exact hroot (by decide)
    | cons first rest =>
        obtain rfl : rest = [] := by simpa using hshort
        apply hsame
        rw [Path.Same, components_absolute hnames, hname]
        simpa using hbelow.2
  · apply hinside hne
    rw [Path.startsWith, List.isPrefixOf_iff_prefix]
    exact habove

/-- The names among the components. -/
def namesOf (components : List Component) : List String :=
  components.filterMap fun component ↦ match component with
    | .normal name => some name
    | _ => none

theorem resolve_of_no_parentDir {components : List Component} {names : List String}
    (h : .parentDir ∉ components) :
    resolve names components = some (names ++ namesOf components) := by
  induction components generalizing names with
  | nil => simp [resolve, namesOf]
  | cons component rest ih =>
      have hrest : .parentDir ∉ rest := fun hmem ↦ h (List.mem_cons_of_mem _ hmem)
      cases component with
      | rootDir | curDir => exact ih hrest
      | normal name =>
          rw [resolve, ih hrest, namesOf, namesOf]
          simp
      | parentDir => exact absurd List.mem_cons_self h

theorem map_namesOf {components : List Component} (h : ∀ c ∈ components, ∃ name, c = .normal name) :
    (namesOf components).map .normal = components := by
  induction components with
  | nil => rfl
  | cons component rest ih =>
      obtain ⟨name, rfl⟩ := h component List.mem_cons_self
      have hrest := ih fun c hc ↦ h c (List.mem_cons_of_mem _ hc)
      simpa [namesOf] using hrest

/-- Without a `..` normalizing changes the text at most. -/
theorem components_normalized {path : String} (h : Path.isAbsolute path = true)
    (hparent : .parentDir ∉ Path.components path) :
    ∃ normalized, normalizeAbsolute path = some normalized ∧
      Path.components normalized = Path.components path := by
  have hsplit : Path.components path =
      .rootDir :: (Str.split '/' path).filterMap Path.component? := by
    rw [Path.components, Path.ofParts]
    exact if_pos h
  have hnormal : ∀ c ∈ (Str.split '/' path).filterMap Path.component?, ∃ name, c = .normal name := by
    intro c hc
    obtain ⟨part, -, hpart⟩ := List.mem_filterMap.mp hc
    unfold Path.component? at hpart
    by_cases hplain : part = "" ∨ part = "."
    · rw [if_pos hplain] at hpart
      cases hpart
    · by_cases hdots : part = ".."
      · rw [if_neg hplain, if_pos hdots] at hpart
        obtain rfl := Option.some.inj hpart
        rw [hsplit] at hparent
        exact absurd (List.mem_cons_of_mem _ hc) hparent
      · rw [if_neg hplain, if_neg hdots] at hpart
        exact ⟨part, (Option.some.inj hpart).symm⟩
  have hnames : namesOf (Path.components path) =
      namesOf ((Str.split '/' path).filterMap Path.component?) := by
    rw [hsplit]
    rfl
  refine ⟨absolute (namesOf (Path.components path)), ?_, ?_⟩
  · rw [normalizeAbsolute_eq h, resolve_of_no_parentDir hparent, List.nil_append]
    rfl
  · rw [components_absolute, hnames, map_namesOf hnormal, ← hsplit]
    intro name hname
    obtain ⟨c, hc, hcomponent⟩ := List.mem_filterMap.mp hname
    cases c with
    | normal part =>
        obtain rfl := Option.some.inj hcomponent
        exact isName_of_mem_components hc
    | rootDir | curDir | parentDir => cases hcomponent

end Config
end CosmicMounter
