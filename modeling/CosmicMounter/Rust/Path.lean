import CosmicMounter.Rust.Str

/-!
# Unix paths

`std::path` on Unix, for paths that are valid UTF-8.  Equality and prefix of
paths go by components: repeated separators, trailing separators and inner
`.` components do not count.
-/

namespace Rust

inductive Component
  | rootDir
  | curDir
  | parentDir
  | normal (name : String)
  deriving DecidableEq, Repr

namespace Path

def hasRoot (p : String) : Bool := Str.startsWith "/" p

def isAbsolute (p : String) : Bool := hasRoot p

/-- The component a piece between separators stands for, if any. -/
def component? (part : String) : Option Component :=
  if part = "" ∨ part = "." then none
  else if part = ".." then some .parentDir
  else some (.normal part)

def ofParts (rooted : Bool) (parts : List String) : List Component :=
  if rooted then .rootDir :: parts.filterMap component?
  else if parts.head? = some "." then .curDir :: parts.tail.filterMap component?
  else parts.filterMap component?

def components (p : String) : List Component := ofParts (hasRoot p) (Str.split '/' p)

/-- Component-wise equality, Rust's `==` on paths. -/
def Same (p q : String) : Prop := components p = components q

instance (p q : String) : Decidable (Same p q) := inferInstanceAs (Decidable (_ = _))

def startsWith (base p : String) : Bool := (components base).isPrefixOf (components p)

def join (base p : String) : String :=
  if hasRoot p then p
  else if base = "" ∨ Str.endsWith "/" base then base ++ p
  else base ++ "/" ++ p

/-- The text of a component list. -/
def render : List Component → String
  | [] => ""
  | .rootDir :: rest => "/" ++ Str.join "/" (rest.map piece)
  | comps => Str.join "/" (comps.map piece)
where
  piece : Component → String
    | .rootDir => ""
    | .curDir => "."
    | .parentDir => ".."
    | .normal name => name

def parent (p : String) : Option String :=
  match (components p).getLast? with
  | none | some .rootDir => none
  | some _ => some (render (components p).dropLast)

def fileName (p : String) : Option String :=
  match (components p).getLast? with
  | some (.normal name) => some name
  | _ => none

/-! ## Plain names -/

/-- A file name: one ordinary component. -/
structure IsName (name : String) : Prop where
  noSlash : '/' ∉ name.toList
  notEmpty : name ≠ ""
  notDot : name ≠ "."
  notDots : name ≠ ".."

instance (name : String) : Decidable (IsName name) :=
  decidable_of_iff ('/' ∉ name.toList ∧ name ≠ "" ∧ name ≠ "." ∧ name ≠ "..")
    ⟨fun ⟨a, b, c, d⟩ ↦ ⟨a, b, c, d⟩, fun ⟨a, b, c, d⟩ ↦ ⟨a, b, c, d⟩⟩

theorem IsName.component? {name : String} (h : IsName name) :
    component? name = some (.normal name) := by
  simp [Path.component?, h.notEmpty, h.notDot, h.notDots]

theorem IsName.split {name : String} (h : IsName name) : Str.split '/' name = [name] := by
  simp [Str.split, List.splitOn_eq_singleton h.noSlash]

theorem IsName.not_hasRoot {name : String} (h : IsName name) : hasRoot name = false := by
  rw [← Bool.not_eq_true, hasRoot, Str.startsWith_iff]
  rintro ⟨rest, hrest⟩
  exact h.noSlash (by rw [← hrest]; simp)

theorem IsName.components {name : String} (h : IsName name) :
    components name = [.normal name] := by
  rw [Path.components, h.split, ofParts]
  simp [h.not_hasRoot, h.notDot, h.component?]

theorem split_ne_nil (c : Char) (s : String) : Str.split c s ≠ [] := by
  simp [Str.split]

theorem split_append_cons (c : Char) (s t : String) :
    Str.split c (s ++ c.toString ++ t) = Str.split c s ++ Str.split c t := by
  have h : (s ++ c.toString ++ t).toList = s.toList ++ c :: t.toList := by simp
  rw [Str.split, h, List.splitOn_append_cons_self, List.map_append, Str.split, Str.split]

theorem ofParts_append {rooted : Bool} {ps : List String} (hps : ps ≠ []) (qs : List String) :
    ofParts rooted (ps ++ qs) = ofParts rooted ps ++ qs.filterMap component? := by
  cases ps with
  | nil => exact absurd rfl hps
  | cons p ps =>
      by_cases hp : p = "." <;> cases rooted <;>
        simp only [ofParts, hp, List.cons_append, List.head?_cons, List.tail_cons,
          ← List.filterMap_append, Option.some.injEq, if_true, if_false, Bool.false_eq_true]

theorem hasRoot_append {s : String} (hs : s ≠ "") (t : String) :
    hasRoot (s ++ t) = hasRoot s := by
  rw [Bool.eq_iff_iff, hasRoot, hasRoot, Str.startsWith_iff, Str.startsWith_iff]
  cases hl : s.toList with
  | nil => exact absurd (String.toList_eq_nil_iff.mp hl) hs
  | cons c cs => simp [hl]

/-- Appending a separator and a name appends one component. -/
theorem components_append_name {base name : String} (hbase : base ≠ "") (h : IsName name) :
    components (base ++ "/" ++ name) = components base ++ [.normal name] := by
  have hsplit : Str.split '/' (base ++ "/" ++ name) = Str.split '/' base ++ [name] := by
    rw [← h.split]
    exact split_append_cons '/' base name
  rw [components, hsplit, ofParts_append (split_ne_nil _ _), String.append_assoc,
    hasRoot_append hbase, components]
  simp [h.component?]

/-- A trailing separator is no component. -/
theorem components_append_slash {base : String} (hbase : base ≠ "") :
    components (base ++ "/") = components base := by
  have hsplit : Str.split '/' (base ++ "/" ++ "") = Str.split '/' base ++ [""] :=
    split_append_cons '/' base ""
  rw [String.append_empty] at hsplit
  rw [components, hsplit, ofParts_append (split_ne_nil _ _), hasRoot_append hbase, components]
  simp [component?]

theorem endsWith_slash_iff {s : String} :
    Str.endsWith "/" s = true ↔ ∃ t : String, s = t ++ "/" := by
  simp only [Str.endsWith, List.isSuffixOf_iff_suffix]
  constructor
  · rintro ⟨t, ht⟩
    exact ⟨.ofList t, by rw [← String.toList_inj, ← ht]; simp⟩
  · rintro ⟨t, rfl⟩
    exact ⟨t.toList, by simp⟩

/-- Joining a name adds it as the last component, whatever the base. -/
theorem components_join {name : String} (h : IsName name) (base : String) :
    components (join base name) = components base ++ [.normal name] := by
  rw [join, h.not_hasRoot]
  by_cases hempty : base = ""
  · subst hempty
    rw [show components "" = [] by decide]
    simpa using h.components
  by_cases hslash : Str.endsWith "/" base
  · obtain ⟨t, rfl⟩ := endsWith_slash_iff.mp hslash
    by_cases ht : t = ""
    · have hsplit : Str.split '/' ("" ++ "/" ++ name) = [""] ++ [name] := by
        rw [← h.split]
        exact split_append_cons '/' "" name
      have hroot : components ("" ++ "/" ++ name) = components "/" ++ [.normal name] := by
        rw [components, hsplit, ofParts_append (by simp), String.empty_append,
          hasRoot_append (by decide)]
        simp only [List.filterMap_cons, h.component?, List.filterMap_nil]
        rfl
      subst ht
      rw [if_neg Bool.false_ne_true, if_pos (.inr hslash)]
      exact hroot
    · simpa [hslash, components_append_slash ht] using components_append_name ht h
  · simpa [hempty, hslash] using components_append_name hempty h

/-- A path that was joined with a name has a parent. -/
theorem exists_parent_join {name : String} (h : IsName name) (base : String) :
    ∃ directory, parent (join base name) = some directory := by
  simp [parent, components_join h]

theorem components_ne_nil_of_isAbsolute {p : String} (h : isAbsolute p = true) :
    ∃ rest, components p = .rootDir :: rest := by
  rw [isAbsolute] at h
  exact ⟨_, by rw [components, h]; rfl⟩

end Path

end Rust
