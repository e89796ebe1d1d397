/-
Module: Spacedrive.CustomUri.StdPath
Purpose: The part of Rust's `std::path` (Unix flavour) that the thumbnail route relies on:
  `Path::components`, `Path::join`, `Path::starts_with`, `Path::file_name` and
  `Path::extension`. A path is its byte string, here a list of characters, and `/` is the only
  separator. `Path::join` keeps `..` components and `Path::starts_with` compares components, so a
  path can pass a `starts_with` check and still name a file outside the directory; to say where a
  path really points, `lexicalNormal` gives its lexical normal form (`.` dropped, each `..`
  cancelling the component before it), which the standard library never computes.
  `components_join` is the compositional fact the guard's analysis rests on: joining a relative
  path appends its body components.
Trusted boundary: the Unix behaviour of `std::path` (`Components`, `PathBuf::push`,
  `iter_after`, `rsplit_file_at_dot`).
Main exports: Component, components, join, startsWith, fileName, extension, lexicalNormal,
  StrictlyInside, components_join, lexicalNormal_append_normal
-/
import Mathlib.Data.List.Basic

namespace Spacedrive.StdPath

/-- A path as its bytes; on Unix an `OsStr` is an arbitrary byte string. -/
abbrev PathBuf := List Char

/-- `std::path::Component` without the Windows prefix. -/
inductive Component where
  | rootDir
  | curDir
  | parentDir
  | normal (name : List Char)
deriving DecidableEq, Repr

/-- Split at the first separator: the first piece, and the pieces after it. -/
def splitFirst : List Char → List Char × List (List Char)
  | [] => ([], [])
  | c :: rest =>
      match splitFirst rest with
      | (piece, pieces) => if c = '/' then ([], piece :: pieces) else (c :: piece, pieces)

/-- The pieces between separators, empty ones included. -/
def pieces (path : PathBuf) : List (List Char) :=
  (splitFirst path).1 :: (splitFirst path).2

/-- `Components::parse_single_component` on Unix: empty pieces and `.` are skipped. -/
def parseSingleComponent : List Char → Option Component
  | [] => none
  | ['.'] => none
  | ['.', '.'] => some .parentDir
  | name => some (.normal name)

/-- The component `Components` yields before the body: the root of an absolute path, or the
`.` that a relative path starting with `./` (or equal to `.`) keeps (`include_cur_dir`). -/
def frontComponent : PathBuf → List Component
  | '/' :: _ => [.rootDir]
  | ['.'] => [.curDir]
  | '.' :: '/' :: _ => [.curDir]
  | _ => []

/-- The components parsed from the pieces of a path. -/
def bodyComponents (path : PathBuf) : List Component :=
  (pieces path).filterMap parseSingleComponent

/-- `Path::components`. -/
def components (path : PathBuf) : List Component :=
  frontComponent path ++ bodyComponents path

/-- `Path::join` (`PathBuf::push` on a copy): an absolute path replaces the base; otherwise a
separator is added unless the base is empty or already ends with one. -/
def join (base path : PathBuf) : PathBuf :=
  match path, base.getLast? with
  | '/' :: _, _ => path
  | _, none => path
  | _, some '/' => base ++ path
  | _, some _ => base ++ '/' :: path

/-- `Path::starts_with`: the base's components are a prefix of the path's (`iter_after`). -/
def startsWith (path base : PathBuf) : Bool :=
  (components base).isPrefixOf (components path)

/-- `Path::file_name`: the last component, when it is a normal one. -/
def fileName (path : PathBuf) : Option (List Char) :=
  match (components path).getLast? with
  | some (.normal name) => some name
  | _ => none

/-- The extension of a file name (`rsplit_file_at_dot` followed by `before.and(after)`): the
text after the last dot, provided some text precedes that dot; `..` has none. -/
def extensionOfName (name : List Char) : Option (List Char) :=
  if name = ['.', '.'] then none
  else
    match name.reverse.dropWhile (· ≠ '.') with
    | [] => none
    | [_] => none
    | _ => some (name.reverse.takeWhile (· ≠ '.')).reverse

/-- `Path::extension`. -/
def extension (path : PathBuf) : Option (List Char) :=
  (fileName path).bind extensionOfName

/-! ### Where a path points

The lexical normal form is a stack machine over components, the stack kept with its top first:
`.` is dropped, a root resets the stack, `..` pops a normal component, stays at the root, and
is kept when there is nothing to cancel.
-/

/-- One step of lexical normalisation. -/
def normalPush : List Component → Component → List Component
  | stack, .curDir => stack
  | _, .rootDir => [.rootDir]
  | .normal _ :: below, .parentDir => below
  | .rootDir :: below, .parentDir => .rootDir :: below
  | stack, .parentDir => .parentDir :: stack
  | stack, .normal name => .normal name :: stack

/-- The lexical normal form of a component list. -/
def normalForm (parts : List Component) : List Component :=
  (parts.foldl normalPush []).reverse

/-- The lexical normal form of a path. -/
def lexicalNormal (path : PathBuf) : List Component :=
  normalForm (components path)

/-- `path` names something strictly below `directory` once both are lexically normalised. -/
def StrictlyInside (directory path : PathBuf) : Prop :=
  lexicalNormal directory <+: lexicalNormal path ∧
    (lexicalNormal directory).length < (lexicalNormal path).length

instance (directory path : PathBuf) : Decidable (StrictlyInside directory path) :=
  inferInstanceAs (Decidable (_ ∧ _))

/-! ### Components of a joined path -/

theorem splitFirst_append_separator (front back : List Char) :
    splitFirst (front ++ '/' :: back) =
      ((splitFirst front).1, (splitFirst front).2 ++ pieces back) := by
  induction front with
  | nil => simp [splitFirst, pieces]
  | cons c front ih =>
      rw [List.cons_append, splitFirst, splitFirst, ih]
      by_cases separator : c = '/' <;> simp [separator]

theorem pieces_append_separator (front back : List Char) :
    pieces (front ++ '/' :: back) = pieces front ++ pieces back := by
  simp [pieces, splitFirst_append_separator]

theorem bodyComponents_append_separator (front back : List Char) :
    bodyComponents (front ++ '/' :: back) = bodyComponents front ++ bodyComponents back := by
  simp [bodyComponents, pieces_append_separator]

@[simp] theorem bodyComponents_nil : bodyComponents [] = [] := rfl

@[simp] theorem components_nil : components [] = [] := rfl

theorem frontComponent_append_separator (front back : List Char) :
    frontComponent (front ++ '/' :: back) = frontComponent (front ++ ['/']) := by
  -- `frontComponent` reads at most two characters: split on them
  match front with
  | [] => rfl
  | [c] => by_cases root : c = '/' <;> by_cases dot : c = '.' <;> simp_all [frontComponent]
  | c :: d :: rest =>
      by_cases root : c = '/' <;> by_cases dot : c = '.' <;> by_cases separator : d = '/' <;>
        simp_all [frontComponent]

theorem frontComponent_append_of_ne_nil {front : List Char} (nonempty : front ≠ [])
    (back : List Char) :
    frontComponent (front ++ '/' :: back) = frontComponent front := by
  rw [frontComponent_append_separator]
  match front, nonempty with
  | [c], _ => by_cases root : c = '/' <;> by_cases dot : c = '.' <;> simp_all [frontComponent]
  | c :: d :: rest, _ =>
      by_cases root : c = '/' <;> by_cases dot : c = '.' <;> by_cases separator : d = '/' <;>
        simp_all [frontComponent]

/-- Joining a relative path to a non-empty base appends the relative path's body: its `./`
front, if any, disappears, and nothing else changes. -/
theorem components_join {base path : PathBuf} (nonempty : base ≠ [])
    (relative : path.head? ≠ some '/') :
    components (join base path) = components base ++ bodyComponents path := by
  obtain ⟨init, last, rfl⟩ := (List.eq_nil_or_concat' base).resolve_left nonempty
  have notAbsolute : ∀ rest, path ≠ '/' :: rest := by
    rintro rest rfl; exact relative rfl
  by_cases separator : last = '/'
  · subst separator
    have joined : join (init ++ ['/']) path = init ++ '/' :: path := by
      cases path with
      | nil => simp [join]
      | cons c rest =>
          have : c ≠ '/' := fun h => notAbsolute rest (h ▸ rfl)
          simp [join, this]
    rw [joined, components, components, frontComponent_append_separator,
      bodyComponents_append_separator, bodyComponents_append_separator]
    simp
  · have joined : join (init ++ [last]) path = (init ++ [last]) ++ '/' :: path := by
      cases path with
      | nil => simp [join, separator]
      | cons c rest =>
          have : c ≠ '/' := fun h => notAbsolute rest (h ▸ rfl)
          simp [join, this, separator]
    rw [joined, components, components, frontComponent_append_of_ne_nil (by simp),
      bodyComponents_append_separator, List.append_assoc]

/-- A component of a path's body is `..` or a normal one: the root and `.` only come in front. -/
theorem mem_bodyComponents {path : PathBuf} {part : Component} (member : part ∈ bodyComponents path) :
    part = .parentDir ∨ ∃ name, part = .normal name := by
  obtain ⟨piece, -, parsed⟩ := List.mem_filterMap.mp member
  unfold parseSingleComponent at parsed
  split at parsed <;> cases parsed
  · exact .inl rfl
  · exact .inr ⟨_, rfl⟩

theorem length_frontComponent_le (path : PathBuf) : (frontComponent path).length ≤ 1 := by
  unfold frontComponent
  split <;> simp

/-! ### Normal forms of appended components -/

theorem foldl_normalPush_normals (stack rest : List Component)
    (normals : ∀ part ∈ rest, ∃ name, part = .normal name) :
    rest.foldl normalPush stack = rest.reverse ++ stack := by
  induction rest generalizing stack with
  | nil => rfl
  | cons part rest ih =>
      obtain ⟨name, rfl⟩ := normals part (List.mem_cons_self _ _)
      rw [List.foldl_cons, normalPush, ih _ fun other member =>
        normals other (List.mem_cons_of_mem _ member)]
      simp

/-- Appending normal components to a path appends them to its normal form. -/
theorem lexicalNormal_append_normal (parts rest : List Component)
    (normals : ∀ part ∈ rest, ∃ name, part = .normal name) :
    normalForm (parts ++ rest) = normalForm parts ++ rest := by
  simp [normalForm, List.foldl_append, foldl_normalPush_normals _ rest normals]

end Spacedrive.StdPath
