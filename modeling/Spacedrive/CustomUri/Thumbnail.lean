/-
Module: Spacedrive.CustomUri.Thumbnail
Purpose: The `/thumbnail/*path` route of `custom_uri::router` (`custom_uri/mod.rs`, lines 150-186).
  The handler joins the percent-decoded request path to `<data_dir>/thumbnails` and opens the
  result when it `starts_with` the thumbnails directory and has extension `webp`; otherwise it
  answers 404 before opening anything. The guard compares components and `Path::join` keeps `..`
  components, so a request path that climbs out with `..` and ends in `.webp` passes it (`thumbnail_guard_admits_parent_traversal`), although the comment
  above the guard names exactly that attack. Without `..` in the request path the guard is sound
  for every data directory: `thumbnailTarget_strictlyInside`.
Trusted boundary: `serve_file` and the file system are parameters.
Main exports: thumbnailDirectory, thumbnailTarget, thumbnailRoute, thumbnailRoute_ne_panic,
  thumbnailTarget_strictlyInside, thumbnail_guard_admits_parent_traversal
-/
import Spacedrive.CustomUri.Serving

namespace Spacedrive.CustomUri

open StdPath

/-- `node.config.data_directory().join("thumbnails")`. -/
def thumbnailDirectory (dataDirectory : PathBuf) : PathBuf :=
  join dataDirectory "thumbnails".data

/-- The traversal guard: the path the handler hands to `File::open`, or `none` when it answers
404 first. -/
def thumbnailTarget (dataDirectory : PathBuf) (path : String) : Option PathBuf :=
  let thumbnailPath := thumbnailDirectory dataDirectory
  let path := join thumbnailPath path.data
  if startsWith path thumbnailPath && extension path == some "webp".data then some path else none

/-- The `/thumbnail/*path` handler. -/
def thumbnailRoute (fs : FileSystem) (serveFile : ServeFile) (dataDirectory : PathBuf)
    (path : String) (request : RequestParts) : Flow Response := do
  let some path := thumbnailTarget dataDirectory path | .respond notFound
  let file ← openFile fs path
  pure (serveFile file file.metadata request (some "image/webp"))

/-- The handler never panics. -/
theorem thumbnailRoute_ne_panic (fs : FileSystem) (serveFile : ServeFile) (dataDirectory : PathBuf)
    (path : String) (request : RequestParts) (site : PanicSite) :
    thumbnailRoute fs serveFile dataDirectory path request ≠ .panic site := by
  unfold thumbnailRoute
  cases thumbnailTarget dataDirectory path <;> simp [Flow.bind_eq_panic]

/-! ### What the guard guarantees

Write the thumbnails directory's components as `cb`. An accepted target's components are
`cb ++ rest`; the guard's extension check forces `rest ≠ []`, and `rest` lies in the body of the
target's components, so it holds no root and no `.`. When the request path has no `..` either,
`rest` is a list of normal components and the target's normal form extends the directory's.
-/

theorem components_thumbnailDirectory (dataDirectory : PathBuf) :
    components (thumbnailDirectory dataDirectory) =
      components dataDirectory ++ [.normal "thumbnails".data] := by
  rcases eq_or_ne dataDirectory [] with rfl | nonempty
  · decide
  · rw [thumbnailDirectory, components_join nonempty (by decide)]
    rfl

theorem mem_bodyComponents_of_components_eq {target : PathBuf} {directory rest : List Component}
    (nonempty : directory ≠ []) (split : components target = directory ++ rest) :
    ∀ part ∈ rest, part ∈ bodyComponents target := by
  intro part member
  have front := length_frontComponent_le target
  rw [components] at split
  obtain ⟨first, directory, rfl⟩ := List.exists_cons_of_ne_nil nonempty
  match hfront : frontComponent target, front with
  | [], _ =>
      rw [hfront, List.nil_append] at split
      exact split ▸ List.mem_append_right _ member
  | [_], _ =>
      rw [hfront, List.singleton_append, List.cons_append, List.cons.injEq] at split
      exact split.2 ▸ List.mem_append_right _ member

/-- The components that an accepted target adds to the thumbnails directory come from the request
path. -/
theorem rest_subset_components_of_target {dataDirectory : PathBuf} {path : String}
    {rest : List Component}
    (split : components (join (thumbnailDirectory dataDirectory) path.data) =
      components (thumbnailDirectory dataDirectory) ++ rest) :
    ∀ part ∈ rest, part ∈ components path.data := by
  intro part member
  by_cases absolute : path.data.head? = some '/'
  · -- an absolute request path replaces the thumbnails directory in the join
    rcases data : path.data with _ | ⟨c, tail⟩
    · simp [data] at absolute
    · obtain rfl : c = '/' := by simpa [data] using absolute
      rw [data, join] at split
      rw [split]
      exact List.mem_append_right _ member
  · have nonempty : thumbnailDirectory dataDirectory ≠ [] := by
      intro empty
      simpa [empty] using components_thumbnailDirectory dataDirectory
    rw [components_join nonempty absolute, List.append_cancel_left_eq] at split
    rw [components]
    exact List.mem_append_right _ (split ▸ member)

/-- Without `..` in the request path, every path the guard lets through lies strictly inside the
thumbnails directory and is a `.webp` file. -/
theorem thumbnailTarget_strictlyInside {dataDirectory target : PathBuf} {path : String}
    (accepted : thumbnailTarget dataDirectory path = some target)
    (noParent : .parentDir ∉ components path.data) :
    StrictlyInside (thumbnailDirectory dataDirectory) target ∧
      extension target = some "webp".data := by
  simp only [thumbnailTarget, Bool.and_eq_true, beq_iff_eq, Option.ite_none_right_eq_some,
    Option.some.injEq] at accepted
  obtain ⟨⟨prefixed, webp⟩, rfl⟩ := accepted
  obtain ⟨rest, split⟩ := List.isPrefixOf_iff_prefix.mp prefixed
  have directory := components_thumbnailDirectory dataDirectory
  have body := mem_bodyComponents_of_components_eq (by simp [directory]) split.symm
  have fromPath := rest_subset_components_of_target split.symm
  have normals : ∀ part ∈ rest, ∃ name, part = .normal name := fun part member =>
    (mem_bodyComponents (body part member)).resolve_left
      fun parent => noParent (parent ▸ fromPath part member)
  have nonempty : rest ≠ [] := by
    rintro rfl
    rw [List.append_nil, directory] at split
    simp [extension, fileName, ← split, extensionOfName] at webp
  refine ⟨⟨⟨rest, ?_⟩, ?_⟩, webp⟩
  · rw [lexicalNormal, lexicalNormal, ← split, lexicalNormal_append_normal _ _ normals]
  · rw [lexicalNormal, lexicalNormal, ← split, lexicalNormal_append_normal _ _ normals,
      List.length_append]
    exact Nat.lt_add_of_pos_right (List.length_pos.mpr nonempty)

/-- A thumbnail in a subdirectory is served from inside the thumbnails directory. -/
theorem thumbnailTarget_strictlyInside_nestedName :
    thumbnailTarget "/data".data "ab/cd.webp" = some "/data/thumbnails/ab/cd.webp".data ∧
      Component.parentDir ∉ components "ab/cd.webp".data ∧
      (StrictlyInside (thumbnailDirectory "/data".data) "/data/thumbnails/ab/cd.webp".data ∧
        extension "/data/thumbnails/ab/cd.webp".data = some "webp".data) :=
  have accepted : thumbnailTarget "/data".data "ab/cd.webp" = some "/data/thumbnails/ab/cd.webp".data := by
    decide
  have noParent : Component.parentDir ∉ components "ab/cd.webp".data := by decide
  ⟨accepted, noParent, thumbnailTarget_strictlyInside accepted noParent⟩

/-- A request path that climbs out with `..` and ends in `.webp` passes the guard: the handler
opens `/data/thumbnails/../secret.webp`, whose lexical normal form `/data/secret.webp` is outside
the thumbnails directory. -/
theorem thumbnail_guard_admits_parent_traversal :
    thumbnailTarget "/data".data "../secret.webp" = some "/data/thumbnails/../secret.webp".data ∧
      ¬ StrictlyInside (thumbnailDirectory "/data".data) "/data/thumbnails/../secret.webp".data := by
  decide

end Spacedrive.CustomUri
