/-
Module: Spacedrive.CustomUri.Router
Purpose: `custom_uri::router`, the two routes of the URI server behind one entry point, with the
  metadata cache threaded through. `router_panics_iff` is the answer to "does the server task ever
  panic": only the `/file` route does, and only at the three sites of `ServePanics`;
  `router_panics_on_missing_library` reaches the first of them with a Remote entry, the
  `files_over_p2p` flag on and a node-link-manager state that does not know the library.
Trusted boundary: axum's routing and percent-decoding are taken as done (`UriRequest` is the
  matched route with its decoded parameters); the CORS middleware is left out.
Main exports: UriRequest, router, router_panics_iff, router_panics_on_missing_library
-/
import Spacedrive.CustomUri.Thumbnail
import Spacedrive.CustomUri.File

namespace Spacedrive.CustomUri

open StdPath

/-- A request that matched one of the router's routes, with its parameters percent-decoded. -/
inductive UriRequest where
  /-- `/thumbnail/*path` -/
  | thumbnail (path : String)
  /-- `/file/:lib_id/:loc_id/:path_id` -/
  | file (libId locId pathId : String)

/-- `router(node)` answering one request. -/
def router (externals : Externals) (node : Node) (cache : FileMetadataCache)
    (request : UriRequest) (parts : RequestParts) :
    Except PanicSite Response × FileMetadataCache :=
  match request with
  | .thumbnail path =>
      ((thumbnailRoute node.fs externals.serveFile node.dataDirectory path parts).finish, cache)
  | .file libId locId pathId => fileRoute externals node cache libId locId pathId parts

/-- The server answers every request with a response, except a `/file` request that reaches one
of the three panic sites: the two `unwrap`s of the Remote branch and the `todo!()` of the MIME
inference. -/
theorem router_panics_iff (externals : Externals) (node : Node) (cache : FileMetadataCache)
    (request : UriRequest) (parts : RequestParts) (site : PanicSite) :
    (router externals node cache request parts).1 = .error site ↔
      ∃ libId locId pathId entry library, request = .file libId locId pathId ∧
        (getOrInitLruEntry externals node cache libId locId pathId).1 = .next (entry, library) ∧
        ServePanics externals node entry library site := by
  cases request with
  | thumbnail path =>
      simp [router, Flow.finish_eq_error, thumbnailRoute_ne_panic]
  | file libId locId pathId =>
      rw [router, fileRoute_panics_iff]
      constructor
      · rintro ⟨entry, library, found, panics⟩
        exact ⟨libId, locId, pathId, entry, library, rfl, found, panics⟩
      · rintro ⟨_, _, _, entry, library, same, found, panics⟩
        cases same
        exact ⟨entry, library, found, panics⟩

/-- `GET /file/<lib>/1/7` on that node panics at the first `unwrap` of the Remote branch. -/
theorem router_panics_on_missing_library :
    (router acceptingExternals remoteNode .new (.file "lib" "1" "7") ⟨[]⟩).1 =
      .error .nlmLibraryUnwrap := by
  rfl

end Spacedrive.CustomUri
