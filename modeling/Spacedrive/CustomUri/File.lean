/-
Module: Spacedrive.CustomUri.File
Purpose: The `/file/:lib_id/:loc_id/:path_id` route of `custom_uri::router` and
  `get_or_init_lru_entry` (`custom_uri/mod.rs`, lines 82-145 and 187-287), with the metadata
  cache as explicit state. Every lookup that fails on the way to a cache entry becomes a status
  (`getOrInitLruEntry_ne_panic`); after it, the Remote branch unwraps two node-link-manager lookups
  and the Local branch can reach the `todo!()` of `infer_the_mime_type`. `fileRoute_panics_iff`
  says these three are the only ways the handler panics, and when each is reached.
  `fileRoute_absent_resources` gives the status of the absent resources: 500 for a library the
  node has not loaded, 404 for a missing row that is not cached; and the cache never drops an
  entry it has produced, whatever the response (no eviction on a missing file).
Trusted boundary: `Uuid::from_str`, `IsolatedFilePathData::try_from`,
  `IdentityOrRemoteIdentity::from_bytes`, `is_text` and `serve_file` are parameters (`Externals`).
  The `mini_moka` cache is modelled from the spec: least recently used, with the capacity of
  `Cache::new(150)`; its TinyLFU admission and deferred eviction are not modelled.
Main exports: ServeFrom, CacheValue, FileMetadataCache, Node, Externals, getOrInitLruEntry,
  serveEntry, fileRoute, ServePanics, fileRoute_panics_iff, getOrInitLruEntry_cached,
  fileRoute_absent_resources
-/
import Spacedrive.Uuid
import Spacedrive.CustomUri.Mime

namespace Spacedrive.CustomUri

open StdPath

/-- The public key of an instance (`RemoteIdentity`). -/
abbrev RemoteIdentity := List UInt8

/-- Where a file is served from. -/
inductive ServeFrom where
  /-- Serve from the local filesystem -/
  | «local»
  /-- Serve from a specific instance -/
  | remote (identity : RemoteIdentity)
deriving DecidableEq, Repr

/-- `CacheKey`: the library id and the `file_path` id. -/
abbrev CacheKey := Uuid × Int

/-- `CacheValue`. -/
structure CacheValue where
  name : PathBuf
  ext : String
  filePathPubId : Uuid
  serveFrom : ServeFrom
deriving DecidableEq

/-- Modelled from the spec: the metadata cache as a least-recently-used map, entries most recently
used first, at most `capacity` of them. The `mini_moka` cache the source builds admits entries by
TinyLFU and evicts later; neither is modelled. -/
structure FileMetadataCache where
  capacity : Nat
  entries : List (CacheKey × CacheValue)

namespace FileMetadataCache

/-- `Cache::new(150)`. -/
def new : FileMetadataCache := { capacity := 150, entries := [] }

/-- `Cache::get`: a hit becomes the most recently used entry. -/
def get (cache : FileMetadataCache) (key : CacheKey) : Option CacheValue × FileMetadataCache :=
  match cache.entries.lookup key with
  | some value =>
      (some value, { cache with entries := (key, value) :: cache.entries.filter (·.1 ≠ key) })
  | none => (none, cache)

/-- `Cache::insert`: the entry becomes the most recently used one, and the least recently used
entry is evicted when the cache is over capacity. -/
def insert (cache : FileMetadataCache) (key : CacheKey) (value : CacheValue) :
    FileMetadataCache :=
  { cache with entries := ((key, value) :: cache.entries.filter (·.1 ≠ key)).take cache.capacity }

end FileMetadataCache

/-! ### Node state -/

/-- `InstanceState` of the node-link manager. -/
inductive InstanceState where
  | discovered (peer : PeerId)
  | unavailable
  | connected (peer : PeerId)
deriving DecidableEq, Repr

/-- The `instance` row joined to a location. -/
structure InstanceRow where
  identity : List UInt8

/-- The `location` row joined to a file path. -/
structure LocationRow where
  path : Option String
  «instance» : Option InstanceRow

/-- The `file_path` row as `file_path_to_handle_custom_uri` selects it. -/
structure FilePathRow where
  pubId : List UInt8
  materializedPath : Option String
  isDir : Option Bool
  name : Option String
  extension : Option String
  location : Option LocationRow

/-- A loaded library: its id, its instance's identity, and its `file_path` table (a query either
fails or finds at most one row by id). -/
structure Library where
  id : Uuid
  identity : RemoteIdentity
  findFilePath : Int → Except Unit (Option FilePathRow)

/-- The parts of `Node` the routes read. -/
structure Node where
  dataDirectory : PathBuf
  libraries : Uuid → Option Library
  filesOverP2p : Bool
  nlmState : Uuid → Option (RemoteIdentity → Option InstanceState)
  fs : FileSystem

/-- Code the route calls that is not in the source tree, and the target's configuration. -/
structure Externals where
  parseUuid : String → Option Uuid
  isolatedFilePath : Int → FilePathRow → Option PathBuf
  remoteIdentityFromBytes : List UInt8 → Option RemoteIdentity
  isText : List UInt8 → Bool → Option String
  serveFile : ServeFile
  targetIsMacos : Bool
  pointerWidth : Nat

/-! ### Parsing the path parameters -/

/-- Decimal digits, at least one. -/
def parseDigits : List Char → Option Nat
  | [] => none
  | digits =>
      digits.foldlM (fun value c =>
        if c.isDigit then some (value * 10 + (c.toNat - '0'.toNat)) else none) 0

/-- `str::parse::<i32>`: an optional sign, decimal digits, and a value from `i32::MIN` to
`i32::MAX`. -/
def parseI32 (text : String) : Option Int := do
  let (negative, digits) := match text.data with
    | '-' :: rest => (true, rest)
    | '+' :: rest => (false, rest)
    | rest => (false, rest)
  let magnitude ← parseDigits digits
  let value : Int := if negative then -magnitude else magnitude
  if -2147483648 ≤ value ∧ value < 2147483648 then some value else none

/-- `maybe_missing(..).map_err(internal_server_error)?` and friends. -/
def orRespond {α : Type} (response : Response) : Option α → Flow α
  | some value => .next value
  | none => .respond response

/-! ### `get_or_init_lru_entry` -/

/-- The ids in the path and the library: `Uuid::from_str`, the two `parse`s and `get_library`. -/
def lookupLibrary (externals : Externals) (node : Node) (libId locId pathId : String) :
    Flow (CacheKey × Int × Library) := do
  let libraryId ← orRespond badRequest (externals.parseUuid libId)
  let locationId ← orRespond badRequest (parseI32 locId)
  let filePathId ← orRespond badRequest (parseI32 pathId)
  let library ← orRespond internalServerError (node.libraries libraryId)
  pure ((libraryId, filePathId), locationId, library)

/-- The cache miss: the database row, the missing-field checks, and the `CacheValue`. -/
def initLruEntry (externals : Externals) (library : Library) (locationId filePathId : Int) :
    Flow CacheValue := do
  let filePath ← match library.findFilePath filePathId with
    | .error () => .respond internalServerError
    | .ok row => orRespond notFound row
  let location ← orRespond internalServerError filePath.location
  let path ← orRespond internalServerError location.path
  let inst ← orRespond internalServerError location.«instance»
  let relative ← orRespond notFound (externals.isolatedFilePath locationId filePath)
  let path := join path.data relative
  let identity ← orRespond internalServerError (externals.remoteIdentityFromBytes inst.identity)
  let ext ← orRespond notFound filePath.extension
  let filePathPubId ← orRespond internalServerError (Uuid.fromSlice filePath.pubId)
  pure
    { name := path
      ext := ext
      filePathPubId := filePathPubId
      serveFrom := if identity = library.identity then .«local» else .remote identity }

/-- `get_or_init_lru_entry`: the entry and library, and the cache afterwards. -/
def getOrInitLruEntry (externals : Externals) (node : Node) (cache : FileMetadataCache)
    (libId locId pathId : String) : Flow (CacheValue × Library) × FileMetadataCache :=
  match lookupLibrary externals node libId locId pathId with
  | .next (key, locationId, library) =>
      match cache.get key with
      | (some entry, cache) => (.next (entry, library), cache)
      | (none, cache) =>
          match initLruEntry externals library locationId key.2 with
          | .next entry => (.next (entry, library), cache.insert key entry)
          | .respond response => (.respond response, cache)
          | .panic site => (.panic site, cache)
  | .respond response => (.respond response, cache)
  | .panic site => (.panic site, cache)

/-! ### The handler -/

/-- `HeaderValue::from_str`: visible ASCII, space, tab and any non-ASCII byte are accepted. -/
def headerValueFromStr (value : String) : Option String :=
  if value.data.all fun c => (32 ≤ c.toNat ∧ c.toNat ≠ 127) ∨ c.toNat = 9 then some value
  else none

/-- `file_path_full_path.metadata().map_err(internal_server_error)?`. -/
def statLocal (fs : FileSystem) (path : PathBuf) : Flow Metadata :=
  match fs.metadata path with
  | .ok metadata => .next metadata
  | .error _ => .respond internalServerError

/-- The `ServeFrom::Local` branch. -/
def serveLocal (externals : Externals) (fs : FileSystem) (request : RequestParts)
    (entry : CacheValue) : Flow Response := do
  let metadata ← statLocal fs entry.name
  if metadata.isDir then .respond notFound else
  let file ← openFile fs entry.name
  let mimeType ← inferTheMimeType externals.isText externals.targetIsMacos
    externals.pointerWidth entry.ext file metadata
  let contentType ← orRespond internalServerError (headerValueFromStr mimeType)
  pure (externals.serveFile file (.ok metadata) request (some contentType))

/-- The `ServeFrom::Remote(identity)` branch. -/
def serveRemote (node : Node) (library : Library) (identity : RemoteIdentity) : Flow Response :=
  if !node.filesOverP2p then pure notFound else
  match node.nlmState library.id with
  | none => .panic .nlmLibraryUnwrap
  | some instances =>
      match instances identity with
      | none => .panic .nlmInstanceUnwrap
      | some (.discovered _) | some .unavailable => pure notFound
      | some (.connected peer) =>
          pure { status := .OK, contentType := none, body := .peerStream peer }

/-- The handler body once the entry is known. -/
def serveEntry (externals : Externals) (node : Node) (request : RequestParts) :
    CacheValue × Library → Flow Response
  | (entry, library) =>
      match entry.serveFrom with
      | .«local» => serveLocal externals node.fs request entry
      | .remote identity => serveRemote node library identity

/-- The `/file/:lib_id/:loc_id/:path_id` handler: the response or the panic, and the cache. -/
def fileRoute (externals : Externals) (node : Node) (cache : FileMetadataCache)
    (libId locId pathId : String) (request : RequestParts) :
    Except PanicSite Response × FileMetadataCache :=
  let (entry, cache) := getOrInitLruEntry externals node cache libId locId pathId
  ((entry >>= serveEntry externals node request).finish, cache)

/-! ### Where the handler panics -/

@[simp] theorem orRespond_ne_panic {α : Type} (response : Response) (value : Option α)
    (site : PanicSite) : orRespond response value ≠ .panic site := by
  cases value <;> simp [orRespond]

theorem lookupLibrary_ne_panic (externals : Externals) (node : Node) (libId locId pathId : String)
    (site : PanicSite) : lookupLibrary externals node libId locId pathId ≠ .panic site := by
  simp [lookupLibrary, Flow.bind_eq_panic]

theorem initLruEntry_ne_panic (externals : Externals) (library : Library)
    (locationId filePathId : Int) (site : PanicSite) :
    initLruEntry externals library locationId filePathId ≠ .panic site := by
  unfold initLruEntry
  cases library.findFilePath filePathId <;> simp [Flow.bind_eq_panic]

/-- Every failure on the way to a cache entry is a status: a malformed id is 400, an unknown
library 500, a missing row 404, and so on. -/
theorem getOrInitLruEntry_ne_panic (externals : Externals) (node : Node)
    (cache : FileMetadataCache) (libId locId pathId : String) (site : PanicSite) :
    (getOrInitLruEntry externals node cache libId locId pathId).1 ≠ .panic site := by
  unfold getOrInitLruEntry
  have lookup := lookupLibrary_ne_panic externals node libId locId pathId site
  split
  · split
    · simp
    · have init := initLruEntry_ne_panic externals ‹Library› ‹Int› ‹CacheKey›.2 site
      split <;> simp_all
  · simp
  · simp_all

/-- The three panic sites of the handler and what reaches each, given the entry and library
that `get_or_init_lru_entry` produced. -/
inductive ServePanics (externals : Externals) (node : Node) (entry : CacheValue)
    (library : Library) : PanicSite → Prop where
  | libraryMissing (identity : RemoteIdentity)
      (remote : entry.serveFrom = .remote identity) (enabled : node.filesOverP2p = true)
      (missing : node.nlmState library.id = none) :
      ServePanics externals node entry library .nlmLibraryUnwrap
  | instanceMissing (identity : RemoteIdentity) (instances : RemoteIdentity → Option InstanceState)
      (remote : entry.serveFrom = .remote identity) (enabled : node.filesOverP2p = true)
      (found : node.nlmState library.id = some instances) (missing : instances identity = none) :
      ServePanics externals node entry library .nlmInstanceUnwrap
  | unknownMime (metadata : Metadata) (file : OpenFile)
      (isLocal : entry.serveFrom = .«local») (stat : node.fs.metadata entry.name = .ok metadata)
      (notDir : metadata.isDir = false) (opened : node.fs.open entry.name = .ok file)
      (todo : inferTheMimeType externals.isText externals.targetIsMacos externals.pointerWidth
        entry.ext file metadata = .panic .unknownMimeTodo) :
      ServePanics externals node entry library .unknownMimeTodo

@[simp] theorem statLocal_ne_panic (fs : FileSystem) (path : PathBuf) (site : PanicSite) :
    statLocal fs path ≠ .panic site := by
  unfold statLocal
  split <;> simp

@[simp] theorem statLocal_eq_next {fs : FileSystem} {path : PathBuf} {metadata : Metadata} :
    statLocal fs path = .next metadata ↔ fs.metadata path = .ok metadata := by
  unfold statLocal
  split <;> simp_all

theorem serveLocal_eq_panic {externals : Externals} {fs : FileSystem} {request : RequestParts}
    {entry : CacheValue} {site : PanicSite} :
    serveLocal externals fs request entry = .panic site ↔
      ∃ metadata, fs.metadata entry.name = .ok metadata ∧ metadata.isDir = false ∧
        ∃ file, fs.open entry.name = .ok file ∧
          inferTheMimeType externals.isText externals.targetIsMacos externals.pointerWidth
            entry.ext file metadata = .panic site := by
  simp only [serveLocal, Flow.bind_eq_panic, statLocal_ne_panic, statLocal_eq_next, false_or]
  refine exists_congr fun metadata => and_congr_right fun _ => ?_
  cases metadata.isDir <;> simp [Flow.bind_eq_panic]

theorem serveRemote_eq_panic {node : Node} {library : Library} {identity : RemoteIdentity}
    {site : PanicSite} :
    serveRemote node library identity = .panic site ↔
      node.filesOverP2p = true ∧
        (site = .nlmLibraryUnwrap ∧ node.nlmState library.id = none ∨
          site = .nlmInstanceUnwrap ∧ ∃ instances, node.nlmState library.id = some instances ∧
            instances identity = none) := by
  unfold serveRemote
  cases node.filesOverP2p <;> simp only [Bool.not_false, Bool.not_true]
  · simp
  · cases node.nlmState library.id with
    | none => simp [eq_comm]
    | some instances =>
        cases found : instances identity with
        | none => simp [found, eq_comm]
        | some state => cases state <;> simp [found]

theorem serveEntry_eq_panic {externals : Externals} {node : Node} {request : RequestParts}
    {entry : CacheValue} {library : Library} {site : PanicSite} :
    serveEntry externals node request (entry, library) = .panic site ↔
      ServePanics externals node entry library site := by
  cases served : entry.serveFrom with
  | «local» =>
      simp only [serveEntry, served, serveLocal_eq_panic]
      constructor
      · rintro ⟨metadata, stat, notDir, file, opened, todo⟩
        obtain ⟨rfl, -⟩ := inferTheMimeType_eq_panic.mp todo
        exact .unknownMime metadata file served stat notDir opened todo
      · intro panics
        cases panics with
        | libraryMissing _ remote => simp [served] at remote
        | instanceMissing _ _ remote => simp [served] at remote
        | unknownMime metadata file _ stat notDir opened todo =>
            exact ⟨metadata, stat, notDir, file, opened, todo⟩
  | remote identity =>
      simp only [serveEntry, served, serveRemote_eq_panic]
      constructor
      · rintro ⟨enabled, ⟨rfl, missing⟩ | ⟨rfl, instances, found, missing⟩⟩
        · exact .libraryMissing identity served enabled missing
        · exact .instanceMissing identity instances served enabled found missing
      · rintro (⟨other, remote, enabled, missing⟩ | ⟨other, instances, remote, enabled, found,
          missing⟩ | ⟨_, _, isLocal⟩)
        · rw [served, ServeFrom.remote.injEq] at remote
          subst remote
          exact ⟨enabled, .inl ⟨rfl, missing⟩⟩
        · rw [served, ServeFrom.remote.injEq] at remote
          subst remote
          exact ⟨enabled, .inr ⟨rfl, instances, found, missing⟩⟩
        · simp [served] at isLocal

/-- The handler panics exactly at the three sites of `ServePanics`: every other path, whatever
the ids, the database, the node-link manager, the flag and the files, ends in a response. -/
theorem fileRoute_panics_iff (externals : Externals) (node : Node) (cache : FileMetadataCache)
    (libId locId pathId : String) (request : RequestParts) (site : PanicSite) :
    (fileRoute externals node cache libId locId pathId request).1 = .error site ↔
      ∃ entry library,
        (getOrInitLruEntry externals node cache libId locId pathId).1 = .next (entry, library) ∧
          ServePanics externals node entry library site := by
  simp only [fileRoute, Flow.finish_eq_error, Flow.bind_eq_panic, getOrInitLruEntry_ne_panic,
    false_or, Prod.exists, serveEntry_eq_panic]


/-! ### Absent resources and the cache -/

namespace FileMetadataCache

/-- An inserted entry is found, unless the cache holds nothing at all. -/
theorem lookup_insert {cache : FileMetadataCache} (sized : 0 < cache.capacity) (key : CacheKey)
    (value : CacheValue) : (cache.insert key value).entries.lookup key = some value := by
  obtain ⟨room, capacity⟩ : ∃ room, cache.capacity = room + 1 := ⟨_, (Nat.succ_pred_eq_of_pos sized).symm⟩
  simp [insert, capacity, List.take_succ_cons]

/-- A hit moves the entry to the front. -/
theorem get_of_lookup_some {cache : FileMetadataCache} {key : CacheKey} {value : CacheValue}
    (hit : cache.entries.lookup key = some value) :
    cache.get key =
      (some value, { cache with entries := (key, value) :: cache.entries.filter (·.1 ≠ key) }) := by
  simp [get, hit]

/-- A miss leaves the cache as it was. -/
theorem get_of_lookup_none {cache : FileMetadataCache} {key : CacheKey}
    (miss : cache.entries.lookup key = none) : cache.get key = (none, cache) := by
  simp [get, miss]

end FileMetadataCache

/-- With the three ids parsed, the lookup answers 500 for a library the node has not loaded and
otherwise gives the cache key, the location id and the library. -/
theorem lookupLibrary_of_parsed {externals : Externals} {node : Node} {libId locId pathId : String}
    {libraryId : Uuid} {locationId filePathId : Int}
    (parsed : externals.parseUuid libId = some libraryId ∧ parseI32 locId = some locationId ∧
      parseI32 pathId = some filePathId) :
    lookupLibrary externals node libId locId pathId =
      match node.libraries libraryId with
      | some library => .next ((libraryId, filePathId), locationId, library)
      | none => .respond internalServerError := by
  obtain ⟨parsedLib, parsedLoc, parsedPath⟩ := parsed
  simp only [lookupLibrary, parsedLib, parsedLoc, parsedPath, orRespond, Flow.next_bind]
  cases node.libraries libraryId <;> rfl

/-- Once `get_or_init_lru_entry` produces an entry, the cache maps the key to it: a hit is moved
to the front, a miss is inserted, and nothing removes an entry. -/
theorem getOrInitLruEntry_cached {externals : Externals} {node : Node} {cache : FileMetadataCache}
    {libId locId pathId : String} {key : CacheKey} {locationId : Int} {library : Library}
    (sized : 0 < cache.capacity)
    (looked : lookupLibrary externals node libId locId pathId = .next (key, locationId, library))
    {entry : CacheValue} {produced : Library}
    (found : (getOrInitLruEntry externals node cache libId locId pathId).1 = .next (entry, produced)) :
    (getOrInitLruEntry externals node cache libId locId pathId).2.entries.lookup key = some entry := by
  unfold getOrInitLruEntry at found ⊢
  rw [looked] at found ⊢
  dsimp only at found ⊢
  cases hit : cache.entries.lookup key with
  | some value =>
      rw [FileMetadataCache.get_of_lookup_some hit] at found ⊢
      cases found
      exact List.lookup_cons_self
  | none =>
      rw [FileMetadataCache.get_of_lookup_none hit] at found ⊢
      revert found
      cases initLruEntry externals library locationId key.2 with
      | next value =>
          rintro ⟨⟩
          exact FileMetadataCache.lookup_insert sized key entry
      | respond _ | panic _ => rintro ⟨⟩

/-- For every `/file` request whose three ids parse and every node and cache state: a library the
node has not loaded answers 500, and the cache is unchanged; a `file_path` row that does not exist
answers 404 when the cache holds no entry for the request's key, and the cache is unchanged; and
once `get_or_init_lru_entry` has produced an entry, the cache maps the key to it after the
response, whatever the response, the file missing from disk included. -/
theorem fileRoute_absent_resources (externals : Externals) (node : Node) (cache : FileMetadataCache)
    (libId locId pathId : String) (request : RequestParts) {libraryId : Uuid}
    {locationId filePathId : Int}
    (parsed : externals.parseUuid libId = some libraryId ∧ parseI32 locId = some locationId ∧
      parseI32 pathId = some filePathId) :
    (node.libraries libraryId = none →
      fileRoute externals node cache libId locId pathId request = (.ok internalServerError, cache)) ∧
    (∀ library, node.libraries libraryId = some library →
      cache.entries.lookup (libraryId, filePathId) = none →
      library.findFilePath filePathId = .ok none →
      fileRoute externals node cache libId locId pathId request = (.ok notFound, cache)) ∧
    (0 < cache.capacity → ∀ entry library,
      (getOrInitLruEntry externals node cache libId locId pathId).1 = .next (entry, library) →
      (fileRoute externals node cache libId locId pathId request).2.entries.lookup
        (libraryId, filePathId) = some entry) := by
  have looked := @lookupLibrary_of_parsed externals node libId locId pathId _ _ _ parsed
  refine ⟨fun unloaded => ?_, fun library loaded miss absent => ?_, fun sized entry library found => ?_⟩
  · simp only [fileRoute, getOrInitLruEntry, looked, unloaded]
    rfl
  · simp only [fileRoute, getOrInitLruEntry, looked, loaded,
      FileMetadataCache.get_of_lookup_none miss, initLruEntry, absent, orRespond, Flow.respond_bind]
    rfl
  · cases loadedLibrary : node.libraries libraryId with
    | none =>
        simp [getOrInitLruEntry, looked, loadedLibrary] at found
    | some loaded =>
        rw [loadedLibrary] at looked
        exact getOrInitLruEntry_cached sized looked found

/-- The nil UUID: the library id and the `pub_id` of row 7 in the requests below. -/
def nilUuid : Uuid := ⟨List.replicate 16 0, rfl⟩

/-- A library whose file row 7 lies in a location of another instance (identity `[2]`). -/
def remoteLibrary : Library where
  id := nilUuid
  identity := [1]
  findFilePath := fun _ => .ok (some
    { pubId := List.replicate 16 0
      materializedPath := some "/"
      isDir := some false
      name := some "a"
      extension := some "txt"
      location := some { path := some "/remote", «instance» := some { identity := [2] } } })

/-- A node with `files_over_p2p` on whose node-link manager knows no library. -/
def remoteNode : Node where
  dataDirectory := "/data".data
  libraries := fun _ => some remoteLibrary
  filesOverP2p := true
  nlmState := fun _ => none
  fs := { metadata := fun _ => .error .notFound, «open» := fun _ => .error .notFound }

/-- External code that accepts every id and identity. -/
def acceptingExternals : Externals where
  parseUuid := fun _ => some nilUuid
  isolatedFilePath := fun _ _ => some "a.txt".data
  remoteIdentityFromBytes := some
  isText := fun _ _ => none
  serveFile := fun _ _ _ _ => .bare .OK
  targetIsMacos := false
  pointerWidth := 64

/-- `remoteLibrary` with no row 7 in its `file_path` table. -/
def missingRowLibrary : Library := { remoteLibrary with findFilePath := fun _ => .ok none }

/-- `remoteLibrary` as the instance `[2]` loads it: row 7 lies in one of its own locations. -/
def localLibrary : Library := { remoteLibrary with identity := [2] }

/-- The entry row 7 of `localLibrary` gives: `/remote/a.txt`, served from the local disk. -/
def localEntry : CacheValue :=
  { name := "/remote/a.txt".data, ext := "txt", filePathPubId := nilUuid, serveFrom := .«local» }

/-- Row 7 of library `nilUuid`, requested from a node that has loaded no library (500), from one
whose library has no row 7 (404), and from one whose row 7 is a local file missing from its disk:
that answers 500, and the cache keeps the entry. -/
theorem fileRoute_absent_resources_threeNodes :
    fileRoute acceptingExternals { remoteNode with libraries := fun _ => none } .new
        "lib" "1" "7" ⟨[]⟩ = (.ok internalServerError, .new) ∧
    fileRoute acceptingExternals { remoteNode with libraries := fun _ => some missingRowLibrary }
        .new "lib" "1" "7" ⟨[]⟩ = (.ok notFound, .new) ∧
    (fileRoute acceptingExternals { remoteNode with libraries := fun _ => some localLibrary }
        .new "lib" "1" "7" ⟨[]⟩).1 = .ok internalServerError ∧
    (fileRoute acceptingExternals { remoteNode with libraries := fun _ => some localLibrary }
        .new "lib" "1" "7" ⟨[]⟩).2.entries.lookup (nilUuid, 7) = some localEntry :=
  have parsed : acceptingExternals.parseUuid "lib" = some nilUuid ∧ parseI32 "1" = some 1 ∧
      parseI32 "7" = some 7 :=
    ⟨rfl, rfl, rfl⟩
  ⟨(fileRoute_absent_resources _ _ _ _ _ _ _ parsed).1 rfl,
    (fileRoute_absent_resources _ _ _ _ _ _ _ parsed).2.1 _ rfl rfl rfl,
    rfl,
    (fileRoute_absent_resources _ _ _ _ _ _ _ parsed).2.2 (by decide) localEntry localLibrary rfl⟩

/-- The `/file` request on a node that has loaded no library answers 500. -/
theorem fileRoute_unloaded_library :
    fileRoute acceptingExternals { remoteNode with libraries := fun _ => none } .new "lib" "1" "7" ⟨[]⟩ =
      (.ok internalServerError, .new) :=
  rfl

end Spacedrive.CustomUri
