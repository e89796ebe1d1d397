/-
Module: Spacedrive.CustomUri.Serving
Purpose: What the URI server's handlers exchange with the outside: responses, the file system
  they open files on, and the two helpers that are not part of the source tree (`utils.rs` with
  `not_found`, `bad_request` and `internal_server_error`, and `serve_file.rs`). A handler is a
  computation in `Flow`: it goes on with a value, answers early with a response (Rust's `?` on a
  `Result<_, Response>` and `return`), or panics at a named site (`unwrap`, `todo!`). The bind
  lemmas below are the only facts about `Flow` later modules use.
Trusted boundary: `serve_file` is a parameter (its file is not in the source tree); the three
  response helpers are modelled from their names and the spec.
Main exports: StatusCode, Response, IoErrorKind, Metadata, OpenFile, FileSystem, ServeFile,
  PanicSite, Flow, Flow.bind_eq_panic, openFile
-/
import Mathlib.Data.List.Basic
import Spacedrive.CustomUri.StdPath

namespace Spacedrive.CustomUri

open StdPath

/-- An HTTP status code. -/
structure StatusCode where
  code : Nat
deriving DecidableEq, Repr

namespace StatusCode

def OK : StatusCode := ⟨200⟩
def BAD_REQUEST : StatusCode := ⟨400⟩
def NOT_FOUND : StatusCode := ⟨404⟩
def INTERNAL_SERVER_ERROR : StatusCode := ⟨500⟩

end StatusCode

/-- An identity of a peer on the p2p network. -/
abbrev PeerId := List UInt8

/-- The body of a response, as far as the handlers build it themselves. -/
inductive Body where
  | empty
  | file (contents : List UInt8)
  | peerStream (peer : PeerId)
deriving DecidableEq, Repr

/-- A response: status, `Content-Type` header if set, body. -/
structure Response where
  status : StatusCode
  contentType : Option String
  body : Body
deriving DecidableEq, Repr

/-- A response with no header and no body. -/
def Response.bare (status : StatusCode) : Response :=
  { status := status, contentType := none, body := .empty }

/-- Modelled from the spec: `not_found` of `custom_uri/utils.rs` (not in the source tree), an
empty `404` response. -/
def notFound : Response := .bare .NOT_FOUND

/-- Modelled from the spec: `bad_request` of `custom_uri/utils.rs`, an empty `400` response. -/
def badRequest : Response := .bare .BAD_REQUEST

/-- Modelled from the spec: `internal_server_error` of `custom_uri/utils.rs`, an empty `500`
response. -/
def internalServerError : Response := .bare .INTERNAL_SERVER_ERROR

/-- The `std::io::ErrorKind`s the handlers tell apart. -/
inductive IoErrorKind where
  | notFound
  | unexpectedEof
  | other
deriving DecidableEq, Repr

/-- `std::fs::Metadata`, the two fields the handlers read. -/
structure Metadata where
  isDir : Bool
  len : Nat
deriving DecidableEq, Repr

/-- An open `tokio::fs::File`: the bytes a read from the start yields, what `File::metadata`
returns, and whether seeking works. -/
structure OpenFile where
  contents : List UInt8
  metadata : Except IoErrorKind Metadata
  seekable : Bool

/-- The file system as the handlers see it: `Path::metadata` and `File::open`, answered
independently, so that a file may change between the two calls. -/
structure FileSystem where
  metadata : PathBuf → Except IoErrorKind Metadata
  «open» : PathBuf → Except IoErrorKind OpenFile

/-- `AsyncReadExt::read_exact` from the start of the file: exactly `count` bytes or an
unexpected end of file. -/
def OpenFile.readExact (file : OpenFile) (count : Nat) : Except IoErrorKind (List UInt8) :=
  if count ≤ file.contents.length then .ok (file.contents.take count) else .error .unexpectedEof

/-- `AsyncSeekExt::seek(SeekFrom::Start(0))`. -/
def OpenFile.rewind (file : OpenFile) : Except IoErrorKind Unit :=
  if file.seekable then .ok () else .error .other

/-- The request head (`request.into_parts().0`): only `serve_file` reads it. -/
structure RequestParts where
  headers : List (String × String)

/-- `serve_file(file, metadata, parts, builder)` of `serve_file.rs` (not in the source tree): it
answers with some response, given the content type the caller's builder carries. -/
abbrev ServeFile := OpenFile → Except IoErrorKind Metadata → RequestParts → Option String → Response

/-! ### Handler computations -/

/-- The places a handler can panic. -/
inductive PanicSite where
  /-- `nlm.state().get(&library.id).unwrap()` -/
  | nlmLibraryUnwrap
  /-- `.instances.get(&identity).unwrap()` -/
  | nlmInstanceUnwrap
  /-- `todo!()` for an extension neither table knows, when `is_text` gives no charset -/
  | unknownMimeTodo
deriving DecidableEq, Repr

/-- A handler step: go on with a value, answer early, or panic. -/
inductive Flow (α : Type) where
  | next (value : α)
  | respond (response : Response)
  | panic (site : PanicSite)

namespace Flow

def bind {α β : Type} : Flow α → (α → Flow β) → Flow β
  | next value, continuation => continuation value
  | respond response, _ => respond response
  | panic site, _ => panic site

instance : Monad Flow where
  pure := next
  bind := bind

/-- Rust's `?` on a `Result<_, Response>`. -/
def ofExcept {α : Type} : Except Response α → Flow α
  | .ok value => next value
  | .error response => respond response

/-- The response a finished handler sends, or the panic that ended it. -/
def finish : Flow Response → Except PanicSite Response
  | next response => .ok response
  | respond response => .ok response
  | panic site => .error site

@[simp] theorem next_bind {α β : Type} (value : α) (continuation : α → Flow β) :
    (next value >>= continuation) = continuation value := rfl

@[simp] theorem respond_bind {α β : Type} (response : Response) (continuation : α → Flow β) :
    (respond response >>= continuation) = respond response := rfl

@[simp] theorem panic_bind {α β : Type} (site : PanicSite) (continuation : α → Flow β) :
    (panic site >>= continuation) = panic site := rfl

theorem bind_eq_panic {α β : Type} {first : Flow α} {continuation : α → Flow β}
    {site : PanicSite} :
    (first >>= continuation) = panic site ↔
      first = panic site ∨ ∃ value, first = next value ∧ continuation value = panic site := by
  cases first <;> simp [eq_comm]

theorem finish_eq_error {flow : Flow Response} {site : PanicSite} :
    flow.finish = .error site ↔ flow = panic site := by
  cases flow <;> simp [finish]

@[simp] theorem ofExcept_ne_panic {α : Type} (result : Except Response α) (site : PanicSite) :
    ofExcept result ≠ panic site := by
  cases result <;> simp [ofExcept]

end Flow

/-- `File::open(path).await.map_err(..)?` as both routes write it: a missing file answers 404 and
any other error 500. -/
def openFile (fs : FileSystem) (path : PathBuf) : Flow OpenFile :=
  match fs.open path with
  | .ok file => .next file
  | .error .notFound => .respond (.bare .NOT_FOUND)
  | .error _ => .respond (.bare .INTERNAL_SERVER_ERROR)

@[simp] theorem openFile_ne_panic (fs : FileSystem) (path : PathBuf) (site : PanicSite) :
    openFile fs path ≠ .panic site := by
  unfold openFile
  split <;> simp

@[simp] theorem openFile_eq_next {fs : FileSystem} {path : PathBuf} {file : OpenFile} :
    openFile fs path = .next file ↔ fs.open path = .ok file := by
  unfold openFile
  split <;> simp_all

end Spacedrive.CustomUri
