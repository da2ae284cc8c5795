/-
  TelegramTd.Documents

  How `DocumentsManager` writes a cached document to td's binary storage and
  reads it back (DocumentsManager.hpp): `store_document` stores the file
  name, the MIME type, the minithumbnail, the thumbnail and the file id, in
  that order; `parse_document` reads them in the same order, the
  minithumbnail only from data stored at a version that has minithumbnails,
  and hands the document to `on_get_document` unless a read failed or the
  file id is invalid, when it returns the invalid `FileId()`.

  The `store` and `parse` of each field type live in tl_helpers.h,
  PhotoSize.hpp and FileId.hpp, not under src/; a `FieldCodec` stands for
  each, with the one law the two functions rely on: what `store` wrote,
  `parse` reads back, as the value or, for files, as the id the file manager
  gives the stored file.  `TlParser` is the parser state: the bytes left, the
  version the data was stored at, and whether a read has failed.

  `parseDocument_storeDocument` is the round trip, and
  `parseDocument_before_minithumbnails` reads data stored before
  minithumbnails existed.  `DocumentsTd.lowBytes` stores with codecs that
  write real bytes, on which both are run: with the wrong version the same
  bytes do not parse.
-/

import TelegramTd.Basic

namespace TelegramTd
namespace Documents

/-- `DocumentsManager::GeneralDocument` (DocumentsManager.h, not under src/), with its
    default members. -/
structure GeneralDocument where
  fileName : String := ""
  mimeType : String := ""
  minithumbnail : String := ""
  thumbnail : PhotoSize := {}
  fileId : FileId := ⟨0⟩
deriving DecidableEq

/-- `store` and `parse` of one field type.  `fetch` reads a value from the front of the
    bytes, or fails; it reads back what `store` wrote as `readBack` of it (the identity for
    plain values, the file manager's new id for a stored file). -/
structure FieldCodec (α : Type) where
  store : α → List UInt8
  fetch : List UInt8 → Option (α × List UInt8)
  readBack : α → α
  fetch_store : ∀ a rest, fetch (store a ++ rest) = some (readBack a, rest)

/-- A `TlParser`: the bytes left, the version they were stored at, and whether a read
    failed (`get_error() != nullptr`). -/
structure Parser where
  data : List UInt8
  version : Int
  error : Bool
deriving DecidableEq

/-- `parse(x, parser)`.  A failed read sets the error, which also empties the parser, and
    leaves `x` as it was. -/
def Parser.parse {α : Type} (codec : FieldCodec α) (x : α) (parser : Parser) : α × Parser :=
  match codec.fetch parser.data with
  | some (a, rest) => (a, { parser with data := rest })
  | none => (x, { parser with data := [], error := true })

/-- What the two functions read of the rest of td: the field codecs, the value of
    `Version::SupportMinithumbnails` (Version.h, not under src/) and `get_document`. -/
structure DocumentsTd where
  string : FieldCodec String
  photoSize : FieldCodec PhotoSize
  file : FieldCodec FileId
  supportMinithumbnails : Int
  getDocument : FileId → Option GeneralDocument

variable (td : DocumentsTd)

/-- `DocumentsManager::store_document`: the document must be cached. -/
def storeDocument (fileId : FileId) : Option (List UInt8) :=
  match td.getDocument fileId with
  | none => none
  | some document =>
    some (td.string.store document.fileName ++ td.string.store document.mimeType ++
      td.string.store document.minithumbnail ++ td.photoSize.store document.thumbnail ++
      td.file.store fileId)

/-- `DocumentsManager::parse_document`: the document handed to
    `on_get_document(std::move(document), false)`, or `none` for `FileId()`. -/
def parseDocument (parser : Parser) : Option GeneralDocument × Parser :=
  let document : GeneralDocument := {}
  let (fileName, parser) := parser.parse td.string document.fileName
  let (mimeType, parser) := parser.parse td.string document.mimeType
  let (minithumbnail, parser) :=
    if parser.version ≥ td.supportMinithumbnails then
      parser.parse td.string document.minithumbnail
    else (document.minithumbnail, parser)
  let (thumbnail, parser) := parser.parse td.photoSize document.thumbnail
  let (fileId, parser) := parser.parse td.file document.fileId
  if parser.error || !fileId.isValid then (none, parser)
  else (some { fileName, mimeType, minithumbnail, thumbnail, fileId }, parser)

-- ============================================================================
-- Codecs that write bytes
-- ============================================================================

/-! Small codecs for evaluating the two functions on real bytes: a string is its characters'
low bytes, each after a non-zero marker, closed by a `0`; a file id is its id's low byte, the
id the file manager gives the stored file; a photo size is its file.  Each reads back what it
wrote, as the law of `FieldCodec` asks. -/

/-- The low byte of a character, read back as a character. -/
def lowByte (c : Char) : Char := Char.ofNat c.toNat.toUInt8.toNat

def storeLowBytes : List Char → List UInt8
  | [] => [0]
  | c :: cs => 1 :: c.toNat.toUInt8 :: storeLowBytes cs

def fetchLowBytes : List UInt8 → Option (List Char × List UInt8)
  | [] => none
  | [b] => if b = 0 then some ([], []) else none
  | b :: c :: rest =>
    if b = 0 then some ([], c :: rest)
    else (fetchLowBytes rest).map fun r => (Char.ofNat c.toNat :: r.1, r.2)

theorem fetchLowBytes_storeLowBytes (cs : List Char) (rest : List UInt8) :
    fetchLowBytes (storeLowBytes cs ++ rest) = some (cs.map lowByte, rest) := by
  induction cs with
  | nil => rcases rest with _ | ⟨b, rest⟩ <;> rfl
  | cons c cs ih => simp [storeLowBytes, fetchLowBytes, ih, lowByte]

def FieldCodec.lowBytes : FieldCodec String where
  store s := storeLowBytes s.data
  fetch bytes := (fetchLowBytes bytes).map fun r : List Char × List UInt8 => (⟨r.1⟩, r.2)
  readBack s := ⟨s.data.map lowByte⟩
  fetch_store s rest := by simp [fetchLowBytes_storeLowBytes]

def FieldCodec.fileByte : FieldCodec FileId where
  store fileId := [fileId.id.toNat.toUInt8]
  fetch
    | [] => none
    | b :: rest => some (⟨b.toNat⟩, rest)
  readBack fileId := ⟨fileId.id.toNat.toUInt8.toNat⟩
  fetch_store _ _ := rfl

def FieldCodec.thumbnailFile : FieldCodec PhotoSize where
  store photoSize := FieldCodec.fileByte.store photoSize.fileId
  fetch bytes := (FieldCodec.fileByte.fetch bytes).map fun r : FileId × List UInt8 =>
    ({ fileId := r.1 }, r.2)
  readBack photoSize := { fileId := FieldCodec.fileByte.readBack photoSize.fileId }
  fetch_store _ _ := rfl

/-- A `Td` storing with those codecs, with minithumbnails from version `2` on, that caches
    one document, a video under file id `5` with a thumbnail file `6`. -/
def DocumentsTd.lowBytes : DocumentsTd :=
  ⟨.lowBytes, .thumbnailFile, .fileByte, 2, fun fileId =>
    if fileId = ⟨5⟩ then
      some { fileName := "a.mp4", mimeType := "video/mp4", minithumbnail := "m",
             thumbnail := { fileId := ⟨6⟩ }, fileId := ⟨5⟩ }
    else none⟩

-- ============================================================================
-- Reading back what was stored
-- ============================================================================

section RoundTrip

variable {td}

@[simp] theorem Parser.parse_store {α : Type} (codec : FieldCodec α) (a x : α)
    (rest : List UInt8) (version : Int) :
    Parser.parse codec x ⟨codec.store a ++ rest, version, false⟩ =
      (codec.readBack a, ⟨rest, version, false⟩) := by
  simp [Parser.parse, codec.fetch_store]

/-- A failed parser stays failed. -/
theorem Parser.error_of_parse {α : Type} {codec : FieldCodec α} {x a : α}
    {parser parser' : Parser} (h : parser.error = true)
    (he : parser.parse codec x = (a, parser')) : parser'.error = true := by
  unfold Parser.parse at he
  split at he <;> cases he <;> simp [h]

/-- Once a read has failed, `parse_document` returns `FileId()`. -/
theorem parseDocument_of_error {parser : Parser} (h : parser.error = true) :
    (parseDocument td parser).1 = none := by
  simp only [parseDocument]
  rcases h1 : parser.parse td.string "" with ⟨_, p1⟩
  rcases h2 : p1.parse td.string "" with ⟨_, p2⟩
  have e2 := Parser.error_of_parse (Parser.error_of_parse h h1) h2
  rcases h3 : (if p2.version ≥ td.supportMinithumbnails then p2.parse td.string "" else ("", p2))
    with ⟨_, p3⟩
  have e3 : p3.error = true := by
    split at h3
    · exact Parser.error_of_parse e2 h3
    · cases h3; exact e2
  rcases h4 : p3.parse td.photoSize {} with ⟨_, p4⟩
  rcases h5 : p4.parse td.file ⟨0⟩ with ⟨_, p5⟩
  simp [Parser.error_of_parse (Parser.error_of_parse e3 h4) h5]

theorem storeDocument_of_get {fileId : FileId} {document : GeneralDocument}
    (hdoc : td.getDocument fileId = some document) :
    storeDocument td fileId = some (td.string.store document.fileName ++
      td.string.store document.mimeType ++ td.string.store document.minithumbnail ++
      td.photoSize.store document.thumbnail ++ td.file.store fileId) := by
  simp only [storeDocument, hdoc]

/-- Storing a document that is not cached fails the `CHECK`. -/
theorem storeDocument_eq_none_iff (fileId : FileId) :
    storeDocument td fileId = none ↔ td.getDocument fileId = none := by
  unfold storeDocument
  split <;> simp_all

/-- **Documents read back as they were stored.**  A cached document stored by
    `store_document`, followed by any other data, is read by `parse_document` at every
    version that has minithumbnails: file name, MIME type and minithumbnail come back as
    stored, thumbnail and file id as their codecs read them back, and the parser stops right
    after the document, without error.  The document is handed to `on_get_document` exactly
    when the file id read back is valid. -/
theorem parseDocument_storeDocument (fileId : FileId) (document : GeneralDocument)
    (hdoc : td.getDocument fileId = some document) (version : Int)
    (hversion : td.supportMinithumbnails ≤ version) (rest : List UInt8) :
    ∃ bytes, storeDocument td fileId = some bytes ∧
      parseDocument td ⟨bytes ++ rest, version, false⟩ =
        (if (td.file.readBack fileId).isValid then
          some { fileName := td.string.readBack document.fileName
                 mimeType := td.string.readBack document.mimeType
                 minithumbnail := td.string.readBack document.minithumbnail
                 thumbnail := td.photoSize.readBack document.thumbnail
                 fileId := td.file.readBack fileId }
        else none, ⟨rest, version, false⟩) := by
  refine ⟨_, storeDocument_of_get hdoc, ?_⟩
  simp only [parseDocument, List.append_assoc, Parser.parse_store, ge_iff_le, hversion,
    if_true, Bool.false_or]
  cases (td.file.readBack fileId).isValid <;> rfl

/-- The cached video, stored and read back at a version with minithumbnails, with a byte of
    other data after it. -/
theorem parseDocument_storeDocument_of_lowBytes :
    ∃ bytes, storeDocument DocumentsTd.lowBytes ⟨5⟩ = some bytes ∧
      parseDocument DocumentsTd.lowBytes ⟨bytes ++ [9], 3, false⟩ =
        (some { fileName := "a.mp4", mimeType := "video/mp4", minithumbnail := "m",
                thumbnail := { fileId := ⟨6⟩ }, fileId := ⟨5⟩ }, ⟨[9], 3, false⟩) := by
  obtain ⟨bytes, hstore, hparse⟩ :=
    @parseDocument_storeDocument DocumentsTd.lowBytes ⟨5⟩ _ rfl 3 (by decide) [9]
  exact ⟨bytes, hstore, hparse.trans (by decide)⟩

/-- Data stored before minithumbnails existed, without one, is read at its own version with
    an empty minithumbnail. -/
theorem parseDocument_before_minithumbnails (fileName mimeType : String) (thumbnail : PhotoSize)
    (fileId : FileId) (version : Int) (hversion : version < td.supportMinithumbnails)
    (rest : List UInt8) :
    parseDocument td ⟨td.string.store fileName ++ td.string.store mimeType ++
        td.photoSize.store thumbnail ++ td.file.store fileId ++ rest, version, false⟩ =
      (if (td.file.readBack fileId).isValid then
        some { fileName := td.string.readBack fileName
               mimeType := td.string.readBack mimeType
               thumbnail := td.photoSize.readBack thumbnail
               fileId := td.file.readBack fileId }
      else none, ⟨rest, version, false⟩) := by
  simp only [parseDocument, List.append_assoc, Parser.parse_store, ge_iff_le,
    Int.not_le.mpr hversion, if_false, Bool.false_or]
  cases (td.file.readBack fileId).isValid <;> rfl

/-- The video stored without a minithumbnail, read at version `1`, before minithumbnails;
    read at version `2` instead, the same bytes fail, the thumbnail's bytes being taken for a
    minithumbnail. -/
theorem parseDocument_before_minithumbnails_of_lowBytes :
    (1 : Int) < DocumentsTd.lowBytes.supportMinithumbnails ∧
    parseDocument DocumentsTd.lowBytes ⟨DocumentsTd.lowBytes.string.store "a.mp4" ++
        DocumentsTd.lowBytes.string.store "video/mp4" ++
        DocumentsTd.lowBytes.photoSize.store { fileId := ⟨6⟩ } ++
        DocumentsTd.lowBytes.file.store ⟨5⟩ ++ [9], 1, false⟩ =
      (some { fileName := "a.mp4", mimeType := "video/mp4", thumbnail := { fileId := ⟨6⟩ },
              fileId := ⟨5⟩ }, ⟨[9], 1, false⟩) ∧
    (parseDocument DocumentsTd.lowBytes ⟨DocumentsTd.lowBytes.string.store "a.mp4" ++
        DocumentsTd.lowBytes.string.store "video/mp4" ++
        DocumentsTd.lowBytes.photoSize.store { fileId := ⟨6⟩ } ++
        DocumentsTd.lowBytes.file.store ⟨5⟩ ++ [9], 2, false⟩).1 = none :=
  ⟨by decide, (@parseDocument_before_minithumbnails DocumentsTd.lowBytes "a.mp4" "video/mp4"
    { fileId := ⟨6⟩ } ⟨5⟩ 1 (by decide) [9]).trans (by decide), by decide⟩

end RoundTrip

end Documents
end TelegramTd
