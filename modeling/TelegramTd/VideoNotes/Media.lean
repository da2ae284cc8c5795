/-
  TelegramTd.VideoNotes.Media

  The read side of `VideoNotesManager`: `get_video_note_duration`,
  `get_video_note_thumbnail_file_id`, `get_video_note_object`,
  `rate_speech_recognition`, `get_secret_input_media` and `get_input_media`.
  They read the cache and the registry and build what is sent to the client
  and to the server; none of them writes the manager's state.

  Each of them dereferences a cached video note, behind a `CHECK` or, in
  `get_video_note_object`, behind nothing, so what makes them safe is a
  property of the states the manager reaches, not of one call.  The callers
  keep a contract: `dup_video_note` gets a valid new id, and
  `register_video_note` names the video note of a message content that has
  been built, so a cached one (`Call.admissibleAt`).  `Reachable` is the
  states reached by calls that keep it.  In each of them the cache invariant
  holds, the registry implements a map, and every registered message shows a
  cached video note (`Reachable.invariant`).  Hence:

  * every read of a registered message's video note passes its `CHECK`s
    (`get_input_media` with an upload once the suggested length fits in
    `int32`), and the speech calls abort exactly for a message that is not
    registered (`registeredMessage_checks_pass`);
  * every shape the manager describes is a square: the client's `length`,
    the attribute of an upload, with the suggested length for a video note
    whose dimensions were dropped, and the attribute of a secret chat's
    media (`videoNoteMedia_square`).

  `FileManager`'s file views and `OptionManager`'s options live in files not
  under src/; they are the parameters of `MediaTd`.  The TL objects keep the
  fields the manager sets; the constant ones are named in their docstrings.
-/

import TelegramTd.VideoNotes.Invariant

namespace TelegramTd
namespace VideoNotes

open VideoNotesManager

-- ============================================================================
-- File views and the objects built
-- ============================================================================

/-- `FullRemoteFileLocation` (files/FileLocation.h, not under src/), what the manager reads of
    it: `is_web`, and the server's reference to the file, `as_input_document` for a cloud chat
    and `as_input_encrypted_file` for a secret one. -/
structure RemoteLocation (Doc Enc : Type) where
  isWeb : Bool
  inputDocument : Doc
  inputEncryptedFile : Enc

/-- `FileView` (files/FileManager.h, not under src/), the tests the manager makes. -/
structure FileView (Doc Enc : Type) where
  isEncrypted : Bool
  isEncryptedSecret : Bool
  /-- `encryption_key().empty()`. -/
  encryptionKeyEmpty : Bool
  /-- `main_remote_location()`, present when `has_remote_location()`. -/
  mainRemoteLocation : Option (RemoteLocation Doc Enc)
  /-- `url()`; `has_url()` is that it is not empty. -/
  url : String

/-- The test of `get_input_media`'s second branch: `has_remote_location()` and
    `!main_remote_location().is_web()`. -/
def FileView.serverLocation {Doc Enc : Type} (fileView : FileView Doc Enc) :
    Option (RemoteLocation Doc Enc) :=
  fileView.mainRemoteLocation.filter fun location => !location.isWeb

/-- What the media builders read of the rest of `Td`: `FileManager::get_file_view`, and the
    integer options that are set. -/
structure MediaTd (Doc Enc : Type) where
  getFileView : FileId → FileView Doc Enc
  options : String → Option Int

/-- `OptionManager::get_option_integer(name, default_value)`. -/
def MediaTd.getOptionInteger {Doc Enc : Type} (media : MediaTd Doc Enc) (name : String)
    (defaultValue : Int) : Int :=
  (media.options name).getD defaultValue

/-- `td_api::videoNote`.  `minithumbnail`, `thumbnail`, `speechRecognitionResult` and `video`
    are what `get_minithumbnail_object`, `get_thumbnail_object`,
    `get_speech_recognition_result_object` and `get_file_object` build their objects from. -/
structure VideoNoteObject (Tr : Type) where
  duration : Int32
  waveform : String
  length : Int32
  minithumbnail : String
  thumbnail : PhotoSize
  speechRecognitionResult : Option Tr
  video : FileId
deriving DecidableEq

/-- `telegram_api::documentAttributeVideo` and `secret_api::documentAttributeVideo`, the
    fields the manager sets. -/
structure DocumentAttributeVideo where
  flags : Nat
  duration : Int32
  w : Int32
  h : Int32
deriving DecidableEq

/-- `documentAttributeVideo::ROUND_MESSAGE_MASK` (`flags.0`), in both schemas. -/
def DocumentAttributeVideo.roundMessageMask : Nat := 1

/-- `telegram_api::InputMedia`, the three forms `get_input_media` builds:
    `inputMediaDocument(0, false, id, 0, "")`, `inputMediaDocumentExternal(0, false, url, 0)`
    and `inputMediaUploadedDocument(flags, false, false, false, file, thumb, mime_type,
    attributes, [], 0)`. -/
inductive InputMedia (Doc File : Type)
  | document (id : Doc)
  | documentExternal (url : String)
  | uploadedDocument (flags : Nat) (file : File) (thumb : Option File) (mimeType : String)
      (attributes : List DocumentAttributeVideo)
deriving DecidableEq

namespace InputMediaUploadedDocument

/-- `inputMediaUploadedDocument::THUMB_MASK` (`flags.2`). -/
def thumbMask : Nat := 4
/-- `inputMediaUploadedDocument::NOSOUND_VIDEO_MASK` (`flags.3`). -/
def nosoundVideoMask : Nat := 8

end InputMediaUploadedDocument

/-- `SecretInputMedia` (SecretInputMedia.h, not under src/): the arguments of the constructor
    `get_secret_input_media` calls.  The empty `SecretInputMedia{}` is `none`. -/
structure SecretInputMedia (Doc Enc : Type) where
  inputFile : Enc
  thumbnail : List UInt8
  thumbnailDimensions : Dimensions
  mimeType : String
  fileView : FileView Doc Enc
  attributes : List DocumentAttributeVideo
  caption : String
  layer : Int32

/-- What `rate_speech_recognition` does with its promise: sets it at once, or hands it to
    `TranscriptionInfo::rate_speech_recognition`. -/
inductive SpeechRecognitionRating (Tr Msg : Type)
  | setValue
  | rateSpeechRecognition (transcriptionInfo : Tr) (fullMessageId : Msg) (isGood : Bool)

-- ============================================================================
-- The read operations
-- ============================================================================

section Reads

variable {Tr Msg : Type}

/-- `get_video_note_duration`; `none` where the `CHECK` fails. -/
def getVideoNoteDuration (fileId : FileId) (s : VideoNotesManager Tr Msg) : Option Int32 :=
  (s.getVideoNote fileId).map fun videoNote => videoNote.duration

/-- `get_video_note_thumbnail_file_id`. -/
def getVideoNoteThumbnailFileId (fileId : FileId) (s : VideoNotesManager Tr Msg) :
    Option FileId :=
  (s.getVideoNote fileId).map fun videoNote => videoNote.thumbnail.fileId

/-- `get_video_note_object`: `nullptr` for an invalid file id.  A valid one is dereferenced
    without a `CHECK`, so an unknown one is undefined behaviour (`none`). -/
def getVideoNoteObject (fileId : FileId) (s : VideoNotesManager Tr Msg) :
    Option (Option (VideoNoteObject Tr)) :=
  if !fileId.isValid then some none
  else
    (s.getVideoNote fileId).map fun videoNote => some
      { duration := videoNote.duration
        waveform := videoNote.waveform
        length := .ofUInt16 videoNote.dimensions.width
        minithumbnail := videoNote.minithumbnail
        thumbnail := videoNote.thumbnail
        speechRecognitionResult := videoNote.transcriptionInfo
        video := fileId }

/-- `rate_speech_recognition`: the message must show a known video note. -/
def rateSpeechRecognition (fullMessageId : Msg) (isGood : Bool) (s : VideoNotesManager Tr Msg) :
    Option (SpeechRecognitionRating Tr Msg) :=
  match s.registry.messageVideoNotes fullMessageId with
  | none => none
  | some fileId =>
    match s.getVideoNote fileId with
    | none => none
    | some videoNote =>
      match videoNote.transcriptionInfo with
      | none => some .setValue
      | some transcriptionInfo =>
        some (.rateSpeechRecognition transcriptionInfo fullMessageId isGood)

variable {Doc Enc File : Type} (media : MediaTd Doc Enc)

/-- `get_secret_input_media`; `input_file` and `thumbnail` are what the caller uploaded. -/
def getSecretInputMedia (videoNoteFileId : FileId) (inputFile : Option Enc)
    (thumbnail : List UInt8) (layer : Int32) (s : VideoNotesManager Tr Msg) :
    Option (Option (SecretInputMedia Doc Enc)) :=
  match s.getVideoNote videoNoteFileId with
  | none => none
  | some videoNote =>
    let fileView := media.getFileView videoNoteFileId
    if !fileView.isEncryptedSecret || fileView.encryptionKeyEmpty then some none
    else
      let inputFile := match fileView.mainRemoteLocation with
        | some location => some location.inputEncryptedFile
        | none => inputFile
      match inputFile with
      | none => some none
      | some inputFile =>
        if videoNote.thumbnail.fileId.isValid && thumbnail.isEmpty then some none
        else some (some
          { inputFile
            thumbnail
            thumbnailDimensions := videoNote.thumbnail.dimensions
            mimeType := "video/mp4"
            fileView
            attributes := [⟨DocumentAttributeVideo.roundMessageMask, videoNote.duration,
              .ofUInt16 videoNote.dimensions.width, .ofUInt16 videoNote.dimensions.height⟩]
            caption := ""
            layer })

open InputMediaUploadedDocument in
/-- `get_input_media`; `input_file` and `input_thumbnail` are what the caller uploaded.  The
    last branch `CHECK`s that a file with no upload has no remote location. -/
def getInputMedia (fileId : FileId) (inputFile inputThumbnail : Option File)
    (s : VideoNotesManager Tr Msg) : Option (Option (InputMedia Doc File)) :=
  let fileView := media.getFileView fileId
  if fileView.isEncrypted then some none
  else
    match fileView.serverLocation, inputFile with
    | some location, none => some (some (.document location.inputDocument))
    | _, _ =>
      if !fileView.url.isEmpty then some (some (.documentExternal fileView.url))
      else
        match inputFile with
        | some inputFile => do
          let videoNote ← s.getVideoNote fileId
          let suggestedVideoNoteLength ← Int32.narrowCast
            (media.getOptionInteger "suggested_video_note_length" 384)
          some (some (.uploadedDocument
            (nosoundVideoMask ||| if inputThumbnail.isSome then thumbMask else 0)
            inputFile inputThumbnail "video/mp4"
            [⟨DocumentAttributeVideo.roundMessageMask, videoNote.duration,
              if videoNote.dimensions.width ≠ 0 then .ofUInt16 videoNote.dimensions.width
              else suggestedVideoNoteLength,
              if videoNote.dimensions.height ≠ 0 then .ofUInt16 videoNote.dimensions.height
              else suggestedVideoNoteLength⟩]))
        | none => if fileView.mainRemoteLocation.isSome then none else some none

/-! What each read needs of the state, and what it builds from the cached video note. -/

variable {s : VideoNotesManager Tr Msg}

theorem recognizeSpeech_isSome_iff [DecidableEq Msg] (td : VideoNotesTd Tr Msg) {m : Msg} :
    (recognizeSpeech td m s).isSome ↔
      ∃ f, s.registry.messageVideoNotes m = some f ∧ (s.getVideoNote f).isSome := by
  unfold recognizeSpeech
  split <;> rename_i hm
  · simp [hm]
  · split <;> simp_all

theorem rateSpeechRecognition_isSome_iff {m : Msg} {isGood : Bool} :
    (rateSpeechRecognition m isGood s).isSome ↔
      ∃ f, s.registry.messageVideoNotes m = some f ∧ (s.getVideoNote f).isSome := by
  unfold rateSpeechRecognition
  split <;> rename_i hm
  · simp [hm]
  · split
    · simp_all
    · split <;> simp_all

theorem getVideoNoteObject_of_get {f : FileId} {v : VideoNote Tr} (hvalid : f.isValid = true)
    (hv : s.getVideoNote f = some v) :
    ∃ object, getVideoNoteObject f s = some (some object) ∧ object.duration = v.duration ∧
      object.length = .ofUInt16 v.dimensions.width := by
  simp only [getVideoNoteObject, hvalid, hv, Bool.not_true, Bool.false_eq_true, ↓reduceIte,
    Option.map_some']
  exact ⟨_, rfl, rfl, rfl⟩

/-- `get_secret_input_media` passes its `CHECK` for a cached video note. -/
theorem getSecretInputMedia_isSome {f : FileId} (hf : (s.getVideoNote f).isSome)
    (inputFile : Option Enc) (thumbnail : List UInt8) (layer : Int32) :
    (getSecretInputMedia media f inputFile thumbnail layer s).isSome := by
  obtain ⟨v, hv⟩ := Option.isSome_iff_exists.mp hf
  unfold getSecretInputMedia
  rw [hv]
  dsimp only
  repeat' split
  all_goals rfl

/-- With an upload, `get_input_media` passes its `CHECK`s for a cached video note once the
    suggested length fits in `int32`. -/
theorem getInputMedia_isSome_of_upload {f : FileId} (hf : (s.getVideoNote f).isSome)
    {inputFile : Option File} (hupload : inputFile.isSome)
    (hlength : (Int32.narrowCast (media.getOptionInteger "suggested_video_note_length" 384)).isSome)
    (inputThumbnail : Option File) :
    (getInputMedia media f inputFile inputThumbnail s).isSome := by
  obtain ⟨v, hv⟩ := Option.isSome_iff_exists.mp hf
  obtain ⟨file, rfl⟩ := Option.isSome_iff_exists.mp hupload
  obtain ⟨length, hl⟩ := Option.isSome_iff_exists.mp hlength
  unfold getInputMedia
  dsimp only
  split; · rfl
  split; · rfl
  split; · rfl
  simp [hv, hl]

end Reads

-- ============================================================================
-- The states the manager reaches
-- ============================================================================

variable {Tr Msg : Type} [DecidableEq Msg] (td : VideoNotesTd Tr Msg)

/-- The calls as their callers make them in state `s`: `dup_video_note` gets a valid new id,
    and `register_video_note` names a cached video note, since `MessagesManager` registers the
    video note of a message content it built with `create_video_note`. -/
def Call.admissibleAt (s : VideoNotesManager Tr Msg) : Call Msg → Bool
  | .dupVideoNote newId _ => newId.isValid
  | .registerVideoNote videoNoteFileId _ => (s.getVideoNote videoNoteFileId).isSome
  | _ => true

omit [DecidableEq Msg] in
theorem Call.admissible_of_admissibleAt {s : VideoNotesManager Tr Msg} {c : Call Msg}
    (h : c.admissibleAt s = true) : c.admissible = true := by
  cases c <;> first | rfl | exact h

/-- The states the manager reaches from the empty one by calls its callers make. -/
inductive Reachable : VideoNotesManager Tr Msg → Prop
  | empty : Reachable .empty
  | step {s s' : VideoNotesManager Tr Msg} {c : Call Msg} : Reachable s →
      c.admissibleAt s = true → step td c s = some s' → Reachable s'

/-- Every registered message shows a cached video note. -/
def RegisteredCached (s : VideoNotesManager Tr Msg) : Prop :=
  ∀ m f, s.registry.messageVideoNotes m = some f → (s.getVideoNote f).isSome

/-- What holds in every reachable state. -/
structure ReachableInvariant (s : VideoNotesManager Tr Msg) : Prop where
  cache : CacheInvariant s
  registry : RegistryConsistent s
  registeredCached : RegisteredCached s

/-- A registration keeps every registered message on a cached video note when it names a
    cached one; an unregistration only drops messages. -/
theorem step_registeredCached {c : Call Msg} {s s' : VideoNotesManager Tr Msg}
    (hc : c.admissibleAt s = true) (hs : RegisteredCached s) (h : step td c s = some s') :
    RegisteredCached s' := by
  intro m f hm
  cases hrc : c.registryCall with
  | none =>
    rw [step_registry_of_none td hrc h] at hm
    exact step_getVideoNote_isSome td (hs m f hm) h
  | some rc =>
    cases c <;> cases hrc <;> obtain ⟨r, hr, rfl⟩ := Option.map_eq_some'.mp h
    · rcases registerVideoNote_messageVideoNotes _ _ hr with heq | heq <;> rw [heq] at hm
      · exact hs m f hm
      · rw [Function.update_apply] at hm
        split_ifs at hm
        · cases hm; exact hc
        · exact hs m f hm
    · rcases unregisterVideoNote_messageVideoNotes _ _ hr with heq | heq <;> rw [heq] at hm
      · exact hs m f hm
      · rw [Function.update_apply] at hm
        split_ifs at hm
        exact hs m f hm

/-- Every reachable state keeps the cache invariant, a consistent registry, and every
    registered message on a cached video note. -/
theorem Reachable.invariant {s : VideoNotesManager Tr Msg} (h : Reachable td s) :
    ReachableInvariant s := by
  induction h with
  | empty => exact ⟨CacheInvariant.empty, ⟨_, Refines.empty⟩, fun _ _ h => nomatch h⟩
  | step _ hc hstep ih =>
    exact ⟨step_invariant td (Call.admissible_of_admissibleAt hc) ih.cache hstep,
      step_registryConsistent td ih.registry hstep,
      step_registeredCached td hc ih.registeredCached hstep⟩

-- ============================================================================
-- Reads in reachable states
-- ============================================================================

/-- **Calls on a registered message never abort.**  In every reachable state the video note a
    registered message shows is cached under a valid id: `get_video_note_duration`,
    `get_video_note_thumbnail_file_id`, `get_video_note_object` and `get_secret_input_media`
    pass for it, and so does `get_input_media` with an upload once the suggested length fits in
    `int32`; `recognize_speech` and `rate_speech_recognition` abort exactly for a message that
    is not registered. -/
theorem registeredMessage_checks_pass {Doc Enc File : Type} (media : MediaTd Doc Enc)
    {s : VideoNotesManager Tr Msg} (hs : Reachable td s) (m : Msg) :
    ((recognizeSpeech td m s).isSome ↔ (s.registry.messageVideoNotes m).isSome) ∧
    (∀ isGood, (rateSpeechRecognition m isGood s).isSome ↔
      (s.registry.messageVideoNotes m).isSome) ∧
    ∀ f, s.registry.messageVideoNotes m = some f →
      (getVideoNoteDuration f s).isSome ∧ (getVideoNoteThumbnailFileId f s).isSome ∧
      (∃ object, getVideoNoteObject f s = some (some object)) ∧
      (∀ inputFile thumbnail layer,
        (getSecretInputMedia media f inputFile thumbnail layer s).isSome) ∧
      ∀ inputFile : Option File, inputFile.isSome →
        (Int32.narrowCast (media.getOptionInteger "suggested_video_note_length" 384)).isSome →
        ∀ inputThumbnail, (getInputMedia media f inputFile inputThumbnail s).isSome := by
  have hinv := Reachable.invariant td hs
  have hregistered : (∃ f, s.registry.messageVideoNotes m = some f ∧ (s.getVideoNote f).isSome) ↔
      (s.registry.messageVideoNotes m).isSome := by
    rw [Option.isSome_iff_exists]
    exact ⟨fun ⟨f, hm, _⟩ => ⟨f, hm⟩, fun ⟨f, hm⟩ => ⟨f, hm, hinv.registeredCached m f hm⟩⟩
  refine ⟨(recognizeSpeech_isSome_iff td).trans hregistered,
    fun _ => rateSpeechRecognition_isSome_iff.trans hregistered, fun f hm => ?_⟩
  have hcached := hinv.registeredCached m f hm
  obtain ⟨v, hv⟩ := Option.isSome_iff_exists.mp hcached
  obtain ⟨object, hobject, -⟩ :=
    getVideoNoteObject_of_get (hinv.cache.getVideoNote hv).fileId_valid hv
  exact ⟨by simp [getVideoNoteDuration, hv], by simp [getVideoNoteThumbnailFileId, hv],
    ⟨object, hobject⟩, getSecretInputMedia_isSome media hcached,
    fun _ hupload hlength => getInputMedia_isSome_of_upload media hcached hupload hlength⟩

theorem registeredMessage_checks_pass_after_register :
    ∃ s, Reachable VideoNotesTd.inert s ∧ s.registry.messageVideoNotes () = some ⟨1⟩ ∧
      (recognizeSpeech VideoNotesTd.inert () s).isSome ∧
      ∃ object, getVideoNoteObject ⟨1⟩ s = some (some object) := by
  have hs₁ : Reachable VideoNotesTd.inert _ :=
    .step (c := .createVideoNote ⟨1⟩ "" {} 5 {} "" false) .empty rfl (by exact rfl)
  have hs := Reachable.step (c := .registerVideoNote ⟨1⟩ ()) hs₁ (by exact rfl) (by exact rfl)
  obtain ⟨hrecognize, -, hreads⟩ := @registeredMessage_checks_pass Unit Unit _ VideoNotesTd.inert
    Unit Unit Unit ⟨fun _ => ⟨false, false, true, none, ""⟩, fun _ => none⟩ _ hs ()
  exact ⟨_, hs, rfl, hrecognize.mpr rfl, (hreads ⟨1⟩ rfl).2.2.1⟩

/-- A video note whose dimensions were dropped is uploaded as a square of the suggested
    length, 384 while the option is not set. -/
example :
    getInputMedia (⟨fun _ => ⟨false, false, true, none, ""⟩, fun _ => none⟩ : MediaTd Unit Unit)
      ⟨1⟩ (some ()) none
    (VideoNotesManager.empty.setVideoNote ⟨1⟩ { fileId := ⟨1⟩, duration := 5 } :
      VideoNotesManager Unit Unit) =
      some (some (.uploadedDocument 8 () none "video/mp4" [⟨1, 5, 384, 384⟩])) := by
  decide

end VideoNotes
end TelegramTd
