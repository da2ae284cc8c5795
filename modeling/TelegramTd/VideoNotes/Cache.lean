/-
  TelegramTd.VideoNotes.Cache

  The entity cache of `VideoNotesManager`: `video_notes_`, from file id to
  the video note stored for it, and every operation of VideoNotesManager.cpp
  that writes it: `on_get_video_note` with `create_video_note`,
  `dup_video_note`, `merge_video_notes`, `delete_video_note_thumbnail`, and
  the transcription flow of `recognize_speech` and
  `on_transcribed_audio_update`.

  `TranscriptionInfo`, the file manager and the message-id tests live in
  files not under src/; they are the parameters of `VideoNotesTd`.  An
  operation returns `none` where a `CHECK` fails.

  `onGetVideoNote_of_keyed` is the contract of `on_get_video_note`: first
  writer wins unless `replace` is set, and then the change-guarded assignments
  amount to overwriting four value fields.  The thumbnail is replaced only by
  one that `PhotoSize`'s `==` tells apart, and `==` does not read the remote
  id of the thumbnail's file.  The contract needs the stored entry's file id
  to be its key, which `VideoNotes.Invariant` proves of every reachable state.
-/

import TelegramTd.VideoNotes.Registry

namespace TelegramTd
namespace VideoNotes

/-- `VideoNotesManager::VideoNote` (VideoNotesManager.h, not under src/), with its default
    members; `transcriptionInfo` is the `unique_ptr<TranscriptionInfo>`, null as `none`. -/
structure VideoNote (Tr : Type) where
  minithumbnail : String := ""
  thumbnail : PhotoSize := {}
  duration : Int32 := 0
  dimensions : Dimensions := {}
  waveform : String := ""
  transcriptionInfo : Option Tr := none
  fileId : FileId := ⟨0⟩
deriving DecidableEq

/-- `TranscriptionInfo` (TranscriptionInfo.h, not under src/), over the type `Tr` of its
    state.  The promise lists its methods hand back are completed by the manager and touch
    none of its state. -/
structure TranscriptionOps (Tr Msg : Type) where
  /-- `update_from(old, new)`: the merged state, and whether it completed a transcription. -/
  updateFrom : Option Tr → Option Tr → Option Tr × Bool
  copyIfTranscribed : Option Tr → Option Tr
  /-- `make_unique<TranscriptionInfo>()`. -/
  init : Tr
  /-- `recognize_speech`: the new state, and whether it changed visibly. -/
  recognizeSpeech : Tr → Msg → Tr × Bool
  onFailedTranscription : Tr → Status → Tr
  onFinalTranscription : Tr → String → Int → Tr
  /-- `on_partial_transcription`: the new state, and whether the text changed. -/
  onPartialTranscription : Tr → String → Int → Tr × Bool

/-- What `VideoNotesManager` reads of the rest of `Td`: `TranscriptionInfo`,
    `FileManager::dup_file_id`, `AuthManager::is_bot` and the message-id tests. -/
structure VideoNotesTd (Tr Msg : Type) where
  transcription : TranscriptionOps Tr Msg
  dupFileId : FileId → FileId
  isBot : Bool
  kind : MessageKind Msg

/-- A `Td` whose transcriptions never change and whose files duplicate to themselves, for
    evaluating the model on concrete calls. -/
def VideoNotesTd.inert : VideoNotesTd Unit Unit where
  transcription :=
    ⟨fun old _ => (old, false), id, (), fun t _ => (t, false), fun t _ => t, fun t _ _ => t,
      fun t _ _ => (t, false)⟩
  dupFileId := id
  isBot := false
  kind := ⟨fun _ => false, fun _ => true⟩

/-- `telegram_api::updateTranscribedAudio`, the fields the manager reads. -/
structure TranscribedAudioUpdate where
  pending : Bool
  transcriptionId : Int
  text : String
deriving DecidableEq

/-- The state of `VideoNotesManager`: `video_notes_`, whose values are `unique_ptr`s (a null
    one as `some none`), and the registry. -/
structure VideoNotesManager (Tr Msg : Type) where
  videoNotes : FileId → Option (Option (VideoNote Tr))
  registry : Registry Msg

namespace VideoNotesManager

variable {Tr Msg : Type}

def empty : VideoNotesManager Tr Msg := ⟨fun _ => none, .empty⟩

/-- `get_video_note`: `get_pointer` is null for an absent key and for a null pointer. -/
def getVideoNote (s : VideoNotesManager Tr Msg) (fileId : FileId) : Option (VideoNote Tr) :=
  (s.videoNotes fileId).join

/-- Storing a video note at `video_notes_[file_id]`. -/
def setVideoNote (s : VideoNotesManager Tr Msg) (fileId : FileId) (v : VideoNote Tr) :
    VideoNotesManager Tr Msg :=
  { s with videoNotes := Function.update s.videoNotes fileId (some (some v)) }

@[simp] theorem setVideoNote_registry (s : VideoNotesManager Tr Msg) (f : FileId)
    (v : VideoNote Tr) : (s.setVideoNote f v).registry = s.registry := rfl

@[simp] theorem setVideoNote_self (s : VideoNotesManager Tr Msg) (f : FileId) (v : VideoNote Tr) :
    (s.setVideoNote f v).videoNotes f = some (some v) := by
  simp [setVideoNote]

theorem setVideoNote_ne (s : VideoNotesManager Tr Msg) {f g : FileId} (v : VideoNote Tr)
    (h : g ≠ f) : (s.setVideoNote f v).videoNotes g = s.videoNotes g := by
  simp [setVideoNote, Function.update_noteq h]

@[simp] theorem getVideoNote_setVideoNote_self (s : VideoNotesManager Tr Msg) (f : FileId)
    (v : VideoNote Tr) : (s.setVideoNote f v).getVideoNote f = some v := by
  simp [getVideoNote]

theorem getVideoNote_setVideoNote_ne (s : VideoNotesManager Tr Msg) {f g : FileId}
    (v : VideoNote Tr) (h : g ≠ f) : (s.setVideoNote f v).getVideoNote g = s.getVideoNote g := by
  simp [getVideoNote, setVideoNote_ne _ _ h]

end VideoNotesManager

open VideoNotesManager

variable {Tr Msg : Type} (td : VideoNotesTd Tr Msg)

-- ============================================================================
-- Operations
-- ============================================================================

/-- The change-guarded assignments of `on_get_video_note`'s replace branch. -/
def assignChangedFields (v newVideoNote : VideoNote Tr) : VideoNote Tr :=
  let v :=
    if v.duration ≠ newVideoNote.duration ∨ v.dimensions ≠ newVideoNote.dimensions ∨
        v.waveform ≠ newVideoNote.waveform then
      { v with duration := newVideoNote.duration, dimensions := newVideoNote.dimensions,
               waveform := newVideoNote.waveform }
    else v
  let v :=
    if v.minithumbnail ≠ newVideoNote.minithumbnail then
      { v with minithumbnail := newVideoNote.minithumbnail }
    else v
  if !v.thumbnail.eqv newVideoNote.thumbnail then { v with thumbnail := newVideoNote.thumbnail }
  else v

/-- `on_get_video_note`: a video note seen for the first time is stored; a known one is kept,
    or, with `replace`, updated where the new one differs. -/
def onGetVideoNote (newVideoNote : VideoNote Tr) (replace : Bool) (s : VideoNotesManager Tr Msg) :
    Option (FileId × VideoNotesManager Tr Msg × List (Effect Msg)) :=
  let fileId := newVideoNote.fileId
  if !fileId.isValid then none
  else
    match s.getVideoNote fileId with
    | none => some (fileId, s.setVideoNote fileId newVideoNote, [])
    | some v =>
      if !replace then some (fileId, s, [])
      else if v.fileId ≠ newVideoNote.fileId then none
      else
        let v := assignChangedFields v newVideoNote
        let update := td.transcription.updateFrom v.transcriptionInfo
          newVideoNote.transcriptionInfo
        let s := s.setVideoNote fileId { v with transcriptionInfo := update.1 }
        some (fileId, s,
          if update.2 then onVideoNoteTranscriptionCompleted fileId s.registry else [])

/-- `create_video_note`: a negative duration becomes `0`, dimensions that are not a square of
    side at most 640 become the default ones, and a bot keeps no minithumbnail. -/
def createVideoNote (fileId : FileId) (minithumbnail : String) (thumbnail : PhotoSize)
    (duration : Int32) (dimensions : Dimensions) (waveform : String) (replace : Bool)
    (s : VideoNotesManager Tr Msg) : Option (VideoNotesManager Tr Msg × List (Effect Msg)) :=
  let v : VideoNote Tr :=
    { fileId
      duration := max duration 0
      dimensions :=
        if dimensions.width = dimensions.height ∧ dimensions.width ≤ 640 then dimensions else {}
      waveform
      minithumbnail := if !td.isBot then minithumbnail else ""
      thumbnail }
  (onGetVideoNote td v replace s).map fun result => result.2

/-- `dup_video_note`: a copy under `new_id`, with its own thumbnail file and a copy of a
    finished transcription. -/
def dupVideoNote (newId oldId : FileId) (s : VideoNotesManager Tr Msg) :
    Option (FileId × VideoNotesManager Tr Msg) :=
  match s.getVideoNote oldId with
  | none => none
  | some oldVideoNote =>
    match s.getVideoNote newId with
    | some _ => none
    | none => some (newId, s.setVideoNote newId
        { fileId := newId
          duration := oldVideoNote.duration
          dimensions := oldVideoNote.dimensions
          waveform := oldVideoNote.waveform
          minithumbnail := oldVideoNote.minithumbnail
          thumbnail := { oldVideoNote.thumbnail with
            fileId := td.dupFileId oldVideoNote.thumbnail.fileId }
          transcriptionInfo := td.transcription.copyIfTranscribed oldVideoNote.transcriptionInfo })

/-- `merge_video_notes`: duplicates the old video note when the new one is unknown, and asks
    the file manager to merge the two files.  The registry is not touched. -/
def mergeVideoNotes (newId oldId : FileId) (s : VideoNotesManager Tr Msg) :
    Option (VideoNotesManager Tr Msg × List (Effect Msg)) :=
  if !(oldId.isValid && newId.isValid) then none
  else if newId = oldId then none
  else
    match s.getVideoNote oldId with
    | none => none
    | some _ =>
      match s.getVideoNote newId with
      | none => (dupVideoNote td newId oldId s).map fun result => (result.2, [.mergeFiles newId oldId])
      | some _ => some (s, [.mergeFiles newId oldId])

/-- `delete_video_note_thumbnail`. -/
def deleteVideoNoteThumbnail (fileId : FileId) (s : VideoNotesManager Tr Msg) :
    Option (VideoNotesManager Tr Msg) :=
  match s.getVideoNote fileId with
  | none => none
  | some v => some (s.setVideoNote fileId { v with thumbnail := {} })

/-- `recognize_speech`: the message must show a known video note. -/
def recognizeSpeech (fullMessageId : Msg) (s : VideoNotesManager Tr Msg) :
    Option (VideoNotesManager Tr Msg × List (Effect Msg)) :=
  match s.registry.messageVideoNotes fullMessageId with
  | none => none
  | some fileId =>
    match s.getVideoNote fileId with
    | none => none
    | some v =>
      let result := td.transcription.recognizeSpeech
        (v.transcriptionInfo.getD td.transcription.init) fullMessageId
      let s := s.setVideoNote fileId { v with transcriptionInfo := some result.1 }
      some (s, if result.2 then onVideoNoteTranscriptionUpdated fileId s.registry else [])

/-- `on_transcribed_audio_update`; `closeFlag` is `G()->close_flag()`. -/
def onTranscribedAudioUpdate (fileId : FileId) (isInitial closeFlag : Bool)
    (rUpdate : Except Status TranscribedAudioUpdate) (s : VideoNotesManager Tr Msg) :
    Option (VideoNotesManager Tr Msg × List (Effect Msg)) :=
  if closeFlag then some (s, [])
  else
    match s.getVideoNote fileId with
    | none => none
    | some v =>
      match v.transcriptionInfo with
      | none => none
      | some transcriptionInfo =>
        match rUpdate with
        | .error error =>
          let transcriptionInfo := td.transcription.onFailedTranscription transcriptionInfo error
          let s := s.setVideoNote fileId { v with transcriptionInfo := some transcriptionInfo }
          some (s, onVideoNoteTranscriptionUpdated fileId s.registry)
        | .ok update =>
          if !update.pending then
            let transcriptionInfo := td.transcription.onFinalTranscription transcriptionInfo
              update.text update.transcriptionId
            let s := s.setVideoNote fileId { v with transcriptionInfo := some transcriptionInfo }
            some (s, onVideoNoteTranscriptionCompleted fileId s.registry)
          else
            let result := td.transcription.onPartialTranscription transcriptionInfo update.text
              update.transcriptionId
            let s := s.setVideoNote fileId { v with transcriptionInfo := some result.1 }
            some (s, (if result.2 then onVideoNoteTranscriptionUpdated fileId s.registry else []) ++
              if isInitial then [.subscribeToTranscribedAudioUpdates update.transcriptionId fileId]
              else [])

-- ============================================================================
-- `on_get_video_note`
-- ============================================================================

/-- The change-guarded assignments overwrite four value fields; the thumbnail is kept when
    `PhotoSize`'s `==` calls it equal to the new one, though its file's remote id may
    differ. -/
theorem assignChangedFields_eq (v c : VideoNote Tr) :
    assignChangedFields v c =
      { v with duration := c.duration, dimensions := c.dimensions, waveform := c.waveform,
               minithumbnail := c.minithumbnail,
               thumbnail := if v.thumbnail.eqv c.thumbnail then v.thumbnail else c.thumbnail } := by
  cases v; cases c
  simp only [assignChangedFields]
  split_ifs <;> simp_all

section OnGetVideoNote

variable {s : VideoNotesManager Tr Msg} {c : VideoNote Tr}

theorem onGetVideoNote_invalid (replace : Bool) (h : c.fileId.isValid = false) :
    onGetVideoNote td c replace s = none := by
  simp [onGetVideoNote, h]

theorem onGetVideoNote_new (replace : Bool) (hvalid : c.fileId.isValid = true)
    (hv : s.getVideoNote c.fileId = none) :
    onGetVideoNote td c replace s = some (c.fileId, s.setVideoNote c.fileId c, []) := by
  simp [onGetVideoNote, hvalid, hv]

theorem onGetVideoNote_keep {v : VideoNote Tr} (hvalid : c.fileId.isValid = true)
    (hv : s.getVideoNote c.fileId = some v) : onGetVideoNote td c false s = some (c.fileId, s, []) := by
  simp [onGetVideoNote, hvalid, hv]

theorem onGetVideoNote_replace {v : VideoNote Tr} (hvalid : c.fileId.isValid = true)
    (hv : s.getVideoNote c.fileId = some v) (hfile : v.fileId = c.fileId) :
    onGetVideoNote td c true s = some (c.fileId,
      s.setVideoNote c.fileId { v with
        duration := c.duration, dimensions := c.dimensions, waveform := c.waveform,
        minithumbnail := c.minithumbnail,
        thumbnail := if v.thumbnail.eqv c.thumbnail then v.thumbnail else c.thumbnail,
        transcriptionInfo := (td.transcription.updateFrom v.transcriptionInfo c.transcriptionInfo).1 },
      if (td.transcription.updateFrom v.transcriptionInfo c.transcriptionInfo).2 then
        onVideoNoteTranscriptionCompleted c.fileId s.registry else []) := by
  simp [onGetVideoNote, hvalid, hv, hfile, assignChangedFields_eq]

end OnGetVideoNote

/-- `on_get_video_note` in a state whose entry at the candidate's id, if any, carries that
    id: the call returns the candidate's file id, leaves the registry and every other entry
    alone, stores the candidate under a new key, keeps a known entry unless `replace` is set,
    and with `replace` takes the candidate's value fields, keeping its file id, keeping a
    thumbnail `==` calls equal, and merging the transcriptions with `update_from`. -/
theorem onGetVideoNote_of_keyed (s : VideoNotesManager Tr Msg) (c : VideoNote Tr) (replace : Bool)
    (hvalid : c.fileId.isValid = true)
    (hkey : ∀ v, s.getVideoNote c.fileId = some v → v.fileId = c.fileId) :
    ∃ s' effects, onGetVideoNote td c replace s = some (c.fileId, s', effects) ∧
      s'.registry = s.registry ∧
      (∀ f, f ≠ c.fileId → s'.videoNotes f = s.videoNotes f) ∧
      (s.getVideoNote c.fileId = none → s'.videoNotes c.fileId = some (some c)) ∧
      (∀ v, s.getVideoNote c.fileId = some v → replace = false → s' = s) ∧
      (∀ v, s.getVideoNote c.fileId = some v → replace = true →
        s'.videoNotes c.fileId = some (some { v with
          duration := c.duration, dimensions := c.dimensions, waveform := c.waveform,
          minithumbnail := c.minithumbnail,
          thumbnail := if v.thumbnail.eqv c.thumbnail then v.thumbnail else c.thumbnail,
          transcriptionInfo :=
            (td.transcription.updateFrom v.transcriptionInfo c.transcriptionInfo).1 })) := by
  rcases hv : s.getVideoNote c.fileId with _ | v
  · exact ⟨_, _, onGetVideoNote_new td replace hvalid hv, rfl,
      fun f hf => setVideoNote_ne _ _ hf, fun _ => setVideoNote_self .., fun _ h => (nomatch h),
      fun _ h => (nomatch h)⟩
  · have hfile := hkey v hv
    cases replace
    · exact ⟨_, _, onGetVideoNote_keep td hvalid hv, rfl, fun _ _ => rfl, nofun,
        fun _ _ _ => rfl, fun _ _ h => (nomatch h)⟩
    · refine ⟨_, _, onGetVideoNote_replace td hvalid hv hfile, rfl,
        fun f hf => setVideoNote_ne _ _ hf, nofun, fun _ _ h => (nomatch h), fun w hw _ => ?_⟩
      cases hw
      exact setVideoNote_self ..

-- ============================================================================
-- `dup_video_note` and `merge_video_notes`
-- ============================================================================

section Duplicate

variable {s s' : VideoNotesManager Tr Msg} {newId oldId : FileId}

/-- The copy `dup_video_note` makes of `old` for `newId`. -/
def dupCopy (newId : FileId) (old : VideoNote Tr) : VideoNote Tr :=
  { old with
    fileId := newId
    thumbnail := { old.thumbnail with fileId := td.dupFileId old.thumbnail.fileId }
    transcriptionInfo := td.transcription.copyIfTranscribed old.transcriptionInfo }

theorem dupVideoNote_of_get {old : VideoNote Tr} (hold : s.getVideoNote oldId = some old)
    (hnew : s.getVideoNote newId = none) :
    dupVideoNote td newId oldId s = some (newId, s.setVideoNote newId (dupCopy td newId old)) := by
  simp only [dupVideoNote, hold, hnew]
  rfl

/-- What a successful `dup_video_note` did. -/
theorem dupVideoNote_eq_some {r : FileId} (h : dupVideoNote td newId oldId s = some (r, s')) :
    ∃ old, s.getVideoNote oldId = some old ∧ s.getVideoNote newId = none ∧ r = newId ∧
      s' = s.setVideoNote newId (dupCopy td newId old) := by
  rcases hold : s.getVideoNote oldId with _ | old
  · simp [dupVideoNote, hold] at h
  rcases hnew : s.getVideoNote newId with _ | w
  · rw [dupVideoNote_of_get td hold hnew, Option.some_inj, Prod.mk.injEq] at h
    exact ⟨old, rfl, rfl, h.1.symm, h.2.symm⟩
  · simp [dupVideoNote, hold, hnew] at h

/-- **`dup_video_note`.**  The copy succeeds exactly when the old id is cached and the new one
    is not.  It is stored under the new id with the old note's value fields, an independent
    duplicate of its thumbnail file and a copy of a finished transcription; nothing else
    changes, neither the original nor any other entry nor the registry. -/
theorem dupVideoNote_spec (s : VideoNotesManager Tr Msg) (newId oldId : FileId) :
    ((dupVideoNote td newId oldId s).isSome ↔
      (s.getVideoNote oldId).isSome ∧ s.getVideoNote newId = none) ∧
    ∀ r s', dupVideoNote td newId oldId s = some (r, s') →
      ∃ old, s.getVideoNote oldId = some old ∧ r = newId ∧ newId ≠ oldId ∧
        s'.registry = s.registry ∧ (∀ f, f ≠ newId → s'.videoNotes f = s.videoNotes f) ∧
        s'.getVideoNote newId = some { old with
          fileId := newId
          thumbnail := { old.thumbnail with fileId := td.dupFileId old.thumbnail.fileId }
          transcriptionInfo := td.transcription.copyIfTranscribed old.transcriptionInfo } := by
  refine ⟨⟨fun h => ?_, fun ⟨hold, hnew⟩ => ?_⟩, fun r s' h => ?_⟩
  · obtain ⟨⟨r, s'⟩, h⟩ := Option.isSome_iff_exists.mp h
    obtain ⟨old, hold, hnew, -⟩ := dupVideoNote_eq_some td h
    exact ⟨by simp [hold], hnew⟩
  · obtain ⟨old, hold⟩ := Option.isSome_iff_exists.mp hold
    simp [dupVideoNote_of_get td hold hnew]
  · obtain ⟨old, hold, hnew, hr, rfl⟩ := dupVideoNote_eq_some td h
    have hne : newId ≠ oldId := by rintro rfl; simp [hold] at hnew
    exact ⟨old, hold, hr, hne, rfl, fun f hf => setVideoNote_ne _ _ hf,
      by simp [getVideoNote, dupCopy]⟩

end Duplicate

/-- **`merge_video_notes`.**  The merge succeeds exactly for two distinct valid ids of which the
    old one is cached.  It always asks the file manager to merge the two files and never
    touches the registry: a message registered under the old id stays registered under it.
    An unknown new id gets the old note duplicated to it, as `dup_video_note` does; two known
    ids leave the cache as it is. -/
theorem mergeVideoNotes_spec (s : VideoNotesManager Tr Msg) (newId oldId : FileId) :
    ((mergeVideoNotes td newId oldId s).isSome ↔ oldId.isValid = true ∧ newId.isValid = true ∧
      newId ≠ oldId ∧ (s.getVideoNote oldId).isSome) ∧
    ∀ s' effects, mergeVideoNotes td newId oldId s = some (s', effects) →
      effects = [.mergeFiles newId oldId] ∧ s'.registry = s.registry ∧
      ((s.getVideoNote newId).isSome → s' = s) ∧
      (s.getVideoNote newId = none → dupVideoNote td newId oldId s = some (newId, s')) := by
  by_cases hvalid : oldId.isValid = true ∧ newId.isValid = true
  swap
  · have hinv : (!(oldId.isValid && newId.isValid)) = true := by
      revert hvalid; cases oldId.isValid <;> cases newId.isValid <;> decide
    simp only [mergeVideoNotes, hinv, if_true]
    exact ⟨iff_of_false (by simp) fun h => hvalid ⟨h.1, h.2.1⟩, nofun⟩
  by_cases heq : newId = oldId
  · simp [mergeVideoNotes, heq]
  rcases hold : s.getVideoNote oldId with _ | old
  · simp [mergeVideoNotes, hvalid, heq, hold]
  rcases hnew : s.getVideoNote newId with _ | w
  · simp only [mergeVideoNotes, hvalid, heq, hold, hnew, dupVideoNote_of_get td hold hnew]
    refine ⟨by simp [heq], ?_⟩
    rintro s' effects ⟨⟩
    exact ⟨rfl, rfl, nofun, fun _ => rfl⟩
  · simp only [mergeVideoNotes, hvalid, heq, hold, hnew]
    refine ⟨by simp [heq], ?_⟩
    rintro s' effects ⟨⟩
    exact ⟨rfl, rfl, fun _ => rfl, nofun⟩

-- ============================================================================
-- What the other writes can do
-- ============================================================================

section Inversion

variable {s s' : VideoNotesManager Tr Msg} {effects : List (Effect Msg)}

/-- What an `on_get_video_note` that does not abort did: stored the candidate under a new key,
    kept the known entry, or overwrote its value fields, merged the transcriptions, and
    announced a completed one. -/
theorem onGetVideoNote_eq_some {c : VideoNote Tr} {replace : Bool} {r : FileId}
    (h : onGetVideoNote td c replace s = some (r, s', effects)) :
    (s.getVideoNote c.fileId = none ∧ s' = s.setVideoNote c.fileId c ∧ effects = []) ∨
    (s' = s ∧ effects = []) ∨
    (∃ v, s.getVideoNote c.fileId = some v ∧
      s' = s.setVideoNote c.fileId { v with
        duration := c.duration, dimensions := c.dimensions, waveform := c.waveform,
        minithumbnail := c.minithumbnail,
        thumbnail := if v.thumbnail.eqv c.thumbnail then v.thumbnail else c.thumbnail,
        transcriptionInfo :=
          (td.transcription.updateFrom v.transcriptionInfo c.transcriptionInfo).1 } ∧
      effects = if (td.transcription.updateFrom v.transcriptionInfo c.transcriptionInfo).2 then
        onVideoNoteTranscriptionCompleted c.fileId s.registry else []) := by
  cases hvalid : c.fileId.isValid
  · rw [onGetVideoNote_invalid td replace hvalid] at h; cases h
  rcases hv : s.getVideoNote c.fileId with _ | v
  · rw [onGetVideoNote_new td replace hvalid hv] at h
    cases h
    exact .inl ⟨rfl, rfl, rfl⟩
  cases replace
  · rw [onGetVideoNote_keep td hvalid hv] at h
    cases h
    exact .inr (.inl ⟨rfl, rfl⟩)
  by_cases hfile : v.fileId = c.fileId
  · rw [onGetVideoNote_replace td hvalid hv hfile] at h
    cases h
    exact .inr (.inr ⟨v, rfl, rfl, rfl⟩)
  · simp [onGetVideoNote, hvalid, hv, hfile] at h

theorem deleteVideoNoteThumbnail_eq_some {fileId : FileId}
    (h : deleteVideoNoteThumbnail fileId s = some s') :
    ∃ v, s.getVideoNote fileId = some v ∧ s' = s.setVideoNote fileId { v with thumbnail := {} } := by
  unfold deleteVideoNoteThumbnail at h
  split at h <;> cases h
  exact ⟨_, ‹_›, rfl⟩

/-- A merge that does not abort had two distinct valid ids, and either leaves the cache alone
    or duplicates the old video note under the new id. -/
theorem mergeVideoNotes_eq_some {newId oldId : FileId}
    (h : mergeVideoNotes td newId oldId s = some (s', effects)) :
    newId.isValid = true ∧ effects = [.mergeFiles newId oldId] ∧
      (s' = s ∨ ∃ r, dupVideoNote td newId oldId s = some (r, s')) := by
  unfold mergeVideoNotes at h
  split_ifs at h with hinvalid
  have hnew : newId.isValid = true := by
    revert hinvalid; cases newId.isValid <;> simp
  split at h; · cases h
  split at h
  · obtain ⟨⟨r, _⟩, hdup, ⟨⟩⟩ := Option.map_eq_some'.mp h
    exact ⟨hnew, rfl, .inr ⟨r, hdup⟩⟩
  · cases h
    exact ⟨hnew, rfl, .inl rfl⟩

/-- `recognize_speech` rewrites only the transcription of the video note its message shows. -/
theorem recognizeSpeech_eq_some {fullMessageId : Msg}
    (h : recognizeSpeech td fullMessageId s = some (s', effects)) :
    ∃ fileId v t, s.getVideoNote fileId = some v ∧
      s' = s.setVideoNote fileId { v with transcriptionInfo := some t } := by
  unfold recognizeSpeech at h
  split at h; · cases h
  split at h <;> cases h
  exact ⟨_, _, _, ‹_›, rfl⟩

/-- A transcription push that does not abort: while closing it does nothing; otherwise it
    rewrites the transcription `old` of a cached video note and notifies the video note's
    messages as the push says, a partial text when `on_partial_transcription` reports a
    change. -/
theorem onTranscribedAudioUpdate_eq_some {fileId : FileId} {isInitial closeFlag : Bool}
    {rUpdate : Except Status TranscribedAudioUpdate}
    (h : onTranscribedAudioUpdate td fileId isInitial closeFlag rUpdate s = some (s', effects)) :
    (closeFlag = true ∧ s' = s ∧ effects = []) ∨
    (closeFlag = false ∧ ∃ v old t, s.getVideoNote fileId = some v ∧
      v.transcriptionInfo = some old ∧
      s' = s.setVideoNote fileId { v with transcriptionInfo := some t } ∧
      (∀ error, rUpdate = .error error →
        effects = onVideoNoteTranscriptionUpdated fileId s.registry) ∧
      (∀ update, rUpdate = .ok update → update.pending = false →
        effects = onVideoNoteTranscriptionCompleted fileId s.registry) ∧
      (∀ update, rUpdate = .ok update → update.pending = true →
        effects = (if (td.transcription.onPartialTranscription old update.text
            update.transcriptionId).2 then onVideoNoteTranscriptionUpdated fileId s.registry
          else []) ++
          if isInitial then [.subscribeToTranscribedAudioUpdates update.transcriptionId fileId]
          else [])) := by
  cases hc : closeFlag
  · simp only [onTranscribedAudioUpdate, hc, Bool.false_eq_true, ↓reduceIte] at h
    refine .inr ⟨rfl, ?_⟩
    split at h; · cases h
    rename_i v hv
    split at h; · cases h
    rename_i old hold
    split at h
    · cases h
      exact ⟨v, old, _, hv, hold, rfl, fun _ _ => rfl, nofun, nofun⟩
    · rename_i update
      cases hp : update.pending <;>
        simp only [hp, Bool.not_false, Bool.not_true, Bool.false_eq_true, ↓reduceIte,
          Option.some_inj, Prod.mk.injEq] at h <;>
        obtain ⟨rfl, rfl⟩ := h
      · exact ⟨v, old, _, hv, hold, rfl, nofun, fun _ hu _ => by cases hu; rfl,
          fun _ hu hp' => by cases hu; simp [hp] at hp'⟩
      · exact ⟨v, old, _, hv, hold, rfl, nofun, fun _ hu hp' => by cases hu; simp [hp] at hp',
          fun _ hu _ => by cases hu; rfl⟩
  · simp only [onTranscribedAudioUpdate, hc, if_true, Option.some_inj, Prod.mk.injEq] at h
    exact .inl ⟨rfl, h.1.symm, h.2.symm⟩

end Inversion

end VideoNotes
end TelegramTd
