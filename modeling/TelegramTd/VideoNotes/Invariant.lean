/-
  TelegramTd.VideoNotes.Invariant

  `VideoNotesManager` as a state machine: every call that writes its state,
  and the invariant of its cache over whole runs.

  Every video note reaches the cache through `create_video_note`, which
  normalises duration and dimensions, or as a copy of a cached one
  (`dup_video_note`, `merge_video_notes`); everything else rewrites a
  thumbnail or a transcription, or only the registry.  So each stored video
  note carries its key as file id, a valid one, a non-negative duration and
  square dimensions of side at most 640 (`WellFormedAt`).  One lemma per
  operation says it keeps that; `runSteps_invariant` carries it over runs,
  and `videoNotes_invariant` concludes, with the consequence that the
  `CHECK` of `on_get_video_note`'s replace branch cannot fail.  So the
  contract of `on_get_video_note` holds in every reachable state
  (`onGetVideoNote_spec`), with one gap against "the replace branch
  overwrites the value fields": `PhotoSize`'s `==` does not read the remote
  id of the thumbnail's file, so a thumbnail that differs only there is kept
  (`onGetVideoNote_keeps_thumbnail_of_other_remote`).

  `dup_video_note` does not check its new id; every caller passes a valid one
  (`Call.admissible`).

  Only the two registry calls write the registry, so the refinement of
  `VideoNotes.Registry` holds over runs of the whole manager too
  (`videoNotesManager_registry_refines`: the registry implements the
  abstract map of the run's registry calls alone), and
  `onTranscribedAudioUpdate_notifies` follows: a transcription push notifies
  exactly the messages registered for its video note, each once.

  No call removes a cached video note, and the calls rewrite a cached one
  only in place (`step_cachedWith`, for every property those rewrites keep).
  No call drops a transcription, so the pushes a `recognize_speech` sets up
  never fail a `CHECK` (`transcriptionPushes_never_abort`).
-/

import TelegramTd.VideoNotes.Cache

namespace TelegramTd
namespace VideoNotes

open VideoNotesManager

variable {Tr Msg : Type} [DecidableEq Msg] (td : VideoNotesTd Tr Msg)

/-- A call into `VideoNotesManager` that writes its state. -/
inductive Call (Msg : Type)
  | createVideoNote (fileId : FileId) (minithumbnail : String) (thumbnail : PhotoSize)
      (duration : Int32) (dimensions : Dimensions) (waveform : String) (replace : Bool)
  | dupVideoNote (newId oldId : FileId)
  | mergeVideoNotes (newId oldId : FileId)
  | deleteVideoNoteThumbnail (fileId : FileId)
  | recognizeSpeech (fullMessageId : Msg)
  | onTranscribedAudioUpdate (fileId : FileId) (isInitial closeFlag : Bool)
      (rUpdate : Except Status TranscribedAudioUpdate)
  | registerVideoNote (videoNoteFileId : FileId) (fullMessageId : Msg)
  | unregisterVideoNote (videoNoteFileId : FileId) (fullMessageId : Msg)

/-- The calls as their callers make them: `dup_video_note` gets a valid new id. -/
def Call.admissible : Call Msg → Bool
  | .dupVideoNote newId _ => newId.isValid
  | _ => true

/-- The state after a call, or `none` when a `CHECK` fails; effects are dropped. -/
def step : Call Msg → VideoNotesManager Tr Msg → Option (VideoNotesManager Tr Msg)
  | .createVideoNote f minithumbnail thumbnail duration dimensions waveform replace, s =>
    (createVideoNote td f minithumbnail thumbnail duration dimensions waveform replace s).map
      Prod.fst
  | .dupVideoNote newId oldId, s => (dupVideoNote td newId oldId s).map Prod.snd
  | .mergeVideoNotes newId oldId, s => (mergeVideoNotes td newId oldId s).map Prod.fst
  | .deleteVideoNoteThumbnail f, s => deleteVideoNoteThumbnail f s
  | .recognizeSpeech m, s => (recognizeSpeech td m s).map Prod.fst
  | .onTranscribedAudioUpdate f isInitial closeFlag rUpdate, s =>
    (onTranscribedAudioUpdate td f isInitial closeFlag rUpdate s).map Prod.fst
  | .registerVideoNote f m, s =>
    (registerVideoNote td.kind td.isBot f m s.registry).map fun r => { s with registry := r }
  | .unregisterVideoNote f m, s =>
    (unregisterVideoNote td.kind td.isBot f m s.registry).map fun r => { s with registry := r }

-- ============================================================================
-- The cache invariant
-- ============================================================================

/-- A video note fit to be stored under `fileId`. -/
structure WellFormedAt (v : VideoNote Tr) (fileId : FileId) : Prop where
  fileId_eq : v.fileId = fileId
  fileId_valid : fileId.isValid = true
  duration_nonneg : 0 ≤ v.duration.val
  square : v.dimensions.width = v.dimensions.height
  side_le : v.dimensions.width ≤ 640

/-- Only the file id, duration and dimensions matter. -/
theorem WellFormedAt.congr {v w : VideoNote Tr} {fileId : FileId} (hv : WellFormedAt v fileId)
    (hfile : w.fileId = v.fileId) (hduration : w.duration = v.duration)
    (hdimensions : w.dimensions = v.dimensions) : WellFormedAt w fileId :=
  ⟨hfile.trans hv.fileId_eq, hv.fileId_valid, hduration ▸ hv.duration_nonneg,
    hdimensions ▸ hv.square, hdimensions ▸ hv.side_le⟩

/-- Every key of `video_notes_` holds a non-null video note well formed at that key. -/
def CacheInvariant (s : VideoNotesManager Tr Msg) : Prop :=
  ∀ f e, s.videoNotes f = some e → ∃ v, e = some v ∧ WellFormedAt v f

namespace CacheInvariant

variable {s : VideoNotesManager Tr Msg}

omit [DecidableEq Msg] in
theorem empty : CacheInvariant (.empty : VideoNotesManager Tr Msg) := fun _ _ h => nomatch h

omit [DecidableEq Msg] in
theorem getVideoNote (hs : CacheInvariant s) {f : FileId} {v : VideoNote Tr}
    (hv : s.getVideoNote f = some v) : WellFormedAt v f := by
  simp only [VideoNotesManager.getVideoNote, Option.join_eq_some] at hv
  obtain ⟨w, hw, hwf⟩ := hs f _ hv
  cases hw
  exact hwf

omit [DecidableEq Msg] in
theorem setVideoNote (hs : CacheInvariant s) {f : FileId} {v : VideoNote Tr}
    (hv : WellFormedAt v f) : CacheInvariant (s.setVideoNote f v) := fun g e he => by
  by_cases hg : g = f
  · subst hg
    rw [setVideoNote_self] at he
    cases he
    exact ⟨v, rfl, hv⟩
  · exact hs g e (by rwa [setVideoNote_ne _ _ hg] at he)

omit [DecidableEq Msg] in
/-- Rewriting a stored video note without touching its file id, duration and dimensions. -/
theorem setVideoNote_of_get (hs : CacheInvariant s) {f : FileId} {v w : VideoNote Tr}
    (hv : s.getVideoNote f = some v) (hfile : w.fileId = v.fileId)
    (hduration : w.duration = v.duration) (hdimensions : w.dimensions = v.dimensions) :
    CacheInvariant (s.setVideoNote f w) :=
  hs.setVideoNote ((hs.getVideoNote hv).congr hfile hduration hdimensions)

end CacheInvariant

-- ============================================================================
-- Each operation keeps the invariant
-- ============================================================================

section Operations

omit [DecidableEq Msg]

variable {s s' : VideoNotesManager Tr Msg}

theorem onGetVideoNote_invariant {c : VideoNote Tr} {replace : Bool} {f : FileId}
    {effects : List (Effect Msg)} (hs : CacheInvariant s)
    (hc : c.fileId.isValid = true → WellFormedAt c c.fileId)
    (h : onGetVideoNote td c replace s = some (f, s', effects)) : CacheInvariant s' := by
  cases hvalid : c.fileId.isValid
  · rw [onGetVideoNote_invalid td replace hvalid] at h; cases h
  rcases hv : s.getVideoNote c.fileId with _ | v
  · rw [onGetVideoNote_new td replace hvalid hv] at h
    cases h
    exact hs.setVideoNote (hc hvalid)
  · have hwf := hs.getVideoNote hv
    cases replace
    · rw [onGetVideoNote_keep td hvalid hv] at h
      cases h
      exact hs
    · rw [onGetVideoNote_replace td hvalid hv hwf.fileId_eq] at h
      cases h
      exact hs.setVideoNote ⟨hwf.fileId_eq, hvalid, (hc hvalid).duration_nonneg,
        (hc hvalid).square, (hc hvalid).side_le⟩

/-- `create_video_note`'s candidate is well formed once its file id is valid. -/
theorem createVideoNote_invariant {fileId : FileId} {minithumbnail waveform : String}
    {thumbnail : PhotoSize} {duration : Int32} {dimensions : Dimensions} {replace : Bool}
    {effects : List (Effect Msg)} (hs : CacheInvariant s)
    (h : createVideoNote td fileId minithumbnail thumbnail duration dimensions waveform replace s =
      some (s', effects)) : CacheInvariant s' := by
  simp only [createVideoNote, Option.map_eq_some'] at h
  obtain ⟨⟨_, s'', _⟩, h, hres⟩ := h
  cases hres
  refine onGetVideoNote_invariant td hs (fun hvalid => ⟨rfl, hvalid, ?_, ?_, ?_⟩) h
  · rw [Int32.max_val, Int32.val_zero]
    exact Int.le_max_right _ _
  · dsimp only
    split_ifs with hd
    · exact hd.1
    · rfl
  · dsimp only
    split_ifs with hd
    · exact hd.2
    · decide

/-- The copy is well formed at its new id: its value fields are the old note's. -/
theorem dupVideoNote_invariant {newId oldId f : FileId} (hs : CacheInvariant s)
    (hvalid : newId.isValid = true) (h : dupVideoNote td newId oldId s = some (f, s')) :
    CacheInvariant s' := by
  obtain ⟨old, hold, -, -, rfl⟩ := dupVideoNote_eq_some td h
  have hwf := hs.getVideoNote hold
  exact hs.setVideoNote ⟨rfl, hvalid, hwf.duration_nonneg, hwf.square, hwf.side_le⟩

theorem mergeVideoNotes_invariant {newId oldId : FileId} {effects : List (Effect Msg)}
    (hs : CacheInvariant s) (h : mergeVideoNotes td newId oldId s = some (s', effects)) :
    CacheInvariant s' := by
  obtain ⟨hvalid, -, rfl | ⟨_, hdup⟩⟩ := mergeVideoNotes_eq_some td h
  · exact hs
  · exact dupVideoNote_invariant td hs hvalid hdup

theorem deleteVideoNoteThumbnail_invariant {fileId : FileId} (hs : CacheInvariant s)
    (h : deleteVideoNoteThumbnail fileId s = some s') : CacheInvariant s' := by
  obtain ⟨v, hv, rfl⟩ := deleteVideoNoteThumbnail_eq_some h
  exact hs.setVideoNote_of_get hv rfl rfl rfl

theorem recognizeSpeech_invariant {fullMessageId : Msg} {effects : List (Effect Msg)}
    (hs : CacheInvariant s) (h : recognizeSpeech td fullMessageId s = some (s', effects)) :
    CacheInvariant s' := by
  obtain ⟨_, v, _, hv, rfl⟩ := recognizeSpeech_eq_some td h
  exact hs.setVideoNote_of_get hv rfl rfl rfl

theorem onTranscribedAudioUpdate_invariant {fileId : FileId} {isInitial closeFlag : Bool}
    {rUpdate : Except Status TranscribedAudioUpdate} {effects : List (Effect Msg)}
    (hs : CacheInvariant s)
    (h : onTranscribedAudioUpdate td fileId isInitial closeFlag rUpdate s = some (s', effects)) :
    CacheInvariant s' := by
  rcases onTranscribedAudioUpdate_eq_some td h with ⟨-, rfl, -⟩ | ⟨-, v, -, _, hv, -, rfl, -⟩
  · exact hs
  · exact hs.setVideoNote_of_get hv rfl rfl rfl

end Operations

/-- One call keeps the invariant. -/
theorem step_invariant {c : Call Msg} {s s' : VideoNotesManager Tr Msg}
    (hc : c.admissible = true) (hs : CacheInvariant s) (h : step td c s = some s') :
    CacheInvariant s' := by
  cases c with
  | createVideoNote =>
    obtain ⟨⟨_, _⟩, hcall, rfl⟩ := Option.map_eq_some'.mp h
    exact createVideoNote_invariant td hs hcall
  | dupVideoNote =>
    obtain ⟨⟨_, _⟩, hcall, rfl⟩ := Option.map_eq_some'.mp h
    exact dupVideoNote_invariant td hs hc hcall
  | mergeVideoNotes =>
    obtain ⟨⟨_, _⟩, hcall, rfl⟩ := Option.map_eq_some'.mp h
    exact mergeVideoNotes_invariant td hs hcall
  | deleteVideoNoteThumbnail => exact deleteVideoNoteThumbnail_invariant hs h
  | recognizeSpeech =>
    obtain ⟨⟨_, _⟩, hcall, rfl⟩ := Option.map_eq_some'.mp h
    exact recognizeSpeech_invariant td hs hcall
  | onTranscribedAudioUpdate =>
    obtain ⟨⟨_, _⟩, hcall, rfl⟩ := Option.map_eq_some'.mp h
    exact onTranscribedAudioUpdate_invariant td hs hcall
  | registerVideoNote | unregisterVideoNote =>
    obtain ⟨_, -, rfl⟩ := Option.map_eq_some'.mp h
    exact hs

/-- The invariant holds after every run of admissible calls from the empty manager. -/
theorem CacheInvariant.of_run {calls : List (Call Msg)}
    (hcalls : ∀ c ∈ calls, c.admissible = true) {s : VideoNotesManager Tr Msg} (hrun : runSteps (step td) calls .empty = .ok s) :
    CacheInvariant s :=
  runSteps_invariant (fun _ _ _ hc hs h => step_invariant td hc hs h) calls _ _ hcalls
    CacheInvariant.empty hrun

/-- **The cache invariant.**  After every run of calls from the empty manager in
    which no `CHECK` fails and `dup_video_note` gets valid new ids, every key of
    `video_notes_` holds a non-null video note whose file id is that key and valid, whose
    duration is non-negative and whose dimensions are a square of side at most 640; so the
    `CHECK` of `on_get_video_note`'s replace branch cannot fail for a valid candidate. -/
theorem videoNotes_invariant (calls : List (Call Msg)) (hcalls : ∀ c ∈ calls, c.admissible = true)
    (s : VideoNotesManager Tr Msg) (hrun : runSteps (step td) calls .empty = .ok s) :
    (∀ f e, s.videoNotes f = some e → ∃ v, e = some v ∧ v.fileId = f ∧ f.isValid = true ∧
      0 ≤ v.duration.val ∧ v.dimensions.width = v.dimensions.height ∧
      v.dimensions.width ≤ 640) ∧
    ∀ c replace, c.fileId.isValid = true → (onGetVideoNote td c replace s).isSome := by
  have hs := CacheInvariant.of_run td hcalls hrun
  refine ⟨fun f e he => ?_, fun c replace hvalid => ?_⟩
  · obtain ⟨v, rfl, hv⟩ := hs f e he
    exact ⟨v, rfl, hv.fileId_eq, hv.fileId_valid, hv.duration_nonneg, hv.square, hv.side_le⟩
  · rcases hv : s.getVideoNote c.fileId with _ | v
    · simp [onGetVideoNote_new td replace hvalid hv]
    · cases replace
      · simp [onGetVideoNote_keep td hvalid hv]
      · simp [onGetVideoNote_replace td hvalid hv (hs.getVideoNote hv).fileId_eq]

theorem videoNotes_invariant_after_create_and_dup :
    ∃ s, runSteps (step VideoNotesTd.inert)
        [.createVideoNote ⟨1⟩ "" {} 5 { width := 3, height := 3 } "" false,
          .dupVideoNote ⟨2⟩ ⟨1⟩] .empty = .ok s ∧
      ∀ c replace, c.fileId.isValid = true →
        (onGetVideoNote VideoNotesTd.inert c replace s).isSome :=
  ⟨_, rfl, (videoNotes_invariant VideoNotesTd.inert
    [.createVideoNote ⟨1⟩ "" {} 5 { width := 3, height := 3 } "" false, .dupVideoNote ⟨2⟩ ⟨1⟩]
    (by decide) _ rfl).2⟩

/-- **`on_get_video_note` in every reachable state.**  After every run of calls from the empty
    manager in which no `CHECK` fails and `dup_video_note` gets valid new ids, a candidate
    with a valid file id is taken without a failed `CHECK`: the call returns the candidate's
    file id, leaves the registry and every other entry alone, stores the candidate under a
    new key, and keeps a known entry unless `replace` is set (first writer wins).  With
    `replace` the entry takes the candidate's duration, dimensions, waveform and
    minithumbnail, keeps its file id, and merges the transcriptions with `update_from`; its
    thumbnail becomes the candidate's only when `PhotoSize`'s `==` tells the two apart, so a
    thumbnail that differs only in its file's remote id stays as it was. -/
theorem onGetVideoNote_spec (calls : List (Call Msg))
    (hcalls : ∀ c ∈ calls, c.admissible = true) (s : VideoNotesManager Tr Msg) (hrun : runSteps (step td) calls .empty = .ok s)
    (c : VideoNote Tr) (replace : Bool) (hvalid : c.fileId.isValid = true) :
    ∃ s' effects, onGetVideoNote td c replace s = some (c.fileId, s', effects) ∧
      s'.registry = s.registry ∧
      (∀ f, f ≠ c.fileId → s'.videoNotes f = s.videoNotes f) ∧
      (s.getVideoNote c.fileId = none → s'.videoNotes c.fileId = some (some c)) ∧
      (∀ v, s.getVideoNote c.fileId = some v → replace = false → s' = s) ∧
      (∀ v, s.getVideoNote c.fileId = some v → replace = true →
        s'.videoNotes c.fileId = some (some { v with
          duration := c.duration, dimensions := c.dimensions, waveform := c.waveform,
          minithumbnail := c.minithumbnail,
          thumbnail := if v.thumbnail.eqv c.thumbnail then v.thumbnail else c.thumbnail,
          transcriptionInfo :=
            (td.transcription.updateFrom v.transcriptionInfo c.transcriptionInfo).1 })) :=
  onGetVideoNote_of_keyed td s c replace hvalid fun _ hv =>
    ((CacheInvariant.of_run td hcalls hrun).getVideoNote hv).fileId_eq

/-- Replacing a cached video note: the new duration is taken, and a thumbnail that `==` calls
    equal to the stored one leaves the stored one in place. -/
theorem onGetVideoNote_spec_replacing_after_create :
    ∃ s, runSteps (step VideoNotesTd.inert)
        [.createVideoNote ⟨1⟩ "" {} 5 { width := 3, height := 3 } "" false] .empty = .ok s ∧
      ∃ s' effects, onGetVideoNote VideoNotesTd.inert
          { fileId := ⟨1⟩, duration := 7, thumbnail := { fileRemoteId := 9 } } true s =
          some (⟨1⟩, s', effects) ∧
        s'.videoNotes ⟨1⟩ = some (some { fileId := ⟨1⟩, duration := 7 }) := by
  obtain ⟨s', effects, h, -, -, -, -, hreplace⟩ := onGetVideoNote_spec VideoNotesTd.inert
    [.createVideoNote ⟨1⟩ "" {} 5 { width := 3, height := 3 } "" false] (by decide) _
    (by exact rfl) { fileId := ⟨1⟩, duration := 7, thumbnail := { fileRemoteId := 9 } } true rfl
  exact ⟨_, by exact rfl, s', effects, h,
    hreplace { fileId := ⟨1⟩, duration := 5, dimensions := { width := 3, height := 3 } }
      (by exact rfl) rfl⟩

/-- A video note received again, with `replace`, whose thumbnail differs from the stored one
    only in its file's remote id keeps the stored thumbnail: `PhotoSize`'s `==` does not read
    the remote id, so the guarded assignment is skipped and the thumbnail does not become
    the candidate's. -/
theorem onGetVideoNote_keeps_thumbnail_of_other_remote :
    ∃ s s' effects, runSteps (step VideoNotesTd.inert)
        [.createVideoNote ⟨1⟩ "" { fileId := ⟨2⟩, fileRemoteId := 1 } 5 {} "" false]
        .empty = .ok s ∧
      onGetVideoNote VideoNotesTd.inert
          { fileId := ⟨1⟩, thumbnail := { fileId := ⟨2⟩, fileRemoteId := 2 } } true s =
          some (⟨1⟩, s', effects) ∧
      (s'.getVideoNote ⟨1⟩).map VideoNote.thumbnail =
        some { fileId := ⟨2⟩, fileRemoteId := 1 } ∧
      ({ fileId := ⟨2⟩, fileRemoteId := 1 } : PhotoSize) ≠
        { fileId := ⟨2⟩, fileRemoteId := 2 } :=
  ⟨_, _, _, by exact rfl, by exact rfl, by exact rfl, by decide⟩

-- ============================================================================
-- The registry over whole runs
-- ============================================================================

/-! Only `register_video_note` and `unregister_video_note` write the registry; every other call
stores video notes and nothing else.  So the refinement of `VideoNotes.Registry` holds in
every state of the whole manager, and a transcription push reaches exactly the messages
registered for its video note. -/

section RegistryFrame

omit [DecidableEq Msg]

variable {s s' : VideoNotesManager Tr Msg}

theorem onGetVideoNote_registry {c : VideoNote Tr} {replace : Bool} {f : FileId}
    {effects : List (Effect Msg)} (h : onGetVideoNote td c replace s = some (f, s', effects)) :
    s'.registry = s.registry := by
  simp only [onGetVideoNote] at h
  repeat' split at h
  all_goals cases h <;> rfl

theorem mergeVideoNotes_registry {newId oldId : FileId} {effects : List (Effect Msg)}
    (h : mergeVideoNotes td newId oldId s = some (s', effects)) : s'.registry = s.registry := by
  obtain ⟨-, -, rfl | ⟨_, hdup⟩⟩ := mergeVideoNotes_eq_some td h
  · rfl
  · obtain ⟨_, -, -, -, rfl⟩ := dupVideoNote_eq_some td hdup
    rfl

end RegistryFrame

/-- The registry implements some abstract map from messages to the video notes they show. -/
def RegistryConsistent (s : VideoNotesManager Tr Msg) : Prop :=
  ∃ L, Refines s.registry L

/-- A registry call that does not abort steps the abstract map too, and the registry it
    leaves implements the map it leads to. -/
theorem Refines.call_eq_some (kind : MessageKind Msg) (isBot : Bool) {c : RegistryCall Msg}
    {r r' : Registry Msg} {L : Msg → Option FileId} (hL : Refines r L)
    (h : Registry.call kind isBot c r = some r') :
    ∃ L', Abstract.call kind isBot c L = some L' ∧ Refines r' L' := by
  rcases call_refines kind isBot c hL with ⟨hnone, -⟩ | ⟨r'', L', hr'', hL', hR⟩
  · rw [hnone] at h; cases h
  · rw [hr''] at h; cases h; exact ⟨L', hL', hR⟩

/-- The registry call a manager call is, if it is one. -/
def Call.registryCall : Call Msg → Option (RegistryCall Msg)
  | .registerVideoNote f m => some (.registerVideoNote f m)
  | .unregisterVideoNote f m => some (.unregisterVideoNote f m)
  | _ => none

/-- A call that is not a registry call leaves the registry alone. -/
theorem step_registry_of_none {c : Call Msg} {s s' : VideoNotesManager Tr Msg}
    (hc : c.registryCall = none) (h : step td c s = some s') : s'.registry = s.registry := by
  cases c with
  | createVideoNote =>
    obtain ⟨⟨_, _⟩, hcall, rfl⟩ := Option.map_eq_some'.mp h
    obtain ⟨⟨_, _, _⟩, hget, ⟨⟩⟩ := Option.map_eq_some'.mp hcall
    exact onGetVideoNote_registry td hget
  | dupVideoNote =>
    obtain ⟨⟨_, _⟩, hcall, rfl⟩ := Option.map_eq_some'.mp h
    obtain ⟨_, -, -, -, rfl⟩ := dupVideoNote_eq_some td hcall
    rfl
  | mergeVideoNotes =>
    obtain ⟨⟨_, _⟩, hcall, rfl⟩ := Option.map_eq_some'.mp h
    exact mergeVideoNotes_registry td hcall
  | deleteVideoNoteThumbnail =>
    obtain ⟨_, -, rfl⟩ := deleteVideoNoteThumbnail_eq_some h
    rfl
  | recognizeSpeech =>
    obtain ⟨⟨_, _⟩, hcall, rfl⟩ := Option.map_eq_some'.mp h
    obtain ⟨_, _, _, -, rfl⟩ := recognizeSpeech_eq_some td hcall
    rfl
  | onTranscribedAudioUpdate =>
    obtain ⟨⟨_, _⟩, hcall, rfl⟩ := Option.map_eq_some'.mp h
    rcases onTranscribedAudioUpdate_eq_some td hcall with
      ⟨-, rfl, -⟩ | ⟨-, _, -, _, -, -, rfl, -⟩ <;> rfl
  | registerVideoNote | unregisterVideoNote => cases hc

/-- A registry call is that call on the registry. -/
theorem step_registry_of_some {c : Call Msg} {rc : RegistryCall Msg}
    {s s' : VideoNotesManager Tr Msg} (hc : c.registryCall = some rc)
    (h : step td c s = some s') :
    Registry.call td.kind td.isBot rc s.registry = some s'.registry := by
  cases c <;> cases hc
  all_goals
    obtain ⟨r, hr, rfl⟩ := Option.map_eq_some'.mp h
    exact hr

/-- One call keeps the registry consistent. -/
theorem step_registryConsistent {c : Call Msg} {s s' : VideoNotesManager Tr Msg}
    (hs : RegistryConsistent s) (h : step td c s = some s') : RegistryConsistent s' := by
  obtain ⟨L, hL⟩ := hs
  cases hc : c.registryCall with
  | none => exact ⟨L, step_registry_of_none td hc h ▸ hL⟩
  | some rc =>
    obtain ⟨L', -, hL'⟩ := hL.call_eq_some td.kind td.isBot (step_registry_of_some td hc h)
    exact ⟨L', hL'⟩

/-- **The manager's registry is the abstract map of its registry calls.**  Over every run from
    the empty manager, cache calls and registry calls interleaved in any order, the cache
    calls leave the registry alone: when the run does not abort, neither does the abstract
    map run over the registry calls alone, and the manager's registry implements the map that
    run reaches. -/
theorem videoNotesManager_registry_refines (calls : List (Call Msg))
    (s : VideoNotesManager Tr Msg) (hrun : runSteps (step td) calls .empty = .ok s) :
    ∃ L, runSteps (Abstract.call td.kind td.isBot) (calls.filterMap Call.registryCall)
        (fun _ => none) = .ok L ∧ Refines s.registry L := by
  refine runSteps_simulates (R := fun s L => Refines s.registry L) Call.registryCall ?_ ?_
    calls _ _ _ Refines.empty hrun
  · intro _ _ _ _ hc hR h
    exact step_registry_of_none td hc h ▸ hR
  · intro _ _ _ _ _ hc hR h
    exact hR.call_eq_some td.kind td.isBot (step_registry_of_some td hc h)

theorem videoNotesManager_registry_refines_after_recognition :
    ∃ s, runSteps (step VideoNotesTd.inert)
        [.createVideoNote ⟨1⟩ "" {} 5 {} "" false, .registerVideoNote ⟨1⟩ (),
          .recognizeSpeech ()] .empty = .ok s ∧
      ∃ L, runSteps (Abstract.call VideoNotesTd.inert.kind VideoNotesTd.inert.isBot)
          [.registerVideoNote ⟨1⟩ ()] (fun _ => none) = .ok L ∧ Refines s.registry L :=
  ⟨_, rfl, videoNotesManager_registry_refines VideoNotesTd.inert
    [.createVideoNote ⟨1⟩ "" {} 5 {} "" false, .registerVideoNote ⟨1⟩ (), .recognizeSpeech ()]
    _ (by exact rfl)⟩

/-- **Transcription pushes reach every registered message, once.**  In every state reached from
    the empty manager, a transcription push for a video note, while the client is not closing,
    leaves the registry alone and notifies exactly the messages registered for that video
    note, each once: "content finalized" for a final text, "content changed" for an error,
    and for a partial text "content changed" when `on_partial_transcription` reports that
    the cached transcription's text changed, followed on the first push by a subscription
    to further pushes.  While closing, a push changes nothing. -/
theorem onTranscribedAudioUpdate_notifies (calls : List (Call Msg))
    (hcalls : ∀ c ∈ calls, c.admissible = true) (s : VideoNotesManager Tr Msg)
    (hrun : runSteps (step td) calls .empty = .ok s) (fileId : FileId)
    (isInitial closeFlag : Bool) (rUpdate : Except Status TranscribedAudioUpdate)
    (s' : VideoNotesManager Tr Msg) (effects : List (Effect Msg))
    (h : onTranscribedAudioUpdate td fileId isInitial closeFlag rUpdate s = some (s', effects)) :
    (closeFlag = true → s' = s ∧ effects = []) ∧
    (closeFlag = false → ∃ ms : List Msg, ms.Nodup ∧
      (∀ m, m ∈ ms ↔ s.registry.messageVideoNotes m = some fileId) ∧ s'.registry = s.registry ∧
      ∃ v t, s.getVideoNote fileId = some v ∧ v.transcriptionInfo = some t ∧
      (∀ error, rUpdate = .error error → effects = ms.map .externalUpdateMessageContent) ∧
      (∀ update, rUpdate = .ok update → update.pending = false →
        effects = ms.map .updateMessageContent) ∧
      (∀ update, rUpdate = .ok update → update.pending = true →
        effects = (if (td.transcription.onPartialTranscription t update.text
            update.transcriptionId).2 then ms.map .externalUpdateMessageContent else []) ++
          if isInitial then [.subscribeToTranscribedAudioUpdates update.transcriptionId fileId]
          else [])) := by
  obtain ⟨L, hL⟩ : RegistryConsistent s :=
    runSteps_invariant (fun _ _ _ _ hs h => step_registryConsistent td hs h) calls _ _ hcalls
      ⟨_, Refines.empty⟩ hrun
  rcases onTranscribedAudioUpdate_eq_some td h with
    ⟨hc, rfl, rfl⟩ | ⟨hc, v, t, _, hv, ht, rfl, herror, hfinal, hpending⟩
  · exact ⟨fun _ => ⟨rfl, rfl⟩, fun h' => by simp [hc] at h'⟩
  · exact ⟨fun h' => by simp [hc] at h', fun _ => ⟨s.registry.messageIds fileId,
      hL.nodup fileId, fun m => by rw [hL.mem_iff, hL.messageVideoNotes_eq], rfl, v, t, hv, ht,
      herror, hfinal, hpending⟩⟩

theorem onTranscribedAudioUpdate_notifies_after_recognition :
    ∃ s s' effects, runSteps (step VideoNotesTd.inert)
        [.createVideoNote ⟨1⟩ "" {} 5 {} "" false, .registerVideoNote ⟨1⟩ (),
          .recognizeSpeech ()] .empty = .ok s ∧
      onTranscribedAudioUpdate VideoNotesTd.inert ⟨1⟩ true false (.ok ⟨false, 7, "text"⟩) s =
        some (s', effects) ∧
      ∃ ms : List Unit, ms.Nodup ∧ (∀ m, m ∈ ms ↔ s.registry.messageVideoNotes m = some ⟨1⟩) ∧
        effects = ms.map .updateMessageContent := by
  refine ⟨_, _, _, rfl, rfl, ?_⟩
  obtain ⟨ms, hnodup, hmem, -, -, -, -, -, -, hfinal, -⟩ :=
    (onTranscribedAudioUpdate_notifies VideoNotesTd.inert
      [.createVideoNote ⟨1⟩ "" {} 5 {} "" false, .registerVideoNote ⟨1⟩ (), .recognizeSpeech ()]
      (by decide) _ (by exact rfl) ⟨1⟩ true false (.ok ⟨false, 7, "text"⟩) _ _ (by exact rfl)).2 rfl
  exact ⟨ms, hnodup, hmem, hfinal _ rfl rfl⟩

-- ============================================================================
-- Transcription pushes never abort
-- ============================================================================

/-! `recognize_speech` gives the video note its message shows a transcription, and hands the
push handler that video note's file id.  No call removes a cached video note: the calls store
video notes only under keys that were empty, or rewrite one in place.  So a property of a
cached video note that every in-place rewrite keeps stays true over any run
(`step_cachedWith`).  Having a transcription is such a property once
`TranscriptionInfo::update_from` keeps an existing one, so every later push finds what its
`CHECK`s ask for. -/

/-- `fileId` is cached with a video note that satisfies `P`. -/
def CachedWith (P : VideoNote Tr → Prop) (fileId : FileId) (s : VideoNotesManager Tr Msg) :
    Prop :=
  ∃ v, s.getVideoNote fileId = some v ∧ P v

/-- `fileId` is cached with a transcription. -/
def Transcribing (fileId : FileId) (s : VideoNotesManager Tr Msg) : Prop :=
  CachedWith (fun v : VideoNote Tr => v.transcriptionInfo.isSome) fileId s

/-- A property of a video note that the calls' in-place rewrites keep: the replace branch of
    `on_get_video_note`, `delete_video_note_thumbnail`, and the transcription updates of
    `recognize_speech` and `on_transcribed_audio_update`. -/
structure KeptInPlace (P : VideoNote Tr → Prop) : Prop where
  replace : ∀ v c : VideoNote Tr, P v → P { v with
    duration := c.duration, dimensions := c.dimensions, waveform := c.waveform,
    minithumbnail := c.minithumbnail,
    thumbnail := if v.thumbnail.eqv c.thumbnail then v.thumbnail else c.thumbnail,
    transcriptionInfo := (td.transcription.updateFrom v.transcriptionInfo c.transcriptionInfo).1 }
  deleteThumbnail : ∀ v : VideoNote Tr, P v → P { v with thumbnail := {} }
  setTranscription : ∀ (v : VideoNote Tr) t, P v → P { v with transcriptionInfo := some t }

section CachedWith

omit [DecidableEq Msg]

variable {s s' : VideoNotesManager Tr Msg} {f g : FileId} {P : VideoNote Tr → Prop}

/-- A push aborts exactly when, not closing, its video note is not cached with a
    transcription. -/
theorem onTranscribedAudioUpdate_isSome_iff {isInitial closeFlag : Bool}
    {rUpdate : Except Status TranscribedAudioUpdate} :
    (onTranscribedAudioUpdate td f isInitial closeFlag rUpdate s).isSome ↔
      closeFlag = true ∨ Transcribing f s := by
  unfold onTranscribedAudioUpdate Transcribing CachedWith
  cases closeFlag
  · rcases hv : s.getVideoNote f with _ | v
    · simp
    · rcases ht : v.transcriptionInfo with _ | t
      · simp [ht]
      · cases rUpdate with
        | error => simp [ht]
        | ok update => by_cases hp : update.pending <;> simp [ht, hp]
  · simp

theorem CachedWith.setVideoNote_of_get (hf : CachedWith P f s) {v w : VideoNote Tr}
    (hv : s.getVideoNote g = some v) (hw : P v → P w) :
    CachedWith P f (s.setVideoNote g w) := by
  obtain ⟨u, hu, ht⟩ := hf
  by_cases hg : f = g
  · subst hg
    obtain rfl : u = v := Option.some_inj.mp (hu.symm.trans hv)
    exact ⟨w, getVideoNote_setVideoNote_self _ _ _, hw ht⟩
  · exact ⟨u, (getVideoNote_setVideoNote_ne _ _ hg).trans hu, ht⟩

theorem CachedWith.setVideoNote_of_none (hf : CachedWith P f s) {w : VideoNote Tr}
    (hg : s.getVideoNote g = none) : CachedWith P f (s.setVideoNote g w) := by
  obtain ⟨u, hu, ht⟩ := hf
  have hne : f ≠ g := by rintro rfl; rw [hu] at hg; cases hg
  exact ⟨u, (getVideoNote_setVideoNote_ne _ _ hne).trans hu, ht⟩

/-- `recognize_speech` leaves the video note its message shows with a transcription. -/
theorem recognizeSpeech_transcribing {m : Msg} {effects : List (Effect Msg)}
    (hm : s.registry.messageVideoNotes m = some f)
    (h : recognizeSpeech td m s = some (s', effects)) : Transcribing f s' := by
  simp only [recognizeSpeech, hm] at h
  split at h
  · cases h
  · cases h
    exact ⟨_, getVideoNote_setVideoNote_self _ _ _, rfl⟩

variable (hP : KeptInPlace td P)
include hP

theorem onGetVideoNote_cachedWith {c : VideoNote Tr} {replace : Bool} {r : FileId}
    {effects : List (Effect Msg)} (hf : CachedWith P f s)
    (h : onGetVideoNote td c replace s = some (r, s', effects)) : CachedWith P f s' := by
  rcases onGetVideoNote_eq_some td h with ⟨hv, rfl, -⟩ | ⟨rfl, -⟩ | ⟨v, hv, rfl, -⟩
  · exact hf.setVideoNote_of_none hv
  · exact hf
  · exact hf.setVideoNote_of_get hv (hP.replace _ _)

end CachedWith

/-- No call takes a cached video note away, or breaks a property its in-place rewrites
    keep. -/
theorem step_cachedWith {P : VideoNote Tr → Prop} (hP : KeptInPlace td P) {c : Call Msg}
    {s s' : VideoNotesManager Tr Msg} {f : FileId} (hf : CachedWith P f s)
    (h : step td c s = some s') : CachedWith P f s' := by
  cases c with
  | createVideoNote =>
    obtain ⟨⟨_, _⟩, hcall, rfl⟩ := Option.map_eq_some'.mp h
    obtain ⟨⟨_, _, _⟩, hget, ⟨⟩⟩ := Option.map_eq_some'.mp hcall
    exact onGetVideoNote_cachedWith td hP hf hget
  | dupVideoNote =>
    obtain ⟨⟨_, _⟩, hcall, rfl⟩ := Option.map_eq_some'.mp h
    obtain ⟨_, -, hnew, -, rfl⟩ := dupVideoNote_eq_some td hcall
    exact hf.setVideoNote_of_none hnew
  | mergeVideoNotes =>
    obtain ⟨⟨_, _⟩, hcall, rfl⟩ := Option.map_eq_some'.mp h
    obtain ⟨-, -, rfl | ⟨_, hdup⟩⟩ := mergeVideoNotes_eq_some td hcall
    · exact hf
    · obtain ⟨_, -, hnew, -, rfl⟩ := dupVideoNote_eq_some td hdup
      exact hf.setVideoNote_of_none hnew
  | deleteVideoNoteThumbnail =>
    obtain ⟨_, hv, rfl⟩ := deleteVideoNoteThumbnail_eq_some h
    exact hf.setVideoNote_of_get hv (hP.deleteThumbnail _)
  | recognizeSpeech =>
    obtain ⟨⟨_, _⟩, hcall, rfl⟩ := Option.map_eq_some'.mp h
    obtain ⟨_, _, _, hv, rfl⟩ := recognizeSpeech_eq_some td hcall
    exact hf.setVideoNote_of_get hv (hP.setTranscription _ _)
  | onTranscribedAudioUpdate =>
    obtain ⟨⟨_, _⟩, hcall, rfl⟩ := Option.map_eq_some'.mp h
    rcases onTranscribedAudioUpdate_eq_some td hcall with
      ⟨-, rfl, -⟩ | ⟨-, _, -, _, hv, -, rfl, -⟩
    · exact hf
    · exact hf.setVideoNote_of_get hv (hP.setTranscription _ _)
  | registerVideoNote | unregisterVideoNote =>
    obtain ⟨_, -, rfl⟩ := Option.map_eq_some'.mp h
    exact hf

/-- No call removes a cached video note. -/
theorem step_getVideoNote_isSome {c : Call Msg} {s s' : VideoNotesManager Tr Msg} {f : FileId}
    (hf : (s.getVideoNote f).isSome) (h : step td c s = some s') : (s'.getVideoNote f).isSome := by
  obtain ⟨v, hv⟩ := Option.isSome_iff_exists.mp hf
  obtain ⟨w, hw, -⟩ := step_cachedWith td (P := fun _ => True)
    ⟨fun _ _ _ => trivial, fun _ _ => trivial, fun _ _ _ => trivial⟩ ⟨v, hv, trivial⟩ h
  simp [hw]

section TranscriptionPushes

variable (hupdate : ∀ old new, old.isSome → (td.transcription.updateFrom old new).1.isSome)
include hupdate

/-- No call takes a transcription away from a cached video note. -/
theorem step_transcribing {c : Call Msg} {s s' : VideoNotesManager Tr Msg} {f : FileId}
    (hf : Transcribing f s) (h : step td c s = some s') : Transcribing f s' :=
  step_cachedWith td (P := fun v => v.transcriptionInfo.isSome)
    ⟨fun _ _ => hupdate _ _, fun _ => id, fun _ _ _ => rfl⟩ hf h

/-- **A recognition's pushes never abort.**  Once `recognize_speech` has run for a message,
    every transcription push for the video note the message showed passes both `CHECK`s of
    `on_transcribed_audio_update`, after any further calls that do not abort, pushes
    included: nothing removes a cached video note, and nothing drops a transcription, as long
    as `TranscriptionInfo::update_from` keeps one that exists. -/
theorem transcriptionPushes_never_abort {s s₁ : VideoNotesManager Tr Msg} {m : Msg}
    {effects : List (Effect Msg)} (hrecognize : recognizeSpeech td m s = some (s₁, effects)) :
    ∃ fileId, s.registry.messageVideoNotes m = some fileId ∧
      ∀ calls s₂, runSteps (step td) calls s₁ = .ok s₂ →
        ∀ isInitial closeFlag rUpdate,
          (onTranscribedAudioUpdate td fileId isInitial closeFlag rUpdate s₂).isSome := by
  obtain ⟨fileId, hm⟩ : ∃ fileId, s.registry.messageVideoNotes m = some fileId := by
    simp only [recognizeSpeech] at hrecognize
    split at hrecognize
    · cases hrecognize
    · exact ⟨_, ‹_›⟩
  refine ⟨fileId, hm, fun calls s₂ hrun _ _ _ => ?_⟩
  have htranscribing := runSteps_invariant (P := fun _ => True)
    (fun _ _ _ _ hs h => step_transcribing td hupdate hs h) calls _ _ (fun _ _ => trivial)
    (recognizeSpeech_transcribing td hm hrecognize) hrun
  exact onTranscribedAudioUpdate_isSome_iff td |>.mpr (.inr htranscribing)

end TranscriptionPushes

theorem transcriptionPushes_never_abort_after_create :
    (∀ old new, old.isSome →
      (VideoNotesTd.inert.transcription.updateFrom old new).1.isSome) ∧
    ∃ s s₁ effects, runSteps (step VideoNotesTd.inert)
        [.createVideoNote ⟨1⟩ "" {} 5 {} "" false, .registerVideoNote ⟨1⟩ ()] .empty =
          .ok s ∧
      recognizeSpeech VideoNotesTd.inert () s = some (s₁, effects) ∧
      ∃ fileId, s.registry.messageVideoNotes () = some fileId ∧
        ∀ calls s₂, runSteps (step VideoNotesTd.inert) calls s₁ = .ok s₂ →
          ∀ isInitial closeFlag rUpdate, (onTranscribedAudioUpdate VideoNotesTd.inert fileId
            isInitial closeFlag rUpdate s₂).isSome :=
  ⟨fun _ _ h => h, _, _, _, rfl, rfl,
    transcriptionPushes_never_abort VideoNotesTd.inert (fun _ _ h => h) (by exact rfl)⟩

end VideoNotes
end TelegramTd
