/-
  TelegramTd.VideoNotes.Registry

  The back-reference registry of `VideoNotesManager`: which messages show
  which video note.  The source keeps it as two hash maps,
  `video_note_messages_` (file id to the set of messages) and
  `message_video_notes_` (message to file id), updated together by
  `register_video_note` and `unregister_video_note`, and read by the two
  transcription notifications.

  What the registry is for is a single partial map from messages to video
  notes (`Abstract`), with registration and unregistration as contract-checked
  updates of it.  `registry_refines_abstract` says the two maps implement that
  map: over every sequence of calls they abort at the same call, and otherwise
  the second map is the abstract one and the first its inverse image, with no
  empty sets left behind, so every notification reaches exactly the messages
  showing the video note, each once.
-/

import Mathlib.Data.List.Nodup
import TelegramTd.Basic

namespace TelegramTd
namespace VideoNotes

/-- The message tests the registry filters on, `MessageId::is_scheduled` and
    `MessageId::is_server` (MessageId.h, not under src/), over `Msg`, the type of
    `FullMessageId`. -/
structure MessageKind (Msg : Type) where
  isScheduled : Msg → Bool
  isServer : Msg → Bool

/-- What the manager asks of other managers: `on_external_update_message_content` and
    `on_update_message_content` of `MessagesManager`, `subscribe_to_transcribed_audio_updates`
    of `UpdatesManager`, and `merge` of `FileManager`. -/
inductive Effect (Msg : Type)
  | externalUpdateMessageContent (fullMessageId : Msg)
  | updateMessageContent (fullMessageId : Msg)
  | subscribeToTranscribedAudioUpdates (transcriptionId : Int) (fileId : FileId)
  | mergeFiles (newId oldId : FileId)
deriving DecidableEq

variable {Msg : Type} [DecidableEq Msg]

/-- `video_note_messages_` and `message_video_notes_`.  A `FlatHashSet` is a list without
    duplicates, in its iteration order. -/
structure Registry (Msg : Type) where
  videoNoteMessages : FileId → Option (List Msg)
  messageVideoNotes : Msg → Option FileId

namespace Registry

def empty : Registry Msg := ⟨fun _ => none, fun _ => none⟩

/-- `video_note_messages_[file_id]`: a missing key reads as the empty set. -/
def messageIds (r : Registry Msg) (fileId : FileId) : List Msg :=
  (r.videoNoteMessages fileId).getD []

omit [DecidableEq Msg] in
theorem messageIds_update (r : Registry Msg) (f g : FileId) (ids : Option (List Msg))
    (messageVideoNotes : Msg → Option FileId) :
    messageIds ⟨Function.update r.videoNoteMessages f ids, messageVideoNotes⟩ g =
      if g = f then ids.getD [] else r.messageIds g := by
  by_cases hg : g = f
  · subst hg; simp [messageIds]
  · simp [messageIds, hg, Function.update_noteq hg]

end Registry

section Calls

variable (kind : MessageKind Msg) (isBot : Bool)

/-- The early return of both registry calls: scheduled and non-server messages, and every
    message of a bot, are not tracked. -/
def isUntracked (fullMessageId : Msg) : Bool :=
  kind.isScheduled fullMessageId || !kind.isServer fullMessageId || isBot

/-- `register_video_note`; a failed `CHECK` or `LOG_CHECK` aborts (`none`). -/
def registerVideoNote (videoNoteFileId : FileId) (fullMessageId : Msg) (r : Registry Msg) :
    Option (Registry Msg) :=
  if isUntracked kind isBot fullMessageId then some r
  else if !videoNoteFileId.isValid then none
  else if fullMessageId ∈ r.messageIds videoNoteFileId then none
  else
    match r.messageVideoNotes fullMessageId with
    | some _ => none
    | none => some
      ⟨Function.update r.videoNoteMessages videoNoteFileId
          (some (r.messageIds videoNoteFileId ++ [fullMessageId])),
        Function.update r.messageVideoNotes fullMessageId (some videoNoteFileId)⟩

/-- `unregister_video_note`: the set of a video note is dropped with its last message. -/
def unregisterVideoNote (videoNoteFileId : FileId) (fullMessageId : Msg) (r : Registry Msg) :
    Option (Registry Msg) :=
  if isUntracked kind isBot fullMessageId then some r
  else if !videoNoteFileId.isValid then none
  else if fullMessageId ∉ r.messageIds videoNoteFileId then none
  else
    let messageIds := (r.messageIds videoNoteFileId).erase fullMessageId
    match r.messageVideoNotes fullMessageId with
    | none => none
    | some _ => some
      ⟨Function.update r.videoNoteMessages videoNoteFileId
          (if messageIds.isEmpty then none else some messageIds),
        Function.update r.messageVideoNotes fullMessageId none⟩

/-- A call into the registry. -/
inductive RegistryCall (Msg : Type)
  | registerVideoNote (videoNoteFileId : FileId) (fullMessageId : Msg)
  | unregisterVideoNote (videoNoteFileId : FileId) (fullMessageId : Msg)

def Registry.call : RegistryCall Msg → Registry Msg → Option (Registry Msg)
  | .registerVideoNote f m, r => registerVideoNote kind isBot f m r
  | .unregisterVideoNote f m, r => unregisterVideoNote kind isBot f m r

/-- **Registering a message twice aborts.**  Once `register_video_note` has registered a
    tracked message, registering it again, under this or any other video note, fails a
    `CHECK`; for an untracked message both calls leave the registry as it was. -/
theorem registerVideoNote_twice {f : FileId} {m : Msg} {r r' : Registry Msg}
    (h : registerVideoNote kind isBot f m r = some r') (g : FileId) :
    (isUntracked kind isBot m = true ∧ r' = r ∧ registerVideoNote kind isBot g m r' = some r) ∨
    (isUntracked kind isBot m = false ∧ registerVideoNote kind isBot g m r' = none) := by
  cases hu : isUntracked kind isBot m
  · have hm : r'.messageVideoNotes m = some f := by
      simp only [registerVideoNote, hu, Bool.false_eq_true, ↓reduceIte] at h
      split_ifs at h
      split at h <;> cases h
      simp
    refine .inr ⟨rfl, ?_⟩
    simp only [registerVideoNote, hu, hm, Bool.false_eq_true, ↓reduceIte]
    split_ifs <;> rfl
  · simp only [registerVideoNote, hu, if_true, Option.some_inj] at h
    subst h
    exact .inl ⟨rfl, rfl, by simp [registerVideoNote, hu]⟩

theorem registerVideoNote_twice_on_empty :
    ∃ r', registerVideoNote (⟨fun _ => false, fun _ => true⟩ : MessageKind Unit) false ⟨1⟩ ()
        .empty = some r' ∧
      ((isUntracked ⟨fun _ => false, fun _ => true⟩ false () = true ∧ r' = .empty ∧
          registerVideoNote ⟨fun _ => false, fun _ => true⟩ false ⟨2⟩ () r' = some .empty) ∨
        (isUntracked ⟨fun _ => false, fun _ => true⟩ false () = false ∧
          registerVideoNote ⟨fun _ => false, fun _ => true⟩ false ⟨2⟩ () r' = none)) :=
  ⟨_, rfl, registerVideoNote_twice _ _ (f := ⟨1⟩) (by exact rfl) ⟨2⟩⟩

variable {f : FileId} {m : Msg} {r r' : Registry Msg}

/-- `register_video_note` changes `message_video_notes_` at most by mapping its message to
    its video note. -/
theorem registerVideoNote_messageVideoNotes (h : registerVideoNote kind isBot f m r = some r') :
    r'.messageVideoNotes = r.messageVideoNotes ∨
      r'.messageVideoNotes = Function.update r.messageVideoNotes m (some f) := by
  unfold registerVideoNote at h
  split_ifs at h
  · cases h; exact .inl rfl
  · split at h <;> cases h
    exact .inr rfl

/-- `unregister_video_note` changes `message_video_notes_` at most by removing its
    message. -/
theorem unregisterVideoNote_messageVideoNotes
    (h : unregisterVideoNote kind isBot f m r = some r') :
    r'.messageVideoNotes = r.messageVideoNotes ∨
      r'.messageVideoNotes = Function.update r.messageVideoNotes m none := by
  unfold unregisterVideoNote at h
  split_ifs at h
  · cases h; exact .inl rfl
  · split at h <;> cases h
    exact .inr rfl

end Calls

/-- `on_video_note_transcription_updated`. -/
def onVideoNoteTranscriptionUpdated (fileId : FileId) (r : Registry Msg) : List (Effect Msg) :=
  (r.messageIds fileId).map .externalUpdateMessageContent

/-- `on_video_note_transcription_completed`. -/
def onVideoNoteTranscriptionCompleted (fileId : FileId) (r : Registry Msg) : List (Effect Msg) :=
  (r.messageIds fileId).map .updateMessageContent

-- ============================================================================
-- The abstract registry
-- ============================================================================

/-! The registry as what it is for: a partial map `L` from messages to the video note each
shows.  Registering a message that already shows a video note, or unregistering a pair that
is not in `L`, is a broken contract and aborts. -/

namespace Abstract

variable (kind : MessageKind Msg) (isBot : Bool)

def register (f : FileId) (m : Msg) (L : Msg → Option FileId) : Option (Msg → Option FileId) :=
  if isUntracked kind isBot m then some L
  else if !f.isValid || (L m).isSome then none
  else some (Function.update L m (some f))

def unregister (f : FileId) (m : Msg) (L : Msg → Option FileId) :
    Option (Msg → Option FileId) :=
  if isUntracked kind isBot m then some L
  else if !f.isValid || L m ≠ some f then none
  else some (Function.update L m none)

def call : RegistryCall Msg → (Msg → Option FileId) → Option (Msg → Option FileId)
  | .registerVideoNote f m, L => register kind isBot f m L
  | .unregisterVideoNote f m, L => unregister kind isBot f m L

end Abstract

-- ============================================================================
-- The two maps implement the abstract one
-- ============================================================================

/-- The registry's maps are `L` and its inverse image: `message_video_notes_` is `L`, the
    messages listed under `f` are `L⁻¹(f)`, each once, and no key is left with an empty
    set. -/
structure Refines (r : Registry Msg) (L : Msg → Option FileId) : Prop where
  messageVideoNotes_eq : r.messageVideoNotes = L
  nodup : ∀ f, (r.messageIds f).Nodup
  mem_iff : ∀ f m, m ∈ r.messageIds f ↔ L m = some f
  ne_some_nil : ∀ f, r.videoNoteMessages f ≠ some []

namespace Refines

variable {r : Registry Msg} {L : Msg → Option FileId}

omit [DecidableEq Msg] in
theorem empty : Refines (.empty : Registry Msg) fun _ => none :=
  ⟨rfl, fun _ => .nil, fun _ _ => by simp [Registry.messageIds, Registry.empty],
    fun _ => nofun⟩

omit [DecidableEq Msg] in
/-- A key of `video_note_messages_` is present exactly when some message shows it. -/
theorem isSome_iff (h : Refines r L) (f : FileId) :
    (r.videoNoteMessages f).isSome ↔ ∃ m, L m = some f := by
  have hmem := h.mem_iff f
  have hne := h.ne_some_nil f
  simp only [Registry.messageIds] at hmem
  rcases hs : r.videoNoteMessages f with _ | (_ | ⟨m, _⟩)
  · simp_all
  · exact absurd hs hne
  · exact iff_of_true rfl ⟨m, (hmem m).mp (by simp [hs])⟩

theorem register (h : Refines r L) {f : FileId} {m : Msg} (hm : L m = none) :
    Refines ⟨Function.update r.videoNoteMessages f (some (r.messageIds f ++ [m])),
      Function.update r.messageVideoNotes m (some f)⟩ (Function.update L m (some f)) := by
  have hnot : m ∉ r.messageIds f := by simp [h.mem_iff, hm]
  refine ⟨by rw [h.messageVideoNotes_eq], fun g => ?_, fun g m' => ?_, fun g => ?_⟩
  · rw [Registry.messageIds_update]
    split_ifs with hg
    · simp [List.nodup_append, hnot, h.nodup f]
    · exact h.nodup g
  · rw [Registry.messageIds_update, Function.update_apply]
    split_ifs with hg hm' hm' <;> subst_vars
    · simp
    · simp [hm', h.mem_iff]
    · simp [h.mem_iff, hm, Ne.symm hg]
    · exact h.mem_iff g m'
  · by_cases hg : g = f
    · subst hg; simp
    · simpa [Function.update_noteq hg] using h.ne_some_nil g

theorem unregister (h : Refines r L) {f : FileId} {m : Msg} (hm : L m = some f) :
    Refines ⟨Function.update r.videoNoteMessages f
        (if ((r.messageIds f).erase m).isEmpty then none else some ((r.messageIds f).erase m)),
      Function.update r.messageVideoNotes m none⟩ (Function.update L m none) := by
  have herase : ∀ m', m' ∈ (r.messageIds f).erase m ↔ m' ≠ m ∧ L m' = some f := fun m' => by
    rw [(h.nodup f).mem_erase_iff, h.mem_iff]
  have hids : (if ((r.messageIds f).erase m).isEmpty then none
      else some ((r.messageIds f).erase m)).getD [] = (r.messageIds f).erase m := by
    split_ifs with hempty
    · simpa using hempty.symm
    · rfl
  refine ⟨by rw [h.messageVideoNotes_eq], fun g => ?_, fun g m' => ?_, fun g => ?_⟩
  · rw [Registry.messageIds_update, hids]
    split_ifs with hg
    · exact (h.nodup f).erase m
    · exact h.nodup g
  · rw [Registry.messageIds_update, hids, Function.update_apply]
    split_ifs with hg hm' hm' <;> subst_vars
    · simp [herase]
    · simp [herase, hm']
    · simp [h.mem_iff, hm, Ne.symm hg]
    · exact h.mem_iff g m'
  · by_cases hg : g = f
    · subst hg; split_ifs with hempty <;> simp_all
    · simpa [Function.update_noteq hg] using h.ne_some_nil g

end Refines

section Refinement

variable (kind : MessageKind Msg) (isBot : Bool)

/-- One call: the registry aborts exactly when the abstract map does, and otherwise the two
    stay related. -/
theorem call_refines (c : RegistryCall Msg) {r : Registry Msg} {L : Msg → Option FileId}
    (h : Refines r L) :
    (Registry.call kind isBot c r = none ∧ Abstract.call kind isBot c L = none) ∨
      ∃ r' L', Registry.call kind isBot c r = some r' ∧ Abstract.call kind isBot c L = some L' ∧
        Refines r' L' := by
  have hmv := h.messageVideoNotes_eq
  cases c with
  | registerVideoNote f m =>
    simp only [Registry.call, Abstract.call, registerVideoNote, Abstract.register]
    by_cases hu : isUntracked kind isBot m
    · simp only [hu, if_true]; exact .inr ⟨r, L, rfl, rfl, h⟩
    simp only [hu]
    by_cases hv : f.isValid
    · rcases hL : L m with _ | g
      · have hnot : m ∉ r.messageIds f := by simp [h.mem_iff, hL]
        have hr : r.messageVideoNotes m = none := hmv ▸ hL
        simp only [hv, hnot, hr, hL]
        exact .inr ⟨_, _, rfl, rfl, h.register hL⟩
      · have hr : r.messageVideoNotes m = some g := hmv ▸ hL
        simp [hv, hr, hL]
    · simp [hv]
  | unregisterVideoNote f m =>
    simp only [Registry.call, Abstract.call, unregisterVideoNote, Abstract.unregister]
    by_cases hu : isUntracked kind isBot m
    · simp only [hu, if_true]; exact .inr ⟨r, L, rfl, rfl, h⟩
    simp only [hu]
    by_cases hv : f.isValid
    · by_cases hL : L m = some f
      · have hin : m ∈ r.messageIds f := (h.mem_iff f m).mpr hL
        have hr : r.messageVideoNotes m = some f := hmv ▸ hL
        simp only [hv, hin, hr, hL]
        exact .inr ⟨_, _, rfl, by simp, h.unregister hL⟩
      · have hnot : m ∉ r.messageIds f := by rwa [h.mem_iff]
        simp [hv, hnot, hL]
    · simp [hv]

/-- **The registry implements the abstract map.**  Over every sequence of
    `register_video_note` and `unregister_video_note` calls from the empty registry, the
    code aborts at exactly the call at which the abstract map does; otherwise (so also before
    that call, on every prefix) `message_video_notes_` is the abstract map `L`,
    `video_note_messages_` has a key exactly for the video notes some message shows, listing
    `L⁻¹(f)`, and both transcription notifications for `f` reach exactly the messages of
    `L⁻¹(f)`, each once. -/
theorem registry_refines_abstract (calls : List (RegistryCall Msg)) :
    (∃ n, runSteps (Registry.call kind isBot) calls .empty = .error n ∧
      runSteps (Abstract.call kind isBot) calls (fun _ => none) = .error n) ∨
    ∃ r L, runSteps (Registry.call kind isBot) calls .empty = .ok r ∧
      runSteps (Abstract.call kind isBot) calls (fun _ => none) = .ok L ∧
      r.messageVideoNotes = L ∧
      (∀ f, (r.videoNoteMessages f).isSome ↔ ∃ m, L m = some f) ∧
      ∀ f, ∃ ms : List Msg, ms.Nodup ∧ (∀ m, m ∈ ms ↔ L m = some f) ∧
        (∀ s, r.videoNoteMessages f = some s → s = ms) ∧
        onVideoNoteTranscriptionUpdated f r = ms.map .externalUpdateMessageContent ∧
        onVideoNoteTranscriptionCompleted f r = ms.map .updateMessageContent := by
  have hrun := runSteps_agree (fun c _ _ h => call_refines kind isBot c h) calls _ _ Refines.empty
  revert hrun
  cases runSteps (Registry.call kind isBot) calls .empty <;>
    cases runSteps (Abstract.call kind isBot) calls (fun _ => none) <;>
    simp only [RunsAgree, false_imp_iff, true_implies]
  · intro hn; exact .inl ⟨_, rfl, by rw [hn]⟩
  · rename_i r L
    intro h
    refine .inr ⟨r, L, rfl, rfl, h.messageVideoNotes_eq, h.isSome_iff, fun f =>
      ⟨r.messageIds f, h.nodup f, h.mem_iff f, fun s hs => by simp [Registry.messageIds, hs],
        rfl, rfl⟩⟩

end Refinement

end VideoNotes
end TelegramTd
