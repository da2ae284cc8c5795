/-
  TelegramTd.VideoNotes.Notifications

  What the manager asks of the other managers, call by call.  The content
  notifications `on_video_note_transcription_updated` and
  `on_video_note_transcription_completed` send to `MessagesManager` come
  from three places: the replace branch of `on_get_video_note`, when a
  server copy completes a transcription; `recognize_speech`; and
  `on_transcribed_audio_update`.  `callEffects` is the manager's calls with
  their effects kept, and `step` is its state part (`step_eq_callEffects`).

  Each call notifies, for one video note, every message its registry lists,
  in one of the two forms, or nobody (`callEffects_notifiesAt`).  In a
  reachable state the registry implements a map, so those are exactly the
  messages showing that video note, each once, and no other message
  (`notifications_reach_registered_messages_once`).

  A bot's manager is the degenerate case: its registry calls return before
  touching the registry and `create_video_note` drops its minithumbnails, so
  in every state it reaches nothing is registered, nothing is notified, and
  no client object shows a minithumbnail (`bot_tracks_no_message`).
-/

import TelegramTd.VideoNotes.Media

namespace TelegramTd
namespace VideoNotes

open VideoNotesManager

variable {Tr Msg : Type} [DecidableEq Msg] (td : VideoNotesTd Tr Msg)

/-- A call's new state and what it asks of the other managers. -/
def callEffects : Call Msg → VideoNotesManager Tr Msg →
    Option (VideoNotesManager Tr Msg × List (Effect Msg))
  | .createVideoNote f minithumbnail thumbnail duration dimensions waveform replace, s =>
    createVideoNote td f minithumbnail thumbnail duration dimensions waveform replace s
  | .dupVideoNote newId oldId, s => (dupVideoNote td newId oldId s).map fun result => (result.2, [])
  | .mergeVideoNotes newId oldId, s => mergeVideoNotes td newId oldId s
  | .deleteVideoNoteThumbnail f, s => (deleteVideoNoteThumbnail f s).map fun s => (s, [])
  | .recognizeSpeech m, s => recognizeSpeech td m s
  | .onTranscribedAudioUpdate f isInitial closeFlag rUpdate, s =>
    onTranscribedAudioUpdate td f isInitial closeFlag rUpdate s
  | .registerVideoNote f m, s =>
    (registerVideoNote td.kind td.isBot f m s.registry).map fun r =>
      ({ s with registry := r }, [])
  | .unregisterVideoNote f m, s =>
    (unregisterVideoNote td.kind td.isBot f m s.registry).map fun r =>
      ({ s with registry := r }, [])

/-- `step` is the state part of `callEffects`. -/
theorem step_eq_callEffects (c : Call Msg) (s : VideoNotesManager Tr Msg) :
    step td c s = (callEffects td c s).map Prod.fst := by
  cases c <;> simp [step, callEffects, Option.map_map, Function.comp_def]

/-- A call its callers make from a reachable state leads to a reachable state. -/
theorem Reachable.callEffects {s s' : VideoNotesManager Tr Msg} {c : Call Msg}
    {effects : List (Effect Msg)} (hs : Reachable td s) (hc : c.admissibleAt s = true)
    (h : callEffects td c s = some (s', effects)) : Reachable td s' :=
  hs.step hc (by rw [step_eq_callEffects, h]; rfl)

/-- The content notifications among a call's effects. -/
def Effect.isNotification : Effect Msg → Bool
  | .externalUpdateMessageContent _ | .updateMessageContent _ => true
  | _ => false

/-- The notifications of `effects` are one of the two transcription notifications for `f`, or
    there are none. -/
def NotifiesAt (r : Registry Msg) (f : FileId) (effects : List (Effect Msg)) : Prop :=
  effects.filter Effect.isNotification = [] ∨
    effects.filter Effect.isNotification = onVideoNoteTranscriptionUpdated f r ∨
    effects.filter Effect.isNotification = onVideoNoteTranscriptionCompleted f r

section NotifiesAt

omit [DecidableEq Msg]

variable {r : Registry Msg} {f : FileId}

theorem NotifiesAt.of_forall_not (h : ∀ e ∈ effects, Effect.isNotification e = false) :
    NotifiesAt r f effects :=
  .inl (List.filter_eq_nil_iff.mpr fun e he => by simp [h e he])

theorem NotifiesAt.updated : NotifiesAt r f (onVideoNoteTranscriptionUpdated f r) :=
  .inr (.inl (List.filter_eq_self.mpr fun e he => by
    obtain ⟨m, -, rfl⟩ := List.mem_map.mp he; rfl))

theorem NotifiesAt.completed : NotifiesAt r f (onVideoNoteTranscriptionCompleted f r) :=
  .inr (.inr (List.filter_eq_self.mpr fun e he => by
    obtain ⟨m, -, rfl⟩ := List.mem_map.mp he; rfl))

theorem NotifiesAt.ite {c : Prop} [Decidable c] {effects : List (Effect Msg)}
    (h : NotifiesAt r f effects) : NotifiesAt r f (if c then effects else []) := by
  split_ifs
  · exact h
  · exact .of_forall_not nofun

/-- Effects that are not notifications may follow. -/
theorem NotifiesAt.append {effects others : List (Effect Msg)} (h : NotifiesAt r f effects)
    (hothers : ∀ e ∈ others, Effect.isNotification e = false) :
    NotifiesAt r f (effects ++ others) := by
  have hnil : others.filter Effect.isNotification = [] :=
    List.filter_eq_nil_iff.mpr fun e he => by simp [hothers e he]
  unfold NotifiesAt
  rwa [List.filter_append, hnil, List.append_nil]

end NotifiesAt

omit [DecidableEq Msg] in
theorem onGetVideoNote_notifiesAt {s s' : VideoNotesManager Tr Msg} {c : VideoNote Tr}
    {replace : Bool} {r : FileId} {effects : List (Effect Msg)}
    (h : onGetVideoNote td c replace s = some (r, s', effects)) :
    NotifiesAt s.registry c.fileId effects := by
  rcases onGetVideoNote_eq_some td h with ⟨-, -, rfl⟩ | ⟨-, rfl⟩ | ⟨-, -, -, rfl⟩
  · exact .of_forall_not nofun
  · exact .of_forall_not nofun
  · exact NotifiesAt.completed.ite

/-- **One call, one video note.**  Whatever a call asks of the other managers, its content
    notifications are, for one video note, every message the registry lists for it, in one of
    the two forms, or none. -/
theorem callEffects_notifiesAt {c : Call Msg} {s s' : VideoNotesManager Tr Msg}
    {effects : List (Effect Msg)} (h : callEffects td c s = some (s', effects)) :
    ∃ f, NotifiesAt s.registry f effects := by
  cases c with
  | createVideoNote =>
    obtain ⟨⟨_, _, _⟩, hget, ⟨⟩⟩ := Option.map_eq_some'.mp h
    exact ⟨_, onGetVideoNote_notifiesAt td hget⟩
  | dupVideoNote | deleteVideoNoteThumbnail | registerVideoNote | unregisterVideoNote =>
    obtain ⟨_, -, ⟨⟩⟩ := Option.map_eq_some'.mp h
    exact ⟨⟨0⟩, .of_forall_not nofun⟩
  | mergeVideoNotes =>
    obtain ⟨-, rfl, -⟩ := mergeVideoNotes_eq_some td h
    exact ⟨⟨0⟩, .of_forall_not (by simp [Effect.isNotification])⟩
  | recognizeSpeech m =>
    simp only [callEffects, recognizeSpeech] at h
    split at h; · cases h
    split at h; · cases h
    cases h
    exact ⟨_, NotifiesAt.updated.ite⟩
  | onTranscribedAudioUpdate f isInitial closeFlag rUpdate =>
    refine ⟨f, ?_⟩
    rcases onTranscribedAudioUpdate_eq_some td h with
      ⟨-, -, rfl⟩ | ⟨-, _, _, _, -, -, -, herror, hfinal, hpending⟩
    · exact .of_forall_not nofun
    cases rUpdate with
    | error error => exact herror error rfl ▸ .updated
    | ok update =>
      cases hp : update.pending
      · exact hfinal update rfl hp ▸ .completed
      · rw [hpending update rfl hp]
        refine NotifiesAt.updated.ite.append fun e he => ?_
        split_ifs at he
        · simp only [List.mem_singleton] at he; subst he; rfl
        · cases he

/-- Every cached video note satisfies `P`. -/
def AllCached (P : VideoNote Tr → Prop) (s : VideoNotesManager Tr Msg) : Prop :=
  ∀ f v, s.getVideoNote f = some v → P v

omit [DecidableEq Msg] in
theorem AllCached.setVideoNote {P : VideoNote Tr → Prop} {s : VideoNotesManager Tr Msg}
    (hs : AllCached P s) {g : FileId} {w : VideoNote Tr} (hw : P w) :
    AllCached P (s.setVideoNote g w) := fun f v hv => by
  by_cases hf : f = g
  · subst hf
    rw [getVideoNote_setVideoNote_self] at hv
    cases hv
    exact hw
  · exact hs f v (by rwa [getVideoNote_setVideoNote_ne _ _ hf] at hv)

section Bot

variable {td} (hbot : td.isBot = true)
include hbot

/-- A bot's registry calls change nothing. -/
theorem step_registry_of_bot {c : Call Msg} {s s' : VideoNotesManager Tr Msg}
    (h : step td c s = some s') : s'.registry = s.registry := by
  cases hc : c.registryCall with
  | none => exact step_registry_of_none td hc h
  | some rc =>
    have hcall := step_registry_of_some td hc h
    cases rc <;>
      simpa [Registry.call, registerVideoNote, unregisterVideoNote, isUntracked, hbot,
        eq_comm] using hcall

/-- No call gives a bot's cached video note a minithumbnail. -/
theorem step_noMinithumbnail {c : Call Msg} {s s' : VideoNotesManager Tr Msg}
    (hs : AllCached (fun v => v.minithumbnail = "") s) (h : step td c s = some s') :
    AllCached (fun v => v.minithumbnail = "") s' := by
  cases c with
  | createVideoNote =>
    obtain ⟨⟨_, _⟩, hcall, rfl⟩ := Option.map_eq_some'.mp h
    obtain ⟨⟨_, _, _⟩, hget, ⟨⟩⟩ := Option.map_eq_some'.mp hcall
    rcases onGetVideoNote_eq_some td hget with ⟨-, rfl, -⟩ | ⟨rfl, -⟩ | ⟨-, -, rfl, -⟩
    all_goals first | exact hs | exact hs.setVideoNote (by simp [hbot])
  | dupVideoNote =>
    obtain ⟨⟨_, _⟩, hcall, rfl⟩ := Option.map_eq_some'.mp h
    obtain ⟨_, hold, -, -, rfl⟩ := dupVideoNote_eq_some td hcall
    exact hs.setVideoNote (hs _ _ hold :)
  | mergeVideoNotes =>
    obtain ⟨⟨_, _⟩, hcall, rfl⟩ := Option.map_eq_some'.mp h
    obtain ⟨-, -, rfl | ⟨_, hdup⟩⟩ := mergeVideoNotes_eq_some td hcall
    · exact hs
    · obtain ⟨_, hold, -, -, rfl⟩ := dupVideoNote_eq_some td hdup
      exact hs.setVideoNote (hs _ _ hold :)
  | deleteVideoNoteThumbnail =>
    obtain ⟨_, hv, rfl⟩ := deleteVideoNoteThumbnail_eq_some h
    exact hs.setVideoNote (hs _ _ hv :)
  | recognizeSpeech =>
    obtain ⟨⟨_, _⟩, hcall, rfl⟩ := Option.map_eq_some'.mp h
    obtain ⟨_, _, _, hv, rfl⟩ := recognizeSpeech_eq_some td hcall
    exact hs.setVideoNote (hs _ _ hv :)
  | onTranscribedAudioUpdate =>
    obtain ⟨⟨_, _⟩, hcall, rfl⟩ := Option.map_eq_some'.mp h
    rcases onTranscribedAudioUpdate_eq_some td hcall with
      ⟨-, rfl, -⟩ | ⟨-, _, -, _, hv, -, rfl, -⟩
    · exact hs
    · exact hs.setVideoNote (hs _ _ hv :)
  | registerVideoNote | unregisterVideoNote =>
    obtain ⟨_, -, rfl⟩ := Option.map_eq_some'.mp h
    exact hs

/-- **A bot's manager tracks no message and keeps no minithumbnail.**  In every state a bot's
    manager reaches, the registry is empty, every cached video note has an empty minithumbnail,
    so every client object shows none, and no call sends a content notification. -/
theorem bot_tracks_no_message {s : VideoNotesManager Tr Msg} (hs : Reachable td s) :
    (∀ m, s.registry.messageVideoNotes m = none) ∧ (∀ f, s.registry.videoNoteMessages f = none) ∧
    (∀ f object, getVideoNoteObject f s = some (some object) → object.minithumbnail = "") ∧
    ∀ c s' effects, callEffects td c s = some (s', effects) →
      effects.filter Effect.isNotification = [] := by
  have hinv : s.registry = .empty ∧ AllCached (fun v => v.minithumbnail = "") s := by
    induction hs with
    | empty => exact ⟨rfl, fun _ _ h => nomatch h⟩
    | step _ _ h ih =>
      exact ⟨(step_registry_of_bot hbot h).trans ih.1, step_noMinithumbnail hbot ih.2 h⟩
  obtain ⟨hempty, hminithumbnail⟩ := hinv
  refine ⟨fun _ => by rw [hempty]; rfl, fun _ => by rw [hempty]; rfl, fun f object h => ?_,
    fun c s' effects h => ?_⟩
  · unfold getVideoNoteObject at h
    split_ifs at h
    · cases h
    obtain ⟨v, hv, ⟨⟩⟩ := Option.map_eq_some'.mp h
    exact hminithumbnail f v hv
  · obtain ⟨f, hf | hf | hf⟩ := callEffects_notifiesAt td h
    · exact hf
    all_goals rw [hf, hempty]; rfl

end Bot

theorem bot_tracks_no_message_after_create :
    ∃ s, Reachable { VideoNotesTd.inert with isBot := true } s ∧
      (∀ m, s.registry.messageVideoNotes m = none) ∧
      ∀ f object, getVideoNoteObject f s = some (some object) → object.minithumbnail = "" := by
  have hs : Reachable { VideoNotesTd.inert with isBot := true } _ :=
    .step (c := .createVideoNote ⟨1⟩ "thumb" {} 5 {} "" false) .empty rfl (by exact rfl)
  obtain ⟨hregistry, -, hobject, -⟩ := bot_tracks_no_message rfl hs
  exact ⟨_, hs, hregistry, hobject⟩

end VideoNotes
end TelegramTd
