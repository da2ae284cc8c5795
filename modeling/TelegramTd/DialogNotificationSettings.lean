/-
  TelegramTd.DialogNotificationSettings

  DialogNotificationSettings.cpp: the two ways a chat's notification settings
  are built — from a client request (`td_api::chatNotificationSettings`) and
  from a server echo (`telegram_api::peerNotifySettings`) — the read-out to the
  client object, and the comparison that decides what must be sent where.

  The class is declared in DialogNotificationSettings.h and the sound helpers
  live in NotificationSound.cpp; neither is under src/.  The structure below
  holds the fields this file reads, with the header's default member values,
  and the sound helpers are a parameter (`SoundOps`).  `G()->unix_time()` is
  an explicit `int32` argument `unixTime`.
-/

import TelegramTd.Basic

namespace TelegramTd

/-- The notification-sound helpers (NotificationSound.cpp, not under src/).  `Sound` is
    the pointee of `unique_ptr<NotificationSound>`, so a sound is an `Option Sound`;
    `PeerSound` is the sound part of a server `peerNotifySettings`. -/
structure SoundOps (Sound PeerSound : Type) where
  isNotificationSoundDefault : Option Sound → Bool
  getNotificationSoundRingtoneId : Option Sound → Int
  getNotificationSound : Bool → Int → Option Sound
  getNotificationSoundOfPeer : PeerSound → Option Sound
  dupNotificationSound : Option Sound → Option Sound
  areEquivalentNotificationSounds : Option Sound → Option Sound → Bool
  areDifferentEquivalentNotificationSounds : Option Sound → Option Sound → Bool

/-- `DialogNotificationSettings`: the fields this file reads, with the default member
    values of DialogNotificationSettings.h. -/
structure DialogNotificationSettings (Sound : Type) where
  muteUntil : Int32 := 0
  sound : Option Sound := none
  showPreview : Bool := true
  silentSendMessage : Bool := false
  useDefaultMuteUntil : Bool := true
  useDefaultShowPreview : Bool := true
  isUseDefaultFixed : Bool := true
  isSynchronized : Bool := false
  useDefaultDisablePinnedMessageNotifications : Bool := true
  disablePinnedMessageNotifications : Bool := false
  useDefaultDisableMentionNotifications : Bool := true
  disableMentionNotifications : Bool := false
deriving DecidableEq

/-- `td_api::chatNotificationSettings`, the client's view. -/
structure ChatNotificationSettings where
  useDefaultMuteFor : Bool
  muteFor : Int32
  useDefaultSound : Bool
  soundId : Int
  useDefaultShowPreview : Bool
  showPreview : Bool
  useDefaultDisablePinnedMessageNotifications : Bool
  disablePinnedMessageNotifications : Bool
  useDefaultDisableMentionNotifications : Bool
  disableMentionNotifications : Bool
deriving DecidableEq

/-- `telegram_api::peerNotifySettings`, the server's view; the three sound fields are
    kept together as `sounds`. -/
structure PeerNotifySettings (PeerSound : Type) where
  flags : Nat
  showPreviews : Bool
  silent : Bool
  muteUntil : Int32
  sounds : PeerSound

/-- `peerNotifySettings::SHOW_PREVIEWS_MASK` (`flags.0` in the TL schema). -/
def showPreviewsMask : Nat := 1

/-- `peerNotifySettings::MUTE_UNTIL_MASK` (`flags.2` in the TL schema). -/
def muteUntilMask : Nat := 4

/-- `NeedUpdateDialogNotificationSettings`. -/
structure NeedUpdateDialogNotificationSettings where
  needUpdateServer : Bool
  needUpdateLocal : Bool
  areChanged : Bool
deriving DecidableEq

namespace DialogNotificationSettings

variable {Sound PeerSound : Type}

/-- The header's ten-argument constructor, which also marks the value synchronized. -/
def make (useDefaultMuteUntil : Bool) (muteUntil : Int32) (sound : Option Sound)
    (useDefaultShowPreview showPreview silentSendMessage
      useDefaultDisablePinnedMessageNotifications disablePinnedMessageNotifications
      useDefaultDisableMentionNotifications disableMentionNotifications : Bool) :
    DialogNotificationSettings Sound :=
  { muteUntil, sound, showPreview, silentSendMessage, useDefaultMuteUntil,
    useDefaultShowPreview, isSynchronized := true,
    useDefaultDisablePinnedMessageNotifications, disablePinnedMessageNotifications,
    useDefaultDisableMentionNotifications, disableMentionNotifications }

/-- The four fields kept only on this device: the server never sends them. -/
def localPart (s : DialogNotificationSettings Sound) : Bool × Bool × Bool × Bool :=
  (s.useDefaultDisablePinnedMessageNotifications, s.disablePinnedMessageNotifications,
    s.useDefaultDisableMentionNotifications, s.disableMentionNotifications)

/-- What every value built by this file satisfies: a default mute carries no mute time,
    and a mute time is never negative. -/
def MuteUntilOk (s : DialogNotificationSettings Sound) : Prop :=
  (s.useDefaultMuteUntil = true → s.muteUntil = 0) ∧ 0 ≤ s.muteUntil.val

end DialogNotificationSettings

open DialogNotificationSettings

section
variable {Sound PeerSound : Type} (ops : SoundOps Sound PeerSound)

/-- `get_chat_notification_settings_object`; the pointer is non-null by its `CHECK`. -/
def getChatNotificationSettingsObject (unixTime : Int32)
    (notificationSettings : DialogNotificationSettings Sound) : ChatNotificationSettings where
  useDefaultMuteFor := notificationSettings.useDefaultMuteUntil
  muteFor := max 0 (notificationSettings.muteUntil - unixTime)
  useDefaultSound := ops.isNotificationSoundDefault notificationSettings.sound
  soundId := ops.getNotificationSoundRingtoneId notificationSettings.sound
  useDefaultShowPreview := notificationSettings.useDefaultShowPreview
  showPreview := notificationSettings.showPreview
  useDefaultDisablePinnedMessageNotifications :=
    notificationSettings.useDefaultDisablePinnedMessageNotifications
  disablePinnedMessageNotifications := notificationSettings.disablePinnedMessageNotifications
  useDefaultDisableMentionNotifications :=
    notificationSettings.useDefaultDisableMentionNotifications
  disableMentionNotifications := notificationSettings.disableMentionNotifications

/-- `MAX_PRECISE_MUTE_FOR` of `get_mute_until`: 366 days in seconds. -/
def maxPreciseMuteFor : Int32 := 31622400

/-- `get_mute_until`. -/
def getMuteUntil (unixTime muteFor : Int32) : Int32 :=
  if muteFor ≤ 0 then 0
  else if muteFor > maxPreciseMuteFor ∨ muteFor ≥ Int32.maxValue - unixTime then Int32.maxValue
  else muteFor + unixTime

/-- `get_dialog_notification_settings(td_api::chatNotificationSettings, old_settings)`: the
    object is `none` for a null pointer; `old_settings` is non-null by the `CHECK`. -/
def ChatNotificationSettings.getDialogNotificationSettings (unixTime : Int32)
    (notificationSettings : Option ChatNotificationSettings)
    (oldSettings : DialogNotificationSettings Sound) :
    Except Status (DialogNotificationSettings Sound) :=
  match notificationSettings with
  | none => .error ⟨400, "New notification settings must be non-empty"⟩
  | some n =>
    let muteUntil := if n.useDefaultMuteFor then 0 else getMuteUntil unixTime n.muteFor
    let notificationSound := ops.getNotificationSound n.useDefaultSound n.soundId
    let notificationSound :=
      if ops.isNotificationSoundDefault oldSettings.sound &&
          ops.isNotificationSoundDefault notificationSound then
        ops.dupNotificationSound oldSettings.sound
      else notificationSound
    .ok (make n.useDefaultMuteFor muteUntil notificationSound n.useDefaultShowPreview
      n.showPreview oldSettings.silentSendMessage n.useDefaultDisablePinnedMessageNotifications
      n.disablePinnedMessageNotifications n.useDefaultDisableMentionNotifications
      n.disableMentionNotifications)

/-- `get_dialog_notification_settings(telegram_api::peerNotifySettings, old_settings)`:
    `none` stands for a null pointer on either side. -/
def PeerNotifySettings.getDialogNotificationSettings (unixTime : Int32)
    (settings : Option (PeerNotifySettings PeerSound))
    (oldSettings : Option (DialogNotificationSettings Sound)) :
    DialogNotificationSettings Sound :=
  let (oldUseDefaultDisablePinnedMessageNotifications, oldDisablePinnedMessageNotifications,
      oldUseDefaultDisableMentionNotifications, oldDisableMentionNotifications) :=
    match oldSettings with
    | none => (true, false, true, false)
    | some old => old.localPart
  match settings with
  | none =>
    { useDefaultDisablePinnedMessageNotifications := oldUseDefaultDisablePinnedMessageNotifications
      disablePinnedMessageNotifications := oldDisablePinnedMessageNotifications
      useDefaultDisableMentionNotifications := oldUseDefaultDisableMentionNotifications
      disableMentionNotifications := oldDisableMentionNotifications }
  | some settings =>
    let useDefaultMuteUntil := settings.flags &&& muteUntilMask == 0
    let useDefaultShowPreview := settings.flags &&& showPreviewsMask == 0
    let muteUntil :=
      if useDefaultMuteUntil || decide (settings.muteUntil ≤ unixTime) then 0
      else settings.muteUntil
    make useDefaultMuteUntil muteUntil (ops.getNotificationSoundOfPeer settings.sounds)
      useDefaultShowPreview settings.showPreviews settings.silent
      oldUseDefaultDisablePinnedMessageNotifications oldDisablePinnedMessageNotifications
      oldUseDefaultDisableMentionNotifications oldDisableMentionNotifications

/-- `are_default_dialog_notification_settings`. -/
def areDefaultDialogNotificationSettings (settings : DialogNotificationSettings Sound)
    (compareSound : Bool) : Bool :=
  settings.useDefaultMuteUntil && (!compareSound || ops.isNotificationSoundDefault settings.sound) &&
    settings.useDefaultShowPreview && settings.useDefaultDisablePinnedMessageNotifications &&
    settings.useDefaultDisableMentionNotifications

/-- `need_update_dialog_notification_settings`; the current settings are non-null. -/
def needUpdateDialogNotificationSettings (currentSettings newSettings : DialogNotificationSettings Sound) :
    NeedUpdateDialogNotificationSettings :=
  let needUpdateServer := currentSettings.muteUntil != newSettings.muteUntil ||
    !ops.areEquivalentNotificationSounds currentSettings.sound newSettings.sound ||
    currentSettings.showPreview != newSettings.showPreview ||
    currentSettings.useDefaultMuteUntil != newSettings.useDefaultMuteUntil ||
    currentSettings.useDefaultShowPreview != newSettings.useDefaultShowPreview
  let needUpdateLocal :=
    currentSettings.useDefaultDisablePinnedMessageNotifications !=
        newSettings.useDefaultDisablePinnedMessageNotifications ||
      currentSettings.disablePinnedMessageNotifications !=
        newSettings.disablePinnedMessageNotifications ||
      currentSettings.useDefaultDisableMentionNotifications !=
        newSettings.useDefaultDisableMentionNotifications ||
      currentSettings.disableMentionNotifications != newSettings.disableMentionNotifications
  { needUpdateServer, needUpdateLocal
    areChanged := needUpdateServer || needUpdateLocal ||
      currentSettings.isSynchronized != newSettings.isSynchronized ||
      currentSettings.isUseDefaultFixed != newSettings.isUseDefaultFixed ||
      ops.areDifferentEquivalentNotificationSounds currentSettings.sound newSettings.sound }

-- ============================================================================
-- `get_mute_until` and the read-out
-- ============================================================================

@[simp] theorem maxPreciseMuteFor_val : maxPreciseMuteFor.val = 31622400 := rfl

/-- At a non-negative time the two `int32` operations of `get_mute_until` are exact: the
    guard's `INT32_MAX - current_time`, and `mute_for + current_time` in the branch that
    returns it. -/
theorem getMuteUntil_exact (unixTime : Int32) (ht : 0 ≤ unixTime.val) :
    (Int32.maxValue - unixTime).val = 2147483647 - unixTime.val ∧
    ∀ muteFor : Int32, ¬ muteFor ≤ 0 →
      ¬ (muteFor > maxPreciseMuteFor ∨ muteFor ≥ Int32.maxValue - unixTime) →
      (muteFor + unixTime).val = muteFor.val + unixTime.val := by
  have hu := unixTime.range
  have hsub : (Int32.maxValue - unixTime).val = 2147483647 - unixTime.val :=
    Int32.sub_val_of_le (by simp; omega) (by simp; omega)
  refine ⟨hsub, fun muteFor h₀ h₁ => Int32.add_val_of_le ?_ ?_⟩
  all_goals
    simp only [Int32.le_def, Int32.lt_def, gt_iff_lt, ge_iff_le, hsub, Int32.val_zero,
      maxPreciseMuteFor_val] at h₀ h₁
    omega

/-- `get_mute_until` at a non-negative time: the result is the unbounded
    `unix_time + mute_for` clipped to `INT32_MAX`, or `0`. -/
theorem getMuteUntil_val (unixTime muteFor : Int32) (ht : 0 ≤ unixTime.val) :
    (getMuteUntil unixTime muteFor).val =
      if muteFor.val ≤ 0 then 0
      else if 31622400 < muteFor.val then 2147483647
      else min (unixTime.val + muteFor.val) 2147483647 := by
  have hm := muteFor.range
  have hu := unixTime.range
  simp only [getMuteUntil, Int32.le_def, Int32.lt_def, gt_iff_lt, ge_iff_le,
    (getMuteUntil_exact unixTime ht).1, maxPreciseMuteFor_val, Int32.val_zero]
  split_ifs with h₀ h₁ h₂ h₂
  · rfl
  · rfl
  · simp only [Int32.maxValue_val]; omega
  · omega
  · rw [Int32.add_val_of_le (by omega) (by omega)]; omega

/-- The read-out `max(0, mute_until - unix_time)` is exact for a non-negative mute time. -/
theorem getChatNotificationSettingsObject_muteFor_val (unixTime : Int32)
    (s : DialogNotificationSettings Sound) (hs : 0 ≤ s.muteUntil.val) (ht : 0 ≤ unixTime.val) :
    (s.muteUntil - unixTime).val = s.muteUntil.val - unixTime.val ∧
      (getChatNotificationSettingsObject ops unixTime s).muteFor.val =
        max 0 (s.muteUntil.val - unixTime.val) := by
  have hu := unixTime.range
  have hm := s.muteUntil.range
  have hsub := Int32.sub_val_of_le (a := s.muteUntil) (b := unixTime) (by omega) (by omega)
  refine ⟨hsub, ?_⟩
  show (max 0 (s.muteUntil - unixTime)).val = _
  rw [Int32.max_val, hsub, Int32.val_zero]

/-- Reading a non-negative mute time out at `unixTime` and writing it back at the same
    time: an expired mute becomes `0`, one beyond the precise range `INT32_MAX`, and every
    other one is kept. -/
theorem getMuteUntil_readOut (unixTime muteUntil : Int32) (hm : 0 ≤ muteUntil.val)
    (ht : 0 ≤ unixTime.val) :
    (getMuteUntil unixTime (max 0 (muteUntil - unixTime))).val =
      if muteUntil.val ≤ unixTime.val then 0
      else if unixTime.val + 31622400 < muteUntil.val then 2147483647
      else muteUntil.val := by
  have hu := unixTime.range
  have hr := muteUntil.range
  rw [getMuteUntil_val _ _ ht, Int32.max_val, Int32.sub_val_of_le (by omega) (by omega),
    Int32.val_zero]
  split_ifs <;> omega

-- ============================================================================
-- The two overloads
-- ============================================================================

theorem ChatNotificationSettings.getDialogNotificationSettings_some (unixTime : Int32)
    (n : ChatNotificationSettings) (old : DialogNotificationSettings Sound) :
    ChatNotificationSettings.getDialogNotificationSettings ops unixTime (some n) old =
      .ok (make n.useDefaultMuteFor
        (if n.useDefaultMuteFor then 0 else getMuteUntil unixTime n.muteFor)
        (if ops.isNotificationSoundDefault old.sound &&
            ops.isNotificationSoundDefault (ops.getNotificationSound n.useDefaultSound n.soundId)
          then ops.dupNotificationSound old.sound
          else ops.getNotificationSound n.useDefaultSound n.soundId)
        n.useDefaultShowPreview n.showPreview old.silentSendMessage
        n.useDefaultDisablePinnedMessageNotifications n.disablePinnedMessageNotifications
        n.useDefaultDisableMentionNotifications n.disableMentionNotifications) := rfl

/-- A client request yields settings with a well-formed mute time. -/
theorem ChatNotificationSettings.getDialogNotificationSettings_muteUntilOk {unixTime : Int32}
    (ht : 0 ≤ unixTime.val) {n : Option ChatNotificationSettings}
    {old s : DialogNotificationSettings Sound}
    (h : ChatNotificationSettings.getDialogNotificationSettings ops unixTime n old = .ok s) :
    s.MuteUntilOk := by
  cases n with
  | none => cases h
  | some n =>
    rw [ChatNotificationSettings.getDialogNotificationSettings_some] at h
    cases h
    cases hd : n.useDefaultMuteFor
    · refine ⟨(fun h => nomatch h), ?_⟩
      simp only [make, hd, Bool.false_eq_true, if_false, getMuteUntil_val unixTime n.muteFor ht]
      split_ifs <;> omega
    · exact ⟨fun _ => by simp [make, hd], by simp [make, hd]⟩

/-- A server echo yields settings with a well-formed mute time, whatever it carries. -/
theorem PeerNotifySettings.getDialogNotificationSettings_muteUntilOk (unixTime : Int32)
    (ht : 0 ≤ unixTime.val) (settings : Option (PeerNotifySettings PeerSound))
    (old : Option (DialogNotificationSettings Sound)) :
    (PeerNotifySettings.getDialogNotificationSettings ops unixTime settings old).MuteUntilOk := by
  cases settings with
  | none => cases old <;> exact ⟨fun _ => rfl, Int.le_refl 0⟩
  | some st =>
    cases old <;>
    · simp only [PeerNotifySettings.getDialogNotificationSettings, MuteUntilOk, make]
      split_ifs with h
      · exact ⟨fun _ => rfl, Int.le_refl 0⟩
      · simp only [Bool.or_eq_true, decide_eq_true_eq, Int32.le_def, not_or] at h
        exact ⟨fun h' => absurd h' h.1, by omega⟩

/-- `need_update_local` is exactly a difference in the four device-only fields. -/
theorem needUpdateLocal_eq_false_iff (current new : DialogNotificationSettings Sound) :
    (needUpdateDialogNotificationSettings ops current new).needUpdateLocal = false ↔
      current.localPart = new.localPart := by
  simp [needUpdateDialogNotificationSettings, localPart, and_assoc]

/-- Sound helpers of a client without custom sounds: every sound is the default one. -/
def SoundOps.defaultOnly : SoundOps Unit Unit where
  isNotificationSoundDefault _ := true
  getNotificationSoundRingtoneId _ := 0
  getNotificationSound _ _ := none
  getNotificationSoundOfPeer _ := none
  dupNotificationSound s := s
  areEquivalentNotificationSounds _ _ := true
  areDifferentEquivalentNotificationSounds _ _ := false

/-- Sound helpers of a client whose sounds are ringtones named by identifier, where a null
    sound and ringtone `0` are the default: two sounds are equivalent when they name the same
    ringtone, and different when they are so in another form. -/
def SoundOps.ringtones : SoundOps Int Int where
  isNotificationSoundDefault sound := sound.getD 0 == 0
  getNotificationSoundRingtoneId sound := sound.getD 0
  getNotificationSound useDefault ringtoneId := if useDefault then none else some ringtoneId
  getNotificationSoundOfPeer ringtoneId := some ringtoneId
  dupNotificationSound sound := sound
  areEquivalentNotificationSounds a b := a.getD 0 == b.getD 0
  areDifferentEquivalentNotificationSounds a b := a.getD 0 == b.getD 0 && a != b

/-- **No overflow in the mute arithmetic.**  At every non-negative time the two `int32`
    operations of `get_mute_until` are exact, the guard's `INT32_MAX - current_time` and the
    returned `mute_for + current_time`, so the client-side overload computes the mute time as
    the unbounded `min(unix_time + mute_for, INT32_MAX)` outside the default and
    non-positive cases; every value either overload builds (a null server object included)
    has a non-negative mute time, so the read-out `max(0, mute_until - t)` at any time
    `t ≥ 0` is an exact `int32` difference lying in `[0, INT32_MAX]`. -/
theorem muteUntil_computed_without_overflow (unixTime : Int32) (ht : 0 ≤ unixTime.val) :
    (Int32.maxValue - unixTime).val = 2147483647 - unixTime.val ∧
    (∀ muteFor : Int32, ¬ muteFor ≤ 0 →
      ¬ (muteFor > maxPreciseMuteFor ∨ muteFor ≥ Int32.maxValue - unixTime) →
      (muteFor + unixTime).val = muteFor.val + unixTime.val) ∧
    (∀ (n : ChatNotificationSettings) (old : DialogNotificationSettings Sound), ∃ s,
      ChatNotificationSettings.getDialogNotificationSettings ops unixTime (some n) old = .ok s ∧
        s.muteUntil.val =
          if n.useDefaultMuteFor = true ∨ n.muteFor.val ≤ 0 then 0
          else if 31622400 < n.muteFor.val then 2147483647
          else min (unixTime.val + n.muteFor.val) 2147483647) ∧
    (∀ n (old s : DialogNotificationSettings Sound),
      ChatNotificationSettings.getDialogNotificationSettings ops unixTime n old = .ok s →
        0 ≤ s.muteUntil.val) ∧
    (∀ settings (old : Option (DialogNotificationSettings Sound)),
      0 ≤ (PeerNotifySettings.getDialogNotificationSettings ops unixTime settings old).muteUntil.val) ∧
    (∀ (s : DialogNotificationSettings Sound) (t : Int32), 0 ≤ s.muteUntil.val → 0 ≤ t.val →
      (s.muteUntil - t).val = s.muteUntil.val - t.val ∧
        0 ≤ (getChatNotificationSettingsObject ops t s).muteFor.val ∧
        (getChatNotificationSettingsObject ops t s).muteFor.val ≤ 2147483647) := by
  refine ⟨(getMuteUntil_exact unixTime ht).1, (getMuteUntil_exact unixTime ht).2,
    fun n old => ⟨_, ChatNotificationSettings.getDialogNotificationSettings_some ops _ n old, ?_⟩,
    fun n old s h => (ChatNotificationSettings.getDialogNotificationSettings_muteUntilOk ops ht h).2,
    fun settings old =>
      (PeerNotifySettings.getDialogNotificationSettings_muteUntilOk ops unixTime ht settings old).2,
    fun s t hs ht' => ?_⟩
  · have := getMuteUntil_val unixTime n.muteFor ht
    cases hd : n.useDefaultMuteFor
    · simpa [make, hd] using this
    · simp [make, hd]
  · obtain ⟨hsub, hval⟩ := getChatNotificationSettingsObject_muteFor_val ops t s hs ht'
    exact ⟨hsub, by omega, (getChatNotificationSettingsObject ops t s).muteFor.range.2⟩

/-- A request to mute for one day, made after the epoch: `get_mute_until` passes its guard
    with both `int32` operations exact, and the mute lasts until one day later. -/
theorem muteUntil_computed_without_overflow_for_a_day :
    0 ≤ (1700000000 : Int32).val ∧
      (Int32.maxValue - 1700000000).val = 2147483647 - 1700000000 ∧
      ((86400 : Int32) + 1700000000).val = 86400 + 1700000000 ∧
      ∃ s : DialogNotificationSettings Unit,
        ChatNotificationSettings.getDialogNotificationSettings SoundOps.defaultOnly 1700000000
          (some ⟨false, 86400, true, 0, true, true, true, false, true, false⟩) {} = .ok s ∧
        s.muteUntil.val = 1700086400 := by
  obtain ⟨hsub, hadd, hset, -⟩ :=
    muteUntil_computed_without_overflow SoundOps.defaultOnly 1700000000 (by decide)
  obtain ⟨s, hs, hval⟩ :=
    hset ⟨false, 86400, true, 0, true, true, true, false, true, false⟩ {}
  exact ⟨by decide, hsub, hadd 86400 (by decide) (by decide), s, hs, hval.trans (by decide)⟩

-- ============================================================================
-- Frames and the read-out / write-back cycle
-- ============================================================================

/-- **Each side keeps the other's fields.**  A server echo carries over the
    four device-only fields of the old settings (`true, false, true, false` without old
    settings), so it never asks for a local update; a client request keeps the old
    `silent_send_message`, which only the server sets. -/
theorem notificationSettings_frame (unixTime : Int32)
    (settings : Option (PeerNotifySettings PeerSound))
    (old : Option (DialogNotificationSettings Sound)) :
    (PeerNotifySettings.getDialogNotificationSettings ops unixTime settings old).localPart =
        (old.map localPart).getD (true, false, true, false) ∧
      (∀ o, old = some o → (needUpdateDialogNotificationSettings ops o
        (PeerNotifySettings.getDialogNotificationSettings ops unixTime settings old)).needUpdateLocal
          = false) ∧
      ∀ (n : ChatNotificationSettings) (o : DialogNotificationSettings Sound), ∃ s,
        ChatNotificationSettings.getDialogNotificationSettings ops unixTime (some n) o = .ok s ∧
          s.silentSendMessage = o.silentSendMessage := by
  have hlocal : (PeerNotifySettings.getDialogNotificationSettings ops unixTime settings old).localPart =
      (old.map localPart).getD (true, false, true, false) := by
    cases settings <;> cases old <;> rfl
  refine ⟨hlocal, ?_, fun n o =>
    ⟨_, ChatNotificationSettings.getDialogNotificationSettings_some ops _ n o, rfl⟩⟩
  rintro o rfl
  exact (needUpdateLocal_eq_false_iff ops _ _).2 hlocal.symm

/-- Writing back the read-out object: every flag comes straight back and the mute time
    goes through `get_mute_until`. -/
theorem getDialogNotificationSettings_readOut (unixTime : Int32)
    (s : DialogNotificationSettings Sound) : ∃ sound,
    ChatNotificationSettings.getDialogNotificationSettings ops unixTime
        (some (getChatNotificationSettingsObject ops unixTime s)) s =
      .ok (make s.useDefaultMuteUntil
        (if s.useDefaultMuteUntil then 0
          else getMuteUntil unixTime (max 0 (s.muteUntil - unixTime)))
        sound s.useDefaultShowPreview s.showPreview s.silentSendMessage
        s.useDefaultDisablePinnedMessageNotifications s.disablePinnedMessageNotifications
        s.useDefaultDisableMentionNotifications s.disableMentionNotifications) :=
  ⟨_, rfl⟩

/-- **Read-out then write-back at one time.**  For settings with a well-formed
    mute time (every value either overload builds, by the two `_muteUntilOk` lemmas) and
    any non-negative time, reading the settings out and writing the object straight back
    keeps every flag and the device-only fields.  The mute time is kept when it is `0`,
    when it lies in `(unix_time, unix_time + 366 days]`, and when it is `INT32_MAX` and
    still ahead of `unix_time`; an expired one comes back as `0` and one beyond the precise
    range as `INT32_MAX`.  The write-back never needs a local update, and needs no server
    update when the mute time is kept and the sound comes back equivalent. -/
theorem notificationSettings_roundTrip (unixTime : Int32) (ht : 0 ≤ unixTime.val)
    (s : DialogNotificationSettings Sound) (hs : s.MuteUntilOk) :
    ∃ s', ChatNotificationSettings.getDialogNotificationSettings ops unixTime
        (some (getChatNotificationSettingsObject ops unixTime s)) s = .ok s' ∧
      s'.useDefaultMuteUntil = s.useDefaultMuteUntil ∧
      s'.useDefaultShowPreview = s.useDefaultShowPreview ∧ s'.showPreview = s.showPreview ∧
      s'.silentSendMessage = s.silentSendMessage ∧ s'.localPart = s.localPart ∧
      ((s.muteUntil.val = 0 ∨
          (unixTime.val < s.muteUntil.val ∧ s.muteUntil.val ≤ unixTime.val + 31622400) ∨
          (unixTime.val < s.muteUntil.val ∧ s.muteUntil = Int32.maxValue)) →
        s'.muteUntil = s.muteUntil) ∧
      (0 < s.muteUntil.val ∧ s.muteUntil.val ≤ unixTime.val → s'.muteUntil = 0) ∧
      (unixTime.val + 31622400 < s.muteUntil.val → s'.muteUntil = Int32.maxValue) ∧
      (needUpdateDialogNotificationSettings ops s s').needUpdateLocal = false ∧
      (s'.muteUntil = s.muteUntil → ops.areEquivalentNotificationSounds s.sound s'.sound = true →
        (needUpdateDialogNotificationSettings ops s s').needUpdateServer = false) := by
  obtain ⟨hdef, hnn⟩ := hs
  have hr := s.muteUntil.range
  obtain ⟨sound, hwrite⟩ := getDialogNotificationSettings_readOut ops unixTime s
  have hmute : (if s.useDefaultMuteUntil then 0
      else getMuteUntil unixTime (max 0 (s.muteUntil - unixTime))).val =
        if s.muteUntil.val ≤ unixTime.val then 0
        else if unixTime.val + 31622400 < s.muteUntil.val then 2147483647
        else s.muteUntil.val := by
    cases hd : s.useDefaultMuteUntil
    · exact getMuteUntil_readOut unixTime s.muteUntil hnn ht
    · rw [hdef hd]; simp [ht]
  refine ⟨_, hwrite, rfl, rfl, rfl, rfl, rfl, fun h => Int32.ext ?_, fun h => Int32.ext ?_,
    fun h => Int32.ext ?_, (needUpdateLocal_eq_false_iff ops _ _).2 rfl, fun hm hsnd => ?_⟩
  · rw [make, hmute]
    rcases h with h | h | ⟨h, hmax⟩
    · split_ifs <;> omega
    · split_ifs <;> omega
    · have : s.muteUntil.val = 2147483647 := by rw [hmax]; rfl
      split_ifs <;> omega
  · rw [make, hmute, if_pos h.2]; rfl
  · rw [make, hmute, if_neg (by omega), if_pos h]; rfl
  · simp only [make] at hm hsnd
    simp [needUpdateDialogNotificationSettings, make, hm, hsnd]

/-- A one-day mute and a mute until `INT32_MAX`, read out after the epoch and written straight
    back, come back unchanged. -/
theorem notificationSettings_roundTrip_keeps_mutes :
    0 ≤ (1700000000 : Int32).val ∧
    ({ useDefaultMuteUntil := false, muteUntil := 1700086400 } :
      DialogNotificationSettings Unit).MuteUntilOk ∧
    ({ useDefaultMuteUntil := false, muteUntil := Int32.maxValue } :
      DialogNotificationSettings Unit).MuteUntilOk ∧
    ∃ s₁ s₂ : DialogNotificationSettings Unit,
      ChatNotificationSettings.getDialogNotificationSettings SoundOps.defaultOnly 1700000000
        (some (getChatNotificationSettingsObject SoundOps.defaultOnly 1700000000
          { useDefaultMuteUntil := false, muteUntil := 1700086400 }))
        { useDefaultMuteUntil := false, muteUntil := 1700086400 } = .ok s₁ ∧
      s₁.useDefaultMuteUntil = false ∧ s₁.muteUntil = 1700086400 ∧
      ChatNotificationSettings.getDialogNotificationSettings SoundOps.defaultOnly 1700000000
        (some (getChatNotificationSettingsObject SoundOps.defaultOnly 1700000000
          { useDefaultMuteUntil := false, muteUntil := Int32.maxValue }))
        { useDefaultMuteUntil := false, muteUntil := Int32.maxValue } = .ok s₂ ∧
      s₂.useDefaultMuteUntil = false ∧ s₂.muteUntil = Int32.maxValue := by
  have ht : 0 ≤ (1700000000 : Int32).val := by decide
  have hday : ({ useDefaultMuteUntil := false, muteUntil := 1700086400 } :
      DialogNotificationSettings Unit).MuteUntilOk := ⟨nofun, by decide⟩
  have hmax : ({ useDefaultMuteUntil := false, muteUntil := Int32.maxValue } :
      DialogNotificationSettings Unit).MuteUntilOk := ⟨nofun, by decide⟩
  obtain ⟨s₁, h₁, hd₁, -, -, -, -, hkeep₁, -⟩ :=
    notificationSettings_roundTrip SoundOps.defaultOnly 1700000000 ht _ hday
  obtain ⟨s₂, h₂, hd₂, -, -, -, -, hkeep₂, -⟩ :=
    notificationSettings_roundTrip SoundOps.defaultOnly 1700000000 ht _ hmax
  exact ⟨ht, hday, hmax, s₁, s₂, h₁, hd₁, hkeep₁ (.inr (.inl (by decide))), h₂, hd₂,
    hkeep₂ (.inr (.inr ⟨by decide, rfl⟩))⟩

/-- At `unix_time = INT32_MAX` a mute until `INT32_MAX` (here built by a request to mute
    for more than 366 days) has expired: it reads out as `mute_for = 0` and comes back as
    no mute at all. -/
theorem roundTrip_mute_expires_at_int32_max :
    ∃ s s' : DialogNotificationSettings Unit,
      ChatNotificationSettings.getDialogNotificationSettings SoundOps.defaultOnly 0
          (some ⟨false, 31622401, true, 0, true, true, true, false, true, false⟩) {} = .ok s ∧
        s.useDefaultMuteUntil = false ∧ s.muteUntil = Int32.maxValue ∧
        ChatNotificationSettings.getDialogNotificationSettings SoundOps.defaultOnly
          Int32.maxValue (some (getChatNotificationSettingsObject SoundOps.defaultOnly
            Int32.maxValue s)) s = .ok s' ∧
        s'.muteUntil = 0 :=
  ⟨_, _, rfl, rfl, rfl, rfl, rfl⟩

-- ============================================================================
-- A server echo
-- ============================================================================

/-- Reading the same server object again, over the result of the first read, gives that
    result back: the server's fields are read the same way, and the device-only ones come
    from the first read, which had them from the old settings. -/
theorem PeerNotifySettings.getDialogNotificationSettings_echo (unixTime : Int32)
    (settings : Option (PeerNotifySettings PeerSound))
    (old : Option (DialogNotificationSettings Sound)) :
    PeerNotifySettings.getDialogNotificationSettings ops unixTime settings
        (some (PeerNotifySettings.getDialogNotificationSettings ops unixTime settings old)) =
      PeerNotifySettings.getDialogNotificationSettings ops unixTime settings old := by
  rcases settings with _ | settings <;> rcases old with _ | old <;> rfl

/-- **A server echo changes nothing.**  Settings the server sends again, read at the same
    time over the settings its first copy produced, are the same settings, and comparing the
    two asks for no server update, no local update and no change notification, as long as
    every sound is equivalent to itself and not different from itself. -/
theorem serverEcho_needs_no_update
    (hequivalent : ∀ sound, ops.areEquivalentNotificationSounds sound sound = true)
    (hdifferent : ∀ sound, ops.areDifferentEquivalentNotificationSounds sound sound = false)
    (unixTime : Int32) (settings : Option (PeerNotifySettings PeerSound))
    (old : Option (DialogNotificationSettings Sound)) :
    let s := PeerNotifySettings.getDialogNotificationSettings ops unixTime settings old
    let echo := PeerNotifySettings.getDialogNotificationSettings ops unixTime settings (some s)
    echo = s ∧ needUpdateDialogNotificationSettings ops s echo = ⟨false, false, false⟩ := by
  intro s echo
  have hecho : echo = s := PeerNotifySettings.getDialogNotificationSettings_echo ops unixTime
    settings old
  refine ⟨hecho, ?_⟩
  rw [hecho]
  simp [needUpdateDialogNotificationSettings, hequivalent, hdifferent]

/-- A server object that mutes until one day later and shows previews, echoed over settings
    with device-only fields of their own, for a client whose sounds are ringtones. -/
theorem serverEcho_needs_no_update_with_ringtones :
    (∀ sound, SoundOps.ringtones.areEquivalentNotificationSounds sound sound = true) ∧
      (∀ sound, SoundOps.ringtones.areDifferentEquivalentNotificationSounds sound sound = false) ∧
      let s := PeerNotifySettings.getDialogNotificationSettings SoundOps.ringtones 1700000000
        (some ⟨muteUntilMask ||| showPreviewsMask, true, false, 1700086400, 5⟩)
        (some { useDefaultDisablePinnedMessageNotifications := false,
                disablePinnedMessageNotifications := true })
      let echo := PeerNotifySettings.getDialogNotificationSettings SoundOps.ringtones 1700000000
        (some ⟨muteUntilMask ||| showPreviewsMask, true, false, 1700086400, 5⟩) (some s)
      echo = s ∧ needUpdateDialogNotificationSettings SoundOps.ringtones s echo =
        ⟨false, false, false⟩ := by
  have hequivalent : ∀ sound, SoundOps.ringtones.areEquivalentNotificationSounds sound sound =
      true := fun _ => by simp [SoundOps.ringtones]
  have hdifferent : ∀ sound,
      SoundOps.ringtones.areDifferentEquivalentNotificationSounds sound sound = false :=
    fun _ => by simp [SoundOps.ringtones]
  exact ⟨hequivalent, hdifferent,
    serverEcho_needs_no_update SoundOps.ringtones hequivalent hdifferent 1700000000 _ _⟩

end

end TelegramTd
