/-
  TelegramTd.MessageExtendedMedia

  The paid media attached to an invoice message (MessageExtendedMedia.h): a
  preview while the media is not bought, the photo or video once it is, or an
  unsupported kind of media the client re-gets after an update.  The header
  defines its kind tests inline; the rest of the class lives in
  MessageExtendedMedia.cpp, not under src/.
-/

import TelegramTd.Basic

namespace TelegramTd

/-- `MessageExtendedMedia::Type`. -/
inductive MediaType
  | empty
  | unsupported
  | preview
  | photo
  | video
deriving DecidableEq

/-- `MessageExtendedMedia`: the members the inline tests read, with their defaults. -/
structure MessageExtendedMedia where
  type : MediaType := .empty
  unsupportedVersion : Int32 := 0

namespace MessageExtendedMedia

/-- `CURRENT_VERSION`. -/
def currentVersion : Int32 := 1

/-- `is_media`. -/
def isMedia (media : MessageExtendedMedia) : Bool :=
  media.type != .empty && media.type != .preview

/-- `is_empty`. -/
def isEmpty (media : MessageExtendedMedia) : Bool := media.type == .empty

/-- `need_reget`. -/
def needReget (media : MessageExtendedMedia) : Bool :=
  media.type == .unsupported && decide (media.unsupportedVersion < currentVersion)

/-- `need_poll`. -/
def needPoll (media : MessageExtendedMedia) : Bool := media.type == .preview

/-- `has_media_timestamp`. -/
def hasMediaTimestamp (media : MessageExtendedMedia) : Bool := media.type == .video

end MessageExtendedMedia

end TelegramTd
