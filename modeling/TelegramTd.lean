import TelegramTd.Basic
import TelegramTd.Utils.As
import TelegramTd.DialogNotificationSettings
import TelegramTd.Payments.Objects
import TelegramTd.Payments.Convert
import TelegramTd.Payments.Query
import TelegramTd.Payments.Handlers
import TelegramTd.Payments.EntryPoints
import TelegramTd.VideoNotes.Registry
import TelegramTd.VideoNotes.Cache
import TelegramTd.VideoNotes.Invariant
import TelegramTd.VideoNotes.Media
import TelegramTd.VideoNotes.Notifications
import TelegramTd.Documents
import TelegramTd.EmojiGroup
import TelegramTd.MessageExtendedMedia
