/-
  TelegramTd.EmojiGroup

  Emoji categories (EmojiGroup.h, EmojiGroup.cpp): the groups of emoji the
  server sends for a set of language codes, kept as an `EmojiGroupList` with
  the hash the server gave it and the time it is due to be reloaded, an hour
  after it was received or last refreshed.

  `Time::now()` is a double counting seconds; the model takes the current
  time as a rational argument, and `now + 3600` as exact.
-/

import TelegramTd.Basic
import Mathlib.Algebra.Order.Ring.Rat

namespace TelegramTd

/-- `telegram_api::emojiGroup`, the fields the constructor reads. -/
structure TelegramApi.EmojiGroup where
  title : String
  iconEmojiId : Int
  emoticons : List String

/-- `td_api::emojiCategory`, in the order of its constructor's arguments. -/
structure TdApi.EmojiCategory where
  name : String
  iconCustomEmojiId : Int
  emojis : List String
deriving DecidableEq

/-- `td_api::emojiCategories`. -/
structure TdApi.EmojiCategories where
  categories : List TdApi.EmojiCategory
deriving DecidableEq

/-- `CustomEmojiId` (CustomEmojiId.h, not under src/): an `int64`, read with `get`. -/
structure CustomEmojiId where
  id : Int

/-- `EmojiGroup`. -/
structure EmojiGroup where
  title : String := ""
  iconCustomEmojiId : CustomEmojiId := ⟨0⟩
  emojis : List String := []

namespace EmojiGroup

/-- `EmojiGroup(telegram_api::object_ptr<telegram_api::emojiGroup> &&emoji_group)`. -/
def ofTelegramApi (emojiGroup : TelegramApi.EmojiGroup) : EmojiGroup :=
  ⟨emojiGroup.title, ⟨emojiGroup.iconEmojiId⟩, emojiGroup.emoticons⟩

/-- `get_emoji_category_object`. -/
def getEmojiCategoryObject (emojiGroup : EmojiGroup) : TdApi.EmojiCategory :=
  ⟨emojiGroup.title, emojiGroup.iconCustomEmojiId.id, emojiGroup.emojis⟩

end EmojiGroup

/-- `EmojiGroupList`, with its default members. -/
structure EmojiGroupList where
  usedLanguageCodes : String := ""
  hash : Int32 := 0
  emojiGroups : List EmojiGroup := []
  nextReloadTime : ℚ := 0

namespace EmojiGroupList

/-- The constructor from the server's groups, at time `now`. -/
def make (usedLanguageCodes : String) (hash : Int32)
    (emojiGroups : List TelegramApi.EmojiGroup) (now : ℚ) : EmojiGroupList :=
  ⟨usedLanguageCodes, hash, emojiGroups.map EmojiGroup.ofTelegramApi, now + 3600⟩

/-- `get_emoji_categories_object`. -/
def getEmojiCategoriesObject (list : EmojiGroupList) : TdApi.EmojiCategories :=
  ⟨list.emojiGroups.map EmojiGroup.getEmojiCategoryObject⟩

/-- `is_expired`, at time `now`. -/
def isExpired (list : EmojiGroupList) (now : ℚ) : Bool := decide (list.nextReloadTime < now)

/-- `update_next_reload_time`, at time `now`. -/
def updateNextReloadTime (list : EmojiGroupList) (now : ℚ) : EmojiGroupList :=
  { list with nextReloadTime := now + 3600 }

end EmojiGroupList

end TelegramTd
