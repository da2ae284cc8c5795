/-
  TelegramTd.Payments.Convert

  The stateless translations of Payments.cpp between wire objects and client
  objects: `convert_labeled_price`, `convert_invoice`, the two
  `convert_address` and `convert_order_info` overloads,
  `convert_shipping_option` and `convert_saved_credentials`.

  Amounts from the server are never rejected: one that fails
  `check_currency_amount` is logged and clamped (`convertLabeledPrice`,
  `convertInvoice`), so a malformed reply degrades instead of failing.  The
  overloads are told apart by the namespace of the object they build.
-/

import Mathlib.Algebra.Group.Int
import TelegramTd.Payments.Objects

namespace TelegramTd

/-- `td::remove_if` (td/utils/algorithm.h, not under src/): erases from `v`, keeping the
    order of the rest, every element satisfying `f`. -/
def removeIf {α : Type} (v : List α) (f : α → Bool) : List α :=
  v.filter fun x => !f x

namespace TdApi

/-- `convert_address(telegram_api::postAddress)`; a null address stays null. -/
def convertAddress : Option TelegramApi.PostAddress → Option TdApi.Address
  | none => none
  | some address => some ⟨address.countryIso2, address.state, address.city,
      address.streetLine1, address.streetLine2, address.postCode⟩

/-- `convert_order_info(telegram_api::paymentRequestedInfo)`. -/
def convertOrderInfo : Option TelegramApi.PaymentRequestedInfo → Option TdApi.OrderInfo
  | none => none
  | some orderInfo => some ⟨orderInfo.name, orderInfo.phone, orderInfo.email,
      convertAddress orderInfo.shippingAddress⟩

end TdApi

namespace TelegramApi

/-- `convert_address(td_api::address)`; a null address stays null. -/
def convertAddress : Option TdApi.Address → Option TelegramApi.PostAddress
  | none => none
  | some address => some ⟨address.streetLine1, address.streetLine2, address.city,
      address.state, address.countryCode, address.postalCode⟩

open PaymentRequestedInfo in
/-- `convert_order_info(td_api::orderInfo)`: a flag for each field that is present. -/
def convertOrderInfo : Option TdApi.OrderInfo → Option TelegramApi.PaymentRequestedInfo
  | none => none
  | some orderInfo =>
    let flags := 0
    let flags := if orderInfo.name ≠ "" then flags ||| nameMask else flags
    let flags := if orderInfo.phoneNumber ≠ "" then flags ||| phoneMask else flags
    let flags := if orderInfo.emailAddress ≠ "" then flags ||| emailMask else flags
    let flags := if orderInfo.shippingAddress.isSome then flags ||| shippingAddressMask else flags
    some ⟨flags, orderInfo.name, orderInfo.phoneNumber, orderInfo.emailAddress,
      convertAddress orderInfo.shippingAddress⟩

end TelegramApi

-- ============================================================================
-- `convert_address` and `convert_order_info`, both ways
-- ============================================================================

@[simp] theorem TdApi.convertAddress_convertAddress (address : Option TdApi.Address) :
    TdApi.convertAddress (TelegramApi.convertAddress address) = address := by
  rcases address with _ | ⟨⟩ <;> rfl

@[simp] theorem TelegramApi.convertAddress_convertAddress
    (address : Option TelegramApi.PostAddress) :
    TelegramApi.convertAddress (TdApi.convertAddress address) = address := by
  rcases address with _ | ⟨⟩ <;> rfl

theorem TdApi.convertAddress_isSome (address : Option TelegramApi.PostAddress) :
    (TdApi.convertAddress address).isSome = address.isSome := by
  cases address <;> rfl

/-- Setting a flag under a condition ors in its mask, or nothing. -/
theorem ite_or_mask (c : Prop) [Decidable c] (flags mask : Nat) :
    (if c then flags ||| mask else flags) = flags ||| if c then mask else 0 := by
  split <;> simp

open TelegramApi.PaymentRequestedInfo in
/-- `convert_order_info` keeps the fields, and its flags are the masks of the present ones. -/
theorem TelegramApi.convertOrderInfo_some (orderInfo : TdApi.OrderInfo) :
    TelegramApi.convertOrderInfo (some orderInfo) =
      some ⟨(if orderInfo.name ≠ "" then nameMask else 0) |||
          (if orderInfo.phoneNumber ≠ "" then phoneMask else 0) |||
          (if orderInfo.emailAddress ≠ "" then emailMask else 0) |||
          (if orderInfo.shippingAddress.isSome then shippingAddressMask else 0),
        orderInfo.name, orderInfo.phoneNumber, orderInfo.emailAddress,
        TelegramApi.convertAddress orderInfo.shippingAddress⟩ := by
  simp only [TelegramApi.convertOrderInfo, ite_or_mask, Nat.zero_or]

open TelegramApi.PaymentRequestedInfo in
/-- **Order information crosses the wire unchanged.**  A client's order sent with one
    `convert_order_info` and read back with the other is the same order; a server's order
    read and sent back keeps every field, and its flags become the masks of the fields that
    are present, or-ed together, whatever other bits the server had set. -/
theorem convertOrderInfo_roundTrip :
    (∀ orderInfo : Option TdApi.OrderInfo,
      TdApi.convertOrderInfo (TelegramApi.convertOrderInfo orderInfo) = orderInfo) ∧
    ∀ info : TelegramApi.PaymentRequestedInfo,
      TelegramApi.convertOrderInfo (TdApi.convertOrderInfo (some info)) = some { info with
        flags := (if info.name ≠ "" then nameMask else 0) |||
          (if info.phone ≠ "" then phoneMask else 0) |||
          (if info.email ≠ "" then emailMask else 0) |||
          (if info.shippingAddress.isSome then shippingAddressMask else 0) } := by
  refine ⟨fun orderInfo => ?_, fun info => ?_⟩
  · rcases orderInfo with _ | orderInfo
    · rfl
    · simp [TelegramApi.convertOrderInfo_some, TdApi.convertOrderInfo]
  · simp [TdApi.convertOrderInfo, TelegramApi.convertOrderInfo_some, TdApi.convertAddress_isSome]

namespace Payments

variable (checks : InputChecks)

/-- `convert_labeled_price`: an amount `check_currency_amount` rejects becomes `2^40`
    with the amount's sign. -/
def convertLabeledPrice (labeledPrice : TelegramApi.LabeledPrice) : TdApi.LabeledPricePart :=
  let amount :=
    if checks.checkCurrencyAmount labeledPrice.amount then labeledPrice.amount
    else (if labeledPrice.amount < 0 then -1 else 1) * 2 ^ 40
  ⟨labeledPrice.label, amount⟩

open TelegramApi.Invoice in
/-- `convert_invoice`. -/
def convertInvoice (invoice : TelegramApi.Invoice) : TdApi.Invoice :=
  let labeledPrices := invoice.prices.map (convertLabeledPrice checks)
  let isTest := invoice.flags &&& testMask != 0
  let needName := invoice.flags &&& nameRequestedMask != 0
  let needPhoneNumber := invoice.flags &&& phoneRequestedMask != 0
  let needEmailAddress := invoice.flags &&& emailRequestedMask != 0
  let needShippingAddress := invoice.flags &&& shippingAddressRequestedMask != 0
  let sendPhoneNumberToProvider := invoice.flags &&& phoneToProviderMask != 0
  let sendEmailAddressToProvider := invoice.flags &&& emailToProviderMask != 0
  let isFlexible := invoice.flags &&& flexibleMask != 0
  let needPhoneNumber := if sendPhoneNumberToProvider then true else needPhoneNumber
  let needEmailAddress := if sendEmailAddressToProvider then true else needEmailAddress
  let needShippingAddress := if isFlexible then true else needShippingAddress
  let maxTipAmount :=
    if invoice.maxTipAmount < 0 || !checks.checkCurrencyAmount invoice.maxTipAmount then 0
    else invoice.maxTipAmount
  let suggestedTipAmounts := removeIf invoice.suggestedTipAmounts
    fun amount => amount < 0 || !checks.checkCurrencyAmount amount
  let suggestedTipAmounts :=
    if suggestedTipAmounts.length > 4 then suggestedTipAmounts.take 4 else suggestedTipAmounts
  { currency := invoice.currency, priceParts := labeledPrices, maxTipAmount
    suggestedTipAmounts, recurringPaymentTermsOfServiceUrl := invoice.recurringTermsUrl
    isTest, needName, needPhoneNumber, needEmailAddress, needShippingAddress
    sendPhoneNumberToProvider, sendEmailAddressToProvider, isFlexible }

/-- `convert_shipping_option`: a null option stays null; prices are converted one by one. -/
def convertShippingOption : Option TelegramApi.ShippingOption → Option TdApi.ShippingOption
  | none => none
  | some shippingOption => some ⟨shippingOption.id, shippingOption.title,
      shippingOption.prices.map fun price => some (convertLabeledPrice checks price)⟩

/-- `convert_saved_credentials`. -/
def convertSavedCredentials (savedCredentials : List TelegramApi.PaymentSavedCredentialsCard) :
    List TdApi.SavedCredentials :=
  savedCredentials.map fun credentials => ⟨credentials.id, credentials.title⟩

-- ============================================================================
-- `convert_invoice`
-- ============================================================================

/-- A price keeps its amount when the check accepts it, and becomes `±2^40` otherwise. -/
theorem convertLabeledPrice_eq (labeledPrice : TelegramApi.LabeledPrice) :
    convertLabeledPrice checks labeledPrice =
      ⟨labeledPrice.label,
        if checks.checkCurrencyAmount labeledPrice.amount then labeledPrice.amount
        else if labeledPrice.amount < 0 then -2 ^ 40 else 2 ^ 40⟩ := by
  simp only [convertLabeledPrice]
  split_ifs <;> simp

/-- The suggested tips `convert_invoice` keeps: the first four valid ones, in order. -/
theorem convertInvoice_suggestedTipAmounts (invoice : TelegramApi.Invoice) :
    (convertInvoice checks invoice).suggestedTipAmounts =
      (invoice.suggestedTipAmounts.filter fun amount =>
        decide (0 ≤ amount) && checks.checkCurrencyAmount amount).take 4 := by
  have hvalid : (fun amount => !(decide (amount < 0) || !checks.checkCurrencyAmount amount)) =
      fun amount => decide (0 ≤ amount) && checks.checkCurrencyAmount amount := by
    funext amount
    by_cases h : amount < 0
    · simp [h, Int.not_le.mpr h]
    · simp [h, Int.not_lt.mp h]
  simp only [convertInvoice, removeIf, hvalid]
  split_ifs with h
  · rfl
  · exact (List.take_of_length_le (by omega)).symm

/-- **`convert_invoice`.**  The suggested tips are the first four server
    amounts that are non-negative and pass `check_currency_amount`, in their order; the
    maximum tip is kept only when it is non-negative and valid; asking to send the phone
    number or e-mail address to the provider, or a flexible price, implies the matching
    `need_*` flag; and the price parts are the server's, in order, with each invalid amount
    replaced by `2^40` carrying the amount's sign. -/
theorem convertInvoice_spec (invoice : TelegramApi.Invoice) :
    (convertInvoice checks invoice).suggestedTipAmounts =
        (invoice.suggestedTipAmounts.filter fun amount =>
          decide (0 ≤ amount) && checks.checkCurrencyAmount amount).take 4 ∧
      (convertInvoice checks invoice).maxTipAmount =
        (if 0 ≤ invoice.maxTipAmount ∧ checks.checkCurrencyAmount invoice.maxTipAmount
          then invoice.maxTipAmount else 0) ∧
      ((convertInvoice checks invoice).sendPhoneNumberToProvider = true →
        (convertInvoice checks invoice).needPhoneNumber = true) ∧
      ((convertInvoice checks invoice).sendEmailAddressToProvider = true →
        (convertInvoice checks invoice).needEmailAddress = true) ∧
      ((convertInvoice checks invoice).isFlexible = true →
        (convertInvoice checks invoice).needShippingAddress = true) ∧
      (convertInvoice checks invoice).priceParts =
        invoice.prices.map fun price =>
          ⟨price.label,
            if checks.checkCurrencyAmount price.amount then price.amount
            else if price.amount < 0 then -2 ^ 40 else 2 ^ 40⟩ := by
  refine ⟨convertInvoice_suggestedTipAmounts checks invoice, ?_, ?_, ?_, ?_, ?_⟩
  · simp only [convertInvoice]
    by_cases h : 0 ≤ invoice.maxTipAmount
    · cases checks.checkCurrencyAmount invoice.maxTipAmount <;> simp [h, Int.not_lt.mpr h]
    · simp [h, Int.not_le.mp h]
  · intro h; simp_all [convertInvoice]
  · intro h; simp_all [convertInvoice]
  · intro h; simp_all [convertInvoice]
  · exact congrArg invoice.prices.map (funext (convertLabeledPrice_eq checks))

end Payments

end TelegramTd
