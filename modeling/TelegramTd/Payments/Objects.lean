/-
  TelegramTd.Payments.Objects

  The request and response objects Payments.cpp translates between: the
  client-facing `td_api` shapes and the wire-facing `telegram_api` shapes,
  with only the fields the translation reads or builds.  `int53`/`int64`
  amounts are integers: no arithmetic of this file can overflow them.

  The two helpers every translation calls, `check_currency_amount` and
  `clean_input_string`, live in misc.cpp (not under src/) and are a
  parameter (`InputChecks`).  Flag masks are the bit positions of the TL
  schema the generated `telegram_api` classes use.
-/

import TelegramTd.Basic

namespace TelegramTd

/-- The input checks of misc.cpp (not under src/).  `clean_input_string` cleans its
    argument in place and reports whether it was valid text; here it returns the cleaned
    string, or `none` when the text is rejected. -/
structure InputChecks where
  checkCurrencyAmount : Int → Bool
  cleanInputString : String → Option String

namespace TdApi

/-- `td_api::labeledPricePart`. -/
structure LabeledPricePart where
  label : String
  amount : Int
deriving DecidableEq

/-- `td_api::invoice`. -/
structure Invoice where
  currency : String
  priceParts : List LabeledPricePart
  maxTipAmount : Int
  suggestedTipAmounts : List Int
  recurringPaymentTermsOfServiceUrl : String
  isTest : Bool
  needName : Bool
  needPhoneNumber : Bool
  needEmailAddress : Bool
  needShippingAddress : Bool
  sendPhoneNumberToProvider : Bool
  sendEmailAddressToProvider : Bool
  isFlexible : Bool
deriving DecidableEq

/-- `td_api::shippingOption`; a null price part is `none`. -/
structure ShippingOption where
  id : String
  title : String
  priceParts : List (Option LabeledPricePart)
deriving DecidableEq

/-- `td_api::address`. -/
structure Address where
  countryCode : String
  state : String
  city : String
  streetLine1 : String
  streetLine2 : String
  postalCode : String
deriving DecidableEq

/-- `td_api::orderInfo`. -/
structure OrderInfo where
  name : String
  phoneNumber : String
  emailAddress : String
  shippingAddress : Option Address
deriving DecidableEq

/-- `td_api::savedCredentials`. -/
structure SavedCredentials where
  id : String
  title : String
deriving DecidableEq

/-- `td_api::InputInvoice`: an invoice message, or an invoice by its link name. -/
inductive InputInvoice
  | message (chatId messageId : Int)
  | name (name : String)
deriving DecidableEq

/-- `td_api::InputCredentials`. -/
inductive InputCredentials
  | saved (savedCredentialsId : String)
  | new (data : String) (allowSave : Bool)
  | applePay (data : String)
  | googlePay (data : String)
deriving DecidableEq

/-- `td_api::PaymentProvider`. -/
inductive PaymentProvider
  | smartGlocal (publicToken : String)
  | stripe (publishableKey : String) (needCountry needPostalCode needCardholderName : Bool)
  | other (url : String)
deriving DecidableEq

/-- `td_api::paymentOption`. -/
structure PaymentOption where
  title : String
  url : String
deriving DecidableEq

/-- `td_api::paymentForm`; the product description and photo, built by other managers, are
    left out. -/
structure PaymentForm where
  id : Int
  invoice : Invoice
  sellerBotUserId : Int
  paymentProviderUserId : Int
  paymentProvider : PaymentProvider
  additionalPaymentOptions : List PaymentOption
  savedOrderInfo : Option OrderInfo
  savedCredentials : List SavedCredentials
  canSaveCredentials : Bool
  needPassword : Bool
  productTitle : String
deriving DecidableEq

/-- `td_api::validatedOrderInfo`. -/
structure ValidatedOrderInfo where
  orderInfoId : String
  shippingOptions : List (Option ShippingOption)
deriving DecidableEq

/-- `td_api::paymentResult`. -/
structure PaymentResult where
  success : Bool
  verificationUrl : String
deriving DecidableEq

/-- `td_api::paymentReceipt`; the product description and photo are left out. -/
structure PaymentReceipt where
  productTitle : String
  date : Int
  sellerBotUserId : Int
  paymentProviderUserId : Int
  invoice : Invoice
  orderInfo : Option OrderInfo
  shippingOption : Option ShippingOption
  credentialsTitle : String
  tipAmount : Int
deriving DecidableEq

/-- `td_api::bankCardActionOpenUrl`. -/
structure BankCardActionOpenUrl where
  text : String
  url : String
deriving DecidableEq

/-- `td_api::bankCardInfo`. -/
structure BankCardInfo where
  title : String
  actions : List BankCardActionOpenUrl
deriving DecidableEq

end TdApi

namespace TelegramApi

/-- `telegram_api::labeledPrice`. -/
structure LabeledPrice where
  label : String
  amount : Int
deriving DecidableEq

/-- `telegram_api::invoice`. -/
structure Invoice where
  flags : Nat
  currency : String
  prices : List LabeledPrice
  maxTipAmount : Int
  suggestedTipAmounts : List Int
  recurringTermsUrl : String
deriving DecidableEq

namespace Invoice

/-- `invoice::TEST_MASK` (`flags.0`). -/
def testMask : Nat := 1
/-- `invoice::NAME_REQUESTED_MASK` (`flags.1`). -/
def nameRequestedMask : Nat := 2
/-- `invoice::PHONE_REQUESTED_MASK` (`flags.2`). -/
def phoneRequestedMask : Nat := 4
/-- `invoice::EMAIL_REQUESTED_MASK` (`flags.3`). -/
def emailRequestedMask : Nat := 8
/-- `invoice::SHIPPING_ADDRESS_REQUESTED_MASK` (`flags.4`). -/
def shippingAddressRequestedMask : Nat := 16
/-- `invoice::FLEXIBLE_MASK` (`flags.5`). -/
def flexibleMask : Nat := 32
/-- `invoice::PHONE_TO_PROVIDER_MASK` (`flags.6`). -/
def phoneToProviderMask : Nat := 64
/-- `invoice::EMAIL_TO_PROVIDER_MASK` (`flags.7`). -/
def emailToProviderMask : Nat := 128

end Invoice

/-- `telegram_api::shippingOption`. -/
structure ShippingOption where
  id : String
  title : String
  prices : List LabeledPrice
deriving DecidableEq

/-- `telegram_api::postAddress`. -/
structure PostAddress where
  streetLine1 : String
  streetLine2 : String
  city : String
  state : String
  countryIso2 : String
  postCode : String
deriving DecidableEq

/-- `telegram_api::paymentRequestedInfo`. -/
structure PaymentRequestedInfo where
  flags : Nat
  name : String
  phone : String
  email : String
  shippingAddress : Option PostAddress
deriving DecidableEq

namespace PaymentRequestedInfo

/-- `paymentRequestedInfo::NAME_MASK` (`flags.0`). -/
def nameMask : Nat := 1
/-- `paymentRequestedInfo::PHONE_MASK` (`flags.1`). -/
def phoneMask : Nat := 2
/-- `paymentRequestedInfo::EMAIL_MASK` (`flags.2`). -/
def emailMask : Nat := 4
/-- `paymentRequestedInfo::SHIPPING_ADDRESS_MASK` (`flags.3`). -/
def shippingAddressMask : Nat := 8

end PaymentRequestedInfo

/-- `telegram_api::paymentSavedCredentialsCard`. -/
structure PaymentSavedCredentialsCard where
  id : String
  title : String
deriving DecidableEq

/-- `telegram_api::InputInvoice`, over the input peers of another manager. -/
inductive InputInvoice (Peer : Type)
  | message (peer : Peer) (msgId : Int)
  | slug (slug : String)
deriving DecidableEq

/-- `telegram_api::InputPaymentCredentials`; `data` is the JSON of a `dataJSON`. -/
inductive InputPaymentCredentials
  | saved (id : String) (tmpPassword : String)
  | new (flags : Nat) (data : String)
  | applePay (data : String)
  | googlePay (data : String)
deriving DecidableEq

/-- `inputPaymentCredentials::SAVE_MASK` (`flags.0`). -/
def InputPaymentCredentials.saveMask : Nat := 1

/-- `telegram_api::paymentFormMethod`. -/
structure PaymentFormMethod where
  url : String
  title : String
deriving DecidableEq

/-- `telegram_api::payments_paymentForm`, without the users, photo and description that
    other managers consume. -/
structure PaymentsPaymentForm where
  formId : Int
  botId : Int
  title : String
  invoice : Invoice
  providerId : Int
  url : String
  nativeProvider : String
  nativeParams : Option String
  additionalMethods : List PaymentFormMethod
  savedInfo : Option PaymentRequestedInfo
  savedCredentials : List PaymentSavedCredentialsCard
  canSaveCredentials : Bool
  passwordMissing : Bool
deriving DecidableEq

/-- `telegram_api::payments_validatedRequestedInfo`. -/
structure PaymentsValidatedRequestedInfo where
  id : String
  shippingOptions : List ShippingOption
deriving DecidableEq

/-- `telegram_api::payments_PaymentResult`; the updates of a completed payment go to
    `UpdatesManager` and are not kept here. -/
inductive PaymentsPaymentResult
  | paymentResult
  | paymentVerificationNeeded (url : String)
deriving DecidableEq

/-- `telegram_api::payments_paymentReceipt`, without users, photo and description. -/
structure PaymentsPaymentReceipt where
  date : Int
  botId : Int
  providerId : Int
  title : String
  invoice : Invoice
  info : Option PaymentRequestedInfo
  shipping : Option ShippingOption
  tipAmount : Int
  credentialsTitle : String
deriving DecidableEq

/-- `telegram_api::payments_savedInfo`. -/
structure PaymentsSavedInfo where
  savedInfo : Option PaymentRequestedInfo
deriving DecidableEq

/-- `telegram_api::bankCardOpenUrl`. -/
structure BankCardOpenUrl where
  url : String
  name : String
deriving DecidableEq

/-- `telegram_api::payments_bankCardData`. -/
structure PaymentsBankCardData where
  title : String
  openUrls : List BankCardOpenUrl
deriving DecidableEq

/-- The requests Payments.cpp sends, over the input peers and invoice media of other
    managers. -/
inductive Request (Peer Media : Type)
  | messagesSetBotShippingResults (flags : Nat) (queryId : Int) (error : String)
      (shippingOptions : List ShippingOption)
  | messagesSetBotPrecheckoutResults (flags : Nat) (queryId : Int) (error : String)
  | paymentsGetPaymentForm (flags : Nat) (invoice : InputInvoice Peer)
      (themeParams : Option String)
  | paymentsValidateRequestedInfo (flags : Nat) (invoice : InputInvoice Peer)
      (info : PaymentRequestedInfo)
  | paymentsSendPaymentForm (flags : Nat) (formId : Int) (invoice : InputInvoice Peer)
      (requestedInfoId shippingOptionId : String) (credentials : InputPaymentCredentials)
      (tipAmount : Int)
  | paymentsGetPaymentReceipt (peer : Peer) (msgId : Int)
  | paymentsGetSavedInfo
  | paymentsClearSavedInfo (flags : Nat)
  | paymentsExportInvoice (invoiceMedia : Media)
  | paymentsGetBankCardData (number : String)
deriving DecidableEq

/-- `messages_setBotShippingResults::ERROR_MASK` (`flags.0`). -/
def setBotShippingResultsErrorMask : Nat := 1
/-- `messages_setBotShippingResults::SHIPPING_OPTIONS_MASK` (`flags.1`). -/
def setBotShippingResultsShippingOptionsMask : Nat := 2
/-- `messages_setBotPrecheckoutResults::ERROR_MASK` (`flags.0`). -/
def setBotPrecheckoutResultsErrorMask : Nat := 1
/-- `messages_setBotPrecheckoutResults::SUCCESS_MASK` (`flags.1`). -/
def setBotPrecheckoutResultsSuccessMask : Nat := 2
/-- `payments_getPaymentForm::THEME_PARAMS_MASK` (`flags.0`). -/
def getPaymentFormThemeParamsMask : Nat := 1
/-- `payments_validateRequestedInfo::SAVE_MASK` (`flags.0`). -/
def validateRequestedInfoSaveMask : Nat := 1
/-- `payments_sendPaymentForm::REQUESTED_INFO_ID_MASK` (`flags.0`). -/
def sendPaymentFormRequestedInfoIdMask : Nat := 1
/-- `payments_sendPaymentForm::SHIPPING_OPTION_ID_MASK` (`flags.1`). -/
def sendPaymentFormShippingOptionIdMask : Nat := 2
/-- `payments_sendPaymentForm::TIP_AMOUNT_MASK` (`flags.2`). -/
def sendPaymentFormTipAmountMask : Nat := 4
/-- `payments_clearSavedInfo::CREDENTIALS_MASK` (`flags.0`). -/
def clearSavedInfoCredentialsMask : Nat := 1
/-- `payments_clearSavedInfo::INFO_MASK` (`flags.1`). -/
def clearSavedInfoInfoMask : Nat := 2

end TelegramApi

end TelegramTd
