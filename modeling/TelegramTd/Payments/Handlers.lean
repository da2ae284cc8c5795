/-
  TelegramTd.Payments.Handlers

  The `Td::ResultHandler` classes of Payments.cpp, one namespace each, with
  their `send`, `on_result` and `on_error` as effect lists (see
  `Payments.Query`), and `convert_payment_provider`, the one translation
  `GetPaymentFormQuery` needs beyond `Payments.Convert`.

  Every handler's `on_result` starts as the source's does: a packet
  `fetch_result` rejects goes to `on_error`.  The handlers that know the
  chat they act for (`dialog_id_`) report every error against it before
  failing the promise.  The bodies several handlers repeat word for word
  are stated once (`failPromise`, `failDialogPromise`, `acknowledgeBool`),
  and each handler's own `on_error` and `on_result` apply them.
  `SendPaymentFormQuery` passes a completed payment's updates to
  `UpdatesManager::on_get_updates` together with a continuation owning the
  promise; the manager runs that continuation once, which is the
  `onGetUpdates` effect followed by the continuation's own.

  Each handler ends with its `completesOnce` lemma: every path completes the
  caller's promise exactly once.
-/

import TelegramTd.Payments.Convert
import TelegramTd.Payments.Query

namespace TelegramTd
namespace Payments

open TelegramApi

/-- What Payments.cpp asks of the rest of `Td`, none of it under src/: the input checks of
    misc.cpp; `UserId::is_valid` and `ContactsManager::get_user_id_object`; the chat and
    message lookups of `MessagesManager`; the JSON helpers `convert_payment_provider` reads
    a provider's parameters with; the temporary password of `PasswordManager`; the theme
    parameters of `ThemeManager`; and `InputInvoice::process_input_message_invoice` with
    `get_input_media_invoice`.  `Peer`, `Media`, `Theme`, `Content` and `Json` are the types
    of the objects those collaborators own. -/
structure PaymentsTd (Peer Media Theme Content Json : Type) where
  checks : InputChecks
  isValidUserId : Int → Bool
  getUserIdObject : Int → Int
  getInputPeer : Int → Option Peer
  getInvoiceMessageId : Int → Int → Except Status Int
  getPaymentSuccessfulMessageId : Int → Int → Except Status Int
  tempPassword : Option String
  getThemeParametersJsonString : Theme → String
  processInputMessageInvoice : Content → Except Status Media
  jsonDecodeObject : String → Option Json
  getJsonObjectStringField : Json → String → Option String
  getJsonObjectBoolField : Json → String → Option Bool

/-- A `Td` whose collaborators accept everything and know no payment provider: enough to
    evaluate the entry points. -/
def PaymentsTd.inert : PaymentsTd Unit Unit Unit Unit Unit where
  checks := ⟨fun _ => true, some⟩
  isValidUserId _ := true
  getUserIdObject := id
  getInputPeer _ := some ()
  getInvoiceMessageId _ messageId := .ok messageId
  getPaymentSuccessfulMessageId _ messageId := .ok messageId
  tempPassword := some ""
  getThemeParametersJsonString _ := ""
  processInputMessageInvoice _ := .ok ()
  jsonDecodeObject _ := none
  getJsonObjectStringField _ _ := none
  getJsonObjectBoolField _ _ := none

variable {Peer Media Theme Content Json : Type}
variable (td : PaymentsTd Peer Media Theme Content Json)

/-- `convert_payment_provider`: a provider this client can pay through natively, when its
    parameters parse; `none` otherwise (the caller then falls back to the provider's URL). -/
def convertPaymentProvider (nativeProviderName : String) (nativeParameters : Option String) :
    Option TdApi.PaymentProvider :=
  match nativeParameters with
  | none => none
  | some data =>
    if nativeProviderName = "smartglocal" then
      (td.jsonDecodeObject data).bind fun value =>
        (td.getJsonObjectStringField value "public_token").map .smartGlocal
    else if nativeProviderName = "stripe" then
      (td.jsonDecodeObject data).bind fun value =>
        match td.getJsonObjectBoolField value "need_country",
          td.getJsonObjectBoolField value "need_zip",
          td.getJsonObjectBoolField value "need_cardholder_name",
          td.getJsonObjectStringField value "publishable_key" with
        | some needCountry, some needPostalCode, some needCardholderName, some publishableKey =>
          some (.stripe publishableKey needCountry needPostalCode needCardholderName)
        | _, _, _, _ => none
    else none

-- ============================================================================
-- Bodies the handlers share
-- ============================================================================

section Shared

variable {Req α : Type}

/-- The `on_error` of a handler with no chat to report to:
    `promise_.set_error(std::move(status))`. -/
def failPromise (status : Status) : List (Effect Req α) := [.setError status]

/-- The `on_error` of a handler acting for a chat: the error is reported against the chat
    (`on_get_dialog_error(dialog_id_, status, ...)`) before it fails the promise. -/
def failDialogPromise (dialogId : Int) (status : Status) : List (Effect Req α) :=
  [.onGetDialogError dialogId status, .setError status]

/-- The `on_result` of a handler whose answer is a `Bool`: a `false` answer is only logged. -/
def acknowledgeBool : Except Status Bool → List (Effect Req Unit)
  | .error status => failPromise status
  | .ok _ => [.setValue ()]

theorem failPromise_completesOnce (status : Status) :
    completions (failPromise status : List (Effect Req α)) = 1 ∧
      queries (failPromise status : List (Effect Req α)) = 0 := ⟨rfl, rfl⟩

theorem failDialogPromise_completesOnce (dialogId : Int) (status : Status) :
    completions (failDialogPromise dialogId status : List (Effect Req α)) = 1 ∧
      queries (failDialogPromise dialogId status : List (Effect Req α)) = 0 := ⟨rfl, rfl⟩

@[simp] theorem setValue_not_mem_failDialogPromise (dialogId : Int) (status : Status)
    (value : α) :
    .setValue value ∉ (failDialogPromise dialogId status : List (Effect Req α)) := by
  simp [failDialogPromise]

theorem acknowledgeBool_completesOnce (fetched : Except Status Bool) :
    completions (acknowledgeBool fetched : List (Effect Req Unit)) = 1 ∧
      queries (acknowledgeBool fetched : List (Effect Req Unit)) = 0 := by
  cases fetched <;> exact ⟨rfl, rfl⟩

end Shared

-- ============================================================================
-- Bot answers
-- ============================================================================

namespace SetBotShippingAnswerQuery

def send (shippingQueryId : Int) (errorMessage : String)
    (shippingOptions : List ShippingOption) : List (Effect (Request Peer Media) Unit) :=
  let flags := 0
  let flags := if errorMessage ≠ "" then flags ||| setBotShippingResultsErrorMask else flags
  let flags :=
    if shippingOptions ≠ [] then flags ||| setBotShippingResultsShippingOptionsMask else flags
  [.sendQuery (.messagesSetBotShippingResults flags shippingQueryId errorMessage shippingOptions)]

def onError (status : Status) : List (Effect (Request Peer Media) Unit) := failPromise status

def onResult : Except Status Bool → List (Effect (Request Peer Media) Unit) := acknowledgeBool

def handler (shippingQueryId : Int) (errorMessage : String)
    (shippingOptions : List ShippingOption) : ResultHandler (Request Peer Media) Bool Unit :=
  ⟨send shippingQueryId errorMessage shippingOptions, onResult, onError⟩

theorem completesOnce (shippingQueryId : Int) (errorMessage : String)
    (shippingOptions : List ShippingOption) :
    (handler shippingQueryId errorMessage shippingOptions :
      ResultHandler (Request Peer Media) Bool Unit).CompletesOnce :=
  .of_sendQuery rfl acknowledgeBool_completesOnce failPromise_completesOnce

end SetBotShippingAnswerQuery

namespace SetBotPreCheckoutAnswerQuery

def send (preCheckoutQueryId : Int) (errorMessage : String) :
    List (Effect (Request Peer Media) Unit) :=
  let flags := 0
  let flags :=
    if errorMessage ≠ "" then flags ||| setBotPrecheckoutResultsErrorMask
    else flags ||| setBotPrecheckoutResultsSuccessMask
  [.sendQuery (.messagesSetBotPrecheckoutResults flags preCheckoutQueryId errorMessage)]

def onError (status : Status) : List (Effect (Request Peer Media) Unit) := failPromise status

def onResult : Except Status Bool → List (Effect (Request Peer Media) Unit) := acknowledgeBool

def handler (preCheckoutQueryId : Int) (errorMessage : String) :
    ResultHandler (Request Peer Media) Bool Unit :=
  ⟨send preCheckoutQueryId errorMessage, onResult, onError⟩

theorem completesOnce (preCheckoutQueryId : Int) (errorMessage : String) :
    (handler preCheckoutQueryId errorMessage :
      ResultHandler (Request Peer Media) Bool Unit).CompletesOnce :=
  .of_sendQuery rfl acknowledgeBool_completesOnce failPromise_completesOnce

end SetBotPreCheckoutAnswerQuery

-- ============================================================================
-- Forms, validation, payment and receipts
-- ============================================================================

/-- `InputInvoiceInfo`: the chat an invoice belongs to (`DialogId()`, i.e. `0`, for an
    invoice named by its link) and the invoice as the server addresses it. -/
structure InputInvoiceInfo (Peer : Type) where
  dialogId : Int
  inputInvoice : InputInvoice Peer

namespace GetPaymentFormQuery

def send (inputInvoiceInfo : InputInvoiceInfo Peer) (themeParameters : Option String) :
    List (Effect (Request Peer Media) TdApi.PaymentForm) :=
  let flags := if themeParameters.isSome then getPaymentFormThemeParamsMask else 0
  [.sendQuery (.paymentsGetPaymentForm flags inputInvoiceInfo.inputInvoice themeParameters)]

def onError (dialogId : Int) (status : Status) :
    List (Effect (Request Peer Media) TdApi.PaymentForm) :=
  failDialogPromise dialogId status

/-- Invalid provider or seller identifiers fail the promise with a 500 error. -/
def onResult (dialogId : Int) :
    Except Status PaymentsPaymentForm → List (Effect (Request Peer Media) TdApi.PaymentForm)
  | .error status => onError dialogId status
  | .ok paymentForm =>
    if !td.isValidUserId paymentForm.providerId then
      onError dialogId ⟨500, "Receive invalid payments provider identifier"⟩
    else if !td.isValidUserId paymentForm.botId then
      onError dialogId ⟨500, "Receive invalid seller identifier"⟩
    else
      let paymentProvider :=
        (convertPaymentProvider td paymentForm.nativeProvider paymentForm.nativeParams).getD
          (.other paymentForm.url)
      [.setValue
        { id := paymentForm.formId
          invoice := convertInvoice td.checks paymentForm.invoice
          sellerBotUserId := td.getUserIdObject paymentForm.botId
          paymentProviderUserId := td.getUserIdObject paymentForm.providerId
          paymentProvider
          additionalPaymentOptions :=
            paymentForm.additionalMethods.map fun method => ⟨method.title, method.url⟩
          savedOrderInfo := TdApi.convertOrderInfo paymentForm.savedInfo
          savedCredentials := convertSavedCredentials paymentForm.savedCredentials
          canSaveCredentials := paymentForm.canSaveCredentials
          needPassword := paymentForm.passwordMissing
          productTitle := paymentForm.title }]

def handler (inputInvoiceInfo : InputInvoiceInfo Peer) (themeParameters : Option String) :
    ResultHandler (Request Peer Media) PaymentsPaymentForm TdApi.PaymentForm :=
  ⟨send inputInvoiceInfo themeParameters, onResult td inputInvoiceInfo.dialogId,
    onError inputInvoiceInfo.dialogId⟩

theorem completesOnce (inputInvoiceInfo : InputInvoiceInfo Peer)
    (themeParameters : Option String) :
    (handler td inputInvoiceInfo themeParameters :
      ResultHandler (Request Peer Media) _ _).CompletesOnce := by
  refine .of_sendQuery rfl ?_ (failDialogPromise_completesOnce _)
  rintro (_ | _)
  · exact ⟨rfl, rfl⟩
  · simp only [handler, onResult]; split_ifs <;> exact ⟨rfl, rfl⟩

/-- A form reaches the caller only when the server named valid users, and it names them. -/
theorem setValue_mem_onResult {dialogId : Int} {fetched : PaymentsPaymentForm}
    {form : TdApi.PaymentForm} (h : .setValue form ∈ onResult td dialogId (.ok fetched)) :
    td.isValidUserId fetched.providerId ∧ td.isValidUserId fetched.botId ∧
      form.paymentProviderUserId = td.getUserIdObject fetched.providerId ∧
      form.sellerBotUserId = td.getUserIdObject fetched.botId ∧
      form.invoice = convertInvoice td.checks fetched.invoice ∧
      form.paymentProvider =
        (convertPaymentProvider td fetched.nativeProvider fetched.nativeParams).getD
          (.other fetched.url) := by
  simp only [onResult] at h
  split_ifs at h with hprovider hseller
  · simp [onError] at h
  · simp [onError] at h
  · obtain rfl := Effect.setValue.inj (List.mem_singleton.1 h)
    simp_all

/-- An invalid provider, or else an invalid seller, fails the promise with a 500 error. -/
theorem onResult_of_invalidUser {dialogId : Int} {fetched : PaymentsPaymentForm}
    (h : (td.isValidUserId fetched.providerId && td.isValidUserId fetched.botId) = false) :
    onResult td dialogId (.ok fetched) = failDialogPromise dialogId
      ⟨500, if td.isValidUserId fetched.providerId then "Receive invalid seller identifier"
        else "Receive invalid payments provider identifier"⟩ := by
  cases hp : td.isValidUserId fetched.providerId <;> simp_all [onResult, onError]

end GetPaymentFormQuery

namespace ValidateRequestedInfoQuery

/-- A null `requested_info` is sent as an empty one. -/
def send (inputInvoiceInfo : InputInvoiceInfo Peer)
    (requestedInfo : Option PaymentRequestedInfo) (allowSave : Bool) :
    List (Effect (Request Peer Media) TdApi.ValidatedOrderInfo) :=
  let flags := if allowSave then validateRequestedInfoSaveMask else 0
  let requestedInfo := requestedInfo.getD ⟨0, "", "", "", none⟩
  [.sendQuery (.paymentsValidateRequestedInfo flags inputInvoiceInfo.inputInvoice requestedInfo)]

def onError (dialogId : Int) (status : Status) :
    List (Effect (Request Peer Media) TdApi.ValidatedOrderInfo) :=
  failDialogPromise dialogId status

def onResult (dialogId : Int) : Except Status PaymentsValidatedRequestedInfo →
    List (Effect (Request Peer Media) TdApi.ValidatedOrderInfo)
  | .error status => onError dialogId status
  | .ok validatedOrderInfo =>
    [.setValue ⟨validatedOrderInfo.id,
      validatedOrderInfo.shippingOptions.map fun option =>
        convertShippingOption td.checks (some option)⟩]

def handler (inputInvoiceInfo : InputInvoiceInfo Peer)
    (requestedInfo : Option PaymentRequestedInfo) (allowSave : Bool) :
    ResultHandler (Request Peer Media) PaymentsValidatedRequestedInfo TdApi.ValidatedOrderInfo :=
  ⟨send inputInvoiceInfo requestedInfo allowSave, onResult td inputInvoiceInfo.dialogId,
    onError inputInvoiceInfo.dialogId⟩

theorem completesOnce (inputInvoiceInfo : InputInvoiceInfo Peer)
    (requestedInfo : Option PaymentRequestedInfo) (allowSave : Bool) :
    (handler td inputInvoiceInfo requestedInfo allowSave :
      ResultHandler (Request Peer Media) _ _).CompletesOnce :=
  .of_sendQuery rfl (fun | .error _ => ⟨rfl, rfl⟩ | .ok _ => ⟨rfl, rfl⟩)
    (failDialogPromise_completesOnce _)

end ValidateRequestedInfoQuery

namespace SendPaymentFormQuery

/-- `input_credentials` is non-null here by the `CHECK`: the type has no null. -/
def send (inputInvoiceInfo : InputInvoiceInfo Peer) (paymentFormId : Int)
    (orderInfoId shippingOptionId : String) (inputCredentials : InputPaymentCredentials)
    (tipAmount : Int) : List (Effect (Request Peer Media) TdApi.PaymentResult) :=
  let flags := 0
  let flags := if orderInfoId ≠ "" then flags ||| sendPaymentFormRequestedInfoIdMask else flags
  let flags :=
    if shippingOptionId ≠ "" then flags ||| sendPaymentFormShippingOptionIdMask else flags
  let flags := if tipAmount ≠ 0 then flags ||| sendPaymentFormTipAmountMask else flags
  [.sendQuery (.paymentsSendPaymentForm flags paymentFormId inputInvoiceInfo.inputInvoice
    orderInfoId shippingOptionId inputCredentials tipAmount)]

def onError (dialogId : Int) (status : Status) :
    List (Effect (Request Peer Media) TdApi.PaymentResult) :=
  failDialogPromise dialogId status

/-- A completed payment completes the promise from `on_get_updates`' continuation. -/
def onResult (dialogId : Int) :
    Except Status PaymentsPaymentResult → List (Effect (Request Peer Media) TdApi.PaymentResult)
  | .error status => onError dialogId status
  | .ok .paymentResult => [.onGetUpdates, .setValue ⟨true, ""⟩]
  | .ok (.paymentVerificationNeeded url) => [.setValue ⟨false, url⟩]

def handler (inputInvoiceInfo : InputInvoiceInfo Peer) (paymentFormId : Int)
    (orderInfoId shippingOptionId : String) (inputCredentials : InputPaymentCredentials)
    (tipAmount : Int) :
    ResultHandler (Request Peer Media) PaymentsPaymentResult TdApi.PaymentResult :=
  ⟨send inputInvoiceInfo paymentFormId orderInfoId shippingOptionId inputCredentials tipAmount,
    onResult inputInvoiceInfo.dialogId, onError inputInvoiceInfo.dialogId⟩

theorem completesOnce (inputInvoiceInfo : InputInvoiceInfo Peer) (paymentFormId : Int)
    (orderInfoId shippingOptionId : String) (inputCredentials : InputPaymentCredentials)
    (tipAmount : Int) :
    (handler inputInvoiceInfo paymentFormId orderInfoId shippingOptionId inputCredentials
      tipAmount : ResultHandler (Request Peer Media) _ _).CompletesOnce :=
  .of_sendQuery rfl
    (fun | .error _ => ⟨rfl, rfl⟩ | .ok .paymentResult => ⟨rfl, rfl⟩
         | .ok (.paymentVerificationNeeded _) => ⟨rfl, rfl⟩)
    (failDialogPromise_completesOnce _)

end SendPaymentFormQuery

namespace GetPaymentReceiptQuery

def onError (dialogId : Int) (status : Status) :
    List (Effect (Request Peer Media) TdApi.PaymentReceipt) :=
  failDialogPromise dialogId status

/-- A chat this client cannot read fails the promise here, without a request. -/
def send (dialogId serverMessageId : Int) :
    List (Effect (Request Peer Media) TdApi.PaymentReceipt) :=
  match td.getInputPeer dialogId with
  | none => onError dialogId ⟨400, "Can't access the chat"⟩
  | some inputPeer => [.sendQuery (.paymentsGetPaymentReceipt inputPeer serverMessageId)]

/-- Invalid provider or seller identifiers fail the promise; an invalid tip becomes `0`. -/
def onResult (dialogId : Int) : Except Status PaymentsPaymentReceipt →
    List (Effect (Request Peer Media) TdApi.PaymentReceipt)
  | .error status => onError dialogId status
  | .ok paymentReceipt =>
    if !td.isValidUserId paymentReceipt.providerId then
      onError dialogId ⟨500, "Receive invalid payments provider identifier"⟩
    else if !td.isValidUserId paymentReceipt.botId then
      onError dialogId ⟨500, "Receive invalid seller identifier"⟩
    else
      let tipAmount :=
        if paymentReceipt.tipAmount < 0 || !td.checks.checkCurrencyAmount paymentReceipt.tipAmount
        then 0 else paymentReceipt.tipAmount
      [.setValue
        { productTitle := paymentReceipt.title
          date := paymentReceipt.date
          sellerBotUserId := td.getUserIdObject paymentReceipt.botId
          paymentProviderUserId := td.getUserIdObject paymentReceipt.providerId
          invoice := convertInvoice td.checks paymentReceipt.invoice
          orderInfo := TdApi.convertOrderInfo paymentReceipt.info
          shippingOption := convertShippingOption td.checks paymentReceipt.shipping
          credentialsTitle := paymentReceipt.credentialsTitle
          tipAmount }]

def handler (dialogId serverMessageId : Int) :
    ResultHandler (Request Peer Media) PaymentsPaymentReceipt TdApi.PaymentReceipt :=
  ⟨send td dialogId serverMessageId, onResult td dialogId, onError dialogId⟩

theorem completesOnce (dialogId serverMessageId : Int) :
    (handler td dialogId serverMessageId :
      ResultHandler (Request Peer Media) _ _).CompletesOnce := by
  refine ⟨?_, ?_, failDialogPromise_completesOnce _⟩
  · simp only [handler, send]
    split
    · exact .inr ⟨rfl, rfl⟩
    · exact .inl ⟨rfl, rfl⟩
  · rintro (_ | _)
    · exact ⟨rfl, rfl⟩
    · simp only [handler, onResult]; split_ifs <;> exact ⟨rfl, rfl⟩

/-- A receipt reaches the caller only when the server named valid users; its tip is the
    server's when that is a valid amount, and `0` otherwise. -/
theorem setValue_mem_onResult {dialogId : Int} {fetched : PaymentsPaymentReceipt}
    {receipt : TdApi.PaymentReceipt}
    (h : .setValue receipt ∈ onResult td dialogId (.ok fetched)) :
    td.isValidUserId fetched.providerId ∧ td.isValidUserId fetched.botId ∧
      receipt.paymentProviderUserId = td.getUserIdObject fetched.providerId ∧
      receipt.sellerBotUserId = td.getUserIdObject fetched.botId ∧
      receipt.invoice = convertInvoice td.checks fetched.invoice ∧
      receipt.tipAmount =
        if 0 ≤ fetched.tipAmount ∧ td.checks.checkCurrencyAmount fetched.tipAmount then
          fetched.tipAmount
        else 0 := by
  simp only [onResult] at h
  split_ifs at h with hprovider hseller htip
  · simp [onError] at h
  · simp [onError] at h
  all_goals
    obtain rfl := Effect.setValue.inj (List.mem_singleton.1 h)
    refine ⟨by simpa using hprovider, by simpa using hseller, rfl, rfl, rfl, ?_⟩
  · rw [if_neg]
    rintro ⟨hnonneg, hcheck⟩
    simp only [hcheck, Bool.not_true, Bool.or_false, decide_eq_true_eq] at htip
    omega
  · rw [if_pos]
    simpa [Int.not_lt] using htip

/-- An invalid provider, or else an invalid seller, fails the promise with a 500 error. -/
theorem onResult_of_invalidUser {dialogId : Int} {fetched : PaymentsPaymentReceipt}
    (h : (td.isValidUserId fetched.providerId && td.isValidUserId fetched.botId) = false) :
    onResult td dialogId (.ok fetched) = failDialogPromise dialogId
      ⟨500, if td.isValidUserId fetched.providerId then "Receive invalid seller identifier"
        else "Receive invalid payments provider identifier"⟩ := by
  cases hp : td.isValidUserId fetched.providerId <;> simp_all [onResult, onError]

end GetPaymentReceiptQuery

-- ============================================================================
-- Saved information, invoice links and bank cards
-- ============================================================================

namespace GetSavedInfoQuery

def send : List (Effect (Request Peer Media) (Option TdApi.OrderInfo)) :=
  [.sendQuery .paymentsGetSavedInfo]

def onError (status : Status) : List (Effect (Request Peer Media) (Option TdApi.OrderInfo)) :=
  failPromise status

def onResult : Except Status PaymentsSavedInfo →
    List (Effect (Request Peer Media) (Option TdApi.OrderInfo))
  | .error status => onError status
  | .ok savedInfo => [.setValue (TdApi.convertOrderInfo savedInfo.savedInfo)]

def handler : ResultHandler (Request Peer Media) PaymentsSavedInfo (Option TdApi.OrderInfo) :=
  ⟨send, onResult, onError⟩

theorem completesOnce :
    (handler : ResultHandler (Request Peer Media) _ _).CompletesOnce :=
  .of_sendQuery rfl (fun | .error _ => ⟨rfl, rfl⟩ | .ok _ => ⟨rfl, rfl⟩)
    failPromise_completesOnce

end GetSavedInfoQuery

namespace ClearSavedInfoQuery

/-- The `CHECK` that something is cleared is a precondition every caller discharges. -/
def send (clearCredentials clearOrderInfo : Bool)
    (_ : (clearCredentials || clearOrderInfo) = true) :
    List (Effect (Request Peer Media) Unit) :=
  let flags := 0
  let flags := if clearCredentials then flags ||| clearSavedInfoCredentialsMask else flags
  let flags := if clearOrderInfo then flags ||| clearSavedInfoInfoMask else flags
  [.sendQuery (.paymentsClearSavedInfo flags)]

def onError (status : Status) : List (Effect (Request Peer Media) Unit) := failPromise status

def onResult : Except Status Bool → List (Effect (Request Peer Media) Unit) := acknowledgeBool

def handler (clearCredentials clearOrderInfo : Bool)
    (h : (clearCredentials || clearOrderInfo) = true) :
    ResultHandler (Request Peer Media) Bool Unit :=
  ⟨send clearCredentials clearOrderInfo h, onResult, onError⟩

theorem completesOnce (clearCredentials clearOrderInfo : Bool)
    (h : (clearCredentials || clearOrderInfo) = true) :
    (handler clearCredentials clearOrderInfo h :
      ResultHandler (Request Peer Media) _ _).CompletesOnce :=
  .of_sendQuery rfl acknowledgeBool_completesOnce failPromise_completesOnce

end ClearSavedInfoQuery

namespace ExportInvoiceQuery

def send (inputMediaInvoice : Media) : List (Effect (Request Peer Media) String) :=
  [.sendQuery (.paymentsExportInvoice inputMediaInvoice)]

def onError (status : Status) : List (Effect (Request Peer Media) String) := failPromise status

def onResult : Except Status String → List (Effect (Request Peer Media) String)
  | .error status => onError status
  | .ok url => [.setValue url]

def handler (inputMediaInvoice : Media) : ResultHandler (Request Peer Media) String String :=
  ⟨send inputMediaInvoice, onResult, onError⟩

theorem completesOnce (inputMediaInvoice : Media) :
    (handler inputMediaInvoice : ResultHandler (Request Peer Media) _ _).CompletesOnce :=
  .of_sendQuery rfl (fun | .error _ => ⟨rfl, rfl⟩ | .ok _ => ⟨rfl, rfl⟩)
    failPromise_completesOnce

end ExportInvoiceQuery

namespace GetBankCardInfoQuery

def send (bankCardNumber : String) : List (Effect (Request Peer Media) TdApi.BankCardInfo) :=
  [.sendQuery (.paymentsGetBankCardData bankCardNumber)]

def onError (status : Status) : List (Effect (Request Peer Media) TdApi.BankCardInfo) :=
  failPromise status

def onResult : Except Status PaymentsBankCardData →
    List (Effect (Request Peer Media) TdApi.BankCardInfo)
  | .error status => onError status
  | .ok response =>
    [.setValue ⟨response.title, response.openUrls.map fun openUrl => ⟨openUrl.name, openUrl.url⟩⟩]

def handler (bankCardNumber : String) :
    ResultHandler (Request Peer Media) PaymentsBankCardData TdApi.BankCardInfo :=
  ⟨send bankCardNumber, onResult, onError⟩

theorem completesOnce (bankCardNumber : String) :
    (handler bankCardNumber : ResultHandler (Request Peer Media) _ _).CompletesOnce :=
  .of_sendQuery rfl (fun | .error _ => ⟨rfl, rfl⟩ | .ok _ => ⟨rfl, rfl⟩)
    failPromise_completesOnce

end GetBankCardInfoQuery

end Payments
end TelegramTd
