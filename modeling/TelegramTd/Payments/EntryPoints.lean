/-
  TelegramTd.Payments.EntryPoints

  The public functions of Payments.cpp, each an `Entry`: the checks it makes
  on the caller's input, in the source's order and with the source's error
  texts, and the handler it moves the promise into when they all pass.

  `get_input_invoice_info` resolves an invoice the way every form, validation
  and payment request addresses it.  `answer_shipping_query`,
  `validate_order_info` and `send_payment_form` reject unclean strings with a
  400 error naming the field; `clean_input_string` cleans in place, so what is
  sent is the cleaned text.

  What the entry points are for: `answerShippingQuery_spec`,
  `validateOrderInfo_spec` and `sendPaymentForm_spec` say what each sends,
  only cleaned text, and exactly when it is rejected with a 400 error
  instead; `answerPreCheckoutQuery_spec` says a bot's pre-checkout answer
  succeeds on any boolean reply; `paymentObjects_checked` says which server
  forms and receipts reach the caller.  One `*_run` lemma per entry point
  says how its run goes: rejected by one of its own checks before any
  request, or its own request sent and the promise completed once from the
  reply, a failing reply about an invoice being reported to the invoice's
  chat first.  `payments_promise_completed_once` collects them.
-/

import TelegramTd.Payments.Handlers

namespace TelegramTd
namespace Payments

open TelegramApi

variable {Peer Media Theme Content Json : Type}

-- ============================================================================
-- Input checks
-- ============================================================================

section Checks

variable (checks : InputChecks)

/-- One `clean_input_string` check of an entry point: the cleaned text, or a 400 error with
    the check's own message. -/
def cleanInputField (text message : String) : Except Status String :=
  match checks.cleanInputString text with
  | none => .error ⟨400, message⟩
  | some cleaned => .ok cleaned

theorem cleanInputField_eq_error {text message : String} {status : Status}
    (h : cleanInputField checks text message = .error status) :
    status = ⟨400, message⟩ ∧ checks.cleanInputString text = none := by
  unfold cleanInputField at h
  split at h <;> cases h
  exact ⟨rfl, ‹_›⟩

theorem cleanInputField_eq_ok {text message cleaned : String}
    (h : cleanInputField checks text message = .ok cleaned) :
    checks.cleanInputString text = some cleaned := by
  unfold cleanInputField at h
  split at h <;> cases h
  assumption

/-- The inner loop of `answer_shipping_query`: one price part of a shipping option. -/
def checkShippingPricePart :
    Option TdApi.LabeledPricePart → Except Status TelegramApi.LabeledPrice
  | none => .error ⟨400, "Shipping option price part must be non-empty"⟩
  | some pricePart => do
    let label ← cleanInputField checks pricePart.label
      "Shipping option price part label must be encoded in UTF-8"
    if !checks.checkCurrencyAmount pricePart.amount then
      .error ⟨400, "Too big amount of the currency specified"⟩
    else pure ⟨label, pricePart.amount⟩

/-- The outer loop of `answer_shipping_query`: one shipping option, its identifier and title
    checked before its price parts. -/
def checkShippingOption :
    Option TdApi.ShippingOption → Except Status TelegramApi.ShippingOption
  | none => .error ⟨400, "Shipping option must be non-empty"⟩
  | some option => do
    let id ← cleanInputField checks option.id "Shipping option identifier must be encoded in UTF-8"
    let title ← cleanInputField checks option.title "Shipping option title must be encoded in UTF-8"
    let prices ← option.priceParts.mapM (checkShippingPricePart checks)
    pure ⟨id, title, prices⟩

/-- The address checks of `validate_order_info`.  Both street lines fail with the same
    message. -/
def cleanAddress (address : TdApi.Address) : Except Status TdApi.Address := do
  let countryCode ← cleanInputField checks address.countryCode
    "Country code must be encoded in UTF-8"
  let state ← cleanInputField checks address.state "State must be encoded in UTF-8"
  let city ← cleanInputField checks address.city "City must be encoded in UTF-8"
  let streetLine1 ← cleanInputField checks address.streetLine1
    "Street address must be encoded in UTF-8"
  let streetLine2 ← cleanInputField checks address.streetLine2
    "Street address must be encoded in UTF-8"
  let postalCode ← cleanInputField checks address.postalCode "Postal code must be encoded in UTF-8"
  pure ⟨countryCode, state, city, streetLine1, streetLine2, postalCode⟩

/-- The order-information checks of `validate_order_info`; a null order stays null. -/
def cleanOrderInfo : Option TdApi.OrderInfo → Except Status (Option TdApi.OrderInfo)
  | none => pure none
  | some orderInfo => do
    let name ← cleanInputField checks orderInfo.name "Name must be encoded in UTF-8"
    let phoneNumber ← cleanInputField checks orderInfo.phoneNumber
      "Phone number must be encoded in UTF-8"
    let emailAddress ← cleanInputField checks orderInfo.emailAddress
      "Email address must be encoded in UTF-8"
    let shippingAddress ← orderInfo.shippingAddress.mapM (cleanAddress checks)
    pure (some ⟨name, phoneNumber, emailAddress, shippingAddress⟩)

end Checks

variable (td : PaymentsTd Peer Media Theme Content Json)

/-- `get_input_invoice_info`: an invoice message needs its server message and a readable
    chat; an invoice link name needs nothing. -/
def getInputInvoiceInfo : Option TdApi.InputInvoice → Except Status (InputInvoiceInfo Peer)
  | none => .error ⟨400, "Input invoice must be non-empty"⟩
  | some (.message chatId messageId) => do
    let serverMessageId ← td.getInvoiceMessageId chatId messageId
    match td.getInputPeer chatId with
    | none => .error ⟨400, "Can't access the chat"⟩
    | some inputPeer => pure ⟨chatId, .message inputPeer serverMessageId⟩
  | some (.name name) => pure ⟨0, .slug name⟩

/-- The credentials switch of `send_payment_form`: saved credentials need a clean identifier
    and a temporary password. -/
def getInputCredentials :
    Option TdApi.InputCredentials → Except Status InputPaymentCredentials
  | none => .error ⟨400, "Input payment credentials must be non-empty"⟩
  | some (.saved savedCredentialsId) => do
    let credentialsId ← cleanInputField td.checks savedCredentialsId
      "Credentials identifier must be encoded in UTF-8"
    match td.tempPassword with
    | none => .error ⟨400, "Temporary password required to use saved credentials"⟩
    | some tempPassword => pure (.saved credentialsId tempPassword)
  | some (.new data allowSave) =>
    pure (.new (if allowSave then InputPaymentCredentials.saveMask else 0) data)
  | some (.googlePay data) => pure (.googlePay data)
  | some (.applePay data) => pure (.applePay data)

-- ============================================================================
-- Entry points
-- ============================================================================

/-- `answer_shipping_query`. -/
def answerShippingQuery (checks : InputChecks) (shippingQueryId : Int)
    (shippingOptions : List (Option TdApi.ShippingOption)) (errorMessage : String) :
    Entry (Request Peer Media) Bool Unit :=
  .tryResultPromise (shippingOptions.mapM (checkShippingOption checks)) fun options =>
    .query (SetBotShippingAnswerQuery.handler shippingQueryId errorMessage options)

/-- `answer_pre_checkout_query`. -/
def answerPreCheckoutQuery (preCheckoutQueryId : Int) (errorMessage : String) :
    Entry (Request Peer Media) Bool Unit :=
  .query (SetBotPreCheckoutAnswerQuery.handler preCheckoutQueryId errorMessage)

/-- `get_payment_form`. -/
def getPaymentForm (inputInvoice : Option TdApi.InputInvoice) (theme : Option Theme) :
    Entry (Request Peer Media) PaymentsPaymentForm TdApi.PaymentForm :=
  .tryResultPromise (getInputInvoiceInfo td inputInvoice) fun inputInvoiceInfo =>
    .query (GetPaymentFormQuery.handler td inputInvoiceInfo
      (theme.map td.getThemeParametersJsonString))

/-- `validate_order_info`: the order is checked after the invoice and sent cleaned. -/
def validateOrderInfo (inputInvoice : Option TdApi.InputInvoice)
    (orderInfo : Option TdApi.OrderInfo) (allowSave : Bool) :
    Entry (Request Peer Media) PaymentsValidatedRequestedInfo TdApi.ValidatedOrderInfo :=
  .tryResultPromise (getInputInvoiceInfo td inputInvoice) fun inputInvoiceInfo =>
  .tryResultPromise (cleanOrderInfo td.checks orderInfo) fun orderInfo =>
    .query (ValidateRequestedInfoQuery.handler td inputInvoiceInfo
      (TelegramApi.convertOrderInfo orderInfo) allowSave)

/-- `send_payment_form`. -/
def sendPaymentForm (inputInvoice : Option TdApi.InputInvoice) (paymentFormId : Int)
    (orderInfoId shippingOptionId : String) (credentials : Option TdApi.InputCredentials)
    (tipAmount : Int) :
    Entry (Request Peer Media) PaymentsPaymentResult TdApi.PaymentResult :=
  .tryResultPromise (getInputInvoiceInfo td inputInvoice) fun inputInvoiceInfo =>
  .tryResultPromise (getInputCredentials td credentials) fun inputCredentials =>
    .query (SendPaymentFormQuery.handler inputInvoiceInfo paymentFormId orderInfoId
      shippingOptionId inputCredentials tipAmount)

/-- `get_payment_receipt`, for the message `messageId` of the chat `chatId`. -/
def getPaymentReceipt (chatId messageId : Int) :
    Entry (Request Peer Media) PaymentsPaymentReceipt TdApi.PaymentReceipt :=
  .tryResultPromise (td.getPaymentSuccessfulMessageId chatId messageId) fun serverMessageId =>
    .query (GetPaymentReceiptQuery.handler td chatId serverMessageId)

/-- `get_saved_order_info`. -/
def getSavedOrderInfo :
    Entry (Request Peer Media) PaymentsSavedInfo (Option TdApi.OrderInfo) :=
  .query GetSavedInfoQuery.handler

/-- `delete_saved_order_info`. -/
def deleteSavedOrderInfo : Entry (Request Peer Media) Bool Unit :=
  .query (ClearSavedInfoQuery.handler false true rfl)

/-- `delete_saved_credentials`. -/
def deleteSavedCredentials : Entry (Request Peer Media) Bool Unit :=
  .query (ClearSavedInfoQuery.handler true false rfl)

/-- `export_invoice`; `process_input_message_invoice` with `get_input_media_invoice`, whose
    result the source `CHECK`s to be non-null, is `td.processInputMessageInvoice`. -/
def exportInvoice (invoice : Option Content) : Entry (Request Peer Media) String String :=
  match invoice with
  | none => .fail ⟨400, "Invoice must be non-empty"⟩
  | some invoice =>
    .tryResultPromise (td.processInputMessageInvoice invoice) fun inputMediaInvoice =>
      .query (ExportInvoiceQuery.handler inputMediaInvoice)

/-- `get_bank_card_info`. -/
def getBankCardInfo (bankCardNumber : String) :
    Entry (Request Peer Media) PaymentsBankCardData TdApi.BankCardInfo :=
  .query (GetBankCardInfoQuery.handler bankCardNumber)

-- ============================================================================
-- `answer_shipping_query`
-- ============================================================================

section ShippingAnswer

variable (checks : InputChecks)

/-- A shipping option `answer_shipping_query` must reject: a null option, an identifier or
    title `clean_input_string` rejects, a null price part, a price-part label it rejects, or
    an amount `check_currency_amount` rejects. -/
def ShippingOptionRejected : Option TdApi.ShippingOption → Prop
  | none => True
  | some option =>
    checks.cleanInputString option.id = none ∨ checks.cleanInputString option.title = none ∨
      ∃ pricePart ∈ option.priceParts, pricePart = none ∨ ∃ part, pricePart = some part ∧
        (checks.cleanInputString part.label = none ∨ checks.checkCurrencyAmount part.amount = false)

/-- The wire option sent for an accepted one: its identifier and title cleaned, and its price
    parts in order with cleaned labels and unchanged amounts. -/
def ShippingOptionSent : Option TdApi.ShippingOption → TelegramApi.ShippingOption → Prop
  | none, _ => False
  | some option, sent =>
    checks.cleanInputString option.id = some sent.id ∧
      checks.cleanInputString option.title = some sent.title ∧
      List.Forall₂ (fun pricePart price => ∃ part, pricePart = some part ∧
        checks.cleanInputString part.label = some price.label ∧ price.amount = part.amount)
        option.priceParts sent.prices

theorem checkShippingPricePart_eq_error {pricePart : Option TdApi.LabeledPricePart}
    {status : Status} (h : checkShippingPricePart checks pricePart = .error status) :
    status.code = 400 ∧ (pricePart = none ∨ ∃ part, pricePart = some part ∧
      (checks.cleanInputString part.label = none ∨
        checks.checkCurrencyAmount part.amount = false)) := by
  rcases pricePart with _ | part
  · cases h; exact ⟨rfl, .inl rfl⟩
  rcases bind_eq_error.mp h with hl | ⟨label, -, h⟩
  · obtain ⟨rfl, hclean⟩ := cleanInputField_eq_error checks hl
    exact ⟨rfl, .inr ⟨part, rfl, .inl hclean⟩⟩
  · revert h
    cases hcheck : checks.checkCurrencyAmount part.amount <;> intro h <;> cases h
    exact ⟨rfl, .inr ⟨part, rfl, .inr hcheck⟩⟩

theorem checkShippingPricePart_eq_ok {pricePart : Option TdApi.LabeledPricePart}
    {price : TelegramApi.LabeledPrice} (h : checkShippingPricePart checks pricePart = .ok price) :
    ∃ part, pricePart = some part ∧ checks.cleanInputString part.label = some price.label ∧
      price.amount = part.amount ∧ checks.checkCurrencyAmount part.amount = true := by
  rcases pricePart with _ | part
  · cases h
  obtain ⟨label, hl, h⟩ := bind_eq_ok.mp h
  revert h
  cases hcheck : checks.checkCurrencyAmount part.amount <;> intro h <;> cases h
  exact ⟨part, rfl, cleanInputField_eq_ok checks hl, rfl, hcheck⟩

/-- An option is refused exactly when it is rejected, always with a 400 error. -/
theorem checkShippingOption_eq_error {option : Option TdApi.ShippingOption} {status : Status}
    (h : checkShippingOption checks option = .error status) :
    status.code = 400 ∧ ShippingOptionRejected checks option := by
  rcases option with _ | option
  · cases h; exact ⟨rfl, trivial⟩
  rcases bind_eq_error.mp h with hi | ⟨id, -, h⟩
  · obtain ⟨rfl, hclean⟩ := cleanInputField_eq_error checks hi
    exact ⟨rfl, .inl hclean⟩
  rcases bind_eq_error.mp h with ht | ⟨title, -, h⟩
  · obtain ⟨rfl, hclean⟩ := cleanInputField_eq_error checks ht
    exact ⟨rfl, .inr (.inl hclean)⟩
  rcases bind_eq_error.mp h with hp | ⟨prices, -, h⟩
  · obtain ⟨pricePart, hmem, hpart⟩ := mapM_eq_error _ hp
    obtain ⟨hcode, hbad⟩ := checkShippingPricePart_eq_error checks hpart
    exact ⟨hcode, .inr (.inr ⟨pricePart, hmem, hbad⟩)⟩
  · cases h

/-- An option that passes is not rejected, and is sent cleaned. -/
theorem checkShippingOption_eq_ok {option : Option TdApi.ShippingOption}
    {sent : TelegramApi.ShippingOption} (h : checkShippingOption checks option = .ok sent) :
    ¬ ShippingOptionRejected checks option ∧ ShippingOptionSent checks option sent := by
  rcases option with _ | option
  · cases h
  obtain ⟨id, hi, h⟩ := bind_eq_ok.mp h
  obtain ⟨title, ht, h⟩ := bind_eq_ok.mp h
  obtain ⟨prices, hp, h⟩ := bind_eq_ok.mp h
  cases h
  have hid := cleanInputField_eq_ok checks hi
  have htitle := cleanInputField_eq_ok checks ht
  refine ⟨?_, hid, htitle, (mapM_eq_ok _ hp).imp fun _ _ hpart => ?_⟩
  · rintro (hbad | hbad | ⟨pricePart, hmem, hbad⟩)
    · simp [hid] at hbad
    · simp [htitle] at hbad
    · obtain ⟨price, hprice⟩ := mapM_ok_of_mem _ hp pricePart hmem
      obtain ⟨part, rfl, hlabel, -, hcheck⟩ := checkShippingPricePart_eq_ok checks hprice
      rcases hbad with hbad | ⟨_, hsome, hbad | hbad⟩
      · cases hbad
      · cases hsome; simp [hlabel] at hbad
      · cases hsome; simp [hcheck] at hbad
  · obtain ⟨part, hsome, hlabel, hamount, -⟩ := checkShippingPricePart_eq_ok checks hpart
    exact ⟨part, hsome, hlabel, hamount⟩

/-- The request `SetBotShippingAnswerQuery` sends, with its flags. -/
theorem SetBotShippingAnswerQuery.send_flags (shippingQueryId : Int) (errorMessage : String)
    (shippingOptions : List ShippingOption) :
    ∃ flags, (SetBotShippingAnswerQuery.send shippingQueryId errorMessage shippingOptions :
        List (Effect (Request Peer Media) Unit)) =
      [.sendQuery (.messagesSetBotShippingResults flags shippingQueryId errorMessage
        shippingOptions)] ∧
      (flags &&& setBotShippingResultsShippingOptionsMask ≠ 0 ↔ shippingOptions ≠ []) ∧
      (flags &&& setBotShippingResultsErrorMask ≠ 0 ↔ errorMessage ≠ "") := by
  refine ⟨_, rfl, ?_⟩
  by_cases he : errorMessage = "" <;> by_cases ho : shippingOptions = [] <;>
    simp [he, ho, setBotShippingResultsErrorMask, setBotShippingResultsShippingOptionsMask]

/-- **`answer_shipping_query`.**  Whatever the server later replies, a bot's
    answer to a shipping query is either rejected with a 400 error and no request, exactly
    when some option is rejected, or sends exactly one `messages.setBotShippingResults`
    whose options are the input's, in order and cleaned, with the shipping-options flag set
    iff there are options and the error flag set iff there is an error message. -/
theorem answerShippingQuery_spec (shippingQueryId : Int)
    (shippingOptions : List (Option TdApi.ShippingOption)) (errorMessage : String)
    (reply : Reply Bool) :
    ((∃ option ∈ shippingOptions, ShippingOptionRejected checks option) ∧
      ∃ status, status.code = 400 ∧
        (answerShippingQuery checks shippingQueryId shippingOptions errorMessage :
          Entry (Request Peer Media) Bool Unit).run reply = [.setError status]) ∨
    ((∀ option ∈ shippingOptions, ¬ ShippingOptionRejected checks option) ∧
      ∃ flags options rest,
        (answerShippingQuery checks shippingQueryId shippingOptions errorMessage :
          Entry (Request Peer Media) Bool Unit).run reply =
          .sendQuery (.messagesSetBotShippingResults flags shippingQueryId errorMessage
            options) :: rest ∧
        queries rest = 0 ∧
        List.Forall₂ (ShippingOptionSent checks) shippingOptions options ∧
        (flags &&& setBotShippingResultsShippingOptionsMask ≠ 0 ↔ shippingOptions ≠ []) ∧
        (flags &&& setBotShippingResultsErrorMask ≠ 0 ↔ errorMessage ≠ "")) := by
  cases hm : shippingOptions.mapM (checkShippingOption checks) with
  | error status =>
    obtain ⟨option, hmem, hoption⟩ := mapM_eq_error _ hm
    obtain ⟨hcode, hbad⟩ := checkShippingOption_eq_error checks hoption
    exact .inl ⟨⟨option, hmem, hbad⟩, status, hcode, by
      simp only [answerShippingQuery, hm, Entry.tryResultPromise, Entry.fail, Entry.run]; rfl⟩
  | ok options =>
    have hsent := mapM_eq_ok _ hm
    obtain ⟨flags, hsend, hmask, herror⟩ :=
      @SetBotShippingAnswerQuery.send_flags Peer Media shippingQueryId errorMessage options
    refine .inr ⟨fun option hmem hbad => ?_, flags, options,
      (SetBotShippingAnswerQuery.handler shippingQueryId errorMessage options).deliver reply, ?_,
      ((SetBotShippingAnswerQuery.completesOnce _ _ _).deliver reply).2,
      hsent.imp fun _ _ hok => (checkShippingOption_eq_ok checks hok).2, ?_, herror⟩
    · obtain ⟨sent, hok⟩ := mapM_ok_of_mem _ hm option hmem
      exact (checkShippingOption_eq_ok checks hok).1 hbad
    · simp only [answerShippingQuery, hm, Entry.tryResultPromise, Entry.query, Entry.run,
        ResultHandler.run, SetBotShippingAnswerQuery.handler, hsend]
      rfl
    · rw [hmask, ne_eq, ne_eq, ← List.length_eq_zero, ← List.length_eq_zero, hsent.length_eq]

end ShippingAnswer

/-- **`answer_pre_checkout_query`.**  A bot's answer to a pre-checkout query sends one
    `messages.setBotPrecheckoutResults`, flagged as a success exactly when there is no error
    message and as an error exactly when there is one.  Any boolean reply, `false` included,
    resolves the caller's promise with success; an error, in the packet or from the network,
    rejects it with that error. -/
theorem answerPreCheckoutQuery_spec (preCheckoutQueryId : Int) (errorMessage : String) :
    ∃ flags,
      (flags &&& setBotPrecheckoutResultsSuccessMask ≠ 0 ↔ errorMessage = "") ∧
      (flags &&& setBotPrecheckoutResultsErrorMask ≠ 0 ↔ errorMessage ≠ "") ∧
      (∀ accepted : Bool, (answerPreCheckoutQuery preCheckoutQueryId errorMessage :
          Entry (Request Peer Media) Bool Unit).run (.packet (.ok accepted)) =
        [.sendQuery (.messagesSetBotPrecheckoutResults flags preCheckoutQueryId errorMessage),
          .setValue ()]) ∧
      ∀ status : Status,
        (answerPreCheckoutQuery preCheckoutQueryId errorMessage :
          Entry (Request Peer Media) Bool Unit).run (.packet (.error status)) =
          [.sendQuery (.messagesSetBotPrecheckoutResults flags preCheckoutQueryId errorMessage),
            .setError status] ∧
        (answerPreCheckoutQuery preCheckoutQueryId errorMessage :
          Entry (Request Peer Media) Bool Unit).run (.error status) =
          [.sendQuery (.messagesSetBotPrecheckoutResults flags preCheckoutQueryId errorMessage),
            .setError status] := by
  refine ⟨_, ?_, ?_, fun _ => rfl, fun _ => ⟨rfl, rfl⟩⟩ <;>
    by_cases he : errorMessage = "" <;>
    simp [he, setBotPrecheckoutResultsSuccessMask, setBotPrecheckoutResultsErrorMask]

-- ============================================================================
-- `validate_order_info`
-- ============================================================================

section ValidateOrderInfo

variable (checks : InputChecks)

/-- `cleaned` is `address` with each of its six fields as `clean_input_string` cleaned it. -/
def AddressCleaned (address cleaned : TdApi.Address) : Prop :=
  checks.cleanInputString address.countryCode = some cleaned.countryCode ∧
    checks.cleanInputString address.state = some cleaned.state ∧
    checks.cleanInputString address.city = some cleaned.city ∧
    checks.cleanInputString address.streetLine1 = some cleaned.streetLine1 ∧
    checks.cleanInputString address.streetLine2 = some cleaned.streetLine2 ∧
    checks.cleanInputString address.postalCode = some cleaned.postalCode

/-- `cleaned` is `orderInfo` with each text field as `clean_input_string` cleaned it; a null
    address stays null. -/
def OrderInfoCleaned (orderInfo cleaned : TdApi.OrderInfo) : Prop :=
  checks.cleanInputString orderInfo.name = some cleaned.name ∧
    checks.cleanInputString orderInfo.phoneNumber = some cleaned.phoneNumber ∧
    checks.cleanInputString orderInfo.emailAddress = some cleaned.emailAddress ∧
    Option.Rel (AddressCleaned checks) orderInfo.shippingAddress cleaned.shippingAddress

/-- Every error a check can end with is a 400 error. -/
def Fails400 {α : Type} (x : Except Status α) : Prop :=
  ∀ status, x = .error status → status.code = 400

theorem Fails400.pure {α : Type} (a : α) : Fails400 (pure a : Except Status α) := nofun

theorem Fails400.bind {α β : Type} {x : Except Status α} {f : α → Except Status β}
    (hx : Fails400 x) (hf : ∀ a, Fails400 (f a)) : Fails400 (x >>= f) := fun status h =>
  (bind_eq_error.mp h).elim (hx status) fun ⟨a, _, ha⟩ => hf a status ha

theorem cleanInputField_fails400 (text message : String) :
    Fails400 (cleanInputField checks text message) := fun _ h =>
  by rw [(cleanInputField_eq_error checks h).1]

theorem cleanAddress_fails400 (address : TdApi.Address) : Fails400 (cleanAddress checks address) :=
  .bind (cleanInputField_fails400 checks _ _) fun _ => .bind (cleanInputField_fails400 checks _ _) fun _ =>
  .bind (cleanInputField_fails400 checks _ _) fun _ => .bind (cleanInputField_fails400 checks _ _) fun _ =>
  .bind (cleanInputField_fails400 checks _ _) fun _ => .bind (cleanInputField_fails400 checks _ _) fun _ =>
  .pure _

theorem cleanOrderInfo_fails400 (orderInfo : Option TdApi.OrderInfo) :
    Fails400 (cleanOrderInfo checks orderInfo) := by
  rcases orderInfo with _ | orderInfo
  · exact .pure _
  refine .bind (cleanInputField_fails400 checks _ _) fun _ =>
    .bind (cleanInputField_fails400 checks _ _) fun _ =>
    .bind (cleanInputField_fails400 checks _ _) fun _ => .bind ?_ fun _ => .pure _
  rcases orderInfo.shippingAddress with _ | address
  · exact .pure _
  · exact .bind (cleanAddress_fails400 checks address) fun _ => .pure _

theorem cleanAddress_eq_ok {address cleaned : TdApi.Address} :
    cleanAddress checks address = .ok cleaned ↔ AddressCleaned checks address cleaned := by
  constructor
  · intro h
    obtain ⟨_, h1, h⟩ := bind_eq_ok.mp h
    obtain ⟨_, h2, h⟩ := bind_eq_ok.mp h
    obtain ⟨_, h3, h⟩ := bind_eq_ok.mp h
    obtain ⟨_, h4, h⟩ := bind_eq_ok.mp h
    obtain ⟨_, h5, h⟩ := bind_eq_ok.mp h
    obtain ⟨_, h6, ⟨⟩⟩ := bind_eq_ok.mp h
    exact ⟨cleanInputField_eq_ok checks h1, cleanInputField_eq_ok checks h2,
      cleanInputField_eq_ok checks h3, cleanInputField_eq_ok checks h4,
      cleanInputField_eq_ok checks h5, cleanInputField_eq_ok checks h6⟩
  · rintro ⟨h1, h2, h3, h4, h5, h6⟩
    simp only [cleanAddress, cleanInputField, h1, h2, h3, h4, h5, h6]
    rfl

/-- The order checks pass exactly for the orders that have a cleaned form, which is what
    they return. -/
theorem cleanOrderInfo_eq_ok {orderInfo cleaned : Option TdApi.OrderInfo} :
    cleanOrderInfo checks orderInfo = .ok cleaned ↔
      Option.Rel (OrderInfoCleaned checks) orderInfo cleaned := by
  rcases orderInfo with _ | ⟨name, phoneNumber, emailAddress, address⟩
  · constructor
    · rintro ⟨⟩; exact .none
    · rintro ⟨⟩; rfl
  constructor
  · intro h
    obtain ⟨_, h1, h⟩ := bind_eq_ok.mp h
    obtain ⟨_, h2, h⟩ := bind_eq_ok.mp h
    obtain ⟨_, h3, h⟩ := bind_eq_ok.mp h
    obtain ⟨_, h4, ⟨⟩⟩ := bind_eq_ok.mp h
    refine .some ⟨cleanInputField_eq_ok checks h1, cleanInputField_eq_ok checks h2,
      cleanInputField_eq_ok checks h3, ?_⟩
    rcases address with _ | a
    · cases h4; exact .none
    · obtain ⟨_, hc, ⟨⟩⟩ := bind_eq_ok.mp h4
      exact .some ((cleanAddress_eq_ok checks).mp hc)
  · rintro (@⟨_, ⟨_, _, _, cleanedAddress⟩, ⟨h1, h2, h3, haddress⟩⟩)
    simp only [cleanOrderInfo, cleanInputField, h1, h2, h3]
    cases haddress with
    | none => rfl
    | some ha => simp only [Option.mapM, (cleanAddress_eq_ok checks).mpr ha]; rfl

end ValidateOrderInfo

/-- **`validate_order_info` sends only cleaned text.**  When the invoice does not resolve, its
    error is the caller's.  Otherwise the order either has no cleaned form, because
    `clean_input_string` rejects one of its text fields, and the caller gets a 400 error
    before any request is sent; or its cleaned form, converted with `convert_order_info`, is
    what the one `payments.validateRequestedInfo` request carries, with the save flag
    exactly when saving is allowed. -/
theorem validateOrderInfo_spec (inputInvoice : Option TdApi.InputInvoice)
    (orderInfo : Option TdApi.OrderInfo) (allowSave : Bool)
    (reply : Reply PaymentsValidatedRequestedInfo) :
    (∃ status, getInputInvoiceInfo td inputInvoice = .error status ∧
      (validateOrderInfo td inputInvoice orderInfo allowSave).run reply = [.setError status]) ∨
    ∃ info, getInputInvoiceInfo td inputInvoice = .ok info ∧
      (((¬∃ cleaned, Option.Rel (OrderInfoCleaned td.checks) orderInfo cleaned) ∧
        ∃ status, status.code = 400 ∧
          (validateOrderInfo td inputInvoice orderInfo allowSave).run reply = [.setError status]) ∨
      ∃ cleaned rest, Option.Rel (OrderInfoCleaned td.checks) orderInfo cleaned ∧
        (validateOrderInfo td inputInvoice orderInfo allowSave).run reply =
          .sendQuery (.paymentsValidateRequestedInfo
            (if allowSave then validateRequestedInfoSaveMask else 0) info.inputInvoice
            ((TelegramApi.convertOrderInfo cleaned).getD ⟨0, "", "", "", none⟩)) :: rest ∧
        queries rest = 0) := by
  cases hinfo : getInputInvoiceInfo td inputInvoice with
  | error status =>
    exact .inl ⟨status, rfl, by
      simp only [validateOrderInfo, hinfo, Entry.tryResultPromise, Entry.fail, Entry.run]; rfl⟩
  | ok info =>
    refine .inr ⟨info, rfl, ?_⟩
    cases hclean : cleanOrderInfo td.checks orderInfo with
    | error status =>
      refine .inl ⟨fun ⟨cleaned, hc⟩ => ?_, status, cleanOrderInfo_fails400 _ _ _ hclean, by
        simp only [validateOrderInfo, hinfo, hclean, Entry.tryResultPromise, Entry.fail, Entry.run]
        rfl⟩
      rw [(cleanOrderInfo_eq_ok _).mpr hc] at hclean
      cases hclean
    | ok cleaned =>
      let h := ValidateRequestedInfoQuery.handler td info (TelegramApi.convertOrderInfo cleaned)
        allowSave
      refine .inr ⟨cleaned, h.deliver reply, (cleanOrderInfo_eq_ok _).mp hclean, ?_,
        ((ValidateRequestedInfoQuery.completesOnce td _ _ _).deliver reply).2⟩
      simp only [validateOrderInfo, hinfo, hclean, Entry.tryResultPromise, Entry.query, Entry.run,
        ResultHandler.run]
      rfl


-- ============================================================================
-- `send_payment_form`
-- ============================================================================

section SendPaymentForm

/-- The credentials `send_payment_form` refuses: none, or saved ones whose identifier
    `clean_input_string` rejects or for which there is no temporary password. -/
def CredentialsRejected (credentials : Option TdApi.InputCredentials) : Prop :=
  credentials = none ∨ ∃ id, credentials = some (.saved id) ∧
    (td.checks.cleanInputString id = none ∨ td.tempPassword = none)

/-- The wire credentials sent for accepted ones: a saved identifier cleaned, with the
    temporary password; new credentials with the save flag exactly when saving is allowed;
    wallet tokens as given. -/
def CredentialsSent : Option TdApi.InputCredentials → InputPaymentCredentials → Prop
  | some (.saved id), .saved id' tmpPassword =>
    td.checks.cleanInputString id = some id' ∧ td.tempPassword = some tmpPassword
  | some (.new data allowSave), .new flags data' =>
    data' = data ∧ (flags &&& InputPaymentCredentials.saveMask ≠ 0 ↔ allowSave = true)
  | some (.applePay data), .applePay data' => data' = data
  | some (.googlePay data), .googlePay data' => data' = data
  | _, _ => False

theorem getInputCredentials_eq_error {credentials : Option TdApi.InputCredentials}
    {status : Status} (h : getInputCredentials td credentials = .error status) :
    status.code = 400 ∧ CredentialsRejected td credentials := by
  rcases credentials with _ | (id | ⟨data, allowSave⟩ | data | data)
  · cases h; exact ⟨rfl, .inl rfl⟩
  · rcases bind_eq_error.mp h with hc | ⟨_, -, h⟩
    · obtain ⟨rfl, hclean⟩ := cleanInputField_eq_error _ hc
      exact ⟨rfl, .inr ⟨id, rfl, .inl hclean⟩⟩
    · revert h
      cases hp : td.tempPassword <;> rintro ⟨⟩
      exact ⟨rfl, .inr ⟨id, rfl, .inr hp⟩⟩
  all_goals cases h

theorem getInputCredentials_eq_ok {credentials : Option TdApi.InputCredentials}
    {inputCredentials : InputPaymentCredentials}
    (h : getInputCredentials td credentials = .ok inputCredentials) :
    ¬ CredentialsRejected td credentials ∧ CredentialsSent td credentials inputCredentials := by
  rcases credentials with _ | (id | ⟨data, allowSave⟩ | data | data)
  · cases h
  · obtain ⟨_, hc, h⟩ := bind_eq_ok.mp h
    have hclean := cleanInputField_eq_ok _ hc
    revert h
    cases hp : td.tempPassword <;> rintro ⟨⟩
    refine ⟨?_, hclean, hp⟩
    rintro (⟨⟩ | ⟨_, ⟨⟩, hbad | hbad⟩) <;> simp_all
  · cases h
    refine ⟨(by rintro (h | ⟨_, h, -⟩) <;> cases h), rfl, ?_⟩
    cases allowSave <;> simp [InputPaymentCredentials.saveMask]
  · cases h; exact ⟨(by rintro (h | ⟨_, h, -⟩) <;> cases h), rfl⟩
  · cases h; exact ⟨(by rintro (h | ⟨_, h, -⟩) <;> cases h), rfl⟩

/-- The request `SendPaymentFormQuery` sends, with its flags. -/
theorem SendPaymentFormQuery.send_flags (inputInvoiceInfo : InputInvoiceInfo Peer)
    (paymentFormId : Int) (orderInfoId shippingOptionId : String)
    (inputCredentials : InputPaymentCredentials) (tipAmount : Int) :
    ∃ flags, (SendPaymentFormQuery.send inputInvoiceInfo paymentFormId orderInfoId
        shippingOptionId inputCredentials tipAmount : List (Effect (Request Peer Media) _)) =
      [.sendQuery (.paymentsSendPaymentForm flags paymentFormId inputInvoiceInfo.inputInvoice
        orderInfoId shippingOptionId inputCredentials tipAmount)] ∧
      (flags &&& sendPaymentFormRequestedInfoIdMask ≠ 0 ↔ orderInfoId ≠ "") ∧
      (flags &&& sendPaymentFormShippingOptionIdMask ≠ 0 ↔ shippingOptionId ≠ "") ∧
      (flags &&& sendPaymentFormTipAmountMask ≠ 0 ↔ tipAmount ≠ 0) := by
  refine ⟨_, rfl, ?_⟩
  by_cases ho : orderInfoId = "" <;> by_cases hs : shippingOptionId = "" <;>
    by_cases ht : tipAmount = 0 <;>
    simp [ho, hs, ht, sendPaymentFormRequestedInfoIdMask, sendPaymentFormShippingOptionIdMask,
      sendPaymentFormTipAmountMask] <;> decide

/-- **`send_payment_form`.**  When the invoice does not resolve, its error is the caller's.
    Otherwise missing credentials, or saved ones whose identifier `clean_input_string`
    rejects or that have no temporary password, get the caller a 400 error before any request
    is sent; any other credentials go, converted, in the one `payments.sendPaymentForm`
    request, whose requested-info, shipping-option and tip flags are set exactly when the
    order information id and the shipping option id are non-empty and the tip is non-zero. -/
theorem sendPaymentForm_spec (inputInvoice : Option TdApi.InputInvoice) (paymentFormId : Int)
    (orderInfoId shippingOptionId : String) (credentials : Option TdApi.InputCredentials)
    (tipAmount : Int) (reply : Reply PaymentsPaymentResult) :
    (∃ status, getInputInvoiceInfo td inputInvoice = .error status ∧
      (sendPaymentForm td inputInvoice paymentFormId orderInfoId shippingOptionId credentials
        tipAmount).run reply = [.setError status]) ∨
    ∃ info, getInputInvoiceInfo td inputInvoice = .ok info ∧
      ((CredentialsRejected td credentials ∧ ∃ status, status.code = 400 ∧
        (sendPaymentForm td inputInvoice paymentFormId orderInfoId shippingOptionId credentials
          tipAmount).run reply = [.setError status]) ∨
      (¬ CredentialsRejected td credentials ∧ ∃ inputCredentials flags rest,
        CredentialsSent td credentials inputCredentials ∧
        (sendPaymentForm td inputInvoice paymentFormId orderInfoId shippingOptionId credentials
          tipAmount).run reply =
          .sendQuery (.paymentsSendPaymentForm flags paymentFormId info.inputInvoice orderInfoId
            shippingOptionId inputCredentials tipAmount) :: rest ∧
        queries rest = 0 ∧
        (flags &&& sendPaymentFormRequestedInfoIdMask ≠ 0 ↔ orderInfoId ≠ "") ∧
        (flags &&& sendPaymentFormShippingOptionIdMask ≠ 0 ↔ shippingOptionId ≠ "") ∧
        (flags &&& sendPaymentFormTipAmountMask ≠ 0 ↔ tipAmount ≠ 0))) := by
  cases hinfo : getInputInvoiceInfo td inputInvoice with
  | error status =>
    exact .inl ⟨status, rfl, by
      simp only [sendPaymentForm, hinfo, Entry.tryResultPromise, Entry.fail, Entry.run]; rfl⟩
  | ok info =>
    refine .inr ⟨info, rfl, ?_⟩
    cases hc : getInputCredentials td credentials with
    | error status =>
      obtain ⟨hcode, hrejected⟩ := getInputCredentials_eq_error td hc
      refine .inl ⟨hrejected, status, hcode, by
        simp only [sendPaymentForm, hinfo, hc, Entry.tryResultPromise, Entry.fail, Entry.run]
        rfl⟩
    | ok inputCredentials =>
      obtain ⟨hok, hsent⟩ := getInputCredentials_eq_ok td hc
      obtain ⟨flags, hsend, hinfoId, hshipping, htip⟩ :=
        @SendPaymentFormQuery.send_flags Peer Media info paymentFormId orderInfoId
          shippingOptionId inputCredentials tipAmount
      let h : ResultHandler (Request Peer Media) _ _ := SendPaymentFormQuery.handler info
        paymentFormId orderInfoId shippingOptionId inputCredentials tipAmount
      refine .inr ⟨hok, inputCredentials, flags, h.deliver reply,
        hsent, ?_, ((SendPaymentFormQuery.completesOnce _ _ _ _ _ _).deliver reply).2, hinfoId,
        hshipping, htip⟩
      simp only [sendPaymentForm, hinfo, hc, Entry.tryResultPromise, Entry.query, Entry.run,
        ResultHandler.run, SendPaymentFormQuery.handler, hsend]
      rfl

end SendPaymentForm

-- ============================================================================
-- How each entry point runs
-- ============================================================================

/-! One lemma per entry point, all of one shape: the run is rejected before any request by
one of the entry point's own checks, with that check's error, or it sends the entry point's
own request and the reply's handling completes the promise once.  The four entry points
about an invoice also report a failing reply to the invoice's chat before rejecting the
promise with it. -/

section Runs

theorem answerShippingQuery_run (checks : InputChecks) (shippingQueryId : Int)
    (shippingOptions : List (Option TdApi.ShippingOption)) (errorMessage : String)
    (reply : Reply Bool) :
    (∃ status, (∃ option ∈ shippingOptions,
        checkShippingOption checks option = .error status) ∧
      (answerShippingQuery checks shippingQueryId shippingOptions errorMessage :
        Entry (Request Peer Media) Bool Unit).run reply = [.setError status]) ∨
    ∃ flags options, shippingOptions.mapM (checkShippingOption checks) = .ok options ∧
      SendsThenCompletes
        (.messagesSetBotShippingResults flags shippingQueryId errorMessage options)
        ((answerShippingQuery checks shippingQueryId shippingOptions errorMessage :
          Entry (Request Peer Media) Bool Unit).run reply) := by
  cases hm : shippingOptions.mapM (checkShippingOption checks) with
  | error status =>
    exact .inl ⟨status, mapM_eq_error _ hm, by
      simp only [answerShippingQuery, hm, Entry.run_tryResultPromise_error]⟩
  | ok options =>
    simp only [answerShippingQuery, hm, Entry.tryResultPromise_ok, Entry.run_query]
    exact .inr ⟨_, options, rfl,
      (SetBotShippingAnswerQuery.completesOnce _ _ _).sendsThenCompletes rfl reply⟩

theorem answerPreCheckoutQuery_run (preCheckoutQueryId : Int) (errorMessage : String)
    (reply : Reply Bool) :
    ∃ flags, SendsThenCompletes
      (.messagesSetBotPrecheckoutResults flags preCheckoutQueryId errorMessage)
      ((answerPreCheckoutQuery preCheckoutQueryId errorMessage :
        Entry (Request Peer Media) Bool Unit).run reply) :=
  ⟨_, (SetBotPreCheckoutAnswerQuery.completesOnce _ _).sendsThenCompletes rfl reply⟩

theorem getPaymentForm_run (inputInvoice : Option TdApi.InputInvoice) (theme : Option Theme)
    (reply : Reply PaymentsPaymentForm) :
    (∃ status, getInputInvoiceInfo td inputInvoice = .error status ∧
      (getPaymentForm td inputInvoice theme).run reply = [.setError status]) ∨
    ∃ info flags, getInputInvoiceInfo td inputInvoice = .ok info ∧
      SendsThenCompletes (.paymentsGetPaymentForm flags info.inputInvoice
          (theme.map td.getThemeParametersJsonString))
        ((getPaymentForm td inputInvoice theme).run reply) ∧
      ∀ status, reply.FailsWith status →
        ((getPaymentForm td inputInvoice theme).run reply).tail =
          [.onGetDialogError info.dialogId status, .setError status] := by
  cases hinfo : getInputInvoiceInfo td inputInvoice with
  | error status => exact .inl ⟨status, rfl, by simp [getPaymentForm, hinfo]⟩
  | ok info =>
    simp only [getPaymentForm, hinfo, Entry.tryResultPromise_ok, Entry.run_query]
    exact .inr ⟨info, _, rfl,
      (GetPaymentFormQuery.completesOnce td _ _).sendsThenCompletes rfl reply,
      fun status hreply => by rw [ResultHandler.run_of_failsWith rfl rfl hreply]; rfl⟩

theorem validateOrderInfo_run (inputInvoice : Option TdApi.InputInvoice)
    (orderInfo : Option TdApi.OrderInfo) (allowSave : Bool)
    (reply : Reply PaymentsValidatedRequestedInfo) :
    (∃ status, (getInputInvoiceInfo td inputInvoice = .error status ∨
        cleanOrderInfo td.checks orderInfo = .error status) ∧
      (validateOrderInfo td inputInvoice orderInfo allowSave).run reply = [.setError status]) ∨
    ∃ info cleaned flags, getInputInvoiceInfo td inputInvoice = .ok info ∧
      cleanOrderInfo td.checks orderInfo = .ok cleaned ∧
      SendsThenCompletes (.paymentsValidateRequestedInfo flags info.inputInvoice
          ((TelegramApi.convertOrderInfo cleaned).getD ⟨0, "", "", "", none⟩))
        ((validateOrderInfo td inputInvoice orderInfo allowSave).run reply) ∧
      ∀ status, reply.FailsWith status →
        ((validateOrderInfo td inputInvoice orderInfo allowSave).run reply).tail =
          [.onGetDialogError info.dialogId status, .setError status] := by
  cases hinfo : getInputInvoiceInfo td inputInvoice with
  | error status => exact .inl ⟨status, .inl rfl, by simp [validateOrderInfo, hinfo]⟩
  | ok info =>
    cases hclean : cleanOrderInfo td.checks orderInfo with
    | error status => exact .inl ⟨status, .inr rfl, by simp [validateOrderInfo, hinfo, hclean]⟩
    | ok cleaned =>
      simp only [validateOrderInfo, hinfo, hclean, Entry.tryResultPromise_ok, Entry.run_query]
      exact .inr ⟨info, cleaned, _, rfl, rfl,
        (ValidateRequestedInfoQuery.completesOnce td _ _ _).sendsThenCompletes rfl reply,
        fun status hreply => by rw [ResultHandler.run_of_failsWith rfl rfl hreply]; rfl⟩

theorem sendPaymentForm_run (inputInvoice : Option TdApi.InputInvoice) (paymentFormId : Int)
    (orderInfoId shippingOptionId : String) (credentials : Option TdApi.InputCredentials)
    (tipAmount : Int) (reply : Reply PaymentsPaymentResult) :
    (∃ status, (getInputInvoiceInfo td inputInvoice = .error status ∨
        getInputCredentials td credentials = .error status) ∧
      (sendPaymentForm td inputInvoice paymentFormId orderInfoId shippingOptionId credentials
        tipAmount).run reply = [.setError status]) ∨
    ∃ info inputCredentials flags, getInputInvoiceInfo td inputInvoice = .ok info ∧
      getInputCredentials td credentials = .ok inputCredentials ∧
      SendsThenCompletes (.paymentsSendPaymentForm flags paymentFormId info.inputInvoice
          orderInfoId shippingOptionId inputCredentials tipAmount)
        ((sendPaymentForm td inputInvoice paymentFormId orderInfoId shippingOptionId credentials
          tipAmount).run reply) ∧
      ∀ status, reply.FailsWith status →
        ((sendPaymentForm td inputInvoice paymentFormId orderInfoId shippingOptionId credentials
          tipAmount).run reply).tail =
          [.onGetDialogError info.dialogId status, .setError status] := by
  cases hinfo : getInputInvoiceInfo td inputInvoice with
  | error status => exact .inl ⟨status, .inl rfl, by simp [sendPaymentForm, hinfo]⟩
  | ok info =>
    cases hc : getInputCredentials td credentials with
    | error status => exact .inl ⟨status, .inr rfl, by simp [sendPaymentForm, hinfo, hc]⟩
    | ok inputCredentials =>
      simp only [sendPaymentForm, hinfo, hc, Entry.tryResultPromise_ok, Entry.run_query]
      exact .inr ⟨info, inputCredentials, _, rfl, rfl,
        (SendPaymentFormQuery.completesOnce _ _ _ _ _ _).sendsThenCompletes rfl reply,
        fun status hreply => by rw [ResultHandler.run_of_failsWith rfl rfl hreply]; rfl⟩

/-- `GetPaymentReceiptQuery::send` rejects a chat this client cannot read, after the message
    check and before any request. -/
theorem getPaymentReceipt_run (chatId messageId : Int) (reply : Reply PaymentsPaymentReceipt) :
    (∃ status, td.getPaymentSuccessfulMessageId chatId messageId = .error status ∧
      (getPaymentReceipt td chatId messageId).run reply = [.setError status]) ∨
    (∃ serverMessageId,
      td.getPaymentSuccessfulMessageId chatId messageId = .ok serverMessageId ∧
      td.getInputPeer chatId = none ∧
      (getPaymentReceipt td chatId messageId).run reply =
        [.onGetDialogError chatId ⟨400, "Can't access the chat"⟩,
          .setError ⟨400, "Can't access the chat"⟩]) ∨
    ∃ serverMessageId inputPeer,
      td.getPaymentSuccessfulMessageId chatId messageId = .ok serverMessageId ∧
      td.getInputPeer chatId = some inputPeer ∧
      SendsThenCompletes (.paymentsGetPaymentReceipt inputPeer serverMessageId)
        ((getPaymentReceipt td chatId messageId).run reply) ∧
      ∀ status, reply.FailsWith status →
        ((getPaymentReceipt td chatId messageId).run reply).tail =
          [.onGetDialogError chatId status, .setError status] := by
  cases hmessage : td.getPaymentSuccessfulMessageId chatId messageId with
  | error status => exact .inl ⟨status, rfl, by simp [getPaymentReceipt, hmessage]⟩
  | ok serverMessageId =>
    simp only [getPaymentReceipt, hmessage, Entry.tryResultPromise_ok, Entry.run_query]
    cases hpeer : td.getInputPeer chatId with
    | none =>
      refine .inr (.inl ⟨serverMessageId, rfl, rfl, ?_⟩)
      simp [ResultHandler.run, GetPaymentReceiptQuery.handler, GetPaymentReceiptQuery.send, hpeer,
        GetPaymentReceiptQuery.onError, failDialogPromise, queries, Effect.isSendQuery]
    | some inputPeer =>
      have hsend : (GetPaymentReceiptQuery.handler td chatId serverMessageId :
          ResultHandler (Request Peer Media) _ _).send =
          [.sendQuery (.paymentsGetPaymentReceipt inputPeer serverMessageId)] := by
        simp [GetPaymentReceiptQuery.handler, GetPaymentReceiptQuery.send, hpeer]
      exact .inr (.inr ⟨serverMessageId, inputPeer, rfl, rfl,
        (GetPaymentReceiptQuery.completesOnce td _ _).sendsThenCompletes hsend reply,
        fun status hreply => by rw [ResultHandler.run_of_failsWith hsend rfl hreply]; rfl⟩)

theorem getSavedOrderInfo_run (reply : Reply PaymentsSavedInfo) :
    SendsThenCompletes .paymentsGetSavedInfo
      ((getSavedOrderInfo : Entry (Request Peer Media) _ _).run reply) :=
  GetSavedInfoQuery.completesOnce.sendsThenCompletes rfl reply

theorem deleteSavedOrderInfo_run (reply : Reply Bool) :
    SendsThenCompletes (.paymentsClearSavedInfo clearSavedInfoInfoMask)
      ((deleteSavedOrderInfo : Entry (Request Peer Media) _ _).run reply) :=
  (ClearSavedInfoQuery.completesOnce _ _ _).sendsThenCompletes rfl reply

theorem deleteSavedCredentials_run (reply : Reply Bool) :
    SendsThenCompletes (.paymentsClearSavedInfo clearSavedInfoCredentialsMask)
      ((deleteSavedCredentials : Entry (Request Peer Media) _ _).run reply) :=
  (ClearSavedInfoQuery.completesOnce _ _ _).sendsThenCompletes rfl reply

theorem exportInvoice_run (invoice : Option Content) (reply : Reply String) :
    (invoice = none ∧
      (exportInvoice td invoice).run reply = [.setError ⟨400, "Invoice must be non-empty"⟩]) ∨
    (∃ content status, invoice = some content ∧
      td.processInputMessageInvoice content = .error status ∧
      (exportInvoice td invoice).run reply = [.setError status]) ∨
    ∃ content inputMediaInvoice, invoice = some content ∧
      td.processInputMessageInvoice content = .ok inputMediaInvoice ∧
      SendsThenCompletes (.paymentsExportInvoice inputMediaInvoice)
        ((exportInvoice td invoice).run reply) := by
  rcases invoice with _ | content
  · exact .inl ⟨rfl, rfl⟩
  cases hmedia : td.processInputMessageInvoice content with
  | error status =>
    exact .inr (.inl ⟨content, status, rfl, hmedia, by simp [exportInvoice, hmedia]⟩)
  | ok inputMediaInvoice =>
    simp only [exportInvoice, hmedia, Entry.tryResultPromise_ok, Entry.run_query]
    exact .inr (.inr ⟨content, inputMediaInvoice, rfl, hmedia,
      (ExportInvoiceQuery.completesOnce _).sendsThenCompletes rfl reply⟩)

theorem getBankCardInfo_run (bankCardNumber : String) (reply : Reply PaymentsBankCardData) :
    SendsThenCompletes (.paymentsGetBankCardData bankCardNumber)
      ((getBankCardInfo bankCardNumber : Entry (Request Peer Media) _ _).run reply) :=
  (GetBankCardInfoQuery.completesOnce _).sendsThenCompletes rfl reply

end Runs

-- ============================================================================
-- What the caller receives about an invoice
-- ============================================================================

/-- **Only checked server objects reach the caller.**  Whatever the input and the reply, a
    payment form or a receipt the caller receives was built from a packet whose payments
    provider and seller are valid users.  It names those users, carries the converted
    invoice, and, for a form, the provider its native parameters describe, or else a link to
    the form's URL; a receipt's tip is the server's when that is a non-negative amount
    `check_currency_amount` accepts, and `0` otherwise.  Once the request has gone out, a
    packet naming an invalid provider, or else an invalid seller, is reported to the chat
    and fails the promise with a 500 error instead. -/
theorem paymentObjects_checked :
    (∀ inputInvoice theme reply (form : TdApi.PaymentForm),
      .setValue form ∈ (getPaymentForm td inputInvoice theme).run reply →
      ∃ fetched, reply = .packet (.ok fetched) ∧
        td.isValidUserId fetched.providerId ∧ td.isValidUserId fetched.botId ∧
        form.paymentProviderUserId = td.getUserIdObject fetched.providerId ∧
        form.sellerBotUserId = td.getUserIdObject fetched.botId ∧
        form.invoice = convertInvoice td.checks fetched.invoice ∧
        form.paymentProvider =
          (convertPaymentProvider td fetched.nativeProvider fetched.nativeParams).getD
            (.other fetched.url)) ∧
    (∀ chatId messageId reply (receipt : TdApi.PaymentReceipt),
      .setValue receipt ∈ (getPaymentReceipt td chatId messageId).run reply →
      ∃ fetched, reply = .packet (.ok fetched) ∧
        td.isValidUserId fetched.providerId ∧ td.isValidUserId fetched.botId ∧
        receipt.paymentProviderUserId = td.getUserIdObject fetched.providerId ∧
        receipt.sellerBotUserId = td.getUserIdObject fetched.botId ∧
        receipt.invoice = convertInvoice td.checks fetched.invoice ∧
        receipt.tipAmount =
          if 0 ≤ fetched.tipAmount ∧ td.checks.checkCurrencyAmount fetched.tipAmount then
            fetched.tipAmount
          else 0) ∧
    (∀ inputInvoice theme info (fetched : PaymentsPaymentForm),
      getInputInvoiceInfo td inputInvoice = .ok info →
      (td.isValidUserId fetched.providerId && td.isValidUserId fetched.botId) = false →
      ∃ request message,
        (getPaymentForm td inputInvoice theme).run (.packet (.ok fetched)) =
          [.sendQuery request, .onGetDialogError info.dialogId ⟨500, message⟩,
            .setError ⟨500, message⟩] ∧
        message = if td.isValidUserId fetched.providerId then "Receive invalid seller identifier"
          else "Receive invalid payments provider identifier") ∧
    (∀ chatId messageId serverMessageId inputPeer (fetched : PaymentsPaymentReceipt),
      td.getPaymentSuccessfulMessageId chatId messageId = .ok serverMessageId →
      td.getInputPeer chatId = some inputPeer →
      (td.isValidUserId fetched.providerId && td.isValidUserId fetched.botId) = false →
      ∃ request message,
        (getPaymentReceipt td chatId messageId).run (.packet (.ok fetched)) =
          [.sendQuery request, .onGetDialogError chatId ⟨500, message⟩,
            .setError ⟨500, message⟩] ∧
        message = if td.isValidUserId fetched.providerId then "Receive invalid seller identifier"
          else "Receive invalid payments provider identifier") := by
  refine ⟨?formValue, ?receiptValue, ?formRejected, ?receiptRejected⟩
  case formValue =>
    intro inputInvoice theme reply form hv
    obtain ⟨info, -, hv⟩ := Entry.setValue_mem_tryResultPromise hv
    obtain ⟨fetched, rfl, hresult⟩ := ResultHandler.setValue_mem_run
      (by simp [GetPaymentFormQuery.handler, GetPaymentFormQuery.send]) (fun _ => rfl)
      (fun _ => setValue_not_mem_failDialogPromise _ _ _) (Entry.run_query _ _ ▸ hv)
    exact ⟨fetched, rfl, GetPaymentFormQuery.setValue_mem_onResult td hresult⟩
  case receiptValue =>
    intro chatId messageId reply receipt hv
    obtain ⟨serverMessageId, -, hv⟩ := Entry.setValue_mem_tryResultPromise hv
    have hsend : .setValue receipt ∉ (GetPaymentReceiptQuery.handler td chatId serverMessageId :
        ResultHandler (Request Peer Media) _ _).send := by
      simp only [GetPaymentReceiptQuery.handler, GetPaymentReceiptQuery.send]
      split <;> simp [GetPaymentReceiptQuery.onError]
    obtain ⟨fetched, rfl, hresult⟩ := ResultHandler.setValue_mem_run hsend (fun _ => rfl)
      (fun _ => setValue_not_mem_failDialogPromise _ _ _) (Entry.run_query _ _ ▸ hv)
    exact ⟨fetched, rfl, GetPaymentReceiptQuery.setValue_mem_onResult td hresult⟩
  case formRejected =>
    intro inputInvoice theme info fetched hinfo hinvalid
    simp only [getPaymentForm, hinfo, Entry.tryResultPromise, Entry.run_query, ResultHandler.run,
      ResultHandler.deliver, GetPaymentFormQuery.handler,
      GetPaymentFormQuery.onResult_of_invalidUser td hinvalid]
    exact ⟨_, _, rfl, rfl⟩
  case receiptRejected =>
    intro chatId messageId serverMessageId inputPeer fetched hmessage hpeer hinvalid
    simp only [getPaymentReceipt, hmessage, Entry.tryResultPromise, Entry.run_query,
      ResultHandler.run, ResultHandler.deliver, GetPaymentReceiptQuery.handler,
      GetPaymentReceiptQuery.send, hpeer,
      GetPaymentReceiptQuery.onResult_of_invalidUser td hinvalid]
    exact ⟨_, _, rfl, rfl⟩

-- ============================================================================
-- Every entry point completes its promise once
-- ============================================================================

/-- **Every entry point completes its promise once.**  Whatever the input, the collaborators'
    answers and the reply the query framework delivers for a sent request, each entry point
    of Payments.cpp either rejects the caller's promise before any request, with the error of
    one of its own checks (the invoice, a shipping option, the order's fields, the
    credentials with their temporary password, the message, the chat `send` finds
    inaccessible, or the invoice content), or sends its own request, once, and then
    completes the promise exactly once on every `on_result` and `on_error` path, sending
    nothing more. -/
theorem payments_promise_completed_once :
    (∀ checks shippingQueryId shippingOptions errorMessage reply,
      (∃ status, (∃ option ∈ shippingOptions,
          checkShippingOption checks option = .error status) ∧
        (answerShippingQuery checks shippingQueryId shippingOptions errorMessage :
          Entry (Request Peer Media) Bool Unit).run reply = [.setError status]) ∨
      ∃ flags options, shippingOptions.mapM (checkShippingOption checks) = .ok options ∧
        SendsThenCompletes
          (.messagesSetBotShippingResults flags shippingQueryId errorMessage options)
          ((answerShippingQuery checks shippingQueryId shippingOptions errorMessage :
            Entry (Request Peer Media) Bool Unit).run reply)) ∧
    (∀ preCheckoutQueryId errorMessage reply, ∃ flags, SendsThenCompletes
      (.messagesSetBotPrecheckoutResults flags preCheckoutQueryId errorMessage)
      ((answerPreCheckoutQuery preCheckoutQueryId errorMessage :
        Entry (Request Peer Media) Bool Unit).run reply)) ∧
    (∀ inputInvoice theme reply,
      (∃ status, getInputInvoiceInfo td inputInvoice = .error status ∧
        (getPaymentForm td inputInvoice theme).run reply = [.setError status]) ∨
      ∃ info flags, getInputInvoiceInfo td inputInvoice = .ok info ∧
        SendsThenCompletes (.paymentsGetPaymentForm flags info.inputInvoice
            (theme.map td.getThemeParametersJsonString))
          ((getPaymentForm td inputInvoice theme).run reply)) ∧
    (∀ inputInvoice orderInfo allowSave reply,
      (∃ status, (getInputInvoiceInfo td inputInvoice = .error status ∨
          cleanOrderInfo td.checks orderInfo = .error status) ∧
        (validateOrderInfo td inputInvoice orderInfo allowSave).run reply = [.setError status]) ∨
      ∃ info cleaned flags, getInputInvoiceInfo td inputInvoice = .ok info ∧
        cleanOrderInfo td.checks orderInfo = .ok cleaned ∧
        SendsThenCompletes (.paymentsValidateRequestedInfo flags info.inputInvoice
            ((TelegramApi.convertOrderInfo cleaned).getD ⟨0, "", "", "", none⟩))
          ((validateOrderInfo td inputInvoice orderInfo allowSave).run reply)) ∧
    (∀ inputInvoice paymentFormId orderInfoId shippingOptionId credentials tipAmount reply,
      (∃ status, (getInputInvoiceInfo td inputInvoice = .error status ∨
          getInputCredentials td credentials = .error status) ∧
        (sendPaymentForm td inputInvoice paymentFormId orderInfoId shippingOptionId credentials
          tipAmount).run reply = [.setError status]) ∨
      ∃ info inputCredentials flags, getInputInvoiceInfo td inputInvoice = .ok info ∧
        getInputCredentials td credentials = .ok inputCredentials ∧
        SendsThenCompletes (.paymentsSendPaymentForm flags paymentFormId info.inputInvoice
            orderInfoId shippingOptionId inputCredentials tipAmount)
          ((sendPaymentForm td inputInvoice paymentFormId orderInfoId shippingOptionId credentials
            tipAmount).run reply)) ∧
    (∀ chatId messageId reply,
      (∃ status, td.getPaymentSuccessfulMessageId chatId messageId = .error status ∧
        (getPaymentReceipt td chatId messageId).run reply = [.setError status]) ∨
      (∃ serverMessageId,
        td.getPaymentSuccessfulMessageId chatId messageId = .ok serverMessageId ∧
        td.getInputPeer chatId = none ∧
        (getPaymentReceipt td chatId messageId).run reply =
          [.onGetDialogError chatId ⟨400, "Can't access the chat"⟩,
            .setError ⟨400, "Can't access the chat"⟩]) ∨
      ∃ serverMessageId inputPeer,
        td.getPaymentSuccessfulMessageId chatId messageId = .ok serverMessageId ∧
        td.getInputPeer chatId = some inputPeer ∧
        SendsThenCompletes (.paymentsGetPaymentReceipt inputPeer serverMessageId)
          ((getPaymentReceipt td chatId messageId).run reply)) ∧
    (∀ reply, SendsThenCompletes .paymentsGetSavedInfo
      ((getSavedOrderInfo : Entry (Request Peer Media) _ _).run reply)) ∧
    (∀ reply, SendsThenCompletes (.paymentsClearSavedInfo clearSavedInfoInfoMask)
      ((deleteSavedOrderInfo : Entry (Request Peer Media) _ _).run reply)) ∧
    (∀ reply, SendsThenCompletes (.paymentsClearSavedInfo clearSavedInfoCredentialsMask)
      ((deleteSavedCredentials : Entry (Request Peer Media) _ _).run reply)) ∧
    (∀ invoice reply,
      (invoice = none ∧ (exportInvoice td invoice).run reply =
          [.setError ⟨400, "Invoice must be non-empty"⟩]) ∨
      (∃ content status, invoice = some content ∧
        td.processInputMessageInvoice content = .error status ∧
        (exportInvoice td invoice).run reply = [.setError status]) ∨
      ∃ content inputMediaInvoice, invoice = some content ∧
        td.processInputMessageInvoice content = .ok inputMediaInvoice ∧
        SendsThenCompletes (.paymentsExportInvoice inputMediaInvoice)
          ((exportInvoice td invoice).run reply)) ∧
    (∀ bankCardNumber reply, SendsThenCompletes (.paymentsGetBankCardData bankCardNumber)
      ((getBankCardInfo bankCardNumber : Entry (Request Peer Media) _ _).run reply)) := by
  refine ⟨answerShippingQuery_run, answerPreCheckoutQuery_run, fun inputInvoice theme reply => ?_,
    fun inputInvoice orderInfo allowSave reply => ?_,
    fun inputInvoice paymentFormId orderInfoId shippingOptionId credentials tipAmount reply => ?_,
    fun chatId messageId reply => ?_, getSavedOrderInfo_run, deleteSavedOrderInfo_run,
    deleteSavedCredentials_run, exportInvoice_run td, getBankCardInfo_run⟩
  · exact (getPaymentForm_run td inputInvoice theme reply).imp_right
      fun ⟨info, flags, hinfo, hsends, _⟩ => ⟨info, flags, hinfo, hsends⟩
  · exact (validateOrderInfo_run td inputInvoice orderInfo allowSave reply).imp_right
      fun ⟨info, cleaned, flags, hinfo, hclean, hsends, _⟩ =>
        ⟨info, cleaned, flags, hinfo, hclean, hsends⟩
  · exact (sendPaymentForm_run td inputInvoice paymentFormId orderInfoId shippingOptionId
      credentials tipAmount reply).imp_right
      fun ⟨info, inputCredentials, flags, hinfo, hc, hsends, _⟩ =>
        ⟨info, inputCredentials, flags, hinfo, hc, hsends⟩
  · exact (getPaymentReceipt_run td chatId messageId reply).imp_right <| .imp_right
      fun ⟨serverMessageId, inputPeer, hmessage, hpeer, hsends, _⟩ =>
        ⟨serverMessageId, inputPeer, hmessage, hpeer, hsends⟩

end Payments
end TelegramTd
