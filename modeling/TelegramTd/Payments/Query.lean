/-
  TelegramTd.Payments.Query

  The query lifecycle as Payments.cpp drives it.  An entry point validates
  its input and either completes the caller's promise itself or moves it
  into a `Td::ResultHandler`; the handler's `send` sends one request (or,
  failing a last check, completes the promise instead), and the query
  framework later delivers exactly one reply for a sent request: a packet,
  which `on_result` parses with `fetch_result`, or an error, which goes to
  `on_error`.

  Everything a run does is an `Effect`, listed in program order, so a path
  that completes the promise twice, or completes it and still sends, shows
  up as such.  `completions` counts the completions of the caller's promise
  and `queries` the requests sent.  `SendsThenCompletes` is a run that sends
  one request and then completes the promise once from the reply; a handler
  whose every path completes the promise once (`CompletesOnce`) runs so
  (`CompletesOnce.sendsThenCompletes`).
-/

import Mathlib.Data.List.Forall2
import TelegramTd.Basic

namespace TelegramTd
namespace Payments

/-- One step of a run that the outside world sees. -/
inductive Effect (Req α : Type)
  /-- `promise.set_value(value)`. -/
  | setValue (value : α)
  /-- `promise.set_error(error)`. -/
  | setError (error : Status)
  /-- `send_query(...)`: the request goes to the network. -/
  | sendQuery (request : Req)
  /-- `messages_manager_->on_get_dialog_error(dialog_id, status, ...)`. -/
  | onGetDialogError (dialogId : Int) (error : Status)
  /-- `updates_manager_->on_get_updates(updates, continuation)`. -/
  | onGetUpdates
deriving DecidableEq

namespace Effect

variable {Req α : Type}

/-- The effect completes the caller's promise. -/
def isCompletion : Effect Req α → Bool
  | setValue _ | setError _ => true
  | _ => false

/-- The effect sends a request. -/
def isSendQuery : Effect Req α → Bool
  | sendQuery _ => true
  | _ => false

end Effect

/-- How many times a run completes the caller's promise. -/
def completions {Req α : Type} (effects : List (Effect Req α)) : Nat :=
  effects.countP Effect.isCompletion

/-- How many requests a run sends. -/
def queries {Req α : Type} (effects : List (Effect Req α)) : Nat :=
  effects.countP Effect.isSendQuery

/-- A run that sends `request` and then handles the reply: the handling completes the caller's
    promise once and sends nothing more. -/
def SendsThenCompletes {Req α : Type} (request : Req) (effects : List (Effect Req α)) : Prop :=
  ∃ rest, effects = .sendQuery request :: rest ∧ completions rest = 1 ∧ queries rest = 0

/-- What the query framework delivers for a sent request: a packet, which `fetch_result`
    either parses into `Res` or rejects, or an error. -/
inductive Reply (Res : Type)
  | packet (fetched : Except Status Res)
  | error (status : Status)

/-- A reply that makes the query fail with `status`: an error from the network, or a packet
    `fetch_result` rejects. -/
def Reply.FailsWith {Res : Type} (status : Status) : Reply Res → Prop
  | .packet fetched => fetched = .error status
  | .error received => received = status

/-- A `Td::ResultHandler` holding the caller's promise: the effects of its `send`, and of
    `on_result` (given what `fetch_result` made of the packet) and `on_error`. -/
structure ResultHandler (Req Res α : Type) where
  send : List (Effect Req α)
  onResult : Except Status Res → List (Effect Req α)
  onError : Status → List (Effect Req α)

/-- What an entry point did before returning: its own effects, and the handler it moved
    the promise into, if it created one. -/
structure Entry (Req Res α : Type) where
  effects : List (Effect Req α)
  handler : Option (ResultHandler Req Res α)

namespace ResultHandler

variable {Req Res α : Type}

/-- The query framework hands the one reply to `on_result` or `on_error`. -/
def deliver (h : ResultHandler Req Res α) : Reply Res → List (Effect Req α)
  | .packet fetched => h.onResult fetched
  | .error status => h.onError status

/-- The handler's `send`, followed by the handling of the reply when a request went out. -/
def run (h : ResultHandler Req Res α) (reply : Reply Res) : List (Effect Req α) :=
  h.send ++ if queries h.send = 0 then [] else h.deliver reply

/-- A handler completes the promise exactly once on every path: its `send` either sends
    one request and leaves the promise alone, or sends nothing and completes it once; and
    every `on_result` and `on_error` path completes it exactly once and sends nothing. -/
structure CompletesOnce (h : ResultHandler Req Res α) : Prop where
  send : (queries h.send = 1 ∧ completions h.send = 0) ∨
    (queries h.send = 0 ∧ completions h.send = 1)
  onResult : ∀ fetched, completions (h.onResult fetched) = 1 ∧ queries (h.onResult fetched) = 0
  onError : ∀ status, completions (h.onError status) = 1 ∧ queries (h.onError status) = 0

/-- A handler that sends its request in `send` and does nothing else there. -/
theorem CompletesOnce.of_sendQuery {h : ResultHandler Req Res α} {request : Req}
    (hsend : h.send = [.sendQuery request])
    (hres : ∀ fetched, completions (h.onResult fetched) = 1 ∧ queries (h.onResult fetched) = 0)
    (herr : ∀ status, completions (h.onError status) = 1 ∧ queries (h.onError status) = 0) :
    h.CompletesOnce :=
  ⟨.inl (by simp [hsend, queries, completions, Effect.isSendQuery, Effect.isCompletion]),
    hres, herr⟩

/-- Whatever the reply, its handling completes the promise once and sends nothing. -/
theorem CompletesOnce.deliver {h : ResultHandler Req Res α} (hh : h.CompletesOnce) :
    ∀ reply, completions (h.deliver reply) = 1 ∧ queries (h.deliver reply) = 0
  | .packet fetched => hh.onResult fetched
  | .error status => hh.onError status

/-- A handler that sent its request hands the reply on. -/
theorem run_of_sendQuery {h : ResultHandler Req Res α} {request : Req}
    (hsend : h.send = [.sendQuery request]) (reply : Reply Res) :
    h.run reply = .sendQuery request :: h.deliver reply := by
  simp [run, hsend, queries, Effect.isSendQuery]

/-- A handler that sent its request and treats a rejected packet as an error runs its
    `on_error` on a failing reply. -/
theorem run_of_failsWith {h : ResultHandler Req Res α} {request : Req} {status : Status}
    (hsend : h.send = [.sendQuery request])
    (hresult : h.onResult (.error status) = h.onError status) {reply : Reply Res}
    (hreply : reply.FailsWith status) : h.run reply = .sendQuery request :: h.onError status := by
  rw [run_of_sendQuery hsend]
  cases reply with
  | packet fetched => cases hreply; rw [deliver, hresult]
  | error received => cases hreply; rfl

/-- A handler whose `send` sends `request` runs as that request followed by the reply's
    handling. -/
theorem CompletesOnce.sendsThenCompletes {h : ResultHandler Req Res α} {request : Req}
    (hh : h.CompletesOnce) (hsend : h.send = [.sendQuery request]) (reply : Reply Res) :
    SendsThenCompletes request (h.run reply) :=
  ⟨h.deliver reply, run_of_sendQuery hsend reply, hh.deliver reply⟩

/-- A handler whose `send` and `on_error` never set a value hands the caller a value only
    from a packet `fetch_result` parsed, and only as `on_result` makes it. -/
theorem setValue_mem_run {h : ResultHandler Req Res α} {value : α} {reply : Reply Res}
    (hsend : .setValue value ∉ h.send)
    (hresult : ∀ status, h.onResult (.error status) = h.onError status)
    (herror : ∀ status, .setValue value ∉ h.onError status)
    (hv : .setValue value ∈ h.run reply) :
    ∃ fetched, reply = .packet (.ok fetched) ∧
      .setValue value ∈ h.onResult (.ok fetched) := by
  have hdeliver : .setValue value ∈ h.deliver reply := by
    rw [run, List.mem_append] at hv
    replace hv := hv.resolve_left hsend
    split at hv
    · cases hv
    · exact hv
  cases reply with
  | error status => exact absurd hdeliver (herror status)
  | packet fetched =>
    cases fetched with
    | error status => exact absurd (hresult status ▸ hdeliver) (herror status)
    | ok fetched => exact ⟨fetched, rfl, hdeliver⟩

end ResultHandler

namespace Entry

variable {Req Res α : Type}

/-- A whole run of an entry point against the reply its request gets. -/
def run (e : Entry Req Res α) (reply : Reply Res) : List (Effect Req α) :=
  e.effects ++ match e.handler with
    | none => []
    | some h => h.run reply

/-- `promise.set_error(status)` in the entry point itself. -/
def fail (status : Status) : Entry Req Res α := ⟨[.setError status], none⟩

/-- `td->create_handler<...>(std::move(promise))->send(...)`: the promise moves into `h`. -/
def query (h : ResultHandler Req Res α) : Entry Req Res α := ⟨[], some h⟩

/-- `TRY_RESULT_PROMISE(promise, value, result)`, and an entry point's
    `return promise.set_error(...)` after a failed check: an error completes the promise,
    a value goes on to the rest of the entry point. -/
def tryResultPromise {β : Type} (result : Except Status β) (k : β → Entry Req Res α) :
    Entry Req Res α :=
  match result with
  | .error status => fail status
  | .ok value => k value

@[simp] theorem run_query (h : ResultHandler Req Res α) (reply : Reply Res) :
    (query h).run reply = h.run reply :=
  List.nil_append _

@[simp] theorem run_tryResultPromise_error {β : Type} (status : Status)
    (k : β → Entry Req Res α) (reply : Reply Res) :
    (tryResultPromise (.error status) k).run reply = [.setError status] :=
  rfl

@[simp] theorem tryResultPromise_ok {β : Type} (value : β) (k : β → Entry Req Res α) :
    tryResultPromise (.ok value) k = k value :=
  rfl

/-- A value reaches the caller only past every `TRY_RESULT_PROMISE`. -/
theorem setValue_mem_tryResultPromise {β : Type} {result : Except Status β}
    {k : β → Entry Req Res α} {value : α} {reply : Reply Res}
    (hv : .setValue value ∈ (tryResultPromise result k).run reply) :
    ∃ checked, result = .ok checked ∧ .setValue value ∈ (k checked).run reply := by
  cases result with
  | error status => simp [tryResultPromise, fail, run] at hv
  | ok checked => exact ⟨checked, rfl, hv⟩

end Entry

-- ============================================================================
-- Validation loops
-- ============================================================================

/-! An entry point's loop that returns at the first failed check is `List.mapM` in
`Except Status`: it fails with the error of an element, or succeeds with the elementwise
results, in order. -/

section MapM

/-- A check followed by the rest of a computation succeeds when both do. -/
theorem bind_eq_ok {ε α β : Type} {x : Except ε α} {f : α → Except ε β} {b : β} :
    x >>= f = .ok b ↔ ∃ a, x = .ok a ∧ f a = .ok b := by
  cases x <;> simp [bind, Except.bind]

/-- A check followed by the rest of a computation fails in the check or in the rest. -/
theorem bind_eq_error {ε α β : Type} {x : Except ε α} {f : α → Except ε β} {e : ε} :
    x >>= f = .error e ↔ x = .error e ∨ ∃ a, x = .ok a ∧ f a = .error e := by
  cases x <;> simp [bind, Except.bind]

variable {ε β γ : Type} (f : β → Except ε γ)

theorem mapM_eq_error {l : List β} {e : ε} (h : l.mapM f = .error e) :
    ∃ a ∈ l, f a = .error e := by
  induction l with
  | nil => cases h
  | cons a l ih =>
    rw [List.mapM_cons] at h
    cases ha : f a with
    | error e' =>
      rw [ha] at h
      cases h
      exact ⟨a, List.mem_cons_self a l, ha⟩
    | ok b =>
      rw [ha] at h
      cases hl : l.mapM f with
      | error e' =>
        rw [hl] at h
        cases h
        obtain ⟨a', ha', hfa'⟩ := ih hl
        exact ⟨a', List.mem_cons_of_mem a ha', hfa'⟩
      | ok r => rw [hl] at h; cases h

theorem mapM_eq_ok {l : List β} {r : List γ} (h : l.mapM f = .ok r) :
    List.Forall₂ (fun a b => f a = .ok b) l r := by
  induction l generalizing r with
  | nil => cases h; exact .nil
  | cons a l ih =>
    rw [List.mapM_cons] at h
    cases ha : f a with
    | error e => rw [ha] at h; cases h
    | ok b =>
      rw [ha] at h
      cases hl : l.mapM f with
      | error e => rw [hl] at h; cases h
      | ok r' =>
        rw [hl] at h
        cases h
        exact .cons ha (ih hl)

theorem mapM_ok_of_mem {l : List β} {r : List γ} (h : l.mapM f = .ok r) :
    ∀ a ∈ l, ∃ b, f a = .ok b := by
  have hall := mapM_eq_ok f h
  clear h
  induction hall with
  | nil => intro a ha; cases ha
  | cons hab _ ih =>
    intro a ha
    rcases List.mem_cons.mp ha with rfl | ha
    · exact ⟨_, hab⟩
    · exact ih a ha

end MapM

end Payments
end TelegramTd
