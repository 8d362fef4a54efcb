import Linkapro.Payments.Handlers

/-!
# Payments: tasks

The celery task that retries a stored webhook event, and the calls that the
component serves: the handlers behind the views and the tasks.
-/

namespace Linkapro.Payments

open Lib Lib.Action

/-- `_decrypt_retry_payload` inside its `try`: an event that cannot be read is skipped. -/
def decryptOrSkip (row : WebhookEventRow) : Handler (Option WebhookPayload) :=
  attempt (do
    let payload ← ask (.decryptRetryPayload row)
    pure (some payload)) fun _ => pure none

/-- The loop of `_load_retry_event` over the candidates. -/
def loadRetryEvent (providerReference : JsonValue) :
    List WebhookEventRow → Handler (Option (WebhookEventRow × WebhookPayload))
  | [] => pure none
  | row :: rows => do
    match ← decryptOrSkip row with
    | none => loadRetryEvent providerReference rows
    | some payload =>
      match extractProviderReference payload with
      | .error error => throw error
      | .ok txRef =>
        if txRef = providerReference then pure (some (row, payload))
        else loadRetryEvent providerReference rows

/-- The `status` of the task's result. -/
inductive RetryResult : Type where
  | missingEvent
  | terminal (eventId : String)
  | skipped (eventId : String)
  | completed (eventId finalStatus : String)
deriving DecidableEq, Repr

/-- The handler call of the task, with its error as a value. -/
def reprocess (dispatcher : EventDispatcher) (cmd : ProcessWebhookCommand) :
    Handler (Option PaymentError) :=
  attempt (do
    processWebhookCore dispatcher cmd true
    pure none) fun error => pure (some error)

/-- The end of the task after the handler has raised. -/
def retryLater (providerReference : JsonValue) (retries : ℕ) (error : PaymentError) :
    Handler RetryResult := do
  if 3 ≤ retries then
    ask (.resetRetry (retryKey providerReference))
    throw error
  else
    ask (.sendTask
      (.processWebhookRetry providerReference (min (30 * 2 ^ retries) 300) (retries + 1)))
    throw .retry

/-- `reset_webhook_retry` once the event has a terminal status. -/
def resetIfTerminal (providerReference : JsonValue) (finalStatus : String) : Handler Unit :=
  if finalStatus ∈ terminalWebhookStatuses then
    ask (.resetRetry (retryKey providerReference))
  else pure ()

/-- The end of the task after the handler has returned. -/
def finishRetry (providerReference : JsonValue) (event : WebhookEventRow) :
    Handler RetryResult := do
  let refreshed : Option String ← ask (.eventStatus event.eventId)
  let finalStatus := refreshed.getD event.status
  resetIfTerminal providerReference finalStatus
  pure (.completed event.eventId finalStatus)

/-- The task on a found event. -/
def retryFound (dispatcher : EventDispatcher) (providerReference : JsonValue) (retries : ℕ)
    (event : WebhookEventRow) (payload : WebhookPayload) : Handler RetryResult := do
  if event.status ∈ terminalWebhookStatuses then
    ask (.resetRetry (retryKey providerReference))
    pure (.terminal event.eventId)
  else if event.status ∉ retryableWebhookStatuses then
    pure (.skipped event.eventId)
  else
    let now : Datetime ← ask .utcNow
    match ← reprocess dispatcher { eventId := event.eventId, payload, now } with
    | some error => retryLater providerReference retries error
    | none => finishRetry providerReference event

/-- `process_webhook_retry`. -/
def processWebhookRetry (dispatcher : EventDispatcher) (providerReference : JsonValue)
    (retries : ℕ) : Handler RetryResult := do
  let candidates : List WebhookEventRow ← ask .retryCandidates
  match ← loadRetryEvent providerReference candidates with
  | none =>
    ask (.resetRetry (retryKey providerReference))
    pure .missingEvent
  | some (event, payload) => retryFound dispatcher providerReference retries event payload

/-- The calls that the component serves. -/
inductive PaymentCall : Type where
  | initiatePayment (cmd : InitiatePaymentCommand)
  | processWebhook (cmd : ProcessWebhookCommand)
  | processWebhookRetry (providerReference : JsonValue) (retries : ℕ)
  | expireStalePayments (cmd : ExpireStalePaymentsCommand)
  | requestRefund (cmd : RequestRefundCommand)

/-- The program of a call. Results are dropped, errors are kept. -/
def PaymentCall.handler (dispatcher : EventDispatcher) : PaymentCall → Handler Unit
  | .initiatePayment cmd => do let _ ← Payments.initiatePayment cmd
  | .processWebhook cmd => Payments.processWebhook dispatcher cmd
  | .processWebhookRetry providerReference retries => do
    let _ ← Payments.processWebhookRetry dispatcher providerReference retries
  | .expireStalePayments cmd => do let _ ← Payments.expireStalePayments dispatcher cmd
  | .requestRefund cmd => Payments.requestRefund cmd

/-- The calls of a deployment, all started on one state. -/
def startCalls {ι : Type} (state : PaymentState) (calls : ι → PaymentCall) :
    Pool ι PaymentState (Raising PaymentError PaymentOp.Ret) (Except PaymentError Unit) :=
  Pool.start state fun i => ((calls i).handler djangoPaymentEventOutboxDispatcher).run

end Linkapro.Payments
