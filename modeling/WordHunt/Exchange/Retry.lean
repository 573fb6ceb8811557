import WordHunt.Exchange.Dialogue
import WordHunt.Failure

/-!
Fetching with retries.  An attempt that is told to slow down, runs out of time or gets no answer
is repeated after a pause that doubles each time, as long as attempts are left.  An attempt
whose time is over counts as timed out, whatever came back.  Any other answer ends the fetch.
A warning is its text: the numbers that a log keeps beside it are left out.
-/

namespace WordHunt

open Text

inductive Disposition where
  | success
  | rateLimited
  | fatal
  deriving DecidableEq, Repr

def Response.disposition (response : Response) : Disposition :=
  if response.isSuccess then .success
  else if response.status = 429 then .rateLimited
  else .fatal

structure RetryPolicy where
  /-- How often a request is sent at most; it is always sent once. -/
  maxAttempts : Nat
  initialBackoff : Duration
  attemptBudget : Duration
  deriving DecidableEq, Repr

namespace RetryPolicy

def scribe : RetryPolicy where
  maxAttempts := 5
  initialBackoff := .ofSecs 1
  attemptBudget := .ofSecs 20

def catalogue : RetryPolicy where
  maxAttempts := 5
  initialBackoff := .ofSecs 1
  attemptBudget := .ofSecs 15

end RetryPolicy

inductive Setback where
  | rateLimited (status : Nat) (explanation : Option String)
  | timedOut
  | unreachable (reason : String)
  deriving DecidableEq, Repr

namespace Setback

def message : Setback → String
  | .rateLimited status _ => "rate limited (status " ++ numeralText status ++ ")"
  | .timedOut => "timed out"
  | .unreachable reason => "network failure: " ++ reason

def failure (url : String) (attempt : Attempt) : Setback → Failure
  | .rateLimited status explanation => .rateLimited url attempt.number status explanation
  | .timedOut => .timeout url attempt.number attempt.budget
  | .unreachable reason => .network url attempt.number reason

end Setback

inductive Result where
  | success (response : Response)
  | fatal (response : Response)
  | setback (setback : Setback)
  deriving DecidableEq, Repr

def Attempt.result (classify : Response → Disposition) (attempt : Attempt) (reply : Reply) :
    Result :=
  if attempt.isOver reply.cancelled reply.elapsed then .setback .timedOut
  else
    match reply.outcome with
    | .timedOut => .setback .timedOut
    | .unreachable reason => .setback (.unreachable reason)
    | .response response =>
        match classify response with
        | .success => .success response
        | .rateLimited => .setback (.rateLimited response.status response.explanation?)
        | .fatal => .fatal response

/-- Attempts a request, with `left` attempts allowed after this one. -/
def attemptFrom (classify : Response → Disposition) (request : Request) (budget : Duration) :
    (left number : Nat) → (backoff : Duration) → Dialogue (Except Failure Response)
  | left, number, backoff =>
      let attempt : Attempt := ⟨number, budget⟩
      .ask request attempt fun reply =>
        match attempt.result classify reply with
        | .success response => .done (.ok response)
        | .fatal response =>
            .done (.error (.http request.url response.status response.explanation?))
        | .setback setback =>
            match left with
            | 0 => .done (.error (setback.failure request.url attempt))
            | left + 1 =>
                .warn (setback.message ++ ", retrying")
                  (.pause backoff
                    (attemptFrom classify request budget left (number + 1) backoff.double))

namespace RetryPolicy

def fetchWith (policy : RetryPolicy) (classify : Response → Disposition) (request : Request) :
    Dialogue (Except Failure Response) :=
  attemptFrom classify request policy.attemptBudget (policy.maxAttempts - 1) 1
    policy.initialBackoff

def fetch (policy : RetryPolicy) (request : Request) : Dialogue (Except Failure Response) :=
  policy.fetchWith Response.disposition request

end RetryPolicy

end WordHunt
