import WordHunt.Exchange.Dialogue
import WordHunt.Program
import WordHunt.Text.Utf8

/-!
A client that carries requests to their servers.  It sends nothing for an attempt that is over
before it begins, nor for a request whose headers cannot be written down.
-/

namespace WordHunt

open Text

def userAgent : String :=
  programName ++ "/" ++ programVersion

def Outcome.problem? : Outcome → Option String
  | .response _ => none
  | .timedOut => some "attempt timed out"
  | .unreachable reason => some reason

def isHeaderChar (c : Char) : Bool :=
  c = '\t' || (' ' ≤ c && c ≠ '\x7f')

def Request.isSendable (request : Request) : Bool :=
  request.headers.all fun (_, value) => value.toList.all isHeaderChar

/-- A response as a client hands it on: without a byte order mark in front of its body. -/
def Response.received (response : Response) : Response :=
  { response with body := String.ofList (dropByteOrderMark response.body.toList) }

def Outcome.received : Outcome → Outcome
  | .response answer => .response answer.received
  | outcome => outcome

def Partner.client {σ : Type} (exchange : σ → Request → Outcome × σ) : Partner σ where
  answer state request attempt :=
    if attempt.isOver false then ({ outcome := .timedOut }, state)
    else if request.isSendable then
      let (outcome, state) := exchange state (request.withHeader "user-agent" userAgent)
      ({ outcome := outcome.received }, state)
    else ({ outcome := .unreachable "builder error" }, state)

end WordHunt
