import OpenKit.Protocol.ResponseAttributes

/-!
# Status responses

The answer of the server to a request. Requests are numbered, and an answer carries the number of
its request, so that two answers with the same contents stay distinct.

## Main definitions

* `StatusResponse`: the attributes, the response code and the delay given by the headers
* `Answer`: a status response, as the object received for one request
* `isSuccessfulResponse`, `isTooManyRequestsResponse`: what the sender asks about an answer, which
  may be missing
-/

namespace OpenKit

/-- A response. `retryAfterInMilliseconds` is the delay that its headers ask for. -/
structure StatusResponse where
  responseAttributes : ResponseAttributes
  responseCode : ℤ
  retryAfterInMilliseconds : ℤ

namespace StatusResponse

def httpBadRequest : ℤ := 400

def httpTooManyRequests : ℤ := 429

def responseStatusError : UTF8String := .ofAscii ['E', 'R', 'R', 'O', 'R']

/-- An erroneous code, or a status attribute that says so. -/
def isErroneousResponse (r : StatusResponse) : Bool :=
  r.responseCode ≥ httpBadRequest ||
    r.responseAttributes.isAttributeSet .status &&
      r.responseAttributes.status.data == responseStatusError.data

def isTooManyRequestsResponse (r : StatusResponse) : Bool :=
  r.responseCode == httpTooManyRequests

/-- Too many requests is an error. -/
theorem isErroneousResponse_of_tooManyRequests {r : StatusResponse}
    (h : r.isTooManyRequestsResponse = true) : r.isErroneousResponse = true := by
  rw [isTooManyRequestsResponse, beq_iff_eq] at h
  simp [isErroneousResponse, h, httpTooManyRequests, httpBadRequest]

/-- A response with the undefined defaults and some response code. -/
def createErrorResponse (responseCode : ℤ) : StatusResponse :=
  ⟨ResponseAttributes.undefined, responseCode, 10 * 60 * 1000⟩

end StatusResponse

/-- The response object received for the request of the given number. -/
structure Answer where
  requestNumber : ℕ
  response : StatusResponse

namespace BeaconSendingResponseUtil

def isSuccessfulResponse : Option Answer → Bool
  | none => false
  | some answer => !answer.response.isErroneousResponse

def isTooManyRequestsResponse : Option Answer → Bool
  | none => false
  | some answer => answer.response.isTooManyRequestsResponse

end BeaconSendingResponseUtil

end OpenKit
