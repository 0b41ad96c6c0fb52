import SwitchOps.InterfacePolicy
import SwitchOps.Lib.Program
import SwitchOps.Lib.Url

/-!
# The Meraki client

`meraki_client.py`: named read operations only, whose paths and query keys are fixed. The first URL
of an operation is made from its template; every following one is a link that the server supplied
with the answer before. A link is followed if it begins with `https://api.meraki.com/api/v1/` and
has no query key that the operation does not have. Its path is not compared with the template.
-/

namespace SwitchOps

open Effects Effects.Program

/-- `BASE_URL`. -/
def baseUrl : Text := "https://api.meraki.com" ++ "/api/v1".toList

/-- `_BASE`. -/
def merakiBase : Url.Parsed where
  scheme := "https"
  netloc := "api.meraki.com"
  path := "/api/v1"
  query := []

/-! ## The operations -/

/-- A part of a path template. -/
inductive PathPart
  | text (text : Text)
  | parameter (name : Text)
  deriving DecidableEq, Repr

structure MerakiOperationSpec where
  path : List PathPart
  pathParameters : List Text
  queryParameters : List Text
  deriving DecidableEq, Repr

/-- `OPERATIONS`. -/
def merakiOperations : Dict Text MerakiOperationSpec := [
  ("organizations", ⟨[.text "/organizations"], [], []⟩),
  ("networks", ⟨
    [.text "/organizations/", .parameter "organization_id", .text "/networks"],
    ["organization_id"], ["perPage", "startingAfter", "endingBefore"]⟩),
  ("organization_devices", ⟨
    [.text "/organizations/", .parameter "organization_id", .text "/devices"],
    ["organization_id"],
    ["perPage", "startingAfter", "endingBefore", "networkIds[]", "productTypes[]"]⟩),
  ("device_availabilities", ⟨
    [.text "/organizations/", .parameter "organization_id", .text "/devices/availabilities"],
    ["organization_id"],
    ["perPage", "startingAfter", "endingBefore", "networkIds[]", "productTypes[]", "serials[]"]⟩),
  ("device_lldp_cdp", ⟨
    [.text "/devices/", .parameter "serial", .text "/lldpCdp"], ["serial"], []⟩),
  ("appliance_uplinks", ⟨
    [.text "/organizations/", .parameter "organization_id",
      .text "/appliance/uplink/statuses"],
    ["organization_id"],
    ["perPage", "startingAfter", "endingBefore", "networkIds[]", "serials[]", "iccids[]"]⟩),
  ("appliance_ports", ⟨
    [.text "/networks/", .parameter "network_id", .text "/appliance/ports"], ["network_id"], []⟩),
  ("switch_port_statuses", ⟨
    [.text "/devices/", .parameter "serial", .text "/switch/ports/statuses"],
    ["serial"], ["t0", "timespan"]⟩),
  ("network_clients", ⟨
    [.text "/networks/", .parameter "network_id", .text "/clients"], ["network_id"],
    ["timespan", "perPage", "startingAfter", "endingBefore", "statuses[]"]⟩)]

/-- A character of `_PATH_VALUE`. -/
def isPathChar (c : Char) : Bool :=
  ('A' ≤ c && c ≤ 'Z') || ('a' ≤ c && c ≤ 'z') || ('0' ≤ c && c ≤ '9') || c == '_' || c == '-'

/-- `_PATH_VALUE.fullmatch(value)`. -/
def isPathValue (value : Text) : Bool :=
  1 ≤ value.length && value.length ≤ 128 && value.all isPathChar

/-- `spec.path.format(**path_parameters)`. -/
def MerakiOperationSpec.render (spec : MerakiOperationSpec) (pathParameters : Dict Text Text) : Text :=
  spec.path.flatMap fun
    | .text text => text
    | .parameter name => (Dict.get? pathParameters name).getD []

/-! ## Requests and their answers -/

/-- The query of a request: the texts to send under each key. -/
abbrev QueryParameters := Dict Text (List Text)

/-- The URL of a link. The client strips the spaces of what the server wrote. -/
structure LinkUrl where
  text : Text
  stripped : text.head? ≠ some ' '

/-- A response: its JSON body, if it has one, and the URL of the link that it names `next`. -/
structure MerakiResponse where
  statusCode : Nat
  body : Option Json
  next : Option LinkUrl

/-- What `client.request` does: it answers, it raises an `httpx.HTTPError`, or anything else. -/
inductive HttpOutcome
  | response (response : MerakiResponse)
  | httpError
  | raised

inductive MerakiEffect
  | request (url : Text) (params : Option QueryParameters)
  | sleep

def MerakiEffect.Answer : MerakiEffect → Type
  | .request _ _ => HttpOutcome
  | .sleep => Unit

abbrev Meraki (α : Type) := Program MerakiEffect MerakiEffect.Answer α

structure MerakiApiError where
  code : Text
  operation : Text
  statusCode : Option Nat := none
  deriving DecidableEq, Repr

/-- What a call raises: a `MerakiApiError`, or what neither it nor the client has caught. -/
inductive MerakiFailure
  | api (error : MerakiApiError)
  | other
  deriving DecidableEq, Repr

inductive MerakiData
  | list (items : List Json)
  | dict (members : Json)

structure MerakiApiResult where
  data : MerakiData
  complete : Bool
  pages : Nat
  failureCode : Option Text := none

/-! ## One page -/

/-- What one attempt leads to; `none` for another attempt, unless it is the last one. -/
def attemptOutcome (operation : Text) (last : Bool) :
    HttpOutcome → Option (Except MerakiFailure MerakiResponse)
  | .httpError => if last then some (.error (.api ⟨"transport", operation, none⟩)) else none
  | .raised => some (.error .other)
  | .response response =>
    let status := response.statusCode
    if 200 ≤ status ∧ status < 300 then some (.ok response)
    else if status = 401 ∨ status = 403 then
      some (.error (.api ⟨"authentication", operation, some status⟩))
    else if status = 404 then some (.error (.api ⟨"not-found", operation, some status⟩))
    else if ¬(status = 429 ∨ 500 ≤ status) ∨ last then
      let code := if status = 429 then "rate-limited" else if 500 ≤ status then "server" else "request"
      some (.error (.api ⟨code, operation, some status⟩))
    else none

/-- `_request_with_retry`, with the number of attempts that are left after this one. -/
def requestWithRetry (operation url : Text) (params : Option QueryParameters) :
    Nat → Meraki (Except MerakiFailure MerakiResponse)
  | 0 => do
    let answer ← perform (MerakiEffect.request url params)
    return (attemptOutcome operation true answer).getD
      (.error (.api ⟨"request", operation, none⟩))
  | left + 1 => do
    let answer ← perform (MerakiEffect.request url params)
    match attemptOutcome operation false answer with
    | some outcome => return outcome
    | none =>
      perform MerakiEffect.sleep
      requestWithRetry operation url params left

section client

variable [Url.HostRules]

/-- `_validate_next_url`: the code of the `MerakiApiError`, or `ValueError` of `urlparse`. -/
def validateNextUrl (operation : Text) (spec : MerakiOperationSpec) (candidate : Text) :
    Except MerakiFailure Text :=
  match Url.parse candidate with
  | none => .error .other
  | some parsed =>
    if parsed.scheme ≠ merakiBase.scheme ∨ parsed.netloc ≠ merakiBase.netloc then
      .error (.api ⟨"pagination-origin-not-allowed", operation, none⟩)
    else if !Text.startsWith parsed.path (merakiBase.path ++ "/".toList) then
      .error (.api ⟨"pagination-path-not-allowed", operation, none⟩)
    else if !((Url.parseQsl parsed.query).map (·.1)).all spec.queryParameters.contains then
      .error (.api ⟨"pagination-query-not-allowed", operation, none⟩)
    else .ok candidate

/-! ## All pages -/

/-- The pages read so far. -/
structure MerakiPages where
  data : List Json := []
  firstDict : Option Json := none
  pages : Nat := 0

def MerakiPages.all (read : MerakiPages) : MerakiData :=
  match read.firstDict with
  | none => .list read.data
  | some members => .dict members

/-- A result that a failure has cut short. -/
def MerakiPages.cutShort (read : MerakiPages) (code : Text) : MerakiApiResult :=
  { data := read.all, complete := false, pages := read.pages, failureCode := some code }

/-- What a failure on a page leads to: on the first one it is raised. -/
def MerakiPages.failed (read : MerakiPages) (error : MerakiApiError) :
    Except MerakiFailure MerakiApiResult :=
  if read.pages = 0 then .error (.api error) else .ok (read.cutShort error.code)

def isDict : Json → Bool
  | .object _ => true
  | _ => false

/-- The loop of `_get_paginated`, for the next `fuel` pages; `none` if there are more. -/
def getPages (operation : Text) (spec : MerakiOperationSpec) (maxRetries : Nat) :
    Nat → Text → Option QueryParameters → MerakiPages →
      Meraki (Option (Except MerakiFailure MerakiApiResult))
  | 0, _, _, _ => return none
  | fuel + 1, url, params, read => do
    match ← requestWithRetry operation url params maxRetries with
    | .error (.api error) => return some (read.failed error)
    | .error .other => return some (.error .other)
    | .ok response =>
      let onward (read : MerakiPages) : Meraki (Option (Except MerakiFailure MerakiApiResult)) :=
        match response.next with
        | none | some ⟨[], _⟩ =>
          return some (.ok { data := read.all, complete := true, pages := read.pages })
        | some candidate =>
          match validateNextUrl operation spec candidate.text with
          | .error (.api error) => return some (.ok (read.cutShort error.code))
          | .error .other => return some (.error .other)
          | .ok nextUrl => getPages operation spec maxRetries fuel nextUrl none read
      match response.body with
      | some (.array items) =>
        onward { read with data := read.data ++ items.filter isDict, pages := read.pages + 1 }
      | some (.object members) =>
        if 0 < read.pages then
          return some (.ok {
            data := .list read.data, complete := false, pages := read.pages + 1
            failureCode := some "invalid-pagination" })
        else onward { read with firstDict := some (.object members), pages := 1 }
      | _ => return some (read.failed ⟨"invalid-response", operation, none⟩)

/-- `MerakiClient.get`, for the first `fuel` pages. -/
def merakiGet (maxRetries fuel : Nat) (operation : Text) (pathParameters : Dict Text Text)
    (query : QueryParameters) : Meraki (Option (Except MerakiFailure MerakiApiResult)) :=
  let refused (code : Text) : Meraki (Option (Except MerakiFailure MerakiApiResult)) :=
    return some (.error (.api ⟨code, operation, none⟩))
  match Dict.get? merakiOperations operation with
  | none => refused "operation-not-allowed"
  | some spec =>
    if ¬((Dict.keys pathParameters).all spec.pathParameters.contains
        ∧ spec.pathParameters.all (Dict.keys pathParameters).contains) then
      refused "invalid-path-parameters"
    else if !(Dict.keys query).all spec.queryParameters.contains then
      refused "query-not-allowed"
    else if !(Dict.values pathParameters).all isPathValue then
      refused "invalid-path-parameters"
    else getPages operation spec maxRetries fuel (spec.render pathParameters) (some query) {}

end client

end SwitchOps
