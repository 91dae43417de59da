import Outreach.Api.Message
import Outreach.Settings.Basic

/-!
# Callers from Other Origins

Which pages of other origins may use the interface. A page that does names its
origin in every request, and the response says whether it may. Before a
request that is out of the ordinary it asks with a request of its own. A page
may not reach into a private network.

An origin that may send credentials is named in the response; otherwise a star
stands for every origin.

## Main definitions

* `isAllowed`: The origins that may use the interface.
* `grant`: A response with what its caller may do.
* `inquiry?`: The response to a request that only asks.
-/

namespace Outreach

namespace Api

/-- Whether every origin may use the interface. -/
def allowsAll (s : SecuritySettings) : Bool :=
  s.corsOrigins.contains "*"

/-- Whether an origin may use the interface. -/
def isAllowed (s : SecuritySettings) (origin : String) : Bool :=
  allowsAll s || s.corsOrigins.contains origin

/-- Whether origins are named in responses. -/
def namesOrigins (s : SecuritySettings) : Bool :=
  !allowsAll s || s.corsAllowCredentials

/-- What a response says about credentials. -/
def credentialHeaders (s : SecuritySettings) : List (String × String) :=
  if s.corsAllowCredentials then [("access-control-allow-credentials", "true")] else []

/-- What a response says about an origin. -/
def originHeaders (s : SecuritySettings) (origin : String) : List (String × String) :=
  if !namesOrigins s then [("access-control-allow-origin", "*")]
  else if isAllowed s origin then [("access-control-allow-origin", origin)]
  else []

/-- A response with what its caller may do. -/
def grant (s : SecuritySettings) (r : Request) (response : Response) : Response :=
  let varying := response.withHeader "vary" "Origin"
  match r.header? "origin" with
  | some origin => varying.withHeaders (credentialHeaders s ++ originHeaders s origin)
  | none => varying

/-- The methods that a page may use. -/
def allowedMethods : List String :=
  ["DELETE", "GET", "HEAD", "OPTIONS", "PATCH", "POST", "PUT", "QUERY"]

/-- The header by which a page asks to use a method. -/
def methodHeader : String := "access-control-request-method"

/-- The header by which a page asks to send some headers. -/
def headersHeader : String := "access-control-request-headers"

/-- The header by which a page asks to reach into a private network. -/
def networkHeader : String := "access-control-request-private-network"

/-- The headers that a response to a request that only asks depends on. -/
def varyingHeaders : String :=
  "Origin, Access-Control-Request-Method, Access-Control-Request-Headers, " ++
    "Access-Control-Request-Private-Network"

/-- What is not allowed to a page of an origin that wants to use a method. -/
def forbidden (s : SecuritySettings) (r : Request) (origin method : String) : List String :=
  (if isAllowed s origin then [] else ["origin"]) ++
    (if allowedMethods.contains method then [] else ["method"]) ++
    (if (r.header? networkHeader).isSome then ["private-network"] else [])

/-- What the response to a request that only asks says in any case. -/
def inquiryHeaders (s : SecuritySettings) (origin : String) : List (String × String) :=
  [("vary", varyingHeaders), ("access-control-allow-methods", ", ".intercalate allowedMethods),
    ("access-control-max-age", "600")] ++ credentialHeaders s ++ originHeaders s origin

/-- The response to a page of an origin that wants to use a method. -/
def inquiryResponse (s : SecuritySettings) (r : Request) (origin method : String) : Response :=
  let response :=
    match forbidden s r origin method with
    | [] => Response.plain 200 "OK"
    | flaws => Response.plain 400 ("Disallowed CORS " ++ ", ".intercalate flaws)
  let answered := response.withHeaders (inquiryHeaders s origin)
  match r.header? headersHeader with
  | some names => answered.withHeader "access-control-allow-headers" names
  | none => answered

/-- The response to a request that only asks, if it is one. -/
def inquiry? (s : SecuritySettings) (r : Request) : Option Response :=
  match r.header? "origin", r.header? methodHeader with
  | some origin, some method =>
    if r.method == "OPTIONS" then some (inquiryResponse s r origin method) else none
  | _, _ => none

end Api

end Outreach
