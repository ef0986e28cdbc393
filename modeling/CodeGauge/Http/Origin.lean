import CodeGauge.Http.Message
import CodeGauge.Settings

/-!
This module contains the rules for requests from other origins.
-/

namespace CodeGauge.Http


/--
Which origins may send requests. A star stands for all.
-/
structure OriginPolicy where
  origins : List String

namespace OriginPolicy

def ofSettings (settings : Settings) : OriginPolicy :=
  ⟨settings.origins⟩

def methods : List String := ["GET", "POST", "OPTIONS"]

def allowsAll (policy : OriginPolicy) : Bool :=
  policy.origins.contains "*"

/--
Whether requests may carry credentials.
-/
def credentials (policy : OriginPolicy) : Bool :=
  !policy.allowsAll

def allows (policy : OriginPolicy) (origin : String) : Bool :=
  policy.allowsAll || policy.origins.contains origin

/--
The header that names the allowed origin.
-/
def originHeader (policy : OriginPolicy) (origin : String) : List (String × String) :=
  if policy.allowsAll then [("access-control-allow-origin", "*")]
  else if policy.allows origin then [("access-control-allow-origin", origin)]
  else []

def credentialsHeader (policy : OriginPolicy) : List (String × String) :=
  if policy.credentials then [("access-control-allow-credentials", "true")] else []

/--
What an origin asks before it sends a request.
-/
structure Preflight where
  origin : String
  method : String
  headers : Option String
  /-- Whether the request is to reach into a private network. -/
  privateNetwork : Bool

/--
The preflight that a request is, if it is one.
-/
def Preflight.ofRequest? (request : Request) : Option Preflight :=
  match request.method, request.header? "origin",
    request.header? "access-control-request-method" with
  | "OPTIONS", some origin, some method =>
    some {
      origin := origin
      method := method
      headers := request.header? "access-control-request-headers"
      privateNetwork := (request.header? "access-control-request-private-network").isSome }
  | _, _, _ => none

/--
What is wrong with a preflight. No request may reach into a private network.
-/
def objections (policy : OriginPolicy) (preflight : Preflight) : List String :=
  (if policy.allows preflight.origin then [] else ["origin"])
    ++ (if methods.contains preflight.method then [] else ["method"])
    ++ (if preflight.privateNetwork then ["private-network"] else [])

/--
The answer to a preflight. All headers are allowed.
-/
def answer (policy : OriginPolicy) (preflight : Preflight) : Response :=
  let objections := policy.objections preflight
  { status := if objections.isEmpty then 200 else 400
    content := .text (if objections.isEmpty then "OK"
      else "Disallowed CORS " ++ ", ".intercalate objections)
    headers := policy.originHeader preflight.origin ++ policy.credentialsHeader
      ++ [("access-control-allow-methods", ", ".intercalate methods),
        ("access-control-max-age", "600")]
      ++ (preflight.headers.map (("access-control-allow-headers", ·))).toList }

/--
A response with the headers for the origin of its request.
-/
def mark (policy : OriginPolicy) (origin : String) (response : Response) : Response :=
  { response with
    headers := response.headers ++ policy.credentialsHeader ++ policy.originHeader origin }

end OriginPolicy
end CodeGauge.Http
