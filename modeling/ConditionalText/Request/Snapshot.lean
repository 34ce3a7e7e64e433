import ConditionalText.Text.Basic

/-!
What a host tells about the request that it serves, and the attributes of one request, built up in
steps. The last step on an attribute decides its value, and a parameter is an attribute of its own.
-/

namespace ConditionalText

/-- The attributes by which a request is classified. Hosts differ in how they keep them. -/
class RequestEnvironment (Host : Type) where
  serviceMode : Host → Bool
  path : Host → Text
  param? : Host → Text → Option Text
  userAgent : Host → Text

/-- No two entries of `params` have the same name. -/
structure Request where
  serviceMode : Bool := false
  path : Text := []
  params : List (Text × Text) := []
  userAgent : Text := []
  deriving Repr, DecidableEq

namespace Request

def withParam (request : Request) (name value : Text) : Request :=
  { request with
    params := (name, value) :: request.params.filter (fun entry => entry.1 != name) }

def param? (request : Request) (name : Text) : Option Text :=
  request.params.lookup name

instance : RequestEnvironment Request where
  serviceMode := serviceMode
  path := path
  param? := param?
  userAgent := userAgent

inductive Step where
  | serviceMode (enabled : Bool)
  | path (path : Text)
  | param (name value : Text)
  | userAgent (userAgent : Text)
  | reset
  deriving Repr, DecidableEq

def apply (request : Request) : Step → Request
  | .serviceMode enabled => { request with serviceMode := enabled }
  | .path path => { request with path := path }
  | .param name value => request.withParam name value
  | .userAgent userAgent => { request with userAgent := userAgent }
  | .reset => {}

def ofSteps (steps : List Step) : Request :=
  steps.foldl apply {}

end Request

end ConditionalText
