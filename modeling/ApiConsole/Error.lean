import ApiConsole.Catalog.Flaw
import ApiConsole.Endpoint.Template
import ApiConsole.Url.Host

/-!
# Errors

What the console itself refuses. A request that fails on the wire is no error: it has an outcome
like any other.
-/

namespace ApiConsole

/-- Why the members of a catalog entry do not go together. -/
inductive Clash where
  /-- Both forms of the URL are given. -/
  | bothUrls
  /-- Neither form of the URL is given. -/
  | noUrl
  /-- A body is given where there is said to be none. -/
  | unwantedBody
  deriving DecidableEq, Repr

def Clash.message : Clash → String
  | .bothUrls => "give either `url` or `url_parts`, not both"
  | .noUrl => "missing `url` or `url_parts`"
  | .unwantedBody => "`body` given but `has_body` is false"

inductive BaseUrlFault where
  | malformed (fault : Url.Fault)
  | unsupportedScheme (scheme : String)
  deriving DecidableEq, Repr

def BaseUrlFault.message : BaseUrlFault → String
  | .malformed fault => fault.message
  | .unsupportedScheme scheme => "unsupported scheme " ++ scheme

inductive Error where
  | unknownEndpoint (id : String)
  | duplicateEndpoint (id : String)
  | invalidEndpoint (id : String) (clash : Clash)
  | invalidTemplate (template : String) (fault : Template.Fault)
  /-- The file of a catalog could not be read; the system says why. -/
  | unreadableCatalog (path reason : String)
  | malformedCatalog (flaw : Catalog.Flaw)
  | invalidBaseUrl (url : String) (fault : BaseUrlFault)

namespace Error

def message : Error → String
  | .unknownEndpoint id => "unknown endpoint: " ++ id
  | .duplicateEndpoint id => "duplicate endpoint id in catalog: " ++ id
  | .invalidEndpoint id clash => "endpoint " ++ id ++ ": " ++ clash.message
  | .invalidTemplate template fault =>
      "invalid url template '" ++ template ++ "': " ++ fault.message
  | .unreadableCatalog path reason => "couldn't read catalog " ++ path ++ ": " ++ reason
  | .malformedCatalog flaw => "invalid catalog json: " ++ flaw.message
  | .invalidBaseUrl url fault => "invalid base url '" ++ url ++ "': " ++ fault.message

def chain (error : Error) : List String :=
  error.message ::
    match error with
    | .unreadableCatalog _ reason => [reason]
    | .malformedCatalog flaw => [flaw.message]
    | _ => []

end Error

end ApiConsole
