import ApiConsole.Json.Fault
import ApiConsole.Json.Writer
import ApiConsole.Text.Quoted

/-!
# Flaws of catalog texts

A catalog text is a JSON document of a fixed shape. A flaw is a fault of the document or a place
where its shape is another one, with the mark at which that shows.
-/

namespace ApiConsole.Catalog

inductive Field where
  | id
  | method
  | title
  | url
  | urlParts
  | hasBody
  | body
  deriving DecidableEq, Repr

def Field.name : Field → String
  | .id => "id"
  | .method => "method"
  | .title => "title"
  | .url => "url"
  | .urlParts => "url_parts"
  | .hasBody => "has_body"
  | .body => "body"

def Field.all : List Field :=
  [.id, .method, .title, .url, .urlParts, .hasBody, .body]

def Field.ofName? (name : String) : Option Field :=
  all.find? fun field => field.name == name

/-- What was found in the place of something else. -/
inductive Found where
  | null
  | bool (value : Bool)
  | number (value : Json.Number)
  | string (value : String)
  | array
  | object

/-- What has to stand in a place. -/
inductive Wanted where
  | array
  | entry
  | string
  | boolean
  | null
  | methodName
  deriving DecidableEq, Repr

inductive Problem where
  | syntactic (cause : Json.Cause)
  | mistyped (found : Found) (wanted : Wanted)
  | unknownField (name : String)
  | repeatedField (field : Field)
  | missingField (field : Field)
  /-- An entry given as an array of so few items. -/
  | shortEntry (count : Nat)
  | unknownMethod (name : String)
  /-- An element of `url_parts` that is neither a literal nor a placeholder. -/
  | noUrlPart

def Found.describe : Found → String
  | .null => "null"
  | .bool true => "boolean `true`"
  | .bool false => "boolean `false`"
  | .number (.integer n fits) =>
      "integer `" ++ String.ofList (Json.Number.text (.integer n fits)) ++ "`"
  | .number (.double x) => "floating point `" ++ String.ofList (Json.Number.text (.double x)) ++ "`"
  | .string text => "string " ++ String.ofList (Text.quoted text.toList)
  | .array => "sequence"
  | .object => "map"

def Wanted.describe : Wanted → String
  | .array => "a sequence"
  | .entry => "struct RawEndpoint"
  | .string => "a string"
  | .boolean => "a boolean"
  | .null => "unit"
  | .methodName => "variant identifier"

def Problem.message : Problem → String
  | .syntactic cause => cause.message
  | .mistyped found wanted =>
      "invalid type: " ++ found.describe ++ ", expected " ++ wanted.describe
  | .unknownField name =>
      "unknown field `" ++ name ++
        "`, expected one of `id`, `method`, `title`, `url`, `url_parts`, `has_body`, `body`"
  | .repeatedField field => "duplicate field `" ++ field.name ++ "`"
  | .missingField field => "missing field `" ++ field.name ++ "`"
  | .shortEntry count =>
      "invalid length " ++ toString count ++ ", expected struct RawEndpoint with 7 elements"
  | .unknownMethod name =>
      "unknown variant `" ++ name ++ "`, expected one of `GET`, `POST`, `PUT`, `DELETE`, `PATCH`"
  | .noUrlPart => "data did not match any variant of untagged enum UrlPart"

/-- A problem and the mark at which it shows. -/
structure Flaw where
  problem : Problem
  mark : Json.Mark

def Flaw.ofFault (fault : Json.Fault) : Flaw :=
  ⟨.syntactic fault.cause, fault.mark⟩

def Flaw.message (flaw : Flaw) : String :=
  flaw.problem.message ++ " at line " ++ toString flaw.mark.line ++ " column " ++
    toString flaw.mark.column

end ApiConsole.Catalog
