import ApiConsole.Catalog.Entry
import ApiConsole.Error
import ApiConsole.Session

/-!
# Catalogs

A catalog is the list of endpoints that a console can fire, each with an id of its own.

The built-in one lists the endpoints of a message gateway: its connections, and the messages that
are sent over them.
-/

namespace ApiConsole

/-! ### Catalogs -/

/-- Endpoints in order, no two with the same id. -/
structure Catalog where
  endpoints : List Endpoint
  distinct : (endpoints.map Endpoint.id).Nodup

namespace Catalog

def repeatedId? (seen : List String) : List String → Option String
  | [] => none
  | id :: rest => if id ∈ seen then some id else repeatedId? (id :: seen) rest

theorem nodup_of_repeatedId?_eq_none {seen ids : List String} (h : repeatedId? seen ids = none) :
    ids.Nodup ∧ ∀ id ∈ ids, id ∉ seen := by
  induction ids generalizing seen with
  | nil => simp
  | cons id rest ih =>
      unfold repeatedId? at h
      split at h
      · cases h
      · next fresh =>
        obtain ⟨nodup, apart⟩ := ih h
        refine ⟨List.nodup_cons.2 ⟨fun member => apart id member List.mem_cons_self, nodup⟩, ?_⟩
        intro other member
        rcases List.mem_cons.1 member with member | member
        · exact member ▸ fresh
        · exact fun known => apart other member (List.mem_cons_of_mem _ known)

/-- The catalog of a list of endpoints, unless an id is repeated. -/
def ofList (endpoints : List Endpoint) : Except Error Catalog :=
  match h : repeatedId? [] (endpoints.map Endpoint.id) with
  | some id => .error (.duplicateEndpoint id)
  | none => .ok ⟨endpoints, (nodup_of_repeatedId?_eq_none h).1⟩

/-- The parts of the URL of an entry, which is given in one of two forms. -/
def Entry.parts (entry : Entry) : Except Error (List UrlPart) :=
  match entry.url, entry.urlParts with
  | some template, none => (Template.parse template).mapError (.invalidTemplate template)
  | none, some parts => .ok parts
  | some _, some _ => .error (.invalidEndpoint entry.id .bothUrls)
  | none, none => .error (.invalidEndpoint entry.id .noUrl)

def Entry.payload (entry : Entry) : Except Error Payload :=
  match entry.body, entry.hasBody with
  | some _, some false => .error (.invalidEndpoint entry.id .unwantedBody)
  | some body, _ => .ok (.fixed body)
  | none, some true => .ok .unspecified
  | none, _ => .ok .absent

def Entry.endpoint (entry : Entry) : Except Error Endpoint := do
  let url ← entry.parts
  let payload ← entry.payload
  return ⟨entry.id, entry.method, entry.title, url, payload⟩

/-- The catalog of a text: first its entries are read, then each is checked, then their ids. -/
def ofText (text : String) : Except Error Catalog := do
  let entries ← (readText text).mapError .malformedCatalog
  let endpoints ← entries.mapM Entry.endpoint
  ofList endpoints

def get (catalog : Catalog) (id : String) : Except Error Endpoint :=
  match catalog.endpoints.find? fun endpoint => endpoint.id == id with
  | some endpoint => .ok endpoint
  | none => .error (.unknownEndpoint id)

/-! ### The built-in catalog -/

open Json (Value)

def newConnection : Value :=
  .object [
    ("senders", .object [
      ("type", .string "echo"),
      ("count", .ofInt 5 (by decide)),
      ("config", .object [("pause", .string "1")])]),
    ("receivers", .object [
      ("receiver_type", .string "http"),
      ("count", .ofInt 5 (by decide)),
      ("config", .object [("url", .string "http://myhost.com/receive")])])]

def newMessage : Value :=
  .object [("address", .string "+250788123123"), ("text", .string "Hello World")]

def connectionUrl : List UrlPart :=
  [.literal "/connection/", .placeholder Session.connectionName (some 36)]

def gatewayEndpoints : List Endpoint :=
  [⟨"list-conns", .get, "List active connections", [.literal "/connection"], .absent⟩,
   ⟨"read-conn", .get, "Get status for specific connection", connectionUrl, .absent⟩,
   ⟨"add-conn", .post, "Create new connection", [.literal "/connection"], .fixed newConnection⟩,
   ⟨"delete-conn", .delete, "Deletes a connection", connectionUrl, .absent⟩,
   ⟨"add-msg", .post, "Sends a message", connectionUrl ++ [.literal "/send"], .fixed newMessage⟩,
   ⟨"read-msg", .get, "Gets the status of a message",
    connectionUrl ++ [.literal "/status/", .placeholder Session.messageName (some 18)], .absent⟩]

def builtin : Catalog :=
  ⟨gatewayEndpoints, by decide⟩

end Catalog

end ApiConsole
