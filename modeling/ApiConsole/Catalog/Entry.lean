import ApiConsole.Catalog.Flaw
import ApiConsole.Endpoint
import ApiConsole.Json.Reader

/-!
# Catalog entries

A catalog text is an array of entries. An entry is an object, or an array of its members in their
fixed order; a method is a string, or an object with that string as its only name; an element of
`url_parts` with a `value` is a literal, and one with a `name` is a placeholder. The first flaw in
the order of the text is reported, before any document fault that lies behind it.
-/

namespace ApiConsole.Catalog

open Json (Node Items Entries Mark Value)

/-- An entry as it is written, before it is checked that its members go together. -/
structure Entry where
  id : String
  method : Method
  title : String
  url : Option String
  urlParts : Option (List UrlPart)
  hasBody : Option Bool
  body : Option Value

/-- A reading of a catalog text, or its first flaw. -/
abbrev Reading := Except Flaw

def mistyped (wanted : Wanted) : Node → Flaw
  | .null span => ⟨.mistyped .null wanted, span.stop⟩
  | .bool b span => ⟨.mistyped (.bool b) wanted, span.stop⟩
  | .number n span => ⟨.mistyped (.number n) wanted, span.stop⟩
  | .string text span => ⟨.mistyped (.string text) wanted, span.stop⟩
  | .array start _ => ⟨.mistyped .array wanted, start⟩
  | .object start _ => ⟨.mistyped .object wanted, start⟩
  | .misspelt _ fault => .ofFault fault
  | .fault fault => .ofFault fault

def readString : Node → Reading String
  | .string text _ => .ok text
  | node => .error (mistyped .string node)

def readBool : Node → Reading Bool
  | .bool b _ => .ok b
  | node => .error (mistyped .boolean node)

def readOptional {α : Type} (read : Node → Reading α) : Node → Reading (Option α)
  | .null _ => .ok none
  | node => some <$> read node

def readValue (node : Node) : Reading Value :=
  node.value.mapError .ofFault

def oneFurther (mark : Mark) : Mark :=
  { mark with column := mark.column + 1 }

/-- Nothing but null may stand behind the name of a method. -/
def readNull : Node → Reading Unit
  | .null _ => .ok ()
  | node => .error (mistyped .null node)

def readMethodEnd (next : Mark) : Entries → Reading Unit
  | .close _ => .ok ()
  | .broken ⟨.objectEnds, mark⟩ => .error ⟨.syntactic .objectEnds, mark⟩
  | _ => .error ⟨.syntactic .valueExpected, next⟩

def readMethodEntries : Entries → Reading Method
  | .close stop => .error ⟨.syntactic .valueExpected, stop⟩
  | .broken ⟨.objectEnds, mark⟩ => .error ⟨.syntactic .valueEnds, mark⟩
  | .broken fault => .error (.ofFault fault)
  | .unnamed node _ => .error (mistyped .methodName node)
  | .entry name value next rest =>
      match Method.ofName? name.text with
      | none => .error ⟨.unknownMethod name.text, name.stop⟩
      | some method => do
          readNull value
          readMethodEnd next rest
          return method

def readMethod : Node → Reading Method
  | .string name span =>
      match Method.ofName? name with
      | some method => .ok method
      | none => .error ⟨.unknownMethod name, span.stop⟩
  | .object _ entries => readMethodEntries entries
  | .null span => .error ⟨.syntactic .valueExpected, oneFurther span.start⟩
  | .bool _ span => .error ⟨.syntactic .valueExpected, oneFurther span.start⟩
  | .number _ span => .error ⟨.syntactic .valueExpected, oneFurther span.start⟩
  | .array start _ => .error ⟨.syntactic .valueExpected, oneFurther start⟩
  | .misspelt start _ => .error ⟨.syntactic .valueExpected, oneFurther start⟩
  | .fault fault => .error (.ofFault fault)

def valuesUnder (name : String) (pairs : List (String × Value)) : List Value :=
  (pairs.filter fun pair => pair.1 == name).map Prod.snd

/-- A width that is absent, null or a whole number of 64 bits. -/
def widthOf? : List Value → Option (Option Nat)
  | [] => some none
  | [.null] => some none
  | [.number (.integer n _)] => if 0 ≤ n then some (some n.toNat) else none
  | _ => none

/-- The URL part of an object: a literal if it has one `value`, else a placeholder. -/
def urlPartOf? (pairs : List (String × Value)) : Option UrlPart :=
  match valuesUnder "value" pairs with
  | [.string text] => some (.literal text)
  | _ =>
      match valuesUnder "name" pairs with
      | [.string name] => (widthOf? (valuesUnder "length" pairs)).map (.placeholder name)
      | _ => none

/-- The URL part of an element of `url_parts`; a flaw shows where the array goes on. -/
def readUrlPart (next : Mark) : Node → Reading UrlPart
  | .object _ entries => do
      let pairs ← entries.pairs.mapError .ofFault
      match urlPartOf? pairs with
      | some part => return part
      | none => throw ⟨.noUrlPart, next⟩
  | node => do
      let _ ← readValue node
      throw ⟨.noUrlPart, next⟩

def readUrlPartItems : Items → Reading (List UrlPart)
  | .close _ => .ok []
  | .broken fault => .error (.ofFault fault)
  | .item item next rest => do
      let part ← readUrlPart next item
      return part :: (← readUrlPartItems rest)

def readUrlParts : Node → Reading (List UrlPart)
  | .array _ items => readUrlPartItems items
  | node => .error (mistyped .array node)

/-- The members of an entry that have been read. -/
structure Draft where
  id : Option String
  method : Option Method
  title : Option String
  url : Option (Option String)
  urlParts : Option (Option (List UrlPart))
  hasBody : Option (Option Bool)
  body : Option (Option Value)

namespace Draft

def blank : Draft := ⟨none, none, none, none, none, none, none⟩

def has (draft : Draft) : Field → Bool
  | .id => draft.id.isSome
  | .method => draft.method.isSome
  | .title => draft.title.isSome
  | .url => draft.url.isSome
  | .urlParts => draft.urlParts.isSome
  | .hasBody => draft.hasBody.isSome
  | .body => draft.body.isSome

def read (draft : Draft) (field : Field) (node : Node) : Reading Draft :=
  match field with
  | .id => return { draft with id := some (← readString node) }
  | .method => return { draft with method := some (← readMethod node) }
  | .title => return { draft with title := some (← readString node) }
  | .url => return { draft with url := some (← readOptional readString node) }
  | .urlParts => return { draft with urlParts := some (← readOptional readUrlParts node) }
  | .hasBody => return { draft with hasBody := some (← readOptional readBool node) }
  | .body => return { draft with body := some (← readOptional readValue node) }

def finish (draft : Draft) : Except Field Entry :=
  match draft.id, draft.method with
  | none, _ => .error .id
  | _, none => .error .method
  | some id, some method =>
      .ok ⟨id, method, draft.title.getD "", draft.url.join, draft.urlParts.join,
        draft.hasBody.join, draft.body.join⟩

end Draft

def readEntryMembers (draft : Draft) : Entries → Reading Entry
  | .close stop => draft.finish.mapError fun field => ⟨.missingField field, stop⟩
  | .broken fault => .error (.ofFault fault)
  | .unnamed _ fault => .error (.ofFault fault)
  | .entry name value _ rest =>
      match Field.ofName? name.text with
      | none => .error ⟨.unknownField name.text, name.resume⟩
      | some field =>
          if draft.has field then .error ⟨.repeatedField field, name.resume⟩
          else do
            let draft ← draft.read field value
            readEntryMembers draft rest

/-- The fault behind the last member of an entry written as an array. -/
def faultBehind : Json.Fault → Flaw
  | ⟨.listCommaOrEndExpected, mark⟩ => ⟨.syntactic .trailingCharacters, mark⟩
  | ⟨.valueEnds, mark⟩ => ⟨.syntactic .trailingCharacters, mark⟩
  | fault => .ofFault fault

/-- An entry written as an array: `fields` are still to be read, `next` is the mark reached. -/
def readEntryItems (draft : Draft) (next : Mark) (fields : List Field) : Items → Reading Entry
  | .close stop =>
      draft.finish.mapError fun _ => ⟨.shortEntry (Field.all.length - fields.length), stop⟩
  | .broken fault => .error (if fields.isEmpty then faultBehind fault else .ofFault fault)
  | .item item behind rest =>
      match fields with
      | [] => .error ⟨.syntactic .trailingCharacters, oneFurther next⟩
      | field :: fields => do
          let draft ← draft.read field item
          readEntryItems draft behind fields rest

def readEntry : Node → Reading Entry
  | .object _ entries => readEntryMembers .blank entries
  | .array start items => readEntryItems .blank start Field.all items
  | node => .error (mistyped .entry node)

def readEntries : Items → Reading (List Entry)
  | .close _ => .ok []
  | .broken fault => .error (.ofFault fault)
  | .item item _ rest => do
      let entry ← readEntry item
      return entry :: (← readEntries rest)

def readText (text : String) : Reading (List Entry) := do
  let document := Json.Document.ofText text.toList
  let entries ←
    match document.root with
    | .array _ items => readEntries items
    | node => throw (mistyped .array node)
  document.finish.mapError .ofFault
  return entries

end ApiConsole.Catalog
