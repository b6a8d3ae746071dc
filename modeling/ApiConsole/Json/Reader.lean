import ApiConsole.Json.Node
import ApiConsole.Json.Reader.Number
import ApiConsole.Json.Reader.Text

/-!
# Reading documents

A text is read into a node and the cursor behind it, or the fault that ended the reading. Arrays and
objects may stand inside each other up to a greatest depth.
-/

namespace ApiConsole.Json

def depthLimit : Nat := 127

def readIdentifier (mark : Mark) : List Char → List Char → Except Fault Cursor
  | [], rest => .ok ⟨mark, rest⟩
  | _ :: _, [] => .error ⟨.valueEnds, mark⟩
  | letter :: letters, c :: rest =>
      if c = letter then readIdentifier (mark.past c) letters rest
      else .error ⟨.identifierExpected, mark.into c⟩

def readLiteral (letters : List Char) (node : Span → Node) (cursor : Cursor) :
    Node × Except Fault Cursor :=
  let first := cursor.next
  match readIdentifier first.mark letters first.rest with
  | .ok after => (node ⟨cursor.mark, after.mark⟩, .ok after)
  | .error fault => (.misspelt cursor.mark fault, .error fault)

def readNumberNode (cursor : Cursor) : Node × Except Fault Cursor :=
  match readNumber cursor with
  | .ok (value, after) => (.number value ⟨cursor.mark, after.mark⟩, .ok after)
  | .error fault => (.misspelt cursor.mark fault, .error fault)

def readStringNode (cursor : Cursor) : Node × Except Fault Cursor :=
  match readString cursor.next with
  | .ok (value, after) => (.string value ⟨cursor.mark, after.mark⟩, .ok after)
  | .error fault => (.fault fault, .error fault)

def markBehindItem (cursor : Cursor) : Mark :=
  let cursor := cursor.skipSpace
  match cursor.rest with
  | ',' :: _ => cursor.next.skipSpace.mark
  | ']' :: _ => cursor.next.mark
  | _ => cursor.mark

/-- The mark that is reached in looking for the end of an object behind a name. -/
def markBehindName (cursor : Cursor) : Mark :=
  let cursor := cursor.skipSpace
  match cursor.rest with
  | '\x7d' :: _ => cursor.next.mark
  | _ => cursor.mark

mutual

/-- Reads a value; `depth` more containers may be opened. -/
def readNode (fuel depth : Nat) (cursor : Cursor) : Node × Except Fault Cursor :=
  match fuel with
  | 0 => (.fault ⟨.valueEnds, cursor.mark⟩, .error ⟨.valueEnds, cursor.mark⟩)
  | fuel + 1 =>
      let cursor := cursor.skipSpace
      match cursor.rest with
      | [] => (.fault ⟨.valueEnds, cursor.mark⟩, .error ⟨.valueEnds, cursor.mark⟩)
      | 'n' :: _ => readLiteral ['u', 'l', 'l'] .null cursor
      | 't' :: _ => readLiteral ['r', 'u', 'e'] (.bool true) cursor
      | 'f' :: _ => readLiteral ['a', 'l', 's', 'e'] (.bool false) cursor
      | '"' :: _ => readStringNode cursor
      | '[' :: _ =>
          match depth with
          | 0 =>
              let fault : Fault := ⟨.tooDeep, cursor.ahead⟩
              (.array cursor.mark (.broken fault), .error fault)
          | depth + 1 =>
              let (items, after) := readItems fuel depth true cursor.next
              (.array cursor.mark items, after)
      | '\x7b' :: _ =>
          match depth with
          | 0 =>
              let fault : Fault := ⟨.tooDeep, cursor.ahead⟩
              (.object cursor.mark (.broken fault), .error fault)
          | depth + 1 =>
              let (entries, after) := readEntries fuel depth true cursor.next
              (.object cursor.mark entries, after)
      | c :: _ =>
          if c = '-' ∨ c.isDigit then readNumberNode cursor
          else
            let fault : Fault := ⟨.valueExpected, cursor.ahead⟩
            (.fault fault, .error fault)

/-- Reads what stands in an array from here on; `first` holds behind the opening bracket. -/
def readItems (fuel depth : Nat) (first : Bool) (cursor : Cursor) : Items × Except Fault Cursor :=
  match fuel with
  | 0 => (.broken ⟨.listEnds, cursor.mark⟩, .error ⟨.listEnds, cursor.mark⟩)
  | fuel + 1 =>
      let cursor := cursor.skipSpace
      let broken (cause : Cause) (mark : Mark) : Items × Except Fault Cursor :=
        (.broken ⟨cause, mark⟩, .error ⟨cause, mark⟩)
      match cursor.rest, first with
      | [], _ => broken .listEnds cursor.mark
      | ']' :: _, _ => (.close cursor.next.mark, .ok cursor.next)
      | ',' :: _, false =>
          let cursor := cursor.next.skipSpace
          match cursor.rest with
          | [] => broken .valueEnds cursor.mark
          | ']' :: _ => broken .trailingComma cursor.ahead
          | _ :: _ => readItem fuel depth cursor
      | _ :: _, true => readItem fuel depth cursor
      | _ :: _, false => broken .listCommaOrEndExpected cursor.ahead

def readItem (fuel depth : Nat) (cursor : Cursor) : Items × Except Fault Cursor :=
  match fuel with
  | 0 => (.broken ⟨.listEnds, cursor.mark⟩, .error ⟨.listEnds, cursor.mark⟩)
  | fuel + 1 =>
      match readNode fuel depth cursor with
      | (item, .error fault) => (.item item fault.mark (.broken fault), .error fault)
      | (item, .ok after) =>
          let (rest, finish) := readItems fuel depth false after
          (.item item (markBehindItem after) rest, finish)

/-- Reads what stands in an object from here on; `first` holds behind the opening brace. -/
def readEntries (fuel depth : Nat) (first : Bool) (cursor : Cursor) :
    Entries × Except Fault Cursor :=
  match fuel with
  | 0 => (.broken ⟨.objectEnds, cursor.mark⟩, .error ⟨.objectEnds, cursor.mark⟩)
  | fuel + 1 =>
      let cursor := cursor.skipSpace
      let broken (cause : Cause) (mark : Mark) : Entries × Except Fault Cursor :=
        (.broken ⟨cause, mark⟩, .error ⟨cause, mark⟩)
      match cursor.rest, first with
      | [], _ => broken .objectEnds cursor.mark
      | '\x7d' :: _, _ => (.close cursor.next.mark, .ok cursor.next)
      | ',' :: _, false =>
          let cursor := cursor.next.skipSpace
          match cursor.rest with
          | [] => broken .valueEnds cursor.mark
          | '\x7d' :: _ => broken .trailingComma cursor.ahead
          | _ :: _ => readEntry fuel depth cursor
      | _ :: _, true => readEntry fuel depth cursor
      | _ :: _, false => broken .objectCommaOrEndExpected cursor.ahead

def readEntry (fuel depth : Nat) (cursor : Cursor) : Entries × Except Fault Cursor :=
  match fuel with
  | 0 => (.broken ⟨.objectEnds, cursor.mark⟩, .error ⟨.objectEnds, cursor.mark⟩)
  | fuel + 1 =>
      match cursor.rest with
      | '"' :: _ =>
          match readString cursor.next with
          | .error fault => (.broken fault, .error fault)
          | .ok (text, behind) =>
              let name : Name := ⟨text, behind.mark, markBehindName behind⟩
              let colon := behind.skipSpace
              match colon.rest with
              | ':' :: _ =>
                  match readNode fuel depth colon.next with
                  | (value, .error fault) =>
                      (.entry name value fault.mark (.broken fault), .error fault)
                  | (value, .ok after) =>
                      let (rest, finish) := readEntries fuel depth false after
                      (.entry name value after.skipSpace.mark rest, finish)
              | [] =>
                  let fault : Fault := ⟨.objectEnds, colon.mark⟩
                  (.entry name (.fault fault) fault.mark (.broken fault), .error fault)
              | _ :: _ =>
                  let fault : Fault := ⟨.colonExpected, colon.ahead⟩
                  (.entry name (.fault fault) fault.mark (.broken fault), .error fault)
      | _ =>
          let fault : Fault := ⟨.nameExpected, cursor.ahead⟩
          (.unnamed (readNode fuel depth cursor).1 fault, .error fault)

end

/-- A text read as a document: its tree, and the fault behind it if there is one. -/
structure Document where
  root : Node
  finish : Except Fault Unit

/-- Reads a text, in which nothing but white space may stand behind the value. -/
def Document.ofText (text : List Char) : Document :=
  let (root, after) := readNode (3 * text.length + 3) depthLimit (.ofText text)
  let finish := do
    let cursor := (← after).skipSpace
    match cursor.rest with
    | [] => .ok ()
    | _ :: _ => .error ⟨.trailingCharacters, cursor.ahead⟩
  ⟨root, finish⟩

def parse (text : List Char) : Except Fault Value := do
  let document := Document.ofText text
  let value ← document.root.value
  document.finish
  return value

end ApiConsole.Json
