import ApiConsole.Json.Fault
import ApiConsole.Json.Value

/-!
# Nodes

A document is kept as a tree with the marks of its parts. Names may repeat in it. The tree of a text
that is no document ends in the fault that was met, so that what stands before the fault can still
be looked at; every container that the fault lies in ends in it as well.
-/

namespace ApiConsole.Json

/-- The marks before and behind a scalar. -/
structure Span where
  start : Mark
  stop : Mark

/-- A name of a member and where the text goes on behind it. -/
structure Name where
  text : String
  /-- The mark behind the closing quote. -/
  stop : Mark
  /-- The mark of the next character, or the one behind it if it closes the object. -/
  resume : Mark

mutual

/-- A value with its marks. -/
inductive Node where
  | null (span : Span)
  | bool (value : Bool) (span : Span)
  | number (value : Number) (span : Span)
  | string (value : String) (span : Span)
  | array (start : Mark) (items : Items)
  | object (start : Mark) (entries : Entries)
  /-- A number or a literal with a fault in it. -/
  | misspelt (start : Mark) (fault : Fault)
  /-- A fault in a string, or where a value should start. -/
  | fault (fault : Fault)

/-- What stands behind the opening bracket of an array or behind one of its items. -/
inductive Items where
  /-- The closing bracket. -/
  | close (stop : Mark)
  | broken (fault : Fault)
  /-- An item; `next` is the mark of the item behind it, or the mark behind the bracket's end. -/
  | item (item : Node) (next : Mark) (rest : Items)

/-- What stands behind the opening brace of an object or behind one of its members. -/
inductive Entries where
  /-- The closing brace. -/
  | close (stop : Mark)
  | broken (fault : Fault)
  /-- A value, or what is taken for one, where a name has to stand. -/
  | unnamed (value : Node) (fault : Fault)
  /-- A member; `next` is the mark of the next character behind it. -/
  | entry (name : Name) (value : Node) (next : Mark) (rest : Entries)

end

mutual

/-- The value of a node, or the fault it ends in. -/
def Node.value : Node → Except Fault Value
  | .null _ => .ok .null
  | .bool b _ => .ok (.bool b)
  | .number n _ => .ok (.number n)
  | .string text _ => .ok (.string text)
  | .array _ items => return .array (← items.values)
  | .object _ entries => return .object (Members.ofPairs (← entries.pairs))
  | .misspelt _ fault => .error fault
  | .fault fault => .error fault

def Items.values : Items → Except Fault (List Value)
  | .close _ => .ok []
  | .broken fault => .error fault
  | .item item _ rest => do
      let value ← item.value
      return value :: (← rest.values)

def Entries.pairs : Entries → Except Fault (List (String × Value))
  | .close _ => .ok []
  | .broken fault => .error fault
  | .unnamed _ fault => .error fault
  | .entry name value _ rest => do
      let value ← value.value
      return (name.text, value) :: (← rest.pairs)

end

end ApiConsole.Json
