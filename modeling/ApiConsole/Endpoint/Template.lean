/-!
# URL templates

A template is text with placeholders, each a name between braces. It is cut at every closed pair of
braces with no brace inside; what stands between the pairs must then be free of braces, and what
stands inside them must be a name.
-/

namespace ApiConsole

inductive UrlPart where
  /-- Text that is copied as it is. -/
  | literal (text : String)
  /-- A session value; `width` only says how wide the value is expected to be. -/
  | placeholder (name : String) (width : Option Nat)
  deriving DecidableEq, Repr

namespace Template

inductive Fault where
  | invalidName (name : String)
  | unbalancedBrace (gap : String)
  deriving DecidableEq, Repr

def Fault.message : Fault → String
  | .invalidName name => "'" ++ name ++ "' is not a valid placeholder name"
  | .unbalancedBrace gap => "unbalanced brace in '" ++ gap ++ "'"

def isBrace (c : Char) : Bool :=
  c == '\x7b' || c == '\x7d'

def startsName (c : Char) : Bool :=
  c.isAlpha || c == '_'

/-- A name starts with a letter or an underscore and goes on with these or digits; all are ASCII. -/
def isName : List Char → Bool
  | [] => false
  | c :: rest => startsName c && rest.all fun d => startsName d || d.isDigit

/-- The text up to the next brace, if that closes, and the text behind it. -/
def closing? (cs : List Char) : Option (List Char × List Char) :=
  match cs.dropWhile (!isBrace ·) with
  | '\x7d' :: rest => some (cs.takeWhile (!isBrace ·), rest)
  | _ => none

/-- The first pair of braces: the gap before it, the text inside it and the text behind it. -/
def nextGroup? : List Char → Option (List Char × List Char × List Char)
  | [] => none
  | c :: rest =>
      match if c = '\x7b' then closing? rest else none with
      | some (inside, behind) => some ([], inside, behind)
      | none => (nextGroup? rest).map fun (gap, group) => (c :: gap, group)

theorem closing?_eq_some {cs inside behind : List Char} (h : closing? cs = some (inside, behind)) :
    cs = inside ++ '\x7d' :: behind := by
  unfold closing? at h
  split at h
  · next rest found =>
    cases h
    rw [← found, List.takeWhile_append_dropWhile]
  · cases h

/-- Gap, group and rest make up the text. -/
theorem nextGroup?_eq_some {cs gap inside behind : List Char}
    (h : nextGroup? cs = some (gap, inside, behind)) :
    cs = gap ++ '\x7b' :: (inside ++ '\x7d' :: behind) := by
  induction cs generalizing gap with
  | nil => cases h
  | cons c rest ih =>
      unfold nextGroup? at h
      split at h
      · next found =>
        cases h
        split at found
        · next opens => rw [opens, closing?_eq_some found]; rfl
        · cases found
      · obtain ⟨⟨before, group⟩, found, same⟩ := Option.map_eq_some_iff.1 h
        cases same
        rw [ih found]
        rfl

/-- The groups of a text, each with the gap before it, and the gap behind the last one. -/
def cut (cs : List Char) : List (List Char × List Char) × List Char :=
  match _found : nextGroup? cs with
  | none => ([], cs)
  | some (gap, inside, behind) =>
      let (groups, tail) := cut behind
      ((gap, inside) :: groups, tail)
termination_by cs.length
decreasing_by
  rw [nextGroup?_eq_some _found]
  simp only [List.length_append, List.length_cons]
  omega

def gapPart (gap : List Char) : Except Fault (List UrlPart) :=
  if gap.any isBrace then .error (.unbalancedBrace (String.ofList gap))
  else if gap.isEmpty then .ok []
  else .ok [.literal (String.ofList gap)]

/-- The parts of groups and a tail; of two faults the one further left counts, and in a group the
name counts before the gap. -/
def partsOf : List (List Char × List Char) → List Char → Except Fault (List UrlPart)
  | [], tail => gapPart tail
  | (gap, name) :: groups, tail => do
      if ¬ isName name then throw (.invalidName (String.ofList name))
      let literal ← gapPart gap
      let rest ← partsOf groups tail
      return literal ++ .placeholder (String.ofList name) none :: rest

def parse (template : String) : Except Fault (List UrlPart) :=
  let (groups, tail) := cut template.toList
  partsOf groups tail

end Template

end ApiConsole
