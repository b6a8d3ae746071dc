import ApiConsole.Prompt
import ApiConsole.Proofs.Json.Lines
import Mathlib.Data.List.Basic

/-!
# What a preview shows

At the prompt a request is shown before it is sent.  What is shown ends visibly, so that nothing of
it is trimmed, and it can only be the text of one request: a URL may hold anything, but a body is
what stands behind the last empty line, and without a body the text ends with the headers.
-/

namespace ApiConsole

open Json (Block)

namespace Text

/-- Only the line end that a text is given is trimmed off one that ends visibly. -/
theorem trimEnd_append_newLine (front : List Char) {last : Char} (visible : isBlank last = false) :
    trimEnd (front ++ [last] ++ ['\n']) = front ++ [last] := by
  have blank : isBlank '\n' = true := by decide
  simp [trimEnd, visible, blank]

end Text

/-- Two texts are cut alike at the first place of a character. -/
theorem append_cons_inj {α : Type} {c : α} {front other behind after : List α} (apart : c ∉ front)
    (apartToo : c ∉ other) (same : front ++ c :: behind = other ++ c :: after) :
    front = other ∧ behind = after := by
  have outside {between left right : List α} (absent : c ∉ between)
      (tail : c :: left = between ++ c :: right) : between = [] := by
    cases between with
    | nil => rfl
    | cons d between => exact absurd (List.cons.inj tail).1 (List.ne_of_not_mem_cons absent)
  rcases List.append_eq_append_iff.mp same with ⟨between, rfl, tail⟩ | ⟨between, rfl, tail⟩
  · obtain rfl := outside (fun member => apartToo (List.mem_append_right _ member)) tail
    exact ⟨(List.append_nil _).symm, by simpa using tail⟩
  · obtain rfl := outside (fun member => apart (List.mem_append_right _ member)) tail
    exact ⟨List.append_nil _, by simpa using tail.symm⟩

theorem Method.space_not_mem_name (method : Method) : ' ' ∉ method.name.toList := by
  cases method <;> decide

namespace Request

def line (request : Request) : String :=
  request.method.name ++ " " ++ request.url

/-- The header that every request has, behind the end of the line in front of it. -/
def header : String :=
  "\ncontent-type: application/json"

def bodyPart : Option String → String
  | some body => "\n\n" ++ body
  | none => ""

variable (endpoint : Endpoint) (session : Session)

theorem display_compose :
    (compose endpoint session).display = (compose endpoint session).line ++ header ++
      bodyPart (compose endpoint session).body ++ "\n" := by
  have headers (shown : String × String → String) :
      String.join ((compose endpoint session).headers.map shown) =
        shown ("content-type", "application/json") := String.empty_append
  have entry : "content-type" ++ ": " ++ "application/json" ++ "\n" =
      "content-type: application/json\n" := rfl
  have alone : "\n" ++ "content-type: application/json\n" = header ++ "\n" := rfl
  have before (rest : String) :
      "\n" ++ ("content-type: application/json\n" ++ rest) = header ++ ("\n" ++ rest) := by
    rw [← String.append_assoc, alone, String.append_assoc]
  have empty (rest : String) : "\n" ++ ("\n" ++ rest) = "\n\n" ++ rest :=
    (String.append_assoc ..).symm
  rw [display, headers]
  dsimp only
  rw [entry]
  cases (compose endpoint session).body with
  | none => simp only [line, bodyPart, String.append_assoc, String.append_empty, alone]
  | some body => simp only [line, bodyPart, String.append_assoc, before, empty]

variable {endpoint session}

/-- The body of a composed request is a block. -/
theorem block_body {body : String} (given : (compose endpoint session).body = some body) :
    Block body.toList := by
  have sent : endpoint.payload.text? = some body := given
  cases payload : endpoint.payload with
  | absent =>
      rw [payload] at sent
      cases sent
  | unspecified =>
      rw [payload] at sent
      cases sent
      exact Json.block_pretty .null
  | fixed value =>
      rw [payload] at sent
      cases sent
      exact String.toList_ofList ▸ Json.block_pretty value

theorem line_inj {first second : Request} (same : first.line = second.line) :
    first.method = second.method ∧ first.url = second.url := by
  have cut (request : Request) :
      request.line.toList = request.method.name.toList ++ ' ' :: request.url.toList := by
    simp [line]
  have characters := congrArg String.toList same
  rw [cut, cut] at characters
  obtain ⟨method, url⟩ :=
    append_cons_inj (Method.space_not_mem_name _) (Method.space_not_mem_name _) characters
  exact ⟨Method.name_injective (String.toList_inj.mp method), String.toList_inj.mp url⟩

/-- What stands in front of the body ends with the header. -/
theorem exists_end_header (line : String) : ∃ front, (line ++ header).toList = front ++ ['n'] := by
  have last : header.toList = "\ncontent-type: application/jso".toList ++ ['n'] := rfl
  exact ⟨_, by rw [String.toList_append, last, ← List.append_assoc]⟩

theorem toList_append_bodyPart (top body : String) :
    (top ++ bodyPart (some body)).toList = top.toList ++ '\n' :: '\n' :: body.toList := by
  have empty : "\n\n".toList = ['\n', '\n'] := rfl
  simp only [bodyPart, String.toList_append, empty, List.cons_append, List.nil_append]

/-- What is shown of a request ends visibly. -/
theorem exists_end_bodyPart (line : String) {body? : Option String}
    (block : ∀ body ∈ body?, Block body.toList) :
    ∃ front last, (line ++ header ++ bodyPart body?).toList = front ++ [last] ∧
      Text.isBlank last = false := by
  cases body? with
  | none =>
      obtain ⟨front, same⟩ := exists_end_header line
      refine ⟨front, 'n', ?_, by decide⟩
      rw [bodyPart, String.append_empty, same]
  | some body =>
      obtain ⟨front, last, same, visible, _⟩ := (block body rfl).ends
      refine ⟨(line ++ header).toList ++ '\n' :: '\n' :: front, last, ?_, visible⟩
      rw [toList_append_bodyPart, same]
      simp only [List.cons_append, List.append_assoc]

/-- Where the body starts, if there is one, can be told from what stands before and in it. -/
theorem bodyPart_inj {line another : String} {body? other? : Option String}
    (block : ∀ body ∈ body?, Block body.toList) (blockToo : ∀ body ∈ other?, Block body.toList)
    (same : line ++ header ++ bodyPart body? = another ++ header ++ bodyPart other?) :
    line ++ header = another ++ header ∧ body? = other? := by
  have bodiless {line another body : String} (block : Block body.toList)
      (same : line ++ header ++ bodyPart none = another ++ header ++ bodyPart (some body)) :
      False := by
    obtain ⟨top, ended⟩ := exists_end_header line
    obtain ⟨front, last, shape, _, other⟩ := block.ends
    have characters := congrArg String.toList same
    rw [toList_append_bodyPart, bodyPart, String.append_empty, ended, shape, ← List.cons_append,
      ← List.cons_append, ← List.append_assoc] at characters
    exact other (List.singleton_inj.mp (List.append_inj_right' characters rfl)).symm
  cases body? with
  | none =>
      cases other? with
      | none => exact ⟨by simpa only [bodyPart, String.append_empty] using same, rfl⟩
      | some other => exact (bodiless (blockToo other rfl) same).elim
  | some body =>
      cases other? with
      | none => exact (bodiless (block body rfl) same.symm).elim
      | some other =>
          have characters := congrArg String.toList same
          rw [toList_append_bodyPart, toList_append_bodyPart] at characters
          obtain ⟨top, bodies⟩ := (block body rfl).append_inj (blockToo other rfl) characters
          exact ⟨String.toList_inj.mp top, congrArg some (String.toList_inj.mp bodies)⟩

/-- Two requests are shown alike only if they are the same. -/
theorem compose_eq_of_display_eq {endpoint another : Endpoint} {session other : Session}
    (same : (compose endpoint session).display = (compose another other).display) :
    compose endpoint session = compose another other := by
  rw [display_compose, display_compose, String.append_left_inj] at same
  obtain ⟨top, body⟩ := bodyPart_inj (fun _ => block_body) (fun _ => block_body) same
  obtain ⟨method, url⟩ := line_inj ((String.append_left_inj _).mp top)
  have headers : (compose endpoint session).headers = (compose another other).headers := rfl
  generalize compose endpoint session = request at method url headers body
  generalize compose another other = rival at method url headers body
  cases request
  cases rival
  cases method
  cases url
  cases headers
  cases body
  rfl

/-- Nothing that is shown of a request is trimmed. -/
theorem text_message_display (endpoint : Endpoint) (session : Session) :
    (Record.message (compose endpoint session).display).text =
      (compose endpoint session).display := by
  obtain ⟨front, last, same, visible⟩ :=
    exists_end_bodyPart (compose endpoint session).line fun _ => block_body
  have newLine : "\n".toList = ['\n'] := rfl
  rw [Record.text, display_compose, String.toList_append, same, newLine,
    Text.trimEnd_append_newLine front visible, ← same, String.ofList_toList]

end Request

namespace Prompt

variable {σ τ : Type} {first : Prompt σ String} {second : Prompt τ String}

/--
Where an id is known, what is written for its composition is the request as it is shown, to the last
character; and the same is written in two places only for the same request.
-/
theorem obey_compose_shows {id other : String} {endpoint another : Endpoint}
    (known : first.console.catalog.get id = .ok endpoint)
    (knownToo : second.console.catalog.get other = .ok another)
    (clock : Option (Nat → TimeOfDay)) :
    let request := Request.compose endpoint first.console.session
    let rival := Request.compose another second.console.session
    (first.obey ⟨.text, clock⟩ (.compose id)).out = first.out ++ request.display ∧
      (request = rival ↔ ∃ written,
        (first.obey ⟨.text, clock⟩ (.compose id)).out = first.out ++ written ∧
          (second.obey ⟨.text, clock⟩ (.compose other)).out = second.out ++ written) := by
  intro request rival
  have shows {ρ : Type} {prompt : Prompt ρ String} {id : String} {endpoint : Endpoint}
      (known : prompt.console.catalog.get id = .ok endpoint) :
      (prompt.obey ⟨.text, clock⟩ (.compose id)).out =
        prompt.out ++ (Request.compose endpoint prompt.console.session).display := by
    have composed : prompt.console.compose id =
        .ok (Request.compose endpoint prompt.console.session) := by
      rw [Console.compose, known]
      rfl
    rw [← Request.text_message_display, obey, composed]
    rfl
  refine ⟨shows known, fun same => ?_, ?_⟩
  · exact ⟨request.display, shows known, same ▸ shows knownToo⟩
  · rintro ⟨written, here, there⟩
    rw [shows known, String.append_right_inj] at here
    rw [shows knownToo, String.append_right_inj] at there
    exact Request.compose_eq_of_display_eq (here.trans there.symm)

def withValue (payload : Payload) (value : String) : Prompt Unit String :=
  .start (.start ⟨[⟨"a", .post, "", [.placeholder "x" none], payload⟩], by simp⟩ []
    (.ofList [("x", value)]) ()) ""

/-- A URL that looks like a request with a body is not taken for one. -/
theorem obey_compose_shows_lookalike :
    ((withValue (.fixed .null) "/").console.catalog.get "a").isOk ∧
      ((withValue .absent "/\ncontent-type: application/json\n\nnull").console.catalog.get "a").isOk ∧
      ((withValue (.fixed .null) "/").obey ⟨.text, none⟩ (.compose "a")).out =
        "POST /\ncontent-type: application/json\n\nnull\n" ∧
      ¬∃ written,
        ((withValue (.fixed .null) "/").obey ⟨.text, none⟩ (.compose "a")).out = "" ++ written ∧
          ((withValue .absent "/\ncontent-type: application/json\n\nnull").obey ⟨.text, none⟩
            (.compose "a")).out = "" ++ written := by
  obtain ⟨shown, alike⟩ := @obey_compose_shows Unit Unit (withValue (.fixed .null) "/")
    (withValue .absent "/\ncontent-type: application/json\n\nnull") "a" "a" _ _ rfl rfl none
  refine ⟨rfl, rfl, shown.trans (by decide +kernel), fun written => ?_⟩
  have bodies := congrArg Request.body (alike.mpr written)
  cases bodies

end Prompt

end ApiConsole
