import ApiConsole.Proofs.Except
import ApiConsole.Proofs.Json.Reading

/-!
# Only documents are read

Whatever is read to its end has been written as the grammar tells.  So the texts that are read are
the documents that have a value.
-/

namespace ApiConsole.Json

/-! ## Strings -/

/-- Behind the start of an escape four digits are read, or there is a fault. -/
theorem exists_unit_of_readStringFrom {high : Option Nat} {done cs : List Char} {mark : Mark}
    {result : List Char × Cursor}
    (read : readStringFrom (.digits high 0 0) done mark cs = .ok result) :
    ∃ a b c d unit more, cs = a :: b :: c :: d :: more ∧ unit? a b c d = some unit := by
  have digit {count value : Nat} {mark : Mark} {cs : List Char}
      (read : readStringFrom (.digits high count value) done mark cs = .ok result) :
      ∃ c rest found, cs = c :: rest ∧ Text.hexValue? c = some found ∧
        (count < 3 → readStringFrom (.digits high (count + 1) (16 * value + found)) done (mark.past c) rest =
          .ok result) := by
    cases cs with
    | nil => cases read
    | cons c rest =>
        rw [readStringFrom] at read
        dsimp only at read
        cases found : Text.hexValue? c with
        | none => rw [found] at read; cases read
        | some value =>
            rw [found] at read
            dsimp only at read
            refine ⟨c, rest, value, rfl, found, fun more => ?_⟩
            rwa [if_pos more] at read
  obtain ⟨a, rest, first, rfl, isFirst, read⟩ := digit read
  obtain ⟨b, rest, second, rfl, isSecond, read⟩ := digit (read (by decide))
  obtain ⟨c, rest, third, rfl, isThird, read⟩ := digit (read (by decide))
  obtain ⟨d, rest, fourth, rfl, isFourth, -⟩ := digit (read (by decide))
  exact ⟨a, b, c, d, _, rest, rfl,
    unit?_eq_some_iff.mpr ⟨first, second, third, fourth, isFirst, isSecond, isThird, isFourth, rfl⟩⟩

/-- Behind the first half of a pair the second half is read, or there is a fault. -/
theorem exists_otherHalf_of_readStringFrom {high : Nat} {done cs : List Char} {mark : Mark}
    {result : List Char × Cursor} (read : readStringFrom (.half high) done mark cs = .ok result) :
    ∃ more, cs = '\\' :: 'u' :: more := by
  cases cs with
  | nil => cases read
  | cons c rest =>
      rw [readStringFrom] at read
      split at read
      · next slash =>
        subst slash
        cases rest with
        | nil => cases read
        | cons d more =>
            rw [readStringFrom] at read
            split at read
            · next letter =>
              subst letter
              exact ⟨more, rfl⟩
            · cases read
      · cases read

/-- Behind the start of an escape a unit is read or a pair, and then the rest. -/
theorem exists_quoted_of_unit {done rest : List Char} {mark : Mark} {result : List Char × Cursor}
    (inside : ∀ {more done : List Char} {mark : Mark},
      more.length < ('\\' :: 'u' :: rest).length → readStringFrom .plain done mark more = .ok result →
        ∃ written meant, Quoted written meant ∧ more = written ++ '"' :: result.2.rest)
    (read : readStringFrom (.digits none 0 0) done mark rest = .ok result) :
    ∃ written meant, Quoted written meant ∧
      '\\' :: 'u' :: rest = written ++ '"' :: result.2.rest := by
  obtain ⟨a, b, c, d, high, more, rfl, digits⟩ := exists_unit_of_readStringFrom read
  rw [readStringFrom_unit done mark digits] at read
  by_cases trailing : isTrailing high
  · rw [if_pos trailing] at read
    cases read
  rw [if_neg trailing] at read
  by_cases leading : isLeading high
  · rw [if_pos leading] at read
    obtain ⟨behind, rfl⟩ := exists_otherHalf_of_readStringFrom read
    rw [readStringFrom_half] at read
    obtain ⟨e, f, g, h, low, more, rfl, others⟩ := exists_unit_of_readStringFrom read
    rw [readStringFrom_otherHalf done _ others] at read
    split at read
    · next trailing =>
      obtain ⟨written, meant, quoted, rfl⟩ := inside (by simp; omega) read
      exact ⟨_, _, .pair digits leading others trailing quoted, rfl⟩
    · cases read
  · rw [if_neg leading] at read
    obtain ⟨written, meant, quoted, rfl⟩ := inside (by simp; omega) read
    exact ⟨_, _, .unit digits ⟨trailing, leading⟩ quoted, rfl⟩

/-- What is read as a string has been written between quotes. -/
theorem exists_quoted_of_readStringFrom {done cs : List Char} {mark : Mark}
    {result : List Char × Cursor} (read : readStringFrom .plain done mark cs = .ok result) :
    ∃ written meant, Quoted written meant ∧ cs = written ++ '"' :: result.2.rest := by
  induction size : cs.length using Nat.strong_induction_on generalizing cs done mark with
  | _ size ih =>
  subst size
  have inside {rest done : List Char} {mark : Mark} (shorter : rest.length < cs.length)
      (read : readStringFrom .plain done mark rest = .ok result) :=
    ih rest.length shorter read rfl
  cases cs with
  | nil => cases read
  | cons c rest =>
      by_cases quote : c = '"'
      · subst quote
        cases read
        exact ⟨[], [], .nil, rfl⟩
      by_cases slash : c = '\\'
      · subst slash
        cases rest with
        | nil => cases read
        | cons letter rest =>
            cases stands : unescape? letter with
            | some meant =>
                rw [readStringFrom_letter done mark stands] at read
                have shorter : rest.length < ('\\' :: letter :: rest).length := by
                  simp only [List.length_cons]
                  omega
                obtain ⟨written, others, quoted, rfl⟩ := inside shorter read
                exact ⟨_, _, .escape stands quoted, rfl⟩
            | none =>
                by_cases unicode : letter = 'u'
                · subst unicode
                  rw [readStringFrom_escaped] at read
                  exact exists_quoted_of_unit inside read
                · simp [readStringFrom, stands, unicode] at read
      · rw [readStringFrom] at read
        simp only [if_neg quote, if_neg slash] at read
        split at read
        · cases read
        · next visible =>
          obtain ⟨written, others, quoted, rfl⟩ := inside (by simp) read
          exact ⟨_, _, .plain ⟨quote, slash, visible⟩ quoted, rfl⟩

/-! ## Numerals -/

/-- Every text starts with a run of digits, which may be empty. -/
theorem exists_run (cs : List Char) :
    ∃ digits rest, cs = digits ++ rest ∧ cs.takeWhile Char.isDigit = digits ∧
      (∀ c ∈ digits, c.isDigit = true) ∧ ∀ c ∈ rest.head?, c.isDigit = false := by
  refine ⟨cs.takeWhile Char.isDigit, cs.dropWhile Char.isDigit, List.takeWhile_append_dropWhile.symm,
    rfl, fun c member => List.mem_takeWhile_imp member, fun c first => ?_⟩
  have stops := List.head?_dropWhile_not Char.isDigit cs
  rw [show (cs.dropWhile Char.isDigit).head? = some c from first] at stops
  simpa using stops

theorem exists_sign (cursor : Cursor) :
    ∃ sign, (sign = [] ∨ sign = ['+'] ∨ sign = ['-']) ∧
      cursor.rest = sign ++ (cutSign cursor).2.rest := by
  obtain ⟨mark, cs⟩ := cursor
  unfold cutSign
  split
  · next same =>
    dsimp only at same
    subst same
    exact ⟨['-'], .inr (.inr rfl), rfl⟩
  · next same =>
    dsimp only at same
    subst same
    exact ⟨['+'], .inr (.inl rfl), rfl⟩
  · exact ⟨[], .inl rfl, rfl⟩

/-- Behind its mark an exponent is read, or there is a fault. -/
theorem exists_exponent_of_readExponent {negative : Bool} {significand : Nat} {exponent : Int}
    {cursor : Cursor} {result : Number × Cursor}
    (read : readExponent negative significand exponent cursor = .ok result) {mark : Char}
    (isMark : mark = 'e' ∨ mark = 'E') :
    ∃ (written : Exponent) (rest : List Char), mark :: cursor.rest = written.text ++ rest ∧
      ∀ c ∈ rest.head?, c.isDigit = false := by
  obtain ⟨sign, isSign, shape⟩ := exists_sign cursor
  obtain ⟨digits, rest, parts, run, all, ends⟩ := exists_run (cutSign cursor).2.rest
  have given : digits ≠ [] := by
    rintro rfl
    rw [readExponent_eq, readPower] at read
    simp only [run, List.isEmpty_nil, if_true] at read
    split at read <;> cases read
  refine ⟨⟨mark, sign, digits, isMark, isSign, given, all⟩, rest, ?_, ends⟩
  rw [shape, parts]
  simp [Exponent.text]

theorem exists_exponent_of_readScale {negative : Bool} {significand : Nat} {exponent : Int}
    {cursor : Cursor} {result : Number × Cursor}
    (read : readScale negative significand exponent cursor = .ok result)
    (ends : ∀ c ∈ cursor.rest.head?, c.isDigit = false) :
    ∃ (written : Option Exponent) (rest : List Char),
      cursor.rest = Numeral.exponentText written ++ rest ∧
        ∀ c ∈ rest.head?, c.isDigit = false ∧ (written = none → c ≠ 'e' ∧ c ≠ 'E') := by
  obtain ⟨mark, cs⟩ := cursor
  unfold readScale at read
  dsimp only at read ends ⊢
  split at read
  · obtain ⟨written, rest, shape, behind⟩ := exists_exponent_of_readExponent read (.inl rfl)
    exact ⟨written, rest, shape, fun c first => ⟨behind c first, by simp⟩⟩
  · obtain ⟨written, rest, shape, behind⟩ := exists_exponent_of_readExponent read (.inr rfl)
    exact ⟨written, rest, shape, fun c first => ⟨behind c first, by simp⟩⟩
  · next lower upper =>
    refine ⟨none, cs, rfl, fun c first => ⟨ends c first, fun _ => ?_⟩⟩
    obtain ⟨tail, rfl⟩ := List.head?_eq_some_iff.mp first
    exact ⟨fun same => lower tail (same ▸ rfl), fun same => upper tail (same ▸ rfl)⟩

/-- Behind the whole part a fraction and an exponent are read, each if it is there, or there is a
fault. -/
theorem exists_parts_of_readBehindWhole {negative : Bool} {whole : List Char} {behind : Cursor}
    {result : Number × Cursor} (read : readBehindWhole negative whole behind = .ok result)
    (ends : ∀ c ∈ behind.rest.head?, c.isDigit = false) :
    ∃ (fraction : Option (List Char)) (written : Option Exponent) (rest : List Char),
      (∀ digits ∈ fraction, IsDigits digits) ∧
        behind.rest = Numeral.fractionText fraction ++ (Numeral.exponentText written ++ rest) ∧
        ∀ c ∈ rest.head?, c.isDigit = false ∧
          (written = none → c ≠ 'e' ∧ c ≠ 'E' ∧ (fraction = none → c ≠ '.')) := by
  obtain ⟨mark, cs⟩ := behind
  unfold readBehindWhole at read
  rcases gather 0 whole with ⟨significand, surplus⟩
  dsimp only at read ends ⊢
  split at read
  · next tail =>
    obtain ⟨digits, rest, rfl, run, all, ends⟩ := exists_run tail
    simp only [Cursor.next, run, Cursor.skip_append] at read
    split at read
    · split at read <;> cases read
    · next given =>
      obtain ⟨written, more, rfl, behind⟩ := exists_exponent_of_readScale read ends
      refine ⟨some digits, written, more, ?_, rfl, fun c first => ⟨(behind c first).1, fun absent => ?_⟩⟩
      · rintro _ ⟨⟩
        exact ⟨fun none => given (by simp [none]), all⟩
      · obtain ⟨lower, upper⟩ := (behind c first).2 absent
        exact ⟨lower, upper, fun missing => absurd missing (Option.some_ne_none digits)⟩
  · obtain ⟨written, rest, shape, behind⟩ := exists_exponent_of_readExponent read (.inl rfl)
    exact ⟨none, written, rest, by simp, shape, fun c first => ⟨behind c first, by simp⟩⟩
  · obtain ⟨written, rest, shape, behind⟩ := exists_exponent_of_readExponent read (.inr rfl)
    exact ⟨none, written, rest, by simp, shape, fun c first => ⟨behind c first, by simp⟩⟩
  · next point lower upper =>
    refine ⟨none, none, cs, by simp, rfl, fun c first => ⟨ends c first, fun _ => ?_⟩⟩
    obtain ⟨tail, rfl⟩ := List.head?_eq_some_iff.mp first
    exact ⟨fun same => lower tail (same ▸ rfl), fun same => upper tail (same ▸ rfl),
      fun _ same => point tail (same ▸ rfl)⟩

/-- What is read behind a sign has been written as the digits and the other parts of a numeral. -/
theorem exists_numeral_of_readDigits {negative : Bool} {cursor : Cursor} {result : Number × Cursor}
    (read : readDigits negative cursor = .ok result) :
    ∃ (numeral : Numeral) (rest : List Char), numeral.negative = negative ∧
      cursor.rest = numeral.unsigned ++ rest ∧ numeral.EndsAt rest := by
  obtain ⟨mark, cs⟩ := cursor
  obtain ⟨whole, tail, rfl, run, all, ends⟩ := exists_run cs
  have isWhole : IsWhole whole := by
    cases whole with
    | nil =>
        cases tail with
        | nil => cases read
        | cons c tail => simp [readDigits, ends c rfl] at read
    | cons first more =>
        refine ⟨⟨List.cons_ne_nil _ _, all⟩, fun zero => ?_⟩
        obtain rfl : first = '0' := Option.some.inj zero
        cases more with
        | nil => rfl
        | cons d more =>
            have second : d.isDigit = true := all d (by simp)
            simp [readDigits, second] at read
  rw [readDigits_append isWhole negative mark ends] at read
  obtain ⟨fraction, written, rest, isFraction, rfl, behind⟩ :=
    exists_parts_of_readBehindWhole read ends
  exact ⟨⟨negative, whole, fraction, written, isWhole, isFraction⟩, rest, rfl,
    by simp [Numeral.unsigned], behind⟩

/-- What is read as a number has been written as a numeral. -/
theorem exists_numeral_of_readNumber {cursor after : Cursor} {number : Number}
    (read : readNumber cursor = .ok (number, after)) :
    ∃ numeral : Numeral, cursor.rest = numeral.text ++ after.rest := by
  obtain ⟨numeral, rest, shape, ends⟩ : ∃ (numeral : Numeral) (rest : List Char),
      cursor.rest = numeral.text ++ rest ∧ numeral.EndsAt rest := by
    obtain ⟨mark, cs⟩ := cursor
    unfold readNumber at read
    dsimp only at read ⊢
    split at read
    · obtain ⟨numeral, rest, sign, shape, ends⟩ := exists_numeral_of_readDigits read
      refine ⟨numeral, rest, ?_, ends⟩
      rw [Numeral.text, if_pos sign]
      exact congrArg (List.cons '-') shape
    · obtain ⟨numeral, rest, sign, shape, ends⟩ := exists_numeral_of_readDigits read
      refine ⟨numeral, rest, ?_, ends⟩
      rw [Numeral.text, if_neg (Bool.eq_false_iff.mp sign)]
      exact shape
  -- The numeral is read again, which tells where it ends.
  have again := numeral.readNumber_gives cursor.mark ends
  rw [← shape] at again
  refine ⟨numeral, ?_⟩
  cases found : numeral.number? with
  | none =>
      rw [found] at again
      obtain ⟨fault, refused⟩ := again
      cases refused.symm.trans read
  | some value =>
      rw [found] at again
      obtain ⟨behind, same⟩ := again
      cases same.symm.trans read
      exact shape

/-! ## Trees -/

theorem exists_blank (cursor : Cursor) :
    ∃ space, IsBlank space ∧ cursor.rest = space ++ cursor.skipSpace.rest := by
  refine ⟨cursor.rest.takeWhile Cursor.isSpace, fun c member => List.mem_takeWhile_imp member, ?_⟩
  rw [Cursor.skipSpace, Cursor.rest_skipSpaceFrom, List.takeWhile_append_dropWhile]

theorem IsBlank.append {space more : List Char} (blank : IsBlank space) (blankMore : IsBlank more) :
    IsBlank (space ++ more) := by
  intro c member
  exact (List.mem_append.mp member).elim (blank c) (blankMore c)

theorem rest_of_readIdentifier {letters cs : List Char} {mark : Mark} {after : Cursor}
    (read : readIdentifier mark letters cs = .ok after) : cs = letters ++ after.rest := by
  induction letters generalizing mark cs with
  | nil =>
      cases read
      rfl
  | cons letter letters ih =>
      cases cs with
      | nil => cases read
      | cons c cs =>
          rw [readIdentifier] at read
          split at read
          · next same => rw [same, ih read]; rfl
          · cases read

theorem rest_of_readLiteral {letters : List Char} {node : Span → Node} {cursor after : Cursor}
    (read : (readLiteral letters node cursor).2 = .ok after) :
    cursor.next.rest = letters ++ after.rest := by
  unfold readLiteral at read
  dsimp only at read
  split at read
  · next found =>
    cases read
    exact rest_of_readIdentifier found
  · cases read

theorem exists_numeral_of_readNumberNode {cursor after : Cursor}
    (read : (readNumberNode cursor).2 = .ok after) :
    ∃ numeral : Numeral, cursor.rest = numeral.text ++ after.rest := by
  unfold readNumberNode at read
  split at read
  · next found =>
    cases read
    exact exists_numeral_of_readNumber found
  · cases read

theorem exists_quoted_of_readString {cursor after : Cursor} {text : String}
    (read : readString cursor = .ok (text, after)) :
    ∃ written meant, Quoted written meant ∧ cursor.rest = written ++ '"' :: after.rest := by
  obtain ⟨result, found, same⟩ := map_eq_ok_iff.mp read
  cases same
  exact exists_quoted_of_readStringFrom found

theorem exists_quoted_of_readStringNode {cursor after : Cursor}
    (read : (readStringNode cursor).2 = .ok after) :
    ∃ written meant, Quoted written meant ∧ cursor.next.rest = written ++ '"' :: after.rest := by
  unfold readStringNode at read
  split at read
  · next found =>
    cases read
    exact exists_quoted_of_readString found
  · cases read

/-- What stands in front of the closing sign of a container: nothing, or its contents, behind a
comma unless they are the first. -/
def Ahead (Contents : List Char → Prop) (closing : Char) (first : Bool) (cs rest : List Char) :
    Prop :=
  ∃ space, IsBlank space ∧ (cs = space ++ closing :: rest ∨ ∃ front body, IsBlank front ∧
    Contents body ∧
      cs = space ++ ((if first then [] else [',']) ++ (front ++ (body ++ closing :: rest))))

def IsItems (body : List Char) : Prop := ∃ items, SpellsItems items body

def IsPairs (body : List Char) : Prop := ∃ pairs, SpellsPairs pairs body

/-- With some fuel, only what the grammar tells is read. -/
structure Sound (fuel : Nat) : Prop where
  node : ∀ {depth : Nat} {cursor after : Cursor}, (readNode fuel depth cursor).2 = .ok after →
    ∃ tree front core, IsBlank front ∧ Spells tree core ∧ cursor.rest = front ++ (core ++ after.rest)
  items : ∀ {depth : Nat} {first : Bool} {cursor after : Cursor},
    (readItems fuel depth first cursor).2 = .ok after →
      Ahead IsItems ']' first cursor.rest after.rest
  item : ∀ {depth : Nat} {cursor after : Cursor}, (readItem fuel depth cursor).2 = .ok after →
    ∃ front body, IsBlank front ∧ IsItems body ∧ cursor.rest = front ++ (body ++ ']' :: after.rest)
  entries : ∀ {depth : Nat} {first : Bool} {cursor after : Cursor},
    (readEntries fuel depth first cursor).2 = .ok after →
      Ahead IsPairs '\x7d' first cursor.rest after.rest
  entry : ∀ {depth : Nat} {cursor after : Cursor}, (readEntry fuel depth cursor).2 = .ok after →
    ∃ body, IsPairs body ∧ cursor.rest = body ++ '\x7d' :: after.rest

theorem sound_zero : Sound 0 where
  node read := by unfold readNode at read; cases read
  items read := by unfold readItems at read; cases read
  item read := by unfold readItem at read; cases read
  entries read := by unfold readEntries at read; cases read
  entry read := by unfold readEntry at read; cases read

theorem Ahead.array {cs rest : List Char} (ahead : Ahead IsItems ']' true cs rest) :
    ∃ tree core, Spells tree core ∧ '[' :: cs = core ++ rest := by
  obtain ⟨space, blank, rfl | ⟨front, body, blankFront, ⟨items, inside⟩, rfl⟩⟩ := ahead
  · exact ⟨_, _, .emptyArray blank, by simp⟩
  · exact ⟨_, _, .array (blank.append blankFront) inside, by simp⟩

theorem Ahead.object {cs rest : List Char} (ahead : Ahead IsPairs '\x7d' true cs rest) :
    ∃ tree core, Spells tree core ∧ '\x7b' :: cs = core ++ rest := by
  obtain ⟨space, blank, rfl | ⟨front, body, blankFront, ⟨pairs, inside⟩, rfl⟩⟩ := ahead
  · exact ⟨_, _, .emptyObject blank, by simp⟩
  · exact ⟨_, _, .object (blank.append blankFront) inside, by simp⟩

variable {fuel depth : Nat} {cursor after : Cursor}

theorem Sound.node_succ (sound : Sound fuel)
    (read : (readNode (fuel + 1) depth cursor).2 = .ok after) :
    ∃ tree front core, IsBlank front ∧ Spells tree core ∧
      cursor.rest = front ++ (core ++ after.rest) := by
  obtain ⟨front, blank, start⟩ := exists_blank cursor
  suffices ∃ tree core, Spells tree core ∧ cursor.skipSpace.rest = core ++ after.rest by
    obtain ⟨tree, core, spelled, shape⟩ := this
    exact ⟨tree, front, core, blank, spelled, by rw [start, shape]⟩
  unfold readNode at read
  generalize cursor.skipSpace = here at read
  obtain ⟨mark, cs⟩ := here
  dsimp only at read ⊢
  split at read
  · cases read
  · exact ⟨_, _, .nullLiteral, congrArg (List.cons 'n') (rest_of_readLiteral read)⟩
  · exact ⟨_, _, .trueLiteral, congrArg (List.cons 't') (rest_of_readLiteral read)⟩
  · exact ⟨_, _, .falseLiteral, congrArg (List.cons 'f') (rest_of_readLiteral read)⟩
  · obtain ⟨written, meant, quoted, shape⟩ := exists_quoted_of_readStringNode read
    exact ⟨_, _, .string quoted, by simpa [Cursor.next] using congrArg (List.cons '"') shape⟩
  · split at read
    · cases read
    · obtain ⟨tree, core, spelled, shape⟩ := (sound.items read).array
      exact ⟨tree, core, spelled, shape⟩
  · split at read
    · cases read
    · obtain ⟨tree, core, spelled, shape⟩ := (sound.entries read).object
      exact ⟨tree, core, spelled, shape⟩
  · split at read
    · obtain ⟨numeral, shape⟩ := exists_numeral_of_readNumberNode read
      exact ⟨_, _, .number numeral, shape⟩
    · cases read

theorem Sound.items_succ (sound : Sound fuel) {first : Bool}
    (read : (readItems (fuel + 1) depth first cursor).2 = .ok after) :
    Ahead IsItems ']' first cursor.rest after.rest := by
  obtain ⟨space, blank, start⟩ := exists_blank cursor
  refine ⟨space, blank, ?_⟩
  rw [start]
  unfold readItems at read
  generalize cursor.skipSpace = here at read
  obtain ⟨mark, cs⟩ := here
  dsimp only at read ⊢
  split at read
  · cases read
  · cases read
    exact .inl rfl
  · next tail =>
    obtain ⟨front, blankFront, behind⟩ := exists_blank (⟨mark.past ',', tail⟩ : Cursor)
    dsimp only [Cursor.next] at read behind
    split at read
    · cases read
    · cases read
    · obtain ⟨more, body, blankMore, contents, shape⟩ := sound.item read
      refine .inr ⟨front ++ more, body, blankFront.append blankMore, contents, ?_⟩
      rw [behind, shape]
      simp
  · obtain ⟨front, body, blankFront, contents, shape⟩ := sound.item read
    exact .inr ⟨front, body, blankFront, contents, congrArg (space ++ ·) shape⟩
  · cases read

theorem Sound.item_succ (sound : Sound fuel)
    (read : (readItem (fuel + 1) depth cursor).2 = .ok after) :
    ∃ front body, IsBlank front ∧ IsItems body ∧
      cursor.rest = front ++ (body ++ ']' :: after.rest) := by
  unfold readItem at read
  split at read
  · cases read
  · next item behind found =>
    obtain ⟨tree, front, core, blank, spelled, shape⟩ := sound.node (congrArg Prod.snd found)
    obtain ⟨space, blankSpace, ended | ⟨next, body, blankNext, ⟨items, inside⟩, more⟩⟩ :=
      sound.items read
    · refine ⟨front, core ++ space, blank, ⟨_, .last spelled blankSpace⟩, ?_⟩
      rw [shape, ended]
      simp
    · refine ⟨front, _, blank, ⟨_, .next spelled blankSpace blankNext inside⟩, ?_⟩
      rw [shape, more]
      simp

theorem Sound.entries_succ (sound : Sound fuel) {first : Bool}
    (read : (readEntries (fuel + 1) depth first cursor).2 = .ok after) :
    Ahead IsPairs '\x7d' first cursor.rest after.rest := by
  obtain ⟨space, blank, start⟩ := exists_blank cursor
  refine ⟨space, blank, ?_⟩
  rw [start]
  unfold readEntries at read
  generalize cursor.skipSpace = here at read
  obtain ⟨mark, cs⟩ := here
  dsimp only at read ⊢
  split at read
  · cases read
  · cases read
    exact .inl rfl
  · next tail =>
    obtain ⟨front, blankFront, behind⟩ := exists_blank (⟨mark.past ',', tail⟩ : Cursor)
    dsimp only [Cursor.next] at read behind
    split at read
    · cases read
    · cases read
    · obtain ⟨body, contents, shape⟩ := sound.entry read
      refine .inr ⟨front, body, blankFront, contents, ?_⟩
      rw [behind, shape]
      simp
  · obtain ⟨body, contents, shape⟩ := sound.entry read
    exact .inr ⟨[], body, .nil, contents, congrArg (space ++ ·) shape⟩
  · cases read

theorem Sound.entry_succ (sound : Sound fuel)
    (read : (readEntry (fuel + 1) depth cursor).2 = .ok after) :
    ∃ body, IsPairs body ∧ cursor.rest = body ++ '\x7d' :: after.rest := by
  unfold readEntry at read
  obtain ⟨mark, cs⟩ := cursor
  dsimp only at read ⊢
  split at read
  · next tail =>
    split at read
    · cases read
    · next text named found =>
      obtain ⟨written, meant, quoted, shape⟩ := exists_quoted_of_readString found
      obtain ⟨gap, blankGap, colon⟩ := exists_blank named
      split at read
      · next more same =>
        split at read
        · cases read
        · next value behind found =>
          obtain ⟨tree, front, core, blank, spelled, valued⟩ :=
            sound.node (congrArg Prod.snd found)
          have next : named.skipSpace.next.rest = more := by
            rw [Cursor.next, same]
          have pair := SpellsPair.intro quoted blankGap blank spelled
          have start : tail = written ++ '"' :: (gap ++ ':' :: (front ++ (core ++ behind.rest))) := by
            rw [← valued, next, ← same, ← colon]
            exact shape
          obtain ⟨space, blankSpace, ended | ⟨front, body, blankNext, ⟨pairs, inside⟩, others⟩⟩ :=
            sound.entries read
          · refine ⟨_, ⟨_, .last pair blankSpace⟩, ?_⟩
            rw [start, ended]
            simp
          · refine ⟨_, ⟨_, .next pair blankSpace blankNext inside⟩, ?_⟩
            rw [start, others]
            simp
      · cases read
      · cases read
  · cases read

/-- Only what the grammar tells is read. -/
theorem sound (fuel : Nat) : Sound fuel := by
  induction fuel with
  | zero => exact sound_zero
  | succ fuel ih =>
      exact ⟨ih.node_succ, ih.items_succ, ih.item_succ, ih.entries_succ, ih.entry_succ⟩

/-- A text that is read to its end is a document. -/
theorem exists_document_of_finish {text : List Char}
    (ended : (Document.ofText text).finish = .ok ()) : ∃ tree, IsDocument tree text := by
  obtain ⟨after, reached, ended⟩ := bind_eq_ok_iff.mp ended
  obtain ⟨tree, front, core, blank, spelled, shape⟩ := (sound _).node reached
  obtain ⟨behind, blankBehind, rest⟩ := exists_blank after
  dsimp only at ended
  split at ended
  · next none =>
    rw [none, List.append_nil] at rest
    exact ⟨tree, front, core, behind, blank, spelled, blankBehind, rest ▸ shape⟩
  · cases ended

theorem exists_document_of_parse {text : List Char} {value : Value}
    (read : parse text = .ok value) :
    ∃ tree, IsDocument tree text := by
  obtain ⟨_, _, read⟩ := bind_eq_ok_iff.mp read
  obtain ⟨_, ended, _⟩ := bind_eq_ok_iff.mp read
  exact exists_document_of_finish ended

/-- The texts that are read are the documents that have a value, and they are read as their
values. -/
theorem parse_iff_document {text : List Char} {value : Value} :
    parse text = .ok value ↔
      ∃ tree, IsDocument tree text ∧ tree.value? depthLimit = some value := by
  constructor
  · intro read
    obtain ⟨tree, document⟩ := exists_document_of_parse read
    refine ⟨tree, document, ?_⟩
    rw [← parse_document document, read]
    rfl
  · rintro ⟨tree, document, means⟩
    rw [← parse_document document] at means
    cases read : parse text with
    | error fault => rw [read] at means; cases means
    | ok found => rw [read] at means; exact congrArg Except.ok (Option.some.inj means)

end ApiConsole.Json
