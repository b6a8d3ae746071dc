import ApiConsole.Proofs.Except
import ApiConsole.Url
import Mathlib.Data.List.TakeDrop
import Mathlib.Data.List.TakeWhile

/-!
# Blanks behind an authority

Blanks and controls at the end of a URL do not count.  Where the URL goes on behind them they do:
then they belong to its host or to its port, and neither may hold them.
-/

namespace ApiConsole.Url

/-- If the last byte of a character is ASCII, it is the character. -/
theorem toNat_eq_of_getLast?_utf8EncodeChar {c : Char} {byte : UInt8}
    (last : (String.utf8EncodeChar c).getLast? = some byte) (ascii : byte.toNat < 128) :
    c.toNat = byte.toNat := by
  change c.val.toNat = byte.toNat
  simp only [String.utf8EncodeChar] at last
  split at last
  · obtain rfl : UInt8.ofNat c.val.toNat = byte := by simpa using last
    simp only [UInt8.toNat_ofNat']
    omega
  · -- A character of several bytes ends with one that is not ASCII.
    have high : UInt8.ofNat (c.val.toNat % 64 + 128) = byte := by
      split at last
      · simpa using last
      · split at last <;> simpa using last
    rw [← high, UInt8.toNat_ofNat'] at ascii
    omega

/-- If the last byte of a text is ASCII, it is the last character. -/
theorem exists_getLast?_of_utf8 {cs : List Char} {byte : UInt8}
    (last : (cs.flatMap String.utf8EncodeChar).getLast? = some byte) (ascii : byte.toNat < 128) :
    ∃ c, cs.getLast? = some c ∧ c.toNat = byte.toNat := by
  rw [List.getLast?_flatMap] at last
  rw [← List.head?_reverse]
  cases reversed : cs.reverse with
  | nil => simp [reversed] at last
  | cons c rest =>
      refine ⟨c, rfl, toNat_eq_of_getLast?_utf8EncodeChar ?_ ascii⟩
      rw [reversed, List.findSome?_cons] at last
      cases ends : (String.utf8EncodeChar c).getLast? with
      | none => exact absurd (List.getLast?_eq_none_iff.mp ends) String.utf8EncodeChar_ne_nil
      | some other => rwa [ends] at last

/-- A character that is no hexadecimal digit is read on its own at the end of a text. -/
theorem unescape_append_singleton (cs : List Char) {c : Char} (notHex : Text.hexValue? c = none) :
    unescape (cs ++ [c]) = unescape cs ++ String.utf8EncodeChar c := by
  fun_induction unescape cs with
  | case1 => simp [unescape]
  | case2 a b rest high low first second ih => simp [unescape, first, second, ih]
  | case3 a b rest noEscape ih =>
      rw [List.append_assoc, ← ih]
      simp only [List.cons_append, unescape]
  | case4 d rest noEscape ih =>
      rw [List.append_assoc, ← ih]
      by_cases percent : d = '%'
      · subst percent
        rcases rest with _ | ⟨a, _ | ⟨b, rest⟩⟩
        · simp [unescape]
        · simp [unescape, notHex]
        · exact (noEscape a b rest rfl rfl).elim
      · rw [List.cons_append, unescape]
        intro a b rest same
        exact absurd same percent

theorem unescape_of_unescapedText?_eq_some {cs text : List Char}
    (found : unescapedText? cs = some text) :
    unescape cs = text.flatMap String.utf8EncodeChar := by
  obtain ⟨decoded, valid, rfl⟩ := Option.map_eq_some_iff.mp found
  have bytes : decoded.toByteArray = ⟨(unescape cs).toArray⟩ := by
    unfold String.fromUTF8? at valid
    split at valid
    · exact congrArg String.toByteArray (Option.some.inj valid).symm
    · cases valid
  rw [← String.utf8Encode_toList, List.utf8Encode] at bytes
  have data := congrArg ByteArray.data bytes
  rw [List.data_toByteArray] at data
  exact (List.toArray_inj data).symm

section

variable {c : Char} (edge : isEdge c = true)
include edge

theorem ne_of_isEdge {d : Char} (inner : isEdge d = false) : c ≠ d := by
  rintro rfl
  rw [edge] at inner
  cases inner

theorem toNat_le_of_isEdge : c.toNat ≤ 0x20 :=
  of_decide_eq_true edge

theorem not_le_of_isEdge {d : Char} (visible : 0x20 < d.toNat) : ¬d ≤ c := by
  intro above
  have order : d.toNat ≤ c.toNat := UInt32.le_iff_toNat_le.mp above
  have low := toNat_le_of_isEdge edge
  omega

theorem hexValue?_of_isEdge : Text.hexValue? c = none := by
  have zero : ¬ '0' ≤ c := not_le_of_isEdge edge (by decide)
  have lower : ¬ 'a' ≤ c := not_le_of_isEdge edge (by decide)
  have upper : ¬ 'A' ≤ c := not_le_of_isEdge edge (by decide)
  simp [Text.hexValue?, zero, lower, upper]

theorem isDigit_of_isEdge : c.isDigit = false := by
  have zero : ¬ '0' ≤ c := not_le_of_isEdge edge (by decide)
  exact Bool.and_eq_false_imp.mpr fun above => absurd (of_decide_eq_true above) zero

theorem isUnfit_of_isEdge : Domain.isUnfit c = true := by
  have low := toNat_le_of_isEdge edge
  have ascii : c.toNat < 0x80 := by omega
  simp [Domain.isUnfit, ascii, low]

/-- No host ends with a blank or a control. -/
theorem Host.ofDomain_append_edge (cs : List Char) :
    Host.ofDomain (cs ++ [c]) = .error .invalidDomain := by
  have none : (unescapedText? (cs ++ [c])).bind Domain.ofText? = none := by
    refine Option.bind_eq_none_iff.mpr fun text found => ?_
    have bytes := unescape_of_unescapedText?_eq_some found
    rw [unescape_append_singleton cs (hexValue?_of_isEdge edge)] at bytes
    have low := toNat_le_of_isEdge edge
    have small : c.val.toNat ≤ 127 := Nat.le_trans low (by decide)
    have single : String.utf8EncodeChar c = [UInt8.ofNat c.toNat] := by
      simp only [String.utf8EncodeChar, if_pos small]
      rfl
    have number : (UInt8.ofNat c.toNat).toNat = c.toNat := by
      rw [UInt8.toNat_ofNat']
      omega
    have final : (text.flatMap String.utf8EncodeChar).getLast? = some (UInt8.ofNat c.toNat) := by
      rw [← bytes, single]
      simp
    obtain ⟨last, ends, same⟩ := exists_getLast?_of_utf8 final (by omega)
    have unfit : text.any Domain.isUnfit := by
      refine List.any_eq_true.mpr ⟨last, List.mem_of_getLast? ends, ?_⟩
      exact isUnfit_of_isEdge (decide_eq_true (by omega))
    simp [Domain.ofText?, Domain.folded?, unfit]
  rw [Host.ofDomain, none]

theorem Host.ofText_append_edge {host : List Char} (given : host ≠ []) :
    ∃ fault, Host.ofText (host ++ [c]) = .error fault := by
  obtain ⟨first, rest, rfl⟩ := List.exists_cons_of_ne_nil given
  by_cases bracketed : first = '['
  · subst bracketed
    have open' : (rest ++ [c]).getLast? ≠ some ']' := by
      simpa using ne_of_isEdge edge (d := ']') rfl
    exact ⟨.invalidIpv6, if_neg open'⟩
  · refine ⟨.invalidDomain, ?_⟩
    rw [← ofDomain_append_edge edge (first :: rest), List.cons_append, ofText]
    intro rest' same
    exact absurd (List.cons.inj same).1 bracketed

end

namespace Authority

/-- What stands behind an authority without an at sign belongs to what stands behind the last
one. -/
theorem cutCredentials_append (cs : List Char) {extra : List Char} (plain : '@' ∉ extra) :
    cutCredentials (cs ++ extra) = ((cutCredentials cs).1, (cutCredentials cs).2 ++ extra) := by
  have passes : ∀ c ∈ extra.reverse, (c != '@') = true := fun c member => by
    rw [bne_iff_ne]
    rintro rfl
    exact plain (List.mem_reverse.mp member)
  by_cases found : '@' ∈ cs
  · simp only [cutCredentials, List.contains_iff_mem, List.mem_append, found, true_or, if_true,
      List.reverse_append, List.takeWhile_append_of_pos passes, List.length_append,
      List.length_reverse, List.reverse_reverse, Prod.mk.injEq, Option.some.injEq, and_true]
    rw [List.take_append_of_le_length (by omega)]
    exact congrArg (cs.take ·) (by omega)
  · simp [cutCredentials, found, plain]

theorem cutPort_of_not_mem (bracketed : Bool) {cs : List Char} (plain : ':' ∉ cs) :
    cutPort bracketed cs = (cs, none) := by
  induction cs generalizing bracketed with
  | nil => rfl
  | cons c rest ih =>
      rw [List.mem_cons, not_or] at plain
      rw [cutPort, if_neg fun colon => plain.1 colon.1.symm]
      simp only [ih _ plain.2]

/-- What stands behind an authority without a colon belongs to its port, or else to its host. -/
theorem cutPort_append (bracketed : Bool) (cs : List Char) {extra : List Char}
    (plain : ':' ∉ extra) :
    cutPort bracketed (cs ++ extra) =
      match cutPort bracketed cs with
      | (host, none) => (host ++ extra, none)
      | (host, some port) => (host, some (port ++ extra)) := by
  induction cs generalizing bracketed with
  | nil => exact cutPort_of_not_mem bracketed plain
  | cons c rest ih =>
      rw [List.cons_append, cutPort, cutPort]
      split
      · rfl
      · simp only [ih]
        rcases cutPort _ rest with ⟨host, _ | port⟩ <;> rfl

/-- A port is the last part of an authority. -/
theorem suffix_of_cutPort {bracketed : Bool} {cs host port : List Char}
    (cut : cutPort bracketed cs = (host, some port)) : port <:+ cs := by
  induction cs generalizing bracketed host with
  | nil => cases cut
  | cons c rest ih =>
      rw [cutPort] at cut
      split at cut
      · cases cut
        exact List.suffix_cons c _
      · obtain ⟨_, behind⟩ := Prod.mk.inj cut
        exact (ih (Prod.ext rfl behind)).trans (List.suffix_cons c rest)

theorem suffix_cutCredentials (cs : List Char) : (cutCredentials cs).2 <:+ cs := by
  unfold cutCredentials
  split
  · rw [← List.reverse_prefix, List.reverse_reverse]
    exact List.takeWhile_prefix _
  · exact List.suffix_rfl

/-- Edges behind an authority belong to its port, or else to its host. -/
theorem ofText_append {extra : List Char} (edges : ∀ c ∈ extra, isEdge c = true)
    (cs : List Char) :
    ofText (cs ++ extra) =
      match (ofText cs).port with
      | none => { ofText cs with host := (ofText cs).host ++ extra }
      | some port => { ofText cs with port := some (port ++ extra) } := by
  have absent (d : Char) (inner : isEdge d = false) : d ∉ extra := fun member =>
    ne_of_isEdge (edges d member) inner rfl
  simp only [ofText, cutCredentials_append cs (absent '@' rfl),
    cutPort_append false _ (absent ':' rfl)]
  rcases cutPort false (cutCredentials cs).2 with ⟨host, _ | port⟩ <;> rfl

theorem hostAndPort_eq_ok_iff {authority : Authority} {host : Host} {port : Option Nat} :
    authority.hostAndPort = .ok (host, port) ↔
      authority.host ≠ [] ∧ Host.ofText authority.host = .ok host ∧
        authority.portNumber = .ok port := by
  unfold hostAndPort
  cases given : authority.host with
  | nil => simp [throw, throwThe, MonadExceptOf.throw, bind, Except.bind]
  | cons first rest =>
      cases Host.ofText (first :: rest) with
      | error fault => simp [bind, Except.bind]
      | ok found =>
          cases authority.portNumber <;> simp [bind, Except.bind, pure, Except.pure]

/-- A port that ends with an edge is no number. -/
theorem portNumber_append_edges {authority : Authority} {port extra : List Char}
    (given : authority.port = some (port ++ extra)) (whole : '\\' ∉ port)
    (edges : ∀ c ∈ extra, isEdge c = true) (present : extra ≠ []) :
    authority.portNumber = .error .invalidPort := by
  have all : ∀ c ∈ port ++ extra, (c != '\\') = true := fun c member => by
    rw [bne_iff_ne]
    rcases List.mem_append.mp member with inside | behind
    · exact ne_of_mem_of_not_mem inside whole
    · exact ne_of_isEdge (edges c behind) rfl
  have noNumber : (port ++ extra).all Char.isDigit = false := by
    obtain ⟨edge, member⟩ := List.exists_mem_of_ne_nil extra present
    refine List.all_eq_false.mpr ⟨edge, List.mem_append_right port member, ?_⟩
    simp [isDigit_of_isEdge (edges edge member)]
  simp [portNumber, given, List.takeWhile_eq_self_iff.mpr all, noNumber]

/-- With edges behind it an authority that names a host and a port names none. -/
theorem hostAndPort_append_edges {cs extra : List Char} {host : Host} {port : Option Nat}
    (named : (ofText cs).hostAndPort = .ok (host, port)) (whole : '\\' ∉ cs)
    (edges : ∀ c ∈ extra, isEdge c = true) (present : extra ≠ []) :
    ∃ fault, (ofText (cs ++ extra)).hostAndPort = .error fault := by
  cases result : (ofText (cs ++ extra)).hostAndPort with
  | error fault => exact ⟨fault, rfl⟩
  | ok found =>
      obtain ⟨given, _, _⟩ := hostAndPort_eq_ok_iff.mp named
      obtain ⟨_, hostRead, portRead⟩ := hostAndPort_eq_ok_iff.mp result
      rw [ofText_append edges] at hostRead portRead
      cases there : (ofText cs).port with
      | none =>
          rw [there] at hostRead
          have parts := List.dropLast_concat_getLast present
          have front : (ofText cs).host ++ extra.dropLast ≠ [] := by simp [given]
          obtain ⟨fault, refused⟩ :=
            Host.ofText_append_edge (edges _ (List.getLast_mem present)) front
          rw [List.append_assoc, parts] at refused
          cases refused.symm.trans hostRead
      | some port =>
          rw [there] at portRead
          have behind : port <:+ cs :=
            (suffix_of_cutPort (Prod.ext rfl there)).trans (suffix_cutCredentials cs)
          rw [portNumber_append_edges rfl (fun member => whole (behind.mem member)) edges present]
            at portRead
          cases portRead

end Authority

end ApiConsole.Url
