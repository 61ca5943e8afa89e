/-
# Directives by their offsets

A caller that goes through a text asks for the first directive from an offset on, and goes on at the
end of what it was given. Offsets count bytes. An offset within a character is answered by nothing; from
any other one the answer is the leftmost directive that starts there or later, and nothing exactly if
there is none. What is given back lies between characters again, so the next search has an answer too,
and from the start of a text on these searches give the directives that a pass meets.
-/

import DynamicContent.Proofs.Directive.Grammar
import DynamicContent.Proofs.Directive.Scan
import DynamicContent.Proofs.Format.ReadBack

namespace DynamicContent

namespace Text

theorem utf8ByteSize_ofList (cs : List Char) : (String.ofList cs).utf8ByteSize = byteLength cs := by
  induction cs with
  | nil => rfl
  | cons c cs ih =>
      rw [String.ofList_cons, String.utf8ByteSize_append, String.utf8ByteSize_singleton, ih, byteLength]

/-- An offset lies between characters exactly if a front of the text has so many bytes. -/
theorem isValid_iff_exists_byteLength {text : String} {offset : Nat} :
    (⟨offset⟩ : String.Pos.Raw).IsValid text ↔
      ∃ passed ahead, text.toList = passed ++ ahead ∧ byteLength passed = offset := by
  rw [String.Pos.Raw.isValid_iff_exists_append]
  constructor
  · rintro ⟨passed, ahead, rfl, hoffset⟩
    refine ⟨passed.toList, ahead.toList, String.toList_append, ?_⟩
    rw [← utf8ByteSize_ofList, String.ofList_toList]
    exact (congrArg String.Pos.Raw.byteIdx hoffset).symm
  · rintro ⟨passed, ahead, hsplit, rfl⟩
    refine ⟨String.ofList passed, String.ofList ahead, ?_, ?_⟩
    · rw [← String.ofList_append, ← hsplit, String.ofList_toList]
    · rw [String.Pos.Raw.ext_iff, String.byteIdx_rawEndPos, utf8ByteSize_ofList]

theorem byteLength_le_of_prefix {cs ds : List Char} (h : cs <+: ds) :
    byteLength cs ≤ byteLength ds := by
  obtain ⟨rest, rfl⟩ := h
  rw [byteLength_append]
  exact Nat.le_add_right _ _

/-- Of two fronts of a text the one with fewer bytes is a front of the other. -/
theorem prefix_of_byteLength_le {cs ds text : List Char} (hcs : cs <+: text) (hds : ds <+: text)
    (hle : byteLength cs ≤ byteLength ds) : cs <+: ds := by
  rcases List.prefix_or_prefix_of_prefix hcs hds with h | ⟨rest, rfl⟩
  · exact h
  · rw [byteLength_append] at hle
    have hrest : rest.length ≤ byteLength rest := length_le_byteLength rest
    obtain rfl : rest = [] := List.eq_nil_of_length_eq_zero (by omega)
    rw [List.append_nil]

end Text

namespace Directive

open Text (byteLength byteLength_append)

/-! ## Places -/

/-- A directive with the offsets at which it starts and ends. -/
structure Located where
  start : Nat
  stop : Nat
  directive : Directive
deriving DecidableEq

/-- A directive that is found behind so much of a text. -/
def locate (before : List Char) (d : Directive) : Located :=
  ⟨byteLength before, byteLength (before ++ d.source), d⟩

/-- The first directive of a text from an offset on. -/
def nextFrom? (text : String) (offset : Nat) : Option Located :=
  (Json.takeBytes? offset text.toList).bind fun (passed, ahead) =>
    (next? ahead).map fun (before, d, _) => locate (passed ++ before) d

namespace Located

/-- At the offsets of a text a directive of the right form begins and ends: the name and the parameter
are the text between the opening brace, the `:` and the closing brace. -/
def StandsIn (found : Located) (text : String) : Prop :=
  found.directive.IsWellFormed ∧ ∃ before after,
    text.toList = before ++ (found.directive.source ++ after) ∧
      byteLength before = found.start ∧ byteLength (before ++ found.directive.source) = found.stop

theorem standsIn_iff {found : Located} {text : String} :
    found.StandsIn text ↔
      ∃ before, found.directive.Stands before text.toList ∧ found = locate before found.directive := by
  constructor
  · rintro ⟨hform, before, after, hsplit, hstart, hstop⟩
    refine ⟨before, ⟨hform, after, by rw [hsplit, List.append_assoc]⟩, ?_⟩
    rw [locate, hstart, hstop]
  · rintro ⟨before, ⟨hform, after, hsplit⟩, hfound⟩
    have hplaces : found.start = byteLength before ∧
        found.stop = byteLength (before ++ found.directive.source) :=
      ⟨congrArg start hfound, congrArg stop hfound⟩
    exact ⟨hform, before, after, by rw [← hsplit, List.append_assoc], hplaces.1.symm, hplaces.2.symm⟩

/-- The offsets of a directive that stands in a text lie in order, within the text and between its
characters. -/
theorem StandsIn.bounds {found : Located} {text : String} (h : found.StandsIn text) :
    found.start < found.stop ∧ found.stop ≤ text.utf8ByteSize ∧
      (⟨found.start⟩ : String.Pos.Raw).IsValid text ∧
      (⟨found.stop⟩ : String.Pos.Raw).IsValid text := by
  obtain ⟨-, before, after, hsplit, hstart, hstop⟩ := h
  have hsource : found.directive.source.length ≤ byteLength found.directive.source :=
    Text.length_le_byteLength _
  refine ⟨?_, ?_, ?_, ?_⟩
  · rw [← hstart, ← hstop, byteLength_append]
    simp only [source, List.length_cons] at hsource ⊢
    omega
  · rw [← String.ofList_toList (s := text), Text.utf8ByteSize_ofList, ← hstop]
    exact Text.byteLength_le_of_prefix ⟨after, by rw [hsplit, List.append_assoc]⟩
  · exact Text.isValid_iff_exists_byteLength.mpr ⟨before, _, hsplit, hstart⟩
  · exact Text.isValid_iff_exists_byteLength.mpr
      ⟨before ++ found.directive.source, after, by rw [hsplit, List.append_assoc], hstop⟩

/-- At most one directive stands at a place. -/
theorem StandsIn.eq_of_start {found other : Located} {text : String} (hfound : found.StandsIn text)
    (hother : other.StandsIn text) (hstart : found.start = other.start) : found = other := by
  obtain ⟨before, ⟨hform, after, hsplit⟩, hplace⟩ := standsIn_iff.mp hfound
  obtain ⟨front, ⟨hform', behind, hsplit'⟩, hplace'⟩ := standsIn_iff.mp hother
  rw [hplace, hplace'] at hstart
  have hbefore : before <+: text.toList := ⟨_, by rw [← hsplit, List.append_assoc]⟩
  have hfront : front <+: text.toList := ⟨_, by rw [← hsplit', List.append_assoc]⟩
  obtain rfl : before = front :=
    (Text.prefix_of_byteLength_le hbefore hfront hstart.le).eq_of_length_le
      (Text.prefix_of_byteLength_le hfront hbefore hstart.ge).length_le
  have hahead : found.directive.source ++ after = other.directive.source ++ behind := by
    rw [← hsplit', List.append_assoc, List.append_assoc] at hsplit
    exact List.append_cancel_left hsplit
  have hsame : at? (found.directive.source ++ after) = some other.directive :=
    at?_eq_some_iff.mpr ⟨hform', behind, hahead.symm⟩
  rw [at?_eq_some_iff.mpr ⟨hform, after, rfl⟩] at hsame
  rw [hplace, hplace', Option.some.inj hsame]

end Located

/-! ## The search from an offset -/

section

variable {text : String} {passed ahead : List Char}

/-- From an offset on, what stands in a text stands in what is ahead. -/
theorem standsIn_and_le_iff (hsplit : text.toList = passed ++ ahead) {found : Located} :
    found.StandsIn text ∧ byteLength passed ≤ found.start ↔
      ∃ front, found.directive.Stands front ahead ∧
        found = locate (passed ++ front) found.directive := by
  rw [Located.standsIn_iff, hsplit]
  constructor
  · rintro ⟨⟨before, ⟨hform, hprefix⟩, hplace⟩, hle⟩
    rw [hplace] at hle
    have hbefore : before <+: passed ++ ahead := (List.prefix_append _ _).trans hprefix
    obtain ⟨front, rfl⟩ :=
      Text.prefix_of_byteLength_le (List.prefix_append passed ahead) hbefore hle
    rw [List.append_assoc, List.prefix_append_right_inj] at hprefix
    exact ⟨front, ⟨hform, hprefix⟩, hplace⟩
  · rintro ⟨front, ⟨hform, hprefix⟩, hplace⟩
    refine ⟨⟨passed ++ front, ⟨hform, ?_⟩, hplace⟩, ?_⟩
    · rw [List.append_assoc, List.prefix_append_right_inj]
      exact hprefix
    · rw [hplace]
      exact Text.byteLength_le_of_prefix (List.prefix_append passed front)

/-- The search from an offset is the search in what is ahead. -/
theorem nextFrom?_eq (hsplit : text.toList = passed ++ ahead) :
    nextFrom? text (byteLength passed) =
      (next? ahead).map fun (before, d, _) => locate (passed ++ before) d := by
  rw [nextFrom?, hsplit, Json.takeBytes?_append, Option.bind_some]

/-- The answer is the leftmost of the directives that start at the offset or later. -/
theorem nextFrom?_eq_some_iff (hsplit : text.toList = passed ++ ahead) {found : Located} :
    nextFrom? text (byteLength passed) = some found ↔
      (found.StandsIn text ∧ byteLength passed ≤ found.start) ∧
        ∀ other : Located, other.StandsIn text → byteLength passed ≤ other.start →
          found.start ≤ other.start := by
  have hsound {found : Located} (hfound : nextFrom? text (byteLength passed) = some found) :
      (found.StandsIn text ∧ byteLength passed ≤ found.start) ∧
        ∀ other : Located, other.StandsIn text → byteLength passed ≤ other.start →
          found.start ≤ other.start := by
    rw [nextFrom?_eq hsplit, Option.map_eq_some_iff] at hfound
    obtain ⟨⟨before, d, rest⟩, hnext, rfl⟩ := hfound
    obtain ⟨hahead, hform, hleft⟩ := next?_eq_some_iff.mp hnext
    have hstands : d.Stands before ahead := ⟨hform, rest, by rw [hahead, List.append_assoc]⟩
    refine ⟨(standsIn_and_le_iff hsplit).mpr ⟨before, hstands, rfl⟩, fun other hother hle => ?_⟩
    obtain ⟨front, hfront, hplace⟩ := (standsIn_and_le_iff hsplit).mp ⟨hother, hle⟩
    have hshorter : before <+: front :=
      List.prefix_of_prefix_length_le ((List.prefix_append _ _).trans hstands.2)
        ((List.prefix_append _ _).trans hfront.2) (hleft _ front hfront)
    rw [hplace]
    exact Text.byteLength_le_of_prefix ((List.prefix_append_right_inj passed).mpr hshorter)
  refine ⟨hsound, fun ⟨⟨hstands, hle⟩, hleft⟩ => ?_⟩
  cases hfirst : nextFrom? text (byteLength passed) with
  | none =>
      rw [nextFrom?_eq hsplit, Option.map_eq_none_iff, next?_eq_none_iff] at hfirst
      obtain ⟨front, hfront, -⟩ := (standsIn_and_le_iff hsplit).mp ⟨hstands, hle⟩
      exact absurd hfront (hfirst _ front)
  | some first =>
      obtain ⟨⟨hfirstStands, hfirstLe⟩, hfirstLeft⟩ := hsound hfirst
      have hstart : first.start = found.start :=
        Nat.le_antisymm (hfirstLeft found hstands hle) (hleft first hfirstStands hfirstLe)
      rw [hfirstStands.eq_of_start hstands hstart]

/-- There is no answer exactly if no directive starts at the offset or later. -/
theorem nextFrom?_eq_none_iff (hsplit : text.toList = passed ++ ahead) :
    nextFrom? text (byteLength passed) = none ↔
      ∀ found : Located, found.StandsIn text → found.start < byteLength passed := by
  rw [nextFrom?_eq hsplit, Option.map_eq_none_iff, next?_eq_none_iff]
  constructor
  · intro habsent found hstands
    by_contra hle
    obtain ⟨front, hfront, -⟩ := (standsIn_and_le_iff hsplit).mp ⟨hstands, Nat.le_of_not_lt hle⟩
    exact habsent _ front hfront
  · intro hbefore d front hfront
    obtain ⟨hstands, hle⟩ := (@standsIn_and_le_iff text passed ahead hsplit
      (locate (passed ++ front) d)).mpr ⟨front, hfront, rfl⟩
    exact absurd hle (Nat.not_le_of_lt (hbefore _ hstands))

end

/-- From an offset between characters the search answers with the leftmost directive that starts there
or later, at offsets that are in order, within the text and between its characters; and it has no answer
exactly if there is no such directive. -/
theorem nextFrom?_spec {text : String} {offset : Nat}
    (hoffset : (⟨offset⟩ : String.Pos.Raw).IsValid text) :
    (∀ found : Located, nextFrom? text offset = some found ↔
      (found.StandsIn text ∧ offset ≤ found.start) ∧
        ∀ other : Located, other.StandsIn text → offset ≤ other.start →
          found.start ≤ other.start) ∧
    (nextFrom? text offset = none ↔
      ∀ found : Located, found.StandsIn text → found.start < offset) ∧
    ∀ found : Located, nextFrom? text offset = some found →
      offset ≤ found.start ∧ found.start < found.stop ∧ found.stop ≤ text.utf8ByteSize ∧
        (⟨found.start⟩ : String.Pos.Raw).IsValid text ∧
        (⟨found.stop⟩ : String.Pos.Raw).IsValid text := by
  obtain ⟨passed, ahead, hsplit, rfl⟩ := Text.isValid_iff_exists_byteLength.mp hoffset
  refine ⟨fun found => nextFrom?_eq_some_iff hsplit, nextFrom?_eq_none_iff hsplit,
    fun found hfound => ?_⟩
  obtain ⟨⟨hstands, hle⟩, -⟩ := (nextFrom?_eq_some_iff hsplit).mp hfound
  exact ⟨hle, hstands.bounds⟩

/-- The text `é{a:x}{ab:{op:{été}}`. The first brace begins no directive, since one letter is no name, and
the second one has no end; the one nested in it does. -/
def unterminated : String := "é\x7ba:x\x7d\x7bab:\x7bop:\x7bété\x7d\x7d"

/-- In `unterminated` the nested directive is the only one, and it is found from before the others. -/
theorem nextFrom?_unterminated :
    (⟨2⟩ : String.Pos.Raw).IsValid unterminated ∧
      nextFrom? unterminated 2 = some ⟨11, 23, ⟨['o', 'p'], "\x7bété\x7d".toList⟩⟩ ∧
      ∀ found : Located, found.StandsIn unterminated → found.start = 11 := by
  have hfirst : nextFrom? unterminated 0 =
      some ⟨11, 23, ⟨['o', 'p'], "\x7bété\x7d".toList⟩⟩ := by decide
  have hlater : nextFrom? unterminated 12 = none := by decide
  have htwelve : (⟨12⟩ : String.Pos.Raw).IsValid unterminated := by decide
  have hzero : (⟨0⟩ : String.Pos.Raw).IsValid unterminated := by decide
  refine ⟨by decide, by decide, fun found hfound => ?_⟩
  have hlow : 11 ≤ found.start :=
    (((nextFrom?_spec hzero).1 _).mp hfirst).2 found hfound (Nat.zero_le _)
  have hhigh : found.start < 12 := (nextFrom?_spec htwelve).2.1.mp hlater found hfound
  omega

/-! ## Going through a text -/

theorem lt_stop_of_nextFrom? {text : String} {offset : Nat} {found : Located}
    (hfound : nextFrom? text offset = some found) :
    offset < found.stop ∧ found.stop ≤ text.utf8ByteSize := by
  have hoffset : (⟨offset⟩ : String.Pos.Raw).IsValid text := by
    obtain ⟨⟨passed, ahead⟩, htaken, -⟩ := Option.bind_eq_some_iff.mp hfound
    exact Text.isValid_iff_exists_byteLength.mpr
      ⟨passed, ahead, Json.takeBytes?_eq_some_iff.mp htaken⟩
  obtain ⟨hle, hlt, hsize, -⟩ := (nextFrom?_spec hoffset).2.2 found hfound
  exact ⟨Nat.lt_of_le_of_lt hle hlt, hsize⟩

/-- The directives found from an offset on, where each search goes on at the end of the directive
before. -/
def scanFrom (text : String) (offset : Nat) : List Located :=
  match _hnext : nextFrom? text offset with
  | none => []
  | some found => found :: scanFrom text found.stop
termination_by text.utf8ByteSize - offset
decreasing_by
  have hbounds := lt_stop_of_nextFrom? _hnext
  omega

/-- Behind so much of a text the searches give the directives that are scanned for in what is ahead. -/
theorem map_directive_scanFrom {text : String} {passed ahead : List Char}
    (hsplit : text.toList = passed ++ ahead) :
    (scanFrom text (byteLength passed)).map Located.directive = scan ahead := by
  induction hlength : ahead.length using Nat.strong_induction_on generalizing passed ahead with
  | _ length ih =>
    rw [scanFrom]
    split
    · next hnone =>
        rw [nextFrom?_eq hsplit, Option.map_eq_none_iff] at hnone
        rw [List.map_nil, scan_of_next?_eq_none hnone]
    · next found hfound =>
        rw [nextFrom?_eq hsplit, Option.map_eq_some_iff] at hfound
        obtain ⟨⟨before, d, rest⟩, hnext, rfl⟩ := hfound
        have hshorter : rest.length < length := hlength ▸ length_lt_of_next? hnext
        have hrest : text.toList = (passed ++ before ++ d.source) ++ rest := by
          rw [hsplit, next?_eq_some hnext]
          simp
        rw [List.map_cons, scan_of_next?_eq_some hnext]
        exact congrArg (d :: ·) (ih rest.length hshorter hrest rfl)

/-- From the start of a text the searches give the directives among its parts, in their order. -/
theorem map_directive_scanFrom_zero (text : String) :
    (scanFrom text 0).map Located.directive =
      (parts text.toList).filterMap Part.directive? := by
  rw [filterMap_parts]
  have hstart : text.toList = [] ++ text.toList := rfl
  exact map_directive_scanFrom hstart

end Directive

end DynamicContent
