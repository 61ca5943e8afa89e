/-
# Segments of paths

The segments of a path that has been read are coded, and none of them stands for its own place or for the
parent: by its bytes a segment is of that kind or not, and coding does not change these. So the segments
are read back from the text of the path, and a path that ends in a slash is continued by what is written
behind it.
-/

import DynamicContent.Proofs.Text.Cutting
import DynamicContent.Proofs.Text.Utf8
import DynamicContent.Proofs.Url.Reading
import DynamicContent.Proofs.Url.Percent

namespace DynamicContent

/-- By its first bytes a text tells its first character. -/
theorem Text.utf8EncodeChar_append_inj {c d : Char} {s t : List UInt8}
    (h : String.utf8EncodeChar c ++ s = String.utf8EncodeChar d ++ t) : c = d := by
  rcases lt_trichotomy c.toNat d.toNat with hlt | heq | hgt
  · exact absurd (h ▸ utf8EncodeChar_append_lt hlt s t) (List.lt_irrefl _)
  · exact Char.toNat_inj.mp heq
  · exact absurd (h ▸ utf8EncodeChar_append_lt hgt t s) (List.lt_irrefl _)

namespace Url

variable {c : Char} {cs : List Char} {part : String} {parts done : List String}

/-! ## Dots -/

/-- The ways to write a dot. -/
def dotForms : List (List Char) := [['.'], ['%', '2', 'e'], ['%', '2', 'E']]

/-- A dot is written in front of a text that stands for a dot and more. -/
theorem percentDecode_eq_dot_iff {bytes : List UInt8} :
    percentDecode cs = 46 :: bytes ↔
      ∃ form ∈ dotForms, ∃ rest, cs = form ++ rest ∧ percentDecode rest = bytes := by
  constructor
  · intro h
    fun_cases percentDecode cs with
    | case1 => contradiction
    | case2 a b rest m n hb ha =>
        have hforms : ∀ a ∈ hexDigits, hexDigits.all fun b =>
            UInt8.ofNat (16 * (hexDigitValue? a).getD 0 + (hexDigitValue? b).getD 0) = 46 →
              ['%', a, b] ∈ dotForms := List.all_iff_forall_prop.mp (by decide)
        rw [percentDecode, ha, hb] at h
        obtain ⟨hbyte, hrest⟩ := List.cons.inj h
        have hform := List.all_iff_forall_prop.mp (hforms a (mem_hexDigits_of_hexDigitValue? ha)) b
          (mem_hexDigits_of_hexDigitValue? hb)
        refine ⟨['%', a, b], hform ?_, rest, rfl, hrest⟩
        rw [ha, hb]
        exact hbyte
    | case3 a b rest hnot =>
        rw [percentDecode_of_not_coded hnot] at h
        exact absurd (List.cons.inj h).1 (by decide)
    | case4 c rest hnot =>
        rw [percentDecode] at h
        · obtain rfl : c = '.' := Text.utf8EncodeChar_append_inj (t := bytes) h
          exact ⟨['.'], by decide, rest, rfl, (List.cons.inj h).2⟩
        · exact hnot
  · rintro ⟨form, hform, rest, rfl, rfl⟩
    simp only [dotForms, List.mem_cons, List.not_mem_nil, or_false] at hform
    rcases hform with rfl | rfl | rfl <;> rfl

/-- A dot is written as a dot or coded, in any letter case. -/
theorem mem_dotForms_iff :
    cs ∈ dotForms ↔ cs.map Char.toLower = ['.'] ∨ cs.map Char.toLower = ['%', '2', 'e'] := by
  constructor
  · simp only [dotForms, List.mem_cons, List.not_mem_nil, or_false]
    rintro (rfl | rfl | rfl) <;> decide
  · have hcases {c d : Char} (h : c.toLower = d) : c = d ∨
        (c.toNat + 32 = d.toNat ∧ 65 ≤ c.toNat ∧ c.toNat ≤ 90) := by
      rcases Text.toLower_eq_or c with ⟨-, heq⟩ | ⟨hlow, hhigh, heq⟩
      · exact .inl (heq.symm.trans h)
      · exact .inr ⟨h ▸ heq.symm, hlow, hhigh⟩
    have hsame {c d : Char} (hd : d.toNat < 97) (h : c.toLower = d) : c = d :=
      (hcases h).resolve_right fun hcapital => by omega
    rintro (h | h)
    · obtain ⟨c, rest, rfl, hc, hrest⟩ := List.map_eq_cons_iff.mp h
      obtain rfl := List.map_eq_nil_iff.mp hrest
      rw [hsame (by decide) hc]
      decide
    · obtain ⟨c, rest, rfl, hc, hrest⟩ := List.map_eq_cons_iff.mp h
      obtain ⟨d, rest, rfl, hd, hrest⟩ := List.map_eq_cons_iff.mp hrest
      obtain ⟨e, rest, rfl, he, hrest⟩ := List.map_eq_cons_iff.mp hrest
      obtain rfl := List.map_eq_nil_iff.mp hrest
      rw [hsame (by decide) hc, hsame (by decide) hd]
      rcases hcases he with rfl | ⟨hcapital, -⟩
      · decide
      · have hcode : e.toNat + 32 = 101 := hcapital
        obtain rfl : e = 'E' := Char.toNat_inj.mp (Nat.add_right_cancel hcode)
        decide

theorem percentDecode_eq_nil_iff : percentDecode cs = [] ↔ cs = [] := by
  refine ⟨fun h => ?_, fun h => h ▸ rfl⟩
  fun_cases percentDecode cs with
  | case1 => rfl
  | case2 a b rest m n hb ha => simp [percentDecode, ha, hb] at h
  | case3 a b rest hnot =>
      rw [percentDecode_of_not_coded hnot] at h
      contradiction
  | case4 c rest hnot =>
      rw [percentDecode] at h
      · exact absurd (List.append_eq_nil_iff.mp h).1 (by simp)
      · exact hnot

/-- A text stands for a dot if it is a way to write one. -/
theorem percentDecode_eq_single_dot_iff : percentDecode cs = [46] ↔ cs ∈ dotForms := by
  rw [percentDecode_eq_dot_iff]
  constructor
  · rintro ⟨form, h, rest, rfl, hrest⟩
    rwa [percentDecode_eq_nil_iff.mp hrest, List.append_nil]
  · exact fun h => ⟨cs, h, [], (List.append_nil cs).symm, rfl⟩

theorem isSingleDot_iff : isSingleDot cs = true ↔ percentDecode cs = [46] := by
  rw [percentDecode_eq_single_dot_iff, isSingleDot, Bool.or_eq_true, beq_iff_eq, beq_iff_eq]
  constructor
  · rintro (rfl | h)
    · decide
    · exact mem_dotForms_iff.mpr (.inr h)
  · have hall : ∀ form ∈ dotForms, form = ['.'] ∨ form.map Char.toLower = "%2e".toList := by decide
    exact hall cs

theorem isDoubleDot_iff : isDoubleDot cs = true ↔ percentDecode cs = [46, 46] := by
  rw [percentDecode_eq_dot_iff]
  simp only [percentDecode_eq_single_dot_iff]
  constructor
  · intro h
    obtain ⟨a, ha, h⟩ := List.any_eq_true.mp h
    obtain ⟨b, hb, h⟩ := List.any_eq_true.mp h
    have hform {s : String} (hs : s ∈ [".", "%2e"]) {cs : List Char}
        (h : cs.map Char.toLower = s.toList) : cs ∈ dotForms := by
      rw [mem_dotForms_iff, h]
      revert hs
      simp only [List.mem_cons, List.not_mem_nil, or_false]
      rintro (rfl | rfl) <;> decide
    rw [beq_iff_eq, String.toList_append] at h
    obtain ⟨first, second, rfl, hfirst, hsecond⟩ := List.map_eq_append_iff.mp h
    exact ⟨first, hform ha hfirst, second, rfl, hform hb hsecond⟩
  · rintro ⟨first, hfirst, second, rfl, hsecond⟩
    have hall : ∀ first ∈ dotForms, ∀ second ∈ dotForms, isDoubleDot (first ++ second) = true := by
      decide
    exact hall first hfirst second hsecond

/-- A segment stands for a place within the path or it does not, whether it is coded or not. -/
theorem isDot_percentEncode (cs : List Char) :
    isSingleDot (percentEncode codedInPath cs) = isSingleDot cs ∧
      isDoubleDot (percentEncode codedInPath cs) = isDoubleDot cs := by
  have hbytes := percentDecode_percentEncode sparesCode_codedInPath cs
  refine ⟨Bool.eq_iff_iff.mpr ?_, Bool.eq_iff_iff.mpr ?_⟩
  · rw [isSingleDot_iff, isSingleDot_iff, hbytes]
  · rw [isDoubleDot_iff, isDoubleDot_iff, hbytes]

/-! ## Segments that have been read -/

/-- A segment as it stands in a path that has been read: it is one piece, it is coded, and it stands for
neither its own place nor the parent. -/
structure IsSegment (part : String) : Prop where
  undivided : ∀ c ∈ part.toList, (c == '/' || (true && c == '\\')) = false
  coded : ∀ c ∈ part.toList, codedInPath c = false
  not_single : isSingleDot part.toList = false
  not_double : isDoubleDot part.toList = false

theorem isSegment_empty : IsSegment "" :=
  ⟨List.forall_mem_nil _, List.forall_mem_nil _, rfl, rfl⟩

/-- A piece between slashes that is no dots becomes a segment when it is coded. -/
theorem isSegment_percentEncode (hpiece : ∀ c ∈ cs, (c == '/' || (true && c == '\\')) = false)
    (hsingle : isSingleDot cs = false) (hdouble : isDoubleDot cs = false) :
    IsSegment (String.ofList (percentEncode codedInPath cs)) := by
  obtain ⟨hsingle', hdouble'⟩ := isDot_percentEncode cs
  constructor <;> rw [String.toList_ofList]
  · intro c hc
    rcases mem_percentEncode hc with (rfl | hdigit) | ⟨hc, -⟩
    · decide
    · have hall : ∀ c ∈ hexDigits, (c == '/' || (true && c == '\\')) = false :=
        List.all_iff_forall_prop.mp (by decide)
      exact hall c hdigit
    · exact hpiece c hc
  · exact sparesCode_codedInPath.forall_mem_percentEncode cs
  · exact hsingle'.trans hsingle
  · exact hdouble'.trans hdouble

/-! ## Segments one by one -/

section Steps

variable {piece : List Char} {pieces : List (List Char)}

/-- A segment for the parent takes a segment away. -/
theorem addSegments_doubleDot (hdouble : isDoubleDot piece = true) (done : List String)
    (pieces : List (List Char)) :
    addSegments false done (piece :: pieces) =
      addSegments false (if pieces.isEmpty then "" :: done.drop 1 else done.drop 1) pieces := by
  match done with
  | [] => simp only [addSegments, hdouble, if_true]
  | [only] => simp only [addSegments, hdouble, if_true, Bool.false_and, Bool.false_eq_true, if_false]; rfl
  | first :: second :: more => simp only [addSegments, hdouble, if_true]

/-- A segment for its own place adds none. -/
theorem addSegments_singleDot (hdouble : isDoubleDot piece = false) (hsingle : isSingleDot piece = true)
    (done : List String) (pieces : List (List Char)) :
    addSegments false done (piece :: pieces) =
      addSegments false (if pieces.isEmpty then "" :: done else done) pieces := by
  rw [addSegments.eq_def]
  simp only [hdouble, hsingle, if_true, Bool.false_eq_true, if_false]

/-- Any other segment is appended in coded form. -/
theorem addSegments_piece (hdouble : isDoubleDot piece = false) (hsingle : isSingleDot piece = false)
    (done : List String) (pieces : List (List Char)) :
    addSegments false done (piece :: pieces) =
      addSegments false (String.ofList (percentEncode codedInPath piece) :: done) pieces := by
  rw [addSegments.eq_def]
  simp only [hdouble, hsingle, Bool.false_and, Bool.false_eq_true, if_false]

/-- What is appended to segments are segments. -/
theorem forall_mem_addSegments (hdone : ∀ part ∈ done, IsSegment part)
    (hpieces : ∀ piece ∈ pieces, ∀ c ∈ piece, (c == '/' || (true && c == '\\')) = false) :
    ∀ part ∈ addSegments false done pieces, IsSegment part := by
  induction pieces generalizing done with
  | nil => exact hdone
  | cons piece pieces ih =>
      obtain ⟨hpiece, hpieces⟩ := List.forall_mem_cons.mp hpieces
      have hempty {done : List String} (hdone : ∀ part ∈ done, IsSegment part) (last : Bool) :
          ∀ part ∈ if last then "" :: done else done, IsSegment part := by
        split
        · exact List.forall_mem_cons.mpr ⟨isSegment_empty, hdone⟩
        · exact hdone
      cases hdouble : isDoubleDot piece with
      | true =>
          rw [addSegments_doubleDot hdouble]
          exact ih (hempty (fun part hpart => hdone part (List.mem_of_mem_drop hpart)) _) hpieces
      | false =>
          cases hsingle : isSingleDot piece with
          | true =>
              rw [addSegments_singleDot hdouble hsingle]
              exact ih (hempty hdone _) hpieces
          | false =>
              rw [addSegments_piece hdouble hsingle]
              exact ih (List.forall_mem_cons.mpr
                ⟨isSegment_percentEncode hpiece hsingle hdouble, hdone⟩) hpieces

/-- The last piece leaves a segment behind, an empty one if it is empty. -/
theorem head?_addSegments (hpieces : pieces ≠ []) (done : List String) :
    ∃ part, (addSegments false done pieces).head? = some part ∧
      (pieces.getLast? = some [] → part = "") := by
  induction pieces generalizing done with
  | nil => exact absurd rfl hpieces
  | cons piece pieces ih =>
      rcases eq_or_ne pieces [] with rfl | hmore
      · cases hdouble : isDoubleDot piece with
        | true =>
            rw [addSegments_doubleDot hdouble]
            exact ⟨"", rfl, fun _ => rfl⟩
        | false =>
            cases hsingle : isSingleDot piece with
            | true =>
                rw [addSegments_singleDot hdouble hsingle]
                exact ⟨"", rfl, fun _ => rfl⟩
            | false =>
                rw [addSegments_piece hdouble hsingle]
                refine ⟨_, rfl, fun hlast => ?_⟩
                obtain rfl : piece = [] := Option.some.inj hlast
                rfl
      · have hstep :
            ∃ done', addSegments false done (piece :: pieces) = addSegments false done' pieces := by
          cases hdouble : isDoubleDot piece with
          | true => exact ⟨_, addSegments_doubleDot hdouble done pieces⟩
          | false =>
              cases hsingle : isSingleDot piece with
              | true => exact ⟨_, addSegments_singleDot hdouble hsingle done pieces⟩
              | false => exact ⟨_, addSegments_piece hdouble hsingle done pieces⟩
        obtain ⟨done', hstep⟩ := hstep
        rw [hstep, List.getLast?_cons_of_ne_nil hmore]
        exact ih hmore done'

/-- Segments are appended as they are. -/
theorem addSegments_segments (hparts : ∀ part ∈ parts, IsSegment part) (done : List String) :
    addSegments false done (parts.map String.toList) = parts.reverse ++ done := by
  induction parts generalizing done with
  | nil => rfl
  | cons part parts ih =>
      obtain ⟨hpart, hparts⟩ := List.forall_mem_cons.mp hparts
      rw [List.map_cons, addSegments_piece hpart.not_double hpart.not_single,
        percentEncode_of_forall hpart.coded, String.ofList_toList, ih hparts, List.reverse_cons,
        List.append_assoc]
      rfl

end Steps

/-! ## Paths -/

/-- The path of an address of the web has segments, the last of which is empty if a slash is the last
character before the query and the fragment. -/
theorem segmentsBehind_spec (rest : List Char) :
    (∀ part ∈ segmentsBehind rest, IsSegment part) ∧ ∃ last, (segmentsBehind rest).getLast? = some last ∧
      ((cutQuery rest).1.getLast? = some '/' → last = "") := by
  rw [segmentsBehind]
  cases (cutQuery rest).1 with
  | nil => exact ⟨List.forall_mem_singleton.mpr isSegment_empty, "", rfl, fun _ => rfl⟩
  | cons c more =>
      obtain ⟨part, hpart, hempty⟩ := head?_addSegments
        (Text.splitAtEach_ne_nil (fun c => c == '/' || (true && c == '\\')) more) []
      dsimp only [pathSegments]
      rw [List.reverse_nil, List.getLast?_reverse]
      refine ⟨fun part hpart => ?_, part, hpart, fun hslash => hempty ?_⟩
      · exact forall_mem_addSegments (List.forall_mem_nil _)
          (fun piece hpiece c hc => (Text.of_mem_splitAtEach piece hpiece c hc).1) part
          (List.mem_reverse.mp hpart)
      · rcases eq_or_ne more [] with rfl | hne
        · rfl
        · rw [List.getLast?_cons_of_ne_nil hne] at hslash
          obtain ⟨front, rfl⟩ := List.getLast?_eq_some_iff.mp hslash
          rw [Text.splitAtEach_append_cons rfl,
            List.getLast?_append_of_ne_nil _ (Text.splitAtEach_ne_nil _ _)]
          rfl

/-- The text of a path has its segments with slashes between them, behind a slash. -/
theorem toList_pathText (hparts : parts ≠ []) :
    (pathText (.segments parts)).toList =
      '/' :: ((parts.map String.toList).intersperse ['/']).flatten := by
  rw [pathText, String.toList_join, List.flatMap_map]
  induction parts with
  | nil => exact absurd rfl hparts
  | cons part parts ih =>
      rw [List.flatMap_cons, String.toList_append, List.map_cons]
      rcases eq_or_ne parts [] with rfl | hmore
      · simp
      · rw [ih hmore, Text.flatten_intersperse_cons _ (by simpa using hmore)]
        rfl

/-- No character of the path is to be coded. -/
theorem not_coded_of_mem_pathText (hparts : ∀ part ∈ parts, IsSegment part) :
    ∀ c ∈ (pathText (.segments parts)).toList, codedInPath c = false := by
  rcases eq_or_ne parts [] with rfl | hne
  · exact fun c hc => absurd hc List.not_mem_nil
  · rw [toList_pathText hne, List.forall_mem_cons]
    refine ⟨by decide, fun c hc => ?_⟩
    rcases Text.of_mem_flatten_intersperse hc with rfl | ⟨piece, hpiece, hc⟩
    · decide
    · obtain ⟨part, hpart, rfl⟩ := List.mem_map.mp hpiece
      exact (hparts part hpart).coded c hc

/-- A path is cut off before the query and the fragment. -/
theorem cutQuery_append {path tail : List Char} (hpath : ∀ c ∈ path, codedInPath c = false)
    (htail : ∀ c ∈ tail.head?, c = '?' ∨ c = '#') : cutQuery (path ++ tail) = (path, tail) := by
  have hmarks : codedInPath '?' = true ∧ codedInPath '#' = true := by decide
  have hall : ∀ c ∈ path, (!(c == '?' || c == '#')) = true := by
    intro c hc
    have hplain := hpath c hc
    rw [Bool.not_eq_true', Bool.or_eq_false_iff, beq_eq_false_iff_ne, beq_eq_false_iff_ne]
    constructor <;> rintro rfl
    · exact absurd (hplain.symm.trans hmarks.1) (by decide)
    · exact absurd (hplain.symm.trans hmarks.2) (by decide)
  have hstop : ∀ c ∈ tail.head?, (!(c == '?' || c == '#')) = false := by
    intro c hc
    rcases htail c hc with rfl | rfl <;> rfl
  obtain ⟨htake, hdrop⟩ := Number.takeWhile_append_of_stop hall hstop
  exact Prod.ext htake hdrop

/-- The segments of a path are read back from its text. -/
theorem segmentsBehind_pathText {tail : List Char} (hne : parts ≠ [])
    (hparts : ∀ part ∈ parts, IsSegment part) (htail : ∀ c ∈ tail.head?, c = '?' ∨ c = '#') :
    segmentsBehind ((pathText (.segments parts)).toList ++ tail) = parts ∧
      tailBehind ((pathText (.segments parts)).toList ++ tail) = queryAndFragment true tail := by
  rw [segmentsBehind, tailBehind, cutQuery_append (not_coded_of_mem_pathText hparts) htail,
    toList_pathText hne]
  refine ⟨?_, rfl⟩
  dsimp only [pathSegments]
  rw [Text.splitAtEach_flatten_intersperse rfl (by simpa using hne)
    (List.forall_mem_map.mpr fun part hpart => (hparts part hpart).undivided), List.reverse_nil,
    addSegments_segments hparts, List.append_nil, List.reverse_reverse]

/-! ## Paths continued -/

/-- The characters of a path that is written without any coding: letters, digits, hyphens, underscores
and slashes. -/
def isPlainPathChar (c : Char) : Bool := c.isAlphanum || c == '-' || c == '_' || c == '/'

/-- What holds of these characters one by one holds of each of them. -/
theorem of_isPlainPathChar {P : Char → Prop}
    (hall : ∀ n < 128, isPlainPathChar (Char.ofNat n) = true → P (Char.ofNat n))
    (h : isPlainPathChar c = true) : P c := by
  have hascii : c.toNat < 128 := by
    simp only [isPlainPathChar, Bool.or_eq_true, beq_iff_eq] at h
    rcases h with ((h | rfl) | rfl) | rfl
    · exact toNat_lt_of_isAlphanum h
    · decide
    · decide
    · decide
  exact of_ascii (P := fun c => isPlainPathChar c = true → P c) hall hascii h

/-- The pieces of a plain path are segments. -/
theorem isSegment_of_mem_splitAtEach (hplain : ∀ c ∈ cs, isPlainPathChar c = true) :
    ∀ piece ∈ Text.splitAtEach (· == '/') cs, IsSegment (String.ofList piece) := by
  intro piece hpiece
  have hchars : ∀ c ∈ piece, (c == '/' || (true && c == '\\')) = false ∧ codedInPath c = false ∧
      c ≠ '.' ∧ c ≠ '%' := by
    intro c hc
    obtain ⟨hslash, hmem⟩ := Text.of_mem_splitAtEach piece hpiece c hc
    exact of_isPlainPathChar (P := fun c => (c == '/') = false →
      (c == '/' || (true && c == '\\')) = false ∧ codedInPath c = false ∧ c ≠ '.' ∧ c ≠ '%')
      (by decide) (hplain c hmem) hslash
  have hdot : ∀ bytes, percentDecode piece ≠ 46 :: bytes := by
    intro bytes hbytes
    obtain ⟨form, hform, rest, rfl, -⟩ := percentDecode_eq_dot_iff.mp hbytes
    have hall : ∀ form ∈ dotForms, '.' ∈ form ∨ '%' ∈ form := by decide
    rcases hall form hform with hmem | hmem
    · exact (hchars '.' (List.mem_append_left _ hmem)).2.2.1 rfl
    · exact (hchars '%' (List.mem_append_left _ hmem)).2.2.2 rfl
  constructor <;> rw [String.toList_ofList]
  · exact fun c hc => (hchars c hc).1
  · exact fun c hc => (hchars c hc).2.1
  · exact Bool.eq_false_iff.mpr fun h => hdot _ (isSingleDot_iff.mp h)
  · exact Bool.eq_false_iff.mpr fun h => hdot _ (isDoubleDot_iff.mp h)

theorem toList_pathText_append (front back : List String) :
    (pathText (.segments (front ++ back))).toList =
      (pathText (.segments front)).toList ++ (pathText (.segments back)).toList := by
  rw [pathText, pathText, pathText, List.map_append, String.toList_join, String.toList_join,
    String.toList_join, List.flatMap_append]

/-- A path that ends in a slash is continued by what is written behind it. -/
theorem toList_pathText_continued (front : List String) (cs : List Char) :
    (pathText (.segments (front ++ (Text.splitAtEach (· == '/') cs).map String.ofList))).toList =
      (pathText (.segments (front ++ [""]))).toList ++ cs := by
  have hpieces : ((Text.splitAtEach (· == '/') cs).map String.ofList).map String.toList =
      Text.splitAtEach (· == '/') cs := by
    rw [List.map_map]
    exact (List.map_congr_left fun _ _ => String.toList_ofList).trans (List.map_id _)
  have hne : (Text.splitAtEach (· == '/') cs).map String.ofList ≠ [] := by
    simpa using Text.splitAtEach_ne_nil _ cs
  have hcontinued := toList_pathText hne
  rw [hpieces, Text.flatten_intersperse_splitAtEach (by simp) cs] at hcontinued
  rw [toList_pathText_append, toList_pathText_append, List.append_assoc, hcontinued]
  rfl

end Url

end DynamicContent
