/-
# Shortcodes that are written are read back

A shortcode is written as a tag that closes itself, or as an opening tag with content and a closing
tag. `IsWritten` says which text is written for given attributes and content. Among other text with
no opening bracket such a shortcode is the only piece of markup, with just these attributes and this
content; and written in a further pair of brackets it stands for its own text.

Of the content nothing is asked but that it does not hold the closing tag. So it may hold opening
tags of the same name, and brackets and quotes that close nothing.
-/

import DynamicContent.Proofs.Shortcode.Segmentation
import DynamicContent.Proofs.Shortcode.Spelling
import DynamicContent.Proofs.Text.Casing

namespace DynamicContent.Shortcode

/-- What spellings set, in their order. A value without a name is named for the number of such values
before it. -/
def settings (spellings : List Spelling) : List (String × String) :=
  spellings.mapIdx fun i spelling =>
    (spelling.name?.getD (toString ((spellings.take i).countP fun before => before.name?.isNone)),
      spelling.value)

/-- The attributes that spellings mean: each is inserted in turn. -/
def spelled (spellings : List Spelling) : Attributes :=
  (settings spellings).foldl (fun attrs setting => attrs.insert setting.1 (.text setting.2)) .empty

/-- The texts that are written for a shortcode with some attributes and content. Where content
follows, the opening tag must not end as one does that closes itself. -/
inductive IsWritten (tag : List Char) : Attributes → List Char → List Char → Prop
  | alone (spellings : List Spelling) :
      IsWritten tag (spelled spellings) []
        ('[' :: (tag ++ (written spellings ++ [' ', '/', ']'])))
  | enclosing (spellings : List Spelling) (content : List Char)
      (last : ∀ spelling ∈ spellings.getLast?, ¬ spelling.EndsInSlash)
      (absent : ¬ closingTag tag <:+: content) :
      IsWritten tag (spelled spellings) content
        ('[' :: (tag ++ (written spellings ++ ']' :: (content ++ closingTag tag))))

variable {tag content : List Char}

/-! ## What the opening tag says -/

/-- A spelling ends in a character that is not blank, and in a slash only if it is bare. -/
theorem Spelling.exists_source_eq_concat (spelling : Spelling) :
    ∃ front c, spelling.source = front ++ [c] ∧ Text.isBlank c = false ∧
      (c = '/' → spelling.EndsInSlash) := by
  have hquote {quote : Char} (h : isQuote quote = true) (hslash : quote = '/') : False := by
    rw [hslash] at h
    contradiction
  cases spelling with
  | quotedNamed name value quote isName isQuote inside =>
      exact ⟨name ++ '=' :: quote :: value, quote, by simp [source], isBlank_of_isQuote isQuote,
        fun h => (hquote isQuote h).elim⟩
  | bareNamed name value isName isBare =>
      rcases List.eq_nil_or_concat' value with rfl | ⟨front, c, rfl⟩
      · exact ⟨name, '=', rfl, by decide, fun h => absurd h (by decide)⟩
      · exact ⟨name ++ '=' :: front, c, by simp [source], (of_isBareChar (isBare c (by simp))).1,
          fun h => by simp [EndsInSlash, h]⟩
  | quoted value quote isQuote inside =>
      exact ⟨quote :: value, quote, rfl, isBlank_of_isQuote isQuote,
        fun h => (hquote isQuote h).elim⟩
  | word value isWord nonempty =>
      obtain ⟨front, c, rfl⟩ := (List.eq_nil_or_concat' value).resolve_left nonempty
      exact ⟨front, c, rfl, (of_isBareChar (of_isWordChar (isWord c (by simp))).1).1,
        fun h => by simp [EndsInSlash, h]⟩

/-- At the end of what is written stands no blank, and a slash only behind a bare value. -/
theorem of_mem_getLast?_written {spellings : List Spelling} {c : Char}
    (hc : c ∈ (written spellings).getLast?) : Text.isBlank c = false ∧
      (c = '/' → ∃ spelling ∈ spellings.getLast?, spelling.EndsInSlash) := by
  rcases List.eq_nil_or_concat' spellings with rfl | ⟨front, last, rfl⟩
  · simp [written] at hc
  · obtain ⟨start, d, hsource, hblank, hslash⟩ := last.exists_source_eq_concat
    simp only [written, List.flatMap_append, List.flatMap_singleton, hsource, ← List.cons_append,
      ← List.append_assoc, List.getLast?_concat, Option.mem_def, Option.some.injEq] at hc
    obtain rfl := hc
    exact ⟨hblank, fun h => ⟨last, by simp, hslash h⟩⟩

theorem trimEndChars_written (spellings : List Spelling) :
    Text.trimEndChars (written spellings) = written spellings :=
  Text.trimEndChars_eq_iff.mpr ⟨[], by simp, by simp, fun _ hc => (of_mem_getLast?_written hc).1⟩

/-- An opening tag does not close itself if the last of its attributes does not end in a slash. -/
theorem staysOpen_written {spellings : List Spelling}
    (last : ∀ spelling ∈ spellings.getLast?, ¬ spelling.EndsInSlash) :
    StaysOpen (written spellings) (written spellings) := by
  refine ⟨[], by simp, by simp, fun c hc => ?_⟩
  obtain ⟨hblank, hslash⟩ := of_mem_getLast?_written hc
  refine ⟨hblank, fun h => ?_⟩
  obtain ⟨spelling, hspelling, hends⟩ := hslash h
  exact last spelling hspelling hends

/-- A slash behind the attributes closes the tag and is no part of them. -/
theorem closesItself_written (spellings : List Spelling) :
    ClosesItself (written spellings ++ [' ', '/']) (written spellings ++ [' ']) :=
  ⟨[], by simp, by simp⟩

/-- Tokens that are read one after the other are what the spellings set, inserted in turn. Those before
have been read already. -/
theorem attributesFrom_token (before spellings : List Spelling) (attrs : Attributes) :
    attributesFrom (before.countP fun spelling => spelling.name?.isNone) attrs
        (spellings.map Spelling.token) =
      ((settings (before ++ spellings)).drop before.length).foldl
        (fun attrs setting => attrs.insert setting.1 (.text setting.2)) attrs := by
  induction spellings generalizing before attrs with
  | nil =>
      rw [List.append_nil, List.drop_eq_nil_of_le (by simp [settings])]
      rfl
  | cons spelling rest ih =>
      have hsettings : (settings (before ++ spelling :: rest)).drop before.length =
          (spelling.name?.getD (toString (before.countP fun spelling => spelling.name?.isNone)),
            spelling.value) ::
              (settings (before ++ spelling :: rest)).drop (before.length + 1) := by
        rw [List.drop_eq_getElem_cons (by simp [settings])]
        simp [settings]
      have hmore := ih (before ++ [spelling])
      rw [List.append_assoc, List.singleton_append, List.length_append, List.length_singleton,
        List.countP_append, List.countP_singleton] at hmore
      rw [hsettings, List.foldl_cons, ← hmore]
      cases spelling <;> rfl

/-- Attributes are read back, whether or not a blank follows them. -/
theorem attributes_written {spellings : List Spelling} {cs : List Char}
    (htrim : Text.trimEndChars cs = written spellings) : attributes cs = spelled spellings := by
  rw [attributes, tokens, Text.trimChars_eq, htrim, Reading.tokens_between_trimStartChars,
    Reading.tokens_written]
  exact attributesFrom_token [] spellings .empty

/-! ## What the shortcode is -/

/-- The bracket that begins a closing tag is its only one of that kind. -/
theorem not_mem_closingTag_tail (htag : IsTag tag) : '[' ∉ '/' :: (tag ++ [']']) := by
  simp only [List.mem_cons, List.mem_append, List.not_mem_nil, or_false, not_or]
  exact ⟨by decide, fun h => (htag _ h).1 rfl, by decide⟩

/-- The first closing tag behind a text that holds none is the one that was put there. -/
theorem isFirst_closingTag (htag : IsTag tag) (absent : ¬ closingTag tag <:+: content) :
    Text.IsFirst (closingTag tag) content := by
  intro earlier rest hsplit
  rw [List.append_assoc] at hsplit
  obtain ⟨more, -, hclose⟩ | ⟨back, hcontent, hclose⟩ := List.append_eq_append_iff.mp hsplit
  · have hlength := congrArg List.length hclose
    simp only [List.length_append] at hlength
    exact List.eq_nil_of_length_eq_zero (by omega)
  · -- The tag found begins at the back of the content: there it has no room, and the next bracket
    -- is the one of the tag that was put there.
    have habsent (more : List Char) : back ≠ closingTag tag ++ more := fun hback =>
      absent ⟨earlier, more, by simp [hcontent, hback]⟩
    obtain ⟨more, hback, hmore⟩ | ⟨more, hback, -⟩ := List.append_eq_append_iff.mp hclose.symm
    · cases more with
      | nil => exact absurd (by simpa using hback.symm) (habsent [])
      | cons d more =>
          cases back with
          | nil =>
              rw [List.nil_append] at hback
              simpa [← hback] using hmore
          | cons b back =>
              have hd : d = '[' := (List.cons.inj hmore).1.symm
              have htail := (List.cons.inj hback).2
              exact absurd (by simp [htail, hd]) (not_mem_closingTag_tail htag)
    · exact absurd hback (habsent more)

/-- Behind attributes the name of a tag ends, and behind none if it ends before what follows. -/
theorem nameEnds_written (spellings : List Spelling) {c : Char} {rest : List Char}
    (hc : NameEnds (c :: rest)) : NameEnds (written spellings ++ c :: rest) := by
  cases spellings with
  | nil => exact hc
  | cons spelling others => exact ⟨' ', _, rfl, .inl (by decide)⟩

/-- What is written is a piece of markup that can stand before any text, and stands for a call with the
attributes and the content that it was written for. -/
theorem IsWritten.exists_marks {attrs : Attributes} {source : List Char} (htag : IsTag tag)
    (h : IsWritten tag attrs content source) :
    ∃ piece : Piece, source = piece.source tag ∧ (∀ after, piece.Marks tag after) ∧
      piece.StandsFor (.call (.render attrs (String.ofList content))) := by
  cases h with
  | alone spellings =>
      have hclosed := closesItself_written spellings
      have hopens : IsOpening (written spellings ++ [' ', '/']) :=
        (isOpening_written spellings).append
          (.blank (.plain (by decide) (by decide) (by decide) .nil))
      have hraw : attributes (written spellings ++ [' ']) = spelled spellings := by
        refine attributes_written ?_
        rw [Text.trimEndChars_concat_blank (by decide), trimEndChars_written]
      refine ⟨.shortcode (written spellings ++ [' ', '/']) none, by simp [Piece.source],
        fun after => .selfClosing ?_ hopens hclosed, hraw ▸ .selfClosing hclosed⟩
      rw [List.append_assoc]
      exact nameEnds_written spellings ⟨' ', _, rfl, .inl (by decide)⟩
  | enclosing spellings content last absent =>
      have hopen := staysOpen_written last
      have hraw : attributes (written spellings) = spelled spellings :=
        attributes_written (trimEndChars_written spellings)
      refine ⟨.shortcode (written spellings) (some content), by simp [Piece.source],
        fun after => .enclosing ?_ (isOpening_written spellings) hopen
          (isFirst_closingTag htag absent), hraw ▸ .enclosing content hopen⟩
      exact nameEnds_written spellings ⟨']', [], rfl, .inr (.inl rfl)⟩

/-- In a further pair of brackets what is written is an escaped tag, unless two closing brackets
stand together in it. -/
theorem IsWritten.marks_escaped {attrs : Attributes} {source : List Char}
    (h : IsWritten tag attrs content source) (absent : ¬ [']', ']'] <:+: source)
    (after : List Char) : (Piece.escaped ('[' :: (source ++ [']']))).Marks tag after := by
  obtain ⟨inner, rfl, hnamed⟩ : ∃ inner, source = '[' :: (tag ++ inner ++ [']']) ∧
      NameEnds (inner ++ [']', ']']) := by
    cases h with
    | alone spellings =>
        refine ⟨written spellings ++ [' ', '/'], by simp, ?_⟩
        rw [List.append_assoc]
        exact nameEnds_written spellings ⟨' ', _, rfl, .inl (by decide)⟩
    | enclosing spellings content last absent =>
        refine ⟨written spellings ++ ']' :: (content ++ '[' :: '/' :: tag), by simp [closingTag],
          ?_⟩
        rw [List.append_assoc]
        exact nameEnds_written spellings ⟨']', _, rfl, .inr (.inl rfl)⟩
  have hfirst : Text.IsFirst [']', ']'] ('[' :: '[' :: (tag ++ inner)) := by
    refine Text.isFirst_of_not_infix_dropLast fun hinfix => absent ?_
    have hfront : ('[' :: '[' :: (tag ++ inner) ++ [']', ']']).dropLast =
        '[' :: '[' :: (tag ++ inner ++ [']']) := by
      simp [List.dropLast_cons_of_ne_nil]
    rw [hfront, List.infix_cons_iff] at hinfix
    refine hinfix.resolve_left fun hprefix => ?_
    simp at hprefix
  have hmarks : Piece.Marks tag after _ := .escaped hnamed hfirst
  simpa using hmarks

/-! ## What expansion makes of it -/

/-- Text without an opening bracket is taken into the literal run. -/
theorem piecesFrom_plain {run : List Char} (hrun : '[' ∉ run) (pending cs : List Char) :
    piecesFrom tag pending 0 (run ++ cs) = piecesFrom tag (run.reverse ++ pending) 0 cs := by
  refine piecesFrom_unread ?_ pending
  intro front back hsplit hback
  obtain ⟨c, back, rfl⟩ := List.exists_cons_of_ne_nil hback
  have hc : c ≠ '[' := by
    rintro rfl
    exact hrun (by simp [hsplit])
  rw [List.cons_append]
  unfold pieceAt?
  split
  · next heq => exact absurd (List.cons.inj heq).1 hc
  · rfl

/-- A piece of markup among text without an opening bracket is the only one. -/
theorem pieces_among {piece : Piece} (htag : IsTag tag) {front behind : List Char}
    (hfront : '[' ∉ front) (hbehind : '[' ∉ behind) (marks : piece.Marks tag behind) :
    pieces tag (front ++ (piece.source tag ++ behind)) =
      flush front.reverse ++ piece :: flush behind.reverse := by
  have hend : piecesFrom tag [] 0 (behind ++ []) = _ := piecesFrom_plain hbehind [] []
  simp only [List.append_nil] at hend
  rw [pieces, piecesFrom_plain hfront, piecesFrom_markup htag _ marks, List.append_nil, hend,
    piecesFrom]

section

variable {m : Type → Type} [Monad m]

/-- What a run of text is replaced by; there is no run if there is no text. -/
def expandRun (literal : String → m String) (run : String) : m String :=
  if run.isEmpty then pure "" else literal run

variable [LawfulMonad m] (literal : String → m String) (render : Attributes → String → m String)

theorem expandPieces_append (ps qs : List Piece) :
    expandPieces literal render (ps ++ qs) = (do
      let first ← expandPieces literal render ps
      let others ← expandPieces literal render qs
      pure (first ++ others)) := by
  induction ps with
  | nil => simp only [expandPieces, List.nil_append, pure_bind, String.empty_append, bind_pure]
  | cons piece rest ih =>
      simp only [expandPieces, List.cons_append, ih, bind_assoc, pure_bind, String.append_assoc]

theorem expandPieces_flush (run : String) :
    expandPieces literal render (flush run.toList.reverse) = expandRun literal run := by
  by_cases hempty : run = ""
  · simp [hempty, flush, expandPieces, expandRun]
  · have hlist : run.toList ≠ [] := by simpa using hempty
    simp [hempty, hlist, flush, expandPieces, expandRun, Piece.expand]

/-- A shortcode that is written with some attributes and content, among text without an opening
bracket, has its renderer called once with just these, whatever the attributes hold that their forms
allow, and whatever the content holds apart from the closing tag. Written in a further pair of
brackets it stands for itself, and no callback is called. -/
theorem expand_written {tag : String} (htag : IsTag tag.toList) {attrs : Attributes}
    {content source : String}
    (written : IsWritten tag.toList attrs content.toList source.toList) :
    (∀ front behind : String, '[' ∉ front.toList → '[' ∉ behind.toList →
      expand tag (front ++ source ++ behind) literal render = do
        let before ← expandRun literal front
        let html ← render attrs content
        let after ← expandRun literal behind
        pure (before ++ html ++ after)) ∧
    (¬ [']', ']'] <:+: source.toList →
      expand tag ("[" ++ source ++ "]") literal render = pure source) := by
  constructor
  · intro front behind hfront hbehind
    obtain ⟨piece, hsource, hmarks, hstands⟩ := written.exists_marks htag
    have htext : (front ++ source ++ behind).toList =
        front.toList ++ (piece.source tag.toList ++ behind.toList) := by
      simp [hsource]
    rw [expand, htext, pieces_among htag hfront hbehind (hmarks _), expandPieces_append,
      expandPieces_flush]
    simp [expandPieces, expandPieces_flush, hstands.expand_eq, Replacement.perform, Call.perform,
      String.append_assoc]
  · intro absent
    have hmarks := written.marks_escaped absent []
    have htext : ("[" ++ source ++ "]").toList =
        [] ++ ((Piece.escaped ('[' :: (source.toList ++ [']']))).source tag.toList ++ []) := by
      simp [Piece.source]
    rw [expand, htext, pieces_among htag (by simp) (by simp) hmarks]
    simp [expandPieces, Piece.expand, flush]

end

/-- Brackets, quotes, slashes and an opening tag in every place where they may stand. -/
theorem expand_written_brackets :
    let spellings : List Spelling := [
      .quotedNamed "Type".toList "a]b/".toList '"' (List.all_eq_true.mp (by decide)) (by decide)
        (by decide),
      .quoted "it's [".toList '"' (by decide) (by decide),
      .bareNamed "n".toList "/x".toList (List.all_eq_true.mp (by decide))
        (List.all_eq_true.mp (by decide)),
      .word "w".toList (List.all_eq_true.mp (by decide)) (by decide)]
    let source := "[weft Type=\"a]b/\" \"it's [\" n=/x w]in [weft '[/weft]"
    let literal : String → String := fun run => "(" ++ run ++ ")"
    let render : Attributes → String → String := fun attrs content =>
      "<" ++ String.join (attrs.entries.map fun entry => entry.1 ++ ":" ++ entry.2.toText ++ ",") ++
        "|" ++ content ++ ">"
    IsTag "weft".toList ∧
    IsWritten "weft".toList (spelled spellings) "in [weft '".toList source.toList ∧
    (spelled spellings).entries.map (fun entry => (entry.1, entry.2.toText)) =
      [("type", "a]b/"), ("0", "it's ["), ("n", "/x"), ("1", "w")] ∧
    expand (m := Id) "weft" ("a] " ++ source ++ " b") literal render =
      literal "a] " ++ render (spelled spellings) "in [weft '" ++ literal " b" ∧
    literal "a] " ++ render (spelled spellings) "in [weft '" ++ literal " b" =
      "(a] )<type:a]b/,0:it's [,n:/x,1:w,|in [weft '>( b)" ∧
    expand (m := Id) "weft" ("[" ++ source ++ "]") literal render = source := by
  intro spellings source literal render
  have htag : IsTag "weft".toList := by
    intro c hc
    have hletter : c = 'w' ∨ c = 'e' ∨ c = 'f' ∨ c = 't' := by simpa using hc
    rcases hletter with rfl | rfl | rfl | rfl <;> decide
  have habsent : ¬ closingTag "weft".toList <:+: "in [weft '".toList := by decide
  have hsource : source.toList = '[' :: ("weft".toList ++ (written spellings ++
      ']' :: ("in [weft '".toList ++ closingTag "weft".toList))) := by decide
  have hwritten :
      IsWritten "weft".toList (spelled spellings) "in [weft '".toList source.toList := by
    rw [hsource]
    exact .enclosing spellings _ (by simp [spellings, Spelling.EndsInSlash]) habsent
  obtain ⟨hamong, hescaped⟩ := expand_written (m := Id) literal render htag hwritten
  exact ⟨htag, hwritten, by decide +kernel, hamong "a] " " b" (by decide) (by decide), by decide +kernel,
    hescaped (by decide)⟩

end DynamicContent.Shortcode
