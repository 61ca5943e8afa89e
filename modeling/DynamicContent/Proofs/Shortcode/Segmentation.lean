/-
# Expansion as a segmentation

Expanding a text is meant to be two things one after the other: the text is cut into pieces, and
each piece is replaced. `Segments` says which cuts are right, and there is exactly one for each
text. The reader keeps what is pending of a literal run aside and counts characters to skip, and
`segments_pieces` says that neither loses, repeats or splits anything.

`Piece.StandsFor` says what each piece is replaced by, and there is one such thing for each piece of a
cut. Replacing is said for callbacks of any kind of action. `expandNoted` notes every call of a callback
beside what it does, and the notes are the calls that the pieces stand for, in their order, whatever was
returned.
-/

import DynamicContent.Proofs.Shortcode.Markup
import Mathlib.Control.Traversable.Basic

namespace DynamicContent.Shortcode

/-- Whether an escaped tag or a shortcode begins in front of a text. -/
def BeginsMarked (tag cs : List Char) : Prop :=
  ∃ piece after, Piece.Marks tag after piece ∧ cs = piece.source tag ++ after

/-- The cuts of a text into pieces. A literal run is not empty, ends only where markup or nothing
follows, and holds no character at which markup begins. -/
inductive Segments (tag : List Char) : List Char → List Piece → Prop
  | nil : Segments tag [] []
  | markup {piece : Piece} {after : List Char} {pieces : List Piece}
      (marks : piece.Marks tag after) (more : Segments tag after pieces) :
      Segments tag (piece.source tag ++ after) (piece :: pieces)
  | literal {run after : List Char} {pieces : List Piece} (nonempty : run ≠ [])
      (unmarked : ∀ front back, run = front ++ back → back ≠ [] →
        ¬ BeginsMarked tag (back ++ after))
      (apart : ∀ other rest, pieces ≠ .literal other :: rest) (more : Segments tag after pieces) :
      Segments tag (run ++ after) (.literal run :: pieces)

variable {tag text : List Char}

namespace Segments

/-- The sources of the pieces together are the text. -/
theorem flatMap_source {pieces : List Piece} (hcut : Segments tag text pieces) :
    pieces.flatMap (Piece.source tag) = text := by
  induction hcut with
  | nil => rfl
  | markup marks more ih => rw [List.flatMap_cons, ih]
  | literal nonempty unmarked apart more ih => rw [List.flatMap_cons, ih, Piece.source]

/-- Pieces that do not begin with a literal run begin with markup. -/
theorem beginsMarked {pieces : List Piece} (hcut : Segments tag text pieces) (htext : text ≠ [])
    (apart : ∀ other rest, pieces ≠ .literal other :: rest) : BeginsMarked tag text := by
  cases hcut with
  | nil => contradiction
  | markup marks more => exact ⟨_, _, marks, rfl⟩
  | literal nonempty unmarked _ more => exact absurd rfl (apart _ _)

/-- Of two literal runs in front of one text the first is not the shorter one. -/
theorem not_shorter {run after run' after' back : List Char} {rest : List Piece}
    (more : Segments tag after rest) (apart : ∀ other others, rest ≠ .literal other :: others)
    (unmarked : ∀ front back, run' = front ++ back → back ≠ [] →
      ¬ BeginsMarked tag (back ++ after'))
    (hrun : run' = run ++ back) (hafter : after = back ++ after') : back = [] := by
  by_contra hback
  refine unmarked run back hrun hback ?_
  rw [← hafter]
  exact more.beginsMarked (by simp [hafter, hback]) apart

/-- A text is cut in one way. -/
theorem unique (htag : IsTag tag) {pieces pieces' : List Piece} (hcut : Segments tag text pieces)
    (hcut' : Segments tag text pieces') : pieces = pieces' := by
  -- The text is an index of both cuts, so they are compared through an equation.
  obtain ⟨text', htext⟩ : ∃ text', text' = text := ⟨text, rfl⟩
  rw [← htext] at hcut'
  induction hcut generalizing text' pieces' with
  | nil =>
      cases hcut' with
      | nil => rfl
      | markup marks more => exact absurd (List.append_eq_nil_iff.mp htext).1 marks.source_ne_nil
      | literal nonempty _ _ more => exact absurd (List.append_eq_nil_iff.mp htext).1 nonempty
  | @markup piece after rest marks more ih =>
      cases hcut' with
      | nil => exact absurd (List.append_eq_nil_iff.mp htext.symm).1 marks.source_ne_nil
      | @markup piece' after' rest' marks' more' =>
          have hread := (pieceAt?_eq_some_iff htag).mpr ⟨after, marks, rfl⟩
          have hread' := (pieceAt?_eq_some_iff htag).mpr ⟨after', marks', htext.symm⟩
          obtain rfl := Option.some.inj (hread.symm.trans hread')
          rw [ih after' more' (List.append_cancel_left htext)]
      | literal nonempty unmarked _ more' =>
          exact absurd ⟨piece, after, marks, htext⟩ (unmarked [] _ rfl nonempty)
  | @literal run after rest nonempty unmarked apart more ih =>
      cases hcut' with
      | nil => exact absurd (List.append_eq_nil_iff.mp htext.symm).1 nonempty
      | @markup piece' after' rest' marks' more' =>
          exact absurd ⟨piece', after', marks', htext.symm⟩ (unmarked [] _ rfl nonempty)
      | @literal run' after' rest' nonempty' unmarked' apart' more' =>
          have hback : run' = run ∧ after' = after := by
            obtain ⟨back, hrun, hafter⟩ | ⟨back, hrun, hafter⟩ :=
              List.append_eq_append_iff.mp htext
            · obtain rfl := not_shorter more' apart' unmarked hrun hafter
              simp_all
            · obtain rfl := not_shorter more apart unmarked' hrun hafter
              simp_all
          obtain ⟨rfl, rfl⟩ := hback
          rw [ih after' more' rfl]

end Segments

/-- Skipped characters belong to the piece before and to nothing else. -/
theorem piecesFrom_skip (pending : List Char) (skip : Nat) (cs : List Char) :
    piecesFrom tag pending skip cs = piecesFrom tag pending 0 (cs.drop skip) := by
  induction cs generalizing skip with
  | nil => cases skip <;> simp [piecesFrom]
  | cons c cs ih =>
      cases skip with
      | zero => rfl
      | succ skip => rw [piecesFrom, ih, List.drop_succ_cons]

/-- A run in which no markup is read is taken into the literal run. -/
theorem piecesFrom_unread {run cs : List Char}
    (hrun : ∀ front back, run = front ++ back → back ≠ [] → pieceAt? tag (back ++ cs) = none)
    (pending : List Char) :
    piecesFrom tag pending 0 (run ++ cs) = piecesFrom tag (run.reverse ++ pending) 0 cs := by
  induction run generalizing pending with
  | nil => rfl
  | cons c run ih =>
      have hread : pieceAt? tag (c :: (run ++ cs)) = none :=
        hrun [] (c :: run) rfl (List.cons_ne_nil c run)
      have hrest : ∀ front back, run = front ++ back → back ≠ [] →
          pieceAt? tag (back ++ cs) = none := by
        intro front back hsplit hback
        exact hrun (c :: front) back (by rw [hsplit, List.cons_append]) hback
      rw [List.cons_append, piecesFrom, hread]
      dsimp only
      rw [ih hrest, List.reverse_cons, List.append_assoc, List.singleton_append]

/-- Behind a piece of markup the reader goes on with nothing pending. -/
theorem piecesFrom_markup {piece : Piece} {after : List Char} (htag : IsTag tag)
    (pending : List Char) (marks : piece.Marks tag after) :
    piecesFrom tag pending 0 (piece.source tag ++ after) =
      flush pending ++ piece :: piecesFrom tag [] 0 after := by
  have hread := (pieceAt?_eq_some_iff htag).mpr ⟨after, marks, rfl⟩
  cases hsource : piece.source tag with
  | nil => exact absurd hsource marks.source_ne_nil
  | cons c cs =>
      rw [hsource] at hread
      simp only [List.cons_append] at hread ⊢
      simp [piecesFrom, hread, piecesFrom_skip, hsource]

/-- A pending run in which no markup begins is a literal run before what follows. -/
theorem segments_flush {pending after : List Char} {pieces : List Piece}
    (unmarked : ∀ front back, pending.reverse = front ++ back → back ≠ [] →
      ¬ BeginsMarked tag (back ++ after))
    (apart : ∀ other rest, pieces ≠ .literal other :: rest) (more : Segments tag after pieces) :
    Segments tag (pending.reverse ++ after) (flush pending ++ pieces) := by
  cases pending with
  | nil => exact more
  | cons c pending => exact .literal (by simp) unmarked apart more

/-- What the reader gives of a text after a pending run cuts the run and the text. -/
theorem segments_piecesFrom (htag : IsTag tag) (pending cs : List Char)
    (unmarked : ∀ front back, pending.reverse = front ++ back → back ≠ [] →
      ¬ BeginsMarked tag (back ++ cs)) :
    Segments tag (pending.reverse ++ cs) (piecesFrom tag pending 0 cs) := by
  induction hlength : cs.length using Nat.strong_induction_on generalizing pending cs with
  | _ length ih =>
    cases cs with
    | nil =>
        rw [piecesFrom, ← List.append_nil (flush pending)]
        exact segments_flush unmarked (by simp) .nil
    | cons c cs =>
        by_cases hmarked : BeginsMarked tag (c :: cs)
        · obtain ⟨piece, after, marks, hsource⟩ := hmarked
          have hshorter : after.length < length := by
            have hroom := List.length_pos_of_ne_nil marks.source_ne_nil
            rw [← hlength, hsource, List.length_append]
            omega
          rw [hsource] at unmarked ⊢
          rw [piecesFrom_markup htag pending marks]
          refine segments_flush unmarked (fun other rest heq => ?_) (.markup marks ?_)
          · exact marks.ne_literal (List.cons.inj heq).1
          · exact ih after.length hshorter [] after (by simp) rfl
        · have hread : pieceAt? tag (c :: cs) = none := by
            rw [Option.eq_none_iff_forall_ne_some]
            exact fun piece h => hmarked ⟨piece, (pieceAt?_eq_some_iff htag).mp h⟩
          have hstep : piecesFrom tag pending 0 (c :: cs) = piecesFrom tag (c :: pending) 0 cs := by
            simp [piecesFrom, hread]
          have hmore := ih cs.length (by simp [← hlength]) (c :: pending) cs ?_ rfl
          · rw [hstep]
            simpa using hmore
          · intro front back hsplit hback
            -- The new character is the last of the run, so it is also the last of its part.
            obtain ⟨inner, last, rfl⟩ := (List.eq_nil_or_concat' back).resolve_left hback
            rw [List.reverse_cons, ← List.append_assoc] at hsplit
            obtain ⟨hfront, hlast⟩ := List.append_inj' hsplit rfl
            obtain rfl := (List.cons.inj hlast).1
            rw [List.append_assoc, List.singleton_append]
            cases inner with
            | nil => exact hmarked
            | cons d inner => exact unmarked front (d :: inner) hfront (by simp)

/-- The reader cuts every text. -/
theorem segments_pieces (htag : IsTag tag) (text : List Char) :
    Segments tag text (pieces tag text) :=
  segments_piecesFrom htag [] text (by simp)

/-! ## Replacing the pieces -/

/-- A call of one of the two callbacks. -/
inductive Call where
  | literal (run : String)
  | render (attrs : Attributes) (content : String)

/-- What a piece is replaced by: a text, or what a callback makes of it. -/
inductive Replacement where
  | text (s : String)
  | call (call : Call)

/-- The call that a replacement asks for, if it does. -/
def Replacement.call? : Replacement → Option Call
  | .text _ => none
  | .call c => some c

/-- What pieces are replaced by. A literal run is handed to a callback, an escaped tag stands for itself
without its first and its last character, and of a shortcode the attributes and the content are handed
to the other callback. Without a closing tag there is no content. -/
inductive Piece.StandsFor : Piece → Replacement → Prop
  | literal (run : List Char) :
      StandsFor (.literal run) (.call (.literal (String.ofList run)))
  | escaped (first last : Char) (inner : List Char) :
      StandsFor (.escaped (first :: (inner ++ [last]))) (.text (String.ofList inner))
  | selfClosing {opening raw : List Char} (closed : ClosesItself opening raw) :
      StandsFor (.shortcode opening none) (.call (.render (attributes raw) ""))
  | alone {opening raw : List Char} (open_ : StaysOpen opening raw) :
      StandsFor (.shortcode opening none) (.call (.render (attributes raw) ""))
  | enclosing {opening raw : List Char} (content : List Char) (open_ : StaysOpen opening raw) :
      StandsFor (.shortcode opening (some content))
        (.call (.render (attributes raw) (String.ofList content)))

/-- What stands between name and end of an opening tag is taken for what it is. -/
theorem openingParts_fst {opening raw : List Char}
    (h : ClosesItself opening raw ∨ StaysOpen opening raw) : (openingParts opening).1 = raw := by
  rcases h with closed | open_
  · rw [openingParts_eq_true_iff.mpr closed]
  · rw [openingParts_eq_false_iff.mpr open_]

/-- A piece stands for one thing. -/
theorem Piece.StandsFor.unique {piece : Piece} {r r' : Replacement} (h : piece.StandsFor r)
    (h' : piece.StandsFor r') : r = r' := by
  have hraw {opening raw raw' : List Char} (h : ClosesItself opening raw ∨ StaysOpen opening raw)
      (h' : ClosesItself opening raw' ∨ StaysOpen opening raw') : raw = raw' :=
    (openingParts_fst h).symm.trans (openingParts_fst h')
  cases h with
  | literal run =>
      cases h'
      rfl
  | escaped first last inner =>
      generalize hsource : first :: (inner ++ [last]) = source at h'
      cases h' with
      | escaped first' last' inner' =>
          rw [(List.append_inj' (List.cons.inj hsource).2 rfl).1]
  | selfClosing closed =>
      cases h' with
      | selfClosing closed' => rw [hraw (.inl closed) (.inl closed')]
      | alone open_' => rw [hraw (.inl closed) (.inr open_')]
  | alone open_ =>
      cases h' with
      | selfClosing closed' => rw [hraw (.inr open_) (.inl closed')]
      | alone open_' => rw [hraw (.inr open_) (.inr open_')]
  | enclosing content open_ =>
      cases h' with
      | enclosing _ open_' => rw [hraw (.inr open_) (.inr open_')]

/-- Markup stands for something. -/
theorem Piece.Marks.exists_standsFor {piece : Piece} {after : List Char}
    (marks : piece.Marks tag after) : ∃ r, piece.StandsFor r := by
  cases marks with
  | @escaped inner named first =>
      refine ⟨.text (String.ofList ('[' :: (tag ++ inner ++ [']']))), ?_⟩
      simpa using Piece.StandsFor.escaped '[' ']' ('[' :: (tag ++ inner ++ [']']))
  | selfClosing named opens closed => exact ⟨_, .selfClosing closed⟩
  | alone named opens open_ absent => exact ⟨_, .alone open_⟩
  | enclosing named opens open_ first => exact ⟨_, .enclosing _ open_⟩

/-- Each piece of a cut stands for something. -/
theorem Segments.exists_standFor {pieces : List Piece} (hcut : Segments tag text pieces) :
    ∃ rs, List.Forall₂ Piece.StandsFor pieces rs := by
  induction hcut with
  | nil => exact ⟨[], .nil⟩
  | markup marks more ih =>
      obtain ⟨r, hr⟩ := marks.exists_standsFor
      obtain ⟨rs, hrs⟩ := ih
      exact ⟨r :: rs, .cons hr hrs⟩
  | @literal run after pieces nonempty unmarked apart more ih =>
      obtain ⟨rs, hrs⟩ := ih
      exact ⟨_, .cons (.literal run) hrs⟩

/-- Pieces stand for one thing each. -/
theorem standFor_unique {pieces : List Piece} {rs rs' : List Replacement}
    (h : List.Forall₂ Piece.StandsFor pieces rs) (h' : List.Forall₂ Piece.StandsFor pieces rs') :
    rs = rs' := by
  induction h generalizing rs' with
  | nil =>
      cases h'
      rfl
  | cons hr hrs ih =>
      cases h' with
      | cons hr' hrs' => rw [hr.unique hr', ih hrs']

section

variable {m : Type → Type} [Monad m]

/-- Calls a callback. -/
def Call.perform (literal : String → m String) (render : Attributes → String → m String) :
    Call → m String
  | .literal run => literal run
  | .render attrs content => render attrs content

/-- What a piece is replaced by, with the callback called that it asks for. -/
def Replacement.perform (literal : String → m String) (render : Attributes → String → m String) :
    Replacement → m String
  | .text s => pure s
  | .call c => c.perform literal render

/-- Notes a call before it takes place. -/
def Call.noted (call : Call) (action : m String) : StateT (List Call) m String := do
  modify (· ++ [call])
  action

/-- Expands a text and notes the calls of both callbacks. -/
def expandNoted (tag text : String) (literal : String → m String)
    (render : Attributes → String → m String) : StateT (List Call) m String :=
  expand tag text (fun run => (Call.literal run).noted (literal run))
    (fun attrs content => (Call.render attrs content).noted (render attrs content))

/-- A piece is replaced by what it stands for. -/
theorem Piece.StandsFor.expand_eq {piece : Piece} {r : Replacement} (h : piece.StandsFor r)
    (literal : String → m String) (render : Attributes → String → m String) :
    piece.expand literal render = r.perform literal render := by
  cases h with
  | literal run => rfl
  | escaped first last inner => simp [Piece.expand, Replacement.perform]
  | selfClosing closed =>
      rw [Piece.expand, openingParts_fst (.inl closed)]
      rfl
  | alone open_ | enclosing content open_ =>
      rw [Piece.expand, openingParts_fst (.inr open_)]
      rfl

variable [LawfulMonad m]

/-- Pieces are replaced by what they stand for, one after the other. -/
theorem expandPieces_eq_mapM (literal : String → m String)
    (render : Attributes → String → m String) {pieces : List Piece} {rs : List Replacement}
    (h : List.Forall₂ Piece.StandsFor pieces rs) :
    expandPieces literal render pieces =
      String.join <$> rs.mapM (Replacement.perform literal render) := by
  induction h with
  | nil => simp [expandPieces, String.join]
  | cons hr hrs ih =>
      simp only [expandPieces, hr.expand_eq, ih, List.mapM_cons, map_eq_pure_bind, bind_assoc,
        pure_bind, String.join_cons]

/-- With its call noted a replacement is the same, and the call is one more note. -/
theorem Replacement.perform_noted (literal : String → m String)
    (render : Attributes → String → m String) (r : Replacement) (log : List Call) :
    (r.perform (fun run => (Call.literal run).noted (literal run))
      (fun attrs content => (Call.render attrs content).noted (render attrs content))).run log =
      (fun html => (html, log ++ r.call?.toList)) <$> r.perform literal render := by
  cases r with
  | text s => simp [perform, call?]
  | call c => cases c <;> simp [perform, call?, Call.perform, Call.noted]

/-- Of replacements one after the other just the calls that they ask for are noted, in their order. -/
theorem mapM_perform_noted (literal : String → m String) (render : Attributes → String → m String)
    (rs : List Replacement) (log : List Call) :
    (rs.mapM (Replacement.perform (fun run => (Call.literal run).noted (literal run))
      (fun attrs content => (Call.render attrs content).noted (render attrs content)))).run log =
      (fun htmls => (htmls, log ++ rs.filterMap Replacement.call?)) <$>
        rs.mapM (Replacement.perform literal render) := by
  induction rs generalizing log with
  | nil => simp
  | cons r rest ih =>
      have hcalls : log ++ r.call?.toList ++ rest.filterMap Replacement.call? =
          log ++ (r :: rest).filterMap Replacement.call? := by
        cases r <;> simp [List.filterMap_cons, Replacement.call?]
      simp only [List.mapM_cons, StateT.run_bind, Replacement.perform_noted, ih, StateT.run_pure,
        map_eq_pure_bind, bind_assoc, pure_bind, hcalls]

/-- A text has one segmentation, which loses nothing of it, and each piece stands for one thing.
Expanding the text joins what the pieces stand for, in their order; in doing so the callbacks are called
where a piece stands for a call, in the same order and once for each. -/
theorem expand_segmentation {tag : String} (htag : IsTag tag.toList) (text : String)
    (literal : String → m String) (render : Attributes → String → m String) :
    ∃ ps rs, Segments tag.toList text.toList ps ∧
      (∀ ps', Segments tag.toList text.toList ps' → ps' = ps) ∧
      ps.flatMap (Piece.source tag.toList) = text.toList ∧
      List.Forall₂ Piece.StandsFor ps rs ∧
      (∀ rs', List.Forall₂ Piece.StandsFor ps rs' → rs' = rs) ∧
      expand tag text literal render =
        String.join <$> rs.mapM (Replacement.perform literal render) ∧
      ∀ log, (expandNoted tag text literal render).run log =
        (fun html => (html, log ++ rs.filterMap Replacement.call?)) <$>
          expand tag text literal render := by
  have hcut := segments_pieces htag text.toList
  obtain ⟨rs, hrs⟩ := hcut.exists_standFor
  have hexpand : expand tag text literal render =
      String.join <$> rs.mapM (Replacement.perform literal render) :=
    expandPieces_eq_mapM literal render hrs
  refine ⟨pieces tag.toList text.toList, rs, hcut, fun _ hother => hother.unique htag hcut,
    hcut.flatMap_source, hrs, fun _ hother => standFor_unique hother hrs, hexpand, fun log => ?_⟩
  have hnoted : expandNoted tag text literal render = _ := expandPieces_eq_mapM _ _ hrs
  rw [hnoted, StateT.run_map, mapM_perform_noted, hexpand]
  simp only [Functor.map_map]

end

/-- The text holds each kind of piece, and brackets and quotes that begin none. -/
theorem expand_segmentation_mixed :
    let text := "a[0] [[weft x]]] [weft v=\"]\"/][weft]in [weft[/weft] [weft '"
    let literal : String → String := fun run => "(" ++ run ++ ")"
    let render : Attributes → String → String := fun attrs content =>
      "<" ++ attrs.text "v" ++ "|" ++ content ++ ">"
    IsTag "weft".toList ∧
    (expand (m := Id) "weft" text literal render).run =
      "(a[0] )[weft x](] )<]|><|in [weft>( [weft ')" ∧
    ∃ ps rs, Segments "weft".toList text.toList ps ∧
      ps = [.literal "a[0] ".toList, .escaped "[[weft x]]".toList, .literal "] ".toList,
        .shortcode " v=\"]\"/".toList none, .shortcode [] (some "in [weft".toList),
        .literal " [weft '".toList] ∧
      (∀ ps', Segments "weft".toList text.toList ps' → ps' = ps) ∧
      ps.flatMap (Piece.source "weft".toList) = text.toList ∧
      List.Forall₂ Piece.StandsFor ps rs ∧
      (∀ rs', List.Forall₂ Piece.StandsFor ps rs' → rs' = rs) ∧
      expand (m := Id) "weft" text literal render =
        String.join <$> rs.mapM (Replacement.perform (m := Id) literal render) ∧
      ∀ log, (expandNoted (m := Id) "weft" text literal render).run log =
        (fun html => (html, log ++ rs.filterMap Replacement.call?)) <$>
          expand (m := Id) "weft" text literal render := by
  intro text literal render
  have htag : IsTag "weft".toList := by
    intro c hc
    have hletter : c = 'w' ∨ c = 'e' ∨ c = 'f' ∨ c = 't' := by simpa using hc
    rcases hletter with rfl | rfl | rfl | rfl <;> decide
  obtain ⟨ps, rs, hcut, hunique, hrest⟩ := expand_segmentation (m := Id) htag text literal render
  have hps : ps = _ := (hunique _ (segments_pieces htag text.toList)).symm
  exact ⟨htag, by decide +kernel, ps, rs, hcut, hps.trans (by decide +kernel), hunique, hrest⟩

end DynamicContent.Shortcode
