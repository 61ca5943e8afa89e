/-
# What a memory holds after a pass

Whatever the handlers answer, a pass never changes a value that it has kept, for a directive cannot
be met again within its own parameter. So the text that a pass gives is what is shown if every
directive has the value in the memory at the end, and that memory explains itself: each value in it
is empty or the answer for what the same memory shows of the parameter.
-/

import DynamicContent.Proofs.Directive.Afresh

namespace DynamicContent.Directive

variable (knows : String → Bool) (answer : String → String → String)

/-- The value that a memory has for a directive, empty if it has none. -/
def kept (memo : Memo) (d : Directive) : String := (memo.find? d.text).getD ""

/-- A later memory has all values of an earlier one. -/
def Extends (memo later : Memo) : Prop :=
  ∀ key v, memo.find? key = some v → later.find? key = some v

/-- A memory has a value for each known directive among some parts. -/
def Covers (memo : Memo) (ps : List Part) : Prop :=
  ∀ d, .directive d ∈ ps → knows d.nameText = true → ∃ v, memo.find? d.text = some v

/-- A value that a memory explains: an empty one, or the answer for what the memory shows of the
parameter. -/
def Explains (memo : Memo) (d : Directive) (v : String) : Prop :=
  v = "" ∨ v = answer d.nameText (shown knows (kept memo) (parts d.param)) ∧
    Covers knows memo (parts d.param)

/-- A memory that explains all of its values. -/
def Grounded (memo : Memo) : Prop :=
  ∀ d : Directive, d.IsNamed → ∀ v, memo.find? d.text = some v → Explains knows answer memo d v

/-- What becomes of a memory while texts of at most so many characters are processed: it loses no
value, gets values for texts of at most that length, and goes on to explain what it holds. -/
structure Grows (bound : Nat) (memo later : Memo) : Prop where
  keeps : Extends memo later
  long : ∀ key : String, bound < key.toList.length → later.find? key = memo.find? key
  grounded : Grounded knows answer memo → Grounded knows answer later

variable {knows answer} {memo later : Memo} {d : Directive} {ps : List Part}

theorem Extends.kept_eq (h : Extends memo later) {v : String} (hv : memo.find? d.text = some v) :
    kept later d = kept memo d := by
  rw [kept, kept, h d.text v hv, hv]

theorem Covers.mono (covers : Covers knows memo ps) (h : Extends memo later) :
    Covers knows later ps := by
  intro d hd known
  obtain ⟨v, hv⟩ := covers d hd known
  exact ⟨v, h d.text v hv⟩

/-- What is shown with a memory does not change as the memory grows. -/
theorem Covers.shown_eq (covers : Covers knows memo ps) (h : Extends memo later) :
    shown knows (kept later) ps = shown knows (kept memo) ps := by
  refine shown_congr fun d hd known => ?_
  obtain ⟨v, hv⟩ := covers d hd known
  exact h.kept_eq hv

theorem Explains.mono {v : String} (explains : Explains knows answer memo d v)
    (h : Extends memo later) : Explains knows answer later d v := by
  rcases explains with hempty | ⟨hanswer, covers⟩
  · exact .inl hempty
  · exact .inr ⟨by rw [covers.shown_eq h]; exact hanswer, covers.mono h⟩

theorem Grows.refl (bound : Nat) (memo : Memo) : Grows knows answer bound memo memo :=
  ⟨fun _ _ hv => hv, fun _ _ => rfl, id⟩

theorem Grows.trans {bound : Nat} {last : Memo} (h : Grows knows answer bound memo later)
    (h' : Grows knows answer bound later last) : Grows knows answer bound memo last where
  keeps key v hv := h'.keeps key v (h.keeps key v hv)
  long key hkey := (h'.long key hkey).trans (h.long key hkey)
  grounded hmemo := h'.grounded (h.grounded hmemo)

theorem Grows.mono {bound bound' : Nat} (h : Grows knows answer bound memo later)
    (hle : bound ≤ bound') : Grows knows answer bound' memo later where
  keeps := h.keeps
  long key hkey := h.long key (lt_of_le_of_lt hle hkey)
  grounded := h.grounded

theorem length_text (d : Directive) : d.text.toList.length = d.source.length := by
  rw [text, String.toList_ofList]

theorem length_param_lt (d : Directive) : d.param.length < d.source.length := by
  simp only [source, List.length_cons, List.length_append]
  omega

/-- A directive in a text is not longer than the text. -/
theorem length_source_le {cs : List Char} (hd : .directive d ∈ parts cs) :
    d.source.length ≤ cs.length := by
  have hsub : d.source.Sublist ((parts cs).flatMap Part.source) :=
    List.sublist_flatten_of_mem (List.mem_map.mpr ⟨.directive d, hd, rfl⟩)
  rw [flatMap_source_parts] at hsub
  exact hsub.length_le

/-- Keeping a value that the memory explains, for a directive that has none yet. -/
theorem Grows.insert {v : String} (hnamed : d.IsNamed) (hnew : memo.find? d.text = none)
    (explains : Explains knows answer memo d v) :
    Grows knows answer d.source.length memo (memo.insert d.text v) := by
  have hext : Extends memo (memo.insert d.text v) := by
    intro key w hw
    rw [SortedMap.find?_insert_of_ne _ v memo, hw]
    rintro rfl
    rw [hnew] at hw
    contradiction
  refine ⟨hext, fun key hkey => ?_, fun grounded e he w hw => ?_⟩
  · rw [SortedMap.find?_insert_of_ne _ v memo]
    rintro rfl
    rw [length_text] at hkey
    exact lt_irrefl _ hkey
  · rw [SortedMap.find?_insert] at hw
    split at hw
    · next htext =>
        obtain rfl := text_inj he hnamed htext
        exact Option.some.inj hw ▸ explains.mono hext
    · exact (grounded e he w hw).mono hext

/-- What the evaluation of a directive does: the memory grows by shorter texts and explains the
result. -/
def EvaluatesWell (knows : String → Bool) (answer : String → String → String)
    (evaluate : Directive → StateT Memo Id String) (d : Directive) : Prop :=
  ∀ memo : Memo, Grows knows answer d.param.length memo ((evaluate d).run memo).2 ∧
    Explains knows answer ((evaluate d).run memo).2 d ((evaluate d).run memo).1

/-- A directive is evaluated or looked up, and afterwards its value is in the memory. -/
theorem EvaluatesWell.value {evaluate : Directive → StateT Memo Id String}
    (h : EvaluatesWell knows answer evaluate d) (hnamed : d.IsNamed) (memo : Memo) :
    Grows knows answer d.source.length memo ((value evaluate d).run memo).2 ∧
      ((value evaluate d).run memo).2.find? d.text = some ((value evaluate d).run memo).1 := by
  rw [value_run]
  cases hfound : memo.find? d.text with
  | some v => exact ⟨.refl _ memo, hfound⟩
  | none =>
      obtain ⟨hgrows, hexplains⟩ := h memo
      -- The evaluation keeps texts that are shorter than this one, so it has not met it itself.
      have hnew : ((evaluate d).run memo).2.find? d.text = none := by
        rw [hgrows.long d.text (by rw [length_text]; exact length_param_lt d), hfound]
      exact ⟨(hgrows.mono (length_param_lt d).le).trans (.insert hnamed hnew hexplains),
        SortedMap.find?_insert_self d.text _ _⟩

/-- A pass over parts shows them with the memory that it ends with. -/
theorem replaceParts_kept {evaluate : Directive → StateT Memo Id String} (bound : Nat)
    (ps : List Part)
    (hps : ∀ d, .directive d ∈ ps → d.IsNamed ∧ d.source.length ≤ bound ∧
      EvaluatesWell knows answer evaluate d) (memo : Memo) :
    Grows knows answer bound memo ((replaceParts knows evaluate ps).run memo).2 ∧
      Covers knows ((replaceParts knows evaluate ps).run memo).2 ps ∧
      ((replaceParts knows evaluate ps).run memo).1 =
        shown knows (kept ((replaceParts knows evaluate ps).run memo).2) ps := by
  induction ps generalizing memo with
  | nil => exact ⟨.refl bound memo, fun _ hd => absurd hd List.not_mem_nil, rfl⟩
  | cons part rest ih =>
      have hpart : Grows knows answer bound memo ((replacePart knows evaluate part).run memo).2 ∧
          Covers knows ((replacePart knows evaluate part).run memo).2 [part] ∧
          ((replacePart knows evaluate part).run memo).1 =
            shownPart knows (kept ((replacePart knows evaluate part).run memo).2) part := by
        cases part with
        | literal run => exact ⟨.refl bound memo, by simp [Covers], rfl⟩
        | directive d =>
            obtain ⟨hnamed, hlength, hwell⟩ := hps d (by simp)
            obtain ⟨hgrows, hfound⟩ := hwell.value hnamed memo
            simp only [replacePart, shownPart]
            split
            · refine ⟨hgrows.mono hlength, ?_, by rw [kept, hfound, Option.getD_some]⟩
              intro e he _
              obtain rfl : e = d := by simpa using he
              exact ⟨_, hfound⟩
            · next unknown =>
                refine ⟨.refl bound memo, ?_, rfl⟩
                intro e he known
                obtain rfl : e = d := by simpa using he
                exact absurd known unknown
      obtain ⟨hfirst, hcovers, hshown⟩ := hpart
      obtain ⟨hothers, hcovers', hshown'⟩ :=
        ih (fun d hd => hps d (List.mem_cons_of_mem part hd))
          ((replacePart knows evaluate part).run memo).2
      rw [replaceParts_run_cons]
      dsimp only
      refine ⟨hfirst.trans hothers, fun d hd known => ?_, ?_⟩
      · rcases List.mem_cons.mp hd with hd | hd
        · exact hcovers.mono hothers.keeps d (by simp [hd]) known
        · exact hcovers' d hd known
      · -- What the first part shows is the same with the memory behind the others.
        have hlater := hcovers.shown_eq hothers.keeps
        rw [shown_cons, ← hshown', hshown]
        simpa [shown] using hlater.symm

variable (knows answer)

/-- Evaluation with a memory is well-behaved at every level. -/
theorem evaluateWithin_evaluatesWell (k : Nat) (d : Directive) :
    EvaluatesWell knows answer (evaluateWithin knows answer k) d := by
  induction k generalizing d with
  | zero => exact fun memo => ⟨.refl _ memo, .inl rfl⟩
  | succ k ih =>
      intro memo
      obtain ⟨hgrows, hcovers, hshown⟩ :=
        replaceParts_kept d.param.length (parts d.param)
          (fun e he => ⟨isNamed_of_mem_parts he, length_source_le he, ih e⟩) memo
      rw [evaluateWithin_run_succ]
      exact ⟨hgrows, .inr ⟨by rw [← hshown], hcovers⟩⟩

/-- The text of a pass that starts with no memory is what the memory at its end shows, and that
memory explains itself. -/
theorem substitute_kept (n : Nat) (s : String) :
    ∃ memo : Memo, Grounded knows answer memo ∧ Covers knows memo (parts s.toList) ∧
      ((substitute knows (evaluateWithin knows answer n) s).run []).1 =
        shown knows (kept memo) (parts s.toList) := by
  obtain ⟨hgrows, hcovers, hshown⟩ :=
    replaceParts_kept s.toList.length (parts s.toList)
      (fun e he => ⟨isNamed_of_mem_parts he, length_source_le he,
        evaluateWithin_evaluatesWell knows answer n e⟩) []
  exact ⟨_, hgrows.grounded fun _ _ _ h => by simp at h, hcovers, hshown⟩

end DynamicContent.Directive
