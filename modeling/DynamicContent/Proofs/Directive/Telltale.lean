/-
# Handlers that give a memory away

Where a directive is met both with a level and without, some handlers show it. The ones here answer
with a *note*: a run of the letter `a`, longer than the whole text, whose length is a number for the
notes in the parameter. A note cannot be mistaken for part of the text or for two other notes, so
from the text that a pass gives it can be read off which directives were evaluated, and in which of
their parameters, and so on. If this is the same with memory and without, then the memory has for
each directive the value that it has wherever it is met; so it is not met with a level and without.
-/

import DynamicContent.Html.Strip
import DynamicContent.Proofs.Directive.Kept
import DynamicContent.Proofs.Text.Casing
import Mathlib.Logic.Encodable.Basic
import Mathlib.Logic.Equiv.List

namespace DynamicContent.Directive

variable (base : Nat)

/-- What stands for a number. -/
def note (n : Nat) : List Char := 'b' :: (List.replicate (base + n) 'a' ++ ['b'])

/-- The number of a run that is long enough for one. -/
def noteOfRun (run : Nat) : List Nat := if base ≤ run then [run - base] else []

/-- The numbers in a text before which a run has begun. -/
def notesFrom : Nat → List Char → List Nat
  | run, [] => noteOfRun base run
  | run, c :: cs => if c = 'a' then notesFrom (run + 1) cs else noteOfRun base run ++ notesFrom 0 cs

/-- The numbers in a text. -/
def notes (s : String) : List Nat := notesFrom base 0 s.toList

/-- The text of a number, empty for none. -/
def told (n : Option Nat) : String := String.ofList (n.elim [] (note base))

/-- The answer to a parameter: a number for the numbers in it. -/
def tell (param : String) : String := told base (some (Encodable.encode (notes base param)))

/-- The answers to directives by notes for their parameters, whatever their names. -/
def byNote (_ : String) (param : String) : String := tell base param

variable {base} {knows : String → Bool} {run : Nat} {cs : List Char}

/-! ## Reading notes -/

theorem noteOfRun_eq_nil (h : run < base) : noteOfRun base run = [] := by
  rw [noteOfRun, if_neg (Nat.not_le.mpr h)]

theorem notesFrom_replicate (run n : Nat) (cs : List Char) :
    notesFrom base run (List.replicate n 'a' ++ cs) = notesFrom base (run + n) cs := by
  induction n generalizing run with
  | zero => rfl
  | succ n ih =>
      rw [List.replicate_succ, List.cons_append, notesFrom, if_pos rfl, ih, Nat.add_right_comm,
        Nat.add_assoc]

/-- A note is read as its number. -/
theorem notesFrom_note (h : run < base) (n : Nat) (cs : List Char) :
    notesFrom base run (note base n ++ cs) = n :: notesFrom base 0 cs := by
  have hb : ('b' : Char) ≠ 'a' := by decide
  rw [note, List.cons_append, notesFrom, if_neg hb, noteOfRun_eq_nil h, List.nil_append,
    List.append_assoc, notesFrom_replicate, List.singleton_append, notesFrom, if_neg hb, noteOfRun,
    Nat.zero_add, if_pos (Nat.le_add_right base n), Nat.add_sub_cancel_left, List.singleton_append]

/-- A short text has no notes: what follows it is read as after a run that is still short. -/
theorem notesFrom_short {more : Nat} (lit cs : List Char) (h : run + (lit.length + more) < base) :
    ∃ run', run' + more < base ∧ notesFrom base run (lit ++ cs) = notesFrom base run' cs := by
  induction lit generalizing run with
  | nil => exact ⟨run, by simpa using h, rfl⟩
  | cons c lit ih =>
      rw [List.length_cons] at h
      rw [List.cons_append, notesFrom]
      split
      · exact ih (by omega)
      · rw [noteOfRun_eq_nil (by omega), List.nil_append]
        exact ih (by omega)

/-- The known directives among some parts. -/
def knownAmong (knows : String → Bool) (ps : List Part) : List Directive :=
  ps.filterMap fun
    | .literal _ => none
    | .directive d => if knows d.nameText then some d else none

theorem mem_knownAmong {ps : List Part} {d : Directive} :
    d ∈ knownAmong knows ps ↔ .directive d ∈ ps ∧ knows d.nameText = true := by
  rw [knownAmong, List.mem_filterMap]
  constructor
  · rintro ⟨part, hpart, hsome⟩
    cases part with
    | literal run => contradiction
    | directive e =>
        simp only [Option.ite_none_right_eq_some, Option.some.injEq] at hsome
        obtain ⟨known, rfl⟩ := hsome
        exact ⟨hpart, known⟩
  · rintro ⟨hd, known⟩
    exact ⟨.directive d, hd, by simp [known]⟩

/-- If the values of the known directives among some parts are told numbers, and the parts
themselves are short, then the notes in what is shown are these numbers. -/
theorem notesFrom_shown (ps : List Part) (value : Directive → String)
    (number : Directive → Option Nat)
    (htold : ∀ d ∈ knownAmong knows ps, value d = told base (number d))
    (hshort : run + (ps.flatMap Part.source).length < base) :
    notesFrom base run (shown knows value ps).toList =
      (knownAmong knows ps).filterMap number := by
  induction ps generalizing run with
  | nil =>
      have hrun : run < base := by simpa using hshort
      simp [shown, knownAmong, notesFrom, noteOfRun_eq_nil hrun]
  | cons part rest ih =>
      rw [List.flatMap_cons, List.length_append] at hshort
      have hrest (d : Directive) (hd : d ∈ knownAmong knows rest) :
          value d = told base (number d) := by
        obtain ⟨hd, known⟩ := mem_knownAmong.mp hd
        exact htold d (mem_knownAmong.mpr ⟨List.mem_cons_of_mem part hd, known⟩)
      rw [shown_cons, String.toList_append]
      have hliteral (lit : List Char) (hlit : lit = part.source) :
          notesFrom base run (lit ++ (shown knows value rest).toList) =
            (knownAmong knows rest).filterMap number := by
        subst hlit
        obtain ⟨run', hrun', heq⟩ :=
          notesFrom_short part.source (shown knows value rest).toList hshort
        rw [heq, ih hrest hrun']
      cases part with
      | literal lit =>
          rw [shownPart, String.toList_ofList]
          exact hliteral lit rfl
      | directive d =>
          rw [shownPart]
          split
          · next known =>
              have hmore : knownAmong knows (.directive d :: rest) =
                  d :: knownAmong knows rest := by
                simp [knownAmong, known]
              rw [hmore] at htold ⊢
              rw [htold d List.mem_cons_self, told, String.toList_ofList]
              cases hnumber : number d with
              | none =>
                  rw [List.filterMap_cons_none hnumber]
                  exact ih hrest (by omega)
              | some n =>
                  rw [List.filterMap_cons_some hnumber, Option.elim, notesFrom_note (by omega),
                    ih hrest (by omega)]
          · next unknown =>
              have hmore : knownAmong knows (.directive d :: rest) = knownAmong knows rest := by
                simp [knownAmong, unknown]
              rw [hmore, text, String.toList_ofList]
              exact hliteral d.source rfl

theorem notes_shown {value : Directive → String} {number : Directive → Option Nat}
    (htold : ∀ d ∈ knownAmong knows (parts cs), value d = told base (number d))
    (hshort : cs.length < base) :
    notes base (shown knows value (parts cs)) = (knownAmong knows (parts cs)).filterMap number :=
  notesFrom_shown (parts cs) value number htold (by rwa [flatMap_source_parts, Nat.zero_add])

theorem told_injective : Function.Injective (told base) := by
  intro n n' h
  have hlist := String.ofList_inj.mp h
  cases n with
  | none => cases n' with
    | none => rfl
    | some n' => simp [note] at hlist
  | some n => cases n' with
    | none => simp [note] at hlist
    | some n' =>
        have hlength := congrArg List.length hlist
        simp only [Option.elim, note, List.length_cons, List.length_append, List.length_replicate,
          List.length_nil] at hlength
        rw [Nat.add_left_cancel (by omega : base + n = base + n')]

theorem tell_ne_empty (param : String) : tell base param ≠ "" := by
  intro h
  have hempty : told base none = "" := rfl
  have hnone := told_injective (h.trans hempty.symm)
  contradiction

theorem notes_eq_of_tell_eq {param param' : String} (h : tell base param = tell base param') :
    notes base param = notes base param' :=
  Encodable.encode_injective (Option.some.inj (told_injective h))

/-! ## What gives a memory away -/

/-- Two ways to choose numbers for members of a list choose the same, if the chosen numbers are the
same and one of the ways chooses a number always or never. -/
theorem eq_of_filterMap_eq {α β : Type} {f g : α → Option β} {xs : List α}
    (h : xs.filterMap f = xs.filterMap g)
    (uniform : (∀ x ∈ xs, g x = none) ∨ ∀ x ∈ xs, (g x).isSome) : ∀ x ∈ xs, f x = g x := by
  rcases uniform with hnone | hsome
  · rw [List.filterMap_eq_nil_iff.mpr hnone, List.filterMap_eq_nil_iff] at h
    exact fun x hx => (h x hx).trans (hnone x hx).symm
  · induction xs with
    | nil => exact fun _ hx => absurd hx List.not_mem_nil
    | cons x xs ih =>
        obtain ⟨b, hb⟩ := Option.isSome_iff_exists.mp (hsome x List.mem_cons_self)
        have hall (y : α) (hy : y ∈ xs) : (g y).isSome := hsome y (List.mem_cons_of_mem x hy)
        have hlength : (xs.filterMap g).length = xs.length := by
          rw [List.length_filterMap_eq_countP, List.countP_eq_length]
          exact hall
        rw [List.filterMap_cons_some hb] at h
        cases hx : f x with
        | none =>
            rw [List.filterMap_cons_none hx] at h
            have hle := List.length_filterMap_le f xs
            rw [h, List.length_cons, hlength] at hle
            omega
        | some c =>
            rw [List.filterMap_cons_some hx, List.cons.injEq] at h
            intro y hy
            rcases List.mem_cons.mp hy with rfl | hy
            · rw [hx, hb, h.1]
            · exact ih h.2 hall y hy

variable {memo : Memo} {n k : Nat} {d : Directive}

/-- The number that the value of a directive tells. -/
def numberAt (knows : String → Bool) (base : Nat) : Nat → Directive → Option Nat
  | 0, _ => none
  | k + 1, d => some (Encodable.encode (notes base
      (shown knows (valueAt knows (byNote base) k) (parts d.param))))

theorem valueAt_eq_told (k : Nat) (d : Directive) :
    valueAt knows (byNote base) k d = told base (numberAt knows base k d) := by
  cases k <;> rfl

/-- If what a memory shows has the notes of what is shown without memory, then the memory has the
values. -/
theorem kept_eq_of_notes_eq (grounded : Grounded knows (byNote base) memo)
    (covers : Covers knows memo (parts cs)) (hshort : cs.length < base)
    (hnotes : notes base (shown knows (kept memo) (parts cs)) =
      notes base (shown knows (valueAt knows (byNote base) n) (parts cs)))
    (hd : d ∈ knownAmong knows (parts cs)) :
    kept memo d = valueAt knows (byNote base) n d := by
  have hnumber (d : Directive) : ∃ number : Option Nat,
      d ∈ knownAmong knows (parts cs) → kept memo d = told base number := by
    by_cases hd : d ∈ knownAmong knows (parts cs)
    · obtain ⟨hd, known⟩ := mem_knownAmong.mp hd
      obtain ⟨v, hv⟩ := covers d hd known
      have hkept : kept memo d = v := by rw [kept, hv, Option.getD_some]
      rcases grounded d (isNamed_of_mem_parts hd) v hv with hempty | ⟨htell, -⟩
      · exact ⟨none, fun _ => hkept.trans hempty⟩
      · exact ⟨_, fun _ => hkept.trans htell⟩
    · exact ⟨none, fun h => absurd h hd⟩
  choose number hnumber using hnumber
  rw [notes_shown (fun d hd => hnumber d hd) hshort,
    notes_shown (fun d _ => valueAt_eq_told n d) hshort] at hnotes
  -- At one level there are either no notes at all or one for each directive, so that a missing note
  -- cannot be made up for by a neighbour.
  have uniform : (∀ d ∈ knownAmong knows (parts cs), numberAt knows base n d = none) ∨
      ∀ d ∈ knownAmong knows (parts cs), (numberAt knows base n d).isSome := by
    cases n with
    | zero => exact .inl fun _ _ => rfl
    | succ n => exact .inr fun _ _ => rfl
  rw [hnumber d hd, valueAt_eq_told, eq_of_filterMap_eq hnotes uniform d hd]

/-- If what a memory shows has the notes of what is shown without memory, then the memory has for
each directive that is reached the value that it has there. -/
theorem kept_eq_of_reaches (grounded : Grounded knows (byNote base) memo)
    (hd : Reaches knows n cs k d) (covers : Covers knows memo (parts cs))
    (hshort : cs.length < base)
    (hnotes : notes base (shown knows (kept memo) (parts cs)) =
      notes base (shown knows (valueAt knows (byNote base) n) (parts cs))) :
    kept memo d = valueAt knows (byNote base) k d := by
  induction hd with
  | here hd known =>
      exact kept_eq_of_notes_eq grounded covers hshort hnotes (mem_knownAmong.mpr ⟨hd, known⟩)
  | @inside n k cs d e hd known more ih =>
      have hkept : kept memo d = valueAt knows (byNote base) (n + 1) d :=
        kept_eq_of_notes_eq grounded covers hshort hnotes (mem_knownAmong.mpr ⟨hd, known⟩)
      obtain ⟨v, hv⟩ := covers d hd known
      have hv' : v = kept memo d := by rw [kept, hv, Option.getD_some]
      rcases grounded d (isNamed_of_mem_parts hd) v hv with hempty | ⟨htell, hcovers⟩
      · exact absurd (hkept.symm.trans (hv'.symm.trans hempty)) (tell_ne_empty _)
      · refine ih hcovers ?_ (notes_eq_of_tell_eq (htell.symm.trans (hv'.trans hkept)))
        have hlength := length_source_le hd
        have hparam := length_param_lt d
        omega

/-- If a pass with memory shows what a pass without memory shows, for handlers that answer with
notes longer than the text, then no directive is met both with no level left for it and with some.
-/
theorem steady_of_substitute_eq {s : String} (hshort : s.toList.length < base)
    (heq :
      ((substitute knows (evaluateWithin knows (byNote base) n) s).run []).1 =
        shown knows (valueAt knows (byNote base) n) (parts s.toList)) :
    Steady knows n s.toList := by
  obtain ⟨memo, grounded, covers, hshown⟩ :=
    substitute_kept knows (byNote base) n s
  rw [heq] at hshown
  intro d hnone k hsome
  have hempty := kept_eq_of_reaches grounded hnone covers hshort (by rw [hshown])
  have htell := kept_eq_of_reaches grounded hsome covers hshort (by rw [hshown])
  exact tell_ne_empty _ (htell.symm.trans hempty)

/-! ## Notes survive the way into a page -/

/-- Blanks around a parameter do not matter to the notes in it. -/
theorem notes_trim (hbase : 0 < base) (param : String) :
    notes base (Text.trim param) = notes base param := by
  have hrun : noteOfRun base 0 = [] := noteOfRun_eq_nil hbase
  have hblank {c : Char} (hc : Text.isBlank c = true) : c ≠ 'a' := by
    rintro rfl
    exact absurd hc (by decide)
  have hstart (cs : List Char) :
      notesFrom base 0 (Text.trimStartChars cs) = notesFrom base 0 cs := by
    induction cs with
    | nil => rfl
    | cons c cs ih =>
        rw [Text.trimStartChars, List.dropWhile_cons]
        split
        · next hc =>
            rw [notesFrom, if_neg (hblank hc), hrun, List.nil_append]
            exact ih
        · rfl
  have hbehind (run : Nat) (cs blanks : List Char) (h : ∀ c ∈ blanks, Text.isBlank c = true) :
      notesFrom base run (cs ++ blanks) = notesFrom base run cs := by
    induction cs generalizing run with
    | nil =>
        induction blanks generalizing run with
        | nil => rfl
        | cons c blanks ih =>
            have hnone := ih (fun c' hc' => h c' (List.mem_cons_of_mem c hc')) 0
            rw [List.nil_append] at hnone ⊢
            rw [notesFrom.eq_def base run (c :: blanks)]
            dsimp only
            rw [if_neg (hblank (h c List.mem_cons_self)), hnone]
            simp [notesFrom, hrun]
    | cons c cs ih => simp only [List.cons_append, notesFrom, ih]
  have hend (cs : List Char) : notesFrom base 0 (Text.trimEndChars cs) = notesFrom base 0 cs := by
    obtain ⟨blanks, hblanks, hcs, -⟩ := Text.trimEndChars_eq_iff.mp (Eq.refl (Text.trimEndChars cs))
    conv_rhs => rw [hcs]
    exact (hbehind 0 _ _ hblanks).symm
  rw [notes, notes, Text.trim, String.toList_ofList, Text.trimChars, hend, hstart]

theorem tell_trim (hbase : 0 < base) (param : String) :
    tell base (Text.trim param) = tell base param := by
  rw [tell, tell, notes_trim hbase]

/-- A note is plain text already. -/
theorem plainText_tell (param : String) : Html.plainText (tell base param) = tell base param := by
  have hcollapse (cs : List Char) (h : ∀ c ∈ cs, Text.isBlank c = false) (written : Bool) :
      Html.collapseFrom written false cs = cs := by
    induction cs generalizing written with
    | nil => rfl
    | cons c cs ih =>
        rw [Html.collapseFrom, if_neg (by simp [h c]), if_neg Bool.false_ne_true,
          ih fun c' hc' => h c' (List.mem_cons_of_mem c hc')]
  have hletters (n : Nat) (c : Char) (hc : c ∈ note base n) : c = 'a' ∨ c = 'b' := by
    simp only [note, List.mem_cons, List.mem_append, List.mem_replicate, List.not_mem_nil,
      or_false] at hc
    rcases hc with hc | ⟨-, hc⟩ | hc
    · exact .inr hc
    · exact .inl hc
    · exact .inr hc
  rw [Html.plainText, tell, told, String.toList_ofList, Option.elim, Html.stripChars, if_neg,
    Html.collapseBlanks, hcollapse]
  · intro c hc
    rcases hletters _ c hc with rfl | rfl <;> decide
  · intro hc
    rcases hletters _ '<' (List.contains_iff_mem.mp hc) with h | h <;> contradiction

end DynamicContent.Directive
