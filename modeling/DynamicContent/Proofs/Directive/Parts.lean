/-
# The parts of a text with directives

What a pass needs of the scanner: the parts are the text again, the name of each directive is a
name, and a directive is determined by its text. The last is why values may be kept under the texts
of directives at all.
-/

import DynamicContent.Directive.Basic
import Mathlib.Data.List.TakeWhile
import Mathlib.Data.Nat.Init

namespace DynamicContent.Directive

/-- The parameter of a directive is followed by the brace that closes it. -/
theorem takeBalanced?_eq_some {opened : Nat} {cs param : List Char}
    (hfound : takeBalanced? opened cs = some param) : ∃ rest, cs = param ++ '}' :: rest := by
  induction cs generalizing opened param with
  | nil => simp [takeBalanced?] at hfound
  | cons c cs ih =>
      unfold takeBalanced? at hfound
      split at hfound
      · next hclose =>
          cases opened with
          | zero =>
              obtain rfl := Option.some.inj hfound
              exact ⟨cs, by simp [hclose]⟩
          | succ opened =>
              obtain ⟨inner, hinner, rfl⟩ := Option.map_eq_some_iff.mp hfound
              obtain ⟨rest, rfl⟩ := ih hinner
              exact ⟨rest, rfl⟩
      · obtain ⟨inner, hinner, rfl⟩ := Option.map_eq_some_iff.mp hfound
        obtain ⟨rest, rfl⟩ := ih hinner
        exact ⟨rest, rfl⟩

/-- The name of a directive is a name. -/
def IsNamed (d : Directive) : Prop := ∀ c ∈ d.name, isNameChar c = true

/-- A directive stands in front of the text that it is found in front of. -/
theorem at?_eq_some {cs : List Char} {d : Directive} (hfound : at? cs = some d) :
    d.IsNamed ∧ ∃ rest, cs = d.source ++ rest := by
  unfold at? at hfound
  split at hfound
  · next cs =>
      dsimp only at hfound
      split at hfound
      · next rest hrest =>
          simp only [Option.ite_none_right_eq_some, Option.map_eq_some_iff] at hfound
          obtain ⟨-, param, hparam, rfl⟩ := hfound
          obtain ⟨behind, rfl⟩ := takeBalanced?_eq_some hparam
          refine ⟨fun c hc => List.mem_takeWhile_imp hc, behind, ?_⟩
          have hname : cs = cs.takeWhile isNameChar ++ ':' :: (param ++ '}' :: behind) := by
            rw [← hrest]
            exact (List.prefix_iff_eq_append.mp (List.takeWhile_prefix isNameChar)).symm
          simpa [source] using hname
      · contradiction
  · contradiction

/-- Skipped characters belong to the directive before and to nothing else. -/
theorem partsFrom_skip (pending : List Char) (skip : Nat) (cs : List Char) :
    partsFrom pending skip cs = partsFrom pending 0 (cs.drop skip) := by
  induction cs generalizing skip with
  | nil => cases skip <;> simp [partsFrom]
  | cons c cs ih =>
      cases skip with
      | zero => rfl
      | succ skip => rw [partsFrom, ih, List.drop_succ_cons]

/-- Behind a directive the scanner goes on with nothing pending. -/
theorem partsFrom_source {d : Directive} {rest : List Char} (pending : List Char)
    (hfound : at? (d.source ++ rest) = some d) :
    partsFrom pending 0 (d.source ++ rest) = flush pending ++ .directive d :: parts rest := by
  rw [source, List.cons_append] at hfound ⊢
  rw [partsFrom, hfound]
  dsimp only
  rw [partsFrom_skip, parts]
  simp [source]

/-- A character that begins no directive joins the pending run. -/
theorem partsFrom_cons {c : Char} {cs : List Char} (pending : List Char) (h : at? (c :: cs) = none) :
    partsFrom pending 0 (c :: cs) = partsFrom (c :: pending) 0 cs := by
  rw [partsFrom, h]

/-- What a scan keeps is true of every text: it goes on behind a directive with nothing pending, and
behind a character that begins none with that character pending. -/
theorem scan_induction {motive : List Char → List Char → Prop}
    (nil : ∀ pending, motive pending [])
    (found : ∀ pending (d : Directive) rest, d.IsNamed → at? (d.source ++ rest) = some d →
      motive [] rest → motive pending (d.source ++ rest))
    (passed : ∀ pending c cs, at? (c :: cs) = none → motive (c :: pending) cs →
      motive pending (c :: cs))
    (pending cs : List Char) : motive pending cs := by
  induction hlength : cs.length using Nat.strong_induction_on generalizing pending cs with
  | _ length ih =>
    cases cs with
    | nil => exact nil pending
    | cons c cs =>
        cases hfound : at? (c :: cs) with
        | none => exact passed pending c cs hfound (ih cs.length (by simp [← hlength]) _ cs rfl)
        | some d =>
            obtain ⟨hnamed, rest, hsource⟩ := at?_eq_some hfound
            have hshorter : rest.length < length := by
              rw [← hlength, hsource, List.length_append]
              simp [source]
            rw [hsource] at hfound ⊢
            exact found pending d rest hnamed hfound (ih rest.length hshorter [] rest rfl)

/-- The text of a pending run is the run. -/
theorem flatMap_source_flush (pending : List Char) :
    (flush pending).flatMap Part.source = pending.reverse := by
  cases pending <;> simp [flush, Part.source]

/-- The parts after a pending run are the run and the text again, and their directives are named. -/
theorem partsFrom_spec (pending cs : List Char) :
    (partsFrom pending 0 cs).flatMap Part.source = pending.reverse ++ cs ∧
      ∀ d, Part.directive d ∈ partsFrom pending 0 cs → d.IsNamed := by
  have hflush (pending : List Char) (d : Directive) : Part.directive d ∉ flush pending := by
    cases pending <;> simp [flush]
  induction pending, cs using scan_induction with
  | nil pending =>
      rw [partsFrom]
      exact ⟨by simp [flatMap_source_flush], fun d hd => absurd hd (hflush pending d)⟩
  | found pending d rest hnamed hfound ih =>
      obtain ⟨hmore, hdirectives⟩ := ih
      rw [partsFrom_source pending hfound, parts]
      constructor
      · simp [flatMap_source_flush, hmore, Part.source]
      · intro e he
        rcases List.mem_append.mp he with he | he
        · exact absurd he (hflush pending e)
        · rcases List.mem_cons.mp he with he | he
          · obtain rfl := Part.directive.inj he
            exact hnamed
          · exact hdirectives e he
  | passed pending c cs hnone ih =>
      rw [partsFrom_cons pending hnone]
      exact ⟨by simp [ih.1], ih.2⟩

/-- The parts of a text are the text again. -/
theorem flatMap_source_parts (cs : List Char) : (parts cs).flatMap Part.source = cs :=
  (partsFrom_spec [] cs).1

/-- The directives in a text are named. -/
theorem isNamed_of_mem_parts {cs : List Char} {d : Directive} (hd : .directive d ∈ parts cs) :
    d.IsNamed :=
  (partsFrom_spec [] cs).2 d hd

/-- A directive is determined by its text: its name is all that looks like a name. -/
theorem IsNamed.source_inj {d e : Directive} (hd : d.IsNamed) (he : e.IsNamed)
    (hsource : d.source = e.source) : d = e := by
  have htake {f : Directive} (hf : f.IsNamed) :
      (f.name ++ ':' :: (f.param ++ ['}'])).takeWhile isNameChar = f.name := by
    rw [List.takeWhile_append_of_pos hf]
    simp [isNameChar]
  simp only [source, List.cons.injEq, true_and] at hsource
  have hname : d.name = e.name := by rw [← htake hd, hsource, htake he]
  rw [hname, List.append_cancel_left_eq, List.cons.injEq] at hsource
  have hparam := List.append_cancel_right hsource.2
  obtain ⟨name, param⟩ := d
  obtain ⟨name', param'⟩ := e
  exact congrArg₂ Directive.mk hname hparam

end DynamicContent.Directive
