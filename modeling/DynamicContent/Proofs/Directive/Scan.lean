/-
# Scanning for directives

To scan a text is to look for the first directive, then for the first one behind it, and so on. What is
found that way are the directives among the parts of the text, so a pass meets them in that order, and
none that stand within others. If none of them has a name that is known, a pass changes nothing: what
is not a directive is copied, and so is the text of each directive with all that is in it.
-/

import DynamicContent.Proofs.Directive.Parts
import DynamicContent.Directive.Substitution

namespace DynamicContent.Directive

/-- A directive that is found stands between what comes before it and what follows. -/
theorem next?_eq_some {cs before rest : List Char} {d : Directive}
    (h : next? cs = some (before, d, rest)) : cs = before ++ (d.source ++ rest) := by
  induction cs generalizing before with
  | nil => contradiction
  | cons c cs ih =>
      rw [next?] at h
      split at h
      · next e hfound =>
          obtain ⟨rfl, rfl, rfl⟩ : [] = before ∧ e = d ∧ (c :: cs).drop e.source.length = rest := by
            simpa using h
          obtain ⟨-, rest, hsource⟩ := at?_eq_some hfound
          rw [hsource, List.drop_left, List.nil_append]
      · obtain ⟨⟨before, e, rest⟩, hnext, heq⟩ := Option.map_eq_some_iff.mp h
        obtain ⟨rfl, rfl, rfl⟩ : c :: before = _ ∧ e = d ∧ rest = _ := by simpa using heq
        rw [ih hnext, List.cons_append]

theorem length_lt_of_next? {cs before rest : List Char} {d : Directive}
    (h : next? cs = some (before, d, rest)) : rest.length < cs.length := by
  rw [next?_eq_some h]
  simp [source]
  omega

/-- The directives that are found one behind the other. -/
def scan (cs : List Char) : List Directive :=
  match _hnext : next? cs with
  | none => []
  | some (_, d, rest) => d :: scan rest
termination_by cs.length
decreasing_by exact length_lt_of_next? _hnext

theorem scan_of_next?_eq_none {cs : List Char} (h : next? cs = none) : scan cs = [] := by
  rw [scan]
  split
  · rfl
  · next hnext => rw [h] at hnext; contradiction

theorem scan_of_next?_eq_some {cs before rest : List Char} {d : Directive}
    (h : next? cs = some (before, d, rest)) : scan cs = d :: scan rest := by
  rw [scan]
  split
  · next hnext => rw [h] at hnext; contradiction
  · next hnext =>
      rw [h] at hnext
      obtain ⟨-, rfl, rfl⟩ : before = _ ∧ d = _ ∧ rest = _ := by simpa using hnext
      rfl

/-- In front of a directive the scan goes on behind it. -/
theorem scan_source {d : Directive} {rest : List Char} (hfound : at? (d.source ++ rest) = some d) :
    scan (d.source ++ rest) = d :: scan rest := by
  have hnext : next? (d.source ++ rest) = some ([], d, rest) := by
    rw [source, List.cons_append] at hfound ⊢
    rw [next?, hfound]
    simp [source]
  exact scan_of_next?_eq_some hnext

/-- Where no directive stands the scan goes on with the next character. -/
theorem scan_cons {c : Char} {cs : List Char} (h : at? (c :: cs) = none) :
    scan (c :: cs) = scan cs := by
  cases hnext : next? cs with
  | none =>
      have hstep : next? (c :: cs) = none := by rw [next?, h, hnext]; rfl
      rw [scan_of_next?_eq_none hstep, scan_of_next?_eq_none hnext]
  | some found =>
      obtain ⟨before, d, rest⟩ := found
      have hstep : next? (c :: cs) = some (c :: before, d, rest) := by rw [next?, h, hnext]; rfl
      rw [scan_of_next?_eq_some hstep, scan_of_next?_eq_some hnext]

/-- The directive that a part is, if it is one. -/
def Part.directive? : Part → Option Directive
  | literal _ => none
  | directive d => some d

/-- What is scanned for is what stands among the parts, whatever literal run comes before them. -/
theorem filterMap_partsFrom (pending cs : List Char) :
    (partsFrom pending 0 cs).filterMap Part.directive? = scan cs := by
  have hflush (pending : List Char) : (flush pending).filterMap Part.directive? = [] := by
    cases pending <;> simp [flush, Part.directive?]
  induction pending, cs using scan_induction with
  | nil pending => rw [partsFrom, hflush, scan_of_next?_eq_none rfl]
  | found pending d rest _ hfound ih =>
      rw [partsFrom_source pending hfound, scan_source hfound, List.filterMap_append, hflush,
        List.nil_append, parts]
      exact congrArg (d :: ·) ih
  | passed pending c cs hnone ih => rw [partsFrom_cons pending hnone, scan_cons hnone, ih]

/-- What is scanned for is what stands among the parts. -/
theorem filterMap_parts (cs : List Char) : (parts cs).filterMap Part.directive? = scan cs :=
  filterMap_partsFrom [] cs

section

variable {m : Type → Type} [Monad m] [LawfulMonad m] {knows : String → Bool}
  {evaluate : Directive → StateT Memo m String}

/-- Parts among which no directive is known are copied. -/
theorem replaceParts_of_unknown {ps : List Part}
    (h : ∀ d ∈ ps.filterMap Part.directive?, knows d.nameText = false) :
    replaceParts knows evaluate ps = pure (String.ofList (ps.flatMap Part.source)) := by
  induction ps with
  | nil => rfl
  | cons part rest ih =>
      have hrest : ∀ d ∈ rest.filterMap Part.directive?, knows d.nameText = false := by
        intro d hd
        refine h d ?_
        cases part with
        | literal run => exact hd
        | directive e => exact List.mem_cons_of_mem e hd
      have hpart : replacePart knows evaluate part = pure (String.ofList part.source) := by
        cases part with
        | literal run => rfl
        | directive d =>
            have hunknown : knows d.nameText = false := h d List.mem_cons_self
            rw [replacePart, hunknown]
            rfl
      rw [replaceParts, hpart, ih hrest, pure_bind, pure_bind, List.flatMap_cons,
        String.ofList_append]

/-- A pass over a text in which no directive is known changes nothing. -/
theorem substitute_of_unknown {s : String}
    (h : ∀ d ∈ scan s.toList, knows d.nameText = false) :
    substitute knows evaluate s = pure s := by
  rw [← filterMap_parts] at h
  rw [substitute, replaceParts_of_unknown h, flatMap_source_parts, String.ofList_toList]

/-- A text that a pass does not change is settled. -/
theorem settle_of_pass_eq_pure {pass : String → m String} {s : String} (h : pass s = pure s)
    {n : Nat} (hn : 0 < n) : settle pass n s = pure (s, true) := by
  obtain ⟨n, rfl⟩ := Nat.exists_eq_succ_of_ne_zero (Nat.ne_of_gt hn)
  rw [settle, h, pure_bind, if_pos rfl]

end

end DynamicContent.Directive
