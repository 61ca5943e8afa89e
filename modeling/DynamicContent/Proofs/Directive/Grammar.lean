/-
# The grammar of directives

The scanner reads character by character and counts the braces that are open. What it accepts can be
said without that count: a name of two or more letters or underscores, and a parameter that is over at
the first closing brace before which braces balance. An opening brace of which no such text stands in
front is passed over alone, so what is nested in it is still found: the search gives the leftmost of
all places at which a directive stands, and nothing only if there is none.
-/

import DynamicContent.Proofs.Directive.Parts

namespace DynamicContent.Directive

/-! ## The form of a directive -/

/-- As many braces are closed in a text as are opened. -/
def Balances (cs : List Char) : Prop := cs.count '{' = cs.count '}'

instance : DecidablePred Balances := fun _ => inferInstanceAs (Decidable (_ = _))

/-- The form of a directive. The name is all that looks like a name, since the `:` behind it does not.
The brace behind the parameter balances those opened since the start, the one of the directive
included, exactly if those of the parameter balance; and it is the first to do so, for before no brace
that is closed within the parameter do they. -/
structure IsWellFormed (d : Directive) : Prop where
  named : d.IsNamed
  long : minNameLength ≤ d.name.length
  balances : Balances d.param
  first : ∀ front, front ++ ['}'] <+: d.param → ¬ Balances front

/-- A directive of the right form stands in a text, behind so much of it. -/
def Stands (d : Directive) (before cs : List Char) : Prop :=
  d.IsWellFormed ∧ before ++ d.source <+: cs

/-! ## The parameter -/

/-- The brace behind a text closes so many open ones and one more, and none before it does. -/
def Closes (opened : Nat) (param : List Char) : Prop :=
  opened + param.count '{' = param.count '}' ∧
    ∀ front, front ++ ['}'] <+: param → opened + front.count '{' ≠ front.count '}'

theorem closes_nil {opened : Nat} : Closes opened [] ↔ opened = 0 := by
  simp [Closes]

/-- A closing brace in front of a text is one of those that were open. -/
theorem closes_cons_close {opened : Nat} {param : List Char} :
    Closes opened ('}' :: param) ↔ ∃ fewer, opened = fewer + 1 ∧ Closes fewer param := by
  constructor
  · rintro ⟨hcount, hfirst⟩
    have hopen : opened ≠ 0 := by simpa using hfirst [] (by simp)
    obtain ⟨fewer, rfl⟩ := Nat.exists_eq_succ_of_ne_zero hopen
    refine ⟨fewer, rfl, ?_, fun front hfront => ?_⟩
    · simp at hcount
      omega
    · have hlater := hfirst ('}' :: front) (by simpa using hfront)
      simp at hlater
      omega
  · rintro ⟨fewer, rfl, hcount, hfirst⟩
    refine ⟨by simp; omega, fun front hfront => ?_⟩
    cases front with
    | nil => simp
    | cons d front =>
        obtain ⟨rfl, hinner⟩ := List.cons_prefix_cons.mp hfront
        have hlater := hfirst front hinner
        simp
        omega

/-- Any other character in front of a text closes nothing, and an opening brace opens one more. -/
theorem closes_cons_of_ne {c : Char} (hc : c ≠ '}') {opened : Nat} {param : List Char} :
    Closes opened (c :: param) ↔ Closes (if c = '{' then opened + 1 else opened) param := by
  have hcount (front : List Char) : opened + (c :: front).count '{' =
      (if c = '{' then opened + 1 else opened) + front.count '{' := by
    rw [List.count_cons]
    split <;> simp_all
    omega
  have hclosed (front : List Char) : (c :: front).count '}' = front.count '}' :=
    List.count_cons_of_ne (by simpa using hc)
  rw [Closes, Closes, hcount, hclosed]
  refine and_congr_right fun _ => ⟨fun hfirst front hfront => ?_, fun hfirst front hfront => ?_⟩
  · rw [← hcount, ← hclosed front]
    exact hfirst (c :: front) (by simpa using hfront)
  · cases front with
    | nil => simp [List.cons_prefix_cons, Ne.symm hc] at hfront
    | cons d front =>
        obtain ⟨rfl, hinner⟩ := List.cons_prefix_cons.mp hfront
        rw [hcount, hclosed]
        exact hfirst front hinner

/-- What is taken is the text before the first brace that closes all that are open. -/
theorem takeBalanced?_eq_some_iff {opened : Nat} {cs param : List Char} :
    takeBalanced? opened cs = some param ↔ param ++ ['}'] <+: cs ∧ Closes opened param := by
  induction cs generalizing opened param with
  | nil => simp [takeBalanced?]
  | cons c cs ih =>
      unfold takeBalanced?
      by_cases hc : c = '}'
      · subst hc
        rw [if_pos rfl]
        cases param with
        | nil => cases opened <;> simp [closes_nil]
        | cons d param =>
            rw [List.cons_append, List.cons_prefix_cons, and_assoc]
            by_cases hd : d = '}'
            · subst hd
              cases opened <;> simp [closes_cons_close, ih]
            · cases opened <;> simp [hd, Ne.symm hd]
      · rw [if_neg hc]
        cases param with
        | nil => simp [List.cons_prefix_cons, Ne.symm hc]
        | cons d param =>
            rw [List.cons_append, List.cons_prefix_cons, and_assoc]
            by_cases hd : d = c
            · subst hd
              simp [closes_cons_of_ne hc, ih]
            · simp [hd, Ne.symm hd]

/-! ## The front of a text -/

theorem closes_zero_iff {param : List Char} :
    Closes 0 param ↔ Balances param ∧ ∀ front, front ++ ['}'] <+: param → ¬ Balances front := by
  simp [Closes, Balances]

/-- A directive is found in front of a text exactly if one of the right form stands there. -/
theorem at?_eq_some_iff {cs : List Char} {d : Directive} :
    at? cs = some d ↔ d.IsWellFormed ∧ d.source <+: cs := by
  have htake (hnamed : d.IsNamed) (rest : List Char) :
      (d.name ++ ':' :: rest).takeWhile isNameChar = d.name := by
    rw [List.takeWhile_append_of_pos hnamed]
    simp [isNameChar]
  have hat (hnamed : d.IsNamed) (rest : List Char) : at? ('{' :: (d.name ++ ':' :: rest)) =
      if minNameLength ≤ d.name.length then
        (takeBalanced? 0 rest).map fun param => ⟨d.name, param⟩
      else none := by
    simp [at?, htake hnamed]
  constructor
  · intro hfound
    obtain ⟨hnamed, rest, rfl⟩ := at?_eq_some hfound
    refine ⟨?_, List.prefix_append d.source rest⟩
    have hsource : d.source ++ rest = '{' :: (d.name ++ ':' :: (d.param ++ '}' :: rest)) := by
      simp [source]
    rw [hsource, hat hnamed, Option.ite_none_right_eq_some, Option.map_eq_some_iff] at hfound
    obtain ⟨hlong, param, hparam, hd⟩ := hfound
    obtain rfl : param = d.param := congrArg Directive.param hd
    obtain ⟨hbalances, hfirst⟩ := closes_zero_iff.mp (takeBalanced?_eq_some_iff.mp hparam).2
    exact ⟨hnamed, hlong, hbalances, hfirst⟩
  · rintro ⟨⟨hnamed, hlong, hbalances, hfirst⟩, rest, rfl⟩
    have hsource : d.source ++ rest = '{' :: (d.name ++ ':' :: (d.param ++ '}' :: rest)) := by
      simp [source]
    have hparam : takeBalanced? 0 (d.param ++ '}' :: rest) = some d.param :=
      takeBalanced?_eq_some_iff.mpr ⟨⟨rest, by simp⟩, closes_zero_iff.mpr ⟨hbalances, hfirst⟩⟩
    rw [hsource, hat hnamed, if_pos hlong, hparam, Option.map_some]

/-! ## The search -/

theorem stands_nil_iff {d : Directive} {cs : List Char} :
    d.Stands [] cs ↔ at? cs = some d := by
  rw [at?_eq_some_iff, Stands, List.nil_append]

theorem stands_cons_iff {d : Directive} {c b : Char} {before cs : List Char} :
    d.Stands (b :: before) (c :: cs) ↔ b = c ∧ d.Stands before cs := by
  rw [Stands, Stands, List.cons_append, List.cons_prefix_cons, and_left_comm]

/-- Where no directive stands in front, one that stands in a text stands behind its first character. -/
theorem exists_stands_of_at?_eq_none {c : Char} {cs before : List Char} {d : Directive}
    (hnone : at? (c :: cs) = none) (hstands : d.Stands before (c :: cs)) :
    ∃ later, before = c :: later ∧ d.Stands later cs := by
  cases before with
  | nil =>
      rw [stands_nil_iff, hnone] at hstands
      contradiction
  | cons b later =>
      obtain ⟨rfl, hlater⟩ := stands_cons_iff.mp hstands
      exact ⟨later, rfl, hlater⟩

/-- The search gives the leftmost of the directives that stand in a text. -/
theorem next?_eq_some_iff {cs before rest : List Char} {d : Directive} :
    next? cs = some (before, d, rest) ↔
      cs = before ++ (d.source ++ rest) ∧ d.IsWellFormed ∧
        ∀ (e : Directive) (front : List Char), e.Stands front cs → before.length ≤ front.length := by
  induction cs generalizing before with
  | nil => simp [next?, source]
  | cons c cs ih =>
      rw [next?]
      cases hfound : at? (c :: cs) with
      | some e =>
          obtain ⟨hform, behind, hsource⟩ := at?_eq_some_iff.mp hfound
          constructor
          · intro hnext
            obtain ⟨rfl, rfl, rfl⟩ : [] = before ∧ e = d ∧ (c :: cs).drop e.source.length = rest := by
              simpa using hnext
            refine ⟨?_, hform, fun _ front _ => Nat.zero_le front.length⟩
            rw [← hsource, List.drop_left, List.nil_append]
          · rintro ⟨hsplit, hd, hleft⟩
            obtain rfl : before = [] := List.eq_nil_of_length_eq_zero
              (Nat.le_zero.mp (hleft e [] (stands_nil_iff.mpr hfound)))
            rw [List.nil_append] at hsplit
            have hsame : at? (c :: cs) = some d := at?_eq_some_iff.mpr ⟨hd, rest, hsplit.symm⟩
            obtain rfl : e = d := Option.some.inj (hfound.symm.trans hsame)
            dsimp only
            rw [hsplit, List.drop_left]
      | none =>
          constructor
          · intro hnext
            obtain ⟨⟨later, e, behind⟩, hlater, heq⟩ := Option.map_eq_some_iff.mp hnext
            obtain ⟨rfl, rfl, rfl⟩ : c :: later = before ∧ e = d ∧ behind = rest := by
              simpa using heq
            obtain ⟨hsplit, hform, hleft⟩ := ih.mp hlater
            refine ⟨by rw [hsplit, List.cons_append], hform, fun e front hstands => ?_⟩
            obtain ⟨nearer, rfl, hnearer⟩ := exists_stands_of_at?_eq_none hfound hstands
            exact Nat.succ_le_succ (hleft e nearer hnearer)
          · rintro ⟨hsplit, hform, hleft⟩
            have hstands : d.Stands before (c :: cs) := ⟨hform, rest, by simp [hsplit]⟩
            obtain ⟨later, rfl, -⟩ := exists_stands_of_at?_eq_none hfound hstands
            have hlater : next? cs = some (later, d, rest) := by
              refine ih.mpr ⟨by simpa using hsplit, hform, fun e front hstands => ?_⟩
              exact Nat.le_of_succ_le_succ
                (hleft e (c :: front) (stands_cons_iff.mpr ⟨rfl, hstands⟩))
            rw [hlater, Option.map_some]

/-- The search gives nothing exactly if no directive stands in a text. -/
theorem next?_eq_none_iff {cs : List Char} :
    next? cs = none ↔ ∀ (d : Directive) (before : List Char), ¬ d.Stands before cs := by
  induction cs with
  | nil => simp [next?, Stands, source]
  | cons c cs ih =>
      rw [next?]
      cases hfound : at? (c :: cs) with
      | some d =>
          have hstands : d.Stands [] (c :: cs) := stands_nil_iff.mpr hfound
          simpa using ⟨d, [], hstands⟩
      | none =>
          rw [Option.map_eq_none_iff, ih]
          refine ⟨fun habsent d before hstands => ?_, fun habsent d before hstands => ?_⟩
          · obtain ⟨later, -, hlater⟩ := exists_stands_of_at?_eq_none hfound hstands
            exact habsent d later hlater
          · exact habsent d (c :: before) (stands_cons_iff.mpr ⟨rfl, hstands⟩)

end DynamicContent.Directive
