/-
# Numbers of machines read back

An address of version 4 has 32 bits. Its text has them as four decimal numbers, which is one of the forms
in which such an address is read.

An address of version 6 has eight pieces of 16 bits. Its text has them in base 16, without the first
longest run of zeros, for which a double colon stands; from the text the eight pieces are read back.
-/

import DynamicContent.Proofs.Number.Integer
import DynamicContent.Proofs.Text.Cutting
import DynamicContent.Proofs.Url.DomainName
import DynamicContent.Url.Host
import Mathlib.Data.List.Induction
import Mathlib.Data.Nat.Basic
import Mathlib.Tactic.Ring

namespace DynamicContent.Url

/-! ## Version 4 -/

section Version4

variable {address n : Nat} {name : List Char}

/-! ### Bits -/

/-- A digit in front of a number below a power gives a number below the next power. -/
theorem add_mul_pow_lt {b x k : Nat} (hx : x < b ^ k) (hn : n < b) : x + n * b ^ k < b ^ (k + 1) :=
  calc x + n * b ^ k < b ^ k + n * b ^ k := Nat.add_lt_add_right hx _
    _ = (n + 1) * b ^ k := by ring
    _ ≤ b * b ^ k := Nat.mul_le_mul_right _ hn
    _ = b ^ (k + 1) := Nat.pow_succ'.symm

/-- Numbers as digits in front of a number, the first of them with the third power of the base. -/
def withFront (b : Nat) (front : List Nat) (last : Nat) : Nat :=
  front.zipIdx.foldl (fun total (n, i) => total + n * Nat.pow b (3 - i)) last

theorem withFront_concat (b n : Nat) (front : List Nat) (last : Nat) :
    withFront b (front ++ [n]) last = withFront b front (last + n * Nat.pow b (3 - front.length)) := by
  have hcomm (digits : List (Nat × Nat)) (last more : Nat) :
      digits.foldl (fun total (n, i) => total + n * Nat.pow b (3 - i)) last + more =
        digits.foldl (fun total (n, i) => total + n * Nat.pow b (3 - i)) (last + more) := by
    induction digits generalizing last with
    | nil => rfl
    | cons digit digits ih => rw [List.foldl_cons, List.foldl_cons, ih, Nat.add_right_comm]
  rw [withFront, withFront, List.zipIdx_append, List.foldl_append, List.zipIdx_singleton,
    Nat.zero_add, ← hcomm]
  rfl

/-- A number that leaves place for the digits in front of it is with them below the fourth power. -/
theorem withFront_lt {b : Nat} {front : List Nat} {last : Nat} (hlength : front.length ≤ 3)
    (hfront : ∀ n ∈ front, n < b) (hlast : last < b ^ (4 - front.length)) :
    withFront b front last < b ^ 4 := by
  induction front using List.reverseRecOn generalizing last with
  | nil => exact hlast
  | append_singleton front n ih =>
      rw [List.length_append, List.length_singleton] at hlength hlast
      obtain ⟨hfront, hn⟩ := List.forall_mem_append.mp hfront
      rw [withFront_concat]
      refine ih (by omega) hfront ?_
      have hpower : 4 - front.length = 3 - front.length + 1 := by omega
      rw [show 4 - (front.length + 1) = 3 - front.length by omega] at hlast
      rw [hpower]
      exact add_mul_pow_lt hlast (hn n List.mem_cons_self)

/-- A number below the fourth power is told by its four digits. -/
theorem withFront_digits {b : Nat} (h : n < b ^ 4) :
    withFront b [n / Nat.pow b 3 % b, n / Nat.pow b 2 % b, n / Nat.pow b 1 % b] (n / Nat.pow b 0 % b) =
      n := by
  have hthird : n / b / b / b % b = n / b / b / b := by
    refine Nat.mod_eq_of_lt ?_
    rw [Nat.div_div_eq_div_mul, Nat.div_div_eq_div_mul]
    exact Nat.div_lt_of_lt_mul (h.trans_eq (by ring))
  have hdigits : [n / Nat.pow b 3 % b, n / Nat.pow b 2 % b, n / Nat.pow b 1 % b] =
      [n / b / b / b % b, n / b / b % b, n / b % b] := by
    simp only [Nat.pow_eq, Nat.div_div_eq_div_mul, Nat.pow_succ, Nat.pow_zero, Nat.one_mul]
  have hlast : n / Nat.pow b 0 % b = n % b := congrArg (· % b) (Nat.div_one n)
  rw [hdigits, hlast, hthird]
  calc n % b + n / b / b / b * b ^ 3 + n / b / b % b * b ^ 2 + n / b % b * b ^ 1
      = b * (b * (b * (n / b / b / b) + n / b / b % b) + n / b % b) + n % b := by ring
    _ = n := by rw [Nat.div_add_mod, Nat.div_add_mod, Nat.div_add_mod]

/-- An address that a name stands for has 32 bits. -/
theorem ipv4OfName?_lt (h : ipv4OfName? name = some address) : address < 256 ^ 4 := by
  unfold ipv4OfName? at h
  dsimp only at h
  obtain ⟨hcount, h⟩ := Option.ite_none_left_eq_some.mp h
  obtain ⟨numbers, hnumbers, h⟩ := Option.bind_eq_some_iff.mp h
  obtain ⟨last, hlast, h⟩ := Option.bind_eq_some_iff.mp h
  obtain ⟨hbounds, h⟩ := Option.ite_none_right_eq_some.mp h
  obtain ⟨front, rfl⟩ := List.getLast?_eq_some_iff.mp hlast
  have hlength := (mapM_eq_some_iff.mp hnumbers).length_eq
  rw [List.length_append, List.length_singleton] at hlength
  simp only [List.dropLast_concat, Bool.and_eq_true, decide_eq_true_eq, List.all_eq_true] at hbounds
  rw [List.dropLast_concat] at h
  rw [← Option.some.inj h]
  exact withFront_lt (by omega) (fun n hn => Nat.lt_succ_of_le (hbounds.2 n hn)) hbounds.1

/-! ### Text -/

/-- A decimal number of 8 bits is read. -/
theorem ipv4Number?_natText (h : n < 256) : ipv4Number? (Number.natText n) = some (some n) := by
  have hall : ∀ n < 256, ipv4Number? (Number.natText n) = some (some n) := by decide +kernel
  exact hall n h

/-- The labels of the text of an address. -/
def ipv4Labels (address : Nat) : List (List Char) :=
  [3, 2, 1, 0].map fun i => Number.natText (address / Nat.pow 256 i % 256)

theorem toList_ipv4Text (address : Nat) : (ipv4Text address).toList = dotted (ipv4Labels address) := by
  unfold ipv4Text
  rw [String.toList_intercalate, List.map_map]
  exact congrArg (List.intercalate ['.']) (List.map_congr_left fun _ _ => String.toList_ofList)

theorem isDigit_of_mem_ipv4Labels {label : List Char} (hlabel : label ∈ ipv4Labels address) {c : Char}
    (hc : c ∈ label) : c.isDigit = true := by
  obtain ⟨i, -, rfl⟩ := List.mem_map.mp hlabel
  exact Number.isDigit_of_mem_natText hc

theorem splitAtEach_ipv4Text (address : Nat) :
    Text.splitAtEach (· == '.') (ipv4Text address).toList = ipv4Labels address := by
  rw [toList_ipv4Text]
  refine Text.splitAtEach_flatten_intersperse rfl (List.cons_ne_nil _ _) fun label hlabel c hc => ?_
  refine beq_eq_false_iff_ne.mpr ?_
  rintro rfl
  exact absurd (isDigit_of_mem_ipv4Labels hlabel hc) (by decide)

/-- The text of an address has digits and dots. -/
theorem mem_ipv4Text {c : Char} (h : c ∈ (ipv4Text address).toList) : c = '.' ∨ c.isDigit = true := by
  rw [toList_ipv4Text] at h
  exact (Text.of_mem_flatten_intersperse h).imp_right fun ⟨_, hlabel, hc⟩ =>
    isDigit_of_mem_ipv4Labels hlabel hc

theorem getLast?_ipv4Labels (address : Nat) :
    (ipv4Labels address).getLast? = some (Number.natText (address % 256)) := by
  show some (Number.natText (address / 1 % 256)) = _
  rw [Nat.div_one]

/-- An address is read back from its text. -/
theorem ipv4OfName?_ipv4Text (h : address < 256 ^ 4) :
    ipv4OfName? (ipv4Text address).toList = some address := by
  have hlast : ¬ ((ipv4Labels address).getLast? == some []) = true := by
    rw [getLast?_ipv4Labels]
    simpa using Number.natText_ne_nil _
  have hnumbers : ((ipv4Labels address).mapM fun label => (ipv4Number? label).join) =
      some ([3, 2, 1, 0].map fun i => address / Nat.pow 256 i % 256) := by
    rw [mapM_eq_some_iff, ipv4Labels, List.forall₂_map_left_iff, List.forall₂_map_right_iff,
      List.forall₂_same]
    exact fun i _ => congrArg Option.join (ipv4Number?_natText (Nat.mod_lt _ (by decide)))
  unfold ipv4OfName?
  dsimp only
  rw [splitAtEach_ipv4Text, if_neg hlast, hnumbers, if_neg (by simp [ipv4Labels])]
  refine Option.ite_none_right_eq_some.mpr ⟨?_, congrArg some (withFront_digits h)⟩
  have hsmall (n : Nat) : n % 256 ≤ 255 := Nat.le_of_lt_succ (Nat.mod_lt n (by decide))
  simpa using ⟨Nat.mod_lt _ (by decide), hsmall _, hsmall _, hsmall _⟩

/-- The text of an address ends in a number. -/
theorem endsInNumber_ipv4Text (address : Nat) : endsInNumber (ipv4Text address).toList = true := by
  obtain ⟨front, hlabels⟩ := List.getLast?_eq_some_iff.mp (getLast?_ipv4Labels address)
  obtain ⟨c, cs, hlast⟩ := List.exists_cons_of_ne_nil (Number.natText_ne_nil (address % 256))
  have hdigits : (c :: cs).all Char.isDigit = true :=
    List.all_eq_true.mpr (hlast ▸ fun d hd => Number.isDigit_of_mem_natText hd)
  unfold endsInNumber
  rw [splitAtEach_ipv4Text, hlabels, List.reverse_concat, hlast]
  dsimp only
  rw [hdigits]
  rfl

end Version4

/-! ## Version 6 -/

section Version6

variable {n i : Nat} {pieces done : List Nat} {gap : Option Nat} {cs tail : List Char}

/-! ### Pieces -/

/-- The value of hexadecimal digits. -/
def hexNumber (cs : List Char) : Nat := cs.foldl (fun n c => 16 * n + (Json.hexValue? c).getD 0) 0

theorem hexNumber_concat (cs : List Char) (c : Char) :
    hexNumber (cs ++ [c]) = 16 * hexNumber cs + (Json.hexValue? c).getD 0 := by
  rw [hexNumber, List.foldl_concat]
  rfl

theorem hexValue?_digitChar (h : n < 16) : Json.hexValue? n.digitChar = some n := by
  have hall : ∀ n < 16, Json.hexValue? n.digitChar = some n := by decide
  exact hall n h

theorem hexValue?_lt {c : Char} (h : Json.hexValue? c = some n) : n < 16 := by
  have bounds {a b : Char} (h : a ≤ c ∧ c ≤ b) : c.toNat ≤ b.toNat := UInt32.le_iff_toNat_le.mp h.2
  unfold Json.hexValue? at h
  split at h
  · next hdigit =>
      have hmax : c.toNat ≤ '9'.toNat := by
        simp only [Char.isDigit, Bool.and_eq_true, decide_eq_true_eq] at hdigit
        exact UInt32.le_iff_toNat_le.mp hdigit.2
      rw [← Option.some.inj h]
      exact Nat.lt_of_le_of_lt (Nat.sub_le_sub_right hmax 48) (by decide)
  split at h
  · next hsmall =>
      simp only [Bool.and_eq_true, decide_eq_true_eq] at hsmall
      rw [← Option.some.inj h]
      exact Nat.lt_of_le_of_lt (Nat.sub_le_sub_right (bounds hsmall) 87) (by decide)
  · obtain ⟨hcapital, h⟩ := Option.ite_none_right_eq_some.mp h
    simp only [Bool.and_eq_true, decide_eq_true_eq] at hcapital
    rw [← Option.some.inj h]
    exact Nat.lt_of_le_of_lt (Nat.sub_le_sub_right (bounds hcapital) 55) (by decide)

/-- The digits of a number in base 16 are its digits in lower case, and they denote it. -/
theorem hex_toDigits (n : Nat) :
    (∀ c ∈ Nat.toDigits 16 n, ∃ d < 16, c = d.digitChar) ∧ hexNumber (Nat.toDigits 16 n) = n := by
  induction n using Nat.strong_induction_on with
  | _ n ih =>
      rcases Nat.lt_or_ge n 16 with hlast | hmore
      · rw [Nat.toDigits_of_lt_base hlast]
        refine ⟨fun c hc => ⟨n, hlast, List.mem_singleton.mp hc⟩, ?_⟩
        show 16 * 0 + (Json.hexValue? n.digitChar).getD 0 = n
        rw [hexValue?_digitChar hlast, Option.getD_some]
        omega
      · obtain ⟨hchars, hvalue⟩ := ih (n / 16) (by omega)
        have hmod : n % 16 < 16 := Nat.mod_lt n (by decide)
        rw [Nat.toDigits_of_base_le (by decide) hmore, hexNumber_concat, hvalue,
          hexValue?_digitChar hmod, Option.getD_some]
        refine ⟨List.forall_mem_append.mpr ⟨hchars, ?_⟩, by omega⟩
        exact List.forall_mem_singleton.mpr ⟨n % 16, hmod, rfl⟩

theorem hexNumber_lt (cs : List Char) : hexNumber cs < 16 ^ cs.length := by
  induction cs using List.reverseRecOn with
  | nil => decide
  | append_singleton cs c ih =>
      have hdigit : (Json.hexValue? c).getD 0 < 16 := by
        cases hc : Json.hexValue? c with
        | none => decide
        | some n => exact hexValue?_lt hc
      rw [hexNumber_concat, List.length_append, List.length_singleton, Nat.pow_succ]
      omega

/-! ### What is read -/

/-- The pieces of an address as far as they are read: they have 16 bits, and there is place for them. -/
structure Fits (pieces : List Nat) (gap : Option Nat) : Prop where
  small : ∀ n ∈ pieces, n < 65536
  places : ipv6Places pieces gap ≤ 8

theorem ipv6Places_append (pieces more : List Nat) (gap : Option Nat) :
    ipv6Places (pieces ++ more) gap = ipv6Places pieces gap + more.length := by
  rw [ipv6Places, ipv6Places, List.length_append]
  split <;> omega

theorem Fits.append {more : List Nat} (h : Fits pieces gap) (hmore : ∀ n ∈ more, n < 65536)
    (hplaces : ipv6Places pieces gap + more.length ≤ 8) : Fits (pieces ++ more) gap :=
  ⟨List.forall_mem_append.mpr ⟨h.small, hmore⟩, (ipv6Places_append _ _ _).le.trans hplaces⟩

theorem ipv6Tail?_bounds {numbers : List Nat} (h : ipv6Tail? cs = some numbers) :
    numbers.length = 2 ∧ ∀ n ∈ numbers, n < 65536 := by
  obtain ⟨parts, hparts, h⟩ := Option.bind_eq_some_iff.mp h
  have hsmall : ∀ n ∈ parts, n ≤ 255 := by
    intro n hn
    obtain ⟨label, -, hlabel⟩ := exists_of_mem_right (mapM_eq_some_iff.mp hparts) hn
    exact of_decide_eq_true (Option.filter_eq_some_iff.mp (Option.ite_none_left_eq_some.mp hlabel).2).2
  match parts, h with
  | [a, b, c, d], h =>
      obtain rfl := Option.some.inj h
      simp only [List.forall_mem_cons] at hsmall ⊢
      refine ⟨rfl, ?_, ?_, nofun⟩ <;> omega

/-- What is read has place: each step asks for it. -/
theorem Fits.of_ipv6Pieces? {fuel : Nat} {result : List Nat × Option Nat} (hfits : Fits pieces gap)
    (h : ipv6Pieces? fuel pieces gap cs = some result) : Fits result.1 result.2 := by
  induction fuel generalizing pieces gap cs with
  | zero =>
      cases cs with
      | nil =>
          obtain rfl := Option.some.inj h
          exact hfits
      | cons c cs => contradiction
  | succ fuel ih =>
      cases cs with
      | nil =>
          obtain rfl := Option.some.inj h
          exact hfits
      | cons c cs =>
          rw [ipv6Pieces?] at h
          obtain ⟨hfull, h⟩ := Option.ite_none_left_eq_some.mp h
          have hspace : ipv6Places pieces gap < 8 :=
            lt_of_le_of_ne hfits.places fun heq => hfull (beq_iff_eq.mpr heq)
          split at h
          · -- a double colon takes a place of its own
            obtain ⟨hnone, h⟩ := Option.ite_none_left_eq_some.mp h
            obtain rfl : gap = none := by simpa using hnone
            have hgap : Fits pieces (some pieces.length) := ⟨hfits.small, Nat.succ_le_of_lt hspace⟩
            exact ih hgap h
          · dsimp only at h
            have hvalue : hexNumber (((c :: cs).take 4).takeWhile fun c => (Json.hexValue? c).isSome) <
                65536 := by
              have hlength := (List.takeWhile_sublist fun c => (Json.hexValue? c).isSome).length_le.trans
                (List.length_take_le 4 (c :: cs))
              exact (hexNumber_lt _).trans_le (Nat.pow_le_pow_right (by decide) hlength)
            have hpush := hfits.append (List.forall_mem_singleton.mpr hvalue) hspace
            split at h
            · obtain ⟨hdigits, h⟩ := Option.ite_none_left_eq_some.mp h
              obtain ⟨numbers, hnumbers, rfl⟩ := Option.map_eq_some_iff.mp h
              obtain ⟨hlength, hsmall⟩ := ipv6Tail?_bounds hnumbers
              simp only [Bool.or_eq_true, decide_eq_true_eq, not_or] at hdigits
              exact hfits.append hsmall (by omega)
            · exact ih hpush (Option.ite_none_left_eq_some.mp h).2
            · obtain rfl := Option.some.inj h
              exact hpush
            · contradiction

/-- The eight pieces of what has been read: where a double colon was, zeros are put in. -/
def withZeros? (read : List Nat) : Option Nat → Option (List Nat)
  | some i => some (read.take i ++ List.replicate (8 - read.length) 0 ++ read.drop i)
  | none => if read.length == 8 then some read else none

/-- What is read as an address of version 6 has eight pieces of 16 bits. -/
theorem ipv6OfText?_bounds (h : ipv6OfText? cs = some pieces) :
    pieces.length = 8 ∧ ∀ n ∈ pieces, n < 65536 := by
  obtain ⟨read, gap, hfits, h⟩ : ∃ read gap, Fits read gap ∧ withZeros? read gap = some pieces := by
    have hempty (gap : Option Nat) : Fits [] gap := ⟨nofun, by unfold ipv6Places; split <;> decide⟩
    unfold ipv6OfText? at h
    split at h
    · obtain ⟨⟨read, gap⟩, hread, h⟩ := Option.bind_eq_some_iff.mp h
      exact ⟨read, gap, (hempty _).of_ipv6Pieces? hread, h⟩
    · contradiction
    · obtain ⟨⟨read, gap⟩, hread, h⟩ := Option.bind_eq_some_iff.mp h
      exact ⟨read, gap, (hempty _).of_ipv6Pieces? hread, h⟩
  have hplaces := hfits.places
  cases gap with
  | some i =>
      obtain rfl := Option.some.inj h
      have hroom : read.length + 1 ≤ 8 := hplaces
      refine ⟨?_, fun n hn => ?_⟩
      · simp only [List.length_append, List.length_take, List.length_replicate, List.length_drop]
        omega
      · simp only [List.mem_append, List.mem_replicate] at hn
        rcases hn with (hn | ⟨-, rfl⟩) | hn
        · exact hfits.small n (List.mem_of_mem_take hn)
        · decide
        · exact hfits.small n (List.mem_of_mem_drop hn)
  | none =>
      obtain ⟨hlength, h⟩ := Option.ite_none_right_eq_some.mp h
      obtain rfl := Option.some.inj h
      exact ⟨beq_iff_eq.mp hlength, hfits.small⟩

/-! ### What is written -/

/-- The text of pieces, with colons between them. -/
def colons (pieces : List Nat) : List Char := ((pieces.map (Nat.toDigits 16)).intersperse [':']).flatten

theorem colons_singleton (n : Nat) : colons [n] = Nat.toDigits 16 n := List.append_nil _

theorem colons_cons (n : Nat) (hpieces : pieces ≠ []) :
    colons (n :: pieces) = Nat.toDigits 16 n ++ ':' :: colons pieces :=
  Text.flatten_intersperse_cons _ (by simpa using hpieces)

/-- The digits of a piece end where a colon comes or the text ends. -/
theorem takeWhile_toDigits (hn : n < 65536) (htail : ∀ c ∈ tail.head?, c = ':') :
    ((Nat.toDigits 16 n ++ tail).take 4).takeWhile (fun c => (Json.hexValue? c).isSome) =
      Nat.toDigits 16 n := by
  obtain ⟨hdigits, -⟩ := hex_toDigits n
  have hlength : (Nat.toDigits 16 n).length ≤ 4 :=
    (Nat.length_toDigits_le_iff (by decide) (by decide)).mpr hn
  have hall : ∀ c ∈ Nat.toDigits 16 n, (Json.hexValue? c).isSome = true := by
    intro c hc
    obtain ⟨d, hd, rfl⟩ := hdigits c hc
    rw [hexValue?_digitChar hd]
    rfl
  rw [List.take_append, List.take_of_length_le hlength, List.takeWhile_append_of_pos hall]
  have hstop : (tail.take (4 - (Nat.toDigits 16 n).length)).takeWhile
      (fun c => (Json.hexValue? c).isSome) = [] := by
    cases tail with
    | nil => simp
    | cons c tail =>
        obtain rfl : c = ':' := htail c rfl
        cases 4 - (Nat.toDigits 16 n).length with
        | zero => rfl
        | succ more => rfl
  rw [hstop, List.append_nil]

theorem toDigits_eq_cons (n : Nat) : ∃ c cs, Nat.toDigits 16 n = c :: cs ∧ (c == ':') = false := by
  obtain ⟨c, cs, hcons⟩ := List.exists_cons_of_ne_nil (Nat.toDigits_ne_nil (b := 16) (n := n))
  have hall : ∀ d < 16, (d.digitChar == ':') = false := by decide
  obtain ⟨d, hd, rfl⟩ := (hex_toDigits n).1 c (hcons ▸ List.mem_cons_self)
  exact ⟨_, cs, hcons, hall d hd⟩

/-- A piece is read, if there is place for it, and then what follows its colon. -/
theorem ipv6Pieces?_toDigits {fuel : Nat} (hplace : ipv6Places done gap < 8) (hn : n < 65536)
    (htail : tail = [] ∨ ∃ rest, rest ≠ [] ∧ tail = ':' :: rest) :
    ipv6Pieces? (fuel + 1) done gap (Nat.toDigits 16 n ++ tail) =
      if tail = [] then some (done ++ [n], gap) else ipv6Pieces? fuel (done ++ [n]) gap tail.tail := by
  obtain ⟨c, cs, hcons, hcolon⟩ := toDigits_eq_cons n
  have hhead : ∀ c ∈ tail.head?, c = ':' := by
    rcases htail with rfl | ⟨rest, -, rfl⟩
    · exact nofun
    · exact fun c hc => (Option.some.inj hc).symm
  have htake := takeWhile_toDigits hn hhead
  have hdrop : (Nat.toDigits 16 n ++ tail).drop (Nat.toDigits 16 n).length = tail := List.drop_left
  have hnumber : (Nat.toDigits 16 n).foldl (fun n c => 16 * n + (Json.hexValue? c).getD 0) 0 = n :=
    (hex_toDigits n).2
  have hroom : ¬ (ipv6Places done gap == 8) = true := by
    rw [beq_iff_eq]
    omega
  rw [hcons, List.cons_append] at htake hdrop ⊢
  rw [ipv6Pieces?, if_neg hroom, hcolon, if_neg Bool.false_ne_true]
  dsimp only
  rw [htake, ← hcons, hnumber, hcons, hdrop]
  rcases htail with rfl | ⟨rest, hrest, rfl⟩
  · rfl
  · rw [if_neg (List.cons_ne_nil _ _)]
    exact if_neg (by simpa using hrest)

/-- Pieces do not begin with a colon. -/
theorem colons_eq_cons (hpieces : pieces ≠ []) :
    ∃ c cs, colons pieces = c :: cs ∧ (c == ':') = false := by
  obtain ⟨n, more, rfl⟩ := List.exists_cons_of_ne_nil hpieces
  obtain ⟨c, cs, hcons, hcolon⟩ := toDigits_eq_cons n
  cases more with
  | nil => exact ⟨c, cs, by rw [colons_singleton, hcons], hcolon⟩
  | cons next more => exact ⟨c, _, by rw [colons_cons n (List.cons_ne_nil _ _), hcons]; rfl, hcolon⟩

/-- Pieces are read, if there is place for them, and then what follows their last colon. -/
theorem ipv6Pieces?_colons (fuel : Nat) (hpieces : pieces ≠ [])
    (hplaces : ipv6Places done gap + pieces.length ≤ 8) (hsmall : ∀ n ∈ pieces, n < 65536)
    (htail : tail = [] ∨ ∃ rest, rest ≠ [] ∧ tail = ':' :: rest) :
    ipv6Pieces? (fuel + pieces.length) done gap (colons pieces ++ tail) =
      if tail = [] then some (done ++ pieces, gap)
      else ipv6Pieces? fuel (done ++ pieces) gap tail.tail := by
  induction pieces generalizing done with
  | nil => exact absurd rfl hpieces
  | cons n pieces ih =>
      obtain ⟨hn, hsmall⟩ := List.forall_mem_cons.mp hsmall
      rw [List.length_cons] at hplaces
      rcases eq_or_ne pieces [] with rfl | hmore
      · rw [colons_singleton]
        exact ipv6Pieces?_toDigits (by omega) hn htail
      · obtain ⟨c, cs, hcons, -⟩ := colons_eq_cons hmore
        have hnext : colons pieces ++ tail ≠ [] := by simp [hcons]
        have hroom : ipv6Places (done ++ [n]) gap + pieces.length ≤ 8 := by
          rw [ipv6Places_append, List.length_singleton]
          omega
        rw [colons_cons n hmore, List.append_assoc, List.cons_append, List.length_cons, ← Nat.add_assoc,
          ipv6Pieces?_toDigits (by omega) hn (.inr ⟨_, hnext, rfl⟩), if_neg (List.cons_ne_nil _ _),
          List.tail_cons, ih hmore hroom hsmall, List.append_assoc]
        rfl

/-- The second of two colons is read as a gap, if there is place for it. -/
theorem ipv6Pieces?_gap {fuel : Nat} (hplace : done.length < 8) (rest : List Char) :
    ipv6Pieces? (fuel + 1) done none (':' :: rest) = ipv6Pieces? fuel done (some done.length) rest := by
  have hroom : ¬ (ipv6Places done none == 8) = true := by
    rw [beq_iff_eq]
    exact hplace.ne
  rw [ipv6Pieces?, if_neg hroom]
  rfl

/-- Pieces that nothing follows are read. -/
theorem ipv6Pieces?_colons_end (fuel : Nat) (hplaces : ipv6Places done gap + pieces.length ≤ 8)
    (hsmall : ∀ n ∈ pieces, n < 65536) :
    ipv6Pieces? (fuel + pieces.length) done gap (colons pieces) = some (done ++ pieces, gap) := by
  rcases eq_or_ne pieces [] with rfl | hpieces
  · rw [List.append_nil]
    exact ipv6Pieces?.eq_1 _ _ _
  · have hread := ipv6Pieces?_colons fuel hpieces hplaces hsmall (.inl rfl)
    rwa [List.append_nil, if_pos rfl] at hread

/-! ### The text -/

/-- The run that is found longest has zeros only. -/
theorem longestZeros_spec {start size : Nat} (h : longestZeros pieces = (start, size)) :
    pieces = pieces.take start ++ (List.replicate size 0 ++ pieces.drop (start + size)) := by
  let IsRun (run : Nat × Nat) : Prop := List.replicate run.2 0 <+: pieces.drop run.1
  have hrun : IsRun (longestZeros pieces) := by
    refine List.foldlRecOn _ _ (motive := IsRun) (List.nil_prefix) fun best hbest i _ => ?_
    dsimp only
    split
    · have hzeros : (pieces.drop i).takeWhile (· == 0) =
          List.replicate ((pieces.drop i).takeWhile (· == 0)).length 0 :=
        List.eq_replicate_iff.mpr
          ⟨rfl, fun n hn => beq_iff_eq.mp (List.mem_takeWhile_imp (p := (· == 0)) hn)⟩
      show List.replicate ((pieces.drop i).takeWhile (· == 0)).length 0 <+: pieces.drop i
      rw [← hzeros]
      exact List.takeWhile_prefix _
    · exact hbest
  rw [h] at hrun
  have hdrop := List.prefix_iff_eq_append.mp hrun
  rw [List.length_replicate, List.drop_drop] at hdrop
  rw [hdrop, List.take_append_drop]

/-- The text of pieces is what stands between colons. -/
theorem toList_intercalate_hex (pieces : List Nat) :
    (String.intercalate ":" (pieces.map fun n => String.ofList (Nat.toDigits 16 n))).toList =
      colons pieces := by
  have htexts : pieces.map (String.toList ∘ fun n => String.ofList (Nat.toDigits 16 n)) =
      pieces.map (Nat.toDigits 16) := List.map_congr_left fun _ _ => String.toList_ofList
  rw [String.toList_intercalate, List.map_map, htexts]
  rfl

/-- The text of an address has digits and colons. -/
theorem mem_ipv6Text {c : Char} (h : c ∈ (ipv6Text pieces).toList) :
    c = ':' ∨ ∃ d < 16, c = d.digitChar := by
  have hcolons (pieces : List Nat) (h : c ∈ colons pieces) : c = ':' ∨ ∃ d < 16, c = d.digitChar := by
    refine (Text.of_mem_flatten_intersperse h).imp_right fun ⟨piece, hpiece, hc⟩ => ?_
    obtain ⟨n, -, rfl⟩ := List.mem_map.mp hpiece
    exact (hex_toDigits n).1 c hc
  unfold ipv6Text at h
  dsimp only at h
  split at h
  · rw [toList_intercalate_hex] at h
    exact hcolons _ h
  · rw [String.toList_append, String.toList_append, toList_intercalate_hex, toList_intercalate_hex,
      List.mem_append, List.mem_append] at h
    rcases h with (h | h) | h
    · exact hcolons _ h
    · exact .inl (by simpa using h)
    · exact hcolons _ h

theorem length_le_colons (pieces : List Nat) : pieces.length ≤ (colons pieces).length := by
  induction pieces with
  | nil => exact le_refl 0
  | cons n pieces ih =>
      have hpos : 0 < (Nat.toDigits 16 n).length := List.length_pos_iff.mpr Nat.toDigits_ne_nil
      rcases eq_or_ne pieces [] with rfl | hmore
      · rwa [colons_singleton]
      · rw [colons_cons n hmore, List.length_append, List.length_cons, List.length_cons]
        omega

/-- A text that does not begin with a colon is read from its first piece on. -/
theorem ipv6OfText?_cons {c : Char} (hcolon : (c == ':') = false) {read : List Nat} {gap : Option Nat}
    (hread : ipv6Pieces? ((c :: cs).length + 1) [] none (c :: cs) = some (read, gap)) :
    ipv6OfText? (c :: cs) = withZeros? read gap := by
  have hne : c ≠ ':' := beq_eq_false_iff_ne.mp hcolon
  unfold ipv6OfText?
  split
  · next hcons => exact absurd (List.cons.inj hcons).1 hne
  · next hcons => exact absurd (List.cons.inj hcons).1 hne
  · rw [hread]
    rfl

/-- Eight pieces are read back. -/
theorem ipv6OfText?_colons (hlength : pieces.length = 8) (hsmall : ∀ n ∈ pieces, n < 65536) :
    ipv6OfText? (colons pieces) = some pieces := by
  have hfuel := length_le_colons pieces
  have hne : pieces ≠ [] := by
    rintro rfl
    contradiction
  have hplaces : ipv6Places [] none + pieces.length ≤ 8 := (Nat.zero_add _).le.trans hlength.le
  have hread := ipv6Pieces?_colons_end ((colons pieces).length + 1 - pieces.length) hplaces hsmall
  rw [Nat.sub_add_cancel (by omega)] at hread
  obtain ⟨c, cs, hcons, hcolon⟩ := colons_eq_cons hne
  rw [hcons] at hread ⊢
  rw [ipv6OfText?_cons hcolon hread]
  exact if_pos (beq_iff_eq.mpr hlength)

/-- For a double colon there are as many zeros as pieces are missing. -/
theorem ipv6OfText?_gap {front back : List Nat} (hroom : front.length + back.length < 8)
    (hfront : ∀ n ∈ front, n < 65536) (hback : ∀ n ∈ back, n < 65536) :
    ipv6OfText? (colons front ++ ':' :: ':' :: colons back) =
      some (front ++ (List.replicate (8 - (front.length + back.length)) 0 ++ back)) := by
  have hfuel := length_le_colons back
  rcases eq_or_ne front [] with rfl | hne
  · have hplaces : ipv6Places [] (some 0) + back.length ≤ 8 := by
      show 1 + back.length ≤ 8
      simpa using by omega
    have hread := ipv6Pieces?_colons_end ((colons back).length + 3 - back.length) hplaces hback
    rw [Nat.sub_add_cancel (by omega)] at hread
    show (ipv6Pieces? ((colons back).length + 3) [] (some 0) (colons back)).bind _ = _
    rw [hread]
    simp
  · have hfuel' := length_le_colons front
    have hplaces : ipv6Places [] none + front.length ≤ 8 := (Nat.zero_add _).le.trans (by omega)
    have hplaces' : ipv6Places front (some front.length) + back.length ≤ 8 := by
      show front.length + 1 + back.length ≤ 8
      omega
    have hsteps : back.length + 1 + front.length ≤
        (colons front ++ ':' :: ':' :: colons back).length + 1 := by
      rw [List.length_append, List.length_cons, List.length_cons]
      omega
    obtain ⟨fuel, hsteps⟩ := Nat.exists_eq_add_of_le' hsteps
    rw [← Nat.add_assoc, ← Nat.add_assoc] at hsteps
    have hread := ipv6Pieces?_colons (fuel + back.length + 1) hne hplaces hfront
      (.inr ⟨':' :: colons back, List.cons_ne_nil _ _, rfl⟩)
    rw [if_neg (List.cons_ne_nil _ _), List.tail_cons, List.nil_append, ipv6Pieces?_gap (by omega),
      ipv6Pieces?_colons_end _ hplaces' hback, ← hsteps] at hread
    obtain ⟨c, cs, hcons, hcolon⟩ := colons_eq_cons hne
    rw [hcons, List.cons_append] at hread ⊢
    rw [ipv6OfText?_cons hcolon hread, withZeros?]
    simp

/-- An address of version 6 is read back from its text. -/
theorem ipv6OfText?_ipv6Text (hlength : pieces.length = 8) (hsmall : ∀ n ∈ pieces, n < 65536) :
    ipv6OfText? (ipv6Text pieces).toList = some pieces := by
  obtain ⟨⟨start, size⟩, hzeros⟩ : ∃ run, longestZeros pieces = run := ⟨_, rfl⟩
  have hsplit := longestZeros_spec hzeros
  unfold ipv6Text
  rw [hzeros]
  dsimp only
  split
  · rw [toList_intercalate_hex]
    exact ipv6OfText?_colons hlength hsmall
  · next hsize =>
      have hsum := congrArg List.length hsplit
      rw [List.length_append, List.length_append, List.length_replicate, hlength] at hsum
      have hmissing : 8 - ((pieces.take start).length + (pieces.drop (start + size)).length) = size := by
        omega
      rw [String.toList_append, String.toList_append, toList_intercalate_hex, toList_intercalate_hex,
        List.append_assoc]
      refine (ipv6OfText?_gap (by omega) (fun n hn => hsmall n (List.mem_of_mem_take hn))
        fun n hn => hsmall n (List.mem_of_mem_drop hn)).trans ?_
      rw [hmissing, ← hsplit]

end Version6

end DynamicContent.Url
