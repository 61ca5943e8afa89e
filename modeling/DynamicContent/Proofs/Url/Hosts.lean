/-
# Hosts read back

A host is read back from its text: a domain name is its own ASCII form, and the text of an address of
version 4 or 6 is read as that address. No character of the text is taken for the end of the authority or
of its user info, and no colon in it for the one before a port.
-/

import DynamicContent.Proofs.Url.IpAddress
import DynamicContent.Proofs.Url.Reading
import DynamicContent.Url.Basic

namespace DynamicContent.Url

variable {name cs rest : List Char} {host : Host} {ascii : String} {c : Char}

/-! ## Letters, digits and dots -/

/-- The characters of a host that is written without any coding. -/
def isPlainHostChar (c : Char) : Bool := c.isAlphanum || c == '.'

theorem toNat_lt_of_isPlainHostChar (h : isPlainHostChar c = true) : c.toNat < 128 := by
  rw [isPlainHostChar, Bool.or_eq_true, beq_iff_eq] at h
  rcases h with h | rfl
  · exact toNat_lt_of_isAlphanum h
  · decide

/-- What holds of the letters and digits and the dot one by one holds of the characters of a plain
host. -/
theorem of_isPlainHostChar {P : Char → Prop}
    (hall : ∀ n < 128, isPlainHostChar (Char.ofNat n) = true → P (Char.ofNat n))
    (h : isPlainHostChar c = true) : P c :=
  of_ascii (P := fun c => isPlainHostChar c = true → P c) hall (toNat_lt_of_isPlainHostChar h) h

/-- The ASCII form of a plain host is the host in lower case. -/
theorem domainToAscii?_plain (hplain : ∀ c ∈ name, isPlainHostChar c = true) :
    domainToAscii? name = some (String.ofList (name.map Char.toLower)) := by
  have hascii : ∀ c ∈ name, c.toNat < 0x80 := fun c hc => toNat_lt_of_isPlainHostChar (hplain c hc)
  have hlower : ∀ c ∈ name.map Char.toLower,
      c ≠ '-' ∧ c.toNat < 0x80 ∧ isForbiddenInDomain c = false := by
    rw [List.forall_mem_map]
    exact fun c hc => of_isPlainHostChar (P := fun c => c.toLower ≠ '-' ∧ c.toLower.toNat < 0x80 ∧
      isForbiddenInDomain c.toLower = false) (by decide) (hplain c hc)
  rw [domainToAscii?_eq_some_iff]
  refine ⟨_, Text.splitAtEach (· == '.') (name.map Char.toLower), forall₂_mapDomainChar? hascii, ?_⟩
  have hpieces : dotted (Text.splitAtEach (· == '.') (name.map Char.toLower)) =
      name.map Char.toLower := Text.flatten_intersperse_splitAtEach (by simp) _
  have hflatten : (name.map fun c => [c.toLower]).flatten = name.map Char.toLower := by
    rw [← List.flatMap_def, ← List.map_eq_flatMap]
  rw [hpieces, hflatten, List.forall₂_same]
  refine ⟨fun label hlabel => ?_, fun c hc => (hlower c hc).2.2, rfl⟩
  have hmem := fun c hc => (Text.of_mem_splitAtEach label hlabel c hc).2
  apply labelToAscii?_of_ascii fun c hc => (hlower c (hmem c hc)).2.1
  -- The mark of coded labels has hyphens in it.
  cases hmark : Text.afterStart? "xn--".toList label with
  | none => rfl
  | some code =>
      rw [Text.afterStart?_eq_some_iff] at hmark
      exact absurd rfl (hlower '-' (hmem '-' (by simp [hmark]))).1

/-! ## Hosts by their ASCII form -/

/-- The host with an ASCII form: an address of version 4 if it ends in a number, else a domain name. -/
def Host.ofAscii (ascii : String) : Except UrlError Host :=
  if endsInNumber ascii.toList then
    match ipv4OfName? ascii.toList with
    | some address => .ok (.ipv4 address)
    | none => .error .ipv4
  else .ok (.domain ascii)

/-- A text without coded bytes and brackets is a host by its ASCII form. -/
theorem Host.ofText_of_domain (hpercent : '%' ∉ cs) (hbracket : '[' ∉ cs)
    (h : domainToAscii? cs = some ascii) (hne : ascii ≠ "") : Host.ofText cs = Host.ofAscii ascii := by
  unfold Host.ofText
  split
  · exact absurd List.mem_cons_self hbracket
  · rw [percentDecode_of_not_mem hpercent, Text.ofUtf8Bytes?_utf8Bytes, Option.bind_some, h]
    exact if_neg (by simpa using hne)

/-- A plain name is a host by its form in lower case. -/
theorem Host.ofText_eq_ofAscii (hplain : ∀ c ∈ name, isPlainHostChar c = true) (hne : name ≠ []) :
    Host.ofText name = Host.ofAscii (String.ofList (name.map Char.toLower)) := by
  have hnot : ∀ d, isPlainHostChar d = false → d ∉ name := fun d hd hmem =>
    absurd (hplain d hmem) (by simp [hd])
  exact Host.ofText_of_domain (hnot '%' (by decide)) (hnot '[' (by decide))
    (domainToAscii?_plain hplain) (by simpa using hne)

/-- What a host is read from: an address of version 6 in brackets, or the ASCII form of a name. -/
theorem Host.ofText_cases (h : Host.ofText cs = .ok host) :
    (∃ inside pieces, ipv6OfText? inside = some pieces ∧ host = .ipv6 pieces) ∨
      ∃ name ascii, domainToAscii? name = some ascii ∧ ascii ≠ "" ∧ Host.ofAscii ascii = .ok host := by
  unfold Host.ofText at h
  split at h
  · unfold Host.ofBrackets at h
    split at h
    · split at h
      · next pieces hpieces => exact .inl ⟨_, pieces, hpieces, (Except.ok.inj h).symm⟩
      · contradiction
    · contradiction
  · split at h
    · contradiction
    · next ascii hascii =>
        obtain ⟨name, -, hname⟩ := Option.bind_eq_some_iff.mp hascii
        by_cases hempty : ascii.isEmpty = true
        · rw [if_pos hempty] at h
          contradiction
        · rw [if_neg hempty] at h
          exact .inr ⟨name, ascii, hname, by simpa using hempty, h⟩

/-- What an ASCII form is read as: the address that it stands for, or itself. -/
theorem Host.ofAscii_cases (h : Host.ofAscii ascii = .ok host) :
    (∃ address, ipv4OfName? ascii.toList = some address ∧ host = .ipv4 address) ∨
      host = .domain ascii := by
  unfold Host.ofAscii at h
  split at h
  · split at h
    · next address haddress => exact .inl ⟨address, haddress, (Except.ok.inj h).symm⟩
    · contradiction
  · exact .inr (Except.ok.inj h).symm

/-! ## Read back -/

theorem isPlainHostChar_of_mem_ipv4Text {address : Nat} (h : c ∈ (ipv4Text address).toList) :
    isPlainHostChar c = true := by
  rw [isPlainHostChar, Char.isAlphanum]
  rcases mem_ipv4Text h with rfl | hdigit
  · decide
  · rw [hdigit, Bool.or_true, Bool.true_or]

/-- The text of an address of version 4 is read as that address. -/
theorem Host.ofText_ipv4 {address : Nat} (h : address < 256 ^ 4) :
    Host.ofText (ipv4Text address).toList = .ok (.ipv4 address) := by
  have hplain : ∀ c ∈ (ipv4Text address).toList, isPlainHostChar c = true := fun c hc =>
    isPlainHostChar_of_mem_ipv4Text hc
  have hlower : (ipv4Text address).toList.map Char.toLower = (ipv4Text address).toList := by
    refine (List.map_congr_left fun c hc => ?_).trans (List.map_id _)
    have hsmall : c.toNat ≤ 57 := by
      rcases mem_ipv4Text hc with rfl | hdigit
      · decide
      · simp only [Char.isDigit, Bool.and_eq_true, decide_eq_true_eq] at hdigit
        exact UInt32.le_iff_toNat_le.mp hdigit.2
    rcases Text.toLower_eq_or c with ⟨-, heq⟩ | ⟨hcapital, -⟩
    · exact heq
    · omega
  have hnumber := endsInNumber_ipv4Text address
  have hne : (ipv4Text address).toList ≠ [] := by
    intro hempty
    rw [hempty] at hnumber
    exact absurd hnumber (by decide)
  rw [Host.ofText_eq_ofAscii hplain hne, hlower, String.ofList_toList, Host.ofAscii, if_pos hnumber,
    ipv4OfName?_ipv4Text h]

/-- The text of an address of version 6 is read as that address. -/
theorem Host.ofText_ipv6 {pieces : List Nat} (hlength : pieces.length = 8)
    (hsmall : ∀ n ∈ pieces, n < 65536) :
    Host.ofText (Host.ipv6 pieces).text.toList = .ok (.ipv6 pieces) := by
  have htext : (Host.ipv6 pieces).text.toList = '[' :: ((ipv6Text pieces).toList ++ [']']) := by
    simp [Host.text]
  have hread : ipv6OfText? (ipv6Text pieces).toList.reverse.reverse = some pieces := by
    rw [List.reverse_reverse, ipv6OfText?_ipv6Text hlength hsmall]
  rw [htext]
  simp only [Host.ofText, Host.ofBrackets, List.reverse_concat, hread]

/-- A host is read back from its text. -/
theorem Host.ofText_text (h : Host.ofText cs = .ok host) : Host.ofText host.text.toList = .ok host := by
  rcases Host.ofText_cases h with ⟨inside, pieces, hpieces, rfl⟩ | ⟨name, ascii, hname, hne, h⟩
  · obtain ⟨hlength, hsmall⟩ := ipv6OfText?_bounds hpieces
    exact Host.ofText_ipv6 hlength hsmall
  · obtain ⟨hsettled, hcharacters⟩ := domainToAscii?_settled hname
    rcases Host.ofAscii_cases h with ⟨address, haddress, rfl⟩ | rfl
    · exact Host.ofText_ipv4 (ipv4OfName?_lt haddress)
    · have hforbidden : isForbiddenInDomain '%' = true ∧ isForbiddenInDomain '[' = true := by decide
      refine (Host.ofText_of_domain (fun hc => ?_) (fun hc => ?_) hsettled hne).trans h
      · exact absurd ((hcharacters _ hc).2.symm.trans hforbidden.1) (by decide)
      · exact absurd ((hcharacters _ hc).2.symm.trans hforbidden.2) (by decide)

/-! ## Characters of hosts -/

/-- Whether a character may stand in a host without brackets, as far as the authority is concerned. -/
def isHostChar (c : Char) : Bool :=
  isVisible c && !endsAuthority c && c != '@' && c != ':' && c != '['

/-- A host is written in visible characters, none of which ends the authority or the user info. It has
no colons and brackets, unless it is an address of version 6 in brackets. -/
theorem Host.text_characters (h : Host.ofText cs = .ok host) :
    (∀ c ∈ host.text.toList, isHostChar c = true) ∨
      ∃ inside, host.text.toList = '[' :: (inside ++ [']']) ∧
        ∀ c ∈ inside, c = ':' ∨ (isHostChar c = true ∧ c ≠ ']') := by
  rcases Host.ofText_cases h with ⟨inside, pieces, -, rfl⟩ | ⟨name, ascii, hname, -, h⟩
  · refine .inr ⟨(ipv6Text pieces).toList, by simp [Host.text], fun c hc => ?_⟩
    refine (mem_ipv6Text hc).imp_right ?_
    rintro ⟨d, hd, rfl⟩
    have hall : ∀ d < 16, isHostChar d.digitChar = true ∧ d.digitChar ≠ ']' := by decide
    exact hall d hd
  · refine .inl ?_
    rcases Host.ofAscii_cases h with ⟨address, -, rfl⟩ | rfl
    · exact fun c hc => of_isPlainHostChar (P := (isHostChar · = true)) (by decide)
        (isPlainHostChar_of_mem_ipv4Text hc)
    · intro c hc
      obtain ⟨hascii, hallowed⟩ := (domainToAscii?_settled hname).2 c hc
      exact of_ascii (P := fun c => isForbiddenInDomain c = false → isHostChar c = true)
        (by decide) hascii hallowed

theorem Host.text_ne_nil (h : Host.ofText cs = .ok host) : host.text.toList ≠ [] := by
  intro hempty
  have hnone : Host.ofText [] = .error .emptyHost := rfl
  have hread := Host.ofText_text h
  rw [hempty, hnone] at hread
  contradiction

/-- A host in front of a text is no place to cut before a port. -/
theorem Host.cutPort_text (h : Host.ofText cs = .ok host) (rest : List Char) :
    cutPort false (host.text.toList ++ rest) =
      (host.text.toList ++ (cutPort false rest).1, (cutPort false rest).2) := by
  rcases Host.text_characters h with hplain | ⟨inside, htext, hinside⟩
  · refine cutPort_append (fun c hc => ?_) rest
    have := hplain c hc
    simp only [isHostChar, Bool.and_eq_true, bne_iff_ne] at this
    exact ⟨this.1.2, this.2⟩
  · have hclosed : ∀ c ∈ inside, c ≠ ']' := by
      intro c hc
      rcases hinside c hc with rfl | ⟨-, hne⟩
      · decide
      · exact hne
    simpa [htext] using cutPort_brackets hclosed rest

/-- The characters of a host are visible, and none of them ends the authority or the user info. -/
theorem Host.of_mem_text (h : Host.ofText cs = .ok host) :
    ∀ c ∈ host.text.toList, isVisible c = true ∧ endsAuthority c = false ∧ c ≠ '@' := by
  have hgood {c : Char} (hc : isHostChar c = true) :
      isVisible c = true ∧ endsAuthority c = false ∧ c ≠ '@' := by
    simp only [isHostChar, Bool.and_eq_true, bne_iff_ne, Bool.not_eq_true'] at hc
    exact ⟨hc.1.1.1.1, hc.1.1.1.2, hc.1.1.2⟩
  rcases Host.text_characters h with hplain | ⟨inside, htext, hinside⟩
  · exact fun c hc => hgood (hplain c hc)
  · rw [htext, List.forall_mem_cons, List.forall_mem_append, List.forall_mem_singleton]
    refine ⟨by decide, fun c hc => ?_, by decide⟩
    rcases hinside c hc with rfl | ⟨hc, -⟩
    · decide
    · exact hgood hc

end DynamicContent.Url

namespace DynamicContent

/-! ## What a list of hosts blocks

A list blocks the hosts on it and all hosts below them, and no others. An address of the web that names
such a host after its scheme is blocked, whatever path follows. An address that leaves the scheme out
names the same host to a browser, but it is no address by itself and has no host here. -/

namespace Url

variable {blocked : List String} {host domain : String}

/-! ### Hosts below hosts -/

/-- Whether a host is a domain or is below it. -/
def IsWithin (host domain : String) : Prop := host = domain ∨ ∃ front, host = front ++ "." ++ domain

/-- A host is blocked if it is within a domain of the list. -/
theorem isBlockedHost_iff :
    isBlockedHost blocked host = true ↔ ∃ domain ∈ blocked, IsWithin host domain := by
  simp only [isBlockedHost, List.any_eq_true, Bool.or_eq_true, beq_iff_eq, Text.endsWith_iff, IsWithin,
    String.append_assoc]

/-- An address is blocked if it has a host and this is within a domain of the list. -/
theorem isBlocked_iff {s : String} :
    isBlocked blocked s = true ↔
      ∃ host, hostOf? s = some host ∧ ∃ domain ∈ blocked, IsWithin host domain := by
  rw [isBlocked]
  cases hostOf? s with
  | none => simp
  | some host => simp [isBlockedHost_iff]

/-! ### Names that end in a name -/

/-- Whether the last label of a name is a number is told by that label. -/
theorem endsInNumber_congr {name other : List Char}
    (h : (Text.splitAtEach (· == '.') name).getLast? = (Text.splitAtEach (· == '.') other).getLast?)
    (hne : (Text.splitAtEach (· == '.') name).getLast? ≠ some []) :
    endsInNumber name = endsInNumber other := by
  have hlast (name : List Char) : ∃ front last,
      Text.splitAtEach (· == '.') name = front ++ [last] :=
    ⟨_, _, (List.dropLast_append_getLast (Text.splitAtEach_ne_nil _ name)).symm⟩
  obtain ⟨front, last, hname⟩ := hlast name
  obtain ⟨front', last', hother⟩ := hlast other
  rw [hname, hother, List.getLast?_concat, List.getLast?_concat, Option.some_inj] at h
  rw [hname, List.getLast?_concat] at hne
  subst h
  obtain ⟨c, cs, rfl⟩ := List.exists_cons_of_ne_nil fun hnil => hne (congrArg some hnil)
  rw [endsInNumber, endsInNumber, hname, hother, List.reverse_concat, List.reverse_concat]

/-- A host within a domain ends in a number if the domain does. -/
theorem IsWithin.endsInNumber_eq (h : IsWithin host domain)
    (hne : (Text.splitAtEach (· == '.') domain.toList).getLast? ≠ some []) :
    endsInNumber host.toList = endsInNumber domain.toList := by
  rcases h with rfl | ⟨front, rfl⟩
  · rfl
  · have hlast : (Text.splitAtEach (· == '.') (front ++ "." ++ domain).toList).getLast? =
        (Text.splitAtEach (· == '.') domain.toList).getLast? := by
      rw [String.toList_append, String.toList_append, List.append_assoc,
        show ".".toList ++ domain.toList = '.' :: domain.toList from rfl,
        Text.splitAtEach_append_cons rfl,
        List.getLast?_append_of_ne_nil _ (Text.splitAtEach_ne_nil _ _)]
    exact endsInNumber_congr hlast (hlast ▸ hne)

/-! ### Hosts of letters, digits and dots -/

section PlainHost

variable {name rest : List Char}

/-- A plain host that does not end in a number is read as itself in lower case. -/
theorem Host.ofText_plain (hplain : ∀ c ∈ name, isPlainHostChar c = true) (hne : name ≠ [])
    (hnumber : endsInNumber (name.map Char.toLower) = false) :
    Host.ofText name = .ok (.domain (String.ofList (name.map Char.toLower))) := by
  rw [Host.ofText_eq_ofAscii hplain hne, Host.ofAscii, String.toList_ofList, hnumber,
    if_neg Bool.false_ne_true]

/-- Of what begins with a slash only the end is taken away. -/
theorem head?_withoutBreaks_trimEndChars (hrest : ∀ c ∈ rest.head?, c = '/') :
    ∀ c ∈ (withoutBreaks (Text.trimEndChars rest)).head?, c = '/' := by
  cases rest with
  | nil => exact hrest
  | cons slash more =>
      obtain rfl : slash = '/' := hrest slash rfl
      have hslash : ∀ c ∈ ['/'], Text.isBlank c = false ∧ isVisible c = true :=
        List.all_iff_forall_prop.mp (by decide)
      have htrim : Text.trimEndChars ('/' :: more) = '/' :: Text.trimEndChars more :=
        dropEnd_append (fun c hc => (hslash c hc).1) more
      have htidy : withoutBreaks ('/' :: Text.trimEndChars more) =
          '/' :: withoutBreaks (Text.trimEndChars more) :=
        withoutBreaks_append (fun c hc => (hslash c hc).2) _
      rw [htrim, htidy]
      intro c hc
      exact (Option.some.inj hc).symm

/-- The scheme and the visible characters behind its slashes stay as they are. -/
theorem withoutBreaks_trim_web {scheme host rest : String} (hscheme : scheme = "http" ∨ scheme = "https")
    (hhost : ∀ c ∈ host.toList, isVisible c = true) :
    withoutBreaks ((Text.trim (scheme ++ "://" ++ host ++ rest)).toList.dropWhile isEdge) =
      scheme.toList ++ ':' :: '/' :: '/' ::
        (host.toList ++ withoutBreaks (Text.trimEndChars rest.toList)) := by
  have hvisible : ∀ c ∈ (scheme ++ "://" ++ host).toList, isVisible c = true := by
    rw [String.toList_append, List.forall_mem_append]
    refine ⟨?_, hhost⟩
    rcases hscheme with rfl | rfl <;> exact List.all_iff_forall_prop.mp (by decide)
  have hfront : (scheme ++ "://" ++ host).toList = scheme.toList ++ ':' :: '/' :: '/' :: host.toList := by
    rw [String.toList_append, String.toList_append, List.append_assoc]
    rfl
  rw [withoutBreaks_trim (by rw [hfront]; simp) hvisible String.toList_append, hfront,
    List.append_assoc]
  rfl

/-- An address of the web has the plain host that follows its scheme, whatever path comes then. -/
theorem hostOf?_plain {scheme host rest : String} (hscheme : scheme = "http" ∨ scheme = "https")
    (hplain : ∀ c ∈ host.toList, isPlainHostChar c = true) (hne : host ≠ "")
    (hnumber : endsInNumber (Text.asciiLower host).toList = false)
    (hrest : ∀ c ∈ rest.toList.head?, c = '/') :
    hostOf? (scheme ++ "://" ++ host ++ rest) = some (Text.asciiLower host) := by
  have hgood : ∀ c ∈ host.toList, isVisible c = true ∧ endsAuthority c = false ∧
      (c == '/' || c == '\\') = false ∧ c ≠ '@' ∧ c ≠ ':' ∧ c ≠ '[' := by
    exact fun c hc => of_isPlainHostChar (P := fun c => isVisible c ∧ endsAuthority c = false ∧
      (c == '/' || c == '\\') = false ∧ c ≠ '@' ∧ c ≠ ':' ∧ c ≠ '[') (by decide) (hplain c hc)
  have hnil : host.toList ≠ [] := fun hnil => hne (String.toList_eq_nil_iff.mp hnil)
  have hends : ∀ c ∈ (withoutBreaks (Text.trimEndChars rest.toList)).head?, endsAuthority c = true := by
    intro c hc
    obtain rfl := head?_withoutBreaks_trimEndChars hrest c hc
    rfl
  have hslashes (rest : List Char) :
      ('/' :: '/' :: (host.toList ++ rest)).dropWhile (fun c => c == '/' || c == '\\') =
        host.toList ++ rest :=
    dropWhile_append_of_forall hnil (fun c hc => (hgood c hc).2.2.1) rest
  have hweb : isWebScheme scheme = true := by
    rcases hscheme with rfl | rfl <;> decide
  rw [Text.asciiLower, String.toList_ofList] at hnumber
  have hinfo : '@' ∉ host.toList := fun hc => (hgood '@' hc).2.2.2.1 rfl
  have hhost := Host.ofText_plain hplain hnil hnumber
  rw [hostOf?,
    parse_of_web hscheme (withoutBreaks_trim_web hscheme fun c hc => (hgood c hc).1), hslashes,
    (AuthorityParts.ofHost hnil hinfo (fun c hc => (hgood c hc).2.2.2.2) hhost).ofAuthority_eq hweb
      (fun c hc => (hgood c hc).2.1) hends]
  have hlower : Text.asciiLower host ≠ "" := by
    rw [Text.asciiLower, ne_eq, String.ofList_eq_empty_iff]
    simpa using hnil
  show Option.map Text.asciiLower (Option.filter (!·.isEmpty) (some (Text.asciiLower host))) = _
  rw [Option.filter_some_pos (by simpa using hlower), Option.map_some, Text.asciiLower_asciiLower]

end PlainHost

/-- A text that begins with a slash has no host. -/
theorem hostOf?_slash (rest : String) : hostOf? ("/" ++ rest) = none := by
  have hread := withoutBreaks_trim (List.cons_ne_nil '/' [])
    (List.all_iff_forall_prop.mp (by decide)) (String.toList_append (s := "/") (t := rest))
  rw [hostOf?, parse_slash hread]

end Url

end DynamicContent
