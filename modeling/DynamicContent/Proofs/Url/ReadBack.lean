/-
# Addresses of the web read back

An address of the web that has been read is read back from its text, part by part: what was coded is not
coded again, the usual port was left out, and what is left in its path are segments.
-/

import DynamicContent.Proofs.Url.Hosts
import DynamicContent.Proofs.Url.Segments

namespace DynamicContent.Url

variable {scheme s : String} {authority place cs rest tail : List Char} {url : Url}

/-! ## User names and passwords -/

/-- A user name or password as it stands in an address that has been read. -/
def IsUserText (s : String) : Prop := ∀ c ∈ s.toList, codedInUserInfo c = false

theorem isUserText_percentEncode (cs : List Char) :
    IsUserText (String.ofList (percentEncode codedInUserInfo cs)) := by
  rw [IsUserText, String.toList_ofList]
  exact sparesCode_codedInUserInfo.forall_mem_percentEncode cs

/-- The authority is cut at its last at sign. -/
theorem cutChars_reverse_at {before : List Char}
    (h : Text.cutChars ['@'] authority.reverse = some (before, rest)) :
    '@' ∉ before := by
  obtain ⟨-, hfirst⟩ := Text.cutChars_eq_some_iff.mp h
  intro hmem
  obtain ⟨front, back, rfl⟩ := List.append_of_mem hmem
  exact List.concat_ne_nil _ _ (hfirst front (back ++ ['@']) (by simp))

/-- What is read before an authority is coded, and no at sign is left behind it. -/
theorem takeUserInfo_spec {username : String} {password : Option String}
    (h : takeUserInfo authority = .ok (username, password, place)) :
    '@' ∉ place ∧ IsUserText username ∧ ∀ p ∈ password, p ≠ "" ∧ IsUserText p := by
  have hempty : IsUserText "" := fun c hc => absurd hc List.not_mem_nil
  unfold takeUserInfo at h
  cases hcut : Text.cutChars ['@'] authority.reverse with
  | none =>
      rw [hcut] at h
      obtain ⟨rfl, rfl, rfl⟩ := Prod.mk.inj (Except.ok.inj h) |>.imp_right Prod.mk.inj
      rw [Text.cutChars_eq_none_iff, List.singleton_infix_iff, List.mem_reverse] at hcut
      exact ⟨hcut, hempty, nofun⟩
  | some cut =>
      obtain ⟨before, info⟩ := cut
      have hplace : '@' ∉ before.reverse := by
        rw [List.mem_reverse]
        exact cutChars_reverse_at hcut
      rw [hcut] at h
      dsimp only at h
      split at h
      · split at h
        · contradiction
        · obtain ⟨rfl, rfl, rfl⟩ := Prod.mk.inj (Except.ok.inj h) |>.imp_right Prod.mk.inj
          exact ⟨hplace, hempty, nofun⟩
      · split at h
        · obtain ⟨rfl, rfl, rfl⟩ := Prod.mk.inj (Except.ok.inj h) |>.imp_right Prod.mk.inj
          exact ⟨hplace, isUserText_percentEncode _, nofun⟩
        · obtain ⟨rfl, rfl, rfl⟩ := Prod.mk.inj (Except.ok.inj h) |>.imp_right Prod.mk.inj
          exact ⟨hplace, isUserText_percentEncode _, nofun⟩
        · next password hpassword _ =>
          obtain ⟨rfl, rfl, rfl⟩ := Prod.mk.inj (Except.ok.inj h) |>.imp_right Prod.mk.inj
          refine ⟨hplace, isUserText_percentEncode _, fun p hp => ?_⟩
          obtain rfl := Option.some.inj hp
          refine ⟨?_, isUserText_percentEncode _⟩
          rw [ne_eq, String.ofList_eq_empty_iff]
          exact percentEncode_ne_nil hpassword

/-- What stands before the at sign is read as user info. -/
theorem takeUserInfo_append {info : List Char} (hplace : '@' ∉ place) (hinfo : info ≠ []) :
    takeUserInfo (info ++ '@' :: place) =
      match info.dropWhile (· != ':') with
      | [] | [_] => .ok (String.ofList (percentEncode codedInUserInfo (info.takeWhile (· != ':'))),
          none, place)
      | _ :: password => .ok (String.ofList (percentEncode codedInUserInfo (info.takeWhile (· != ':'))),
          some (String.ofList (percentEncode codedInUserInfo password)), place) := by
  have hcut : Text.cutChars ['@'] (info ++ '@' :: place).reverse =
      some (place.reverse, info.reverse) := by
    rw [List.reverse_append, List.reverse_cons, List.append_assoc]
    exact Text.cutChars_of_not_mem (by simpa using hplace) _
  rw [takeUserInfo, hcut]
  dsimp only
  rw [List.reverse_reverse, List.reverse_reverse]
  exact if_neg (by simpa using hinfo)

theorem IsUserText.percentEncode_eq {s : String} (h : IsUserText s) :
    String.ofList (percentEncode codedInUserInfo s.toList) = s := by
  rw [percentEncode_of_forall h, String.ofList_toList]

/-- The user name and password are read back from their text. -/
theorem takeUserInfo_userInfoText (hplace : '@' ∉ place) (husername : IsUserText url.username)
    (hpassword : ∀ p ∈ url.password, p ≠ "" ∧ IsUserText p) :
    takeUserInfo (url.userInfoText.toList ++ place) = .ok (url.username, url.password, place) := by
  have hcolon : codedInUserInfo ':' = true := by decide
  have hname : ∀ c ∈ url.username.toList, (c != ':') = true := by
    intro c hc
    refine bne_iff_ne.mpr ?_
    rintro rfl
    exact absurd ((husername ':' hc).symm.trans hcolon) (by decide)
  unfold userInfoText
  cases hword : url.password with
  | none =>
      dsimp only
      split
      · next hempty =>
          have hnone : url.username = "" := by simpa using hempty
          rw [takeUserInfo_of_not_mem (by simpa using hplace), hnone]
          rfl
      · next hsome =>
          have htext : (url.username ++ "@").toList ++ place = url.username.toList ++ '@' :: place := by
            simp
          rw [htext, takeUserInfo_append hplace (by simpa using hsome)]
          rw [List.takeWhile_eq_self_iff.mpr hname, List.dropWhile_eq_nil_iff.mpr hname,
            husername.percentEncode_eq]
  | some password =>
      obtain ⟨hne, hcoded⟩ := hpassword password hword
      have htext : (url.username ++ ":" ++ password ++ "@").toList ++ place =
          (url.username.toList ++ ':' :: password.toList) ++ '@' :: place := by simp
      rw [htext, takeUserInfo_append hplace (by simp)]
      have hcolon : ∀ c ∈ (':' :: password.toList).head?, (c != ':') = false := by
        intro c hc
        obtain rfl := Option.some.inj hc
        rfl
      obtain ⟨htake, hdrop⟩ := Number.takeWhile_append_of_stop hname hcolon
      have hnil : password.toList ≠ [] := fun hnil => hne (String.toList_eq_nil_iff.mp hnil)
      obtain ⟨c, cs, hcons⟩ := List.exists_cons_of_ne_nil hnil
      have hpassword := hcoded.percentEncode_eq
      rw [htake, hdrop, husername.percentEncode_eq]
      rw [hcons] at hpassword ⊢
      dsimp only
      rw [hpassword]

/-! ## Ports -/

theorem takePort_spec {n : Nat} (h : takePort scheme cs = .ok (some n)) :
    n ≤ 65535 ∧ defaultPort? scheme ≠ some n := by
  unfold takePort at h
  split at h
  · contradiction
  split at h
  · exact absurd (Except.ok.inj h) nofun
  dsimp only at h
  split at h
  · contradiction
  · next hbound =>
      split at h
      · exact absurd (Except.ok.inj h) nofun
      · next hdefault =>
          obtain rfl := Option.some.inj (Except.ok.inj h)
          exact ⟨by omega, fun heq => hdefault (beq_iff_eq.mpr heq)⟩

/-- A port is read back from its digits. -/
theorem takePort_natText {n : Nat} (hn : n ≤ 65535) (hdefault : defaultPort? scheme ≠ some n) :
    takePort scheme (Number.natText n) = .ok (some n) := by
  have hdigits : (Number.natText n).all Char.isDigit = true :=
    List.all_eq_true.mpr fun c hc => Number.isDigit_of_mem_natText hc
  have hdefault' : ¬ (defaultPort? scheme == some n) = true := fun heq => hdefault (beq_iff_eq.mp heq)
  rw [takePort, hdigits, if_neg (by decide), if_neg (by simpa using Number.natText_ne_nil n)]
  dsimp only
  rw [Number.digitsValue_natText, if_neg (by omega), if_neg hdefault']

/-! ## Queries and fragments -/

/-- The text of a query and a fragment. -/
def tailText (query fragment : Option String) : List Char :=
  ((query.map ("?" ++ ·)).getD "").toList ++ ((fragment.map ("#" ++ ·)).getD "").toList

theorem sparesCode_codedInQuery : SparesCode (codedInQuery true) :=
  ⟨by decide, List.all_iff_forall_prop.mp (by decide)⟩

theorem sparesCode_codedInFragment : SparesCode codedInFragment :=
  ⟨by decide, List.all_iff_forall_prop.mp (by decide)⟩

/-- The fragment behind a number sign. -/
def fragmentOf? (cs : List Char) : Option String :=
  match cs with
  | '#' :: rest => some (String.ofList (percentEncode codedInFragment rest))
  | _ => none

theorem queryAndFragment_eq (cs : List Char) :
    queryAndFragment true cs = match cs with
      | '?' :: rest =>
        (some (String.ofList (percentEncode (codedInQuery true) (rest.takeWhile (· != '#')))),
          fragmentOf? (rest.dropWhile (· != '#')))
      | _ => (none, fragmentOf? cs) := rfl

/-- The query and the fragment are coded. -/
theorem queryAndFragment_spec (cs : List Char) :
    (∀ query ∈ (queryAndFragment true cs).1, ∀ c ∈ query.toList, codedInQuery true c = false) ∧
      ∀ fragment ∈ (queryAndFragment true cs).2, ∀ c ∈ fragment.toList, codedInFragment c = false := by
  have hcoded {coded : Char → Bool} (hspares : SparesCode coded) (cs : List Char) {s : String}
      (hs : s ∈ some (String.ofList (percentEncode coded cs))) : ∀ c ∈ s.toList, coded c = false := by
    obtain rfl := Option.some.inj hs
    rw [String.toList_ofList]
    exact hspares.forall_mem_percentEncode cs
  have hfragment (cs : List Char) {s : String} (hs : s ∈ fragmentOf? cs) :
      ∀ c ∈ s.toList, codedInFragment c = false := by
    unfold fragmentOf? at hs
    split at hs
    · exact hcoded sparesCode_codedInFragment _ hs
    · contradiction
  rw [queryAndFragment_eq]
  split
  · exact ⟨fun query hquery => hcoded sparesCode_codedInQuery _ hquery, fun fragment hs => hfragment _ hs⟩
  · exact ⟨nofun, fun fragment hs => hfragment _ hs⟩

/-- The text of a query and a fragment is empty or begins with the mark of one of them. -/
theorem head?_tailText (query fragment : Option String) :
    ∀ c ∈ (tailText query fragment).head?, c = '?' ∨ c = '#' := by
  cases query with
  | some query => exact fun c hc => .inl (by simpa [tailText, eq_comm] using hc)
  | none =>
      cases fragment with
      | some fragment => exact fun c hc => .inr (by simpa [tailText, eq_comm] using hc)
      | none => exact nofun

/-- The query and the fragment are read back from their text. -/
theorem queryAndFragment_tailText {query fragment : Option String}
    (hquery : ∀ q ∈ query, ∀ c ∈ q.toList, codedInQuery true c = false)
    (hfragment : ∀ f ∈ fragment, ∀ c ∈ f.toList, codedInFragment c = false) :
    queryAndFragment true (tailText query fragment) = (query, fragment) := by
  have hmark : codedInQuery true '#' = true := by decide
  have hread : fragmentOf? (tailText none fragment) = fragment ∧
      ∀ c ∈ (tailText none fragment).head?, c = '#' := by
    cases fragment with
    | none => exact ⟨rfl, nofun⟩
    | some fragment =>
        have htext : tailText none (some fragment) = '#' :: fragment.toList := by simp [tailText]
        rw [htext, fragmentOf?, percentEncode_of_forall (hfragment fragment rfl), String.ofList_toList]
        exact ⟨rfl, fun c hc => (Option.some.inj hc).symm⟩
  cases query with
  | none =>
      rw [queryAndFragment_eq]
      split
      · next rest htext =>
          rw [htext] at hread
          exact absurd (hread.2 '?' rfl) (by decide)
      · rw [hread.1]
  | some query =>
      have hplain : ∀ c ∈ query.toList, (c != '#') = true := by
        intro c hc
        refine bne_iff_ne.mpr ?_
        rintro rfl
        exact absurd ((hquery query rfl '#' hc).symm.trans hmark) (by decide)
      have hstop : ∀ c ∈ (tailText none fragment).head?, (c != '#') = false := by
        intro c hc
        rw [hread.2 c hc]
        rfl
      obtain ⟨htake, hdrop⟩ := Number.takeWhile_append_of_stop hplain hstop
      have htext : tailText (some query) fragment = '?' :: (query.toList ++ tailText none fragment) := by
        simp [tailText]
      rw [htext]
      show (some (String.ofList (percentEncode (codedInQuery true)
          ((query.toList ++ tailText none fragment).takeWhile (· != '#')))),
        fragmentOf? ((query.toList ++ tailText none fragment).dropWhile (· != '#'))) = _
      rw [htake, hdrop, percentEncode_of_forall (hquery query rfl), String.ofList_toList, hread.1]

/-! ## Addresses -/

/-- What is known of an address of the web that has been read: its parts are coded, its host was read, its
port is not the usual one, and it has a path of segments. -/
structure IsRead (url : Url) : Prop where
  scheme : url.scheme = "http" ∨ url.scheme = "https"
  username : IsUserText url.username
  password : ∀ p ∈ url.password, p ≠ "" ∧ IsUserText p
  host : ∃ host cs, url.host = some host ∧ Host.ofText cs = .ok host
  port : ∀ n ∈ url.port, n ≤ 65535 ∧ defaultPort? url.scheme ≠ some n
  path : ∃ parts, url.path = .segments parts ∧ parts ≠ [] ∧ ∀ part ∈ parts, IsSegment part
  query : ∀ q ∈ url.query, ∀ c ∈ q.toList, codedInQuery true c = false
  fragment : ∀ f ∈ url.fragment, ∀ c ∈ f.toList, codedInFragment c = false

/-- An address of the web has the scheme that it is read with. -/
theorem isWebScheme_of_web (h : scheme = "http" ∨ scheme = "https") : isWebScheme scheme = true := by
  rcases h with rfl | rfl <;> decide

/-- An address with an authority is as it was read. -/
theorem isRead_of_ofAuthority (hscheme : scheme = "http" ∨ scheme = "https")
    (h : ofAuthority scheme cs = .ok url) : IsRead url := by
  obtain ⟨parts, rfl⟩ := (ofAuthority_eq_ok_iff (isWebScheme_of_web hscheme)).mp h
  obtain ⟨-, husername, hpassword⟩ := takeUserInfo_spec parts.info
  obtain ⟨hsegments, last, hlast, -⟩ := segmentsBehind_spec (behindAuthority cs)
  obtain ⟨hquery, hfragment⟩ := queryAndFragment_spec (cutQuery (behindAuthority cs)).2
  refine ⟨hscheme, husername, hpassword, ⟨parts.host, parts.hostChars, rfl, parts.host_read⟩,
    fun n hn => ?_, ⟨_, rfl, ?_, hsegments⟩, hquery, hfragment⟩
  · have hport := parts.port_read
    have hn : parts.port = some n := hn
    rw [hn] at hport
    cases hdigits : parts.portChars with
    | none =>
        rw [hdigits] at hport
        exact absurd (Except.ok.inj hport) nofun
    | some digits =>
        rw [hdigits] at hport
        exact takePort_spec hport
  · intro hnil
    rw [hnil] at hlast
    contradiction

/-! ### As they are read -/

-- Every way out of a reader that is no error gives an address with the scheme.
theorem scheme_of_ofAuthority (h : ofAuthority scheme cs = .ok url) : url.scheme = scheme := by
  unfold ofAuthority at h
  simp only [bind, Except.bind] at h
  repeat' split at h
  all_goals first
    | contradiction
    | exact Except.ok.inj h ▸ rfl

theorem scheme_of_ofFile (h : ofFile cs = .ok url) : url.scheme = "file" := by
  unfold ofFile at h
  simp only [bind, Except.bind] at h
  repeat' split at h
  all_goals first
    | contradiction
    | exact Except.ok.inj h ▸ rfl

theorem scheme_of_ofOtherScheme (h : ofOtherScheme scheme cs = .ok url) : url.scheme = scheme := by
  unfold ofOtherScheme at h
  split at h
  · exact scheme_of_ofAuthority h
  · exact Except.ok.inj h ▸ rfl

theorem suffix_of_takeScheme? (h : takeScheme? cs = some (scheme, rest)) : rest <:+ cs := by
  unfold takeScheme? at h
  dsimp only at h
  split at h
  · next rest' c name hrest hname =>
      obtain ⟨-, h⟩ := Option.ite_none_right_eq_some.mp h
      obtain ⟨-, rfl⟩ := Prod.mk.inj (Option.some.inj h)
      exact (List.suffix_cons _ _).trans (hrest ▸ List.drop_suffix _ _)
  · contradiction

/-- An address of the web is read from an authority at the end of its text. -/
theorem ofAuthority_of_parse (h : parse s = .ok url)
    (hscheme : url.scheme = "http" ∨ url.scheme = "https") :
    ∃ rest, rest <:+ withoutBreaks (s.toList.dropWhile isEdge) ∧
      ofAuthority url.scheme rest = .ok url := by
  have hweb := isWebScheme_of_web hscheme
  unfold parse at h
  dsimp only at h
  split at h
  · contradiction
  · next scheme rest htake =>
      split at h
      · rw [scheme_of_ofFile h] at hweb
        exact absurd hweb (by decide)
      · split at h
        · obtain rfl := scheme_of_ofAuthority h
          exact ⟨_, (List.dropWhile_suffix _).trans (suffix_of_takeScheme? htake), h⟩
        · next hother =>
            rw [scheme_of_ofOtherScheme h] at hweb
            exact absurd hweb hother

/-- An address of the web is as it was read. -/
theorem isRead_of_parse (h : parse s = .ok url) (hscheme : url.scheme = "http" ∨ url.scheme = "https") :
    IsRead url :=
  have ⟨_, _, hread⟩ := ofAuthority_of_parse h hscheme
  isRead_of_ofAuthority hscheme hread

/-! ### Their text -/

/-- What is not coded in some part of an address is visible, if all controls and spaces are coded there. -/
theorem isVisible_of_not_coded {coded : Char → Bool} {c : Char}
    (hcontrol : isControlOrNotAscii c = true → coded c = true) (hspace : coded ' ' = true)
    (h : coded c = false) : isVisible c = true := by
  have hplain : isControlOrNotAscii c = false :=
    Bool.eq_false_iff.mpr fun hcoded => absurd (h.symm.trans (hcontrol hcoded)) (by decide)
  have hne : c.toNat ≠ ' '.toNat := fun heq => by
    rw [Char.toNat_inj.mp heq, hspace] at h
    contradiction
  simp only [isControlOrNotAscii, Bool.or_eq_false_iff, decide_eq_false_iff_not] at hplain
  simp only [isVisible, Bool.and_eq_true, decide_eq_true_eq]
  have hcode : ' '.toNat = 0x20 := rfl
  omega

/-- The characters of a user name or password are visible, and they do not end the authority. -/
theorem IsUserText.of_mem {s : String} (h : IsUserText s) :
    ∀ c ∈ s.toList, isVisible c = true ∧ endsAuthority c = false := by
  intro c hc
  have hplain := h c hc
  refine ⟨isVisible_of_not_coded (fun hcontrol => ?_) (by decide) hplain, ?_⟩
  · simp [codedInUserInfo, codedInPath, codedInFragment, hcontrol]
  · refine Bool.eq_false_iff.mpr fun hends => ?_
    have hcoded : codedInUserInfo '/' = true ∧ codedInUserInfo '?' = true ∧ codedInUserInfo '#' = true ∧
        codedInUserInfo '\\' = true := by decide
    simp only [endsAuthority, Bool.or_eq_true, beq_iff_eq] at hends
    rcases hends with ((rfl | rfl) | rfl) | rfl <;> simp_all

/-- The characters of user info are visible, and they do not end the authority. -/
theorem of_mem_userInfoText (husername : IsUserText url.username)
    (hpassword : ∀ p ∈ url.password, IsUserText p) :
    ∀ c ∈ url.userInfoText.toList, isVisible c = true ∧ endsAuthority c = false := by
  have hmarks : ∀ c ∈ [':', '@'], isVisible c = true ∧ endsAuthority c = false :=
    List.all_iff_forall_prop.mp (by decide)
  unfold userInfoText
  cases hword : url.password with
  | none =>
      dsimp only
      split
      · exact fun c hc => absurd hc List.not_mem_nil
      · rw [String.toList_append, List.forall_mem_append]
        exact ⟨husername.of_mem, (List.forall_mem_cons.mp hmarks).2⟩
  | some password =>
      rw [String.toList_append, String.toList_append, String.toList_append]
      simp only [List.forall_mem_append]
      obtain ⟨hcolon, hat⟩ := List.forall_mem_cons.mp hmarks
      exact ⟨⟨⟨husername.of_mem, List.forall_mem_singleton.mpr hcolon⟩,
        (hpassword password hword).of_mem⟩, hat⟩

/-- The text of a port behind a colon. -/
def portText (port : Option Nat) : List Char := (port.map fun n => ':' :: Number.natText n).getD []

/-- A port is written in visible characters, and they do not end the authority or the user info. -/
theorem of_mem_portText (port : Option Nat) :
    ∀ c ∈ portText port, isVisible c = true ∧ endsAuthority c = false ∧ c ≠ '@' := by
  cases port with
  | none => exact fun c hc => absurd hc List.not_mem_nil
  | some n =>
      refine List.forall_mem_cons.mpr ⟨by decide, fun c hc => ?_⟩
      have hdigit := Number.isDigit_of_mem_natText hc
      have hplain : isPlainHostChar c = true := by
        rw [isPlainHostChar, Char.isAlphanum, hdigit, Bool.or_true, Bool.true_or]
      exact of_isPlainHostChar (P := fun c => isVisible c = true ∧ endsAuthority c = false ∧ c ≠ '@')
        (by decide) hplain

/-- The text of the authority with a host. -/
def authorityText (url : Url) (host : Host) : List Char :=
  url.userInfoText.toList ++ (host.text.toList ++ portText url.port)

/-- The text of what follows the authority. -/
def restText (url : Url) : List Char := (pathText url.path).toList ++ tailText url.query url.fragment

/-- The text of an address with a host. -/
theorem toList_text {host : Host} (hhost : url.host = some host) :
    url.text.toList =
      url.scheme.toList ++ ':' :: '/' :: '/' :: (authorityText url host ++ restText url) := by
  have hport : ((url.port.map fun n => s!":{n}").getD "").toList = portText url.port := by
    cases url.port with
    | none => rfl
    | some n =>
        show (":" ++ Nat.repr n).toList = ':' :: Nat.toDigits 10 n
        simp [Nat.repr]
  rw [text, hhost]
  simp only [String.toList_append, hport, authorityText, restText, tailText, List.append_assoc]
  rfl

/-- The parts of the authority are read back from its text. -/
def IsRead.authorityParts {host : Host} (h : IsRead url) (hhost : Host.ofText cs = .ok host) :
    AuthorityParts url.scheme (authorityText url host) where
  username := url.username
  password := url.password
  host := host
  port := url.port
  place := host.text.toList ++ portText url.port
  hostChars := host.text.toList
  portChars := url.port.map Number.natText
  info := by
    refine takeUserInfo_userInfoText ?_ h.username h.password
    rw [List.mem_append, not_or]
    exact ⟨fun hc => (Host.of_mem_text hhost '@' hc).2.2 rfl,
      fun hc => (of_mem_portText _ '@' hc).2.2 rfl⟩
  cut := by
    rw [Host.cutPort_text hhost]
    cases url.port with
    | none => exact Prod.ext (List.append_nil _) rfl
    | some n => exact Prod.ext (List.append_nil _) rfl
  named := Host.text_ne_nil hhost
  host_read := Host.ofText_text hhost
  port_read := by
    cases hport : url.port with
    | none => rfl
    | some n =>
        obtain ⟨hbound, hdefault⟩ := h.port n hport
        exact takePort_natText hbound hdefault

/-- The characters of an address that has been read are visible. -/
theorem IsRead.isVisible_text (h : IsRead url) : ∀ c ∈ url.text.toList, isVisible c = true := by
  obtain ⟨host, cs, hhost, hread⟩ := h.host
  obtain ⟨parts, hpath, -, hparts⟩ := h.path
  have hscheme : ∀ c ∈ url.scheme.toList, isVisible c = true := by
    rcases h.scheme with hscheme | hscheme <;> rw [hscheme] <;> exact List.all_iff_forall_prop.mp (by decide)
  have hquery : ∀ c ∈ ((url.query.map ("?" ++ ·)).getD "").toList, isVisible c = true := by
    cases hq : url.query with
    | none => exact fun c hc => absurd hc List.not_mem_nil
    | some query =>
        have hcoded := h.query query hq
        show ∀ c ∈ ("?" ++ query).toList, isVisible c = true
        rw [String.toList_append, List.forall_mem_append]
        exact ⟨List.all_iff_forall_prop.mp (by decide), fun c hc => isVisible_of_not_coded
          (fun hcontrol => by simp [codedInQuery, hcontrol]) (by decide) (hcoded c hc)⟩
  have hfragment : ∀ c ∈ ((url.fragment.map ("#" ++ ·)).getD "").toList, isVisible c = true := by
    cases hf : url.fragment with
    | none => exact fun c hc => absurd hc List.not_mem_nil
    | some fragment =>
        have hcoded := h.fragment fragment hf
        show ∀ c ∈ ("#" ++ fragment).toList, isVisible c = true
        rw [String.toList_append, List.forall_mem_append]
        exact ⟨List.all_iff_forall_prop.mp (by decide), fun c hc => isVisible_of_not_coded
          (fun hcontrol => by simp [codedInFragment, hcontrol]) (by decide) (hcoded c hc)⟩
  rw [toList_text hhost, authorityText, restText, tailText, hpath]
  simp only [List.forall_mem_append, List.forall_mem_cons]
  refine ⟨hscheme, by decide, by decide, by decide, ⟨?_, ?_, ?_⟩, ?_, hquery, hfragment⟩
  · exact fun c hc => (of_mem_userInfoText h.username (fun p hp => (h.password p hp).2) c hc).1
  · exact fun c hc => (Host.of_mem_text hread c hc).1
  · exact fun c hc => (of_mem_portText _ c hc).1
  · exact fun c hc => isVisible_of_not_coded
      (fun hcontrol => by simp [codedInPath, codedInFragment, hcontrol]) (by decide)
      (not_coded_of_mem_pathText hparts c hc)

/-- An address of the web that has been read is read back from its text. -/
theorem IsRead.parse_text (h : IsRead url) : parse url.text = .ok url := by
  obtain ⟨host, cs, hhost, hread⟩ := h.host
  obtain ⟨parts, hpath, hne, hparts⟩ := h.path
  have hauthority : ∀ c ∈ authorityText url host, endsAuthority c = false := by
    rw [authorityText, List.forall_mem_append, List.forall_mem_append]
    exact ⟨fun c hc => (of_mem_userInfoText h.username (fun p hp => (h.password p hp).2) c hc).2,
      fun c hc => (Host.of_mem_text hread c hc).2.1, fun c hc => (of_mem_portText _ c hc).2.1⟩
  have hslashes : ∀ c ∈ authorityText url host, (c == '/' || c == '\\') = false := by
    intro c hc
    have hends := hauthority c hc
    simp only [endsAuthority, Bool.or_eq_false_iff] at hends ⊢
    exact ⟨hends.1.1.1, hends.2⟩
  have hnamed : authorityText url host ≠ [] := by
    rw [authorityText]
    simp [Host.text_ne_nil hread]
  have hrest : ∀ c ∈ (restText url).head?, endsAuthority c = true := by
    rw [restText, hpath, toList_pathText hne]
    intro c hc
    obtain rfl := Option.some.inj hc
    rfl
  have hparts' : (h.authorityParts hread).url (restText url) = url := by
    obtain ⟨hsegments, htail⟩ :=
      segmentsBehind_pathText hne hparts (head?_tailText url.query url.fragment)
    have hqueryFragment := queryAndFragment_tailText h.query h.fragment
    rw [AuthorityParts.url, restText, hpath, hsegments, htail, hqueryFragment]
    obtain ⟨scheme, username, password, host', port, path, query, fragment⟩ := url
    obtain rfl : host' = some host := hhost
    obtain rfl : path = .segments parts := hpath
    rfl
  have hread' : withoutBreaks (url.text.toList.dropWhile isEdge) =
      url.scheme.toList ++ ':' :: '/' :: '/' :: (authorityText url host ++ restText url) := by
    have hvisible := h.isVisible_text
    rw [toList_text hhost] at hvisible ⊢
    have hedge :=
      dropWhile_append_of_forall (by simp) (fun c hc => isEdge_of_isVisible (hvisible c hc)) []
    rw [List.append_nil] at hedge
    rw [hedge, withoutBreaks_of_forall hvisible]
  rw [parse_of_web h.scheme hread']
  show ofAuthority url.scheme ((authorityText url host ++ restText url).dropWhile _) = _
  rw [dropWhile_append_of_forall hnamed hslashes,
    (h.authorityParts hread).ofAuthority_eq (isWebScheme_of_web h.scheme) hauthority hrest, hparts']

end DynamicContent.Url
