/-
# Addresses below the bases of the settings

The settings name the addresses of the home page, the site and its administration, and every other
address of the site is the text of one of them with a path behind it. Each of the three is an address of
the web that has been read from a text with a slash at its end, so that what is written behind it is read
as an address below it. The slash ends its path only if it is not part of a query or a fragment: the path
of an administration that is not named replaces all that follows the last slash in the path of the site.
-/

import DynamicContent.Program.Settings
import DynamicContent.Proofs.Site.Posts
import DynamicContent.Proofs.Url.ReadBack

namespace DynamicContent.Url

/-! ## Addresses below others

A text of letters, digits, hyphens, underscores and slashes that is written behind an address continues
the fragment if there is one, else the query if there is one, and else the path. So the address that is
read stays below the first one if the path of that one ends in a slash, and it does if a slash is the last
character that it was read from and neither a query nor a fragment took the slash. -/

variable {s : String} {cs : List Char} {url : Url}

/-- Whether two addresses have the same origin. -/
def SameOrigin (url other : Url) : Prop :=
  url.scheme = other.scheme ∧ url.host = other.host ∧ url.port = other.port

/-- Whether a path ends in a slash. -/
def EndsInSlash (path : UrlPath) : Prop := ∃ front, path = .segments (front ++ [""])

/-- An address below which others can be written: it has been read, and its path ends in a slash unless it
has a query or a fragment. -/
structure IsBase (url : Url) : Prop where
  read : IsRead url
  slash : url.query = none → url.fragment = none → EndsInSlash url.path

/-! ### A slash at the end -/

/-- What is last in a text stays last if it is not dropped. -/
theorem getLast?_dropWhile {α : Type} {p : α → Bool} {cs : List α} {c : α} (h : cs.getLast? = some c)
    (hc : p c = false) : (cs.dropWhile p).getLast? = some c := by
  obtain ⟨front, rfl⟩ := List.getLast?_eq_some_iff.mp h
  have hne : (front ++ [c]).dropWhile p ≠ [] := by
    rw [ne_eq, List.dropWhile_eq_nil_iff]
    intro hall
    exact absurd ((hall c (by simp)).symm.trans hc) (by decide)
  rw [List.getLast?_eq_some_getLast hne, (List.dropWhile_suffix p).getLast hne, List.getLast_concat]

theorem getLast?_withoutBreaks (h : cs.getLast? = some '/') : (withoutBreaks cs).getLast? = some '/' := by
  obtain ⟨front, rfl⟩ := List.getLast?_eq_some_iff.mp h
  have hstay : (front ++ ['/']).reverse.dropWhile isEdge = (front ++ ['/']).reverse := by
    rw [List.reverse_append]
    exact List.dropWhile_cons_of_neg (by decide)
  rw [withoutBreaks, hstay, List.reverse_reverse, List.filter_append]
  exact List.getLast?_concat

/-- Nothing is cut off a text that has neither a query nor a fragment. -/
theorem cutQuery_eq_self (hquery : (tailBehind cs).1 = none) (hfragment : (tailBehind cs).2 = none) :
    (cutQuery cs).1 = cs := by
  have hcut : (cutQuery cs).1 ++ (cutQuery cs).2 = cs := List.takeWhile_append_dropWhile
  have hmark : ∀ c ∈ (cutQuery cs).2.head?, c = '?' ∨ c = '#' := by
    intro c hc
    have hstop := List.head?_dropWhile_not (fun c => !(c == '?' || c == '#')) cs
    rw [show cs.dropWhile _ = (cutQuery cs).2 from rfl, Option.mem_def.mp hc] at hstop
    rw [or_iff_not_imp_left]
    simpa using hstop
  have hnil : (cutQuery cs).2 = [] := by
    rw [tailBehind] at hquery hfragment
    cases htail : (cutQuery cs).2 with
    | nil => rfl
    | cons c rest =>
        rw [htail] at hquery hfragment hmark
        rcases hmark c rfl with rfl | rfl
        · exact absurd hquery (Option.some_ne_none _)
        · exact absurd hfragment (Option.some_ne_none _)
  rwa [hnil, List.append_nil] at hcut

/-- The path ends in a slash if the text does and has neither a query nor a fragment. -/
theorem endsInSlash_of_ofAuthority {scheme : String} (hscheme : scheme = "http" ∨ scheme = "https")
    (h : ofAuthority scheme cs = .ok url) (hslash : cs.getLast? = some '/') (hquery : url.query = none)
    (hfragment : url.fragment = none) : EndsInSlash url.path := by
  obtain ⟨parts, rfl⟩ := (ofAuthority_eq_ok_iff (isWebScheme_of_web hscheme)).mp h
  have hbehind : (behindAuthority cs).getLast? = some '/' := getLast?_dropWhile hslash (by decide)
  obtain ⟨-, last, hlast, hempty⟩ := segmentsBehind_spec (behindAuthority cs)
  rw [cutQuery_eq_self hquery hfragment] at hempty
  obtain ⟨front, hfront⟩ := List.getLast?_eq_some_iff.mp hlast
  rw [hempty hbehind] at hfront
  exact ⟨front, congrArg UrlPath.segments hfront⟩

/-- No address of the web is read from nothing. -/
theorem ne_nil_of_ofAuthority {scheme : String} (hscheme : scheme = "http" ∨ scheme = "https")
    (h : ofAuthority scheme cs = .ok url) : cs ≠ [] := by
  rintro rfl
  obtain ⟨parts, -⟩ := (ofAuthority_eq_ok_iff (isWebScheme_of_web hscheme)).mp h
  have hinfo : .ok ("", none, []) = Except.ok (parts.username, parts.password, parts.place) :=
    parts.info
  have hplace : [] = parts.place := (Prod.mk.inj (Prod.mk.inj (Except.ok.inj hinfo)).2).2
  have hcut := parts.cut
  rw [← hplace] at hcut
  exact parts.named (congrArg Prod.fst hcut).symm

/-- An address of the web that is read from a text with a slash at its end is one to write others below:
the slash ends its path unless it is part of its query or its fragment. -/
theorem isBase_of_parse (h : parse s = .ok url) (hscheme : url.scheme = "http" ∨ url.scheme = "https")
    (hslash : s.toList.getLast? = some '/') : IsBase url := by
  refine ⟨isRead_of_parse h hscheme, fun hquery hfragment => ?_⟩
  obtain ⟨rest, hsuffix, hread⟩ := ofAuthority_of_parse h hscheme
  have hne := ne_nil_of_ofAuthority hscheme hread
  have hrest : rest.getLast? = some '/' := by
    rw [List.getLast?_eq_some_getLast hne, hsuffix.getLast hne, ← List.getLast?_eq_some_getLast]
    exact getLast?_withoutBreaks (getLast?_dropWhile hslash (by decide))
  exact endsInSlash_of_ofAuthority hscheme hread hrest hquery hfragment

/-! ### The text continued -/

/-- The address that goes on with a text at its end. -/
def continued (url : Url) (more : String) : Url :=
  match url.fragment, url.query, url.path with
  | some fragment, _, _ => { url with fragment := some (fragment ++ more) }
  | none, some query, _ => { url with query := some (query ++ more) }
  | none, none, .segments parts =>
    { url with path :=
        .segments (parts.dropLast ++ (Text.splitAtEach (· == '/') more.toList).map String.ofList) }
  | none, none, .opaquePart text => { url with path := .opaquePart (text ++ more) }

section Continued

variable {more : String}

/-- The text of an address goes on where that of its path, query and fragment does. -/
theorem text_of_restText {url' : Url} {host : Host} (hhost : url.host = some host)
    (hhost' : url'.host = some host) (hscheme : url'.scheme = url.scheme)
    (hauthority : authorityText url' host = authorityText url host)
    (hrest : restText url' = restText url ++ more.toList) : url'.text = url.text ++ more := by
  rw [← String.toList_inj, String.toList_append, toList_text hhost, toList_text hhost', hscheme,
    hauthority, hrest]
  simp

/-- What a coded text goes on with is not to be coded. -/
theorem forall_mem_append_plain {coded : Char → Bool} {s : String} (hs : ∀ c ∈ s.toList, coded c = false)
    (hplain : ∀ c ∈ more.toList, isPlainPathChar c = true)
    (hcoded : ∀ n < 128, isPlainPathChar (Char.ofNat n) = true → coded (Char.ofNat n) = false) :
    ∀ c ∈ (s ++ more).toList, coded c = false := by
  rw [String.toList_append, List.forall_mem_append]
  exact ⟨hs, fun c hc => of_isPlainPathChar (P := (coded · = false)) hcoded (hplain c hc)⟩

/-- An address goes on with a plain text as one that has been read, if what goes on is its fragment or its
query, or a path that ends in a slash. -/
theorem IsRead.continued (h : IsRead url) (hplain : ∀ c ∈ more.toList, isPlainPathChar c = true)
    (hslash : url.query = none → url.fragment = none → EndsInSlash url.path) :
    IsRead (url.continued more) ∧ (url.continued more).text = url.text ++ more := by
  obtain ⟨host, cs, hhost, hread⟩ := h.host
  cases hfragment : url.fragment with
  | some fragment =>
      have hcontinued : url.continued more = { url with fragment := some (fragment ++ more) } := by
        rw [Url.continued, hfragment]
      rw [hcontinued]
      refine ⟨⟨h.scheme, h.username, h.password, h.host, h.port, h.path, h.query, ?_⟩,
        text_of_restText hhost hhost rfl rfl ?_⟩
      · intro f hf
        obtain rfl := Option.some.inj hf
        exact forall_mem_append_plain (h.fragment fragment hfragment) hplain (by decide)
      · simp [restText, tailText, hfragment]
  | none =>
      cases hquery : url.query with
      | some query =>
          have hcontinued : url.continued more = { url with query := some (query ++ more) } := by
            rw [Url.continued, hfragment, hquery]
          rw [hcontinued]
          refine ⟨⟨h.scheme, h.username, h.password, h.host, h.port, h.path, ?_, h.fragment⟩,
            text_of_restText hhost hhost rfl rfl ?_⟩
          · intro q hq
            obtain rfl := Option.some.inj hq
            exact forall_mem_append_plain (h.query query hquery) hplain (by decide)
          · simp [restText, tailText, hfragment, hquery]
      | none =>
          obtain ⟨front, hpath⟩ := hslash hquery hfragment
          have hcontinued : url.continued more =
              { url with path :=
                  .segments (front ++ (Text.splitAtEach (· == '/') more.toList).map String.ofList) } := by
            rw [Url.continued, hfragment, hquery, hpath]
            dsimp only
            rw [List.dropLast_concat]
          obtain ⟨parts, hparts, -, hsegments⟩ := h.path
          obtain rfl : front ++ [""] = parts := UrlPath.segments.inj (hpath.symm.trans hparts)
          rw [hcontinued]
          refine ⟨⟨h.scheme, h.username, h.password, h.host, h.port, ⟨_, rfl, ?_, ?_⟩, h.query,
            h.fragment⟩, text_of_restText hhost hhost rfl rfl ?_⟩
          · simp [Text.splitAtEach_ne_nil]
          · rw [List.forall_mem_append, List.forall_mem_map]
            exact ⟨(List.forall_mem_append.mp hsegments).1, isSegment_of_mem_splitAtEach hplain⟩
          · have htail : tailText url.query url.fragment = [] := by
              rw [hquery, hfragment]
              rfl
            rw [restText, restText, htail, hpath, toList_pathText_continued]
            simp

/-- The origin stays what it is, and the path goes on or stays. -/
theorem continued_below (hslash : url.query = none → url.fragment = none → EndsInSlash url.path) :
    (url.continued more).SameOrigin url ∧
      (pathText url.path).toList <+: (pathText (url.continued more).path).toList := by
  cases hfragment : url.fragment with
  | some fragment =>
      rw [Url.continued, hfragment]
      exact ⟨⟨rfl, rfl, rfl⟩, List.prefix_rfl⟩
  | none =>
      cases hquery : url.query with
      | some query =>
          rw [Url.continued, hfragment, hquery]
          exact ⟨⟨rfl, rfl, rfl⟩, List.prefix_rfl⟩
      | none =>
          obtain ⟨front, hpath⟩ := hslash hquery hfragment
          rw [Url.continued, hfragment, hquery, hpath]
          refine ⟨⟨rfl, rfl, rfl⟩, more.toList, ?_⟩
          dsimp only
          rw [List.dropLast_concat, toList_pathText_continued]

/-- What is read from the text of a base with a plain text behind it is below the base. -/
theorem IsBase.exists_below (h : IsBase url) (hplain : ∀ c ∈ more.toList, isPlainPathChar c = true) :
    ∃ below, parse (url.text ++ more) = .ok below ∧ below.SameOrigin url ∧
      (pathText url.path).toList <+: (pathText below.path).toList := by
  obtain ⟨hread, htext⟩ := h.read.continued hplain h.slash
  exact ⟨url.continued more, htext ▸ hread.parse_text, continued_below h.slash⟩

end Continued

/-! ### Relative paths -/

section Child

variable {more last : String} {front : List String}

/-- A plain relative path takes the place of the last segment, of the query and of the fragment. -/
theorem child_eq (hscheme : url.scheme = "http" ∨ url.scheme = "https")
    (hpath : url.path = .segments (front ++ [last]))
    (hplain : ∀ c ∈ more.toList, isPlainPathChar c = true) :
    url.child more =
      { url with
        path := .segments (front ++ (Text.splitAtEach (· == '/') more.toList).map String.ofList)
        query := none
        fragment := none } := by
  have hspecial : isSpecialScheme url.scheme = true ∧ (url.scheme == "file") = false := by
    rcases hscheme with hscheme | hscheme <;> rw [hscheme] <;> decide
  have hpieces : Text.splitAtEach (fun c => c == '/' || (true && c == '\\')) more.toList =
      ((Text.splitAtEach (· == '/') more.toList).map String.ofList).map String.toList := by
    rw [List.map_map]
    refine Eq.trans (Text.splitAtEach_congr fun c hc => ?_)
      ((List.map_congr_left fun _ _ => String.toList_ofList).trans (List.map_id _)).symm
    have hbackslash : c ≠ '\\' := by
      rintro rfl
      exact absurd (hplain _ hc) (by decide)
    simp [hbackslash]
  have hsegments : ∀ part ∈ (Text.splitAtEach (· == '/') more.toList).map String.ofList,
      IsSegment part := List.forall_mem_map.mpr (isSegment_of_mem_splitAtEach hplain)
  rw [child, hpath]
  dsimp only
  rw [hspecial.1, hspecial.2, pathSegments, hpieces, addSegments_segments hsegments,
    List.dropLast_concat, List.reverse_append, List.reverse_reverse, List.reverse_reverse]

/-- A plain relative path below an address that has been read gives one. -/
theorem IsRead.child (h : IsRead url) (hplain : ∀ c ∈ more.toList, isPlainPathChar c = true) :
    IsRead (url.child more) := by
  obtain ⟨parts, hpath, hne, hsegments⟩ := h.path
  obtain ⟨front, last, rfl⟩ := (List.eq_nil_or_concat' parts).resolve_left hne
  rw [child_eq h.scheme hpath hplain]
  refine ⟨h.scheme, h.username, h.password, h.host, h.port, ⟨_, rfl, ?_, ?_⟩, nofun, nofun⟩
  · simp [Text.splitAtEach_ne_nil]
  · rw [List.forall_mem_append, List.forall_mem_map]
    exact ⟨(List.forall_mem_append.mp hsegments).1, isSegment_of_mem_splitAtEach hplain⟩

end Child

end DynamicContent.Url

namespace DynamicContent

/-! ## The bases of the settings -/

namespace SiteUrls

/-- A slash ends the text that was given one. -/
theorem getLast?_withSlash (base : String) : (withSlash base).toList.getLast? = some '/' := by
  unfold withSlash
  split
  · next hends =>
      obtain ⟨front, rfl⟩ := Text.endsWith_iff.mp hends
      rw [String.toList_append]
      exact List.getLast?_concat
  · rw [String.toList_append]
    exact List.getLast?_concat

/-- A base and a plain path are the text of the base with a plain text behind it. -/
theorem exists_join_eq (base : String) {path : String}
    (hplain : ∀ c ∈ path.toList, Url.isPlainPathChar c = true) :
    ∃ more, (∀ c ∈ more.toList, Url.isPlainPathChar c = true) ∧
      join (withSlash base) path = base ++ more := by
  have hrest : ∀ c ∈ (withoutSlashes path).toList, Url.isPlainPathChar c = true := by
    rw [withoutSlashes, String.toList_ofList]
    exact fun c hc => hplain c ((List.dropWhile_sublist _).subset hc)
  unfold join withSlash
  split
  · exact ⟨_, hrest, rfl⟩
  · refine ⟨"/" ++ withoutSlashes path, ?_, String.append_assoc⟩
    rw [String.toList_append, List.forall_mem_append]
    exact ⟨List.all_iff_forall_prop.mp (by decide), hrest⟩

end SiteUrls

namespace Url

/-- What a site relies on when it writes paths behind the address of a base: the address is one of the
web, its path ends in a slash if it has neither a query nor a fragment, and with any plain path behind it
there is an address of the same origin whose path begins with that of the base. -/
structure HoldsPaths (base : Url) (address : String → String) : Prop where
  web : base.scheme = "http" ∨ base.scheme = "https"
  slash : base.query = none → base.fragment = none → ∃ front, pathText base.path = front ++ "/"
  below : ∀ path : String, (∀ c ∈ path.toList, isPlainPathChar c = true) →
    ∃ url, parse (address path) = .ok url ∧ url.SameOrigin base ∧
      ∃ more, pathText url.path = pathText base.path ++ more

theorem exists_eq_append {s t : String} (h : s.toList <+: t.toList) : ∃ more, t = s ++ more := by
  obtain ⟨more, hmore⟩ := h
  refine ⟨String.ofList more, ?_⟩
  rw [← String.toList_inj, String.toList_append, String.toList_ofList, hmore]

/-- The path before its last segment, with the slash. -/
theorem pathText_concat (front : List String) (last : String) :
    pathText (.segments (front ++ [last])) = pathText (.segments front) ++ "/" ++ last := by
  rw [← String.toList_inj, toList_pathText_append]
  simp [pathText, String.join]

/-- A base of which the text is joined with paths holds them. -/
theorem IsBase.holdsPaths {base : Url} (h : base.IsBase) :
    HoldsPaths base (SiteUrls.join (SiteUrls.withSlash base.text)) where
  web := h.read.scheme
  slash hquery hfragment := by
    obtain ⟨front, hpath⟩ := h.slash hquery hfragment
    rw [hpath, pathText_concat]
    exact ⟨_, String.append_empty⟩
  below path hplain := by
    obtain ⟨more, hmore, hjoin⟩ := SiteUrls.exists_join_eq base.text hplain
    obtain ⟨below, hread, horigin, hbegins⟩ := h.exists_below hmore
    exact ⟨below, hjoin ▸ hread, horigin, exists_eq_append hbegins⟩

end Url

namespace Program

open Site (exists_of_bind_eq_ok)

variable {draft : SettingsDraft}

/-- A base that is accepted is one to write paths behind. -/
theorem isBase_of_baseUrl {key raw : String} {url : Url} (h : baseUrl key raw = .ok url) :
    url.IsBase := by
  unfold baseUrl at h
  split at h
  · exact absurd h nofun
  · next url' hread =>
      split at h
      · next hweb =>
          obtain rfl := Except.ok.inj h
          exact Url.isBase_of_parse hread (by simpa using hweb) (SiteUrls.getLast?_withSlash _)
      · exact absurd h nofun

/-- The administration below a site is a base as well. -/
theorem isBase_child_admin {site : Url} (h : site.IsBase) : (site.child "admin/").IsBase := by
  have hplain : ∀ c ∈ "admin/".toList, Url.isPlainPathChar c = true :=
    List.all_iff_forall_prop.mp (by decide)
  refine ⟨h.read.child hplain, fun _ _ => ?_⟩
  obtain ⟨parts, hpath, hne, -⟩ := h.read.path
  obtain ⟨front, last, rfl⟩ := (List.eq_nil_or_concat' parts).resolve_left hne
  rw [Url.child_eq h.read.scheme hpath hplain]
  exact ⟨front ++ ["admin"], by rw [List.append_assoc]; rfl⟩

/-- The settings of the site, with the addresses that are not named in the place of the others. -/
theorem checkSite_eq (draft : SettingsDraft) :
    checkSite draft = do
      let home ← baseUrl "site.home_url" (draft.home.getD "http://localhost/")
      let site ← draft.site.elim (pure home) (baseUrl "site.site_url")
      let admin ← draft.admin.elim (pure (site.child "admin/")) (baseUrl "site.admin_url")
      let zone ← checkZone draft.zone
      let tag := (draft.tag.map fun s => Text.asciiLower (Text.trim s)).getD Setup.plainTag
      ensure "site.shortcode_tag" "tag must be non-empty and contain only letters, digits, `_` or `-`"
        (Setting.isKey tag)
      return ⟨home, site, admin, draft.settingsPath.getD SiteUrls.plainSettingsPath, zone, tag⟩ := by
  unfold checkSite
  refine bind_congr fun home => ?_
  cases draft.site <;> cases draft.admin <;> dsimp only [Option.elim_some, Option.elim_none]

/-- The bases of accepted settings. -/
theorem checkSite_bases {site : SiteSettings} (h : checkSite draft = .ok site) :
    site.home.IsBase ∧ site.site.IsBase ∧ site.admin.IsBase ∧
      (draft.admin = none → site.admin = site.site.child "admin/") := by
  rw [checkSite_eq] at h
  obtain ⟨home, hhome, h⟩ := exists_of_bind_eq_ok h
  obtain ⟨below, hbelow, h⟩ := exists_of_bind_eq_ok h
  obtain ⟨admin, hadmin, h⟩ := exists_of_bind_eq_ok h
  obtain ⟨zone, hzone, h⟩ := exists_of_bind_eq_ok h
  obtain ⟨_, htag, h⟩ := exists_of_bind_eq_ok h
  obtain rfl := Except.ok.inj h
  have hhome := isBase_of_baseUrl hhome
  have hsite : below.IsBase := by
    cases hnamed : draft.site with
    | some raw =>
        rw [hnamed, Option.elim_some] at hbelow
        exact isBase_of_baseUrl hbelow
    | none =>
        rw [hnamed, Option.elim_none] at hbelow
        exact Except.ok.inj hbelow ▸ hhome
  cases hnamed : draft.admin with
  | some raw =>
      rw [hnamed, Option.elim_some] at hadmin
      exact ⟨hhome, hsite, isBase_of_baseUrl hadmin, nofun⟩
  | none =>
      rw [hnamed, Option.elim_none] at hadmin
      obtain rfl := Except.ok.inj hadmin
      exact ⟨hhome, hsite, isBase_child_admin hsite, fun _ => rfl⟩

/-- An administration that is not named has a path of its own for what follows the last slash in the path
of the site, which is nothing if the site has neither a query nor a fragment. -/
theorem pathText_child_admin {site : Url} (h : site.IsBase) :
    ∃ front last : String, '/' ∉ last.toList ∧ Url.pathText site.path = front ++ "/" ++ last ∧
      Url.pathText (site.child "admin/").path = front ++ "/" ++ "admin/" ∧
      (site.query = none → site.fragment = none → last = "") := by
  obtain ⟨parts, hpath, hne, hsegments⟩ := h.read.path
  obtain ⟨front, last, rfl⟩ := (List.eq_nil_or_concat' parts).resolve_left hne
  have hlast : Url.IsSegment last := hsegments last (by simp)
  refine ⟨Url.pathText (.segments front), last, fun hmem => ?_, ?_, ?_, fun hquery hfragment => ?_⟩
  · exact absurd (hlast.undivided '/' hmem) (by decide)
  · rw [hpath, Url.pathText_concat]
  · rw [Url.child_eq h.read.scheme hpath (List.all_iff_forall_prop.mp (by decide)),
      ← String.toList_inj, Url.toList_pathText_continued, Url.pathText_concat]
    simp
  · obtain ⟨front', hslash⟩ := h.slash hquery hfragment
    have hparts := UrlPath.segments.inj (hpath.symm.trans hslash)
    exact (List.append_inj' hparts rfl).2 |> List.singleton_inj.mp

/-- Accepted settings give the home page, the site and its administration bases that hold the paths that
are written behind them. An administration that is not named is below the site, in the place of what
follows the last slash of its path; nothing does unless the site has a query or a fragment. -/
theorem Settings.bases_hold_paths {settings : Settings} (h : Settings.ofDraft draft = .ok settings)
    (now : Int) :
    Url.HoldsPaths settings.site.home (settings.setup now).urls.home ∧
      Url.HoldsPaths settings.site.site (settings.setup now).urls.site ∧
      Url.HoldsPaths settings.site.admin (settings.setup now).urls.admin ∧
      (draft.admin = none → ∃ front last : String, '/' ∉ last.toList ∧
        Url.pathText settings.site.site.path = front ++ "/" ++ last ∧
        Url.pathText settings.site.admin.path = front ++ "/" ++ "admin/" ∧
        (settings.site.site.query = none → settings.site.site.fragment = none → last = "")) := by
  unfold Settings.ofDraft at h
  obtain ⟨logLevel, -, h⟩ := exists_of_bind_eq_ok h
  obtain ⟨cache, -, h⟩ := exists_of_bind_eq_ok h
  obtain ⟨limits, -, h⟩ := exists_of_bind_eq_ok h
  obtain ⟨site, hsite, h⟩ := exists_of_bind_eq_ok h
  obtain rfl := Except.ok.inj h
  obtain ⟨hhome, hsite, hadmin, hdefault⟩ := checkSite_bases hsite
  refine ⟨hhome.holdsPaths, hsite.holdsPaths, hadmin.holdsPaths, fun hnone => ?_⟩
  dsimp only
  rw [hdefault hnone]
  exact pathText_child_admin hsite

/-- A draft of layers that say nothing. -/
def SettingsDraft.silent : SettingsDraft where
  logLevel := none
  logsJson := none
  backend := none
  directory := none
  keyStart := none
  defaultLifetime := none
  capacity := none
  remembersQueries := none
  queryLifetime := none
  maxPasses := none
  maxDepth := none
  lookupLifetime := none
  allowed := []
  home := none
  site := none
  admin := none
  settingsPath := none
  zone := none
  tag := none

/-- A draft that names the site alone. -/
def SettingsDraft.ofSite (site : String) : SettingsDraft := { silent with site := some site }

theorem exists_of_isOk {ε α : Type} {x : Except ε α} (h : x.isOk = true) : ∃ a, x = .ok a := by
  cases x with
  | error e => contradiction
  | ok a => exact ⟨a, rfl⟩

theorem Settings.cms_bases_hold_paths :
    ∃ settings, Settings.ofDraft (.ofSite "https://example.com/cms") = .ok settings ∧
      Url.HoldsPaths settings.site.site (settings.setup 0).urls.site ∧
      Url.HoldsPaths settings.site.admin (settings.setup 0).urls.admin ∧
      ∃ front last : String, '/' ∉ last.toList ∧
        Url.pathText settings.site.site.path = front ++ "/" ++ last ∧
        Url.pathText settings.site.admin.path = front ++ "/" ++ "admin/" := by
  have haccepted : (Settings.ofDraft (.ofSite "https://example.com/cms")).isOk = true := by
    decide +kernel
  obtain ⟨settings, hsettings⟩ := exists_of_isOk haccepted
  obtain ⟨-, hsite, hadmin, hdefault⟩ := Settings.bases_hold_paths hsettings 0
  obtain ⟨front, last, hlast, hpath, hbelow, -⟩ := hdefault rfl
  exact ⟨settings, hsettings, hsite, hadmin, front, last, hlast, hpath, hbelow⟩

-- The slash at the end goes to the query, and the last segment of the path has none behind it.
example : (Settings.ofDraft (.ofSite "https://example.com/cms?lang=en")).toOption.map
    (fun settings => (settings.site.site.text, settings.site.admin.text)) =
      some ("https://example.com/cms?lang=en/", "https://example.com/admin/") := by decide +kernel

end Program

end DynamicContent
