/-
# Addresses of the web are read

Before an address is read, controls and spaces at its ends are taken away, and tabs and line ends
everywhere. Visible characters stay, and with them all that stands in front of the last of them. An
address of the web is then its scheme, slashes and what is read as an authority with a path. The
authority reaches to the first slash, question mark, number sign or backslash. Its parts are read one by
one, and an address is read exactly if each of them is; what follows the authority is the path with the
query and the fragment.
-/

import DynamicContent.Proofs.Number.Integer
import DynamicContent.Proofs.Text.Casing
import DynamicContent.Url.Basic
import Mathlib.Data.List.DropRight

namespace DynamicContent.Url

/-! ## The authority -/

variable {scheme : String} {authority rest cs : List Char}

/-- Whether a character is behind the authority. -/
def endsAuthority (c : Char) : Bool := c == '/' || c == '?' || c == '#' || c == '\\'

/-- The authority at the front of a text. -/
def authorityOf (cs : List Char) : List Char := cs.takeWhile (!endsAuthority ·)

/-- What follows the authority. -/
def behindAuthority (cs : List Char) : List Char := cs.dropWhile (!endsAuthority ·)

/-- The authority is cut off where it ends. -/
theorem cut_authority (hauthority : ∀ c ∈ authority, endsAuthority c = false)
    (hrest : ∀ c ∈ rest.head?, endsAuthority c = true) :
    authorityOf (authority ++ rest) = authority ∧ behindAuthority (authority ++ rest) = rest := by
  exact Number.takeWhile_append_of_stop (by simpa using hauthority) (by simpa using hrest)

/-- The path of an address of the web, given what follows its authority. -/
def segmentsBehind (rest : List Char) : List String :=
  match (cutQuery rest).1 with
  | [] => [""]
  | _ :: more => pathSegments true false [] more

/-- The query and fragment, given what follows the authority. -/
def tailBehind (rest : List Char) : Option String × Option String :=
  queryAndFragment true (cutQuery rest).2

/-- The parts of an authority, as they are read. -/
structure AuthorityParts (scheme : String) (authority : List Char) where
  username : String
  password : Option String
  host : Host
  port : Option Nat
  /-- What follows the user name and password. -/
  place : List Char
  hostChars : List Char
  portChars : Option (List Char)
  info : takeUserInfo authority = .ok (username, password, place)
  cut : cutPort false place = (hostChars, portChars)
  named : hostChars ≠ []
  host_read : Host.ofText hostChars = .ok host
  port_read : portChars.elim (.ok none) (takePort scheme) = .ok port

/-- The address with an authority and what follows it. -/
def AuthorityParts.url (parts : AuthorityParts scheme authority) (rest : List Char) : Url :=
  ⟨scheme, parts.username, parts.password, some parts.host, parts.port,
    .segments (segmentsBehind rest), (tailBehind rest).1, (tailBehind rest).2⟩

/-- What is read of an address of the web: the user info, the host behind it and the port. -/
theorem ofAuthority_of_web (hweb : isWebScheme scheme = true) (cs : List Char) :
    ofAuthority scheme cs = (do
      let (username, password, place) ←
        if authorityOf cs == ['@'] && (behindAuthority cs).isEmpty then .ok ("", none, [])
        else takeUserInfo (authorityOf cs)
      if (cutPort false place).1.isEmpty then .error .emptyHost
      else
        let host ← Host.ofText (cutPort false place).1
        let port ← (cutPort false place).2.elim (.ok none) (takePort scheme)
        .ok ⟨scheme, username, password, some host, port, .segments (segmentsBehind (behindAuthority cs)),
          (tailBehind (behindAuthority cs)).1, (tailBehind (behindAuthority cs)).2⟩) := by
  have hends : (fun c => !(c == '/' || c == '?' || c == '#' || (isWebScheme scheme && c == '\\'))) =
      (!endsAuthority ·) := by
    funext c
    rw [hweb, Bool.true_and, endsAuthority]
  have hauthority : cs.takeWhile (!endsAuthority ·) = authorityOf cs := rfl
  have hrest : cs.dropWhile (!endsAuthority ·) = behindAuthority cs := rfl
  unfold ofAuthority
  dsimp only
  rw [hends, hauthority, hrest]
  simp only [hweb, Bool.true_or, Bool.and_true, if_true]
  congr 1
  congr 1
  funext ⟨username, password, place⟩
  cases (cutPort false place).2 <;> rfl

/-- An address of the web that is read has an authority of which each part is read. -/
theorem exists_parts_of_ofAuthority (hweb : isWebScheme scheme = true) {url : Url}
    (h : ofAuthority scheme cs = .ok url) :
    ∃ parts : AuthorityParts scheme (authorityOf cs), url = parts.url (behindAuthority cs) := by
  rw [ofAuthority_of_web hweb] at h
  split_ifs at h with hat
  -- Behind user info that is cut off there is no host.
  · simp [bind, Except.bind, cutPort] at h
  · cases hinfo : takeUserInfo (authorityOf cs) with
    | error e => simp [hinfo, bind, Except.bind] at h
    | ok info =>
        obtain ⟨username, password, place⟩ := info
        simp only [hinfo, bind, Except.bind] at h
        split_ifs at h with hempty
        cases hhost : Host.ofText (cutPort false place).1 with
        | error e => simp [hhost] at h
        | ok host =>
            cases hport : (cutPort false place).2.elim (.ok none) (takePort scheme) with
            | error e => simp [hhost, hport] at h
            | ok port =>
                simp only [hhost, hport] at h
                exact ⟨⟨username, password, host, port, place, _, _, hinfo, rfl, by simpa using hempty,
                  hhost, hport⟩, (Except.ok.inj h).symm⟩

/-- An authority of which each part is read is that of an address of the web. -/
theorem AuthorityParts.ofAuthority_eq_url (parts : AuthorityParts scheme (authorityOf cs))
    (hweb : isWebScheme scheme = true) : ofAuthority scheme cs = .ok (parts.url (behindAuthority cs)) := by
  have hat : ¬ (authorityOf cs == ['@'] && (behindAuthority cs).isEmpty) = true := by
    rw [Bool.and_eq_true, beq_iff_eq]
    rintro ⟨hat, -⟩
    have hnone : takeUserInfo (authorityOf cs) = .error .emptyHost := by
      rw [hat]
      rfl
    exact absurd (hnone.symm.trans parts.info) nofun
  rw [ofAuthority_of_web hweb, if_neg hat, parts.info]
  simp only [bind, Except.bind]
  rw [parts.cut, if_neg (by simpa using parts.named), parts.host_read]
  dsimp only
  rw [parts.port_read]
  rfl

/-- An address of the web is read if and only if the parts of its authority are. -/
theorem ofAuthority_eq_ok_iff (hweb : isWebScheme scheme = true) {url : Url} :
    ofAuthority scheme cs = .ok url ↔
      ∃ parts : AuthorityParts scheme (authorityOf cs), url = parts.url (behindAuthority cs) := by
  refine ⟨exists_parts_of_ofAuthority hweb, ?_⟩
  rintro ⟨parts, rfl⟩
  exact parts.ofAuthority_eq_url hweb

/-- An address of the web is what its authority and the rest say. -/
theorem AuthorityParts.ofAuthority_eq (parts : AuthorityParts scheme authority)
    (hweb : isWebScheme scheme = true) (hauthority : ∀ c ∈ authority, endsAuthority c = false)
    (hrest : ∀ c ∈ rest.head?, endsAuthority c = true) :
    ofAuthority scheme (authority ++ rest) = .ok (parts.url rest) := by
  obtain ⟨htake, hdrop⟩ := cut_authority hauthority hrest
  rw [ofAuthority_eq_ok_iff hweb, htake, hdrop]
  exact ⟨parts, rfl⟩

/-! ### Parts that are left out -/

/-- An authority without an `@` names no user. -/
theorem takeUserInfo_of_not_mem (h : '@' ∉ authority) :
    takeUserInfo authority = .ok ("", none, authority) := by
  have hnone : Text.cutChars ['@'] authority.reverse = none := by
    rw [Text.cutChars_eq_none_iff, List.singleton_infix_iff]
    simpa using h
  rw [takeUserInfo, hnone]

/-- A text without colons and opening brackets is no place to cut before a port. -/
theorem cutPort_append (h : ∀ c ∈ cs, c ≠ ':' ∧ c ≠ '[') (rest : List Char) :
    cutPort false (cs ++ rest) = (cs ++ (cutPort false rest).1, (cutPort false rest).2) := by
  induction cs with
  | nil => rfl
  | cons c cs ih =>
      obtain ⟨⟨hcolon, hbracket⟩, hcs⟩ := List.forall_mem_cons.mp h
      have hinside : (if c == '[' then true else if c == ']' then false else false) = false := by
        simp [hbracket]
      rw [List.cons_append, cutPort, if_neg (by simp [hcolon]), hinside]
      dsimp only
      rw [ih hcs]
      rfl

/-- An authority without colons and brackets has no port. -/
theorem cutPort_of_forall (h : ∀ c ∈ cs, c ≠ ':' ∧ c ≠ '[') : cutPort false cs = (cs, none) := by
  have hcut := cutPort_append h []
  rwa [List.append_nil, show cutPort false [] = ([], none) from rfl, List.append_nil] at hcut

/-- What stands in brackets is no place to cut before a port. -/
theorem cutPort_brackets {inside : List Char} (h : ∀ c ∈ inside, c ≠ ']') (rest : List Char) :
    cutPort false ('[' :: (inside ++ ']' :: rest)) =
      ('[' :: (inside ++ ']' :: (cutPort false rest).1), (cutPort false rest).2) := by
  have hinside : cutPort true (inside ++ ']' :: rest) =
      (inside ++ ']' :: (cutPort false rest).1, (cutPort false rest).2) := by
    induction inside with
    | nil => rfl
    | cons c inside ih =>
        obtain ⟨hc, hinside⟩ := List.forall_mem_cons.mp h
        have hstay : (if c == '[' then true else if c == ']' then false else true) = true := by
          simp [hc]
        rw [List.cons_append, cutPort, if_neg (by simp), hstay]
        dsimp only
        rw [ih hinside]
        rfl
  rw [cutPort, if_neg (by decide)]
  dsimp only
  rw [show (if ('[' == '[') = true then true else if ('[' == ']') = true then false else false) = true
    from rfl, hinside]

/-- The parts of an authority that is a host and nothing else. -/
def AuthorityParts.ofHost {host : Host} (hne : authority ≠ []) (hinfo : '@' ∉ authority)
    (hport : ∀ c ∈ authority, c ≠ ':' ∧ c ≠ '[') (hhost : Host.ofText authority = .ok host) :
    AuthorityParts scheme authority :=
  ⟨"", none, host, none, authority, authority, none, takeUserInfo_of_not_mem hinfo,
    cutPort_of_forall hport, hne, hhost, rfl⟩

/-! ## The whole text -/

variable {s : String} {front : List Char}

/-- Controls and the space. -/
def isEdge (c : Char) : Bool := c.toNat ≤ 0x20

/-- What is in no address. -/
def isBreak (c : Char) : Bool := c == '\t' || c == '\n' || c == '\r'

/-- A text without controls and spaces at its end and without tabs and line ends. -/
def withoutBreaks (cs : List Char) : List Char :=
  ((cs.reverse.dropWhile isEdge).reverse).filter (!isBreak ·)

/-- The characters of ASCII that can be seen. -/
def isVisible (c : Char) : Bool := 0x20 < c.toNat && c.toNat < 0x7F

theorem isEdge_of_isVisible {c : Char} (h : isVisible c = true) : isEdge c = false := by
  simp only [isVisible, Bool.and_eq_true, decide_eq_true_eq] at h
  simpa [isEdge] using h.1

theorem isBreak_of_isEdge {c : Char} (h : isEdge c = false) : isBreak c = false := by
  have hedges : isEdge '\t' = true ∧ isEdge '\n' = true ∧ isEdge '\r' = true := by decide
  rw [isBreak, Bool.or_eq_false_iff, Bool.or_eq_false_iff, beq_eq_false_iff_ne, beq_eq_false_iff_ne,
    beq_eq_false_iff_ne]
  refine ⟨⟨?_, ?_⟩, ?_⟩ <;> rintro rfl
  · exact absurd (hedges.1.symm.trans h) (by decide)
  · exact absurd (hedges.2.1.symm.trans h) (by decide)
  · exact absurd (hedges.2.2.symm.trans h) (by decide)

theorem isBlank_of_isVisible {c : Char} (h : isVisible c = true) : Text.isBlank c = false := by
  simp only [isVisible, Bool.and_eq_true, decide_eq_true_eq] at h
  simp only [Text.isBlank, Bool.or_eq_false_iff, Bool.and_eq_false_iff, decide_eq_false_iff_not,
    beq_eq_false_iff_ne]
  omega

/-- Visible characters in front of a text stay. -/
theorem withoutBreaks_append (hfront : ∀ c ∈ front, isVisible c = true) (rest : List Char) :
    withoutBreaks (front ++ rest) = front ++ withoutBreaks rest := by
  have hedge : ∀ c ∈ front, isEdge c = false := fun c hc => isEdge_of_isVisible (hfront c hc)
  have hbreak : front.filter (!isBreak ·) = front := by
    rw [List.filter_eq_self]
    intro c hc
    rw [isBreak_of_isEdge (hedge c hc)]
    rfl
  rw [withoutBreaks, dropEnd_append hedge, List.filter_append, hbreak, withoutBreaks]

/-- Visible characters in front of a text are not trimmed. -/
theorem trimChars_append (hne : front ≠ []) (hfront : ∀ c ∈ front, isVisible c = true)
    (rest : List Char) : Text.trimChars (front ++ rest) = front ++ Text.trimEndChars rest := by
  exact Text.trimChars_append hne (fun c hc => isBlank_of_isVisible (hfront c hc)) rest

/-- What is read of a trimmed text after visible characters. -/
theorem withoutBreaks_trim {s : String} (hne : front ≠ []) (hfront : ∀ c ∈ front, isVisible c = true)
    (hs : s.toList = front ++ rest) :
    withoutBreaks ((Text.trim s).toList.dropWhile isEdge) =
      front ++ withoutBreaks (Text.trimEndChars rest) := by
  rw [Text.trim, String.toList_ofList, hs, trimChars_append hne hfront,
    dropWhile_append_of_forall hne fun c hc => isEdge_of_isVisible (hfront c hc),
    withoutBreaks_append hfront]

/-- A text of visible characters stays what it is. -/
theorem withoutBreaks_of_forall (h : ∀ c ∈ cs, isVisible c = true) : withoutBreaks cs = cs := by
  have hnil := withoutBreaks_append h []
  rwa [List.append_nil, show withoutBreaks [] = [] from rfl, List.append_nil] at hnil

/-- An address of the web is a scheme and what follows it, which may begin with any number of
slashes. -/
theorem parse_of_web {scheme : String} (hscheme : scheme = "http" ∨ scheme = "https")
    (hs : withoutBreaks (s.toList.dropWhile isEdge) = scheme.toList ++ ':' :: rest) :
    parse s = ofAuthority scheme (rest.dropWhile fun c => c == '/' || c == '\\') := by
  have htake : takeScheme? (scheme.toList ++ ':' :: rest) = some (scheme, rest) := by
    rcases hscheme with rfl | rfl <;> rfl
  have hfile : (scheme == "file") = false ∧ isWebScheme scheme = true := by
    rcases hscheme with rfl | rfl <;> decide
  rw [withoutBreaks] at hs
  rw [parse]
  unfold isEdge isBreak at hs
  dsimp only
  rw [hs, htake]
  dsimp only
  rw [hfile.1, hfile.2]
  rfl

/-- A text that begins with a slash is no address by itself. -/
theorem parse_slash (hs : withoutBreaks (s.toList.dropWhile isEdge) = '/' :: rest) :
    parse s = .error .withoutBase := by
  have htake : takeScheme? ('/' :: rest) = none := rfl
  unfold withoutBreaks isEdge isBreak at hs
  rw [parse]
  dsimp only
  rw [hs, htake]

end DynamicContent.Url
