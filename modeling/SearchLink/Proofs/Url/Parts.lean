import Mathlib.Data.List.Basic
import SearchLink.Page
import SearchLink.Proofs.Text.Numeral
import SearchLink.Proofs.Text.Percent

/-!
# `SearchLink.Proofs.Url.Parts`: how the parts of a page's URL fit together

A URL is read in pieces, and the parts of a page are taken from different ones of them. For the
schemes that always have a host this module says what each piece is made of.

* `exists_write_read` and `notMem_write_read`: a path begins with a slash, and holds neither of
  the marks that end it.
* `readPort_ne`: a port is never the one that the scheme implies.
* `Hosted` is what a URL with such a scheme consists of, and `hosted_of_parse` says that this is
  all that parses.

`page_parts` says how the parts of a page follow from that, and how the whole URL is made of them.
-/

set_option autoImplicit false

namespace SearchLink

/-! ### Paths -/

namespace Path

section
variable {k : SchemeKind} {hasRoot : Bool} {r : Reading} {m : Char}

/-- The last segment is kept, or leaves an empty one. -/
theorem outer_last_ne_nil (segment : Text) : (r.last k hasRoot segment).outer ≠ [] := by
  unfold Reading.last
  split
  · simp
  · split <;> simp

/-- So a path that has been read has a segment. -/
theorem outer_run_ne_nil {segments : List Text} (h : segments ≠ []) :
    (Reading.run k hasRoot r segments).outer ≠ [] := by
  fun_induction Reading.run k hasRoot r segments with
  | case1 => exact absurd rfl h
  | case2 r segment => exact outer_last_ne_nil segment
  | case3 r segment segments hne ih => exact ih hne

/-- A path begins with a slash. -/
theorem exists_write_read (t : Text) : ∃ w, (read k hasRoot t).write = '/' :: w := by
  have hne : (read k hasRoot t).outer ≠ [] := outer_run_ne_nil (List.splitOnP_ne_nil _ _)
  obtain ⟨s, segments, hsegments⟩ := List.exists_cons_of_ne_nil (mt List.reverse_eq_nil_iff.1 hne)
  rw [Reading.write, hsegments]
  exact ⟨_, rfl⟩

/-- A mark that paths do not show stands in no segment that has been read. -/
def Reading.Lacks (r : Reading) (m : Char) : Prop := ∀ s ∈ r.outer, m ∉ s

variable (hescaped : isPathEscaped m = true) (hmark : (m = '%' || m.isAlphanum) = false)
include hescaped hmark

/-- A segment is kept without such marks. -/
theorem notMem_keep (segment : Text) : m ∉ (r.keep k hasRoot segment).1 := by
  have hencoded : m ∉ Text.encodeWhere isPathEscaped segment :=
    Text.notMem_encodeWhere hescaped hmark
  unfold Reading.keep
  dsimp only
  split
  · intro h
    rcases List.mem_append.1 h with h | h
    · exact hencoded (List.mem_of_mem_take h)
    · rw [List.mem_singleton.1 h] at hescaped
      exact absurd hescaped (by decide)
  · exact hencoded

omit hescaped hmark in
/-- Going up adds no segment. -/
theorem mem_of_mem_goUp {s : Text} {outer : List Text} (h : s ∈ goUp outer) : s ∈ outer := by
  cases outer with
  | nil => exact h
  | cons s' outer =>
    rw [goUp] at h
    split at h
    · exact h
    · exact List.mem_cons_of_mem _ h

/-- Passing a segment brings no such mark in. -/
theorem Reading.Lacks.pass (h : r.Lacks m) (segment : Text) :
    (r.pass k hasRoot segment).Lacks m := by
  unfold Reading.pass
  split
  · exact fun s hs => h s (mem_of_mem_goUp hs)
  · split
    · exact h
    · exact List.forall_mem_cons.2 ⟨notMem_keep hescaped hmark segment, h⟩

/-- Nor does passing the last one. -/
theorem Reading.Lacks.last (h : r.Lacks m) (segment : Text) :
    (r.last k hasRoot segment).Lacks m := by
  unfold Reading.last
  split
  · exact List.forall_mem_cons.2 ⟨List.not_mem_nil, fun s hs => h s (mem_of_mem_goUp hs)⟩
  · split
    · exact List.forall_mem_cons.2 ⟨List.not_mem_nil, h⟩
    · exact List.forall_mem_cons.2 ⟨notMem_keep hescaped hmark segment, h⟩

/-- So a whole path has none. -/
theorem Reading.Lacks.run (h : r.Lacks m) (segments : List Text) :
    (Reading.run k hasRoot r segments).Lacks m := by
  fun_induction Reading.run k hasRoot r segments with
  | case1 => exact h
  | case2 r segment => exact h.last hescaped hmark segment
  | case3 r segment segments _ ih => exact ih (h.pass hescaped hmark segment)

/-- A mark that paths do not show stands in no path that has been read. -/
theorem notMem_write_read (hslash : m ≠ '/') (t : Text) : m ∉ (read k hasRoot t).write := by
  intro h
  obtain ⟨s, hs, hm⟩ := List.mem_flatMap.1 h
  have hlacks : (read k hasRoot t).Lacks m :=
    Reading.Lacks.run hescaped hmark (fun _ hs => absurd hs List.not_mem_nil) _
  rcases List.mem_cons.1 hm with rfl | hm
  · exact hslash rfl
  · exact hlacks s (List.mem_reverse.1 hs) hm

end

end Path

/-! ### Authorities -/

namespace Url

/-- A computation in two steps succeeds when both do. -/
theorem bind_eq_ok {ε α β : Type} {x : Except ε α} {f : α → Except ε β} {b : β} :
    (x >>= f) = .ok b ↔ ∃ a, x = .ok a ∧ f a = .ok b := by
  cases x <;> simp [bind, Except.bind]

/-- A port that is read is not the one that the scheme implies. -/
theorem readPort_ne {scheme t rest : Text} {port : Nat}
    (h : readPort scheme t = .ok (some port, rest)) : defaultPort? scheme ≠ some port := by
  unfold readPort at h
  split at h
  · dsimp only at h
    split at h
    · simp at h
    · split at h
      · simp at h
      · rename_i hnone
        simp only [Except.ok.injEq, Prod.mk.injEq, Option.some.injEq] at h
        rw [← h.1]
        simp only [Bool.or_eq_true, decide_eq_true_eq, not_or] at hnone
        exact hnone.2
  · simp at h

/-- Nor is the port of a host. -/
theorem port_ne_of_readHost {scheme t rest : Text} {host : Option Host} {port : Nat}
    (h : readHost scheme t = .ok (host, some port, rest)) : defaultPort? scheme ≠ some port := by
  -- Whatever the host is read as, the port is what is read behind it.
  have hread : ∀ {x : Except UrlError Host}, (do
      let host ← x
      let behind ← readPort scheme (cutHost false t).2
      return (if host = .registered [] then none else some host, behind.1, behind.2))
        = Except.ok (host, some port, rest) → defaultPort? scheme ≠ some port := by
    intro x hx
    simp only [bind_eq_ok, pure, Except.pure, Except.ok.injEq, Prod.mk.injEq, Prod.exists] at hx
    obtain ⟨-, -, port', rest', hport, -, rfl, -⟩ := hx
    exact readPort_ne hport
  unfold readHost at h
  dsimp only at h
  split at h
  · cases h
  · split at h
    · exact hread h
    · exact hread h

/-- The credentials that are read hold no at sign. -/
theorem notMem_readCredentials (t : Text) :
    '@' ∉ (readCredentials t).1 ∧ '@' ∉ (readCredentials t).2 :=
  ⟨Text.notMem_encodeWhere (by decide) (by decide), Text.notMem_encodeWhere (by decide) (by decide)⟩

/-- What an authority holds that has been read: its port is not the one that the scheme implies, and
its credentials are without at signs. -/
theorem authority_of_readAuthority {scheme t rest : Text} {goesOn : Bool} {a : Authority}
    (h : readAuthority scheme goesOn t = .ok (a, rest)) :
    (∀ port, a.port = some port → defaultPort? scheme ≠ some port) ∧
      '@' ∉ a.username ∧ '@' ∉ a.password := by
  unfold readAuthority at h
  dsimp only at h
  split at h
  · cases h
  · simp only [bind_eq_ok, Prod.exists] at h
    obtain ⟨host, port, rest', hhost, h⟩ := h
    split at h
    · cases h
    · simp only [pure, Except.pure, Except.ok.injEq, Prod.mk.injEq] at h
      obtain ⟨rfl, -⟩ := h
      refine ⟨?_, notMem_readCredentials _⟩
      rintro port rfl
      exact port_ne_of_readHost hhost

/-! ### URLs with a host -/

/-- What a URL consists of whose scheme always has a host. -/
structure Hosted (u : Url) (a : Authority) : Prop where
  /-- It has an authority. -/
  authority : u.authority = some a
  /-- The port is not the one that the scheme implies. -/
  port_ne : ∀ port, a.port = some port → defaultPort? u.scheme ≠ some port
  /-- An at sign in the user name would be taken for its end. -/
  username : '@' ∉ a.username
  /-- The same holds of the password. -/
  password : '@' ∉ a.password
  /-- The path begins with a slash. -/
  path : ∃ w, u.path = '/' :: w
  /-- It holds neither of the marks that end it. -/
  path_marks : '?' ∉ u.path ∧ '#' ∉ u.path
  /-- The query does not hold the mark that ends it. -/
  query_mark : ∀ query, u.query = some query → '#' ∉ query

/-- The path behind an authority is there, and is not ended by a mark. -/
theorem path_of_readHierarchy {scheme t path : Text} {hasTail : Bool} {a : Option Authority}
    (hspecial : (SchemeKind.ofScheme scheme).isSpecial = true)
    (h : readHierarchy scheme hasTail t = .ok (a, path)) :
    (∃ b rest goesOn t', a = some b ∧ readAuthority scheme goesOn t' = .ok (b, rest)) ∧
      (∃ w, path = '/' :: w) ∧ '?' ∉ path ∧ '#' ∉ path := by
  unfold readHierarchy at h
  dsimp only at h
  simp only [bind_eq_ok, Prod.exists] at h
  obtain ⟨b, rest, hauthority, h⟩ := h
  split at h
  · rw [if_pos hspecial] at h
    obtain ⟨rfl, rfl⟩ := Prod.mk.inj (Except.ok.inj h)
    exact ⟨⟨b, rest, _, _, rfl, hauthority⟩, ⟨[], rfl⟩, by decide, by decide⟩
  · obtain ⟨rfl, rfl⟩ := Prod.mk.inj (Except.ok.inj h)
    exact ⟨⟨b, rest, _, _, rfl, hauthority⟩, Path.exists_write_read _,
      Path.notMem_write_read (by decide) (by decide) (by decide) _,
      Path.notMem_write_read (by decide) (by decide) (by decide) _⟩

/-- A URL that parses, and whose scheme always has a host, consists of these parts. -/
theorem hosted_of_parse {t : Text} {u : Url} (h : parse t = .ok u)
    (hspecial : SchemeKind.ofScheme u.scheme = .special) : ∃ a, Hosted u a := by
  unfold parse at h
  split at h
  · cases h
  · rename_i scheme rest _
    dsimp only at h
    simp only [bind_eq_ok, Prod.exists] at h
    obtain ⟨authority, path, hbody, h⟩ := h
    obtain rfl := Except.ok.inj h
    dsimp only at hspecial
    simp only [readBody, hspecial] at hbody
    obtain ⟨⟨a, rest, goesOn, t', rfl, hauthority⟩, hpath, hmarks⟩ :=
      path_of_readHierarchy (by rw [hspecial]; rfl) hbody
    obtain ⟨hport, husername, hpassword⟩ := authority_of_readAuthority hauthority
    refine ⟨a, rfl, hport, husername, hpassword, hpath, hmarks, ?_⟩
    intro query hquery
    obtain ⟨written, -, rfl⟩ := Option.map_eq_some_iff.1 hquery
    exact Text.notMem_encodeWhere (by cases SchemeKind.ofScheme scheme <;> decide) (by decide)

/-- The credentials of an authority end with an at sign, if there are any. -/
theorem Hosted.writeCredentials {u : Url} {a : Authority} (h : Hosted u a) :
    a.writeCredentials = [] ∨ ∃ w, a.writeCredentials = w ++ ['@'] ∧ '@' ∉ w := by
  unfold Authority.writeCredentials
  split
  · exact .inl rfl
  · split
    · exact .inr ⟨a.username, rfl, h.username⟩
    · refine .inr ⟨a.username ++ ':' :: a.password, by simp, ?_⟩
      simp [h.username, h.password]

end Url

/-! ### Pages -/

namespace Page

open Url (Hosted)

/-- The protocols of the schemes that always have a host, each with the port that it implies. -/
def hostedProtocols : List (Text × Text) :=
  [("http:".toList, "80".toList), ("https:".toList, "443".toList), ("ws:".toList, "80".toList),
    ("wss:".toList, "443".toList), ("ftp:".toList, "21".toList)]

/-- These are schemes of that kind, and the ports are those that they imply. -/
theorem exists_defaultPort? {scheme standard : Text}
    (h : (scheme ++ [':'], standard) ∈ hostedProtocols) :
    ∃ port, defaultPort? scheme = some port ∧ standard = Text.ofNatural port ∧
      SchemeKind.ofScheme scheme = .special := by
  have hall : hostedProtocols.all (fun e =>
      (defaultPort? e.1.dropLast).map Text.ofNatural = some e.2 &&
        SchemeKind.ofScheme e.1.dropLast = .special) = true := by
    decide +kernel
  have hboth := List.all_eq_true.1 hall _ h
  simp only [List.dropLast_concat, Bool.and_eq_true, decide_eq_true_eq] at hboth
  obtain ⟨port, hport, hstandard⟩ := Option.map_eq_some_iff.1 hboth.1
  exact ⟨port, hport, hstandard.symm, hboth.2⟩

section
variable {u : Url} {a : Authority} (h : Hosted u a)
include h

/-- The host with its port is what stands behind the credentials. -/
theorem host_ofUrl : (ofUrl u).host = a.writeHost ++ a.writePort := by
  have hhostname : u.hostname = a.writeHost := by rw [Url.hostname, h.authority]; rfl
  have hport : u.port? = a.port := by rw [Url.port?, h.authority]; rfl
  cases hnumber : a.port with
  | none => simp [ofUrl, hport, hhostname, Authority.writePort, hnumber]
  | some port =>
    have hne : Text.ofNatural port ≠ [] := (Text.isDigits_ofNatural port).1
    simp [ofUrl, hport, hhostname, Authority.writePort, hnumber, hne]

/-- The origin of a URL with a host and a port of its own is made of scheme, host and port. -/
theorem origin_ofUrl {port : Nat} (hport : defaultPort? u.scheme = some port) :
    (ofUrl u).origin = (ofUrl u).protocol ++ "//".toList ++ (ofUrl u).host := by
  rw [host_ofUrl h]
  show Url.originWithin u.path.length u = u.scheme ++ [':'] ++ "//".toList ++ _
  have hslashes : "//".toList = ['/', '/'] := rfl
  unfold Url.originWithin
  rw [h.authority, hport, hslashes]
  simp only [List.append_assoc, List.cons_append, List.nil_append]

/-- The whole URL is made of its parts, with the credentials in front of the host. -/
theorem href_ofUrl :
    (ofUrl u).href = (ofUrl u).protocol ++ "//".toList ++ a.writeCredentials ++ (ofUrl u).host ++
      (ofUrl u).pathname ++ Url.behind '?' u.query ++ Url.behind '#' u.fragment := by
  rw [host_ofUrl h]
  show Url.href u = u.scheme ++ [':'] ++ "//".toList ++ _ ++ _ ++ u.path ++ _ ++ _
  have hslashes : "//".toList = ['/', '/'] := rfl
  simp only [Url.href, Url.writeAuthority, h.authority, Authority.write, hslashes,
    List.append_assoc, List.cons_append, List.nil_append]

end

/-- The hash of a page is the fragment with its mark, unless it is the mark alone. -/
theorem hash_ofUrl (u : Url) :
    (ofUrl u).hash
      = if Url.behind '#' u.fragment = ['#'] then [] else Url.behind '#' u.fragment := by
  cases hfragment : u.fragment with
  | none => simp [ofUrl, Url.behind, hfragment]
  | some fragment => cases fragment <;> simp [ofUrl, Url.behind, hfragment]

/-- **The parts of a page fit together.** Take a page whose URL parses and has one of the schemes
that always have a host. Its origin is the protocol and the host with two slashes between them. The
host is the hostname, with the port behind a colon if there is one, and the port is never the one
that the scheme implies. The path begins with a slash. The whole URL consists of the protocol, two
slashes, the credentials, the host, the path, the query and the fragment, each of which ends where
its mark says: credentials end with their only at sign, a query begins with a question mark and a
fragment with a hash sign, and neither mark stands further to the front. The hash is the fragment,
unless that is the bare mark. -/
theorem page_parts {t : Text} {p : Page} (hp : Page.parse t = .ok p) {standard : Text}
    (hprotocol : (p.protocol, standard) ∈ hostedProtocols) :
    p.origin = p.protocol ++ "//".toList ++ p.host ∧
    (p.port = [] → p.host = p.hostname) ∧
    (p.port ≠ [] → p.host = p.hostname ++ ':' :: p.port) ∧
    p.port ≠ standard ∧
    (∃ w, p.pathname = '/' :: w) ∧ '?' ∉ p.pathname ∧ '#' ∉ p.pathname ∧
    ∃ userinfo query fragment : Text,
      p.href = p.protocol ++ "//".toList ++ userinfo ++ p.host ++ p.pathname ++ query ++ fragment ∧
      (userinfo = [] ∨ ∃ w, userinfo = w ++ ['@'] ∧ '@' ∉ w) ∧
      (query = [] ∨ ∃ w, query = '?' :: w ∧ '#' ∉ w) ∧
      (fragment = [] ∨ ∃ w, fragment = '#' :: w) ∧
      p.hash = if fragment = ['#'] then [] else fragment := by
  obtain ⟨u, hu, rfl⟩ : ∃ u, Url.parse t = .ok u ∧ ofUrl u = p := by
    unfold Page.parse at hp
    cases hu : Url.parse t with
    | error e => rw [hu] at hp; cases hp
    | ok u => rw [hu] at hp; exact ⟨u, rfl, Except.ok.inj hp⟩
  obtain ⟨port, hport, rfl, hspecial⟩ := exists_defaultPort? hprotocol
  obtain ⟨a, hosted⟩ := Url.hosted_of_parse hu hspecial
  refine ⟨origin_ofUrl hosted hport, ?_, ?_, ?_, hosted.path, hosted.path_marks.1,
    hosted.path_marks.2, a.writeCredentials, Url.behind '?' u.query, Url.behind '#' u.fragment,
    href_ofUrl hosted, hosted.writeCredentials, ?_, ?_, hash_ofUrl u⟩
  · intro hnone
    have hempty : ((u.port?.map Text.ofNatural).getD []).isEmpty = true := List.isEmpty_iff.2 hnone
    exact if_pos hempty
  · intro hsome
    have hfull : ¬ ((u.port?.map Text.ofNatural).getD []).isEmpty = true :=
      mt List.isEmpty_iff.1 hsome
    exact if_neg hfull
  · intro hsame
    have hnumber : u.port? = a.port := by rw [Url.port?, hosted.authority]; rfl
    have hwritten : (u.port?.map Text.ofNatural).getD [] = Text.ofNatural port := hsame
    rw [hnumber] at hwritten
    cases hread : a.port with
    | none =>
      rw [hread] at hwritten
      exact (Text.isDigits_ofNatural port).1 hwritten.symm
    | some read =>
      rw [hread] at hwritten
      have heq : read = port := Text.ofNatural_inj hwritten
      exact hosted.port_ne read hread (heq ▸ hport)
  · cases hquery : u.query with
    | none => exact .inl rfl
    | some query => exact .inr ⟨query, rfl, hosted.query_mark query hquery⟩
  · cases u.fragment with
    | none => exact .inl rfl
    | some fragment => exact .inr ⟨fragment, rfl⟩

/-- A page at an address, with an empty password, a port of its own, a path that goes up and down,
and a bare hash sign. -/
theorem page_parts_address :
    let p : Page :=
      { href := "https://u@[::1]:8443/b%20c?q#".toList
        origin := "https://[::1]:8443".toList
        protocol := "https:".toList
        host := "[::1]:8443".toList
        hostname := "[::1]".toList
        port := "8443".toList
        pathname := "/b%20c".toList
        hash := [] }
    Page.parse "https://u:@[0:0::1]:8443/a/../b c?q#".toList = .ok p ∧
      (p.protocol, "443".toList) ∈ hostedProtocols ∧
      p.origin = p.protocol ++ "//".toList ++ p.host ∧ p.port ≠ [] ∧
      p.host = p.hostname ++ ':' :: p.port ∧ p.port ≠ "443".toList ∧
      ∃ userinfo query fragment : Text,
        p.href
          = p.protocol ++ "//".toList ++ userinfo ++ p.host ++ p.pathname ++ query ++ fragment ∧
        p.hash = if fragment = ['#'] then [] else fragment := by
  intro p
  have hp : Page.parse "https://u:@[0:0::1]:8443/a/../b c?q#".toList = .ok p := by decide +kernel
  have hprotocol : (p.protocol, "443".toList) ∈ hostedProtocols := by decide +kernel
  have hport : p.port ≠ [] := by decide +kernel
  obtain ⟨horigin, -, hhost, hne, -, -, -, userinfo, query, fragment, hhref, -, -, -, hhash⟩ :=
    page_parts hp hprotocol
  exact ⟨hp, hprotocol, horigin, hport, hhost hport, hne, userinfo, query, fragment, hhref, hhash⟩

end Page

end SearchLink
