-- SUMMARY: When a URL that is joined to a base stays on the host of the base.
import ApiJourney.Proofs.Text.Parts
import ApiJourney.Url.Resolution

/-!
# Joined URLs

A URL without a scheme and `://` in front is put below its base. It stays on the host of the base
exactly where, read as a reference, it names no other scheme and no other host. References are
read more freely than the test for absolute URLs is: a colon is enough for a scheme, and what
counts nowhere in a reference may stand in front of a host or between its slashes.
-/

namespace ApiJourney.Url

open Text

variable {cs host rest url : List Char} {default : List Char}

/-! ## Schemes and hosts -/

/-- Behind a text no host goes on. -/
def EndsHost (rest : List Char) : Prop :=
  ∀ c ∈ rest.head?, endsHost c = true

/-- The scheme that a reference names, or the default one. -/
def schemeOf (default cs : List Char) : List Char :=
  (splitScheme default (cleaned cs)).1

/-- The host that a reference names; it is empty where the reference names none. -/
def hostOf (default cs : List Char) : List Char :=
  (splitHost (splitScheme default (cleaned cs)).2).1

/-- What a text begins with that has a scheme and an authority. -/
def originOf (scheme authority : List Char) : List Char :=
  scheme ++ ':' :: '/' :: '/' :: authority

theorem splitHost_append (h : ∀ c ∈ host, endsHost c = false) (hrest : EndsHost rest) :
    splitHost ('/' :: '/' :: (host ++ rest)) = (host, rest) := by
  have hall : ∀ c ∈ host, (!endsHost c) = true := fun c hc => by simp [h c hc]
  have hstop : ∀ c ∈ rest.head?, (!endsHost c) = false := fun c hc => by simp [hrest c hc]
  rw [splitHost, takeWhile_stopped hall hstop, dropWhile_stopped hall hstop]

theorem not_endsHost_hostOf : ∀ c ∈ hostOf default cs, endsHost c = false := by
  intro c hc
  unfold hostOf splitHost at hc
  split at hc
  · simpa using List.mem_takeWhile_imp hc
  · cases hc

theorem splitHost_of_head (h : cs.head? ≠ some '/') : splitHost cs = ([], cs) := by
  unfold splitHost
  split
  · exact absurd rfl h
  · rfl

/-- A reference whose host is well-formed has the scheme and the host that it names. -/
theorem ofText_of_isHost (h : isHost (hostOf default cs) = true) :
    ∃ r, Reference.ofText default cs = .ok r ∧ r.scheme = schemeOf default cs ∧
      r.host = hostOf default cs := by
  unfold hostOf at h
  unfold Reference.ofText
  dsimp only
  rw [h]
  exact ⟨_, rfl, rfl, rfl⟩

theorem ofText_of_not_isHost (h : isHost (hostOf default cs) = false) :
    Reference.ofText default cs = .error .badValue := by
  unfold hostOf at h
  unfold Reference.ofText
  dsimp only
  rw [h]
  rfl

theorem endsHost_marked (mark : Char) (hmark : endsHost mark = true) (part : List Char)
    (h : EndsHost rest) : EndsHost (marked mark part ++ rest) := by
  unfold marked
  split
  · exact h
  · rintro _ ⟨⟩
    exact hmark

/-- A reference with a scheme and a host is written with both in front. -/
theorem write_of_host {r : Reference} (hscheme : r.scheme ≠ []) (hhost : r.host ≠ []) :
    ∃ more, EndsHost more ∧ r.write = originOf r.scheme r.host ++ more := by
  have hstart : r.scheme.isEmpty = false := List.isEmpty_eq_false_iff.2 hscheme
  have hnamed : r.host.isEmpty = false := List.isEmpty_eq_false_iff.2 hhost
  have hbehind : EndsHost (marked '?' r.query ++ marked '#' r.fragment) := by
    have hfragment := endsHost_marked '#' (by decide) r.fragment (nofun : EndsHost [])
    rw [List.append_nil] at hfragment
    exact endsHost_marked '?' (by decide) r.query hfragment
  unfold Reference.write writeHost
  simp only [hstart, hnamed, Bool.not_false, Bool.true_or, if_true, Bool.false_eq_true, if_false]
  generalize r.path ++ marked ';' r.params = path
  split
  · next hrooted =>
    refine ⟨path ++ (marked '?' r.query ++ marked '#' r.fragment), ?_, by simp [originOf]⟩
    cases path with
    | nil => exact hbehind
    | cons c path =>
      obtain rfl : c = '/' := by simpa using hrooted
      rintro _ ⟨⟩
      decide
  · refine ⟨'/' :: path ++ (marked '?' r.query ++ marked '#' r.fragment), ?_, by simp [originOf]⟩
    rintro _ ⟨⟩
    decide

/-! ## Malformed hosts -/

/-- A base as a folder. -/
def folderOf (base : List Char) : List Char :=
  dropEndWhile (· == '/') base ++ ['/']

/-- A URL can be put below a base: where both are read as references, neither names a malformed
    host. -/
def Joins (base url : List Char) : Prop :=
  base = [] ∨ isAbsolute url = true ∨ url.dropWhile (· == '/') = [] ∨
    isHost (hostOf [] (folderOf base)) = true ∧
      isHost (hostOf (schemeOf [] (folderOf base)) (url.dropWhile (· == '/'))) = true

theorem resolve_eq_ok {base : List Char} (hbase : base ≠ []) (cs : List Char) :
    (∃ joined, resolve base cs = .ok joined) ↔
      cs = [] ∨ isHost (hostOf [] base) = true ∧ isHost (hostOf (schemeOf [] base) cs) = true := by
  have hempty : base.isEmpty = false := List.isEmpty_eq_false_iff.2 hbase
  cases cs with
  | nil => exact iff_of_true ⟨base, by simp [resolve, hbase, pure, Except.pure]⟩ (.inl rfl)
  | cons c cs =>
    rw [resolve, hempty]
    cases hhost : isHost (hostOf [] base) with
    | false =>
      rw [ofText_of_not_isHost hhost]
      simp [bind, Except.bind]
    | true =>
      obtain ⟨b, hb, hscheme, -⟩ := ofText_of_isHost hhost
      rw [hb, ← hscheme]
      cases hnamed : isHost (hostOf b.scheme (c :: cs)) with
      | false => simp [bind, Except.bind, ofText_of_not_isHost hnamed]
      | true =>
        obtain ⟨r, hr, -, -⟩ := ofText_of_isHost hnamed
        simp only [bind, Except.bind, pure, Except.pure, hr]
        refine iff_of_true ?_ (by simp)
        split_ifs <;> exact ⟨_, rfl⟩

/-- A URL can be put below a base unless one of them names a malformed host. -/
theorem join_eq_ok {base : List Char} : (∃ joined, join base url = .ok joined) ↔ Joins base url := by
  unfold join Joins
  cases base with
  | nil => simp
  | cons c base =>
    cases habsolute : isAbsolute url with
    | true => simp
    | false =>
      have hfolder : folderOf (c :: base) ≠ [] := by simp [folderOf]
      have hresolve := resolve_eq_ok hfolder (url.dropWhile (· == '/'))
      simpa [folderOf] using hresolve

/-! ## Bases -/

/-- Tabs and line breaks count nowhere in a reference. -/
def isKept (c : Char) : Bool :=
  c != '\t' && c != '\r' && c != '\n'

/-- A base for requests: a scheme of the web, an authority with a well-formed host, and what may
    stand behind it. -/
structure WebBase where
  scheme : List Char
  authority : List Char
  path : List Char
  web : scheme = "http".toList ∨ scheme = "https".toList
  authority_ne_nil : authority ≠ []
  authority_plain : ∀ c ∈ authority, endsHost c = false ∧ isKept c = true
  authority_host : isHost authority = true
  path_apart : EndsHost path

namespace WebBase

variable (b : WebBase)

def origin : List Char :=
  originOf b.scheme b.authority

def text : List Char :=
  b.origin ++ b.path

/-- What stands behind the origin when the base counts as a folder. -/
def folder : List Char :=
  folderOf b.path

theorem scheme_ne_nil : b.scheme ≠ [] := by
  rcases b.web with h | h <;> rw [h] <;> exact List.cons_ne_nil _ _

theorem asFolder : folderOf b.text = b.origin ++ b.folder := by
  obtain ⟨front, c, hauthority⟩ :=
    (List.eq_nil_or_concat' b.authority).resolve_left b.authority_ne_nil
  have hc : (c == '/') = false := by
    have hplain := (b.authority_plain c (by simp [hauthority])).1
    rw [beq_eq_false_iff_ne]
    rintro rfl
    exact absurd hplain (by decide)
  have hdrop := dropEndWhile_append (p := (· == '/')) hc
    (b.scheme ++ ':' :: '/' :: '/' :: front) b.path
  have htext : b.text = b.scheme ++ ':' :: '/' :: '/' :: front ++ c :: b.path := by
    simp [text, origin, originOf, hauthority]
  rw [folderOf, htext, hdrop]
  simp [origin, originOf, folder, folderOf, hauthority]

theorem endsHost_folder : EndsHost b.folder := by
  have hfront := dropEndWhile_isPrefix (· == '/') b.path
  unfold folder folderOf
  cases hpath : dropEndWhile (· == '/') b.path with
  | nil =>
    rintro _ ⟨⟩
    decide
  | cons c path =>
    rw [hpath] at hfront
    obtain ⟨more, hmore⟩ := hfront
    rintro _ ⟨⟩
    exact b.path_apart c (by rw [← hmore]; rfl)

theorem splitScheme_web {scheme : List Char} (h : scheme = "http".toList ∨ scheme = "https".toList)
    (default rest : List Char) : splitScheme default (scheme ++ ':' :: rest) = (scheme, rest) := by
  rcases h with rfl | rfl <;> rfl

/-- What follows the origin of a base leaves its scheme and its host as they are. -/
theorem splits_origin (default : List Char) (hrest : EndsHost rest) :
    schemeOf default (b.origin ++ rest) = b.scheme ∧
      hostOf default (b.origin ++ rest) = b.authority := by
  have hfront : (b.origin ++ rest).dropWhile (fun c => decide (c.toNat ≤ 32)) = b.origin ++ rest := by
    unfold origin originOf
    rcases b.web with h | h <;> rw [h] <;> rfl
  -- Cleaning drops nothing of the origin, and of the rest nothing that ends the host.
  have hkept : b.origin.filter isKept = b.origin := by
    rw [List.filter_eq_self]
    unfold origin originOf
    simp only [List.forall_mem_append, List.forall_mem_cons]
    refine ⟨?_, by decide, by decide, by decide, fun c hc => (b.authority_plain c hc).2⟩
    rcases b.web with h | h <;> rw [h] <;> exact List.all_eq_true.1 rfl
  have hmore : EndsHost (rest.filter isKept) := by
    cases rest with
    | nil => exact nofun
    | cons c rest =>
      have hc := hrest c rfl
      have hc' : isKept c = true := by
        simp only [endsHost, Bool.or_eq_true, beq_iff_eq] at hc
        rcases hc with (rfl | rfl) | rfl <;> decide
      rw [List.filter_cons_of_pos hc']
      rintro _ ⟨⟩
      exact hc
  have hcleaned : cleaned (b.origin ++ rest) = b.origin ++ rest.filter isKept := by
    rw [cleaned, hfront]
    change (b.origin ++ rest).filter isKept = _
    rw [List.filter_append, hkept]
  have hscheme : splitScheme default (cleaned (b.origin ++ rest)) =
      (b.scheme, '/' :: '/' :: (b.authority ++ rest.filter isKept)) := by
    rw [hcleaned, origin, originOf, List.append_assoc]
    exact splitScheme_web b.web default _
  refine ⟨congrArg Prod.fst hscheme, ?_⟩
  rw [hostOf, hscheme, splitHost_append (fun c hc => (b.authority_plain c hc).1) hmore]

theorem ofText_folder : ∃ r, Reference.ofText [] (b.origin ++ b.folder) = .ok r ∧
    r.scheme = b.scheme ∧ r.host = b.authority := by
  obtain ⟨hscheme, hhost⟩ := b.splits_origin [] b.endsHost_folder
  have hwell : isHost (hostOf [] (b.origin ++ b.folder)) = true := by
    rw [hhost]
    exact b.authority_host
  have hread := ofText_of_isHost hwell
  rwa [hscheme, hhost] at hread

theorem among_web : among relativeSchemes b.scheme = true ∧ among hostSchemes b.scheme = true := by
  rcases b.web with h | h <;> rw [h] <;> decide

/-! ## Joining -/

/-- A reference is left as it is where it names another scheme. Else it is written with the host
    that it names, or is resolved with that of the base. -/
theorem resolve_folder (hne : cs ≠ []) : ∃ base : Reference,
    resolve (b.origin ++ b.folder) cs = (Reference.ofText b.scheme cs).map fun r =>
      if r.scheme ≠ b.scheme then cs
      else if r.host = [] then (base.resolve { r with host := b.authority }).write
      else r.write := by
  obtain ⟨base, hbase, hscheme, hhost⟩ := b.ofText_folder
  have hfolder : (b.origin ++ b.folder).isEmpty = false := by
    simp [origin, originOf]
  refine ⟨base, ?_⟩
  unfold resolve
  simp only [hfolder, List.isEmpty_eq_false_iff.2 hne, hbase, hscheme, hhost, Bool.false_eq_true,
    if_false, bind, Except.bind]
  cases Reference.ofText b.scheme cs with
  | error f => rfl
  | ok r =>
    by_cases hsame : r.scheme = b.scheme
    · by_cases hempty : r.host = [] <;>
        simp [hsame, hempty, b.among_web, Except.map, pure, Except.pure]
    · simp [hsame, Except.map, pure, Except.pure]

theorem resolve_of_not_isHost (hne : cs ≠ []) (h : isHost (hostOf b.scheme cs) = false) :
    resolve (b.origin ++ b.folder) cs = .error .badValue := by
  obtain ⟨base, hresolve⟩ := b.resolve_folder hne
  rw [hresolve, ofText_of_not_isHost h]
  rfl

theorem resolve_of_scheme (hne : cs ≠ []) (h : isHost (hostOf b.scheme cs) = true)
    (hother : schemeOf b.scheme cs ≠ b.scheme) : resolve (b.origin ++ b.folder) cs = .ok cs := by
  obtain ⟨base, hresolve⟩ := b.resolve_folder hne
  obtain ⟨r, hr, hscheme, -⟩ := ofText_of_isHost h
  rw [hresolve, hr]
  exact congrArg Except.ok (if_pos (by rwa [hscheme]))

theorem resolve_host (base r : Reference) : (base.resolve r).host = r.host := by
  unfold Reference.resolve
  split <;> rfl

theorem resolve_scheme (base r : Reference) : (base.resolve r).scheme = r.scheme := by
  unfold Reference.resolve
  split <;> rfl

/-- A reference that names no other scheme goes to the host that it names, or to that of the
    base. -/
theorem resolve_of_host (hne : cs ≠ []) (h : isHost (hostOf b.scheme cs) = true)
    (hsame : schemeOf b.scheme cs = b.scheme) :
    ∃ more, EndsHost more ∧ resolve (b.origin ++ b.folder) cs = .ok (originOf b.scheme
      (if hostOf b.scheme cs = [] then b.authority else hostOf b.scheme cs) ++ more) := by
  obtain ⟨base, hresolve⟩ := b.resolve_folder hne
  obtain ⟨r, hr, hscheme, hhost⟩ := ofText_of_isHost h
  rw [hsame] at hscheme
  rw [hresolve, hr, ← hhost]
  simp only [Except.map, ne_eq, hscheme, not_true_eq_false, if_false]
  by_cases hempty : r.host = []
  · rw [if_pos hempty, if_pos hempty]
    obtain ⟨more, hmore, hwrite⟩ :=
      write_of_host (r := base.resolve { r with host := b.authority })
        (by rw [resolve_scheme]; exact hscheme ▸ b.scheme_ne_nil)
        (by rw [resolve_host]; exact b.authority_ne_nil)
    simp only [resolve_scheme, resolve_host, hscheme] at hwrite
    exact ⟨more, hmore, by rw [hwrite]⟩
  · rw [if_neg hempty, if_neg hempty]
    obtain ⟨more, hmore, hwrite⟩ := write_of_host (hscheme ▸ b.scheme_ne_nil) hempty
    exact ⟨more, hmore, by rw [hwrite, hscheme]⟩

/-- A URL without a scheme in front is resolved as a reference without leading slashes. -/
theorem join_eq (h : isAbsolute url = false) :
    join b.text url = resolve (b.origin ++ b.folder) (url.dropWhile (· == '/')) := by
  have htext : b.text.isEmpty = false := by simp [text, origin, originOf]
  rw [← b.asFolder, join, htext, h]
  rfl

/-- A URL that is joined to the base gets the scheme and the authority of the base. -/
def Keeps (url : List Char) : Prop :=
  ∃ more, EndsHost more ∧ join b.text url = .ok (b.origin ++ more)

theorem originOf_inj {scheme host' rest' : List Char} (hhost : ∀ c ∈ host, endsHost c = false)
    (hhost' : ∀ c ∈ host', endsHost c = false) (hrest : EndsHost rest) (hrest' : EndsHost rest')
    (h : originOf scheme host ++ rest = originOf scheme host' ++ rest') : host = host' := by
  unfold originOf at h
  rw [List.append_assoc, List.append_assoc] at h
  have hbehind := List.append_cancel_left h
  have hsplit : splitHost ('/' :: '/' :: (host ++ rest)) =
      splitHost ('/' :: '/' :: (host' ++ rest')) :=
    congrArg splitHost (List.cons.inj hbehind).2
  rw [splitHost_append hhost hrest, splitHost_append hhost' hrest'] at hsplit
  exact (Prod.mk.inj hsplit).1

theorem keeps_of_slashes (hrel : isAbsolute url = false) (h : url.dropWhile (· == '/') = []) :
    b.Keeps url := by
  refine ⟨b.folder, b.endsHost_folder, ?_⟩
  rw [b.join_eq hrel, h]
  simp [resolve, origin, originOf, pure, Except.pure]

/-- With the scheme of the base, a reference stays on the base if it names no host or that one. -/
theorem resolve_keeps_iff (hne : cs ≠ []) (h : isHost (hostOf b.scheme cs) = true)
    (hsame : schemeOf b.scheme cs = b.scheme) :
    (∃ more, EndsHost more ∧ resolve (b.origin ++ b.folder) cs = .ok (b.origin ++ more)) ↔
      hostOf b.scheme cs = [] ∨ hostOf b.scheme cs = b.authority := by
  obtain ⟨more, hmore, hresolve⟩ := b.resolve_of_host hne h hsame
  rw [hresolve]
  constructor
  · rintro ⟨more', hmore', heq⟩
    by_cases hempty : hostOf b.scheme cs = []
    · exact .inl hempty
    · rw [if_neg hempty] at heq
      exact .inr (originOf_inj not_endsHost_hostOf (fun c hc => (b.authority_plain c hc).1)
        hmore hmore' (Except.ok.inj heq))
  · intro hnamed
    refine ⟨more, hmore, ?_⟩
    rcases hnamed with hnamed | hnamed
    · rw [if_pos hnamed, origin]
    · rw [hnamed, if_neg b.authority_ne_nil, origin]

theorem keeps_iff (hrel : isAbsolute url = false) :
    b.Keeps url ↔ schemeOf b.scheme (url.dropWhile (· == '/')) = b.scheme ∧
      (hostOf b.scheme (url.dropWhile (· == '/')) = [] ∨
        hostOf b.scheme (url.dropWhile (· == '/')) = b.authority) := by
  cases hne : url.dropWhile (· == '/') with
  | nil => exact iff_of_true (b.keeps_of_slashes hrel hne) ⟨rfl, .inl rfl⟩
  | cons c rest =>
    have hcons : c :: rest ≠ [] := List.cons_ne_nil c rest
    have hjoin := b.join_eq hrel
    rw [hne] at hjoin
    unfold Keeps
    rw [hjoin]
    -- A host the splitter refuses, the base's own scheme, or another scheme: three ways to resolve.
    cases hhost : isHost (hostOf b.scheme (c :: rest)) with
    | false =>
      rw [b.resolve_of_not_isHost hcons hhost]
      refine iff_of_false (by simp) ?_
      rintro ⟨-, h | h⟩ <;> rw [h] at hhost
      · exact absurd hhost (by decide)
      · rw [b.authority_host] at hhost
        cases hhost
    | true =>
      by_cases hsame : schemeOf b.scheme (c :: rest) = b.scheme
      · rw [and_iff_right hsame]
        exact b.resolve_keeps_iff hcons hhost hsame
      · rw [b.resolve_of_scheme hcons hhost hsame]
        refine iff_of_false ?_ fun h => hsame h.1
        rintro ⟨more, hmore, h⟩
        rw [Except.ok.inj h] at hsame
        exact hsame (b.splits_origin b.scheme hmore).1

/-- Without colons, blanks and control characters no scheme and no host is named. -/
theorem names_nothing (h : ∀ c ∈ url, c ≠ ':' ∧ 32 < c.toNat) :
    schemeOf b.scheme (url.dropWhile (· == '/')) = b.scheme ∧
      hostOf b.scheme (url.dropWhile (· == '/')) = [] := by
  have hhead : (url.dropWhile (· == '/')).head? ≠ some '/' := by
    intro hslash
    have hstop := List.head?_dropWhile_not (· == '/') url
    rw [hslash] at hstop
    cases hstop
  generalize hcs : url.dropWhile (· == '/') = cs at hhead
  have hplain : ∀ c ∈ cs, c ≠ ':' ∧ 32 < c.toNat := fun c hc =>
    h c ((List.dropWhile_suffix _).subset (hcs ▸ hc))
  have hfront : cs.dropWhile (fun c => decide (c.toNat ≤ 32)) = cs := by
    cases cs with
    | nil => rfl
    | cons c cs =>
      have hc := (hplain c List.mem_cons_self).2
      exact List.dropWhile_cons_of_neg (by simpa using hc)
  have hcleaned : cleaned cs = cs := by
    rw [cleaned, hfront]
    refine List.filter_eq_self.2 fun c hc => ?_
    have hc := (hplain c hc).2
    simp only [Bool.and_eq_true, bne_iff_ne]
    refine ⟨⟨?_, ?_⟩, ?_⟩ <;> rintro rfl <;> exact absurd hc (by decide)
  have hcolon : cut? ':' cs = none := by
    have hdrop : cs.dropWhile (· != ':') = [] :=
      List.dropWhile_eq_nil_iff.2 fun c hc => by simpa using (hplain c hc).1
    rw [cut?, hdrop]
  have hscheme : splitScheme b.scheme (cleaned cs) = (b.scheme, cs) := by
    rw [hcleaned, splitScheme, hcolon]
  rw [schemeOf, hostOf, hscheme, splitHost_of_head hhead]
  exact ⟨rfl, rfl⟩

/-- A URL that is not absolute stays on the scheme and the authority of the base exactly where,
    its leading slashes gone, it names as a reference no other scheme, and no host but that one;
    as is so without colons, blanks and control characters. Where it names another scheme the
    base is lost, and where it names a host that is not well-formed there is no URL at all. -/
theorem join_keeps_iff {url : List Char} (hrel : isAbsolute url = false) :
    (b.Keeps url ↔ schemeOf b.scheme (url.dropWhile (· == '/')) = b.scheme ∧
      (hostOf b.scheme (url.dropWhile (· == '/')) = [] ∨
        hostOf b.scheme (url.dropWhile (· == '/')) = b.authority)) ∧
    ((∀ c ∈ url, c ≠ ':' ∧ 32 < c.toNat) → b.Keeps url) ∧
    (isHost (hostOf b.scheme (url.dropWhile (· == '/'))) = true →
      schemeOf b.scheme (url.dropWhile (· == '/')) ≠ b.scheme →
      join b.text url = .ok (url.dropWhile (· == '/'))) ∧
    (isHost (hostOf b.scheme (url.dropWhile (· == '/'))) = false →
      join b.text url = .error .badValue) := by
  refine ⟨b.keeps_iff hrel, fun h => (b.keeps_iff hrel).2 ?_, fun hhost hother => ?_,
    fun hhost => ?_⟩
  · obtain ⟨hscheme, hhost⟩ := b.names_nothing h
    exact ⟨hscheme, .inl hhost⟩
  · have hne : url.dropWhile (· == '/') ≠ [] := by
      intro hnil
      rw [hnil] at hother
      exact hother rfl
    rw [b.join_eq hrel, b.resolve_of_scheme hne hhost hother]
  · have hne : url.dropWhile (· == '/') ≠ [] := by
      intro hnil
      rw [hnil] at hhost
      cases hhost
    rw [b.join_eq hrel, b.resolve_of_not_isHost hne hhost]

end WebBase

/-- The base of an API. -/
def apiBase : WebBase where
  scheme := "http".toList
  authority := "api.test:8080".toList
  path := "/v1".toList
  web := .inl rfl
  authority_ne_nil := List.cons_ne_nil _ _
  authority_plain := by
    have hall : "api.test:8080".toList.all (fun c => !endsHost c && isKept c) = true := rfl
    simpa using hall
  authority_host := rfl
  path_apart := by
    rintro _ ⟨⟩
    decide

/-- Dot segments and leading slashes do not leave the base. -/
theorem join_dotSegments :
    isAbsolute "//../../books/./?page=1".toList = false ∧
    apiBase.Keeps "//../../books/./?page=1".toList :=
  ⟨rfl, (apiBase.join_keeps_iff rfl).1.2 ⟨rfl, .inl rfl⟩⟩

/-- A colon in the first segment makes it a scheme, and the base is lost. -/
theorem join_loses_base : ¬ ∀ (b : WebBase) (url : List Char), isAbsolute url = false →
    ∃ more, join b.text url = .ok (b.origin ++ more) := by
  intro h
  have hjoin : join apiBase.text "/books:batchGet".toList = .ok "books:batchGet".toList := rfl
  obtain ⟨more, hmore⟩ := h apiBase "/books:batchGet".toList rfl
  rw [hjoin, Except.ok.injEq] at hmore
  exact absurd (List.cons.inj hmore).1 (by decide)

end ApiJourney.Url
