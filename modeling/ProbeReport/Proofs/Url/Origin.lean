import Mathlib.Data.List.TakeWhile
import ProbeReport.Proofs.Url.Authority
import ProbeReport.Proofs.Url.Mapping
import ProbeReport.Settings

-- An address that goes on with a slash still names the server that it names without it.
namespace ProbeReport.Url

section Clean

def isEdge (c : Char) : Bool := c.toNat ≤ 0x20

def isKept (c : Char) : Bool := c ≠ '\t' && c ≠ '\n' && c ≠ '\r'

def trimRight (s : List Char) : List Char := (s.reverse.dropWhile isEdge).reverse

theorem clean_eq (s : List Char) : clean s = (trimRight (s.dropWhile isEdge)).filter isKept := rfl

-- Blanks are trimmed from the right only as far as the slash.
theorem trimRight_append (s more : List Char) :
    ∃ rest, trimRight (s ++ '/' :: more) = s ++ '/' :: rest := by
  have he : isEdge '/' = false := by decide
  refine ⟨(more.reverse.dropWhile isEdge).reverse, ?_⟩
  have hr : (s ++ '/' :: more).reverse = more.reverse ++ '/' :: s.reverse := by simp
  rw [trimRight, hr, List.dropWhile_append]
  cases hm : more.reverse.dropWhile isEdge with
  | nil => simp [he]
  | cons c rest => simp

-- The blanks and controls at the end, as far as they count there: what is dropped anywhere does
-- not.
def endBlanks (s : List Char) : List Char := (s.reverse.takeWhile isEdge).reverse.filter isKept

theorem areBlanks_endBlanks (s : List Char) : AreBlanks (endBlanks s) := by
  intro c hc
  have hm := List.mem_reverse.1 (List.mem_filter.1 hc).1
  exact of_decide_eq_true (List.all_eq_true.1 List.all_takeWhile c hm)

theorem trimRight_append_edge (s : List Char) :
    trimRight s ++ (s.reverse.takeWhile isEdge).reverse = s := by
  rw [trimRight, ← List.reverse_append, List.takeWhile_append_dropWhile, List.reverse_reverse]

-- Blanks at the front are not those at the end, unless there is nothing else.
theorem takeWhile_reverse_dropWhile {s : List Char} (hs : s.dropWhile isEdge ≠ []) :
    (s.dropWhile isEdge).reverse.takeWhile isEdge = s.reverse.takeWhile isEdge := by
  have hall : ¬(s.dropWhile isEdge).reverse.all isEdge = true := by
    intro h
    obtain ⟨c, rest, hc⟩ := List.exists_cons_of_ne_nil hs
    have hn := List.head?_dropWhile_not isEdge s
    rw [hc] at h hn
    have he := List.all_eq_true.1 h c (by simp)
    simp [he] at hn
  have hl : ((s.dropWhile isEdge).reverse.takeWhile isEdge).length ≠
      (s.dropWhile isEdge).reverse.length := by
    intro h
    apply hall
    have ht := (List.takeWhile_prefix isEdge).eq_of_length h
    rw [← ht]
    exact List.all_takeWhile
  have hr : s.reverse = (s.dropWhile isEdge).reverse ++ (s.takeWhile isEdge).reverse := by
    rw [← List.reverse_append, List.takeWhile_append_dropWhile]
  rw [hr, List.takeWhile_append, if_neg hl]

-- What is appended behind a slash comes behind the cleaned address, and behind the blanks at
-- its end, which are now in the middle.
theorem clean_append {s : List Char} (hs : clean s ≠ []) (more : List Char) :
    ∃ rest, clean (s ++ '/' :: more) = clean s ++ endBlanks s ++ '/' :: rest := by
  have hd : s.dropWhile isEdge ≠ [] := by
    intro he
    rw [clean_eq, he] at hs
    exact hs rfl
  obtain ⟨rest, hr⟩ := trimRight_append (s.dropWhile isEdge) more
  refine ⟨rest.filter isKept, ?_⟩
  have hk : isKept '/' = true := by decide
  have hb : clean s ++ endBlanks s = (s.dropWhile isEdge).filter isKept := by
    rw [clean_eq, endBlanks, ← takeWhile_reverse_dropWhile hd, ← List.filter_append,
      trimRight_append_edge]
  rw [hb, clean_eq, List.dropWhile_append, List.isEmpty_eq_false_iff.2 hd,
    if_neg Bool.false_ne_true, hr, List.filter_append, List.filter_cons_of_pos hk]

end Clean

section Scheme

theorem cut?_eq_some_iff {mark : Char} {s before after : List Char} :
    cut? mark s = some (before, after) ↔ mark ∉ before ∧ s = before ++ mark :: after := by
  constructor
  · intro h
    rw [cut?] at h
    cases hd : s.dropWhile (· ≠ mark) with
    | nil =>
        rw [hd] at h
        cases h
    | cons c rest =>
        rw [hd] at h
        cases h
        have hc := List.head?_dropWhile_not (· ≠ mark) s
        rw [hd] at hc
        have hc : c = mark := by simpa using hc
        subst hc
        refine ⟨fun hm => ?_, ?_⟩
        · exact of_decide_eq_true (List.all_eq_true.1 List.all_takeWhile c hm) rfl
        · rw [← hd, List.takeWhile_append_dropWhile]
  · rintro ⟨hm, rfl⟩
    rw [cut?_append hm]
    simp [cut?]

theorem takeWhile_of_cut? {mark : Char} {s before after : List Char}
    (h : cut? mark s = some (before, after)) : s.takeWhile (· ≠ mark) = before := by
  rw [cut?] at h
  split at h
  · cases h
  · cases h
    rfl

theorem takeWhile_of_cut?_eq_none {mark : Char} {s : List Char} (h : cut? mark s = none) :
    s.takeWhile (· ≠ mark) = s := by
  rw [cut?] at h
  split at h
  · rename_i hd
    have ht := List.takeWhile_append_dropWhile (p := fun c => decide (c ≠ mark)) (l := s)
    rwa [hd, List.append_nil] at ht
  · cases h

theorem scheme?_append {s rest : List Char} {scheme : String} (h : scheme? s = some (scheme, rest))
    (t : List Char) : scheme? (s ++ t) = some (scheme, rest ++ t) := by
  rw [scheme?] at h ⊢
  split at h
  · rename_i c name after hc
    split at h
    · rename_i hn
      cases h
      obtain ⟨hm, rfl⟩ := cut?_eq_some_iff.1 hc
      have ht : cut? ':' (c :: name ++ ':' :: rest ++ t) = some (c :: name, rest ++ t) :=
        cut?_eq_some_iff.2 ⟨hm, List.append_assoc _ _ _⟩
      rw [ht]
      exact if_pos hn
    · cases h
  · cases h

theorem parseAuthority_eq_ok [Idna] {scheme : String} {main : List Char} {p : Parts} {u : Url}
    (h : parseAuthority scheme main p = .ok u) :
    ∃ a path,
      Authority.parse scheme (main.takeWhile fun c => !isSlash (isSpecial scheme) c) = .ok a ∧
      u = ofAuthority scheme a path p := by
  obtain ⟨a, ha, h⟩ := bind_eq_ok_iff.1 h
  cases h
  exact ⟨a, _, ha, rfl⟩

theorem parseFile_scheme [Idna] {p : Parts} {u : Url} (h : parseFile p = .ok u) :
    u.scheme = "file" := by
  unfold parseFile at h
  dsimp only at h
  split at h
  · split at h
    · split at h
      · cases h
        rfl
      · obtain ⟨host, -, h⟩ := bind_eq_ok_iff.1 h
        cases h
        rfl
    · cases h
      rfl
  · cases h
    rfl

theorem parseOther_scheme [Idna] {scheme : String} {p : Parts} {u : Url}
    (h : parseOther scheme p = .ok u) : u.scheme = scheme := by
  rw [parseOther] at h
  split at h
  · obtain ⟨a, path, -, rfl⟩ := parseAuthority_eq_ok h
    rfl
  · cases h
    rfl
  · cases h
    rfl

theorem parseAbsolute_scheme [Idna] {scheme : String} {p : Parts} {u : Url}
    (h : parseAbsolute scheme p = .ok u) : u.scheme = scheme := by
  rw [parseAbsolute] at h
  split at h
  · rename_i hs
    subst hs
    exact parseFile_scheme h
  split at h
  · obtain ⟨a, path, -, rfl⟩ := parseAuthority_eq_ok h
    rfl
  · exact parseOther_scheme h

end Scheme

section Parts

def isMain (c : Char) : Bool := c ≠ '#' && c ≠ '?'

theorem main_ofText (s : List Char) : (Parts.ofText s).main = s.takeWhile isMain := by
  have hf {front : List Char} (h : s.takeWhile (· ≠ '#') = front) :
      front.takeWhile (· ≠ '?') = s.takeWhile isMain := by
    rw [← h, List.takeWhile_takeWhile]
    congr
    funext c
    simp [isMain, Bool.and_comm]
  rw [Parts.ofText]
  dsimp only
  cases h : cut? '#' s with
  | none =>
      have hmain := hf (takeWhile_of_cut?_eq_none h)
      dsimp only
      cases hq : cut? '?' s with
      | none => exact (takeWhile_of_cut?_eq_none hq).symm.trans hmain
      | some parts => exact (takeWhile_of_cut? hq).symm.trans hmain
  | some parts =>
      obtain ⟨front, rest⟩ := parts
      have hmain := hf (takeWhile_of_cut? h)
      dsimp only
      cases hq : cut? '?' front with
      | none => exact (takeWhile_of_cut?_eq_none hq).symm.trans hmain
      | some parts => exact (takeWhile_of_cut? hq).symm.trans hmain

end Parts

-- What stands between the slashes behind a web scheme and the path.
def authorityOf (main : List Char) : List Char :=
  (main.dropWhile (isSlash true)).takeWhile fun c => !isSlash true c

-- Blanks behind the authority go on with it when there is no slash before them.
theorem authorityOf_append {main w : List Char} (hm : authorityOf main ≠ []) (hw : AreBlanks w)
    (rest : List Char) :
    ((∀ c ∈ main.dropWhile (isSlash true), isSlash true c = false) →
      authorityOf (main ++ (w ++ '/' :: rest)) = authorityOf main ++ w) ∧
    ((¬∀ c ∈ main.dropWhile (isSlash true), isSlash true c = false) →
      authorityOf (main ++ (w ++ '/' :: rest)) = authorityOf main) := by
  have hd : (main.dropWhile (isSlash true)).isEmpty = false := by
    rw [List.isEmpty_eq_false_iff]
    intro he
    rw [authorityOf, he] at hm
    exact hm rfl
  have hs : ∀ c ∈ w, (!isSlash true c) = true := by
    intro c hc
    have h := Domain.ne_of_blank (hw c hc) (by decide : 0x20 < '/'.toNat)
    have h' := Domain.ne_of_blank (hw c hc) (by decide : 0x20 < '\\'.toNat)
    simp [isSlash, h, h']
  have ht : (w ++ '/' :: rest).takeWhile (fun c => !isSlash true c) = w := by
    rw [List.takeWhile_append_of_pos hs, List.takeWhile_cons_of_neg (by decide), List.append_nil]
  simp only [authorityOf]
  rw [List.dropWhile_append, hd, if_neg Bool.false_ne_true, List.takeWhile_append, ht]
  constructor
  · intro hn
    have hall : (main.dropWhile (isSlash true)).takeWhile (fun c => !isSlash true c) =
        main.dropWhile (isSlash true) :=
      List.takeWhile_eq_self_iff.2 fun c hc => by simp [hn c hc]
    rw [hall, if_pos rfl]
  · intro hn
    rw [if_neg]
    intro hl
    apply hn
    intro c hc
    rw [← (List.takeWhile_prefix _).eq_of_length hl] at hc
    simpa using List.all_eq_true.1 List.all_takeWhile c hc

theorem isSpecial_of_isWeb {u : Url} (hw : u.isWeb = true) : isSpecial u.scheme = true := by
  rw [isWeb, Bool.or_eq_true, decide_eq_true_eq, decide_eq_true_eq] at hw
  obtain hw | hw := hw <;> rw [hw] <;> decide

theorem exists_scheme [Idna] {s : String} {u : Url} (h : parse s = .ok u) :
    ∃ rest, scheme? (clean s.toList) = some (u.scheme, rest) ∧
      parseAbsolute u.scheme (.ofText rest) = .ok u := by
  rw [parse] at h
  split at h
  · rename_i scheme rest hs
    have hscheme := parseAbsolute_scheme h
    subst hscheme
    exact ⟨rest, hs, h⟩
  · cases h

-- What an address of the web names is read off its authority.
theorem exists_authority [Idna] {scheme : String} {rest : List Char} {u : Url}
    (h : parseAbsolute scheme (.ofText rest) = .ok u) (hw : u.isWeb = true) :
    ∃ a path, Authority.parse scheme (authorityOf (rest.takeWhile isMain)) = .ok a ∧
      u = ofAuthority scheme a path (.ofText rest) := by
  have hscheme := parseAbsolute_scheme h
  subst hscheme
  have hf : u.scheme ≠ "file" := by
    rintro he
    rw [isWeb, he] at hw
    exact absurd hw (by decide)
  have hsp := isSpecial_of_isWeb hw
  rw [parseAbsolute, if_neg hf, if_pos hsp, main_ofText] at h
  obtain ⟨a, path, ha, hu⟩ := parseAuthority_eq_ok h
  rw [hsp] at ha
  exact ⟨a, path, ha, hu⟩

theorem authority_ne_nil [Idna] {scheme : String} (hs : isSpecial scheme = true) {s : List Char}
    {a : Authority} (h : Authority.parse scheme s = .ok a) : s ≠ [] := by
  rintro rfl
  obtain ⟨host, port, hp, hn, -⟩ := Authority.parse_eq_ok hs h
  cases hp
  exact hn rfl

-- What is behind a scheme ends with the authority: no path, query or fragment follows there.
def EndsWithAuthority (s : List Char) : Prop :=
  ∀ c ∈ s.dropWhile (isSlash true), isSlash true c = false ∧ isMain c = true

instance (s : List Char) : Decidable (EndsWithAuthority s) :=
  List.decidableBAll _ _

theorem isMain_of_isSlash {c : Char} (h : isSlash true c = true) : isMain c = true := by
  have hc : c = '/' ∨ c = '\\' := by simpa [isSlash] using h
  obtain rfl | rfl := hc <;> decide

-- Slashes do not matter to where the query or the fragment begins.
theorem endsWithAuthority_iff {s : List Char} :
    EndsWithAuthority s ↔ s.takeWhile isMain = s ∧
      ∀ c ∈ s.dropWhile (isSlash true), isSlash true c = false := by
  rw [List.takeWhile_eq_self_iff]
  constructor
  · intro h
    refine ⟨fun c hc => ?_, fun c hc => (h c hc).1⟩
    rw [← List.takeWhile_append_dropWhile (p := isSlash true) (l := s), List.mem_append] at hc
    obtain hc | hc := hc
    · exact isMain_of_isSlash (List.all_eq_true.1 List.all_takeWhile c hc)
    · exact (h c hc).2
  · rintro ⟨hm, hs⟩ c hc
    exact ⟨hs c hc, hm c ((List.dropWhile_suffix _).subset hc)⟩

-- What goes on with blanks and a slash keeps its authority, and the blanks belong to it when
-- nothing stands between.
theorem authorityOf_main_append {s w : List Char}
    (hm : authorityOf (s.takeWhile isMain) ≠ []) (hw : AreBlanks w) (back : List Char) :
    authorityOf ((s ++ (w ++ '/' :: back)).takeWhile isMain) =
      if EndsWithAuthority s then authorityOf (s.takeWhile isMain) ++ w
      else authorityOf (s.takeWhile isMain) := by
  have hb : ∀ c ∈ w, isMain c = true := by
    intro c hc
    have h := Domain.ne_of_blank (hw c hc) (by decide : 0x20 < '#'.toNat)
    have h' := Domain.ne_of_blank (hw c hc) (by decide : 0x20 < '?'.toNat)
    simp [isMain, h, h']
  rw [List.takeWhile_append]
  by_cases hl : (s.takeWhile isMain).length = s.length
  · have he := (List.takeWhile_prefix isMain).eq_of_length hl
    rw [he] at hm ⊢
    rw [if_pos rfl, List.takeWhile_append_of_pos hb, List.takeWhile_cons_of_pos (by decide)]
    have hi : EndsWithAuthority s ↔ ∀ c ∈ s.dropWhile (isSlash true), isSlash true c = false := by
      rw [endsWithAuthority_iff, and_iff_right he]
    by_cases hs : EndsWithAuthority s
    · rw [if_pos hs, (authorityOf_append hm hw _).1 (hi.1 hs)]
    · rw [if_neg hs, (authorityOf_append hm hw _).2 fun h => hs (hi.2 h)]
  · have hs : ¬EndsWithAuthority s := fun h => hl (congrArg _ (endsWithAuthority_iff.1 h).1)
    rw [if_neg hl, if_neg hs]

-- An authority that can be read still is the same one.
theorem authority_append [Idna] {scheme : String} (hs : isSpecial scheme = true)
    {s w rest : List Char} (hw : AreBlanks w) {a b : Authority}
    (ha : Authority.parse scheme (authorityOf (s.takeWhile isMain)) = .ok a)
    (hb : Authority.parse scheme (authorityOf ((s ++ (w ++ '/' :: rest)).takeWhile isMain)) =
      .ok b) : b = a := by
  rw [authorityOf_main_append (authority_ne_nil hs ha) hw] at hb
  split at hb
  · by_cases hn : w = []
    · rw [hn, List.append_nil, ha] at hb
      exact (Except.ok.inj hb).symm
    · exact absurd hb (Authority.parse_append hs hw hn _ b)
  · rw [ha] at hb
    exact (Except.ok.inj hb).symm

-- The server that an address names, and as whom.
structure SameOrigin (u v : Url) : Prop where
  scheme : v.scheme = u.scheme
  user : v.user = u.user
  password : v.password = u.password
  host : v.host = u.host
  port : v.port = u.port

section Append

variable {address path : String} {u v : Url}

-- The scheme of an address and what is behind it, when a path follows there.
theorem scheme?_clean_append {scheme : String} {rest : List Char}
    (hs : scheme? (clean address.toList) = some (scheme, rest))
    (hp : path.toList.head? = some '/') :
    ∃ back, scheme? (clean (address ++ path).toList) =
      some (scheme, rest ++ (endBlanks address.toList ++ '/' :: back)) := by
  obtain ⟨more, hpath⟩ := List.head?_eq_some_iff.1 hp
  have hc : clean address.toList ≠ [] := by
    intro he
    rw [he] at hs
    cases hs
  obtain ⟨back, happ⟩ := clean_append hc more
  exact ⟨back, by rw [String.toList_append, hpath, happ, List.append_assoc, scheme?_append hs]⟩

-- An address and what it is with a path behind it have their scheme from the same place.
theorem exists_rest [Idna] (hu : parse address = .ok u) (hp : path.toList.head? = some '/')
    (hv : parse (address ++ path) = .ok v) :
    v.scheme = u.scheme ∧ ∃ rest w back, AreBlanks w ∧
      parseAbsolute u.scheme (.ofText rest) = .ok u ∧
      parseAbsolute u.scheme (.ofText (rest ++ (w ++ '/' :: back))) = .ok v := by
  obtain ⟨rest, hs, hu⟩ := exists_scheme hu
  obtain ⟨rest', hs', hv⟩ := exists_scheme hv
  obtain ⟨back, happ⟩ := scheme?_clean_append hs hp
  rw [happ, Option.some.injEq, Prod.mk.injEq] at hs'
  obtain ⟨hscheme, rfl⟩ := hs'
  exact ⟨hscheme.symm, rest, _, back, areBlanks_endBlanks _, hu, hscheme ▸ hv⟩

theorem parse_append [Idna] (hu : parse address = .ok u) (hw : u.isWeb = true)
    (hp : path.toList.head? = some '/') (hv : parse (address ++ path) = .ok v) :
    SameOrigin u v := by
  obtain ⟨hscheme, rest, w, back, hblank, hu, hv⟩ := exists_rest hu hp hv
  obtain ⟨a, p, ha, hu⟩ := exists_authority hu hw
  obtain ⟨b, q, hb, hv⟩ := exists_authority hv (by rwa [isWeb, hscheme])
  have hab := authority_append (isSpecial_of_isWeb hw) hblank ha hb
  rw [hu, hv, hab]
  exact ⟨rfl, rfl, rfl, rfl, rfl⟩

end Append

end ProbeReport.Url

namespace ProbeReport.Target

theorem ofAddress_eq_ok [Url.Idna] {address : String} {target : Target}
    (h : ofAddress address = .ok target) :
    target = ⟨address, Probe.standard⟩ ∧ ∃ u, Url.parse address = .ok u ∧ u.isWeb = true := by
  rw [ofAddress, validate] at h
  split at h
  · cases h
  · rename_i u hu
    split at h
    · cases h
    · rename_i hw
      split at h
      · cases h
      · cases h
        exact ⟨rfl, u, hu, by simpa using hw⟩

theorem standard_begins_with_slash :
    ∀ probe ∈ Probe.standard, probe.path.toList.head? = some '/' := by
  decide +kernel

-- Whatever is asked of an accepted address goes to the server that was accepted.
theorem ofAddress_sameOrigin [Url.Idna] {address : String} {target : Target}
    (h : ofAddress address = .ok target) :
    ∃ base, Url.parse address = .ok base ∧
      (∀ path v, path.toList.head? = some '/' → Url.parse (target.address ++ path) = .ok v →
        base.SameOrigin v) ∧
      (∀ probe ∈ target.probes, ∀ v, Url.parse (probe.url target.address) = .ok v →
        base.SameOrigin v) ∧
      ∀ v, Url.parse target.dashboardUrl = .ok v → base.SameOrigin v := by
  obtain ⟨rfl, base, hb, hw⟩ := ofAddress_eq_ok h
  refine ⟨base, hb, fun path v hp => Url.parse_append hb hw hp, fun probe hm v => ?_, fun v => ?_⟩
  · exact Url.parse_append hb hw (standard_begins_with_slash probe hm)
  · exact Url.parse_append hb hw (by decide +kernel)

-- An address that is spelled oddly and ends in a query, where the path goes on.
theorem ofAddress_sameOrigin_query :
    ∃ base, Url.parse "ht\ttp:\\\\u:p@h?q" = .ok base ∧
      base.SameOrigin ⟨"http", "u", "p", some (.domain "h"), none, .segments [""],
        some "q/admin", none⟩ := by
  obtain ⟨base, hb, hpath, -⟩ := @ofAddress_sameOrigin _ "ht\ttp:\\\\u:p@h?q" _ rfl
  exact ⟨base, hb, hpath "/admin" _ (by decide +kernel) rfl⟩

end ProbeReport.Target
