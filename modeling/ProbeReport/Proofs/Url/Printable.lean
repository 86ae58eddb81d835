import ProbeReport.Proofs.Http.RequestLine
import ProbeReport.Proofs.Url.Continuation

-- Whatever an address or a reference holds, all that is kept of it can be printed.
namespace ProbeReport.Url

-- Visible characters of ASCII, without the sign that begins a fragment.
def IsPrintableChar (c : Char) : Prop := 0x21 ≤ c.toNat ∧ c.toNat ≤ 0x7e ∧ c ≠ '#'

instance (c : Char) : Decidable (IsPrintableChar c) := inferInstanceAs (Decidable (_ ∧ _))

def IsPrintableText (s : String) : Prop := ∀ c ∈ s.toList, IsPrintableChar c

instance (s : String) : Decidable (IsPrintableText s) := List.decidableBAll _ _

section Texts

variable {s t : String} {c : Char}

@[simp] theorem isPrintableText_append :
    IsPrintableText (s ++ t) ↔ IsPrintableText s ∧ IsPrintableText t := by
  simp only [IsPrintableText, String.toList_append, List.mem_append, or_imp, forall_and]

-- What a part of an address is encoded for does not matter, as long as blanks and number signs are
-- among it.
theorem isPrintableText_encode {set : Char → Bool} (hb : set ' ' = true) (hn : set '#' = true)
    (s : List Char) : IsPrintableText (String.ofList (Percent.encode set s)) := by
  have hplain : ∀ n : Fin 128, Percent.isControl (Char.ofNat n) = false → Char.ofNat n ≠ ' ' →
      Char.ofNat n ≠ '#' → IsPrintableChar (Char.ofNat n) := by
    decide +kernel
  intro c hc
  rw [String.toList_ofList] at hc
  refine Percent.forall_mem_encode (by decide) (by decide +kernel) (fun n hi hset => ?_) hc
  refine hplain n hi ?_ ?_
  · rintro he
    rw [he, hb] at hset
    cases hset
  · rintro he
    rw [he, hn] at hset
    cases hset

theorem isPrintableChar_of_isLowerHex (h : Text.isLowerHex c = true) : IsPrintableChar c :=
  Text.of_isLowerHex (by decide +kernel) h

theorem isPrintableChar_of_isDigit (h : c.isDigit = true) : IsPrintableChar c :=
  isPrintableChar_of_isLowerHex (by rw [Text.isLowerHex, h, Bool.true_or])

theorem isPrintableText_toString (n : Nat) : IsPrintableText (toString n) :=
  fun _ hc => isPrintableChar_of_isDigit (Text.isDigit_of_mem_toString hc)

theorem isPrintableChar_of_isNameChar (h : Domain.IsNameChar c) : IsPrintableChar c := by
  have hall : ∀ n : Fin 128, Domain.isForbidden (Char.ofNat n) = false →
      IsPrintableChar (Char.ofNat n) := by
    decide +kernel
  obtain ⟨n, rfl⟩ := Text.exists_ofNat h.1
  exact hall n h.2

theorem Host.IsWire.isPrintableText {host : Host} (h : host.IsWire) :
    IsPrintableText host.text := by
  intro c hc
  cases h with
  | domain _ hname => exact isPrintableChar_of_isNameChar (hname c hc)
  | ipv4 =>
      rw [Host.text, String.toList_ofList] at hc
      obtain rfl | hc := isDigit_of_mem_ipv4 hc
      · decide
      · exact isPrintableChar_of_isDigit hc
  | ipv6 =>
      rw [Host.text, String.toList_ofList, List.mem_append, List.mem_cons, List.mem_singleton] at hc
      obtain (rfl | hc) | rfl := hc
      · decide
      · obtain rfl | hc := isLowerHex_of_mem_text hc
        · decide
        · exact isPrintableChar_of_isLowerHex hc
      · decide

end Texts

section Paths

def Path.IsPrintable : Path → Prop
  | .segments parts => ∀ part ∈ parts, IsPrintableText part
  | .fixed _ => False

theorem isPrintableText_foldl {parts : List String} (h : ∀ part ∈ parts, IsPrintableText part)
    {done : String} (hd : IsPrintableText done) :
    IsPrintableText (parts.foldl (fun done part => done ++ "/" ++ part) done) := by
  induction parts generalizing done with
  | nil => exact hd
  | cons part rest ih =>
      apply ih fun p hp => h p (List.mem_cons_of_mem _ hp)
      have hs : IsPrintableText "/" := by decide
      exact isPrintableText_append.2
        ⟨isPrintableText_append.2 ⟨hd, hs⟩, h part List.mem_cons_self⟩

theorem Path.IsPrintable.text {path : Path} (h : path.IsPrintable) : IsPrintableText path.text := by
  cases path with
  | segments parts => exact isPrintableText_foldl h (by decide)
  | fixed text => exact h.elim

-- A segment that is gone up from or left out needs no encoding; each one that stays is encoded.
theorem isPrintable_extend {done : List String} (h : ∀ part ∈ done, IsPrintableText part)
    (pieces : List (List Char)) : ∀ part ∈ extend done pieces, IsPrintableText part := by
  have hlast {done : List String} (h : ∀ part ∈ done, IsPrintableText part) :
      ∀ part ∈ done ++ [""], IsPrintableText part := by
    intro part hp
    obtain hp | hp := List.mem_append.1 hp
    · exact h part hp
    · rw [List.mem_singleton.1 hp]
      decide
  induction pieces generalizing done with
  | nil => exact h
  | cons piece rest ih =>
      have hup : ∀ part ∈ done.dropLast, IsPrintableText part :=
        fun part hp => h part (List.dropLast_subset _ hp)
      rw [extend]
      split
      · apply ih
        split
        · exact hlast hup
        · exact hup
      · split
        · apply ih
          split
          · exact hlast h
          · exact h
        · apply ih
          intro part hp
          obtain hp | hp := List.mem_append.1 hp
          · exact h part hp
          · rw [List.mem_singleton.1 hp]
            exact isPrintableText_encode rfl rfl _

theorem isPrintable_rootedPath (s : List Char) : (rootedPath true s).IsPrintable := by
  cases s with
  | nil =>
      intro part hp
      rw [List.mem_singleton.1 hp]
      decide
  | cons c rest => exact isPrintable_extend (by simp) _

end Paths

-- What is known of every web address that is asked for.
structure IsPrintable (u : Url) : Prop where
  user : IsPrintableText u.user
  password : IsPrintableText u.password
  host : ∃ host, u.host = some host ∧ host.IsWire
  port : ∀ port ∈ u.port, port ≤ 65535
  path : u.path.IsPrintable
  query : ∀ query ∈ u.query, IsPrintableText query

section Parsing

variable {scheme : String} {main : List Char} {p : Parts} {u base : Url}

theorem isPrintable_queryOf : ∀ query ∈ queryOf true p, IsPrintableText query := by
  intro query hq
  rw [queryOf, Option.mem_def, Option.map_eq_some_iff] at hq
  obtain ⟨s, -, rfl⟩ := hq
  exact isPrintableText_encode rfl rfl s

theorem le_of_parsePort {s : List Char} {port : Option Nat} (h : parsePort scheme s = .ok port) :
    ∀ n ∈ port, n ≤ 65535 := by
  rw [parsePort] at h
  split at h
  · rename_i hs
    cases h
    intro n hn
    split at hn
    · cases hn
    · cases hn
      exact hs.2
  · cases h

theorem isPrintable_of_parseAuthority [Idna] (hs : isSpecial scheme = true)
    (h : parseAuthority scheme main p = .ok u) : u.IsPrintable := by
  obtain ⟨a, ha, h⟩ := bind_eq_ok_iff.1 h
  cases h
  obtain ⟨user, password, huser, hpassword⟩ := Authority.exists_userinfo hs ha
  obtain ⟨host, port, -, -, hhost, hport⟩ := Authority.parse_eq_ok hs ha
  rw [hs]
  refine ⟨?_, ?_, ⟨a.host, rfl, Host.isWire_of_parse hhost⟩, le_of_parsePort hport,
    isPrintable_rootedPath _, ?_⟩
  · rw [ofAuthority, huser]
    exact isPrintableText_encode rfl rfl user
  · rw [ofAuthority, hpassword]
    exact isPrintableText_encode rfl rfl password
  · rw [ofAuthority, hs]
    exact isPrintable_queryOf

theorem isPrintable_of_parseAbsolute [Idna] (h : parseAbsolute scheme p = .ok u)
    (hw : u.isWeb = true) :
    u.IsPrintable := by
  have hscheme := parseAbsolute_scheme h
  subst hscheme
  have hs := isSpecial_of_isWeb hw
  rw [parseAbsolute, if_neg (scheme_ne_file_of_isWeb hw), if_pos hs] at h
  exact isPrintable_of_parseAuthority hs h

theorem isPrintable_of_parse [Idna] {address : String} (h : parse address = .ok u)
    (hw : u.isWeb = true) :
    u.IsPrintable := by
  obtain ⟨rest, -, h⟩ := exists_scheme h
  exact isPrintable_of_parseAbsolute h hw

theorem IsPrintable.withPath (hb : base.IsPrintable) {path : Path} (hp : path.IsPrintable) :
    { base with path := path, query := queryOf true p, fragment := fragmentOf p }.IsPrintable :=
  ⟨hb.user, hb.password, hb.host, hb.port, hp, isPrintable_queryOf⟩

-- Whatever a reference takes from the address that it is seen from could be printed there.
theorem isPrintable_of_resolveRelative [Idna] (hb : base.IsPrintable) (hw : base.isWeb = true)
    (h : resolveRelative base p = .ok u) : u.IsPrintable := by
  have hbeside : (resolveRelative.beside base p
      { base with query := queryOf true p, fragment := fragmentOf p }).IsPrintable := by
    rw [resolveRelative.beside]
    have hpath := hb.path
    split
    · rename_i parts hparts
      rw [hparts] at hpath
      exact hb.withPath
        (isPrintable_extend (fun part hp => hpath part (List.dropLast_subset _ hp)) _)
    · exact hb.withPath hpath
  rw [resolveRelative] at h
  dsimp only at h
  split at h
  · cases h
    split
    · exact hb.withPath hb.path
    · exact ⟨hb.user, hb.password, hb.host, hb.port, hb.path, hb.query⟩
  · split at h
    · cases h
      exact hb.withPath (isPrintable_rootedPath [])
    · cases h
      exact hbeside
  · split at h
    · exact isPrintable_of_parseAuthority (isSpecial_of_isWeb hw) h
    · split at h
      · cases h
        exact hb.withPath (isPrintable_rootedPath _)
      · cases h
        exact hbeside

theorem isPrintable_of_resolve [Idna] {reference : String} (hb : base.IsPrintable)
    (hw : base.isWeb = true) (h : resolve base reference = .ok u) (hu : u.isWeb = true) : u.IsPrintable := by
  rw [resolve] at h
  dsimp only at h
  split at h
  · exact isPrintable_of_resolveRelative hb hw h
  · split at h
    · exact isPrintable_of_resolveRelative hb hw h
    · exact isPrintable_of_parseAbsolute h hu

end Parsing

section Asking

variable {u : Url}

theorem IsPrintable.userinfoText (h : u.IsPrintable) : IsPrintableText u.userinfoText := by
  rw [Url.userinfoText]
  have hcolon : IsPrintableText ":" := by decide
  have hat : IsPrintableText "@" := by decide
  split
  · decide
  · split
    · exact isPrintableText_append.2 ⟨h.user, hat⟩
    · simp only [isPrintableText_append]
      exact ⟨⟨⟨h.user, hcolon⟩, h.password⟩, hat⟩

theorem isPrintableText_portText (u : Url) : IsPrintableText u.portText := by
  rw [Url.portText]
  split
  · decide
  · exact isPrintableText_append.2 ⟨by decide, isPrintableText_toString _⟩

theorem IsPrintable.authorityText (h : u.IsPrintable) : IsPrintableText u.authorityText := by
  obtain ⟨host, hh, hw⟩ := h.host
  rw [Url.authorityText, hh]
  simp only [isPrintableText_append]
  exact ⟨⟨⟨by decide, h.userinfoText⟩, hw.isPrintableText⟩, isPrintableText_portText u⟩

theorem IsPrintable.resource (h : u.IsPrintable) : IsPrintableText u.resource := by
  rw [Url.resource, isPrintableText_append]
  refine ⟨h.path.text, ?_⟩
  cases hq : u.query with
  | none => decide
  | some query =>
      have hmark : IsPrintableText "?" := by decide
      exact isPrintableText_append.2 ⟨hmark, h.query query hq⟩

theorem IsPrintable.requestText (h : u.IsPrintable) (hs : IsPrintableText u.scheme) :
    IsPrintableText u.requestText := by
  rw [Url.requestText]
  simp only [isPrintableText_append]
  exact ⟨⟨⟨hs, by decide⟩, h.authorityText⟩, h.resource⟩

-- With a host there are two slashes behind the scheme.
theorem IsPrintable.exists_requestText (h : u.IsPrintable) :
    ∃ rest, u.requestText = u.scheme ++ "://" ++ rest := by
  obtain ⟨host, hh, -⟩ := h.host
  refine ⟨u.userinfoText ++ host.text ++ u.portText ++ u.resource, ?_⟩
  have hmark : "://" = ":" ++ "//" := rfl
  rw [Url.requestText, Url.authorityText, hh, hmark]
  simp only [String.append_assoc]

end Asking

end ProbeReport.Url
