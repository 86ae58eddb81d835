import ProbeReport.Proofs.Url.Origin

-- Which addresses can still be read when a path follows them.
namespace ProbeReport.Url

-- What is behind the first colon of an address.
def behindScheme (address : String) : List Char :=
  ((clean address.toList).dropWhile (· ≠ ':')).drop 1

-- An address that ends with its authority and with blanks or controls. At its end they do not
-- count, before a path they do.
def TrailsOff (address : String) : Prop :=
  EndsWithAuthority (behindScheme address) ∧ endBlanks address.toList ≠ []

instance (address : String) : Decidable (TrailsOff address) :=
  inferInstanceAs (Decidable (_ ∧ _))

section Append

variable {address path scheme : String} {rest : List Char} {u : Url}

theorem behindScheme_eq (h : scheme? (clean address.toList) = some (scheme, rest)) :
    behindScheme address = rest := by
  rw [scheme?] at h
  split at h
  · rename_i c name after hc
    split at h
    · cases h
      obtain ⟨hm, hs⟩ := cut?_eq_some_iff.1 hc
      have hn : ∀ d ∈ c :: name, (decide (d ≠ ':')) = true := fun d hd =>
        decide_eq_true fun he => hm (he ▸ hd)
      rw [behindScheme, hs, List.dropWhile_append_of_pos hn, List.dropWhile_cons_of_neg (by simp)]
      rfl
    · cases h
  · cases h

-- All that can go wrong with a web address behind its scheme is its authority.
theorem exists_parseAbsolute_iff [Idna] (hs : isSpecial scheme = true) (hf : scheme ≠ "file") :
    (∃ v, parseAbsolute scheme (.ofText rest) = .ok v) ↔
      ∃ a, Authority.parse scheme (authorityOf (rest.takeWhile isMain)) = .ok a := by
  rw [parseAbsolute, if_neg hf, if_pos hs, main_ofText]
  constructor
  · rintro ⟨v, hv⟩
    obtain ⟨a, path, ha, -⟩ := parseAuthority_eq_ok hv
    rw [hs] at ha
    exact ⟨a, ha⟩
  · rintro ⟨a, ha⟩
    refine ⟨_, bind_eq_ok_iff.2 ⟨a, ?_, rfl⟩⟩
    rw [hs]
    exact ha

theorem scheme_ne_file_of_isWeb (hw : u.isWeb = true) : u.scheme ≠ "file" := by
  intro he
  rw [isWeb, he] at hw
  exact absurd hw (by decide)

-- Before a path only the blanks at the end of an authority are in the way.
theorem exists_parse_append_iff [Idna] (hu : parse address = .ok u) (hw : u.isWeb = true)
    (hp : path.toList.head? = some '/') :
    (∃ v, parse (address ++ path) = .ok v) ↔ ¬TrailsOff address := by
  obtain ⟨rest, hs, hu⟩ := exists_scheme hu
  obtain ⟨back, happ⟩ := scheme?_clean_append hs hp
  obtain ⟨a, -, ha, -⟩ := exists_authority hu hw
  have hsp := isSpecial_of_isWeb hw
  have hparse : parse (address ++ path) =
      parseAbsolute u.scheme (.ofText (rest ++ (endBlanks address.toList ++ '/' :: back))) := by
    rw [parse, happ]
  rw [hparse, exists_parseAbsolute_iff hsp (scheme_ne_file_of_isWeb hw),
    authorityOf_main_append (authority_ne_nil hsp ha) (areBlanks_endBlanks _), TrailsOff,
    behindScheme_eq hs]
  by_cases he : EndsWithAuthority rest
  · rw [if_pos he, and_iff_right he, not_not]
    constructor
    · rintro ⟨b, hb⟩
      by_contra hn
      exact Authority.parse_append hsp (areBlanks_endBlanks _) hn _ b hb
    · intro hn
      rw [hn, List.append_nil]
      exact ⟨a, ha⟩
  · rw [if_neg he]
    exact ⟨fun _ h => he h.1, fun _ => ⟨a, ha⟩⟩

end Append

end ProbeReport.Url
