import ProbeReport.Proofs.Causes
import ProbeReport.Http.Redirect
import ProbeReport.Proofs.Http.Opening
import ProbeReport.Proofs.Http.RequestLine
import ProbeReport.Proofs.Url.Continuation
import ProbeReport.Proofs.Url.Mapping
import ProbeReport.Run
import ProbeReport.StandIns

-- Which addresses are good for a request, and what is told of those that are not.
namespace ProbeReport

namespace Http

-- How the reason begins that is told of a failure to get to an answer.
theorem Failure.exists_prefix (failure : Failure) (h : ∀ causes, failure ≠ .abandoned causes) :
    (if failure.isUnbuilt then "builder error" else "error").toList <+:
      failure.causes.describe.toList := by
  have hb : "builder error".toList <+: "builder error for url (".toList := by decide +kernel
  have hs : "error".toList <+: "error sending request for url (".toList := by decide +kernel
  have hd : "error".toList <+: "error decoding response body".toList := by decide +kernel
  have told {front top : String} (h : front.toList <+: top.toList) (rest : List String) :
      front.toList <+: (Causes.describe (top :: rest)).toList :=
    h.trans (Causes.prefix_describe top rest)
  have named {front top : String} (h : front.toList <+: top.toList) (address : String) :
      front.toList <+: (top ++ address ++ ")").toList :=
    Causes.prefix_append (Causes.prefix_append h address) ")"
  cases failure with
  | unparsable why => exact told List.prefix_rfl _
  | foreignScheme address => exact told (named hb address) _
  | unsendable address => exact told (named hb address) _
  | unreachable address tunnel => exact told (named hs address) _
  | refused address tunnel => exact told (named hs address) _
  | tunnelRejected address => exact told (named hs address) _
  | broken address breakage =>
      cases breakage with
      | closedEarly | wrongVersion | wrongLength => exact told (named hs address) _
      | wrongChunk | cutShort => exact told hd _
  | abandoned causes => exact absurd rfl (h causes)

theorem Failure.isUnbuilt_iff {failure : Failure} (h : ∀ causes, failure ≠ .abandoned causes) :
    failure.isUnbuilt = true ↔ "builder error".toList <+: failure.causes.describe.toList := by
  have hp := failure.exists_prefix h
  constructor
  · intro h
    rwa [if_pos h] at hp
  · intro h
    by_contra hn
    rw [if_neg hn] at hp
    have hc := List.prefix_of_prefix_length_le hp h (by decide +kernel)
    exact absurd hc (by decide +kernel)

-- An address that is short enough, with a host that a request can spell.
structure IsSendable (u : Url) : Prop where
  short : u.text.utf8ByteSize ≤ RequestLine.maxLength
  spelled : ∀ c ∈ u.hostText.toList, c ∉ RequestLine.unsendable

theorem carries_iff_isSendable {u : Url} (hu : u.Formed) :
    RequestLine.carries u = true ↔ IsSendable u := by
  rw [RequestLine.carries_iff hu]
  exact ⟨fun h => ⟨h.1, h.2⟩, fun h => ⟨h.short, h.spelled⟩⟩

theorem formed_firstHop {u : Url} (hu : u.Formed) : (firstHop u).url.Formed := by
  rw [firstHop]
  split
  · refine ⟨?_, ?_, hu.host⟩
    · intro c hc
      cases hc
    · intro c hc
      cases hc
  · exact hu

theorem isWeb_firstHop (u : Url) : (firstHop u).url.isWeb = u.isWeb := by
  rw [firstHop]
  split <;> rfl

-- For a web address it is only a matter of what a request can carry.
theorem exists_opening_iff [Url.Idna] {address : String} {u : Url} (h : Url.parse address = .ok u)
    (hw : u.isWeb = true) :
    (∃ first, Opening address first) ↔ IsSendable (firstHop u).url := by
  have hu := Url.formed_of_parse h hw
  have hr : requestUrl address = .ok u := requestUrl_eq_ok_iff.2 ⟨h, Url.hasHost_of_formed hu⟩
  rw [← carries_iff_isSendable (formed_firstHop hu)]
  constructor
  · rintro ⟨first, ho⟩
    obtain ⟨v, hv, rfl, -, hc⟩ := opening_iff.1 ho
    rw [hr] at hv
    cases hv
    exact hc
  · intro hc
    exact ⟨_, opening_iff.2 ⟨u, hr, rfl, by rw [isWeb_firstHop, hw], hc⟩⟩

end Http

-- A probe that ends before anything is asked for, because its own address is of no use.
def Execution.EndsUnbuilt (e : Execution) : Prop :=
  e.requests = [] ∧
    ∃ reason, e.result = .ok (.exception reason) ∧ "builder error".toList <+: reason.toList

theorem execute_endsUnbuilt_iff [Url.Idna] [Text.Decoders] {network : Http.Network}
    {address : String} {probe : Probe} :
    (execute network address probe).EndsUnbuilt ↔
      ¬∃ first, Http.Opening (probe.url address) first := by
  obtain hn | ⟨first, ho, hoff⟩ | ⟨first, hops, result, ho, hon, hc⟩ :=
    Http.fetch_cases network (probe.url address)
  · obtain ⟨failure, hb, hf⟩ := Http.fetch_of_not_opening hn
    have he : execute network address probe = ⟨[], .ok (.exception failure.causes.describe)⟩ := by
      rw [execute, hf]
      rfl
    have hp := (Http.Failure.isUnbuilt_iff (failure.ne_abandoned hb)).1 hb
    rw [he]
    exact iff_of_true ⟨rfl, _, rfl, hp⟩ (not_exists.2 hn)
  · refine iff_of_false ?_ (not_not.2 ⟨_, ho⟩)
    rintro ⟨-, reason, he, hp⟩
    obtain ⟨failure, hf, hb, ha⟩ :=
      Http.follow_off hoff first.url.text network.client.patience [] first
    dsimp only [execute] at he
    rw [Http.fetch_of_opening ho, hf] at he
    cases he
    rw [(Http.Failure.isUnbuilt_iff ha).2 hp] at hb
    cases hb
  · refine iff_of_false ?_ (not_not.2 ⟨_, ho⟩)
    rintro ⟨hr, -⟩
    dsimp only [execute] at hr
    rw [Http.fetch_of_course hon ho hc] at hr
    have hh := hc.head
    rw [List.map_eq_nil_iff.1 hr] at hh
    cases hh

namespace Target

-- The probes of an accepted address are web addresses, unless blanks at its end come to stand in
-- its authority. Besides that only an address that no request can carry is of no use.
theorem ofAddress_usable [Url.Idna] [Text.Decoders] {address : String} {target : Target}
    {probe : Probe}
    (h : ofAddress address = .ok target) (hm : probe ∈ target.probes) :
    ((∃ u, Url.parse (probe.url target.address) = .ok u ∧ u.isWeb = true) ↔
        ¬Url.TrailsOff address) ∧
      ∀ network, (execute network target.address probe).EndsUnbuilt ↔
        Url.TrailsOff address ∨
          ∃ u, Url.parse (probe.url target.address) = .ok u ∧
            ¬Http.IsSendable (Http.firstHop u).url := by
  obtain ⟨rfl, base, hb, hw⟩ := ofAddress_eq_ok h
  have hp := standard_begins_with_slash probe hm
  have hparse : (∃ u, Url.parse (probe.url address) = .ok u) ↔ ¬Url.TrailsOff address :=
    Url.exists_parse_append_iff hb hw hp
  have hweb {u : Url} (hu : Url.parse (probe.url address) = .ok u) : u.isWeb = true := by
    rw [Url.isWeb, (Url.parse_append hb hw hp hu).scheme]
    exact hw
  constructor
  · rw [← hparse]
    exact exists_congr fun u => ⟨And.left, fun hu => ⟨hu, hweb hu⟩⟩
  · intro network
    rw [execute_endsUnbuilt_iff]
    dsimp only
    by_cases ht : Url.TrailsOff address
    · refine iff_of_true ?_ (.inl ht)
      rintro ⟨first, ⟨u, hu, -⟩, -⟩
      exact hparse.1 ⟨u, hu⟩ ht
    · obtain ⟨u, hu⟩ := hparse.2 ht
      rw [Http.exists_opening_iff hu (hweb hu), or_iff_right ht]
      constructor
      · intro hs
        exact ⟨u, hu, hs⟩
      · rintro ⟨v, hv, hs⟩
        rw [hu] at hv
        cases hv
        exact hs

-- A blank at the end of a path does no harm.
theorem ofAddress_usable_blank :
    ¬(execute .unrouted "http://u@h/ " ⟨"/admin", "Dashboard HTML"⟩).EndsUnbuilt := by
  have hu : Url.parse "http://u@h/ /admin" =
      .ok ⟨"http", "u", "", some (.domain "h"), none, .segments ["%20", "admin"], none, none⟩ := by
    decide +kernel
  have hs : Http.IsSendable ⟨"http", "", "", some (.domain "h"), none,
      .segments ["%20", "admin"], none, none⟩ :=
    ⟨by decide +kernel, Text.forall_mem_of_all (by decide +kernel)⟩
  have ht : ofAddress "http://u@h/ " = .ok ⟨"http://u@h/ ", Probe.standard⟩ := by decide +kernel
  have hm : ⟨"/admin", "Dashboard HTML"⟩ ∈ Probe.standard := by decide
  rw [(ofAddress_usable ht hm).2]
  rintro (ht | ⟨v, hv, hn⟩)
  · exact absurd ht (by decide +kernel)
  · have he : Url.parse "http://u@h/ /admin" = .ok v := hv
    rw [hu] at he
    cases he
    exact hn hs

-- A blank behind a host does not count there, before a path it is part of the host. Some hosts
-- can be read but no request can spell them.
theorem ofAddress_unusable :
    (ofAddress "http://h " = .ok ⟨"http://h ", Probe.standard⟩ ∧
      ∀ probe ∈ Probe.standard, Url.parse (probe.url "http://h ") = .error .invalidDomain ∧
        (execute .unrouted "http://h " probe).result =
          .ok (.exception "builder error: invalid international domain name")) ∧
    (ofAddress "http://a\x7bb" = .ok ⟨"http://a\x7bb", Probe.standard⟩ ∧
      ∀ probe ∈ Probe.standard, (execute .unrouted "http://a\x7bb" probe).EndsUnbuilt) := by
  refine ⟨⟨by decide +kernel, fun probe hm => ?_⟩, by decide +kernel, fun probe hm => ?_⟩
  · have hp : Url.parse (probe.url "http://h ") = .error .invalidDomain := by
      revert probe
      decide +kernel
    refine ⟨hp, ?_⟩
    have hr : Http.requestUrl (probe.url "http://h ") = .error (.unparsable .invalidDomain) := by
      rw [Http.requestUrl, hp]
    rw [execute, Http.fetch, hr]
    rfl
  · have hp : ∃ path, Url.parse (probe.url "http://a\x7bb") =
        .ok ⟨"http", "", "", some (.domain "a\x7bb"), none, .segments path, none, none⟩ := by
      simp only [Probe.standard, List.mem_cons, List.not_mem_nil, or_false] at hm
      obtain rfl | rfl | rfl | rfl := hm
      · exact ⟨["admin", "health"], by decide +kernel⟩
      · exact ⟨["admin", "keys"], by decide +kernel⟩
      · exact ⟨["admin", "model-stats"], by decide +kernel⟩
      · exact ⟨["admin"], by decide +kernel⟩
    obtain ⟨path, hp⟩ := hp
    rw [execute_endsUnbuilt_iff, Http.exists_opening_iff hp rfl]
    intro hs
    have hn := hs.spelled '\x7b' (show '\x7b' ∈ "a\x7bb".toList by decide +kernel)
    exact hn (by decide)

-- A web address that was read has a host, so nothing is left to object to when the scheme is one
-- of the web.
theorem validate_of_isWeb [Url.Idna] {address : String} {u : Url} (h : Url.parse address = .ok u)
    (hw : u.isWeb = true) : validate address = .ok () := by
  obtain ⟨host, hh, -⟩ := (Url.formed_of_parse h hw).host
  simp [validate, h, hw, hh]

theorem validate_of_not_isWeb [Url.Idna] {address : String} {u : Url}
    (h : Url.parse address = .ok u) (hw : u.isWeb = false) :
    validate address =
      .error (.invalid addressKey ("unsupported scheme '" ++ u.scheme ++ "'")) := by
  simp [validate, h, hw]

theorem validate_of_error [Url.Idna] {address : String} {why : Url.Error}
    (h : Url.parse address = .error why) :
    validate address = .error (.unparsable addressKey address why.message) := by
  simp [validate, h]

-- Whatever is read as a web address names a host. So an address is accepted as it was given, or
-- it cannot be read, or its scheme is not one of the web; there is no fourth result.
theorem ofAddress_concludes [Url.Idna] (address : String) :
    (∀ u, Url.parse address = .ok u → u.scheme = "http" ∨ u.scheme = "https" →
      ∃ host, u.host = some host ∧ host.text ≠ "") ∧
    ((∃ u, Url.parse address = .ok u ∧ (u.scheme = "http" ∨ u.scheme = "https") ∧
        ofAddress address = .ok ⟨address, Probe.standard⟩) ∨
      (∃ why, Url.parse address = .error why ∧
        ofAddress address = .error (.unparsable addressKey address why.message)) ∨
      ∃ u, Url.parse address = .ok u ∧ ¬(u.scheme = "http" ∨ u.scheme = "https") ∧
        ofAddress address =
          .error (.invalid addressKey ("unsupported scheme '" ++ u.scheme ++ "'"))) := by
  have hweb (u : Url) : u.isWeb = true ↔ u.scheme = "http" ∨ u.scheme = "https" := by
    simp [Url.isWeb]
  constructor
  · intro u hu hs
    obtain ⟨host, hh, hwire⟩ := (Url.formed_of_parse hu ((hweb u).2 hs)).host
    exact ⟨host, hh, hwire.text_ne_empty⟩
  · cases hp : Url.parse address with
    | error why =>
        refine .inr (.inl ⟨why, rfl, ?_⟩)
        rw [ofAddress, validate_of_error hp]
        rfl
    | ok u =>
        cases hw : u.isWeb with
        | true =>
            refine .inl ⟨u, rfl, (hweb u).1 hw, ?_⟩
            rw [ofAddress, validate_of_isWeb hp hw]
            rfl
        | false =>
            refine .inr (.inr ⟨u, rfl, fun hs => ?_, ?_⟩)
            · rw [(hweb u).2 hs] at hw
              cases hw
            · rw [ofAddress, validate_of_not_isWeb hp hw]
              rfl

-- An address without a host is not read at all, whatever stands around the place of the host.
example :
    ofAddress "http:\\\\u:p@:80/" =
      .error (.unparsable addressKey "http:\\\\u:p@:80/" "empty host") := by
  decide +kernel

end Target

end ProbeReport
