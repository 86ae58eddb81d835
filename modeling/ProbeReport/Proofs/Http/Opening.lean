import ProbeReport.Proofs.Http.Course
import ProbeReport.Proofs.Http.Credentials

-- The whole way from an address to what comes of asking for it.
namespace ProbeReport.Http

-- The request that is made first, if one can be made for an address.
structure Opening [Url.Idna] (address : String) (first : Hop) : Prop where
  origin : ∃ u, Url.parse address = .ok u ∧
    (u.ShedsUserinfo → first.url = u.withoutUserinfo) ∧ (¬u.ShedsUserinfo → first.url = u) ∧
    first.authorization = (Credentials.ofUrl? u).map Credentials.header
  hasHost : first.url.hasHost = true
  isWeb : first.url.isWeb = true
  carried : RequestLine.carries first.url = true

-- A failure to make a request at all. It is known before anything is sent.
def Failure.isUnbuilt : Failure → Bool
  | .unparsable _ | .foreignScheme _ | .unsendable _ => true
  | _ => false

theorem Failure.ne_abandoned (failure : Failure) (h : failure.isUnbuilt = true)
    (causes : Causes) : failure ≠ .abandoned causes := by
  rintro rfl
  cases h

section FirstHop

variable (u : Url)

theorem hasHost_firstHop : (firstHop u).url.hasHost = u.hasHost := by
  rw [firstHop]
  split <;> rfl

theorem scheme_firstHop : (firstHop u).url.scheme = u.scheme := by
  rw [firstHop]
  split <;> rfl

theorem authorization_firstHop :
    (firstHop u).authorization = (Credentials.ofUrl? u).map Credentials.header := by
  rw [firstHop]
  split
  · rename_i h
    rw [h]
    rfl
  · rename_i h
    rw [h]
    rfl

theorem firstHop_eq_iff {first : Hop} :
    first = firstHop u ↔
      (u.ShedsUserinfo → first.url = u.withoutUserinfo) ∧ (¬u.ShedsUserinfo → first.url = u) ∧
        first.authorization = (Credentials.ofUrl? u).map Credentials.header := by
  obtain ⟨hs, hk⟩ := firstHop_url u
  constructor
  · rintro rfl
    exact ⟨hs, hk, authorization_firstHop u⟩
  · rintro ⟨hs', hk', ha⟩
    rw [← authorization_firstHop] at ha
    have hu : first.url = (firstHop u).url := by
      by_cases h : u.ShedsUserinfo
      · rw [hs' h, hs h]
      · rw [hk' h, hk h]
    calc first = ⟨first.url, first.authorization⟩ := rfl
      _ = firstHop u := by rw [hu, ha]

end FirstHop

section Fetch

variable [Url.Idna] {network : Network} {address : String}

theorem requestUrl_eq_ok_iff {u : Url} :
    requestUrl address = .ok u ↔ Url.parse address = .ok u ∧ u.hasHost = true := by
  rw [requestUrl]
  cases Url.parse address with
  | error why => simp
  | ok v =>
      dsimp only
      constructor
      · intro h
        split at h
        · rename_i hh
          cases h
          exact ⟨rfl, hh⟩
        · cases h
      · rintro ⟨h, hh⟩
        cases h
        exact if_pos hh

theorem opening_iff {first : Hop} :
    Opening address first ↔
      ∃ u, requestUrl address = .ok u ∧ first = firstHop u ∧ first.url.isWeb = true ∧
        RequestLine.carries first.url = true := by
  constructor
  · rintro ⟨⟨u, hu, hf⟩, hh, hw, hc⟩
    have hf := (firstHop_eq_iff u).2 hf
    rw [hf, hasHost_firstHop] at hh
    exact ⟨u, requestUrl_eq_ok_iff.2 ⟨hu, hh⟩, hf, hw, hc⟩
  · rintro ⟨u, hu, rfl, hw, hc⟩
    obtain ⟨hu, hh⟩ := requestUrl_eq_ok_iff.1 hu
    exact ⟨⟨u, hu, (firstHop_eq_iff u).1 rfl⟩, by rw [hasHost_firstHop, hh], hw, hc⟩

theorem isUnbuilt_of_requestUrl {failure : Failure} (h : requestUrl address = .error failure) :
    failure.isUnbuilt = true := by
  rw [requestUrl] at h
  split at h
  · cases h
    rfl
  · split at h
    · cases h
    · cases h
      rfl

theorem fetch_of_opening {first : Hop} (h : Opening address first) :
    fetch network address =
      Fetched.follow network first.url.text network.client.patience [] first := by
  obtain ⟨u, hu, rfl, hw, hc⟩ := opening_iff.1 h
  rw [fetch, hu]
  simp only [hw, hc, Bool.not_true, Bool.false_eq_true, if_false]

-- Without a request to make it does not matter who could be asked.
theorem fetch_of_not_opening (h : ∀ first, ¬Opening address first) :
    ∃ failure : Failure, failure.isUnbuilt = true ∧
      ∀ network, fetch network address = .fail failure := by
  cases hu : requestUrl address with
  | error failure =>
      refine ⟨failure, isUnbuilt_of_requestUrl hu, fun network => ?_⟩
      rw [fetch, hu]
  | ok u =>
      cases hw : (firstHop u).url.isWeb with
      | false =>
          refine ⟨.foreignScheme (firstHop u).url.text, rfl, fun network => ?_⟩
          simp [fetch, hu, hw]
      | true =>
          cases hc : RequestLine.carries (firstHop u).url with
          | false =>
              refine ⟨.unsendable (firstHop u).url.text, rfl, fun network => ?_⟩
              simp [fetch, hu, hw, hc]
          | true => exact absurd (opening_iff.2 ⟨u, hu, rfl, hw, hc⟩) (h _)

theorem fetch_of_course {first : Hop} {hops : List Hop} {result : Except Failure Answer}
    (hon : network.IsOn) (ho : Opening address first)
    (hc : Course network first.url.text network.client.patience [] first hops result) :
    fetch network address = ⟨hops.map Hop.request, result⟩ := by
  rw [fetch_of_opening ho, follow_of_course hon hc]

-- An address that no request can be made for, a network without anybody in it, or a course.
theorem fetch_cases (network : Network) (address : String) :
    (∀ first, ¬Opening address first) ∨
      (∃ first, Opening address first ∧ ¬network.IsOn) ∨
      ∃ first hops result, Opening address first ∧ network.IsOn ∧
        Course network first.url.text network.client.patience [] first hops result := by
  by_cases hn : ∃ first, Opening address first
  · obtain ⟨first, ho⟩ := hn
    by_cases hon : network.IsOn
    · obtain ⟨hops, result, hc⟩ :=
        exists_course network first.url.text network.client.patience [] first
      exact .inr (.inr ⟨first, hops, result, ho, hon, hc⟩)
    · exact .inr (.inl ⟨first, ho, hon⟩)
  · exact .inl (not_exists.1 hn)

end Fetch

-- Without anybody to ask nothing is asked.
theorem follow_off {network : Network} (hoff : ¬network.IsOn) (asked : String) (left : Nat)
    (trail : List Hop) (hop : Hop) :
    ∃ failure, Fetched.follow network asked left trail hop = .fail failure ∧
      failure.isUnbuilt = false ∧ ∀ causes, failure ≠ .abandoned causes := by
  rw [Fetched.follow.eq_def]
  cases hr : network.isRouted with
  | false => exact ⟨_, rfl, rfl, by simp⟩
  | true =>
      have hl : network.isListening = false := by simpa [hr] using isOff_iff.1 hoff
      rw [hl]
      exact ⟨_, rfl, rfl, by simp⟩

end ProbeReport.Http
