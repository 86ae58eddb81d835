import ProbeReport.Proofs.Http.Opening

-- When an answer arrives, and when none does.
namespace ProbeReport.Http

variable [Url.Idna]

-- Somebody can be asked, and an answer comes in the end, with all of its body.
structure Brings (network : Network) (address : String) (a : Answer) : Prop where
  isRouted : network.isRouted = true
  isListening : network.isListening = true
  course : ∃ first hops, Opening address first ∧
    Course network first.url.text network.client.patience [] first hops (.ok a)

-- No answer comes, since no request can be made of the address, nobody can be asked, or asking
-- breaks off: in a tunnel, before the head of an answer or within its body, or where the client
-- does not go on.
inductive Fails (network : Network) (address : String) : Prop where
  | unusable : (∀ first, ¬Opening address first) → Fails network address
  | unreached {first : Hop} :
      Opening address first → network.isRouted = false ∨ network.isListening = false →
      Fails network address
  | broken {first : Hop} {hops : List Hop} {failure : Failure} :
      Opening address first → network.isRouted = true → network.isListening = true →
      Course network first.url.text network.client.patience [] first hops (.error failure) →
      Fails network address

variable {network : Network} {address : String} {a : Answer}

-- What is got is an answer that comes, or nothing comes.
theorem brings_or_fails (network : Network) (address : String) :
    (∃ a, (fetch network address).result = .ok a ∧ Brings network address a) ∨
      ∃ failure, (fetch network address).result = .error failure ∧ Fails network address := by
  obtain hn | ⟨first, ho, hoff⟩ | ⟨first, hops, result, ho, hon, hc⟩ := fetch_cases network address
  · obtain ⟨failure, -, hf⟩ := fetch_of_not_opening hn
    rw [hf]
    exact .inr ⟨failure, rfl, .unusable hn⟩
  · obtain ⟨failure, hf, -⟩ := follow_off hoff first.url.text network.client.patience [] first
    rw [fetch_of_opening ho, hf]
    exact .inr ⟨failure, rfl, .unreached ho (isOff_iff.1 hoff)⟩
  · rw [fetch_of_course hon ho hc]
    cases result with
    | ok a => exact .inl ⟨a, rfl, hon.1, hon.2, first, hops, ho, hc⟩
    | error failure => exact .inr ⟨failure, rfl, .broken ho hon.1 hon.2 hc⟩

theorem fetch_eq_ok_iff : (fetch network address).result = .ok a ↔ Brings network address a := by
  constructor
  · intro h
    obtain ⟨b, hb, hbrings⟩ | ⟨failure, hf, -⟩ := brings_or_fails network address
    · cases hb.symm.trans h
      exact hbrings
    · cases hf.symm.trans h
  · rintro ⟨hr, hl, first, hops, ho, hc⟩
    rw [fetch_of_course ⟨hr, hl⟩ ho hc]

theorem fetch_eq_error_iff :
    (∃ failure, (fetch network address).result = .error failure) ↔ Fails network address := by
  constructor
  · rintro ⟨failure, h⟩
    obtain ⟨b, hb, -⟩ | ⟨-, -, hfails⟩ := brings_or_fails network address
    · cases hb.symm.trans h
    · exact hfails
  · intro h
    obtain ⟨a, -, hr, hl, first, hops, ho, hc⟩ | ⟨failure, hf, -⟩ := brings_or_fails network address
    · cases h with
      | unusable hn => exact absurd ho (hn first)
      | unreached _ hoff => exact absurd ⟨hr, hl⟩ (isOff_iff.2 hoff)
      | broken ho' _ _ hc' =>
          rw [fetch_of_course ⟨hr, hl⟩ ho' hc']
          exact ⟨_, rfl⟩
    · exact ⟨failure, hf⟩

end ProbeReport.Http
