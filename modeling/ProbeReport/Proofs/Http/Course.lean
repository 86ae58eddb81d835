import ProbeReport.Http.Fetch

-- What becomes of a request, told without the loop that makes one after another. The client says
-- what it makes of each answer.
namespace ProbeReport.Http

-- What the server replies to a request.
abbrev Network.replyTo (network : Network) (hop : Hop) : Reply :=
  network.dashboard hop.url.requestText

-- The head of an answer arrives. Its body may still be broken.
def Network.Answers (network : Network) (hop : Hop) : Prop :=
  hop.url.scheme ≠ "https" ∧ ∀ b ∈ (network.replyTo hop).breakage, b.inBody = true

-- The answer makes the client ask somewhere else, when one more request is left. What is told
-- within a tunnel is never seen.
structure Asks (network : Network) (left : Nat) (trail : List Hop) (hop next : Hop) : Prop where
  answers : network.Answers hop
  heeds : network.client.heed (left + 1) (hop :: trail) (network.replyTo hop).answer = .ask next

-- How it ends with a request.
inductive Ends (network : Network) (asked : String) (left : Nat) (trail : List Hop) (hop : Hop) :
    Except Failure Answer → Prop where
  | answered :
      network.Answers hop →
      network.client.heed left (hop :: trail) (network.replyTo hop).answer = .take →
      (network.replyTo hop).breakage = none →
      Ends network asked left trail hop (.ok (network.replyTo hop).answer)
  | cutShort {breakage : Breakage} :
      network.Answers hop →
      network.client.heed left (hop :: trail) (network.replyTo hop).answer = .take →
      (network.replyTo hop).breakage = some breakage →
      Ends network asked left trail hop (.error (.broken asked breakage))
  | broken {breakage : Breakage} :
      hop.url.scheme ≠ "https" → (network.replyTo hop).breakage = some breakage →
      breakage.inBody = false →
      Ends network asked left trail hop (.error (.broken asked breakage))
  | tunnel :
      hop.url.scheme = "https" → Ends network asked left trail hop (.error (.tunnelRejected asked))
  | abandoned {causes : Causes} :
      network.Answers hop →
      network.client.heed left (hop :: trail) (network.replyTo hop).answer = .giveUp causes →
      Ends network asked left trail hop (.error (.abandoned causes))

-- The requests from one on, each made of the answer to the one before it, and how it ends.
inductive Course (network : Network) (asked : String) :
    Nat → List Hop → Hop → List Hop → Except Failure Answer → Prop where
  | last {left : Nat} {trail : List Hop} {hop : Hop} {result : Except Failure Answer} :
      Ends network asked left trail hop result →
      Course network asked left trail hop [hop] result
  | step {left : Nat} {trail hops : List Hop} {hop next : Hop} {result : Except Failure Answer} :
      Asks network left trail hop next → Course network asked left (hop :: trail) next hops result →
      Course network asked (left + 1) trail hop (hop :: hops) result

section Follow

variable {network : Network} {asked : String} {left : Nat} {trail hops : List Hop} {hop : Hop}
  {result : Except Failure Answer}

-- Somebody can be asked.
def Network.IsOn (network : Network) : Prop :=
  network.isRouted = true ∧ network.isListening = true

instance (network : Network) : Decidable network.IsOn := inferInstanceAs (Decidable (_ ∧ _))

theorem isOff_iff : ¬network.IsOn ↔ network.isRouted = false ∨ network.isListening = false := by
  rw [Network.IsOn]
  cases network.isRouted <;> simp

theorem answers_iff :
    network.Answers hop ↔
      ¬hop.url.scheme = "https" ∧ (network.replyTo hop).breakage.filter (!·.inBody) = none := by
  rw [Network.Answers, Option.filter_eq_none_iff]
  simp

-- Once there is an answer, the client says how it goes on.
theorem follow_of_answers (hon : network.IsOn) (ha : network.Answers hop) :
    Fetched.follow network asked left trail hop =
      match left, network.client.heed left (hop :: trail) (network.replyTo hop).answer with
      | _, .take =>
        match (network.replyTo hop).breakage with
        | some breakage => ⟨[hop.request], .error (.broken asked breakage)⟩
        | none => ⟨[hop.request], .ok (network.replyTo hop).answer⟩
      | _, .giveUp causes => ⟨[hop.request], .error (.abandoned causes)⟩
      | left + 1, .ask next =>
        let rest := Fetched.follow network asked left (hop :: trail) next
        ⟨hop.request :: rest.requests, rest.result⟩ := by
  obtain ⟨ht, hf⟩ := answers_iff.1 ha
  rw [Fetched.follow.eq_def]
  simp only [hon.1, hon.2, ht, Bool.not_true, Bool.false_eq_true, if_false]
  generalize (network.dashboard hop.url.requestText).breakage.filter (!·.inBody) = early at hf ⊢
  subst hf
  rfl

-- Where it ends, following stops with the same result.
theorem follow_of_ends (hon : network.IsOn) (h : Ends network asked left trail hop result) :
    Fetched.follow network asked left trail hop = ⟨[hop.request], result⟩ := by
  cases h with
  | answered ha hm hb => rw [follow_of_answers hon ha, hm, hb]
  | cutShort ha hm hb => rw [follow_of_answers hon ha, hm, hb]
  | broken ht hb hin =>
      rw [Fetched.follow.eq_def]
      simp [hon.1, hon.2, ht, hb, hin, Option.filter]
  | tunnel ht =>
      rw [Fetched.follow.eq_def]
      simp [hon.1, hon.2, ht]
  | abandoned ha hm => rw [follow_of_answers hon ha, hm]

theorem follow_of_asks {next : Hop} (hon : network.IsOn) (h : Asks network left trail hop next) :
    Fetched.follow network asked (left + 1) trail hop =
      ⟨hop.request :: (Fetched.follow network asked left (hop :: trail) next).requests,
        (Fetched.follow network asked left (hop :: trail) next).result⟩ := by
  rw [follow_of_answers hon h.answers, h.heeds]

-- Whoever takes a course makes its requests. By induction on the course: each of its hops is
-- where following goes on.
theorem follow_of_course (hon : network.IsOn)
    (h : Course network asked left trail hop hops result) :
    Fetched.follow network asked left trail hop = ⟨hops.map Hop.request, result⟩ := by
  induction h with
  | last h => exact follow_of_ends hon h
  | step h _ ih => rw [follow_of_asks hon h, ih, List.map_cons]

-- One turn: either it ends here, or one more request is made.
theorem ends_or_asks (network : Network) (asked : String) (left : Nat) (trail : List Hop)
    (hop : Hop) :
    (∃ result, Ends network asked left trail hop result) ∨
      ∃ less next, left = less + 1 ∧ Asks network less trail hop next := by
  by_cases ht : hop.url.scheme = "https"
  · exact .inl ⟨_, .tunnel ht⟩
  by_cases ha : network.Answers hop
  · cases hm : network.client.heed left (hop :: trail) (network.replyTo hop).answer with
    | take =>
        cases hb : (network.replyTo hop).breakage with
        | none => exact .inl ⟨_, .answered ha hm hb⟩
        | some breakage => exact .inl ⟨_, .cutShort ha hm hb⟩
    | giveUp causes => exact .inl ⟨_, .abandoned ha hm⟩
    | @ask less next => exact .inr ⟨less, next, rfl, ha, hm⟩
  · rw [Network.Answers, and_iff_right ht] at ha
    obtain ⟨breakage, hb, hin⟩ : ∃ b ∈ (network.replyTo hop).breakage, b.inBody = false := by
      simpa using ha
    exact .inl ⟨_, .broken ht hb hin⟩

-- Each request begins a course, by induction on how many more are left.
theorem exists_course (network : Network) (asked : String) (left : Nat) (trail : List Hop)
    (hop : Hop) : ∃ hops result, Course network asked left trail hop hops result := by
  induction left generalizing trail hop with
  | zero =>
      obtain ⟨result, he⟩ | ⟨less, next, hs, -⟩ := ends_or_asks network asked 0 trail hop
      · exact ⟨_, result, .last he⟩
      · cases hs
  | succ left ih =>
      obtain ⟨result, he⟩ | ⟨less, next, hs, ha⟩ := ends_or_asks network asked (left + 1) trail hop
      · exact ⟨_, result, .last he⟩
      · cases hs
        obtain ⟨hops, result, hc⟩ := ih (hop :: trail) next
        exact ⟨_, result, .step ha hc⟩

theorem Course.head (h : Course network asked left trail hop hops result) :
    hops.head? = some hop := by
  cases h <;> rfl

end Follow

end ProbeReport.Http
