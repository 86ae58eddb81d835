import ProbeReport.Proofs.Http.Opening
import ProbeReport.Run

-- Two networks that answer alike what is asked for cannot be told apart by asking for it.
namespace ProbeReport

namespace Http

-- Both servers are asked by the same client, and both can be reached, or neither can, and for the
-- same reason. Whether anybody listens is only known where a way leads.
structure ReachedAlike (network other : Network) : Prop where
  client : other.client = network.client
  isRouted : other.isRouted = network.isRouted
  isListening : network.isRouted = true → other.isListening = network.isListening

-- What is asked for gets the same reply. A request for a tunnel asks for none.
def AnsweredAlike (network other : Network) (requests : List Request) : Prop :=
  ∀ r ∈ requests, r.method = .get → other.dashboard r.target = network.dashboard r.target

section Follow

variable {network other : Network} {asked : String} {left : Nat} {trail hops : List Hop} {hop : Hop}
  {result : Except Failure Answer}

theorem ReachedAlike.isOn (h : ReachedAlike network other) (hon : network.IsOn) : other.IsOn :=
  ⟨h.isRouted.trans hon.1, (h.isListening hon.1).trans hon.2⟩

theorem request_of_plain (ht : hop.url.scheme ≠ "https") :
    hop.request = ⟨.get, hop.url.requestText, hop.authorization⟩ := if_neg ht

theorem AnsweredAlike.replyTo_eq (h : AnsweredAlike network other (hops.map Hop.request))
    (hm : hop ∈ hops) (ht : hop.url.scheme ≠ "https") :
    other.replyTo hop = network.replyTo hop := by
  have hr := h hop.request (List.mem_map_of_mem hm)
  rw [request_of_plain ht] at hr
  exact hr rfl

theorem ends_congr (hclient : other.client = network.client)
    (hreply : hop.url.scheme ≠ "https" → other.replyTo hop = network.replyTo hop)
    (h : Ends network asked left trail hop result) : Ends other asked left trail hop result := by
  by_cases ht : hop.url.scheme = "https"
  · cases h with
    | answered ha | cutShort ha | abandoned ha => exact absurd ht ha.1
    | broken hn => exact absurd ht hn
    | tunnel => exact .tunnel ht
  · have hr := hreply ht
    have hanswers : network.Answers hop → other.Answers hop := by
      rw [Network.Answers, Network.Answers, hr]
      exact id
    cases h with
    | answered ha hm hb =>
        rw [← hr]
        exact .answered (hanswers ha) (by rw [hclient, hr]; exact hm) (by rw [hr]; exact hb)
    | cutShort ha hm hb =>
        exact .cutShort (hanswers ha) (by rw [hclient, hr]; exact hm) (by rw [hr]; exact hb)
    | broken hn hb hin => exact .broken hn (by rw [hr]; exact hb) hin
    | tunnel ht' => exact .tunnel ht'
    | abandoned ha hm => exact .abandoned (hanswers ha) (by rw [hclient, hr]; exact hm)

-- By induction on the course: each reply is the same, so the client makes the same of it, and all
-- that is asked from there on is asked here too.
theorem course_congr (hclient : other.client = network.client)
    (hc : Course network asked left trail hop hops result)
    (h : AnsweredAlike network other (hops.map Hop.request)) :
    Course other asked left trail hop hops result := by
  induction hc with
  | last he =>
      exact .last (ends_congr hclient (h.replyTo_eq (List.mem_singleton_self _)) he)
  | @step left trail hops hop next result ha _ ih =>
      have hr := h.replyTo_eq List.mem_cons_self ha.answers.1
      refine .step ⟨?_, ?_⟩ (ih fun r hm => h r (List.mem_cons_of_mem _ hm))
      · rw [Network.Answers, hr]
        exact ha.answers
      · rw [hclient, hr]
        exact ha.heeds

theorem follow_congr_of_off (hoff : ¬network.IsOn) (h : ReachedAlike network other) (asked : String)
    (left : Nat) (trail : List Hop) (hop : Hop) :
    Fetched.follow other asked left trail hop = Fetched.follow network asked left trail hop := by
  rw [Fetched.follow.eq_def, Fetched.follow.eq_def, h.isRouted]
  cases hr : network.isRouted with
  | false => rfl
  | true =>
      have hl : network.isListening = false := by simpa [hr] using isOff_iff.1 hoff
      rw [h.isListening hr, hl]
      rfl

end Follow

section Fetch

variable [Url.Idna] {network other : Network}

-- When no request can be made of the address, the networks do not matter.
theorem fetch_congr {address : String}
    (hreach : ∀ first, Opening address first → ReachedAlike network other)
    (h : AnsweredAlike network other (fetch network address).requests) :
    fetch other address = fetch network address := by
  obtain hn | ⟨first, ho, hoff⟩ | ⟨first, hops, result, ho, hon, hc⟩ := fetch_cases network address
  · obtain ⟨failure, -, hf⟩ := fetch_of_not_opening hn
    rw [hf, hf]
  · have halike := hreach first ho
    rw [fetch_of_opening ho, fetch_of_opening ho, halike.client, follow_congr_of_off hoff halike]
  · have halike := hreach first ho
    rw [fetch_of_course hon ho hc] at h ⊢
    have hother := course_congr halike.client hc h
    rw [← halike.client] at hother
    exact fetch_of_course (halike.isOn hon) ho hother

end Fetch

end Http

theorem execute_congr [Url.Idna] [Text.Decoders] {network other : Http.Network}
    {address : String} {probe : Probe}
    (hreach : ∀ first, Http.Opening (probe.url address) first → Http.ReachedAlike network other)
    (h : Http.AnsweredAlike network other (execute network address probe).requests) :
    execute other address probe = execute network address probe := by
  rw [execute, Http.fetch_congr hreach h, ← execute]

end ProbeReport
