import ProbeReport.Proofs.Http.Opening
import ProbeReport.Proofs.Http.Redirects
import ProbeReport.Proofs.Url.Mapping
import ProbeReport.Run
import ProbeReport.StandIns

-- The addresses that a client visits that follows redirects as it is documented.
namespace ProbeReport

namespace Http

section Visits

variable (usable? : Url → List UInt8 → Option Url) (network : Network)

-- The answer to a request for one address redirects to another. Its body does not matter, so
-- it may be broken.
structure Forwards (u v : Url) : Prop where
  intact : ∀ b ∈ (network.dashboard u.requestText).breakage, b.inBody = true
  redirects : (network.dashboard u.requestText).answer.Redirects usable? u v

-- How it ends at an address when so many more could be asked for.
inductive Rests (asked : String) (room : Nat) (last : Url) : Except Failure Answer → Prop where
  | answered :
      last.scheme ≠ "https" → (∀ v, ¬Forwards usable? network last v) →
      (network.dashboard last.requestText).breakage = none →
      Rests asked room last (.ok (network.dashboard last.requestText).answer)
  | broken {breakage : Breakage} :
      last.scheme ≠ "https" → (∀ v, ¬Forwards usable? network last v) →
      (network.dashboard last.requestText).breakage = some breakage →
      Rests asked room last (.error (.broken asked breakage))
  | tunnel :
      last.scheme = "https" → Rests asked room last (.error (.tunnelRejected asked))
  | foreign {v : Url} {causes : Causes} :
      last.scheme ≠ "https" → Forwards usable? network last v → v.isWeb = false → room ≠ 0 →
      Rests asked room last (.error (.abandoned causes))
  | tooMany {v : Url} {causes : Causes} :
      last.scheme ≠ "https" → Forwards usable? network last v → room = 0 →
      Rests asked room last (.error (.abandoned causes))

variable [Url.Idna]

-- A redirect that is followed. What is told within a tunnel is never seen.
structure Leads (u v : Url) : Prop where
  plain : u.scheme ≠ "https"
  forwards : Forwards usable? network u v
  resolves : ∃ value, (network.dashboard u.requestText).answer.location = some value ∧
    Resolves u value v
  isWeb : v.isWeb = true

-- The addresses that are asked for one after another, so many at most, and how it ends.
structure Pursuit (asked : String) (limit : Nat) (first : Url) (hops : List Url)
    (result : Except Failure Answer) : Prop where
  head : hops.head? = some first
  links : hops.IsChain (Leads usable? network)
  within : hops.length ≤ limit
  rests : ∃ last ∈ hops.getLast?, Rests usable? network asked (limit - hops.length) last result

-- The addresses that are asked for, none at all when there is no first one or no way to it.
inductive Visit (address : String) : List Url → Except Failure Answer → Prop where
  | unusable {failure : Failure} :
      (∀ first, ¬Opening address first) → Visit address [] (.error failure)
  | unreached {failure : Failure} :
      network.isRouted = false ∨ network.isListening = false → Visit address [] (.error failure)
  | made {first : Hop} {hops : List Url} {result : Except Failure Answer} :
      Opening address first → Pursuit usable? network first.url.text 11 first.url hops result →
      Visit address hops result

end Visits

-- What the request for an address asks for. One for a secure address only asks for a tunnel.
def recordOf (u : Url) : Method × String :=
  if u.scheme = "https" then (.connect, Hop.peer u) else (.get, u.requestText)

theorem recordOf_url (hop : Hop) : (hop.request.method, hop.request.target) = recordOf hop.url := by
  rw [Hop.request, recordOf]
  split <;> rfl

section Pursuit

variable [Url.Idna] {usable? : Url → List UInt8 → Option Url} {network : Network} {asked : String}
  {left : Nat} {trail : List Hop} {hop : Hop} {v : Url}

theorem heed_ne_take {a : Answer} (h : network.client.FollowsLocations usable?)
    (hr : a.Redirects usable? hop.url v) :
    network.client.heed left (hop :: trail) a ≠ .take := by
  cases left with
  | zero =>
      obtain ⟨causes, hm⟩ := h.tires trail hr
      simp [hm]
  | succ left =>
      cases hw : v.isWeb with
      | true =>
          obtain ⟨authorization, hm⟩ := h.asks left trail hr hw
          simp [hm]
      | false =>
          obtain ⟨causes, hm⟩ := h.refuses (left + 1) trail hr hw
          simp [hm]

theorem not_forwards_of_take (h : network.client.FollowsLocations usable?)
    (hm : network.client.heed left (hop :: trail) (network.replyTo hop).answer = .take) (v : Url) :
    ¬Forwards usable? network hop.url v :=
  fun hf => heed_ne_take h hf.redirects hm

-- An answer that is not taken redirects.
theorem exists_forwards (h : network.client.FollowsLocations usable?) (ha : network.Answers hop)
    (hm : network.client.heed left (hop :: trail) (network.replyTo hop).answer ≠ .take) :
    ∃ v, Forwards usable? network hop.url v := by
  by_contra hn
  exact hm (h.takes left trail fun v hr => hn ⟨v, ha.2, hr⟩)

theorem rests_of_ends {result : Except Failure Answer}
    (h : network.client.FollowsLocations usable?) (he : Ends network asked left trail hop result) :
    Rests usable? network asked left hop.url result := by
  cases he with
  | answered ha hm hb => exact .answered ha.1 (not_forwards_of_take h hm) hb
  | cutShort ha hm hb => exact .broken ha.1 (not_forwards_of_take h hm) hb
  | @broken breakage ht hb hin =>
      refine .broken ht (fun v hf => ?_) hb
      rw [hf.intact breakage hb] at hin
      cases hin
  | tunnel ht => exact .tunnel ht
  | abandoned ha hm =>
      obtain ⟨v, hf⟩ := exists_forwards h ha fun ht => by cases hm.symm.trans ht
      cases left with
      | zero => exact .tooMany ha.1 hf rfl
      | succ left =>
          refine .foreign ha.1 hf ?_ (Nat.succ_ne_zero left)
          rw [Bool.eq_false_iff]
          intro hw
          obtain ⟨authorization, hm'⟩ := h.asks left trail hf.redirects hw
          cases hm'.symm.trans hm

theorem leads_of_asks {next : Hop} (h : network.client.FollowsLocations usable?)
    (ha : Asks network left trail hop next) : Leads usable? network hop.url next.url := by
  obtain ⟨v, hf⟩ := exists_forwards h ha.answers fun ht => by cases ha.heeds.symm.trans ht
  obtain ⟨value, hl, hv⟩ := hf.redirects.location
  cases hw : v.isWeb with
  | true =>
      obtain ⟨authorization, hm⟩ := h.asks left trail hf.redirects hw
      cases hm.symm.trans ha.heeds
      exact ⟨ha.answers.1, hf, ⟨value, hl, h.resolves hv⟩, hw⟩
  | false =>
      obtain ⟨causes, hm⟩ := h.refuses (left + 1) trail hf.redirects hw
      cases hm.symm.trans ha.heeds

theorem Pursuit.single {u : Url} {limit : Nat} {result : Except Failure Answer}
    (h : Rests usable? network asked limit u result) :
    Pursuit usable? network asked (limit + 1) u [u] result :=
  ⟨rfl, .singleton u, Nat.le_add_left 1 limit, u, rfl, h⟩

theorem Pursuit.cons {u : Url} {limit : Nat} {hops : List Url} {result : Except Failure Answer}
    (hl : Leads usable? network u v) (h : Pursuit usable? network asked limit v hops result) :
    Pursuit usable? network asked (limit + 1) u (u :: hops) result := by
  obtain ⟨head, links, within, last, hlast, rests⟩ := h
  obtain ⟨rest, rfl⟩ := List.head?_eq_some_iff.1 head
  refine ⟨rfl, .cons_cons hl links, Nat.succ_le_succ within, last, ?_, ?_⟩
  · rw [List.getLast?_cons_cons]
    exact hlast
  · rw [List.length_cons (a := u), Nat.add_sub_add_right]
    exact rests

-- The addresses on a course make a pursuit, by induction on the course.
theorem pursuit_of_course {hops : List Hop} {result : Except Failure Answer}
    (h : network.client.FollowsLocations usable?)
    (hc : Course network asked left trail hop hops result) :
    Pursuit usable? network asked (left + 1) hop.url (hops.map Hop.url) result := by
  induction hc with
  | last he => exact .single (rests_of_ends h he)
  | step ha _ ih => exact .cons (leads_of_asks h ha) ih

-- What is asked for makes a visit.
theorem fetch_visits (h : network.client.FollowsLocations usable?) (address : String) :
    ∃ hops result, Visit usable? network address hops result ∧
      (fetch network address).requests.map (fun r => (r.method, r.target)) = hops.map recordOf ∧
      (fetch network address).result = result := by
  obtain hn | ⟨first, ho, hoff⟩ | ⟨first, hops, result, ho, hon, hc⟩ := fetch_cases network address
  · obtain ⟨failure, -, hf⟩ := fetch_of_not_opening hn
    rw [hf]
    exact ⟨[], _, .unusable hn, rfl, rfl⟩
  · obtain ⟨failure, hf, -⟩ := follow_off hoff first.url.text network.client.patience [] first
    rw [fetch_of_opening ho, hf]
    exact ⟨[], _, .unreached (isOff_iff.1 hoff), rfl, rfl⟩
  · rw [fetch_of_course hon ho hc]
    rw [h.patience] at hc
    refine ⟨hops.map Hop.url, result, .made ho (pursuit_of_course h hc), ?_, rfl⟩
    simp only [List.map_map]
    exact List.map_congr_left fun hop _ => recordOf_url hop

theorem Visit.length_le {address : String} {hops : List Url} {result : Except Failure Answer}
    (h : Visit usable? network address hops result) : hops.length ≤ 11 := by
  cases h with
  | unusable => exact Nat.zero_le _
  | unreached => exact Nat.zero_le _
  | made _ hp => exact hp.within

end Pursuit

end Http

-- A visit is made of eleven requests at most, each led to by the one before it. It brings an
-- answer, or the reason why there is none, which is an outcome as well.
theorem execute_visits [Url.Idna] [Text.Decoders] {network : Http.Network}
    {usable? : Url → List UInt8 → Option Url} (h : network.client.FollowsLocations usable?)
    (address : String) (probe : Probe) :
    (execute network address probe).requests.length ≤ 11 ∧
    ∃ hops result, Http.Visit usable? network (probe.url address) hops result ∧
      (execute network address probe).requests.map (fun r => (r.method, r.target)) =
        hops.map Http.recordOf ∧
      (execute network address probe).result =
        match result with
        | .error failure => .ok (.exception failure.causes.describe)
        | .ok answer =>
          match Body.classify answer.status answer.contentType answer.text with
          | .ok body => .ok (.response answer.status answer.contentType body)
          | .error fault => .error ⟨probe.path, answer.status, fault⟩ := by
  obtain ⟨hops, result, hv, hm, hr⟩ := Http.fetch_visits h (probe.url address)
  have hrequests : (execute network address probe).requests =
      (Http.fetch network (probe.url address)).requests := rfl
  rw [hrequests]
  refine ⟨?_, hops, result, hv, hm, ?_⟩
  · calc (Http.fetch network (probe.url address)).requests.length
        = hops.length := by simpa only [List.length_map] using congrArg List.length hm
      _ ≤ 11 := hv.length_le
  · rw [← hr]
    rfl

-- A redirect to another path of the same server.
theorem execute_visits_path :
    let network : Http.Network := ⟨.standard, true, true, fun address =>
      if address = "http://h/x" then ⟨⟨302, [], some (utf8 "/y"), []⟩, none⟩
      else ⟨.notFound, none⟩⟩
    ∃ hops result, Http.Visit Http.Client.locate? network "http://h/x" hops result ∧
      hops.map Http.recordOf = [(.get, "http://h/x"), (.get, "http://h/y")] := by
  intro network
  obtain ⟨-, hops, result, hv, hm, -⟩ :=
    @execute_visits _ _ network _ Http.standard_followsLocations "http://h" ⟨"/x", "X"⟩
  refine ⟨hops, result, hv, ?_⟩
  rw [← hm]
  decide +kernel

-- A user that is no text stays in the address.
theorem execute_unreadable_user :
    (execute ⟨.standard, true, true, fun _ => ⟨.notFound, none⟩⟩ "http://%ff@h"
        ⟨"/x", "X"⟩).requests.map (·.target) = ["http://%ff@h/x"] ∧
      (Url.parse "http://%ff@h/x").toOption.map (·.withoutUserinfo.requestText) =
        some "http://h/x" := by
  decide +kernel

end ProbeReport
