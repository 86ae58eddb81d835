import ProbeReport.Proofs.Http.Visit
import ProbeReport.Proofs.Url.Printable

-- What requests name can be put on their first line as it is, wherever redirects lead.
namespace ProbeReport

namespace Url

variable {s : String}

theorem IsPrintableText.of_mem_utf8 (h : IsPrintableText s) :
    ∀ b ∈ utf8 s, 0x21 ≤ b.toNat ∧ b.toNat ≤ 0x7e ∧ b ≠ 0x23 := by
  intro b hb
  obtain ⟨c, hc, hb⟩ := List.mem_flatMap.1 hb
  obtain ⟨hl, hu, hn⟩ := h c hc
  rw [Text.Utf8.utf8EncodeChar_one (by omega), List.mem_singleton] at hb
  have hv : b.toNat = c.toNat := by
    rw [hb, Text.Utf8.toNat_ofNat_of_lt (by omega)]
  refine ⟨by omega, by omega, fun he => hn ?_⟩
  rw [← Char.ofNat_toNat c, ← hv, he]
  rfl

end Url

namespace Http

theorem isPrintable_firstHop {u : Url} (hu : u.IsPrintable) : (firstHop u).url.IsPrintable := by
  have hempty : Url.IsPrintableText "" := by decide
  rw [firstHop]
  split
  · exact ⟨hempty, hempty, hu.host, hu.port, hu.path, hu.query⟩
  · exact hu

section Hops

variable [Url.Idna] {usable? : Url → List UInt8 → Option Url} {network : Network} {u v : Url}

-- One redirect that is followed.
theorem Leads.isPrintable (h : Leads usable? network u v) (hu : u.IsPrintable)
    (hw : u.isWeb = true) : v.IsPrintable := by
  obtain ⟨value, -, reference, target, -, ht, rfl⟩ := h.resolves
  have htarget := Url.isPrintable_of_resolve hu hw ht h.isWeb
  exact ⟨htarget.user, htarget.password, htarget.host, htarget.port, htarget.path, htarget.query⟩

-- A whole pursuit, by induction on the addresses that are asked for.
theorem isPrintable_of_isChain {hops : List Url} (hl : hops.IsChain (Leads usable? network))
    (hu : ∀ first ∈ hops.head?, first.IsPrintable ∧ first.isWeb = true) :
    ∀ hop ∈ hops, hop.IsPrintable ∧ hop.isWeb = true := by
  induction hops with
  | nil => exact fun _ h => by cases h
  | cons u rest ih =>
      have hfirst := hu u rfl
      intro hop hm
      obtain rfl | hm := List.mem_cons.1 hm
      · exact hfirst
      · apply ih hl.tail ?_ hop hm
        intro v hv
        obtain ⟨more, rfl⟩ := List.head?_eq_some_iff.1 hv
        have hlead : Leads usable? network u v := (List.isChain_cons_cons.1 hl).1
        exact ⟨hlead.isPrintable hfirst.1 hfirst.2, hlead.isWeb⟩

theorem isPrintable_of_visit {address : String} {hops : List Url} {result : Except Failure Answer}
    (h : Visit usable? network address hops result) :
    ∀ hop ∈ hops, hop.IsPrintable ∧ hop.isWeb = true := by
  cases h with
  | unusable | unreached => simp
  | made ho hp =>
      obtain ⟨u, hu, rfl, hw, -⟩ := opening_iff.1 ho
      have hweb : u.isWeb = true := by rwa [Url.isWeb, scheme_firstHop] at hw
      have hfirst :=
        isPrintable_firstHop (Url.isPrintable_of_parse (requestUrl_eq_ok_iff.1 hu).1 hweb)
      apply isPrintable_of_isChain hp.links
      intro first hm
      rw [hp.head, Option.mem_some_iff] at hm
      subst hm
      exact ⟨hfirst, hw⟩

end Hops

-- What a request names: an address that begins with the scheme, or a host and a port.
inductive Names : Method → String → Prop where
  | address {rest : String} : Names .get ("http://" ++ rest)
  | peer {host : Url.Host} {port : Nat} :
      host.IsWire → port ≤ 65535 → Names .connect (host.text ++ ":" ++ toString port)

section Records

variable {u : Url}

theorem exists_peer (hu : u.IsPrintable) (hs : u.scheme = "https") :
    ∃ (host : Url.Host) (port : Nat),
      host.IsWire ∧ port ≤ 65535 ∧ Hop.peer u = host.text ++ ":" ++ toString port := by
  obtain ⟨host, hh, hw⟩ := hu.host
  refine ⟨host, u.effectivePort.getD 0, hw, ?_, ?_⟩
  · rw [Url.effectivePort, hs]
    cases hport : u.port with
    | none => decide
    | some port => exact hu.port port hport
  · rw [Hop.peer, Url.hostText, hh]
    rfl

theorem isPrintableText_recordOf (hu : u.IsPrintable) (hw : u.isWeb = true) :
    Url.IsPrintableText (recordOf u).2 := by
  rw [recordOf]
  split
  · rename_i hs
    obtain ⟨host, port, hwire, -, hp⟩ := exists_peer hu hs
    dsimp only
    rw [hp]
    simp only [Url.isPrintableText_append]
    exact ⟨⟨hwire.isPrintableText, by decide⟩, Url.isPrintableText_toString port⟩
  · apply hu.requestText
    rw [Url.isWeb, Bool.or_eq_true, decide_eq_true_eq, decide_eq_true_eq] at hw
    obtain hs | hs := hw <;> rw [hs] <;> decide

theorem names_recordOf (hu : u.IsPrintable) (hw : u.isWeb = true) :
    Names (recordOf u).1 (recordOf u).2 := by
  rw [recordOf]
  split
  · rename_i hs
    obtain ⟨host, port, hwire, hle, hp⟩ := exists_peer hu hs
    dsimp only
    rw [hp]
    exact .peer hwire hle
  · rename_i hs
    have hscheme : u.scheme = "http" := by simpa [Url.isWeb, hs] using hw
    obtain ⟨rest, hr⟩ := hu.exists_requestText
    dsimp only
    rw [hr, hscheme]
    exact .address

end Records

end Http

-- Neither an address nor a redirect brings a blank, a line end or anything beyond ASCII onto the line
-- of a request.
theorem execute_names_printable [Url.Idna] [Text.Decoders] {network : Http.Network}
    {usable? : Url → List UInt8 → Option Url} (hfollows : network.client.FollowsLocations usable?)
    {address : String} {probe : Probe} {request : Http.Request}
    (h : request ∈ (execute network address probe).requests) :
    (∀ b ∈ utf8 request.target, 0x21 ≤ b.toNat ∧ b.toNat ≤ 0x7e ∧ b ≠ 0x23) ∧
      Http.Names request.method request.target := by
  obtain ⟨hops, result, hv, hr, -⟩ := Http.fetch_visits hfollows (probe.url address)
  have hm : (request.method, request.target) ∈ hops.map Http.recordOf := by
    rw [← hr]
    exact List.mem_map_of_mem h
  obtain ⟨hop, hhop, he⟩ := List.mem_map.1 hm
  obtain ⟨hu, hw⟩ := Http.isPrintable_of_visit hv hop hhop
  have hprint := Http.isPrintableText_recordOf hu hw
  have hnames := Http.names_recordOf hu hw
  rw [he] at hprint hnames
  exact ⟨hprint.of_mem_utf8, hnames⟩

-- An address with a blank, a letter beyond ASCII and a fragment, and a redirect to another path.
theorem execute_names_printable_redirect :
    let network : Http.Network := ⟨.standard, true, true, fun address =>
      if address = "http://h/%C3%A9%20x" then ⟨⟨302, [], some (utf8 "/y?q"), []⟩, none⟩
      else ⟨.notFound, none⟩⟩
    ∃ request ∈ (execute network "http://h" ⟨"/é x#f", "X"⟩).requests,
      request.target = "http://h/y?q" ∧
        (∀ b ∈ utf8 request.target, 0x21 ≤ b.toNat ∧ b.toNat ≤ 0x7e ∧ b ≠ 0x23) ∧
        Http.Names request.method request.target := by
  intro network
  have hm : (⟨.get, "http://h/y?q", none⟩ : Http.Request) ∈
      (execute network "http://h" ⟨"/é x#f", "X"⟩).requests := by
    decide +kernel
  exact ⟨_, hm, rfl, execute_names_printable Http.standard_followsLocations hm⟩

end ProbeReport
