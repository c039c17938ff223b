import SearchClient.Proofs.Url.FromParts
import SearchClient.Session

/-!
# Where an endpoint made of parts leads

The parts of an endpoint are pasted together and read back as one address.  Its
resources lie at the given port of the given host exactly when the host text is
the name of one host.  Nothing but the reading of the address checks that, so a
slash after the name is enough to lose the port.
-/

namespace SearchClient.Endpoint

variable {scheme host : String} {port : UInt16} {e : Endpoint}

theorem parseSpecial_of_ofParts (hscheme : scheme = "http" ∨ scheme = "https")
    (h : ofParts scheme host port = .ok e) :
    Url.parseSpecial scheme (Url.pasted (Url.writtenHost host) port) =
      .ok (some e.base) := by
  rw [← Url.parse_parts hscheme]
  unfold ofParts parse at h
  split at h
  · next url hurl => rw [hurl, ← Except.ok.inj h]
  · nomatch h
  · nomatch h

theorem ofConfig_host {config : Config} (h : config.host = .ok e) :
    (Session.ofConfig config).map Session.host = .ok (some e) := by
  rw [Session.ofConfig, h]
  rfl

/--
An endpoint made of a scheme, a host text and a port has the port for its own,
the root for its path, and neither a user nor a query nor a fragment, exactly
when the text names one host.  All its resources then lie at the port of that
host, and so do those of a session whose configuration has these parts.
-/
theorem ofParts_addresses_iff (hscheme : scheme = "http" ∨ scheme = "https")
    (h : ofParts scheme host port = .ok e) :
    (e.base.Addresses port ∧ e.base.path = [[]] ↔
      ∃ name, Url.Names (Url.writtenHost host) name) ∧
    (∀ name, Url.Names (Url.writtenHost host) name →
      Host.parseSpecial name = .ok e.base.host ∧
      ∀ segments, (e.resource segments).scheme = scheme ∧
        (e.resource segments).host = e.base.host ∧
        (e.resource segments).Addresses port) ∧
    ∀ config : Config, config.endpoint = ⟨scheme, host, port⟩ →
      config.host = .ok e ∧
      (Session.ofConfig config).map Session.host = .ok (some e) := by
  have hread := parseSpecial_of_ofParts hscheme h
  refine ⟨⟨?_, ?_⟩, ?_, ?_⟩
  · rintro ⟨haddresses, hroot⟩
    exact Url.names_of_addresses hscheme hread haddresses hroot
  · rintro ⟨name, hnames⟩
    exact (hnames.addresses hscheme hread).2
  · intro name hnames
    obtain ⟨hhost, haddresses, -⟩ := hnames.addresses hscheme hread
    have hbase : e.base.scheme = scheme := Url.parseSpecial_scheme hread
    exact ⟨hhost, fun segments => ⟨hbase, rfl, haddresses.resource segments⟩⟩
  · intro config hconfig
    have hhost : config.host = .ok e := by rw [Config.host, hconfig, h]
    exact ⟨hhost, ofConfig_host hhost⟩

theorem ofParts_addresses_iff_after_sign :
    ∃ e, ofParts "https" "/\t@Search.local" 9243 = .ok e ∧
      e.base.Addresses 9243 ∧ e.base.path = [[]] ∧
      Host.parseSpecial "Search.local".toList = .ok e.base.host ∧
      (e.resource ["books", "book"]).Addresses 9243 := by
  have hparse : ofParts "https" "/\t@Search.local" 9243 =
      .ok ⟨{
        scheme := "https"
        host := .name "search.local"
        port := some 9243
        path := [[]] }⟩ := by
    decide +kernel
  have hnames : Url.Names (Url.writtenHost "/\t@Search.local")
      "Search.local".toList :=
    ⟨by simp, ['@'], by simp, by decide⟩
  obtain ⟨hiff, hhost, -⟩ := ofParts_addresses_iff (.inr rfl) hparse
  obtain ⟨haddresses, hroot⟩ := hiff.2 ⟨_, hnames⟩
  obtain ⟨hname, hresource⟩ := hhost _ hnames
  exact ⟨_, hparse, haddresses, hroot, hname, (hresource _).2.2⟩

/-- A slash after the name ends the host, and the port is read as a path. -/
theorem ofParts_port_not_always_kept :
    ¬∀ (scheme host : String) (port : UInt16) (e : Endpoint),
      (scheme = "http" ∨ scheme = "https") →
      (∀ c ∈ host.toList, c.toNat < 0x80) →
      ofParts scheme host port = .ok e →
      e.base.Addresses port ∧ e.base.path = [[]] := by
  intro hall
  have hparse : ofParts "http" "localhost/" 9200 =
      .ok ⟨{
        scheme := "http"
        host := .name "localhost"
        path := [[':', '9', '2', '0', '0'], []] }⟩ := by
    decide +kernel
  have hroot := (hall "http" "localhost/" 9200 _ (.inl rfl) (by simp) hparse).2
  exact absurd hroot (by decide)

end SearchClient.Endpoint
