import LongPoll.Proofs.Agent.Places
import LongPoll.Proofs.Url.Reading

/-!
The addresses of agents, and what requests keep of them.

An address is accepted if it can hold a path. Nothing is asked of its scheme, so each scheme is that
of some agent, and an agent is one of the web only if its address says so. A request keeps the
scheme, the authority, the query and the fragment of the address, whatever is asked for, and its
path begins with that of the address unless the first segment that counts leads up.
-/

namespace LongPoll

namespace Agent

open LongPoll.Text

variable {address : String} {userAgent : Option String} {client : Client} {segments : List String}

/-- A client is made exactly for an address with a path of segments, under a name that can stand in
a header. -/
theorem exists_ofAddress_iff :
    (∃ client, Client.ofAddress address userAgent = .ok client) ↔
      (∃ u, Url.parse address = .ok u ∧ u.isBare = false) ∧
        isHeaderText (userAgent.getD defaultUserAgent) = true := by
  simp only [ofAddress_eq_ok_iff]
  constructor
  · rintro ⟨client, hAddress, hName, hText⟩
    exact ⟨⟨client.address, hAddress⟩, hName ▸ hText⟩
  · rintro ⟨⟨u, hAddress⟩, hText⟩
    exact ⟨⟨u, userAgent.getD defaultUserAgent⟩, hAddress, rfl, hText⟩

/-- The scheme of the web, with or without encryption. -/
def isWeb (scheme : List Char) : Bool := scheme == "http".toList || scheme == "https".toList

theorem isScheme_of_isWeb {scheme : List Char} (h : isWeb scheme = true) :
    Url.isScheme scheme = true := by
  have hNames : scheme = "http".toList ∨ scheme = "https".toList := by simpa [isWeb] using h
  rcases hNames with rfl | rfl <;> decide

theorem isWeb_iff_of_parse {u : Url} (h : Url.parse address = .ok u) :
    isWeb u.scheme = true ↔ ∃ scheme, isWeb scheme = true ∧
      scheme ++ [':'] <+: (Url.cleaned address.toList).map Char.toLower := by
  constructor
  · intro hWeb
    exact ⟨_, hWeb, (Url.scheme_eq_iff_of_parse h (isScheme_of_isWeb hWeb)).1 rfl⟩
  · rintro ⟨scheme, hWeb, hFront⟩
    rwa [(Url.scheme_eq_iff_of_parse h (isScheme_of_isWeb hWeb)).2 hFront]

theorem exists_agent_iff_isScheme {scheme : List Char} :
    (∃ address client, Client.ofAddress address none = .ok client ∧
      client.address.scheme = scheme) ↔ Url.isScheme scheme = true := by
  constructor
  · rintro ⟨address, client, hClient, rfl⟩
    exact (Url.exists_readBody_of_parse (ofAddress_eq_ok_iff.1 hClient).1.1).1
  · intro hScheme
    obtain ⟨u, hParse, hName, hPath⟩ := Url.exists_parse_of_isScheme hScheme
    have hText : isHeaderText defaultUserAgent = true := by decide +kernel
    exact ⟨_, ⟨u, defaultUserAgent⟩, ofAddress_eq_ok_iff.2 ⟨⟨hParse, hPath⟩, rfl, hText⟩, hName⟩

theorem url_keeps (client : Client) (segments : List String) :
    (client.url segments).scheme = client.address.scheme ∧
      (client.url segments).authority = client.address.authority ∧
      (client.url segments).query = client.address.query ∧
      (client.url segments).fragment = client.address.fragment := by
  unfold Client.url Url.extend
  split <;> exact ⟨rfl, rfl, rfl, rfl⟩

theorem trunk_prefix_url (h : Client.ofAddress address userAgent = .ok client)
    (hStays : Url.departs segments = false) :
    client.address.trunk <+: (client.url segments).path.text :=
  Url.trunk_prefix_extend (Url.isFull_of_parse (ofAddress_eq_ok_iff.1 h).1.1) hStays

/-- An agent two segments below the root of its host. -/
def deepAgent : Client :=
  ⟨⟨"http".toList, some ⟨[], .domain "agent".toList, none⟩,
    .segments false ["a".toList, "b".toList], none, none⟩, defaultUserAgent⟩

theorem ofAddress_deepAgent : Client.ofAddress "http://agent/a/b" none = .ok deepAgent := by
  decide +kernel

theorem not_trunk_prefix_deepAgent (hDeparts : Url.departs segments = true) :
    ¬deepAgent.address.trunk <+: (deepAgent.url segments).path.text := by
  have hFront : Url.IsFront "http".toList ["a".toList] :=
    ⟨by decide, by decide, fun hFile => absurd hFile (by decide)⟩
  have hDrive : Url.isDrive "b".toList = false := by decide
  obtain ⟨more, hMore⟩ := hFront.foldl_of_departs hDrive hDeparts
  have hTrunk : deepAgent.address.trunk = ['/', 'a', '/', 'b'] := by decide
  have hText : (deepAgent.url segments).path.text = '/' :: 'a' :: '/' :: Url.slashed more := by
    have hPath : (deepAgent.url segments).path = .segments false
        (segments.foldl (Url.appendSegment "http".toList) (["a".toList] ++ ["b".toList])) := rfl
    rw [hPath, hMore]
    rfl
  rw [hTrunk, hText]
  rintro ⟨rest, hRest⟩
  -- behind the front there is a slash or nothing, and no letter
  cases more with
  | nil => simp [Url.slashed] at hRest
  | cons first others => simp [Url.slashed] at hRest

/-- Clients and their requests. There is a client for an address exactly if the address can be read
and has a path of segments, and if the name of the client can stand in a header; and its address is
the one that was read. Its scheme is one of the web exactly if such a scheme and a colon stand in
front of the text. The schemes of clients are the names in small letters, and all of them. A request
has the scheme, the authority, the query and the fragment of the address, whatever is asked for. Its
path begins with that of the address, without the slash at its end, if the first of the segments
that counts does not lead up; and only for such segments it does for every address. -/
theorem requests_stay_unless_led_up (address : String) (userAgent : Option String)
    (segments : List String) :
    ((∃ client, Client.ofAddress address userAgent = .ok client) ↔
      (∃ u, Url.parse address = .ok u ∧ u.isBare = false) ∧
        isHeaderText (userAgent.getD defaultUserAgent) = true) ∧
    (∀ client, Client.ofAddress address userAgent = .ok client →
      Url.parse address = .ok client.address ∧
      (isWeb client.address.scheme = true ↔ ∃ scheme, isWeb scheme = true ∧
        scheme ++ [':'] <+: (Url.cleaned address.toList).map Char.toLower) ∧
      ((client.url segments).scheme = client.address.scheme ∧
        (client.url segments).authority = client.address.authority ∧
        (client.url segments).query = client.address.query ∧
        (client.url segments).fragment = client.address.fragment) ∧
      (Url.departs segments = false →
        client.address.trunk <+: (client.url segments).path.text)) ∧
    (∀ scheme, (∃ address client, Client.ofAddress address none = .ok client ∧
      client.address.scheme = scheme) ↔ Url.isScheme scheme = true) ∧
    ((∀ address userAgent client, Client.ofAddress address userAgent = .ok client →
        client.address.trunk <+: (client.url segments).path.text) ↔
      Url.departs segments = false) := by
  refine ⟨exists_ofAddress_iff, fun client hClient => ?_, fun scheme =>
    exists_agent_iff_isScheme, fun hStays => ?_, ?_⟩
  · have hParse := (ofAddress_eq_ok_iff.1 hClient).1.1
    exact ⟨hParse, isWeb_iff_of_parse hParse, url_keeps client segments, trunk_prefix_url hClient⟩
  · by_contra hDeparts
    rw [Bool.not_eq_false] at hDeparts
    exact not_trunk_prefix_deepAgent hDeparts (hStays _ _ _ ofAddress_deepAgent)
  · exact fun hStays address userAgent client hClient => trunk_prefix_url hClient hStays

/-- Behind a gateway: a segment with a slash, two dots after it, and two dots with a tab. -/
theorem requests_stay_unless_led_up_of_gateway :
    ∃ client, Client.ofAddress "HTTPS://u:p@Gateway/consul/?dc=x#y" none = .ok client ∧
      isWeb client.address.scheme = true ∧ client.address.trunk = "/consul".toList ∧
      client.address.trunk <+: (client.url ["..", "a/b", ".\t."]).path.text := by
  have hClient : ∃ client, Client.ofAddress "HTTPS://u:p@Gateway/consul/?dc=x#y" none = .ok client ∧
      client.address.trunk = "/consul".toList := by
    refine ⟨⟨⟨"https".toList, some ⟨"u:p@".toList, .domain "gateway".toList, none⟩,
      .segments false ["consul".toList, []], some "dc=x".toList, some "y".toList⟩,
      defaultUserAgent⟩, ?_⟩
    decide +kernel
  obtain ⟨client, hMade, hTrunk⟩ := hClient
  obtain ⟨_, hWeb, _, hPath⟩ := (requests_stay_unless_led_up "HTTPS://u:p@Gateway/consul/?dc=x#y"
    none ["..", "a/b", ".\t."]).2.1 client hMade
  have hScheme : "https".toList ++ [':'] <+:
      (Url.cleaned "HTTPS://u:p@Gateway/consul/?dc=x#y".toList).map Char.toLower := by
    decide +kernel
  exact ⟨client, hMade, hWeb.2 ⟨_, by decide, hScheme⟩, hTrunk, hPath (by decide)⟩

/-- There is an agent at a file server. And two dots with a tab between them leave the path of the
address. -/
theorem file_server_is_accepted :
    (∃ client, Client.ofAddress "ftp://h/x" none = .ok client ∧
      client.address.scheme = "ftp".toList) ∧
    ∃ client, Client.ofAddress "http://h/consul" none = .ok client ∧
      client.address.trunk = "/consul".toList ∧
      (client.url [".\t.", "kv"]).path.text = "/kv".toList := by
  refine ⟨⟨⟨⟨"ftp".toList, some ⟨[], .domain "h".toList, none⟩, .segments false ["x".toList],
    none, none⟩, defaultUserAgent⟩, ?_⟩, ⟨⟨⟨"http".toList, some ⟨[], .domain "h".toList, none⟩,
    .segments false ["consul".toList], none, none⟩, defaultUserAgent⟩, ?_⟩⟩
  · decide +kernel
  · decide +kernel

end Agent

end LongPoll
