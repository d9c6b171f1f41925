import LongPoll.Agent.Resource
import LongPoll.Proofs.Url.Append

/-!
Where the requests of an agent's client go.

The path of a request begins with that of the client's address. Then comes the endpoint of the
agent, and then, escaped, the root or the name that was asked for. What is asked for arrives as it
is exactly if nothing of it is lost on the way: if it has no tabs and line ends, and no part that is
a dot or two. Requests for different places of this kind have different paths.
-/

namespace LongPoll

namespace Agent

open LongPoll.Text

/-- Where an agent answers. -/
inductive Endpoint where
  | store
  | node
  | service
  deriving DecidableEq

namespace Endpoint

def path : Endpoint → String
  | store => "/v1/kv/"
  | node => "/v1/health/node/"
  | service => "/v1/health/service/"

/-- The segment after that of the interface's version. -/
def area : Endpoint → String
  | store => "kv"
  | _ => "health"

/-- The further segments, as pieces of text. -/
def kind : Endpoint → List (List Char)
  | store => []
  | node => ["node".toList]
  | service => ["service".toList]

/-- The pieces of the endpoint. -/
def pieces (e : Endpoint) : List (List Char) := ["v1".toList, e.area.toList] ++ e.kind

theorem slashed_pieces (e : Endpoint) : Url.slashed e.pieces ++ ['/'] = e.path.toList := by
  cases e <;> decide

theorem isKept_pieces (e : Endpoint) : ∀ p ∈ e.pieces, Url.isKept p = true := by
  cases e <;> decide

/-- The pieces of the endpoint are written as they are. -/
theorem written_pieces (e : Endpoint) (special : Bool) :
    e.pieces.map (Url.written special) = e.pieces := by
  cases e <;> cases special <;> decide

/-- The endpoint stands for itself, whatever follows. -/
theorem decode_path (e : Endpoint) (rest : List Char) :
    Percent.decode (e.path.toList ++ rest) =
      Utf8.encode e.path.toList ++ Percent.decode rest := by
  have hPlain : ∀ c ∈ e.path.toList, c ≠ '%' := by cases e <;> simp [path]
  exact Percent.decode_append_of_plain hPlain rest

/-- No endpoint lies below another. -/
theorem eq_of_path_append {e e' : Endpoint} {rest rest' : List Char}
    (h : e.path.toList ++ rest = e'.path.toList ++ rest') : e = e' ∧ rest = rest' := by
  have hSame : e = e' := by cases e <;> cases e' <;> first | rfl | simp [path] at h
  subst hSame
  exact ⟨rfl, List.append_cancel_left h⟩

end Endpoint

/-- What can be asked for at an agent. -/
inductive Place where
  /-- The entries of the store below a root. -/
  | subtree (root : String)
  /-- The checks of a node. -/
  | node (name : String)
  /-- The instances of a service, or only those that pass all checks. -/
  | service (name : String) (passing : Bool)
  deriving DecidableEq

namespace Place

def request? (client : Client) (query : Query) : Place → Option Request
  | subtree root => (Agent.subtree root).request? client query
  | node name => (nodeChecks name).request? client query
  | service name passing => (instances name passing).request? client query

/-- What the request has to say: a root without slashes in front, or a name. -/
def text : Place → String
  | subtree root => Kv.normalizeRoot root
  | node name => name
  | service name _ => name

def endpoint : Place → Endpoint
  | subtree _ => .store
  | node _ => .node
  | service _ _ => .service

/-- The parts that are appended one by one. -/
def parts : Place → List (List Char)
  | subtree root => piecesAt '/' (Kv.normalizeRoot root).toList
  | node name => [name.toList]
  | service name _ => [name.toList]

/-- Nothing of the place is lost when it is asked for. -/
def isDirect (place : Place) : Bool := place.parts.all Url.isKept

/-- The path asks for the place: what follows the front and the endpoint is decoded to its text, and
is one segment if that is a name. -/
def Names (place : Place) (front path : List Char) : Prop :=
  ∃ rest, path = front ++ place.endpoint.path.toList ++ rest ∧
    Percent.decode rest = Utf8.encodeString place.text ∧ (place.endpoint ≠ .store → '/' ∉ rest)

/-! ### The segments of a request -/

theorem path_request? {client : Client} {segments : List String} {query : Query}
    {extra : List (String × String)} {r : Request}
    (h : client.request? segments query extra = some r) :
    r.url.path = (client.address.extend segments).path := by
  unfold Client.request? at h
  split at h
  · obtain rfl := Option.some.inj h
    rfl
  · cases h

theorem path_of_request {place : Place} {client : Client} {query : Query} {r : Request}
    (h : place.request? client query = some r) :
    r.url.path =
      (client.address.extend
        ("v1" :: place.endpoint.area ::
          (place.endpoint.kind ++ place.parts).map String.ofList)).path := by
  cases place with
  | subtree root => exact path_request? h
  | node name =>
      have hName : Health.segments "node" name =
          "v1" :: "health" :: ["node".toList, name.toList].map String.ofList := by
        simp [Health.segments]
      exact hName ▸ path_request? h
  | service name passing =>
      have hName : Health.segments "service" name =
          "v1" :: "health" :: ["service".toList, name.toList].map String.ofList := by
        simp [Health.segments]
      exact hName ▸ path_request? h

/-- A request is made exactly if its token can stand in a header. -/
theorem request?_isSome (place : Place) (client : Client) (query : Query) :
    (place.request? client query).isSome = query.token.all isHeaderText := by
  have hAll (segments : List String) (extra : List (String × String)) :
      (client.request? segments query extra).isSome = query.token.all isHeaderText := by
    unfold Client.request?
    cases query.token.all isHeaderText <;> rfl
  cases place <;> exact hAll _ _

theorem slashed_piecesAt (text : List Char) : Url.slashed (piecesAt '/' text) = '/' :: text := by
  induction text with
  | nil => rfl
  | cons c rest ih =>
      rw [piecesAt, pieces]
      rw [piecesAt] at ih
      split
      · next hSlash =>
          obtain rfl : c = '/' := by simpa using hSlash
          rw [Url.slashed, List.flatMap_cons]
          exact congrArg ('/' :: ·) ih
      · cases hPieces : pieces (· == '/') rest with
        | nil => exact absurd hPieces (pieces_ne_nil rest)
        | cons p ps =>
            rw [hPieces, Url.slashed, List.flatMap_cons, List.cons_append] at ih
            rw [consFirst, Url.slashed, List.flatMap_cons, List.cons_append, List.cons_append,
              (List.cons.inj ih).2]

theorem slashed_parts (place : Place) : Url.slashed place.parts = '/' :: place.text.toList := by
  cases place with
  | subtree root => exact slashed_piecesAt _
  | node name => simp [parts, text, Url.slashed]
  | service name passing => simp [parts, text, Url.slashed]

/-- Before anything is escaped, the segments say the endpoint and the text. -/
theorem slashed_segments (place : Place) :
    Url.slashed (place.endpoint.pieces ++ place.parts) =
      place.endpoint.path.toList ++ place.text.toList := by
  rw [Url.slashed_append, slashed_parts, ← Endpoint.slashed_pieces, List.append_assoc,
    List.singleton_append]

/-! ### What the path says -/

variable {place place' : Place} {client : Client} {query query' : Query} {r r' : Request}

theorem kept_iff_isDirect :
    (∀ p ∈ place.endpoint.kind ++ place.parts, Url.isKept p = true) ↔ place.isDirect = true := by
  rw [isDirect, List.all_eq_true]
  constructor
  · exact fun h p hp => h p (List.mem_append_right _ hp)
  · intro h p hp
    rcases List.mem_append.1 hp with hKind | hPart
    · exact place.endpoint.isKept_pieces p (List.mem_append_right _ hKind)
    · exact h p hPart

/-- The path of a request, for a client whose address has a path of segments. -/
theorem text_of_request (hPath : client.address.isBare = false)
    (hFile : Url.isFile client.address.scheme = false)
    (h : place.request? client query = some r) :
    r.url.path.text = client.address.front ++
      Url.slashed ((Url.appendPieces (Url.isSpecial client.address.scheme)
        ["v1".toList, place.endpoint.area.toList] (place.endpoint.kind ++ place.parts)).map
          (Url.written (Url.isSpecial client.address.scheme))) := by
  have hKept := place.endpoint.isKept_pieces
  rw [path_of_request h]
  exact Url.text_extend hPath hFile (hKept _ (by simp [Endpoint.pieces]))
    (hKept _ (by simp [Endpoint.pieces])) (by decide) _

/-- The path of a request of which nothing is lost. -/
theorem text_of_direct (hPath : client.address.isBare = false)
    (hFile : Url.isFile client.address.scheme = false)
    (h : place.request? client query = some r) (hDirect : place.isDirect = true) :
    r.url.path.text = client.address.front ++ Url.slashed place.endpoint.pieces ++
      Url.slashed (place.parts.map (Url.written (Url.isSpecial client.address.scheme))) := by
  rw [text_of_request hPath hFile h, Url.appendPieces_of_kept (kept_iff_isDirect.2 hDirect),
    ← List.append_assoc, ← Endpoint.pieces, List.map_append, Endpoint.written_pieces,
    Url.slashed_append, List.append_assoc]

/-- The parts as they are written: a slash, and what is decoded to the text. -/
theorem slashed_written_parts (place : Place) (special : Bool) :
    ∃ rest, Url.slashed (place.parts.map (Url.written special)) = '/' :: rest ∧
      Percent.decode rest = Utf8.encodeString place.text ∧
      (place.endpoint ≠ .store → '/' ∉ rest) := by
  obtain ⟨first, others, hParts⟩ : ∃ first others, place.parts = first :: others := by
    refine List.exists_cons_of_ne_nil fun hNone => ?_
    have hSlash := slashed_parts place
    rw [hNone] at hSlash
    cases hSlash
  have hDecoded := Url.decode_slashed special place.parts
  rw [slashed_parts] at hDecoded
  have hRest : Url.slashed (place.parts.map (Url.written special)) =
      '/' :: (Url.written special first ++ Url.slashed (others.map (Url.written special))) := by
    rw [hParts]
    rfl
  refine ⟨_, hRest, ?_, fun hName => ?_⟩
  · rw [hRest] at hDecoded
    have hSlash : ∀ c ∈ ['/'], c ≠ '%' := by simp
    have hText : Utf8.encode ('/' :: place.text.toList) =
        Utf8.encode ['/'] ++ Utf8.encode place.text.toList := rfl
    rw [← List.singleton_append, Percent.decode_append_of_plain hSlash, hText] at hDecoded
    exact List.append_cancel_left hDecoded
  · have hNone : others = [] := by cases place <;> simp_all [endpoint, parts]
    rw [hNone, List.map_nil, Url.slashed, List.flatMap_nil, List.append_nil]
    exact Percent.slash_not_mem_encode Url.reserved_slash first

theorem names_of_isDirect (hPath : client.address.isBare = false)
    (hFile : Url.isFile client.address.scheme = false)
    (h : place.request? client query = some r) (hDirect : place.isDirect = true) :
    place.Names client.address.front r.url.path.text := by
  obtain ⟨rest, hRest, hDecoded, hName⟩ :=
    place.slashed_written_parts (Url.isSpecial client.address.scheme)
  refine ⟨rest, ?_, hDecoded, hName⟩
  rw [text_of_direct hPath hFile h hDirect, hRest, ← Endpoint.slashed_pieces, List.append_assoc,
    List.append_assoc, List.append_assoc, List.singleton_append]

theorem isDirect_of_names (hPath : client.address.isBare = false)
    (hFile : Url.isFile client.address.scheme = false)
    (h : place.request? client query = some r)
    (hNames : place.Names client.address.front r.url.path.text) : place.isDirect = true := by
  obtain ⟨rest, hText, hDecoded, _⟩ := hNames
  rw [text_of_request hPath hFile h, List.append_assoc, List.append_cancel_left_eq] at hText
  have hBytes := congrArg Percent.decode hText
  rw [Url.decode_slashed, Endpoint.decode_path, hDecoded, Utf8.encodeString,
    ← Utf8.encode_append] at hBytes
  have hWhole := Utf8.encode_injective hBytes
  rw [← slashed_segments, Endpoint.pieces, List.append_assoc, Url.slashed_append] at hWhole
  exact kept_iff_isDirect.1 (Url.slashed_appendPieces_iff.1 hWhole)

/-- One path cannot name two places. -/
theorem Names.eq {front path : List Char} (h : place.Names front path)
    (h' : place'.Names front path) :
    place.endpoint = place'.endpoint ∧ place.text = place'.text := by
  obtain ⟨rest, hText, hDecoded, _⟩ := h
  obtain ⟨rest', hText', hDecoded', _⟩ := h'
  rw [hText, List.append_assoc, List.append_assoc, List.append_cancel_left_eq] at hText'
  obtain ⟨hEndpoint, rfl⟩ := Endpoint.eq_of_path_append hText'
  rw [hDecoded] at hDecoded'
  exact ⟨hEndpoint, String.toList_inj.1 (Utf8.encode_injective hDecoded')⟩

end Place

/-- A client is at the address it was made for, if that has a path of segments and the name of the
client can stand in a header. -/
theorem ofAddress_eq_ok_iff {address : String} {userAgent : Option String} {client : Client} :
    Client.ofAddress address userAgent = .ok client ↔
      (Url.parse address = .ok client.address ∧ client.address.isBare = false) ∧
        client.userAgent = userAgent.getD defaultUserAgent ∧
        isHeaderText client.userAgent = true := by
  constructor
  · intro h
    unfold Client.ofAddress at h
    split at h
    · cases h
    · next url hParse =>
        split at h
        · cases h
        · next hPath =>
            dsimp only at h
            split at h
            · next hText =>
                obtain rfl := Except.ok.inj h
                exact ⟨⟨hParse, Bool.eq_false_iff.2 hPath⟩, rfl, hText⟩
            · cases h
  · rintro ⟨⟨hParse, hPath⟩, hName, hText⟩
    simp [Client.ofAddress, hParse, hPath, ← hName, hText]

theorem isBare_of_ofAddress {address : String} {userAgent : Option String} {client : Client}
    (h : Client.ofAddress address userAgent = .ok client) : client.address.isBare = false :=
  (ofAddress_eq_ok_iff.1 h).1.2

/-- The requests of a client at an address that is no file. A request is made exactly if its token
can stand in a header. Behind the front, which is the path of the address without a slash at its
end, the path of a request names the place asked for exactly if nothing of the place is lost; and
the root named is the one in relation to which the entries get their keys. Two places of which
nothing is lost have one path only if they are the same: the same root, or the same name of the same
kind. -/
theorem requests_name_direct_places {address : String} {userAgent : Option String}
    {client : Client} (hClient : Client.ofAddress address userAgent = .ok client)
    (hFile : Url.isFile client.address.scheme = false) :
    (client.address.path.text = client.address.front ∨
        client.address.path.text = client.address.front ++ ['/'] ∨
        (∃ guarded, client.address.path = .segments guarded [[], []]) ∧
          client.address.path.text = client.address.front ++ ['/', '/']) ∧
      (∀ (place : Place) query, (place.request? client query).isSome =
        query.token.all isHeaderText) ∧
      (∀ (place : Place) query r, place.request? client query = some r →
        (place.Names client.address.front r.url.path.text ↔ place.isDirect = true)) ∧
      (∀ root e, (subtree root).keyOf e =
        Kv.relativeKeyString (Place.subtree root).text e.key) ∧
      ∀ (place place' : Place) query query' r r', place.request? client query = some r →
        place'.request? client query' = some r' → place.isDirect = true →
        place'.isDirect = true → r.url.path.text = r'.url.path.text →
        place.endpoint = place'.endpoint ∧ place.text = place'.text := by
  have hPath := isBare_of_ofAddress hClient
  refine ⟨client.address.text_eq_front, ?_, ?_, fun _ _ => rfl, ?_⟩
  · exact fun place query => place.request?_isSome client query
  · intro place query r h
    exact ⟨Place.isDirect_of_names hPath hFile h, Place.names_of_isDirect hPath hFile h⟩
  · intro place place' query query' r r' h h' hDirect hDirect' hSame
    have hNames := Place.names_of_isDirect hPath hFile h hDirect
    have hNames' := Place.names_of_isDirect hPath hFile h' hDirect'
    rw [← hSame] at hNames'
    exact hNames.eq hNames'

/-- Behind a gateway, slashes in front of a root are dropped and the rest arrives as it is. -/
theorem requests_name_direct_places_of_gateway :
    ∃ client, Client.ofAddress "http://127.0.0.1:8500/consul/" none = .ok client ∧
      Url.isFile client.address.scheme = false ∧
      ∃ r, (Place.subtree "//a b/50%/ü").request? client .blank = some r ∧
        (Place.subtree "//a b/50%/ü").Names "/consul".toList r.url.path.text := by
  let client : Client :=
    ⟨⟨"http".toList, some ⟨[], .ipv4 2130706433, some 8500⟩, .segments false ["consul".toList, []],
      none, none⟩, defaultUserAgent⟩
  have hClient : Client.ofAddress "http://127.0.0.1:8500/consul/" none = .ok client := by
    have hSome :
        (Client.ofAddress "http://127.0.0.1:8500/consul/" none).toOption = some client := by
      decide +kernel
    cases hMade : Client.ofAddress "http://127.0.0.1:8500/consul/" none with
    | error fault => simp [hMade, Except.toOption] at hSome
    | ok made => simpa [hMade, Except.toOption] using hSome
  have hFile : Url.isFile client.address.scheme = false := by decide
  obtain ⟨_, hMade, hNames, _⟩ := requests_name_direct_places hClient hFile
  obtain ⟨r, hRequest⟩ := Option.isSome_iff_exists.1 (hMade (.subtree "//a b/50%/ü") .blank)
  have hFront : client.address.front = "/consul".toList := by decide +kernel
  refine ⟨client, hClient, hFile, r, hRequest, hFront ▸ (hNames _ _ r hRequest).2 ?_⟩
  decide +kernel

/-- A tab is lost, so two roots lead to one request. A dot in the middle of a root is lost. A name
of two dots leaves nothing behind the endpoint, and a root of two dots and a tab leaves the
store. -/
theorem tabs_and_dots_are_lost :
    let client : Client :=
      ⟨⟨"http".toList, some ⟨[], .domain "agent".toList, none⟩, .segments false [[]], none, none⟩,
        defaultUserAgent⟩
    let path (place : Place) := (place.request? client .blank).map fun r =>
      String.ofList r.url.path.text
    (Place.subtree "team\ta").request? client .blank =
        (Place.subtree "teama").request? client .blank ∧
      path (.service "web\tapi" false) = some "/v1/health/service/webapi" ∧
      path (.subtree "a/./b") = some "/v1/kv/a/b" ∧
      path (.service ".." false) = some "/v1/health/service" ∧
      path (.subtree ".\t.") = some "/v1/" := by
  decide +kernel

end Agent

end LongPoll
