import UnifyAir.Client.Headers
import UnifyAir.Text.FormUrlEncoded

/-!
# UnifyAir — the two request builders

`utils/client/src/lib.rs`. `prepare_request` builds a `reqwest::Request`, `prepare_http_request` an
`http::Request`, from the same parts. The second joins the path to its URL and drops the result, so
its requests all go to the root.

What the crates `url` and `http` do with a text is not in this repository; `Urls` stands for it, and
`fromStr` for `HeaderValue::from_str`, of which nothing is relied on here: both builders call
`to_headers` on the same struct. A URL, once it is read, is kept in its parts.

* **`requests_agree_iff`** — two requests from the same parts agree exactly when the path is `/`.
* **`same_but_path`** — in everything else they do agree.
* **`path_dropped`** — a registration that would go to `/`.
-/

namespace UnifyAir.Client

open FormUrlEncoded (Pair serialize)

/-! ## URLs

A URL in its parts, with what the setters of `url::Url` do to one part each. Reading a text into a
part is left to `Urls`: percent-encoding and dot segments are the crate's affair. -/

/-- What a path is in a URL: it begins with a slash, and no query or fragment begins in it. -/
structure UrlPath where
  text : List Char
  wellFormed : text.head? = some '/' ∧ '?' ∉ text ∧ '#' ∉ text
  deriving DecidableEq

/-- What a query is in a URL. -/
structure UrlQuery where
  text : List Char
  wellFormed : '#' ∉ text
  deriving DecidableEq

/-- The scheme, and the host with its port. -/
structure Origin where
  scheme : List Char
  authority : List Char
  wellFormed : ':' ∉ scheme ∧ '/' ∉ authority ∧ '?' ∉ authority ∧ '#' ∉ authority
  deriving DecidableEq

/-- `url::Url`. -/
structure Url where
  origin : Origin
  path : UrlPath
  query : Option UrlQuery
  fragment : Option (List Char)
  deriving DecidableEq

/-- `http::Uri`. -/
structure Uri where
  origin : Origin
  path : UrlPath
  query : Option UrlQuery
  deriving DecidableEq

/-- `Url::to_string`. -/
def Url.toString (url : Url) : List Char :=
  url.origin.scheme ++ [':', '/', '/'] ++ url.origin.authority ++ url.path.text ++
    (url.query.elim [] fun query => '?' :: query.text) ++
    (url.fragment.elim [] fun fragment => '#' :: fragment)

/-- The URL has neither a path of its own nor a query nor a fragment. -/
def Url.OriginOnly (url : Url) : Prop :=
  url.path.text = ['/'] ∧ url.query = none ∧ url.fragment = none

/-- `url::ParseError`. -/
abbrev ParseError := String

/-- `http::Error`. -/
abbrev HttpError := String

/-- The reading of texts in `url` and `http`. -/
structure Urls where
  /-- `Url::parse`. -/
  parse : List Char → Except ParseError Url
  /-- `Url::join`. -/
  join : Url → List Char → Except ParseError Url
  /-- The path that `Url::set_path` makes of a text. -/
  parsePath : List Char → UrlPath
  /-- The query that `Url::set_query` makes of a text. -/
  parseQuery : List Char → UrlQuery
  /-- `Uri::try_from`. -/
  parseUri : List Char → Except HttpError Uri

/-- What is relied on: an empty path is read as the root, a query that is form-urlencoded already
stays as it is, and a URI has the parts of the URL that it is read from. -/
structure Urls.Documented (urls : Urls) : Prop where
  parsePath_nil : (urls.parsePath []).text = ['/']
  parseQuery_serialize : ∀ pairs, (urls.parseQuery (serialize pairs)).text = serialize pairs
  parseUri_toString : ∀ (url : Url) (uri : Uri), urls.parseUri url.toString = .ok uri →
    uri = ⟨url.origin, url.path, url.query⟩

/-- `Url::set_path`. -/
def Urls.setPath (urls : Urls) (url : Url) (path : List Char) : Url :=
  { url with path := urls.parsePath path }

/-- `Url::set_query` with a query. -/
def Urls.setQuery (urls : Urls) (url : Url) (query : List Char) : Url :=
  { url with query := some (urls.parseQuery query) }

/-- A query with pairs behind it. -/
def UrlQuery.append (query : UrlQuery) (pairs : List Pair) : UrlQuery where
  text :=
    if query.text = [] then serialize pairs
    else if pairs = [] then query.text
    else query.text ++ '&' :: serialize pairs
  wellFormed := by
    have hpairs : '#' ∉ serialize pairs :=
      FormUrlEncoded.not_mem_serialize (by decide) (by decide) (by decide)
    split_ifs
    · exact hpairs
    · exact query.wellFormed
    · simp [query.wellFormed, hpairs]

/-- `Url::query_pairs_mut` with the pairs that are put into it. A query comes into being even when
there are none. -/
def Url.queryPairsMut (url : Url) (pairs : List Pair) : Url :=
  { url with query := some ((url.query.getD ⟨[], List.not_mem_nil⟩).append pairs) }

/-- The decoded pairs of a query. -/
def queryPairs (query : Option UrlQuery) : List Pair :=
  query.elim [] fun query => FormUrlEncoded.parse query.text

/-! ## Parts of a request

What both builders are called with. A header, query or body struct is represented by what `serde`
makes of it, errors included. -/

/-- `ContentType`. -/
inductive ContentType where
  | appJson
  | appForm
  | appPatchJson
  deriving DecidableEq, Repr

/-- `ContentType::to_str`. -/
def ContentType.toStr : ContentType → List Char
  | appJson => "application/json".toList
  | appForm => "application/x-www-form-urlencoded".toList
  | appPatchJson => "application/json-patch+json".toList

/-- `ContentType::to_header_value`. -/
def ContentType.toHeaderValue (encodingType : ContentType) : HeaderValue where
  text := encodingType.toStr

/-- `CONTENT_TYPE`. -/
def CONTENT_TYPE : HeaderName := ⟨"content-type".toList, by decide⟩

/-- `http::Method`. -/
abbrev Method := String

/-- The octets of a `Body`. -/
abbrev Body := List UInt8

/-- `serde_urlencoded::ser::Error`. -/
abbrev UrlencodedError := String

/-- `serde_qs::Error`. -/
abbrev QsError := String

/-- `GenericClientError`, as far as building a request goes. -/
inductive GenericClientError where
  | headerSerDeError (err : HeaderSerDeError)
  | querySerDeError (err : UrlencodedError)
  | urlFormEncodedError (err : QsError)
  | serializationError (err : JsonError)
  | builderError (err : HttpError)
  | uriBuilderError (err : ParseError)
  deriving DecidableEq, Repr

/-- How a call fails: with an error, or at a `todo!()`. -/
inductive Failure where
  | error (err : GenericClientError)
  | panic
  deriving DecidableEq, Repr

/-- What `serde_urlencoded` makes of a query struct. -/
abbrev Query := Except UrlencodedError (List Pair)

/-- What `serde_json::to_vec` and `serde_qs::to_writer` make of a body. -/
structure Payload where
  json : Except JsonError Body
  form : Except QsError Body

/-- `remove_leading_slash`. -/
def removeLeadingSlash (input : List Char) : List Char :=
  if input.head? = some '/' then input.drop 1 else input

/-- `serialize_body`. -/
def serializeBody (body : Payload) (encodingType : ContentType) : Except Failure Body :=
  match encodingType with
  | .appJson => body.json.mapError fun err => .error (.serializationError err)
  | .appForm => body.form.mapError fun err => .error (.urlFormEncodedError err)
  | .appPatchJson => .error .panic

/-- The pairs of an optional query struct. -/
def serializeQuery : Option Query → Except Failure (Option (List Pair))
  | none => .ok none
  | some query => (query.mapError fun err => .error (.querySerDeError err)).map some

/-- `headers_mut().extend(h)` with the headers of an optional struct. -/
def extendHeaders (fromStr : List Char → Option HeaderValue) (headers : HeaderMap) :
    Option Serialized → Except Failure HeaderMap
  | none => .ok headers
  | some header =>
    ((toHeaders fromStr header).mapError fun err => .error (.headerSerDeError err)).map
      (· ∪ headers)

/-! ## The builders

The two functions side by side. `prepare_request` sets the path on a URL that it is given;
`prepare_http_request` parses its URL and joins the path to it. -/

/-- `reqwest::Request`. -/
structure Request where
  method : Method
  url : Url
  headers : HeaderMap
  body : Option Body

/-- `http::Version`. -/
inductive Version where
  | http11
  | http2
  deriving DecidableEq, Repr

/-- `http::Request<Body>`. -/
structure HttpRequest where
  method : Method
  uri : Uri
  version : Version
  headers : HeaderMap
  body : Body

section Builders

variable (urls : Urls) (fromStr : List Char → Option HeaderValue)

/-- `prepare_request`. -/
def prepareRequest (url : Url) (path : List Char) (method : Method) (header : Option Serialized)
    (query : Option Query) (body : Option Payload) (encodingType : ContentType) :
    Except Failure Request := do
  let url := urls.setPath url (removeLeadingSlash path)
  let pairs ← serializeQuery query
  let url := url.queryPairsMut (pairs.getD [])
  let headers ← extendHeaders fromStr ∅ header
  let headers := headers.insert CONTENT_TYPE encodingType.toHeaderValue
  let body ← body.mapM fun t => serializeBody t encodingType
  return { method, url, headers, body }

/-- `prepare_http_request`. -/
def prepareHttpRequest (baseUrl path : List Char) (method : Method) (header : Option Serialized)
    (query : Option Query) (body : Option Payload) (encodingType : ContentType) :
    Except Failure HttpRequest := do
  let uriBuilderError := fun err => Failure.error (.uriBuilderError err)
  let url ← (urls.parse baseUrl).mapError uriBuilderError
  -- the joined URL is not used again
  -- the joined URL is dropped
  let _ ← (urls.join url path).mapError uriBuilderError
  let pairs ← serializeQuery query
  let url := match pairs with
    | some pairs => urls.setQuery url (serialize pairs)
    | none => url
  let body ← body.elim (.ok []) fun b => serializeBody b encodingType
  let uri ← (urls.parseUri url.toString).mapError fun err => Failure.error (.builderError err)
  let headers ← extendHeaders fromStr ∅ header
  let headers := headers.insert CONTENT_TYPE encodingType.toHeaderValue
  return { method, uri, version := .http2, headers, body }

end Builders

/-! ## What a builder returns

One lemma for each builder says everything that a successful call has done. The later proofs start
from these and do not unfold the builders again. -/

theorem ok_of_bind {α β ε : Type} {x : Except ε α} {f : α → Except ε β} {b : β}
    (h : x >>= f = .ok b) : ∃ a, x = .ok a ∧ f a = .ok b := by
  cases x with
  | error err => cases h
  | ok a => exact ⟨a, rfl, h⟩

/-- An error that is wrapped was an error before, so a success is the same success. -/
theorem ok_of_mapError {α ε ε' : Type} {x : Except ε α} {f : ε → ε'} {a : α}
    (h : x.mapError f = .ok a) : x = .ok a := by
  cases x with
  | error err => cases h
  | ok a' =>
    cases h
    rfl

section Builders

variable {urls : Urls} {fromStr : List Char → Option HeaderValue} {url : Url}
  {baseUrl path : List Char} {method : Method} {header : Option Serialized}
  {query : Option Query} {body : Option Payload} {encodingType : ContentType}

theorem prepareRequest_ok {r : Request}
    (h : prepareRequest urls fromStr url path method header query body encodingType = .ok r) :
    ∃ pairs headers octets, serializeQuery query = .ok pairs ∧
      extendHeaders fromStr ∅ header = .ok headers ∧
      body.mapM (fun t => serializeBody t encodingType) = .ok octets ∧
      r = { method
            url := (urls.setPath url (removeLeadingSlash path)).queryPairsMut (pairs.getD [])
            headers := headers.insert CONTENT_TYPE encodingType.toHeaderValue
            body := octets } := by
  unfold prepareRequest at h
  obtain ⟨pairs, hpairs, h⟩ := ok_of_bind h
  obtain ⟨headers, hheaders, h⟩ := ok_of_bind h
  obtain ⟨octets, hoctets, h⟩ := ok_of_bind h
  cases h
  exact ⟨pairs, headers, octets, hpairs, hheaders, hoctets, rfl⟩

/-- The URL of `prepare_http_request`, with the query but without the path. -/
def queriedUrl (urls : Urls) (url : Url) (pairs : Option (List Pair)) : Url :=
  pairs.elim url fun pairs => urls.setQuery url (serialize pairs)

/-- What `prepare_http_request` has computed when it succeeds. The path is in none of it: the URL it
joins to the base is bound to a name that nothing reads. -/
theorem prepareHttpRequest_ok {r : HttpRequest} (hbase : urls.parse baseUrl = .ok url)
    (h : prepareHttpRequest urls fromStr baseUrl path method header query body encodingType =
      .ok r) :
    ∃ pairs headers octets uri, serializeQuery query = .ok pairs ∧
      extendHeaders fromStr ∅ header = .ok headers ∧
      body.elim (.ok []) (fun b => serializeBody b encodingType) = .ok octets ∧
      urls.parseUri (queriedUrl urls url pairs).toString = .ok uri ∧
      r = { method, uri, version := .http2
            headers := headers.insert CONTENT_TYPE encodingType.toHeaderValue
            body := octets } := by
  unfold prepareHttpRequest at h
  obtain ⟨url', hurl, h⟩ := ok_of_bind h
  cases hbase.symm.trans (ok_of_mapError hurl)
  obtain ⟨_, -, h⟩ := ok_of_bind h
  obtain ⟨pairs, hpairs, h⟩ := ok_of_bind h
  obtain ⟨octets, hoctets, h⟩ := ok_of_bind h
  obtain ⟨uri, huri, h⟩ := ok_of_bind h
  obtain ⟨headers, hheaders, h⟩ := ok_of_bind h
  cases h
  refine ⟨pairs, headers, octets, uri, hpairs, hheaders, hoctets, ?_, rfl⟩
  cases pairs <;> exact ok_of_mapError huri

/-! ## Agreement

The two requests are compared part by part. Queries are compared after decoding, since the one
builder replaces the query of its URL and the other appends to it. -/

/-- The octets that a request is sent with. -/
def Request.bodyOctets (r : Request) : Body := r.body.getD []

/-- Two requests that go to the path with the same contents. -/
structure Agree (path : List Char) (r : Request) (r' : HttpRequest) : Prop where
  method : r.method = r'.method
  path : r.url.path.text = path ∧ r'.uri.path.text = path
  queryPairs : queryPairs r.url.query = queryPairs r'.uri.query
  headers : r.headers = r'.headers
  body : r.bodyOctets = r'.body

/-- The two queries of the same pairs, read back. The form-urlencoded text of a list of pairs is
parsed to that list. -/
theorem queryPairs_eq (hdoc : urls.Documented) {url url' : Url} (hurl : url.query = none)
    (hurl' : url'.query = none) (pairs : Option (List Pair)) :
    queryPairs (url.queryPairsMut (pairs.getD [])).query =
      queryPairs (queriedUrl urls url' pairs).query := by
  have happend : ∀ pairs, queryPairs (url.queryPairsMut pairs).query = pairs := by
    intro pairs
    show FormUrlEncoded.parse ((url.query.getD ⟨[], List.not_mem_nil⟩).append pairs).text = pairs
    rw [hurl]
    exact FormUrlEncoded.parse_serialize pairs
  rw [happend]
  -- without pairs the URL is left without a query
  cases pairs with
  | none =>
    show [] = queryPairs url'.query
    rw [hurl']
    rfl
  | some pairs =>
    show pairs = FormUrlEncoded.parse (urls.parseQuery (serialize pairs)).text
    rw [hdoc.parseQuery_serialize, FormUrlEncoded.parse_serialize]

/-- The octets of the same body. No body and an empty one are both sent as nothing. -/
theorem body_eq {octets : Option Body} {octets' : Body}
    (h : body.mapM (fun t => serializeBody t encodingType) = .ok octets)
    (h' : body.elim (.ok []) (fun b => serializeBody b encodingType) = .ok octets') :
    octets.getD [] = octets' := by
  -- what has no body gets none from either builder
  cases body with
  | none =>
    cases h
    cases h'
    rfl
  | some b =>
    obtain ⟨b', hb, hoctets⟩ := ok_of_bind (show serializeBody b encodingType >>= _ = _ from h)
    cases hoctets
    cases hb.symm.trans h'
    rfl

theorem queriedUrl_path (pairs : Option (List Pair)) :
    (queriedUrl urls url pairs).path = url.path := by
  cases pairs <;> rfl

/-- Two requests from the same parts have everything in common but the path: the one goes to the
path that was passed in, as `set_path` reads it, and the other to the root. -/
theorem same_but_path (hdoc : urls.Documented) (hbase : urls.parse baseUrl = .ok url)
    (horigin : url.OriginOnly) {r : Request} {r' : HttpRequest}
    (h : prepareRequest urls fromStr url path method header query body encodingType = .ok r)
    (h' : prepareHttpRequest urls fromStr baseUrl path method header query body encodingType =
      .ok r') :
    r.url.path = urls.parsePath (removeLeadingSlash path) ∧ r'.uri.path.text = ['/'] ∧
      r.method = r'.method ∧ queryPairs r.url.query = queryPairs r'.uri.query ∧
      r.headers = r'.headers ∧ r.bodyOctets = r'.body := by
  obtain ⟨pairs, headers, octets, hpairs, hheaders, hoctets, rfl⟩ := prepareRequest_ok h
  obtain ⟨pairs', headers', octets', uri, hpairs', hheaders', hoctets', huri, rfl⟩ :=
    prepareHttpRequest_ok hbase h'
  obtain rfl := Except.ok.inj (hpairs.symm.trans hpairs')
  obtain rfl := Except.ok.inj (hheaders.symm.trans hheaders')
  obtain rfl := hdoc.parseUri_toString _ _ huri
  -- the path of the second URL is still that of its base, and the queries need decoding
  refine ⟨rfl, ?_, rfl, ?_, rfl, body_eq hoctets hoctets'⟩
  · show (queriedUrl urls url pairs).path.text = ['/']
    rw [queriedUrl_path]
    exact horigin.1
  · have hset : (urls.setPath url (removeLeadingSlash path)).query = none := horigin.2.1
    exact queryPairs_eq hdoc hset horigin.2.1 pairs

/-- **Agreement, exactly at the root.** Two requests from the same parts have the same method, the
path that was passed in, the same decoded query pairs, the same headers and the same body if and
only if the path is `/`. Everything but the path agrees anyway. -/
theorem requests_agree_iff (hdoc : urls.Documented) (hbase : urls.parse baseUrl = .ok url)
    (horigin : url.OriginOnly) {r : Request} {r' : HttpRequest}
    (h : prepareRequest urls fromStr url path method header query body encodingType = .ok r)
    (h' : prepareHttpRequest urls fromStr baseUrl path method header query body encodingType =
      .ok r') :
    Agree path r r' ↔ path = ['/'] := by
  obtain ⟨hpath, hpath', hmethod, hquery, hheaders, hbody⟩ :=
    same_but_path hdoc hbase horigin h h'
  constructor
  · -- the paths: one is that of the request, the other `/`
    intro hagree
    exact hagree.path.2.symm.trans hpath'
  · rintro rfl
    refine ⟨hmethod, ⟨?_, hpath'⟩, hquery, hheaders, hbody⟩
    rw [hpath]
    exact hdoc.parsePath_nil

end Builders

/-! ## URLs that can be computed

One way to fill in `Urls`, good enough to run both builders. It reads a URL at its first slash,
question mark and number sign, and percent-encodes what would be read as an end. -/

/-- What is before the first of some characters, and what begins there. -/
def cut (ends text : List Char) : List Char × List Char := text.span fun c => !ends.contains c

/-- A text without the characters, and behind it one that begins with one of them or is empty. -/
theorem cut_append {ends text rest : List Char} (htext : ∀ c ∈ ends, c ∉ text)
    (hrest : ∀ c ∈ rest.head?, c ∈ ends) : cut ends (text ++ rest) = (text, rest) := by
  have hbefore : ∀ c ∈ text, (!ends.contains c) = true := fun c hc => by
    have hnot : c ∉ ends := fun hmem => htext c hmem hc
    simp [hnot]
  unfold cut
  rw [List.span_eq_takeWhile_dropWhile, List.takeWhile_append_of_pos hbefore,
    List.dropWhile_append_of_pos hbefore]
  cases rest with
  | nil => simp
  | cons c rest => simp [hrest c rfl]

/-- What is before the first of the characters has none of them. -/
theorem not_mem_cut {ends text : List Char} {c : Char} (hc : c ∈ ends) : c ∉ (cut ends text).1 := by
  unfold cut
  rw [List.span_eq_takeWhile_dropWhile]
  intro h
  have hnot := List.all_eq_true.mp List.all_takeWhile c h
  simp [hc] at hnot

/-- A query ends where a fragment begins. -/
def UrlQuery.read (text : List Char) : UrlQuery where
  text := (cut ['#'] text).1
  wellFormed := not_mem_cut (List.mem_singleton.mpr rfl)

/-- A URI, from parts that can be the parts of one. -/
def Uri.ofParts (scheme authority path : List Char) (query : Option UrlQuery) : Option Uri :=
  if horigin : ':' ∉ scheme ∧ '/' ∉ authority ∧ '?' ∉ authority ∧ '#' ∉ authority then
    if hpath : path.head? = some '/' ∧ '?' ∉ path ∧ '#' ∉ path then
      some ⟨⟨scheme, authority, horigin⟩, ⟨path, hpath⟩, query⟩
    else none
  else none

/-- A URI from its text. -/
def Uri.read (text : List Char) : Option Uri :=
  let scheme := cut [':'] text
  let authority := cut ['/', '?', '#'] (scheme.2.drop 3)
  let path := cut ['?', '#'] authority.2
  Uri.ofParts scheme.1 authority.1 path.1
    (if path.2.head? = some '?' then some (UrlQuery.read (path.2.drop 1)) else none)

/-- What is printed behind the path is read as the query that it was. The fragment is dropped, as
`http::Uri` has none. -/
theorem read_query (query : Option UrlQuery) (fragment : Option (List Char)) :
    let text := (query.elim [] fun query => '?' :: query.text) ++
      (fragment.elim [] fun fragment => '#' :: fragment)
    (∀ c ∈ text.head?, c ∈ ['?', '#']) ∧
      (if text.head? = some '?' then some (UrlQuery.read (text.drop 1)) else none) = query := by
  -- with a query the fragment begins where the query ends
  cases query with
  | none => cases fragment <;> simp
  | some query =>
    have hread : ∀ rest : List Char, (∀ c ∈ rest.head?, c = '#') →
        UrlQuery.read (query.text ++ rest) = query := by
      intro rest hrest
      have hcut : cut ['#'] (query.text ++ rest) = (query.text, rest) :=
        cut_append (by simpa using query.wellFormed) (by simpa using hrest)
      obtain ⟨text, wellFormed⟩ := query
      simp only [UrlQuery.read, hcut]
    cases fragment with
    | none => simpa using hread [] (by simp)
    | some fragment => simpa using hread ('#' :: fragment) (by simp)

/-- What is printed is read. Each part ends before the first character that it may not have, so
cutting at these characters undoes the printing, part by part from the left. -/
theorem Uri.read_toString (url : Url) :
    Uri.read url.toString = some ⟨url.origin, url.path, url.query⟩ := by
  obtain ⟨⟨scheme, authority, horigin⟩, ⟨path, hpath⟩, query, fragment⟩ := url
  obtain ⟨htail, hquery⟩ := read_query query fragment
  have htext : Url.toString ⟨⟨scheme, authority, horigin⟩, ⟨path, hpath⟩, query, fragment⟩ =
      scheme ++ ':' :: '/' :: '/' :: (authority ++ (path ++
        ((query.elim [] fun query => '?' :: query.text) ++
          (fragment.elim [] fun fragment => '#' :: fragment)))) := by
    simp [Url.toString]
  generalize (query.elim [] fun query => '?' :: query.text) ++
    (fragment.elim [] fun fragment => '#' :: fragment) = tail at htail hquery htext
  -- each part is cut off at the first character that cannot be in it
  have hscheme : cut [':'] (scheme ++ ':' :: '/' :: '/' :: (authority ++ (path ++ tail))) =
      (scheme, ':' :: '/' :: '/' :: (authority ++ (path ++ tail))) :=
    cut_append (by simpa using horigin.1) (by simp)
  have hauthority : cut ['/', '?', '#'] (authority ++ (path ++ tail)) =
      (authority, path ++ tail) := by
    refine cut_append (by simpa using horigin.2) fun c hc => ?_
    rw [List.head?_append, hpath.1] at hc
    cases hc
    exact .head _
  have hpathText : cut ['?', '#'] (path ++ tail) = (path, tail) :=
    cut_append (by simpa using hpath.2) htail
  rw [htext]
  simp only [Uri.read, hscheme, List.drop_succ_cons, List.drop_zero, hauthority, hpathText, hquery]
  rw [Uri.ofParts, dif_pos horigin, dif_pos hpath]

/-- The text with some characters percent-encoded. -/
def percentEncode (set text : List Char) : List Char :=
  text.flatMap fun c =>
    if c ∈ set then FormUrlEncoded.encodeOctet (UInt8.ofNat c.toNat) else [c]

/-- A character that is encoded does not occur any more, unless the encoding itself makes it. -/
theorem not_mem_percentEncode {set text : List Char} {c : Char} (hset : c ∈ set)
    (hc : FormUrlEncoded.isPlain c = false ∧ c ≠ '+' ∧ c ≠ '%') : c ∉ percentEncode set text := by
  intro h
  obtain ⟨d, -, hd⟩ := List.mem_flatMap.mp h
  split at hd
  · have hnot : c ∉ FormUrlEncoded.encode [UInt8.ofNat d.toNat] :=
      FormUrlEncoded.not_mem_encode hc
    exact hnot (List.mem_append_left _ hd)
  · next hnot =>
    obtain rfl := List.mem_singleton.mp hd
    exact hnot hset

/-- A text without such characters stays as it is. -/
theorem percentEncode_of_not_mem {set text : List Char} (h : ∀ c ∈ set, c ∉ text) :
    percentEncode set text = text := by
  have hall : ∀ c ∈ text, (if c ∈ set then FormUrlEncoded.encodeOctet (UInt8.ofNat c.toNat)
      else [c]) = [c] := fun c hc => if_neg fun hset => h c hset hc
  unfold percentEncode
  rw [List.flatMap_congr hall]
  exact List.flatMap_singleton' text

/-- `http://127.0.0.10:8000`, the address of an NRF. -/
def nrfUri : List Char := "http://127.0.0.10:8000".toList

def nrfUrl : Url where
  origin := ⟨"http".toList, "127.0.0.10:8000".toList, by decide⟩
  path := ⟨['/'], by decide⟩
  query := none
  fragment := none

/-- A path that is kept but for the characters that would end it. -/
def readPath (text : List Char) : UrlPath where
  text := '/' :: percentEncode ['?', '#'] text
  wellFormed := by
    refine ⟨rfl, ?_, ?_⟩
    · simp [not_mem_percentEncode (c := '?') (.head _) (by decide)]
    · simp [not_mem_percentEncode (c := '#') (.tail _ (.head _)) (by decide)]

/-- URLs with one address, and paths without dot segments. -/
def nrfUrls : Urls where
  parse text := if text = nrfUri then .ok nrfUrl else .error "relative URL without a base"
  join url text := .ok { url with path := readPath (removeLeadingSlash text), query := none }
  parsePath := readPath
  parseQuery text := ⟨percentEncode ['#'] text, not_mem_percentEncode (.head _) (by decide)⟩
  parseUri text := match Uri.read text with
    | some uri => .ok uri
    | none => .error "invalid format"

/-- So this is one of the readings that the results are about. -/
theorem nrfUrls_documented : nrfUrls.Documented where
  parsePath_nil := rfl
  parseQuery_serialize pairs := by
    refine percentEncode_of_not_mem fun c hc => ?_
    obtain rfl := List.mem_singleton.mp hc
    exact FormUrlEncoded.not_mem_serialize (by decide) (by decide) (by decide)
  parseUri_toString url uri h := by
    simp only [nrfUrls, Uri.read_toString] at h
    exact (Except.ok.inj h).symm

/-- A header, a pair and a body. -/
def someHeader : Serialized := .struct [⟨"accept".toList, .ok (.string "text".toList)⟩]

def someQuery : Query := .ok [([0x6E, 0x66], [0x41, 0x20, 0x42])]

def someBody : Payload where
  json := .ok [0x7B, 0x7D]
  form := .ok []

/-- The two requests to `/` agree, with a header, a query and a body. -/
theorem agree_at_root :
    ∃ r r', prepareRequest nrfUrls opaqueFromStr nrfUrl ['/'] "POST" (some someHeader)
        (some someQuery) (some someBody) .appJson = .ok r ∧
      prepareHttpRequest nrfUrls opaqueFromStr nrfUri ['/'] "POST" (some someHeader)
        (some someQuery) (some someBody) .appJson = .ok r' ∧
      Agree ['/'] r r' := by
  obtain ⟨r, hr⟩ : ∃ r, prepareRequest nrfUrls opaqueFromStr nrfUrl ['/'] "POST" (some someHeader)
    (some someQuery) (some someBody) .appJson = .ok r := ⟨_, rfl⟩
  obtain ⟨r', hr'⟩ : ∃ r', prepareHttpRequest nrfUrls opaqueFromStr nrfUri ['/'] "POST"
    (some someHeader) (some someQuery) (some someBody) .appJson = .ok r' := ⟨_, rfl⟩
  exact ⟨r, r', hr, hr',
    (requests_agree_iff nrfUrls_documented rfl ⟨rfl, rfl, rfl⟩ hr hr').mpr rfl⟩

/-- **A dropped path.** Of two requests to `/nf-instances`, one goes to the root. This is where
`register_nf_instance` of an NRF would be. -/
theorem path_dropped :
    nrfUrls.Documented ∧ nrfUrls.parse nrfUri = .ok nrfUrl ∧ nrfUrl.OriginOnly ∧
      ∃ r r', prepareRequest nrfUrls opaqueFromStr nrfUrl "/nf-instances".toList "PUT" none none
          (some someBody) .appJson = .ok r ∧
        prepareHttpRequest nrfUrls opaqueFromStr nrfUri "/nf-instances".toList "PUT" none none
          (some someBody) .appJson = .ok r' ∧
        ¬ Agree "/nf-instances".toList r r' := by
  obtain ⟨r, hr⟩ : ∃ r, prepareRequest nrfUrls opaqueFromStr nrfUrl "/nf-instances".toList "PUT"
    none none (some someBody) .appJson = .ok r := ⟨_, rfl⟩
  obtain ⟨r', hr'⟩ : ∃ r', prepareHttpRequest nrfUrls opaqueFromStr nrfUri
    "/nf-instances".toList "PUT" none none (some someBody) .appJson = .ok r' := ⟨_, rfl⟩
  refine ⟨nrfUrls_documented, rfl, ⟨rfl, rfl, rfl⟩, r, r', hr, hr', fun hagree => ?_⟩
  obtain ⟨-, hroot, -⟩ := same_but_path nrfUrls_documented rfl ⟨rfl, rfl, rfl⟩ hr hr'
  exact absurd (hagree.path.2.symm.trans hroot) (by decide)

end UnifyAir.Client
