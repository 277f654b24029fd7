import Gatehouse.Proofs.Net.Address
import Gatehouse.Proofs.Route.Grammar
import Gatehouse.Request.Head
import Mathlib.Data.List.TakeDrop

/-!
The envelope that a request starts with.

Whatever the head of a request looks like, no field of its envelope is set and empty, what comes
from header fields has no white space at its ends, and what only backends or the gateway itself may
say is not there. A token is taken from the query only if the first authorization field says
nothing. The fields behind it are not looked at, so they do not keep the query out.
-/

namespace Gatehouse

open Text (Trimmed trimmed_trim)

/-- The texts of an envelope, each of which may be set. -/
def Envelope.texts (e : Envelope) : List (Option String) :=
  [e.module, e.param, e.paramId, e.action, e.path, e.token, e.sign, e.ip, e.userAgent, e.tokenType,
    e.language, e.apiVersion, e.method, e.uid]

/-- What only backends or the gateway itself say is not there. -/
structure Envelope.Unclaimed (e : Envelope) : Prop where
  action : e.action = none
  sign : e.sign = none
  timestamp : e.timestamp = none
  uid : e.uid = none
  isAdmin : e.isAdmin = none
  sessionEnd : e.sessionEnd = none
  completed : e.completed = none
  readonly : e.readonly = none
  inner : e.inner = none
  args : e.args = ∅

/-- A text that is there and has no white space at its ends. -/
structure Solid (text : String) : Prop where
  nonempty : text ≠ ""
  trimmed : Trimmed text

namespace Headers

/-- The value of a field can be read as text and is not blank. -/
def Says (value : Bytes) : Prop := ∃ text, visible? value = some text ∧ Text.trim text ≠ ""

/-- A field is there that says something. -/
def Presents (headers : Headers) (name : String) : Prop :=
  ∃ field ∈ headers, field.1 = name ∧ Says field.2

/-- The first field of a name says something. -/
def PresentsFirst (headers : Headers) (name : String) : Prop :=
  ∃ value, headers.get? name = some value ∧ Says value

variable {headers : Headers} {name text : String}

theorem solid_of_text? (found : headers.text? name = some text) : Solid text := by
  obtain ⟨read, nonempty⟩ := Option.filter_eq_some_iff.mp found
  obtain ⟨raw, -, rfl⟩ := Option.map_eq_some_iff.mp read
  exact ⟨by simpa using nonempty, trimmed_trim raw⟩

theorem PresentsFirst.text? (presents : headers.PresentsFirst name) :
    ∃ text, headers.text? name = some text := by
  obtain ⟨value, first, raw, read, nonempty⟩ := presents
  refine ⟨Text.trim raw, Option.filter_eq_some_iff.mpr ⟨?_, by simpa using nonempty⟩⟩
  rw [raw?, first, Option.bind_some, read, Option.map_some]

end Headers

namespace Request

theorem solid_of_nonBlank? {s text : String} (found : nonBlank? s = some text) : Solid text := by
  obtain ⟨isTrim, nonempty⟩ := Option.filter_eq_some_iff.mp found
  cases isTrim
  exact ⟨by simpa using nonempty, trimmed_trim s⟩

namespace Head

variable {head : Head} {path : ApiPath}

/-! ## What is read from header fields -/

theorem solid_clientIp (complete : ∀ ip ∈ head.peer, ip.IsComplete) : Solid head.clientIp := by
  unfold clientIp
  split
  · rename_i hop found
    obtain ⟨hops, -, first⟩ := Option.bind_eq_some_iff.mp found
    exact solid_of_nonBlank? first
  · split
    · rename_i ip found
      exact Headers.solid_of_text? found
    · split
      · rename_i ip isPeer
        exact ⟨Net.IpAddr.text_ne_empty (complete ip isPeer), ip.trimmed_text⟩
      · exact ⟨by decide, Text.trimmed_of_plain (by simp [Text.isBlank])⟩

theorem solid_of_language? {tag : String} (found : head.language? = some tag) : Solid tag := by
  unfold language? at found
  split at found
  · exact solid_of_nonBlank? (Option.filter_eq_some_iff.mp found).1
  · cases found

/-- A token stands behind the word for its kind and a blank. -/
theorem of_authorizationToken? {value token : String}
    (found : authorizationToken? value = some token) :
    Solid token ∧ ∃ scheme rest, value = scheme ++ " " ++ rest ∧
      Headers.lower scheme = "bearer" ∧ Text.trim rest = token := by
  rw [authorizationToken?, List.span_eq_takeWhile_dropWhile] at found
  dsimp only at found
  split at found
  · cases found
  · rename_i fits
    rw [not_or, Decidable.not_not] at fits
    obtain ⟨more, isBearer⟩ := fits
    obtain ⟨c, rest, behind⟩ := List.exists_cons_of_ne_nil (mt List.isEmpty_iff.mpr more)
    have blank : c = ' ' := by
      have stop := List.head?_dropWhile_not (· != ' ') value.toList
      rw [behind, List.head?_cons] at stop
      simpa using stop
    subst blank
    rw [behind, List.drop_one, List.tail_cons] at found
    refine ⟨solid_of_nonBlank? found, _, String.ofList rest, ?_, isBearer, ?_⟩
    · apply String.toList_inj.mp
      simp only [String.toList_append, String.toList_ofList, List.append_assoc]
      change value.toList = _ ++ ' ' :: rest
      rw [← behind, List.takeWhile_append_dropWhile]
    · exact Option.some.inj (Option.filter_eq_some_iff.mp found).1

/-! ## Tokens -/

theorem token?_of_presentsFirst {value : String}
    (present : head.headers.text? "authorization" = some value) :
    head.token? = (authorizationToken? value).map fun token => (bearer, token) := by
  rw [token?, present]

/-- Neither a token nor its kind is empty. -/
theorem nonempty_of_token? {kind token : String} (found : head.token? = some (kind, token)) :
    kind ≠ "" ∧ token ≠ "" := by
  unfold token? at found
  split at found
  · obtain ⟨inHeader, isToken, pair⟩ := Option.map_eq_some_iff.mp found
    cases pair
    exact ⟨by decide, (of_authorizationToken? isToken).1.nonempty⟩
  · split at found
    · rename_i inQuery isToken
      cases found
      have nonempty := (Option.filter_eq_some_iff.mp isToken).2
      refine ⟨?_, by simpa using nonempty⟩
      cases kind : (head.query.get? "token_type").filter (! ·.isEmpty) with
      | none => decide
      | some kind =>
        have nonempty := (Option.filter_eq_some_iff.mp kind).2
        simpa using nonempty
    · cases found

theorem tokenType_isSome_iff :
    (head.envelope path).token.isSome = true ↔ (head.envelope path).tokenType.isSome = true := by
  simp [envelope]

/-- What the first authorization field says decides on the token, whatever the query is. -/
theorem token_of_presentsFirst (presents : head.headers.PresentsFirst "authorization") :
    (∀ token ∈ (head.envelope path).token, Solid token ∧ ∃ scheme rest,
        head.headers.text? "authorization" = some (scheme ++ " " ++ rest) ∧
        Headers.lower scheme = "bearer" ∧ Text.trim rest = token) ∧
      ∀ uri : Uri,
        ({ head with uri }.envelope path).token = (head.envelope path).token ∧
        ({ head with uri }.envelope path).tokenType = (head.envelope path).tokenType := by
  obtain ⟨value, present⟩ := presents.text?
  constructor
  · intro token isToken
    rw [Option.mem_def, envelope, token?_of_presentsFirst present, Option.map_map,
      Option.map_eq_some_iff] at isToken
    obtain ⟨inHeader, found, rfl⟩ := isToken
    obtain ⟨solid, scheme, rest, rfl, isBearer, trimmed⟩ := of_authorizationToken? found
    exact ⟨solid, scheme, rest, present, isBearer, trimmed⟩
  · intro uri
    let other : Head := { head with uri }
    have otherPresent : other.headers.text? "authorization" = some value := present
    have same : other.token? = head.token? := by
      rw [token?_of_presentsFirst present, token?_of_presentsFirst otherPresent]
    change other.token?.map _ = _ ∧ other.token?.map _ = _
    rw [same]
    exact ⟨rfl, rfl⟩

/-! ## The envelope -/

theorem unclaimed_envelope (head : Head) (path : ApiPath) : (head.envelope path).Unclaimed :=
  ⟨rfl, rfl, rfl, rfl, rfl, rfl, rfl, rfl, rfl, rfl⟩

theorem ne_some_empty {text : Option String} (filled : ∀ s ∈ text, s ≠ "") : text ≠ some "" :=
  fun empty => filled "" empty rfl

/-- A field that is set is not empty. -/
theorem nonempty_of_mem_texts (parts : ∀ part ∈ path.segments, part ≠ "")
    (hasMethod : head.method ≠ "") (hasPath : head.uri.path ≠ "")
    (complete : ∀ ip ∈ head.peer, ip.IsComplete) :
    ∀ text ∈ (head.envelope path).texts, text ≠ some "" := by
  have part {s : String} (member : s ∈ path.segments) : some s ≠ some "" :=
    fun empty => parts s member (Option.some.inj empty)
  have tokens : ∀ pair ∈ head.token?, pair.1 ≠ "" ∧ pair.2 ≠ "" :=
    fun pair isToken => nonempty_of_token? isToken
  simp only [Envelope.texts, envelope, List.forall_mem_cons]
  refine ⟨part ?module, ne_some_empty ?param, ne_some_empty ?paramId, nofun, ?path,
    ne_some_empty ?token, nofun, ?ip, ne_some_empty ?userAgent, ne_some_empty ?tokenType,
    ne_some_empty ?language, part ?version, ?method, nofun, nofun⟩
  case module | version => simp [ApiPath.segments]
  case param =>
    intro s isParam
    exact parts s (by simp [ApiPath.segments, Option.mem_def.mp isParam])
  case paramId =>
    intro s isId
    exact parts s (by simp [ApiPath.segments, Option.mem_def.mp isId])
  case path => simpa using hasPath
  case method => simpa using hasMethod
  case ip => simpa using (solid_clientIp complete).nonempty
  case userAgent => exact fun s found => (Headers.solid_of_text? found).nonempty
  case language => exact fun s found => (solid_of_language? found).nonempty
  case token =>
    intro s isToken
    obtain ⟨pair, found, rfl⟩ := Option.map_eq_some_iff.mp isToken
    exact (tokens pair found).2
  case tokenType =>
    intro s isKind
    obtain ⟨pair, found, rfl⟩ := Option.map_eq_some_iff.mp isKind
    exact (tokens pair found).1

theorem trimmed_of_mem (complete : ∀ ip ∈ head.peer, ip.IsComplete) :
    let e := head.envelope path
    ∀ text ∈ [e.ip, e.userAgent, e.language], ∀ s ∈ text, Trimmed s := by
  simp only [envelope, List.forall_mem_cons]
  refine ⟨?ip, ?userAgent, ?language, nofun⟩
  case ip =>
    rintro s ⟨⟩
    exact (solid_clientIp complete).trimmed
  case userAgent => exact fun s found => (Headers.solid_of_text? found).trimmed
  case language => exact fun s found => (solid_of_language? found).trimmed

theorem nonempty_of_parse? {text : String} (accepted : ApiPath.parse? text = some path) :
    ∀ part ∈ path.segments, part ≠ "" := by
  have spells := ApiPath.parse?_eq_some_iff_spells.mp accepted
  simp only [ApiPath.segments, List.forall_mem_cons, List.forall_mem_append, Option.mem_toList]
  exact ⟨spells.version.nonempty, spells.module.nonempty,
    fun part isParam => (spells.param part isParam).nonempty,
    fun part isId => (spells.paramId part isId).nonempty⟩

/-- The envelope of any request whose path names a module.

No field of it is set and empty, and so a token that is there is one. The address of the client, its
program and its language have no white space at their ends. A token comes with its kind. If the
first authorization field says something, it alone decides: a token is what it says behind the word
for its kind, without white space at the ends, and any other query gives the same token. What only
backends or the gateway itself say is not there. -/
theorem envelope_filled {text : String} (accepted : ApiPath.parse? text = some path)
    (hasMethod : head.method ≠ "") (hasPath : head.uri.path ≠ "")
    (complete : ∀ ip ∈ head.peer, ip.IsComplete) :
    let e := head.envelope path
    (∀ text ∈ e.texts, text ≠ some "") ∧
      (∀ text ∈ [e.ip, e.userAgent, e.language], ∀ s ∈ text, Trimmed s) ∧
      (e.token.isSome = true ↔ e.tokenType.isSome = true) ∧
      (head.headers.PresentsFirst "authorization" →
        (∀ token ∈ e.token, Solid token ∧ ∃ scheme rest,
          head.headers.text? "authorization" = some (scheme ++ " " ++ rest) ∧
          Headers.lower scheme = "bearer" ∧ Text.trim rest = token) ∧
        ∀ uri : Uri, ({ head with uri }.envelope path).token = e.token ∧
          ({ head with uri }.envelope path).tokenType = e.tokenType) ∧
      e.Unclaimed := by
  intro e
  exact ⟨nonempty_of_mem_texts (nonempty_of_parse? accepted) hasMethod hasPath complete,
    trimmed_of_mem complete, tokenType_isSome_iff, token_of_presentsFirst,
    unclaimed_envelope head path⟩

/-- The first hop is blank, the authorization field is for another scheme and the language has
parameters only, so none of them is there, and the token of the query does not count. -/
theorem envelope_filled_sparse :
    let uri : Uri := ⟨"/api/v1/reports/", some "access_token=q"⟩
    let head : Head := ⟨"GET", uri, [("x-forwarded-for", utf8 " , 10.0.0.1"),
      ("x-real-ip", utf8 "\t192.0.2.1 "), ("authorization", utf8 "Basic dXNlcjpwdw=="),
      ("accept-language", utf8 ";q=0.5")], some (.v4 127 0 0 1)⟩
    let path : ApiPath := ⟨"v1", "reports", none, none⟩
    ApiPath.parse? "/api/v1/reports/" = some path ∧ head.method ≠ "" ∧ head.uri.path ≠ "" ∧
      (∀ ip ∈ head.peer, ip.IsComplete) ∧ head.headers.PresentsFirst "authorization" ∧
      (head.envelope path).token = none ∧ (head.envelope path).ip = some "192.0.2.1" ∧
      Trimmed "192.0.2.1" := by
  intro uri head path
  have accepted : ApiPath.parse? "/api/v1/reports/" = some path := by decide +kernel
  have complete : ∀ ip ∈ head.peer, ip.IsComplete := by
    rintro ip ⟨⟩
    trivial
  have presents : head.headers.PresentsFirst "authorization" :=
    ⟨utf8 "Basic dXNlcjpwdw==", by decide +kernel, "Basic dXNlcjpwdw==", by decide +kernel,
      by decide +kernel⟩
  have ip : (head.envelope path).ip = some "192.0.2.1" := by decide +kernel
  obtain ⟨-, trimmed, -, authorized, -⟩ :=
    envelope_filled accepted (by decide : head.method ≠ "") (by decide) complete
  have token : (head.envelope path).token = none := by
    rw [← ((authorized presents).2 ⟨"/api/v1/reports/", none⟩).1]
    decide +kernel
  exact ⟨accepted, by decide, by decide, complete, presents, token, ip,
    trimmed _ List.mem_cons_self _ ip⟩

/-- Behind an authorization field that is blank there is one that is not, and the token of the query
is taken. And a target that is an authority alone has no path. -/
theorem query_token_taken :
    (¬ ∀ (head : Head) (path : ApiPath), ApiPath.parse? head.uri.path = some path →
        head.headers.Presents "authorization" → ∀ uri : Uri,
          ({ head with uri }.envelope path).token = (head.envelope path).token) ∧
      ¬ ∀ (head : Head) (path : ApiPath) (source target : String),
        ApiPath.parse? source = some path → Uri.parse? target = some head.uri →
        ∀ text ∈ (head.envelope path).texts, text ≠ some "" := by
  let path : ApiPath := ⟨"v1", "reports", none, none⟩
  constructor
  · intro always
    let head : Head := ⟨"GET", ⟨"/api/v1/reports", some "access_token=q"⟩,
      [("authorization", []), ("authorization", utf8 "Basic dXNlcjpwdw==")], none⟩
    have presents : head.headers.Presents "authorization" :=
      ⟨("authorization", utf8 "Basic dXNlcjpwdw=="), by simp [head], rfl, "Basic dXNlcjpwdw==",
        by decide +kernel, by decide +kernel⟩
    have same := always head path (by decide +kernel) presents ⟨"/api/v1/reports", none⟩
    revert same
    decide +kernel
  · intro always
    let head : Head := ⟨"GET", ⟨"", none⟩, [], none⟩
    have filled := always head path "/api/v1/reports" "example.com:80" (by decide +kernel)
      (by decide +kernel)
    exact filled (some "") (by simp [Envelope.texts, envelope, head]) rfl

end Head

end Request

end Gatehouse
