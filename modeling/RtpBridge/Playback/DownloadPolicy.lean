/-
Where a download may go.

A download follows up to five redirects, and the server chooses where they lead.  Every hop is
checked against the policy of `playback/download_policy.rs`: the origin of its URL, and the
addresses the name stands for at that moment, which are then the only ones the client may
connect to.  What the resolver and the servers answer is arbitrary here.

How a URL is read, joined and printed is a parameter, and the client is taken to connect to the
addresses it is given.
-/
import RtpBridge.Base.IpAddr

namespace RtpBridge.Playback.Download

open List

/-! ## URLs -/

inductive Host
  | domain (name : Text)
  | ipv4 (bits : BitVec 32)
  | ipv6 (bits : BitVec 128)
deriving DecidableEq

structure Url where
  scheme : Text
  username : Text := []
  password : Option Text := none
  host : Option Host
  port : Option UInt16 := none
  path : Text := ['/']
  query : Option Text := none
  fragment : Option Text := none
deriving DecidableEq

structure Origin where
  scheme : Text
  host : Host
  port : UInt16
deriving DecidableEq

def http : Text := "http".toList
def https : Text := "https".toList

namespace Url

def portOrKnownDefault (url : Url) : Option UInt16 :=
  url.port.or
    (if url.scheme = http then some 80 else if url.scheme = https then some 443 else none)

def origin (url : Url) : Option Origin :=
  match url.host, url.portOrKnownDefault with
  | some host, some port => if url.scheme = http ∨ url.scheme = https then
      some ⟨url.scheme, host, port⟩ else none
  | _, _ => none

end Url

/-- The `url` crate. -/
structure UrlCrate where
  parse : Text → Option Url
  join : Url → Text → Option Url
  asStr : Url → Text
  asciiSerialization : Option Origin → Text

/-! ## Addresses -/

def cidr4 (a b c d : Nat) (len : Fin 33) : IpNet :=
  .v4 (BitVec.ofNat 32 (((a * 256 + b) * 256 + c) * 256 + d)) len

def v4Deny : List IpNet :=
  [cidr4 0 0 0 0 8, cidr4 10 0 0 0 8, cidr4 100 64 0 0 10, cidr4 127 0 0 0 8, cidr4 169 254 0 0 16,
    cidr4 172 16 0 0 12, cidr4 192 0 0 0 24, cidr4 192 0 2 0 24, cidr4 192 168 0 0 16,
    cidr4 198 18 0 0 15, cidr4 198 51 100 0 24, cidr4 203 0 113 0 24, cidr4 224 0 0 0 4,
    cidr4 240 0 0 0 4]

/-- `2000::/3`. -/
def globalUnicast : IpNet := .v6 (0x2000#128 <<< 112) 3

/-- `2001::/23`, `2001:db8::/32` and `2002::/16`. -/
def v6Deny : List IpNet :=
  [.v6 (0x2001#128 <<< 112) 23, .v6 (0x20010DB8#128 <<< 96) 32, .v6 (0x2002#128 <<< 112) 16]

def publicAddress (ip : IpAddr) : Bool :=
  match ip with
  | .v4 _ => !v4Deny.any (·.contains ip)
  | .v6 _ => globalUnicast.contains ip && !v6Deny.any (·.contains ip)

/-! ## The policy -/

structure DownloadPolicy where
  origins : List Text := []
  networks : List IpNet := []
  loopbackOnly : Bool := false

def validateUrl (url : Url) : Except String Unit :=
  if !(url.scheme == http || url.scheme == https) || url.host.isNone || !url.username.isEmpty ||
      url.password.isSome || url.fragment.isSome then
    .error "playback requires an HTTP(S) URL without userinfo or fragment"
  else .ok ()

def literalLoopback (url : Url) : Bool :=
  match url.host with
  | some (.ipv4 bits) => IpAddr.isLoopback (.v4 bits)
  | some (.ipv6 bits) => IpAddr.isLoopback (IpAddr.toCanonical (.v6 bits))
  | _ => false

namespace DownloadPolicy

variable (crate : UrlCrate)

def configuredOrigin (origin : Text) : Except String Text :=
  match crate.parse origin with
  | none => .error "invalid file_download_origins URL"
  | some url => do
      validateUrl url
      if url.path ≠ ['/'] ∨ url.query.isSome ∨ url.fragment.isSome then
        .error "file_download_origins must be origins without paths, queries or fragments"
      else .ok (crate.asciiSerialization url.origin)

protected def new (origins : List Text) (networks : List IpNet) : Except String DownloadPolicy := do
  let normalized ← origins.mapM (configuredOrigin crate)
  return { origins := normalized, networks := networks, loopbackOnly := false }

def AllowsUrl (policy : DownloadPolicy) (url : Url) : Prop :=
  crate.asciiSerialization url.origin ∈ policy.origins ∨
    policy.loopbackOnly = true ∧ literalLoopback url = true

instance (policy : DownloadPolicy) (url : Url) : Decidable (policy.AllowsUrl crate url) :=
  inferInstanceAs (Decidable (_ ∨ _))

def validate (policy : DownloadPolicy) (raw : Text) : Except String Url :=
  match crate.parse raw with
  | none => .error "invalid playback URL"
  | some url => do
      validateUrl url
      if policy.AllowsUrl crate url then .ok url else .error "playback URL origin is not allowed"

def allowedIp (policy : DownloadPolicy) (ip : IpAddr) : Bool :=
  if policy.loopbackOnly then ip.toCanonical.isLoopback
  else policy.networks.any (·.contains ip.toCanonical) || publicAddress ip.toCanonical

end DownloadPolicy

/-! ## Headers -/

def isTokenChar (c : Char) : Bool :=
  c.isAlphanum || "!#$%&'*+-.^_`|~".toList.contains c

/-- `HeaderName::from_bytes`: names are kept in lower case. -/
def headerName (name : Text) : Option Text :=
  if name.isEmpty || 65535 < name.length || !name.all isTokenChar then none
  else some name.toAsciiLowercase

/-- `HeaderValue::from_str`. -/
def headerValue (value : Text) : Option Text :=
  if value.all fun c => (32 ≤ c.toNat && c.toNat < 127) || c == '\t' then some value else none

def routingHeader (name : Text) : Bool :=
  ["host".toList, "connection".toList, "content-length".toList, "transfer-encoding".toList,
    "upgrade".toList, "forwarded".toList, "proxy-authorization".toList].contains name ||
    name.startsWith "x-forwarded-".toList

def requestHeader (header : Text × Text) : Except String (Text × Text) :=
  match headerName header.1 with
  | none => .error "invalid playback header name"
  | some name =>
    if routingHeader name then .error "playback routing/hop-by-hop header is not allowed"
    else
      match headerValue header.2 with
      | none => .error "invalid playback header value"
      | some value => .ok (name, value)

/-! ## A hop -/

inductive Resolution
  | busy
  | unavailable
  | workerFailed
  | failed
  | addresses (addresses : List SocketAddr)

def resolveAddresses : Resolution → Except String (List SocketAddr)
  | .busy => .error "DNS_BUSY"
  | .unavailable => .error "playback DNS worker unavailable"
  | .workerFailed => .error "playback DNS worker failed"
  | .failed => .error "playback DNS resolution failed"
  | .addresses addresses => .ok (addresses.take 64)

structure Response where
  status : Nat
  location : Option Text := none

def Response.isRedirection (response : Response) : Bool :=
  300 ≤ response.status && response.status < 400

def Response.isSuccess (response : Response) : Bool :=
  200 ≤ response.status && response.status < 300

structure Answer where
  resolution : Resolution
  clientBuilt : Bool := true
  received : Option Response

structure Request where
  url : Url
  addresses : List SocketAddr
  headers : List (Text × Text)

namespace DownloadPolicy

variable (crate : UrlCrate) (policy : DownloadPolicy) (headers : Option (List (Text × Text)))

def hostAddresses (url : Url) (port : UInt16) (answer : Answer) : Except String (List SocketAddr) :=
  match url.host with
  | some (.ipv4 ip) => .ok [SocketAddr.new (.v4 ip) port]
  | some (.ipv6 ip) => .ok [SocketAddr.new (.v6 ip) port]
  | _ => resolveAddresses answer.resolution

def forwardedHeaders (forwardHeaders : Bool) : Except String (List (Text × Text)) :=
  if forwardHeaders then (headers.getD []).mapM requestHeader else .ok []

def request (url : Url) (forwardHeaders : Bool) (answer : Answer) : Except String Request :=
  if url.host.isNone then .error "playback URL has no host"
  else
    match url.portOrKnownDefault with
    | none => .error "playback URL has no port"
    | some port => do
        let addresses ← hostAddresses url port answer
        if addresses.isEmpty || addresses.any fun address => !policy.allowedIp address.ip then
          .error "playback destination address is not allowed"
        else if !answer.clientBuilt then .error "playback HTTP client initialization failed"
        else
          let forwarded ← forwardedHeaders headers forwardHeaders
          .ok ⟨url, addresses, forwarded⟩

def redirect (url : Url) (forwardHeaders : Bool) (response : Response) :
    Except String (Url × Bool) :=
  match response.location.bind (crate.join url) with
  | none => .error "invalid playback redirect"
  | some next => do
      let next ← policy.validate crate (crate.asStr next)
      if url.scheme = https ∧ next.scheme ≠ https then
        .error "playback HTTPS downgrade is forbidden"
      else .ok (next, if next.origin ≠ url.origin then false else forwardHeaders)

/-- The hops from one on, with the requests that went out.  Hop 5 is the last: `left` is
zero there. -/
def hops (answers : Nat → Answer) (left : Nat) (url : Url) (forwardHeaders : Bool) :
    List Request × Except String Response :=
  match policy.request headers url forwardHeaders (answers (5 - left)) with
  | .error e => ([], .error e)
  | .ok sent =>
    match (answers (5 - left)).received with
    | none => ([sent], .error "playback HTTP request failed")
    | some response =>
      if response.isRedirection then
        match left with
        | 0 => ([sent], .error "playback redirect limit exceeded")
        | left + 1 =>
          match policy.redirect crate url forwardHeaders response with
          | .error e => ([sent], .error e)
          | .ok (next, forward) =>
            let rest := hops answers left next forward
            (sent :: rest.1, rest.2)
      else if !response.isSuccess then
        ([sent], .error s!"Download failed with status {response.status}")
      else ([sent], .ok response)

def response (raw : Text) (answers : Nat → Answer) : List Request × Except String Response :=
  match policy.validate crate raw with
  | .error e => ([], .error e)
  | .ok url => policy.hops crate headers answers 5 url true

end DownloadPolicy

/-! ## What a hop can do -/

section Trail

variable (crate : UrlCrate) (policy : DownloadPolicy)

structure Sent (url : Url) (forwardHeaders : Bool) (r : Request) : Prop where
  url_eq : r.url = url
  nonempty : r.addresses ≠ []
  allowed : ∀ address ∈ r.addresses, policy.allowedIp address.ip = true
  bare : forwardHeaders = false → r.headers = []

structure Turn (url : Url) (forwardHeaders : Bool) (next : Url) (forward : Bool) : Prop where
  allows : policy.AllowsUrl crate next
  secure : url.scheme = https → next.scheme = https
  same : forward = true → forwardHeaders = true ∧ next.origin = url.origin

inductive Trail : Nat → Url → Bool → List Request → Prop
  | refused {left url forward} : Trail left url forward []
  | last {left url forward r} : Sent policy url forward r → Trail left url forward [r]
  | turn {left url forward r next forward' rest} : Sent policy url forward r →
      Turn crate policy url forward next forward' → Trail left next forward' rest →
      Trail (left + 1) url forward (r :: rest)

variable {crate policy} {headers : Option (List (Text × Text))} {answers : Nat → Answer}
  {url next : Url} {forward forward' : Bool}

theorem allowsUrl_of_validate {raw : Text} (h : policy.validate crate raw = .ok url) :
    policy.AllowsUrl crate url := by
  unfold DownloadPolicy.validate at h
  split at h
  · cases h
  rename_i parsed _
  cases hv : validateUrl parsed with
  | error e =>
    rw [hv] at h
    cases h
  | ok _ =>
    rw [hv] at h
    change (if policy.AllowsUrl crate parsed then Except.ok parsed else _) = _ at h
    grind

theorem sent_of_request {answer : Answer} {r : Request}
    (h : policy.request headers url forward answer = .ok r) : Sent policy url forward r := by
  unfold DownloadPolicy.request at h
  split at h
  · cases h
  split at h
  · cases h
  rename_i port _
  cases ha : DownloadPolicy.hostAddresses url port answer with
  | error e =>
    rw [ha] at h
    cases h
  | ok addresses =>
    rw [ha] at h
    simp only [bind, Except.bind] at h
    split at h
    · cases h
    rename_i hal
    rw [Bool.or_eq_true, not_or, List.isEmpty_iff] at hal
    split at h
    · cases h
    split at h
    · cases h
    rename_i forwarded hf
    cases h
    refine ⟨rfl, hal.1, fun address had => ?_, fun hfo => ?_⟩
    · grind
    rw [hfo] at hf
    cases hf
    rfl

theorem turn_of_redirect {response : Response}
    (h : policy.redirect crate url forward response = .ok (next, forward')) :
    Turn crate policy url forward next forward' := by
  unfold DownloadPolicy.redirect at h
  split at h
  · cases h
  rename_i joined _
  cases hv : policy.validate crate (crate.asStr joined) with
  | error e =>
    rw [hv] at h
    cases h
  | ok target =>
    rw [hv] at h
    simp only [bind, Except.bind] at h
    split at h
    · cases h
    rename_i hs
    cases h
    refine ⟨allowsUrl_of_validate hv, fun hsc => ?_, fun hfo => ?_⟩
    · by_contra hn
      exact hs ⟨hsc, hn⟩
    grind

theorem trail_hops (left : Nat) (url : Url) (forward : Bool) :
    Trail crate policy left url forward (policy.hops crate headers answers left url forward).1 := by
  induction left generalizing url forward with
  | zero =>
    unfold DownloadPolicy.hops
    split
    · exact .refused
    rename_i r hr
    have hs := sent_of_request hr
    split
    · exact .last hs
    split
    · exact .last hs
    split <;> exact .last hs
  | succ left ih =>
    unfold DownloadPolicy.hops
    split
    · exact .refused
    rename_i r hr
    have hs := sent_of_request hr
    split
    · exact .last hs
    split
    · dsimp only
      split
      · exact .last hs
      · rename_i next forward' hre
        exact .turn hs (turn_of_redirect hre) (ih next forward')
    split <;> exact .last hs

end Trail

/-! ## Whole downloads -/

namespace Trail

variable {crate : UrlCrate} {policy : DownloadPolicy} {left : Nat} {url : Url} {forward : Bool}
  {requests : List Request}

section

variable (h : Trail crate policy left url forward requests)
include h

theorem length_le : requests.length ≤ left + 1 := by
  induction h with
  | refused => exact Nat.zero_le _
  | last _ =>
    rw [length_singleton]
    omega
  | turn _ _ _ ih =>
    rw [length_cons]
    omega

theorem url_of_head {r : Request}
    (hr : requests[0]? = some r) : r.url = url := by
  cases h with
  | refused => cases hr
  | last hs =>
    cases hr
    exact hs.url_eq
  | turn hs _ _ =>
    cases hr
    exact hs.url_eq

theorem allowed (hu : policy.AllowsUrl crate url) :
    ∀ r ∈ requests, policy.AllowsUrl crate r.url ∧ r.addresses ≠ [] ∧
      ∀ address ∈ r.addresses, policy.allowedIp address.ip = true := by
  induction h with
  | refused => exact fun _ hr => absurd hr not_mem_nil
  | last hs => grind [hs.url_eq, hs.nonempty, hs.allowed]
  | turn hs ht _ ih => grind [hs.url_eq, hs.nonempty, hs.allowed, ht.allows]

theorem secure (hu : url.scheme = https) : ∀ r ∈ requests, r.url.scheme = https := by
  induction h with
  | refused => exact fun _ hr => absurd hr not_mem_nil
  | last hs =>
    intro r hr
    rw [mem_singleton.mp hr, hs.url_eq]
    exact hu
  | turn hs ht _ ih => grind [hs.url_eq, ht.secure]

theorem pairwise_secure :
    requests.Pairwise fun r r' => r.url.scheme = https → r'.url.scheme = https := by
  induction h with
  | refused => exact .nil
  | last _ => exact pairwise_singleton _ _
  | turn hs ht hr ih =>
    refine pairwise_cons.mpr ⟨fun r' hr' hsc => ?_, ih⟩
    rw [hs.url_eq] at hsc
    exact hr.secure (ht.secure hsc) r' hr'

theorem bare (hfo : forward = false) : ∀ r ∈ requests, r.headers = [] := by
  induction h with
  | refused => exact fun _ hr => absurd hr not_mem_nil
  | last hs =>
    intro r hr
    rw [mem_singleton.mp hr]
    exact hs.bare hfo
  | @turn left url forward r next forward' rest hs ht _ ih =>
    have ho : forward' = false := by
      by_contra hon
      have hsame := ht.same (Bool.not_eq_false _ ▸ hon)
      rw [hfo] at hsame
      exact absurd hsame.1 Bool.false_ne_true
    grind [hs.bare]

theorem stripped {i k j : Nat}
    (hik : i < k) (hkj : k ≤ j) {first other later : Request} (hf : requests[i]? = some first)
    (ho : requests[k]? = some other) (hl : requests[j]? = some later)
    (hor : other.url.origin ≠ first.url.origin) : later.headers = [] := by
  induction h generalizing i k j first with
  | refused => cases hf
  | last _ =>
    obtain ⟨k, rfl⟩ : ∃ k', k = k' + 1 := ⟨k - 1, by omega⟩
    cases ho
  | @turn left url forward r next forward' rest hs ht hr ih =>
    obtain ⟨k, rfl⟩ : ∃ k', k = k' + 1 := ⟨k - 1, by omega⟩
    obtain ⟨j, rfl⟩ : ∃ j', j = j' + 1 := ⟨j - 1, by omega⟩
    rw [List.getElem?_cons_succ] at ho hl
    cases i with
    | succ i =>
      rw [List.getElem?_cons_succ] at hf
      exact ih (by omega) (by omega) hf ho hl hor
    | zero =>
      cases hf
      rw [hs.url_eq] at hor
      cases hfo : forward' with
      | false => exact hr.bare hfo later (mem_of_getElem? hl)
      | true =>
        -- the next request has the same origin, so the change comes after it
        have hsame := (ht.same hfo).2
        cases k with
        | zero =>
          rw [hr.url_of_head ho] at hor
          exact absurd hsame hor
        | succ k =>
          obtain ⟨head, hh⟩ : ∃ head, rest[0]? = some head := by
            have hle := (List.getElem?_eq_some_iff.mp ho).1
            exact ⟨rest[0], List.getElem?_eq_getElem (by omega)⟩
          refine ih (Nat.succ_pos k) (by omega) hh ho hl ?_
          rw [hr.url_of_head hh, hsame]
          exact hor

end

end Trail

namespace DownloadPolicy

def requests (crate : UrlCrate) (policy : DownloadPolicy) (headers : Option (List (Text × Text)))
    (raw : Text) (answers : Nat → Answer) : List Request :=
  (policy.response crate headers raw answers).1

end DownloadPolicy

/-- No redirect and no name lookup steers a download away from the policy. -/
theorem downloads_confined (crate : UrlCrate) (policy : DownloadPolicy)
    (headers : Option (List (Text × Text))) (raw : Text) (answers : Nat → Answer) :
    (∀ r ∈ policy.requests crate headers raw answers,
      policy.AllowsUrl crate r.url ∧ r.addresses ≠ [] ∧
        ∀ address ∈ r.addresses, policy.allowedIp address.ip = true) ∧
      (∀ (i k j : Nat) (first other later : Request), i < k → k ≤ j →
        (policy.requests crate headers raw answers)[i]? = some first →
        (policy.requests crate headers raw answers)[k]? = some other →
        (policy.requests crate headers raw answers)[j]? = some later →
        other.url.origin ≠ first.url.origin → later.headers = []) ∧
      (policy.requests crate headers raw answers).Pairwise
        (fun r r' => r.url.scheme = https → r'.url.scheme = https) ∧
      (policy.requests crate headers raw answers).length ≤ 6 := by
  unfold DownloadPolicy.requests DownloadPolicy.response
  cases hvalid : policy.validate crate raw with
  | error e => simp
  | ok url =>
    have hallows := allowsUrl_of_validate hvalid
    have htrail : Trail crate policy 5 url true (policy.hops crate headers answers 5 url true).1 :=
      trail_hops 5 url true
    refine ⟨htrail.allowed hallows, ?_, htrail.pairwise_secure, htrail.length_le⟩
    intro i k j first other later hik hkj
    exact htrail.stripped hik hkj

def sampleCrate : UrlCrate where
  parse := fun name => some { scheme := https, host := some (.domain name) }
  join := fun _ name => some { scheme := https, host := some (.domain name) }
  asStr := fun url =>
    match url.host with
    | some (.domain name) => name
    | _ => []
  asciiSerialization := fun origin =>
    match origin with
    | some ⟨_, .domain name, _⟩ => name
    | _ => []

-- to another origin and back to the first: the headers go along only once
example : (({ origins := ["a".toList, "b".toList] } : DownloadPolicy).requests sampleCrate
      (some [("Authorization".toList, "Bearer".toList)]) "a".toList fun hop =>
        { resolution := .addresses [.v4 0x08080808 443]
          received := some ⟨302, some (if hop = 0 then "b".toList else "a".toList)⟩ }).map
      (fun r => r.headers.length) = [1, 0, 0, 0, 0, 0] := by
  decide +kernel

end RtpBridge.Playback.Download
