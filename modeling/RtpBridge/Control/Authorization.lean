/-
Who may control the bridge.

A connection sends one request.  `control/server.rs` reads its head, decides whether the request
is privileged and, with a key configured, lets a privileged one pass only with a signature of
its method and target under the key (`control/auth.rs`).  An upgrade to the audio plane carries
its own token instead.

The keyed hash, the readers of ids and authorities and the WebSocket handshake are parameters;
the handshake is taken to read the same request line.
-/
import RtpBridge.Base.Base64
import RtpBridge.Base.I64
import RtpBridge.Base.IpAddr

namespace RtpBridge.Control.Authorization

open Wire List Option

structure Libraries where
  hmacSha256 : Bytes → Text → Bytes
  parseUuid : Text → Option (BitVec 128)
  authorityHost : Text → Option Text

variable {lib : Libraries}

/-! ## The key -/

structure HmacAuthenticator where
  secret : Bytes
  maxAgeSecs : Nat

variable {auth : HmacAuthenticator}

namespace HmacAuthenticator

protected def new (secret : Bytes) (maxAgeSecs : Nat) : Except String HmacAuthenticator :=
  if secret.length < 32 then
    .error "HMAC authorization secret must contain at least 32 bytes"
  else if maxAgeSecs = 0 then
    .error "HMAC authorization maximum age must be greater than zero"
  else .ok ⟨secret, maxAgeSecs⟩

def fromSecretFile (contents : Bytes) (maxAgeSecs : Nat) : Except String HmacAuthenticator :=
  HmacAuthenticator.new (contents.reverse.dropWhile fun b => b = 10 || b = 13).reverse maxAgeSecs

end HmacAuthenticator

structure Config where
  authHmacSecretFile : Option Bytes
  authHmacMaxAgeSecs : Nat

namespace Config

def validate (config : Config) : Except String Unit :=
  if config.authHmacMaxAgeSecs = 0 ∨ 300 < config.authHmacMaxAgeSecs then
    .error "auth_hmac_max_age_secs must be between 1 and 300"
  else .ok ()

def authenticator (config : Config) : Except String (Option HmacAuthenticator) :=
  match config.validate with
  | .error e => .error e
  | .ok () =>
      match config.authHmacSecretFile with
      | none => .ok none
      | some contents =>
          (HmacAuthenticator.fromSecretFile contents config.authHmacMaxAgeSecs).map some

end Config

/-! ## Signatures -/

def decodeUrlSafe (t : Text) : Option Bytes :=
  if t.any fun c => c = '+' || c = '/' || c = '=' then none
  else
    let symbols := t.map fun c => if c = '-' then '+' else if c = '_' then '/' else c
    (Base64.decode (symbols ++ List.replicate ((4 - t.length % 4) % 4) '=')).toOption

def authScheme : Text := "HMAC-SHA256".toList

def canonicalRequest (timestamp : Int) (method target : Text) : Text :=
  "rtpbridge-auth-v1".toList ++ '\n' :: (I64.toText timestamp ++ '\n' :: (method ++ '\n' :: target))

abbrev EpochSecs := Fin (2 ^ 63)

namespace HmacAuthenticator

variable (lib : Libraries) (auth : HmacAuthenticator)

def authorizeAt (authorization : Option Text) (method target : Text) (now : Int) : Bool :=
  match authorization.bind (·.stripPrefix (authScheme ++ [' '])) with
  | none => false
  | some encoded =>
      match encoded.splitOnce ':' with
      | none => false
      | some (timestamp, encodedSignature) =>
          if ':' ∈ encodedSignature then false
          else
            match I64.parse timestamp with
            | none => false
            | some timestamp =>
                if timestamp > I64.saturatingAdd now 5 ∨
                    I64.saturatingSub now timestamp > I64.ofU64 auth.maxAgeSecs then false
                else
                  match decodeUrlSafe encodedSignature with
                  | none => false
                  | some signature =>
                      lib.hmacSha256 auth.secret (canonicalRequest timestamp method target) =
                        signature

def authorize (authorization : Option Text) (method target : Text) (clock : Option EpochSecs) :
    Bool :=
  match clock with
  | none => false
  | some now => auth.authorizeAt lib authorization method target (I64.ofU64 now.val)

end HmacAuthenticator

/-! ## The head of a request -/

def beforeBlankLine : Bytes → Option Bytes
  | 13 :: 10 :: 13 :: 10 :: _ => some []
  | b :: rest => (beforeBlankLine rest).map (b :: ·)
  | [] => none

/-- Reading until the head is complete.  A read of nothing is the end of the stream; reading
may also stop at the deadline. -/
def readRequestHead (bytes : Bytes) : List Bytes → Option Bytes
  | [] => none
  | chunk :: chunks =>
      if chunk.isEmpty then none
      else if 8192 < (bytes ++ chunk).length then none
      else if (beforeBlankLine (bytes ++ chunk)).isSome then some (bytes ++ chunk)
      else readRequestHead (bytes ++ chunk) chunks

def decodeUtf8 (bytes : Bytes) : Option Text :=
  (String.fromUTF8? (ByteArray.mk bytes.toArray)).map String.toList

def splitCrlf : Text → List Text
  | '\r' :: '\n' :: rest => [] :: splitCrlf rest
  | c :: rest =>
      match splitCrlf rest with
      | [] => [[c]]
      | line :: lines => (c :: line) :: lines
  | [] => [[]]

structure Headers where
  authorization : Option Text := none
  host : Option Text := none
  hasOrigin : Bool := false
  isWebsocketUpgrade : Bool := false

structure RequestHead where
  method : Text
  target : Text
  headers : Headers

variable {head : RequestHead}

def readHeader (h : Headers) (line : Text) : Option Headers :=
  match line.splitOnce ':' with
  | none => none
  | some (name, value) =>
      if name.eqIgnoreAsciiCase "authorization".toList then
        if h.authorization.isSome then none
        else some { h with authorization := some value.trim }
      else if name.eqIgnoreAsciiCase "host".toList then
        if h.host.isSome then none else some { h with host := some value.trim }
      else if name.eqIgnoreAsciiCase "origin".toList then some { h with hasOrigin := true }
      else if name.eqIgnoreAsciiCase "upgrade".toList &&
          value.trim.eqIgnoreAsciiCase "websocket".toList then
        some { h with isWebsocketUpgrade := true }
      else some h

def headLines (data : Bytes) : Option (List Text) :=
  ((beforeBlankLine data).bind decodeUtf8).map splitCrlf

def parseRequestHead (data : Bytes) : Option RequestHead :=
  match headLines data with
  | some (requestLine :: lines) =>
      match requestLine.splitWhitespace with
      | [method, target, version] =>
          if version = "HTTP/1.1".toList then
            (lines.foldlM readHeader {}).map fun headers => ⟨method, target, headers⟩
          else none
      | _ => none
  | _ => none

/-! ## The server -/

inductive Operation
  | health
  | metrics
  | streamRecording (path : Text)
  | recordings (method target : Text)
  | sessions
  | session (id : Option (BitVec 128))
  | methodNotAllowed
  | notFound
deriving DecidableEq

inductive Served
  | closed
  | forbidden
  | unauthorized
  | http (operation : Operation)
  | audio (token : Option (BitVec 128))
  | control
deriving DecidableEq

def pathOnly (target : Text) : Text := target.takeWhile (· ≠ '?')

def requestRequiresHmac (target : Text) : Bool :=
  !(pathOnly target == "/health".toList || pathOnly target == "/metrics".toList)

section Server

variable (lib : Libraries)

def classifyAudioPath (target : Text) : Option (Option (BitVec 128)) :=
  ((pathOnly target).stripPrefix "/audio/".toList).map lib.parseUuid

def isLoopbackHost (host : Option Text) : Bool :=
  match host.bind fun authority => (lib.authorityHost authority).map (authority, ·) with
  | none => false
  | some (authority, host) =>
      let validSuffix :=
        match authority.stripPrefix host with
        | none => false
        | some [] => true
        | some (':' :: port) => (Text.parseU16 port).isSome
        | some _ => false
      let literal := ((host.dropWhile (· = '[')).reverse.dropWhile (· = ']')).reverse
      validSuffix &&
        (host.eqIgnoreAsciiCase "localhost".toList || host.eqIgnoreAsciiCase "localhost.".toList ||
          (IpAddr.parse literal).any fun ip => ip.toCanonical.isLoopback)

def handleHttpRequest (method target : Text) : Operation :=
  let path := pathOnly target
  if path = "/health".toList ∧ method = "GET".toList then .health
  else if path = "/metrics".toList ∧ method = "GET".toList then .metrics
  else if path = "/recordings".toList ∨ path.startsWith "/recordings/".toList then
    .recordings method target
  else if method ≠ "GET".toList then .methodNotAllowed
  else if path = "/sessions".toList then .sessions
  else
    match path.stripPrefix "/sessions/".toList with
    | some id => .session (lib.parseUuid id)
    | none => .notFound

def httpOperation (method target : Text) : Operation :=
  let path := pathOnly target
  if method = "GET".toList ∧ path.startsWith "/recordings/".toList ∧
      path ≠ "/recordings/".toList then
    .streamRecording path
  else handleHttpRequest lib method target

def isAuthorized (auth : Option HmacAuthenticator) (clock : Option EpochSecs)
    (head : RequestHead) : Bool :=
  auth.all fun auth =>
    auth.authorize lib head.headers.authorization head.method head.target clock

def handleRequest (auth : Option HmacAuthenticator) (peer : IpAddr) (clock : Option EpochSecs)
    (handshake : Bool) (head : RequestHead) : Served :=
  let audio := classifyAudioPath lib head.target
  let upgrade := head.headers.isWebsocketUpgrade
  let privileged := if upgrade then audio.isNone else requestRequiresHmac head.target
  if privileged ∧ auth.isNone ∧ (head.headers.hasOrigin ∨
      peer.toCanonical.isLoopback ∧ isLoopbackHost lib head.headers.host = false) then .forbidden
  else if upgrade = false then
    if requestRequiresHmac head.target ∧ isAuthorized lib auth clock head = false then
      .unauthorized
    else .http (httpOperation lib head.method head.target)
  else if audio.isNone ∧ isAuthorized lib auth clock head = false then .unauthorized
  else if handshake = false then .closed
  else
    match audio with
    | some token => .audio token
    | none => .control

/-- `handshake` says whether the upgrade comes to its end. -/
def handleIncoming (auth : Option HmacAuthenticator) (peer : IpAddr) (clock : Option EpochSecs)
    (handshake : Bool) (chunks : List Bytes) : Served :=
  match (readRequestHead [] chunks).bind parseRequestHead with
  | none => .closed
  | some head => handleRequest lib auth peer clock handshake head

end Server

/-! ## What a request carries -/

def authorizations (lines : List Text) : List Text :=
  lines.filterMap fun line =>
    (line.splitOnce ':').bind fun (name, value) =>
      if name.eqIgnoreAsciiCase "authorization".toList then some value.trim else none

def credentials (value : Text) : Option (Int × Bytes) := do
  let encoded ← value.stripPrefix (authScheme ++ [' '])
  let (timestamp, signature) ← encoded.splitOnce ':'
  return (← I64.parse timestamp, ← decodeUrlSafe signature)

/-- A request with one authorization, which signs its method and target under the key, and
is neither too old nor from the future. -/
def Signed (lib : Libraries) (auth : HmacAuthenticator) (clock : Option EpochSecs) (data : Bytes)
    (head : RequestHead) : Prop :=
  ∃ now requestLine lines value timestamp signature, clock = some now ∧
    headLines data = some (requestLine :: lines) ∧ authorizations lines = [value] ∧
    credentials value = some (timestamp, signature) ∧ timestamp ≤ now.val + 5 ∧
    now.val - timestamp ≤ auth.maxAgeSecs ∧
    lib.hmacSha256 auth.secret (canonicalRequest timestamp head.method head.target) = signature

theorem authorization_of_readHeader {h h' : Headers} {line : Text}
    (hr : readHeader h line = some h') :
    h'.authorization.toList = h.authorization.toList ++ authorizations [line] := by
  unfold readHeader at hr
  unfold authorizations
  rw [filterMap_cons, filterMap_nil]
  split at hr
  · cases hr
  rename_i name value hs
  rw [hs]
  simp only [bind_some]
  by_cases hn : name.eqIgnoreAsciiCase "authorization".toList = true
  · rw [if_pos hn] at hr ⊢
    split at hr
    · cases hr
    rename_i hno
    rw [Bool.not_eq_true, isSome_eq_false_iff, isNone_iff_eq_none] at hno
    cases hr
    rw [hno]
    rfl
  rw [if_neg hn] at hr ⊢
  rw [append_nil]
  have hk : h'.authorization = h.authorization := by
    split at hr
    · split at hr
      · cases hr
      · cases hr
        rfl
    split at hr
    · cases hr
      rfl
    split at hr
    · cases hr
      rfl
    · cases hr
      rfl
  rw [hk]

theorem authorizations_of_parse {lines : List Text} {h h' : Headers}
    (hr : lines.foldlM readHeader h = some h') :
    h'.authorization.toList = h.authorization.toList ++ authorizations lines := by
  induction lines generalizing h with
  | nil =>
    cases hr
    exact (append_nil _).symm
  | cons line lines ih =>
    obtain ⟨next, hn, hre⟩ := bind_eq_some_iff.mp hr
    have hl : authorizations (line :: lines) = authorizations [line] ++ authorizations lines :=
      filterMap_append (l := [line])
    rw [ih hre, authorization_of_readHeader hn, hl, append_assoc]

theorem of_parseRequestHead {data : Bytes} (hp : parseRequestHead data = some head) :
    ∃ requestLine lines, headLines data = some (requestLine :: lines) ∧
      head.headers.authorization.toList = authorizations lines ∧
      '\n' ∉ head.method ∧ '\n' ∉ head.target := by
  unfold parseRequestHead at hp
  split at hp
  · rename_i requestLine lines hl
    split at hp
    · rename_i method target version hwr
      split at hp
      · obtain ⟨headers, hh, rfl⟩ := map_eq_some_iff.mp hp
        have hwo : ∀ w ∈ requestLine.splitWhitespace, '\n' ∉ w :=
          fun w hw => (Text.word_of_mem_splitWhitespace hw).2.no_newline
        rw [hwr] at hwo
        refine ⟨requestLine, lines, hl, authorizations_of_parse hh,
          hwo method (by simp), hwo target (by simp)⟩
      · cases hp
    · cases hp
  · cases hp

/-! ## Authorized requests -/

theorem of_authorizeAt {authorization : Option Text} {method target : Text} {now : Int}
    (h : auth.authorizeAt lib authorization method target now = true) :
    ∃ value timestamp signature, authorization = some value ∧
      credentials value = some (timestamp, signature) ∧ timestamp ≤ I64.saturatingAdd now 5 ∧
      I64.saturatingSub now timestamp ≤ I64.ofU64 auth.maxAgeSecs ∧
      lib.hmacSha256 auth.secret (canonicalRequest timestamp method target) = signature := by
  unfold HmacAuthenticator.authorizeAt at h
  split at h
  · cases h
  rename_i encoded he
  obtain ⟨value, rfl, hv⟩ := bind_eq_some_iff.mp he
  split at h
  · cases h
  rename_i timestampText signatureText hsp
  split at h
  · cases h
  split at h
  · cases h
  rename_i timestamp ht
  split at h
  · cases h
  rename_i hw
  split at h
  · cases h
  rename_i signature hs
  obtain ⟨hf, ha⟩ := not_or.mp hw
  refine ⟨value, timestamp, signature, rfl, ?_, Int.not_lt.mp hf, Int.not_lt.mp ha,
    of_decide_eq_true h⟩
  unfold credentials
  rw [hv]
  simp [hsp, ht, hs]

theorem maxAge_of_authenticator {config : Config} (h : config.authenticator = .ok (some auth)) :
    auth.maxAgeSecs ≤ 300 := by
  unfold Config.authenticator Config.validate at h
  split at h
  · cases h
  rename_i hv
  split at hv
  · cases hv
  split at h
  · cases h
  unfold HmacAuthenticator.fromSecretFile HmacAuthenticator.new at h
  split at h
  · cases h
  split at h
  · cases h
  cases h
  show config.authHmacMaxAgeSecs ≤ 300
  omega

theorem signed_of_isAuthorized {data : Bytes} {clock : Option EpochSecs}
    (ha : auth.maxAgeSecs ≤ 300) (hp : parseRequestHead data = some head)
    (h : isAuthorized lib (some auth) clock head = true) : Signed lib auth clock data head := by
  obtain ⟨requestLine, lines, hl, ho, _⟩ := of_parseRequestHead hp
  obtain ⟨now, rfl⟩ : ∃ now, clock = some now := by
    cases clock with
    | none => cases h
    | some now => exact ⟨now, rfl⟩
  obtain ⟨value, timestamp, signature, hv, hc, hf, hold, hmac⟩ :=
    of_authorizeAt h
  have hn : I64.ofU64 now.val = now.val := if_pos now.isLt
  have hm : I64.ofU64 auth.maxAgeSecs = auth.maxAgeSecs := if_pos (by omega)
  rw [hn] at hf hold
  rw [hm] at hold
  rw [hv] at ho
  refine ⟨now, requestLine, lines, value, timestamp, signature, rfl, hl, ho.symm,
    hc, I64.le_of_le_saturatingAdd hf ?_, I64.le_of_saturatingSub_le hold ?_, hmac⟩
  · unfold I64.least
    omega
  · unfold I64.greatest
    omega

theorem credentials_of_isAuthorized {clock : Option EpochSecs}
    (h : isAuthorized lib (some auth) clock head = true) :
    ∃ value timestamp signature, head.headers.authorization = some value ∧
      credentials value = some (timestamp, signature) ∧
      lib.hmacSha256 auth.secret (canonicalRequest timestamp head.method head.target) =
        signature := by
  cases clock with
  | none => cases h
  | some now =>
    obtain ⟨value, timestamp, signature, hv, hr, _, _, hmac⟩ := of_authorizeAt h
    exact ⟨value, timestamp, signature, hv, hr, hmac⟩

theorem canonicalRequest_inj {timestamp timestamp' : Int} {method method' target target' : Text}
    (hm : '\n' ∉ method) (hm' : '\n' ∉ method') (ht : '\n' ∉ target)
    (ht' : '\n' ∉ target')
    (h : canonicalRequest timestamp method target = canonicalRequest timestamp' method' target') :
    timestamp = timestamp' ∧ method = method' ∧ target = target' := by
  have hl : ∀ (timestamp : Int) (method target : Text), '\n' ∉ method → '\n' ∉ target →
      (canonicalRequest timestamp method target).splitOn '\n' =
        ["rtpbridge-auth-v1".toList, I64.toText timestamp, method, target] := by
    intro timestamp method target hm ht
    have hh : '\n' ∉ "rtpbridge-auth-v1".toList := by decide
    unfold canonicalRequest
    rw [Text.splitOn_append hh, Text.splitOn_append (I64.no_newline_toText timestamp),
      Text.splitOn_append hm, Text.splitOn_singleton ht]
  have hs := congrArg (List.splitOn '\n') h
  rw [hl _ _ _ hm ht, hl _ _ _ hm' ht'] at hs
  simp only [List.cons.injEq, and_true, true_and] at hs
  exact ⟨I64.toText_inj hs.1, hs.2⟩

section Requests

variable {lib : Libraries} {auth : HmacAuthenticator} {peer : IpAddr} {clock : Option EpochSecs}
  {handshake : Bool} {head : RequestHead}

theorem control_authorized
    (h : handleRequest lib (some auth) peer clock handshake head = .control) :
    isAuthorized lib (some auth) clock head = true := by
  unfold handleRequest at h
  grind

theorem http_authorized {operation : Operation}
    (h : handleRequest lib (some auth) peer clock handshake head = .http operation) :
    isAuthorized lib (some auth) clock head = true ∨
      (pathOnly head.target = "/health".toList ∨ pathOnly head.target = "/metrics".toList) ∧
        (operation = .health ∨ operation = .metrics ∨ operation = .methodNotAllowed) := by
  unfold handleRequest at h
  dsimp only at h
  rw [if_neg fun hal => Bool.false_ne_true hal.2.1] at h
  split at h
  · split at h
    · cases h
    rename_i hn
    cases h
    by_cases ha : isAuthorized lib (some auth) clock head = true
    · exact .inl ha
    have hp : pathOnly head.target = "/health".toList ∨
        pathOnly head.target = "/metrics".toList := by
      by_contra ho
      obtain ⟨hh, hm⟩ := not_or.mp ho
      refine hn ⟨?_, Bool.eq_false_iff.mpr ha⟩
      unfold requestRequiresHmac
      rw [beq_false_of_ne hh, beq_false_of_ne hm]
      rfl
    unfold httpOperation handleHttpRequest
    by_cases hg : head.method = ['G', 'E', 'T']
    · rcases hp with hp | hp <;> simp [hp, hg, Text.startsWith]
    · rcases hp with hp | hp <;> simp [hp, hg, Text.startsWith]
  split at h
  · cases h
  split at h
  · cases h
  split at h <;> cases h

end Requests

/-- With a key configured, control and every operation but the open ones take a signature of
exactly this request; a signature fits one request only, and an upgrade without one reaches
the audio plane at most. -/
theorem control_needs_signature (lib : Libraries) (config : Config) (auth : HmacAuthenticator)
    (hauth : config.authenticator = .ok (some auth)) (peer : IpAddr) (clock : Option EpochSecs)
    (handshake : Bool) (chunks : List Bytes) :
    (handleIncoming lib (some auth) peer clock handshake chunks = .control →
      ∃ data head, readRequestHead [] chunks = some data ∧ parseRequestHead data = some head ∧
        Signed lib auth clock data head) ∧
      (∀ operation, handleIncoming lib (some auth) peer clock handshake chunks = .http operation →
        ∃ data head, readRequestHead [] chunks = some data ∧ parseRequestHead data = some head ∧
          (Signed lib auth clock data head ∨
            (pathOnly head.target = "/health".toList ∨ pathOnly head.target = "/metrics".toList) ∧
              (operation = .health ∨ operation = .metrics ∨ operation = .methodNotAllowed))) ∧
      (∀ data data' head head' timestamp timestamp', parseRequestHead data = some head →
        parseRequestHead data' = some head' →
        canonicalRequest timestamp head.method head.target =
          canonicalRequest timestamp' head'.method head'.target →
        timestamp = timestamp' ∧ head.method = head'.method ∧ head.target = head'.target) ∧
      (∀ data data' head head' clock', parseRequestHead data = some head →
        parseRequestHead data' = some head' →
        head.headers.authorization = head'.headers.authorization →
        isAuthorized lib (some auth) clock head = true →
        isAuthorized lib (some auth) clock' head' = true →
        head.method = head'.method ∧ head.target = head'.target ∨
          ∃ text text', text ≠ text' ∧
            lib.hmacSha256 auth.secret text = lib.hmacSha256 auth.secret text') ∧
      ∀ data head, readRequestHead [] chunks = some data → parseRequestHead data = some head →
        head.headers.isWebsocketUpgrade = true → ¬ Signed lib auth clock data head →
        handleIncoming lib (some auth) peer clock handshake chunks = .closed ∨
          handleIncoming lib (some auth) peer clock handshake chunks = .unauthorized ∨
          ∃ token, handleIncoming lib (some auth) peer clock handshake chunks = .audio token ∧
            classifyAudioPath lib head.target = some token := by
  have hage := maxAge_of_authenticator hauth
  have hhandled : ∀ served, served ≠ .closed →
      handleIncoming lib (some auth) peer clock handshake chunks = served →
      ∃ data head, readRequestHead [] chunks = some data ∧ parseRequestHead data = some head ∧
        handleRequest lib (some auth) peer clock handshake head = served := by
    intro served hopen hserved
    unfold handleIncoming at hserved
    split at hserved
    · exact absurd hserved.symm hopen
    rename_i head hhead
    obtain ⟨data, hdata, hparse⟩ := bind_eq_some_iff.mp hhead
    exact ⟨data, head, hdata, hparse, hserved⟩
  refine ⟨fun hcontrol => ?_, fun operation hhttp => ?_, ?_, ?_, ?_⟩
  · obtain ⟨data, head, hdata, hparse, hserved⟩ := hhandled .control Served.noConfusion hcontrol
    exact ⟨data, head, hdata, hparse,
      signed_of_isAuthorized hage hparse (control_authorized hserved)⟩
  · obtain ⟨data, head, hdata, hparse, hserved⟩ :=
      hhandled (.http operation) Served.noConfusion hhttp
    refine ⟨data, head, hdata, hparse, ?_⟩
    exact (http_authorized hserved).imp_left (signed_of_isAuthorized hage hparse)
  · grind [of_parseRequestHead, canonicalRequest_inj]
  · intro data data' head head' clock' hparse hparse' hvalue hfirst hsecond
    obtain ⟨_, _, _, _, hmethod, htarget⟩ := of_parseRequestHead hparse
    obtain ⟨_, _, _, _, hmethod', htarget'⟩ := of_parseRequestHead hparse'
    obtain ⟨value, timestamp, signature, hsome, hread, hmac⟩ := credentials_of_isAuthorized hfirst
    obtain ⟨value', timestamp', signature', hsome', hread', hmac'⟩ :=
      credentials_of_isAuthorized hsecond
    rw [hvalue, hsome'] at hsome
    cases hsome
    rw [hread] at hread'
    cases hread'
    by_cases hsame : canonicalRequest timestamp head.method head.target =
        canonicalRequest timestamp head'.method head'.target
    · exact .inl (canonicalRequest_inj hmethod hmethod' htarget htarget' hsame).2
    · exact .inr ⟨_, _, hsame, hmac.trans hmac'.symm⟩
  grind [handleRequest, signed_of_isAuthorized]

def sampleHash (key : Bytes) (text : Text) : Bytes :=
  [UInt8.ofNat ((key.map UInt8.toNat).sum + (text.map Char.toNat).sum)]

def sampleLibraries : Libraries := ⟨sampleHash, fun _ => none, fun _ => none⟩

def sampleConfig : Config := ⟨some (List.replicate 32 7), 60⟩

def sampleKey : HmacAuthenticator := ⟨List.replicate 32 7, 60⟩

def sampleUpgrade : List Bytes :=
  ["GET / HTTP/1.1\r\nUpgrade: websocket\r\n", "Authorization: HMAC-SHA256 100:FA\r\n\r\n"].map
    fun chunk => chunk.toList.map fun c => UInt8.ofNat c.toNat

theorem sampleUpgrade_signed : sampleConfig.authenticator = .ok (some sampleKey) ∧
      ∃ data head, readRequestHead [] sampleUpgrade = some data ∧
        parseRequestHead data = some head ∧
        Signed sampleLibraries sampleKey (some 105) data head :=
  ⟨rfl, (control_needs_signature sampleLibraries sampleConfig sampleKey rfl (.v4 0) (some 105) true
    sampleUpgrade).1 (by decide +kernel)⟩

end RtpBridge.Control.Authorization
