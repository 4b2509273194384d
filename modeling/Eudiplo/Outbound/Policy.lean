import Eudiplo.Network.Address
import Mathlib.Data.List.DropRight
import Eudiplo.Concurrency.Order

/-!
# The outbound URL policy and the webhooks

`OutboundUrlPolicyService` checks a URL before a request and the looked-up addresses when the
connection is opened.  Its own `get` follows no redirects; `getFollowingRedirects` calls `get`
for every hop.  The webhooks check the configured URL and then post with an HTTP client that
looks up names with the policy's `safeLookup` and follows up to five redirects by itself.

The URL parser is a parameter, the resolver and the servers answer what they like.
-/

namespace Eudiplo

open Concurrency Prog Network

namespace Outbound

/-! ## Configuration -/

inductive ConfigValue where
  | absent
  | bool (b : Bool)
  | text (s : Text)
  deriving DecidableEq

def readBoolean (fallback : Bool) : ConfigValue → Bool
  | .absent => fallback
  | .bool b => b
  | .text s => toLowerCase s == ['t', 'r', 'u', 'e']

structure OutboundConfig where
  OUTBOUND_URL_ALLOW_HTTP : ConfigValue := .absent
  OUTBOUND_URL_ALLOW_PRIVATE_NETWORK : ConfigValue := .absent
  OUTBOUND_URL_ALLOWED_HOSTS : Text := []

namespace OutboundConfig

def allowHttp (config : OutboundConfig) : Bool := readBoolean false config.OUTBOUND_URL_ALLOW_HTTP

def allowPrivateNetwork (config : OutboundConfig) : Bool :=
  readBoolean false config.OUTBOUND_URL_ALLOW_PRIVATE_NETWORK

def trim (s : Text) : Text := (s.dropWhile Char.isWhitespace).rdropWhile Char.isWhitespace

def allowedHosts (config : OutboundConfig) : List Text :=
  ((config.OUTBOUND_URL_ALLOWED_HOSTS.splitOn ',').map fun value =>
    toLowerCase (trim value)).filter fun value => !value.isEmpty

end OutboundConfig

/-! ## Addresses -/

/-- The octets of `isPrivateIp` that are no public address. -/
def privateOctets : List Nat → Bool
  | a :: b :: _ => a == 10 || a == 127 || (a == 100 && b ≥ 64 && b ≤ 127) ||
    (a == 198 && (b == 18 || b == 19)) || (a == 169 && b == 254) ||
    (a == 172 && b ≥ 16 && b ≤ 31) || (a == 192 && b == 168) || a == 0
  | _ => false

/-- The part of `isPrivateIp` for a text without the IPv4-mapped prefix. -/
def privateByVersion (normalized : Text) : Bool :=
  if isIP normalized = 4 then
    privateOctets ((normalized.splitOn '.').map fun v => Nat.ofDigitChars 10 v 0)
  else if isIP normalized = 6 then
    normalized == [':', ':', '1'] || normalized == [':', ':'] ||
      ['f', 'c'].isPrefixOf normalized || ['f', 'd'].isPrefixOf normalized ||
      ['8', '9', 'a', 'b'].any fun c => ['f', 'e', c].isPrefixOf normalized
  else true

/-- `isPrivateIp` of a text in lower case; what follows the prefix is in lower case too. -/
def privateNormalized : Text → Bool
  | ':' :: ':' :: 'f' :: 'f' :: 'f' :: 'f' :: ':' :: rest => privateNormalized rest
  | normalized => privateByVersion normalized

def isPrivateIp (address : Text) : Bool := privateNormalized (toLowerCase address)

/-! ### No private address passes -/

theorem privateNormalized_cons {x : Char} {rest : Text} (h : x ≠ ':') :
    privateNormalized (x :: rest) = privateByVersion (x :: rest) := by
  unfold privateNormalized
  split
  · rename_i heq
    exact absurd (List.cons.inj heq).1 h
  · rfl

theorem privateOctets_of_isPrivate {a b c d : Nat} (h : PrivateOctets a b c d) :
    privateOctets [a, b, c, d] = true := by
  rcases h with rfl | ⟨rfl, hlow, hhigh⟩ | ⟨rfl, rfl⟩ | rfl | ⟨rfl, rfl⟩ | ⟨rfl, hlow, hhigh⟩ |
    ⟨rfl, rfl, -⟩
  · simp [privateOctets]
  · simp [privateOctets, hlow, hhigh]
  · simp [privateOctets]
  · simp [privateOctets]
  · simp [privateOctets]
  · simp [privateOctets, hlow, hhigh]
  · simp [privateOctets]

theorem privateNormalized_dotted {a b c d : Fin 256} (h : PrivateOctets a b c d) :
    privateNormalized (dotted a b c d) = true := by
  obtain ⟨x, rest, heq, hdigit⟩ := dotted_cons a b c d
  have hx : x ≠ ':' := by
    rintro rfl
    exact absurd hdigit (by decide)
  rw [heq, privateNormalized_cons hx, ← heq, privateByVersion, if_pos isIP_dotted, octets_dotted]
  exact privateOctets_of_isPrivate h

theorem privateByVersion_of_head {x y z : Char} {rest : Text} (hx : x = 'f')
    (h : y = 'c' ∨ y = 'd' ∨ (y = 'e' ∧ z ∈ ['8', '9', 'a', 'b'])) :
    privateByVersion (x :: y :: z :: rest) = true := by
  subst hx
  unfold privateByVersion
  rw [if_neg (isIP_cons_ne_four (by decide) (by decide))]
  split
  · rcases h with rfl | rfl | ⟨rfl, hz⟩
    · simp
    · simp
    · simp at hz ⊢
      tauto
  · rfl

theorem isPrivateIp_of_head {g₀ g₁ g₂ g₃ g₄ g₅ g₆ g₇ : Fin 65536} (hg : g₀.val / 4096 = 15)
    (h : Nat.digitChar (g₀.val / 256 % 16) = 'c' ∨ Nat.digitChar (g₀.val / 256 % 16) = 'd' ∨
      (Nat.digitChar (g₀.val / 256 % 16) = 'e' ∧
        Nat.digitChar (g₀.val / 16 % 16) ∈ ['8', '9', 'a', 'b'])) :
    isPrivateIp (Address.v6 g₀ g₁ g₂ g₃ g₄ g₅ g₆ g₇).text = true := by
  obtain ⟨tail, htail⟩ := text_head g₀ g₁ g₂ g₃ g₄ g₅ g₆ g₇ (by omega)
  have hfirst : Nat.digitChar (g₀.val / 4096) = 'f' := by rw [hg]; rfl
  rw [isPrivateIp, htail, hfirst]
  show privateNormalized ('f' :: _ :: _ :: toLowerCase tail) = true
  rw [privateNormalized_cons (by decide)]
  refine privateByVersion_of_head rfl ?_
  rcases h with h | h | ⟨h, hz⟩
  · exact .inl (by rw [h]; rfl)
  · exact .inr (.inl (by rw [h]; rfl))
  · refine .inr (.inr ⟨by rw [h]; rfl, ?_⟩)
    simp only [List.mem_cons, List.not_mem_nil, or_false] at hz
    rcases hz with hz | hz | hz | hz <;> rw [hz] <;> decide

/-- **No private address passes `isPrivateIp`.** -/
theorem isPrivateIp_of_isPrivate {a : Address} (h : a.IsPrivate) : isPrivateIp a.text = true := by
  cases h with
  | octets h =>
    rw [isPrivateIp, Address.text, toLowerCase_dotted]
    exact privateNormalized_dotted h
  | loopback => decide +kernel
  | unspecified => decide +kernel
  | @uniqueLocal g₀ _ _ _ _ _ _ _ h h' =>
    refine isPrivateIp_of_head (by omega) ?_
    have hsecond : g₀.val / 256 % 16 = 12 ∨ g₀.val / 256 % 16 = 13 := by omega
    rcases hsecond with hsecond | hsecond
    · exact .inl (by rw [hsecond]; rfl)
    · exact .inr (.inl (by rw [hsecond]; rfl))
  | @linkLocal g₀ _ _ _ _ _ _ _ h h' =>
    refine isPrivateIp_of_head (by omega) (.inr (.inr ?_))
    have hsecond : g₀.val / 256 % 16 = 14 := by omega
    have hthird : g₀.val / 16 % 16 = 8 ∨ g₀.val / 16 % 16 = 9 ∨ g₀.val / 16 % 16 = 10 ∨
        g₀.val / 16 % 16 = 11 := by omega
    rw [hsecond]
    rcases hthird with h | h | h | h <;> rw [h] <;> decide
  | @mapped g₆ g₇ h =>
    have hoctet (g : Fin 65536) : g.val / 256 < 256 ∧ g.val % 256 < 256 := by omega
    have hlower := toLowerCase_dotted (a := ⟨_, (hoctet g₆).1⟩) (b := ⟨_, (hoctet g₆).2⟩)
      (c := ⟨_, (hoctet g₇).1⟩) (d := ⟨_, (hoctet g₇).2⟩)
    have hprivate := privateNormalized_dotted (a := ⟨_, (hoctet g₆).1⟩)
      (b := ⟨_, (hoctet g₆).2⟩) (c := ⟨_, (hoctet g₇).1⟩) (d := ⟨_, (hoctet g₇).2⟩) h
    rw [← hlower] at hprivate
    rw [isPrivateIp, text_mapped]
    exact hprivate

/-! ## URLs -/

structure Domain where
  name : Text
  lower : toLowerCase name = name
  notIp : isIP name = 0

inductive Host where
  | domain (d : Domain)
  | literal (a : Address)

/-- `hostname`: an IPv6 address stands in brackets. -/
def Host.hostname : Host → Text
  | .domain d => d.name
  | .literal (.v4 a b c d) => dotted a b c d
  | .literal a => '[' :: (a.text ++ [']'])

structure Url where
  protocol : Text
  host : Host
  origin : Text

/-- An origin that can be trusted: opaque ones are `"null"`. -/
def Url.origin? (url : Url) : Option Text :=
  if url.origin = ['n', 'u', 'l', 'l'] then none else some url.origin

/-! ## Calls -/

structure Connection where
  url : Url
  addresses : List Address

structure OutboundResponse where
  status : Nat
  location : Option Text := none
  contentType : Option Text := none
  bytes : List UInt8 := []

inductive NetError where
  | badRequest (message : String)
  | error (message : String)
  deriving DecidableEq

/-- What a look-up finds; a name in brackets is no host name, and not found. -/
def LookupResult (hostname : Text) : Type :=
  { found : Option (List Address) // hostname.head? = some '[' → found = none }

inductive NetCall where
  | lookup (hostname : Text)
  | request (c : Connection)
  /-- The connection of a redirect that the HTTP client of the webhooks follows. -/
  | follow (c : Connection)

abbrev NetCall.Result : NetCall → Type
  | .lookup hostname => LookupResult hostname
  | .request _ | .follow _ => Except NetError OutboundResponse

def NetCall.connection? : NetCall → Option Connection
  | .lookup _ => none
  | .request c | .follow c => some c

/-- **The deployment**: the configuration, the URL parser, the resolver and the servers. -/
structure NetWorld where
  config : OutboundConfig
  /-- `new URL(url)` -/
  parse : Text → Option Url
  /-- `new URL(location, base).toString()` -/
  resolve : (location base : Text) → Option Text
  lookup : Nat → (hostname : Text) → LookupResult hostname
  respond : Nat → Connection → Except NetError OutboundResponse

structure NetStore where
  asked : Nat := 0

/-- **What the network answers to a call.** -/
def NetCall.answer (w : NetWorld) : (c : NetCall) → NetStore → c.Result × NetStore
  | .lookup hostname, s => (w.lookup s.asked hostname, ⟨s.asked + 1⟩)
  | .request c, s => (w.respond s.asked c, ⟨s.asked + 1⟩)
  | .follow c, s => (w.respond s.asked c, ⟨s.asked + 1⟩)

/-! ## The checks of `assertSafeUrl` -/

abbrev NetProg := Prog NetCall.Result NetError

/-- Is the scheme allowed? -/
def schemeAllowed (config : OutboundConfig) (allowHttp : Bool) (url : Url) : Bool :=
  let protocol := toLowerCase url.protocol
  protocol == "https:".toList || (protocol == "http:".toList && (allowHttp || config.allowHttp))

def isReservedHost (hostname : Text) : Bool :=
  hostname == "localhost".toList || ".localhost".toList.isSuffixOf hostname

/-- Is the host in the allowlist, when there is one? -/
def hostListed (config : OutboundConfig) (hostname : Text) : Bool :=
  config.allowedHosts.isEmpty ||
    config.allowedHosts.any fun entry => hostname == entry || ('.' :: entry).isSuffixOf hostname

/-- `assertSafeUrl`, for a host that is no IP address. -/
def assertResolves (hostname : Text) : NetProg Unit := do
  let found ← invoke (NetCall.lookup hostname)
  let resolved ← getOrFail (.badRequest "Outbound URL host cannot be resolved") found.val
  ensure (!resolved.isEmpty) (.badRequest "Outbound URL host cannot be resolved")
  ensure (!resolved.any fun entry => isPrivateIp entry.text)
    (.badRequest "Outbound URL target resolves to a private or loopback IP")

/-- `assertSafeUrl`, after its checks of the scheme and the allowlist. -/
def assertPublicHost (hostname : Text) : NetProg Unit := do
  ensure (!isReservedHost hostname)
    (.badRequest "Outbound URL host is not allowed in this environment")
  if isIP hostname > 0 then
    ensure (!isPrivateIp hostname)
      (.badRequest "Outbound URL target resolves to a private or loopback IP")
  else assertResolves hostname

def assertSafeUrl (w : NetWorld) (url : Text) (allowHttp : Bool := false) : NetProg Unit := do
  let parsed ← getOrFail (.badRequest "Invalid outbound URL") (w.parse url)
  ensure (schemeAllowed w.config allowHttp parsed)
    (.badRequest "Outbound URL must use HTTPS in this environment")
  ensure (hostListed w.config (toLowerCase parsed.host.hostname))
    (.badRequest "Outbound URL host is not in the allowlist")
  onlyIf (!w.config.allowPrivateNetwork) () (assertPublicHost (toLowerCase parsed.host.hostname))

/-! ## Connections -/

def safeLookup (w : NetWorld) (hostname : Text) : NetProg (List Address) := do
  let found ← invoke (NetCall.lookup hostname)
  let addresses ← getOrFail (.error "getaddrinfo ENOTFOUND") found.val
  ensure (w.config.allowPrivateNetwork ||
      !(addresses.isEmpty || addresses.any fun address => isPrivateIp address.text))
    (.error "Outbound URL target resolves to a private or loopback IP")
  return addresses

/-- `dns.lookup`. -/
def plainLookup (hostname : Text) : NetProg (List Address) := do
  let found ← invoke (NetCall.lookup hostname)
  getOrFail (.error "getaddrinfo ENOTFOUND") found.val

def addressesOf (w : NetWorld) (safe : Bool) : Host → NetProg (List Address)
  | .literal a => return [a]
  | .domain d => if safe then safeLookup w d.name else plainLookup d.name

/-! ## `get` and `getFollowingRedirects` -/

/-- `OutboundGetOptions`, less the ones that shape the request. -/
structure OutboundGetOptions where
  maxBytes : Nat
  allowHttp : Bool := false
  trustedOrigins : List Text := []

def originOf (w : NetWorld) (url : Text) : Option Text := (w.parse url).bind Url.origin?

/-- Does the origin match a trusted one? -/
def trustsOrigin (w : NetWorld) (trustedOrigins : List Text) (origin : Option Text) : Bool :=
  origin.isSome && trustedOrigins.any fun trusted => originOf w trusted == origin

def isTrustedOrigin (w : NetWorld) (url : Text) (trustedOrigins : List Text) : Bool :=
  trustsOrigin w trustedOrigins (originOf w url)

def get (w : NetWorld) (url : Text) (options : OutboundGetOptions) : NetProg OutboundResponse := do
  let trusted := isTrustedOrigin w url options.trustedOrigins
  onlyIf (!trusted) () (assertSafeUrl w url options.allowHttp)
  let target ← getOrFail (.error "Invalid URL") (w.parse url)
  let addresses ← addressesOf w (!trusted) target.host
  let answer ← invoke (NetCall.request ⟨target, addresses⟩)
  let response ← ofExcept answer
  ensure (response.bytes.length ≤ options.maxBytes)
    (.error ("Outbound response exceeds " ++ toString options.maxBytes ++ " bytes"))
  return response

/-- The hops of `getFollowingRedirects` that are left. -/
def getHops (w : NetWorld) (options : OutboundGetOptions) (maxRedirects : Nat) :
    Nat → Text → NetProg (OutboundResponse × Text)
  | 0, _ => fail (.badRequest
      ("Outbound request exceeded " ++ toString maxRedirects ++ " redirects"))
  | hops + 1, currentUrl => do
    let response ← get w currentUrl options
    if response.status < 300 || response.status ≥ 400 then return (response, currentUrl)
    else do
      let location ← getOrFail (.badRequest
        ("Redirect from " ++ String.ofList currentUrl ++ " has no location header"))
        (response.location.filter fun location => !location.isEmpty)
      let next ← getOrFail (.error "Invalid URL") (w.resolve location currentUrl)
      getHops w options maxRedirects hops next

def getFollowingRedirects (w : NetWorld) (url : Text) (options : OutboundGetOptions)
    (maxRedirects : Nat) : NetProg (OutboundResponse × Text) :=
  getHops w options maxRedirects (maxRedirects + 1) url

/-! ## Webhooks -/

def OutboundResponse.redirect? (response : OutboundResponse) : Option Text :=
  if response.status ≥ 300 && response.status < 400 then response.location else none

/-- The HTTP client follows redirects: it looks up names with `safeLookup`, and asks the policy
nothing else. -/
def followRedirects (w : NetWorld) : Nat → Text → OutboundResponse → NetProg OutboundResponse
  | 0, _, response =>
    if response.redirect?.isSome then fail (.error "Maximum number of redirects exceeded")
    else return response
  | redirects + 1, currentUrl, response =>
    match response.redirect? with
    | none => return response
    | some location => do
      let next ← getOrFail (.error "Invalid URL") (w.resolve location currentUrl)
      let target ← getOrFail (.error "Invalid URL") (w.parse next)
      ensure (target.protocol == "https:".toList || target.protocol == "http:".toList)
        (.error "Unsupported protocol")
      let addresses ← addressesOf w true target.host
      let answer ← invoke (NetCall.follow ⟨target, addresses⟩)
      let response ← ofExcept answer
      followRedirects w redirects next response

/-- `httpService.post`, with five redirects by default. -/
def post (w : NetWorld) (url : Text) : NetProg OutboundResponse := do
  let target ← getOrFail (.error "Invalid URL") (w.parse url)
  let addresses ← addressesOf w true target.host
  let answer ← invoke (NetCall.request ⟨target, addresses⟩)
  let response ← ofExcept answer
  followRedirects w 5 url response

def NetError.message : NetError → String
  | .badRequest message | .error message => message

/-- `post`, whose errors are wrapped. -/
def postOrThrow (w : NetWorld) (url : Text) (description : String) : NetProg OutboundResponse := do
  let result ← attempt (post w url)
  ofExcept (result.mapError fun err => .error (description ++ err.message))

def sendWebhook (w : NetWorld) (url : Text) : NetProg OutboundResponse := do
  assertSafeUrl w url
  postOrThrow w url "Error sending webhook: "

/-- `postSessionEvent`; the response is ignored. -/
def postSessionEvent (w : NetWorld) (url : Text) : NetProg Unit := do
  assertSafeUrl w url
  let _ ← postOrThrow w url "Error sending webhook: "
  return ()

def sendWebhookNotification (w : NetWorld) (url : Text) : NetProg Unit := postSessionEvent w url

def sendSessionCancelledWebhook (w : NetWorld) (url : Text) : NetProg Unit := postSessionEvent w url

def sendClaimsWebhook (w : NetWorld) (url : Text) : NetProg OutboundResponse := do
  assertSafeUrl w url
  postOrThrow w url "Error sending claims webhook: "

/-! ## The system -/

inductive OutboundRequest where
  | get (url : Text) (options : OutboundGetOptions)
  | getFollowingRedirects (url : Text) (options : OutboundGetOptions) (maxRedirects : Nat)
  | sendWebhook (url : Text)
  | sendWebhookNotification (url : Text)
  | sendSessionCancelledWebhook (url : Text)
  | sendClaimsWebhook (url : Text)

inductive OutboundAnswer where
  | done
  | response (response : OutboundResponse)
  | final (response : OutboundResponse) (url : Text)

def OutboundRequest.program (w : NetWorld) : OutboundRequest → NetProg OutboundAnswer
  | .get url options => .response <$> Outbound.get w url options
  | .getFollowingRedirects url options maxRedirects => do
    let result ← Outbound.getFollowingRedirects w url options maxRedirects
    return .final result.1 result.2
  | .sendWebhook url => .response <$> Outbound.sendWebhook w url
  | .sendWebhookNotification url => do
    Outbound.sendWebhookNotification w url
    return .done
  | .sendSessionCancelledWebhook url => do
    Outbound.sendSessionCancelledWebhook w url
    return .done
  | .sendClaimsWebhook url => .response <$> Outbound.sendClaimsWebhook w url

/-- **The outbound requests** of the backend. -/
def outboundRequests (w : NetWorld) :
    System NetCall.Result NetStore Unit OutboundRequest NetError OutboundAnswer where
  answer := NetCall.answer w
  drift _ s := s
  program := OutboundRequest.program w

end Outbound

end Eudiplo

/-!
# Do outbound requests reach private networks?

The policy checks every hop of `getFollowingRedirects`, and every looked-up address when the
connection is opened.  The HTTP client of the webhooks follows redirects on its own: it looks
up names with `safeLookup`, but asks neither for the scheme nor for the host, and a literal
address is never looked up (`not_outbound_safe`).

`outbound_safe_iff` says that this is the only way out: in every run, all connections are safe
if and only if each redirect that was followed for a webhook leads to a URL with an allowed
scheme, an allowed host and no private literal address.
-/

namespace Eudiplo

open Concurrency Prog Network Outbound

/-! ## The claim -/

def Outbound.OutboundRequest.trustedOrigins : OutboundRequest → List Text
  | .get _ options | .getFollowingRedirects _ options _ => options.trustedOrigins
  | _ => []

/-- May a request use `http:` whatever is configured? -/
def Outbound.OutboundRequest.allowsHttp : OutboundRequest → Bool
  | .get _ options | .getFollowingRedirects _ options _ => options.allowHttp
  | _ => false

def hostAllowed (config : OutboundConfig) (url : Url) : Bool :=
  hostListed config (toLowerCase url.host.hostname) &&
    !isReservedHost (toLowerCase url.host.hostname)

/-- A connection over an allowed scheme, to an allowed host, to public addresses only. -/
structure SafeConnection (config : OutboundConfig) (allowHttp : Bool) (c : Connection) : Prop where
  scheme : schemeAllowed config allowHttp c.url = true
  host : hostAllowed config c.url = true
  addresses : ∀ a ∈ c.addresses, ¬a.IsPrivate

def outboundRun (w : NetWorld) (ms : List (Move Unit OutboundRequest)) :
    Global NetCall.Result NetStore OutboundRequest :=
  ((outboundRequests w).run (.start {}) ms).global

/-- **Every connection** to an origin that the request does not trust is safe. -/
def OutboundSafe (w : NetWorld) (ms : List (Move Unit OutboundRequest)) : Prop :=
  ∀ t r op res c, (outboundRun w ms).requests[t]? = some r →
    ⟨t, op, res⟩ ∈ (outboundRun w ms).trace →
    op.connection? = some c → trustsOrigin w r.trustedOrigins c.url.origin? = true ∨
      SafeConnection w.config r.allowsHttp c

/-- Where a redirect may lead. -/
structure RedirectAllowed (config : OutboundConfig) (url : Url) : Prop where
  scheme : schemeAllowed config false url = true
  host : hostAllowed config url = true
  literal : ∀ a, url.host = .literal a → ¬a.IsPrivate

/-- **The condition**: where the redirects lead that are followed for webhooks. -/
def RedirectsAllowed (w : NetWorld) (ms : List (Move Unit OutboundRequest)) : Prop :=
  ∀ t c res, ⟨t, .follow c, res⟩ ∈ (outboundRun w ms).trace → RedirectAllowed w.config c.url

namespace OutboundRequests

variable {w : NetWorld} {P : NetCall → Prop} {α β : Type}

/-! ## What the checks say -/

theorem public_of_hostname {a : Address} (hip : isIP (toLowerCase (Host.literal a).hostname) > 0)
    (h : (!isPrivateIp (toLowerCase (Host.literal a).hostname)) = true) : ¬a.IsPrivate := by
  intro hprivate
  cases a with
  | v4 a b c d =>
    have hblocked := isPrivateIp_of_isPrivate hprivate
    simp only [Host.hostname, toLowerCase_dotted] at h
    rw [Address.text] at hblocked
    simp [hblocked] at h
  | v6 g₀ g₁ g₂ g₃ g₄ g₅ g₆ g₇ =>
    have hzero := isIP_bracket (toLowerCase ((Address.v6 g₀ g₁ g₂ g₃ g₄ g₅ g₆ g₇).text ++ [']']))
    exact absurd hip (Nat.not_lt.mpr (Nat.le_of_eq hzero))

theorem only_assertResolves (hlookup : ∀ h, P (.lookup h)) {hostname : Text} {f : Unit → NetProg α}
    (hf : hostname.head? ≠ some '[' → (f ()).Only P) :
    ((assertResolves hostname).bind f).Only P := by
  unfold assertResolves
  rw [bind_eq, Prog.bind_assoc]
  refine Only.await (hlookup _) fun found => ?_
  rw [bind_eq, Prog.bind_assoc]
  refine Only.require fun resolved hfound => ?_
  have hname : hostname.head? ≠ some '[' := fun h => by simp [found.2 h] at hfound
  exact Only.bind ((only_ensure _ _).bind fun _ => only_ensure _ _) fun _ => hf hname

theorem only_assertPublicHost (hlookup : ∀ h, P (.lookup h)) {host : Host} {f : Unit → NetProg α}
    (hf : isReservedHost (toLowerCase host.hostname) = false →
      (∀ a, host = .literal a → ¬a.IsPrivate) → (f ()).Only P) :
    ((assertPublicHost (toLowerCase host.hostname)).bind f).Only P := by
  unfold assertPublicHost
  rw [bind_eq, Prog.bind_assoc]
  refine Only.ensure fun hreserved => ?_
  have hreserved : isReservedHost (toLowerCase host.hostname) = false := by simpa using hreserved
  split
  · rename_i hip
    refine Only.ensure fun hpublic => hf hreserved ?_
    rintro a rfl
    exact public_of_hostname hip hpublic
  · rename_i hip
    refine only_assertResolves hlookup fun hname => hf hreserved ?_
    rintro a rfl
    cases a with
    | v4 a b c d =>
      exfalso
      simp [Host.hostname, toLowerCase_dotted, isIP_dotted] at hip
    | v6 => exact absurd rfl hname

/-- **What follows `assertSafeUrl`** is reached by allowed URLs only. -/
theorem only_assertSafeUrl (hlookup : ∀ h, P (.lookup h))
    (hprivate : w.config.allowPrivateNetwork = false) {url : Text} {allowHttp : Bool}
    {f : Unit → NetProg α}
    (hf : ∀ parsed, w.parse url = some parsed → schemeAllowed w.config allowHttp parsed = true →
      hostAllowed w.config parsed = true → (∀ a, parsed.host = .literal a → ¬a.IsPrivate) →
        (f ()).Only P) : ((assertSafeUrl w url allowHttp).bind f).Only P := by
  unfold assertSafeUrl
  rw [bind_eq, Prog.bind_assoc]
  refine Only.require fun parsed hparse => ?_
  rw [bind_eq, Prog.bind_assoc]
  refine Only.ensure fun hscheme => ?_
  rw [bind_eq, Prog.bind_assoc]
  refine Only.ensure fun hlisted => ?_
  rw [hprivate]
  refine only_assertPublicHost hlookup fun hreserved hliteral => ?_
  exact hf parsed hparse hscheme (by simp [hostAllowed, hlisted, hreserved]) hliteral

theorem only_safeLookup (hlookup : ∀ h, P (.lookup h))
    (hprivate : w.config.allowPrivateNetwork = false) {hostname : Text}
    {f : List Address → NetProg α}
    (hf : ∀ addresses, (∀ a ∈ addresses, ¬a.IsPrivate) → (f addresses).Only P) :
    ((safeLookup w hostname).bind f).Only P := by
  unfold safeLookup
  rw [bind_eq, Prog.bind_assoc]
  refine Only.await (hlookup _) fun found => ?_
  rw [bind_eq, Prog.bind_assoc]
  refine Only.require fun addresses _ => ?_
  rw [bind_eq, Prog.bind_assoc]
  refine Only.ensure fun hsafe => hf addresses fun a ha hpriv => ?_
  have hblocked : (addresses.any fun address => isPrivateIp address.text) = true :=
    List.any_eq_true.mpr ⟨a, ha, isPrivateIp_of_isPrivate hpriv⟩
  simp [hprivate, hblocked] at hsafe

theorem only_addressesOf (hlookup : ∀ h, P (.lookup h))
    (hprivate : w.config.allowPrivateNetwork = false) {host : Host} {f : List Address → NetProg α}
    (hf : ∀ addresses, (∀ a, host = .literal a → addresses = [a]) →
      ((∀ a, host ≠ .literal a) → ∀ a ∈ addresses, ¬a.IsPrivate) → (f addresses).Only P) :
    ((addressesOf w true host).bind f).Only P := by
  cases host with
  | literal a =>
    refine hf [a] (fun b hb => ?_) fun h => absurd rfl (h a)
    cases hb
    rfl
  | domain d =>
    exact only_safeLookup hlookup hprivate fun addresses hpublic =>
      hf addresses (fun a ha => nomatch ha) fun _ => hpublic

/-! ## What each request opens -/

/-- **What a request opens**: connections to trusted origins or safe ones, and, for a webhook,
redirects to looked-up public addresses or to the literal address of the URL. -/
def Opens (w : NetWorld) (r : OutboundRequest) : NetCall → Prop
  | .lookup _ => True
  | .request c => trustsOrigin w r.trustedOrigins c.url.origin? = true ∨
    SafeConnection w.config r.allowsHttp c
  | .follow c => r.trustedOrigins = [] ∧ r.allowsHttp = false ∧
    (∀ a, c.url.host = .literal a → c.addresses = [a]) ∧
    ((∀ a, c.url.host ≠ .literal a) → ∀ a ∈ c.addresses, ¬a.IsPrivate)

theorem addresses_public {host : Host} {addresses : List Address}
    (hliteral : ∀ a, host = .literal a → ¬a.IsPrivate)
    (hone : ∀ a, host = .literal a → addresses = [a])
    (hname : (∀ a, host ≠ .literal a) → ∀ a ∈ addresses, ¬a.IsPrivate) :
    ∀ a ∈ addresses, ¬a.IsPrivate := by
  cases host with
  | literal b =>
    intro a ha
    rw [hone b rfl, List.mem_singleton] at ha
    exact hliteral a (ha ▸ rfl)
  | domain d => exact hname fun a h => nomatch h

section

variable {r : OutboundRequest} (hprivate : w.config.allowPrivateNetwork = false)

include hprivate

theorem get_opens (url : Text) {options : OutboundGetOptions}
    (htrusted : r.trustedOrigins = options.trustedOrigins)
    (hhttp : r.allowsHttp = options.allowHttp) : (Outbound.get w url options).Only (Opens w r) := by
  unfold Outbound.get
  cases htrust : isTrustedOrigin w url options.trustedOrigins with
  | true =>
    -- a trusted origin is neither checked nor looked up by the policy
    refine Only.require fun target htarget => ?_
    have hplain : (addressesOf w false target.host).Only (Opens w r) := by
      cases target.host with
      | literal a => trivial
      | domain d => exact Only.bind ⟨trivial, fun _ => trivial⟩ fun _ => only_getOrFail _ _
    refine Only.bind hplain fun addresses => Only.await (.inl ?_) fun answer => ?_
    · rw [htrusted]
      simpa [isTrustedOrigin, originOf, htarget] using htrust
    · exact (only_ofExcept _).bind fun _ => (only_ensure _ _).bind fun _ => only_ret _
  | false =>
    refine only_assertSafeUrl (fun _ => trivial) hprivate
      fun parsed hparsed hscheme hhost hlit => ?_
    refine Only.require fun target htarget => ?_
    obtain rfl : parsed = target := Option.some.inj (hparsed.symm.trans htarget)
    refine only_addressesOf (fun _ => trivial) hprivate fun addresses hone hname => ?_
    refine Only.await (.inr ⟨?_, hhost, addresses_public hlit hone hname⟩) fun answer => ?_
    · rw [hhttp]
      exact hscheme
    · exact (only_ofExcept _).bind fun _ => (only_ensure _ _).bind fun _ => only_ret _

theorem getHops_opens {options : OutboundGetOptions}
    (htrusted : r.trustedOrigins = options.trustedOrigins)
    (hhttp : r.allowsHttp = options.allowHttp) (maxRedirects hops : Nat) (url : Text) :
    (getHops w options maxRedirects hops url).Only (Opens w r) := by
  induction hops generalizing url with
  | zero => trivial
  | succ hops ih =>
    refine (get_opens hprivate url htrusted hhttp).bind fun response => ?_
    show Only (Opens w r) (if _ then _ else _ : NetProg _)
    split
    · trivial
    · exact Only.require fun location _ => Only.require fun next _ => ih next

theorem followRedirects_opens (htrusted : r.trustedOrigins = []) (hhttp : r.allowsHttp = false)
    (redirects : Nat) (url : Text) (response : OutboundResponse) :
    (followRedirects w redirects url response).Only (Opens w r) := by
  induction redirects generalizing url response with
  | zero =>
    unfold followRedirects
    split <;> trivial
  | succ redirects ih =>
    unfold followRedirects
    split
    · trivial
    · refine Only.require fun next _ => Only.require fun target _ => Only.ensure fun _ => ?_
      refine only_addressesOf (fun _ => trivial) hprivate fun addresses hone hname => ?_
      refine Only.await ⟨htrusted, hhttp, hone, hname⟩ fun answer => ?_
      exact (only_ofExcept _).bind fun response => ih next response

theorem post_opens (htrusted : r.trustedOrigins = []) (hhttp : r.allowsHttp = false)
    (url : Text) (description : String) :
    ((assertSafeUrl w url).bind fun _ => postOrThrow w url description).Only (Opens w r) := by
  refine only_assertSafeUrl (fun _ => trivial) hprivate fun parsed hparsed hscheme hhost hlit => ?_
  refine Only.bind (Only.attempt ?_) fun _ => only_ofExcept _
  refine Only.require fun target htarget => ?_
  obtain rfl : parsed = target := Option.some.inj (hparsed.symm.trans htarget)
  refine only_addressesOf (fun _ => trivial) hprivate fun addresses hone hname => ?_
  refine Only.await (.inr ⟨?_, hhost, addresses_public hlit hone hname⟩) fun answer => ?_
  · rw [hhttp]
    exact hscheme
  · refine (only_ofExcept _).bind fun response => ?_
    exact followRedirects_opens hprivate htrusted hhttp 5 url response

theorem event_opens (htrusted : r.trustedOrigins = []) (hhttp : r.allowsHttp = false)
    (url : Text) : (postSessionEvent w url).Only (Opens w r) := by
  have hpost := (post_opens hprivate htrusted hhttp url "Error sending webhook: ").bind
    fun _ => only_ret ()
  rw [Prog.bind_assoc] at hpost
  exact hpost

end

/-- **What every request opens.** -/
theorem program_opens (hprivate : w.config.allowPrivateNetwork = false) (r : OutboundRequest) :
    ((outboundRequests w).program r).Only (Opens w r) := by
  cases r with
  | get url options => exact (get_opens hprivate url rfl rfl).bind fun _ => only_ret _
  | getFollowingRedirects url options maxRedirects =>
    exact (getHops_opens hprivate rfl rfl maxRedirects _ url).bind fun _ => only_ret _
  | sendWebhook url => exact (post_opens hprivate rfl rfl url _).bind fun _ => only_ret _
  | sendWebhookNotification url => exact (event_opens hprivate rfl rfl url).bind fun _ => only_ret _
  | sendSessionCancelledWebhook url =>
    exact (event_opens hprivate rfl rfl url).bind fun _ => only_ret _
  | sendClaimsWebhook url => exact (post_opens hprivate rfl rfl url _).bind fun _ => only_ret _

/-- **What every call of a run opens.** -/
theorem run_opens (hprivate : w.config.allowPrivateNetwork = false)
    (ms : List (Move Unit OutboundRequest)) {t : Nat} {op : NetCall} {res : op.Result}
    (h : ⟨t, op, res⟩ ∈ (outboundRun w ms).trace) :
    ∃ r, (outboundRun w ms).requests[t]? = some r ∧ Opens w r op :=
  System.Footed.event (program_opens hprivate) (System.footed_start _ _) h List.not_mem_nil

end OutboundRequests

open OutboundRequests

/-- **Outbound requests reach public networks only**, over allowed schemes and to allowed hosts,
if and only if the redirects lead there that are followed for webhooks. -/
theorem outbound_safe_iff (w : NetWorld) (hprivate : w.config.allowPrivateNetwork = false)
    (ms : List (Move Unit OutboundRequest)) : OutboundSafe w ms ↔ RedirectsAllowed w ms := by
  constructor
  · intro h t c res hmem
    obtain ⟨r, hr, htrusted, hhttp, hone, -⟩ := run_opens hprivate ms hmem
    rcases h t r (.follow c) res c hr hmem rfl with htrust | hsafe
    · simp [htrusted, trustsOrigin] at htrust
    · refine ⟨hhttp ▸ hsafe.scheme, hsafe.host, fun a ha => hsafe.addresses a ?_⟩
      rw [hone a ha]
      exact List.mem_singleton_self a
  · intro h t r op res c hr hmem hc
    obtain ⟨r', hr', hopens⟩ := run_opens hprivate ms hmem
    obtain rfl : r = r' := Option.some.inj (hr.symm.trans hr')
    cases op with
    | lookup hostname => cases hc
    | request c' =>
      cases hc
      exact hopens
    | follow c' =>
      cases hc
      obtain ⟨-, hhttp, hone, hname⟩ := hopens
      have hallowed := h t c res hmem
      exact .inr ⟨hhttp ▸ hallowed.scheme, hallowed.host,
        addresses_public hallowed.literal hone hname⟩

namespace OutboundRequests

def hooks : Domain := ⟨['h', 'o', 'o', 'k', 's'], by decide +kernel, by decide +kernel⟩

def metadata : Address := .v4 169 254 169 254

/-- A webhook whose server redirects to `http://169.254.169.254`. -/
def world : NetWorld where
  config := {}
  parse url := if url = ['h'] then some ⟨"https:".toList, .domain hooks, ['h']⟩
    else some ⟨"http:".toList, .literal metadata, ['m']⟩
  resolve _ _ := some ['m']
  lookup _ hostname := if h : hostname.head? = some '[' then ⟨none, fun _ => rfl⟩
    else ⟨some [.v4 93 184 216 34], fun h' => absurd h' h⟩
  respond _ c := .ok (if c.url.origin = ['h'] then { status := 302, location := some ['m'] }
    else { status := 200 })

def sent : List (Move Unit OutboundRequest) :=
  [.arrive (.sendWebhook ['h']), .resume 0, .resume 0, .resume 0, .resume 0]

/-- Does the first request follow a redirect to the metadata service? -/
def reachesMetadata : Event NetCall.Result → Bool
  | ⟨0, .follow c, _⟩ => c.addresses.contains metadata
  | _ => false

theorem metadata_private : metadata.IsPrivate := .octets (by unfold PrivateOctets; decide)

end OutboundRequests

theorem outbound_safe_iff_sent : OutboundSafe OutboundRequests.world OutboundRequests.sent ↔
    RedirectsAllowed OutboundRequests.world OutboundRequests.sent :=
  outbound_safe_iff OutboundRequests.world (by decide) OutboundRequests.sent

/-- **The claim fails**: a webhook that is redirected reaches a link-local address. -/
theorem not_outbound_safe : ¬OutboundSafe OutboundRequests.world OutboundRequests.sent := by
  intro h
  have hreach : (outboundRun OutboundRequests.world OutboundRequests.sent).trace.any
      OutboundRequests.reachesMetadata = true := by decide +kernel
  obtain ⟨e, hmem, he⟩ := List.any_eq_true.mp hreach
  obtain ⟨t, op, res⟩ := e
  match t, op, res, he, hmem with
  | 0, .follow c, res, he, hmem =>
    rcases h 0 (.sendWebhook ['h']) (.follow c) res c rfl hmem rfl with htrust | hsafe
    · simp [OutboundRequest.trustedOrigins, trustsOrigin] at htrust
    · exact hsafe.addresses _ (List.contains_iff_mem.mp he) OutboundRequests.metadata_private

end Eudiplo
