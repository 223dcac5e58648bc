import Flextunnel.Lib.Basic
import Flextunnel.Model.Address

/-!
# Routing rules

The tables a request is matched against, on the server and (for the routed set) on the
client: the reserved `flextunnel.internal` namespace, the routed set with its checks,
the conditional DNS forwards and the host aliases.

The networks of `ipnetwork` and the construction of a resolver belong to other crates; they
are arguments of the functions that use them. Error values carry what
their texts quote; `debug` renders a string as `{:?}` does.

Unnamed source lines are of `core/proxy/routed_set.rs`.
-/

set_option autoImplicit false

namespace Flextunnel.Model

open Lib

/-! ## The reserved namespace -/

/-- SOURCE: core/proxy/reserved.rs:15 -/
def statusHost : String := "flextunnel.internal"

/-- SOURCE: core/proxy/reserved.rs:20 -/
def localhostHost : String := "localhost.flextunnel.internal"

/-- SOURCE: core/proxy/reserved.rs:23 -/
def reservedSuffix : String := ".flextunnel.internal"

/-- SOURCE: core/proxy/reserved.rs:40-42 -/
def isStatusHost (host : String) : Bool :=
  Text.eqIgnoreAsciiCase host statusHost

/-- SOURCE: core/proxy/reserved.rs:28-37 -/
def isReservedHost (host : String) : Bool :=
  isStatusHost host || (Text.stripSuffix reservedSuffix (Text.toAsciiLowercase host)).any (· != "")

/-- SOURCE: core/proxy/reserved.rs:46-48 -/
def isLocalhostHost (host : String) : Bool :=
  Text.eqIgnoreAsciiCase host localhostHost

/-- Whether a target is in the reserved namespace; a literal address never is. -/
def Target.isReserved : Target → Bool
  | .domain host _ => isReservedHost host
  | .ip _ => false

/-! ## The routed set -/

/-- SOURCE: 45-58 -/
structure RoutedSet where
  domainsExact : List String := []
  domainsSuffix : List String := []
  cidrs : List IpNetwork := []
  domainsAll : Bool := false
deriving DecidableEq, Repr

/-- The errors of `RoutedSet::new` and `validate_rules_reachable`, with the rule as it
was written. -/
inductive RouteError where
  | wildcardPattern (raw : String)
  | domainPattern (raw : String)
  | cidr (raw : String)
  | domainUnreachable (raw : String)
  | cidrRule (raw : String)
  | cidrUnreachable (raw : String)
deriving DecidableEq, Repr

/-- SOURCE: 79, 83, 95, 166, 173, 181 -/
def RouteError.message (debug : String → String) : RouteError → String
  | .wildcardPattern raw => "invalid routed-domain wildcard pattern: " ++ debug raw
  | .domainPattern raw => "invalid routed-domain pattern: " ++ debug raw
  | .cidr raw => "invalid routed CIDR: " ++ debug raw
  | .domainUnreachable raw => "domain rule " ++ debug raw ++ " is not covered by the routed set"
  | .cidrRule raw => "invalid CIDR rule: " ++ debug raw
  | .cidrUnreachable raw => "CIDR rule " ++ debug raw ++ " does not overlap any routed CIDR"

namespace RoutedSet

/-- One domain rule added to the set.
SOURCE: 68-87 -/
def addDomain (set : RoutedSet) (raw : String) : Except RouteError RoutedSet :=
  let entry := Text.trim raw
  if entry = "*" then .ok { set with domainsAll := true }
  else
    match Text.stripPrefix "*." entry with
    | some suffix =>
      if Text.containsChar '*' suffix || (Text.splitChar '.' suffix).any (· == "") then
        .error (.wildcardPattern raw)
      else
        .ok { set with domainsSuffix := set.domainsSuffix ++ ["." ++ Text.toAsciiLowercase suffix] }
    | none =>
      if entry = "" || Text.containsChar '*' entry then .error (.domainPattern raw)
      else .ok { set with domainsExact := set.domainsExact.insert (Text.toAsciiLowercase entry) }

/-- A CIDR rule: a network, or a bare address as the network of one host.
SOURCE: 91-96 -/
def parseCidr (networks : IpNetworkCrate) (raw : String) : Option IpNetwork :=
  let entry := Text.trim raw
  match networks.parse entry with
  | some net => some net
  | none => (IpAddr.parse entry).map networks.ofIp

/-- SOURCE: 64-105 -/
def new (networks : IpNetworkCrate) (domains cidrs : List String) :
    Except RouteError RoutedSet := do
  let set ← domains.foldlM addDomain {}
  let nets ← cidrs.mapM fun raw =>
    match parseCidr networks raw with
    | some net => .ok net
    | none => .error (.cidr raw)
  return { set with cidrs := nets }

/-- SOURCE: 138-140 -/
def allowsIp (set : RoutedSet) (ip : IpAddr) : Bool :=
  set.cidrs.any (·.contains ip)

/-- SOURCE: 219-225 -/
def parseIpLiteral (host : String) : Option IpAddr :=
  let unbracketed := ((Text.stripPrefix "[" host).bind (Text.stripSuffix "]")).getD host
  IpAddr.parse unbracketed

/-- SOURCE: 123-136 -/
def allowsHost (set : RoutedSet) (host : String) : Bool :=
  match parseIpLiteral host with
  | some ip => set.allowsIp ip
  | none =>
    if set.domainsAll then true
    else
      let host := Text.toAsciiLowercase host
      set.domainsExact.contains host ||
        set.domainsSuffix.any fun suffix => Text.endsWith suffix host

/-- SOURCE: 112-117 -/
def allows (set : RoutedSet) : Target → Bool
  | .domain host _ => set.allowsHost host
  | .ip addr => set.allowsIp addr.ip

/-- SOURCE: 193-214 -/
def coversSuffix (set : RoutedSet) (suffix : String) : Bool :=
  if set.domainsAll then true
  else
    let dotSuffix := "." ++ suffix
    if set.domainsExact.contains suffix || set.domainsExact.any (Text.endsWith dotSuffix) then true
    else
      set.domainsSuffix.any fun dotT =>
        let t := String.ofList (dotT.toList.drop 1)
        t == suffix || Text.endsWith dotT suffix || Text.endsWith dotSuffix t

/-- Whether a domain rule can fire under this set.
SOURCE: 151-167 -/
def domainRuleReachable (set : RoutedSet) (raw : String) : Bool :=
  let entry := Text.trim raw
  if entry = "*" then
    set.domainsAll || !set.domainsExact.isEmpty || !set.domainsSuffix.isEmpty
  else
    match Text.stripPrefix "*." entry with
    | some suffix => set.coversSuffix (Text.toAsciiLowercase suffix)
    | none => set.allowsHost entry

/-- SOURCE: 149-185 -/
def validateRulesReachable (networks : IpNetworkCrate) (set : RoutedSet)
    (domains cidrs : List String) : Except RouteError Unit := do
  domains.forM fun raw =>
    if set.domainRuleReachable raw then .ok () else .error (.domainUnreachable raw)
  cidrs.forM fun raw =>
    match parseCidr networks raw with
    | none => .error (.cidrRule raw)
    | some net =>
      if set.cidrs.any fun routed =>
          routed.contains net.network || net.contains routed.network then .ok ()
      else .error (.cidrUnreachable raw)

end RoutedSet

/-! ## Conditional DNS forwards -/

/-- SOURCE: core/proxy/dns_forward.rs:40 -/
def defaultDnsPort : UInt16 := 53

/-- One configured suffix; its resolver is given by the servers it asks.
SOURCE: core/proxy/dns_forward.rs:43-52 -/
structure Forward where
  suffix : String
  servers : List String
  resolver : List (IpAddr × UInt16)
deriving DecidableEq, Repr

/-- SOURCE: core/proxy/dns_forward.rs:57-61 -/
structure DnsForwarder where
  forwards : List Forward
deriving DecidableEq, Repr

inductive DnsError where
  | suffix (suffix : String)
  | noServers (suffix : String)
  | server (spec suffix : String)
  | resolver (suffix : String)
deriving DecidableEq, Repr

/-- SOURCE: core/proxy/dns_forward.rs:76, 79, 85, 100 -/
def DnsError.message (debug : String → String) : DnsError → String
  | .suffix s => "invalid [dns_forwards] domain suffix: " ++ debug s
  | .noServers s => "[dns_forwards] entry " ++ debug s ++ " lists no DNS servers"
  | .server spec s =>
    "invalid [dns_forwards] server " ++ debug spec ++ " for suffix " ++ debug s
  | .resolver s => "building resolver for [dns_forwards] " ++ debug s

namespace DnsForwarder

/-- SOURCE: core/proxy/dns_forward.rs:179-191 -/
def parseServer (spec : String) : Option (IpAddr × UInt16) :=
  let spec := Text.trim spec
  match IpAddr.parse spec with
  | some ip => some (ip, defaultDnsPort)
  | none => (SocketAddr.parse spec).map fun addr => (addr.ip, addr.port)

/-- One entry of the configured table.
SOURCE: core/proxy/dns_forward.rs:73-106 -/
def addForward (buildResolver : List (IpAddr × UInt16) → Bool) (suffix : String)
    (servers : List String) : Except DnsError Forward := do
  let suffix := Text.toAsciiLowercase (Text.trimMatches '.' (Text.trim suffix))
  if suffix = "" || Text.containsChar '*' suffix || (Text.splitChar '.' suffix).any (· == "") then
    .error (.suffix suffix)
  else if servers.isEmpty then .error (.noServers suffix)
  else
    let resolver ← servers.mapM fun spec =>
      match parseServer spec with
      | some server => .ok server
      | none => .error (.server spec suffix)
    if buildResolver resolver then
      return { suffix, servers := servers.map Text.trim, resolver }
    else .error (.resolver suffix)

/-- Longest suffix first, the text as a tie break.
SOURCE: core/proxy/dns_forward.rs:109-114 -/
def moreSpecific (a b : Forward) : Prop :=
  Text.byteLen b.suffix < Text.byteLen a.suffix ∨
    (Text.byteLen a.suffix = Text.byteLen b.suffix ∧ ¬ b.suffix < a.suffix)

instance : DecidableRel moreSpecific := fun _ _ =>
  inferInstanceAs (Decidable (_ ∨ (_ ∧ ¬ _)))

/-- SOURCE: core/proxy/dns_forward.rs:68-116 -/
def new (buildResolver : List (IpAddr × UInt16) → Bool) (forwards : Table (List String)) :
    Except DnsError (Option DnsForwarder) := do
  if forwards.entries.isEmpty then return none
  else
    let entries ← forwards.toPairs.mapM fun e => addForward buildResolver e.1 e.2
    return some { forwards := entries.insertionSort moreSpecific }

/-- SOURCE: core/proxy/dns_forward.rs:121-123 -/
def suffixes (f : DnsForwarder) : List String := f.forwards.map Forward.suffix

/-- The table pushed to clients, sorted by suffix.
SOURCE: core/proxy/dns_forward.rs:129-137 -/
def pushed (f : DnsForwarder) : List (String × List String) :=
  (f.forwards.map fun e => (e.suffix, e.servers)).insertionSort fun a b => ¬ b.1 < a.1

/-- SOURCE: core/proxy/dns_forward.rs:162-168 -/
def suffixMatches (host suffix : String) : Bool :=
  host == suffix || (Text.stripSuffix suffix host).any (Text.endsWith ".")

/-- SOURCE: core/proxy/dns_forward.rs:143-149 -/
def resolverFor (f : DnsForwarder) (host : String) : Option (List (IpAddr × UInt16)) :=
  let host := Text.toAsciiLowercase host
  (f.forwards.find? fun e => suffixMatches host e.suffix).map Forward.resolver

end DnsForwarder

/-! ## Host aliases -/

/-- The value of the longest matching wildcard, the last one among equals.
SOURCE: core/proxy/server.rs:888-895 -/
def longestWildcard (aliases : List (String × String)) (host : String) : Option (Nat × String) :=
  aliases.foldl (fun best e =>
    match Text.stripPrefix "*." e.1 with
    | some suffix =>
      if Text.endsWith ("." ++ suffix) host && best.all (·.1 ≤ Text.byteLen suffix) then
        some (Text.byteLen suffix, e.2)
      else best
    | none => best) none

/-- SOURCE: core/proxy/server.rs:880-896 -/
def resolveAlias (aliases : Table String) (host : String) : Option String :=
  let host := Text.toAsciiLowercase host
  match aliases.lookup host with
  | some value => some value
  | none => (longestWildcard aliases.toPairs host).map Prod.snd

/-- SOURCE: core/proxy/server.rs:863-871 -/
def applyAlias (target : Target) (aliases : Table String) : Target :=
  match target with
  | .domain host port =>
    match resolveAlias aliases host with
    | some mapped => .domain mapped port
    | none => target
  | .ip _ => target

end Flextunnel.Model
