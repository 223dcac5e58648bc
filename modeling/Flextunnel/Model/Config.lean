import Flextunnel.Model.Startup

/-!
# The server's configuration

`resolve_server` merges the command line over the configuration file and checks what needs no
I/O: alias keys, forward suffixes that differ only by case, the shape of the bridges. What it
returns goes to `prepare`.

A path is a text; the home directory is an argument. Maps keep the order they iterate in: a
`Table` read from a file, or built here, stands for any table with its entries.

Unnamed source lines are of `core/config.rs`.
-/

set_option autoImplicit false

namespace Flextunnel.Model

open Lib

namespace Config

/-- SOURCE: 46-95 -/
structure ServerConfig where
  secretFile : Option String := none
  authorizedKeysFile : Option String := none
  relayUrls : Option (List String) := none
  relayAuthToken : Option String := none
  hostAliases : Option (Table String) := none
  routedDomains : Option (List String) := none
  routedCidrs : Option (List String) := none
  dnsForwards : Option (Table (List String)) := none
  bridges : Option (Table BridgeConfig) := none
  allowedBridgeServers : Option (List String) := none

/-- SOURCE: 167-192 -/
structure ResolvedServer where
  secretFile : Option String
  authorizedKeysFile : Option String
  relayUrls : List String
  relayAuthToken : Option String
  hostAliases : Table String
  routedDomains : List String
  routedCidrs : List String
  dnsForwards : Table (List String)
  bridges : Table BridgeConfig
  allowedBridgeServers : List String
  blocklistFile : String

inductive ResolveError where
  | duplicate (what key : String)
  | wildcardPattern (what key : String)
  | aliasName (what key : String)
  | reservedAlias (key : String)
  | emptyBridge (name : String)
  | sameEndpoint (other name : String)
  | noHome
deriving DecidableEq, Repr

/-- SOURCE: 324-327, 342, 345-348, 357-360, 397,
400-402, 415-418 -/
def ResolveError.message : ResolveError → String
  | .duplicate what key =>
    "duplicate [" ++ what ++ "] alias '" ++ key ++ "': aliases are matched case-insensitively, " ++
    "so entries differing only by case collide"
  | .wildcardPattern what key => "invalid [" ++ what ++ "] wildcard pattern '" ++ key ++ "'"
  | .aliasName what key =>
    "invalid [" ++ what ++ "] name '" ++ key ++ "': use an exact hostname or a '*.suffix' wildcard"
  | .reservedAlias key =>
    "alias '" ++ key ++ "' uses the reserved flextunnel.internal namespace and cannot be used " ++
    "as a [host_aliases] name"
  | .emptyBridge name =>
    "bridge '" ++ name ++ "' has no domains and no cidrs; it would never match"
  | .sameEndpoint other name =>
    "bridges '" ++ other ++ "' and '" ++ name ++ "' target the same endpoint_id; merge their " ++
    "domains/cidrs into one entry"
  | .noHome =>
    "Could not determine the home directory for the duplicate-id blocklist " ++
    "(~/.config/flextunnel/blocklist.json); set HOME"

/-! ## Paths -/

/-- `Path::join`: an absolute path replaces the one it is joined to. -/
def joinPath (base rest : String) : String :=
  if (Text.stripPrefix "/" rest).isSome then rest
  else if base = "" || Text.endsWith "/" base then base ++ rest
  else base ++ "/" ++ rest

/-- SOURCE: 213-225 -/
def expandTilde (home : Option String) (path : String) : String :=
  match Text.stripPrefix "~/" path with
  | some rest => (home.map fun dir => joinPath dir rest).getD path
  | none => if path = "~" then home.getD path else path

/-- SOURCE: core/blocklist.rs:56-62 -/
def defaultBlocklistPath (home : Option String) : Option String :=
  home.map fun dir => joinPath (joinPath (joinPath dir ".config") "flextunnel") "blocklist.json"

/-! ## Maps with lowercased keys -/

section Lowercased

variable {ν : Type}

/-- One entry added to the map with lowercased keys.
SOURCE: 412-421 -/
def insertLowercased (what : String) (out : Table ν) (entry : String × ν) :
    Except ResolveError (Table ν) :=
  let key := Text.toAsciiLowercase entry.1
  if (out.lookup key).isSome then .error (.duplicate what key) else .ok (out.insert key entry.2)

/-- SOURCE: 407-423 -/
def collectLowercased (entries : Table ν) (what : String) : Except ResolveError (Table ν) :=
  entries.toPairs.foldlM (insertLowercased what) ∅

end Lowercased

/-! ## Checks -/

/-- SOURCE: 394-405 -/
def validateAliasKey (key what : String) : Except ResolveError Unit :=
  match Text.stripPrefix "*." key with
  | some suffix =>
    if Text.containsChar '*' suffix || (Text.splitChar '.' suffix).any (· == "") then
      .error (.wildcardPattern what key)
    else .ok ()
  | none =>
    if key = "" || Text.containsChar '*' key then .error (.aliasName what key) else .ok ()

/-- SOURCE: 322-329 -/
def checkReservedAlias (key : String) : Except ResolveError Unit :=
  if isReservedHost key then .error (.reservedAlias key) else .ok ()

/-- One bridge, with the endpoint ids of the bridges before it.
SOURCE: 339-350 -/
def checkBridge (seen : Table String) (entry : String × BridgeConfig) :
    Except ResolveError (Table String) :=
  let (name, b) := entry
  if b.domains.isEmpty && b.cidrs.isEmpty then .error (.emptyBridge name)
  else
    match seen.lookup b.endpointId with
    | some other => .error (.sameEndpoint other name)
    | none => .ok (seen.insert b.endpointId name)

/-- The bridges in the order of their names.
SOURCE: 335-350 -/
def checkBridges (bridges : Table BridgeConfig) : Except ResolveError (Table String) :=
  (bridges.toPairs.insertionSort fun a b => ¬ b.1 < a.1).foldlM checkBridge ∅

/-- SOURCE: 294-381 -/
def resolveServer (home : Option String) (cli : ServerConfig) (file : Option ServerConfig) :
    Except ResolveError ResolvedServer := do
  let file := file.getD {}
  let hostAliases ← collectLowercased ((cli.hostAliases.or file.hostAliases).getD ∅) "host_aliases"
  let dnsForwards ← collectLowercased ((cli.dnsForwards.or file.dnsForwards).getD ∅) "dns_forwards"
  hostAliases.keys.forM fun key => validateAliasKey key "host_aliases"
  hostAliases.keys.forM checkReservedAlias
  let bridges := (cli.bridges.or file.bridges).getD ∅
  let _ ← checkBridges bridges
  let some blocklistFile := defaultBlocklistPath home | .error .noHome
  return {
    secretFile := (cli.secretFile.or file.secretFile).map (expandTilde home)
    authorizedKeysFile := (cli.authorizedKeysFile.or file.authorizedKeysFile).map (expandTilde home)
    relayUrls := (cli.relayUrls.or file.relayUrls).getD []
    relayAuthToken := cli.relayAuthToken.or file.relayAuthToken
    hostAliases
    routedDomains := (cli.routedDomains.or file.routedDomains).getD []
    routedCidrs := (cli.routedCidrs.or file.routedCidrs).getD []
    dnsForwards, bridges
    allowedBridgeServers := (cli.allowedBridgeServers.or file.allowedBridgeServers).getD []
    blocklistFile }

/-- The options a server is started with, from its configuration and its credentials.
SOURCE: cli/main.rs:523-537 -/
def ResolvedServer.options {EndpointId PublicKey : Type} (r : ResolvedServer)
    (secretKey : List UInt8) (authorizedKeys : List PublicKey) (quickClient : Option EndpointId) :
    ServerOptions EndpointId PublicKey where
  secretKey := secretKey
  authorizedKeys := authorizedKeys
  quickClient := quickClient
  relayUrls := r.relayUrls
  relayAuthToken := r.relayAuthToken
  hostAliases := r.hostAliases
  routedDomains := r.routedDomains
  routedCidrs := r.routedCidrs
  dnsForwards := r.dnsForwards
  bridges := r.bridges
  allowedBridgeServers := r.allowedBridgeServers

end Config

end Flextunnel.Model
