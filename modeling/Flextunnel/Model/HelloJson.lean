import Flextunnel.Lib.JsonText
import Flextunnel.Model.Signaling

/-!
# The text of a handshake response

What the derived `Serialize` of `HelloResponse` and `BridgeSummary` writes through
`serde_json::to_vec`: the fields in the order of their declarations, pairs as arrays of
two, and no `reject_reason` when there is none.
-/

set_option autoImplicit false

namespace Flextunnel.Model

open Lib

/-- SOURCE: core/proxy/signaling.rs:203-213 -/
def BridgeSummary.toJson (b : BridgeSummary) : List UInt8 :=
  JsonText.object
    [("name", JsonText.string b.name), ("endpoint_id", JsonText.string b.endpointId),
      ("domains", JsonText.array (b.domains.map JsonText.string)),
      ("cidrs", JsonText.array (b.cidrs.map JsonText.string))]

/-- SOURCE: core/proxy/signaling.rs:105-140 -/
def HelloResponse.toJson (r : HelloResponse) : List UInt8 :=
  JsonText.object
    ([("version", JsonText.number r.version.toNat), ("accepted", JsonText.bool r.accepted)] ++
      (r.rejectReason.map fun reason => ("reject_reason", JsonText.string reason)).toList ++
      [("server_instance_nonce", JsonText.number r.serverInstanceNonce.toNat),
        ("routed_domains", JsonText.array (r.routes.routedDomains.map JsonText.string)),
        ("routed_cidrs", JsonText.array (r.routes.routedCidrs.map JsonText.string)),
        ("host_aliases", JsonText.array (r.routes.hostAliases.map fun a =>
          JsonText.array [JsonText.string a.1, JsonText.string a.2])),
        ("dns_forwards", JsonText.array (r.routes.dnsForwards.map fun d =>
          JsonText.array [JsonText.string d.1, JsonText.array (d.2.map JsonText.string)])),
        ("bridges", JsonText.array (r.routes.bridges.map BridgeSummary.toJson))])

example : (HelloResponse.rejected 7 "a \"b\"").toJson = Reader.utf8
    ("\x7b\"version\":13,\"accepted\":false,\"reject_reason\":\"a \\\"b\\\"\"," ++
      "\"server_instance_nonce\":7,\"routed_domains\":[],\"routed_cidrs\":[]," ++
      "\"host_aliases\":[],\"dns_forwards\":[],\"bridges\":[]\x7d") := by
  decide +kernel

/-- `serde_json::to_vec` on a response.
SOURCE: core/proxy/signaling.rs:347-349 -/
def Json.EncodesResponses (json : Json) : Prop :=
  ∀ r, json.responseToJson r = .ok r.toJson

end Flextunnel.Model
