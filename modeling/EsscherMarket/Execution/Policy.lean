import EsscherMarket.Execution.Models

/-!
# The frozen execution policy and protocol

`contracts/execution_policy.py`: the objects whose digests a registered permit carries.
-/

namespace EsscherMarket.Execution

open Lib

def alpacaMcpV2Version : String := "2.3.1"

def texts (items : List String) : Json := .arr (items.map .str)

def alpacaMcpV2Protocol : Json :=
  .obj [("schema", .str "ringdown.alpaca_mcp_protocol"),
    ("schema_version", .int 2),
    ("adapter", .str "ALPACA_MCP"),
    ("adapter_version", .str alpacaMcpV2Version),
    ("distribution_type", .str "PYPI"),
    ("distribution_filename", .str "alpaca_mcp_server-2.3.1-py3-none-any.whl"),
    ("wheel_sha256",
      .str "f27157048cf46e5f43c68e41af5b62bae7b0c4348e48d13fa896209e65da3813"),
    ("sdist_filename", .str "alpaca_mcp_server-2.3.1.tar.gz"),
    ("sdist_sha256",
      .str "0b50c14c8bc62fa7a914606922c92d71819e669edef10db3b386810cc0b3cee1"),
    ("provenance_class", .str "PYPI_RELEASE_NO_GIT_TAG"),
    ("source_equivalent_version", .str "2.3.1"),
    ("source_equivalent_commit", .str "94a0d9a721b0e81c5c7bcd1063aaa8eeb8bed087"),
    ("runtime", .obj [("name", .str "FastMCP"), ("version", .str "3.4.7"),
      ("spec", .str "fastmcp>=3.1.0,<4")]),
    ("server_toolsets", texts ["account", "trading"]),
    ("discovered_tool_count", .int 26),
    ("selected_schema_count", .int 6),
    ("selected_schema_canonicalization",
      .str "JSON_SORTED_KEYS_COMPACT_UTF8_EXPLICIT_NULL_V1"),
    ("selected_schema_sha256",
      .str "8df3ec51f2468b6ed938763c3fb8a2d9d8ce2390c18225fe3c9e6d2e3a894787"),
    ("run_mode", .str "PAPER"),
    ("data_class", .str "INDICATIVE_DATA"),
    ("tools", texts ["get_account_info", "place_option_order", "get_order_by_client_id",
      "get_order_by_id", "cancel_order_by_id", "get_all_positions"])]

def alpacaMcpV2ProtocolSha256 : String := alpacaMcpV2Protocol.sha256

def researchDecisionProtocol : Json :=
  .obj [("schema", .str "ringdown.research_decision_protocol"),
    ("schema_version", .int 1),
    ("decision_schema", .str "ringdown.frozen_research_decision"),
    ("evidence_schema", .str "ringdown.point_in_time_evidence_manifest"),
    ("input_schema", .str "ringdown.feature_input_snapshot"),
    ("artifact_schema_version", .int 1),
    ("approved_decision_state", .str "APPROVED"),
    ("approved_eligibility", .str "ELIGIBLE"),
    ("approved_qfast_status", .str "NOT_REJECTED_SMALL_SAMPLE"),
    ("approved_qlatency_status", .str "NOT_REJECTED_SMALL_SAMPLE"),
    ("claim", .str "NOT_ALPHA_EVIDENCE"),
    ("research_data_class", .str "POINT_IN_TIME_EVENT_PANEL"),
    ("data_qualifiers", texts ["INDICATIVE_DATA", "NOT_ALPHA_EVIDENCE"]),
    ("hash_representation", .str "raw_bytes"),
    ("feature_dependency_check", .str "ELIGIBLE"),
    ("freeze_rule", .str "frozen_at_equals_decision_cutoff")]

def researchDecisionProtocolSha256 : String := researchDecisionProtocol.sha256

def paperPermitPolicy : Json :=
  .obj [("schema", .str "ringdown.paper_execution_permit_policy"),
    ("schema_version", .int 1),
    ("policy_version", .str "paper-debit-vertical/v1"),
    ("run_mode", .str "PAPER"),
    ("data_class", .str "INDICATIVE_DATA"),
    ("strategy_kind", .str "DEBIT_VERTICAL"),
    ("allowed_vertical_types", texts ["BEAR_PUT", "BULL_CALL"]),
    ("quantity", .int 1),
    ("maximum_loss_usd", .str "500.00"),
    ("permit_ttl_seconds", .int 60),
    ("research_protocol_sha256", .str researchDecisionProtocolSha256),
    ("execution_protocol_sha256", .str alpacaMcpV2ProtocolSha256)]

def paperPermitPolicySha256 : String := paperPermitPolicy.sha256

/-- `paper_event_run_id`: the event run of a decision. -/
def paperEventRunId (decisionSha256 : String) : String :=
  "rd-event-" ++ String.ofList (decisionSha256.toList.take 32)

end EsscherMarket.Execution
