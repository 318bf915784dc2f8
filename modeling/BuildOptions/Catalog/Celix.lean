import BuildOptions.Catalog.Basic

/-! The catalog of the Celix product: its flags, the rules among them, and what its platforms allow.
The tables have no defect and the rules no hazard, which the kernel checks by evaluating both. -/

namespace BuildOptions.Catalog

namespace Celix

/-- A switch that is off by default. -/
def off (name : String) : Flag := ⟨name, .switch false⟩

/-- A switch that is on by default. -/
def on (name : String) : Flag := ⟨name, .switch true⟩

/-- The flags in the order of their declaration. -/
def flags : List Flag := [
  off "enable_testing",
  off "enable_code_coverage",
  off "enable_address_sanitizer",
  off "enable_undefined_sanitizer",
  off "enable_thread_sanitizer",
  off "enable_testing_dependency_manager_for_cxx11",
  off "enable_testing_for_cxx14",
  off "build_all",
  off "build_deployment_admin",
  off "build_http_admin",
  off "build_log_service",
  off "build_log_helper",
  off "build_log_service_api",
  off "build_syslog_writer",
  off "build_pubsub",
  off "build_pubsub_wire_protocol_v1",
  off "build_pubsub_wire_protocol_v2",
  off "build_pubsub_json_serializer",
  off "build_pubsub_avrobin_serializer",
  off "build_pubsub_psa_zmq",
  off "build_pubsub_examples",
  off "build_pubsub_integration",
  off "build_pubsub_psa_tcp",
  off "build_pubsub_psa_udp_mc",
  off "build_pubsub_psa_ws",
  off "build_pubsub_discovery_etcd",
  off "build_cxx_remote_service_admin",
  off "build_cxx_rsa_integration",
  off "build_remote_service_admin",
  off "build_rsa_remote_service_admin_dfi",
  off "build_rsa_discovery_common",
  off "build_rsa_discovery_configured",
  off "build_rsa_discovery_etcd",
  off "build_rsa_remote_service_admin_shm_v2",
  off "build_rsa_json_rpc",
  off "build_rsa_discovery_zeroconf",
  off "build_shell",
  off "build_shell_api",
  off "build_remote_shell",
  off "build_shell_bonjour",
  off "build_shell_tui",
  off "build_shell_wui",
  off "build_components_ready_check",
  off "build_examples",
  off "build_celix_etcdlib",
  off "build_launcher",
  off "build_promises",
  off "build_pushstreams",
  off "build_experimental",
  off "build_celix_dfi",
  off "build_dependency_manager",
  off "build_dependency_manager_cxx",
  off "build_framework",
  off "build_rcm",
  off "build_utils",
  on "celix_cxx14",
  on "celix_cxx17",
  off "celix_install_deprecated_api",
  on "celix_use_compression_for_bundle_zips",
  off "enable_cmake_warning_tests",
  off "enable_testing_on_ci",
  on "framework_curlinit",
  off "enable_ccache",
  ⟨"celix_err_buffer_size", .scalar "512" .positiveInteger⟩]

/-- The rules in the order in which they are read. -/
def rules : List Rule := [
  ⟨"code-coverage", .any ["enable_code_coverage"], ["enable_testing"]⟩,
  ⟨"examples", .any ["build_examples"],
    ["build_shell_tui", "build_shell_wui", "build_log_service", "build_syslog_writer"]⟩,
  ⟨"shell-bonjour", .any ["build_shell_bonjour"], ["build_shell"]⟩,
  ⟨"deployment-admin", .any ["build_deployment_admin"], ["build_framework"]⟩,
  ⟨"cxx-rsa-integration", .any ["build_cxx_rsa_integration"],
    ["build_cxx_remote_service_admin", "build_pushstreams", "build_promises", "build_log_helper",
    "build_shell", "build_shell_tui", "build_shell_api", "build_pubsub",
    "build_pubsub_wire_protocol_v2", "build_pubsub_json_serializer", "build_pubsub_psa_zmq",
    "build_pubsub_discovery_etcd"]⟩,
  ⟨"pubsub-integration", .any ["build_pubsub_integration"],
    ["build_pubsub", "build_shell_tui", "build_pubsub_json_serializer",
    "build_pubsub_wire_protocol_v2", "build_pubsub_wire_protocol_v1", "enable_testing"]⟩,
  ⟨"pubsub-examples", .any ["build_pubsub_examples"],
    ["build_log_service", "build_shell_tui", "build_pubsub_json_serializer",
    "build_pubsub_discovery_etcd", "build_pubsub_wire_protocol_v2",
    "build_pubsub_wire_protocol_v1"]⟩,
  ⟨"pubsub-discovery-etcd", .any ["build_pubsub_discovery_etcd"],
    ["build_pubsub", "build_celix_etcdlib"]⟩,
  ⟨"pubsub-psa-ws", .any ["build_pubsub_psa_ws"], ["build_http_admin", "build_pubsub"]⟩,
  ⟨"pubsub-admins", .any ["build_pubsub_psa_zmq", "build_pubsub_psa_tcp",
      "build_pubsub_psa_udp_mc"],
    ["build_pubsub"]⟩,
  ⟨"pubsub-wire-v1", .any ["build_pubsub_wire_protocol_v1"], ["build_pubsub"]⟩,
  ⟨"pubsub-wire-v2", .any ["build_pubsub_wire_protocol_v2"], ["build_pubsub"]⟩,
  ⟨"pubsub-serializers", .any ["build_pubsub_json_serializer", "build_pubsub_avrobin_serializer"],
    ["build_pubsub"]⟩,
  ⟨"pubsub", .any ["build_pubsub"],
    ["build_framework", "build_celix_dfi", "build_shell_api", "build_log_helper",
    "celix_install_deprecated_api"]⟩,
  ⟨"cxx-remote-service-admin", .any ["build_cxx_remote_service_admin"],
    ["build_framework", "build_log_helper", "celix_cxx17"]⟩,
  ⟨"rsa-discovery-etcd", .any ["build_rsa_discovery_etcd"],
    ["build_celix_etcdlib", "build_rsa_discovery_common"]⟩,
  ⟨"rsa-discovery-configured", .any ["build_rsa_discovery_configured"],
    ["build_rsa_discovery_common"]⟩,
  ⟨"rsa-components", .any ["build_rsa_discovery_common", "build_rsa_discovery_zeroconf",
      "build_rsa_remote_service_admin_dfi", "build_rsa_json_rpc",
      "build_rsa_remote_service_admin_shm_v2"],
    ["build_remote_service_admin"]⟩,
  ⟨"remote-service-admin", .any ["build_remote_service_admin"],
    ["build_framework", "build_log_helper", "build_celix_dfi", "celix_install_deprecated_api"]⟩,
  ⟨"remote-shell", .any ["build_remote_shell"], ["build_shell"]⟩,
  ⟨"shell-wui", .any ["build_shell_wui"], ["build_shell", "build_http_admin"]⟩,
  ⟨"shell-tui", .any ["build_shell_tui"], ["build_shell"]⟩,
  ⟨"shell", .any ["build_shell"], ["build_shell_api", "build_log_helper", "build_framework"]⟩,
  ⟨"http-admin", .any ["build_http_admin"], ["build_framework"]⟩,
  ⟨"syslog-writer", .any ["build_syslog_writer"], ["build_log_service"]⟩,
  ⟨"log-service", .any ["build_log_service"],
    ["build_log_service_api", "build_shell_api", "build_framework", "build_log_helper"]⟩,
  ⟨"shell-api", .any ["build_shell_api"], ["build_utils"]⟩,
  ⟨"log-helper", .any ["build_log_helper"], ["build_log_service_api", "build_framework"]⟩,
  ⟨"log-service-api", .any ["build_log_service_api"], ["build_utils"]⟩,
  ⟨"log-service-api-deprecated", .all ["build_log_service_api", "celix_install_deprecated_api"],
    ["build_framework"]⟩,
  ⟨"components-ready-check", .any ["build_components_ready_check"], ["build_framework"]⟩,
  ⟨"rcm", .any ["build_rcm"], ["build_utils"]⟩,
  ⟨"launcher", .any ["build_launcher", "build_dependency_manager"], ["build_framework"]⟩,
  ⟨"dependency-manager-cxx", .any ["build_dependency_manager_cxx"],
    ["build_framework", "celix_cxx14"]⟩,
  ⟨"celix-dfi", .any ["build_celix_dfi"], ["build_utils"]⟩,
  ⟨"framework", .any ["build_framework"], ["build_utils"]⟩,
  ⟨"pushstreams", .any ["build_pushstreams"], ["build_promises"]⟩,
  ⟨"promises", .any ["build_promises"], ["celix_cxx17"]⟩,
  ⟨"cxx17", .any ["celix_cxx17"], ["celix_cxx14"]⟩]

/-- The switches that exist on Linux only, each with the name of its constraint. -/
def linuxOnly : List (String × String) := [
  ("shm-v2-linux-only", "build_rsa_remote_service_admin_shm_v2"),
  ("zeroconf-linux-only", "build_rsa_discovery_zeroconf"),
  ("bonjour-linux-only", "build_shell_bonjour")]

/-- The flags that do not count for the identity of a build. -/
def exclusions : List String := [
  "build_all",
  "build_pubsub_integration",
  "build_pubsub_examples",
  "build_cxx_rsa_integration",
  "build_examples",
  "build_shell_bonjour",
  "enable_testing_dependency_manager_for_cxx11",
  "enable_testing_for_cxx14",
  "enable_cmake_warning_tests",
  "enable_testing_on_ci",
  "enable_ccache"]

/-- The tables of the product. -/
def tables : Tables where
  flags := flags
  rules := rules
  constraints := linuxOnly.map fun entry => ⟨entry.1, .except .linux, entry.2, false⟩
  requirements := linuxOnly.map fun entry => ⟨entry.2, .linux⟩
  exclusions := exclusions
  umbrella := some "build_all"
  featureStem := "build_"

theorem defects_tables : tables.defects = [] := by decide +kernel

theorem orderHazards_rules : orderHazards rules = [] := by decide +kernel

end Celix

/-- The catalog of the product. -/
def celix : Catalog := ⟨Celix.tables, Celix.defects_tables⟩

end BuildOptions.Catalog
