import BuildOptions.Configuration

/-! The packages that a configuration requires: packages of the host that are linked in, each behind
a condition on the switches that are on, and what testing and caching need besides. -/

namespace BuildOptions

/-- What a package is for: linked into what is built, needed to test it, or a tool of the build. -/
inductive PackageScope where
  | host
  | test
  | tool
deriving DecidableEq, Repr

/-- The name of a scope. -/
def PackageScope.name : PackageScope → String
  | host => "host"
  | test => "test"
  | tool => "tool"

/-- A required package: its name and versions, whether it is linked as a shared library, whether it
overrides the versions that other packages ask for, and options to build it with. -/
structure Package where
  reference : String
  scope : PackageScope
  isShared : Bool
  overridesOthers : Bool
  options : List (String × String)
deriving DecidableEq, Repr

/-- The name of a package is its reference up to the first slash. -/
def Package.name (package : Package) : String :=
  String.ofList (package.reference.toList.takeWhile (· != '/'))

namespace Package

/-! ### Conditions on the switches -/

/-- The transfer library is needed. -/
def needsCurl (isOn : String → Bool) : Bool :=
  (isOn "build_framework" && isOn "framework_curlinit") || isOn "build_celix_etcdlib" ||
    isOn "build_deployment_admin" || isOn "build_rsa_discovery_common" ||
    isOn "build_rsa_remote_service_admin_dfi" || isOn "build_launcher"

/-- The XML library is needed. -/
def needsLibxml2 (isOn : String → Bool) : Bool :=
  isOn "build_rsa_discovery_common" || isOn "build_shell_bonjour" ||
    (isOn "build_rsa_remote_service_admin_dfi" && isOn "enable_testing")

/-- The web server is needed. -/
def needsCivetweb (isOn : String → Bool) : Bool :=
  isOn "build_http_admin" || isOn "build_rsa_discovery_common" ||
    isOn "build_rsa_remote_service_admin_dfi"

/-- A package of the host and the condition that requires it. -/
structure HostEntry where
  reference : String
  isShared : Bool
  needed : (isOn : String → Bool) → Bool

/-- The packages of the host, in the order in which they are listed. -/
def hostEntries : List HostEntry := [
  ⟨"libzip/[>=1.7.3 <2.0.0]", true, fun isOn => isOn "build_utils"⟩,
  ⟨"util-linux-libuuid/2.39", true, fun isOn => isOn "build_framework" || isOn "build_pubsub"⟩,
  ⟨"libcurl/[>=7.64.1 <8.0.0]", true, needsCurl⟩,
  ⟨"zlib/[>=1.2.8 <2.0.0]", true, fun isOn => isOn "build_deployment_admin"⟩,
  ⟨"libxml2/[>=2.9.9 <3.0.0]", true, needsLibxml2⟩,
  ⟨"rapidjson/[>=1.1.0 <2.0.0]", false, fun isOn => isOn "build_cxx_remote_service_admin"⟩,
  ⟨"zeromq/4.3.4", true, fun isOn => isOn "build_pubsub_psa_zmq"⟩,
  ⟨"czmq/4.2.0", true, fun isOn => isOn "build_pubsub_psa_zmq"⟩,
  ⟨"civetweb/1.16", true, needsCivetweb⟩,
  ⟨"libffi/[>=3.2.1 <4.0.0]", true, fun isOn => isOn "build_celix_dfi"⟩,
  ⟨"jansson/[>=2.12 <3.0.0]", true,
    fun isOn => isOn "build_celix_dfi" || isOn "build_celix_etcdlib"⟩,
  ⟨"mdnsresponder/1310.140.1", false,
    fun isOn => isOn "build_rsa_discovery_zeroconf" || isOn "build_shell_bonjour"⟩]

/-- The packages of the host that are required when `isOn` tells which switches are on. -/
def ofHost (isOn : String → Bool) : List Package :=
  (hostEntries.filter fun entry => entry.needed isOn).map fun entry =>
    ⟨entry.reference, .host, entry.isShared, false, []⟩

/-- The cryptography library is always pinned, and shared where one of its users is. -/
def cryptography (isOn : String → Bool) : Package :=
  ⟨"openssl/1.1.1t", .host, needsCurl isOn || needsCivetweb isOn, true, []⟩

/-- The packages that testing needs; the address sanitizer does not go with leak detection. -/
def ofTesting (isOn : String → Bool) : List Package :=
  if isOn "enable_testing" then
    [⟨"gtest/1.10.0", .test, true, false, []⟩,
      ⟨"cpputest/4.0", .test, false, false,
        if isOn "enable_address_sanitizer" then [("with_leak_detection", "False")] else []⟩]
  else []

/-- The tools that the build itself needs. -/
def ofTools (isOn : String → Bool) : List Package :=
  if isOn "enable_ccache" then [⟨"ccache/4.6", .tool, false, false, []⟩] else []

end Package

/-- The packages that a configuration requires, in order. -/
def Configuration.packages (config : Configuration) : List Package :=
  Package.ofHost config.isOn ++ [Package.cryptography config.isOn] ++
    Package.ofTesting config.isOn ++ Package.ofTools config.isOn

end BuildOptions
