import JetKvm.ConfigParser

/-!
# The network configuration

`types.NetworkConfig` with the tags its fields are checked by, and the parsing
of its static addresses (`pkg/nmlite/static.go`, `pkg/nmlite/link/utils.go`).
-/

namespace JetKvm

open IpText ConfParser

structure IPv4StaticConfig where
  address : NullString := {}
  netmask : NullString := {}
  gateway : NullString := {}
  dns : Option (List String) := none
  deriving DecidableEq, Repr

structure IPv6StaticConfig where
  addressPrefix : NullString := {}
  gateway : NullString := {}
  dns : Option (List String) := none
  deriving DecidableEq, Repr

structure NetworkConfig where
  dhcpClient : NullString := {}
  hostname : NullString := {}
  httpProxy : NullString := {}
  domain : NullString := {}
  ipv4Mode : NullString := {}
  ipv4Static : Option IPv4StaticConfig := none
  ipv6Mode : NullString := {}
  ipv6Static : Option IPv6StaticConfig := none
  lldpMode : NullString := {}
  lldpTxTLVs : Option (List String) := none
  mdnsMode : NullString := {}
  timeSyncMode : NullString := {}
  timeSyncOrdering : Option (List String) := none
  timeSyncDisableFallback : NullBool := {}
  timeSyncParallel : NullInt := {}
  timeSyncNTPServers : Option (List String) := none
  timeSyncHTTPUrls : Option (List String) := none
  deriving DecidableEq, Repr

namespace NetworkConfig

section Checks

variable (parsers : Parsers) (order : FieldOrder)

def requiredField (name : String) (value : Value) (validateType : String) :
    Field :=
  { name := name, value := value, required := true
    validateTypes := [validateType] }

def ipv4StaticFields (config : IPv4StaticConfig) : List Field :=
  [requiredField "Address" (.nullString config.address) "ipv4",
    requiredField "Netmask" (.nullString config.netmask) "ipv4",
    requiredField "Gateway" (.nullString config.gateway) "ipv4",
    requiredField "DNS" (.strings config.dns) "ipv4"]

def ipv6StaticFields (config : IPv6StaticConfig) : List Field :=
  [requiredField "Prefix" (.nullString config.addressPrefix) "ipv6_prefix",
    requiredField "Gateway" (.nullString config.gateway) "ipv6",
    requiredField "DNS" (.strings config.dns) "ipv6"]

/-- Their fields have no defaults, so that checking them changes nothing. -/
def validateStatic (fields : List Field) : Except String Unit :=
  setDefaultsAndValidate parsers order fields (fun _ _ unchanged => unchanged) ()

def textField (name : String) (value : NullString) (validateType : String) :
    Field :=
  { name := name, value := .nullString value, validateTypes := [validateType] }

def choice (name : String) (value : NullString) (oneOf : List String)
    (byDefault : String) : Field :=
  { name := name, value := .nullString value, oneOf := oneOf
    defaults := some (.nullString (.of byDefault)) }

def fields (config : NetworkConfig) : List Field :=
  [choice "DHCPClient" config.dhcpClient ["jetdhcpc", "udhcpc"] "udhcpc",
    textField "Hostname" config.hostname "hostname",
    textField "HTTPProxy" config.httpProxy "proxy",
    textField "Domain" config.domain "hostname",
    choice "IPv4Mode" config.ipv4Mode ["dhcp", "static", "disabled"] "dhcp",
    { name := "IPv4Static"
      value := .pointer (config.ipv4Static.map fun static =>
        validateStatic parsers order (ipv4StaticFields static))
      requiredIf := [("IPv4Mode", "static")] },
    choice "IPv6Mode" config.ipv6Mode
      ["slaac", "dhcpv6", "slaac_and_dhcpv6", "static", "link_local",
        "disabled"] "slaac",
    { name := "IPv6Static"
      value := .pointer (config.ipv6Static.map fun static =>
        validateStatic parsers order (ipv6StaticFields static))
      requiredIf := [("IPv6Mode", "static")] },
    choice "LLDPMode" config.lldpMode ["disabled", "basic", "all"] "basic",
    { name := "LLDPTxTLVs", value := .strings config.lldpTxTLVs
      oneOf := ["chassis", "port", "system", "vlan"]
      defaults := some (.strings ["chassis", "port", "system", "vlan"]) },
    choice "MDNSMode" config.mdnsMode
      ["disabled", "auto", "ipv4_only", "ipv6_only"] "auto",
    choice "TimeSyncMode" config.timeSyncMode
      ["ntp_only", "ntp_and_http", "http_only", "custom"] "ntp_and_http",
    { name := "TimeSyncOrdering", value := .strings config.timeSyncOrdering
      oneOf := ["http", "ntp", "ntp_dhcp", "ntp_user_provided",
        "http_user_provided"]
      defaults := some (.strings ["ntp", "http"]) },
    { name := "TimeSyncDisableFallback"
      value := .nullBool config.timeSyncDisableFallback
      defaults := some (.nullBool ⟨false, true⟩) },
    { name := "TimeSyncParallel", value := .nullInt config.timeSyncParallel
      defaults := some (.nullInt ⟨4, true⟩) },
    { name := "TimeSyncNTPServers", value := .strings config.timeSyncNTPServers
      validateTypes := ["hostname_or_ipv4_or_ipv6"]
      requiredIf := [("TimeSyncOrdering", "ntp_user_provided")] },
    { name := "TimeSyncHTTPUrls", value := .strings config.timeSyncHTTPUrls
      validateTypes := ["url"]
      requiredIf := [("TimeSyncOrdering", "http_user_provided")] }]

/-- The fields with defaults are the ones that are ever set. -/
def set (name : String) (value : Value) (config : NetworkConfig) :
    NetworkConfig :=
  match name, value with
  | "DHCPClient", .nullString value => { config with dhcpClient := value }
  | "IPv4Mode", .nullString value => { config with ipv4Mode := value }
  | "IPv6Mode", .nullString value => { config with ipv6Mode := value }
  | "LLDPMode", .nullString value => { config with lldpMode := value }
  | "LLDPTxTLVs", .strings value => { config with lldpTxTLVs := value }
  | "MDNSMode", .nullString value => { config with mdnsMode := value }
  | "TimeSyncMode", .nullString value => { config with timeSyncMode := value }
  | "TimeSyncOrdering", .strings value =>
      { config with timeSyncOrdering := value }
  | "TimeSyncDisableFallback", .nullBool value =>
      { config with timeSyncDisableFallback := value }
  | "TimeSyncParallel", .nullInt value =>
      { config with timeSyncParallel := value }
  | _, _ => config

/-- `confparser.SetDefaultsAndValidate` on a network configuration -/
def setDefaultsAndValidate (config : NetworkConfig) :
    Except String NetworkConfig :=
  ConfParser.setDefaultsAndValidate parsers order (fields parsers order config)
    set config

end Checks

end NetworkConfig

/-! ### Static addresses -/

section Static

variable (parsers : Parsers)

structure IPNet where
  ip : IP
  mask : IPMask
  deriving DecidableEq, Repr

def parseIPv4Netmask (address netmask : String) : Except String IPNet :=
  if '/' ∈ address.toList then
    match parsers.parseCIDR address with
    | none => .error ("invalid IPv4 address: " ++ address)
    | some (_, network, mask) => .ok ⟨network, mask⟩
  else
    match parsers.parseIP address with
    | none => .error ("invalid IPv4 address: " ++ address)
    | some ip =>
        if to4 ip = none then .error ("not an IPv4 address: " ++ address)
        else
          match parsers.parseIP netmask with
          | none => .error ("invalid IPv4 netmask: " ++ netmask)
          | some mask =>
              match to4 mask with
              | none => .error ("not an IPv4 netmask: " ++ netmask)
              | some bytes => .ok ⟨ip, bytes⟩

/-- The mask of `prefixLength` ones, 64 wherever it is called -/
def cidrMask64 : IPMask := List.replicate 8 255 ++ List.replicate 8 0

def parseIPv6Prefix (address : String) : Except String IPNet :=
  let parse (address : String) (mask : IPMask) : Except String IPNet :=
    match parsers.parseIP address with
    | none => .error ("invalid IPv6 address: " ++ address)
    | some ip =>
        if (to4 ip).isSome then .error ("not an IPv6 address: " ++ address)
        else .ok ⟨ip, mask⟩
  if '/' ∈ address.toList then
    match parsers.parseCIDR address with
    | none => .error ("invalid IPv6 address: " ++ address)
    | some (_, _, mask) =>
        parse (String.ofList (address.toList.takeWhile (· ≠ '/'))) mask
  else parse address cidrMask64

def validateIPAddress (address : String) (isIPv6 : Bool) : Except String Unit :=
  match parsers.parseIP address with
  | none => .error ("invalid IP address: " ++ address)
  | some ip =>
      if isIPv6 then
        if (to4 ip).isSome then .error ("not an IPv6 address: " ++ address)
        else .ok ()
      else if to4 ip = none then .error ("not an IPv4 address: " ++ address)
      else .ok ()

structure ParsedIPConfig where
  address : IPNet
  gateway : IP
  nameservers : List IP
  deriving DecidableEq, Repr

def parseGateway (gateway : String) : Except String IP :=
  match parsers.parseIP gateway with
  | none => .error ("invalid gateway: " ++ gateway)
  | some ip => .ok ip

def toIPv4Static (config : Option IPv4StaticConfig) :
    Except String ParsedIPConfig :=
  match config with
  | none => .error "config is nil"
  | some config => do
      let ipNet ← parseIPv4Netmask parsers config.address.string
        config.netmask.string
      let gateway ← parseGateway parsers config.gateway.string
      let dns ← (config.dns.getD []).mapM fun dnsStr => do
        match validateIPAddress parsers dnsStr false with
        | .error err => .error ("invalid DNS server: " ++ err)
        | .ok _ => pure ((parsers.parseIP dnsStr).getD [])
      pure ⟨ipNet, gateway, dns⟩

def toIPv6Static (config : Option IPv6StaticConfig) :
    Except String ParsedIPConfig :=
  match config with
  | none => .error "config is nil"
  | some config => do
      let ipNet ← parseIPv6Prefix parsers config.addressPrefix.string
      let gateway ← parseGateway parsers config.gateway.string
      let dns ← (config.dns.getD []).mapM fun dnsStr =>
        match parsers.parseIP dnsStr with
        | none => .error ("invalid DNS server: " ++ dnsStr)
        | some dnsIP => pure dnsIP
      pure ⟨ipNet, gateway, dns⟩

end Static

end JetKvm
