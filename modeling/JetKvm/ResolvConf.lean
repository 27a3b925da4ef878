import JetKvm.GoIpText
import JetKvm.InterchangedWords
import Mathlib.Data.Char
import Mathlib.Data.List.Lex

/-!
# The resolver configuration

Translation of `mergeConfig`, `generateResolvConf` and `update` of
`resolvconf.go`, with `getDomain` of `hostname.go`. The template is executed by
a library that escapes what it writes for HTML. Each range over a map goes
through its entries in an order of its own.
-/

namespace JetKvm

namespace ResolvConf

open IpText InterchangedWords OrderedVisits

abbrev Text := List Char

structure InterfaceResolvConf where
  nameServers : List IP := []
  searchList : List Text := []
  domain : Text := []
  source : Text := []
  deriving DecidableEq, Repr

abbrev Entry := Text × InterfaceResolvConf

/-- A map by the names of the interfaces -/
structure InterfaceResolvConfMap where
  entries : List Entry
  distinct : (entries.map Prod.fst).Nodup

/-- `ResolvConfManager`, with the maps of its `conf` -/
structure ResolvConfManager where
  domain : Text := []
  configIPv4 : InterfaceResolvConfMap
  configIPv6 : InterfaceResolvConfMap

/-- The orders in which one run goes through the maps, by ranks of the keys -/
structure Iteration where
  mergeIPv4 : Text → Nat := fun _ => 0
  mergeIPv6 : Text → Nat := fun _ => 0
  searchList : Text → Nat := fun _ => 0
  domainIPv4 : Text → Nat := fun _ => 0
  domainIPv6 : Text → Nat := fun _ => 0

/-- The characters that are replaced in HTML text -/
def escapeChar (char : Char) : Text :=
  if char = Char.ofNat 0 then [Char.ofNat 0xFFFD]
  else if char = '"' then "&#34;".toList
  else if char = '&' then "&amp;".toList
  else if char = '\'' then "&#39;".toList
  else if char = '+' then "&#43;".toList
  else if char = '<' then "&lt;".toList
  else if char = '>' then "&gt;".toList
  else [char]

def escape (text : Text) : Text := text.flatMap escapeChar

/-- `strings.Trim(text, ".")` -/
def trimDots (text : Text) : Text :=
  ((text.dropWhile (· = '.')).reverse.dropWhile (· = '.')).reverse

def comment (entry : Entry) : Text :=
  if entry.2.source ≠ [] then entry.1 ++ [' ', '('] ++ entry.2.source ++ [')']
  else entry.1

abbrev ConfigMap := List (Text × List Text)

/-- The name servers and the search list with an interface merged into them -/
def mergeEntry (maps : ConfigMap × ConfigMap) (entry : Entry) :
    ConfigMap × ConfigMap :=
  (entry.2.nameServers.foldl
      (fun nameservers ip => add nameservers (ipText ip) (comment entry))
      maps.1,
    entry.2.searchList.foldl
      (fun searchList search =>
        add searchList (trimDots search) (comment entry))
      maps.2)

def mergeConfig (maps : ConfigMap × ConfigMap) (config : List Entry) :
    ConfigMap × ConfigMap :=
  config.foldl mergeEntry maps

def InterfaceResolvConfMap.visited (config : InterfaceResolvConfMap)
    (rank : Text → Nat) : List Entry :=
  inOrder Prod.fst rank config.entries

def domainOf (entry : Entry) : Option Text :=
  if entry.2.domain ≠ [] then some entry.2.domain else none

def firstDomain (config : List Entry) : Option Text :=
  config.findSome? domainOf

/-- What the template is executed with -/
structure Page where
  searchList : List Text
  domain : Text
  nameservers : ConfigMap

section Run

variable (manager : ResolvConfManager) (iteration : Iteration)

/-- The manager has a domain of its own. -/
def ResolvConfManager.HasDomain : Prop :=
  manager.domain ≠ [] ∧ manager.domain ≠ "dhcp".toList

instance : Decidable manager.HasDomain :=
  inferInstanceAs (Decidable (_ ∧ _))

def getDomain : Text :=
  if manager.HasDomain then manager.domain
  else
    ((firstDomain (manager.configIPv4.visited iteration.domainIPv4)).or
      (firstDomain (manager.configIPv6.visited iteration.domainIPv6))).getD
      "local".toList

def merged : ConfigMap × ConfigMap :=
  mergeConfig
    (mergeConfig ([], []) (manager.configIPv4.visited iteration.mergeIPv4))
    (manager.configIPv6.visited iteration.mergeIPv6)

/-- A template goes through a map in the order of its keys. -/
def page : Page where
  searchList := (inOrder Prod.fst iteration.searchList
    (merged manager iteration).2).map Prod.fst
  domain := getDomain manager iteration
  nameservers := (merged manager iteration).1.mergeSort
    fun first second => first.1 ≤ second.1

def header : Text :=
  ("# the resolv.conf file is managed by JetKVM\n" ++
    "# DO NOT EDIT THIS FILE BY HAND -- YOUR CHANGES WILL BE OVERWRITTEN\n\n"
    ).toList

def searchLine (searchList : List Text) : Text :=
  if searchList ≠ [] then
    "\nsearch ".toList ++ escape ([' '].intercalate searchList)
  else []

def domainLine (domain : Text) : Text :=
  if domain ≠ [] then "\ndomain ".toList ++ escape domain else []

def nameserverLine (nameserver : Text × List Text) : Text :=
  "\nnameserver ".toList ++ escape nameserver.1 ++ " # ".toList ++
    escape ([',', ' '].intercalate nameserver.2)

/-- `resolvConfTemplate`, executed -/
def execute (page : Page) : Text :=
  header ++ (searchLine page.searchList ++ (domainLine page.domain ++
    (page.nameservers.flatMap nameserverLine ++ ['\n'])))

def generateResolvConf : Text := execute (page manager iteration)

/-- The content that `update` writes, if it does not find the same in the file -/
def update (existing : Option Text) : Option Text :=
  let content := generateResolvConf manager iteration
  if existing = some content then none else some content

end Run

end ResolvConf

end JetKvm
