import RyuLdn.CText

/-! The configuration file of `config.cpp`: the settings, the writer and the
line-based reader, in the version for the console and in the version for the PC. -/
namespace RyuLdn.ConfigFile

open CText

def maxHostLength : Nat := 128
def maxPassphraseLength : Nat := 64
def maxInterfaceLength : Nat := 32

structure ServerConfig where
  host : CString maxHostLength
  port : UInt16
  useTls : Bool
  deriving DecidableEq

structure NetworkConfig where
  connectTimeoutMs : UInt32
  pingIntervalMs : UInt32
  reconnectDelayMs : UInt32
  maxReconnectAttempts : UInt32
  deriving DecidableEq

structure LdnConfig where
  enabled : Bool
  passphrase : CString maxPassphraseLength
  interfaceName : CString maxInterfaceLength
  disableP2p : Bool
  deriving DecidableEq

structure DebugConfig where
  enabled : Bool
  level : UInt32
  logToFile : Bool
  deriving DecidableEq

structure Config where
  server : ServerConfig
  network : NetworkConfig
  ldn : LdnConfig
  debug : DebugConfig
  deriving DecidableEq

def trimStart (text : List UInt8) : List UInt8 := text.dropWhile isBlank

def trimEnd (text : List UInt8) : List UInt8 := text.rdropWhile isBlankOrLineEnd

def safeStrcpy (max : Nat) (src : List UInt8) : CString max := CString.copy max src

def parseBool (value : List UInt8) : Bool :=
  !(value.head? = some 48 || value.head? = some 102 || value.head? = some 70 ||
    value.head? = some 110 || value.head? = some 78)

def parseUint32 (value : List UInt8) : UInt32 := (strtoul value).toUInt32

def parseUint16 (value : List UInt8) : UInt16 := (strtoul value).toUInt16

inductive Section where
  | none | server | network | ldn | debug | unknown
  deriving DecidableEq

def parseSection (line : List UInt8) : Section :=
  if line = ascii "[server]" then .server
  else if line = ascii "[network]" then .network
  else if line = ascii "[ldn]" then .ldn
  else if line = ascii "[debug]" then .debug
  else if line.head? = some 91 then .unknown
  else .none

def processServerKey (key value : List UInt8) (config : ServerConfig) : ServerConfig :=
  if key = ascii "host" then { config with host := safeStrcpy maxHostLength value }
  else if key = ascii "port" then { config with port := parseUint16 value }
  else if key = ascii "use_tls" then { config with useTls := parseBool value }
  else config

def processNetworkKey (key value : List UInt8) (config : NetworkConfig) : NetworkConfig :=
  if key = ascii "connect_timeout" then { config with connectTimeoutMs := parseUint32 value }
  else if key = ascii "ping_interval" then { config with pingIntervalMs := parseUint32 value }
  else if key = ascii "reconnect_delay" then { config with reconnectDelayMs := parseUint32 value }
  else if key = ascii "max_reconnect_attempts" then
    { config with maxReconnectAttempts := parseUint32 value }
  else config

def processLdnKey (key value : List UInt8) (config : LdnConfig) : LdnConfig :=
  if key = ascii "enabled" then { config with enabled := parseBool value }
  else if key = ascii "passphrase" then
    { config with passphrase := safeStrcpy maxPassphraseLength value }
  else if key = ascii "interface" then
    { config with interfaceName := safeStrcpy maxInterfaceLength value }
  else if key = ascii "disable_p2p" then { config with disableP2p := parseBool value }
  else config

def processDebugKey (key value : List UInt8) (config : DebugConfig) : DebugConfig :=
  if key = ascii "enabled" then { config with enabled := parseBool value }
  else if key = ascii "level" then { config with level := parseUint32 value }
  else if key = ascii "log_to_file" then { config with logToFile := parseBool value }
  else config

def processKey (current : Section) (key value : List UInt8) (config : Config) : Config :=
  match current with
  | .server => { config with server := processServerKey key value config.server }
  | .network => { config with network := processNetworkKey key value config.network }
  | .ldn => { config with ldn := processLdnKey key value config.ldn }
  | .debug => { config with debug := processDebugKey key value config.debug }
  | .none | .unknown => config

structure Parser where
  currentSection : Section
  config : Config
  deriving DecidableEq

/-- What both readers do with the line in their buffer. `trim_end` works in the
buffer that `trimmed_key` and `trimmed_value` point into, so both ends of the key
and of the value are cut. -/
def processLine (parser : Parser) (buffer : List UInt8) : Parser :=
  let line := trimEnd (cString buffer)
  let trimmed := trimStart line
  if trimmed = [] then parser
  else if trimmed.head? = some 59 ∨ trimmed.head? = some 35 then parser
  else if parseSection trimmed ≠ .none then
    { parser with currentSection := parseSection trimmed }
  else if parser.currentSection = .none ∨ parser.currentSection = .unknown then parser
  else if 61 ∈ line then
    let key := trimEnd (trimStart (line.takeWhile (· ≠ 61)))
    let value := trimEnd (trimStart (line.dropWhile (· ≠ 61)).tail)
    let keyBuf := trimEnd (safeStrcpy 63 key).bytes
    { parser with config := processKey parser.currentSection keyBuf value parser.config }
  else parser

/-- The console's reader; a line of length 0 is passed over. -/
def parseConfigContent (content : List UInt8) (config : Config) : Config :=
  let endLine (parser : Parser) (line : List UInt8) :=
    if line = [] then parser else processLine parser line
  (scanLines 512 endLine [] ⟨.none, config⟩ content).config

/-- The PC's reader, `load_config` without opening and closing the file. -/
def parseConfigFile (content : List UInt8) (config : Config) : Config :=
  (fgetsLines 512 processLine [] ⟨.none, config⟩ content).config

def commentLine (text : String) : List UInt8 := ascii "; " ++ ascii text

def keyLine (key : String) (value : List UInt8) : List UInt8 := ascii key ++ ascii " = " ++ value

def flag (b : Bool) : List UInt8 := decimal (if b then 1 else 0)

def headerLines : List (List UInt8) :=
  [commentLine "ryu_ldn_nx Configuration",
    commentLine "Auto-generated on first boot",
    commentLine "Edit this file to customize settings",
    []]

def serverLines (config : ServerConfig) : List (List UInt8) :=
  [ascii "[server]",
    commentLine "Server hostname or IP address",
    keyLine "host" config.host.bytes,
    commentLine "Server port",
    keyLine "port" (decimal config.port.toNat),
    commentLine "Use TLS encryption (0/1)",
    keyLine "use_tls" (flag config.useTls),
    []]

def networkLines (config : NetworkConfig) : List (List UInt8) :=
  [ascii "[network]",
    commentLine "Connection timeout in milliseconds",
    keyLine "connect_timeout" (decimal config.connectTimeoutMs.toNat),
    commentLine "Ping interval in milliseconds",
    keyLine "ping_interval" (decimal config.pingIntervalMs.toNat),
    commentLine "Reconnect delay in milliseconds",
    keyLine "reconnect_delay" (decimal config.reconnectDelayMs.toNat),
    commentLine "Max reconnect attempts (0 = disable auto-reconnect)",
    keyLine "max_reconnect_attempts" (decimal config.maxReconnectAttempts.toNat),
    []]

def ldnLines (config : LdnConfig) : List (List UInt8) :=
  [ascii "[ldn]",
    commentLine "Enable LDN emulation (0/1)",
    keyLine "enabled" (flag config.enabled),
    commentLine "Room passphrase (empty = public)",
    keyLine "passphrase" config.passphrase.bytes,
    commentLine "Network interface (empty = auto)",
    keyLine "interface" config.interfaceName.bytes,
    commentLine "Disable P2P proxy (0/1) - like Ryujinx MultiplayerDisableP2p",
    keyLine "disable_p2p" (flag config.disableP2p),
    []]

def debugLines (config : DebugConfig) : List (List UInt8) :=
  [ascii "[debug]",
    commentLine "Enable debug logging (0/1)",
    keyLine "enabled" (flag config.enabled),
    commentLine "Log level (0=errors, 1=warnings, 2=info, 3=verbose)",
    keyLine "level" (decimal config.level.toNat),
    commentLine "Log to file (0/1)",
    keyLine "log_to_file" (flag config.logToFile)]

def configLines (config : Config) : List (List UInt8) :=
  headerLines ++ serverLines config.server ++ networkLines config.network ++
    ldnLines config.ldn ++ debugLines config.debug

/-- `WRITE_LINE`: a line that does not fit the buffer is not counted. -/
def writeLine (bufferSize : Nat) (written line : List UInt8) : List UInt8 :=
  if written.length + (line.length + 1) < bufferSize then written ++ (line ++ [10]) else written

def formatConfigContent (bufferSize : Nat) (config : Config) : List UInt8 :=
  (configLines config).foldl (writeLine bufferSize) []

/-- The text the `fprintf` calls of the PC's `save_config` put into the file. -/
def printConfigFile (config : Config) : List UInt8 := joinLines (configLines config)

def getDefaultConfig : Config where
  server := ⟨safeStrcpy maxHostLength (ascii "ldn.ryujinx.app"), 30456, false⟩
  network := ⟨5000, 10000, 3000, 5⟩
  ldn := ⟨true, CString.empty, CString.empty, true⟩
  debug := ⟨true, 3, true⟩

end RyuLdn.ConfigFile
