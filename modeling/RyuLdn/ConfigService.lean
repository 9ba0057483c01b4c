import RyuLdn.ConfigRoundTrip

/-! `ConfigService` of `config_ipc_service.cpp`: the setters, which change the
configuration in memory only, `SaveConfig` and `ReloadConfig`. -/
namespace RyuLdn.ConfigService

open CText ConfigFile

inductive ConfigResult where
  | success | fileNotFound | parseError | ioError
  deriving DecidableEq

structure CharArray (size : Nat) where
  bytes : List UInt8
  length_eq : bytes.length = size
  terminated : 0 ∈ bytes

inductive SetterCall where
  | setPassphrase (passphrase : CharArray 64)
  | setLdnEnabled (enabled : UInt32)
  | setServerAddress (host : CharArray 64) (port : UInt16)
  | setUseTls (enabled : UInt32)
  | setDebugEnabled (enabled : UInt32)
  | setDebugLevel (level : UInt32)
  | setLogToFile (enabled : UInt32)
  | setConnectTimeout (timeoutMs : UInt32)
  | setPingInterval (intervalMs : UInt32)
  | setDisableP2p (disabled : UInt32)

def SetterCall.apply (config : Config) : SetterCall → Config
  | .setPassphrase passphrase =>
      { config with ldn.passphrase := safeStrcpy maxPassphraseLength passphrase.bytes }
  | .setLdnEnabled enabled => { config with ldn.enabled := enabled != 0 }
  | .setServerAddress host port =>
      { config with server.host := safeStrcpy maxHostLength host.bytes, server.port := port }
  | .setUseTls enabled => { config with server.useTls := enabled != 0 }
  | .setDebugEnabled enabled => { config with debug.enabled := enabled != 0 }
  | .setDebugLevel level => { config with debug.level := level }
  | .setLogToFile enabled => { config with debug.logToFile := enabled != 0 }
  | .setConnectTimeout timeoutMs => { config with network.connectTimeoutMs := timeoutMs }
  | .setPingInterval intervalMs => { config with network.pingIntervalMs := intervalMs }
  | .setDisableP2p disabled => { config with ldn.disableP2p := disabled != 0 }

/-- How the file system answers the calls of one `save_config`: they all succeed,
or one of them or the allocation fails, which leaves something in the file. -/
inductive SaveAnswer where
  | done
  | fails (left : Option (List UInt8))

/-- The same for one `load_config`; `result` is what its failing call makes it return. -/
inductive LoadAnswer where
  | done
  | fails (result : ConfigResult)

def saveConfigFile (answer : SaveAnswer) (config : Config) :
    ConfigResult × Option (List UInt8) :=
  match answer with
  | .done => (.success, some (formatConfigContent 4096 config))
  | .fails left => (.ioError, left)

def loadConfigFile (answer : LoadAnswer) (file : Option (List UInt8)) (config : Config) :
    ConfigResult × Config :=
  match answer, file with
  | .fails result, _ => (result, config)
  | .done, none => (.fileNotFound, config)
  | .done, some content =>
      if content.length = 0 then (.fileNotFound, config)
      else if 65536 < content.length then (.parseError, config)
      else (.success, parseConfigContent content config)

/-- `g_config` and the content of `config.ini`. -/
structure Service where
  config : Config
  file : Option (List UInt8)

namespace Service

def call (service : Service) (setter : SetterCall) : Service :=
  { service with config := setter.apply service.config }

def saveConfig (service : Service) (answer : SaveAnswer) : ConfigResult × Service :=
  let saved := saveConfigFile answer service.config
  (saved.1, { service with file := saved.2 })

def reloadConfig (service : Service) (answer : LoadAnswer) : ConfigResult × Service :=
  let loaded := loadConfigFile answer service.file getDefaultConfig
  (loaded.1, { service with config := loaded.2 })

/-- `SaveConfig` and then `ReloadConfig`, with a file system that does its work. -/
def saveAndReload (service : Service) : Service :=
  ((service.saveConfig .done).2.reloadConfig .done).2

end Service

structure Survives (text : List UInt8) : Prop where
  noLineEnd : ∀ b ∈ text, isLineEnd b = false
  head : ∀ b ∈ text.head?, isBlank b = false
  last : ∀ b ∈ text.getLast?, isBlank b = false

theorem trim_eq_self_iff {max : Nat} (text : CString max) :
    text.trim = text ↔ (∀ b ∈ text.bytes.head?, isBlank b = false) ∧
      ∀ b ∈ text.bytes.getLast?, isBlank b = false := by
  have front : text.bytes.dropWhile isBlank = text.bytes ↔
      ∀ b ∈ text.bytes.head?, isBlank b = false := by
    rw [List.dropWhile_eq_self_iff]
    cases text.bytes <;> simp
  have back : text.bytes.rdropWhile isBlank = text.bytes ↔
      ∀ b ∈ text.bytes.getLast?, isBlank b = false := by
    rw [List.rdropWhile_eq_self_iff]
    cases text.bytes with
    | nil => simp
    | cons b rest => simp [List.getLast?_eq_some_getLast (List.cons_ne_nil b rest)]
  rw [← front, ← back, CString.ext_iff]
  change (text.bytes.dropWhile isBlank).rdropWhile isBlank = text.bytes ↔ _
  constructor
  · intro same
    have suffix := List.dropWhile_suffix (l := text.bytes) isBlank
    have shorter := (List.rdropWhile_prefix isBlank (text.bytes.dropWhile isBlank)).length_le
    rw [same] at shorter
    have whole : text.bytes.dropWhile isBlank = text.bytes := suffix.eq_of_length_le shorter
    rw [whole] at same
    exact ⟨whole, same⟩
  · intro ⟨whole, same⟩
    rw [whole, same]

theorem processKey_noLineEnds {current : Section} {key value : List UInt8} {config : Config}
    (clean : ∀ b ∈ value, isLineEnd b = false) (start : config.NoLineEnds) :
    (processKey current key value config).NoLineEnds := by
  obtain ⟨host, passphrase, interfaceName⟩ := start
  have copied : ∀ max, (safeStrcpy max value).NoLineEnd := fun max => CString.copy_noLineEnd clean
  cases current with
  | server =>
      simp only [processKey, processServerKey]
      split
      · exact ⟨copied _, passphrase, interfaceName⟩
      · split
        · exact ⟨host, passphrase, interfaceName⟩
        · split <;> exact ⟨host, passphrase, interfaceName⟩
  | ldn =>
      simp only [processKey, processLdnKey]
      split
      · exact ⟨host, passphrase, interfaceName⟩
      · split
        · exact ⟨host, copied _, interfaceName⟩
        · split
          · exact ⟨host, passphrase, copied _⟩
          · split <;> exact ⟨host, passphrase, interfaceName⟩
  | network | debug | none | unknown => exact ⟨host, passphrase, interfaceName⟩

theorem processLine_noLineEnds {parser : Parser} {line : List UInt8}
    (clean : ∀ b ∈ line, isLineEnd b = false) (start : parser.config.NoLineEnds) :
    (processLine parser line).config.NoLineEnds := by
  have cut : ∀ text : List UInt8, (∀ b ∈ text, isLineEnd b = false) →
      ∀ b ∈ trimEnd text, isLineEnd b = false :=
    fun text clean b member => clean b ((List.rdropWhile_prefix isBlankOrLineEnd text).subset member)
  have inside : ∀ b ∈ trimEnd (cString line), isLineEnd b = false :=
    cut _ (fun b member => clean b (mem_of_mem_cString member))
  simp only [processLine]
  split
  · exact start
  · split
    · exact start
    · split
      · exact start
      · split
        · exact start
        · split
          · apply processKey_noLineEnds _ start
            apply cut
            intro b member
            exact inside b (List.dropWhile_subset _ (List.mem_of_mem_tail
              (List.dropWhile_subset _ member)))
          · exact start

theorem parseConfigContent_noLineEnds {config : Config} (start : config.NoLineEnds)
    (content : List UInt8) : (parseConfigContent content config).NoLineEnds := by
  rw [parseConfigContent_eq]
  let Clean : Parser → Prop := fun parser => parser.config.NoLineEnds
  have keep : ∀ parser (line : List UInt8), line.length < 512 →
      (∀ b ∈ line, isLineEnd b = false) → Clean parser → Clean (processLine parser line) :=
    fun parser line short clean start => processLine_noLineEnds clean start
  have first : Clean ⟨.none, config⟩ := start
  exact scanLines_keeps keep (by decide) (by simp) first content

def SetterCall.hostArgument : SetterCall → Option (List UInt8)
  | .setServerAddress host _ => some (cString host.bytes)
  | _ => none

def SetterCall.passphraseArgument : SetterCall → Option (List UInt8)
  | .setPassphrase passphrase => some (cString passphrase.bytes)
  | _ => none

def lastGiven (argument : SetterCall → Option (List UInt8)) (before : List UInt8)
    (calls : List SetterCall) : List UInt8 :=
  (calls.filterMap argument).getLast?.getD before

theorem lastGiven_cons (argument : SetterCall → Option (List UInt8)) (before : List UInt8)
    (setter : SetterCall) (calls : List SetterCall) :
    lastGiven argument before (setter :: calls) =
      lastGiven argument ((argument setter).getD before) calls := by
  rw [lastGiven, lastGiven, List.filterMap_cons]
  cases argument setter with
  | none => rfl
  | some text => rw [List.getLast?_cons, Option.getD_some, Option.getD_some]

theorem CharArray.length_cString_lt {size : Nat} (array : CharArray size) :
    (cString array.bytes).length < size := by
  have shorter := (List.takeWhile_prefix (l := array.bytes) (· ≠ 0)).length_le
  rw [array.length_eq] at shorter
  refine lt_of_le_of_ne shorter ?_
  intro same
  have whole : cString array.bytes = array.bytes :=
    (List.takeWhile_prefix _).eq_of_length (same.trans array.length_eq.symm)
  apply nul_notMem_cString array.bytes
  rw [whole]
  exact array.terminated

theorem safeStrcpy_charArray {size max : Nat} (array : CharArray size) (room : size ≤ max) :
    (safeStrcpy max array.bytes).bytes = cString array.bytes :=
  List.take_of_length_le (array.length_cString_lt.le.trans room)

theorem call_strings (service : Service) (setter : SetterCall) :
    (service.call setter).config.server.host.bytes =
        setter.hostArgument.getD service.config.server.host.bytes ∧
      (service.call setter).config.ldn.passphrase.bytes =
        setter.passphraseArgument.getD service.config.ldn.passphrase.bytes ∧
      (service.call setter).config.ldn.interfaceName = service.config.ldn.interfaceName := by
  cases setter with
  | setPassphrase passphrase =>
      exact ⟨rfl, safeStrcpy_charArray passphrase (by decide), rfl⟩
  | setServerAddress host port => exact ⟨safeStrcpy_charArray host (by decide), rfl, rfl⟩
  | _ => exact ⟨rfl, rfl, rfl⟩

theorem calls_strings (service : Service) (calls : List SetterCall) :
    (calls.foldl Service.call service).config.server.host.bytes =
        lastGiven SetterCall.hostArgument service.config.server.host.bytes calls ∧
      (calls.foldl Service.call service).config.ldn.passphrase.bytes =
        lastGiven SetterCall.passphraseArgument service.config.ldn.passphrase.bytes calls ∧
      (calls.foldl Service.call service).config.ldn.interfaceName =
        service.config.ldn.interfaceName := by
  induction calls generalizing service with
  | nil => exact ⟨rfl, rfl, rfl⟩
  | cons setter calls ih =>
      obtain ⟨host, passphrase, interfaceName⟩ := call_strings service setter
      have later := ih (service.call setter)
      rw [host, passphrase, interfaceName] at later
      rw [List.foldl_cons, lastGiven_cons, lastGiven_cons]
      exact later

theorem loadConfigFile_done {content : List UInt8} (nonempty : content.length ≠ 0)
    (small : content.length ≤ 65536) (config : Config) :
    loadConfigFile .done (some content) config = (.success, parseConfigContent content config) := by
  rw [loadConfigFile, if_neg nonempty, if_neg (Nat.not_lt.mpr small)]

theorem reloadConfig_saveConfig (service : Service) (save : SaveAnswer) (load : LoadAnswer) :
    ((service.saveConfig save).2.reloadConfig load).2.config =
      (loadConfigFile load (saveConfigFile save service.config).2 getDefaultConfig).2 :=
  rfl

theorem saveAndReload_config (service : Service) :
    service.saveAndReload.config =
      parseConfigContent (formatConfigContent 4096 service.config) getDefaultConfig := by
  have short := length_configLines service.config
  have lines : configLines service.config ≠ [] := by
    rw [configLines, headerLines]
    exact List.cons_ne_nil _ _
  have nonempty : (joinLines (configLines service.config)).length ≠ 0 :=
    fun empty => joinLines_ne_nil lines (List.length_eq_zero_iff.mp empty)
  rw [← formatConfigContent_eq] at short nonempty
  refine (reloadConfig_saveConfig service .done .done).trans ?_
  rw [saveConfigFile, loadConfigFile_done nonempty (short.trans (by decide)).le]

theorem trimmed_eq_self_iff (config : Config) :
    config.trimmed = config ↔ config.server.host.trim = config.server.host ∧
      config.ldn.passphrase.trim = config.ldn.passphrase ∧
      config.ldn.interfaceName.trim = config.ldn.interfaceName := by
  obtain ⟨⟨host, port, useTls⟩, network, ⟨enabled, passphrase, interfaceName, disableP2p⟩, debug⟩ :=
    config
  simp [Config.trimmed, ServerConfig.trimmed, LdnConfig.trimmed]

theorem saveAndReload_eq_iff_survive (service : Service) :
    service.saveAndReload.config = service.config ↔
      Survives service.config.server.host.bytes ∧ Survives service.config.ldn.passphrase.bytes ∧
        Survives service.config.ldn.interfaceName.bytes := by
  rw [saveAndReload_config]
  constructor
  · intro same
    have clean : service.config.NoLineEnds := by
      rw [← same]
      exact parseConfigContent_noLineEnds (by decide) _
    rw [parseConfigContent_formatted clean, trimmed_eq_self_iff, trim_eq_self_iff, trim_eq_self_iff,
      trim_eq_self_iff] at same
    obtain ⟨host, passphrase, interfaceName⟩ := same
    exact ⟨⟨clean.1, host.1, host.2⟩, ⟨clean.2.1, passphrase.1, passphrase.2⟩,
      ⟨clean.2.2, interfaceName.1, interfaceName.2⟩⟩
  · intro ⟨host, passphrase, interfaceName⟩
    have clean : service.config.NoLineEnds :=
      ⟨host.noLineEnd, passphrase.noLineEnd, interfaceName.noLineEnd⟩
    rw [parseConfigContent_formatted clean, trimmed_eq_self_iff, trim_eq_self_iff, trim_eq_self_iff,
      trim_eq_self_iff]
    exact ⟨⟨host.head, host.last⟩, ⟨passphrase.head, passphrase.last⟩,
      ⟨interfaceName.head, interfaceName.last⟩⟩

/-- Saving and reloading after any calls changes nothing exactly if the strings
last given survive, and the interface name, which no setter changes. -/
theorem setters_saveAndReload_unchanged_iff (start : Service) (calls : List SetterCall) :
    (calls.foldl Service.call start).saveAndReload.config =
        (calls.foldl Service.call start).config ↔
      Survives (lastGiven SetterCall.hostArgument start.config.server.host.bytes calls) ∧
        Survives (lastGiven SetterCall.passphraseArgument start.config.ldn.passphrase.bytes calls) ∧
        Survives start.config.ldn.interfaceName.bytes := by
  obtain ⟨host, passphrase, interfaceName⟩ := calls_strings start calls
  rw [saveAndReload_eq_iff_survive, host, passphrase, interfaceName]

def injectedLines (ldn : LdnConfig) (passphrase : CString maxPassphraseLength)
    (host : CString maxHostLength) : List (List UInt8) :=
  [ascii "[ldn]",
    commentLine "Enable LDN emulation (0/1)",
    keyLine "enabled" (flag ldn.enabled),
    commentLine "Room passphrase (empty = public)",
    keyLine "passphrase" passphrase.bytes,
    ascii "[server]",
    keyLine "host" host.bytes,
    commentLine "Network interface (empty = auto)",
    keyLine "interface" ldn.interfaceName.bytes,
    commentLine "Disable P2P proxy (0/1) - like Ryujinx MultiplayerDisableP2p",
    keyLine "disable_p2p" (flag ldn.disableP2p),
    []]

theorem joinLines_ldnLines {ldn : LdnConfig} {passphrase : CString maxPassphraseLength}
    {host : CString maxHostLength}
    (given : ldn.passphrase.bytes =
      passphrase.bytes ++ 10 :: (ascii "[server]" ++ 10 :: keyLine "host" host.bytes)) :
    joinLines (ldnLines ldn) = joinLines (injectedLines ldn passphrase host) := by
  simp only [joinLines, ldnLines, injectedLines, given, keyLine, List.flatMap_cons,
    List.append_assoc, List.cons_append, List.nil_append]

theorem foldl_injectedLines {ldn : LdnConfig} {passphrase : CString maxPassphraseLength}
    {host : CString maxHostLength} (cleanPassphrase : passphrase.NoLineEnd)
    (cleanHost : host.NoLineEnd) (cleanInterface : ldn.interfaceName.NoLineEnd) (parser : Parser) :
    (injectedLines ldn passphrase host).foldl processLine parser =
      ⟨.server, { parser.config with
        server.host := host.trim
        ldn.enabled := ldn.enabled
        ldn.passphrase := passphrase.trim }⟩ := by
  have ldnHeader : processLine parser (ascii "[ldn]") = ⟨.ldn, parser.config⟩ := rfl
  have serverHeader : ∀ parser : Parser, processLine parser (ascii "[server]") =
      ⟨.server, parser.config⟩ := fun _ => rfl
  have keys : ∀ enabled passphrase host interface disableP2p config,
      processKey .server (ascii "disable_p2p") disableP2p
        (processKey .server (ascii "interface") interface
          (processKey .server (ascii "host") host
            (processKey .ldn (ascii "passphrase") passphrase
              (processKey .ldn (ascii "enabled") enabled config)))) =
      { config with
        server.host := safeStrcpy maxHostLength host
        ldn.enabled := parseBool enabled
        ldn.passphrase := safeStrcpy maxPassphraseLength passphrase } := fun _ _ _ _ _ _ => rfl
  simp only [injectedLines, List.foldl_cons, List.foldl_nil, ldnHeader, processLine_commentLine,
    processLine_nil]
  rw [processLine_flag .ldn "enabled" (by decide) (isKey_ascii (by decide)),
    processLine_text .ldn "passphrase" (by decide) (isKey_ascii (by decide)) cleanPassphrase,
    serverHeader, processLine_text .server "host" (by decide) (isKey_ascii (by decide)) cleanHost,
    processLine_text .server "interface" (by decide) (isKey_ascii (by decide)) cleanInterface,
    processLine_flag .server "disable_p2p" (by decide) (isKey_ascii (by decide)), keys, safeStrcpy,
    safeStrcpy, CString.copy_bytes, CString.copy_bytes, parseBool_flag]

theorem isLine_injectedLines {ldn : LdnConfig} {passphrase : CString maxPassphraseLength}
    {host : CString maxHostLength} (cleanPassphrase : passphrase.NoLineEnd)
    (cleanHost : host.NoLineEnd) (cleanInterface : ldn.interfaceName.NoLineEnd) :
    ∀ line ∈ injectedLines ldn passphrase host, IsLine line := by
  have nothing : ∀ line ∈ ([] : List (List UInt8)), IsLine line := by simp
  simp only [injectedLines, List.forall_mem_cons]
  exact ⟨(isPlain_ascii (by decide)).isLine, (isPlain_commentLine (by decide)).isLine,
    (isPlain_flag (by decide) _).isLine, (isPlain_commentLine (by decide)).isLine,
    isLine_text (isKey_ascii (by decide)) (by decide) cleanPassphrase,
    (isPlain_ascii (by decide)).isLine,
    isLine_text (isKey_ascii (by decide)) (by decide) cleanHost,
    (isPlain_commentLine (by decide)).isLine,
    isLine_text (isKey_ascii (by decide)) (by decide) cleanInterface,
    (isPlain_commentLine (by decide)).isLine, (isPlain_flag (by decide) _).isLine,
    isPlain_nil.isLine, nothing⟩

theorem saveAndReload_host_of_passphrase {service : Service}
    {passphrase : CString maxPassphraseLength} {host : CString maxHostLength}
    (given : service.config.ldn.passphrase.bytes =
      passphrase.bytes ++ 10 :: (ascii "[server]" ++ 10 :: keyLine "host" host.bytes))
    (cleanPassphrase : passphrase.NoLineEnd) (cleanHost : host.NoLineEnd)
    (cleanServer : service.config.server.host.NoLineEnd)
    (cleanInterface : service.config.ldn.interfaceName.NoLineEnd) :
    service.saveAndReload.config.server.host = host.trim := by
  have text : joinLines (configLines service.config) =
      joinLines (headerLines ++ serverLines service.config.server ++
        networkLines service.config.network ++
        injectedLines service.config.ldn passphrase host ++ debugLines service.config.debug) := by
    have injected := joinLines_ldnLines given
    simp only [joinLines] at injected
    simp only [joinLines, configLines, List.flatMap_append, injected]
  have isLine : ∀ line ∈ headerLines ++ serverLines service.config.server ++
      networkLines service.config.network ++ injectedLines service.config.ldn passphrase host ++
      debugLines service.config.debug, IsLine line := by
    simp only [List.forall_mem_append]
    exact ⟨⟨⟨⟨forall_headerLines IsPlain.isLine, isLine_serverLines cleanServer⟩,
      forall_networkLines IsPlain.isLine service.config.network⟩,
      isLine_injectedLines cleanPassphrase cleanHost cleanInterface⟩,
      forall_debugLines IsPlain.isLine service.config.debug⟩
  rw [saveAndReload_config, formatConfigContent_eq, text, parseConfigContent_joinLines isLine]
  simp only [List.foldl_append]
  rw [foldl_headerLines, foldl_serverLines cleanServer, foldl_networkLines,
    foldl_injectedLines cleanPassphrase cleanHost cleanInterface, foldl_debugLines]

/-- The 64 bytes of a passphrase that ends in `host = evil`. -/
def evilPassphrase : CharArray 64 where
  bytes := ascii "x\n[server]\nhost = evil" ++ List.replicate 42 0
  length_eq := by decide
  terminated := by decide

/-- Only the passphrase is set, and the server is another one after the reload. -/
theorem evilPassphrase_changes_host :
    let service := [SetterCall.setPassphrase evilPassphrase].foldl Service.call
      ⟨getDefaultConfig, none⟩
    service.config.server.host.bytes = ascii "ldn.ryujinx.app" ∧
      service.saveAndReload.config.server.host.bytes = ascii "evil" ∧
      service.saveAndReload.config ≠ service.config := by
  have stored : ([SetterCall.setPassphrase evilPassphrase].foldl Service.call
      ⟨getDefaultConfig, none⟩).config.ldn.passphrase.bytes =
        (safeStrcpy maxPassphraseLength (ascii "x")).bytes ++ 10 :: (ascii "[server]" ++
          10 :: keyLine "host" (safeStrcpy maxHostLength (ascii "evil")).bytes) := by
    decide
  have host := saveAndReload_host_of_passphrase stored (by decide) (by decide) (by decide) (by decide)
  have bytes := congrArg CString.bytes host
  have before : ([SetterCall.setPassphrase evilPassphrase].foldl Service.call
      ⟨getDefaultConfig, none⟩).config.server.host.bytes = ascii "ldn.ryujinx.app" := by
    decide
  have evil : (safeStrcpy maxHostLength (ascii "evil")).trim.bytes = ascii "evil" := by decide
  refine ⟨before, bytes.trans evil, ?_⟩
  intro same
  have other : ascii "ldn.ryujinx.app" ≠ ascii "evil" := by decide
  rw [same] at bytes
  exact other (before.symm.trans (bytes.trans evil))

end RyuLdn.ConfigService
