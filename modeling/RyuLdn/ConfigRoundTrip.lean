import RyuLdn.ConfigFile

/-! What the writers of the configuration file write, the readers read back. -/
namespace RyuLdn.ConfigFile

open CText

def Config.NoLineEnds (config : Config) : Prop :=
  config.server.host.NoLineEnd ∧ config.ldn.passphrase.NoLineEnd ∧
    config.ldn.interfaceName.NoLineEnd

instance (config : Config) : Decidable config.NoLineEnds :=
  inferInstanceAs (Decidable (_ ∧ _ ∧ _))

def ServerConfig.trimmed (config : ServerConfig) : ServerConfig :=
  { config with host := config.host.trim }

def LdnConfig.trimmed (config : LdnConfig) : LdnConfig :=
  { config with
    passphrase := config.passphrase.trim
    interfaceName := config.interfaceName.trim }

def Config.trimmed (config : Config) : Config :=
  { config with server := config.server.trimmed, ldn := config.ldn.trimmed }

theorem blankOrLineEnd_of_blank (b : UInt8) (blank : isBlank b = true) :
    isBlankOrLineEnd b = true := by
  rw [isBlankOrLineEnd, blank, Bool.true_or]

theorem trimEnd_trimStart (text : List UInt8) :
    trimEnd (trimStart (trimEnd text)) = trimEnd (trimStart text) := by
  have swap : trimStart (trimEnd text) = trimEnd (trimStart text) :=
    dropWhile_rdropWhile blankOrLineEnd_of_blank text
  rw [swap]
  exact List.rdropWhile_idempotent isBlankOrLineEnd (trimStart text)

theorem trimEnd_append_cons {b : UInt8} (stop : isBlankOrLineEnd b = false)
    (front back : List UInt8) : trimEnd (front ++ b :: back) = front ++ b :: trimEnd back :=
  rdropWhile_append_cons stop front back

theorem processLine_lf (parser : Parser) (line : List UInt8) :
    processLine parser (line ++ [10]) = processLine parser line := by
  have same : trimEnd (cString (line ++ [10])) = trimEnd (cString line) := by
    rw [cString, List.takeWhile_append]
    split
    · have whole : line.takeWhile (· ≠ 0) = line := by
        apply List.IsPrefix.eq_of_length (List.takeWhile_prefix _)
        assumption
      rw [cString, whole]
      exact List.rdropWhile_concat_pos isBlankOrLineEnd line 10 (by decide)
    · rfl
  rw [processLine, processLine, same]

theorem processLine_commentLine (parser : Parser) (text : String) :
    processLine parser (commentLine text) = parser := by
  have layout : commentLine text = 59 :: ([32] ++ ascii text) := by
    have mark : ascii "; " = [59, 32] := by decide
    simp [commentLine, mark]
  rw [layout]
  generalize [32] ++ ascii text = rest
  have start : cString (59 :: rest) = 59 :: cString rest := by
    rw [cString, cString, List.takeWhile_cons_of_pos (by decide)]
  have line : trimEnd (cString (59 :: rest)) = 59 :: trimEnd (cString rest) := by
    rw [start]
    exact trimEnd_append_cons (by decide) [] (cString rest)
  have trimmed : trimStart (59 :: trimEnd (cString rest)) = 59 :: trimEnd (cString rest) := by
    rw [trimStart, List.dropWhile_cons_of_neg (by decide)]
  simp [processLine, line, trimmed]

/-- The names of the settings: small letters, digits and `_`. -/
def isKeyByte (b : UInt8) : Bool := b = 95 || (97 ≤ b && b ≤ 122) || (48 ≤ b && b ≤ 57)

structure IsKey (key : List UInt8) : Prop where
  nonempty : key ≠ []
  short : key.length ≤ 30
  bytes : ∀ b ∈ key, isKeyByte b = true

def keyChars (chars : List Char) : Bool :=
  !chars.isEmpty && decide (chars.length ≤ 30) && chars.all (fun c => isKeyByte c.toUInt8)

theorem isKey_ascii {chars : List Char} (isKey : keyChars chars = true) :
    IsKey (ascii (String.ofList chars)) := by
  simp only [keyChars, Bool.and_eq_true, Bool.not_eq_true', List.isEmpty_eq_false_iff,
    decide_eq_true_eq, List.all_eq_true] at isKey
  rw [ascii_ofList]
  refine ⟨by simpa using isKey.1.1, by simpa using isKey.1.2, ?_⟩
  intro b member
  obtain ⟨c, inside, rfl⟩ := List.mem_map.mp member
  exact isKey.2 c inside

theorem keyByte_cases {b : UInt8} (inside : isKeyByte b = true) :
    b.toNat = 95 ∨ (97 ≤ b.toNat ∧ b.toNat ≤ 122) ∨ (48 ≤ b.toNat ∧ b.toNat ≤ 57) := by
  simp only [isKeyByte, Bool.or_eq_true, Bool.and_eq_true, decide_eq_true_eq,
    UInt8.le_iff_toNat_le, ← UInt8.toNat_inj, UInt8.reduceToNat] at inside
  omega

theorem keyByte_visible {b : UInt8} (inside : isKeyByte b = true) :
    isBlankOrLineEnd b = false ∧ isBlank b = false := by
  have range := keyByte_cases inside
  simp only [isBlankOrLineEnd, isBlank, isLineEnd, Bool.or_eq_false_iff, decide_eq_false_iff_not,
    ← UInt8.toNat_inj, UInt8.reduceToNat]
  omega

theorem keyByte_ne {b c : UInt8} (inside : isKeyByte b = true)
    (outside : isKeyByte c = false) : b ≠ c := by
  rintro rfl
  simp [inside] at outside

theorem IsKey.trimStart_append {key : List UInt8} (isKey : IsKey key) (rest : List UInt8) :
    trimStart (key ++ rest) = key ++ rest := by
  cases key with
  | nil => exact absurd rfl isKey.nonempty
  | cons b key =>
      have visible := (keyByte_visible (isKey.bytes b (by simp))).2
      rw [List.cons_append, trimStart, List.dropWhile_cons_of_neg (by simp [visible])]

theorem IsKey.trimEnd_eq {key : List UInt8} (isKey : IsKey key) : trimEnd key = key := by
  rw [trimEnd, List.rdropWhile_eq_self_iff]
  intro nonempty
  have visible := (keyByte_visible (isKey.bytes _ (List.getLast_mem nonempty))).1
  simp [visible]

theorem parseSection_eq_none {line : List UInt8} (head : line.head? ≠ some 91) :
    parseSection line = .none := by
  have other : ∀ text : List UInt8, text.head? = some 91 → line ≠ text := by
    rintro text bracket rfl
    exact head bracket
  rw [parseSection, if_neg (other _ (by decide)), if_neg (other _ (by decide)),
    if_neg (other _ (by decide)), if_neg (other _ (by decide)), if_neg head]

theorem processLine_keyLine {key : String} (isKey : IsKey (ascii key)) {value : List UInt8}
    (noNul : 0 ∉ value) (clean : ∀ b ∈ value, isLineEnd b = false) {parser : Parser}
    (known : parser.currentSection ≠ .none ∧ parser.currentSection ≠ .unknown) :
    processLine parser (keyLine key value) =
      ⟨parser.currentSection, processKey parser.currentSection (ascii key)
        ((value.dropWhile isBlank).rdropWhile isBlank) parser.config⟩ := by
  have layout : keyLine key value = (ascii key ++ [32]) ++ 61 :: 32 :: value := by
    have equals : ascii " = " = [32, 61, 32] := by decide
    simp [keyLine, equals]
  have whole : cString (keyLine key value) = keyLine key value := by
    apply cString_eq_self
    have inKey : 0 ∉ ascii key := fun member => by simpa [isKeyByte] using isKey.bytes 0 member
    simp [layout, inKey, noNul]
  have line : trimEnd (cString (keyLine key value)) =
      ascii key ++ (32 :: 61 :: trimEnd (32 :: value)) := by
    rw [whole, layout, trimEnd_append_cons (by decide)]
    simp
  obtain ⟨first, rest, cons⟩ := List.exists_cons_of_ne_nil isKey.nonempty
  have firstByte : isKeyByte first = true := isKey.bytes first (by simp [cons])
  have head : (ascii key ++ (32 :: 61 :: trimEnd (32 :: value))).head? = some first := by
    simp [cons]
  have noComment : ¬ (some first = some (59 : UInt8) ∨ some first = some 35) := by
    simp [keyByte_ne firstByte (show isKeyByte 59 = false by decide),
      keyByte_ne firstByte (show isKeyByte 35 = false by decide)]
  have noHeader : parseSection (ascii key ++ (32 :: 61 :: trimEnd (32 :: value))) = .none := by
    apply parseSection_eq_none
    simp [head, keyByte_ne firstByte (show isKeyByte 91 = false by decide)]
  have beforeEquals : ∀ b ∈ ascii key ++ [32], decide (b ≠ 61) = true := by
    intro b member
    rcases List.mem_append.mp member with inKey | blank
    · simpa using keyByte_ne (isKey.bytes b inKey) (show isKeyByte 61 = false by decide)
    · rw [List.mem_singleton.mp blank]
      decide
  have grouped : ascii key ++ (32 :: 61 :: trimEnd (32 :: value)) =
      (ascii key ++ [32]) ++ 61 :: trimEnd (32 :: value) := by simp
  have keyPart : (ascii key ++ (32 :: 61 :: trimEnd (32 :: value))).takeWhile (· ≠ 61) =
      ascii key ++ [32] := by
    rw [grouped, List.takeWhile_append_of_pos beforeEquals, List.takeWhile_cons_of_neg (by decide),
      List.append_nil]
  have valuePart : ((ascii key ++ (32 :: 61 :: trimEnd (32 :: value))).dropWhile (· ≠ 61)).tail =
      trimEnd (32 :: value) := by
    rw [grouped, List.dropWhile_append_of_pos beforeEquals, List.dropWhile_cons_of_neg (by decide),
      List.tail_cons]
  have keyCut : trimEnd (trimStart (ascii key ++ [32])) = ascii key := by
    rw [isKey.trimStart_append, trimEnd, List.rdropWhile_concat_pos _ _ _ (by decide)]
    exact isKey.trimEnd_eq
  have keyBuf : (safeStrcpy 63 (ascii key)).bytes = ascii key := by
    have inKey : 0 ∉ ascii key := fun member => by simpa [isKeyByte] using isKey.bytes 0 member
    have short : (ascii key).length ≤ 63 := isKey.short.trans (by decide)
    have copied := CString.copy_bytes ⟨ascii key, short, inKey⟩
    exact congrArg CString.bytes copied
  have valueCut : trimEnd (trimStart (trimEnd (32 :: value))) =
      (value.dropWhile isBlank).rdropWhile isBlank := by
    rw [trimEnd_trimStart]
    have blank : trimStart (32 :: value) = value.dropWhile isBlank := by
      rw [trimStart, List.dropWhile_cons_of_pos (by decide)]
    rw [blank, trimEnd]
    apply rdropWhile_congr
    intro b member
    rw [isBlankOrLineEnd, clean b (List.dropWhile_subset _ member), Bool.or_false]
  have present : (61 : UInt8) ∈ ascii key ++ (32 :: 61 :: trimEnd (32 :: value)) := by simp
  have nonempty : ¬ ascii key ++ (32 :: 61 :: trimEnd (32 :: value)) = [] := by simp
  simp only [processLine, line, isKey.trimStart_append, if_neg nonempty, head, if_neg noComment,
    noHeader, ne_eq, not_true_eq_false, if_false, known.1, known.2, or_self, if_pos present]
  rw [keyPart, valuePart, keyCut, keyBuf, isKey.trimEnd_eq, valueCut]

theorem dropWhile_decimal {n : Nat} :
    ((decimal n).dropWhile isBlank).rdropWhile isBlank = decimal n := by
  have visible : ∀ b ∈ decimal n, isBlank b = false := by
    intro b member
    have digit := isDigit_of_mem_decimal member
    simp only [isBlank, Bool.or_eq_false_iff, decide_eq_false_iff_not, ← UInt8.toNat_inj,
      UInt8.reduceToNat]
    omega
  have front : (decimal n).dropWhile isBlank = decimal n := by
    cases text : decimal n with
    | nil => rfl
    | cons b rest => rw [List.dropWhile_cons_of_neg (by simp [visible b (by simp [text])])]
  rw [front, List.rdropWhile_eq_self_iff]
  intro nonempty
  simp [visible _ (List.getLast_mem nonempty)]

theorem decimal_clean {n : Nat} : 0 ∉ decimal n ∧ ∀ b ∈ decimal n, isLineEnd b = false := by
  constructor
  · intro member
    exact absurd (isDigit_of_mem_decimal member).1 (by decide)
  · intro b member
    have digit := isDigit_of_mem_decimal member
    simp only [isLineEnd, Bool.or_eq_false_iff, decide_eq_false_iff_not, ← UInt8.toNat_inj,
      UInt8.reduceToNat]
    omega

theorem parseUint16_decimal (n : UInt16) : parseUint16 (decimal n.toNat) = n := by
  have small := n.toNat_lt
  rw [parseUint16, strtoul_decimal (by omega)]
  apply UInt16.toNat_inj.mp
  simp

theorem parseUint32_decimal (n : UInt32) : parseUint32 (decimal n.toNat) = n := by
  have small := n.toNat_lt
  rw [parseUint32, strtoul_decimal (by omega)]
  apply UInt32.toNat_inj.mp
  simp

theorem parseBool_flag (b : Bool) : parseBool (flag b) = b := by
  cases b <;> decide

theorem processLine_nil (parser : Parser) : processLine parser [] = parser := rfl

theorem processLine_decimal (current : Section) (key : String)
    (known : current ≠ .none ∧ current ≠ .unknown) (isKey : IsKey (ascii key)) (n : Nat)
    (config : Config) :
    processLine ⟨current, config⟩ (keyLine key (decimal n)) =
      ⟨current, processKey current (ascii key) (decimal n) config⟩ := by
  rw [processLine_keyLine isKey decimal_clean.1 decimal_clean.2 known, dropWhile_decimal]

theorem processLine_flag (current : Section) (key : String)
    (known : current ≠ .none ∧ current ≠ .unknown) (isKey : IsKey (ascii key)) (b : Bool)
    (config : Config) :
    processLine ⟨current, config⟩ (keyLine key (flag b)) =
      ⟨current, processKey current (ascii key) (flag b) config⟩ :=
  processLine_decimal current key known isKey _ config

theorem processLine_text (current : Section) (key : String)
    (known : current ≠ .none ∧ current ≠ .unknown) (isKey : IsKey (ascii key)) {max : Nat}
    {text : CString max} (clean : text.NoLineEnd) (config : Config) :
    processLine ⟨current, config⟩ (keyLine key text.bytes) =
      ⟨current, processKey current (ascii key) text.trim.bytes config⟩ :=
  processLine_keyLine isKey text.noNul clean known

theorem foldl_headerLines (parser : Parser) : headerLines.foldl processLine parser = parser := by
  simp only [headerLines, List.foldl_cons, List.foldl_nil, processLine_commentLine, processLine_nil]

theorem foldl_serverLines {server : ServerConfig} (clean : server.host.NoLineEnd)
    (parser : Parser) :
    (serverLines server).foldl processLine parser =
      ⟨.server, { parser.config with server := server.trimmed }⟩ := by
  have header : processLine parser (ascii "[server]") = ⟨.server, parser.config⟩ := rfl
  have keys : ∀ host port useTls config, processKey .server (ascii "use_tls") useTls
      (processKey .server (ascii "port") port (processKey .server (ascii "host") host config)) =
      { config with server := ⟨safeStrcpy maxHostLength host, parseUint16 port, parseBool useTls⟩ } :=
    fun _ _ _ _ => rfl
  simp only [serverLines, List.foldl_cons, List.foldl_nil, header, processLine_commentLine,
    processLine_nil]
  rw [processLine_text .server "host" (by decide) (isKey_ascii (by decide)) clean,
    processLine_decimal .server "port" (by decide) (isKey_ascii (by decide)),
    processLine_flag .server "use_tls" (by decide) (isKey_ascii (by decide)), keys, safeStrcpy,
    CString.copy_bytes, parseUint16_decimal, parseBool_flag]
  rfl

theorem foldl_networkLines (network : NetworkConfig) (parser : Parser) :
    (networkLines network).foldl processLine parser =
      ⟨.network, { parser.config with network := network }⟩ := by
  have header : processLine parser (ascii "[network]") = ⟨.network, parser.config⟩ := rfl
  have keys : ∀ timeout interval delay attempts config,
      processKey .network (ascii "max_reconnect_attempts") attempts
        (processKey .network (ascii "reconnect_delay") delay
          (processKey .network (ascii "ping_interval") interval
            (processKey .network (ascii "connect_timeout") timeout config))) =
      { config with network := ⟨parseUint32 timeout, parseUint32 interval, parseUint32 delay,
          parseUint32 attempts⟩ } := fun _ _ _ _ _ => rfl
  simp only [networkLines, List.foldl_cons, List.foldl_nil, header, processLine_commentLine,
    processLine_nil]
  rw [processLine_decimal .network "connect_timeout" (by decide) (isKey_ascii (by decide)),
    processLine_decimal .network "ping_interval" (by decide) (isKey_ascii (by decide)),
    processLine_decimal .network "reconnect_delay" (by decide) (isKey_ascii (by decide)),
    processLine_decimal .network "max_reconnect_attempts" (by decide) (isKey_ascii (by decide)), keys,
    parseUint32_decimal, parseUint32_decimal, parseUint32_decimal, parseUint32_decimal]

theorem foldl_ldnLines {ldn : LdnConfig} (clean : ldn.passphrase.NoLineEnd)
    (cleanInterface : ldn.interfaceName.NoLineEnd) (parser : Parser) :
    (ldnLines ldn).foldl processLine parser =
      ⟨.ldn, { parser.config with ldn := ldn.trimmed }⟩ := by
  have header : processLine parser (ascii "[ldn]") = ⟨.ldn, parser.config⟩ := rfl
  have keys : ∀ enabled passphrase interface disableP2p config,
      processKey .ldn (ascii "disable_p2p") disableP2p
        (processKey .ldn (ascii "interface") interface
          (processKey .ldn (ascii "passphrase") passphrase
            (processKey .ldn (ascii "enabled") enabled config))) =
      { config with ldn := ⟨parseBool enabled, safeStrcpy maxPassphraseLength passphrase,
          safeStrcpy maxInterfaceLength interface, parseBool disableP2p⟩ } := fun _ _ _ _ _ => rfl
  simp only [ldnLines, List.foldl_cons, List.foldl_nil, header, processLine_commentLine,
    processLine_nil]
  rw [processLine_flag .ldn "enabled" (by decide) (isKey_ascii (by decide)),
    processLine_text .ldn "passphrase" (by decide) (isKey_ascii (by decide)) clean,
    processLine_text .ldn "interface" (by decide) (isKey_ascii (by decide)) cleanInterface,
    processLine_flag .ldn "disable_p2p" (by decide) (isKey_ascii (by decide)), keys, safeStrcpy, safeStrcpy,
    CString.copy_bytes, CString.copy_bytes, parseBool_flag, parseBool_flag]
  rfl

theorem foldl_debugLines (debug : DebugConfig) (parser : Parser) :
    (debugLines debug).foldl processLine parser =
      ⟨.debug, { parser.config with debug := debug }⟩ := by
  have header : processLine parser (ascii "[debug]") = ⟨.debug, parser.config⟩ := rfl
  have keys : ∀ enabled level logToFile config, processKey .debug (ascii "log_to_file") logToFile
      (processKey .debug (ascii "level") level (processKey .debug (ascii "enabled") enabled config)) =
      { config with debug := ⟨parseBool enabled, parseUint32 level, parseBool logToFile⟩ } :=
    fun _ _ _ _ => rfl
  simp only [debugLines, List.foldl_cons, List.foldl_nil, header, processLine_commentLine]
  rw [processLine_flag .debug "enabled" (by decide) (isKey_ascii (by decide)),
    processLine_decimal .debug "level" (by decide) (isKey_ascii (by decide)),
    processLine_flag .debug "log_to_file" (by decide) (isKey_ascii (by decide)), keys, parseBool_flag,
    parseUint32_decimal, parseBool_flag]

theorem foldl_configLines {config : Config} (clean : config.NoLineEnds) (start : Config) :
    ((configLines config).foldl processLine ⟨.none, start⟩).config = config.trimmed := by
  obtain ⟨host, passphrase, interfaceName⟩ := clean
  simp only [configLines, List.foldl_append]
  rw [foldl_headerLines, foldl_serverLines host, foldl_networkLines, foldl_ldnLines passphrase
    interfaceName, foldl_debugLines]
  rfl

structure IsPlain (line : List UInt8) : Prop where
  short : line.length ≤ 70
  clean : ∀ b ∈ line, isLineEnd b = false

def plainChars (chars : List Char) : Bool :=
  decide (chars.length ≤ 60) && chars.all (fun c => !isLineEnd c.toUInt8)

theorem isPlain_ascii {chars : List Char} (plain : plainChars chars = true) :
    IsPlain (ascii (String.ofList chars)) := by
  simp only [plainChars, Bool.and_eq_true, decide_eq_true_eq, List.all_eq_true,
    Bool.not_eq_true'] at plain
  rw [ascii_ofList]
  constructor
  · rw [List.length_map]
    omega
  · intro b member
    obtain ⟨c, inside, rfl⟩ := List.mem_map.mp member
    exact plain.2 c inside

theorem isPlain_commentLine {chars : List Char} (plain : plainChars chars = true) :
    IsPlain (commentLine (String.ofList chars)) := by
  have mark : ascii "; " = [59, 32] := by decide
  have text := isPlain_ascii plain
  simp only [plainChars, Bool.and_eq_true, decide_eq_true_eq] at plain
  constructor
  · rw [commentLine, mark, ascii_ofList, List.length_append, List.length_map]
    simp only [List.length_cons, List.length_nil]
    omega
  · intro b member
    rw [commentLine, mark] at member
    rcases List.mem_append.mp member with inMark | inText
    · have literal : ∀ b ∈ ([59, 32] : List UInt8), isLineEnd b = false := by simp [isLineEnd]
      exact literal b inMark
    · exact text.clean b inText

theorem keyLine_clean {key : String} (isKey : IsKey (ascii key)) {value : List UInt8}
    (clean : ∀ b ∈ value, isLineEnd b = false) : ∀ b ∈ keyLine key value, isLineEnd b = false := by
  intro b member
  simp only [keyLine, List.mem_append] at member
  rcases member with (inKey | inEquals) | inValue
  · have visible := (keyByte_visible (isKey.bytes b inKey)).1
    rw [isBlankOrLineEnd, Bool.or_eq_false_iff] at visible
    exact visible.2
  · have literal : (ascii " = ").all (fun b => !isLineEnd b) = true := by decide
    simpa using List.all_eq_true.mp literal b inEquals
  · exact clean b inValue

theorem length_keyLine (key : String) (value : List UInt8) :
    (keyLine key value).length = (ascii key).length + 3 + value.length := by
  have equals : (ascii " = ").length = 3 := by decide
  rw [keyLine, List.length_append, List.length_append, equals]

theorem isPlain_decimal {key : String} (isKey : IsKey (ascii key)) {n : Nat}
    (small : n < 2 ^ 32) : IsPlain (keyLine key (decimal n)) := by
  have short := isKey.short
  have digits : (decimal n).length ≤ 10 := decimal_length_le (by decide) (by omega)
  constructor
  · rw [length_keyLine]
    omega
  · exact keyLine_clean isKey decimal_clean.2

theorem isPlain_uint32 {key : List Char} (isKey : keyChars key = true) (n : UInt32) :
    IsPlain (keyLine (String.ofList key) (decimal n.toNat)) :=
  isPlain_decimal (isKey_ascii isKey) n.toNat_lt

theorem isPlain_flag {key : List Char} (isKey : keyChars key = true) (b : Bool) :
    IsPlain (keyLine (String.ofList key) (flag b)) :=
  isPlain_decimal (isKey_ascii isKey) (by split <;> decide)

theorem isPlain_nil : IsPlain [] := ⟨by decide, by simp⟩

section Lines

variable {P : List UInt8 → Prop} (plain : ∀ line, IsPlain line → P line)
include plain

theorem forall_headerLines : ∀ line ∈ headerLines, P line := by
  simp only [headerLines, List.forall_mem_cons, List.not_mem_nil, false_imp_iff, implies_true,
    and_true]
  exact ⟨plain _ (isPlain_commentLine (by decide)), plain _ (isPlain_commentLine (by decide)),
    plain _ (isPlain_commentLine (by decide)), plain _ isPlain_nil⟩

theorem forall_serverLines {server : ServerConfig} (host : P (keyLine "host" server.host.bytes)) :
    ∀ line ∈ serverLines server, P line := by
  have port : server.port.toNat < 2 ^ 32 := lt_trans server.port.toNat_lt (by decide)
  simp only [serverLines, List.forall_mem_cons, List.not_mem_nil, false_imp_iff, implies_true,
    and_true]
  exact ⟨plain _ (isPlain_ascii (by decide)), plain _ (isPlain_commentLine (by decide)), host,
    plain _ (isPlain_commentLine (by decide)),
    plain _ (isPlain_decimal (isKey_ascii (by decide)) port),
    plain _ (isPlain_commentLine (by decide)), plain _ (isPlain_flag (by decide) _),
    plain _ isPlain_nil⟩

theorem forall_networkLines (network : NetworkConfig) :
    ∀ line ∈ networkLines network, P line := by
  simp only [networkLines, List.forall_mem_cons, List.not_mem_nil, false_imp_iff, implies_true,
    and_true]
  exact ⟨plain _ (isPlain_ascii (by decide)), plain _ (isPlain_commentLine (by decide)),
    plain _ (isPlain_uint32 (by decide) _), plain _ (isPlain_commentLine (by decide)),
    plain _ (isPlain_uint32 (by decide) _), plain _ (isPlain_commentLine (by decide)),
    plain _ (isPlain_uint32 (by decide) _), plain _ (isPlain_commentLine (by decide)),
    plain _ (isPlain_uint32 (by decide) _), plain _ isPlain_nil⟩

theorem forall_ldnLines {ldn : LdnConfig} (passphrase : P (keyLine "passphrase" ldn.passphrase.bytes))
    (interfaceName : P (keyLine "interface" ldn.interfaceName.bytes)) :
    ∀ line ∈ ldnLines ldn, P line := by
  simp only [ldnLines, List.forall_mem_cons, List.not_mem_nil, false_imp_iff, implies_true,
    and_true]
  exact ⟨plain _ (isPlain_ascii (by decide)), plain _ (isPlain_commentLine (by decide)),
    plain _ (isPlain_flag (by decide) _), plain _ (isPlain_commentLine (by decide)), passphrase,
    plain _ (isPlain_commentLine (by decide)), interfaceName,
    plain _ (isPlain_commentLine (by decide)), plain _ (isPlain_flag (by decide) _),
    plain _ isPlain_nil⟩

theorem forall_debugLines (debug : DebugConfig) : ∀ line ∈ debugLines debug, P line := by
  simp only [debugLines, List.forall_mem_cons, List.not_mem_nil, false_imp_iff, implies_true,
    and_true]
  exact ⟨plain _ (isPlain_ascii (by decide)), plain _ (isPlain_commentLine (by decide)),
    plain _ (isPlain_flag (by decide) _), plain _ (isPlain_commentLine (by decide)),
    plain _ (isPlain_uint32 (by decide) _), plain _ (isPlain_commentLine (by decide)),
    plain _ (isPlain_flag (by decide) _)⟩

end Lines

def IsLine (line : List UInt8) : Prop :=
  line.length + 1 < 512 ∧ ∀ b ∈ line, isLineEnd b = false

theorem IsPlain.isLine (line : List UInt8) (isPlain : IsPlain line) : IsLine line := by
  have short := isPlain.short
  exact ⟨by omega, isPlain.clean⟩

theorem isLine_text {key : String} (isKey : IsKey (ascii key)) {max : Nat} (small : max ≤ 128)
    {text : CString max} (clean : text.NoLineEnd) : IsLine (keyLine key text.bytes) := by
  have short := isKey.short
  have fits := text.length_le
  refine ⟨?_, keyLine_clean isKey clean⟩
  rw [length_keyLine]
  omega

theorem isLine_serverLines {server : ServerConfig} (host : server.host.NoLineEnd) :
    ∀ line ∈ serverLines server, IsLine line :=
  forall_serverLines IsPlain.isLine (isLine_text (isKey_ascii (by decide)) (by decide) host)

theorem isLine_configLines {config : Config} (clean : config.NoLineEnds) :
    ∀ line ∈ configLines config, IsLine line := by
  obtain ⟨host, passphrase, interfaceName⟩ := clean
  simp only [configLines, List.forall_mem_append]
  exact ⟨⟨⟨⟨forall_headerLines IsPlain.isLine, isLine_serverLines host⟩,
    forall_networkLines IsPlain.isLine config.network⟩,
    forall_ldnLines IsPlain.isLine
      (isLine_text (isKey_ascii (by decide)) (by decide) passphrase)
      (isLine_text (isKey_ascii (by decide)) (by decide) interfaceName)⟩,
    forall_debugLines IsPlain.isLine config.debug⟩

theorem length_configLines (config : Config) :
    (joinLines (configLines config)).length < 4096 := by
  have host : config.server.host.bytes.length ≤ 128 := config.server.host.length_le
  have passphrase : config.ldn.passphrase.bytes.length ≤ 64 := config.ldn.passphrase.length_le
  have interfaceName : config.ldn.interfaceName.bytes.length ≤ 32 :=
    config.ldn.interfaceName.length_le
  have keys : (ascii "host").length = 4 ∧ (ascii "passphrase").length = 10 ∧
      (ascii "interface").length = 9 := by decide
  have plain : ∀ line, IsPlain line → line.length ≤ 80 :=
    fun line isPlain => isPlain.short.trans (by decide)
  have header : (joinLines headerLines).length ≤ 4 * 81 :=
    length_joinLines_le (forall_headerLines plain)
  have server : (joinLines (serverLines config.server)).length ≤ 8 * 136 := by
    apply length_joinLines_le
    apply forall_serverLines (fun line isPlain => isPlain.short.trans (by decide))
    rw [length_keyLine]
    omega
  have network : (joinLines (networkLines config.network)).length ≤ 10 * 81 :=
    length_joinLines_le (forall_networkLines plain config.network)
  have ldn : (joinLines (ldnLines config.ldn)).length ≤ 10 * 81 := by
    apply length_joinLines_le
    apply forall_ldnLines plain
    · rw [length_keyLine]
      omega
    · rw [length_keyLine]
      omega
  have debug : (joinLines (debugLines config.debug)).length ≤ 7 * 81 :=
    length_joinLines_le (forall_debugLines plain config.debug)
  have text : joinLines (configLines config) = joinLines headerLines ++
      joinLines (serverLines config.server) ++ joinLines (networkLines config.network) ++
      joinLines (ldnLines config.ldn) ++ joinLines (debugLines config.debug) := by
    simp only [joinLines, configLines, List.flatMap_append]
  rw [text]
  simp only [List.length_append]
  omega

theorem foldl_writeLine {bufferSize : Nat} {lines : List (List UInt8)} {written : List UInt8}
    (fits : written.length + (joinLines lines).length < bufferSize) :
    lines.foldl (writeLine bufferSize) written = written ++ joinLines lines := by
  induction lines generalizing written with
  | nil => simp [joinLines]
  | cons line lines ih =>
      have text : joinLines (line :: lines) = line ++ [10] ++ joinLines lines := by
        simp [joinLines]
      rw [text] at fits ⊢
      simp only [List.length_append, List.length_singleton] at fits
      have step : writeLine bufferSize written line = written ++ (line ++ [10]) := by
        rw [writeLine, if_pos (by omega)]
      rw [List.foldl_cons, step, ih (by simp; omega), List.append_assoc]

theorem formatConfigContent_eq (config : Config) :
    formatConfigContent 4096 config = joinLines (configLines config) := by
  have fits := length_configLines config
  rw [formatConfigContent, foldl_writeLine (by simpa using fits), List.nil_append]

theorem parseConfigContent_eq (content : List UInt8) (config : Config) :
    parseConfigContent content config =
      (scanLines 512 processLine [] ⟨.none, config⟩ content).config := by
  have skip : (fun (parser : Parser) (line : List UInt8) =>
      if line = [] then parser else processLine parser line) = processLine := by
    funext parser line
    split
    next empty => rw [empty, processLine_nil]
    next => rfl
  simp only [parseConfigContent, skip]

theorem parseConfigContent_joinLines {lines : List (List UInt8)}
    (isLine : ∀ line ∈ lines, IsLine line) (start : Config) :
    parseConfigContent (joinLines lines) start =
      (lines.foldl processLine ⟨.none, start⟩).config := by
  have fit : ∀ line ∈ lines, line.length < 512 ∧ ∀ b ∈ line, isLineEnd b = false :=
    fun line member => ⟨Nat.lt_of_succ_lt (isLine line member).1, (isLine line member).2⟩
  rw [parseConfigContent_eq, scanLines_joinLines fit, processLine_nil]

theorem parseConfigFile_joinLines {lines : List (List UInt8)}
    (isLine : ∀ line ∈ lines, IsLine line) (start : Config) :
    parseConfigFile (joinLines lines) start = (lines.foldl processLine ⟨.none, start⟩).config := by
  have lf : (fun (parser : Parser) (line : List UInt8) => processLine parser (line ++ [10])) =
      processLine := by
    funext parser line
    exact processLine_lf parser line
  rw [parseConfigFile, fgetsLines_joinLines isLine, lf]

theorem parseConfigContent_formatted {config : Config} (clean : config.NoLineEnds)
    (start : Config) :
    parseConfigContent (formatConfigContent 4096 config) start = config.trimmed := by
  rw [formatConfigContent_eq, parseConfigContent_joinLines (isLine_configLines clean),
    foldl_configLines clean]

/-- Both readers give back what their writer wrote, whatever they start from. -/
theorem parse_written_config {config : Config} (clean : config.NoLineEnds) (start : Config) :
    parseConfigContent (formatConfigContent 4096 config) start = config.trimmed ∧
      parseConfigFile (printConfigFile config) start = config.trimmed := by
  have isLine := isLine_configLines clean
  constructor
  · rw [formatConfigContent_eq, parseConfigContent_joinLines isLine, foldl_configLines clean]
  · rw [printConfigFile, parseConfigFile_joinLines isLine, foldl_configLines clean]

/-- A passphrase with blanks at its ends and the marks of the format inside. -/
theorem parse_written_passphrase :
    let config := { getDefaultConfig with ldn.passphrase := safeStrcpy 64 (ascii " #a=b;[c] ") }
    config.trimmed.ldn.passphrase.bytes = ascii "#a=b;[c]" ∧
      parseConfigContent (formatConfigContent 4096 config) getDefaultConfig = config.trimmed ∧
      parseConfigFile (printConfigFile config) getDefaultConfig = config.trimmed :=
  ⟨by decide, parse_written_config (by decide) getDefaultConfig⟩

end RyuLdn.ConfigFile
