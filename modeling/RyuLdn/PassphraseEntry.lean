import RyuLdn.ConfigService
import RyuLdn.TcpClient
import RyuLdn.ProtocolRoundTrip
import RyuLdn.TransitionSystem

/-! The passphrase of a room on its way from the keyboard of the overlay to the server:
`HexKeyboardGui` and the menu beside it, the overlay's IPC client, `ConfigService` with
its file, `RyuLdnClientConfig` and `TcpClient::send_passphrase`. -/
namespace RyuLdn.PassphraseEntry

open CText ConfigFile ConfigService TransitionSystem

def leader : List UInt8 := ascii "Ryujinx-"

def hexChars : List UInt8 := ascii "0123456789abcdef"

def isHexLower (c : UInt8) : Bool := (48 ≤ c && c ≤ 57) || (97 ≤ c && c ≤ 102)

def isValidPassphrase (buffer : List UInt8) : Bool :=
  let passphrase := cString buffer
  passphrase = [] ||
    (passphrase.length = 16 && passphrase.take 8 = leader && (passphrase.drop 8).all isHexLower)

/-- Eight random digits; `rand` is what `rand()` returns. -/
def randomDigits (rand : Fin 8 → Nat) : List UInt8 :=
  List.ofFn fun i => hexChars.getD (rand i % 16) 0

/-- `GenerateRandomPassphraseOverlay`, into a buffer of at least 17 bytes. -/
def generateRandomPassphrase (rand : Fin 8 → Nat) : List UInt8 := leader ++ randomDigits rand

/-- `HexKeyboardGui`; `input` is `m_input` up to `m_inputLen`, in an array of 16. -/
structure Keyboard where
  cursorX : Fin 4
  cursorY : Fin 4
  input : List UInt8
  fits : input.length ≤ 8
  deriving DecidableEq

inductive Button where
  | up | down | left | right | a | b | x | plus | y
  deriving DecidableEq

structure Handled where
  keyboard : Option Keyboard
  saved : Option (List UInt8)

namespace Keyboard

/-- The constructor; `current` is what the service answers, if it does. -/
def opened : Option (List UInt8) → Keyboard
  | some current =>
      if whole : current.length = 16 ∧ current.take 8 = leader then
        ⟨0, 0, current.drop 8, by rw [List.length_drop]; omega⟩
      else ⟨0, 0, [], Nat.zero_le 8⟩
  | none => ⟨0, 0, [], Nat.zero_le 8⟩

def selectedChar (k : Keyboard) : UInt8 := hexChars.getD (k.cursorY.val * 4 + k.cursorX.val) 0

def typeSelected (k : Keyboard) : Keyboard :=
  if room : k.input.length < 8 then
    { k with
      input := k.input ++ [k.selectedChar]
      fits := by rw [List.length_append, List.length_singleton]; omega }
  else k

def backspace (k : Keyboard) : Keyboard :=
  { k with
    input := k.input.dropLast
    fits := by rw [List.length_dropLast]; have := k.fits; omega }

def clear (k : Keyboard) : Keyboard := { k with input := [], fits := Nat.zero_le 8 }

def generateRandom (k : Keyboard) (rand : Fin 8 → Nat) : Keyboard :=
  { k with input := randomDigits rand, fits := by simp [randomDigits] }

/-- `SavePassphrase`; an unfinished one is not handed over. -/
def savePassphrase (k : Keyboard) : Option (List UInt8) :=
  if k.input.length = 0 then some []
  else if k.input.length = 8 then some (leader ++ k.input)
  else none

def handleInput (k : Keyboard) (keysDown : List Button) (rand : Fin 8 → Nat) : Handled :=
  let stays (k : Keyboard) : Handled := ⟨some k, none⟩
  if .up ∈ keysDown then stays { k with cursorY := k.cursorY + 3 }
  else if .down ∈ keysDown then stays { k with cursorY := k.cursorY + 1 }
  else if .left ∈ keysDown then stays { k with cursorX := k.cursorX + 3 }
  else if .right ∈ keysDown then stays { k with cursorX := k.cursorX + 1 }
  else if .a ∈ keysDown then stays k.typeSelected
  else if .b ∈ keysDown then if k.input.length > 0 then stays k.backspace else ⟨none, none⟩
  else if .x ∈ keysDown then stays k.clear
  else if .plus ∈ keysDown then ⟨none, k.savePassphrase⟩
  else if .y ∈ keysDown then stays (k.generateRandom rand)
  else stays k

end Keyboard

/-- `ryuLdnSetPassphrase`: `strncpy` into 64 zeroed bytes, the last of them left zero. -/
def ipcPassphrase (passphrase : List UInt8) : CharArray 64 where
  bytes :=
    let text := (cString passphrase).take 63
    text ++ List.replicate (64 - text.length) 0
  length_eq := by
    have := List.length_take_le 63 (cString passphrase)
    simp only [List.length_append, List.length_replicate]
    omega
  terminated := by
    refine List.mem_append_right _ (List.mem_replicate.mpr ⟨?_, rfl⟩)
    have := List.length_take_le 63 (cString passphrase)
    omega

def getPassphrase (config : Config) : List UInt8 := (safeStrcpy 63 config.ldn.passphrase.bytes).bytes

structure State where
  service : ConfigService.Service
  keyboard : Option Keyboard

/-- `delivered` tells whether the overlay reaches the service. -/
inductive Action where
  | openKeyboard (delivered : Bool)
  | press (keysDown : List Button) (rand : Fin 8 → Nat) (delivered : Bool)
  | randomPassphrase (rand : Fin 8 → Nat)
  | clearPassphrase
  | setting (setter : SetterCall)
  | saveConfig (answer : SaveAnswer)
  | reloadConfig (answer : LoadAnswer)

def State.setPassphrase (st : State) (passphrase : List UInt8) : State :=
  { st with service := st.service.call (.setPassphrase (ipcPassphrase passphrase)) }

def State.handle (st : State) (handled : Handled) (delivered : Bool) : State :=
  let st := { st with keyboard := handled.keyboard }
  match handled.saved with
  | some passphrase => if delivered then st.setPassphrase passphrase else st
  | none => st

def step (st : State) : Action → Option State
  | .openKeyboard delivered =>
      some { st with
        keyboard := some (.opened (if delivered then some (getPassphrase st.service.config) else none)) }
  | .press keysDown rand delivered =>
      st.keyboard.map fun k => st.handle (k.handleInput keysDown rand) delivered
  | .randomPassphrase rand => some (st.setPassphrase (generateRandomPassphrase rand))
  | .clearPassphrase => some (st.setPassphrase [])
  | .setting setter => some { st with service := st.service.call setter }
  | .saveConfig answer => some { st with service := (st.service.saveConfig answer).2 }
  | .reloadConfig answer => some { st with service := (st.service.reloadConfig answer).2 }

/-- `passphrase` of the `RyuLdnClientConfig` that the constructor of
`ICommunicationService` makes from `g_config`: 64 bytes of the array, with a NUL behind
them. -/
def clientPassphrase (config : Config) : List UInt8 := config.ldn.passphrase.bytes.take 64

/-- The overlay, and `m_config.passphrase` of the client in the service the game has
opened: it is copied once, and later settings do not reach it. -/
structure Console where
  overlay : State
  client : Option (List UInt8)

inductive Console.Action where
  | overlay (a : PassphraseEntry.Action)
  | openService

def Console.step (c : Console) : Console.Action → Option Console
  | .overlay a => (PassphraseEntry.step c.overlay a).map fun overlay => { c with overlay := overlay }
  | .openService => some { c with client := some (clientPassphrase c.overlay.service.config) }

theorem hexChars_isHexLower : ∀ n < 16, isHexLower (hexChars.getD n 0) = true := by decide

theorem isHexLower_ne_zero {c : UInt8} (hex : isHexLower c = true) : c ≠ 0 := by
  rintro rfl
  exact absurd hex (by decide)

theorem exists_key {c : UInt8} (hex : isHexLower c = true) :
    ∃ x y : Fin 4, hexChars.getD (y.val * 4 + x.val) 0 = c := by
  have listed : ∀ n : Fin 256, isHexLower (.ofNat n.val) = true → UInt8.ofNat n.val ∈ hexChars := by
    decide +kernel
  have keys : ∀ c ∈ hexChars, ∃ x y : Fin 4, hexChars.getD (y.val * 4 + x.val) 0 = c := by
    decide +kernel
  have same : UInt8.ofNat c.toNat = c := UInt8.ofNat_toNat
  have found := listed ⟨c.toNat, c.toNat_lt⟩
  rw [same] at found
  exact keys c (found hex)

theorem isValidPassphrase_iff {passphrase : List UInt8} (noNul : 0 ∉ passphrase) :
    isValidPassphrase passphrase = true ↔ passphrase = [] ∨
      ∃ digits, passphrase = leader ++ digits ∧ digits.length = 8 ∧
        ∀ c ∈ digits, isHexLower c = true := by
  unfold isValidPassphrase
  rw [cString_eq_self noNul]
  simp only [Bool.or_eq_true, decide_eq_true_eq, Bool.and_eq_true, List.all_eq_true]
  refine or_congr Iff.rfl ?_
  constructor
  · rintro ⟨⟨length, front⟩, hex⟩
    refine ⟨passphrase.drop 8, ?_, by rw [List.length_drop]; omega, hex⟩
    rw [← front, List.take_append_drop]
  · rintro ⟨digits, rfl, length, hex⟩
    have leader8 : leader.length = 8 := rfl
    refine ⟨⟨by rw [List.length_append]; omega, ?_⟩, ?_⟩
    · rw [List.take_append_of_le_length leader8.ge, List.take_of_length_le leader8.le]
    · rwa [List.drop_left' leader8]

theorem nul_notMem_leader_append {digits : List UInt8} (hex : ∀ c ∈ digits, isHexLower c = true) :
    0 ∉ leader ++ digits := by
  rw [List.mem_append]
  rintro (front | back)
  · exact absurd front (by decide)
  · exact isHexLower_ne_zero (hex 0 back) rfl

theorem isValidPassphrase_leader_append {digits : List UInt8} (length : digits.length = 8)
    (hex : ∀ c ∈ digits, isHexLower c = true) : isValidPassphrase (leader ++ digits) = true :=
  (isValidPassphrase_iff (nul_notMem_leader_append hex)).mpr (Or.inr ⟨digits, rfl, length, hex⟩)

theorem length_le_of_valid {passphrase : List UInt8} (noNul : 0 ∉ passphrase)
    (valid : isValidPassphrase passphrase = true) : passphrase.length ≤ 16 := by
  rcases (isValidPassphrase_iff noNul).mp valid with rfl | ⟨digits, rfl, length, -⟩
  · exact Nat.zero_le 16
  · have leader8 : leader.length = 8 := rfl
    rw [List.length_append]
    omega

theorem randomDigits_hex (rand : Fin 8 → Nat) : ∀ c ∈ randomDigits rand, isHexLower c = true := by
  intro c member
  obtain ⟨i, rfl⟩ := List.mem_ofFn.mp member
  exact hexChars_isHexLower _ (Nat.mod_lt _ (by decide))

theorem length_randomDigits (rand : Fin 8 → Nat) : (randomDigits rand).length = 8 :=
  List.length_ofFn

def Keyboard.IsHex (k : Keyboard) : Prop := ∀ c ∈ k.input, isHexLower c = true

theorem Keyboard.opened_isHex {current : Option (List UInt8)}
    (valid : ∀ passphrase ∈ current, 0 ∉ passphrase ∧ isValidPassphrase passphrase = true) :
    (Keyboard.opened current).IsHex := by
  unfold Keyboard.opened
  split
  · rename_i passphrase
    split
    · rename_i whole
      obtain ⟨noNul, valid⟩ := valid passphrase rfl
      rcases (isValidPassphrase_iff noNul).mp valid with empty | ⟨digits, same, -, hex⟩
      · rw [empty] at whole
        exact absurd whole.1 (by decide)
      · intro c member
        dsimp only at member
        rw [same, List.drop_left' (show leader.length = 8 from rfl)] at member
        exact hex c member
    · exact nofun
  · exact nofun

theorem Keyboard.savePassphrase_valid {k : Keyboard} (hex : k.IsHex) {passphrase : List UInt8}
    (saved : k.savePassphrase = some passphrase) :
    0 ∉ passphrase ∧ isValidPassphrase passphrase = true := by
  unfold Keyboard.savePassphrase at saved
  split at saved
  · cases saved
    exact ⟨by simp, by decide⟩
  · split at saved
    · rename_i length
      cases saved
      exact ⟨nul_notMem_leader_append hex, isValidPassphrase_leader_append length hex⟩
    · cases saved

theorem Keyboard.typeSelected_isHex {k : Keyboard} (hex : k.IsHex) : k.typeSelected.IsHex := by
  unfold Keyboard.typeSelected
  split
  · intro c member
    rcases List.mem_append.mp member with old | new
    · exact hex c old
    · rw [List.mem_singleton.mp new]
      exact hexChars_isHexLower _ (by omega)
  · exact hex

theorem Keyboard.handleInput_sound {k : Keyboard} (hex : k.IsHex) (keysDown : List Button)
    (rand : Fin 8 → Nat) :
    (∀ next ∈ (k.handleInput keysDown rand).keyboard, next.IsHex) ∧
      ∀ passphrase ∈ (k.handleInput keysDown rand).saved,
        0 ∉ passphrase ∧ isValidPassphrase passphrase = true := by
  have stays {next : Keyboard} (digits : next.IsHex) :
      (∀ k ∈ (⟨some next, none⟩ : Handled).keyboard, k.IsHex) ∧
        ∀ passphrase ∈ (⟨some next, none⟩ : Handled).saved,
          0 ∉ passphrase ∧ isValidPassphrase passphrase = true :=
    ⟨fun k same => Option.mem_some.mp same ▸ digits, nofun⟩
  unfold Keyboard.handleInput
  dsimp only
  split
  · exact stays hex
  split
  · exact stays hex
  split
  · exact stays hex
  split
  · exact stays hex
  split
  · exact stays (Keyboard.typeSelected_isHex hex)
  split
  · split
    · exact stays fun c member => hex c (List.dropLast_subset _ member)
    · exact ⟨nofun, nofun⟩
  split
  · exact stays nofun
  split
  · exact ⟨nofun, fun passphrase saved => Keyboard.savePassphrase_valid hex saved⟩
  split
  · exact stays (randomDigits_hex rand)
  · exact stays hex

theorem ipcPassphrase_cString (passphrase : List UInt8) :
    cString (ipcPassphrase passphrase).bytes = (cString passphrase).take 63 := by
  refine cString_append_zeros ?_ _
  exact fun member => nul_notMem_cString passphrase (List.mem_of_mem_take member)

theorem setPassphrase_bytes {st : State} {passphrase : List UInt8} (noNul : 0 ∉ passphrase)
    (short : passphrase.length ≤ 63) :
    (st.setPassphrase passphrase).service.config.ldn.passphrase.bytes = passphrase := by
  change ((cString (ipcPassphrase passphrase).bytes).take maxPassphraseLength) = passphrase
  rw [ipcPassphrase_cString, cString_eq_self noNul, List.take_of_length_le short,
    List.take_of_length_le (short.trans (by decide))]

theorem getPassphrase_eq {config : Config} (short : config.ldn.passphrase.bytes.length ≤ 63) :
    getPassphrase config = config.ldn.passphrase.bytes := by
  change (cString config.ldn.passphrase.bytes).take 63 = _
  rw [cString_eq_self config.ldn.passphrase.noNul, List.take_of_length_le short]

/-- The condition on a step: other callers hand over valid passphrases and host names
without line ends, and what a failed save leaves in the file has a valid passphrase. -/
def Trusted (_ : State) : Action → Bool
  | .setting (.setPassphrase passphrase) => isValidPassphrase passphrase.bytes
  | .setting (.setServerAddress host _) => (cString host.bytes).all fun b => !isLineEnd b
  | .saveConfig (.fails (some content)) =>
      isValidPassphrase (parseConfigContent content getDefaultConfig).ldn.passphrase.bytes
  | _ => true

def ValidFile (file : Option (List UInt8)) : Prop :=
  ∀ content ∈ file,
    isValidPassphrase (parseConfigContent content getDefaultConfig).ldn.passphrase.bytes = true

structure Sound (st : State) : Prop where
  clean : st.service.config.NoLineEnds
  valid : isValidPassphrase st.service.config.ldn.passphrase.bytes = true
  file : ValidFile st.service.file
  keyboard : ∀ k ∈ st.keyboard, k.IsHex

theorem valid_noLineEnd {passphrase : List UInt8} (noNul : 0 ∉ passphrase)
    (valid : isValidPassphrase passphrase = true) : ∀ b ∈ passphrase, isBlankOrLineEnd b = false := by
  rcases (isValidPassphrase_iff noNul).mp valid with rfl | ⟨digits, rfl, -, hex⟩
  · exact nofun
  · intro b member
    rcases List.mem_append.mp member with front | back
    · have all : ∀ b ∈ leader, isBlankOrLineEnd b = false := by decide +kernel
      exact all b front
    · have lower := hex b back
      unfold isHexLower at lower
      unfold isBlankOrLineEnd isBlank isLineEnd
      grind

theorem trim_valid {passphrase : CString maxPassphraseLength}
    (valid : isValidPassphrase passphrase.bytes = true) : passphrase.trim = passphrase := by
  have visible := valid_noLineEnd passphrase.noNul valid
  have blank : ∀ b ∈ passphrase.bytes, isBlank b = false := fun b member =>
    (Bool.or_eq_false_iff.mp (visible b member)).1
  rw [trim_eq_self_iff]
  exact ⟨fun b head => blank b (List.mem_of_mem_head? head),
    fun b last => blank b (List.mem_of_mem_getLast? last)⟩

theorem Sound.withPassphrase {st : State} (sound : Sound st) {passphrase : List UInt8}
    (noNul : 0 ∉ passphrase) (valid : isValidPassphrase passphrase = true) :
    Sound (st.setPassphrase passphrase) := by
  have short := (length_le_of_valid noNul valid).trans (by decide : 16 ≤ 63)
  have bytes := @setPassphrase_bytes st _ noNul short
  refine ⟨⟨sound.clean.1, ?_, sound.clean.2.2⟩, by rw [bytes]; exact valid, sound.file, sound.keyboard⟩
  intro b member
  rw [bytes] at member
  exact (Bool.or_eq_false_iff.mp (valid_noLineEnd noNul valid b member)).2

theorem loadConfigFile_sound {file : Option (List UInt8)} (valid : ValidFile file)
    (answer : LoadAnswer) :
    (loadConfigFile answer file getDefaultConfig).2.NoLineEnds ∧
      isValidPassphrase
        (loadConfigFile answer file getDefaultConfig).2.ldn.passphrase.bytes = true := by
  have fallback : getDefaultConfig.NoLineEnds ∧
      isValidPassphrase getDefaultConfig.ldn.passphrase.bytes = true := by decide
  unfold loadConfigFile
  split
  · exact fallback
  · exact fallback
  · rename_i content
    split
    · exact fallback
    · split
      · exact fallback
      · exact ⟨parseConfigContent_noLineEnds fallback.1 content, valid content rfl⟩

theorem Sound.setting {st : State} (sound : Sound st) {setter : SetterCall}
    (trusted : Trusted st (.setting setter) = true) :
    Sound { st with service := st.service.call setter } := by
  obtain ⟨host, passphrase, interfaceName⟩ := sound.clean
  cases setter with
  | setPassphrase given =>
      have copied : (safeStrcpy maxPassphraseLength given.bytes).bytes = cString given.bytes :=
        safeStrcpy_charArray given (by decide)
      have noNul := nul_notMem_cString given.bytes
      have valid : isValidPassphrase (cString given.bytes) = true := by
        have trusted : isValidPassphrase given.bytes = true := trusted
        unfold isValidPassphrase at trusted ⊢
        rwa [cString_eq_self noNul]
      refine ⟨⟨host, ?_, interfaceName⟩, ?_, sound.file, sound.keyboard⟩
      · intro b member
        change b ∈ (safeStrcpy maxPassphraseLength given.bytes).bytes at member
        rw [copied] at member
        exact (Bool.or_eq_false_iff.mp (valid_noLineEnd noNul valid b member)).2
      · change isValidPassphrase (safeStrcpy maxPassphraseLength given.bytes).bytes = true
        rwa [copied]
  | setServerAddress given port =>
      refine ⟨⟨?_, passphrase, interfaceName⟩, sound.valid, sound.file, sound.keyboard⟩
      intro b member
      have clean := List.all_eq_true.mp trusted b (List.mem_of_mem_take member)
      simpa using clean
  | setLdnEnabled | setUseTls | setDebugEnabled | setDebugLevel | setLogToFile
  | setConnectTimeout | setPingInterval | setDisableP2p =>
      exact ⟨⟨host, passphrase, interfaceName⟩, sound.valid, sound.file, sound.keyboard⟩

theorem Sound.step {st next : State} {a : Action} (sound : Sound st)
    (trusted : Trusted st a = true) (moved : step st a = some next) : Sound next := by
  cases a with
  | openKeyboard delivered =>
      cases moved
      refine ⟨sound.clean, sound.valid, sound.file, ?_⟩
      rintro k ⟨⟩
      refine Keyboard.opened_isHex ?_
      cases delivered with
      | false => exact nofun
      | true =>
          rintro passphrase ⟨⟩
          have noNul := st.service.config.ldn.passphrase.noNul
          have short := (length_le_of_valid noNul sound.valid).trans (by decide : 16 ≤ 63)
          rw [getPassphrase_eq short]
          exact ⟨noNul, sound.valid⟩
  | press keysDown rand delivered =>
      obtain ⟨k, here, rfl⟩ := Option.map_eq_some_iff.mp moved
      obtain ⟨digits, saved⟩ := Keyboard.handleInput_sound (sound.keyboard k here) keysDown rand
      have kept : Sound { st with keyboard := (k.handleInput keysDown rand).keyboard } :=
        ⟨sound.clean, sound.valid, sound.file, digits⟩
      unfold State.handle
      dsimp only
      split
      · rename_i passphrase handed
        obtain ⟨noNul, valid⟩ := saved passphrase handed
        split
        · exact kept.withPassphrase noNul valid
        · exact kept
      · exact kept
  | randomPassphrase rand =>
      cases moved
      have hex := randomDigits_hex rand
      exact sound.withPassphrase (nul_notMem_leader_append hex)
        (isValidPassphrase_leader_append (length_randomDigits rand) hex)
  | clearPassphrase =>
      cases moved
      exact sound.withPassphrase (by simp) (by decide)
  | setting setter =>
      cases moved
      exact sound.setting trusted
  | saveConfig answer =>
      cases moved
      refine ⟨sound.clean, sound.valid, ?_, sound.keyboard⟩
      intro content written
      cases answer with
      | done =>
          cases written
          rw [parseConfigContent_formatted sound.clean]
          change isValidPassphrase st.service.config.ldn.passphrase.trim.bytes = true
          rw [trim_valid sound.valid]
          exact sound.valid
      | fails left =>
          cases left with
          | none => cases written
          | some content =>
              cases written
              exact trusted
  | reloadConfig answer =>
      cases moved
      obtain ⟨clean, valid⟩ := loadConfigFile_sound sound.file answer
      exact ⟨clean, valid, sound.file, sound.keyboard⟩

theorem sendPassphrase_read (config : Config) :
    ∃ wire,
      (∀ t : TcpClient.Client, t.sendPassphrase (clientPassphrase config) =
        t.sendPrepared (TcpClient.Client.encoded (.success, wire))) ∧
      ∀ later, ∃ header payload,
        ProtocolRoundTrip.decode 0x80 (wire ++ later) = (.success, header, some payload) ∧
          cString payload = config.ldn.passphrase.bytes := by
  have short : config.ldn.passphrase.bytes.length ≤ 64 := config.ldn.passphrase.length_le
  have noNul := config.ldn.passphrase.noNul
  have kept : (clientPassphrase config).take 127 = config.ldn.passphrase.bytes := by
    rw [clientPassphrase, List.take_of_length_le short,
      List.take_of_length_le (short.trans (by decide))]
  generalize config.ldn.passphrase.bytes = text at short noNul kept ⊢
  let request : ProtocolRoundTrip.Request :=
    .struct .passphrase (text ++ List.replicate (0x80 - text.length) 0)
  have length : request.payload.length = 0x80 := by
    change (text ++ List.replicate (0x80 - text.length) 0).length = 0x80
    rw [List.length_append, List.length_replicate]
    omega
  have size : request.size = 0x80 := by
    rw [ProtocolRoundTrip.Request.size, length]
    rfl
  refine ⟨request.wire, ?_, ?_⟩
  · intro t
    have encoded := request.encode_eq TcpClient.sendBufferSize
    rw [if_neg (by rw [size]; decide)] at encoded
    unfold TcpClient.Client.sendPassphrase TcpClient.Client.message
    rw [kept, ← encoded]
    rfl
  · intro later
    have small : request.size ≤ ProtocolCodec.maxPacketSize := by rw [size]; decide
    have decoded := ProtocolRoundTrip.decode_wire small later
    rw [length] at decoded
    exact ⟨_, _, decoded, cString_append_zeros noNul _⟩

/-- `InitializeConfig`, with no keyboard open. -/
def boot (answer : LoadAnswer) (file : Option (List UInt8)) : State where
  service := (ConfigService.Service.reloadConfig ⟨getDefaultConfig, file⟩ answer).2
  keyboard := none

theorem sound_boot {answer : LoadAnswer} {file : Option (List UInt8)} (valid : ValidFile file) :
    Sound (boot answer file) := by
  obtain ⟨clean, loaded⟩ := loadConfigFile_sound valid answer
  exact ⟨clean, loaded, valid, nofun⟩

namespace Console

/-- The overlay's steps are trusted ones; the game may open a service at any time. -/
def Trusted (c : Console) : Action → Bool
  | .overlay a => PassphraseEntry.Trusted c.overlay a
  | .openService => true

def boot (answer : LoadAnswer) (file : Option (List UInt8)) : Console :=
  ⟨PassphraseEntry.boot answer file, none⟩

theorem sound_step {c next : Console} {a : Action} (sound : Sound c.overlay)
    (moved : guarded Trusted step c a = some next) : Sound next.overlay := by
  obtain ⟨trusted, moved⟩ := guarded_eq_some.mp moved
  cases a with
  | overlay a =>
      obtain ⟨overlay, taken, rfl⟩ := Option.map_eq_some_iff.mp moved
      exact sound.step trusted taken
  | openService =>
      cases moved
      exact sound

theorem client_run {start c : Console} (closed : start.client = none) {actions : List Action}
    (steps : run (guarded Trusted step) start actions = some c) {passphrase : List UInt8}
    (held : c.client = some passphrase) :
    ∃ front back opened, actions = front ++ .openService :: back ∧ .openService ∉ back ∧
      run (guarded Trusted step) start front = some opened ∧
      passphrase = clientPassphrase opened.overlay.service.config := by
  induction actions using List.reverseRecOn generalizing c with
  | nil =>
      cases steps
      rw [closed] at held
      cases held
  | append_singleton actions a ih =>
      obtain ⟨m, earlier, last⟩ := run_append_eq_some.mp steps
      obtain ⟨t, moved, done⟩ := run_cons_eq_some.mp last
      cases done
      have taken := (guarded_eq_some.mp moved).2
      cases a with
      | overlay a =>
          obtain ⟨overlay, _, rfl⟩ := Option.map_eq_some_iff.mp taken
          obtain ⟨front, back, opened, rfl, once, reached, copied⟩ := ih earlier held
          refine ⟨front, back ++ [.overlay a], opened, by simp, ?_, reached, copied⟩
          simpa using once
      | openService =>
          cases taken
          exact ⟨actions, [], m, rfl, List.not_mem_nil, earlier, (Option.some.inj held).symm⟩

end Console

/-- Whatever is pressed, set, saved and reloaded, the passphrase stays a valid one, and
what the server reads out of the client's packet is the passphrase that was configured
when the game opened its service. -/
theorem passphrase_arrives {answer : LoadAnswer} {file : Option (List UInt8)}
    {actions : List Console.Action} {c : Console} (valid : ValidFile file)
    (steps : run (guarded Console.Trusted Console.step) (.boot answer file) actions = some c) :
    isValidPassphrase c.overlay.service.config.ldn.passphrase.bytes = true ∧
      ∀ passphrase, c.client = some passphrase →
        ∃ front back opened, actions = front ++ .openService :: back ∧ .openService ∉ back ∧
          run (guarded Console.Trusted Console.step) (.boot answer file) front = some opened ∧
          ∃ wire,
            (∀ t : TcpClient.Client, t.sendPassphrase passphrase =
              t.sendPrepared (TcpClient.Client.encoded (.success, wire))) ∧
            ∀ later, ∃ header payload,
              ProtocolRoundTrip.decode 0x80 (wire ++ later) = (.success, header, some payload) ∧
                cString payload = opened.overlay.service.config.ldn.passphrase.bytes := by
  have sound : Sound c.overlay :=
    run_invariant (fun c : Console => Sound c.overlay)
      (fun moved sound => Console.sound_step sound moved) steps (sound_boot valid)
  refine ⟨sound.valid, ?_⟩
  intro passphrase held
  obtain ⟨front, back, opened, split, once, reached, rfl⟩ := Console.client_run rfl steps held
  exact ⟨front, back, opened, split, once, reached,
    sendPassphrase_read opened.overlay.service.config⟩

/-- A random passphrase is corrected by hand, saved and loaded again; the game opens its
service, and then the passphrase is cleared. -/
def corrected : List Console.Action :=
  ([.randomPassphrase fun i => i.val, .openKeyboard true, .press [.b] (fun _ => 0) true,
    .press [.left, .a] (fun _ => 0) true, .press [.a] (fun _ => 0) true,
    .press [.plus] (fun _ => 0) true, .saveConfig .done, .reloadConfig .done].map .overlay) ++
    [.openService, .overlay .clearPassphrase]

theorem passphrase_arrives_corrected : ∃ c,
    run (guarded Console.Trusted Console.step) (.boot .done none) corrected = some c ∧
      isValidPassphrase c.overlay.service.config.ldn.passphrase.bytes = true ∧
      c.client.isSome = true ∧ ∀ passphrase, c.client = some passphrase →
        ∃ front back opened, corrected = front ++ .openService :: back ∧ .openService ∉ back ∧
          run (guarded Console.Trusted Console.step) (.boot .done none) front = some opened ∧
          ∃ wire,
            (∀ t : TcpClient.Client, t.sendPassphrase passphrase =
              t.sendPrepared (TcpClient.Client.encoded (.success, wire))) ∧
            ∀ later, ∃ header payload,
              ProtocolRoundTrip.decode 0x80 (wire ++ later) = (.success, header, some payload) ∧
                cString payload = opened.overlay.service.config.ldn.passphrase.bytes := by
  have evaluated : ((run (guarded Console.Trusted Console.step) (.boot .done none)
      corrected).map (·.client.isSome)) = some true := by
    decide +kernel
  obtain ⟨c, ran, opened⟩ := Option.map_eq_some_iff.mp evaluated
  have noFile : ValidFile none := by
    rintro content ⟨⟩
  obtain ⟨valid, arrives⟩ := passphrase_arrives noFile ran
  exact ⟨c, ran, valid, opened, arrives⟩

def tap (button : Button) : Action := .press [button] (fun _ => 0) true

theorem run_tap {st next : State} {k : Keyboard} (here : st.keyboard = some k) {button : Button}
    {rest : List Action}
    (steps : run step (st.handle (k.handleInput [button] fun _ => 0) true) rest = some next) :
    run step st (tap button :: rest) = some next := by
  refine run_cons_eq_some.mpr ⟨_, ?_, steps⟩
  simp only [tap, step, here, Option.map_some]

theorem run_right (n : Nat) {st : State} {k : Keyboard} (here : st.keyboard = some k) :
    run step st (List.replicate n (tap .right)) =
      some { st with keyboard := some { k with cursorX := (· + 1)^[n] k.cursorX } } := by
  induction n generalizing st k with
  | zero =>
      obtain ⟨service, keyboard⟩ := st
      cases here
      rfl
  | succ n ih =>
      rw [List.replicate_succ]
      refine run_tap here ?_
      exact @ih { st with keyboard := some { k with cursorX := k.cursorX + 1 } } _ rfl

theorem run_down (n : Nat) {st : State} {k : Keyboard} (here : st.keyboard = some k) :
    run step st (List.replicate n (tap .down)) =
      some { st with keyboard := some { k with cursorY := (· + 1)^[n] k.cursorY } } := by
  induction n generalizing st k with
  | zero =>
      obtain ⟨service, keyboard⟩ := st
      cases here
      rfl
  | succ n ih =>
      rw [List.replicate_succ]
      refine run_tap here ?_
      exact @ih { st with keyboard := some { k with cursorY := k.cursorY + 1 } } _ rfl

theorem exists_moves (start goal : Fin 4) : ∃ n : Nat, (· + 1)^[n] start = goal := by
  have all : ∀ start goal : Fin 4, ∃ n : Fin 4, (· + 1)^[n.val] start = goal := by decide
  obtain ⟨n, same⟩ := all start goal
  exact ⟨n.val, same⟩

theorem exists_typing {st : State} {k : Keyboard} (here : st.keyboard = some k)
    (room : k.input.length < 8) {c : UInt8} (hex : isHexLower c = true) :
    ∃ buttons : List Button, ∃ after : Keyboard, after.input = k.input ++ [c] ∧
      run step st (buttons.map tap) = some { st with keyboard := some after } := by
  obtain ⟨x, y, key⟩ := exists_key hex
  obtain ⟨across, reachedX⟩ := exists_moves k.cursorX x
  obtain ⟨along, reachedY⟩ := exists_moves k.cursorY y
  let there : Keyboard := { k with cursorX := x, cursorY := y }
  refine ⟨List.replicate across .right ++ (List.replicate along .down ++ [.a]),
    there.typeSelected, ?_, ?_⟩
  · rw [Keyboard.typeSelected, dif_pos room]
    change k.input ++ [hexChars.getD (y.val * 4 + x.val) 0] = _
    rw [key]
  · rw [List.map_append, List.map_append, List.map_replicate, List.map_replicate]
    refine run_append_eq_some.mpr ⟨_, run_right across here, ?_⟩
    refine run_append_eq_some.mpr ⟨_, run_down along rfl, ?_⟩
    rw [reachedX, reachedY]
    exact run_tap (k := there) rfl rfl

theorem exists_typing_all {digits : List UInt8} (hex : ∀ c ∈ digits, isHexLower c = true)
    {st : State} {k : Keyboard} (here : st.keyboard = some k)
    (room : k.input.length + digits.length ≤ 8) :
    ∃ buttons : List Button, ∃ after : Keyboard, after.input = k.input ++ digits ∧
      run step st (buttons.map tap) = some { st with keyboard := some after } := by
  induction digits generalizing st k with
  | nil =>
      refine ⟨[], k, (List.append_nil _).symm, ?_⟩
      obtain ⟨service, keyboard⟩ := st
      cases here
      rfl
  | cons c digits ih =>
      rw [List.length_cons] at room
      obtain ⟨first, after, typed, taken⟩ := exists_typing here (by omega) (hex c List.mem_cons_self)
      have open_ : ({ st with keyboard := some after } : State).keyboard = some after := rfl
      obtain ⟨rest, last, all, later⟩ := ih (fun d member => hex d (List.mem_cons_of_mem c member))
        open_ (by rw [typed, List.length_append, List.length_singleton]; omega)
      refine ⟨first ++ rest, last, by rw [all, typed, List.append_assoc, List.singleton_append], ?_⟩
      rw [List.map_append]
      exact run_append_eq_some.mpr ⟨_, taken, later⟩

/-- Wherever the keyboard stands, some taps hand over any valid passphrase, change nothing
else and close it. -/
theorem passphrase_typable {st : State} {k : Keyboard} (here : st.keyboard = some k)
    {passphrase : List UInt8} (noNul : 0 ∉ passphrase)
    (valid : isValidPassphrase passphrase = true) :
    (st.setPassphrase passphrase).service.config.ldn.passphrase.bytes = passphrase ∧
      ∃ buttons : List Button, run step st (buttons.map tap) =
        some { st.setPassphrase passphrase with keyboard := none } := by
  have short := (length_le_of_valid noNul valid).trans (by decide : 16 ≤ 63)
  refine ⟨setPassphrase_bytes noNul short, ?_⟩
  rcases (isValidPassphrase_iff noNul).mp valid with rfl | ⟨digits, rfl, length, hex⟩
  · have cleared : ({ st with keyboard := some k.clear } : State).keyboard = some k.clear := rfl
    exact ⟨[.x, .plus], run_tap here (run_tap cleared rfl)⟩
  · have cleared : ({ st with keyboard := some k.clear } : State).keyboard = some k.clear := rfl
    have room : k.clear.input.length + digits.length ≤ 8 := by
      change 0 + digits.length ≤ 8
      omega
    obtain ⟨typing, after, typed, taken⟩ := exists_typing_all hex cleared room
    have saved : after.savePassphrase = some (leader ++ digits) := by
      have typed : after.input = digits := typed
      rw [Keyboard.savePassphrase, typed, length]
      rfl
    have typedIn : ({ st with keyboard := some after } : State).keyboard = some after := rfl
    have closed : run step { st with keyboard := some after } [tap .plus] =
        some { st.setPassphrase (leader ++ digits) with keyboard := none } := by
      refine run_tap typedIn ?_
      change run step (State.handle _ ⟨none, after.savePassphrase⟩ true) [] = _
      rw [saved]
      rfl
    refine ⟨.x :: (typing ++ [.plus]), run_tap here ?_⟩
    rw [List.map_append]
    exact run_append_eq_some.mpr ⟨_, taken, closed⟩

theorem passphrase_typable_fresh : ∃ buttons : List Button,
    run step ⟨(boot .done none).service, some (.opened none)⟩ (buttons.map tap) =
      some { (boot .done none).setPassphrase (ascii "Ryujinx-0123abcd") with keyboard := none } :=
  (@passphrase_typable ⟨(boot .done none).service, some (.opened none)⟩ _ rfl
    (ascii "Ryujinx-0123abcd") (by decide) (by decide)).2

end RyuLdn.PassphraseEntry
