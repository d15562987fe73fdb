import LinkWarden.Link.Error
import LinkWarden.Text.Blank

/-!
# Credentials

What a link needs to be started: the name and passphrase of a wireless network, or the address and
login of a message broker. `check` finds the first fault.
-/

namespace LinkWarden

/-! ### Wireless networks -/

/-- The name and passphrase of a wireless network. -/
structure WifiCredentials where
  ssid : String := ""
  /-- The passphrase, empty for an open network. -/
  password : String := ""
  deriving DecidableEq, Repr

namespace WifiCredentials

/-- A network name has at most so many bytes. -/
def longestSsid : Nat := 32

/-- A passphrase has at least so many characters, if there is one. -/
def shortestPassphrase : Nat := 8

/-- A passphrase has at most so many characters. -/
def longestPassphrase : Nat := 63

/-- What can be wrong with the credentials of a network. -/
inductive Fault
  | emptySsid
  | longSsid (bytes : Nat)
  | passphraseLength (characters : Nat)
  deriving DecidableEq, Repr

def Fault.message : Fault → String
  | .emptySsid => "wifi ssid must not be empty"
  | .longSsid bytes =>
    "wifi ssid must be at most " ++ toString longestSsid ++ " bytes (got " ++ toString bytes ++ ")"
  | .passphraseLength characters =>
    "wifi password must be empty or " ++ toString shortestPassphrase ++ "..=" ++
      toString longestPassphrase ++ " characters (got " ++ toString characters ++ ")"

/-- The first fault of the credentials. The name is measured in bytes, the passphrase in
characters. -/
def fault? (w : WifiCredentials) : Option Fault :=
  let characters := w.password.length
  if w.ssid.isEmpty then some .emptySsid
  else if longestSsid < w.ssid.utf8ByteSize then some (.longSsid w.ssid.utf8ByteSize)
  else if characters ≠ 0 ∧ ¬ (shortestPassphrase ≤ characters ∧ characters ≤ longestPassphrase) then
    some (.passphraseLength characters)
  else none

/-- Whether a network can be joined with the credentials. -/
def check (w : WifiCredentials) : Except LinkError Unit :=
  match w.fault? with
  | some f => .error (.config f.message)
  | none => .ok ()

end WifiCredentials

/-! ### Message brokers -/

/-- The address and login of a message broker. -/
structure BrokerEndpoint where
  host : String := ""
  port : UInt16 := 1883
  username : Option String := none
  password : Option String := none
  clientId : Option String := none
  deriving DecidableEq, Repr

namespace BrokerEndpoint

/-- What can be wrong with an endpoint. -/
inductive Fault
  | emptyHost
  | zeroPort
  | passwordWithoutUsername
  deriving DecidableEq, Repr

def Fault.message : Fault → String
  | .emptyHost => "broker host must not be empty"
  | .zeroPort => "broker port must be > 0"
  | .passwordWithoutUsername => "broker password requires a username"

/-- The first fault of the endpoint. A host of blanks is empty. -/
def fault? (b : BrokerEndpoint) : Option Fault :=
  if Text.isBlankText b.host then some .emptyHost
  else if b.port = 0 then some .zeroPort
  else if b.password.isSome && b.username.isNone then some .passwordWithoutUsername
  else none

/-- Whether a session can be opened at the endpoint. -/
def check (b : BrokerEndpoint) : Except LinkError Unit :=
  match b.fault? with
  | some f => .error (.config f.message)
  | none => .ok ()

/-- The host and the port. -/
def address (b : BrokerEndpoint) : String := b.host ++ ":" ++ toString b.port.toNat

end BrokerEndpoint

end LinkWarden
