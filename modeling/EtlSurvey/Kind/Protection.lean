import EtlSurvey.Json.Record
import EtlSurvey.Text.Basic

/-! How much of a package is encrypted. -/

namespace EtlSurvey
open Text Json

inductive ProtectionLevel where
  | dontSaveSensitive
  | encryptSensitiveWithUserKey
  | encryptSensitiveWithPassword
  | encryptAllWithPassword
  | encryptAllWithUserKey
  deriving DecidableEq, Repr, Inhabited

namespace ProtectionLevel

def all : List ProtectionLevel := [dontSaveSensitive, encryptSensitiveWithUserKey,
  encryptSensitiveWithPassword, encryptAllWithPassword, encryptAllWithUserKey]

def name : ProtectionLevel → String
  | dontSaveSensitive => "DontSaveSensitive"
  | encryptSensitiveWithUserKey => "EncryptSensitiveWithUserKey"
  | encryptSensitiveWithPassword => "EncryptSensitiveWithPassword"
  | encryptAllWithPassword => "EncryptAllWithPassword"
  | encryptAllWithUserKey => "EncryptAllWithUserKey"

def ofName? (s : String) : Option ProtectionLevel := all.find? (·.name == s)

/-- Reads a name of any case or a code from 0 to 4. -/
def parse? (raw : String) : Option ProtectionLevel :=
  match asciiLower (trim raw) with
  | "0" | "dontsavesensitive" => some dontSaveSensitive
  | "1" | "encryptsensitivewithuserkey" => some encryptSensitiveWithUserKey
  | "2" | "encryptsensitivewithpassword" => some encryptSensitiveWithPassword
  | "3" | "encryptallwithpassword" => some encryptAllWithPassword
  | "4" | "encryptallwithuserkey" => some encryptAllWithUserKey
  | _ => none

/-- The whole document is encrypted. -/
def isFullyEncrypted : ProtectionLevel → Bool
  | encryptAllWithPassword | encryptAllWithUserKey => true
  | _ => false

def toJson (level : ProtectionLevel) : Value := .text level.name

def ofJson? : Value → Option ProtectionLevel := caseOf? (all.map fun level => (level.name, level))

end ProtectionLevel
end EtlSurvey
