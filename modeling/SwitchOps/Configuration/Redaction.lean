import SwitchOps.Lib.Continuations

/-!
# Redacting a configuration

`redact_config`, the part of `config_parser.py` that keeps secrets out of previews and diffs: a dozen
expressions, one for every family of lines that hold a secret, are tried in turn on every line. They
all read the words of the family, then perhaps an encryption type, and take the next word for the
secret.
-/

namespace SwitchOps

open Regex

/-- A word at the beginning of a line that holds a secret. -/
inductive HeadWord
  | oneOf (keywords : List Text)
  /-- `\d+` -/
  | number
  /-- `\S+` -/
  | anyWord
  /-- `\S+.*?` -/
  | nameAndMore

/-- `.` -/
def dot : Regex := .chr (· != '\n')

def HeadWord.regex : HeadWord → Regex
  | .oneOf keywords => alts (keywords.map litIgnoringCase)
  | .number => plus digit
  | .anyWord => plus nonSpace
  | .nameAndMore => .seq (plus nonSpace) (.star false dot)

/-- The families of lines, in the order of `_FULL_LINE_SECRET_PATTERNS` and `_TOKEN_SECRET_PATTERNS`. -/
inductive SecretFamily
  | enable
  | username
  | password
  | serverKey
  | keyString
  | chapPassword
  | snmpCommunity
  | isakmpKey
  | ntpKey
  deriving DecidableEq, Repr

namespace SecretFamily

def secretOrPassword : List Text := ["secret", "password"]

/-- The words before the secret; `\s*` precedes them, and `\s+` stands between them. -/
def words : SecretFamily → List HeadWord
  | .enable => [.oneOf ["enable"], .oneOf secretOrPassword]
  | .username => [.oneOf ["username"], .nameAndMore, .oneOf secretOrPassword]
  | .password => [.oneOf ["password"]]
  | .serverKey => [.oneOf ["tacacs-server", "radius-server"], .oneOf ["key"]]
  | .keyString => [.oneOf ["key-string"]]
  | .chapPassword => [.oneOf ["ppp"], .oneOf ["chap"], .oneOf ["password"]]
  | .snmpCommunity => [.oneOf ["snmp-server"], .oneOf ["community"]]
  | .isakmpKey => [.oneOf ["crypto"], .oneOf ["isakmp"], .oneOf ["key"]]
  | .ntpKey => [.oneOf ["ntp"], .oneOf ["authentication-key"], .number, .anyWord]

/-- `(?:\s+\d+)?` stands before the secret. -/
def typed : SecretFamily → Bool
  | .snmpCommunity | .isakmpKey => false
  | _ => true

/-- The rest of the line is redacted with the secret. -/
def wholeLine : SecretFamily → Bool
  | .snmpCommunity | .isakmpKey | .ntpKey => false
  | _ => true

/-- What follows the secret: `.*`, `(.*)` or `(\s+address\s+.*)`. -/
def tail : SecretFamily → Regex
  | .isakmpKey => .group 2 (seqs [plus space, litIgnoringCase "address", plus space, .star true dot])
  | .snmpCommunity | .ntpKey => .group 2 (.star true dot)
  | _ => .star true dot

/-- `^(\s*<words>(?:\s+\d+)?\s+)\S+<tail>$` -/
def pattern (family : SecretFamily) : Regex :=
  seqs [textStart,
    .group 1 (seqs ([.star true space, seqs ((family.words.map HeadWord.regex).intersperse (plus space))] ++
      (if family.typed then [opt (seqs [plus space, plus digit])] else []) ++ [plus space])),
    plus nonSpace, family.tail, textEndOrNewline]

end SecretFamily

/-- `_FULL_LINE_SECRET_PATTERNS` -/
def fullLineSecretPatterns : List SecretFamily :=
  [.enable, .username, .password, .serverKey, .keyString, .chapPassword]

/-- `_TOKEN_SECRET_PATTERNS`; the replacement is `\1<redacted>\2` in each of them. -/
def tokenSecretPatterns : List SecretFamily := [.snmpCommunity, .isakmpKey, .ntpKey]

def redactLine (line : Text) : Text :=
  match fullLineSecretPatterns.findSome? fun family => matchStart family.pattern line with
  | some found => (found.group 1).getD [] ++ "<redacted>"
  | none =>
    match tokenSecretPatterns.findSome? fun family => matchStart family.pattern line with
    | some found => (found.group 1).getD [] ++ "<redacted>" ++ (found.group 2).getD [] ++ found.rest
    | none => line

/-- `redact_config` -/
def redactConfig (text : Text) : Text := Text.join "\n" (text.splitlines.map redactLine)

end SwitchOps
