/-! Why a text is no absolute URL. -/
namespace Unscramble.Url

inductive Fault where
  | noScheme | emptyHost | invalidPort | invalidIpv4 | invalidIpv6 | invalidDomain | invalidHostCharacter
  | tooLong
  deriving DecidableEq, Repr

def Fault.message : Fault → String
  | noScheme => "relative URL without a base"
  | emptyHost => "empty host"
  | invalidPort => "invalid port number"
  | invalidIpv4 => "invalid IPv4 address"
  | invalidIpv6 => "invalid IPv6 address"
  | invalidDomain => "invalid international domain name"
  | invalidHostCharacter => "invalid domain character"
  | tooLong => "URLs more than 4 GB are not supported"

end Unscramble.Url
