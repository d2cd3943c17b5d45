/-
What can be wrong with a URL.

The causes are told apart as far as readers of a URL are told about them, and each has
one wording.
-/
namespace ProjectViews

namespace Url

/-- What can be wrong with a URL. -/
inductive Problem where
  | emptyHost
  | invalidName
  | invalidPort
  | invalidIpv4
  | invalidIpv6
  | invalidHostCharacter
  | relativeWithoutBase
  | relativeToOpaque
deriving DecidableEq, Repr, Inhabited

/-- A problem in words. -/
def Problem.message : Problem → String
  | emptyHost => "empty host"
  | invalidName => "invalid international domain name"
  | invalidPort => "invalid port number"
  | invalidIpv4 => "invalid IPv4 address"
  | invalidIpv6 => "invalid IPv6 address"
  | invalidHostCharacter => "invalid domain character"
  | relativeWithoutBase => "relative URL without a base"
  | relativeToOpaque => "relative URL with a cannot-be-a-base base"

end Url

end ProjectViews
