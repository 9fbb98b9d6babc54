/-!
# Names of servers

An encrypted connection asks the server for a certificate, which is made out to a domain name or
to a dotted address. A domain name consists of labels between dots, and a dot may stand at its
end.
-/

namespace KeyedGraph.Bolt

/-! ### Dotted addresses -/

/-- Whether a text is one of the four numbers of a dotted address. -/
def isOctet (s : String) : Bool :=
  !s.isEmpty && s.length ≤ 3 && s.toList.all Char.isDigit && (s = "0" || !s.startsWith "0") &&
    (s.toNat?.getD 256) < 256

/-- Whether a text is a dotted address. -/
def isDotted (s : String) : Bool :=
  let parts := s.splitOn "."
  parts.length = 4 && parts.all isOctet

/-! ### Domain names -/

/-- The largest length of a label. -/
def maxNamePart : Nat := 63

/-- The largest length of a domain name. -/
def maxDomainName : Nat := 253

/-- Whether a text is a label: letters, digits, underscores and hyphens, with no hyphen at either
end. -/
def isNamePart (s : String) : Bool :=
  let cs := s.toList
  !cs.isEmpty && cs.length ≤ maxNamePart &&
    (cs.all fun c => c.isAlphanum || c == '-' || c == '_') &&
    cs.head? != some '-' && cs.getLast? != some '-'

/-- Whether these are the labels of a domain name, the last one first. The last one is no
number. -/
def areNameParts : List String → Bool
  | [] => false
  | last :: before =>
    isNamePart last && before.all isNamePart && !last.toList.all Char.isDigit

/-- Whether a text is a domain name. -/
def isDomainName (s : String) : Bool :=
  s.utf8ByteSize ≤ maxDomainName &&
    match (s.splitOn ".").reverse with
    | "" :: parts => areNameParts parts
    | parts => areNameParts parts

/-- Whether a certificate can be made out to a name. -/
def isServerName (s : String) : Bool :=
  isDomainName s || isDotted s

end KeyedGraph.Bolt
