import KeyedGraph.Bolt.ServerName

/-!
# Addresses of servers

A connection URL names a server by its authority: what stands between the two slashes behind the
scheme and the next slash, question mark or number sign. An authority is a host and perhaps the
number of a service, behind an optional user and an at sign. A host is a name, or an address
between brackets. Without a host the address is left to the scheme.
-/

namespace KeyedGraph.Bolt

/-- Splits a list at the first character of a class, which it keeps in front of the second
part. -/
def spanUntil (stop : Char → Bool) (cs : List Char) : List Char × List Char :=
  (cs.takeWhile fun c => !stop c, cs.dropWhile fun c => !stop c)

/-- The text of a URL behind its scheme. Tabs and line ends in a URL do not count, nor do blanks
and controls at its end. -/
def behindScheme (url : String) : List Char :=
  let cs := url.toList.filter fun c => c != '\t' && c != '\n' && c != '\r'
  let cs := (cs.reverse.dropWhile fun c => c.toNat ≤ 0x20).reverse
  (cs.dropWhile (· != ':')).drop 3

/-- Whether a URL's scheme asks for encryption. -/
def isEncrypted (url : String) : Bool :=
  (url.toList.takeWhile (· != ':')).contains '+'

/-- Splits an authority at its last at sign, in front of which the user stands. -/
def splitUser (authority : List Char) : Option (List Char) × List Char :=
  match authority.reverse.span (· != '@') with
  | (behind, _ :: user) => (some user.reverse, behind.reverse)
  | (behind, []) => (none, behind.reverse)

/-- Whether a user says nothing, so that it counts as none. -/
def isVoidUser (user : List Char) : Bool :=
  user = [] || user = [':']

/-! ### Hosts -/

/-- Whether a character cannot stand in a host's name. -/
def isForbidden (c : Char) : Bool :=
  ['\x00', '\t', '\n', '\r', ' ', '#', '/', ':', '<', '>', '?', '@', '[', '\\', ']', '^',
    '|'].contains c

/-- Whether a character is a hexadecimal digit. -/
def isHexDigit (c : Char) : Bool :=
  c.isDigit || ('a' ≤ c && c ≤ 'f') || ('A' ≤ c && c ≤ 'F')

/-- Whether a text is one group of an address between brackets. -/
def isGroup (s : String) : Bool :=
  !s.isEmpty && s.length ≤ 4 && s.toList.all isHexDigit

/-- How many groups these parts make up, if they are groups; only the last of all may be a dotted
address, which counts as two. -/
def groupCount (last : Bool) : List String → Option Nat
  | [] => some 0
  | [s] => if isGroup s then some 1 else if last && isDotted s then some 2 else none
  | s :: rest => if isGroup s then (groupCount last rest).map (· + 1) else none

/-- The groups between the colons of a text. -/
def groupsOf (s : String) : List String :=
  if s.isEmpty then [] else s.splitOn ":"

/-- Whether a text is an address of eight groups, of which a double colon stands for one or
more. -/
def isGrouped (s : String) : Bool :=
  match s.splitOn "::" with
  | [whole] => groupCount true (groupsOf whole) = some 8
  | [before, behind] =>
    match groupCount false (groupsOf before), groupCount true (groupsOf behind) with
    | some m, some n => m + n ≤ 7
    | _, _ => false
  | _ => false

/-- Whether a text is a host. -/
def isHost (cs : List Char) : Bool :=
  match cs with
  | '[' :: rest => rest.getLast? = some ']' && isGrouped (String.ofList rest.dropLast)
  | _ => !cs.any isForbidden

/-- Whether what follows a host is the number of a service, or nothing. A backslash ends the
number like the slash that ends an authority. -/
def isService : List Char → Bool
  | [] => true
  | ':' :: rest =>
    let (digits, behind) := spanUntil (fun c => !c.isDigit) rest
    (behind = [] || behind.head? = some '\\') &&
      (digits.isEmpty || ((String.ofList digits).toNat?.getD 65536) < 65536)
  | _ => false

/-- Splits a host from the number of its service. A colon between brackets belongs to the
host. -/
def splitService : List Char → List Char × List Char
  | '[' :: rest =>
    let (inside, behind) := spanUntil (· == ']') rest
    let (more, service) := spanUntil (· == ':') behind
    ('[' :: inside ++ more, service)
  | cs => spanUntil (· == ':') cs

/-- Whether an authority without a host can be left to the scheme: it names neither a service nor
a user, and a lone at sign stands at the end of the URL. -/
def isVoidAuthority (user : Option (List Char)) (service behind : List Char) : Bool :=
  service.isEmpty &&
    match user with
    | none => true
    | some user => isVoidUser user && (!user.isEmpty || behind.isEmpty)

/-- Whether a connection URL can be read as the address of a server. For an encrypted connection
the host has to be an address or a name that a certificate can be made out to. -/
def isServerUrl (url : String) : Bool :=
  let (authority, behind) := spanUntil (['/', '?', '#'].contains ·) (behindScheme url)
  let (user, rest) := splitUser authority
  let (host, service) := splitService rest
  if host.isEmpty then isVoidAuthority user service behind
  else
    isHost host && isService service &&
      (!isEncrypted url || host.head? = some '[' || isServerName (String.ofList host))

end KeyedGraph.Bolt
