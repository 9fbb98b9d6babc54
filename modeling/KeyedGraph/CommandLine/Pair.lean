/-!
# Pairs on the command line

Properties and field values are given as `key=value`: the key ends at the first equals sign and
is not empty.
-/

namespace KeyedGraph

/-- Why a text is not a pair. -/
inductive PairError
  | missingEquals (text : String)
  | emptyKey (text : String)
deriving DecidableEq, Repr

/-- The wording of a pair's fault. -/
def PairError.message : PairError → String
  | .missingEquals text => "expected key=value, got '" ++ text ++ "'"
  | .emptyKey text => "empty key in '" ++ text ++ "'"

/-- Reads a pair. -/
def parsePair (s : String) : Except PairError (String × String) :=
  match s.toList.span (· != '=') with
  | (_, []) => .error (.missingEquals s)
  | ([], _) => .error (.emptyKey s)
  | (key, _ :: value) => .ok (String.ofList key, String.ofList value)

end KeyedGraph
